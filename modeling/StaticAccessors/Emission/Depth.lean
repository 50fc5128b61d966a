import StaticAccessors.Emission.Basic

/-!
# Depths given as values

A depth that comes from outside may be any value. Whole numbers are depths, and truth values count as
one and zero. Of every other number it can at most be told that it is too small, and what is no
number cannot be compared at all. A depth that is too small is named as it was given.

## Contents
- `Depth.atLeast`: a value as a depth that is not below a bound.
- `Depth.toWrite`, `Depth.toClose`, `Depth.toEndBlock`: the bounds that there are.
-/

namespace StaticAccessors.Depth

/-- The depth that a value stands for, if it does not lie below a bound. -/
def atLeast (bound : Int) (tooSmall : Fault) (v : Value) : Except Fault Int :=
  match v.below? bound, v.whole? with
  | some true, _ => .error tooSmall
  | some false, some depth => .ok depth
  | _, _ => .error .wrongType

/-- A depth at which a line can be written. -/
def toWrite (v : Value) : Except Fault Int := atLeast 0 (.negativeDepth v) v

/-- A depth from which a number of levels can be closed. -/
def toClose (levels : Nat) (v : Value) : Except Fault Int :=
  atLeast levels (.scope (.closesTooMuch levels v)) v

/-- A depth inside a block. -/
def toEndBlock (v : Value) : Except Fault Int := atLeast 1 (.scope .belowZero) v

end StaticAccessors.Depth
