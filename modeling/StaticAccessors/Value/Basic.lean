import StaticAccessors.Decimal.Shortest
import StaticAccessors.Table

/-!
# Values

Manifests, settings and template contexts are documents of one dynamic type. The fields of an object
are a table, which keeps them in the order of their first insertion.

## Contents
- `Value` and its truth.
- `Fields`: the fields of an object.
- `Value.elements?`: what a loop over a value visits.
- `Value.whole?` and `Value.below?`: values as numbers.
-/

namespace StaticAccessors

open Decimal (Binary twoTo)

/-- A document: a scalar, a list or an object. -/
inductive Value
  | null
  | bool (b : Bool)
  | int (n : Int)
  | float (x : Float)
  | text (s : String)
  | list (items : List Value)
  | object (fields : List (String × Value))
deriving Inhabited

/-- Fields of an object, in order of first insertion. -/
abbrev Fields := Table String Value

namespace Value

/-- Emptiness and zero are false, and so are `null` and `false`; everything else is true. -/
def truthy : Value → Bool
  | null      => false
  | bool b    => b
  | int n     => n ≠ 0
  | float x   =>
    match Binary.ofFloat x with
    | .finite _ mantissa _ => mantissa ≠ 0
    | _ => true
  | text s    => s ≠ ""
  | list xs   => !xs.isEmpty
  | object fs => !fs.isEmpty

/-- The value, unless it is false; then the other one. -/
def orElse (v other : Value) : Value := if v.truthy then v else other

/-- A field of an object; other values have none. -/
def get? (v : Value) (key : String) : Option Value :=
  match v with
  | object fields => Table.get? fields key
  | _ => none

/-- What a loop over the value visits: the elements of a list, the characters of a text, the keys
of an object. Other values cannot be looped over. -/
def elements? : Value → Option (List Value)
  | list xs   => some xs
  | text s    => some (s.toList.map fun c => text (String.singleton c))
  | object fs => some (fs.map fun f => text f.1)
  | _         => none

/-- The text of a text value. -/
def text? : Value → Option String
  | text s => some s
  | _ => none

/-- A whole number; truth values count as one and zero. -/
def whole? : Value → Option Int
  | int n => some n
  | bool b => some (if b then 1 else 0)
  | _ => none

/-- Whether a number lies below a whole one; other values do not compare. -/
def below? (v : Value) (bound : Int) : Option Bool :=
  match v with
  | int n => some (n < bound)
  | bool b => some ((if b then (1 : Int) else 0) < bound)
  | float x =>
    match Binary.ofFloat x with
    | .nan => some false
    | .infinite negative => some negative
    | .finite negative mantissa exponent =>
      let signed : Int := if negative then -(mantissa : Int) else mantissa
      some (signed * twoTo exponent.toNat < bound * twoTo (-exponent).toNat)
  | _ => none

end Value

end StaticAccessors
