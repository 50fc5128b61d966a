import StaticAccessors.Value.Basic

/-!
# Equality of values

Numbers are equal when they denote the same number, whatever their kind: `1`, `1.0` and `true` are
one key of a table. A scalar is compared through its `Key`, in which equal scalars have equal
representations; lists are compared place by place and objects key by key, in any order. Lists and
objects have no key: they cannot be looked up in a table nor belong to a set.
-/

namespace StaticAccessors

open Decimal (Binary twoTo)

/-- A scalar up to equality. -/
inductive Key
  | null
  | whole (n : Int)
  /-- a number that is not whole -/
  | fraction (negative : Bool) (mantissa : Nat) (exponent : Int)
  | infinite (negative : Bool)
  | nan
  | text (s : String)
deriving Repr, DecidableEq

namespace Key

/-- A magnitude with its sign. -/
def signed (negative : Bool) (n : Nat) : Int := if negative then -(n : Int) else n

/-- A double, as a whole number if it is one. -/
def ofBinary : Binary → Key
  | .nan => .nan
  | .infinite negative => .infinite negative
  | .finite negative mantissa exponent =>
    if 0 ≤ exponent then .whole (signed negative (mantissa * twoTo exponent.toNat))
    else
      let unit := twoTo (-exponent).toNat
      if mantissa % unit = 0 then .whole (signed negative (mantissa / unit))
      else .fraction negative mantissa exponent

end Key

namespace Value

/-- The key of a scalar. -/
def key? : Value → Option Key
  | null     => some .null
  | bool b   => some (.whole (if b then 1 else 0))
  | int n    => some (.whole n)
  | float x  => some (Key.ofBinary (Binary.ofFloat x))
  | text s   => some (.text s)
  | list _   => none
  | object _ => none

mutual
/-- Equality, under which a value that is not a number equals itself. -/
def same : Value → Value → Bool
  | list xs, list ys => sameList xs ys
  | object fs, object gs => fs.length == gs.length && sameFields fs gs
  | list _, _ => false
  | object _, _ => false
  | null, w => w.key? == some .null
  | bool b, w => w.key? == some (.whole (if b then 1 else 0))
  | int n, w => w.key? == some (.whole n)
  | float x, w => w.key? == some (Key.ofBinary (Binary.ofFloat x))
  | text s, w => w.key? == some (.text s)

/-- Equality place by place. -/
def sameList : List Value → List Value → Bool
  | [], [] => true
  | x :: xs, y :: ys => same x y && sameList xs ys
  | _, _ => false

/-- Every field of the first is a field of the second. -/
def sameFields : List (String × Value) → List (String × Value) → Bool
  | [], _ => true
  | (k, v) :: fs, gs =>
    (match Table.get? gs k with
      | some w => same v w
      | none => false) && sameFields fs gs
end

/-- Equality as a comparison decides it: nothing equals what is not a number. -/
def equal (v w : Value) : Bool := same v w && v.key? ≠ some .nan

/-- On scalars, sameness is having one key. -/
theorem same_eq_of_key {v w : Value} {k : Key} (h : v.key? = some k) :
    v.same w = (w.key? == some k) := by
  cases v <;> simp_all [key?, same]

end Value

end StaticAccessors
