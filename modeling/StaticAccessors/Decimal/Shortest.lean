/-!
# The shortest decimal that names a double

A finite double stands for every real number that rounds to it. `shortest?` finds, among the
decimals in that interval, one with the fewest digits, and of those the nearest to the double. All
of it is exact arithmetic on natural numbers: the double is decoded to `mantissa * 2 ^ exponent`,
and for each number of digits the two neighbours of the value on the decimal grid are tested.

## Contents
- `twoTo`, `tenTo`: powers.
- `Binary`: a decoded double, and `Binary.ofFloat`.
- `shortest`: digits and position of the point.
- `ofDecimal`: the double nearest to a decimal.
-/

namespace StaticAccessors.Decimal

/-- A power of two. -/
def twoTo (n : Nat) : Nat := Nat.pow 2 n

/-- A power of ten. -/
def tenTo (n : Nat) : Nat := Nat.pow 10 n

/-- A double, taken apart. -/
inductive Binary
  /-- not a number -/
  | nan
  /-- one of the two infinities -/
  | infinite (negative : Bool)
  /-- `mantissa * 2 ^ exponent`, with a sign of its own so that zero keeps it -/
  | finite (negative : Bool) (mantissa : Nat) (exponent : Int)
deriving Repr, DecidableEq

/-- Decodes the sign bit, the eleven bits of the exponent and the fifty-two of the fraction. -/
def Binary.ofFloat (x : Float) : Binary :=
  let bits : Nat := x.toBits.toNat
  let negative := bits / twoTo 63 == 1
  let scale := bits / twoTo 52 % twoTo 11
  let fraction := bits % twoTo 52
  if scale = 2047 then
    if fraction = 0 then .infinite negative else .nan
  else if scale = 0 then .finite negative fraction (-1074)
  else .finite negative (twoTo 52 + fraction) (Int.ofNat scale - 1075)

/-- Digits of a decimal together with the place of its point: `0.d₁d₂… * 10 ^ point`. -/
structure Digits where
  digits : List Char
  point : Int
deriving Repr, DecidableEq

/-- The decimal digits of a natural number. -/
def digitsOf (n : Nat) : List Char := Nat.toDigits 10 n

/-- The exponent of the leading digit of `num / den`, both positive. -/
def leadingExponent (num den : Nat) : Int :=
  let places : Int := (digitsOf num).length - (digitsOf den).length
  if num * tenTo (-places).toNat ≥ den * tenTo places.toNat then places else places - 1

/-- The grid `10 ^ place` as a numerator and a denominator. -/
def gridUnit (place : Int) : Nat × Nat := (tenTo place.toNat, tenTo (-place).toNat)

/-- The end points of a rounding interval, over one denominator; `closed` when they belong to it. -/
structure Interval where
  low : Nat
  value : Nat
  high : Nat
  den : Nat
  closed : Bool
deriving Repr, DecidableEq

/-- Whether `count * 10 ^ place` lies in the interval. -/
def Interval.holds (i : Interval) (place : Int) (count : Nat) : Bool :=
  let (up, down) := gridUnit place
  let here := count * up * i.den
  if i.closed then i.low * down ≤ here && here ≤ i.high * down
  else i.low * down < here && here < i.high * down

/-- The reals that round to `mantissa * 2 ^ exponent`. Below a power of two the doubles lie twice as
dense, so the interval reaches only half as far down there. -/
def Interval.around (mantissa : Nat) (exponent : Int) : Interval :=
  let low := if mantissa = twoTo 52 && exponent > -1074 then 4 * mantissa - 1 else 4 * mantissa - 2
  let up := twoTo (exponent - 2).toNat
  ⟨low * up, 4 * mantissa * up, (4 * mantissa + 2) * up, twoTo (2 - exponent).toNat, mantissa % 2 == 0⟩

/-- The neighbour of the value on the grid that lies in the interval; of two the nearer, and of two
equally near the even one. -/
def Interval.neighbour? (i : Interval) (place : Int) : Option Nat :=
  let (up, down) := gridUnit place
  let below := i.value * down / (up * i.den)
  let above := below + 1
  match i.holds place below && below != 0, i.holds place above with
  | true, true =>
    let toBelow := i.value * down - below * up * i.den
    let toAbove := above * up * i.den - i.value * down
    some (if toBelow < toAbove || (toBelow = toAbove && below % 2 = 0) then below else above)
  | true, false => some below
  | false, true => some above
  | false, false => none

/-- Tries grids of rising fineness, from `count` digits on. -/
def Interval.search (i : Interval) (leading : Int) : Nat → Nat → Option (Nat × Int)
  | 0, _ => none
  | fuel + 1, count =>
    let place := leading - count + 1
    match i.neighbour? place with
    | some n => some (n, place)
    | none => i.search leading fuel (count + 1)

/-- The shortest digits of a positive double. Seventeen always suffice. -/
def shortest (mantissa : Nat) (exponent : Int) : Digits :=
  let i := Interval.around mantissa exponent
  match i.search (leadingExponent i.value i.den) 17 1 with
  | some (n, place) =>
    let digits := digitsOf n
    ⟨(digits.reverse.dropWhile (· = '0')).reverse, place + digits.length⟩
  | none => ⟨['0'], 1⟩

/-- The double nearest to `mantissa * 10 ^ exponent`. Exponents far outside the range of doubles are
settled by counting digits. -/
def ofDecimal (negative : Bool) (mantissa : Nat) (exponent : Int) : Float :=
  let magnitude : Int := (digitsOf mantissa).length + exponent
  let x : Float :=
    if mantissa = 0 || magnitude < -330 then Float.ofBits 0
    else if magnitude > 310 then Float.ofBits 0x7ff0000000000000
    else Float.ofScientific mantissa (exponent < 0) exponent.natAbs
  if negative then -x else x

example : shortest 3 (-1) = ⟨['1', '5'], 1⟩ := by decide +kernel

end StaticAccessors.Decimal
