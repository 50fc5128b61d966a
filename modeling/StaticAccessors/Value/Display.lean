import StaticAccessors.Value.Basic
import StaticAccessors.Text.Printable

/-!
# The text of a value

`display` is the text under which a value appears inside a generated line or a message, `quoted` the
text under which it appears inside a list or an object. They differ on texts alone: a quoted text
stands between quotes and shows everything that is not printable as a numbered escape.

## Contents
- `quote`: a text between quotes.
- `floatText`: the fewest digits that read back, positional from `1e-4` to below `1e16`.
- `Value.display`, `Value.quoted`.
-/

namespace StaticAccessors

open Text Decimal

/-! ## Texts -/

/-- Lower-case hexadecimal with leading zeros to the given width. -/
def hexText (width n : Nat) : List Char :=
  let digits := Nat.toDigits 16 n
  List.replicate (width - digits.length) '0' ++ digits

/-- One character inside a text quoted by `q`. -/
def quoteChar (q c : Char) : List Char :=
  if c = q || c = '\\' then ['\\', c]
  else if c = '\t' then ['\\', 't']
  else if c = '\n' then ['\\', 'n']
  else if c = '\r' then ['\\', 'r']
  else if isPrintable c then [c]
  else if c.toNat < 0x100 then '\\' :: 'x' :: hexText 2 c.toNat
  else if c.toNat < 0x10000 then '\\' :: 'u' :: hexText 4 c.toNat
  else '\\' :: 'U' :: hexText 8 c.toNat

/-- The quote a text stands between: the single one, unless the text has single quotes only. -/
def quoteMark (s : String) : Char :=
  if s.toList.contains '\'' && !s.toList.contains '"' then '"' else '\''

/-- The text between quotes. -/
def quote (s : String) : String :=
  let q := quoteMark s
  String.ofList (q :: s.toList.flatMap (quoteChar q) ++ [q])

/-! ## Numbers -/

/-- The digits with their point: positional while the leading digit stands at most four places
behind the point and at most sixteen before it, else with an exponent of two digits or more. -/
def pointed (d : Digits) : List Char :=
  let count : Int := d.digits.length
  if -4 < d.point && d.point ≤ 16 then
    if d.point ≤ 0 then '0' :: '.' :: List.replicate (-d.point).toNat '0' ++ d.digits
    else if count ≤ d.point then d.digits ++ List.replicate (d.point - count).toNat '0' ++ ['.', '0']
    else d.digits.take d.point.toNat ++ '.' :: d.digits.drop d.point.toNat
  else
    let exponent := d.point - 1
    let digits := digitsOf exponent.natAbs
    let tail := d.digits.drop 1
    d.digits.take 1 ++ (if tail.isEmpty then [] else '.' :: tail) ++
      ['e', if exponent < 0 then '-' else '+'] ++ List.replicate (2 - digits.length) '0' ++ digits

/-- The fewest digits that read back as this double. -/
def floatText (x : Float) : String :=
  match Binary.ofFloat x with
  | .nan => "nan"
  | .infinite negative => if negative then "-inf" else "inf"
  | .finite negative mantissa exponent =>
    let digits := if mantissa = 0 then ⟨['0'], 1⟩ else shortest mantissa exponent
    String.ofList ((if negative then ['-'] else []) ++ pointed digits)

/-! ## Values -/

namespace Value

mutual
/-- The text of a value inside a list or an object. -/
def quoted : Value → String
  | null      => "None"
  | bool b    => if b then "True" else "False"
  | int n     => toString n
  | float x   => floatText x
  | text s    => quote s
  | list xs   => "[" ++ quotedList xs ++ "]"
  | object fs => "\x7b" ++ quotedFields fs ++ "\x7d"

/-- Elements with commas between them. -/
def quotedList : List Value → String
  | [] => ""
  | [x] => quoted x
  | x :: y :: rest => quoted x ++ ", " ++ quotedList (y :: rest)

/-- Fields with commas between them. -/
def quotedFields : List (String × Value) → String
  | [] => ""
  | [(k, v)] => quote k ++ ": " ++ quoted v
  | (k, v) :: f :: rest => quote k ++ ": " ++ quoted v ++ ", " ++ quotedFields (f :: rest)
end

/-- The text of a value on its own: a text as it is, anything else as inside a list. -/
def display : Value → String
  | text s => s
  | v => v.quoted

@[simp] theorem display_text (s : String) : display (text s) = s := rfl

/-- The name of the kind of a value, as messages give it. -/
def kindName : Value → String
  | null     => "NoneType"
  | bool _   => "bool"
  | int _    => "int"
  | float _  => "float"
  | text _   => "str"
  | list _   => "list"
  | object _ => "dict"

end Value

example : (Value.list [.int 1, .text "a", .null]).display = "[1, 'a', None]" := by decide +kernel

example : quote "it's" = "\"it's\"" ∧ quote "\n\x01" = "'\\n\\x01'" := by decide +kernel

end StaticAccessors
