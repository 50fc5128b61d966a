import StaticAccessors.Text.Alphanumeric
import StaticAccessors.Text.DecimalDigit

/-!
# Names in templates

A name is made of letters, decimal digits and underscores and does not start with a digit. Numerals of
other kinds, such as fractions and circled digits, are read as a part of a name and then refused.

## Contents
- `isNameChar`: the characters that are read as a part of a name.
- `isMalformedName`: whether such characters make no name.
-/

namespace StaticAccessors.Template

open Text (CodeRanges isAlphanumeric isDecimalDigit)

/-- Numerals and letters that are in no name. -/
def foreignTable : CodeRanges := [
  (0x00b2, 0x00b3), (0x00b9, 0x00b9), (0x00bc, 0x00be), (0x037a, 0x037a), (0x09f4, 0x09f9),
  (0x0b72, 0x0b77), (0x0bf0, 0x0bf2), (0x0c78, 0x0c7e), (0x0d58, 0x0d5e), (0x0d70, 0x0d78),
  (0x0f2a, 0x0f33), (0x1372, 0x137c), (0x17f0, 0x17f9), (0x2070, 0x2070), (0x2074, 0x2079),
  (0x2080, 0x2089), (0x2150, 0x215f), (0x2189, 0x2189), (0x2460, 0x249b), (0x24ea, 0x24ff),
  (0x2776, 0x2793), (0x2cfd, 0x2cfd), (0x2e2f, 0x2e2f), (0x3192, 0x3195), (0x3220, 0x3229),
  (0x3248, 0x324f), (0x3251, 0x325f), (0x3280, 0x3289), (0x32b1, 0x32bf), (0xa830, 0xa835),
  (0xfc5e, 0xfc63), (0xfdfa, 0xfdfb), (0xfe70, 0xfe70), (0xfe72, 0xfe72), (0xfe74, 0xfe74),
  (0xfe76, 0xfe76), (0xfe78, 0xfe78), (0xfe7a, 0xfe7a), (0xfe7c, 0xfe7c), (0xfe7e, 0xfe7e),
  (0x10107, 0x10133), (0x10175, 0x10178), (0x1018a, 0x1018b), (0x102e1, 0x102fb), (0x10320, 0x10323),
  (0x10858, 0x1085f), (0x10879, 0x1087f), (0x108a7, 0x108af), (0x108fb, 0x108ff), (0x10916, 0x1091b),
  (0x109bc, 0x109bd), (0x109c0, 0x109cf), (0x109d2, 0x109ff), (0x10a40, 0x10a48), (0x10a7d, 0x10a7e),
  (0x10a9d, 0x10a9f), (0x10aeb, 0x10aef), (0x10b58, 0x10b5f), (0x10b78, 0x10b7f), (0x10ba9, 0x10baf),
  (0x10cfa, 0x10cff), (0x10e60, 0x10e7e), (0x10f1d, 0x10f26), (0x10f51, 0x10f54), (0x10fc5, 0x10fcb),
  (0x11052, 0x11065), (0x111e1, 0x111f4), (0x1173a, 0x1173b), (0x118ea, 0x118f2), (0x11c5a, 0x11c6c),
  (0x11fc0, 0x11fd4), (0x16b5b, 0x16b61), (0x16e80, 0x16e96), (0x1d2e0, 0x1d2f3), (0x1d360, 0x1d378),
  (0x1e8c7, 0x1e8cf), (0x1ec71, 0x1ecab), (0x1ecad, 0x1ecaf), (0x1ecb1, 0x1ecb4), (0x1ed01, 0x1ed2d),
  (0x1ed2f, 0x1ed3d), (0x1f100, 0x1f10c)]

/-- Characters besides the decimal digits with which no name starts. -/
def followerTable : CodeRanges := [
  (0x0e33, 0x0e33), (0x0eb3, 0x0eb3), (0x1369, 0x1371), (0x19da, 0x19da), (0xff9e, 0xff9f)]

/-- The characters that are read as a part of a name. -/
def isNameChar (c : Char) : Bool := isAlphanumeric c || c = '_'

/-- The characters of names. -/
def isInName (c : Char) : Bool := isNameChar c && !foreignTable.contains c.toNat

/-- The characters with which names start. -/
def startsName (c : Char) : Bool :=
  isInName c && !isDecimalDigit c && !followerTable.contains c.toNat

/-- Whether a word starts like a name and is none. -/
def isMalformedName (word : String) : Bool :=
  match word.toList with
  | [] => false
  | c :: rest => isNameChar c && !(startsName c && rest.all isInName)

example : isMalformedName "x1" = false ∧ isMalformedName "x½" = true ∧ isMalformedName "1x" = true := by
  decide +kernel

end StaticAccessors.Template
