import StaticAccessors.Proofs.Identifier.Characters

/-!
# Categories of characters

The general categories of version 14 of the Unicode character database that matter to identifiers, as far as
those tell them apart: the five categories of letters and the letter-like numerals count as one, and so do the two
of combining marks. They say what a name is cut into: its words are made of letters, decimal digits and all
other numbers (`isAlphanumeric_iff`). And they say what a change of case does: a letter becomes a letter, possibly with
marks behind it, while numerals have no case at all (`mapCase_of_letter`, `mapCase_of_numeral`).

## Contents
- `Category`, `spans`, `category?`.
- `ascending`, with `contains_iff` and `spanAt?_eq_some_iff`: look-ups in ascending tables.
- `joined`, and `isAlphanumeric_iff`; `isDigit_of_category`.
- `keepsLetters` and `mapCase_of_letter`, `sparesNumerals` and `mapCase_of_numeral`.
-/

namespace StaticAccessors.Text

/-! ## Categories -/

/-- What a character is, if it is of any use to identifiers or to numbers. -/
inductive Category
  /-- a letter of any script and case, or a numeral that is one -/
  | letter
  /-- a combining mark -/
  | mark
  /-- a decimal digit -/
  | digit
  /-- a number that is neither: a fraction, a superscript, a number in a circle -/
  | number
  /-- a character that connects words, such as the underscore -/
  | connector
  /-- an invisible character that directs how others are shown -/
  | format
deriving Repr, DecidableEq

/-- The code points from `low` to `high`, which are all of one category. -/
structure Span where
  low : Nat
  high : Nat
  category : Category
deriving Repr, DecidableEq

/-- The range of a span. -/
def Span.range (e : Span) : Nat × Nat := (e.low, e.high)

open Category

/-- The spans from U+0030 to U+0BF2. -/
def spans1 : List Span := [
  ⟨0x0030, 0x0039, digit⟩, ⟨0x0041, 0x005a, letter⟩, ⟨0x005f, 0x005f, connector⟩, ⟨0x0061, 0x007a, letter⟩,
  ⟨0x00aa, 0x00aa, letter⟩, ⟨0x00ad, 0x00ad, format⟩, ⟨0x00b2, 0x00b3, number⟩, ⟨0x00b5, 0x00b5, letter⟩,
  ⟨0x00b9, 0x00b9, number⟩, ⟨0x00ba, 0x00ba, letter⟩, ⟨0x00bc, 0x00be, number⟩, ⟨0x00c0, 0x00d6, letter⟩,
  ⟨0x00d8, 0x00f6, letter⟩, ⟨0x00f8, 0x02c1, letter⟩, ⟨0x02c6, 0x02d1, letter⟩, ⟨0x02e0, 0x02e4, letter⟩,
  ⟨0x02ec, 0x02ec, letter⟩, ⟨0x02ee, 0x02ee, letter⟩, ⟨0x0300, 0x036f, mark⟩, ⟨0x0370, 0x0374, letter⟩,
  ⟨0x0376, 0x0377, letter⟩, ⟨0x037a, 0x037d, letter⟩, ⟨0x037f, 0x037f, letter⟩, ⟨0x0386, 0x0386, letter⟩,
  ⟨0x0388, 0x038a, letter⟩, ⟨0x038c, 0x038c, letter⟩, ⟨0x038e, 0x03a1, letter⟩, ⟨0x03a3, 0x03f5, letter⟩,
  ⟨0x03f7, 0x0481, letter⟩, ⟨0x0483, 0x0487, mark⟩, ⟨0x048a, 0x052f, letter⟩, ⟨0x0531, 0x0556, letter⟩,
  ⟨0x0559, 0x0559, letter⟩, ⟨0x0560, 0x0588, letter⟩, ⟨0x0591, 0x05bd, mark⟩, ⟨0x05bf, 0x05bf, mark⟩,
  ⟨0x05c1, 0x05c2, mark⟩, ⟨0x05c4, 0x05c5, mark⟩, ⟨0x05c7, 0x05c7, mark⟩, ⟨0x05d0, 0x05ea, letter⟩,
  ⟨0x05ef, 0x05f2, letter⟩, ⟨0x0600, 0x0605, format⟩, ⟨0x0610, 0x061a, mark⟩, ⟨0x061c, 0x061c, format⟩,
  ⟨0x0620, 0x064a, letter⟩, ⟨0x064b, 0x065f, mark⟩, ⟨0x0660, 0x0669, digit⟩, ⟨0x066e, 0x066f, letter⟩,
  ⟨0x0670, 0x0670, mark⟩, ⟨0x0671, 0x06d3, letter⟩, ⟨0x06d5, 0x06d5, letter⟩, ⟨0x06d6, 0x06dc, mark⟩,
  ⟨0x06dd, 0x06dd, format⟩, ⟨0x06df, 0x06e4, mark⟩, ⟨0x06e5, 0x06e6, letter⟩, ⟨0x06e7, 0x06e8, mark⟩,
  ⟨0x06ea, 0x06ed, mark⟩, ⟨0x06ee, 0x06ef, letter⟩, ⟨0x06f0, 0x06f9, digit⟩, ⟨0x06fa, 0x06fc, letter⟩,
  ⟨0x06ff, 0x06ff, letter⟩, ⟨0x070f, 0x070f, format⟩, ⟨0x0710, 0x0710, letter⟩, ⟨0x0711, 0x0711, mark⟩,
  ⟨0x0712, 0x072f, letter⟩, ⟨0x0730, 0x074a, mark⟩, ⟨0x074d, 0x07a5, letter⟩, ⟨0x07a6, 0x07b0, mark⟩,
  ⟨0x07b1, 0x07b1, letter⟩, ⟨0x07c0, 0x07c9, digit⟩, ⟨0x07ca, 0x07ea, letter⟩, ⟨0x07eb, 0x07f3, mark⟩,
  ⟨0x07f4, 0x07f5, letter⟩, ⟨0x07fa, 0x07fa, letter⟩, ⟨0x07fd, 0x07fd, mark⟩, ⟨0x0800, 0x0815, letter⟩,
  ⟨0x0816, 0x0819, mark⟩, ⟨0x081a, 0x081a, letter⟩, ⟨0x081b, 0x0823, mark⟩, ⟨0x0824, 0x0824, letter⟩,
  ⟨0x0825, 0x0827, mark⟩, ⟨0x0828, 0x0828, letter⟩, ⟨0x0829, 0x082d, mark⟩, ⟨0x0840, 0x0858, letter⟩,
  ⟨0x0859, 0x085b, mark⟩, ⟨0x0860, 0x086a, letter⟩, ⟨0x0870, 0x0887, letter⟩, ⟨0x0889, 0x088e, letter⟩,
  ⟨0x0890, 0x0891, format⟩, ⟨0x0898, 0x089f, mark⟩, ⟨0x08a0, 0x08c9, letter⟩, ⟨0x08ca, 0x08e1, mark⟩,
  ⟨0x08e2, 0x08e2, format⟩, ⟨0x08e3, 0x0903, mark⟩, ⟨0x0904, 0x0939, letter⟩, ⟨0x093a, 0x093c, mark⟩,
  ⟨0x093d, 0x093d, letter⟩, ⟨0x093e, 0x094f, mark⟩, ⟨0x0950, 0x0950, letter⟩, ⟨0x0951, 0x0957, mark⟩,
  ⟨0x0958, 0x0961, letter⟩, ⟨0x0962, 0x0963, mark⟩, ⟨0x0966, 0x096f, digit⟩, ⟨0x0971, 0x0980, letter⟩,
  ⟨0x0981, 0x0983, mark⟩, ⟨0x0985, 0x098c, letter⟩, ⟨0x098f, 0x0990, letter⟩, ⟨0x0993, 0x09a8, letter⟩,
  ⟨0x09aa, 0x09b0, letter⟩, ⟨0x09b2, 0x09b2, letter⟩, ⟨0x09b6, 0x09b9, letter⟩, ⟨0x09bc, 0x09bc, mark⟩,
  ⟨0x09bd, 0x09bd, letter⟩, ⟨0x09be, 0x09c4, mark⟩, ⟨0x09c7, 0x09c8, mark⟩, ⟨0x09cb, 0x09cd, mark⟩,
  ⟨0x09ce, 0x09ce, letter⟩, ⟨0x09d7, 0x09d7, mark⟩, ⟨0x09dc, 0x09dd, letter⟩, ⟨0x09df, 0x09e1, letter⟩,
  ⟨0x09e2, 0x09e3, mark⟩, ⟨0x09e6, 0x09ef, digit⟩, ⟨0x09f0, 0x09f1, letter⟩, ⟨0x09f4, 0x09f9, number⟩,
  ⟨0x09fc, 0x09fc, letter⟩, ⟨0x09fe, 0x09fe, mark⟩, ⟨0x0a01, 0x0a03, mark⟩, ⟨0x0a05, 0x0a0a, letter⟩,
  ⟨0x0a0f, 0x0a10, letter⟩, ⟨0x0a13, 0x0a28, letter⟩, ⟨0x0a2a, 0x0a30, letter⟩, ⟨0x0a32, 0x0a33, letter⟩,
  ⟨0x0a35, 0x0a36, letter⟩, ⟨0x0a38, 0x0a39, letter⟩, ⟨0x0a3c, 0x0a3c, mark⟩, ⟨0x0a3e, 0x0a42, mark⟩,
  ⟨0x0a47, 0x0a48, mark⟩, ⟨0x0a4b, 0x0a4d, mark⟩, ⟨0x0a51, 0x0a51, mark⟩, ⟨0x0a59, 0x0a5c, letter⟩,
  ⟨0x0a5e, 0x0a5e, letter⟩, ⟨0x0a66, 0x0a6f, digit⟩, ⟨0x0a70, 0x0a71, mark⟩, ⟨0x0a72, 0x0a74, letter⟩,
  ⟨0x0a75, 0x0a75, mark⟩, ⟨0x0a81, 0x0a83, mark⟩, ⟨0x0a85, 0x0a8d, letter⟩, ⟨0x0a8f, 0x0a91, letter⟩,
  ⟨0x0a93, 0x0aa8, letter⟩, ⟨0x0aaa, 0x0ab0, letter⟩, ⟨0x0ab2, 0x0ab3, letter⟩, ⟨0x0ab5, 0x0ab9, letter⟩,
  ⟨0x0abc, 0x0abc, mark⟩, ⟨0x0abd, 0x0abd, letter⟩, ⟨0x0abe, 0x0ac5, mark⟩, ⟨0x0ac7, 0x0ac9, mark⟩,
  ⟨0x0acb, 0x0acd, mark⟩, ⟨0x0ad0, 0x0ad0, letter⟩, ⟨0x0ae0, 0x0ae1, letter⟩, ⟨0x0ae2, 0x0ae3, mark⟩,
  ⟨0x0ae6, 0x0aef, digit⟩, ⟨0x0af9, 0x0af9, letter⟩, ⟨0x0afa, 0x0aff, mark⟩, ⟨0x0b01, 0x0b03, mark⟩,
  ⟨0x0b05, 0x0b0c, letter⟩, ⟨0x0b0f, 0x0b10, letter⟩, ⟨0x0b13, 0x0b28, letter⟩, ⟨0x0b2a, 0x0b30, letter⟩,
  ⟨0x0b32, 0x0b33, letter⟩, ⟨0x0b35, 0x0b39, letter⟩, ⟨0x0b3c, 0x0b3c, mark⟩, ⟨0x0b3d, 0x0b3d, letter⟩,
  ⟨0x0b3e, 0x0b44, mark⟩, ⟨0x0b47, 0x0b48, mark⟩, ⟨0x0b4b, 0x0b4d, mark⟩, ⟨0x0b55, 0x0b57, mark⟩,
  ⟨0x0b5c, 0x0b5d, letter⟩, ⟨0x0b5f, 0x0b61, letter⟩, ⟨0x0b62, 0x0b63, mark⟩, ⟨0x0b66, 0x0b6f, digit⟩,
  ⟨0x0b71, 0x0b71, letter⟩, ⟨0x0b72, 0x0b77, number⟩, ⟨0x0b82, 0x0b82, mark⟩, ⟨0x0b83, 0x0b83, letter⟩,
  ⟨0x0b85, 0x0b8a, letter⟩, ⟨0x0b8e, 0x0b90, letter⟩, ⟨0x0b92, 0x0b95, letter⟩, ⟨0x0b99, 0x0b9a, letter⟩,
  ⟨0x0b9c, 0x0b9c, letter⟩, ⟨0x0b9e, 0x0b9f, letter⟩, ⟨0x0ba3, 0x0ba4, letter⟩, ⟨0x0ba8, 0x0baa, letter⟩,
  ⟨0x0bae, 0x0bb9, letter⟩, ⟨0x0bbe, 0x0bc2, mark⟩, ⟨0x0bc6, 0x0bc8, mark⟩, ⟨0x0bca, 0x0bcd, mark⟩,
  ⟨0x0bd0, 0x0bd0, letter⟩, ⟨0x0bd7, 0x0bd7, mark⟩, ⟨0x0be6, 0x0bef, digit⟩, ⟨0x0bf0, 0x0bf2, number⟩]

/-- The spans from U+0C00 to U+1ABD. -/
def spans2 : List Span := [
  ⟨0x0c00, 0x0c04, mark⟩, ⟨0x0c05, 0x0c0c, letter⟩, ⟨0x0c0e, 0x0c10, letter⟩, ⟨0x0c12, 0x0c28, letter⟩,
  ⟨0x0c2a, 0x0c39, letter⟩, ⟨0x0c3c, 0x0c3c, mark⟩, ⟨0x0c3d, 0x0c3d, letter⟩, ⟨0x0c3e, 0x0c44, mark⟩,
  ⟨0x0c46, 0x0c48, mark⟩, ⟨0x0c4a, 0x0c4d, mark⟩, ⟨0x0c55, 0x0c56, mark⟩, ⟨0x0c58, 0x0c5a, letter⟩,
  ⟨0x0c5d, 0x0c5d, letter⟩, ⟨0x0c60, 0x0c61, letter⟩, ⟨0x0c62, 0x0c63, mark⟩, ⟨0x0c66, 0x0c6f, digit⟩,
  ⟨0x0c78, 0x0c7e, number⟩, ⟨0x0c80, 0x0c80, letter⟩, ⟨0x0c81, 0x0c83, mark⟩, ⟨0x0c85, 0x0c8c, letter⟩,
  ⟨0x0c8e, 0x0c90, letter⟩, ⟨0x0c92, 0x0ca8, letter⟩, ⟨0x0caa, 0x0cb3, letter⟩, ⟨0x0cb5, 0x0cb9, letter⟩,
  ⟨0x0cbc, 0x0cbc, mark⟩, ⟨0x0cbd, 0x0cbd, letter⟩, ⟨0x0cbe, 0x0cc4, mark⟩, ⟨0x0cc6, 0x0cc8, mark⟩,
  ⟨0x0cca, 0x0ccd, mark⟩, ⟨0x0cd5, 0x0cd6, mark⟩, ⟨0x0cdd, 0x0cde, letter⟩, ⟨0x0ce0, 0x0ce1, letter⟩,
  ⟨0x0ce2, 0x0ce3, mark⟩, ⟨0x0ce6, 0x0cef, digit⟩, ⟨0x0cf1, 0x0cf2, letter⟩, ⟨0x0d00, 0x0d03, mark⟩,
  ⟨0x0d04, 0x0d0c, letter⟩, ⟨0x0d0e, 0x0d10, letter⟩, ⟨0x0d12, 0x0d3a, letter⟩, ⟨0x0d3b, 0x0d3c, mark⟩,
  ⟨0x0d3d, 0x0d3d, letter⟩, ⟨0x0d3e, 0x0d44, mark⟩, ⟨0x0d46, 0x0d48, mark⟩, ⟨0x0d4a, 0x0d4d, mark⟩,
  ⟨0x0d4e, 0x0d4e, letter⟩, ⟨0x0d54, 0x0d56, letter⟩, ⟨0x0d57, 0x0d57, mark⟩, ⟨0x0d58, 0x0d5e, number⟩,
  ⟨0x0d5f, 0x0d61, letter⟩, ⟨0x0d62, 0x0d63, mark⟩, ⟨0x0d66, 0x0d6f, digit⟩, ⟨0x0d70, 0x0d78, number⟩,
  ⟨0x0d7a, 0x0d7f, letter⟩, ⟨0x0d81, 0x0d83, mark⟩, ⟨0x0d85, 0x0d96, letter⟩, ⟨0x0d9a, 0x0db1, letter⟩,
  ⟨0x0db3, 0x0dbb, letter⟩, ⟨0x0dbd, 0x0dbd, letter⟩, ⟨0x0dc0, 0x0dc6, letter⟩, ⟨0x0dca, 0x0dca, mark⟩,
  ⟨0x0dcf, 0x0dd4, mark⟩, ⟨0x0dd6, 0x0dd6, mark⟩, ⟨0x0dd8, 0x0ddf, mark⟩, ⟨0x0de6, 0x0def, digit⟩,
  ⟨0x0df2, 0x0df3, mark⟩, ⟨0x0e01, 0x0e30, letter⟩, ⟨0x0e31, 0x0e31, mark⟩, ⟨0x0e32, 0x0e33, letter⟩,
  ⟨0x0e34, 0x0e3a, mark⟩, ⟨0x0e40, 0x0e46, letter⟩, ⟨0x0e47, 0x0e4e, mark⟩, ⟨0x0e50, 0x0e59, digit⟩,
  ⟨0x0e81, 0x0e82, letter⟩, ⟨0x0e84, 0x0e84, letter⟩, ⟨0x0e86, 0x0e8a, letter⟩, ⟨0x0e8c, 0x0ea3, letter⟩,
  ⟨0x0ea5, 0x0ea5, letter⟩, ⟨0x0ea7, 0x0eb0, letter⟩, ⟨0x0eb1, 0x0eb1, mark⟩, ⟨0x0eb2, 0x0eb3, letter⟩,
  ⟨0x0eb4, 0x0ebc, mark⟩, ⟨0x0ebd, 0x0ebd, letter⟩, ⟨0x0ec0, 0x0ec4, letter⟩, ⟨0x0ec6, 0x0ec6, letter⟩,
  ⟨0x0ec8, 0x0ecd, mark⟩, ⟨0x0ed0, 0x0ed9, digit⟩, ⟨0x0edc, 0x0edf, letter⟩, ⟨0x0f00, 0x0f00, letter⟩,
  ⟨0x0f18, 0x0f19, mark⟩, ⟨0x0f20, 0x0f29, digit⟩, ⟨0x0f2a, 0x0f33, number⟩, ⟨0x0f35, 0x0f35, mark⟩,
  ⟨0x0f37, 0x0f37, mark⟩, ⟨0x0f39, 0x0f39, mark⟩, ⟨0x0f3e, 0x0f3f, mark⟩, ⟨0x0f40, 0x0f47, letter⟩,
  ⟨0x0f49, 0x0f6c, letter⟩, ⟨0x0f71, 0x0f84, mark⟩, ⟨0x0f86, 0x0f87, mark⟩, ⟨0x0f88, 0x0f8c, letter⟩,
  ⟨0x0f8d, 0x0f97, mark⟩, ⟨0x0f99, 0x0fbc, mark⟩, ⟨0x0fc6, 0x0fc6, mark⟩, ⟨0x1000, 0x102a, letter⟩,
  ⟨0x102b, 0x103e, mark⟩, ⟨0x103f, 0x103f, letter⟩, ⟨0x1040, 0x1049, digit⟩, ⟨0x1050, 0x1055, letter⟩,
  ⟨0x1056, 0x1059, mark⟩, ⟨0x105a, 0x105d, letter⟩, ⟨0x105e, 0x1060, mark⟩, ⟨0x1061, 0x1061, letter⟩,
  ⟨0x1062, 0x1064, mark⟩, ⟨0x1065, 0x1066, letter⟩, ⟨0x1067, 0x106d, mark⟩, ⟨0x106e, 0x1070, letter⟩,
  ⟨0x1071, 0x1074, mark⟩, ⟨0x1075, 0x1081, letter⟩, ⟨0x1082, 0x108d, mark⟩, ⟨0x108e, 0x108e, letter⟩,
  ⟨0x108f, 0x108f, mark⟩, ⟨0x1090, 0x1099, digit⟩, ⟨0x109a, 0x109d, mark⟩, ⟨0x10a0, 0x10c5, letter⟩,
  ⟨0x10c7, 0x10c7, letter⟩, ⟨0x10cd, 0x10cd, letter⟩, ⟨0x10d0, 0x10fa, letter⟩, ⟨0x10fc, 0x1248, letter⟩,
  ⟨0x124a, 0x124d, letter⟩, ⟨0x1250, 0x1256, letter⟩, ⟨0x1258, 0x1258, letter⟩, ⟨0x125a, 0x125d, letter⟩,
  ⟨0x1260, 0x1288, letter⟩, ⟨0x128a, 0x128d, letter⟩, ⟨0x1290, 0x12b0, letter⟩, ⟨0x12b2, 0x12b5, letter⟩,
  ⟨0x12b8, 0x12be, letter⟩, ⟨0x12c0, 0x12c0, letter⟩, ⟨0x12c2, 0x12c5, letter⟩, ⟨0x12c8, 0x12d6, letter⟩,
  ⟨0x12d8, 0x1310, letter⟩, ⟨0x1312, 0x1315, letter⟩, ⟨0x1318, 0x135a, letter⟩, ⟨0x135d, 0x135f, mark⟩,
  ⟨0x1369, 0x137c, number⟩, ⟨0x1380, 0x138f, letter⟩, ⟨0x13a0, 0x13f5, letter⟩, ⟨0x13f8, 0x13fd, letter⟩,
  ⟨0x1401, 0x166c, letter⟩, ⟨0x166f, 0x167f, letter⟩, ⟨0x1681, 0x169a, letter⟩, ⟨0x16a0, 0x16ea, letter⟩,
  ⟨0x16ee, 0x16f8, letter⟩, ⟨0x1700, 0x1711, letter⟩, ⟨0x1712, 0x1715, mark⟩, ⟨0x171f, 0x1731, letter⟩,
  ⟨0x1732, 0x1734, mark⟩, ⟨0x1740, 0x1751, letter⟩, ⟨0x1752, 0x1753, mark⟩, ⟨0x1760, 0x176c, letter⟩,
  ⟨0x176e, 0x1770, letter⟩, ⟨0x1772, 0x1773, mark⟩, ⟨0x1780, 0x17b3, letter⟩, ⟨0x17b4, 0x17d3, mark⟩,
  ⟨0x17d7, 0x17d7, letter⟩, ⟨0x17dc, 0x17dc, letter⟩, ⟨0x17dd, 0x17dd, mark⟩, ⟨0x17e0, 0x17e9, digit⟩,
  ⟨0x17f0, 0x17f9, number⟩, ⟨0x180b, 0x180d, mark⟩, ⟨0x180e, 0x180e, format⟩, ⟨0x180f, 0x180f, mark⟩,
  ⟨0x1810, 0x1819, digit⟩, ⟨0x1820, 0x1878, letter⟩, ⟨0x1880, 0x1884, letter⟩, ⟨0x1885, 0x1886, mark⟩,
  ⟨0x1887, 0x18a8, letter⟩, ⟨0x18a9, 0x18a9, mark⟩, ⟨0x18aa, 0x18aa, letter⟩, ⟨0x18b0, 0x18f5, letter⟩,
  ⟨0x1900, 0x191e, letter⟩, ⟨0x1920, 0x192b, mark⟩, ⟨0x1930, 0x193b, mark⟩, ⟨0x1946, 0x194f, digit⟩,
  ⟨0x1950, 0x196d, letter⟩, ⟨0x1970, 0x1974, letter⟩, ⟨0x1980, 0x19ab, letter⟩, ⟨0x19b0, 0x19c9, letter⟩,
  ⟨0x19d0, 0x19d9, digit⟩, ⟨0x19da, 0x19da, number⟩, ⟨0x1a00, 0x1a16, letter⟩, ⟨0x1a17, 0x1a1b, mark⟩,
  ⟨0x1a20, 0x1a54, letter⟩, ⟨0x1a55, 0x1a5e, mark⟩, ⟨0x1a60, 0x1a7c, mark⟩, ⟨0x1a7f, 0x1a7f, mark⟩,
  ⟨0x1a80, 0x1a89, digit⟩, ⟨0x1a90, 0x1a99, digit⟩, ⟨0x1aa7, 0x1aa7, letter⟩, ⟨0x1ab0, 0x1abd, mark⟩]

/-- The spans from U+1ABF to U+AAB6. -/
def spans3 : List Span := [
  ⟨0x1abf, 0x1ace, mark⟩, ⟨0x1b00, 0x1b04, mark⟩, ⟨0x1b05, 0x1b33, letter⟩, ⟨0x1b34, 0x1b44, mark⟩,
  ⟨0x1b45, 0x1b4c, letter⟩, ⟨0x1b50, 0x1b59, digit⟩, ⟨0x1b6b, 0x1b73, mark⟩, ⟨0x1b80, 0x1b82, mark⟩,
  ⟨0x1b83, 0x1ba0, letter⟩, ⟨0x1ba1, 0x1bad, mark⟩, ⟨0x1bae, 0x1baf, letter⟩, ⟨0x1bb0, 0x1bb9, digit⟩,
  ⟨0x1bba, 0x1be5, letter⟩, ⟨0x1be6, 0x1bf3, mark⟩, ⟨0x1c00, 0x1c23, letter⟩, ⟨0x1c24, 0x1c37, mark⟩,
  ⟨0x1c40, 0x1c49, digit⟩, ⟨0x1c4d, 0x1c4f, letter⟩, ⟨0x1c50, 0x1c59, digit⟩, ⟨0x1c5a, 0x1c7d, letter⟩,
  ⟨0x1c80, 0x1c88, letter⟩, ⟨0x1c90, 0x1cba, letter⟩, ⟨0x1cbd, 0x1cbf, letter⟩, ⟨0x1cd0, 0x1cd2, mark⟩,
  ⟨0x1cd4, 0x1ce8, mark⟩, ⟨0x1ce9, 0x1cec, letter⟩, ⟨0x1ced, 0x1ced, mark⟩, ⟨0x1cee, 0x1cf3, letter⟩,
  ⟨0x1cf4, 0x1cf4, mark⟩, ⟨0x1cf5, 0x1cf6, letter⟩, ⟨0x1cf7, 0x1cf9, mark⟩, ⟨0x1cfa, 0x1cfa, letter⟩,
  ⟨0x1d00, 0x1dbf, letter⟩, ⟨0x1dc0, 0x1dff, mark⟩, ⟨0x1e00, 0x1f15, letter⟩, ⟨0x1f18, 0x1f1d, letter⟩,
  ⟨0x1f20, 0x1f45, letter⟩, ⟨0x1f48, 0x1f4d, letter⟩, ⟨0x1f50, 0x1f57, letter⟩, ⟨0x1f59, 0x1f59, letter⟩,
  ⟨0x1f5b, 0x1f5b, letter⟩, ⟨0x1f5d, 0x1f5d, letter⟩, ⟨0x1f5f, 0x1f7d, letter⟩, ⟨0x1f80, 0x1fb4, letter⟩,
  ⟨0x1fb6, 0x1fbc, letter⟩, ⟨0x1fbe, 0x1fbe, letter⟩, ⟨0x1fc2, 0x1fc4, letter⟩, ⟨0x1fc6, 0x1fcc, letter⟩,
  ⟨0x1fd0, 0x1fd3, letter⟩, ⟨0x1fd6, 0x1fdb, letter⟩, ⟨0x1fe0, 0x1fec, letter⟩, ⟨0x1ff2, 0x1ff4, letter⟩,
  ⟨0x1ff6, 0x1ffc, letter⟩, ⟨0x200b, 0x200f, format⟩, ⟨0x202a, 0x202e, format⟩,
  ⟨0x203f, 0x2040, connector⟩, ⟨0x2054, 0x2054, connector⟩, ⟨0x2060, 0x2064, format⟩,
  ⟨0x2066, 0x206f, format⟩, ⟨0x2070, 0x2070, number⟩, ⟨0x2071, 0x2071, letter⟩, ⟨0x2074, 0x2079, number⟩,
  ⟨0x207f, 0x207f, letter⟩, ⟨0x2080, 0x2089, number⟩, ⟨0x2090, 0x209c, letter⟩, ⟨0x20d0, 0x20dc, mark⟩,
  ⟨0x20e1, 0x20e1, mark⟩, ⟨0x20e5, 0x20f0, mark⟩, ⟨0x2102, 0x2102, letter⟩, ⟨0x2107, 0x2107, letter⟩,
  ⟨0x210a, 0x2113, letter⟩, ⟨0x2115, 0x2115, letter⟩, ⟨0x2119, 0x211d, letter⟩, ⟨0x2124, 0x2124, letter⟩,
  ⟨0x2126, 0x2126, letter⟩, ⟨0x2128, 0x2128, letter⟩, ⟨0x212a, 0x212d, letter⟩, ⟨0x212f, 0x2139, letter⟩,
  ⟨0x213c, 0x213f, letter⟩, ⟨0x2145, 0x2149, letter⟩, ⟨0x214e, 0x214e, letter⟩, ⟨0x2150, 0x215f, number⟩,
  ⟨0x2160, 0x2188, letter⟩, ⟨0x2189, 0x2189, number⟩, ⟨0x2460, 0x249b, number⟩, ⟨0x24ea, 0x24ff, number⟩,
  ⟨0x2776, 0x2793, number⟩, ⟨0x2c00, 0x2ce4, letter⟩, ⟨0x2ceb, 0x2cee, letter⟩, ⟨0x2cef, 0x2cf1, mark⟩,
  ⟨0x2cf2, 0x2cf3, letter⟩, ⟨0x2cfd, 0x2cfd, number⟩, ⟨0x2d00, 0x2d25, letter⟩, ⟨0x2d27, 0x2d27, letter⟩,
  ⟨0x2d2d, 0x2d2d, letter⟩, ⟨0x2d30, 0x2d67, letter⟩, ⟨0x2d6f, 0x2d6f, letter⟩, ⟨0x2d7f, 0x2d7f, mark⟩,
  ⟨0x2d80, 0x2d96, letter⟩, ⟨0x2da0, 0x2da6, letter⟩, ⟨0x2da8, 0x2dae, letter⟩, ⟨0x2db0, 0x2db6, letter⟩,
  ⟨0x2db8, 0x2dbe, letter⟩, ⟨0x2dc0, 0x2dc6, letter⟩, ⟨0x2dc8, 0x2dce, letter⟩, ⟨0x2dd0, 0x2dd6, letter⟩,
  ⟨0x2dd8, 0x2dde, letter⟩, ⟨0x2de0, 0x2dff, mark⟩, ⟨0x2e2f, 0x2e2f, letter⟩, ⟨0x3005, 0x3007, letter⟩,
  ⟨0x3021, 0x3029, letter⟩, ⟨0x302a, 0x302f, mark⟩, ⟨0x3031, 0x3035, letter⟩, ⟨0x3038, 0x303c, letter⟩,
  ⟨0x3041, 0x3096, letter⟩, ⟨0x3099, 0x309a, mark⟩, ⟨0x309d, 0x309f, letter⟩, ⟨0x30a1, 0x30fa, letter⟩,
  ⟨0x30fc, 0x30ff, letter⟩, ⟨0x3105, 0x312f, letter⟩, ⟨0x3131, 0x318e, letter⟩, ⟨0x3192, 0x3195, number⟩,
  ⟨0x31a0, 0x31bf, letter⟩, ⟨0x31f0, 0x31ff, letter⟩, ⟨0x3220, 0x3229, number⟩, ⟨0x3248, 0x324f, number⟩,
  ⟨0x3251, 0x325f, number⟩, ⟨0x3280, 0x3289, number⟩, ⟨0x32b1, 0x32bf, number⟩, ⟨0x3400, 0x4dbf, letter⟩,
  ⟨0x4e00, 0xa48c, letter⟩, ⟨0xa4d0, 0xa4fd, letter⟩, ⟨0xa500, 0xa60c, letter⟩, ⟨0xa610, 0xa61f, letter⟩,
  ⟨0xa620, 0xa629, digit⟩, ⟨0xa62a, 0xa62b, letter⟩, ⟨0xa640, 0xa66e, letter⟩, ⟨0xa66f, 0xa66f, mark⟩,
  ⟨0xa674, 0xa67d, mark⟩, ⟨0xa67f, 0xa69d, letter⟩, ⟨0xa69e, 0xa69f, mark⟩, ⟨0xa6a0, 0xa6ef, letter⟩,
  ⟨0xa6f0, 0xa6f1, mark⟩, ⟨0xa717, 0xa71f, letter⟩, ⟨0xa722, 0xa788, letter⟩, ⟨0xa78b, 0xa7ca, letter⟩,
  ⟨0xa7d0, 0xa7d1, letter⟩, ⟨0xa7d3, 0xa7d3, letter⟩, ⟨0xa7d5, 0xa7d9, letter⟩, ⟨0xa7f2, 0xa801, letter⟩,
  ⟨0xa802, 0xa802, mark⟩, ⟨0xa803, 0xa805, letter⟩, ⟨0xa806, 0xa806, mark⟩, ⟨0xa807, 0xa80a, letter⟩,
  ⟨0xa80b, 0xa80b, mark⟩, ⟨0xa80c, 0xa822, letter⟩, ⟨0xa823, 0xa827, mark⟩, ⟨0xa82c, 0xa82c, mark⟩,
  ⟨0xa830, 0xa835, number⟩, ⟨0xa840, 0xa873, letter⟩, ⟨0xa880, 0xa881, mark⟩, ⟨0xa882, 0xa8b3, letter⟩,
  ⟨0xa8b4, 0xa8c5, mark⟩, ⟨0xa8d0, 0xa8d9, digit⟩, ⟨0xa8e0, 0xa8f1, mark⟩, ⟨0xa8f2, 0xa8f7, letter⟩,
  ⟨0xa8fb, 0xa8fb, letter⟩, ⟨0xa8fd, 0xa8fe, letter⟩, ⟨0xa8ff, 0xa8ff, mark⟩, ⟨0xa900, 0xa909, digit⟩,
  ⟨0xa90a, 0xa925, letter⟩, ⟨0xa926, 0xa92d, mark⟩, ⟨0xa930, 0xa946, letter⟩, ⟨0xa947, 0xa953, mark⟩,
  ⟨0xa960, 0xa97c, letter⟩, ⟨0xa980, 0xa983, mark⟩, ⟨0xa984, 0xa9b2, letter⟩, ⟨0xa9b3, 0xa9c0, mark⟩,
  ⟨0xa9cf, 0xa9cf, letter⟩, ⟨0xa9d0, 0xa9d9, digit⟩, ⟨0xa9e0, 0xa9e4, letter⟩, ⟨0xa9e5, 0xa9e5, mark⟩,
  ⟨0xa9e6, 0xa9ef, letter⟩, ⟨0xa9f0, 0xa9f9, digit⟩, ⟨0xa9fa, 0xa9fe, letter⟩, ⟨0xaa00, 0xaa28, letter⟩,
  ⟨0xaa29, 0xaa36, mark⟩, ⟨0xaa40, 0xaa42, letter⟩, ⟨0xaa43, 0xaa43, mark⟩, ⟨0xaa44, 0xaa4b, letter⟩,
  ⟨0xaa4c, 0xaa4d, mark⟩, ⟨0xaa50, 0xaa59, digit⟩, ⟨0xaa60, 0xaa76, letter⟩, ⟨0xaa7a, 0xaa7a, letter⟩,
  ⟨0xaa7b, 0xaa7d, mark⟩, ⟨0xaa7e, 0xaaaf, letter⟩, ⟨0xaab0, 0xaab0, mark⟩, ⟨0xaab1, 0xaab1, letter⟩,
  ⟨0xaab2, 0xaab4, mark⟩, ⟨0xaab5, 0xaab6, letter⟩]

/-- The spans from U+AAB7 to U+11176. -/
def spans4 : List Span := [
  ⟨0xaab7, 0xaab8, mark⟩, ⟨0xaab9, 0xaabd, letter⟩, ⟨0xaabe, 0xaabf, mark⟩, ⟨0xaac0, 0xaac0, letter⟩,
  ⟨0xaac1, 0xaac1, mark⟩, ⟨0xaac2, 0xaac2, letter⟩, ⟨0xaadb, 0xaadd, letter⟩, ⟨0xaae0, 0xaaea, letter⟩,
  ⟨0xaaeb, 0xaaef, mark⟩, ⟨0xaaf2, 0xaaf4, letter⟩, ⟨0xaaf5, 0xaaf6, mark⟩, ⟨0xab01, 0xab06, letter⟩,
  ⟨0xab09, 0xab0e, letter⟩, ⟨0xab11, 0xab16, letter⟩, ⟨0xab20, 0xab26, letter⟩, ⟨0xab28, 0xab2e, letter⟩,
  ⟨0xab30, 0xab5a, letter⟩, ⟨0xab5c, 0xab69, letter⟩, ⟨0xab70, 0xabe2, letter⟩, ⟨0xabe3, 0xabea, mark⟩,
  ⟨0xabec, 0xabed, mark⟩, ⟨0xabf0, 0xabf9, digit⟩, ⟨0xac00, 0xd7a3, letter⟩, ⟨0xd7b0, 0xd7c6, letter⟩,
  ⟨0xd7cb, 0xd7fb, letter⟩, ⟨0xf900, 0xfa6d, letter⟩, ⟨0xfa70, 0xfad9, letter⟩, ⟨0xfb00, 0xfb06, letter⟩,
  ⟨0xfb13, 0xfb17, letter⟩, ⟨0xfb1d, 0xfb1d, letter⟩, ⟨0xfb1e, 0xfb1e, mark⟩, ⟨0xfb1f, 0xfb28, letter⟩,
  ⟨0xfb2a, 0xfb36, letter⟩, ⟨0xfb38, 0xfb3c, letter⟩, ⟨0xfb3e, 0xfb3e, letter⟩, ⟨0xfb40, 0xfb41, letter⟩,
  ⟨0xfb43, 0xfb44, letter⟩, ⟨0xfb46, 0xfbb1, letter⟩, ⟨0xfbd3, 0xfd3d, letter⟩, ⟨0xfd50, 0xfd8f, letter⟩,
  ⟨0xfd92, 0xfdc7, letter⟩, ⟨0xfdf0, 0xfdfb, letter⟩, ⟨0xfe00, 0xfe0f, mark⟩, ⟨0xfe20, 0xfe2f, mark⟩,
  ⟨0xfe33, 0xfe34, connector⟩, ⟨0xfe4d, 0xfe4f, connector⟩, ⟨0xfe70, 0xfe74, letter⟩,
  ⟨0xfe76, 0xfefc, letter⟩, ⟨0xfeff, 0xfeff, format⟩, ⟨0xff10, 0xff19, digit⟩, ⟨0xff21, 0xff3a, letter⟩,
  ⟨0xff3f, 0xff3f, connector⟩, ⟨0xff41, 0xff5a, letter⟩, ⟨0xff66, 0xffbe, letter⟩,
  ⟨0xffc2, 0xffc7, letter⟩, ⟨0xffca, 0xffcf, letter⟩, ⟨0xffd2, 0xffd7, letter⟩, ⟨0xffda, 0xffdc, letter⟩,
  ⟨0xfff9, 0xfffb, format⟩, ⟨0x10000, 0x1000b, letter⟩, ⟨0x1000d, 0x10026, letter⟩,
  ⟨0x10028, 0x1003a, letter⟩, ⟨0x1003c, 0x1003d, letter⟩, ⟨0x1003f, 0x1004d, letter⟩,
  ⟨0x10050, 0x1005d, letter⟩, ⟨0x10080, 0x100fa, letter⟩, ⟨0x10107, 0x10133, number⟩,
  ⟨0x10140, 0x10174, letter⟩, ⟨0x10175, 0x10178, number⟩, ⟨0x1018a, 0x1018b, number⟩,
  ⟨0x101fd, 0x101fd, mark⟩, ⟨0x10280, 0x1029c, letter⟩, ⟨0x102a0, 0x102d0, letter⟩,
  ⟨0x102e0, 0x102e0, mark⟩, ⟨0x102e1, 0x102fb, number⟩, ⟨0x10300, 0x1031f, letter⟩,
  ⟨0x10320, 0x10323, number⟩, ⟨0x1032d, 0x1034a, letter⟩, ⟨0x10350, 0x10375, letter⟩,
  ⟨0x10376, 0x1037a, mark⟩, ⟨0x10380, 0x1039d, letter⟩, ⟨0x103a0, 0x103c3, letter⟩,
  ⟨0x103c8, 0x103cf, letter⟩, ⟨0x103d1, 0x103d5, letter⟩, ⟨0x10400, 0x1049d, letter⟩,
  ⟨0x104a0, 0x104a9, digit⟩, ⟨0x104b0, 0x104d3, letter⟩, ⟨0x104d8, 0x104fb, letter⟩,
  ⟨0x10500, 0x10527, letter⟩, ⟨0x10530, 0x10563, letter⟩, ⟨0x10570, 0x1057a, letter⟩,
  ⟨0x1057c, 0x1058a, letter⟩, ⟨0x1058c, 0x10592, letter⟩, ⟨0x10594, 0x10595, letter⟩,
  ⟨0x10597, 0x105a1, letter⟩, ⟨0x105a3, 0x105b1, letter⟩, ⟨0x105b3, 0x105b9, letter⟩,
  ⟨0x105bb, 0x105bc, letter⟩, ⟨0x10600, 0x10736, letter⟩, ⟨0x10740, 0x10755, letter⟩,
  ⟨0x10760, 0x10767, letter⟩, ⟨0x10780, 0x10785, letter⟩, ⟨0x10787, 0x107b0, letter⟩,
  ⟨0x107b2, 0x107ba, letter⟩, ⟨0x10800, 0x10805, letter⟩, ⟨0x10808, 0x10808, letter⟩,
  ⟨0x1080a, 0x10835, letter⟩, ⟨0x10837, 0x10838, letter⟩, ⟨0x1083c, 0x1083c, letter⟩,
  ⟨0x1083f, 0x10855, letter⟩, ⟨0x10858, 0x1085f, number⟩, ⟨0x10860, 0x10876, letter⟩,
  ⟨0x10879, 0x1087f, number⟩, ⟨0x10880, 0x1089e, letter⟩, ⟨0x108a7, 0x108af, number⟩,
  ⟨0x108e0, 0x108f2, letter⟩, ⟨0x108f4, 0x108f5, letter⟩, ⟨0x108fb, 0x108ff, number⟩,
  ⟨0x10900, 0x10915, letter⟩, ⟨0x10916, 0x1091b, number⟩, ⟨0x10920, 0x10939, letter⟩,
  ⟨0x10980, 0x109b7, letter⟩, ⟨0x109bc, 0x109bd, number⟩, ⟨0x109be, 0x109bf, letter⟩,
  ⟨0x109c0, 0x109cf, number⟩, ⟨0x109d2, 0x109ff, number⟩, ⟨0x10a00, 0x10a00, letter⟩,
  ⟨0x10a01, 0x10a03, mark⟩, ⟨0x10a05, 0x10a06, mark⟩, ⟨0x10a0c, 0x10a0f, mark⟩, ⟨0x10a10, 0x10a13, letter⟩,
  ⟨0x10a15, 0x10a17, letter⟩, ⟨0x10a19, 0x10a35, letter⟩, ⟨0x10a38, 0x10a3a, mark⟩,
  ⟨0x10a3f, 0x10a3f, mark⟩, ⟨0x10a40, 0x10a48, number⟩, ⟨0x10a60, 0x10a7c, letter⟩,
  ⟨0x10a7d, 0x10a7e, number⟩, ⟨0x10a80, 0x10a9c, letter⟩, ⟨0x10a9d, 0x10a9f, number⟩,
  ⟨0x10ac0, 0x10ac7, letter⟩, ⟨0x10ac9, 0x10ae4, letter⟩, ⟨0x10ae5, 0x10ae6, mark⟩,
  ⟨0x10aeb, 0x10aef, number⟩, ⟨0x10b00, 0x10b35, letter⟩, ⟨0x10b40, 0x10b55, letter⟩,
  ⟨0x10b58, 0x10b5f, number⟩, ⟨0x10b60, 0x10b72, letter⟩, ⟨0x10b78, 0x10b7f, number⟩,
  ⟨0x10b80, 0x10b91, letter⟩, ⟨0x10ba9, 0x10baf, number⟩, ⟨0x10c00, 0x10c48, letter⟩,
  ⟨0x10c80, 0x10cb2, letter⟩, ⟨0x10cc0, 0x10cf2, letter⟩, ⟨0x10cfa, 0x10cff, number⟩,
  ⟨0x10d00, 0x10d23, letter⟩, ⟨0x10d24, 0x10d27, mark⟩, ⟨0x10d30, 0x10d39, digit⟩,
  ⟨0x10e60, 0x10e7e, number⟩, ⟨0x10e80, 0x10ea9, letter⟩, ⟨0x10eab, 0x10eac, mark⟩,
  ⟨0x10eb0, 0x10eb1, letter⟩, ⟨0x10f00, 0x10f1c, letter⟩, ⟨0x10f1d, 0x10f26, number⟩,
  ⟨0x10f27, 0x10f27, letter⟩, ⟨0x10f30, 0x10f45, letter⟩, ⟨0x10f46, 0x10f50, mark⟩,
  ⟨0x10f51, 0x10f54, number⟩, ⟨0x10f70, 0x10f81, letter⟩, ⟨0x10f82, 0x10f85, mark⟩,
  ⟨0x10fb0, 0x10fc4, letter⟩, ⟨0x10fc5, 0x10fcb, number⟩, ⟨0x10fe0, 0x10ff6, letter⟩,
  ⟨0x11000, 0x11002, mark⟩, ⟨0x11003, 0x11037, letter⟩, ⟨0x11038, 0x11046, mark⟩,
  ⟨0x11052, 0x11065, number⟩, ⟨0x11066, 0x1106f, digit⟩, ⟨0x11070, 0x11070, mark⟩,
  ⟨0x11071, 0x11072, letter⟩, ⟨0x11073, 0x11074, mark⟩, ⟨0x11075, 0x11075, letter⟩,
  ⟨0x1107f, 0x11082, mark⟩, ⟨0x11083, 0x110af, letter⟩, ⟨0x110b0, 0x110ba, mark⟩,
  ⟨0x110bd, 0x110bd, format⟩, ⟨0x110c2, 0x110c2, mark⟩, ⟨0x110cd, 0x110cd, format⟩,
  ⟨0x110d0, 0x110e8, letter⟩, ⟨0x110f0, 0x110f9, digit⟩, ⟨0x11100, 0x11102, mark⟩,
  ⟨0x11103, 0x11126, letter⟩, ⟨0x11127, 0x11134, mark⟩, ⟨0x11136, 0x1113f, digit⟩,
  ⟨0x11144, 0x11144, letter⟩, ⟨0x11145, 0x11146, mark⟩, ⟨0x11147, 0x11147, letter⟩,
  ⟨0x11150, 0x11172, letter⟩, ⟨0x11173, 0x11173, mark⟩, ⟨0x11176, 0x11176, letter⟩]

/-- The spans from U+11180 to U+1D454. -/
def spans5 : List Span := [
  ⟨0x11180, 0x11182, mark⟩, ⟨0x11183, 0x111b2, letter⟩, ⟨0x111b3, 0x111c0, mark⟩,
  ⟨0x111c1, 0x111c4, letter⟩, ⟨0x111c9, 0x111cc, mark⟩, ⟨0x111ce, 0x111cf, mark⟩,
  ⟨0x111d0, 0x111d9, digit⟩, ⟨0x111da, 0x111da, letter⟩, ⟨0x111dc, 0x111dc, letter⟩,
  ⟨0x111e1, 0x111f4, number⟩, ⟨0x11200, 0x11211, letter⟩, ⟨0x11213, 0x1122b, letter⟩,
  ⟨0x1122c, 0x11237, mark⟩, ⟨0x1123e, 0x1123e, mark⟩, ⟨0x11280, 0x11286, letter⟩,
  ⟨0x11288, 0x11288, letter⟩, ⟨0x1128a, 0x1128d, letter⟩, ⟨0x1128f, 0x1129d, letter⟩,
  ⟨0x1129f, 0x112a8, letter⟩, ⟨0x112b0, 0x112de, letter⟩, ⟨0x112df, 0x112ea, mark⟩,
  ⟨0x112f0, 0x112f9, digit⟩, ⟨0x11300, 0x11303, mark⟩, ⟨0x11305, 0x1130c, letter⟩,
  ⟨0x1130f, 0x11310, letter⟩, ⟨0x11313, 0x11328, letter⟩, ⟨0x1132a, 0x11330, letter⟩,
  ⟨0x11332, 0x11333, letter⟩, ⟨0x11335, 0x11339, letter⟩, ⟨0x1133b, 0x1133c, mark⟩,
  ⟨0x1133d, 0x1133d, letter⟩, ⟨0x1133e, 0x11344, mark⟩, ⟨0x11347, 0x11348, mark⟩, ⟨0x1134b, 0x1134d, mark⟩,
  ⟨0x11350, 0x11350, letter⟩, ⟨0x11357, 0x11357, mark⟩, ⟨0x1135d, 0x11361, letter⟩,
  ⟨0x11362, 0x11363, mark⟩, ⟨0x11366, 0x1136c, mark⟩, ⟨0x11370, 0x11374, mark⟩, ⟨0x11400, 0x11434, letter⟩,
  ⟨0x11435, 0x11446, mark⟩, ⟨0x11447, 0x1144a, letter⟩, ⟨0x11450, 0x11459, digit⟩,
  ⟨0x1145e, 0x1145e, mark⟩, ⟨0x1145f, 0x11461, letter⟩, ⟨0x11480, 0x114af, letter⟩,
  ⟨0x114b0, 0x114c3, mark⟩, ⟨0x114c4, 0x114c5, letter⟩, ⟨0x114c7, 0x114c7, letter⟩,
  ⟨0x114d0, 0x114d9, digit⟩, ⟨0x11580, 0x115ae, letter⟩, ⟨0x115af, 0x115b5, mark⟩,
  ⟨0x115b8, 0x115c0, mark⟩, ⟨0x115d8, 0x115db, letter⟩, ⟨0x115dc, 0x115dd, mark⟩,
  ⟨0x11600, 0x1162f, letter⟩, ⟨0x11630, 0x11640, mark⟩, ⟨0x11644, 0x11644, letter⟩,
  ⟨0x11650, 0x11659, digit⟩, ⟨0x11680, 0x116aa, letter⟩, ⟨0x116ab, 0x116b7, mark⟩,
  ⟨0x116b8, 0x116b8, letter⟩, ⟨0x116c0, 0x116c9, digit⟩, ⟨0x11700, 0x1171a, letter⟩,
  ⟨0x1171d, 0x1172b, mark⟩, ⟨0x11730, 0x11739, digit⟩, ⟨0x1173a, 0x1173b, number⟩,
  ⟨0x11740, 0x11746, letter⟩, ⟨0x11800, 0x1182b, letter⟩, ⟨0x1182c, 0x1183a, mark⟩,
  ⟨0x118a0, 0x118df, letter⟩, ⟨0x118e0, 0x118e9, digit⟩, ⟨0x118ea, 0x118f2, number⟩,
  ⟨0x118ff, 0x11906, letter⟩, ⟨0x11909, 0x11909, letter⟩, ⟨0x1190c, 0x11913, letter⟩,
  ⟨0x11915, 0x11916, letter⟩, ⟨0x11918, 0x1192f, letter⟩, ⟨0x11930, 0x11935, mark⟩,
  ⟨0x11937, 0x11938, mark⟩, ⟨0x1193b, 0x1193e, mark⟩, ⟨0x1193f, 0x1193f, letter⟩, ⟨0x11940, 0x11940, mark⟩,
  ⟨0x11941, 0x11941, letter⟩, ⟨0x11942, 0x11943, mark⟩, ⟨0x11950, 0x11959, digit⟩,
  ⟨0x119a0, 0x119a7, letter⟩, ⟨0x119aa, 0x119d0, letter⟩, ⟨0x119d1, 0x119d7, mark⟩,
  ⟨0x119da, 0x119e0, mark⟩, ⟨0x119e1, 0x119e1, letter⟩, ⟨0x119e3, 0x119e3, letter⟩,
  ⟨0x119e4, 0x119e4, mark⟩, ⟨0x11a00, 0x11a00, letter⟩, ⟨0x11a01, 0x11a0a, mark⟩,
  ⟨0x11a0b, 0x11a32, letter⟩, ⟨0x11a33, 0x11a39, mark⟩, ⟨0x11a3a, 0x11a3a, letter⟩,
  ⟨0x11a3b, 0x11a3e, mark⟩, ⟨0x11a47, 0x11a47, mark⟩, ⟨0x11a50, 0x11a50, letter⟩, ⟨0x11a51, 0x11a5b, mark⟩,
  ⟨0x11a5c, 0x11a89, letter⟩, ⟨0x11a8a, 0x11a99, mark⟩, ⟨0x11a9d, 0x11a9d, letter⟩,
  ⟨0x11ab0, 0x11af8, letter⟩, ⟨0x11c00, 0x11c08, letter⟩, ⟨0x11c0a, 0x11c2e, letter⟩,
  ⟨0x11c2f, 0x11c36, mark⟩, ⟨0x11c38, 0x11c3f, mark⟩, ⟨0x11c40, 0x11c40, letter⟩,
  ⟨0x11c50, 0x11c59, digit⟩, ⟨0x11c5a, 0x11c6c, number⟩, ⟨0x11c72, 0x11c8f, letter⟩,
  ⟨0x11c92, 0x11ca7, mark⟩, ⟨0x11ca9, 0x11cb6, mark⟩, ⟨0x11d00, 0x11d06, letter⟩,
  ⟨0x11d08, 0x11d09, letter⟩, ⟨0x11d0b, 0x11d30, letter⟩, ⟨0x11d31, 0x11d36, mark⟩,
  ⟨0x11d3a, 0x11d3a, mark⟩, ⟨0x11d3c, 0x11d3d, mark⟩, ⟨0x11d3f, 0x11d45, mark⟩, ⟨0x11d46, 0x11d46, letter⟩,
  ⟨0x11d47, 0x11d47, mark⟩, ⟨0x11d50, 0x11d59, digit⟩, ⟨0x11d60, 0x11d65, letter⟩,
  ⟨0x11d67, 0x11d68, letter⟩, ⟨0x11d6a, 0x11d89, letter⟩, ⟨0x11d8a, 0x11d8e, mark⟩,
  ⟨0x11d90, 0x11d91, mark⟩, ⟨0x11d93, 0x11d97, mark⟩, ⟨0x11d98, 0x11d98, letter⟩,
  ⟨0x11da0, 0x11da9, digit⟩, ⟨0x11ee0, 0x11ef2, letter⟩, ⟨0x11ef3, 0x11ef6, mark⟩,
  ⟨0x11fb0, 0x11fb0, letter⟩, ⟨0x11fc0, 0x11fd4, number⟩, ⟨0x12000, 0x12399, letter⟩,
  ⟨0x12400, 0x1246e, letter⟩, ⟨0x12480, 0x12543, letter⟩, ⟨0x12f90, 0x12ff0, letter⟩,
  ⟨0x13000, 0x1342e, letter⟩, ⟨0x13430, 0x13438, format⟩, ⟨0x14400, 0x14646, letter⟩,
  ⟨0x16800, 0x16a38, letter⟩, ⟨0x16a40, 0x16a5e, letter⟩, ⟨0x16a60, 0x16a69, digit⟩,
  ⟨0x16a70, 0x16abe, letter⟩, ⟨0x16ac0, 0x16ac9, digit⟩, ⟨0x16ad0, 0x16aed, letter⟩,
  ⟨0x16af0, 0x16af4, mark⟩, ⟨0x16b00, 0x16b2f, letter⟩, ⟨0x16b30, 0x16b36, mark⟩,
  ⟨0x16b40, 0x16b43, letter⟩, ⟨0x16b50, 0x16b59, digit⟩, ⟨0x16b5b, 0x16b61, number⟩,
  ⟨0x16b63, 0x16b77, letter⟩, ⟨0x16b7d, 0x16b8f, letter⟩, ⟨0x16e40, 0x16e7f, letter⟩,
  ⟨0x16e80, 0x16e96, number⟩, ⟨0x16f00, 0x16f4a, letter⟩, ⟨0x16f4f, 0x16f4f, mark⟩,
  ⟨0x16f50, 0x16f50, letter⟩, ⟨0x16f51, 0x16f87, mark⟩, ⟨0x16f8f, 0x16f92, mark⟩,
  ⟨0x16f93, 0x16f9f, letter⟩, ⟨0x16fe0, 0x16fe1, letter⟩, ⟨0x16fe3, 0x16fe3, letter⟩,
  ⟨0x16fe4, 0x16fe4, mark⟩, ⟨0x16ff0, 0x16ff1, mark⟩, ⟨0x17000, 0x187f7, letter⟩,
  ⟨0x18800, 0x18cd5, letter⟩, ⟨0x18d00, 0x18d08, letter⟩, ⟨0x1aff0, 0x1aff3, letter⟩,
  ⟨0x1aff5, 0x1affb, letter⟩, ⟨0x1affd, 0x1affe, letter⟩, ⟨0x1b000, 0x1b122, letter⟩,
  ⟨0x1b150, 0x1b152, letter⟩, ⟨0x1b164, 0x1b167, letter⟩, ⟨0x1b170, 0x1b2fb, letter⟩,
  ⟨0x1bc00, 0x1bc6a, letter⟩, ⟨0x1bc70, 0x1bc7c, letter⟩, ⟨0x1bc80, 0x1bc88, letter⟩,
  ⟨0x1bc90, 0x1bc99, letter⟩, ⟨0x1bc9d, 0x1bc9e, mark⟩, ⟨0x1bca0, 0x1bca3, format⟩,
  ⟨0x1cf00, 0x1cf2d, mark⟩, ⟨0x1cf30, 0x1cf46, mark⟩, ⟨0x1d165, 0x1d169, mark⟩, ⟨0x1d16d, 0x1d172, mark⟩,
  ⟨0x1d173, 0x1d17a, format⟩, ⟨0x1d17b, 0x1d182, mark⟩, ⟨0x1d185, 0x1d18b, mark⟩, ⟨0x1d1aa, 0x1d1ad, mark⟩,
  ⟨0x1d242, 0x1d244, mark⟩, ⟨0x1d2e0, 0x1d2f3, number⟩, ⟨0x1d360, 0x1d378, number⟩,
  ⟨0x1d400, 0x1d454, letter⟩]

/-- The spans from U+1D456 to U+E01EF. -/
def spans6 : List Span := [
  ⟨0x1d456, 0x1d49c, letter⟩, ⟨0x1d49e, 0x1d49f, letter⟩, ⟨0x1d4a2, 0x1d4a2, letter⟩,
  ⟨0x1d4a5, 0x1d4a6, letter⟩, ⟨0x1d4a9, 0x1d4ac, letter⟩, ⟨0x1d4ae, 0x1d4b9, letter⟩,
  ⟨0x1d4bb, 0x1d4bb, letter⟩, ⟨0x1d4bd, 0x1d4c3, letter⟩, ⟨0x1d4c5, 0x1d505, letter⟩,
  ⟨0x1d507, 0x1d50a, letter⟩, ⟨0x1d50d, 0x1d514, letter⟩, ⟨0x1d516, 0x1d51c, letter⟩,
  ⟨0x1d51e, 0x1d539, letter⟩, ⟨0x1d53b, 0x1d53e, letter⟩, ⟨0x1d540, 0x1d544, letter⟩,
  ⟨0x1d546, 0x1d546, letter⟩, ⟨0x1d54a, 0x1d550, letter⟩, ⟨0x1d552, 0x1d6a5, letter⟩,
  ⟨0x1d6a8, 0x1d6c0, letter⟩, ⟨0x1d6c2, 0x1d6da, letter⟩, ⟨0x1d6dc, 0x1d6fa, letter⟩,
  ⟨0x1d6fc, 0x1d714, letter⟩, ⟨0x1d716, 0x1d734, letter⟩, ⟨0x1d736, 0x1d74e, letter⟩,
  ⟨0x1d750, 0x1d76e, letter⟩, ⟨0x1d770, 0x1d788, letter⟩, ⟨0x1d78a, 0x1d7a8, letter⟩,
  ⟨0x1d7aa, 0x1d7c2, letter⟩, ⟨0x1d7c4, 0x1d7cb, letter⟩, ⟨0x1d7ce, 0x1d7ff, digit⟩,
  ⟨0x1da00, 0x1da36, mark⟩, ⟨0x1da3b, 0x1da6c, mark⟩, ⟨0x1da75, 0x1da75, mark⟩, ⟨0x1da84, 0x1da84, mark⟩,
  ⟨0x1da9b, 0x1da9f, mark⟩, ⟨0x1daa1, 0x1daaf, mark⟩, ⟨0x1df00, 0x1df1e, letter⟩, ⟨0x1e000, 0x1e006, mark⟩,
  ⟨0x1e008, 0x1e018, mark⟩, ⟨0x1e01b, 0x1e021, mark⟩, ⟨0x1e023, 0x1e024, mark⟩, ⟨0x1e026, 0x1e02a, mark⟩,
  ⟨0x1e100, 0x1e12c, letter⟩, ⟨0x1e130, 0x1e136, mark⟩, ⟨0x1e137, 0x1e13d, letter⟩,
  ⟨0x1e140, 0x1e149, digit⟩, ⟨0x1e14e, 0x1e14e, letter⟩, ⟨0x1e290, 0x1e2ad, letter⟩,
  ⟨0x1e2ae, 0x1e2ae, mark⟩, ⟨0x1e2c0, 0x1e2eb, letter⟩, ⟨0x1e2ec, 0x1e2ef, mark⟩,
  ⟨0x1e2f0, 0x1e2f9, digit⟩, ⟨0x1e7e0, 0x1e7e6, letter⟩, ⟨0x1e7e8, 0x1e7eb, letter⟩,
  ⟨0x1e7ed, 0x1e7ee, letter⟩, ⟨0x1e7f0, 0x1e7fe, letter⟩, ⟨0x1e800, 0x1e8c4, letter⟩,
  ⟨0x1e8c7, 0x1e8cf, number⟩, ⟨0x1e8d0, 0x1e8d6, mark⟩, ⟨0x1e900, 0x1e943, letter⟩,
  ⟨0x1e944, 0x1e94a, mark⟩, ⟨0x1e94b, 0x1e94b, letter⟩, ⟨0x1e950, 0x1e959, digit⟩,
  ⟨0x1ec71, 0x1ecab, number⟩, ⟨0x1ecad, 0x1ecaf, number⟩, ⟨0x1ecb1, 0x1ecb4, number⟩,
  ⟨0x1ed01, 0x1ed2d, number⟩, ⟨0x1ed2f, 0x1ed3d, number⟩, ⟨0x1ee00, 0x1ee03, letter⟩,
  ⟨0x1ee05, 0x1ee1f, letter⟩, ⟨0x1ee21, 0x1ee22, letter⟩, ⟨0x1ee24, 0x1ee24, letter⟩,
  ⟨0x1ee27, 0x1ee27, letter⟩, ⟨0x1ee29, 0x1ee32, letter⟩, ⟨0x1ee34, 0x1ee37, letter⟩,
  ⟨0x1ee39, 0x1ee39, letter⟩, ⟨0x1ee3b, 0x1ee3b, letter⟩, ⟨0x1ee42, 0x1ee42, letter⟩,
  ⟨0x1ee47, 0x1ee47, letter⟩, ⟨0x1ee49, 0x1ee49, letter⟩, ⟨0x1ee4b, 0x1ee4b, letter⟩,
  ⟨0x1ee4d, 0x1ee4f, letter⟩, ⟨0x1ee51, 0x1ee52, letter⟩, ⟨0x1ee54, 0x1ee54, letter⟩,
  ⟨0x1ee57, 0x1ee57, letter⟩, ⟨0x1ee59, 0x1ee59, letter⟩, ⟨0x1ee5b, 0x1ee5b, letter⟩,
  ⟨0x1ee5d, 0x1ee5d, letter⟩, ⟨0x1ee5f, 0x1ee5f, letter⟩, ⟨0x1ee61, 0x1ee62, letter⟩,
  ⟨0x1ee64, 0x1ee64, letter⟩, ⟨0x1ee67, 0x1ee6a, letter⟩, ⟨0x1ee6c, 0x1ee72, letter⟩,
  ⟨0x1ee74, 0x1ee77, letter⟩, ⟨0x1ee79, 0x1ee7c, letter⟩, ⟨0x1ee7e, 0x1ee7e, letter⟩,
  ⟨0x1ee80, 0x1ee89, letter⟩, ⟨0x1ee8b, 0x1ee9b, letter⟩, ⟨0x1eea1, 0x1eea3, letter⟩,
  ⟨0x1eea5, 0x1eea9, letter⟩, ⟨0x1eeab, 0x1eebb, letter⟩, ⟨0x1f100, 0x1f10c, number⟩,
  ⟨0x1fbf0, 0x1fbf9, digit⟩, ⟨0x20000, 0x2a6df, letter⟩, ⟨0x2a700, 0x2b738, letter⟩,
  ⟨0x2b740, 0x2b81d, letter⟩, ⟨0x2b820, 0x2cea1, letter⟩, ⟨0x2ceb0, 0x2ebe0, letter⟩,
  ⟨0x2f800, 0x2fa1d, letter⟩, ⟨0x30000, 0x3134a, letter⟩, ⟨0xe0001, 0xe0001, format⟩,
  ⟨0xe0020, 0xe007f, format⟩, ⟨0xe0100, 0xe01ef, mark⟩]

/-- Characters of the categories of identifiers and of numbers, in ascending order. -/
def spans : List Span :=
  spans1 ++ (spans2 ++ (spans3 ++ (spans4 ++ (spans5 ++ spans6))))

/-- The span of a code point. The numbers are compared by functions that the kernel computes at once, since the
checks of whole tables below look up hundreds of them. -/
def spanAt? : List Span → Nat → Option Span
  | [], _ => none
  | e :: rest, code => bif e.high.blt code then spanAt? rest code else bif code.blt e.low then none else some e

/-- The category of a character. -/
def category? (c : Char) : Option Category := (spanAt? spans c.toNat).map (·.category)

/-! ## Ascending tables -/

/-- Whether ranges hold something and follow each other, from some code on. -/
def ascending : Nat → CodeRanges → Bool
  | _, [] => true
  | start, (low, high) :: rest => start ≤ low && low ≤ high && ascending (high + 1) rest

variable {start code : Nat}

theorem ascending_cons {r : Nat × Nat} {rest : CodeRanges} :
    ascending start (r :: rest) = true ↔ start ≤ r.1 ∧ r.1 ≤ r.2 ∧ ascending (r.2 + 1) rest = true := by
  rw [ascending, Bool.and_eq_true, Bool.and_eq_true, decide_eq_true_eq, decide_eq_true_eq, and_assoc]

/-- Ascending ranges begin where they are said to. -/
theorem le_of_ascending {table : CodeRanges} (h : ascending start table = true) :
    ∀ r ∈ table, start ≤ r.1 ∧ r.1 ≤ r.2 := by
  induction table generalizing start with
  | nil => exact fun r listed => absurd listed List.not_mem_nil
  | cons first rest ih =>
    obtain ⟨low, some_, later⟩ := ascending_cons.mp h
    rw [List.forall_mem_cons]
    refine ⟨⟨low, some_⟩, fun r listed => ?_⟩
    obtain ⟨above, bounds⟩ := ih later r listed
    exact ⟨by omega, bounds⟩

/-- **In ascending ranges every member is found.** -/
theorem contains_iff {table : CodeRanges} (h : ascending start table = true) :
    table.contains code = true ↔ ∃ r ∈ table, r.1 ≤ code ∧ code ≤ r.2 := by
  refine ⟨CodeRanges.exists_of_contains, ?_⟩
  induction table generalizing start with
  | nil => exact fun ⟨r, listed, _⟩ => absurd listed List.not_mem_nil
  | cons first rest ih =>
    rintro ⟨r, listed, low, high⟩
    have above := (le_of_ascending h r listed).1
    obtain ⟨-, some_, later⟩ := ascending_cons.mp h
    unfold CodeRanges.contains
    rcases List.mem_cons.mp listed with rfl | listed
    · rw [if_neg (by omega), decide_eq_true high, Bool.true_or]
    · have beyond := (le_of_ascending later r listed).1
      rw [if_neg (by omega), ih later ⟨r, listed, low, high⟩, Bool.or_true]

theorem spanAt?_cons (e : Span) (rest : List Span) (code : Nat) :
    spanAt? (e :: rest) code =
      if e.high < code then spanAt? rest code else if code < e.low then none else some e := by
  rw [spanAt?]
  simp only [cond_eq_ite, Nat.blt_eq]

/-- **In ascending spans every member is found.** -/
theorem spanAt?_eq_some_iff {table : List Span} (h : ascending start (table.map Span.range) = true) {e : Span} :
    spanAt? table code = some e ↔ e ∈ table ∧ e.low ≤ code ∧ code ≤ e.high := by
  induction table generalizing start with
  | nil => exact ⟨fun none_ => absurd none_ nofun, fun ⟨listed, _⟩ => absurd listed List.not_mem_nil⟩
  | cons first rest ih =>
    obtain ⟨-, some_, later⟩ := ascending_cons.mp h
    have own : first.low ≤ first.high := some_
    have beyond : e ∈ rest → first.high + 1 ≤ e.low := fun listed =>
      (le_of_ascending later e.range (List.mem_map_of_mem listed)).1
    rw [spanAt?_cons, List.mem_cons]
    split
    · rw [ih later]
      constructor
      · rintro ⟨listed, bounds⟩
        exact ⟨.inr listed, bounds⟩
      · rintro ⟨rfl | listed, low, high⟩
        · omega
        · exact ⟨listed, low, high⟩
    · split
      · refine ⟨fun none_ => absurd none_ nofun, ?_⟩
        rintro ⟨rfl | listed, low, high⟩
        · omega
        · have above := beyond listed
          omega
      · constructor
        · rintro ⟨⟩
          exact ⟨.inl rfl, by omega, by omega⟩
        · rintro ⟨rfl | listed, low, high⟩
          · rfl
          · have above := beyond listed
            omega

theorem ascending_spans : ascending 0 (spans.map Span.range) = true := by decide +kernel

/-- A character is of the category of its span. -/
theorem category?_eq_some_iff {c : Char} {k : Category} :
    category? c = some k ↔ ∃ e ∈ spans, e.category = k ∧ e.low ≤ c.toNat ∧ c.toNat ≤ e.high := by
  unfold category?
  rw [Option.map_eq_some_iff]
  constructor
  · rintro ⟨e, found, same⟩
    obtain ⟨listed, bounds⟩ := (spanAt?_eq_some_iff ascending_spans).mp found
    exact ⟨e, listed, same, bounds⟩
  · rintro ⟨e, listed, same, bounds⟩
    exact ⟨e, (spanAt?_eq_some_iff ascending_spans).mpr ⟨listed, bounds⟩, same⟩

example : category? 'é' = some letter ∧ category? '²' = some number ∧ category? ' ' = none := by decide +kernel

/-! ## What words are made of -/

/-- A range in front of others, made one with the first of them if they touch. -/
def joinFirst (r : Nat × Nat) : CodeRanges → CodeRanges
  | [] => [r]
  | (next, last) :: more => if next = r.2 + 1 then (r.1, last) :: more else r :: (next, last) :: more

/-- Ranges in which those that touch are made one. -/
def joined (table : CodeRanges) : CodeRanges := table.foldr joinFirst []

/-- Joining ranges that hold something gives such ranges, and does not change what lies in them. -/
theorem joinFirst_spec {r : Nat × Nat} {rest : CodeRanges} (some_ : r.1 ≤ r.2) (h : ∀ t ∈ rest, t.1 ≤ t.2) :
    (∀ t ∈ joinFirst r rest, t.1 ≤ t.2) ∧
      ((∃ t ∈ joinFirst r rest, t.1 ≤ code ∧ code ≤ t.2) ↔
        (r.1 ≤ code ∧ code ≤ r.2) ∨ ∃ t ∈ rest, t.1 ≤ code ∧ code ≤ t.2) := by
  cases rest with
  | nil =>
    show (∀ t ∈ [r], t.1 ≤ t.2) ∧ _
    refine ⟨List.forall_mem_singleton.mpr some_, ?_⟩
    simp [joinFirst]
  | cons second more =>
    obtain ⟨next, last⟩ := second
    rw [List.forall_mem_cons] at h
    obtain ⟨other, more_⟩ := h
    dsimp only at other
    rw [joinFirst]
    by_cases touching : next = r.2 + 1
    · rw [if_pos touching, List.forall_mem_cons]
      refine ⟨⟨by dsimp only; omega, more_⟩, ?_⟩
      simp only [List.mem_cons, exists_eq_or_imp]
      rw [← or_assoc]
      refine or_congr ?_ Iff.rfl
      omega
    · rw [if_neg touching, List.forall_mem_cons, List.forall_mem_cons]
      refine ⟨⟨some_, other, more_⟩, ?_⟩
      simp only [List.mem_cons, exists_eq_or_imp]

/-- **Making touching ranges one does not change what lies in them.** -/
theorem joined_spec {table : CodeRanges} (h : ∀ r ∈ table, r.1 ≤ r.2) :
    (∀ r ∈ joined table, r.1 ≤ r.2) ∧
      ((∃ r ∈ joined table, r.1 ≤ code ∧ code ≤ r.2) ↔ ∃ r ∈ table, r.1 ≤ code ∧ code ≤ r.2) := by
  induction table with
  | nil => exact ⟨h, Iff.rfl⟩
  | cons first rest ih =>
    rw [List.forall_mem_cons] at h
    obtain ⟨some_, same⟩ := ih h.2
    obtain ⟨front, whole⟩ := @joinFirst_spec code first (joined rest) h.1 some_
    refine ⟨front, whole.trans ?_⟩
    rw [same]
    simp only [List.mem_cons, exists_eq_or_imp]

/-- The categories of which words are made. -/
def Category.inWords : Category → Bool
  | letter | digit | number => true
  | mark | connector | format => false

/-- **Words are made of letters, decimal digits and other numbers.** -/
theorem isAlphanumeric_iff {c : Char} :
    isAlphanumeric c = true ↔ ∃ k, category? c = some k ∧ k.inWords = true := by
  have table : alphanumericTable = joined ((spans.filter (·.category.inWords)).map Span.range) := by
    decide +kernel
  have found : ascending 0 alphanumericTable = true := by decide +kernel
  have some_ : ∀ r ∈ (spans.filter (·.category.inWords)).map Span.range, r.1 ≤ r.2 := by
    intro r listed
    obtain ⟨e, among, rfl⟩ := List.mem_map.mp listed
    exact (le_of_ascending ascending_spans e.range
      (List.mem_map_of_mem (List.mem_filter.mp among).1)).2
  unfold isAlphanumeric
  rw [contains_iff found, table, (joined_spec some_).2]
  constructor
  · rintro ⟨r, listed, bounds⟩
    obtain ⟨e, among, rfl⟩ := List.mem_map.mp listed
    obtain ⟨listed, wordy⟩ := List.mem_filter.mp among
    exact ⟨e.category, category?_eq_some_iff.mpr ⟨e, listed, rfl, bounds⟩, wordy⟩
  · rintro ⟨k, known, wordy⟩
    obtain ⟨e, listed, rfl, bounds⟩ := category?_eq_some_iff.mp known
    exact ⟨e.range, List.mem_map_of_mem (List.mem_filter.mpr ⟨listed, wordy⟩), bounds⟩

/-- Decimal digits are digits. -/
theorem isDigit_of_category {c : Char} (h : category? c = some digit) : isDigit c = true := by
  have found : ascending 0 digitTable = true := by decide +kernel
  have inside : ∀ e ∈ spans, e.category = digit → ∃ r ∈ digitTable, r.1 ≤ e.low ∧ e.high ≤ r.2 := by
    decide +kernel
  obtain ⟨e, listed, same, low, high⟩ := category?_eq_some_iff.mp h
  obtain ⟨r, among, first, last⟩ := inside e listed same
  exact (contains_iff found).mpr ⟨r, among, by omega, by omega⟩

/-! ## Changes of case -/

/-- Whether a code point lies in a span of a category that is asked for. -/
def codeIs (asked : Category → Bool) (code : Nat) : Bool := (spanAt? spans code).any fun e => asked e.category

/-- A code of some category is that of a character of this category. -/
theorem category?_ofNat {asked : Category → Bool} {code : Nat} (h : codeIs asked code = true) :
    ∃ k, category? (Char.ofNat code) = some k ∧ asked k = true := by
  have valid : ∀ e ∈ spans, e.high < 0xd800 ∨ 0xdfff < e.low ∧ e.high < 0x110000 := by decide +kernel
  unfold codeIs at h
  cases found : spanAt? spans code with
  | none =>
    rw [found] at h
    exact absurd h nofun
  | some e =>
    rw [found] at h
    obtain ⟨listed, bounds⟩ := (spanAt?_eq_some_iff ascending_spans).mp found
    have character : code.isValidChar := by
      have ends := valid e listed
      unfold Nat.isValidChar
      omega
    refine ⟨e.category, ?_, h⟩
    unfold category?
    rw [toNat_ofNat_of_valid character, found]
    rfl

/-- Whether it is a letter. -/
def Category.isLetter (k : Category) : Bool := k = letter

/-- Whether it can stand behind a letter that a change of case writes. -/
def Category.followsLetter (k : Category) : Bool := k = letter || k = mark

/-- Whether a run leads to letters: to a span of them as a whole, or code by code. -/
def CaseRun.landsOnLetters (run : CaseRun) : Bool :=
  (spanAt? spans (run.first + run.shift).toNat).any
    (fun e => e.category.isLetter && run.last + run.shift ≤ e.high) ||
  (List.range' run.first ((run.last - run.first) / run.stride + 1) run.stride).all
    fun code => codeIs Category.isLetter (code + run.shift).toNat

/-- Whether it starts from no letter. -/
def CaseRun.sparesLetters (run : CaseRun) : Bool :=
  spans.all fun e => !e.category.isLetter || e.high.blt run.first || run.last.blt e.low

/-- Whether a table writes a letter for every letter, possibly with letters or marks behind it. -/
def keepsLetters (specials : List (Nat × List Nat)) (runs : List CaseRun) : Bool :=
  specials.all (fun special =>
    match special.2 with
    | [] => false
    | first :: rest => codeIs Category.isLetter first && rest.all (codeIs Category.followsLetter)) &&
  runs.all fun run => run.landsOnLetters || run.sparesLetters

/-- The spans of numerals. -/
def numerals : List Span := spans.filter fun e => e.category = digit || e.category = number

/-- Whether a table has nothing on numerals. -/
def sparesNumerals (specials : List (Nat × List Nat)) (runs : List CaseRun) : Bool :=
  numerals.all fun e =>
    specials.all (fun special => special.1.blt e.low || e.high.blt special.1) &&
      runs.all fun run => run.last.blt e.low || e.high.blt run.first

section

variable {specials : List (Nat × List Nat)} {runs : List CaseRun} {run : CaseRun} {c : Char}

/-- Where a run leads that leads to letters. -/
theorem CaseRun.isLetter_of_covers (lands : run.landsOnLetters = true) (h : run.covers code = true) :
    codeIs Category.isLetter (code + run.shift).toNat = true := by
  obtain ⟨low, high, step⟩ := CaseRun.bounds_of_covers h
  unfold landsOnLetters at lands
  rw [Bool.or_eq_true] at lands
  rcases lands with whole | each
  · cases found : spanAt? spans (run.first + run.shift).toNat with
    | none =>
      rw [found] at whole
      exact absurd whole nofun
    | some e =>
      rw [found] at whole
      obtain ⟨letters, last⟩ := (Bool.and_eq_true _ _).mp whole
      rw [decide_eq_true_eq] at last
      obtain ⟨listed, first, -⟩ := (spanAt?_eq_some_iff ascending_spans).mp found
      have inside : spanAt? spans (code + run.shift).toNat = some e :=
        (spanAt?_eq_some_iff ascending_spans).mpr ⟨listed, by omega, by omega⟩
      unfold codeIs
      rw [inside]
      exact letters
  · refine List.all_eq_true.mp each code (List.mem_range'.mpr ⟨(code - run.first) / run.stride, ?_, ?_⟩)
    · have fewer : (code - run.first) / run.stride ≤ (run.last - run.first) / run.stride :=
        Nat.div_le_div_right (by omega)
      omega
    · have steps := Nat.mul_div_cancel' (Nat.dvd_of_mod_eq_zero step)
      omega

/-- A run that spares letters covers none. -/
theorem CaseRun.not_covers_of_letter (spares : run.sparesLetters = true) (known : category? c = some letter) :
    run.covers c.toNat = false := by
  obtain ⟨e, listed, same, low, high⟩ := category?_eq_some_iff.mp known
  have beside := List.all_eq_true.mp spares e listed
  unfold Category.isLetter at beside
  rw [same] at beside
  simp only [decide_true, Bool.not_true, Bool.false_or, Bool.or_eq_true, Nat.blt_eq] at beside
  rw [Bool.eq_false_iff]
  intro covers
  obtain ⟨first, last, -⟩ := CaseRun.bounds_of_covers covers
  omega

/-- **A change of case makes of a letter a letter**, possibly with letters or marks behind it. -/
theorem mapCase_of_letter (h : keepsLetters specials runs = true) (known : category? c = some letter) :
    ∃ first rest, mapCase specials runs c = first :: rest ∧ category? first = some letter ∧
      ∀ d ∈ rest, ∃ k, category? d = some k ∧ k.followsLetter = true := by
  have written : ∀ {code}, codeIs Category.isLetter code = true →
      category? (Char.ofNat code) = some letter := by
    intro code is
    obtain ⟨k, category, same⟩ := category?_ofNat is
    rw [category, of_decide_eq_true same]
  unfold keepsLetters at h
  rw [Bool.and_eq_true] at h
  obtain ⟨inSpecials, inRuns⟩ := h
  have mapped := mapped_mapCase specials runs c
  generalize mapCase specials runs c = cs at mapped
  cases mapped with
  | @special codes listed =>
    have entry := List.all_eq_true.mp inSpecials _ listed
    cases codes with
    | nil => exact absurd entry nofun
    | cons first rest =>
      obtain ⟨front, behind⟩ := (Bool.and_eq_true _ _).mp entry
      refine ⟨_, _, rfl, written front, fun d listed => ?_⟩
      obtain ⟨code, among, rfl⟩ := List.mem_map.mp listed
      exact category?_ofNat (List.all_eq_true.mp behind code among)
  | run listed covers =>
    rcases (Bool.or_eq_true _ _).mp (List.all_eq_true.mp inRuns _ listed) with lands | spares
    · exact ⟨_, [], rfl, written (CaseRun.isLetter_of_covers lands covers),
        fun d none_ => absurd none_ List.not_mem_nil⟩
    · exact absurd covers (ne_true_of_eq_false (CaseRun.not_covers_of_letter spares known))
  | plain _ => exact ⟨c, [], rfl, known, fun d none_ => absurd none_ List.not_mem_nil⟩

/-- **Numerals have no case.** -/
theorem mapCase_of_numeral (h : sparesNumerals specials runs = true)
    (known : category? c = some digit ∨ category? c = some number) : mapCase specials runs c = [c] := by
  have span : ∃ e ∈ numerals, e.low ≤ c.toNat ∧ c.toNat ≤ e.high := by
    unfold numerals
    rcases known with known | known
    all_goals
      obtain ⟨e, listed, same, bounds⟩ := category?_eq_some_iff.mp known
      exact ⟨e, List.mem_filter.mpr ⟨listed, by rw [same]; rfl⟩, bounds⟩
  obtain ⟨e, listed, low, high⟩ := span
  obtain ⟨inSpecials, inRuns⟩ := (Bool.and_eq_true _ _).mp (List.all_eq_true.mp h e listed)
  have mapped := mapped_mapCase specials runs c
  generalize mapCase specials runs c = cs at mapped
  cases mapped with
  | special among =>
    have beside := List.all_eq_true.mp inSpecials _ among
    rw [Bool.or_eq_true, Nat.blt_eq, Nat.blt_eq] at beside
    omega
  | run among covers =>
    have beside := List.all_eq_true.mp inRuns _ among
    rw [Bool.or_eq_true, Nat.blt_eq, Nat.blt_eq] at beside
    obtain ⟨first, last, -⟩ := CaseRun.bounds_of_covers covers
    omega
  | plain _ => rfl

end

theorem keepsLetters_upper : keepsLetters upperSpecials upperRuns = true := by decide +kernel

theorem keepsLetters_lower : keepsLetters lowerSpecials lowerRuns = true := by decide +kernel

theorem sparesNumerals_upper : sparesNumerals upperSpecials upperRuns = true := by decide +kernel

theorem sparesNumerals_lower : sparesNumerals lowerSpecials lowerRuns = true := by decide +kernel

end StaticAccessors.Text
