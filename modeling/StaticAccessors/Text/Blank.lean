import StaticAccessors.Text.CodeRanges

/-!
# White space

`isBlank` is the white space that trimming removes: the Unicode spaces, the line ends, and the four
information separators U+001C to U+001F. `trim` drops it at both ends of a text.
-/

namespace StaticAccessors.Text

/-- White space, the four information separators and the no-break spaces included -/
def blankTable : CodeRanges := [
  (0x0009, 0x000d), (0x001c, 0x0020), (0x0085, 0x0085), (0x00a0, 0x00a0), (0x1680, 0x1680),
  (0x2000, 0x200a), (0x2028, 0x2029), (0x202f, 0x202f), (0x205f, 0x205f), (0x3000, 0x3000)]

/-- White space in the widest sense; zero-width characters do not count. -/
def isBlank (c : Char) : Bool := blankTable.contains c.toNat

/-- Drops white space in front. -/
def trimLeft (cs : List Char) : List Char := cs.dropWhile isBlank

/-- Drops white space at the end. -/
def trimRight (cs : List Char) : List Char := (cs.reverse.dropWhile isBlank).reverse

/-- The text without the white space at its two ends. -/
def trim (s : String) : String := String.ofList (trimRight (trimLeft s.toList))

/-- A text of white space alone, or none at all. -/
def isBlankText (s : String) : Bool := s.toList.all isBlank

end StaticAccessors.Text
