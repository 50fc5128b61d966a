import StaticAccessors.Template.Defect
import StaticAccessors.Template.Name
import StaticAccessors.Text.Blank
import StaticAccessors.Text.Lines

/-!
# Pieces of templates

The text of a template is cut into plain text, slots and tags. A slot stands in a pair of double
braces, a tag between a brace with a percent sign and its mirror image. A tag takes the line feed
right after it with it, and the blanks between the start of its line and itself.

## Contents
- `Piece` and `Piece.ofText`.
- `wordsOf`: the words inside a slot or a tag.
-/

namespace StaticAccessors.Template

open Text (isBlank unifyLines)

/-- A stretch of a template. -/
inductive Piece
  | text (cs : List Char)
  | slot (inside : List Char) (closing : Closing)
  | tag (inside : List Char) (closing : Closing)
deriving Repr, DecidableEq

/-- The text before a tag, given back to front. Blanks at its end go if nothing but them stands on
the line; `fresh` says that the text starts a line. -/
def beforeTag (fresh : Bool) (reversed : List Char) : List Char :=
  let line := reversed.takeWhile (· ≠ '\n')
  let above := reversed.drop line.length
  if (fresh || !above.isEmpty) && line.all isBlank then above.reverse else reversed.reverse

mutual
/-- Cuts off plain text; `sofar` is what was met of it, back to front. -/
def inText (fresh : Bool) (sofar : List Char) : List Char → List Piece
  | '\x7b' :: '\x7b' :: rest => .text sofar.reverse :: inSlot [] rest
  | '\x7b' :: '%' :: rest => .text (beforeTag fresh sofar) :: inTag [] rest
  | c :: rest => inText fresh (c :: sofar) rest
  | [] => [.text sofar.reverse]

/-- Cuts off the inside of a slot. -/
def inSlot (sofar : List Char) : List Char → List Piece
  | '\x7d' :: '\x7d' :: rest => .slot sofar.reverse .slot :: inText false [] rest
  | c :: rest => inSlot (c :: sofar) rest
  | [] => [.slot sofar.reverse .template]

/-- Cuts off the inside of a tag. -/
def inTag (sofar : List Char) : List Char → List Piece
  | '%' :: '\x7d' :: '\n' :: rest => .tag sofar.reverse .tag :: inText true [] rest
  | '%' :: '\x7d' :: rest => .tag sofar.reverse .tag :: inText false [] rest
  | c :: rest => inTag (c :: sofar) rest
  | [] => [.tag sofar.reverse .template]
end

/-- The pieces of the text of a template. -/
def Piece.ofText (s : String) : List Piece := inText true [] (unifyLines s.toList)

/-! ## Words -/

/-- Cuts text into names and single other characters and drops blanks; `name` is the name being read, back
to front. -/
def wordsFrom (name : List Char) : List Char → List String
  | [] => if name = [] then [] else [String.ofList name.reverse]
  | c :: rest =>
    if isNameChar c then wordsFrom (c :: name) rest
    else
      (if name = [] then [] else [String.ofList name.reverse]) ++
        (if isBlank c then [] else [String.singleton c]) ++ wordsFrom [] rest

/-- The words inside a slot or a tag. -/
def wordsOf (inside : List Char) : List String := wordsFrom [] inside

end StaticAccessors.Template
