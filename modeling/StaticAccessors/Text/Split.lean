/-!
# Cutting texts

A text is cut at every occurrence of a character, or at the last one. What is cut off at a character
does not hold the character itself.
-/

namespace StaticAccessors.Text

/-- Cuts a text at every occurrence of a character. -/
def splitChar (sep : Char) : List Char → List (List Char)
  | [] => [[]]
  | c :: rest =>
    if c = sep then [] :: splitChar sep rest
    else
      match splitChar sep rest with
      | part :: more => (c :: part) :: more
      | [] => [[c]]

/-- Where the last occurrence of a character cuts a text: what stands before and after it. -/
def splitLast? (sep : Char) (cs : List Char) : Option (List Char × List Char) :=
  let after := cs.reverse.takeWhile (· ≠ sep)
  match cs.reverse.drop after.length with
  | [] => none
  | _ :: before => some (before.reverse, after.reverse)

end StaticAccessors.Text
