import StaticAccessors.Text.Alphanumeric
import StaticAccessors.Text.LetterCase

/-!
# The words of a name

A display name is cut into words: longest runs of letters and numerals, and longest runs of
underscores. All other characters only separate. The words are joined again with their first
letters in upper case, and what results is made a legal start by an underscore if it is empty or
begins with a digit.

## Contents
- `words`: the cut.
- `firstToUpper`, `firstToLower`: the case of the first letter alone.
- `sanitize`: the body of an identifier.
-/

namespace StaticAccessors.Identifier

open Text

/-- What a character is to the cut of a name into words. -/
inductive WordClass
  | letter
  | underscore
  | separator
deriving Repr, DecidableEq

/-- The class of a character. -/
def wordClass (c : Char) : WordClass :=
  if c = '_' then .underscore else if isAlphanumeric c then .letter else .separator

/-- Whether the text goes on in the given class. -/
def continues (k : WordClass) : List Char → Bool
  | [] => false
  | c :: _ => wordClass c = k

/-- Puts a character in front of the first word. -/
def prependToFirst (c : Char) : List (List Char) → List (List Char)
  | [] => [[c]]
  | w :: ws => (c :: w) :: ws

/-- The longest runs of one class, separators left out. -/
def words : List Char → List (List Char)
  | [] => []
  | c :: rest =>
    match wordClass c with
    | .separator => words rest
    | k => if continues k rest then prependToFirst c (words rest) else [c] :: words rest

/-- The text with its first character in upper case. -/
def firstToUpper : List Char → List Char
  | [] => []
  | c :: rest => upperOf c ++ rest

/-- The text with its first character in lower case. -/
def firstToLower : List Char → List Char
  | [] => []
  | c :: rest => lowerOf c ++ rest

/-- The words joined, each with its first letter in upper case. -/
def joinWords (cs : List Char) : List Char := (words cs).flatMap firstToUpper

/-- Makes a text start like an identifier. -/
def guardStart : List Char → List Char
  | [] => ['_']
  | c :: rest => if isDigit c then '_' :: c :: rest else c :: rest

/-- The body of the identifier that stands for a display name. -/
def sanitize (cs : List Char) : List Char := guardStart (joinWords cs)

example : words "a__b 2c".toList = [['a'], ['_', '_'], ['b'], ['2', 'c']] := by decide +kernel

example : sanitize "golden apple".toList = "GoldenApple".toList := by decide +kernel

end StaticAccessors.Identifier
