import StaticAccessors.Console.Emoji.NamesAToC
import StaticAccessors.Console.Emoji.NamesDToF
import StaticAccessors.Console.Emoji.NamesGToM
import StaticAccessors.Console.Emoji.NamesNToR
import StaticAccessors.Console.Emoji.NamesSToV
import StaticAccessors.Console.Emoji.NamesWToZ
import StaticAccessors.Text.Blank
import StaticAccessors.Text.LetterCase

/-!
# Names of pictures

A name between two colons stands for a picture, in any case and without blanks. An ending after a hyphen
asks for the picture as text or as a picture. Colons around anything else are text.

## Contents
- `Emoji.names`: all names with their pictures.
- `Emoji.replace`: a text with pictures in the place of names.
-/

namespace StaticAccessors.Console.Emoji

open Text (isBlank lower)

/-- All names with their pictures. -/
def names : List (String × String) :=
  namesAToC ++ namesDToF ++ namesGToM ++ namesNToR ++ namesSToV ++ namesWToZ

/-- The endings of names with the selectors they stand for. -/
def selectors : List (String × Char) := [
  ("-emoji", Char.ofNat 0xfe0f), ("-text", Char.ofNat 0xfe0e)]

/-- A name without its ending, and the selector that the ending stands for. -/
def cutSelector (name : List Char) : List Char × List Char :=
  match selectors.find? fun s => s.1.toList.isSuffixOf name with
  | some (ending, selector) => (name.take (name.length - ending.length), [selector])
  | none => (name, [])

/-- The picture of a name. -/
def picture? (name : List Char) : Option (List Char) :=
  let (name, selector) := cutSelector name
  (names.lookup (lower (String.ofList name))).map fun picture => picture.toList ++ selector

/-- A text with pictures in the place of names; `fuel` bounds its length. -/
def replaceFrom : Nat → List Char → List Char
  | 0, _ => []
  | _ + 1, [] => []
  | fuel + 1, c :: rest =>
    if c = ':' then
      let name := rest.takeWhile fun d => d ≠ ':' && !isBlank d
      match rest.drop name.length with
      | ':' :: after => (picture? name).getD (':' :: name ++ [':']) ++ replaceFrom fuel after
      | _ => ':' :: replaceFrom fuel rest
    else c :: replaceFrom fuel rest

/-- A text with pictures in the place of names. -/
def replace (cs : List Char) : List Char := replaceFrom cs.length cs

example : cutSelector "heart-text".toList = ("heart".toList, [Char.ofNat 0xfe0e]) := by decide +kernel

end StaticAccessors.Console.Emoji
