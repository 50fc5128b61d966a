import StaticAccessors.Text.Split
import StaticAccessors.Value.Basic

/-!
# Paths

A path is an anchor and a list of parts. Reading a path drops empty parts and parts that are a
single dot, so each path has one written form; parts that are `..` stay until the path is placed in
a tree (`Location`), where they cancel the part before them.

## Contents
- `FilePath` with `ofText` and `text`, `join`, `parent`, `name`, `suffix`, `parents`.
- `Location`: a place in the tree, and `FilePath.locate`.
-/

namespace StaticAccessors

/-- What a path starts from. Two leading slashes are kept apart from one; more count as one. -/
inductive Anchor
  | here
  | root
  | doubleRoot
deriving Repr, DecidableEq

/-- The written form of an anchor. -/
def Anchor.text : Anchor → String
  | here => ""
  | root => "/"
  | doubleRoot => "//"

/-- A path: its anchor and its parts, none of which is empty, a dot, or holds a slash. -/
structure FilePath where
  anchor : Anchor
  parts : List String
deriving Repr, DecidableEq

namespace FilePath

open Text (splitChar splitLast?)

/-- The anchor of a written path, read off its leading slashes. -/
def anchorOf (cs : List Char) : Anchor :=
  match (cs.takeWhile (· = '/')).length with
  | 0 => .here
  | 2 => .doubleRoot
  | _ => .root

/-- Reads a path. -/
def ofText (s : String) : FilePath :=
  ⟨anchorOf s.toList,
   ((splitChar '/' s.toList).filter fun p => p ≠ [] && p ≠ ['.']).map String.ofList⟩

/-- Writes a path; the path without parts that starts nowhere in particular is a dot. -/
def text (p : FilePath) : String :=
  match p.anchor, p.parts with
  | .here, [] => "."
  | anchor, parts => anchor.text ++ String.intercalate "/" parts

/-- Whether the path starts at a root. -/
def isAbsolute (p : FilePath) : Bool := p.anchor ≠ .here

/-- The second path seen from the first; a path from a root is the same seen from anywhere. -/
def join (base p : FilePath) : FilePath :=
  if p.isAbsolute then p else ⟨base.anchor, base.parts ++ p.parts⟩

/-- The path without its last part. -/
def parent (p : FilePath) : FilePath := ⟨p.anchor, p.parts.dropLast⟩

/-- The last part. -/
def name (p : FilePath) : String := p.parts.getLast?.getD ""

/-- The ending of a file name from its last dot on, if something stands on both sides of the dot. -/
def suffixOf (name : String) : String :=
  match splitLast? '.' name.toList with
  | some (_ :: _, after@(_ :: _)) => String.ofList ('.' :: after)
  | _ => ""

/-- The ending of the last part. -/
def suffix (p : FilePath) : String := suffixOf p.name

/-- The proper ancestors of a list of parts, nearest first. -/
def prefixesOf : List String → List (List String)
  | [] => []
  | part :: rest => (prefixesOf rest).map (part :: ·) ++ [[]]

/-- The proper ancestors of a path, nearest first. -/
def parents (p : FilePath) : List FilePath := (prefixesOf p.parts).map (⟨p.anchor, ·⟩)

/-- The path a value names; only a text does. -/
def ofValue? : Value → Option FilePath
  | .text s => some (ofText s)
  | _ => none

/-- Whether a part holds the character that no file name can hold. -/
def hasNul (p : FilePath) : Bool := p.parts.any (·.toList.contains '\x00')

end FilePath

/-! ## Places in the tree -/

/-- A place in the tree: the names from the root down. -/
abbrev Location := List String

namespace Location

/-- Follows one part: `..` leads up, and at the root nowhere. -/
def step (at_ : Location) (part : String) : Location :=
  if part = ".." then at_.dropLast else at_ ++ [part]

/-- Follows the parts in turn. -/
def follow (at_ : Location) (parts : List String) : Location := parts.foldl step at_

/-- The path from the root to a place. -/
def toPath (at_ : Location) : FilePath := ⟨.root, at_⟩

end Location

/-- The place a path leads to from the place `here`. -/
def FilePath.locate (p : FilePath) (here : Location) : Location :=
  Location.follow (if p.isAbsolute then [] else here) p.parts

/-- The path from the root, without `..`, to the same place. -/
def FilePath.resolve (p : FilePath) (here : Location) : FilePath := (p.locate here).toPath

example : (FilePath.ofText "a//./b/").text = "a/b" ∧ (FilePath.ofText "///x").text = "/x" := by
  decide +kernel

end StaticAccessors
