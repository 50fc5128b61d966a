import StaticAccessors.Console.CellTable

/-!
# Cells

A line of a console is a row of cells. A text is measured in cells, and it is cut between clusters: a
character of its own together with the marks and joined characters that are drawn on it.

## Contents
- `cellsOf` and `cellCount`: how many cells a character and a text take.
- `Cluster` and `clusters`: the parts between which a text may be cut.
- `crop` and `chop`: a text that is cut off, and one that is cut into pieces.
-/

namespace StaticAccessors.Console

/-- How many cells a character takes on its own. -/
def cellsOf (c : Char) : Nat :=
  let code := c.toNat
  if code < 32 || (0x7f ≤ code && code < 0xa0) then 0
  else if markTable.contains code then 0
  else if wideTable.contains code then 2
  else 1

/-- Joins the character after it to the one before. -/
def joiner : Char := Char.ofNat 0x200d

/-- Makes a picture of the character before it. -/
def pictureSelector : Char := Char.ofNat 0xfe0f

/-- Whether a character is wider as a picture. -/
def isWidened (c : Char) : Bool := widenedTable.contains c.toNat

/-- How many cells a text takes; `last` is the last character before it that takes any. -/
def cellsAfter (last : Option Char) : List Char → Nat
  | [] => 0
  | c :: rest =>
    if c = joiner then
      match rest with
      | [] => 0
      | _ :: rest => cellsAfter last rest
    else if c = pictureSelector then (if last.any isWidened then 1 else 0) + cellsAfter none rest
    else cellsOf c + cellsAfter (if cellsOf c = 0 then last else some c) rest

/-- How many cells a text takes. -/
def cellCount (cs : List Char) : Nat := cellsAfter none cs

/-! ## Clusters -/

/-- Characters that are drawn as one, and how many cells they take. -/
structure Cluster where
  chars : List Char
  cells : Nat
deriving Repr, DecidableEq

/-- A cluster with more characters drawn on it. -/
def Cluster.with (k : Cluster) (chars : List Char) (cells : Nat) : Cluster :=
  ⟨k.chars ++ chars, k.cells + cells⟩

/-- The clusters of a text after some that are given back to front; `last` is the last character so far
that takes cells. -/
def clustersAfter (done : List Cluster) (last : Option Char) : List Char → List Cluster
  | [] => done.reverse
  | c :: rest =>
    match done with
    | [] =>
      if c = joiner || c = pictureSelector then clustersAfter [⟨[c], 0⟩] last rest
      else clustersAfter [⟨[c], cellsOf c⟩] (if cellsOf c = 0 then last else some c) rest
    | top :: before =>
      if c = joiner then
        match rest with
        | [] => (top.with [c] 0 :: before).reverse
        | d :: rest => clustersAfter (top.with [c, d] 0 :: before) last rest
      else if c = pictureSelector then
        if last.any isWidened then clustersAfter (top.with [c] 1 :: before) none rest
        else clustersAfter (top.with [c] 0 :: before) last rest
      else if cellsOf c = 0 then clustersAfter (top.with [c] 0 :: before) last rest
      else clustersAfter (⟨[c], cellsOf c⟩ :: done) (some c) rest

/-- The clusters of a text. -/
def clusters (cs : List Char) : List Cluster := clustersAfter [] none cs

/-! ## Cutting -/

/-- The characters of the first `width` cells. Of a cluster that is cut in half a blank is left. -/
def takeCells (width : Nat) : List Cluster → List Char
  | [] => []
  | k :: rest =>
    if width = 0 then []
    else if k.cells ≤ width then k.chars ++ takeCells (width - k.cells) rest
    else [' ']

/-- A text, cut off after `width` cells. -/
def crop (width : Nat) (cs : List Char) : List Char :=
  if cellCount cs ≤ width then cs else takeCells width (clusters cs)

/-- Pieces of at most `width` cells, where `line` has been put into the first one, back to front, and takes
`size` cells. -/
def chopAfter (width : Nat) (line : List Char) (size : Nat) : List Cluster → List (List Char)
  | [] => if size = 0 then [] else [line.reverse]
  | k :: rest =>
    if width < size + k.cells then line.reverse :: chopAfter width k.chars.reverse k.cells rest
    else chopAfter width (k.chars.reverse ++ line) (size + k.cells) rest

/-- A text in pieces of at most `width` cells. -/
def chop (width : Nat) (cs : List Char) : List (List Char) := chopAfter width [] 0 (clusters cs)

example : cellCount "aé漢".toList = 4 := by decide +kernel

example : crop 3 "a漢字".toList = "a漢".toList ∧ crop 2 "a漢字".toList = "a ".toList := by decide +kernel

end StaticAccessors.Console
