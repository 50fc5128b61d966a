import StaticAccessors.Console.Cell
import StaticAccessors.Text.Blank
import StaticAccessors.Text.Split

/-!
# Breaking lines

A line that is too long is broken before the word that does not fit. A word takes the blanks after it
with it, so these may hang over the end of a line. A word that fits no line is cut into pieces, or it
stands on a line of its own and ends in an ellipsis.

## Contents
- `tabbed`: tabs as blanks.
- `chunks`: words with the blanks around them.
- `Overflow` and `wrap`.
-/

namespace StaticAccessors.Console

open Text (isBlank splitChar trimRight)

/-! ## Tabs -/

/-- Fills up parts of a line that tabs divide, up to the next multiple of `stop`; `position` counts the
cells before them. A tab takes at least one cell. -/
def tabbedFrom (stop position : Nat) : List (List Char) → List Char
  | [] => []
  | [part] => part
  | part :: more =>
    let body := part ++ [' ']
    let reached := position + cellCount body
    let gap := (stop - reached % stop) % stop
    body ++ List.replicate gap ' ' ++ tabbedFrom stop (reached + gap) more

/-- A line without its tabs. -/
def tabbed (stop : Nat) (line : List Char) : List Char := tabbedFrom stop 0 (splitChar '\t' line)

/-! ## Words -/

/-- Words with the blanks after them. -/
def chunksFrom : Nat → List Char → List (List Char)
  | 0, _ => []
  | _ + 1, [] => []
  | fuel + 1, cs =>
    let word := cs.takeWhile (!isBlank ·)
    let blanks := (cs.drop word.length).takeWhile isBlank
    (word ++ blanks) :: chunksFrom fuel (cs.drop (word.length + blanks.length))

/-- Words with the blanks after them, and the first one with those before it. Blanks alone are no word. -/
def chunks (cs : List Char) : List (List Char) :=
  let front := cs.takeWhile isBlank
  match chunksFrom cs.length (cs.drop front.length) with
  | [] => []
  | first :: more => (front ++ first) :: more

/-! ## Lines -/

/-- What becomes of a word that fits no line. -/
inductive Overflow
  /-- it is cut into pieces -/
  | fold
  /-- what is left of it ends in an ellipsis -/
  | ellipsis
deriving Repr, DecidableEq

/-- Lines so far, the last one back to front, and how many cells it is taken to fill. -/
structure Breaking where
  done : List (List Char)
  line : List Char
  filled : Nat

namespace Breaking

/-- Nothing is written yet. -/
def start : Breaking := ⟨[], [], 0⟩

/-- Whether nothing is written yet. -/
def isStart (b : Breaking) : Bool := b.done.isEmpty && b.line.isEmpty

/-- Writes on the same line. -/
def write (b : Breaking) (cs : List Char) : Breaking :=
  { b with line := cs.reverse ++ b.line, filled := b.filled + cellCount cs }

/-- Writes on the next line, or on the first if nothing is written yet. -/
def writeBelow (b : Breaking) (cs : List Char) : Breaking :=
  if b.isStart then ⟨[], cs.reverse, cellCount cs⟩
  else ⟨b.line.reverse :: b.done, cs.reverse, cellCount cs⟩

/-- Writes a word. -/
def add (width : Nat) (overflow : Overflow) (b : Breaking) (chunk : List Char) : Breaking :=
  let size := cellCount (trimRight chunk)
  if b.filled + size ≤ width then b.write chunk
  else if size ≤ width then b.writeBelow chunk
  else
    match overflow with
    | .fold => (chop width chunk).foldl writeBelow b
    | .ellipsis => b.writeBelow chunk

/-- All lines. -/
def lines (b : Breaking) : List (List Char) := (b.line.reverse :: b.done).reverse

end Breaking

/-- A line without the blanks at its end that make it longer than `width` characters. -/
def dropHanging (width : Nat) (line : List Char) : List Char :=
  let hanging := line.length - (trimRight line).length
  line.take (line.length - min hanging (line.length - width))

/-- Cuts off a line. -/
def cutOff (width : Nat) (overflow : Overflow) (line : List Char) : List Char :=
  if cellCount line ≤ width then line
  else
    match overflow with
    | .fold => crop width line
    | .ellipsis => crop (width - 1) line ++ ['…']

/-- The lines into which a line is broken. -/
def wrap (width : Nat) (overflow : Overflow) (line : List Char) : List (List Char) :=
  let broken :=
    match chunks line with
    | [] => [line]
    | words => (words.foldl (Breaking.add width overflow) .start).lines
  broken.map fun cs => cutOff width overflow (dropHanging width cs)

example : wrap 5 .fold "ab cd ef".toList = ["ab cd".toList, "ef".toList] := by decide +kernel

example : wrap 3 .fold "abcdefg".toList = ["abc".toList, "def".toList, "g".toList] ∧
    wrap 3 .ellipsis "abcdefg".toList = ["ab…".toList] := by decide +kernel

end StaticAccessors.Console
