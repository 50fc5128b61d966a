import StaticAccessors.Emission.Basic
import StaticAccessors.Settings.Basic

/-!
# Layout

A layout turns lines into text: the unit of indentation once for every level of depth, the text,
and the terminator. A unit is a number of equal characters. A blank line is the terminator alone. A
terminator that is no text is formatted after a text like any other value, but cannot stand alone.

Two bounds keep a text from being repeated. How often is counted in a machine word (`countLimit`), and what
comes out has to fit into memory. The memory is no part of the program, so `lengthLimit` is an assumption
about the machine that it runs on.

## Contents
- `Layout` and `Layout.create` from the three settings of style.
- `Layout.indentation`, `Layout.line`, `Layout.print`.
- `Emission.print`: the text of an emission and how it ended.
-/

namespace StaticAccessors

/-- How lines are written: a unit of indentation is `width` times `mark`. -/
structure Layout where
  mark : Char
  width : Nat
  terminator : Value

namespace Layout

/-- Repetitions and characters are counted in a machine word, below this bound. -/
def countLimit : Int := 0x8000000000000000

/-- The longest text that the memory is assumed to hold. The program itself sets no such bound; a machine
with more memory or less has another one. -/
def lengthLimit : Int := 0x100000000

/-- The length of a text of some length that is repeated; a negative number leaves nothing. -/
def repeatedLength (length : Nat) (times : Int) : Except Fault Nat :=
  let total := length * times
  if times < -countLimit || countLimit ≤ times || countLimit ≤ total then .error .tooLarge
  else if lengthLimit < total then .error .tooLong
  else .ok total.toNat

/-- The layout for the settings of style. Without tabs the size of the indentation has to be a whole
number. -/
def create (indentSize useTabs lineEnding : Value) : Except Fault Layout :=
  if useTabs.truthy then .ok ⟨'\t', 1, lineEnding⟩
  else
    match indentSize.whole? with
    | some size => (repeatedLength 1 size).map fun width => ⟨' ', width, lineEnding⟩
    | none => .error .wrongType

/-- The layout that settings ask for. -/
def ofSettings (s : Settings) : Except Fault Layout :=
  create (s .indentSize) (s .useTabs) (s .lineEnding)

/-- A number of marks. -/
def marks (l : Layout) (n : Nat) : String := String.ofList (List.replicate n l.mark)

/-- The unit of indentation. -/
def unit (l : Layout) : String := l.marks l.width

/-- The indentation at a depth. -/
def indentation (l : Layout) (depth : Int) : Except Fault String :=
  if depth < 0 then .error (.negativeDepth (.int depth))
  else (repeatedLength l.width depth).map l.marks

/-- The text of one line. Its indentation has to exist even if the line is blank. -/
def line (l : Layout) (line : Line) : Except Fault String := do
  let indent ← l.indentation line.depth
  if line.text = "" then
    match l.terminator with
    | .text t => return t
    | _ => throw .wrongType
  else return indent ++ line.text ++ l.terminator.display

/-- The text of lines, as far as they can be written, and what stopped it. -/
def print (l : Layout) : List Line → String × Option Fault
  | [] => ("", none)
  | x :: rest =>
    match l.line x with
    | .error fault => ("", some fault)
    | .ok text =>
      let (more, stopped) := l.print rest
      (text ++ more, stopped)

end Layout

/-- The text of an emission and how it ended. A line that cannot be written ends it before anything
that happens after that line. -/
def Emission.print {α : Type} (e : Emission α) (l : Layout) : String × Except Fault α :=
  match l.print e.lines with
  | (text, some fault) => (text, .error fault)
  | (text, none) => (text, e.outcome)

end StaticAccessors
