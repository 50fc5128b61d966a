/-!
# Lines

A line ends with a line feed, a carriage return, or both in this order. `unifyLines` writes every end
as a line feed; `Newline` is the choice of one of the three.

## Contents
- `unifyLines`.
- `Newline`, its text, and `Newline.apply`.
-/

namespace StaticAccessors.Text

/-- Line ends of all three kinds as line feeds. -/
def unifyLines : List Char → List Char
  | [] => []
  | '\r' :: '\n' :: rest => '\n' :: unifyLines rest
  | '\r' :: rest => '\n' :: unifyLines rest
  | c :: rest => c :: unifyLines rest

/-- One of the three ends of a line. -/
inductive Newline
  | lf
  | crlf
  | cr
deriving Repr, DecidableEq

namespace Newline

/-- The characters of a line end. -/
def chars : Newline → List Char
  | lf => ['\n']
  | crlf => ['\r', '\n']
  | cr => ['\r']

/-- The line end with this text. -/
def ofText? (s : String) : Option Newline := [lf, crlf, cr].find? fun n => String.ofList n.chars = s

/-- A text with its line feeds written as line ends of one kind. -/
def apply (n : Newline) (cs : List Char) : List Char :=
  cs.flatMap fun c => if c = '\n' then n.chars else [c]

/-- A line end is read from its own text. -/
theorem ofText?_chars (n : Newline) : ofText? (String.ofList n.chars) = some n := by
  cases n <;> decide +kernel

/-- Line feeds as line ends are what they are. -/
@[simp] theorem apply_lf (cs : List Char) : lf.apply cs = cs := by
  induction cs with
  | nil => rfl
  | cons c rest ih =>
    by_cases h : c = '\n'
    · simpa [apply, chars, h] using ih
    · simpa [apply, h] using ih

end Newline

end StaticAccessors.Text
