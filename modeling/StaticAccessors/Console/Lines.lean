import StaticAccessors.Console.Markup
import StaticAccessors.Console.Wrap
import StaticAccessors.Text.Lines

/-!
# Lines on the console

What is printed becomes lines: tabs become spaces, and characters that would move the cursor are left
out. Messages carry markup and are broken at the width of the console, and so are the cells of tables at
the width of their column. Code is cut off.

## Contents
- `messageLines`, `codeLines`.
- `tableLines`.
-/

namespace StaticAccessors.Console

open Text (splitChar unifyLines)

/-- How many cells a line of the console has. -/
def consoleWidth : Nat := 1000

/-- Characters that would move the cursor. -/
def isCursorControl (c : Char) : Bool := [7, 8, 11, 12, 13].contains c.toNat

/-- The tab stops of messages. -/
def messageTab : Nat := 8

/-- What is shown of a text with markup. -/
def shownText (r : Markup.Reading) : Except Fault (List Char) := r.plain.map (·.filter (!isCursorControl ·))

/-- The lines of a text of a width. -/
def textLines (width : Nat) (overflow : Overflow) (cs : List Char) : List String :=
  ((splitChar '\n' cs).flatMap fun line => wrap width overflow (tabbed messageTab line)).map String.ofList

/-- The lines of a message. -/
def messageLines (s : String) : Except Fault (List String) :=
  (Markup.read s >>= shownText).map (textLines consoleWidth .fold)

/-! ## Code -/

/-- Fills tabs with spaces up to the next multiple of `width` characters; `column` is where the text
starts. -/
def expandTabs (width column : Nat) : List Char → List Char
  | [] => []
  | c :: rest =>
    if c = '\t' then
      let gap := width - column % width
      List.replicate gap ' ' ++ expandTabs width (column + gap) rest
    else if c = '\n' || c = '\r' then c :: expandTabs width 0 rest
    else c :: expandTabs width (column + 1) rest

/-- The tab stops of code. -/
def codeTab : Nat := 4

/-- A mark at the start of code that is not shown. -/
def orderMark : Char := Char.ofNat 0xfeff

/-- Code without the mark at its start. -/
def dropMark : List Char → List Char
  | c :: rest => if c = orderMark then rest else c :: rest
  | [] => []

/-- The lines of code. -/
def codeLines (s : String) : List String :=
  let shown := (unifyLines (dropMark (expandTabs codeTab 0 s.toList))).filter (!isCursorControl ·)
  (splitChar '\n' shown).map fun line =>
    String.ofList (cutOff consoleWidth .fold (dropHanging consoleWidth line))

/-! ## Tables -/

/-- Whether a character ends a line where cells are measured. -/
def isMeasureEnd (c : Char) : Bool :=
  [0x0a, 0x1c, 0x1d, 0x1e, 0x85, 0x2028, 0x2029].contains c.toNat

/-- How many cells the widest line of a text takes. A tab takes none here. -/
def measure (cs : List Char) : Nat :=
  (splitChar '\n' (cs.map fun c => if isMeasureEnd c then '\n' else c)).foldl
    (fun widest line => max widest (cellCount line)) 0

/-- How many cells the frame of a table takes besides its columns, which have a blank at either side. -/
def frameWidth (columns : Nat) : Nat := columns + 1 + 2 * columns

/-- The widths of columns. The last one has what the others leave. -/
def columnWidths (frame : Nat) : List Nat → List Nat
  | [] => []
  | [last] => [min last (consoleWidth - frame)]
  | first :: more => first :: columnWidths (frame + first) more

/-- The greatest number in each place. -/
def greatest : List (List Nat) → List Nat
  | [] => []
  | row :: rest => rest.foldl (fun sizes more => List.zipWith max sizes more) row

/-- Text side by side, line by line; a cell that has fewer lines than another is blank there. `height`
bounds the number of lines. -/
def sideBySide : Nat → List (List String) → List String
  | 0, _ => []
  | height + 1, cells =>
    String.intercalate "  " (cells.map fun lines => lines.headD "") ::
      sideBySide height (cells.map List.tail)

/-- The lines of a row of cells. -/
def rowLines (widths : List Nat) (cells : List (List Char)) : List String :=
  let lines := List.zipWith (fun width cell => textLines width .ellipsis cell) widths cells
  sideBySide ((lines.map List.length).foldl max 0) lines

/-- The lines of a table with a title above its rows, which all have a cell for each column. -/
def tableLines (title : String) (rows : List (List String)) : Except Fault (List String) := do
  let readings ← rows.mapM (·.mapM Markup.read)
  let cells ← readings.mapM (·.mapM shownText)
  let sizes := greatest (cells.map (·.map measure))
  return title :: cells.flatMap (rowLines (columnWidths (frameWidth sizes.length) sizes))

end StaticAccessors.Console
