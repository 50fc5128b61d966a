import StaticAccessors.Value.Scalar

/-!
# Writing JSON

Objects and lists are written one element a line, indented by two spaces a level; the empty ones on
one line. A string keeps every character but quotes, backslashes and control characters.
-/

namespace StaticAccessors.Json

/-- One character inside a string. -/
def escapeChar (c : Char) : List Char :=
  if c = '"' || c = '\\' then ['\\', c]
  else if c = '\n' then ['\\', 'n']
  else if c = '\r' then ['\\', 'r']
  else if c = '\t' then ['\\', 't']
  else if c = '\x08' then ['\\', 'b']
  else if c = '\x0c' then ['\\', 'f']
  else if c.toNat < 0x20 then '\\' :: 'u' :: hexText 4 c.toNat
  else [c]

/-- A string between quotes. -/
def printString (s : String) : String :=
  String.ofList ('"' :: s.toList.flatMap escapeChar ++ ['"'])

/-- A double: digits as in a value's text, with names for the three that are no numbers. -/
def printFloat (x : Float) : String :=
  match Decimal.Binary.ofFloat x with
  | .nan => "NaN"
  | .infinite negative => if negative then "-Infinity" else "Infinity"
  | .finite .. => floatText x

/-- A line end and the indentation of a level. -/
def newLine (level : Nat) : String := "\n" ++ String.ofList (List.replicate (2 * level) ' ')

mutual
/-- A value inside `level` lists and objects. -/
def printAt (level : Nat) : Value → String
  | .null      => "null"
  | .bool b    => if b then "true" else "false"
  | .int n     => toString n
  | .float x   => printFloat x
  | .text s    => printString s
  | .list []   => "[]"
  | .list (x :: xs) => "[" ++ newLine (level + 1) ++ printAt (level + 1) x ++ printRest (level + 1) xs ++
      newLine level ++ "]"
  | .object [] => "\x7b\x7d"
  | .object ((k, v) :: fs) => "\x7b" ++ newLine (level + 1) ++ printString k ++ ": " ++
      printAt (level + 1) v ++ printFields (level + 1) fs ++ newLine level ++ "\x7d"

/-- The elements of a list after the first. -/
def printRest (level : Nat) : List Value → String
  | [] => ""
  | x :: xs => "," ++ newLine level ++ printAt level x ++ printRest level xs

/-- The fields of an object after the first. -/
def printFields (level : Nat) : List (String × Value) → String
  | [] => ""
  | (k, v) :: fs => "," ++ newLine level ++ printString k ++ ": " ++ printAt level v ++
      printFields level fs
end

/-- A whole document. -/
def print (v : Value) : String := printAt 0 v

/-- The name of the field that stands for a scalar as a key. -/
def fieldName (k : Scalar) : String :=
  match k.value with
  | .text s => s
  | v => print v

/-- Entries as a document; keys that differ only in kind give fields of one name. -/
def printEntries (entries : Entries) : String :=
  print (.object (entries.map fun (k, v) => (fieldName k, v)))

end StaticAccessors.Json
