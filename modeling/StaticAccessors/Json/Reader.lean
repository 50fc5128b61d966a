import StaticAccessors.Value.Basic

/-!
# Reading JSON

The reader accepts the JSON grammar with three more numbers (`NaN`, `Infinity` and `-Infinity`). A
number with a fraction or an exponent is a double, any other is a whole number of any size. Of two
fields with one name the later gives the value and the earlier the place. Inside a string no control
character may stand as it is. An escape may also name one half of a surrogate pair; a text is a row of
characters and has no such halves, so texts with lone ones are outside of what is described here, and the
reader puts U+FFFD in their place.

Lists and objects are followed as deep as the stack goes. The stack is no part of the grammar, so
`depthLimit` is an assumption about the machine and about how deep the reader is called.

A refusal names what was expected and where. Positions are counted in characters, and the reader
keeps them as the number of characters still to come, which every step knows from its rest.

## Contents
- `Json.Problem`, `Json.Refusal` and its message.
- `Json.read`: a whole text as a value.
-/

namespace StaticAccessors.Json

/-! ## Refusals -/

/-- What is wrong with a text. -/
inductive Problem
  | expectingValue
  | expectingName
  | expectingColon
  | expectingComma
  | unterminatedString
  | controlCharacter
  | invalidEscape
  | invalidUnicodeEscape
  | extraData
  | byteOrderMark
  /-- a whole number of more digits than are converted -/
  | tooManyDigits
  /-- a list or an object inside more of them than are followed -/
  | tooDeep
deriving Repr, DecidableEq

/-- The words for a problem. -/
def Problem.text : Problem → String
  | expectingValue       => "Expecting value"
  | expectingName        => "Expecting property name enclosed in double quotes"
  | expectingColon       => "Expecting ':' delimiter"
  | expectingComma       => "Expecting ',' delimiter"
  | unterminatedString   => "Unterminated string starting at"
  | controlCharacter     => "Invalid control character at"
  | invalidEscape        => "Invalid \\escape"
  | invalidUnicodeEscape => "Invalid \\uXXXX escape"
  | extraData            => "Extra data"
  | byteOrderMark        => "Unexpected UTF-8 BOM (decode using utf-8-sig)"
  | tooManyDigits        => "Exceeds the limit (4300 digits) for integer string conversion"
  | tooDeep              => "Nested too deeply"

/-- A problem and its place: line and column count from one, the offset from zero. -/
structure Refusal where
  problem : Problem
  line : Nat
  column : Nat
  offset : Nat
deriving Repr, DecidableEq

/-- The words for a refusal. -/
def Refusal.message (r : Refusal) : String :=
  r.problem.text ++ ": line " ++ toString r.line ++ " column " ++ toString r.column ++
    " (char " ++ toString r.offset ++ ")"

/-- A problem found where `left` characters are still to come. -/
structure Stop where
  problem : Problem
  left : Nat
deriving Repr, DecidableEq

/-- The refusal of a text in which a problem was found. -/
def Stop.inText (stop : Stop) (cs : List Char) : Refusal :=
  let offset := cs.length - stop.left
  let before := cs.take offset
  ⟨stop.problem, before.count '\n' + 1, (before.reverse.takeWhile (· ≠ '\n')).length + 1, offset⟩

/-! ## Lexical parts -/

/-- The four characters that may stand between tokens. -/
def isSpace (c : Char) : Bool := c = ' ' || c = '\t' || c = '\n' || c = '\r'

/-- Drops the space in front. -/
def skipSpace (cs : List Char) : List Char := cs.dropWhile isSpace

/-- The value of a hexadecimal digit. -/
def hexValue? (c : Char) : Option Nat :=
  if '0' ≤ c && c ≤ '9' then some (c.toNat - '0'.toNat)
  else if 'a' ≤ c && c ≤ 'f' then some (c.toNat - 'a'.toNat + 10)
  else if 'A' ≤ c && c ≤ 'F' then some (c.toNat - 'A'.toNat + 10)
  else none

/-- The number four hexadecimal digits stand for. -/
def hexFour? (cs : List Char) : Option Nat :=
  match cs.mapM hexValue? with
  | some [a, b, c, d] => some (((a * 16 + b) * 16 + c) * 16 + d)
  | _ => none

/-- The second half of a pair of escapes, when one follows at once. -/
def lowSurrogate? : List Char → Except Stop (Option (Nat × List Char))
  | '\\' :: 'u' :: a :: b :: c :: d :: next :: rest =>
    match hexFour? [a, b, c, d] with
    | none => .error ⟨.invalidUnicodeEscape, (next :: rest).length + 5⟩
    | some code =>
      if 0xdc00 ≤ code && code ≤ 0xdfff then .ok (some (code, next :: rest)) else .ok none
  | _ => .ok none

/-- What a one-letter escape stands for. -/
def simpleEscape? (c : Char) : Option Char :=
  match c with
  | '"' => some '"'
  | '\\' => some '\\'
  | '/' => some '/'
  | 'b' => some '\x08'
  | 'f' => some '\x0c'
  | 'n' => some '\n'
  | 'r' => some '\r'
  | 't' => some '\t'
  | _ => none

/-- The rest of a string after its opening quote, with what follows the closing one; `opened` is
what was still to come at the opening quote, `done` the characters read so far in reverse. U+FFFD stands for
an escaped half of a surrogate pair without the other one, which no text can hold. -/
def readString (opened : List Char) : Nat → List Char → List Char → Except Stop (String × List Char)
  | 0, _, _ => .error ⟨.unterminatedString, opened.length⟩
  | fuel + 1, done, cs =>
    match cs with
    | [] => .error ⟨.unterminatedString, opened.length⟩
    | '"' :: rest => .ok (String.ofList done.reverse, rest)
    | ['\\'] => .error ⟨.unterminatedString, opened.length⟩
    | '\\' :: 'u' :: rest =>
      match rest with
      | a :: b :: c :: d :: next :: more =>
        match hexFour? [a, b, c, d] with
        | none => .error ⟨.invalidUnicodeEscape, (next :: more).length + 5⟩
        | some code =>
          if 0xd800 ≤ code && code ≤ 0xdbff then
            match lowSurrogate? (next :: more) with
            | .error stop => .error stop
            | .ok (some (low, after)) =>
              let joined := 0x10000 + (code - 0xd800) * 0x400 + (low - 0xdc00)
              readString opened fuel (Char.ofNat joined :: done) after
            | .ok none => readString opened fuel ('\ufffd' :: done) (next :: more)
          else if 0xdc00 ≤ code && code ≤ 0xdfff then
            readString opened fuel ('\ufffd' :: done) (next :: more)
          else readString opened fuel (Char.ofNat code :: done) (next :: more)
      | _ => .error ⟨.invalidUnicodeEscape, rest.length + 1⟩
    | '\\' :: c :: rest =>
      match simpleEscape? c with
      | some e => readString opened fuel (e :: done) rest
      | none => .error ⟨.invalidEscape, rest.length + 2⟩
    | c :: rest =>
      if c.toNat < 0x20 then .error ⟨.controlCharacter, rest.length + 1⟩
      else readString opened fuel (c :: done) rest

/-- The run of digits in front and what follows it. -/
def takeDigits (cs : List Char) : List Char × List Char := (cs.takeWhile Char.isDigit, cs.dropWhile Char.isDigit)

/-- The number a run of digits stands for. -/
def digitsValue (cs : List Char) : Nat := cs.foldl (fun n c => n * 10 + (c.toNat - '0'.toNat)) 0

/-- Whole numbers of more digits than this are not converted. -/
def digitLimit : Nat := 4300

/-- The fraction in front, if a digit follows the point. -/
def takeFraction : List Char → List Char × List Char
  | '.' :: c :: rest => if c.isDigit then takeDigits (c :: rest) else ([], '.' :: c :: rest)
  | cs => ([], cs)

/-- The exponent in front, if it has a digit. -/
def takeExponent (cs : List Char) : Option (Int × List Char) :=
  let unsigned (negative : Bool) (rest : List Char) : Option (Int × List Char) :=
    match takeDigits rest with
    | ([], _) => none
    | (ds, after) =>
      let n : Int := digitsValue ds
      some (if negative then -n else n, after)
  match cs with
  | e :: '+' :: rest => if e = 'e' || e = 'E' then unsigned false rest else none
  | e :: '-' :: rest => if e = 'e' || e = 'E' then unsigned true rest else none
  | e :: rest => if e = 'e' || e = 'E' then unsigned false rest else none
  | [] => none

/-- A number without its sign, which begins at `start`. No digit but a lone zero starts with zero. -/
def readUnsigned (negative : Bool) (start : List Char) (cs : List Char) : Except Stop (Value × List Char) :=
  let whole :=
    match cs with
    | '0' :: rest => (['0'], rest)
    | _ => takeDigits cs
  match whole with
  | ([], _) => .error ⟨.expectingValue, start.length⟩
  | (ds, afterWhole) =>
    let (fraction, afterFraction) := takeFraction afterWhole
    let exponent := takeExponent afterFraction
    match fraction, exponent with
    | [], none =>
      if ds.length > digitLimit then .error ⟨.tooManyDigits, start.length⟩
      else
        let n : Int := digitsValue ds
        .ok (.int (if negative then -n else n), afterWhole)
    | _, _ =>
      let (e, after) := exponent.getD (0, afterFraction)
      .ok (.float (Decimal.ofDecimal negative (digitsValue (ds ++ fraction)) (e - fraction.length)),
        after)

/-- The rest of a text that begins with `word`. -/
def dropWord? (word : String) (cs : List Char) : Option (List Char) :=
  if word.toList.isPrefixOf cs then some (cs.drop word.length) else none

/-! ## Values -/

/-- Lists and objects are assumed to be followed to this depth. The grammar sets no such bound: a reader with
a larger stack, or one that is called from deeper inside a program, has another one. -/
def depthLimit : Nat := 985

mutual
/-- The value in front and what follows it; `room` is how many lists and objects may still be
entered. Each step of the recursion consumes a character, so fuel above the length of the text never
runs out. -/
def readValue (room : Nat) : Nat → List Char → Except Stop (Value × List Char)
  | 0, cs => .error ⟨.expectingValue, cs.length⟩
  | fuel + 1, cs =>
    match cs with
    | [] => .error ⟨.expectingValue, 0⟩
    | '"' :: rest => (readString cs fuel [] rest).map fun (s, after) => (.text s, after)
    | '\x7b' :: rest =>
      match room, skipSpace rest with
      | 0, _ => .error ⟨.tooDeep, cs.length⟩
      | _, '\x7d' :: after => .ok (.object [], after)
      | room + 1, members => readMembers room fuel [] members
    | '[' :: rest =>
      match room, skipSpace rest with
      | 0, _ => .error ⟨.tooDeep, cs.length⟩
      | _, ']' :: after => .ok (.list [], after)
      | room + 1, elements => readElements room fuel [] elements
    | 'n' :: _ => readWord cs "null" .null
    | 't' :: _ => readWord cs "true" (.bool true)
    | 'f' :: _ => readWord cs "false" (.bool false)
    | 'N' :: _ => readWord cs "NaN" (.float (Float.ofBits 0x7ff8000000000000))
    | 'I' :: _ => readWord cs "Infinity" (.float (Float.ofBits 0x7ff0000000000000))
    | '-' :: rest =>
      match dropWord? "Infinity" rest with
      | some after => .ok (.float (Float.ofBits 0xfff0000000000000), after)
      | none => readUnsigned true cs rest
    | _ => readUnsigned false cs cs
where
  /-- One of the words that stand for a value. -/
  readWord (cs : List Char) (word : String) (v : Value) : Except Stop (Value × List Char) :=
    match dropWord? word cs with
    | some after => .ok (v, after)
    | none => .error ⟨.expectingValue, cs.length⟩

/-- The elements of a list from the next one on. -/
def readElements (room : Nat) : Nat → List Value → List Char → Except Stop (Value × List Char)
  | 0, _, cs => .error ⟨.expectingValue, cs.length⟩
  | fuel + 1, done, cs =>
    match readValue room fuel cs with
    | .error stop => .error stop
    | .ok (v, after) =>
      match skipSpace after with
      | ']' :: rest => .ok (.list (v :: done).reverse, rest)
      | ',' :: rest => readElements room fuel (v :: done) (skipSpace rest)
      | other => .error ⟨.expectingComma, other.length⟩

/-- The members of an object from the next one on. -/
def readMembers (room : Nat) : Nat → Fields → List Char → Except Stop (Value × List Char)
  | 0, _, cs => .error ⟨.expectingName, cs.length⟩
  | fuel + 1, done, cs =>
    match cs with
    | '"' :: rest =>
      match readString cs fuel [] rest with
      | .error stop => .error stop
      | .ok (name, afterName) =>
        match skipSpace afterName with
        | ':' :: beforeValue =>
          match readValue room fuel (skipSpace beforeValue) with
          | .error stop => .error stop
          | .ok (v, after) =>
            match skipSpace after with
            | '\x7d' :: final => .ok (.object (Table.put done name v), final)
            | ',' :: more => readMembers room fuel (Table.put done name v) (skipSpace more)
            | other => .error ⟨.expectingComma, other.length⟩
        | other => .error ⟨.expectingColon, other.length⟩
    | _ => .error ⟨.expectingName, cs.length⟩
end

/-- Reads a list of characters that holds one value and nothing but space around it. -/
def readChars (cs : List Char) : Except Stop Value :=
  match cs with
  | '\ufeff' :: _ => .error ⟨.byteOrderMark, cs.length⟩
  | _ =>
    match readValue depthLimit (cs.length + 1) (skipSpace cs) with
    | .error stop => .error stop
    | .ok (v, after) =>
      match skipSpace after with
      | [] => .ok v
      | rest => .error ⟨.extraData, rest.length⟩

/-- Reads a whole text. -/
def read (s : String) : Except Refusal Value :=
  match readChars s.toList with
  | .ok v => .ok v
  | .error stop => .error (stop.inText s.toList)

end StaticAccessors.Json
