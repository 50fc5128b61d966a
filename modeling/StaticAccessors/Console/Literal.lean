import StaticAccessors.Json.Reader
import StaticAccessors.Text.Lines

/-!
# Literals

The argument of a handler is a literal: a number, a text, one of four constants, or a sequence, a set or a
table of literals. Numbers may have a sign, and a real number may be added to an imaginary one. The
elements of sets and the keys of tables are not sets or tables themselves, not even inside sequences.

Nothing is computed here: `isLiteral` says whether a text is a literal.

## Contents
- `Token` and `tokens`.
- `Form`: what there is to know about a literal.
- `isLiteral`.
-/

namespace StaticAccessors.Console.Literal

open Text (unifyLines)

/-! ## Tokens -/

/-- A word or a sign of a literal. -/
inductive Token
  | number (imaginary : Bool)
  | text (bytes : Bool)
  | constant
  /-- the name that makes an empty set -/
  | setName
  | sign
  | comma
  | colon
  | open_
  | close
  | openBrace
  | closeBrace
  | lineEnd
deriving Repr, DecidableEq

/-- How deep brackets may be nested. -/
def depthLimit : Nat := 200

/-- A character that may go on with a name. -/
def isNamePart (c : Char) : Bool := c.isAlphanum || c = '_' || 0x80 ≤ c.toNat

/-- Digits of which single ones are separated by underscores, and what follows them. At least one digit has
to come first. -/
def digitsBy (isDigit : Char → Bool) : List Char → Option (List Char × List Char)
  | [] => none
  | [c] => if isDigit c then some ([c], []) else none
  | c :: d :: rest =>
    if !isDigit c then none
    else if d = '_' then (digitsBy isDigit rest).map fun (digits, after) => (c :: digits, after)
    else if isDigit d then (digitsBy isDigit (d :: rest)).map fun (digits, after) => (c :: digits, after)
    else some ([c], d :: rest)

/-- Decimal digits. -/
def decimals : List Char → Option (List Char × List Char) := digitsBy Char.isDigit

/-- A hexadecimal digit. -/
def isHex (c : Char) : Bool := c.isDigit || ('a' ≤ c && c ≤ 'f') || ('A' ≤ c && c ≤ 'F')

/-- The digits of a number in another base than ten, by the letter after its zero. -/
def baseOf? (c : Char) : Option (Char → Bool) :=
  if c = 'x' || c = 'X' then some isHex
  else if c = 'o' || c = 'O' then some fun d => '0' ≤ d && d ≤ '7'
  else if c = 'b' || c = 'B' then some fun d => d = '0' || d = '1'
  else none

/-- What follows an exponent, if there is one. -/
def afterExponent : List Char → Option (Bool × List Char)
  | [] => some (false, [])
  | c :: rest =>
    if c = 'e' || c = 'E' then
      let digits := match rest with
        | '+' :: digits | '-' :: digits => digits
        | digits => digits
      (decimals digits).map fun (_, after) => (true, after)
    else some (false, c :: rest)

/-- What follows a fraction, if there is one. -/
def afterFraction : List Char → Option (Bool × List Char)
  | '.' :: rest =>
    match rest with
    | c :: _ => if c.isDigit then (decimals rest).map fun (_, after) => (true, after) else some (true, rest)
    | [] => some (true, [])
  | rest => some (false, rest)

/-- A number with what follows it. A whole number starts with zero only if it is zero. -/
def number (cs : List Char) : Option (Token × List Char) := do
  let based := match cs with
    | '0' :: c :: rest => (baseOf? c).map fun isDigit => (isDigit, rest)
    | _ => none
  let (token, rest) ← match based with
    | some (isDigit, rest) => do
      let (_, rest) ← digitsBy isDigit (if rest.head? = some '_' then rest.tail else rest)
      pure (Token.number false, rest)
    | none => do
      let (whole, rest) ← if cs.head? = some '.' then some ([], cs) else decimals cs
      let (hasFraction, rest) ← afterFraction rest
      let (hasExponent, rest) ← afterExponent rest
      match rest with
      | 'j' :: rest | 'J' :: rest => pure (Token.number true, rest)
      | _ =>
        if hasFraction || hasExponent then pure (Token.number false, rest)
        else if whole.head? = some '0' && whole.any (· ≠ '0') then none
        else if Json.digitLimit < whole.length then none
        else pure (Token.number false, rest)
  if rest.head?.any isNamePart then none else some (token, rest)

/-! ## Texts -/

/-- The characters up to the closing quotes, and what follows them. A backslash takes the next character
with it. Single quotes close on the same line. -/
def inside (quote : Char) (long : Bool) : List Char → Option (List Char × List Char)
  | [] => none
  | '\\' :: c :: rest => (inside quote long rest).map fun (cs, after) => ('\\' :: c :: cs, after)
  | c :: rest =>
    if c = quote then
      if !long then some ([], rest)
      else
        match rest with
        | d :: e :: after =>
          if d = quote && e = quote then some ([], after)
          else (inside quote long rest).map fun (cs, after) => (c :: cs, after)
        | _ => none
    else if c = '\n' && !long then none
    else (inside quote long rest).map fun (cs, after) => (c :: cs, after)

/-- The largest code point. -/
def codeLimit : Nat := 0x10ffff

/-- The number that hexadecimal digits write. -/
def hexValue (cs : List Char) : Nat :=
  cs.foldl (fun n c =>
    16 * n + (if c.isDigit then c.toNat - '0'.toNat else c.toLower.toNat - 'a'.toNat + 10)) 0

/-- How many hexadecimal digits follow the letter of an escape. -/
def escapeWidth (bytes : Bool) (c : Char) : Nat :=
  if c = 'x' then 2 else if bytes then 0 else if c = 'u' then 4 else if c = 'U' then 8 else 0

/-- Whether all escapes are complete; `fuel` bounds the length. -/
def escapesHold (bytes : Bool) : Nat → List Char → Bool
  | 0, _ => true
  | _ + 1, [] => true
  | fuel + 1, '\\' :: c :: rest =>
    if c = 'N' && !bytes then
      match rest with
      | '\x7b' :: rest =>
        let name := rest.takeWhile (· ≠ '\x7d')
        !name.isEmpty && name.length < rest.length && escapesHold bytes fuel (rest.drop (name.length + 1))
      | _ => false
    else
      let digits := rest.take (escapeWidth bytes c)
      digits.length = escapeWidth bytes c && digits.all isHex && hexValue digits ≤ codeLimit &&
        escapesHold bytes fuel (rest.drop digits.length)
  | fuel + 1, _ :: rest => escapesHold bytes fuel rest

/-- A text with what follows it, from its quotes on. -/
def quoted (bytes raw : Bool) (cs : List Char) : Option (Token × List Char) := do
  let quote ← cs.head?
  let long := cs.take 3 = [quote, quote, quote]
  let (content, rest) ← inside quote long (cs.drop (if long then 3 else 1))
  if bytes && content.any (fun c => 0x80 ≤ c.toNat) then none
  else if !raw && !escapesHold bytes content.length content then none
  else some (.text bytes, rest)

/-- Whether a character is a quote. -/
def isQuote (c : Char) : Bool := c = '\'' || c = '"'

/-- What letters before a quote say about a text: whether it is one of bytes, and whether it is raw. -/
def textKind? (letters : List Char) : Option (Bool × Bool) :=
  [("", false, false), ("u", false, false), ("r", false, true), ("b", true, false), ("br", true, true),
    ("rb", true, true)].lookup (String.ofList (letters.map Char.toLower))

/-- A text with letters before it, or a name, and what follows it. -/
def named (cs : List Char) : Option (Token × List Char) :=
  let name := cs.takeWhile isNamePart
  let rest := cs.drop name.length
  if rest.head?.any isQuote then
    match textKind? name with
    | some (bytes, raw) => quoted bytes raw rest
    | none => none
  else
    match String.ofList name with
    | "True" | "False" | "None" => some (.constant, rest)
    | "set" => some (.setName, rest)
    | _ => none

/-! ## Lines -/

/-- Whether what follows blanks at the start of a line counts for nothing. -/
def isIdle (cs : List Char) : Bool :=
  match cs.dropWhile fun c => c = ' ' || c = '\t' || c = '\x0c' with
  | [] => true
  | c :: _ => c = '#' || c = '\n'

/-- The tokens of a text. `depth` counts the open brackets, and `fresh` says that nothing stands on the line
yet; `fuel` bounds the length. -/
def tokensFrom : Nat → Nat → Bool → List Char → Option (List Token)
  | 0, _, _, _ => some []
  | _ + 1, _, _, [] => some []
  | fuel + 1, depth, fresh, c :: rest =>
    let one (token : Token) (depth : Nat) := (tokensFrom fuel depth false rest).map (token :: ·)
    let more (read : Option (Token × List Char)) :=
      match read with
      | some (token, rest) => (tokensFrom fuel depth false rest).map (token :: ·)
      | none => none
    if c = '\x0c' then tokensFrom fuel depth fresh rest
    else if c = ' ' || c = '\t' then
      if fresh && depth = 0 && !isIdle rest then none else tokensFrom fuel depth fresh rest
    else if c = '\n' then
      if depth = 0 && !fresh then (tokensFrom fuel depth true rest).map (.lineEnd :: ·)
      else tokensFrom fuel depth fresh rest
    else if c = '#' then tokensFrom fuel depth fresh (rest.dropWhile (· ≠ '\n'))
    else if c = '\\' then
      match rest with
      | '\n' :: d :: rest => tokensFrom fuel depth false (d :: rest)
      | _ => none
    else if c = '(' || c = '\x7b' then
      if depth < depthLimit then one (if c = '(' then .open_ else .openBrace) (depth + 1) else none
    else if c = ')' then one .close (depth - 1)
    else if c = '\x7d' then one .closeBrace (depth - 1)
    else if c = ',' then one .comma depth
    else if c = ':' then one .colon depth
    else if c = '+' || c = '-' then one .sign depth
    else if c = '.' && rest.take 2 = ['.', '.'] then more (some (.constant, rest.drop 2))
    else if c.isDigit || (c = '.' && rest.head?.any Char.isDigit) then more (number (c :: rest))
    else if isQuote c || isNamePart c then more (named (c :: rest))
    else none

/-- The tokens of a text. -/
def tokens (cs : List Char) : Option (List Token) :=
  let cs := unifyLines cs
  if cs.contains '\x00' then none else tokensFrom (cs.length + 1) 0 true cs

/-! ## Literals -/

/-- What there is to know about a literal. -/
inductive Form
  /-- a number without a sign -/
  | number (imaginary : Bool)
  /-- a number with a sign -/
  | signed (imaginary : Bool)
  /-- anything else that may be the element of a set -/
  | element
  /-- a set or a table, or a sequence that holds one -/
  | loose
deriving Repr, DecidableEq

/-- The form of a sequence. -/
def Form.ofSequence (forms : List Form) : Form := if forms.contains .loose then .loose else .element

/-- The form of two literals with a sign between them: a real number and an imaginary one. -/
def Form.sum? (left right : Form) : Option Form :=
  match left, right with
  | .number false, .number true | .signed false, .number true => some .element
  | _, _ => none

mutual
/-- A literal, and what follows it. `fuel` bounds the steps here and below. -/
def literal : Nat → List Token → Option (Form × List Token)
  | 0, _ => none
  | fuel + 1, tokens => do
    let (left, rest) ← factor fuel tokens
    match rest with
    | .sign :: rest => do
      let (right, rest) ← factor fuel rest
      if rest.head? = some .sign then none else (left.sum? right).map (·, rest)
    | _ => some (left, rest)

/-- A literal that is no sum. -/
def factor : Nat → List Token → Option (Form × List Token)
  | 0, _ => none
  | fuel + 1, tokens =>
    match tokens with
    | .sign :: rest =>
      match factor fuel rest with
      | some (.number imaginary, rest) => some (.signed imaginary, rest)
      | _ => none
    | .number imaginary :: rest => some (.number imaginary, rest)
    | .text bytes :: rest =>
      let more := rest.dropWhile (· = .text bytes)
      if more.head? = some (.text (!bytes)) then none else some (.element, more)
    | .constant :: rest => some (.element, rest)
    | .setName :: .open_ :: .close :: rest => some (.loose, rest)
    | .open_ :: rest => do
      let (forms, single, rest) ← sequence fuel .close rest
      match forms, single with
      | [form], true => some (form, rest)
      | forms, _ => some (.ofSequence forms, rest)
    | .openBrace :: .closeBrace :: rest => some (.loose, rest)
    | .openBrace :: rest => braced fuel rest
    | _ => none

/-- Literals with commas between them up to the end of a sequence. Says whether the last of them stands
without a comma. -/
def sequence : Nat → Token → List Token → Option (List Form × Bool × List Token)
  | 0, _, _ => none
  | fuel + 1, stop, tokens =>
    if tokens.head? = some stop then some ([], false, tokens.tail)
    else do
      let (form, rest) ← literal fuel tokens
      match rest with
      | .comma :: rest => do
        let (forms, single, rest) ← sequence fuel stop rest
        some (form :: forms, single, rest)
      | token :: rest => if token = stop then some ([form], true, rest) else none
      | [] => none

/-- The rest of a set or a table that is not empty. -/
def braced : Nat → List Token → Option (Form × List Token)
  | 0, _ => none
  | fuel + 1, tokens => do
    let (first, rest) ← literal fuel tokens
    if first = .loose then none
    else if rest.head? = some .colon then table fuel tokens
    else
      let (forms, _, rest) ← sequence fuel .closeBrace tokens
      if forms.contains .loose then none else some (.loose, rest)

/-- The rest of a table from one of its keys on. -/
def table : Nat → List Token → Option (Form × List Token)
  | 0, _ => none
  | fuel + 1, tokens => do
    let (key, rest) ← literal fuel tokens
    if key = .loose then none
    else
      match rest with
      | .colon :: rest => do
        let (_, rest) ← literal fuel rest
        match rest with
        | .comma :: .closeBrace :: rest | .closeBrace :: rest => some (.loose, rest)
        | .comma :: rest => table fuel rest
        | _ => none
      | _ => none
end

/-- Whether tokens are a literal, or some literals with commas between them. -/
def areLiteral (tokens : List Token) : Bool :=
  let line := (tokens.reverse.dropWhile (· = .lineEnd)).reverse
  match sequence (4 * line.length + 8) .lineEnd (line ++ [.lineEnd]) with
  | some (forms, _, rest) => !forms.isEmpty && rest.isEmpty
  | none => false

/-- Whether a text is a literal. -/
def isLiteral (cs : List Char) : Bool := (tokens cs).any areLiteral

example : isLiteral "(1, 'a', {2: -3j},)".toList = true ∧ isLiteral "(x)".toList = false := by
  decide +kernel

end StaticAccessors.Console.Literal
