import StaticAccessors.Console.Emoji
import StaticAccessors.Console.Literal
import StaticAccessors.Console.Style
import StaticAccessors.Fault
import StaticAccessors.Text.Alphanumeric

/-!
# Markup

Texts for the console carry tags in brackets that set a style until they are closed. A tag starts with
a lower case letter or one of a few signs; other brackets are text. A backslash before a tag makes it
text. What follows an equals sign in a tag is its parameter. A tag whose name starts with an at sign
stands for a handler, and its parameter for a call.

`Markup.read` leaves out the tags and puts pictures in the place of their names. It refuses a text that
closes what is not open, or a call of which the argument is no literal.

## Contents
- `Piece` and `pieces`: a text cut at its tags.
- `Tag`, `Reading` and `Markup.read`.
-/

namespace StaticAccessors.Console.Markup

open Text (isAlphanumeric trim)

/-! ## Pieces -/

/-- The characters a tag may start with. -/
def isTagStart (c : Char) : Bool := ('a' ≤ c && c ≤ 'z') || c = '#' || c = '/' || c = '@'

/-- The rest of a tag up to its closing bracket, and what follows. No bracket may open inside. -/
def insideTag : List Char → Option (List Char × List Char)
  | [] => none
  | ']' :: rest => some ([], rest)
  | '[' :: _ => none
  | c :: rest => (insideTag rest).map fun (tag, after) => (c :: tag, after)

/-- The tag after an opening bracket, if there is one, and what follows. -/
def tagAfter : List Char → Option (List Char × List Char)
  | [] => none
  | c :: rest =>
    if isTagStart c then (insideTag rest).map fun (tag, after) => (c :: tag, after) else none

/-- A stretch of text, or the inside of a tag. -/
inductive Piece
  | text (cs : List Char)
  | tag (cs : List Char)
deriving Repr, DecidableEq

/-- Cuts a text at its tags. `before` is the text since the last cut, back to front, `slashes` counts the
backslashes after it, and `fuel` bounds the length of the rest. -/
def piecesFrom : Nat → List Char → Nat → List Char → List Piece
  | 0, _, _, _ => []
  | _ + 1, before, slashes, [] => [.text (before.reverse ++ List.replicate slashes '\\')]
  | fuel + 1, before, slashes, '\\' :: rest => piecesFrom fuel before (slashes + 1) rest
  | fuel + 1, before, slashes, '[' :: rest =>
    match tagAfter rest with
    | none => piecesFrom fuel ('[' :: List.replicate (slashes - 1) '\\' ++ before) 0 rest
    | some (tag, after) =>
      .text before.reverse :: .text (List.replicate (slashes / 2) '\\') ::
        (if slashes % 2 = 1 then .text ('[' :: tag ++ [']']) else .tag tag) :: piecesFrom fuel [] 0 after
  | fuel + 1, before, slashes, c :: rest =>
    piecesFrom fuel (c :: List.replicate slashes '\\' ++ before) 0 rest

/-- A text cut at its tags. -/
def pieces (cs : List Char) : List Piece := piecesFrom (cs.length + 1) [] 0 cs

/-! ## Tags -/

/-- An open tag: its name in canonical form, and its parameter. -/
structure Tag where
  name : String
  parameter : Option (List Char)
deriving Repr, DecidableEq

/-- Whether a tag stands for a handler. -/
def Tag.isHandler (t : Tag) : Bool := t.name.toList.head? = some '@'

/-- The style of a tag, with its parameter as further words. -/
def Tag.styleText (t : Tag) : String :=
  match t.parameter with
  | none => t.name
  | some cs => t.name ++ " " ++ String.ofList cs

/-- The fault of a style. -/
def faultOf : StyleProblem → Fault
  | .notAStyle => .markup
  | .notANumber => .badValue

/-- The canonical form of a name. -/
def canonical (cs : List Char) : Except Fault String := (Style.canonical (String.ofList cs)).mapError faultOf

/-- The argument of a call, in parentheses: the name of what is called stands before it, and without an
argument there are empty parentheses. What is no call is an argument itself. -/
def argumentOf (call : List Char) : List Char :=
  let argument := call.dropWhile fun c => isAlphanumeric c || c = '_' || c = '.'
  if argument.isEmpty then ['(', ')']
  else if argument.head? = some '(' && argument.getLast? = some ')' && !argument.contains '\n' then argument
  else call

/-- Closes a tag. The parameter of a handler has to be a call. -/
def Tag.close (t : Tag) : Except Fault Unit :=
  match t.parameter with
  | none => .ok ()
  | some cs =>
    let call := (trim (String.ofList cs)).toList
    if !t.isHandler || cs.isEmpty || Literal.isLiteral (argumentOf call) then .ok () else .error .markup

/-- Refuses a style that cannot be used, though its name is known. -/
def Tag.check (t : Tag) : Except Fault Unit :=
  if t.isHandler then .ok ()
  else
    match Style.parse t.styleText with
    | .error .notANumber => .error .badValue
    | _ => .ok ()

/-- Takes the innermost tag of a name from the open ones. -/
def takeTag (name : String) : List Tag → Option (Tag × List Tag)
  | [] => none
  | t :: outer =>
    if t.name = name then some (t, outer)
    else (takeTag name outer).map fun (found, others) => (found, t :: others)

/-- The name and the parameter of a tag. -/
def cutParameter (cs : List Char) : List Char × Option (List Char) :=
  let name := cs.takeWhile (· ≠ '=')
  match cs.drop name.length with
  | _ :: parameter => (name, some parameter)
  | [] => (name, none)

/-- Closes a tag by its name, or the innermost one if there is no name. -/
def closeBy (tags : List Tag) (name : List Char) : Except Fault (List Tag) := do
  let name := trim (String.ofList name)
  let found ←
    if name = "" then pure (tags.head?.map fun t => (t, tags.tail))
    else (canonical name.toList).map fun name => takeTag name tags
  match found with
  | none => throw .markup
  | some (t, others) => do
    t.close
    return others

/-! ## Texts -/

/-- Where reading a text has got to: the open tags, innermost first, all tags that were opened, and the text
without tags, back to front. -/
structure Progress where
  openTags : List Tag
  allTags : List Tag
  text : List (List Char)

/-- Reads one piece. -/
def Progress.read (p : Progress) : Piece → Except Fault Progress
  | .text cs => .ok { p with text := Emoji.replace cs :: p.text }
  | .tag cs => do
    match cutParameter cs with
    | ('/' :: name, _) => do
      let openTags ← closeBy p.openTags name
      return { p with openTags }
    | (name, parameter) => do
      let t : Tag := ⟨← canonical name, parameter⟩
      return { p with openTags := t :: p.openTags, allTags := t :: p.allTags }

/-- A text without its tags, and the tags that were opened in it. -/
structure Reading where
  text : List Char
  tags : List Tag

/-- Reads a text. Pictures take the place of their names. -/
def read (s : String) : Except Fault Reading :=
  ((pieces s.toList).foldlM Progress.read ⟨[], [], []⟩).map fun p => ⟨p.text.reverse.flatten, p.allTags⟩

/-- What is shown of a text, unless one of its styles cannot be used. -/
def Reading.plain (r : Reading) : Except Fault (List Char) := (r.tags.forM Tag.check).map fun _ => r.text

end StaticAccessors.Console.Markup
