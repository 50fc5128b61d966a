import StaticAccessors.Text.DecimalDigit
import StaticAccessors.Value.Display

/-!
# Grammars of command lines

A command line consists of flags and of words for places. A flag may be shortened as long as it stays
clear which one is meant, and its value follows it as the next argument or after an equals sign. Two
hyphens end the flags. Arguments that nothing takes are left over, which the caller may refuse.

## Contents
- `Flag`, `Place`, `Grammar`.
- `Mark`: what an argument looks like before any is taken.
- `Reading` and `Grammar.read`.
-/

namespace StaticAccessors.Command

open Text (isDecimalDigit)

/-! ## Grammars -/

/-- What a flag does. -/
inductive Effect
  | help
  | version
  /-- the flag is noted -/
  | note
  /-- a value is taken, one of the choices if there are any -/
  | value (choices : List String)
deriving Repr, DecidableEq

/-- A flag with its names and the key of what it gives. -/
structure Flag where
  names : List String
  key : String
  effect : Effect
deriving Repr, DecidableEq

/-- How many words a place takes. -/
inductive Reach
  | one
  | atMostOne
  /-- a word, one of the choices, and all that follows it -/
  | remainder (choices : List String)
deriving Repr, DecidableEq

/-- A place for words. -/
structure Place where
  key : String
  reach : Reach
deriving Repr, DecidableEq

/-- A command line. Of the keys in `oneOf`, if there are any, exactly one has to be given. -/
structure Grammar where
  program : String
  flags : List Flag
  places : List Place
  oneOf : List String
deriving Repr, DecidableEq

/-- What was given under a key. -/
structure Given where
  key : String
  words : List String
deriving Repr, DecidableEq

/-- How the reading of a command line ends. -/
inductive Reading
  | complete (given : List Given) (leftOver : List String)
  | help
  | version
  | refused (message : String)
deriving Repr, DecidableEq

/-- How a message names a flag. -/
def Flag.title (f : Flag) : String := String.intercalate "/" f.names

/-- How a message names what has a key. -/
def Grammar.titleOf (g : Grammar) (key : String) : String :=
  match g.flags.find? (·.key = key) with
  | some f => f.title
  | none => key

/-! ## Marks -/

/-- What an argument looks like. -/
inductive Mark
  | word
  | dashes
  /-- a flag by one of its names, with the value attached to it -/
  | flag (f : Flag) (name : String) (attached : Option String)
  | unknown
deriving Repr, DecidableEq

/-- Whether arguments of this look are taken as flags. -/
def Mark.isFlag : Mark → Bool
  | flag _ _ _ | unknown => true
  | word | dashes => false

/-- The names of flags that a grammar knows, with their flags. -/
def Grammar.names (g : Grammar) : List (String × Flag) :=
  g.flags.flatMap fun f => f.names.map fun name => (name, f)

/-- The part before the first equals sign and the part after it. -/
def cutSign (cs : List Char) : List Char × Option String :=
  let name := cs.takeWhile (· ≠ '=')
  match cs.drop name.length with
  | _ :: value => (name, some (String.ofList value))
  | [] => (name, none)

/-- The flags that an argument may be short for. -/
def Grammar.candidates (g : Grammar) (cs : List Char) : List (String × Flag × Option String) :=
  match cs with
  | '-' :: '-' :: _ =>
    let (name, value) := cutSign cs
    (g.names.filter fun n => name.isPrefixOf n.1.toList).map fun (n, f) => (n, f, value)
  | _ =>
    g.names.filterMap fun (n, f) =>
      if n.toList = cs.take 2 then some (n, f, some (String.ofList (cs.drop 2)))
      else if cs.isPrefixOf n.toList then some (n, f, none)
      else none

/-- Whether a text is a negative number: a hyphen and decimal digits of any script, with at least one after
the point if there is a point. A line feed may end it. -/
def isNegativeNumber (cs : List Char) : Bool :=
  let cs := if cs.getLast? = some '\n' then cs.dropLast else cs
  match cs with
  | '-' :: rest =>
    let whole := rest.takeWhile isDecimalDigit
    match rest.drop whole.length with
    | [] => !whole.isEmpty
    | '.' :: fraction => !fraction.isEmpty && fraction.all isDecimalDigit
    | _ => false
  | _ => false

/-- The mark of an argument that starts like a flag but is none by its full name. -/
def Grammar.markOther (g : Grammar) (cs : List Char) : Except String Mark :=
  match g.candidates cs with
  | [(name, f, attached)] => .ok (.flag f name attached)
  | [] => .ok (if isNegativeNumber cs || cs.contains ' ' then .word else .unknown)
  | several =>
    .error ("ambiguous option: " ++ String.ofList cs ++ " could match " ++
      String.intercalate ", " (several.map (·.1)))

/-- The mark of an argument. -/
def Grammar.mark (g : Grammar) (arg : String) : Except String Mark :=
  match arg.toList with
  | '-' :: c :: rest =>
    let cs := '-' :: c :: rest
    match g.names.lookup arg with
    | some f => .ok (.flag f arg none)
    | none =>
      let (name, value) := cutSign cs
      match if value.isSome then g.names.lookup (String.ofList name) else none with
      | some f => .ok (.flag f (String.ofList name) value)
      | none => g.markOther cs
  | _ => .ok .word

/-- An argument with its mark. -/
abbrev Marked := String × Mark

/-- The marks of all arguments; after two hyphens all are words. -/
def Grammar.markAll (g : Grammar) : List String → Except String (List Marked)
  | [] => .ok []
  | "--" :: rest => .ok (("--", .dashes) :: rest.map (·, .word))
  | arg :: rest => do
    let mark ← g.mark arg
    let more ← g.markAll rest
    return (arg, mark) :: more

/-! ## Progress -/

/-- What was taken so far. -/
structure Progress where
  given : List Given
  leftOver : List String
  /-- places that are still to be filled -/
  places : List Place
deriving Repr, DecidableEq

/-- A step that goes on or ends the reading. -/
abbrev Step := Except Reading

/-- Refuses what is given for a key. -/
def Grammar.refuse {α : Type} (g : Grammar) (key message : String) : Step α :=
  .error (.refused ("argument " ++ g.titleOf key ++ ": " ++ message))

/-- Refuses a word that is not among the choices, if there are any. -/
def Grammar.checkChoice (g : Grammar) (key : String) (choices : List String) (word : String) : Step Unit :=
  if choices = [] || word ∈ choices then .ok ()
  else
    g.refuse key ("invalid choice: " ++ quote word ++ " (choose from " ++
      String.intercalate ", " (choices.map quote) ++ ")")

/-- Refuses a key of which another one of its group was given. -/
def Grammar.checkGroup (g : Grammar) (p : Progress) (key : String) : Step Unit :=
  if key ∈ g.oneOf then
    match (g.oneOf.filter (· ≠ key)).find? fun other => p.given.any (·.key = other) with
    | some other => g.refuse key ("not allowed with argument " ++ g.titleOf other)
    | none => .ok ()
  else .ok ()

/-- Takes words for a key. -/
def Grammar.take (g : Grammar) (p : Progress) (key : String) (words : List String) : Step Progress := do
  g.checkGroup p key
  return { p with given := p.given ++ [⟨key, words⟩] }

/-! ## Places -/

/-- How many of some arguments a place takes, if it can be filled. Two hyphens count with the word next
to them. -/
def Reach.count (r : Reach) (marks : List Mark) : Option Nat :=
  let before := (marks.takeWhile (· = .dashes)).length
  match r, marks.drop before with
  | .one, .word :: rest => some (before + 1 + (rest.takeWhile (· = .dashes)).length)
  | .atMostOne, .word :: rest => some (before + 1 + (rest.takeWhile (· = .dashes)).length)
  | .atMostOne, _ => some before
  | .remainder _, .word :: rest => some (before + 1 + rest.length)
  | _, _ => none

/-- Fills one place. -/
def Grammar.fill (g : Grammar) (p : Progress) (place : Place) (words : List String) : Step Progress :=
  match place.reach with
  | .remainder choices => do
    g.checkChoice place.key choices (words.headD "")
    g.take p place.key words
  | .one | .atMostOne =>
    match words.erase "--" with
    | [] => .ok p
    | kept => g.take p place.key kept

/-- Fills places in turn as long as they can be filled. Gives the arguments after those taken. -/
def Grammar.fillPlaces (g : Grammar) (p : Progress) (args : List Marked) :
    List Place → Step (Progress × List Marked)
  | [] => .ok (p, args)
  | place :: more =>
    match place.reach.count (args.map (·.2)) with
    | none => .ok (p, args)
    | some n => do
      let p ← g.fill { p with places := more } place ((args.take n).map (·.1))
      g.fillPlaces p (args.drop n) more

/-! ## Flags -/

/-- Does what a flag without a value does. -/
def Grammar.act (g : Grammar) (p : Progress) (f : Flag) : Step Progress :=
  match f.effect with
  | .help => .error .help
  | .version => .error .version
  | _ => g.take p f.key []

/-- Refuses a value for a flag that takes none. -/
def Grammar.refuseValue {α : Type} (g : Grammar) (f : Flag) (text : String) : Step α :=
  g.refuse f.key ("ignored explicit argument " ++ quote text)

/-- Flags of one letter that are written together: `f` is the first of them and `letters` follow it. None
of them takes a value, so what is no flag is refused with all that follows it. -/
def Grammar.together (g : Grammar) (f : Flag) : List Char → Step (List Flag)
  | [] => .ok [f]
  | c :: letters =>
    match g.names.lookup (String.ofList ['-', c]) with
    | none => g.refuseValue f (String.ofList (c :: letters))
    | some next => (g.together next letters).map (f :: ·)

/-- Takes a flag; `rest` are the arguments after it. Gives the arguments after those taken. -/
def Grammar.takeFlag (g : Grammar) (p : Progress) (f : Flag) (name : String) (attached : Option String)
    (rest : List Marked) : Step (Progress × List Marked) :=
  match f.effect, attached with
  | .value choices, some text => do
    g.checkChoice f.key choices text
    let p ← g.take p f.key [text]
    return (p, rest)
  | .value choices, none =>
    match rest with
    | (word, .word) :: rest => do
      g.checkChoice f.key choices word
      let p ← g.take p f.key [word]
      return (p, rest)
    | _ => g.refuse f.key "expected one argument"
  | _, none => do
    let p ← g.act p f
    return (p, rest)
  | _, some text =>
    if "--".toList.isPrefixOf name.toList || text = "" then g.refuseValue f text
    else do
      let flags ← g.together f text.toList
      let p ← flags.foldlM g.act p
      return (p, rest)

/-! ## Reading -/

/-- Takes what stands before the next flag, and then the flag. `fuel` bounds the number of arguments. -/
def Grammar.advance (g : Grammar) : Nat → Progress → List Marked → Step Progress
  | 0, p, _ => .ok p
  | fuel + 1, p, args =>
    let before := args.takeWhile (!·.2.isFlag)
    match args.drop before.length with
    | [] => do
      let (p, rest) ← g.fillPlaces p args p.places
      return { p with leftOver := p.leftOver ++ rest.map (·.1) }
    | (arg, mark) :: rest => do
      let (p, others) ←
        if before.isEmpty then .ok (p, args) else g.fillPlaces p args p.places
      if others.length < args.length then g.advance fuel p others
      else do
        let p := { p with leftOver := p.leftOver ++ before.map (·.1) }
        match mark with
        | .flag f name attached => do
          let (p, rest) ← g.takeFlag p f name attached rest
          g.advance fuel p rest
        | _ => g.advance fuel { p with leftOver := p.leftOver ++ [arg] } rest

/-- Refuses a command line in which a place is empty or no key of the group is given. -/
def Grammar.finish (g : Grammar) (p : Progress) : Step Reading :=
  match p.places.filter (·.reach = .one) with
  | [] =>
    if g.oneOf = [] || g.oneOf.any (fun key => p.given.any (·.key = key)) then
      .ok (.complete p.given p.leftOver)
    else
      .error (.refused ("one of the arguments " ++ String.intercalate " " (g.oneOf.map g.titleOf) ++
        " is required"))
  | missing =>
    .error (.refused ("the following arguments are required: " ++
      String.intercalate ", " (missing.map (·.key))))

/-- Reads a command line. -/
def Grammar.read (g : Grammar) (args : List String) : Reading :=
  match g.markAll args with
  | .error message => .refused message
  | .ok marked =>
    match g.advance (marked.length + 1) ⟨[], [], g.places⟩ marked >>= g.finish with
    | .ok reading => reading
    | .error reading => reading

/-! ## What was given -/

/-- The last words given under a key. -/
def lastOf (given : List Given) (key : String) : Option String :=
  ((given.filter (·.key = key)).getLast?).bind (·.words.getLast?)

/-- All words given under a key. -/
def allOf (given : List Given) (key : String) : List String :=
  (given.filter (·.key = key)).flatMap (·.words)

/-- Whether a key is given. -/
def isGiven (given : List Given) (key : String) : Bool := given.any (·.key = key)

end StaticAccessors.Command
