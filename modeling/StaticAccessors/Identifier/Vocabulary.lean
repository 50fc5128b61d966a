import StaticAccessors.Identifier.Words
import StaticAccessors.Value.Key
import StaticAccessors.Fault

/-!
# Identifier pairs

Every name stands for two identifiers: one for the accessor, with its first letter in upper case,
and one for the field behind it, with its first letter in lower case. A variant that is a reserved
word takes a suffix, and if the two then still agree the field takes an underscore in front.

`Sanitizer` remembers the pairs it has derived, under the keys of the names they were derived from.

## Contents
- `Vocabulary`: reserved words and the suffix they take; `Vocabulary.keywords` are those of C#.
- `Vocabulary.derive`: the pair of a name.
- `Sanitizer`: a vocabulary with a memory.
-/

namespace StaticAccessors

/-- The identifiers of an accessor and of the field behind it. -/
structure IdentifierPair where
  upper : String
  lower : String
deriving Repr, DecidableEq

/-- The words that identifiers must not be, and what is appended to one that is. -/
structure Vocabulary where
  reserved : List String
  suffix : String
deriving Repr, DecidableEq

/-- The keywords of C#; words that are keywords in some contexts only are free. -/
def csharpKeywords : List String := [
  "abstract", "as", "base", "bool", "break", "byte", "case", "catch", "char", "checked",
  "class", "const", "continue", "decimal", "default", "delegate", "do", "double", "else",
  "enum", "event", "explicit", "extern", "false", "finally", "fixed", "float", "for", "foreach",
  "goto", "if", "implicit", "in", "int", "interface", "internal", "is", "lock", "long",
  "namespace", "new", "null", "object", "operator", "out", "override", "params", "private",
  "protected", "public", "readonly", "ref", "return", "sbyte", "sealed", "short", "sizeof",
  "stackalloc", "static", "string", "struct", "switch", "this", "throw", "true", "try",
  "typeof", "uint", "ulong", "unchecked", "unsafe", "ushort", "using", "virtual", "void",
  "volatile", "while"]

namespace Vocabulary

/-- The vocabulary of C#. -/
def keywords : Vocabulary := ⟨csharpKeywords, "_"⟩

/-- A free word as it is, a reserved one with the suffix. -/
def avoid (v : Vocabulary) (word : String) : String :=
  if word ∈ v.reserved then word ++ v.suffix else word

/-- The pair of a name that is a text. -/
def pairOf (v : Vocabulary) (name : String) : IdentifierPair :=
  let body := Identifier.sanitize name.toList
  let upper := v.avoid (String.ofList (Identifier.firstToUpper body))
  let lower := v.avoid (String.ofList (Identifier.firstToLower body))
  ⟨upper, if lower = upper then "_" ++ lower else lower⟩

/-- The text a name is read as: a text is itself and every false value is the empty text. -/
def nameText : Value → Except Fault String
  | .text s => .ok s
  | v => if v.truthy then .error .wrongType else .ok ""

/-- The pair of a name. A list or an object is no name, not even when it is empty. -/
def derive (v : Vocabulary) (name : Value) : Except Fault IdentifierPair :=
  match name.key? with
  | none => .error .wrongType
  | some _ => (nameText name).map v.pairOf

end Vocabulary

namespace Identifier

/-- The identifier body of a name. -/
def sanitizeValue (name : Value) : Except Fault String :=
  (Vocabulary.nameText name).map fun s => String.ofList (sanitize s.toList)

/-- Changes the first character of a text; false values stay as they are. -/
def onFirst (change : List Char → List Char) (v : Value) : Except Fault Value :=
  if !v.truthy then .ok v
  else
    match v with
    | .text s => .ok (.text (String.ofList (change s.toList)))
    | .list (.text _ :: _) => .error .wrongType
    | .list _ => .error .noSuchAttribute
    | .object _ => .error .noSuchKey
    | _ => .error .wrongType

end Identifier

/-! ## Pairs that are remembered -/

/-- The two variants of a sanitized name. -/
inductive NameCase
  | pascal
  | camel
deriving Repr, DecidableEq

/-- The variant of a pair. -/
def NameCase.pick (case : NameCase) (pair : IdentifierPair) : String :=
  match case with
  | pascal => pair.upper
  | camel => pair.lower

/-- A vocabulary together with the pairs derived so far. -/
structure Sanitizer where
  vocabulary : Vocabulary
  memory : List (Key × IdentifierPair)
deriving Repr, DecidableEq

namespace Sanitizer

/-- A sanitizer that has derived nothing yet. -/
def fresh (v : Vocabulary) : Sanitizer := ⟨v, []⟩

/-- The pair of a name, from memory if a name with the same key was derived before. -/
def derive (s : Sanitizer) (name : Value) : Except Fault IdentifierPair × Sanitizer :=
  match name.key? with
  | none => (.error .wrongType, s)
  | some key =>
    match s.memory.lookup key with
    | some pair => (.ok pair, s)
    | none =>
      match s.vocabulary.derive name with
      | .ok pair => (.ok pair, { s with memory := (key, pair) :: s.memory })
      | .error fault => (.error fault, s)

/-- One variant of the pair of a name. -/
def sanitizeName (s : Sanitizer) (name : Value) (case : NameCase) : Except Fault String × Sanitizer :=
  let (outcome, after) := s.derive name
  (outcome.map case.pick, after)

end Sanitizer

example : Vocabulary.keywords.pairOf "event" = ⟨"Event", "event_"⟩ := by decide +kernel

end StaticAccessors
