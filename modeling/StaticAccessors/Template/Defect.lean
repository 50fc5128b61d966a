import StaticAccessors.Value.Display

/-!
# Defects of templates

Blocks of a template are opened and closed by tags and have to be nested. This module names the two
kinds of block and what can be wrong with the text of a template.
-/

namespace StaticAccessors.Template

/-- What a block does with its body. -/
inductive BlockKind
  /-- shows it if a value is true -/
  | branch
  /-- repeats it for each element of a value -/
  | loop
deriving Repr, DecidableEq

namespace BlockKind

/-- The word that opens a block. -/
def opener : BlockKind → String
  | branch => "if"
  | loop => "for"

/-- The word that closes a block. -/
def closer : BlockKind → String
  | branch => "endif"
  | loop => "endfor"

/-- The words that may follow the body of a block. -/
def followers : BlockKind → List String
  | branch => ["elif", "else", "endif"]
  | loop => ["endfor", "else"]

/-- The list of these words in a message. -/
def followersText (kind : BlockKind) : String := String.intercalate " or " (kind.followers.map quote)

end BlockKind

/-- Where the content of a tag or a slot ends. -/
inductive Closing
  | slot
  | tag
  | template
deriving Repr, DecidableEq

/-- How a message names that end. -/
def Closing.text : Closing → String
  | slot => "end of print statement"
  | tag => "end of statement block"
  | template => "end of template"

/-- What is wrong with the text of a template. -/
inductive Defect
  /-- the text ends inside a block -/
  | unclosed (kind : BlockKind)
  /-- a tag starts with a word that has no meaning where it stands; the open blocks, innermost first -/
  | unknownTag (name : String) (enclosing : List BlockKind)
  | tagNameExpected
  | expressionExpected (closing : Closing)
  /-- a negation has nothing to negate -/
  | operandExpected (closing : Closing)
  | unexpectedWord (expected given : String)
  /-- a word is no name, though all its characters occur in names -/
  | malformedName
  /-- a loop is to give values to a constant -/
  | constantTarget
  /-- a loop is to give values to the name that counts its turns -/
  | turnTarget
deriving Repr, DecidableEq

namespace Defect

/-- What was looked for in the innermost block. -/
def searched (kind : BlockKind) : String :=
  "Jinja was looking for the following tags: " ++ kind.followersText ++
    ". The innermost block that needs to be closed is " ++ quote kind.opener ++ "."

/-- What was looked for when a tag of an outer block was met. -/
def misnested (kind : BlockKind) : String :=
  "You probably made a nesting mistake. Jinja is expecting this tag, but currently looking for " ++
    kind.followersText ++ ". The innermost block that needs to be closed is " ++ quote kind.opener ++ "."

/-- The words about a tag that has no meaning. -/
def unknownText (name : String) : List BlockKind → String
  | [] => "Encountered unknown tag " ++ quote name ++ "."
  | kind :: outer =>
    "Encountered unknown tag " ++ quote name ++ ". " ++
      (if (kind :: outer).any (·.followers.contains name) then misnested kind else searched kind)

/-- The words for a defect. -/
def message : Defect → String
  | unclosed kind => "Unexpected end of template. " ++ searched kind
  | unknownTag name enclosing => unknownText name enclosing
  | tagNameExpected => "tag name expected"
  | expressionExpected .template => "unexpected " ++ quote Closing.template.text
  | expressionExpected closing => "Expected an expression, got " ++ quote closing.text
  | operandExpected closing => "unexpected " ++ quote closing.text
  | unexpectedWord expected given =>
    if given = Closing.template.text then
      "unexpected end of template, expected " ++ quote expected ++ "."
    else "expected token " ++ quote expected ++ ", got " ++ quote given
  | malformedName => "Invalid character in identifier"
  | constantTarget => "can't assign to 'const'"
  | turnTarget => "Can't assign to special loop variable in for-loop target"

end Defect

end StaticAccessors.Template
