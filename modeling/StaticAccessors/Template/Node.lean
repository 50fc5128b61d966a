import StaticAccessors.Template.Name
import StaticAccessors.Template.Piece
import StaticAccessors.Value.Basic

/-!
# Templates as trees

A template is a list of nodes: text, slots that show a value, and blocks that show their body if a
value is true or once for each of its elements. The tree is built piece by piece; the blocks that are
open wait on a stack, innermost first.

## Contents
- `Term`: what a slot shows, a block asks, and a loop runs over.
- `Node` and `Block`.
- `Part`: what one piece contributes.
- `Node.ofText`: the tree of the text of a template.
- `Node.callsItself`: whether a template uses the name of itself.
-/

namespace StaticAccessors.Template

/-! ## Terms -/

/-- What a slot shows, a block asks, or a loop runs over. -/
inductive Term
  | name (name : String)
  | constant (v : Value)
  | negation (t : Term)

/-- The words that stand for constants. -/
def constants : Table String Value := [
  ("true", .bool true), ("True", .bool true), ("false", .bool false), ("False", .bool false),
  ("none", .null), ("None", .null)]

/-- A single word as a term. -/
def Term.ofWord (word : String) : Term :=
  match constants.get? word with
  | some v => .constant v
  | none => .name word

/-- The word that negates the term after it. -/
def negator : String := "not"

/-- Refuses a word that is no name. -/
def requireName (word : String) : Except Defect Unit :=
  if isMalformedName word then .error .malformedName else .ok ()

/-- Reads a term off some words. `missing` is the defect if there is none; `closing` ends the words. -/
def Term.read (closing : Closing) (missing : Defect) : List String → Except Defect (Term × List String)
  | [] => .error missing
  | word :: rest => do
    requireName word
    if word = negator then
      let (t, rest) ← Term.read closing (.operandExpected closing) rest
      return (.negation t, rest)
    else return (.ofWord word, rest)

/-- The name of a term, if it is one. -/
def Term.name? : Term → Option String
  | name n => some n
  | constant _ => none
  | negation t => t.name?

/-! ## Nodes -/

/-- A part of a template. -/
inductive Node
  | text (cs : List Char)
  | slot (t : Term)
  | branch (condition : Term) (body : List Node)
  | loop (item : String) (source : Term) (body : List Node)

/-- The head of a block. -/
inductive Block
  | branch (condition : Term)
  | loop (item : String) (source : Term)

namespace Block

/-- The kind of a block. -/
def kind : Block → BlockKind
  | branch _ => .branch
  | loop _ _ => .loop

/-- A block with its body. -/
def node (block : Block) (body : List Node) : Node :=
  match block with
  | branch condition => .branch condition body
  | loop item source => .loop item source body

end Block

/-! ## Parts -/

/-- What one piece contributes to the tree. -/
inductive Part
  | node (n : Node)
  | opens (block : Block)
  /-- ends a block, and may be followed by what must not be there -/
  | closes (kind : BlockKind) (defect : Option Defect)
  | unknown (name : String)
  | defective (defect : Defect)

/-- Refuses words where the content should end. -/
def requireEnd (ends closing : Closing) : List String → Except Defect Unit
  | [] => if closing = ends then .ok () else .error (.unexpectedWord ends.text closing.text)
  | word :: _ => do
    requireName word
    throw (.unexpectedWord ends.text word)

/-- What a slot contributes. -/
def Part.ofSlot (closing : Closing) (words : List String) : Except Defect Part := do
  let (t, rest) ← Term.read closing (.expressionExpected closing) words
  requireEnd .slot closing rest
  return .node (.slot t)

/-- What the tag of a branch contributes. -/
def Part.ofBranch (closing : Closing) (words : List String) : Except Defect Part := do
  let (condition, rest) ← Term.read closing (.expressionExpected closing) words
  requireEnd .tag closing rest
  return .opens (.branch condition)

/-- The word between the name that a loop gives values to and what it runs over. -/
def loopWord : String := "in"

/-- The word that a loop may end with; it changes nothing. -/
def loopEnd : String := "recursive"

/-- What the tag of a loop contributes. -/
def Part.ofLoop (closing : Closing) : List String → Except Defect Part
  | [] => .error (.expressionExpected closing)
  | item :: rest => do
    requireName item
    rest.head?.forM requireName
    if constants.has item then throw .constantTarget
    match rest with
    | [] => throw (.unexpectedWord loopWord closing.text)
    | word :: rest =>
      if word ≠ loopWord then throw (.unexpectedWord loopWord word)
      let (source, rest) ← Term.read closing (.expressionExpected closing) rest
      requireEnd .tag closing (if rest.head? = some loopEnd then rest.tail else rest)
      return .opens (.loop item source)

/-- The defect of the words where a tag should end. -/
def tagDefect (closing : Closing) (words : List String) : Option Defect :=
  match requireEnd .tag closing words with
  | .ok () => none
  | .error defect => some defect

/-- What a tag contributes. -/
def Part.ofTag (closing : Closing) : List String → Except Defect Part
  | [] => .error .tagNameExpected
  | name :: rest => do
    requireName name
    if name = BlockKind.branch.opener then Part.ofBranch closing rest
    else if name = BlockKind.loop.opener then Part.ofLoop closing rest
    else if name = BlockKind.branch.closer then return .closes .branch (tagDefect closing rest)
    else if name = BlockKind.loop.closer then return .closes .loop (tagDefect closing rest)
    else return .unknown name

/-- A part, or the defect in its place. -/
def Part.ofRead : Except Defect Part → Part
  | .ok part => part
  | .error defect => .defective defect

/-- What a piece contributes. -/
def Part.ofPiece : Piece → Part
  | .text cs => .node (.text cs)
  | .slot inside closing => .ofRead (Part.ofSlot closing (wordsOf inside))
  | .tag inside closing => .ofRead (Part.ofTag closing (wordsOf inside))

/-! ## Trees -/

/-- An open block and what stands before it in the block around it, back to front. -/
structure Frame where
  block : Block
  before : List Node

/-- Builds the tree of some parts inside open blocks; `nodes` are those of the innermost block, back to front. -/
def build (frames : List Frame) (nodes : List Node) : List Part → Except Defect (List Node)
  | [] =>
    match frames with
    | [] => .ok nodes.reverse
    | frame :: _ => .error (.unclosed frame.block.kind)
  | .node n :: rest => build frames (n :: nodes) rest
  | .opens block :: rest => build (⟨block, nodes⟩ :: frames) [] rest
  | .unknown name :: _ => .error (.unknownTag name (frames.map (·.block.kind)))
  | .defective defect :: _ => .error defect
  | .closes kind defect :: rest =>
    match frames with
    | [] => .error (.unknownTag kind.closer [])
    | frame :: outer =>
      if frame.block.kind ≠ kind then
        .error (.unknownTag kind.closer (frames.map (·.block.kind)))
      else
        match defect with
        | some defect => .error defect
        | none => build outer (frame.block.node nodes.reverse :: frame.before) rest

/-! ## Names -/

/-- The name that counts the turns of a loop in its body. -/
def turnName : String := "loop"

/-- The name of the template itself. -/
def selfName : String := "self"

mutual
/-- Whether a loop in this node gives values to the name that counts turns. -/
def Node.assignsTurn : Node → Bool
  | .text _ | .slot _ => false
  | .branch _ body => assignTurn body
  | .loop item _ body => item = turnName || assignTurn body

/-- Whether a loop in some nodes does. -/
def assignTurn : List Node → Bool
  | [] => false
  | n :: rest => n.assignsTurn || assignTurn rest
end

mutual
/-- Whether the first mention of the name of the template is a use of it; `none` if there is no mention. A
loop may give other values to the name. -/
def Node.usesItself? : Node → Option Bool
  | .text _ => none
  | .slot t => if t.name? = some selfName then some true else none
  | .branch condition body => if condition.name? = some selfName then some true else useItself? body
  | .loop item source body =>
    if item = selfName then some false
    else if source.name? = some selfName then some true
    else useItself? body

/-- The same of some nodes in turn. -/
def useItself? : List Node → Option Bool
  | [] => none
  | n :: rest => n.usesItself?.or (useItself? rest)
end

/-- Whether a template uses the name of itself. -/
def callsItself (nodes : List Node) : Bool := (useItself? nodes).getD false

/-- The tree of the text of a template. -/
def Node.ofText (s : String) : Except Defect (List Node) := do
  let nodes ← build [] [] ((Piece.ofText s).map Part.ofPiece)
  if assignTurn nodes then throw .turnTarget
  return nodes

end StaticAccessors.Template
