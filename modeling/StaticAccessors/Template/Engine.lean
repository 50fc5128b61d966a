import StaticAccessors.Fault
import StaticAccessors.Template.Node
import StaticAccessors.Value.Key

/-!
# Rendering

An engine holds templates under their names and writes the line feeds of their text as line ends of
its own. Values are inserted as they are. A name without a value shows nothing, is false and has no
elements. Some names mean something in every template unless a value is given to them.

## Contents
- `Facility` and `Meaning`: what names stand for.
- `renderNodes`: the text of a tree in a scope.
- `Engine`, `Engine.create`, `Engine.add` and `Engine.render`.
-/

namespace StaticAccessors.Template

open Text (Newline)

/-! ## Names -/

/-- What every template offers under a name. -/
inductive Facility
  | range
  | dict
  | cycler
  | joiner
  | namespace_
  | lipsum
deriving Repr, DecidableEq

namespace Facility

/-- The facility of a name. -/
def ofName? (name : String) : Option Facility :=
  Table.get? [("range", range), ("dict", dict), ("cycler", cycler), ("joiner", joiner),
    ("namespace", namespace_), ("lipsum", lipsum)] name

/-- The text that a facility shows. -/
def text : Facility → String
  | range => "<class 'range'>"
  | dict => "<class 'dict'>"
  | cycler => "<class 'jinja2.utils.Cycler'>"
  | joiner => "<class 'jinja2.utils.Joiner'>"
  | namespace_ => "<class 'jinja2.utils.Namespace'>"
  | lipsum => "<function generate_lorem_ipsum>"

/-- The name of the kind of a facility, as messages give it. -/
def kindName : Facility → String
  | lipsum => "function"
  | _ => "type"

end Facility

/-- What a name stands for. -/
inductive Meaning
  | value (v : Value)
  | facility (f : Facility)
  /-- the template of this name -/
  | template (name : String)
  /-- a turn of a loop, counted from one -/
  | turn (index total : Nat)

namespace Meaning

/-- The text that a name shows. -/
def text : Meaning → String
  | value v => v.display
  | facility f => f.text
  | template name => "<TemplateReference " ++ quote name ++ ">"
  | turn index total => "<LoopContext " ++ toString index ++ "/" ++ toString total ++ ">"

/-- Whether what a name stands for is true. -/
def holds : Meaning → Bool
  | value v => v.truthy
  | _ => true

/-- What a loop visits. A template is asked for its blocks by number, and it has none. -/
def elements : Meaning → Except TemplateProblem (List Value)
  | value v =>
    match v.elements? with
    | some elements => .ok elements
    | none => .error (.notIterable v.kindName)
  | facility f => .error (.notIterable f.kindName)
  | template _ => .error (.blockMissing 0)
  | turn _ _ => .ok []

end Meaning

/-- What the names of a context and of the loops around stand for. -/
abbrev Scope := Table String Meaning

namespace Scope

/-- What a name stands for. -/
def find? (scope : Scope) (name : String) : Option Meaning :=
  (Table.get? scope name).or ((Facility.ofName? name).map .facility)

/-- What a term stands for. -/
def meaning? (scope : Scope) : Term → Option Meaning
  | .name n => scope.find? n
  | .constant v => some (.value v)
  | .negation t => some (.value (.bool (!((scope.meaning? t).any Meaning.holds))))

/-- The scope of a turn of a loop. -/
def inTurn (scope : Scope) (item : String) (index total : Nat) (element : Value) : Scope :=
  Table.put (Table.put scope turnName (.turn index total)) item (.value element)

end Scope

/-! ## Trees -/

mutual
/-- The text of a node. -/
def renderNode (newline : Newline) (scope : Scope) : Node → Except TemplateProblem (List Char)
  | .text cs => .ok (newline.apply cs)
  | .slot t => .ok (((scope.meaning? t).map Meaning.text).getD "").toList
  | .branch condition body =>
    if (scope.meaning? condition).any Meaning.holds then renderNodes newline scope body else .ok []
  | .loop item source body => do
    let elements ← ((scope.meaning? source).map Meaning.elements).getD (.ok [])
    let texts ← elements.zipIdx.mapM fun (e, n) =>
      renderNodes newline (scope.inTurn item (n + 1) elements.length e) body
    return texts.flatten

/-- The text of nodes in turn. -/
def renderNodes (newline : Newline) (scope : Scope) : List Node → Except TemplateProblem (List Char)
  | [] => .ok []
  | n :: rest => do
    let first ← renderNode newline scope n
    let more ← renderNodes newline scope rest
    return first ++ more
end

/-! ## Engines -/

/-- Templates under their names, and the line ends they are written with. -/
structure Engine where
  newline : Newline
  templates : Table String String

namespace Engine

/-- An engine without templates. What cannot be looked up is of a wrong kind for a line end. -/
def create (newline : Value) : Except Fault Engine :=
  match newline.key? with
  | none => .error .wrongType
  | some _ =>
    match newline.text?.bind Newline.ofText? with
    | some n => .ok ⟨n, []⟩
    | none => .error .unknownNewline

/-- Gives a name to the text of a template. -/
def add (e : Engine) (name content : String) : Engine := { e with templates := e.templates.put name content }

/-- The scope of a template in a context. -/
def scopeOf (name : String) (nodes : List Node) (context : Fields) : Scope :=
  let given : Scope := context.map fun (key, v) => (key, .value v)
  if callsItself nodes then Table.put given selfName (.template name) else given

/-- The text of a template in a context, or what is wrong with it. The name of the template itself is not
open to a context. -/
def render? (e : Engine) (name : String) (context : Fields) : Except TemplateProblem String :=
  match e.templates.get? name with
  | none => .error .missing
  | some content =>
    match Node.ofText content with
    | .error defect => .error (.malformed defect)
    | .ok nodes =>
      if Table.has context selfName then .error .selfGiven
      else (renderNodes e.newline (scopeOf name nodes context) nodes).map String.ofList

/-- The text of a template in a context. -/
def render (e : Engine) (name : String) (context : Fields) : Except Fault String :=
  (e.render? name context).mapError fun problem => .template ⟨name, problem⟩

end Engine

end StaticAccessors.Template
