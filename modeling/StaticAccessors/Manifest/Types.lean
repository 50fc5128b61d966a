import StaticAccessors.Fault
import StaticAccessors.Text.Blank
import StaticAccessors.Text.LetterCase

/-!
# Types and styles

A manifest names types of the generated code and the style in which accessors are written. A type is
given as a dotted name, which is cut at its last dot, or as an object with a name and a namespace. A
style is given in any of several spellings.

## Contents
- `normalizeName`: the form in which spellings are compared.
- `AccessorStyle` and `AccessorStyle.parse`.
- `TypeRef`, its full name and `TypeRef.parse`.
-/

namespace StaticAccessors

open Text

/-- The form in which names of styles and strategies are compared: trimmed, in lower case, with
hyphens as underscores. -/
def normalizeName (s : String) : String :=
  String.ofList ((lower (trim s)).toList.map fun c => if c = '-' then '_' else c)

/-! ## Styles -/

/-- How accessors are written. -/
inductive AccessorStyle
  /-- properties that return the item, or fail at the place of use -/
  | direct
  /-- methods that report a failed look-up as `false` -/
  | tryGet
deriving Repr, DecidableEq

namespace AccessorStyle

/-- The name of a style in manifests, settings and the registry. -/
def name : AccessorStyle → String
  | direct => "direct"
  | tryGet => "try_get"

/-- The text of a style where it is formatted as it is. -/
def display : AccessorStyle → String
  | direct => "StaticFileType.DIRECT"
  | tryGet => "StaticFileType.TRY_GET"

/-- All accepted spellings. -/
def spellings : List (String × AccessorStyle) := [
  ("direct", direct), ("direct_access", direct), ("directaccess", direct),
  ("try_get", tryGet), ("tryget", tryGet), ("try_get_access", tryGet), ("trygetaccess", tryGet)]

/-- Reads a style. -/
def parse (v : Value) : Except SchemaError AccessorStyle :=
  match spellings.lookup (normalizeName v.display) with
  | some style => .ok style
  | none => .error (.unknownStyle v)

/-- A style is read from its own name. -/
theorem parse_name (style : AccessorStyle) : parse (.text style.name) = .ok style := by
  cases style <;> rfl

end AccessorStyle

/-! ## Types -/

/-- A type name together with the namespace that declares it. -/
structure TypeRef where
  name : Value
  namespace_ : Value

namespace TypeRef

/-- The name with its namespace in front, if it has one. -/
def fullName (t : TypeRef) : Value :=
  if t.namespace_.truthy then .text (t.namespace_.display ++ "." ++ t.name.display) else t.name

/-- Cuts a dotted name at its last dot; a name without a dot has no namespace. -/
def ofDotted (s : String) : TypeRef :=
  match splitLast? '.' s.toList with
  | some (before, after) => ⟨.text (String.ofList after), .text (String.ofList before)⟩
  | none => ⟨.text s, .text ""⟩

/-- Reads a type. -/
def parse (v : Value) : Except SchemaError TypeRef :=
  match v with
  | .object _ =>
    let name := (v.get? "name").getD .null
    if name.truthy then .ok ⟨name, ((v.get? "namespace").getD .null).orElse (.text "")⟩
    else .error (.unnamedType v)
  | .text s => if isBlankText s then .error (.invalidType v) else .ok (ofDotted (trim s))
  | _ => .error (.invalidType v)

end TypeRef

end StaticAccessors
