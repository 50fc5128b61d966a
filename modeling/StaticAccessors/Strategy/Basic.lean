import StaticAccessors.Emission.Scope
import StaticAccessors.Identifier.Vocabulary
import StaticAccessors.Manifest.Collection
import StaticAccessors.Settings.Basic

/-!
# Strategies

A strategy writes the members of the generated class. This module holds what all strategies share:
the identifiers of a collection and its items, string literals, the private fields behind the
accessors, and the namespaces that have to be imported.

## Contents
- `Strategy`.
- `Collection.className`, `Item.identifiers`, `Collection.directives`.
- `stringLiteral`.
- `writeFields`.
-/

namespace StaticAccessors

/-- A way of writing accessors. `write` emits the members at the depth of the class body and returns
the depth after them, which is the same if the strategy closes what it opens. -/
structure Strategy where
  name : String
  style : AccessorStyle
  description : String
  typeName : String
  moduleName : String
  write : Settings → Collection → Int → Emission Int

/-- The identifiers of an item. -/
def Item.identifiers (item : Item) : Except Fault IdentifierPair :=
  Vocabulary.keywords.derive item.name

/-- The name of the generated class. -/
def Collection.className (c : Collection) : Except Fault String :=
  (Vocabulary.keywords.derive c.name).map (·.upper)

/-- The namespaces that the generated code needs, in order and possibly repeated. -/
def Collection.directives (c : Collection) (s : Settings) : List Value :=
  ([s .registryNamespace, c.type.namespace_] ++ c.items.map (·.type.namespace_)).filter (·.truthy)

/-! ## Literals -/

/-- One character inside a string literal. -/
def literalChar (c : Char) : List Char := if c = '\\' || c = '"' then ['\\', c] else [c]

/-- A text as a string literal: backslashes and quotes are escaped, all else stands as it is. -/
def stringLiteral (s : String) : String :=
  String.ofList ('"' :: s.toList.flatMap literalChar ++ ['"'])

/-! ## Pieces of members -/

namespace Strategy

/-- A call of a method of the runtime registry. -/
def registryCall (s : Settings) (method : String) : String := (s .registryAccessor).display ++ "." ++ method

/-- The fields behind the accessors of items. -/
def writeItemFields (depth : Int) : List Item → Emission Unit
  | [] => .done ()
  | item :: rest => do
    let names ← .lift item.identifiers
    .write depth ("private static " ++ item.type.name.display ++ " " ++ names.lower ++ ";")
    writeItemFields depth rest

/-- The private fields, filled when an accessor is first used, and a blank line after them. -/
def writeFields (depth : Int) (c : Collection) : Emission Unit := do
  .write depth ("private static " ++ c.type.name.display ++ " values;")
  writeItemFields depth c.items
  .blank depth

/-- A blank line and an accessor for each item. -/
def writeItems (accessor : Int → Item → Emission Int) (depth : Int) : List Item → Emission Int
  | [] => .done depth
  | item :: rest => do
    .blank depth
    let after ← accessor depth item
    writeItems accessor after rest

end Strategy

end StaticAccessors
