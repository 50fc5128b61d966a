import StaticAccessors.Manifest.Types
import StaticAccessors.Value.Key

/-!
# Collections

A manifest describes one collection and its items. `Collection.ofManifest` checks what has to be
present and where types and styles stand; names, paths and namespaces are kept as they are given.
Of several defects the first in this order is reported: the name, the type, the element type, the
identifier, the source path, the style, and then the items one by one.

## Contents
- `Item`, `Collection`, adding and finding items.
- `Collection.ofManifest`.
-/

namespace StaticAccessors

/-- A typed and identified member of a collection. -/
structure Item where
  name : Value
  guid : Value
  type : TypeRef

/-- A named, identified and ordered family of items. -/
structure Collection where
  name : Value
  guid : Value
  type : TypeRef
  elementType : TypeRef
  sourcePath : Value
  namespace_ : Value
  style : AccessorStyle
  items : List Item

namespace Collection

/-- Appends an item. -/
def add (c : Collection) (item : Item) : Collection := { c with items := c.items ++ [item] }

/-- The first item with this identifier. -/
def find? (c : Collection) (guid : Value) : Option Item := c.items.find? (·.guid.equal guid)

/-! ## From a manifest -/

/-- The field of an object under a key that has to be there, and neither `null` nor empty. -/
def require (fields : Fields) (key : String) (owner : Owner) : Except SchemaError Value :=
  match fields.get? key with
  | none | some .null => .error (.missingKey owner key)
  | some (.text s) => if s = "" then .error (.missingKey owner key) else .ok (.text s)
  | some v => .ok v

/-- Reads one entry of the item list. -/
def itemOf (collection : Value) (index : Nat) (entry : Value) : Except SchemaError Item :=
  match entry with
  | .object fields => do
    let name ← require fields "name" (.entry index collection)
    let guid ← require fields "guid" (.namedItem name)
    let type ← require fields "type" (.namedItem name)
    let type ← TypeRef.parse type
    return ⟨name, .text guid.display, type⟩
  | _ => .error (.entryNotAnObject index collection)

/-- Reads the entries from the given index on. -/
def itemsOf (collection : Value) : Nat → List Value → Except SchemaError (List Item)
  | _, [] => .ok []
  | index, entry :: rest => do
    let item ← itemOf collection index entry
    let items ← itemsOf collection (index + 1) rest
    return item :: items

/-- The type of the elements: the one declared, or else the type of the collection. -/
def elementTypeOf (fields : Fields) (type : TypeRef) : Except SchemaError TypeRef :=
  match fields.get? "element_type" with
  | some v => if v.truthy then TypeRef.parse v else .ok type
  | none => .ok type

/-- The namespace of the generated class: the one declared, or else that of the element type. -/
def namespaceOf (fields : Fields) (elementType : TypeRef) : Value :=
  match fields.get? "namespace" with
  | none | some .null => elementType.namespace_
  | some v => v

/-- Reads a manifest; `defaultStyle` stands in for a style that is not declared. -/
def ofManifest (manifest : Value) (defaultStyle : Value) : Except SchemaError Collection :=
  match manifest with
  | .object fields => do
    let name ← require fields "name" .collection
    let type ← require fields "type" (.namedCollection name)
    let type ← TypeRef.parse type
    let elementType ← elementTypeOf fields type
    let guid ← require fields "guid" (.namedCollection name)
    let sourcePath ← require fields "source_path" (.namedCollection name)
    let style ← AccessorStyle.parse (((Table.get? fields "generation_type").getD .null).orElse defaultStyle)
    let items ←
      match Table.get? fields "items" with
      | none => .ok []
      | some (.list entries) => itemsOf name 0 entries
      | some _ => .error (.itemsNotAList name)
    return ⟨name, .text guid.display, type, elementType, sourcePath, namespaceOf fields elementType,
      style, items⟩
  | _ => .error .notAnObject

end Collection

end StaticAccessors
