import StaticAccessors.Value.Key
import StaticAccessors.Value.Display

/-!
# Entries under scalars

A scalar may stand as a key of entries. Entries are a table that looks scalars up by equality of numbers,
so `1`, `1.0` and `true` are one key, which shows as the scalar that came first.

## Contents
- `Scalar`: a value with its key.
- `Entries`: tables under scalars.
- `Entries.same` and `Entries.shown`.
-/

namespace StaticAccessors

/-- A value that has a key. -/
structure Scalar where
  value : Value
  key : Key
  key?_value : value.key? = some key

namespace Scalar

/-- A text as a scalar. -/
def ofText (s : String) : Scalar := ⟨.text s, .text s, rfl⟩

/-- A value as a scalar, unless it is a list or an object. -/
def ofValue? (v : Value) : Option Scalar :=
  match h : v.key? with
  | some key => some ⟨v, key, h⟩
  | none => none

/-- The text of a scalar, if it is one. -/
def text? (k : Scalar) : Option String := k.value.text?

end Scalar

/-- A scalar is looked up by its key. -/
instance : Keyed Scalar Key := ⟨Scalar.key, inferInstance⟩

@[simp] theorem Keyed.key_scalar (k : Scalar) : Keyed.key k = k.key := rfl

/-- Values under scalars, in order of first insertion. -/
abbrev Entries := Table Scalar Value

namespace Entries

/-- The fields of an object as entries. -/
def ofFields (fields : Fields) : Entries := fields.map fun (name, v) => (.ofText name, v)

/-- Whether two lists of entries give the same values to the same keys, in any order. -/
def same (entries others : Entries) : Bool :=
  entries.length == others.length && entries.all fun (k, v) =>
    match others.get? k.key with
    | some w => v.same w
    | none => false

/-- The entries as fields, with a text for each key; of equal texts the later one counts. -/
def shown (entries : Entries) : Fields := Table.merge [] (entries.map fun (k, v) => (k.value.display, v))

end Entries

end StaticAccessors
