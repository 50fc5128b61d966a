/-!
# Tables

A table gives values to keys and keeps its entries in the order of their first insertion. What an entry
stands under is a label that has a key: labels of one key are one to a table, and the label that came first
stays. Putting a known key again changes its value and not its place.

## Contents
- `Keyed`: labels and their keys; a text is its own key.
- `get?`, `put`, `merge`, `erase` and `keys`.
- what each does to a look-up.
-/

namespace StaticAccessors

/-- Labels with keys that can be compared. -/
class Keyed (κ : Type) (K : outParam Type) where
  /-- What a label is looked up by. -/
  key : κ → K
  /-- Whether two keys are one. -/
  decEq : DecidableEq K

namespace Keyed

variable {κ K : Type} [Keyed κ K]

instance (label : κ) (k : K) : Decidable (key label = k) := decEq κ (key label) k

/-- A text is its own key. -/
instance : Keyed String String := ⟨fun s => s, inferInstance⟩

@[simp] theorem key_text (s : String) : key s = s := rfl

end Keyed

/-- Entries under labels, in order of first insertion. -/
abbrev Table (κ α : Type) := List (κ × α)

namespace Table

variable {κ K α : Type} [Keyed κ K]

/-- The value under a key. -/
def get? (table : Table κ α) (key : K) : Option α :=
  match table with
  | [] => none
  | (label, v) :: rest => if Keyed.key label = key then some v else get? rest key

/-- Whether a key has a value. -/
def has (table : Table κ α) (key : K) : Bool := (table.get? key).isSome

/-- Gives the key of `label` the value `value`: in its old place, under the label that stands there, if it
has one, and else at the end. -/
def put (table : Table κ α) (label : κ) (value : α) : Table κ α :=
  match table with
  | [] => [(label, value)]
  | (first, v) :: rest =>
    if Keyed.key first = Keyed.key label then (first, value) :: rest else (first, v) :: put rest label value

/-- Puts all entries of `more` in turn; what is put later wins. -/
def merge (table more : Table κ α) : Table κ α := more.foldl (fun acc entry => acc.put entry.1 entry.2) table

/-- The table without a key. -/
def erase (table : Table κ α) (key : K) : Table κ α := table.filter (Keyed.key ·.1 ≠ key)

/-- The keys in order. -/
def keys (table : Table κ α) : List K := table.map (Keyed.key ·.1)

@[simp] theorem get?_nil (key : K) : get? ([] : Table κ α) key = none := rfl

/-- A key that was just put has the value it was given. -/
@[simp] theorem get?_put_self (table : Table κ α) (label : κ) (value : α) :
    (table.put label value).get? (Keyed.key label) = some value := by
  induction table with
  | nil => simp [put, get?]
  | cons head rest ih =>
    obtain ⟨first, v⟩ := head
    by_cases h : Keyed.key first = Keyed.key label <;> simp [put, get?, h, ih]

/-- Putting one key leaves every other alone. -/
theorem get?_put_of_ne (table : Table κ α) (label : κ) {other : K} (value : α) (h : Keyed.key label ≠ other) :
    (table.put label value).get? other = table.get? other := by
  induction table with
  | nil => simp [put, get?, h]
  | cons head rest ih =>
    obtain ⟨first, v⟩ := head
    by_cases same : Keyed.key first = Keyed.key label
    · simp [put, get?, same, h]
    · by_cases found : Keyed.key first = other
      · subst found
        simp [put, get?, same]
      · simp [put, get?, same, found, ih]

/-- An erased key has no value. -/
@[simp] theorem get?_erase_self (table : Table κ α) (key : K) : (table.erase key).get? key = none := by
  induction table with
  | nil => rfl
  | cons head rest ih =>
    obtain ⟨first, v⟩ := head
    by_cases h : Keyed.key first = key
    · simpa [erase, h] using ih
    · simpa [erase, get?, h] using ih

/-- Erasing one key leaves every other alone. -/
theorem get?_erase_of_ne (table : Table κ α) {key other : K} (h : key ≠ other) :
    (table.erase key).get? other = table.get? other := by
  induction table with
  | nil => rfl
  | cons head rest ih =>
    obtain ⟨first, v⟩ := head
    by_cases same : Keyed.key first = key
    · subst same
      simpa [erase, get?, h] using ih
    · by_cases found : Keyed.key first = other
      · subst found
        simp [erase, get?, same]
      · simpa [erase, get?, same, found] using ih

end Table

end StaticAccessors
