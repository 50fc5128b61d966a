import Mathlib.Data.List.Nodup
import Mathlib.Data.List.Perm.Subperm
import StaticAccessors.Proofs.Table
import StaticAccessors.Value.Scalar

/-!
# Entries and what they list

Entries under texts are looked up, put and merged as the fields they come from. Two lists of entries that
are the same have the same keys, as the one has as many of them as the other.

## Contents
- `get?_ofFields`, `ofFields_merge`: entries under texts.
- `same_self`, `exists_of_same`: sameness of entries; `Value.same_object`.
-/

namespace StaticAccessors

namespace Entries

variable {entries others : Entries} {v w : Value}

/-! ## Entries under texts -/

theorem text_eq_iff {k other : String} : Key.text k = Key.text other ↔ k = other := by simp

theorem get?_ofFields (fields : Fields) (key : String) :
    (ofFields fields).get? (.text key) = Table.get? fields key := by
  induction fields with
  | nil => rfl
  | cons head rest ih =>
    obtain ⟨k, v⟩ := head
    change (if Key.text k = Key.text key then some v else (ofFields rest).get? (.text key)) = _
    rw [ih, Table.get?_cons]
    simp only [text_eq_iff, Keyed.key_text]

theorem keys_ofFields (fields : Fields) : (ofFields fields).keys = (Table.keys fields).map .text := by
  simp [ofFields, Table.keys, Scalar.ofText]

theorem nodup_keys_ofFields {fields : Fields} (distinct : (Table.keys fields).Nodup) :
    (ofFields fields).keys.Nodup := by
  rw [keys_ofFields]
  exact List.Nodup.map (fun _ _ same => text_eq_iff.mp same) distinct

theorem ofFields_put (fields : Fields) (key : String) (v : Value) :
    (ofFields fields).put (.ofText key) v = ofFields (Table.put fields key v) := by
  induction fields with
  | nil => rfl
  | cons head rest ih =>
    obtain ⟨k, old⟩ := head
    change (if Key.text k = Key.text key then (Scalar.ofText k, v) :: ofFields rest
      else (Scalar.ofText k, old) :: (ofFields rest).put (.ofText key) v) = _
    rw [ih, Table.put_cons]
    simp only [text_eq_iff, Keyed.key_text]
    split <;> rfl

/-- Entries under texts are merged as tables. -/
theorem ofFields_merge (fields more : Fields) :
    (ofFields fields).merge (ofFields more) = ofFields (Table.merge fields more) := by
  induction more generalizing fields with
  | nil => rfl
  | cons head rest ih =>
    rw [Table.merge_cons, ← ih, ← ofFields_put]
    rfl

/-! ## Sameness -/

theorem same_iff : entries.same others = true ↔
    entries.length = others.length ∧
      ∀ k v, (k, v) ∈ entries → ∃ w, others.get? k.key = some w ∧ v.same w = true := by
  unfold same
  rw [Bool.and_eq_true, beq_iff_eq, List.all_eq_true]
  refine and_congr_right fun _ => ⟨fun h k v listed => ?_, fun h entry listed => ?_⟩
  · have found := h (k, v) listed
    dsimp only at found
    split at found
    · exact ⟨_, by assumption, found⟩
    · exact absurd found nofun
  · obtain ⟨w, found, alike⟩ := h entry.1 entry.2 listed
    dsimp only
    rw [found]
    exact alike

theorem same_self (distinct : entries.keys.Nodup) (alike : ∀ k v, (k, v) ∈ entries → v.same v = true) :
    entries.same entries = true :=
  same_iff.mpr ⟨rfl, fun k v listed => ⟨v, Table.get?_of_mem distinct listed, alike k v listed⟩⟩

/-- **Entries that are the same have the same keys.** -/
theorem perm_keys_of_same (distinct : entries.keys.Nodup) (h : entries.same others = true) :
    entries.keys.Perm others.keys := by
  obtain ⟨count, alike⟩ := same_iff.mp h
  have known : entries.keys ⊆ others.keys := by
    intro key key_listed
    obtain ⟨⟨k, v⟩, listed, rfl⟩ := List.mem_map.mp key_listed
    obtain ⟨w, found, -⟩ := alike k v listed
    exact Table.exists_get?_iff.mp ⟨w, found⟩
  -- The second have no more keys than the first, and so no others.
  exact (distinct.subperm known).perm_of_length_le (by simp [Table.keys, count])

/-- What the second of two that are the same list, the first finds, too. -/
theorem exists_of_same (distinct : entries.keys.Nodup) (h : entries.same others = true) {k : Scalar}
    (listed : (k, w) ∈ others) : ∃ v, entries.get? k.key = some v ∧ v.same w = true := by
  have all := perm_keys_of_same distinct h
  have here : k.key ∈ entries.keys := all.mem_iff.mpr (Table.key_mem_keys listed)
  obtain ⟨⟨k', v⟩, listed', same⟩ := List.mem_map.mp here
  obtain ⟨w', found, alike⟩ := (same_iff.mp h).2 k' v listed'
  have same : k'.key = k.key := same
  have there : others.get? k.key = some w := Table.get?_of_mem (all.nodup_iff.mp distinct) listed
  rw [same, there] at found
  obtain rfl := Option.some.inj found
  exact ⟨v, same ▸ Table.get?_of_mem distinct listed', alike⟩

end Entries

theorem Value.sameFields_iff {fields others : Fields} :
    Value.sameFields fields others = true ↔
      ∀ f ∈ fields, ∃ w, Table.get? others f.1 = some w ∧ f.2.same w = true := by
  induction fields with
  | nil => simp [Value.sameFields]
  | cons head rest ih =>
    unfold Value.sameFields
    rw [Bool.and_eq_true, ih, List.forall_mem_cons]
    refine and_congr_left fun _ => ?_
    cases Table.get? others head.1 <;> simp

/-- Objects are the same if their fields are the same as entries. -/
theorem Value.same_object (fields others : Fields) :
    (Value.object fields).same (.object others) = (Entries.ofFields fields).same (.ofFields others) := by
  rw [Bool.eq_iff_iff, Entries.same_iff, Value.same, Bool.and_eq_true, beq_iff_eq, sameFields_iff]
  unfold Entries.ofFields
  rw [List.length_map, List.length_map]
  refine and_congr_right fun _ => ⟨fun h k v listed => ?_, fun h f listed => ?_⟩
  · obtain ⟨f, here, same⟩ := List.mem_map.mp listed
    obtain ⟨rfl, rfl⟩ := Prod.mk.inj same
    obtain ⟨w, found, alike⟩ := h f here
    exact ⟨w, (Entries.get?_ofFields others f.1).trans found, alike⟩
  · obtain ⟨w, found, alike⟩ := h (Scalar.ofText f.1) f.2 (List.mem_map_of_mem listed)
    exact ⟨w, (Entries.get?_ofFields others f.1).symm.trans found, alike⟩

end StaticAccessors
