import Mathlib.Data.List.Induction
import StaticAccessors.Table

/-!
# Tables and what they list

A look-up finds the first entry under a key. `Table.put` never lists a key twice, so in a table that was
put together every entry is the one that is found, and leaving entries out uncovers no others. A label tells
more than its key, so what is found is listed under some label of that key; a text tells no more, and what
holds of the key then holds of the entry.

## Contents
- `exists_of_get?`, `get?_of_mem`, `exists_get?_iff`: entries and look-ups.
- `has_put`, `mem_put`, `put_eq_append`, `nodup_keys_put`, `put_put`: what one `put` adds.
- `get?_filter_keys`, `filter_put`: what is found after keys were left out.
- `get?_merge`, `nodup_keys_merge`, `mem_merge`, `forall_merge`, `filter_merge`: one table laid over another.
- `last_of_get?_merge`, `exists_get?_merge`: what was laid over nothing.
- `mem_of_get?`, `get?_filter`: tables under texts.
-/

namespace StaticAccessors.Table

variable {κ K α : Type} [Keyed κ K]
variable {table more : Table κ α} {label : κ} {key : K} {value : α}

/-! ## Entries -/

theorem key_mem_keys (h : (label, value) ∈ table) : Keyed.key label ∈ table.keys :=
  List.mem_map_of_mem h

theorem get?_cons (first : κ) (v : α) (rest : Table κ α) (key : K) :
    get? ((first, v) :: rest) key = if Keyed.key first = key then some v else get? rest key := rfl

/-- What is found is listed under a label of its key. -/
theorem exists_of_get? (h : table.get? key = some value) :
    ∃ label, Keyed.key label = key ∧ (label, value) ∈ table := by
  induction table with
  | nil => exact absurd h nofun
  | cons head rest ih =>
    obtain ⟨first, v⟩ := head
    rw [get?_cons] at h
    by_cases same : Keyed.key first = key
    · rw [if_pos same] at h
      obtain rfl := Option.some.inj h
      exact ⟨first, same, List.mem_cons_self⟩
    · rw [if_neg same] at h
      obtain ⟨label, same, listed⟩ := ih h
      exact ⟨label, same, List.mem_cons_of_mem _ listed⟩

/-- What is listed once is found. -/
theorem get?_of_mem (distinct : table.keys.Nodup) (h : (label, value) ∈ table) :
    table.get? (Keyed.key label) = some value := by
  induction table with
  | nil => exact absurd h List.not_mem_nil
  | cons head rest ih =>
    obtain ⟨first, v⟩ := head
    obtain ⟨new, distinct⟩ := List.nodup_cons.mp distinct
    rw [get?_cons]
    rcases List.mem_cons.mp h with same | later
    · obtain ⟨rfl, rfl⟩ := Prod.mk.inj same
      exact if_pos rfl
    · have apart : Keyed.key first ≠ Keyed.key label := by
        intro same
        apply new
        show Keyed.key first ∈ keys rest
        rw [same]
        exact key_mem_keys later
      rw [if_neg apart]
      exact ih distinct later

theorem get?_eq_none_iff : table.get? key = none ↔ key ∉ table.keys := by
  induction table with
  | nil => simp [keys]
  | cons head rest ih =>
    obtain ⟨first, v⟩ := head
    rw [get?_cons]
    by_cases same : Keyed.key first = key
    · simp [same, keys]
    · have other : key ≠ Keyed.key first := fun h => same h.symm
      simpa [same, other, keys] using ih

theorem exists_get?_iff : (∃ value, table.get? key = some value) ↔ key ∈ table.keys := by
  rw [← Option.ne_none_iff_exists', Ne, get?_eq_none_iff, not_not]

theorem has_eq_true_iff : table.has key = true ↔ ∃ value, table.get? key = some value :=
  Option.isSome_iff_exists

theorem has_eq_false_iff : table.has key = false ↔ table.get? key = none := by
  unfold has
  cases table.get? key <;> simp

/-! ## Putting -/

/-- After a `put` there is one key more at most. -/
theorem has_put (table : Table κ α) (label : κ) (other : K) (value : α) :
    (table.put label value).has other = true ↔ Keyed.key label = other ∨ table.has other = true := by
  unfold has
  by_cases same : Keyed.key label = other
  · subst same
    simp
  · rw [get?_put_of_ne table label value same]
    simp [same]

theorem put_cons (first : κ) (v : α) (rest : Table κ α) (label : κ) (value : α) :
    put ((first, v) :: rest) label value =
      if Keyed.key first = Keyed.key label then (first, value) :: rest
      else (first, v) :: put rest label value := rfl

/-- What is listed after a `put` was put or was there before. -/
theorem mem_put {entry : κ × α} (h : entry ∈ table.put label value) :
    Keyed.key entry.1 = Keyed.key label ∧ entry.2 = value ∨ entry ∈ table := by
  induction table with
  | nil =>
    obtain rfl := List.mem_singleton.mp h
    exact .inl ⟨rfl, rfl⟩
  | cons head rest ih =>
    obtain ⟨first, v⟩ := head
    rw [put_cons] at h
    by_cases same : Keyed.key first = Keyed.key label
    · rw [if_pos same] at h
      rcases List.mem_cons.mp h with rfl | h
      · exact .inl ⟨same, rfl⟩
      · exact .inr (List.mem_cons_of_mem _ h)
    · rw [if_neg same] at h
      rcases List.mem_cons.mp h with rfl | h
      · exact .inr List.mem_cons_self
      · exact (ih h).imp id (List.mem_cons_of_mem _)

/-- A known key keeps its place. -/
theorem keys_put_of_mem (known : Keyed.key label ∈ table.keys) (value : α) :
    (table.put label value).keys = table.keys := by
  induction table with
  | nil => exact absurd known List.not_mem_nil
  | cons head rest ih =>
    obtain ⟨first, v⟩ := head
    rw [put_cons]
    by_cases same : Keyed.key first = Keyed.key label
    · rw [if_pos same]
      rfl
    · rw [if_neg same]
      have later : Keyed.key label ∈ keys rest :=
        (List.mem_cons.mp known).resolve_left fun here => same here.symm
      exact congrArg (Keyed.key first :: ·) (ih later)

/-- A new key is put at the end. -/
theorem put_eq_append (new : Keyed.key label ∉ table.keys) :
    table.put label value = table ++ [(label, value)] := by
  induction table with
  | nil => rfl
  | cons head rest ih =>
    obtain ⟨first, v⟩ := head
    have other : Keyed.key first ≠ Keyed.key label := fun h => new (h ▸ List.mem_cons_self)
    rw [put_cons, if_neg other, ih fun h => new (List.mem_cons_of_mem _ h)]
    rfl

/-- No key is ever listed twice. -/
theorem nodup_keys_put (distinct : table.keys.Nodup) (label : κ) (value : α) :
    (table.put label value).keys.Nodup := by
  by_cases known : Keyed.key label ∈ table.keys
  · rw [keys_put_of_mem known]
    exact distinct
  · rw [put_eq_append known, keys, List.map_append]
    refine List.nodup_append.mpr ⟨distinct, by simp, ?_⟩
    rintro a listed b last rfl
    obtain rfl := List.mem_singleton.mp last
    exact known listed

/-- What was put under a label is replaced by what is put there next. -/
theorem put_put (table : Table κ α) (label : κ) (value again : α) :
    (table.put label value).put label again = table.put label again := by
  induction table with
  | nil => simp [put]
  | cons head rest ih =>
    obtain ⟨first, v⟩ := head
    rw [put_cons, put_cons]
    by_cases same : Keyed.key first = Keyed.key label
    · rw [if_pos same, if_pos same, put_cons, if_pos same]
    · rw [if_neg same, if_neg same, put_cons, if_neg same, ih]

/-! ## Leaving out -/

theorem nodup_keys_filter (distinct : table.keys.Nodup) (keep : κ × α → Bool) :
    keys (table.filter keep) |>.Nodup :=
  distinct.sublist (List.filter_sublist.map _)

/-- Leaving out by keys leaves a kept key its value. -/
theorem get?_filter_keys (table : Table κ α) (keep : K → Bool) (key : K) :
    get? (table.filter (keep <| Keyed.key ·.1)) key = if keep key then table.get? key else none := by
  induction table with
  | nil => simp
  | cons head rest ih =>
    obtain ⟨first, v⟩ := head
    rw [List.filter_cons, get?_cons]
    by_cases same : Keyed.key first = key
    · subst same
      by_cases kept : keep (Keyed.key first) = true <;> simp [kept, get?_cons, ih]
    · by_cases kept : keep (Keyed.key first) = true <;> simp [kept, get?_cons, same, ih]

/-- A key that is put is left out, or put after others were left out. -/
theorem filter_put (table : Table κ α) (keep : K → Bool) (label : κ) (value : α) :
    (table.put label value).filter (keep <| Keyed.key ·.1) =
      if keep (Keyed.key label) then put (table.filter (keep <| Keyed.key ·.1)) label value
      else table.filter (keep <| Keyed.key ·.1) := by
  induction table with
  | nil => by_cases kept : keep (Keyed.key label) = true <;> simp [put, kept]
  | cons head rest ih =>
    obtain ⟨first, v⟩ := head
    rw [put_cons]
    by_cases same : Keyed.key first = Keyed.key label
    · by_cases kept : keep (Keyed.key label) = true <;> simp [kept, same, put_cons]
    · rw [if_neg same, List.filter_cons, ih]
      by_cases kept : keep (Keyed.key first) = true <;> by_cases taken : keep (Keyed.key label) = true <;>
        simp [kept, taken, same, put_cons]

/-! ## Laying over -/

section

variable (table more : Table κ α)

theorem merge_cons (entry : κ × α) (rest : Table κ α) :
    table.merge (entry :: rest) = (table.put entry.1 entry.2).merge rest := rfl

theorem merge_concat (before : Table κ α) (entry : κ × α) :
    table.merge (before ++ [entry]) = (table.merge before).put entry.1 entry.2 := List.foldl_append

/-- **A table that is laid over another** gives its keys their values, and leaves all others alone. -/
theorem get?_merge (distinct : more.keys.Nodup) (key : K) :
    (table.merge more).get? key = (more.get? key).or (table.get? key) := by
  induction more generalizing table with
  | nil => rfl
  | cons head rest ih =>
    obtain ⟨first, v⟩ := head
    obtain ⟨new, distinct⟩ := List.nodup_cons.mp distinct
    rw [merge_cons, ih _ distinct, get?_cons]
    by_cases same : Keyed.key first = key
    · subst same
      rw [get?_eq_none_iff.mpr new, get?_put_self, if_pos rfl]
      rfl
    · rw [get?_put_of_ne table first v same, if_neg same]

/-- A key that is not laid over keeps its value. -/
theorem get?_merge_of_not_mem {more : Table κ α} (new : key ∉ more.keys) :
    (table.merge more).get? key = table.get? key := by
  induction more generalizing table with
  | nil => rfl
  | cons head rest ih =>
    have apart : Keyed.key head.1 ≠ key := fun same => new (same ▸ List.mem_cons_self)
    rw [merge_cons, ih _ fun later => new (List.mem_cons_of_mem _ later), get?_put_of_ne _ _ _ apart]

theorem nodup_keys_merge (distinct : table.keys.Nodup) : (table.merge more).keys.Nodup := by
  induction more generalizing table with
  | nil => exact distinct
  | cons head rest ih => exact ih _ (nodup_keys_put distinct head.1 head.2)

/-- What is listed after a merge was listed on one of the two sides. -/
theorem mem_merge {table more : Table κ α} {entry : κ × α} (h : entry ∈ table.merge more) :
    entry ∈ table ∨ ∃ label, Keyed.key entry.1 = Keyed.key label ∧ (label, entry.2) ∈ more := by
  induction more generalizing table with
  | nil => exact .inl h
  | cons head rest ih =>
    rcases ih h with early | ⟨label, same, late⟩
    · rcases mem_put early with ⟨same, value⟩ | early
      · exact .inr ⟨head.1, same, value ▸ List.mem_cons_self⟩
      · exact .inl early
    · exact .inr ⟨label, same, List.mem_cons_of_mem _ late⟩

/-- What holds of the values on both sides holds after a merge. -/
theorem forall_merge {P : α → Prop} {table more : Table κ α} (all : ∀ entry ∈ table, P entry.2)
    (new : ∀ entry ∈ more, P entry.2) : ∀ entry ∈ table.merge more, P entry.2 := by
  intro entry listed
  rcases mem_merge listed with listed | ⟨label, -, listed⟩
  · exact all entry listed
  · exact new (label, entry.2) listed

/-- Laid over nothing, a table is what it was. -/
theorem merge_nil_left (distinct : more.keys.Nodup) : merge [] more = more := by
  -- In the induction the entries that were put so far stand on the left; what follows has other keys.
  suffices h : ∀ table : Table κ α, (∀ key ∈ more.keys, key ∉ table.keys) → table.merge more = table ++ more by
    simpa using h [] (by simp [keys])
  induction more with
  | nil => exact fun table _ => (List.append_nil table).symm
  | cons head rest ih =>
    obtain ⟨first, v⟩ := head
    obtain ⟨new, distinct⟩ := List.nodup_cons.mp distinct
    intro table apart
    have added : table.put first v = table ++ [(first, v)] :=
      put_eq_append (apart (Keyed.key first) List.mem_cons_self)
    rw [merge_cons, added, ih distinct, List.append_assoc]
    · rfl
    · intro key listed known
      rw [keys, List.map_append, List.mem_append] at known
      rcases known with known | known
      · exact apart key (List.mem_cons_of_mem _ listed) known
      · obtain rfl := List.mem_singleton.mp known
        exact new listed

/-- Keys are left out before or after one table is laid over another. -/
theorem filter_merge (keep : K → Bool) :
    (table.merge more).filter (keep <| Keyed.key ·.1) =
      merge (table.filter (keep <| Keyed.key ·.1)) (more.filter (keep <| Keyed.key ·.1)) := by
  induction more generalizing table with
  | nil => rfl
  | cons head rest ih =>
    obtain ⟨first, v⟩ := head
    rw [merge_cons, ih, filter_put]
    by_cases kept : keep (Keyed.key first) = true
    · rw [if_pos kept, List.filter_cons, if_pos kept, merge_cons]
    · rw [if_neg kept, List.filter_cons, if_neg kept]

end

/-- What is found in a table was the last to be put there under its key. -/
theorem last_of_get?_merge (h : (merge [] more).get? key = some value) :
    ∃ front label back, more = front ++ (label, value) :: back ∧ Keyed.key label = key ∧ key ∉ keys back := by
  induction more using List.reverseRecOn with
  | nil => exact absurd h nofun
  | append_singleton before entry ih =>
    obtain ⟨last, v⟩ := entry
    rw [merge_concat] at h
    by_cases same : Keyed.key last = key
    · subst same
      rw [get?_put_self] at h
      obtain rfl := Option.some.inj h
      exact ⟨before, last, [], rfl, rfl, List.not_mem_nil⟩
    · rw [get?_put_of_ne _ _ _ same] at h
      obtain ⟨front, label, back, rfl, found, new⟩ := ih h
      refine ⟨front, label, back ++ [(last, v)], by rw [List.append_assoc, List.cons_append], found, ?_⟩
      unfold keys at new ⊢
      rw [List.map_append, List.mem_append, not_or]
      exact ⟨new, fun h => same (List.mem_singleton.mp h).symm⟩

/-- What was put in a table is found under its key, or something later is. -/
theorem exists_get?_merge (h : key ∈ keys more) : ∃ value, (merge [] more).get? key = some value := by
  induction more using List.reverseRecOn with
  | nil => exact absurd h List.not_mem_nil
  | append_singleton before entry ih =>
    obtain ⟨last, v⟩ := entry
    rw [merge_concat]
    by_cases same : Keyed.key last = key
    · exact ⟨v, same ▸ get?_put_self _ last v⟩
    · rw [get?_put_of_ne _ _ _ same]
      unfold keys at h
      rw [List.map_append, List.mem_append] at h
      exact ih (h.resolve_right fun late => same (List.mem_singleton.mp late).symm)

/-! ## Tables under texts -/

section

variable {table : Table String α} {name : String}

theorem get?_put_text (table : Table String α) (name : String) (value : α) :
    (table.put name value).get? name = some value := get?_put_self table name value

/-- What is found is listed. -/
theorem mem_of_get? (h : table.get? name = some value) : (name, value) ∈ table := by
  obtain ⟨label, same, listed⟩ := exists_of_get? h
  obtain rfl : label = name := same
  exact listed

/-- What is found after entries were left out is what was found before, if it was kept. -/
theorem get?_filter (distinct : table.keys.Nodup) (keep : String × α → Bool) :
    get? (table.filter keep) name = some value ↔ table.get? name = some value ∧ keep (name, value) = true := by
  constructor
  · intro h
    obtain ⟨listed, kept⟩ := List.mem_filter.mp (mem_of_get? h)
    exact ⟨get?_of_mem distinct listed, kept⟩
  · rintro ⟨h, kept⟩
    exact get?_of_mem (nodup_keys_filter distinct keep) (List.mem_filter.mpr ⟨mem_of_get? h, kept⟩)

end

end StaticAccessors.Table
