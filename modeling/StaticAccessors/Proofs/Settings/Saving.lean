import StaticAccessors.Proofs.Disk.Growth
import StaticAccessors.Proofs.Json.Reading
import StaticAccessors.Proofs.Outcome
import StaticAccessors.Proofs.Settings.Overlay
import StaticAccessors.Proofs.Value.Sameness

/-!
# Saving settings and loading them again

Saving writes the further settings beside the named ones, and loading tells them apart by their keys. So
settings come back from their file exactly if none of the further settings has a known key (`reload_iff`): one
that has the key of a named setting takes the place of that setting, and one that has the key of the further
settings takes the place of all of them.

## Contents
- `depth_of_entriesOf`, `nodup_entriesOf`: what a value holds as entries.
- `Further.same_of_table?` and `Further.exists_of_same`: further settings that are the same.
- `Settings.exists_given`: a further setting of a known key comes from inside the given ones.
- `Settings.saved` and `Settings.reloaded`, with `same_iff_unknown`: which settings come back.
- `Settings.Faithful`, with `faithful_of_plain` and `faithful_saved`: documents that are read back.
- `Settings.load_of_save` and `Settings.reload_iff`.
-/

namespace StaticAccessors

open Outcome

/-! ## What a value holds as entries -/

section

variable {v w : Value} {k : Scalar} {table : Entries}

/-- What a loop over a value visits is no deeper than the value. -/
theorem depth_of_elements {elements : List Value} (h : v.elements? = some elements) (listed : w ∈ elements) :
    w.depth ≤ v.depth ∧ (v.Distinct → w.Distinct) := by
  cases v with
  | list xs =>
    obtain rfl := Option.some.inj h
    exact ⟨Nat.le_of_lt (Value.depth_lt_of_mem listed), fun distinct => distinct.of_mem w listed⟩
  | text s =>
    obtain rfl := Option.some.inj h
    obtain ⟨c, -, rfl⟩ := List.mem_map.mp listed
    exact ⟨Nat.zero_le _, fun _ => .scalar rfl⟩
  | object fs =>
    obtain rfl := Option.some.inj h
    obtain ⟨f, -, rfl⟩ := List.mem_map.mp listed
    exact ⟨Nat.zero_le _, fun _ => .scalar rfl⟩
  | _ => exact absurd h nofun

theorem depth_of_entryOf {element : Value} (h : entryOf element = .ok (k, w)) :
    w.depth ≤ element.depth ∧ (element.Distinct → w.Distinct) := by
  unfold entryOf at h
  split at h
  · exact absurd h nofun
  · rename_i first second parts
    split at h
    · obtain ⟨-, rfl⟩ := Prod.mk.inj (Except.ok.inj h)
      exact depth_of_elements parts (List.mem_cons_of_mem _ (List.mem_singleton_self _))
    · exact absurd h nofun
  · exact absurd h nofun

/-- A text that stands for entries is empty. -/
theorem eq_nil_of_entriesOf_text {s : String} (h : entriesOf (.text s) = .ok table) : table = [] := by
  have made : (if s = "" then .ok [] else .error Fault.badValue) = Except.ok table := h
  split at made
  · exact (Except.ok.inj made).symm
  · exact absurd made nofun

/-- **The entries that a value stands for lie inside it.** -/
theorem depth_of_entriesOf (h : entriesOf v = .ok table) (listed : (k, w) ∈ table) :
    w.depth < v.depth ∧ (v.Distinct → w.Distinct) := by
  cases v with
  | object fs =>
    obtain rfl := Except.ok.inj h
    obtain ⟨f, here, same⟩ := List.mem_map.mp listed
    obtain ⟨-, rfl⟩ := Prod.mk.inj same
    exact ⟨Value.depth_lt_of_field here, fun distinct => distinct.of_object.2 f here⟩
  | list xs =>
    obtain ⟨pairs, made, rfl⟩ := map_eq_ok.mp h
    rcases Table.mem_merge listed with listed | ⟨k', -, listed⟩
    · exact absurd listed List.not_mem_nil
    obtain ⟨element, here, parts⟩ := exists_of_mem_mapM made listed
    obtain ⟨depth, distinct⟩ := depth_of_entryOf parts
    exact ⟨Nat.lt_of_le_of_lt depth (Value.depth_lt_of_mem here),
      fun whole => distinct (whole.of_mem element here)⟩
  | text s =>
    obtain rfl := eq_nil_of_entriesOf_text h
    exact absurd listed List.not_mem_nil
  | _ => exact absurd h nofun

theorem nodup_entriesOf (distinct : v.Distinct) (h : entriesOf v = .ok table) : table.keys.Nodup := by
  cases v with
  | object fs =>
    obtain rfl := Except.ok.inj h
    exact Entries.nodup_keys_ofFields distinct.of_object.1
  | list xs =>
    obtain ⟨pairs, made, rfl⟩ := map_eq_ok.mp h
    exact Table.nodup_keys_merge [] pairs List.nodup_nil
  | text s =>
    obtain rfl := eq_nil_of_entriesOf_text h
    exact List.nodup_nil
  | _ => exact absurd h nofun

end

/-! ## Further settings that are the same -/

namespace Further

variable {f g : Further} {table : Entries}

theorem table?_cases (h : f.table? = some table) :
    (∃ fields, f = .given (.object fields) ∧ .ofFields fields = table) ∨ f = .entries table := by
  unfold table? at h
  split at h
  · exact .inl ⟨_, rfl, Option.some.inj h⟩
  · exact absurd h nofun
  · exact .inr (congrArg _ (Option.some.inj h))

/-- Further settings that are the same entries are the same, however they are given. -/
theorem same_of_table? (hf : f.table? = some table) (hg : g.table? = some table)
    (alike : table.same table = true) : f.same g = true := by
  rcases table?_cases hf with ⟨fs, rfl, rfl⟩ | rfl
  · rcases table?_cases hg with ⟨gs, rfl, same⟩ | rfl
    · show (Value.object fs).same (.object gs) = true
      rw [Value.same_object, same]
      exact alike
    · exact alike
  · rcases table?_cases hg with ⟨gs, rfl, same⟩ | rfl
    · show Entries.same table (.ofFields gs) = true
      rw [same]
      exact alike
    · exact alike

/-- Further settings that are the same as entries are entries, and the same as these in one order or the
other. -/
theorem exists_of_same (hg : g.table? = some table) (h : f.same g = true) :
    ∃ entries, f.table? = some entries ∧ (entries.same table = true ∨ table.same entries = true) := by
  rcases table?_cases hg with ⟨gs, rfl, rfl⟩ | rfl
  · rcases f with v | entries
    · cases v with
      | object fs => exact ⟨_, rfl, .inl ((Value.same_object fs gs).symm.trans h)⟩
      | _ => exact absurd h nofun
    · exact ⟨_, rfl, .inl h⟩
  · rcases f with v | entries
    · cases v with
      | object fs => exact ⟨_, rfl, .inr h⟩
      | _ => exact absurd h nofun
    · exact ⟨_, rfl, .inl h⟩

end Further

namespace Settings

/-! ## Given further settings -/

/-- What is given under the key of the further settings, or an empty object. -/
def given (fields : Fields) : Value := (fields.get? customKey).getD (.object [])

/-- The further settings of fields, however they are given. -/
theorem customOf_cases {fields : Fields} {further : Further} (made : customOf (.ofFields fields) = .ok further) :
    (beyond fields = [] ∧ further = .given (given fields)) ∨
      ∃ base, entriesOf ((given fields).orElse (.object [])) = .ok base ∧
        further = .entries (base.merge (Entries.ofFields (beyond fields))) := by
  unfold customOf at made
  rw [Entries.get?_ofFields, extras_ofFields] at made
  cases more : beyond fields with
  | nil =>
    rw [more] at made
    exact .inl ⟨rfl, (Except.ok.inj made).symm⟩
  | cons field rest =>
    rw [more] at made
    obtain ⟨base, entries, rfl⟩ := map_eq_ok.mp made
    exact .inr ⟨base, entries, rfl⟩

/-- A value that is not false is not replaced; and what replaces it holds nothing. -/
theorem orElse_cases {v : Value} {table : Entries} (h : entriesOf (v.orElse (.object [])) = .ok table) :
    table = [] ∨ entriesOf v = .ok table := by
  unfold Value.orElse at h
  split at h
  · exact .inr h
  · exact .inl (Except.ok.inj h).symm

/-- **A further setting of a known key** is among the entries that are given under the key of the further
settings. -/
theorem exists_given {fields : Fields} {further : Further} {table : Entries} {key : String} {w : Value}
    (made : customOf (.ofFields fields) = .ok further) (listed : further.table? = some table)
    (known : key ∈ knownKeys) (found : table.get? (.text key) = some w) :
    ∃ base k, entriesOf (given fields) = .ok base ∧ (k, w) ∈ base := by
  rcases customOf_cases made with ⟨-, rfl⟩ | ⟨base, entries, rfl⟩
  · obtain ⟨k, -, here⟩ := Table.exists_of_get? found
    exact ⟨table, k, Further.toEntries_of_table? listed, here⟩
  · obtain rfl := Option.some.inj listed
    have apart : Key.text key ∉ (Entries.ofFields (beyond fields)).keys := by
      rw [← Table.get?_eq_none_iff, Entries.get?_ofFields, get?_beyond, if_pos known]
    rw [Table.get?_merge_of_not_mem base apart] at found
    obtain ⟨k, -, here⟩ := Table.exists_of_get? found
    rcases orElse_cases entries with rfl | entries
    · exact absurd here List.not_mem_nil
    · exact ⟨base, k, entries, here⟩

theorem distinct_given {fields : Fields} (distinct : (Value.object fields).Distinct) :
    (given fields).Distinct := by
  unfold given
  cases custom : fields.get? customKey with
  | none => exact .empty
  | some v => exact distinct.of_object.2 _ (Table.mem_of_get? custom)

/-- Further settings list no key twice, if what is given does not. -/
theorem nodup_of_customOf {fields : Fields} {further : Further} {table : Entries}
    (distinct : (Value.object fields).Distinct) (made : customOf (.ofFields fields) = .ok further)
    (listed : further.table? = some table) : table.keys.Nodup := by
  have whole := distinct_given distinct
  rcases customOf_cases made with ⟨-, rfl⟩ | ⟨base, entries, rfl⟩
  · exact nodup_entriesOf whole (Further.toEntries_of_table? listed)
  · obtain rfl := Option.some.inj listed
    refine Table.nodup_keys_merge _ _ ?_
    rcases orElse_cases entries with rfl | entries
    · exact List.nodup_nil
    · exact nodup_entriesOf whole entries

/-! ## Layers -/

theorem nodup_keys_beyond {fields : Fields} (distinct : fields.keys.Nodup) : (beyond fields).keys.Nodup :=
  Table.nodup_keys_filter distinct _

theorem beyond_merge (table more : Fields) :
    beyond (Table.merge table more) = Table.merge (beyond table) (beyond more) :=
  Table.filter_merge table more fun k => k ∉ knownKeys

theorem beyond_layers {file overrides : Fields} (distinct : file.keys.Nodup) :
    beyond (layers file overrides) = Table.merge (beyond file) (beyond overrides) := by
  have none : beyond defaults.allFields = [] := by decide
  unfold layers
  rw [beyond_merge, beyond_merge, none, Table.merge_nil_left _ (nodup_keys_beyond distinct)]

theorem distinct_default (setting : Setting) : setting.default.Distinct := by
  cases setting with
  | banner =>
    refine .list fun line listed => ?_
    rcases List.mem_pair.mp listed with rfl | rfl <;> exact .scalar rfl
  | _ => exact .scalar rfl

/-- What holds of the defaults and of what is laid over them holds of the layers. -/
theorem forall_layers {P : Value → Prop} {file overrides : Fields}
    (default : ∀ setting : Setting, P setting.default) (empty : P (.object []))
    (ofFile : ∀ f ∈ file, P f.2) (ofOverrides : ∀ f ∈ overrides, P f.2) :
    ∀ f ∈ layers file overrides, P f.2 := by
  refine Table.forall_merge (Table.forall_merge ?_ ofFile) ofOverrides
  intro f listed
  rcases List.mem_append.mp listed with named | custom
  · obtain ⟨setting, -, rfl⟩ := List.mem_map.mp named
    exact default setting
  · obtain rfl := List.mem_singleton.mp custom
    exact empty

/-- Layers list no key twice, at any depth, if what is laid over the defaults does not. -/
theorem distinct_layers {file overrides : Fields} (distinctFile : (Value.object file).Distinct)
    (distinctOverrides : (Value.object overrides).Distinct) : (Value.object (layers file overrides)).Distinct :=
  .object nodup_keys_layers
    (forall_layers distinct_default .empty distinctFile.of_object.2 distinctOverrides.of_object.2)

/-! ## Saved settings -/

section

variable {fields : Fields}

/-- The further settings of fields, as fields. -/
def furtherFields (fields : Fields) : Fields := Table.merge (nested fields) (beyond fields)

/-- The fields that are written when the settings of fields are saved. -/
def saved (fields : Fields) : Fields := Table.merge (ofFields fields).toTable (furtherFields fields)

theorem table?_ofFields (fields : Fields) :
    (ofFields fields).custom.table? = some (.ofFields (furtherFields fields)) :=
  table?_furtherOf _ _

theorem flatten_ofFields (fields : Fields) : (ofFields fields).flatten = .ok (.ofFields (saved fields)) := by
  unfold flatten
  rw [Further.toEntries_of_table? (table?_ofFields fields)]
  exact congrArg Except.ok (Entries.ofFields_merge _ _)

theorem keys_toTable (s : Settings) : s.toTable.keys = Setting.all.map Setting.key := by
  unfold toTable Table.keys
  rw [List.map_map]
  rfl

theorem get?_toTable (s : Settings) (setting : Setting) : s.toTable.get? setting.key = some (s setting) := by
  cases setting <;> rfl

/-- What holds of fields, and of the fields of an object of which it holds, holds of the further ones. -/
theorem forall_furtherFields {P : Value → Prop} (opens : ∀ inner, P (.object inner) → ∀ f ∈ inner, P f.2)
    (all : ∀ f ∈ fields, P f.2) : ∀ f ∈ furtherFields fields, P f.2 := by
  refine Table.forall_merge ?_ fun f beside => all f (List.mem_of_mem_filter beside)
  intro f inside
  unfold nested at inside
  split at inside
  · exact opens _ (all _ (Table.mem_of_get? (by assumption))) f inside
  · exact absurd inside List.not_mem_nil

theorem forall_value {P : Value → Prop} (default : ∀ setting : Setting, P setting.default)
    (all : ∀ f ∈ fields, P f.2) (setting : Setting) : P (ofFields fields setting) := by
  show P ((fields.get? setting.key).getD setting.default)
  cases found : fields.get? setting.key with
  | none => exact default setting
  | some v => exact all _ (Table.mem_of_get? found)

/-- What holds of the defaults, of fields, and of the fields of an object of which it holds, holds of all that
is saved. -/
theorem forall_saved {P : Value → Prop} (default : ∀ setting : Setting, P setting.default)
    (opens : ∀ inner, P (.object inner) → ∀ f ∈ inner, P f.2) (all : ∀ f ∈ fields, P f.2) :
    ∀ f ∈ saved fields, P f.2 := by
  refine Table.forall_merge ?_ (forall_furtherFields opens all)
  intro f named
  obtain ⟨setting, -, rfl⟩ := List.mem_map.mp named
  exact forall_value default all setting

theorem distinct_furtherFields (distinct : (Value.object fields).Distinct) :
    (Value.object (furtherFields fields)).Distinct := by
  refine .object (Table.nodup_keys_merge _ _ ?_)
    (forall_furtherFields (fun _ inner => inner.of_object.2) distinct.of_object.2)
  unfold nested
  split
  · exact (distinct.of_object.2 _ (Table.mem_of_get? (by assumption))).of_object.1
  · exact List.nodup_nil

theorem nodup_keys_saved : (saved fields).keys.Nodup := by
  refine Table.nodup_keys_merge _ _ ?_
  rw [keys_toTable]
  decide

theorem get?_saved (distinct : (Value.object fields).Distinct) (key : String) :
    (saved fields).get? key = ((furtherFields fields).get? key).or ((ofFields fields).toTable.get? key) :=
  Table.get?_merge _ _ (distinct_furtherFields distinct).of_object.1 key

theorem get?_saved_customKey (distinct : (Value.object fields).Distinct) :
    (saved fields).get? customKey = (furtherFields fields).get? customKey := by
  have none : (ofFields fields).toTable.get? customKey = none := rfl
  rw [get?_saved distinct, none, Option.or_none]

theorem beyond_saved (distinct : (Value.object fields).Distinct) :
    beyond (saved fields) = beyond (furtherFields fields) := by
  have none : beyond (ofFields fields).toTable = [] := by
    refine List.filter_eq_nil_iff.mpr fun f listed => ?_
    obtain ⟨setting, -, rfl⟩ := List.mem_map.mp listed
    simp [mem_knownKeys setting]
  unfold saved
  rw [beyond_merge, none, Table.merge_nil_left _ (nodup_keys_beyond (distinct_furtherFields distinct).of_object.1)]

/-- The layers that are put together when saved settings are loaded. -/
def reloaded (fields : Fields) : Fields := layers (saved fields) []

theorem get?_reloaded (key : String) :
    (reloaded fields).get? key = ((saved fields).get? key).or (defaults.allFields.get? key) :=
  get?_layers nodup_keys_saved (show (Table.keys []).Nodup from List.nodup_nil) key

theorem beyond_reloaded (distinct : (Value.object fields).Distinct) :
    beyond (reloaded fields) = beyond (furtherFields fields) :=
  (beyond_layers nodup_keys_saved).trans (beyond_saved distinct)

theorem get?_reloaded_customKey (distinct : (Value.object fields).Distinct) :
    (reloaded fields).get? customKey = some (given (furtherFields fields)) := by
  have default : defaults.allFields.get? customKey = some (.object []) := rfl
  rw [get?_reloaded, get?_saved_customKey distinct, default]
  unfold given
  cases (furtherFields fields).get? customKey <;> rfl

theorem given_reloaded (distinct : (Value.object fields).Distinct) :
    given (reloaded fields) = given (furtherFields fields) := by
  rw [given, get?_reloaded_customKey distinct]
  rfl

theorem distinct_saved (distinct : (Value.object fields).Distinct) : (Value.object (saved fields)).Distinct :=
  .object nodup_keys_saved (forall_saved distinct_default (fun _ inner => inner.of_object.2) distinct.of_object.2)

theorem further?_eq_get? (key : String) : (ofFields fields).further? key = (furtherFields fields).get? key :=
  further?_of_table? (table?_ofFields fields) key

/-- **Settings come back if none of the further ones has a known key.** -/
theorem same_of_unknown (distinct : (Value.object fields).Distinct)
    (unknown : ∀ key ∈ knownKeys, (ofFields fields).further? key = none) :
    ∃ again, ofEntries (.ofFields (reloaded fields)) = .ok again ∧ again.same (ofFields fields) = true := by
  have none (key : String) (known : key ∈ knownKeys) : (furtherFields fields).get? key = none :=
    (further?_eq_get? key).symm.trans (unknown key known)
  have custom : (reloaded fields).get? customKey = some (.object []) := by
    rw [get?_reloaded_customKey distinct, given, none _ customKey_mem_knownKeys]
    rfl
  have nests : Nests (reloaded fields) := fun v found => ⟨_, (Option.some.inj (custom.symm.trans found)).symm⟩
  refine ⟨_, ofEntries_ofFields nests, ?_⟩
  unfold same
  rw [Bool.and_eq_true, List.all_eq_true]
  constructor
  · intro setting _
    have value : ofFields (reloaded fields) setting = ofFields fields setting := by
      show ((reloaded fields).get? setting.key).getD setting.default = _
      rw [get?_reloaded, get?_saved distinct, none _ (mem_knownKeys setting), get?_toTable]
      rfl
    rw [value]
    exact Value.same_self (forall_value distinct_default distinct.of_object.2 setting)
  · have whole := distinct_furtherFields distinct
    have inner : nested (reloaded fields) = [] := by
      unfold nested
      rw [custom]
    -- All further settings stand beside the named ones, and none of them is left out.
    have more : beyond (furtherFields fields) = furtherFields fields := by
      refine List.filter_eq_self.mpr fun f listed => ?_
      have found := Table.get?_of_mem whole.of_object.1 listed
      have apart : f.1 ∉ knownKeys := fun known => absurd (found.symm.trans (none _ known)) nofun
      simp [apart]
    have table : (ofFields (reloaded fields)).custom.table? = some (.ofFields (furtherFields fields)) := by
      rw [table?_ofFields]
      unfold furtherFields
      rw [inner, beyond_reloaded distinct, more]
      exact congrArg (some ∘ Entries.ofFields) (Table.merge_nil_left _ whole.of_object.1)
    refine Further.same_of_table? table (table?_ofFields fields) ?_
    refine Entries.same_self (Entries.nodup_keys_ofFields whole.of_object.1) fun k v listed => ?_
    obtain ⟨f, here, same⟩ := List.mem_map.mp listed
    obtain ⟨-, rfl⟩ := Prod.mk.inj same
    exact Value.same_self (whole.of_object.2 f here)

/-- **Settings do not come back if a further one has a known key.** -/
theorem unknown_of_same (distinct : (Value.object fields).Distinct) {again : Settings}
    (made : ofEntries (.ofFields (reloaded fields)) = .ok again) (same : again.same (ofFields fields) = true) :
    ∀ key ∈ knownKeys, (ofFields fields).further? key = none := by
  have whole := distinct_furtherFields distinct
  obtain ⟨custom, customs, rfl⟩ := map_eq_ok.mp made
  obtain ⟨-, alike⟩ := Bool.and_eq_true_iff.mp same
  obtain ⟨table, listed, alike⟩ := Further.exists_of_same (table?_ofFields fields) alike
  have reloads : (Value.object (reloaded fields)).Distinct := distinct_layers (distinct_saved distinct) .empty
  -- What was saved among the further settings is there again, equally deep.
  have kept (key : String) (v : Value) (found : (furtherFields fields).get? key = some v) :
      ∃ w, table.get? (.text key) = some w ∧ (w.Distinct → w.depth = v.depth) := by
    have here : (Scalar.ofText key, v) ∈ Entries.ofFields (furtherFields fields) :=
      List.mem_map_of_mem (Table.mem_of_get? found)
    rcases alike with alike | alike
    · obtain ⟨w, there, equal⟩ := Entries.exists_of_same (nodup_of_customOf reloads customs listed) alike here
      exact ⟨w, there, fun distinct => Value.depth_eq_of_same distinct equal⟩
    · obtain ⟨w, there, equal⟩ := (Entries.same_iff.mp alike).2 _ _ here
      have settled := whole.of_object.2 _ (Table.mem_of_get? found)
      exact ⟨w, there, fun _ => (Value.depth_eq_of_same settled equal).symm⟩
  -- If its key is known, it comes from inside what was saved under the key of the further settings.
  have inside (key : String) (known : key ∈ knownKeys) (v : Value)
      (found : (furtherFields fields).get? key = some v) :
      ∃ outer, (furtherFields fields).get? customKey = some outer ∧ v.depth < outer.depth := by
    obtain ⟨w, there, deep⟩ := kept key v found
    obtain ⟨base, k, entries, here⟩ := exists_given customs listed known there
    rw [given_reloaded distinct] at entries
    obtain ⟨less, settled⟩ := depth_of_entriesOf entries here
    rw [deep (settled (distinct_given whole))] at less
    unfold given at entries less
    cases custom : (furtherFields fields).get? customKey with
    | none =>
      rw [custom] at entries
      obtain rfl := Except.ok.inj entries
      exact absurd here List.not_mem_nil
    | some outer =>
      rw [custom] at less
      exact ⟨outer, rfl, less⟩
  intro key known
  rw [further?_eq_get?]
  by_contra there
  obtain ⟨v, found⟩ := Option.ne_none_iff_exists'.mp there
  -- So it is what stands under that key that would lie inside itself.
  obtain ⟨outer, custom, -⟩ := inside key known v found
  obtain ⟨outer', custom', less⟩ := inside customKey customKey_mem_knownKeys outer custom
  obtain rfl := Option.some.inj (custom.symm.trans custom')
  exact Nat.lt_irrefl _ less

/-- **Settings come back from what was saved exactly if none of the further ones has a known key.** -/
theorem same_iff_unknown (distinct : (Value.object fields).Distinct) :
    (∃ again, ofEntries (.ofFields (reloaded fields)) = .ok again ∧ again.same (ofFields fields) = true) ↔
      ∀ key ∈ knownKeys, (ofFields fields).further? key = none :=
  ⟨fun ⟨_, made, same⟩ => unknown_of_same distinct made same, same_of_unknown distinct⟩

end

/-! ## Settings files -/

section

variable {fields : Fields} {d after : Disk} {here : Location} {path : FilePath} {name : String}

/-- A document is read back from its text, its line ends unified. -/
def Faithful (fields : Fields) : Prop :=
  Json.read (String.ofList (Text.unifyLines (Json.print (.object fields)).toList)) = .ok (.object fields)

/-- Documents without doubles are. -/
theorem faithful_of_plain (plain : Json.Plain (.object fields))
    (shallow : (Value.object fields).depth ≤ Json.depthLimit) : Faithful fields := by
  have lines : Text.unifyLines (Json.print (.object fields)).toList = (Json.print (.object fields)).toList :=
    Json.unifyLines_of_not_mem (Json.not_mem_print plain 0)
  unfold Faithful
  rw [lines, String.ofList_toList]
  exact Json.read_print plain shallow

theorem map_fieldName_ofFields (fields : Fields) :
    (Entries.ofFields fields).map (fun (k, v) => (Json.fieldName k, v)) = fields := by
  unfold Entries.ofFields
  rw [List.map_map]
  exact List.map_id fields

theorem printEntries_ofFields (fields : Fields) :
    Json.printEntries (.ofFields fields) = Json.print (.object fields) := by
  unfold Json.printEntries
  rw [map_fieldName_ofFields]

theorem eq_saved_of_flatten {others : Fields} (flat : (ofFields fields).flatten = .ok (.ofFields others)) :
    others = saved fields := by
  have same := Except.ok.inj (flat.symm.trans (flatten_ofFields fields))
  rw [← map_fieldName_ofFields others, same, map_fieldName_ofFields]

/-- **Saving writes the text of the saved fields.** -/
theorem save_eq_ok_iff :
    (ofFields fields).save d here path = (.ok (), after) ↔
      d.writeFile here path (Json.print (.object (saved fields))).toUTF8 = .ok after := by
  unfold save
  rw [flatten_ofFields]
  dsimp only
  rw [printEntries_ofFields]
  cases d.writeFile here path (Json.print (.object (saved fields))).toUTF8 with
  | ok made => exact ⟨fun h => congrArg Except.ok (Prod.mk.inj h).2, fun h => Prod.ext rfl (Except.ok.inj h)⟩
  | error fault => cases fault <;> exact ⟨fun h => absurd (Prod.mk.inj h).1 nofun, nofun⟩

/-- What was saved is read from the file. -/
theorem readFile_of_save (json : Text.lower path.suffix = fileSuffix)
    (written : (ofFields fields).save d here path = (.ok (), after)) (faithful : Faithful (saved fields)) :
    readFile after here path = .ok (saved fields) := by
  have file := save_eq_ok_iff.mp written
  have held := Disk.readText_of_readBytes (Disk.readBytes_writeFile file)
  exact readFile_of_text (Disk.pathExists_of_writeFile file) json held faithful

/-- **Loading a settings file that was saved** puts the saved fields over the defaults. -/
theorem load_of_save (json : Text.lower (FilePath.ofText name).suffix = fileSuffix)
    (written : (ofFields fields).save d here (.ofText name) = (.ok (), after))
    (faithful : Faithful (saved fields)) :
    load after here (.text name) .null = ofEntries (.ofFields (reloaded fields)) := by
  have named : (Value.text name).truthy = true := by
    refine decide_eq_true fun none => ?_
    subst none
    exact absurd json (by decide +kernel)
  rw [load_of_readFile named rfl (readFile_of_save json written faithful)]
  exact overlay_object (saved fields) []

theorem load_overrides {overrides : Fields} (distinct : overrides.keys.Nodup) (nests : Nests overrides) :
    load d here .null (.object overrides) = .ok (ofFields (layers [] overrides)) :=
  overlay_layers List.nodup_nil distinct nofun nests

/-- **Settings come back from their file exactly if none of the further ones has a known key.** -/
theorem reload_iff {overrides : Fields} {c : Settings} (distinct : (Value.object overrides).Distinct)
    (nests : Nests overrides) (loaded : load d here .null (.object overrides) = .ok c)
    (json : Text.lower (FilePath.ofText name).suffix = fileSuffix)
    (written : c.save d here (.ofText name) = (.ok (), after))
    (faithful : ∀ fields, c.flatten = .ok (.ofFields fields) → Faithful fields) :
    (∃ again, load after here (.text name) .null = .ok again ∧ again.same c = true) ↔
      ∀ key ∈ knownKeys, c.further? key = none := by
  have made := @load_overrides d here overrides distinct.of_object.1 nests
  obtain rfl := Except.ok.inj (made.symm.trans loaded)
  rw [load_of_save json written (faithful _ (flatten_ofFields _))]
  exact same_iff_unknown (distinct_layers .empty distinct)

/-! ## Overrides without doubles -/

theorem plain_default (setting : Setting) : Json.Plain setting.default := by
  cases setting with
  | banner =>
    refine .list fun line listed => ?_
    rcases List.mem_pair.mp listed with rfl | rfl <;> exact .text _
  | indentSize => exact .int (by decide)
  | useTabs | classPartial | classStatic => exact .bool _
  | _ => exact .text _

theorem depth_default (setting : Setting) : setting.default.depth ≤ 1 := by
  cases setting <;> decide

/-- **Overrides without doubles** are saved in a document that is read back. -/
theorem faithful_saved {overrides : Fields} (plain : Json.Plain (.object overrides))
    (shallow : (Value.object overrides).depth ≤ Json.depthLimit) : Faithful (saved (layers [] overrides)) := by
  have empty : Json.Plain (.object []) := .object List.nodup_nil fun _ listed => absurd listed List.not_mem_nil
  refine faithful_of_plain (.object nodup_keys_saved ?_) (Nat.succ_le_of_lt ?_)
  · refine forall_saved plain_default (fun _ inner => inner.of_object) ?_
    exact forall_layers plain_default empty (fun _ listed => absurd listed List.not_mem_nil) plain.of_object
  · -- Saving lifts the further settings out of their object, so nothing gets deeper.
    have few : 1 ≤ Json.depthLimit - 1 := by decide
    have default (setting : Setting) : setting.default.depth ≤ Json.depthLimit - 1 :=
      Nat.le_trans (depth_default setting) few
    have opens : ∀ inner, (Value.object inner).depth ≤ Json.depthLimit - 1 →
        ∀ f ∈ inner, f.2.depth ≤ Json.depthLimit - 1 := fun _ deep _ listed =>
      Nat.le_trans (Nat.le_of_lt (Value.depth_lt_of_field listed)) deep
    have given : ∀ f ∈ overrides, f.2.depth ≤ Json.depthLimit - 1 := fun _ listed =>
      Nat.le_pred_of_lt (Nat.lt_of_lt_of_le (Value.depth_lt_of_field listed) shallow)
    have all := @forall_layers (·.depth ≤ Json.depthLimit - 1) [] overrides default few nofun given
    exact Nat.lt_of_le_pred (by decide) (Value.depthFields_le_iff.mpr
      (@forall_saved _ (·.depth ≤ Json.depthLimit - 1) default opens all))

/-- A disk with one file. -/
def oneFile (content : ByteArray) : Disk := ⟨[(["saved.json"], .file content)]⟩

/-- Saving settings on an empty disk makes their file. -/
theorem save_empty (fields : Fields) :
    (ofFields fields).save .empty [] (.ofText "saved.json") =
      (.ok (), oneFile (Json.print (.object (saved fields))).toUTF8) :=
  save_eq_ok_iff.mpr rfl

theorem suffix_saved : Text.lower (FilePath.ofText "saved.json").suffix = fileSuffix := by decide +kernel

/-- Overrides with a further setting. -/
def teamOverrides : Fields := [("class_static", .bool true), ("team", .text "tools")]

/-- They come back from their file. -/
theorem reload_iff_team :
    ∃ c after, load .empty [] .null (.object teamOverrides) = .ok c ∧
      c.save .empty [] (.ofText "saved.json") = (.ok (), after) ∧
      (∀ fields, c.flatten = .ok (.ofFields fields) → Faithful fields) ∧
      ∃ again, load after [] (.text "saved.json") .null = .ok again ∧ again.same c = true := by
  have plain : Json.Plain (.object teamOverrides) := by
    refine .object (by decide) fun f listed => ?_
    rcases List.mem_pair.mp listed with rfl | rfl
    · exact .bool true
    · exact .text "tools"
  have distinct : (Value.object teamOverrides).Distinct := by
    refine .object (by decide) fun f listed => ?_
    rcases List.mem_pair.mp listed with rfl | rfl <;> exact .scalar rfl
  have nests : Nests teamOverrides := fun v found => absurd found nofun
  have loaded := @load_overrides .empty [] teamOverrides distinct.of_object.1 nests
  have faithful (fields : Fields) (flat : (ofFields (layers [] teamOverrides)).flatten = .ok (.ofFields fields)) :
      Faithful fields := by
    rw [eq_saved_of_flatten flat]
    exact faithful_saved plain (by decide)
  refine ⟨_, _, loaded, save_empty _, faithful, ?_⟩
  refine (reload_iff distinct nests loaded suffix_saved (save_empty _) faithful).mpr fun key known => ?_
  have noFile : Nests [] := fun _ found => absurd found nofun
  rw [@further?_layers [] teamOverrides List.nodup_nil distinct.of_object.1 noFile nests, if_pos known]
  rfl

/-- Overrides with a further setting that has the key of a named one. -/
def indentOverrides : Fields := [("custom", .object [("indent_size", .int 8)])]

/-- **A further setting that has the key of a named one** takes its place when the settings are loaded again. -/
theorem indent_replaced :
    ∃ c after again, load .empty [] .null (.object indentOverrides) = .ok c ∧
      c.save .empty [] (.ofText "saved.json") = (.ok (), after) ∧
      load after [] (.text "saved.json") .null = .ok again ∧
      c .indentSize = .int 4 ∧ again .indentSize = .int 8 ∧ again.same c = false := by
  have inner : Json.Plain (.object [("indent_size", .int 8)]) :=
    .object (by decide) fun f listed => List.mem_singleton.mp listed ▸ .int (by decide)
  have plain : Json.Plain (.object indentOverrides) :=
    .object (by decide) fun f listed => List.mem_singleton.mp listed ▸ inner
  have nests : Nests indentOverrides := fun v found => ⟨_, (Option.some.inj found).symm⟩
  have loaded := @load_overrides .empty [] indentOverrides (by decide) nests
  have faithful := faithful_saved plain (by decide)
  have reloads := load_of_save suffix_saved (save_empty (layers [] indentOverrides)) faithful
  have custom : (reloaded (layers [] indentOverrides)).get? customKey = some (.object []) := by rfl
  have nests' : Nests (reloaded (layers [] indentOverrides)) := fun v found =>
    ⟨_, (Option.some.inj (custom.symm.trans found)).symm⟩
  rw [ofEntries_ofFields nests'] at reloads
  exact ⟨_, _, _, loaded, save_empty _, reloads, rfl, rfl, rfl⟩

end

end Settings

end StaticAccessors
