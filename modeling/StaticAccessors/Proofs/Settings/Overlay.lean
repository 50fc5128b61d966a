import StaticAccessors.Proofs.Value.Entries
import StaticAccessors.Settings.File

/-!
# Overrides over a file over the defaults

Settings are put together flat: the file is laid over the defaults, the overrides over both, and only then are
named and further settings told apart (`overlay_object`). A further setting has two places in either
source, beside the named settings or under the key of the further ones, and of the two the first wins before
the sources are asked (`further?_layers`). `Precedence` says what is in effect for every key: an override
that stands beside the named settings always is; one among the further settings gives way to the file if
that sets the same key beside the named ones.

## Contents
- `Settings.Nests`, `Settings.nested` and `Settings.beyond`: fields told apart.
- `Settings.ofFields` and `Settings.ofEntries_ofFields`: the settings of fields.
- `Settings.layers`, with `overlay_layers`, `value_layers`, `further?_layers` and `effective?_layers`.
- `Settings.effective?`, `Settings.Precedence` and `Settings.precedence_load`.
-/

namespace StaticAccessors

/-- The further settings as entries, if they are any; what was given need not be an object. -/
def Further.table? : Further → Option Entries
  | given (.object fields) => some (.ofFields fields)
  | given _ => none
  | entries table => some table

theorem Further.toEntries_of_table? {further : Further} {table : Entries} (h : further.table? = some table) :
    further.toEntries = .ok table := by
  unfold table? at h
  split at h
  · exact congrArg Except.ok (Option.some.inj h)
  · exact absurd h nofun
  · exact congrArg Except.ok (Option.some.inj h)

namespace Settings

/-! ## Fields told apart -/

/-- What stands under the key of the further settings, if anything does, is an object. -/
def Nests (fields : Fields) : Prop := ∀ v, fields.get? customKey = some v → ∃ inner, v = .object inner

/-- The fields under the key of the further settings. -/
def nested (fields : Fields) : Fields :=
  match fields.get? customKey with
  | some (.object inner) => inner
  | _ => []

theorem get?_of_nests {fields : Fields} (nests : Nests fields) :
    (fields.get? customKey).getD (.object []) = .object (nested fields) := by
  unfold nested
  cases found : fields.get? customKey with
  | none => rfl
  | some v =>
    obtain ⟨inner, rfl⟩ := nests v found
    rfl

/-- The fields that no known key takes. -/
def beyond (fields : Fields) : Fields := fields.filter fun field => field.1 ∉ knownKeys

theorem get?_beyond (fields : Fields) (key : String) :
    (beyond fields).get? key = if key ∈ knownKeys then none else fields.get? key := by
  have kept : (beyond fields).get? key = if decide (key ∉ knownKeys) then fields.get? key else none :=
    Table.get?_filter_keys fields (fun k => k ∉ knownKeys) key
  rw [kept]
  by_cases known : key ∈ knownKeys <;> simp [known]

/-- Entries that no known key takes are the fields that none does. -/
theorem extras_ofFields (fields : Fields) : extras (.ofFields fields) = .ofFields (beyond fields) := by
  unfold extras Entries.ofFields beyond
  rw [List.filter_map]
  rfl

theorem mem_knownKeys (setting : Setting) : setting.key ∈ knownKeys :=
  List.mem_append_left _ (List.mem_map_of_mem (Setting.mem_all setting))

theorem customKey_mem_knownKeys : customKey ∈ knownKeys := List.mem_append_right _ (List.mem_singleton_self _)

/-- A known key is that of a named setting, or of the further ones. -/
theorem exists_setting_of_known {key : String} (known : key ∈ knownKeys) (other : key ≠ customKey) :
    ∃ setting : Setting, setting.key = key := by
  rcases List.mem_append.mp known with named | custom
  · obtain ⟨setting, -, same⟩ := List.mem_map.mp named
    exact ⟨setting, same⟩
  · exact absurd (List.mem_singleton.mp custom) other

/-! ## The settings of fields -/

/-- Further settings that are given as an object, with more fields laid over it. -/
def furtherOf (given more : Fields) : Further :=
  if more = [] then .given (.object given) else .entries (.ofFields (Table.merge given more))

theorem table?_furtherOf (given more : Fields) :
    (furtherOf given more).table? = some (.ofFields (Table.merge given more)) := by
  unfold furtherOf
  split
  · rename_i none
    rw [none]
    rfl
  · rfl

/-- The settings of fields: a known key gives its setting, all other keys go to the further ones. -/
def ofFields (fields : Fields) : Settings where
  value setting := (fields.get? setting.key).getD setting.default
  custom := furtherOf (nested fields) (beyond fields)

/-- **Fields give these settings.** -/
theorem ofEntries_ofFields {fields : Fields} (nests : Nests fields) :
    ofEntries (.ofFields fields) = .ok (ofFields fields) := by
  have custom : customOf (.ofFields fields) = .ok (furtherOf (nested fields) (beyond fields)) := by
    have whole : (Value.object (nested fields)).orElse (.object []) = .object (nested fields) := by
      cases nested fields <;> rfl
    unfold customOf
    rw [Entries.get?_ofFields, get?_of_nests nests, extras_ofFields]
    dsimp only
    rw [whole]
    cases beyond fields with
    | nil => rfl
    | cons field rest =>
      unfold furtherOf
      rw [if_neg (List.cons_ne_nil field rest), ← Entries.ofFields_merge]
      rfl
  unfold ofEntries ofFields
  rw [custom]
  simp only [Entries.get?_ofFields, Except.map]

/-- A further setting. -/
def further? (s : Settings) (key : String) : Option Value :=
  match s.custom.toEntries with
  | .ok entries => entries.get? (.text key)
  | .error _ => none

theorem further?_of_table? {s : Settings} {fields : Fields} (table : s.custom.table? = some (.ofFields fields))
    (key : String) : s.further? key = fields.get? key := by
  unfold further?
  rw [Further.toEntries_of_table? table]
  exact Entries.get?_ofFields fields key

theorem further?_ofFields {fields : Fields} (distinct : fields.keys.Nodup) (key : String) :
    (ofFields fields).further? key =
      if key ∈ knownKeys then (nested fields).get? key
      else (fields.get? key).or ((nested fields).get? key) := by
  have distinct : (beyond fields).keys.Nodup := Table.nodup_keys_filter distinct _
  rw [further?_of_table? (table?_furtherOf _ _), Table.get?_merge _ _ distinct, get?_beyond]
  split <;> rfl

/-! ## Three layers -/

/-- What is in effect for a key that is set beside the named settings: the setting that it names, or else a
further one. -/
def effective? (s : Settings) (key : String) : Option Value :=
  match Setting.all.find? (·.key = key) with
  | some setting => some (s setting)
  | none => s.further? key

theorem effective?_key (s : Settings) (setting : Setting) : s.effective? setting.key = some (s setting) := by
  unfold effective?
  cases found : Setting.all.find? (·.key = setting.key) with
  | none =>
    have other := List.find?_eq_none.mp found setting (Setting.mem_all setting)
    simp at other
  | some same =>
    have same_key := List.find?_some found
    obtain rfl := Setting.key_injective (of_decide_eq_true same_key)
    rfl

theorem effective?_of_unknown (s : Settings) {key : String} (unknown : key ∉ knownKeys) :
    s.effective? key = s.further? key := by
  unfold effective?
  cases found : Setting.all.find? (·.key = key) with
  | none => rfl
  | some setting =>
    have named := List.find?_some found
    obtain rfl := of_decide_eq_true named
    exact absurd (mem_knownKeys setting) unknown

variable {file overrides : Fields}

/-- The further settings that are given under their key: those of the overrides, or else of the file. -/
def innermost (file overrides : Fields) : Fields :=
  if overrides.has customKey then nested overrides else nested file

/-- The overrides over the file over the defaults, as fields. -/
def layers (file overrides : Fields) : Fields :=
  Table.merge (Table.merge defaults.allFields file) overrides

theorem get?_layers (distinctFile : file.keys.Nodup) (distinctOverrides : overrides.keys.Nodup) (key : String) :
    (layers file overrides).get? key =
      (overrides.get? key).or ((file.get? key).or (defaults.allFields.get? key)) := by
  unfold layers
  rw [Table.get?_merge _ _ distinctOverrides, Table.get?_merge _ _ distinctFile]

theorem nodup_keys_layers : (layers file overrides).keys.Nodup :=
  Table.nodup_keys_merge _ _ (Table.nodup_keys_merge _ _ (by decide))

theorem get?_defaults (setting : Setting) : defaults.allFields.get? setting.key = some setting.default := by
  cases setting <;> rfl

theorem get?_defaults_of_unknown {key : String} (unknown : key ∉ knownKeys) :
    defaults.allFields.get? key = none :=
  Table.get?_eq_none_iff.mpr unknown

theorem get?_layers_customKey (distinctFile : file.keys.Nodup) (distinctOverrides : overrides.keys.Nodup)
    (nestsFile : Nests file) (nestsOverrides : Nests overrides) :
    (layers file overrides).get? customKey = some (.object (innermost file overrides)) := by
  have default : defaults.allFields.get? customKey = some (.object []) := rfl
  rw [get?_layers distinctFile distinctOverrides, default]
  unfold innermost Table.has nested
  cases found : overrides.get? customKey with
  | some v =>
    obtain ⟨inner, rfl⟩ := nestsOverrides v found
    rfl
  | none =>
    cases below : file.get? customKey with
    | some v =>
      obtain ⟨inner, rfl⟩ := nestsFile v below
      rfl
    | none => rfl

/-- Overrides that are an object are laid over the file field by field. -/
theorem overlay_object (file overrides : Fields) :
    overlay file (.object overrides) = ofEntries (.ofFields (layers file overrides)) := by
  have merged : overlay file (.object overrides) =
      ofEntries (((Entries.ofFields defaults.allFields).merge (Entries.ofFields file)).merge
        (Entries.ofFields overrides)) := by
    cases overrides <;> rfl
  rw [merged, Entries.ofFields_merge, Entries.ofFields_merge]
  rfl

/-- **The settings of overrides over a file** are those of the three layers. -/
theorem overlay_layers (distinctFile : file.keys.Nodup) (distinctOverrides : overrides.keys.Nodup)
    (nestsFile : Nests file) (nestsOverrides : Nests overrides) :
    overlay file (.object overrides) = .ok (ofFields (layers file overrides)) := by
  have custom := get?_layers_customKey distinctFile distinctOverrides nestsFile nestsOverrides
  have nests : Nests (layers file overrides) := fun v found =>
    ⟨_, (Option.some.inj (custom.symm.trans found)).symm⟩
  rw [overlay_object, ofEntries_ofFields nests]

theorem value_layers (distinctFile : file.keys.Nodup) (distinctOverrides : overrides.keys.Nodup)
    (setting : Setting) :
    ofFields (layers file overrides) setting =
      ((overrides.get? setting.key).or (file.get? setting.key)).getD setting.default := by
  show ((layers file overrides).get? setting.key).getD setting.default = _
  rw [get?_layers distinctFile distinctOverrides, get?_defaults]
  cases overrides.get? setting.key with
  | some v => rfl
  | none => cases file.get? setting.key <;> rfl

/-- **A further setting of overrides over a file** is looked up beside the named settings in the overrides and in
the file, and only then under the key of the further ones. -/
theorem further?_layers (distinctFile : file.keys.Nodup) (distinctOverrides : overrides.keys.Nodup)
    (nestsFile : Nests file) (nestsOverrides : Nests overrides) (key : String) :
    (ofFields (layers file overrides)).further? key =
      if key ∈ knownKeys then (innermost file overrides).get? key
      else (overrides.get? key).or ((file.get? key).or ((innermost file overrides).get? key)) := by
  have inner : nested (layers file overrides) = innermost file overrides := by
    unfold nested
    rw [get?_layers_customKey distinctFile distinctOverrides nestsFile nestsOverrides]
  rw [further?_ofFields nodup_keys_layers, inner, get?_layers distinctFile distinctOverrides]
  by_cases known : key ∈ knownKeys
  · rw [if_pos known, if_pos known]
  · rw [if_neg known, if_neg known, get?_defaults_of_unknown known, Option.or_none, Option.or_assoc]

/-- What is set beside the named settings is in effect, in the overrides before the file. -/
theorem effective?_layers (distinctFile : file.keys.Nodup) (distinctOverrides : overrides.keys.Nodup)
    (nestsFile : Nests file) (nestsOverrides : Nests overrides) {key : String} {v : Value} (other : key ≠ customKey)
    (laid : (overrides.get? key).or (file.get? key) = some v) :
    (ofFields (layers file overrides)).effective? key = some v := by
  by_cases known : key ∈ knownKeys
  · obtain ⟨setting, rfl⟩ := exists_setting_of_known known other
    rw [effective?_key, value_layers distinctFile distinctOverrides, laid]
    rfl
  · rw [effective?_of_unknown _ known, further?_layers distinctFile distinctOverrides nestsFile nestsOverrides,
      if_neg known, ← Option.or_assoc, laid]
    rfl

/-- **Which of three layers is in effect**: overrides, file or defaults. -/
structure Precedence (file overrides : Fields) (s : Settings) : Prop where
  /-- an override that stands beside the named settings always is -/
  overridden : ∀ key v, key ≠ customKey → overrides.get? key = some v → s.effective? key = some v
  /-- one among the further settings is, unless it has no known key and the file sets another value for this key
  beside the named settings -/
  inside : ∀ key v, overrides.get? key = none → (nested overrides).get? key = some v →
    (s.further? key = some v ↔ key ∈ knownKeys ∨ ∀ w, file.get? key = some w → w = v)
  /-- where no override stands beside the named settings, the file is in effect if it sets the key there -/
  fromFile : ∀ key w, key ≠ customKey → overrides.get? key = none → file.get? key = some w →
    s.effective? key = some w
  /-- a named setting that neither of them sets keeps its default -/
  kept : ∀ setting : Setting, overrides.get? setting.key = none → file.get? setting.key = none →
    s setting = setting.default

/-- **Overrides over a file give settings of this precedence.** -/
theorem precedence_layers (distinctFile : file.keys.Nodup) (distinctOverrides : overrides.keys.Nodup)
    (nestsFile : Nests file) (nestsOverrides : Nests overrides) :
    Precedence file overrides (ofFields (layers file overrides)) := by
  have beside := @effective?_layers _ _ distinctFile distinctOverrides nestsFile nestsOverrides
  have further := further?_layers distinctFile distinctOverrides nestsFile nestsOverrides
  refine ⟨?overridden, ?inside, ?fromFile, ?kept⟩
  case overridden =>
    intro key v other laid
    refine beside other ?_
    rw [laid]
    rfl
  case inside =>
    intro key v none inner
    -- The overrides have further settings, and so those of the file under their key are out of the question.
    have has : overrides.has customKey = true := by
      cases found : overrides.get? customKey with
      | some _ => simp [Table.has, found]
      | none => simp [nested, found] at inner
    rw [further, innermost, if_pos has, inner, none]
    by_cases known : key ∈ knownKeys
    · rw [if_pos known]
      exact iff_of_true rfl (.inl known)
    · rw [if_neg known]
      cases below : file.get? key with
      | none => simp
      | some w => simp [known]
  case fromFile =>
    intro key w other none below
    refine beside other ?_
    rw [none, below]
    rfl
  case kept =>
    intro setting none below
    rw [value_layers distinctFile distinctOverrides, none, below]
    rfl

/-! ## Settings files -/

/-- A settings file that can be read holds the fields of its object. -/
theorem readFile_of_text {d : Disk} {here : Location} {path : FilePath} {text : String} {fields : Fields}
    (there : d.pathExists here path = .ok true) (json : Text.lower path.suffix = fileSuffix)
    (held : d.readText here path = .ok text) (read : Json.read text = .ok (.object fields)) :
    readFile d here path = .ok fields := by
  unfold readFile
  rw [there, held]
  simp [json, read, Bind.bind, Except.bind, Except.mapError, pure, Except.pure]

/-- The settings of a named file are those of overrides over what it holds. -/
theorem load_of_readFile {d : Disk} {here : Location} {source : Value} {path : FilePath} {fields : Fields}
    (truthy : source.truthy = true) (names : FilePath.ofValue? source = some path)
    (holds : readFile d here path = .ok fields) (more : Value) :
    load d here source more = overlay fields more := by
  unfold load
  rw [truthy, names]
  simp only [Bool.not_true, Bool.false_eq_true, if_false]
  rw [holds]
  rfl

/-- **Overrides over a settings file over the defaults give settings of this precedence.** -/
theorem precedence_load {d : Disk} {here : Location} {source : Value} {path : FilePath}
    (truthy : source.truthy = true) (names : FilePath.ofValue? source = some path)
    (holds : readFile d here path = .ok file) (distinctFile : file.keys.Nodup)
    (distinctOverrides : overrides.keys.Nodup) (nestsFile : Nests file) (nestsOverrides : Nests overrides) :
    ∃ s, load d here source (.object overrides) = .ok s ∧ Precedence file overrides s := by
  refine ⟨_, ?_, precedence_layers distinctFile distinctOverrides nestsFile nestsOverrides⟩
  rw [load_of_readFile truthy names holds, overlay_layers distinctFile distinctOverrides nestsFile nestsOverrides]

/-- A disk with a settings file that names a team. -/
def teamDisk : Disk := ⟨[(["codegen.json"], .file "\x7b\"team\": \"file\"\x7d".toUTF8)]⟩

theorem readFile_team : readFile teamDisk [] ⟨.here, ["codegen.json"]⟩ = .ok [("team", .text "file")] := by
  have there : teamDisk.pathExists [] ⟨.here, ["codegen.json"]⟩ = .ok true := rfl
  have json : Text.lower (FilePath.suffix ⟨.here, ["codegen.json"]⟩) = fileSuffix := by decide +kernel
  have held : teamDisk.readText [] ⟨.here, ["codegen.json"]⟩ = .ok "\x7b\"team\": \"file\"\x7d" := rfl
  have read : Json.read "\x7b\"team\": \"file\"\x7d" = .ok (.object [("team", .text "file")]) := by cbv
  exact readFile_of_text there json held read

/-- The file under two overrides, one of them among the further settings. -/
theorem precedence_load_team :
    readFile teamDisk [] ⟨.here, ["codegen.json"]⟩ = .ok [("team", .text "file")] ∧
      ∃ s, load teamDisk [] (.text "codegen.json")
          (.object [("indent_size", .int 3), ("custom", .object [("lead", .text "me")])]) = .ok s ∧
        Precedence [("team", .text "file")]
          [("indent_size", .int 3), ("custom", .object [("lead", .text "me")])] s := by
  refine ⟨readFile_team, precedence_load (by decide) rfl readFile_team (by decide) (by decide) nofun ?_⟩
  intro v found
  exact ⟨_, (Option.some.inj found).symm⟩

/-- **The file wins over an override among the further settings**, if it sets the same key beside the named
ones. -/
theorem file_over_override :
    ∃ s, load teamDisk [] (.text "codegen.json") (.object [("custom", .object [("team", .text "override")])]) =
        .ok s ∧
      s.effective? "team" = some (.text "file") := by
  have names : FilePath.ofValue? (.text "codegen.json") = some ⟨.here, ["codegen.json"]⟩ := rfl
  have nests : Nests [("custom", .object [("team", .text "override")])] := fun v found =>
    ⟨_, (Option.some.inj found).symm⟩
  have distinct : Table.keys [("team", Value.text "file")] |>.Nodup := by decide
  have order := precedence_layers distinct (by decide) nofun nests
  refine ⟨_, ?_, order.fromFile _ _ (by decide) rfl rfl⟩
  rw [load_of_readFile (by decide) names readFile_team, overlay_layers distinct (by decide) nofun nests]

end Settings

end StaticAccessors
