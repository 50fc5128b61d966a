import StaticAccessors.Proofs.Outcome
import StaticAccessors.Strategy.Basic

/-!
# Values of the kinds that are meant

Settings and manifests hold values of any kind, and none is looked at before it is used. The values
that are meant are texts almost everywhere; `Settings.WellTyped` and `Collection.WellTyped` say so.

## Contents
- `Kind`, `Setting.kind` and `Settings.WellTyped`.
- `TypeRef.WellTyped`, `Item.WellTyped` and `Collection.WellTyped`; `Collection.fruits` is one.
- `Value.Nameable`, and `Vocabulary.exists_derive_iff`, `Vocabulary.derive_error`: which values are names.
- `Collection.WellTyped.isText_directives`: what follows for scripts.
-/

namespace StaticAccessors

open Outcome

/-- Whether a value is a text. -/
def Value.isText (v : Value) : Bool := v.text?.isSome

theorem Value.exists_of_isText {v : Value} (h : v.isText = true) : ∃ t, v = .text t := by
  cases v with
  | text t => exact ⟨t, rfl⟩
  | _ => exact absurd h nofun

/-! ## Settings -/

/-- A kind of value. -/
inductive Kind
  | text
  | whole
  | truth
  | texts
deriving Repr, DecidableEq

/-- Whether a value is of a kind. A truth value is a whole number, too. -/
def Kind.admits : Kind → Value → Bool
  | text, v => v.isText
  | whole, v => v.whole?.isSome
  | truth, .bool _ => true
  | texts, .list vs => vs.all Value.isText
  | _, _ => false

/-- The kind of value that a setting is meant to have. -/
def Setting.kind : Setting → Kind
  | indentSize => .whole
  | useTabs | classPartial | classStatic => .truth
  | banner => .texts
  | _ => .text

/-- Settings all of which are of the kind that is meant. -/
def Settings.WellTyped (s : Settings) : Prop := ∀ setting : Setting, setting.kind.admits (s setting) = true

namespace Settings

/-- Every default is of the kind that is meant. -/
theorem defaults_wellTyped : defaults.WellTyped := by
  intro setting
  cases setting <;> rfl

variable {s : Settings}

/-- A setting that is meant to be a text is one. -/
theorem WellTyped.text (h : s.WellTyped) {setting : Setting} (hk : setting.kind = .text) :
    ∃ t, s setting = .text t := by
  have admitted := h setting
  rw [hk] at admitted
  exact Value.exists_of_isText admitted

/-- The banner is a list of texts. -/
theorem WellTyped.banner (h : s.WellTyped) :
    ∃ vs, s .banner = .list vs ∧ ∀ v ∈ vs, ∃ t, v = .text t := by
  have admitted : Kind.texts.admits (s .banner) = true := h .banner
  cases hv : s .banner with
  | list vs =>
    rw [hv] at admitted
    exact ⟨vs, rfl, fun v hm => Value.exists_of_isText (List.all_eq_true.mp admitted v hm)⟩
  | _ =>
    rw [hv] at admitted
    exact absurd admitted nofun

end Settings

/-! ## Collections -/

/-- A type whose name and namespace are texts. -/
def TypeRef.WellTyped (t : TypeRef) : Prop := t.name.isText = true ∧ t.namespace_.isText = true

/-- An item all of whose values are texts. -/
structure Item.WellTyped (item : Item) : Prop where
  name : item.name.isText = true
  guid : item.guid.isText = true
  type : item.type.WellTyped

/-- A collection all of whose values are texts; the namespace may be absent. -/
structure Collection.WellTyped (c : Collection) : Prop where
  name : c.name.isText = true
  guid : c.guid.isText = true
  type : c.type.WellTyped
  elementType : c.elementType.WellTyped
  sourcePath : c.sourcePath.isText = true
  namespace_ : c.namespace_ = .null ∨ c.namespace_.isText = true
  items : ∀ item ∈ c.items, item.WellTyped

/-- A small collection, with two items in one namespace. -/
def Collection.fruits : Collection where
  name := .text "Fruits"
  guid := .text "g1"
  type := ⟨.text "FruitCollection", .text "Game.Fruits"⟩
  elementType := ⟨.text "Fruit", .text "Game.Fruits"⟩
  sourcePath := .text "Assets/Scripts/FruitCollection.cs"
  namespace_ := .text "Game.Fruits"
  style := .direct
  items := [
    ⟨.text "Golden Apple", .text "i1", ⟨.text "Fruit", .text "Game.Fruits"⟩⟩,
    ⟨.text "Pear", .text "i2", ⟨.text "Fruit", .text "Game.Fruits"⟩⟩]

theorem Collection.fruits_wellTyped : fruits.WellTyped := by
  refine ⟨rfl, rfl, ⟨rfl, rfl⟩, ⟨rfl, rfl⟩, rfl, .inr rfl, ?_⟩
  intro item hi
  rcases List.mem_cons.mp hi with rfl | hi
  · exact ⟨rfl, rfl, rfl, rfl⟩
  · rw [List.mem_singleton.mp hi]
    exact ⟨rfl, rfl, rfl, rfl⟩

/-! ## Names -/

/-- Values that can be turned into identifiers: texts, and scalars that are false. -/
def Value.Nameable (v : Value) : Prop := v.isText = true ∨ v.truthy = false ∧ v.key?.isSome = true

/-- **A value has identifiers** exactly if it can be turned into some. -/
theorem Vocabulary.exists_derive_iff (v : Vocabulary) {name : Value} :
    (∃ names, v.derive name = .ok names) ↔ name.Nameable := by
  constructor
  · rintro ⟨names, derived⟩
    unfold derive at derived
    split at derived
    · exact absurd derived nofun
    · rename_i key here
      obtain ⟨t, read, -⟩ := map_eq_ok.mp derived
      unfold nameText at read
      split at read
      · exact .inl rfl
      · split at read
        · exact absurd read nofun
        · rename_i isFalse
          exact .inr ⟨Bool.eq_false_iff.mpr isFalse, Option.isSome_of_eq_some here⟩
  · rintro (text | ⟨isFalse, scalar⟩)
    · obtain ⟨t, rfl⟩ := Value.exists_of_isText text
      exact ⟨v.pairOf t, rfl⟩
    · obtain ⟨key, here⟩ := Option.isSome_iff_exists.mp scalar
      have read : ∃ t, nameText name = .ok t := by
        unfold nameText
        split
        · exact ⟨_, rfl⟩
        · rw [isFalse]
          exact ⟨"", rfl⟩
      obtain ⟨t, read⟩ := read
      unfold derive
      rw [here, read]
      exact ⟨v.pairOf t, rfl⟩

/-- A text has identifiers. -/
theorem Vocabulary.exists_derive (v : Vocabulary) {name : Value} (h : name.isText = true) :
    ∃ names, v.derive name = .ok names :=
  v.exists_derive_iff.mpr (.inl h)

/-- The only fault of a derivation is a name of an unfit kind. -/
theorem Vocabulary.derive_error {v : Vocabulary} {name : Value} {fault : Fault}
    (h : v.derive name = .error fault) : fault = .wrongType := by
  unfold derive at h
  cases hk : name.key? with
  | none =>
    rw [hk] at h
    exact (Except.error.inj h).symm
  | some key =>
    rw [hk] at h
    have ht := map_eq_error.mp h
    unfold nameText at ht
    split at ht
    · exact absurd ht nofun
    · split at ht
      · exact (Except.error.inj ht).symm
      · exact absurd ht nofun

theorem Collection.className_error {c : Collection} {fault : Fault} (h : c.className = .error fault) :
    fault = .wrongType :=
  Vocabulary.derive_error (map_eq_error.mp h)

/-! ## Directives -/

variable {s : Settings} {c : Collection}

/-- All directives of well-typed values are texts. -/
theorem Collection.WellTyped.isText_directives (h : c.WellTyped) (hs : s.WellTyped) :
    ∀ d ∈ c.directives s, d.isText = true := by
  intro d hd
  rcases List.mem_append.mp (List.mem_filter.mp hd).1 with hd | hd
  · rcases List.mem_cons.mp hd with rfl | hd
    · exact hs .registryNamespace
    · rw [List.mem_singleton.mp hd]
      exact h.type.2
  · obtain ⟨item, hi, rfl⟩ := List.mem_map.mp hd
    exact (h.items item hi).type.2

end StaticAccessors
