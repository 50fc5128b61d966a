import Mathlib.Data.Finset.Card
import StaticAccessors.Proofs.Kinds
import StaticAccessors.Proofs.Strategy.Renaming

/-!
# How many warnings there are

A collection of texts is warned about once if it is empty, once for each item that does not keep its name, and once
for each item whose own identifier an earlier item has. The last are found by a loop that remembers what it has met.
Relative to that, the loop tells what is left of the identifiers when each one that is new is taken out once
(`repetitionWarnings_texts`). All in all it tells as many repetitions as there are items beyond the distinct
identifiers (`collectionWarnings_exact`).

## Contents
- `Item.keepsName`, and `renameWarnings_texts`: the items that are warned about by name.
- `guidsOf`, and `repetitionWarnings_cons`, `repetitionWarnings_texts`: one round of the loop, and all of them.
- `collectionWarnings_eq`: what is warned about.
- `collectionWarnings_exact`.
-/

namespace StaticAccessors

open scoped List

/-- Whether the name of an item is the identifier of its accessor. -/
def Item.keepsName (item : Item) : Bool :=
  match item.identifiers with
  | .ok names => item.name.text? = some names.upper
  | .error _ => false

/-- The identifiers of items that are texts, in order. -/
def guidsOf (items : List Item) : List String := items.filterMap (·.guid.text?)

namespace Strategy

/-! ## Items that are renamed -/

/-- The warning about an item that does not keep its name. -/
def renameWarning (item : Item) : String :=
  "Item '" ++ item.name.display ++ "' renamed to " ++ item.renamed.name.display

/-- **Warned about by name** are the items that do not keep theirs, in order. -/
theorem renameWarnings_texts {items : List Item} (texts : ∀ item ∈ items, item.name.isText = true) :
    renameWarnings items = .ok ((items.filter (!·.keepsName)).map renameWarning) := by
  induction items with
  | nil => rfl
  | cons item rest ih =>
    rw [List.forall_mem_cons] at texts
    obtain ⟨name, text⟩ := Value.exists_of_isText texts.1
    have derived : item.identifiers = .ok (Vocabulary.keywords.pairOf name) := by
      unfold Item.identifiers
      rw [text]
      rfl
    have warning : renameWarning item =
        "Item '" ++ item.name.display ++ "' renamed to " ++ (Vocabulary.keywords.pairOf name).upper := by
      unfold renameWarning Item.renamed
      rw [derived]
      rfl
    have kept : item.keepsName = true ↔
        (Value.text (Vocabulary.keywords.pairOf name).upper).equal item.name = true := by
      unfold Item.keepsName
      rw [derived, text, equal_text_iff]
      simp [Value.text?, eq_comm]
    rw [renameWarnings_cons derived, ih texts.2, ← warning]
    by_cases keeps : item.keepsName = true
    · rw [if_pos (kept.mp keeps), List.filter_cons_of_neg (by simp [keeps])]
      rfl
    · rw [if_neg (fun same => keeps (kept.mpr same)), List.filter_cons_of_pos (by simp [keeps])]
      rfl

/-! ## Identifiers that are repeated -/

/-- The warning about an identifier that an earlier item has. -/
def repetitionWarning (guid : String) : String := "Item identifier " ++ guid ++ " is used more than once"

section

variable {item : Item} {guid : String} {rest : List Item} {met guids : List String}

theorem guidsOf_cons (text : item.guid = .text guid) : guidsOf (item :: rest) = guid :: guidsOf rest := by
  unfold guidsOf
  rw [List.filterMap_cons_some]
  rw [text]
  rfl

/-- One round of the loop: an identifier is told if it was met before, and is met from then on. -/
theorem repetitionWarnings_cons (text : item.guid = .text guid) :
    repetitionWarnings (met.map .text) (item :: rest) =
      (repetitionWarnings ((guid :: met).map .text) rest).map fun more =>
        (if guid ∈ met then [repetitionWarning guid] else []) ++ more := by
  have key : item.guid.key? = some (.text guid) := by
    rw [text]
    rfl
  have listed : Key.text guid ∈ met.map .text ↔ guid ∈ met := by simp
  rw [repetitionWarnings, key, text]
  simp only [listed, List.map_cons]
  cases repetitionWarnings (.text guid :: met.map .text) rest <;> rfl

/-- What is new does not depend on an identifier that was met before. -/
theorem dedup_of_met (seen : guid ∈ met) :
    ((guid :: guids).filter (· ∉ met)).dedup ~ (guids.filter (· ∉ guid :: met)).dedup := by
  refine (List.perm_ext_iff_of_nodup (List.nodup_dedup _) (List.nodup_dedup _)).mpr fun other => ?_
  simp only [List.mem_dedup, List.mem_filter, List.mem_cons]
  by_cases same : other = guid
  · simp [same, seen]
  · simp [same]

/-- An identifier that is new is so once, and everything else that is new behind it differs from it. -/
theorem dedup_of_new (new : guid ∉ met) :
    ((guid :: guids).filter (· ∉ met)).dedup ~ guid :: (guids.filter (· ∉ guid :: met)).dedup := by
  have apart : guid ∉ (guids.filter (· ∉ guid :: met)).dedup := by simp
  refine (List.perm_ext_iff_of_nodup (List.nodup_dedup _)
    (List.nodup_cons.mpr ⟨apart, List.nodup_dedup _⟩)).mpr fun other => ?_
  simp only [List.mem_dedup, List.mem_filter, List.mem_cons]
  by_cases same : other = guid
  · simp [same, new]
  · simp [same]

end

/-- **What is repeated**: of the identifiers, each one that was not met before is left out once, and all others are
told. -/
theorem repetitionWarnings_texts {items : List Item} (texts : ∀ item ∈ items, item.guid.isText = true)
    (met : List String) :
    ∃ repeated, repetitionWarnings (met.map .text) items = .ok (repeated.map repetitionWarning) ∧
      ((guidsOf items).filter (· ∉ met)).dedup ++ repeated ~ guidsOf items := by
  -- What was met grows with each item, so the statement is about whatever was met before.
  induction items generalizing met with
  | nil => exact ⟨[], rfl, .nil⟩
  | cons item rest ih =>
    rw [List.forall_mem_cons] at texts
    obtain ⟨guid, text⟩ := Value.exists_of_isText texts.1
    obtain ⟨repeated, told, parts⟩ := ih texts.2 (guid :: met)
    rw [repetitionWarnings_cons text, told, guidsOf_cons text]
    by_cases seen : guid ∈ met
    · -- It is told, and the others are new or told as they are behind it.
      refine ⟨guid :: repeated, ?_, ?_⟩
      · rw [if_pos seen]
        rfl
      · calc ((guid :: guidsOf rest).filter (· ∉ met)).dedup ++ guid :: repeated
          _ ~ ((guidsOf rest).filter (· ∉ guid :: met)).dedup ++ guid :: repeated :=
              (dedup_of_met seen).append_right _
          _ ~ guid :: (((guidsOf rest).filter (· ∉ guid :: met)).dedup ++ repeated) := List.perm_middle
          _ ~ guid :: guidsOf rest := parts.cons guid
    · -- It is new here, and therefore not behind it.
      refine ⟨repeated, ?_, ?_⟩
      · rw [if_neg seen]
        rfl
      · exact ((dedup_of_new seen).append_right repeated).trans (parts.cons guid)

/-! ## All warnings -/

/-- The warning about a collection without items. -/
def emptyWarning (c : Collection) : String :=
  "Collection '" ++ c.name.display ++ "' has no items - only the collection accessor is generated"

variable {c : Collection}

/-- **What is warned about**: the collection if it is empty, the items that do not keep their names, and what is left
of the identifiers when each of them is taken out once. -/
theorem collectionWarnings_eq (texts : ∀ item ∈ c.items, item.name.isText = true ∧ item.guid.isText = true) :
    ∃ repeated, collectionWarnings c = .ok ((if c.items.isEmpty then [emptyWarning c] else []) ++
        (c.items.filter (!·.keepsName)).map renameWarning ++ repeated.map repetitionWarning) ∧
      (guidsOf c.items).dedup ++ repeated ~ guidsOf c.items := by
  obtain ⟨repeated, told, parts⟩ := repetitionWarnings_texts (fun item listed => (texts item listed).2) []
  rw [List.map_nil] at told
  rw [List.filter_eq_self.mpr (by simp)] at parts
  refine ⟨repeated, ?_, parts⟩
  unfold collectionWarnings
  rw [renameWarnings_texts fun item listed => (texts item listed).1, told]
  rfl

section

variable {guids repeated : List String}

/-- Nothing is left exactly if no identifier occurs twice. -/
theorem repeated_eq_nil_iff (parts : guids.dedup ++ repeated ~ guids) : repeated = [] ↔ guids.Nodup := by
  constructor
  · intro none_
    rw [none_, List.append_nil] at parts
    exact parts.nodup_iff.mp (List.nodup_dedup guids)
  · intro nodup
    rw [List.dedup_eq_self.mpr nodup] at parts
    have longer := parts.length_eq
    rw [List.length_append] at longer
    exact List.length_eq_zero_iff.mp (by omega)

/-- As many are left as there are beyond the distinct ones. -/
theorem card_add_length_repeated (parts : guids.dedup ++ repeated ~ guids) :
    guids.toFinset.card + repeated.length = guids.length := by
  rw [List.card_toFinset, ← List.length_append, parts.length_eq]

end

/-- Items with texts for identifiers have one each. -/
theorem length_guidsOf {items : List Item} (texts : ∀ item ∈ items, item.guid.isText = true) :
    (guidsOf items).length = items.length := by
  induction items with
  | nil => rfl
  | cons item rest ih =>
    rw [List.forall_mem_cons] at texts
    obtain ⟨guid, text⟩ := Value.exists_of_isText texts.1
    rw [guidsOf_cons text, List.length_cons, List.length_cons, ih texts.2]

/-- **How many warnings there are** about a collection of texts: one if it is empty, one for each item that does not
keep its name, and one for each item beyond the distinct identifiers. So there is none exactly if there is an item,
all items keep their names, and no two have one identifier. -/
theorem collectionWarnings_exact (texts : ∀ item ∈ c.items, item.name.isText = true ∧ item.guid.isText = true) :
    ∃ warnings, collectionWarnings c = .ok warnings ∧
      (warnings = [] ↔
        c.items ≠ [] ∧ (∀ item ∈ c.items, item.keepsName = true) ∧ (guidsOf c.items).Nodup) ∧
      (warnings.length : ℤ) = (if c.items.isEmpty then 1 else 0) + (c.items.countP (!·.keepsName) : ℤ) +
        (c.items.length - (guidsOf c.items).toFinset.card) := by
  obtain ⟨repeated, told, parts⟩ := collectionWarnings_eq texts
  have count := card_add_length_repeated parts
  rw [length_guidsOf fun item listed => (texts item listed).2] at count
  refine ⟨_, told, ?_, ?_⟩
  · -- There is none if there is none of any sort.
    rw [List.append_eq_nil_iff, List.append_eq_nil_iff, List.map_eq_nil_iff, List.map_eq_nil_iff,
      repeated_eq_nil_iff parts, and_assoc]
    refine and_congr ?_ (and_congr ?_ Iff.rfl)
    · cases c.items with
      | nil => simp
      | cons item rest => simp
    · simp
  · rw [List.length_append, List.length_append, List.length_map, List.length_map, List.countP_eq_length_filter]
    cases c.items.isEmpty with
    | true =>
      simp
      omega
    | false =>
      simp
      omega

/-- A collection with items that do not keep their names, and with an identifier that three items have. -/
def windfall : Collection :=
  { Collection.fruits with
    items := [("golden apple", "g2"), ("Pear", "g1"), ("event", "g2"), ("Plum", "g2")].map fun (name, guid) =>
      ⟨.text name, .text guid, ⟨.text "Fruit", .text "Game.Fruits"⟩⟩ }

/-- There are two warnings about names, and one about each item that has the identifier of the first. -/
theorem collectionWarnings_exact_windfall :
    (∀ item ∈ windfall.items, item.name.isText = true ∧ item.guid.isText = true) ∧
      ∃ warnings, collectionWarnings windfall = .ok warnings ∧ warnings ≠ [] ∧ warnings.length = 4 := by
  have texts : ∀ item ∈ windfall.items, item.name.isText = true ∧ item.guid.isText = true := by
    intro item own
    obtain ⟨_, -, rfl⟩ := List.mem_map.mp own
    exact ⟨rfl, rfl⟩
  have renamed : windfall.items.countP (!·.keepsName) = 2 := by decide +kernel
  have distinct : (guidsOf windfall.items).toFinset.card = 2 := by decide +kernel
  obtain ⟨warnings, told, none_iff, count⟩ := collectionWarnings_exact texts
  rw [renamed, distinct] at count
  refine ⟨texts, warnings, told, fun none_ => ?_, Int.natCast_inj.mp count⟩
  have apart := (none_iff.mp none_).2.2
  exact absurd apart (by decide +kernel)

end Strategy

end StaticAccessors
