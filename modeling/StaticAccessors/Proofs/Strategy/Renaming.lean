import StaticAccessors.Proofs.Identifier.Separators
import StaticAccessors.Proofs.Identifier.Stability
import StaticAccessors.Strategy.Check

/-!
# Items renamed as the warning says

A warning about an item that is not named by its identifier tells the identifier, which suggests to rename the
item. An item that is renamed so has the same identifiers as before and no warning any more exactly if no word
of its first name starts with a letter whose capital has a mark (`renamed_iff`). With such a letter the item is
warned about once more, and has other identifiers than before.

## Contents
- `Item.renamed`.
- `Strategy.renameWarnings_insert_iff`: the items about which there is no warning.
- `Strategy.renamed_iff`, and `Strategy.renamed_again`.
-/

namespace StaticAccessors

open Identifier

/-- The item under the name that the warning about it tells. -/
def Item.renamed (item : Item) : Item :=
  match item.identifiers with
  | .ok names => { item with name := .text names.upper }
  | .error _ => item

namespace Vocabulary

theorem toList_upper (name : String) : (keywords.pairOf name).upper.toList = sanitize name.toList := by
  rw [upper_keywords, String.toList_ofList, firstToUpper_body]

/-- **The identifier of an accessor has the identifiers of the name** exactly if the body of the name is its own
body. -/
theorem pairOf_upper_iff (name : String) :
    keywords.pairOf (keywords.pairOf name).upper = keywords.pairOf name ↔ Unmarked name.toList := by
  rw [← sanitize_sanitize_iff]
  constructor
  · intro same
    have upper := congrArg (·.upper.toList) same
    rwa [toList_upper, toList_upper] at upper
  · intro same
    apply pairOf_of_sanitize
    rw [toList_upper, same]

end Vocabulary

namespace Strategy

open Vocabulary

variable {item : Item} {names : IdentifierPair}

/-- Texts are equal when they are the same. -/
theorem equal_text_iff {s t : String} : (Value.text s).equal (.text t) = true ↔ s = t := by
  have same : (Value.text s).same (.text t) = (some (Key.text t) == some (.text s)) := Value.same_eq_of_key rfl
  unfold Value.equal
  rw [same, Bool.and_eq_true, beq_iff_eq, Option.some.injEq, Key.text.injEq, eq_comm]
  exact and_iff_left (decide_eq_true nofun)

/-- An item is warned about unless it is named by its identifier. -/
theorem renameWarnings_cons (h : item.identifiers = .ok names) (rest : List Item) :
    renameWarnings (item :: rest) = (renameWarnings rest).map fun more =>
      (if (Value.text names.upper).equal item.name then []
        else ["Item '" ++ item.name.display ++ "' renamed to " ++ names.upper]) ++ more := by
  rw [renameWarnings, h]
  cases renameWarnings rest <;> rfl

/-- **There is no warning about an item**, among whichever others, exactly if it is named by its identifier. -/
theorem renameWarnings_insert_iff (h : item.identifiers = .ok names) :
    (∀ front back, renameWarnings (front ++ item :: back) = renameWarnings (front ++ back)) ↔
      (Value.text names.upper).equal item.name = true := by
  constructor
  · intro unwarned
    have alone := unwarned [] []
    rw [List.nil_append, renameWarnings_cons h] at alone
    by_cases named : (Value.text names.upper).equal item.name = true
    · exact named
    · rw [if_neg named] at alone
      exact absurd alone nofun
  · intro named front back
    induction front with
    | nil =>
      rw [List.nil_append, List.nil_append, renameWarnings_cons h, if_pos named]
      cases renameWarnings back <;> rfl
    | cons first front ih =>
      rw [List.cons_append, List.cons_append, renameWarnings, renameWarnings, ih]

/-- **Renaming an item as the warning says** leaves its identifiers as they are, and ends the warning, exactly
if no word of its name starts with a letter whose capital has a mark: exactly then is the body of the name
its own body. -/
theorem renamed_iff (name : String) (guid : Value) (type : TypeRef) :
    (sanitize (sanitize name.toList) = sanitize name.toList ↔ Unmarked name.toList) ∧
    ((Item.mk (.text name) guid type).renamed.identifiers = (Item.mk (.text name) guid type).identifiers ↔
      Unmarked name.toList) ∧
    ((∀ front back, renameWarnings (front ++ (Item.mk (.text name) guid type).renamed :: back) =
      renameWarnings (front ++ back)) ↔ Unmarked name.toList) := by
  have derived : (Item.mk (.text name) guid type).renamed.identifiers =
      .ok (keywords.pairOf (keywords.pairOf name).upper) := rfl
  refine ⟨sanitize_sanitize_iff name.toList, ?_, ?_⟩
  · rw [← pairOf_upper_iff, derived]
    exact ⟨Except.ok.inj, congrArg Except.ok⟩
  · rw [renameWarnings_insert_iff derived, ← sanitize_sanitize_iff]
    show (Value.text _).equal (.text (keywords.pairOf name).upper) = true ↔ _
    rw [equal_text_iff, ← String.toList_inj, toList_upper, toList_upper]

/-- **A capital with a mark**: an item is renamed, and once more when it has its new name. -/
theorem renamed_again :
    sanitize "ǰami".toList = "J̌ami".toList ∧ sanitize "J̌ami".toList = "JAmi".toList ∧
      renameWarnings [⟨.text "ǰami", .text "i1", ⟨.text "Fruit", .text "Game"⟩⟩] =
        .ok ["Item 'ǰami' renamed to J̌ami"] ∧
      renameWarnings [Item.renamed ⟨.text "ǰami", .text "i1", ⟨.text "Fruit", .text "Game"⟩⟩] =
        .ok ["Item 'J̌ami' renamed to JAmi"] :=
  ⟨by decide +kernel, by decide +kernel, rfl, rfl⟩

end Strategy

end StaticAccessors
