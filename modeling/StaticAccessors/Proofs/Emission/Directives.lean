import StaticAccessors.Emission.Scope
import StaticAccessors.Proofs.Outcome

/-!
# Directives without repetition

The directives that are kept are true, and no two of them are equal. `Distinct` says this of a list
relative to the keys met before it, which is the invariant of the loop that keeps them: what the loop
returns is distinct, and of a distinct list it drops nothing.

## Contents
- `dedupeAfter_false`, `dedupeAfter_seen`, `dedupeAfter_new`, `dedupeAfter_unkeyed`: one round of the
  loop, in the four ways it can go.
- `Distinct`, and `dedupe_dedupe`.
- `dedupe_append`: what was kept of the first directives can stand for them.
- `firstOccurrences`, and `dedupe_texts`: what is kept of texts.
- `exists_dedupe_iff`: when directives can be told apart at all.
-/

namespace StaticAccessors.Scope

open Outcome

/-- True values with keys of their own, none of which was met before. -/
inductive Distinct : List Key → List Value → Prop
  | nil {seen} : Distinct seen []
  | cons {seen d key rest} : d.truthy = true → d.key? = some key → key ∉ seen →
      Distinct (key :: seen) rest → Distinct seen (d :: rest)

variable {seen : List Key} {d : Value} {key : Key} {rest directives unique : List Value}

/-! ## One round -/

/-- A false directive is dropped. -/
theorem dedupeAfter_false (ht : d.truthy = false) :
    dedupeAfter seen (d :: rest) = dedupeAfter seen rest := by
  rw [dedupeAfter]
  rw [ht]
  rfl

/-- A directive that was met before is dropped. -/
theorem dedupeAfter_seen (ht : d.truthy = true) (hk : d.key? = some key) (hs : key ∈ seen) :
    dedupeAfter seen (d :: rest) = dedupeAfter seen rest := by
  rw [dedupeAfter]
  simp only [ht, hk, Bool.not_true, Bool.false_eq_true, if_false, if_pos hs]

/-- A new directive is kept. -/
theorem dedupeAfter_new (ht : d.truthy = true) (hk : d.key? = some key) (hs : key ∉ seen) :
    dedupeAfter seen (d :: rest) = (dedupeAfter (key :: seen) rest).map (d :: ·) := by
  rw [dedupeAfter]
  simp only [ht, hk, Bool.not_true, Bool.false_eq_true, if_false, if_neg hs]

/-- A directive that cannot be compared ends the loop. -/
theorem dedupeAfter_unkeyed (ht : d.truthy = true) (hk : d.key? = none) :
    dedupeAfter seen (d :: rest) = .error .wrongType := by
  rw [dedupeAfter]
  simp only [ht, hk, Bool.not_true, Bool.false_eq_true, if_false]

/-! ## What is kept -/

/-- What is kept is distinct. -/
theorem distinct_of_dedupeAfter (h : dedupeAfter seen directives = .ok unique) :
    Distinct seen unique := by
  induction directives generalizing seen unique with
  | nil =>
    obtain rfl : [] = unique := Except.ok.inj h
    exact .nil
  | cons d rest ih =>
    cases ht : d.truthy with
    | false => exact ih (dedupeAfter_false ht ▸ h)
    | true =>
      cases hk : d.key? with
      | none =>
        rw [dedupeAfter_unkeyed ht hk] at h
        exact absurd h nofun
      | some key =>
        by_cases hs : key ∈ seen
        · exact ih (dedupeAfter_seen ht hk hs ▸ h)
        · rw [dedupeAfter_new ht hk hs] at h
          obtain ⟨others, ho, rfl⟩ := map_eq_ok.mp h
          exact .cons ht hk hs (ih ho)

/-- Nothing is kept that was not there. -/
theorem dedupeAfter_subset (h : dedupeAfter seen directives = .ok unique) : unique ⊆ directives := by
  induction directives generalizing seen unique with
  | nil =>
    obtain rfl : [] = unique := Except.ok.inj h
    exact List.Subset.refl _
  | cons d rest ih =>
    have skipped : dedupeAfter seen rest = .ok unique → unique ⊆ d :: rest :=
      fun h => List.subset_cons_of_subset d (ih h)
    cases ht : d.truthy with
    | false => exact skipped (dedupeAfter_false ht ▸ h)
    | true =>
      cases hk : d.key? with
      | none =>
        rw [dedupeAfter_unkeyed ht hk] at h
        exact absurd h nofun
      | some key =>
        by_cases hs : key ∈ seen
        · exact skipped (dedupeAfter_seen ht hk hs ▸ h)
        · rw [dedupeAfter_new ht hk hs] at h
          obtain ⟨others, ho, rfl⟩ := map_eq_ok.mp h
          exact List.cons_subset_cons d (ih ho)

/-- Nothing is dropped from a distinct list. -/
theorem Distinct.dedupeAfter_eq (h : Distinct seen directives) :
    dedupeAfter seen directives = .ok directives := by
  induction h with
  | nil => rfl
  | cons ht hk hs _ ih =>
    rw [dedupeAfter_new ht hk hs, ih]
    rfl

/-- **Directives are kept once and for all**: doing it again changes nothing. -/
theorem dedupe_dedupe (h : dedupe directives = .ok unique) : dedupe unique = .ok unique :=
  (distinct_of_dedupeAfter h).dedupeAfter_eq

/-- What was kept of the first directives can stand for them in front of all others. -/
theorem dedupeAfter_append (h : dedupeAfter seen directives = .ok unique) (others : List Value) :
    dedupeAfter seen (unique ++ others) = dedupeAfter seen (directives ++ others) := by
  induction directives generalizing seen unique with
  | nil =>
    obtain rfl : [] = unique := Except.ok.inj h
    rfl
  | cons d rest ih =>
    rw [List.cons_append]
    cases ht : d.truthy with
    | false =>
      rw [dedupeAfter_false ht] at h ⊢
      exact ih h
    | true =>
      cases hk : d.key? with
      | none =>
        rw [dedupeAfter_unkeyed ht hk] at h
        exact absurd h nofun
      | some key =>
        by_cases hs : key ∈ seen
        · rw [dedupeAfter_seen ht hk hs] at h ⊢
          exact ih h
        · rw [dedupeAfter_new ht hk hs] at h ⊢
          obtain ⟨more, ho, rfl⟩ := map_eq_ok.mp h
          rw [List.cons_append, dedupeAfter_new ht hk hs, ih ho]

/-- **Directives can be added to those that were kept** instead of to all that there were. -/
theorem dedupe_append (h : dedupe directives = .ok unique) (others : List Value) :
    dedupe (unique ++ others) = dedupe (directives ++ others) :=
  dedupeAfter_append h others

/-! ## Texts -/

/-- The texts of a list that are not empty, each where it occurs first. -/
def firstOccurrences (names : List String) : List String := (names.filter (· ≠ "")).eraseDups

theorem mem_firstOccurrences {names : List String} {n : String} :
    n ∈ firstOccurrences names ↔ n ∈ names ∧ n ≠ "" := by
  unfold firstOccurrences
  rw [List.mem_eraseDups, List.mem_filter, decide_eq_true_eq]

/-- The loop keeps the first occurrences of what it has not met before. -/
theorem dedupeAfter_texts (met names : List String) :
    dedupeAfter (met.map .text) (names.map .text) =
      .ok ((firstOccurrences (names.filter (· ∉ met))).map .text) := by
  induction names generalizing met with
  | nil => rfl
  | cons n rest ih =>
    rw [List.map_cons]
    by_cases empty : n = ""
    · have dropped : firstOccurrences ((n :: rest).filter (· ∉ met)) =
          firstOccurrences (rest.filter (· ∉ met)) := by
        unfold firstOccurrences
        rw [List.filter_filter, List.filter_filter, List.filter_cons_of_neg (by simp [empty])]
      rw [dropped, ← ih]
      exact dedupeAfter_false (by simp [Value.truthy, empty])
    · have truthy : (Value.text n).truthy = true := decide_eq_true empty
      have key : (Value.text n).key? = some (.text n) := rfl
      by_cases seen : n ∈ met
      · have listed : Key.text n ∈ met.map .text := List.mem_map_of_mem seen
        rw [dedupeAfter_seen truthy key listed, ih, List.filter_cons_of_neg (by simp [seen])]
      · have fresh : Key.text n ∉ met.map .text := by
          intro listed
          obtain ⟨m, listed, same⟩ := List.mem_map.mp listed
          exact seen (Key.text.inj same ▸ listed)
        have others := ih (n :: met)
        rw [List.map_cons] at others
        rw [dedupeAfter_new truthy key fresh, others]
        -- What the head is told from in the rest is what has been met from here on.
        have later : ((rest.filter (· ∉ met)).filter (· ≠ "")).filter (fun b => !b == n) =
            (rest.filter (· ∉ n :: met)).filter (· ≠ "") := by
          rw [List.filter_filter, List.filter_filter, List.filter_filter]
          congr 1
          funext m
          by_cases same : m = n
          · simp [same]
          · have told : (m == n) = false := beq_eq_false_iff_ne.mpr same
            simp [same, told]
        rw [List.filter_cons_of_pos (by simp [seen])]
        unfold firstOccurrences
        rw [List.filter_cons_of_pos (by simp [empty]), List.eraseDups_cons, later]
        rfl

/-- **Of texts the first occurrences are kept.** -/
theorem dedupe_texts (names : List String) :
    dedupe (names.map .text) = .ok ((firstOccurrences names).map .text) := by
  have kept := dedupeAfter_texts [] names
  rwa [List.filter_eq_self.mpr (by simp)] at kept

/-- No text is kept twice. -/
theorem nodup_of_distinct {names : List String} (h : Distinct seen (names.map .text)) :
    names.Nodup ∧ ∀ n ∈ names, Key.text n ∉ seen := by
  induction names generalizing seen with
  | nil => exact ⟨.nil, fun n listed => absurd listed List.not_mem_nil⟩
  | cons n rest ih =>
    cases h with
    | cons _ hk hs later =>
      obtain rfl := Option.some.inj hk
      obtain ⟨nodup, apart⟩ := ih later
      refine ⟨List.nodup_cons.mpr ⟨fun listed => apart n listed List.mem_cons_self, nodup⟩, ?_⟩
      rw [List.forall_mem_cons]
      exact ⟨hs, fun m listed known => apart m listed (List.mem_cons_of_mem _ known)⟩

theorem nodup_firstOccurrences (names : List String) : (firstOccurrences names).Nodup :=
  (nodup_of_distinct (distinct_of_dedupeAfter (dedupe_texts names))).1

/-! ## When there is a result -/

/-- The only fault is a directive that cannot be compared. -/
theorem dedupeAfter_error {fault : Fault} (h : dedupeAfter seen directives = .error fault) :
    fault = .wrongType := by
  induction directives generalizing seen with
  | nil => exact absurd h nofun
  | cons d rest ih =>
    cases ht : d.truthy with
    | false => exact ih (dedupeAfter_false ht ▸ h)
    | true =>
      cases hk : d.key? with
      | none => exact (Except.error.inj (dedupeAfter_unkeyed ht hk ▸ h)).symm
      | some key =>
        by_cases hs : key ∈ seen
        · exact ih (dedupeAfter_seen ht hk hs ▸ h)
        · exact ih (map_eq_error.mp (dedupeAfter_new ht hk hs ▸ h))

theorem exists_dedupeAfter_iff :
    (∃ unique, dedupeAfter seen directives = .ok unique) ↔
      ∀ d ∈ directives, d.truthy = true → d.key?.isSome = true := by
  induction directives generalizing seen with
  | nil => exact ⟨fun _ d hd => absurd hd (by simp), fun _ => ⟨[], rfl⟩⟩
  | cons d rest ih =>
    rw [List.forall_mem_cons]
    cases ht : d.truthy with
    | false =>
      rw [dedupeAfter_false ht, ih]
      simp
    | true =>
      cases hk : d.key? with
      | none =>
        rw [dedupeAfter_unkeyed ht hk]
        simp
      | some key =>
        simp only [Option.isSome_some, imp_self, true_and]
        by_cases hs : key ∈ seen
        · rw [dedupeAfter_seen ht hk hs]
          exact ih
        · rw [dedupeAfter_new ht hk hs, ← @ih (key :: seen)]
          constructor
          · rintro ⟨unique, h⟩
            obtain ⟨others, ho, -⟩ := map_eq_ok.mp h
            exact ⟨others, ho⟩
          · rintro ⟨others, ho⟩
            exact ⟨d :: others, map_eq_ok.mpr ⟨others, ho, rfl⟩⟩

/-- **Directives can be told apart** exactly if every true one of them can be compared. -/
theorem exists_dedupe_iff :
    (∃ unique, dedupe directives = .ok unique) ↔
      ∀ d ∈ directives, d.truthy = true → d.key?.isSome = true :=
  exists_dedupeAfter_iff

/-! ## What has elements -/

/-- The only fault of a banner is that it has no elements. -/
theorem elementsOf_error {v : Value} {fault : Fault} (h : elementsOf v = .error fault) :
    fault = .wrongType := by
  unfold elementsOf at h
  split at h
  · exact absurd h nofun
  · exact (Except.error.inj h).symm

end StaticAccessors.Scope
