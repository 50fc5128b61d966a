import StaticAccessors.Proofs.Registry.Reachable

/-!
# Refused registrations

A registration is refused either for its candidate, before anything is stored, or for one of its aliases.
The aliases are taken one by one, after the primary name was stored, so a refused alias leaves behind the
primary name and the aliases in front of it (`register_eq_refused_iff`). Such a registry is never the one
from before. Nor does it help to ask again with other aliases, since the primary name is taken by then
(`unchanged_iff_of_refused`).

## Contents
- `addAliases_cons_self`, `addAliases_cons_of_ne`: one alias at a time.
- `pointAll`, `addAliases_eq_ok`, `addAliases_eq_error_iff`: the loop over aliases.
- `register_eq_refused_iff`, and `unchanged_iff_of_refused`.
- `half_registered`: a registration that is refused and stays.
-/

namespace StaticAccessors.Registry

variable {r after : Registry} {name : StrategyName} {candidate : Option Strategy} {key : String}
  {aliases alias_ : Value} {elements : List Value} {replace : Bool} {fault : Fault} {refusal : RegistryError}

/-! ## The loop over aliases -/

/-- An alias spelled like the primary name is passed over. -/
theorem addAliases_cons_self (same : normalizeName alias_.display = key) (rest : List Value) :
    r.addAliases key replace (alias_ :: rest) = r.addAliases key replace rest := by
  rw [addAliases]
  exact if_pos same

/-- Any other is refused, or put in front of the rest. -/
theorem addAliases_cons_of_ne (other : normalizeName alias_.display ≠ key) (rest : List Value) :
    r.addAliases key replace (alias_ :: rest) =
      match if replace then none else r.aliasRefusal key alias_ with
      | some refusal => (.error (.registry refusal), r)
      | none =>
        addAliases { r with aliases := r.aliases.put (normalizeName alias_.display) key } key replace rest := by
  rw [addAliases]
  exact if_neg other

/-- Where aliases are replaced, none is refused. -/
theorem addAliases_replace (elements : List Value) : (r.addAliases key true elements).1 = .ok () := by
  induction elements generalizing r with
  | nil => rfl
  | cons alias_ rest ih =>
    by_cases same : normalizeName alias_.display = key
    · rw [addAliases_cons_self same]
      exact ih
    · rw [addAliases_cons_of_ne same]
      exact ih

/-- Aliases that were accepted leave the others to be taken. -/
theorem addAliases_append (h : r.addAliases key replace elements = (.ok (), after)) (rest : List Value) :
    r.addAliases key replace (elements ++ rest) = after.addAliases key replace rest := by
  induction elements generalizing r with
  | nil =>
    obtain ⟨-, rfl⟩ := Prod.mk.inj h
    rfl
  | cons alias_ more ih =>
    rw [List.cons_append]
    by_cases same : normalizeName alias_.display = key
    · rw [addAliases_cons_self same] at h ⊢
      exact ih h
    · rw [addAliases_cons_of_ne same] at h ⊢
      split at h
      · exact absurd (Prod.mk.inj h).1 nofun
      · exact ih h

/-- **Where the loop stops**: without replacement, at the first alias that is refused after those in front
of it were taken. -/
theorem addAliases_eq_error_iff :
    r.addAliases key replace elements = (.error fault, after) ↔
      replace = false ∧ ∃ accepted alias_ rest refusal, elements = accepted ++ alias_ :: rest ∧
        r.addAliases key false accepted = (.ok (), after) ∧ normalizeName alias_.display ≠ key ∧
        after.aliasRefusal key alias_ = some refusal ∧ fault = .registry refusal := by
  constructor
  · intro h
    cases replace with
    | true =>
      have accepted := @addAliases_replace r key elements
      rw [h] at accepted
      exact absurd accepted nofun
    | false =>
    refine ⟨rfl, ?_⟩
    -- The registry changes from alias to alias, so the induction is over all of them.
    induction elements generalizing r with
    | nil => exact absurd (Prod.mk.inj h).1 nofun
    | cons first more ih =>
      by_cases same : normalizeName first.display = key
      · rw [addAliases_cons_self same] at h
        obtain ⟨accepted, alias_, rest, refusal, rfl, taken, refused⟩ := ih h
        refine ⟨first :: accepted, alias_, rest, refusal, rfl, ?_, refused⟩
        rw [addAliases_cons_self same, taken]
      · rw [addAliases_cons_of_ne same, if_neg Bool.false_ne_true] at h
        cases refused : r.aliasRefusal key first with
        | some refusal =>
          rw [refused] at h
          obtain ⟨raised, rfl⟩ := Prod.mk.inj h
          exact ⟨[], first, more, refusal, rfl, rfl, same, refused, (Except.error.inj raised).symm⟩
        | none =>
          rw [refused] at h
          obtain ⟨accepted, alias_, rest, refusal, rfl, taken, later⟩ := ih h
          refine ⟨first :: accepted, alias_, rest, refusal, rfl, ?_, later⟩
          rw [addAliases_cons_of_ne same, if_neg Bool.false_ne_true, refused]
          exact taken
  · rintro ⟨rfl, accepted, alias_, rest, refusal, rfl, taken, other, refused, rfl⟩
    rw [addAliases_append taken, addAliases_cons_of_ne other, if_neg Bool.false_ne_true, refused]

/-- The registry with aliases that point at a primary name, but for those that are spelled like it. -/
def pointAll (r : Registry) (key : String) (elements : List Value) : Registry :=
  let spelled := (elements.map fun v => normalizeName v.display).filter (· ≠ key)
  { r with aliases := r.aliases.merge (spelled.map fun alias_ => (alias_, key)) }

/-- What the loop leaves when it ends well. -/
theorem addAliases_eq_ok (h : r.addAliases key replace elements = (.ok (), after)) :
    after = r.pointAll key elements := by
  induction elements generalizing r with
  | nil =>
    obtain ⟨-, rfl⟩ := Prod.mk.inj h
    rfl
  | cons alias_ rest ih =>
    unfold pointAll
    rw [List.map_cons]
    by_cases same : normalizeName alias_.display = key
    · rw [List.filter_cons_of_neg (by simp [same])]
      rw [addAliases_cons_self same] at h
      exact ih h
    · rw [List.filter_cons_of_pos (by simp [same])]
      rw [addAliases_cons_of_ne same] at h
      split at h
      · exact absurd (Prod.mk.inj h).1 nofun
      · exact ih h

/-! ## Registrations -/

/-- What has an element counts as true. -/
theorem truthy_of_elements {first : Value} {rest : List Value}
    (h : aliases.elements? = some (elements ++ first :: rest)) : aliases.truthy = true := by
  have some_ : elements ++ first :: rest ≠ [] := List.append_ne_nil_of_right_ne_nil _ (List.cons_ne_nil _ _)
  cases aliases with
  | list vs =>
    cases vs with
    | nil => exact absurd (Option.some.inj h).symm some_
    | cons v vs => rfl
  | object fields =>
    cases fields with
    | nil => exact absurd (Option.some.inj h).symm some_
    | cons field fields => rfl
  | text s =>
    refine decide_eq_true ?_
    rintro rfl
    exact some_ (Option.some.inj h).symm
  | _ => exact absurd h nofun

/-- The registry in which a primary name was stored. -/
def store (r : Registry) (key : String) (strategy : Strategy) : Registry :=
  { r with strategies := r.strategies.put key strategy }

/-- **When a registration is refused**, and what it leaves. -/
theorem register_eq_refused_iff :
    r.register name candidate aliases replace = (.error (.registry refusal), after) ↔
      (candidate = none ∧ refusal = .notAStrategy ∧ after = r) ∨
        replace = false ∧ r.strategies.has name.key = false ∧
          ∃ strategy accepted alias_ rest, candidate = some strategy ∧
            aliases.elements? = some (accepted ++ alias_ :: rest) ∧
            (r.store name.key strategy).addAliases name.key false accepted = (.ok (), after) ∧
            normalizeName alias_.display ≠ name.key ∧ after.aliasRefusal name.key alias_ = some refusal := by
  cases candidate with
  | none =>
    constructor
    · intro h
      obtain ⟨raised, rfl⟩ := Prod.mk.inj h
      exact .inl ⟨rfl, (Fault.registry.inj (Except.error.inj raised)).symm, rfl⟩
    · rintro (⟨-, rfl, rfl⟩ | ⟨-, -, _, _, _, _, none_, -⟩)
      · rfl
      · cases none_
  | some strategy =>
    unfold register
    dsimp only
    constructor
    · intro h
      right
      by_cases taken : (r.strategies.has name.key && !replace) = true
      · rw [if_pos taken] at h
        cases h
      rw [if_neg taken] at h
      split at h
      · cases h
      -- The name is stored by now, and what is left is the loop.
      cases visited : aliases.elements? with
      | none =>
        rw [visited] at h
        cases h
      | some elements =>
        rw [visited] at h
        obtain ⟨rfl, accepted, alias_, rest, cause, rfl, loop, other, refused, same⟩ :=
          addAliases_eq_error_iff.mp h
        obtain rfl := Fault.registry.inj same
        have free : r.strategies.has name.key = false := by simpa using taken
        exact ⟨rfl, free, strategy, accepted, alias_, rest, rfl, rfl, loop, other, refused⟩
    · rintro (⟨none_, -⟩ | ⟨rfl, free, own, accepted, alias_, rest, same, visited, loop, other, refused⟩)
      · cases none_
      obtain rfl := Option.some.inj same
      rw [free, truthy_of_elements visited, visited]
      exact addAliases_eq_error_iff.mpr ⟨rfl, accepted, alias_, rest, refusal, rfl, loop, other, refused, rfl⟩

/-- **A refused registration** leaves the registry as it was exactly if its candidate was no strategy.
Otherwise the primary name, which was free, is stored with its strategy, and the aliases in front of the
refused one point at it. From then on no registration under this name changes anything, unless it
replaces. -/
theorem unchanged_iff_of_refused
    (h : r.register name candidate aliases replace = (.error (.registry refusal), after)) :
    (after = r ↔ candidate = none) ∧
      ∀ strategy, candidate = some strategy →
        (∃ accepted alias_ rest, aliases.elements? = some (accepted ++ alias_ :: rest) ∧
          after.aliasRefusal name.key alias_ = some refusal ∧
          after = (r.store name.key strategy).pointAll name.key accepted) ∧
        r.strategies.get? name.key = none ∧ after.strategies.get? name.key = some strategy ∧
        ∀ other more, after.register name (some other) more false = (.ok (), after) := by
  rcases register_eq_refused_iff.mp h with
    ⟨rfl, -, rfl⟩ | ⟨rfl, free, strategy, accepted, alias_, rest, rfl, visited, loop, -, refused⟩
  · exact ⟨⟨fun _ => rfl, fun _ => rfl⟩, fun strategy none_ => absurd none_ nofun⟩
  have left := addAliases_eq_ok loop
  have found : after.strategies.get? name.key = some strategy := by
    rw [left]
    exact Table.get?_put_self r.strategies name.key strategy
  have missing := Table.has_eq_false_iff.mp free
  refine ⟨⟨?_, fun none_ => absurd none_ nofun⟩, fun own same => ?_⟩
  · -- The name was free, and it is not any more.
    rintro rfl
    exact absurd (missing.symm.trans found) nofun
  · obtain rfl := Option.some.inj same
    refine ⟨⟨accepted, alias_, rest, visited, refused, left⟩, missing, found, fun other more => ?_⟩
    unfold register
    dsimp only
    rw [Table.has_eq_true_iff.mpr ⟨strategy, found⟩]
    rfl

/-! ## A registration that stays -/

/-- Aliases the second of which is taken. -/
def quickAndPlain : Value := .list [.text "quick", .text "plain"]

/-- What such a registration leaves. -/
def halfRegistered : Registry :=
  ⟨[("direct", Strategy.direct), ("try_get", Strategy.tryGet)], [("plain", "direct"), ("quick", "try_get")]⟩

theorem register_quickAndPlain :
    withPlain.register (.style .tryGet) (some Strategy.tryGet) quickAndPlain false =
      (.error (.registry (.aliasTaken (.text "plain") "direct")), halfRegistered) := by
  have quick : normalizeName "quick" = "quick" := by decide +kernel
  have plain : normalizeName "plain" = "plain" := key_plainName
  have first : normalizeName (Value.text "quick").display ≠ "try_get" := by
    rw [Value.display_text, quick]
    decide
  have second : normalizeName (Value.text "plain").display ≠ "try_get" := by
    rw [Value.display_text, plain]
    decide
  have stored : withPlain.register (.style .tryGet) (some Strategy.tryGet) quickAndPlain false =
      addAliases ⟨[("direct", Strategy.direct), ("try_get", Strategy.tryGet)], [("plain", "direct")]⟩
        "try_get" false [.text "quick", .text "plain"] := by
    rw [withPlain_eq]
    rfl
  rw [stored, addAliases_cons_of_ne first]
  unfold aliasRefusal
  simp only [Value.display_text, quick]
  show addAliases halfRegistered "try_get" false [.text "plain"] = _
  rw [addAliases_cons_of_ne second]
  unfold aliasRefusal
  simp only [Value.display_text, plain]
  rfl

/-- **A registration that is refused and stays**: the second alias is taken, and the primary name and the
first alias are left behind. -/
theorem half_registered :
    Reachable withPlain ∧
      withPlain.register (.style .tryGet) (some Strategy.tryGet) quickAndPlain false =
        (.error (.registry (.aliasTaken (.text "plain") "direct")), halfRegistered) ∧
      halfRegistered ≠ withPlain := by
  refine ⟨reachable_withPlain, register_quickAndPlain, fun same => ?_⟩
  rw [withPlain_eq] at same
  exact absurd (congrArg (·.aliases.length) same) (by decide)

/-- Asking again with a free alias alone does not register it. -/
theorem unchanged_iff_of_refused_quick :
    withPlain.register (.style .tryGet) (some Strategy.tryGet) quickAndPlain false =
        (.error (.registry (.aliasTaken (.text "plain") "direct")), halfRegistered) ∧
      halfRegistered.register (.style .tryGet) (some Strategy.tryGet) (.list [.text "fast"]) false =
        (.ok (), halfRegistered) := by
  obtain ⟨-, stays⟩ := unchanged_iff_of_refused register_quickAndPlain
  obtain ⟨-, -, -, again⟩ := stays Strategy.tryGet rfl
  exact ⟨register_quickAndPlain, again Strategy.tryGet (.list [.text "fast"])⟩

end StaticAccessors.Registry
