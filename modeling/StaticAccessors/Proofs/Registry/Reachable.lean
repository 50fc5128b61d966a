import StaticAccessors.Proofs.Registry
import StaticAccessors.Proofs.Table

/-!
# Reachable registries

Strategies are registered and removed in any order, and a registration may stop halfway. All the same
every alias points at a primary name (`Sound`): a registration stores the primary name before any alias
of it, and a removal takes the aliases along. So a name that is supported has a strategy, and removing a
primary name takes away what stood for it and nothing else (`sound_reachable`).

A registration without replacement refuses an alias that is taken. It does not look at the aliases when
it stores the primary name, though, and a primary name hides an alias that is spelled alike. This is the
one way in which such a call changes what a name stands for (`standsFor_register`).

## Contents
- `Reachable`, and `Sound`: the states and their invariant.
- `register_cases`: all that a registration can do.
- `StandsFor`, and `standsFor_iff`.
- `sound_reachable`, `standsFor_register`, and `alias_hidden`.
-/

namespace StaticAccessors.Registry

variable {r : Registry} {name n : StrategyName} {key target : String} {strategy : Strategy}

/-- The registries that calls lead to, however the calls end. -/
inductive Reachable : Registry → Prop
  | empty : Reachable empty
  | register {r : Registry} (h : Reachable r) (name : StrategyName) (candidate : Option Strategy)
      (aliases : Value) (replace : Bool) : Reachable (r.register name candidate aliases replace).2
  | unregister {r : Registry} (h : Reachable r) (name : StrategyName) : Reachable (r.unregister name)

/-! ## The invariant -/

/-- A registry in which every alias is listed once and points at a primary name. -/
structure Sound (r : Registry) : Prop where
  distinct : r.aliases.keys.Nodup
  primary : ∀ entry ∈ r.aliases, r.strategies.has entry.2 = true

/-- The target of an alias is a primary name. -/
theorem Sound.has_target (h : r.Sound) (points : r.aliases.get? key = some target) :
    r.strategies.has target = true :=
  h.primary _ (Table.mem_of_get? points)

theorem sound_empty : Sound empty := ⟨List.nodup_nil, fun _ h => absurd h List.not_mem_nil⟩

/-- A further primary name does no harm to aliases. -/
theorem Sound.store (h : r.Sound) (key : String) (strategy : Strategy) :
    Sound { r with strategies := r.strategies.put key strategy } :=
  ⟨h.distinct, fun entry listed => (Table.has_put _ _ _ _).mpr (.inr (h.primary entry listed))⟩

/-- One alias more that points at a primary name. -/
theorem Sound.point (h : r.Sound) (known : r.strategies.has key = true) (alias_ : String) :
    Sound { r with aliases := r.aliases.put alias_ key } := by
  refine ⟨Table.nodup_keys_put h.distinct alias_ key, fun entry listed => ?_⟩
  rcases Table.mem_put listed with ⟨-, rfl⟩ | listed
  · exact known
  · exact h.primary entry listed

/-- The loop over aliases keeps the registry sound, wherever it stops. -/
theorem Sound.addAliases (h : r.Sound) (known : r.strategies.has key = true) (replace : Bool)
    (aliases : List Value) : Sound (r.addAliases key replace aliases).2 := by
  induction aliases generalizing r with
  | nil => exact h
  | cons alias_ rest ih =>
    unfold Registry.addAliases
    dsimp only
    split
    · exact ih h known
    · split
      · exact h
      · exact ih (h.point known _) known

/-! ## What a registration does -/

/-- **A registration** changes nothing, because the candidate is no strategy or the primary name is
taken; or it stores the primary name and then points some aliases at it. -/
theorem register_cases (r : Registry) (name : StrategyName) (candidate : Option Strategy) (aliases : Value)
    (replace : Bool) :
    (candidate = none ∨ r.strategies.has name.key = true ∧ replace = false) ∧
        (r.register name candidate aliases replace).2 = r ∨
      ∃ strategy elements, candidate = some strategy ∧
        (r.strategies.has name.key = false ∨ replace = true) ∧
        (r.register name candidate aliases replace).2 =
          (Registry.addAliases { r with strategies := r.strategies.put name.key strategy } name.key replace
            elements).2 := by
  unfold register
  cases candidate with
  | none => exact .inl ⟨.inl rfl, rfl⟩
  | some strategy =>
    dsimp only
    by_cases kept : (r.strategies.has name.key && !replace) = true
    · rw [if_pos kept]
      rw [Bool.and_eq_true, Bool.not_eq_true'] at kept
      exact .inl ⟨.inr kept, rfl⟩
    · rw [if_neg kept]
      have stores : r.strategies.has name.key = false ∨ replace = true := by
        cases replace <;> simp_all
      -- Without aliases, or with something that cannot be looped over, the loop has nothing to do.
      split
      · exact .inr ⟨strategy, [], rfl, stores, rfl⟩
      · split
        · exact .inr ⟨strategy, [], rfl, stores, rfl⟩
        · exact .inr ⟨strategy, _, rfl, stores, rfl⟩

theorem Sound.register (h : r.Sound) (name : StrategyName) (candidate : Option Strategy) (aliases : Value)
    (replace : Bool) : Sound (r.register name candidate aliases replace).2 := by
  rcases register_cases r name candidate aliases replace with ⟨-, same⟩ | ⟨strategy, elements, -, -, after⟩
  · rw [same]
    exact h
  · rw [after]
    exact (h.store name.key strategy).addAliases ((Table.has_put _ _ _ _).mpr (.inl rfl)) replace elements

/-- A removal takes along the aliases of what it removes. -/
theorem Sound.unregister (h : r.Sound) (name : StrategyName) : Sound (r.unregister name) := by
  refine ⟨Table.nodup_keys_filter h.distinct _, fun entry listed => ?_⟩
  obtain ⟨listed, other⟩ := List.mem_filter.mp listed
  have apart : name.key ≠ entry.2 := fun same => of_decide_eq_true other same.symm
  have known := h.primary entry listed
  unfold Table.has at known ⊢
  rwa [← Table.get?_erase_of_ne r.strategies apart] at known

/-- **Every reachable registry is sound.** -/
theorem Reachable.sound (h : Reachable r) : r.Sound := by
  induction h with
  | empty => exact sound_empty
  | register _ name candidate aliases replace ih => exact ih.register name candidate aliases replace
  | unregister _ name ih => exact ih.unregister name

/-! ## What names stand for -/

/-- A name stands for a primary name and its strategy. -/
def StandsFor (r : Registry) (n : StrategyName) (target : String) (strategy : Strategy) : Prop :=
  r.resolve n = .ok target ∧ r.lookup n = .ok strategy

/-- A name is a primary name itself, or else an alias that points at one. -/
theorem resolve_eq_ok_iff :
    r.resolve n = .ok target ↔
      r.strategies.has n.key = true ∧ n.key = target ∨
        r.strategies.has n.key = false ∧ r.aliases.get? n.key = some target := by
  unfold resolve
  cases r.strategies.has n.key with
  | true => simp
  | false =>
    cases points : r.aliases.get? n.key with
    | none => simp
    | some other => simp

theorem lookup_of_resolve (h : r.resolve n = .ok target) :
    r.lookup n = .ok strategy ↔ r.strategies.get? target = some strategy := by
  unfold lookup
  rw [h]
  dsimp only
  cases r.strategies.get? target <;> simp

theorem standsFor_iff :
    r.StandsFor n target strategy ↔
      r.resolve n = .ok target ∧ r.strategies.get? target = some strategy :=
  and_congr_right lookup_of_resolve

/-- A name that is not supported is refused by a look-up in the words for this. -/
theorem lookup_of_not_supports (h : r.supports n = false) :
    r.lookup n = .error (.registry (.unknown n.display r.names)) := by
  unfold supports at h
  obtain ⟨noPrimary, noAlias⟩ := Bool.or_eq_false_iff.mp h
  unfold lookup resolve
  rw [noPrimary, Table.has_eq_false_iff.mp noAlias]
  rfl

/-- In a sound registry a supported name stands for something. -/
theorem Sound.exists_standsFor (h : r.Sound) (known : r.supports n = true) :
    ∃ target strategy, r.StandsFor n target strategy := by
  have resolved : ∃ target, r.resolve n = .ok target ∧ r.strategies.has target = true := by
    cases primary : r.strategies.has n.key with
    | true => exact ⟨n.key, resolve_eq_ok_iff.mpr (.inl ⟨primary, rfl⟩), primary⟩
    | false =>
      unfold supports at known
      rw [primary, Bool.false_or] at known
      obtain ⟨target, points⟩ := Table.has_eq_true_iff.mp known
      exact ⟨target, resolve_eq_ok_iff.mpr (.inr ⟨primary, points⟩), h.has_target points⟩
  obtain ⟨target, resolved, has⟩ := resolved
  obtain ⟨strategy, found⟩ := Table.has_eq_true_iff.mp has
  exact ⟨target, strategy, standsFor_iff.mpr ⟨resolved, found⟩⟩

/-! ## Removals -/

/-- After a removal, names stand for what they stood for, unless that was removed. -/
theorem Sound.standsFor_unregister (h : r.Sound) (removed : StrategyName) (other : target ≠ removed.key)
    (stands : r.StandsFor n target strategy) : (r.unregister removed).StandsFor n target strategy := by
  obtain ⟨resolved, found⟩ := standsFor_iff.mp stands
  have kept : (r.strategies.erase removed.key).get? target = some strategy := by
    rw [Table.get?_erase_of_ne r.strategies other.symm, found]
  refine standsFor_iff.mpr ⟨resolve_eq_ok_iff.mpr ?_, kept⟩
  rcases resolve_eq_ok_iff.mp resolved with ⟨-, rfl⟩ | ⟨noPrimary, points⟩
  · exact .inl ⟨Table.has_eq_true_iff.mpr ⟨strategy, kept⟩, rfl⟩
  · refine .inr ⟨?_, (Table.get?_filter h.distinct _).mpr ⟨points, decide_eq_true other⟩⟩
    -- What was no primary name before is none after something was removed.
    rw [Table.has_eq_false_iff] at noPrimary ⊢
    by_cases same : removed.key = n.key
    · show (r.strategies.erase removed.key).get? n.key = none
      rw [← same]
      exact Table.get?_erase_self r.strategies removed.key
    · exact (Table.get?_erase_of_ne r.strategies same).trans noPrimary

/-- No name stands for a primary name that was removed. -/
theorem Sound.resolve_unregister_ne (h : r.Sound) (removed n : StrategyName) :
    (r.unregister removed).resolve n ≠ .ok removed.key := by
  intro resolved
  rcases resolve_eq_ok_iff.mp resolved with ⟨primary, same⟩ | ⟨-, points⟩
  · obtain ⟨strategy, found⟩ := Table.has_eq_true_iff.mp primary
    rw [same] at found
    exact absurd ((Table.get?_erase_self r.strategies removed.key).symm.trans found) nofun
  · obtain ⟨-, other⟩ := (Table.get?_filter h.distinct _).mp points
    exact of_decide_eq_true other rfl

/-- **Reachable registries are sound.** Every alias points at a primary name; so the names that are
supported are those that have a strategy, and all others are refused by the registry in its own words.
Removing a primary name leaves all that stands for another one as it is, and nothing stands for what was
removed. -/
theorem sound_reachable (h : Reachable r) :
    (∀ alias_ target, (alias_, target) ∈ r.aliases → r.strategies.has target = true) ∧
      (∀ n, r.supports n = true ↔ ∃ strategy, r.lookup n = .ok strategy) ∧
      (∀ n fault, r.lookup n = .error fault → fault = .registry (.unknown n.display r.names)) ∧
      ∀ removed n,
        (∀ target strategy, r.StandsFor n target strategy → target ≠ removed.key →
          (r.unregister removed).StandsFor n target strategy) ∧
        (r.unregister removed).resolve n ≠ .ok removed.key := by
  have sound := h.sound
  refine ⟨fun _ _ listed => sound.primary _ listed, fun n => ⟨fun known => ?_, ?_⟩, ?_, fun removed n => ?_⟩
  · obtain ⟨target, strategy, -, found⟩ := sound.exists_standsFor known
    exact ⟨strategy, found⟩
  · rintro ⟨strategy, found⟩
    cases known : r.supports n with
    | true => rfl
    | false => exact absurd (found.symm.trans (lookup_of_not_supports known)) nofun
  · intro n fault failed
    cases known : r.supports n with
    | true =>
      obtain ⟨target, strategy, -, found⟩ := sound.exists_standsFor known
      exact absurd (failed.symm.trans found) nofun
    | false => exact Except.error.inj (failed.symm.trans (lookup_of_not_supports known))
  · exact ⟨fun target strategy stands other => sound.standsFor_unregister removed other stands,
      sound.resolve_unregister_ne removed n⟩

/-- The built-in registry is one of the reachable ones, and removing the first strategy leaves the names of
the second. -/
theorem sound_reachable_builtin :
    Reachable builtin ∧
      (builtin.unregister (.style .direct)).resolve (.style .direct) ≠ .ok "direct" ∧
      (builtin.unregister (.style .direct)).StandsFor (.style .tryGet) "try_get" Strategy.tryGet := by
  have reached : Reachable builtin := (Reachable.empty.register _ _ _ _).register _ _ _ _
  have stands : builtin.StandsFor (.style .tryGet) "try_get" Strategy.tryGet := by
    refine standsFor_iff.mpr ⟨resolve_eq_ok_iff.mpr (.inl ⟨?_, rfl⟩), ?_⟩ <;> rw [strategies_builtin] <;> rfl
  obtain ⟨-, -, -, removal⟩ := sound_reachable reached
  exact ⟨reached, (removal (.style .direct) (.style .direct)).2,
    (removal (.style .direct) (.style .tryGet)).1 _ _ stands (by decide)⟩

/-! ## Registrations without replacement -/

/-- Without replacement the loop over aliases points no alias elsewhere. -/
theorem get?_addAliases (r : Registry) (key : String) (aliases : List Value) {alias_ : String}
    (points : r.aliases.get? alias_ = some target) :
    (r.addAliases key false aliases).2.aliases.get? alias_ = some target := by
  induction aliases generalizing r with
  | nil => exact points
  | cons given rest ih =>
    unfold addAliases
    dsimp only
    split
    · exact ih r points
    · rw [if_neg Bool.false_ne_true]
      split
      · exact points
      · rename_i accepted
        apply ih
        by_cases same : normalizeName given.display = alias_
        · -- An alias that is taken is only accepted for what it points at already.
          have own : target = key := by
            unfold aliasRefusal at accepted
            dsimp only at accepted
            rw [same, points] at accepted
            by_cases primary : r.strategies.has alias_ = true
            · rw [if_pos primary] at accepted
              exact absurd accepted nofun
            · rw [if_neg primary] at accepted
              dsimp only at accepted
              by_cases own : target = key
              · exact own
              · rw [if_neg own] at accepted
                exact absurd accepted nofun
          rw [same, own]
          exact Table.get?_put_self _ _ _
        · generalize normalizeName given.display = spelled at same
          exact (Table.get?_put_of_ne r.aliases spelled key same).trans points

/-- A registration hides a name: it stores a primary name that is new and spelled alike. -/
def Hides (r : Registry) (name : StrategyName) (candidate : Option Strategy) (n : StrategyName) : Prop :=
  candidate.isSome = true ∧ r.strategies.has name.key = false ∧ n.key = name.key

/-- After a registration without replacement a name stands for what it stood for, unless it is hidden. -/
theorem standsFor_of_visible (name : StrategyName) (candidate : Option Strategy) (aliases : Value)
    (visible : ¬r.Hides name candidate n) (stands : r.StandsFor n target strategy) :
    (r.register name candidate aliases false).2.StandsFor n target strategy := by
  rcases register_cases r name candidate aliases false with ⟨-, same⟩ | ⟨stored, elements, rfl, free, after⟩
  · rw [same]
    exact stands
  have free : r.strategies.has name.key = false := free.resolve_right Bool.false_ne_true
  have spelled : name.key ≠ n.key := fun same => visible ⟨rfl, free, same.symm⟩
  obtain ⟨resolved, found⟩ := standsFor_iff.mp stands
  -- The target is a primary name already, so it is not the one that is stored.
  have other : name.key ≠ target := by
    rintro rfl
    exact absurd ((Table.has_eq_false_iff.mp free).symm.trans found) nofun
  have found : (r.strategies.put name.key stored).get? target = some strategy :=
    (Table.get?_put_of_ne r.strategies name.key stored other).trans found
  rw [after]
  refine standsFor_iff.mpr ⟨resolve_eq_ok_iff.mpr ?_, by rw [strategies_addAliases]; exact found⟩
  rw [strategies_addAliases]
  rcases resolve_eq_ok_iff.mp resolved with ⟨-, rfl⟩ | ⟨noPrimary, points⟩
  · exact .inl ⟨Table.has_eq_true_iff.mpr ⟨strategy, found⟩, rfl⟩
  · refine .inr ⟨?_, get?_addAliases _ name.key elements points⟩
    rw [Table.has_eq_false_iff] at noPrimary ⊢
    exact (Table.get?_put_of_ne r.strategies name.key stored spelled).trans noPrimary

/-- A name that is hidden stands for the new strategy. -/
theorem standsFor_of_hides (aliases : Value) {stored : Strategy} (hides : r.Hides name (some stored) n) :
    (r.register name (some stored) aliases false).2.StandsFor n name.key stored := by
  obtain ⟨-, free, spelled⟩ := hides
  rcases register_cases r name (some stored) aliases false with ⟨refused, -⟩ | ⟨_, elements, same, -, after⟩
  · rcases refused with none_ | ⟨taken, -⟩
    · exact absurd none_ nofun
    · exact absurd (taken.symm.trans free) nofun
  obtain rfl := Option.some.inj same
  rw [after]
  refine standsFor_iff.mpr ⟨resolve_eq_ok_iff.mpr (.inl ⟨?_, spelled⟩), ?_⟩
  · rw [strategies_addAliases, spelled]
    exact (Table.has_put _ _ _ _).mpr (.inl rfl)
  · rw [strategies_addAliases]
    exact Table.get?_put_self _ _ _

/-- **A registration without replacement** leaves a supported name as it was exactly if it does not hide
it. A name that it hides was an alias, and from then on stands for the new strategy, under another primary
name than before. -/
theorem standsFor_register (h : Reachable r) (known : r.supports n = true) (name : StrategyName)
    (candidate : Option Strategy) (aliases : Value) :
    ∃ target strategy, r.StandsFor n target strategy ∧
      ((r.register name candidate aliases false).2.StandsFor n target strategy ↔
        ¬r.Hides name candidate n) ∧
      (r.Hides name candidate n → r.aliases.get? n.key = some target ∧ target ≠ name.key ∧
        ∃ stored, candidate = some stored ∧
          (r.register name candidate aliases false).2.StandsFor n name.key stored) := by
  obtain ⟨target, strategy, stands⟩ := h.sound.exists_standsFor known
  have hidden : r.Hides name candidate n → r.aliases.get? n.key = some target ∧ target ≠ name.key ∧
      ∃ stored, candidate = some stored ∧
        (r.register name candidate aliases false).2.StandsFor n name.key stored := by
    intro hides
    obtain ⟨some_, free, spelled⟩ := hides
    obtain ⟨stored, rfl⟩ := Option.isSome_iff_exists.mp some_
    have points : r.aliases.get? n.key = some target := by
      rcases resolve_eq_ok_iff.mp stands.1 with ⟨primary, -⟩ | ⟨-, points⟩
      · rw [spelled] at primary
        exact absurd (primary.symm.trans free) nofun
      · exact points
    refine ⟨points, ?_, stored, rfl, standsFor_of_hides aliases ⟨rfl, free, spelled⟩⟩
    rintro rfl
    exact absurd ((h.sound.has_target points).symm.trans free) nofun
  refine ⟨target, strategy, stands, ⟨fun kept hides => ?_, fun visible => ?_⟩, hidden⟩
  · -- A name stands for one primary name only.
    obtain ⟨-, other, stored, -, new⟩ := hidden hides
    exact other (Except.ok.inj (kept.1.symm.trans new.1))
  · exact standsFor_of_visible name candidate aliases visible stands

/-- A registry in which a strategy has an alias of its own. -/
def withPlain : Registry := empty.add Strategy.direct ["plain"]

/-- The name that is an alias in it. -/
def plainName : StrategyName := .given (.text "plain")

theorem key_plainName : plainName.key = "plain" := by decide +kernel

theorem withPlain_eq : withPlain = ⟨[("direct", Strategy.direct)], [("plain", "direct")]⟩ := by
  have key : normalizeName "plain" = "plain" := key_plainName
  show (Registry.addAliases ⟨[("direct", Strategy.direct)], []⟩ "direct" false [.text "plain"]).2 = _
  unfold addAliases
  simp only [Value.display_text, key]
  rfl

theorem reachable_withPlain : Reachable withPlain := .register .empty _ _ _ _

/-- An alias that is taken is refused to another strategy, whose primary name is stored all the same. -/
theorem standsFor_register_plain :
    Reachable withPlain ∧ withPlain.supports plainName = true ∧
      (withPlain.register (.style .tryGet) (some Strategy.tryGet) (.list [.text "plain"]) false).1 =
        .error (.registry (.aliasTaken (.text "plain") "direct")) ∧
      (withPlain.register (.style .tryGet) (some Strategy.tryGet) (.list [.text "plain"]) false).2.StandsFor
        plainName "direct" Strategy.direct := by
  have key : normalizeName "plain" = "plain" := key_plainName
  have known : withPlain.supports plainName = true := by
    unfold supports
    rw [key_plainName, withPlain_eq]
    rfl
  refine ⟨reachable_withPlain, known, ?_, ?_⟩
  · rw [withPlain_eq]
    show (Registry.addAliases ⟨[("direct", Strategy.direct), ("try_get", Strategy.tryGet)],
      [("plain", "direct")]⟩ "try_get" false [.text "plain"]).1 = _
    unfold addAliases aliasRefusal
    simp only [Value.display_text, key]
    rfl
  · obtain ⟨target, strategy, stands, kept, -⟩ :=
      standsFor_register reachable_withPlain known (.style .tryGet) (some Strategy.tryGet) (.list [.text "plain"])
    have visible : ¬withPlain.Hides (.style .tryGet) (some Strategy.tryGet) plainName := by
      rintro ⟨-, -, spelled⟩
      rw [key_plainName] at spelled
      exact absurd spelled (by decide)
    have points : withPlain.StandsFor plainName "direct" Strategy.direct := by
      rw [standsFor_iff, resolve_eq_ok_iff, key_plainName, withPlain_eq]
      exact ⟨.inr ⟨rfl, rfl⟩, rfl⟩
    obtain rfl := Except.ok.inj (stands.1.symm.trans points.1)
    obtain rfl := Except.ok.inj (stands.2.symm.trans points.2)
    exact kept.mpr visible

/-- A primary name that is spelled like the alias is accepted, and the alias stands for another
strategy. -/
theorem alias_hidden :
    Reachable withPlain ∧ withPlain.StandsFor plainName "direct" Strategy.direct ∧
      (withPlain.register plainName (some Strategy.tryGet) .null false).1 = .ok () ∧
      (withPlain.register plainName (some Strategy.tryGet) .null false).2.StandsFor plainName "plain"
        Strategy.tryGet := by
  have free : withPlain.strategies.has plainName.key = false := by
    rw [key_plainName, withPlain_eq]
    rfl
  refine ⟨reachable_withPlain, ?_, ?_, ?_⟩
  · rw [standsFor_iff, resolve_eq_ok_iff, key_plainName, withPlain_eq]
    exact ⟨.inr ⟨rfl, rfl⟩, rfl⟩
  · unfold register
    dsimp only
    rw [free]
    rfl
  · have hides : withPlain.Hides plainName (some Strategy.tryGet) plainName := ⟨rfl, free, rfl⟩
    have new := standsFor_of_hides .null hides
    rwa [key_plainName] at new

end StaticAccessors.Registry
