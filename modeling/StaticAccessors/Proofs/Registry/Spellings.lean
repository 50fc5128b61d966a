import StaticAccessors.Proofs.Manifest.Grammar
import StaticAccessors.Proofs.Registry.Reachable

/-!
# Spellings of styles, and names in the registry

A style can be spelled in several ways, and so can the name of a strategy. The spellings of styles are a table
(`AccessorStyle.spellings`), while the names of the built-in registry are what its registrations have left there
(`registered`). Both are looked up in the same normal form, so they agree on all values as soon as the two tables
have the same entries.

They have, but for one: `trygetaccess` spells a style and is no name in the registry (`spellings_perm`). So the two
agree on a value exactly if this is not its normal form (`agree_iff`).

## Contents
- `aliases_builtin`, and `registered`: the names of the built-in registry.
- `lookup_builtin_iff`: what the names stand for.
- `spellings_perm`: the two tables side by side.
- `Agree`, and `agree_iff`.
-/

namespace StaticAccessors.Registry

open Manifest (Spells style_eq_ok_iff)

variable {n : StrategyName} {style : AccessorStyle} {strategy : Strategy}

/-! ## The names of the built-in registry -/

/-- The aliases of the built-in registry, in the order in which they were registered. -/
theorem aliases_builtin : builtin.aliases =
    [("direct_access", "direct"), ("directaccess", "direct"), ("tryget", "try_get"), ("try_get_access", "try_get")] := by
  decide +kernel

/-- The names of the built-in registry with their styles: the primary names, and then the aliases. -/
def registered : List (String × AccessorStyle) := [
  ("direct", .direct), ("try_get", .tryGet), ("direct_access", .direct), ("directaccess", .direct),
  ("tryget", .tryGet), ("try_get_access", .tryGet)]

/-- A primary name is the name of a style. -/
theorem get?_strategies_builtin {key : String} :
    builtin.strategies.get? key = some strategy ↔ ∃ style, key = style.name ∧ strategy = Strategy.builtIn style := by
  rw [strategies_builtin]
  constructor
  · intro found
    have listed := Table.mem_of_get? found
    simp only [List.mem_cons, Prod.mk.injEq, List.not_mem_nil, or_false] at listed
    rcases listed with ⟨rfl, rfl⟩ | ⟨rfl, rfl⟩
    · exact ⟨.direct, rfl, rfl⟩
    · exact ⟨.tryGet, rfl, rfl⟩
  · rintro ⟨style, rfl, rfl⟩
    cases style <;> rfl

/-- A look-up goes by way of the primary name. -/
theorem lookup_eq_ok_iff (r : Registry) :
    r.lookup n = .ok strategy ↔
      ∃ target, r.resolve n = .ok target ∧ r.strategies.get? target = some strategy := by
  constructor
  · intro found
    cases resolved : r.resolve n with
    | error refusal =>
      unfold lookup at found
      rw [resolved] at found
      exact absurd found nofun
    | ok target => exact ⟨target, rfl, (lookup_of_resolve resolved).mp found⟩
  · rintro ⟨target, resolved, stored⟩
    exact (lookup_of_resolve resolved).mpr stored

/-- **What a name stands for** in the built-in registry is the strategy of the style that it is registered for. -/
theorem lookup_builtin_iff :
    builtin.lookup n = .ok strategy ↔ ∃ style, (n.key, style) ∈ registered ∧ strategy = Strategy.builtIn style := by
  rw [lookup_eq_ok_iff]
  constructor
  · rintro ⟨target, resolved, stored⟩
    obtain ⟨style, rfl, rfl⟩ := get?_strategies_builtin.mp stored
    refine ⟨style, ?_, rfl⟩
    rcases resolve_eq_ok_iff.mp resolved with ⟨-, primary⟩ | ⟨-, points⟩
    · rw [primary]
      cases style <;> decide
    · -- An alias that points at the name of a style is listed behind the primary names.
      have listed := Table.mem_of_get? points
      rw [aliases_builtin] at listed
      generalize n.key = key at listed
      cases style with
      | direct =>
        have known : key = "direct_access" ∨ key = "directaccess" := by simpa [AccessorStyle.name] using listed
        rcases known with rfl | rfl <;> decide
      | tryGet =>
        have known : key = "tryget" ∨ key = "try_get_access" := by simpa [AccessorStyle.name] using listed
        rcases known with rfl | rfl <;> decide
  · rintro ⟨style, listed, rfl⟩
    have resolved : builtin.resolve n = .ok style.name := by
      unfold resolve
      rw [strategies_builtin, aliases_builtin]
      simp only [registered, List.mem_cons, Prod.mk.injEq, List.not_mem_nil, or_false] at listed
      rcases listed with ⟨key, rfl⟩ | ⟨key, rfl⟩ | ⟨key, rfl⟩ | ⟨key, rfl⟩ | ⟨key, rfl⟩ | ⟨key, rfl⟩
      all_goals
        rw [key]
        rfl
    exact ⟨style.name, resolved, get?_strategies_builtin.mpr ⟨style, rfl, rfl⟩⟩

/-- The built-in registry is put together by registrations. -/
theorem reachable_builtin : Reachable builtin := (Reachable.empty.register _ _ _ _).register _ _ _ _

/-- The names that the built-in registry supports are the registered ones. -/
theorem supports_builtin_iff : builtin.supports n = true ↔ ∃ style, (n.key, style) ∈ registered := by
  constructor
  · intro known
    obtain ⟨_, strategy, -, found⟩ := reachable_builtin.sound.exists_standsFor known
    obtain ⟨style, listed, -⟩ := lookup_builtin_iff.mp found
    exact ⟨style, listed⟩
  · rintro ⟨style, listed⟩
    have found := lookup_builtin_iff.mpr ⟨style, listed, rfl⟩
    cases known : builtin.supports n with
    | true => rfl
    | false => exact absurd (found.symm.trans (lookup_of_not_supports known)) nofun

/-! ## The two vocabularies -/

/-- The normal form of the one spelling of a style that is not registered. -/
def unregistered : String := "trygetaccess"

/-- **The two tables** have the same entries, but for one. -/
theorem spellings_perm : AccessorStyle.spellings.Perm ((unregistered, .tryGet) :: registered) := by
  decide

/-- A value spells a style exactly if its normal form is registered for this style, or is the one that is not. -/
theorem spells_iff (v : Value) : Spells v style ↔
    (normalizeName v.display, style) ∈ registered ∨ normalizeName v.display = unregistered ∧ style = .tryGet := by
  unfold Spells
  rw [spellings_perm.mem_iff, List.mem_cons, Prod.mk.injEq, or_comm]

/-- The spelling that is left over is registered for no style. -/
theorem not_registered_unregistered (style : AccessorStyle) : (unregistered, style) ∉ registered := by
  cases style <;> decide

/-- The two vocabularies agree on a value: it is read as a style exactly if it is a name in the built-in registry,
and there it stands for a strategy of the style that it is read as. -/
structure Agree (v : Value) : Prop where
  supported : (∃ style, AccessorStyle.parse v = .ok style) ↔ builtin.supports (.given v) = true
  same : ∀ style, AccessorStyle.parse v = .ok style →
    ∃ strategy, builtin.lookup (.given v) = .ok strategy ∧ strategy.style = style

/-- A strategy of a style is of this style. -/
theorem style_builtIn (style : AccessorStyle) : (Strategy.builtIn style).style = style := by
  cases style <;> rfl

/-- The spelling that is left over is read as a style. -/
theorem parse_unregistered {v : Value} (left : normalizeName v.display = unregistered) :
    AccessorStyle.parse v = .ok .tryGet :=
  style_eq_ok_iff.mpr ((spells_iff v).mpr (.inr ⟨left, rfl⟩))

/-- And no strategy has it for a name. -/
theorem not_supports_unregistered {v : Value} (left : normalizeName v.display = unregistered) :
    builtin.supports (.given v) = false := by
  refine Bool.eq_false_iff.mpr fun known => ?_
  obtain ⟨style, listed⟩ := supports_builtin_iff.mp known
  have key : (StrategyName.given v).key = unregistered := left
  rw [key] at listed
  exact not_registered_unregistered style listed

/-- **The two vocabularies agree on all values but one spelling**, in all of its forms: with letters of either case,
and with white space around it. -/
theorem agree_iff (v : Value) : Agree v ↔ normalizeName v.display ≠ unregistered := by
  constructor
  · intro agree left
    have known := agree.supported.mp ⟨_, parse_unregistered left⟩
    exact absurd ((not_supports_unregistered left).symm.trans known) nofun
  · intro other
    have key : (StrategyName.given v).key = normalizeName v.display := rfl
    have registered_iff (style : AccessorStyle) :
        AccessorStyle.parse v = .ok style ↔ (normalizeName v.display, style) ∈ registered := by
      rw [style_eq_ok_iff, spells_iff, or_iff_left fun left => other left.1]
    exact {
      supported := by
        rw [supports_builtin_iff, key]
        exact exists_congr registered_iff
      same := by
        intro style read
        have listed := (registered_iff style).mp read
        exact ⟨_, lookup_builtin_iff.mpr ⟨style, listed, rfl⟩, style_builtIn style⟩ }

/-- `TryGetAccess` is read as a style, and no strategy has this name. -/
theorem tryGetAccess_unregistered :
    AccessorStyle.parse (.text "TryGetAccess") = .ok .tryGet ∧
      builtin.supports (.given (.text "TryGetAccess")) = false ∧
      builtin.lookup (.given (.text "TryGetAccess")) =
        .error (.registry (.unknown "TryGetAccess" ["direct", "try_get"])) := by
  have left : normalizeName (Value.text "TryGetAccess").display = unregistered := by decide +kernel
  have unknown := not_supports_unregistered left
  have names : builtin.names = ["direct", "try_get"] := by
    unfold names
    rw [strategies_builtin]
    exact List.mergeSort_of_pairwise (by decide)
  refine ⟨parse_unregistered left, unknown, ?_⟩
  rw [lookup_of_not_supports unknown, names]
  rfl

end StaticAccessors.Registry
