import StaticAccessors.Proofs.Strategy.Lines
import StaticAccessors.Registry

/-!
# The registry of strategies

Aliases never touch the primary names. So the built-in registry has the two built-in strategies under
their names, whatever their aliases are, and every style is found in it.
-/

namespace StaticAccessors.Registry

/-- Aliases leave the primary names as they are. -/
theorem strategies_addAliases (r : Registry) (key : String) (replace : Bool) (aliases : List Value) :
    (r.addAliases key replace aliases).2.strategies = r.strategies := by
  induction aliases generalizing r with
  | nil => rfl
  | cons alias_ rest ih =>
    unfold addAliases
    dsimp only
    split
    · exact ih r
    · split
      · rfl
      · rw [ih]

/-- A strategy whose name is free is stored under it. -/
theorem strategies_add (r : Registry) {strategy : Strategy} (free : r.strategies.has strategy.style.name = false)
    (aliases : List String) :
    (r.add strategy aliases).strategies = r.strategies.put strategy.style.name strategy := by
  unfold add register
  have taken : (r.strategies.has (StrategyName.style strategy.style).key && !false) = false := by
    rw [show (StrategyName.style strategy.style).key = strategy.style.name from rfl, free]
    rfl
  dsimp only
  rw [taken, if_neg nofun]
  split
  · rfl
  · exact strategies_addAliases _ _ _ _

/-- The primary names of the built-in registry. -/
theorem strategies_builtin :
    builtin.strategies = [("direct", Strategy.direct), ("try_get", Strategy.tryGet)] := by
  have first : (empty.add Strategy.direct ["direct_access", "directaccess"]).strategies =
      [("direct", Strategy.direct)] :=
    strategies_add empty (by rfl) _
  have free : (empty.add Strategy.direct ["direct_access", "directaccess"]).strategies.has
      Strategy.tryGet.style.name = false := by
    rw [first]
    rfl
  unfold builtin
  rw [strategies_add _ free, first]
  rfl

/-- A registry with these primary names finds every style, whatever its aliases are. -/
theorem lookup_of_strategies {r : Registry}
    (names : r.strategies = [("direct", Strategy.direct), ("try_get", Strategy.tryGet)])
    (style : AccessorStyle) : r.lookup (.style style) = .ok (Strategy.builtIn style) := by
  have resolved : r.resolve (.style style) = .ok style.name := by
    unfold resolve
    rw [names]
    cases style <;> rfl
  unfold lookup
  rw [resolved, names]
  cases style <;> rfl

/-- **Every style has its strategy** in the built-in registry. -/
theorem lookup_builtin (style : AccessorStyle) :
    builtin.lookup (.style style) = .ok (Strategy.builtIn style) :=
  lookup_of_strategies strategies_builtin style

end StaticAccessors.Registry
