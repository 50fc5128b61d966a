import StaticAccessors.Strategy.Direct
import StaticAccessors.Strategy.TryGet

/-!
# The registry of strategies

Strategies are registered under a primary name and any number of aliases, all of which are compared
in normal form. A primary name hides an alias that is spelled alike. A registration takes effect step
by step: what it has stored before an alias is refused stays.

## Contents
- `StrategyName`: a style or any value as a name.
- `Registry` with `register`, `unregister`, `resolve`, `lookup`.
- `Registry.builtin`: the two built-in strategies with their aliases.
-/

namespace StaticAccessors

/-- What a strategy is asked for by: a style, or a value of any kind. -/
inductive StrategyName
  | style (style : AccessorStyle)
  | given (v : Value)

namespace StrategyName

/-- The form in which names are compared. -/
def key : StrategyName → String
  | style s => s.name
  | given v => normalizeName v.display

/-- The name as messages show it. -/
def display : StrategyName → String
  | style s => s.display
  | given v => v.display

end StrategyName

/-- Primary names with their strategies, and aliases with their primary names. -/
structure Registry where
  strategies : Table String Strategy
  aliases : Table String String

namespace Registry

/-- The registry without strategies. -/
def empty : Registry := ⟨[], []⟩

/-- The primary names, in ascending order. -/
def names (r : Registry) : List String := r.strategies.keys.mergeSort (· ≤ ·)

/-! ## Registration -/

/-- Why an alias cannot be pointed at a primary name, if it cannot. -/
def aliasRefusal (r : Registry) (key : String) (alias_ : Value) : Option RegistryError :=
  let aliasKey := normalizeName alias_.display
  if r.strategies.has aliasKey then some (.aliasIsPrimary alias_)
  else
    match r.aliases.get? aliasKey with
    | some target => if target = key then none else some (.aliasTaken alias_ target)
    | none => none

/-- Points aliases at a primary name, one after the other, up to the first that is refused. -/
def addAliases (r : Registry) (key : String) (replace : Bool) : List Value → Except Fault Unit × Registry
  | [] => (.ok (), r)
  | alias_ :: rest =>
    let aliasKey := normalizeName alias_.display
    if aliasKey = key then r.addAliases key replace rest
    else
      match if replace then none else r.aliasRefusal key alias_ with
      | some refusal => (.error (.registry refusal), r)
      | none => addAliases { r with aliases := r.aliases.put aliasKey key } key replace rest

/-- Registers a strategy; `none` stands for something that is no strategy. Without `replace` a primary
name that is taken keeps its strategy and its aliases. -/
def register (r : Registry) (name : StrategyName) (candidate : Option Strategy) (aliases : Value)
    (replace : Bool) : Except Fault Unit × Registry :=
  match candidate with
  | none => (.error (.registry .notAStrategy), r)
  | some strategy =>
    if r.strategies.has name.key && !replace then (.ok (), r)
    else
      let stored := { r with strategies := r.strategies.put name.key strategy }
      if !aliases.truthy then (.ok (), stored)
      else
        match aliases.elements? with
        | none => (.error .wrongType, stored)
        | some elements => stored.addAliases name.key replace elements

/-- Removes a primary name and all aliases that point at it. -/
def unregister (r : Registry) (name : StrategyName) : Registry :=
  ⟨r.strategies.erase name.key, r.aliases.filter (·.2 ≠ name.key)⟩

/-! ## Look-up -/

/-- The primary name that a name stands for. -/
def resolve (r : Registry) (name : StrategyName) : Except RegistryError String :=
  if r.strategies.has name.key then .ok name.key
  else
    match r.aliases.get? name.key with
    | some target => .ok target
    | none => .error (.unknown name.display r.names)

/-- The strategy that a name stands for. -/
def lookup (r : Registry) (name : StrategyName) : Except Fault Strategy :=
  match r.resolve name with
  | .error refusal => .error (.registry refusal)
  | .ok key =>
    match r.strategies.get? key with
    | some strategy => .ok strategy
    | none => .error .noSuchKey

/-- Whether a name is a primary name or an alias. -/
def supports (r : Registry) (name : StrategyName) : Bool :=
  r.strategies.has name.key || r.aliases.has name.key

/-- The aliases that point at a name, in ascending order. -/
def aliasesOf (r : Registry) (name : StrategyName) : List String :=
  (Table.keys (r.aliases.filter (·.2 = name.key))).mergeSort (· ≤ ·)

/-! ## Descriptions -/

/-- What can be told about a registered strategy. -/
structure Description where
  strategy : Strategy
  aliases : List String

/-- The description of the strategy that a name stands for. -/
def describe (r : Registry) (name : StrategyName) : Except Fault Description :=
  match r.resolve name with
  | .error refusal => .error (.registry refusal)
  | .ok key =>
    match r.strategies.get? key with
    | some strategy => .ok ⟨strategy, r.aliasesOf (.given (.text key))⟩
    | none => .error .noSuchKey

/-- The descriptions of all primary names, in ascending order. -/
def describeAll (r : Registry) : Except Fault (Table String Description) :=
  r.names.mapM fun name => (r.describe (.given (.text name))).map (name, ·)

/-! ## The built-in strategies -/

/-- A registration that is known to succeed. -/
def add (r : Registry) (strategy : Strategy) (aliases : List String) : Registry :=
  (r.register (.style strategy.style) (some strategy) (.list (aliases.map .text)) false).2

/-- The registry of the built-in strategies. -/
def builtin : Registry :=
  (empty.add Strategy.direct ["direct_access", "directaccess"]).add Strategy.tryGet
    ["tryget", "try_get_access"]

end Registry

end StaticAccessors
