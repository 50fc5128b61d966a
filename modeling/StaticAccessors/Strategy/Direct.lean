import StaticAccessors.Strategy.Basic

/-!
# Direct access

One static property for the collection and one for each item. A property fetches its value on first
use and keeps it in its field; a failed look-up shows at the place of use.
-/

namespace StaticAccessors.Strategy.Direct

open Scope (openBlock closeBlock)

/-- A property that returns `field`, after filling it from `lookup` if it is empty. -/
def writeProperty (depth : Int) (typeName property field lookup : String) : Emission Int := do
  let depth ← openBlock depth ("public static " ++ typeName ++ " " ++ property)
  let depth ← openBlock depth "get"
  .write depth ("if (" ++ field ++ " == null)")
  .write (depth + 1) (field ++ " = (" ++ typeName ++ ")" ++ lookup ++ ";")
  .write depth ("return " ++ field ++ ";")
  let depth ← closeBlock depth
  closeBlock depth

/-- The property of the collection. -/
def writeCollection (s : Settings) (depth : Int) (c : Collection) : Emission Int :=
  writeProperty depth c.type.name.display "Values" "values"
    (registryCall s ("GetCollectionByGUID(" ++ stringLiteral c.guid.display ++ ")"))

/-- The property of an item. -/
def writeItem (depth : Int) (item : Item) : Emission Int := do
  let names ← .lift item.identifiers
  writeProperty depth item.type.name.display names.upper names.lower
    ("Values.GetCollectableByGUID(" ++ stringLiteral item.guid.display ++ ")")

/-- The members of the class. -/
def write (s : Settings) (c : Collection) (depth : Int) : Emission Int := do
  writeFields depth c
  let depth ← writeCollection s depth c
  writeItems writeItem depth c.items

end Direct

/-- Lazily cached static properties. -/
def direct : Strategy where
  name := "direct"
  style := .direct
  description := "Lazily cached static properties resolved through the registry"
  typeName := "DirectAccessStrategy"
  moduleName := "collection_codegen.codegen.strategies.direct"
  write := Direct.write

end StaticAccessors.Strategy
