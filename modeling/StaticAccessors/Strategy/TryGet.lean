import StaticAccessors.Strategy.Basic

/-!
# Try-get access

One method for the collection and one for each item. A method hands its value out through a
parameter and returns whether the look-up succeeded; a value that was found is kept in its field.
-/

namespace StaticAccessors.Strategy.TryGet

open Scope (openBlock closeBlock)

/-- Hands out a value and returns. -/
def writeReturn (depth : Int) (value : String) (success : Bool) : Emission Unit := do
  .write depth ("result = " ++ value ++ ";")
  .write depth ("return " ++ (if success then "true" else "false") ++ ";")

/-- Returns early under a condition; a blank line follows. -/
def writeGuarded (depth : Int) (condition value : String) (success : Bool) : Emission Unit := do
  let inner ← openBlock depth ("if (" ++ condition ++ ")")
  writeReturn inner value success
  let _ ← closeBlock inner
  .blank depth

/-- The method of the collection. -/
def writeCollection (s : Settings) (depth : Int) (c : Collection) : Emission Int := do
  let typeName := c.type.name.display
  let lookup := registryCall s ("TryGetCollectionByGUID(" ++ stringLiteral c.guid.display ++ ", out " ++
    (s .collectionBaseType).display ++ " resultCollection)")
  let depth ← openBlock depth ("public static bool TryGetValues(out " ++ typeName ++ " result)")
  writeGuarded depth "values != null" "values" true
  writeGuarded depth ("!" ++ lookup) "values" false
  .write depth ("values = (" ++ typeName ++ ")resultCollection;")
  writeReturn depth "values" true
  closeBlock depth

/-- The method of an item, which asks for the collection first. -/
def writeItem (s : Settings) (c : Collection) (depth : Int) (item : Item) : Emission Int := do
  let names ← .lift item.identifiers
  let typeName := item.type.name.display
  let lookup := "collectionResult.TryGetCollectableByGUID(" ++ stringLiteral item.guid.display ++
    ", out " ++ (s .itemBaseType).display ++ " resultCollectable)"
  let depth ← openBlock depth ("public static bool TryGet" ++ names.upper ++ "(out " ++ typeName ++ " result)")
  writeGuarded depth (names.lower ++ " != null") names.lower true
  writeGuarded depth ("!TryGetValues(out " ++ c.type.name.display ++ " collectionResult)") "null" false
  writeGuarded depth ("!" ++ lookup) "null" false
  .write depth (names.lower ++ " = (" ++ typeName ++ ")resultCollectable;")
  writeReturn depth names.lower true
  closeBlock depth

/-- The members of the class. -/
def write (s : Settings) (c : Collection) (depth : Int) : Emission Int := do
  writeFields depth c
  let depth ← writeCollection s depth c
  writeItems (writeItem s c) depth c.items

end TryGet

/-- Cached methods that report failure. -/
def tryGet : Strategy where
  name := "try_get"
  style := .tryGet
  description := "Cached TryGet methods reporting lookup failures as false"
  typeName := "TryGetAccessStrategy"
  moduleName := "collection_codegen.codegen.strategies.try_get"
  write := TryGet.write

end StaticAccessors.Strategy
