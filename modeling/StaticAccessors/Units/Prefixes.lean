import StaticAccessors.FilePath
import StaticAccessors.Table

/-!
# Units by path

A fixed mapping from paths to compiled units. A path belongs to the longest of the mapped paths that
is the path itself or an ancestor of it.
-/

namespace StaticAccessors

/-- The unit of a path that nothing maps. -/
def defaultUnit : String := "Assembly-CSharp"

/-- Units under the paths that map to them, and the unit of all other paths. -/
structure PrefixUnits where
  units : Table String Value
  fallback : Value

namespace PrefixUnits

/-- A path as a mapping compares it: written out, without slashes at its end. -/
def comparable (p : FilePath) : String :=
  String.ofList (p.text.toList.reverse.dropWhile (· = '/')).reverse

/-- The mapping of some paths; of two that are written alike the later counts. -/
def create (units : Table String Value) (fallback : Value) : PrefixUnits :=
  ⟨Table.merge [] (units.map fun (path, unit) => (comparable (.ofText path), unit)), fallback⟩

/-- Whether a written path is the mapped one or lies below it. -/
def covers (mapped path : String) : Bool :=
  path = mapped || (mapped.toList ++ ['/']).isPrefixOf path.toList

/-- The mapped paths with the longest first. -/
def byLength (u : PrefixUnits) : Table String Value :=
  u.units.mergeSort fun a b => b.1.length ≤ a.1.length

/-- The unit of a path. -/
def resolve (u : PrefixUnits) (p : FilePath) : Value :=
  match u.byLength.find? fun entry => covers entry.1 p.text with
  | some entry => entry.2
  | none => u.fallback

end PrefixUnits

end StaticAccessors
