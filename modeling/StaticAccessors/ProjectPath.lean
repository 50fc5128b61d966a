import StaticAccessors.Fault

/-!
# Paths of a project

Paths in manifests and settings are seen from the root of the project, and its root from the place
where the program runs. This module places them in the tree.

## Contents
- `pathOf`: the path a value names.
- `resolvePath`, `absolutePath`.
- `forwardSlashes`.
-/

namespace StaticAccessors

/-- The path a value names. -/
def pathOf (v : Value) : Except Fault FilePath :=
  match FilePath.ofValue? v with
  | some p => .ok p
  | none => .error .wrongType

/-- The path from the root of the tree to where a path leads. -/
def resolvePath (here : Location) (p : FilePath) : Except Fault FilePath :=
  if p.hasNul then .error .badValue else .ok (p.resolve here)

/-- The same place as seen from the root of the tree. A path that is seen from there already stays as it is,
`..` included. -/
def absolutePath (here : Location) (projectRoot : Value) (p : FilePath) : Except Fault FilePath :=
  if p.isAbsolute then .ok p
  else
    match pathOf projectRoot with
    | .error fault => .error fault
    | .ok root => resolvePath here (root.join p)

/-- A path with forward slashes only. -/
def forwardSlashes (s : String) : String :=
  String.ofList (s.toList.map fun c => if c = '\\' then '/' else c)

end StaticAccessors
