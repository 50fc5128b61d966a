import StaticAccessors.Host
import StaticAccessors.Manifest.Collection
import StaticAccessors.ProjectPath

/-!
# The guard

A script may only be written where it is compiled into the unit of its collection. The directory of
the output is resolved first, the source of the collection second.
-/

namespace StaticAccessors

/-- The unit that the output and the source of a collection share. -/
def sharedUnit {σ : Type} (host : Host σ) (c : Collection) (output : FilePath) : Action σ Value := do
  let outputUnit ← host.resolve output.parent
  let source ← .ofExcept (pathOf c.sourcePath)
  let collectionUnit ← host.resolve source
  if outputUnit.equal collectionUnit then do
    host.note .debug ("Output " ++ output.text ++ " and collection " ++ c.name.display ++
      " share unit " ++ outputUnit.display)
    return outputUnit
  else do
    let mismatch : UnitMismatch := ⟨forwardSlashes output.text, collectionUnit, outputUnit⟩
    host.note .error mismatch.message
    throw (.unitMismatch mismatch)

end StaticAccessors
