import StaticAccessors.ProjectPath
import StaticAccessors.Script
import StaticAccessors.Units.Guard

/-!
# Generation

A run writes the script of one collection. The order is fixed: strategy and output path, the guard, the
check of identifiers, the directory, the file, and the refresh. Nothing is touched before both checks
have passed, an opened file is always closed, and the refresh is called once, after the file is
complete.

Faults of the generation and of the disk become failed reports; all others end the run.

## Contents
- `Metadata` and `Report`.
- `Generation.attempt`: the run as it is when nothing fails.
- `Generation.run`.
-/

namespace StaticAccessors

/-- What is told about a script that was written. -/
structure Metadata where
  collection : Value
  strategy : String
  className : String
  namespace_ : Value
  unit : Value
  itemCount : Nat
  path : FilePath

/-- The keys and values under which it is told. -/
def Metadata.fields (m : Metadata) : Fields := [
  ("collection", m.collection), ("strategy", .text m.strategy), ("class_name", .text m.className),
  ("namespace", m.namespace_), ("compiled_unit", m.unit), ("item_count", .int m.itemCount),
  ("output_path", .text m.path.text)]

/-- How a run ended. -/
inductive Report
  | written (path : FilePath) (warnings : List String) (metadata : Metadata)
  | failed (message : String) (fault : Fault)

namespace Generation

variable {σ : Type}

/-- Writes a script into a file. The file is closed with all text that was written, also if the script
could not be completed. -/
def writeScript (host : Host σ) (strategy : Strategy) (s : Settings) (c : Collection) (output : FilePath) :
    Action σ Unit := do
  host.openForWrite output
  let printed := Script.print strategy s c
  host.noteAll printed.records
  host.close output printed.text
  .ofExcept printed.outcome

/-- The run up to the first fault. -/
def attempt (host : Host σ) (r : Registry) (s : Settings) (c : Collection) : Action σ Report := do
  let strategy ← .ofExcept (r.lookup (.style c.style))
  let output ← .ofExcept (Script.path s c)
  let unit ← sharedUnit host c output
  .ofExcept (Strategy.checkIdentifiers c)
  let warnings ← .ofExcept (Strategy.collectionWarnings c)
  host.noteAll (warnings.map (⟨.warning, ·⟩))
  host.ensureDirectory output.parent
  writeScript host strategy s c output
  let target ← .ofExcept (absolutePath host.here (s .projectRoot) output)
  host.note .info ("Wrote " ++ target.text ++ " for collection " ++ c.name.display)
  host.persist
  let className ← .ofExcept c.className
  return .written output warnings
    ⟨c.name, strategy.name, className, c.namespace_.orElse (.text ""), unit, c.items.length, output⟩

/-- The report about a fault of the generation. -/
def reportRefusal (host : Host σ) (c : Collection) (fault : Fault) : Action σ Report := do
  host.note .error ("Static script generation for " ++ c.name.display ++ " failed: " ++ fault.message)
  return .failed ("Code generation failed: " ++ fault.message) fault

/-- The report about a fault of the disk. -/
def reportUnwritten (host : Host σ) (s : Settings) (c : Collection) (fault : Fault) : Action σ Report := do
  let output ← .ofExcept (Script.path s c)
  let target ← .ofExcept (absolutePath host.here (s .projectRoot) output)
  host.note .error ("Could not write static script " ++ target.text ++ ": " ++ fault.message)
  return .failed ("Failed to write " ++ target.text ++ ": " ++ fault.message) fault

/-- Writes the script of a collection and reports about it. -/
def run (host : Host σ) (r : Registry) (s : Settings) (c : Collection) : Action σ Report :=
  (attempt host r s c).handle fun fault =>
    if fault.isGeneration then reportRefusal host c fault
    else if fault.isDisk then reportUnwritten host s c fault
    else throw fault

end Generation

end StaticAccessors
