import StaticAccessors.Disk.Access
import StaticAccessors.Json.Printer
import StaticAccessors.Settings.Basic
import StaticAccessors.Text.LetterCase

/-!
# Settings files

Settings are kept in files that hold one object. A file is read under a name that ends in `.json` in
any case; what it holds is laid over the defaults, and overrides over that. Saving writes the
further settings beside the named ones; loading the file again tells them apart by their keys.

## Contents
- `Settings.load`: the settings of an optional file and overrides.
- `Settings.ofSource`: the settings that a value stands for.
- `Settings.save`.
-/

namespace StaticAccessors.Settings

open Text (lower)

/-- The ending of the names of settings files. -/
def fileSuffix : String := ".json"

/-- The fault for a text of a settings file that cannot be read. -/
def malformed (path : FilePath) (refusal : Json.Refusal) : Fault :=
  (Fault.ofExcess? refusal).getD (.settings (.malformed path refusal))

/-- A refusal of the disk as a fault of the settings. -/
def unreadable (path : FilePath) : Fault → Fault
  | .disk cause => .settings (.unreadable path cause)
  | fault => fault

/-- The fields that a settings file holds. -/
def readFile (d : Disk) (here : Location) (path : FilePath) : Except Fault Fields := do
  if !(← d.pathExists here path) then throw (.settings (.missing path))
  if lower path.suffix ≠ fileSuffix then throw (.settings (.notJson path))
  let text ← (d.readText here path).mapError (unreadable path)
  match Json.read text with
  | .error refusal => throw (malformed path refusal)
  | .ok (.object fields) => return fields
  | .ok _ => throw (.settings (.notAnObject path))

/-- The settings of overrides over a file; a false value names no file. -/
def load (d : Disk) (here : Location) (file overrides : Value) : Except Fault Settings :=
  if !file.truthy then overlay [] overrides
  else
    match FilePath.ofValue? file with
    | none => .error .wrongType
    | some path => do
      let fields ← readFile d here path
      overlay fields overrides

/-- The settings that a value stands for: an object holds overrides, a text names a file. -/
def ofSource (d : Disk) (here : Location) (source : Value) : Except Fault Settings :=
  match source with
  | .text _ => load d here source .null
  | .object _ | .null => load d here .null source
  | _ => .error (.registry (.invalidSettings source))

/-- Writes settings to a file. -/
def save (s : Settings) (d : Disk) (here : Location) (path : FilePath) : Except Fault Unit × Disk :=
  match s.flatten with
  | .error fault => (.error fault, d)
  | .ok entries =>
    match d.writeFile here path (Json.printEntries entries).toUTF8 with
    | .ok after => (.ok (), after)
    | .error (.disk cause) => (.error (.settings (.unsaved path cause)), d)
    | .error fault => (.error fault, d)

end StaticAccessors.Settings
