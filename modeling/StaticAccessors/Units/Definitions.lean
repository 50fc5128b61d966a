import StaticAccessors.Disk.Access
import StaticAccessors.Host
import StaticAccessors.ProjectPath
import StaticAccessors.Units.Prefixes
import StaticAccessors.Json.Reader

/-!
# Units by definition files

A directory belongs to the compiled unit that a definition file in it names, or else to the unit of
the nearest directory above it that has one, up to the root of the project. Files that cannot be read
or name nothing are passed over. Without any definition the unit depends on whether the path
leads through a directory of editor code.

What was found out about a directory is remembered, also that it defines nothing.

## Contents
- `UnitMemory`: the root and what is remembered.
- `definitionIn`: the unit a directory defines.
- `UnitMemory.resolve`: the unit of a path.
-/

namespace StaticAccessors

/-- The unit of editor code that no definition covers. -/
def editorUnit : String := "Assembly-CSharp-Editor"

/-- The name of directories of editor code. -/
def editorFolder : String := "Editor"

/-- Where a look-up ends, and the units of the directories looked at so far. -/
structure UnitMemory where
  root : FilePath
  known : List (FilePath × Option Value)

namespace UnitMemory

/-- Nothing is known yet; the project root has to be a path. -/
def create (here : Location) (projectRoot : Value) : Except Fault UnitMemory := do
  let root ← pathOf projectRoot
  return ⟨← resolvePath here root, []⟩

/-! ## Definition files -/

/-- Whether a file is named like a definition. -/
def isDefinitionName (name : String) : Bool := ".asmdef".toList.isSuffixOf name.toList

/-- The unit that the text of a definition names. -/
def unitNamed (document : Value) : Option Value :=
  match document.get? "name" with
  | some name => if name.truthy then some name else none
  | none => none

/-- What one definition file says: a unit, nothing, or why it cannot be read. -/
def readDefinition (d : Disk) (here : Location) (file : FilePath) :
    Except Fault (Except String (Option Value)) :=
  match d.readText here file with
  | .error (.disk e) => .ok (.error e.message)
  | .error fault => .error fault
  | .ok text =>
    match Json.read text with
    | .ok document => .ok (.ok (unitNamed document))
    | .error refusal =>
      match Fault.ofExcess? refusal with
      | some fault => .error fault
      | none => .ok (.error refusal.message)

/-- The record about a definition that cannot be read. -/
def unreadable (file : FilePath) (reason : String) : Record :=
  ⟨.warning, "Unreadable assembly definition " ++ file.text ++ ": " ++ reason⟩

/-- The unit the first usable of some definitions names, with the records on the way. -/
def firstUnit (d : Disk) (here : Location) (directory : FilePath) :
    List String → Except Fault (Option Value) × List Record
  | [] => (.ok none, [])
  | name :: rest =>
    let file := directory.join ⟨.here, [name]⟩
    match readDefinition d here file with
    | .error fault => (.error fault, [])
    | .ok (.ok (some unit)) => (.ok (some unit), [])
    | .ok (.ok none) => firstUnit d here directory rest
    | .ok (.error reason) =>
      let (found, records) := firstUnit d here directory rest
      (found, unreadable file reason :: records)

/-- The unit a directory defines itself. -/
def definitionIn (d : Disk) (here : Location) (directory : FilePath) :
    Except Fault (Option Value) × List Record :=
  match d.isDirectory here directory with
  | .error fault => (.error fault, [])
  | .ok false => (.ok none, [])
  | .ok true =>
    firstUnit d here directory ((d.names (directory.locate here)).filter isDefinitionName)

/-! ## Looking up -/

/-- What is remembered about a directory. -/
def remembered? (known : List (FilePath × Option Value)) (directory : FilePath) : Option (Option Value) :=
  known.lookup directory

/-- The unit a directory defines, from memory if it was looked at before. -/
def unitIn (d : Disk) (here : Location) (m : UnitMemory) (directory : FilePath) :
    Except Fault (Option Value) × List Record × UnitMemory :=
  match remembered? m.known directory with
  | some unit => (.ok unit, [], m)
  | none =>
    match definitionIn d here directory with
    | (.ok unit, records) => (.ok unit, records, { m with known := (directory, unit) :: m.known })
    | (.error fault, records) => (.error fault, records, m)

/-- The unit of the first of some directories that defines one; no directory after the root of the
project is looked at. -/
def search (d : Disk) (here : Location) (m : UnitMemory) :
    List FilePath → Except Fault (Option Value) × List Record × UnitMemory
  | [] => (.ok none, [], m)
  | directory :: rest =>
    match unitIn d here m directory with
    | (.error fault, records, m) => (.error fault, records, m)
    | (.ok (some unit), records, m) => (.ok (some unit), records, m)
    | (.ok none, records, m) =>
      if directory = m.root then (.ok none, records, m)
      else
        let (found, more, m) := search d here m rest
        (found, records ++ more, m)

/-- Whether a path leads through a directory of editor code, below the root of the project if it lies
there. -/
def isEditorPath (root path : FilePath) : Bool :=
  (if root.anchor = path.anchor && root.parts.isPrefixOf path.parts then
    path.parts.drop root.parts.length
  else path.parts).contains editorFolder

/-- The directory in which the look-up for a path starts: the path itself if it is a directory or has
no ending, and else the one it lies in. -/
def startOf (d : Disk) (here : Location) (path : FilePath) : Except Fault FilePath :=
  (d.isDirectory here path).map fun isDirectory =>
    if isDirectory || path.suffix = "" then path else path.parent

/-- The unit of a path that no definition covers. -/
def fallback (root path : FilePath) : String :=
  if isEditorPath root path then editorUnit else defaultUnit

/-- The unit of a path, with the records on the way. -/
def resolve (d : Disk) (here : Location) (m : UnitMemory) (p : FilePath) :
    Except Fault Value × List Record × UnitMemory :=
  match resolvePath here (m.root.join p) with
  | .error fault => (.error fault, [], m)
  | .ok path =>
    match startOf d here path with
    | .error fault => (.error fault, [], m)
    | .ok start =>
      match search d here m (start :: start.parents) with
      | (.error fault, records, m) => (.error fault, records, m)
      | (.ok (some unit), records, m) =>
        (.ok unit, records ++ [⟨.debug, "Resolved " ++ path.text ++ " to unit " ++ unit.display⟩], m)
      | (.ok none, records, m) =>
        let unit := fallback m.root path
        (.ok (.text unit), records ++
          [⟨.debug, "No assembly definition above " ++ path.text ++ ", using " ++ unit⟩], m)

end UnitMemory

end StaticAccessors
