import StaticAccessors.Disk.Basic
import StaticAccessors.Fault
import StaticAccessors.Text.Lines

/-!
# Access by path

A path is followed part by part from a starting place: every part but the last has to lead to an
existing directory, `..` leads to the directory above, and no name may be too long. Each operation
says which refusal it meets, with the path as it was given.

## Contents
- `Disk.walk`: where a path leads.
- `pathExists`, `isDirectory`.
- `makeDirectory`, `makeDirectories`.
- `openForWrite`, `writeFile`, `readBytes`, `readText`.
-/

namespace StaticAccessors.Disk

/-- The longest name of an entry, in bytes. -/
def nameLimit : Nat := 255

/-- Paths are shorter than this, in bytes. -/
def pathLimit : Nat := 4096

/-- Follows parts from a place. -/
def walkFrom (d : Disk) (at_ : Location) : List String → Except DiskRefusal Location
  | [] => .ok at_
  | part :: rest =>
    match d.get? at_ with
    | none => .error .notFound
    | some (.file _) => .error .notADirectory
    | some .directory =>
      if part.utf8ByteSize > nameLimit then .error .nameTooLong
      else walkFrom d (Location.step at_ part) rest

/-- The place a path leads to. Nothing need be there, but the directory it lies in has to be. -/
def walk (d : Disk) (here : Location) (p : FilePath) : Except DiskRefusal Location :=
  if p.text.utf8ByteSize ≥ pathLimit then .error .nameTooLong
  else walkFrom d (if p.isAbsolute then [] else here) p.parts

/-- The entry a path leads to. -/
def status (d : Disk) (here : Location) (p : FilePath) : Except DiskRefusal Entry :=
  match d.walk here p with
  | .error refusal => .error refusal
  | .ok at_ =>
    match d.get? at_ with
    | some entry => .ok entry
    | none => .error .notFound

/-- A refusal of a path. -/
def refuse {α : Type} (p : FilePath) (refusal : DiskRefusal) : Except Fault α :=
  .error (.disk ⟨refusal, some p.text⟩)

/-- Asks a question about an entry; a path that leads nowhere has the answer no. -/
def ask (d : Disk) (here : Location) (p : FilePath) (question : Entry → Bool) : Except Fault Bool :=
  if p.hasNul then .ok false
  else
    match d.status here p with
    | .ok entry => .ok (question entry)
    | .error .notFound => .ok false
    | .error .notADirectory => .ok false
    | .error refusal => refuse p refusal

/-- Whether a path leads to anything. -/
def pathExists (d : Disk) (here : Location) (p : FilePath) : Except Fault Bool := d.ask here p fun _ => true

/-- Whether a path leads to a directory. -/
def isDirectory (d : Disk) (here : Location) (p : FilePath) : Except Fault Bool :=
  d.ask here p Entry.isDirectory

/-! ## Directories -/

/-- Makes one directory in an existing one. -/
def makeDirectory (d : Disk) (here : Location) (p : FilePath) : Except Fault Disk :=
  if p.hasNul then .error .badValue
  else
    match d.walk here p with
    | .error refusal => refuse p refusal
    | .ok at_ =>
      match d.get? at_ with
      | some _ => refuse p .present
      | none => .ok (d.put at_ .directory)

/-- Whether a fault is that nothing was found. -/
def isNotFound : Fault → Bool
  | .disk ⟨.notFound, _⟩ => true
  | _ => false

/-- Whether a fault is any refusal of the disk. -/
def isRefusal : Fault → Bool
  | .disk _ => true
  | _ => false

/-- Passes over a refusal to make a directory that is there already. -/
def tolerate (d : Disk) (here : Location) (p : FilePath) (fault : Fault) : Except Fault Unit × Disk :=
  if isRefusal fault then
    match d.isDirectory here p with
    | .ok true => (.ok (), d)
    | .ok false => (.error fault, d)
    | .error other => (.error other, d)
  else (.error fault, d)

/-- Makes a directory that may be there already. -/
def makeLast (d : Disk) (here : Location) (p : FilePath) : Except Fault Unit × Disk :=
  match d.makeDirectory here p with
  | .ok made => (.ok (), made)
  | .error fault => if isNotFound fault then (.error fault, d) else tolerate d here p fault

/-- Makes a directory and those above it that are missing; `missing` bounds how many there can be. What was
made before a refusal stays. -/
def makeAbove (d : Disk) (here : Location) (p : FilePath) : Nat → Except Fault Unit × Disk
  | 0 => d.makeLast here p
  | missing + 1 =>
    match d.makeDirectory here p with
    | .ok made => (.ok (), made)
    | .error fault =>
      if isNotFound fault then
        if p.parts = [] then (.error fault, d)
        else
          match makeAbove d here p.parent missing with
          | (.error other, after) => (.error other, after)
          | (.ok (), after) => after.makeLast here p
      else tolerate d here p fault

/-- Makes sure that a directory is there. -/
def makeDirectories (d : Disk) (here : Location) (p : FilePath) : Except Fault Unit × Disk :=
  d.makeAbove here p p.parts.length

/-! ## Files -/

/-- The place of a file that is to be written, which must not be a directory. -/
def fileToWrite (d : Disk) (here : Location) (p : FilePath) : Except Fault Location :=
  if p.hasNul then .error .badValue
  else
    match d.walk here p with
    | .error refusal => refuse p refusal
    | .ok at_ =>
      match d.get? at_ with
      | some .directory => refuse p .isADirectory
      | _ => .ok at_

/-- Opens a file for writing: it is made if it is missing, and loses its content. -/
def openForWrite (d : Disk) (here : Location) (p : FilePath) : Except Fault Disk :=
  (d.fileToWrite here p).map fun at_ => d.put at_ (.file .empty)

/-- Gives a file its content. -/
def writeFile (d : Disk) (here : Location) (p : FilePath) (content : ByteArray) : Except Fault Disk :=
  (d.fileToWrite here p).map fun at_ => d.put at_ (.file content)

/-- The content of a file. -/
def readBytes (d : Disk) (here : Location) (p : FilePath) : Except Fault ByteArray :=
  if p.hasNul then .error .badValue
  else
    match d.status here p with
    | .ok (.file content) => .ok content
    | .ok .directory => refuse p .isADirectory
    | .error refusal => refuse p refusal

/-- The content of a file as text, with all line ends as line feeds. -/
def readText (d : Disk) (here : Location) (p : FilePath) : Except Fault String := do
  let content ← d.readBytes here p
  match String.fromUTF8? content with
  | some s => return String.ofList (Text.unifyLines s.toList)
  | none => throw .undecodable

end StaticAccessors.Disk
