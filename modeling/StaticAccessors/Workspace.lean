import StaticAccessors.Generation
import StaticAccessors.Settings.Basic
import StaticAccessors.Units.Definitions

/-!
# Workspaces

A workspace is what a program finds around it and leaves behind: a disk, a log, the units it
remembers, and a protocol of what was asked of collaborators. `Workspace.generate` is a run in a
workspace, in which the collaborators can be chosen.

## Contents
- `Event`: what is asked of a collaborator.
- `Workspace`.
- `Collaborators`, and the `Host` they make.
- `Workspace.generate`.
-/

namespace StaticAccessors

/-! ## Events -/

/-- What is asked of a collaborator. -/
inductive Event
  | ensureDirectory (path : FilePath)
  | openForWrite (path : FilePath)
  | close (path : FilePath)
  | persist
deriving Repr, DecidableEq

/-- An event as a line of a protocol. -/
def Event.text : Event → String
  | ensureDirectory path => "ensure_directory " ++ path.text
  | openForWrite path => "open " ++ path.text ++ " newline=''"
  | close path => "close " ++ path.text
  | persist => "persist"

/-- The surroundings of a program. -/
structure Workspace where
  disk : Disk
  /-- the log, in order -/
  records : List Record
  /-- what the current run knows about units -/
  units : Option UnitMemory
  /-- what all runs that ask for it know about units -/
  shared : Option UnitMemory
  /-- what was asked of collaborators that keep a protocol, in order -/
  events : List Event
  /-- files that were written into memory -/
  written : Table String String

namespace Workspace

/-- The surroundings that hold a disk and nothing else. -/
def ofDisk (d : Disk) : Workspace := ⟨d, [], none, none, [], []⟩

/-- Adds a record to the log. -/
def log (record : Record) (w : Workspace) : Workspace := { w with records := w.records ++ [record] }

/-- Adds records to the log. -/
def logAll (records : List Record) (w : Workspace) : Workspace :=
  { w with records := w.records ++ records }

/-- Adds an event to the protocol. -/
def witness (event : Event) (w : Workspace) : Workspace := { w with events := w.events ++ [event] }

/-- Changes the workspace. -/
def change (f : Workspace → Workspace) : Action Workspace Unit := .ofRun fun w => (.ok (), f w)

/-- Adds an event to the protocol and then fails or goes on. -/
def witnessing (event : Event) (outcome : Except Fault Unit) : Action Workspace Unit :=
  .ofRun fun w => (outcome, w.witness event)

/-- A step on the disk that keeps the disk when it fails. -/
def onDisk (step : Disk → Except Fault Disk) : Action Workspace Unit := .ofRun fun w =>
  match step w.disk with
  | .ok d => (.ok (), { w with disk := d })
  | .error fault => (.error fault, w)

/-! ## Local collaborators -/

/-- Makes sure that a directory is there. -/
def ensureDirectory (here : Location) (p : FilePath) : Action Workspace Unit := .ofRun fun w =>
  match w.disk.isDirectory here p with
  | .error fault => (.error fault, w)
  | .ok there =>
    let w := if there then w else w.log ⟨.debug, "Creating directory " ++ p.text⟩
    let (outcome, d) := w.disk.makeDirectories here p
    (outcome, { w with disk := d })

/-- The unit of a path by definition files, with what is remembered of them in one of two places. -/
def resolveUnit (here : Location) (memory : Workspace → Option UnitMemory)
    (keep : UnitMemory → Workspace → Workspace) (p : FilePath) : Action Workspace Value := .ofRun fun w =>
  match memory w with
  | none => (.error .noSuchAttribute, w)
  | some m =>
    let (outcome, records, m) := m.resolve w.disk here p
    (outcome, (keep m w).logAll records)

/-- The unit of a path as the current run knows it. -/
def resolveOwn (here : Location) : FilePath → Action Workspace Value :=
  resolveUnit here (·.units) fun m w => { w with units := some m }

/-- The unit of a path as all runs know it. -/
def resolveShared (here : Location) : FilePath → Action Workspace Value :=
  resolveUnit here (·.shared) fun m w => { w with shared := some m }

/-- Makes the memory that all runs share. -/
def share (here : Location) (projectRoot : Value) : Action Workspace Unit := do
  let m ← .ofExcept (UnitMemory.create here projectRoot)
  change fun w => { w with shared := some m }

/-! ## The choice of collaborators -/

/-- What knows units. -/
inductive UnitSource
  /-- definition files, looked at anew -/
  | definitions
  /-- definition files, as far as all runs remember them -/
  | remembered
  | fixed (units : PrefixUnits)

/-- A step that a file system in memory refuses. -/
inductive RefusedStep
  | directory
  | file
deriving Repr, DecidableEq

/-- Where files are written. -/
inductive FileTarget
  | disk
  | memory (refused : Option RefusedStep)
deriving Repr, DecidableEq

/-- Who takes part in a run. `refresh` is how the refresh ends, if there is one. -/
structure Collaborators where
  units : UnitSource
  files : FileTarget
  refresh : Option (Except Fault Unit)

/-- The collaborators of a run that names none. -/
def Collaborators.standard : Collaborators := ⟨.definitions, .disk, none⟩

/-- Refuses access to a path. -/
def deny (p : FilePath) : Except Fault Unit := .error (.disk ⟨.permission, some p.text⟩)

/-- The local disk under the root of a project, definition files, and no refresh. -/
def localHost (here : Location) (root : FilePath) : Host Workspace where
  here := here
  log := log
  resolve := resolveOwn here
  ensureDirectory p := ensureDirectory here (root.join p)
  openForWrite p := onDisk (·.openForWrite here (root.join p))
  close p text := onDisk (·.writeFile here (root.join p) text.toUTF8)
  persist := change (log ⟨.debug, "No persistence step configured"⟩)

/-- A host that writes into memory and keeps a protocol. -/
def inMemory (host : Host Workspace) (refused : Option RefusedStep) : Host Workspace :=
  { host with
    ensureDirectory := fun p =>
      witnessing (.ensureDirectory p) (if refused = some .directory then deny p else .ok ())
    openForWrite := fun p =>
      witnessing (.openForWrite p) (if refused = some .file then deny p else .ok ())
    close := fun p text => change fun w =>
      { w.witness (.close p) with written := w.written.put p.text text } }

/-- The host that some collaborators make. -/
def Collaborators.host (c : Collaborators) (here : Location) (root : FilePath) : Host Workspace :=
  let host := localHost here root
  let host := match c.units with
    | .definitions => host
    | .remembered => { host with resolve := resolveShared here }
    | .fixed units => { host with resolve := fun p => pure (units.resolve p) }
  let host := match c.files with
    | .disk => host
    | .memory refused => inMemory host refused
  match c.refresh with
  | none => host
  | some outcome => { host with persist := witnessing .persist outcome }

/-- Gets ready to look at definition files, if a run does. -/
def prepareUnits (here : Location) (s : Settings) : UnitSource → Action Workspace Unit
  | .definitions => do
    let m ← .ofExcept (UnitMemory.create here (s .projectRoot))
    change fun w => { w with units := some m }
  | _ => pure ()

/-- The root under which files are written; in memory there is none. -/
def rootFor (s : Settings) : FileTarget → Except Fault FilePath
  | .disk => pathOf (s .projectRoot)
  | .memory _ => .ok (.ofText "")

/-- Writes the script of a collection and reports about it. -/
def generate (here : Location) (r : Registry) (collaborators : Collaborators) (s : Settings) (c : Collection) :
    Action Workspace Report := do
  prepareUnits here s collaborators.units
  let root ← .ofExcept (rootFor s collaborators.files)
  Generation.run (collaborators.host here root) r s c

end Workspace

end StaticAccessors
