import StaticAccessors.Fault

/-!
# Hosts

A run talks to collaborators: something that knows compiled units, something that opens files and
something that is told when all is written. `Host` holds them as actions over a state of any type, so
the same run works on a disk, in memory or against collaborators that fail on purpose.

## Contents
- `Level` and `Record`: what is logged.
- `Action`: a step that changes a state and may fail; the change stays when it fails.
- `Host`.
-/

namespace StaticAccessors

/-! ## Records -/

/-- How important a record is. -/
inductive Level
  | debug
  | info
  | warning
  | error
deriving Repr, DecidableEq

/-- The name of a level. -/
def Level.name : Level → String
  | debug => "DEBUG"
  | info => "INFO"
  | warning => "WARNING"
  | error => "ERROR"

/-- The number of a level; more important levels have higher numbers. -/
def Level.number : Level → Nat
  | debug => 10
  | info => 20
  | warning => 30
  | error => 40

/-- A line of the log. -/
structure Record where
  level : Level
  text : String
deriving Repr, DecidableEq

/-! ## Actions -/

/-- A step over a state that ends with a result or a fault and keeps what it changed either way. -/
abbrev Action (σ α : Type) := ExceptT Fault (StateM σ) α

namespace Action

variable {σ α : Type}

/-- A step that changes nothing. -/
def ofExcept (outcome : Except Fault α) : Action σ α := fun s => (outcome, s)

/-- A step given by its effect. -/
def ofRun (run : σ → Except Fault α × σ) : Action σ α := run

/-- The effect of a step. -/
def run (action : Action σ α) (s : σ) : Except Fault α × σ := action s

/-- Makes up for a fault. -/
def handle (action : Action σ α) (mend : Fault → Action σ α) : Action σ α := fun s =>
  match action s with
  | (.ok a, after) => (.ok a, after)
  | (.error fault, after) => mend fault after

end Action

/-! ## Collaborators -/

/-- What a run needs from its surroundings. -/
structure Host (σ : Type) where
  /-- the place that relative paths start from -/
  here : Location
  /-- adds a record to the log -/
  log : Record → σ → σ
  /-- the compiled unit a path belongs to -/
  resolve : FilePath → Action σ Value
  ensureDirectory : FilePath → Action σ Unit
  /-- makes a file or empties it -/
  openForWrite : FilePath → Action σ Unit
  /-- ends the writing of an open file with the text it received -/
  close : FilePath → String → Action σ Unit
  /-- called once after a script was written -/
  persist : Action σ Unit

/-- Logs one record. -/
def Host.note {σ : Type} (host : Host σ) (level : Level) (text : String) : Action σ Unit :=
  .ofRun fun s => (.ok (), host.log ⟨level, text⟩ s)

/-- Logs records in order. -/
def Host.noteAll {σ : Type} (host : Host σ) (records : List Record) : Action σ Unit :=
  .ofRun fun s => (.ok (), records.foldl (fun s r => host.log r s) s)

end StaticAccessors
