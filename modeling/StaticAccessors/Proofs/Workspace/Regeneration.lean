import StaticAccessors.Proofs.Disk.Laid
import StaticAccessors.Proofs.Workspace.Agreement

/-!
# Runs that are repeated

A run that has written its file finds everything in place when it is repeated: the directory is there, the
file can be opened again, and the script is the same text, since it depends on the registry, the settings and
the collection alone. The only thing that could go another way is the guard, which asks for units each
time. How it ends depends on nothing but the answers (`sharedUnit_fst`). So if these are the same the run
takes the same course once more, with the same calls and the same report, and the disk stays as it is, down
to the order of its entries (`run_again`).

## Contents
- `unitAnswers`, and `sharedUnit_fst`.
- `Ready.exists_again`: the checks pass again.
- `Course.exists_report`, `Course.report_of_stored`: runs that come to their end.
- `Writes.exists_store`: what they leave on the disk.
- `run_again`.
-/

namespace StaticAccessors.Generation

open StaticAccessors.Action Outcome

section

variable {σ : Type} {host : Host σ} {r : Registry} {s : Settings} {c : Collection} {before again : σ}

/-- What a run is told about units: that of its directory, and that of the source of the collection. -/
def unitAnswers {σ : Type} (host : Host σ) (c : Collection) (output : FilePath) : Action σ (Value × Value) := do
  let outputUnit ← host.resolve output.parent
  let source ← .ofExcept (pathOf c.sourcePath)
  let collectionUnit ← host.resolve source
  return (outputUnit, collectionUnit)

/-- How the guard ends for two units. -/
def compareUnits (output : FilePath) (units : Value × Value) : Except Fault Value :=
  if units.1.equal units.2 then .ok units.1
  else .error (.unitMismatch ⟨forwardSlashes output.text, units.2, units.1⟩)

/-- **How the guard ends depends on nothing but the answers** it is given. -/
theorem sharedUnit_fst (host : Host σ) (c : Collection) (output : FilePath) (x : σ) :
    (sharedUnit host c output x).1 = (unitAnswers host c output x).1.bind (compareUnits output) := by
  unfold sharedUnit unitAnswers compareUnits
  rcases asked : host.resolve output.parent x with ⟨fault | outputUnit, x₁⟩
  · rw [bind_of_error asked, bind_of_error asked]
    rfl
  rw [bind_of_ok asked, bind_of_ok asked]
  cases placed : pathOf c.sourcePath with
  | error fault =>
    rw [bind_of_error (ofExcept_apply _ _), bind_of_error (ofExcept_apply _ _)]
    rfl
  | ok source =>
  rw [bind_of_ok (ofExcept_apply _ _), bind_of_ok (ofExcept_apply _ _)]
  rcases asked' : host.resolve source x₁ with ⟨fault | collectionUnit, x₂⟩
  · rw [bind_of_error asked', bind_of_error asked']
    rfl
  rw [bind_of_ok asked', bind_of_ok asked']
  show _ = if outputUnit.equal collectionUnit then _ else _
  split
  · rfl
  · rfl

/-- Given units are the same in any surroundings. -/
theorem unitAnswers_fixed (here : Location) (units : PrefixUnits) (root output : FilePath) (c : Collection)
    (x y : Workspace) :
    (unitAnswers (Workspace.fixedHost here units root) c output x).1 =
      (unitAnswers (Workspace.fixedHost here units root) c output y).1 := by
  unfold unitAnswers
  cases pathOf c.sourcePath <;> rfl

/-- What was ready is ready again if the answers are the same, and has found out the same. -/
theorem Ready.exists_again (k : Ready host r s c before)
    (answers : (unitAnswers host c k.output again).1 = (unitAnswers host c k.output before).1) :
    ∃ k' : Ready host r s c again, k'.output = k.output ∧ k'.strategy = k.strategy ∧ k'.unit = k.unit ∧
      k'.warnings = k.warnings := by
  have same : (sharedUnit host c k.output again).1 = .ok k.unit := by
    rw [sharedUnit_fst, answers, ← sharedUnit_fst, k.guarded]
  have guarded : sharedUnit host c k.output again = (.ok k.unit, (sharedUnit host c k.output again).2) :=
    Prod.ext same rfl
  exact ⟨⟨k.strategy, k.output, k.unit, k.warnings, _, k.lookup, k.path, guarded, k.distinct, k.warned⟩,
    rfl, rfl, rfl, rfl⟩

/-- The report of a run that has come to its end. -/
def Ready.report (k : Ready host r s c before) (className : String) : Report :=
  .written k.output k.warnings ⟨c.name, k.strategy.name, className, c.namespace_.orElse (.text ""), k.unit,
    c.items.length, k.output⟩

namespace Course

variable {raised : Except Fault Report} {after : σ} {calls : List Call}

/-- A run that ends with a report was ready, has closed its file and tells so. -/
theorem exists_report (h : Course host r s c before raised after calls) {report : Report}
    (reported : raised = .ok report) :
    ∃ (k : Ready host r s c before) (_ : Stored k) (target : FilePath) (className : String),
      report = k.report className ∧ c.className = .ok className ∧ k.script.outcome = .ok () ∧
        absolutePath host.here (s .projectRoot) k.output = .ok target ∧
        calls = k.storing ++ [persistCall (.ok ())] := by
  cases h
  case finished =>
    rename Ready host r s c before => k
    rename Stored k => v
    rename k.script.outcome = .ok () => complete
    rename absolutePath _ _ k.output = .ok _ => placed
    rename c.className = .ok _ => named
    exact ⟨k, v, _, _, (Except.ok.inj reported).symm, named, complete, placed, rfl⟩
  all_goals exact absurd reported nofun

/-- A run that has closed its file with a complete script tells so, if it can tell the place of the file and
the refresh does not fail. -/
theorem report_of_stored (h : Course host r s c before raised after calls) {k : Ready host r s c before}
    (v : Stored k) {target : FilePath} {className : String} (complete : k.script.outcome = .ok ())
    (placed : absolutePath host.here (s .projectRoot) k.output = .ok target)
    (named : c.className = .ok className) (quiet : ∀ x, (host.persist x).1 = .ok ()) :
    raised = .ok (k.report className) ∧ calls = k.storing ++ [persistCall (.ok ())] := by
  have stored := h.storing_prefix v
  cases h
  case unready | unguarded | unfit | noDirectory | unopened | unclosed => simp at stored
  all_goals
    rename Ready host r s c before => own
    obtain rfl := Subsingleton.elim k own
  case incomplete failed => exact absurd (failed.symm.trans complete) nofun
  case unplaced unplaced => exact absurd (unplaced.symm.trans placed) nofun
  case unrefreshed failed =>
    have refreshed := congrArg Prod.fst failed
    rw [quiet] at refreshed
    exact absurd refreshed nofun
  case finished =>
    rename c.className = .ok _ => named'
    obtain rfl := Except.ok.inj (named.symm.trans named')
    exact ⟨rfl, rfl⟩

end Course

end

/-! ## Local disks -/

section

variable {host : Host Workspace} {root file : FilePath} {r : Registry} {s : Settings} {c : Collection}
  {w again : Workspace}

/-- **What a run on the local disk leaves**, if it writes a file, is what storing the script does. -/
theorem Writes.exists_store (isLocal : host.Local root) (h : Writes host r s c w file) :
    ∃ k : Ready host r s c w, k.output = file ∧
      w.disk.store host.here (root.join file.parent) (root.join file) k.script.text.toUTF8 =
        .ok (run host r s c w).2.disk := by
  obtain ⟨k, v, target, rfl, -, -, last⟩ := h.exists_ready
  obtain ⟨records, ended⟩ := run_apply host r s c w
  refine ⟨k, rfl, ?_⟩
  rw [ended, v.store isLocal]
  dsimp only
  -- Neither the refresh nor the log touches the disk once the file is closed.
  rw [isLocal.disk_logged, last, isLocal.persisted, isLocal.logged]

/-- **A run is repeated without any change.** If it has written a file, then on the disk that it has left, and
with the same answers about units, it makes the same calls with the same text, ends with the same report, and
leaves the disk as it is. -/
theorem run_again (isLocal : host.Local root) (quiet : ∀ x, (host.persist x).1 = .ok ())
    {warnings : List String} {metadata : Metadata}
    (written : (run host r s c w).1 = .ok (.written file warnings metadata))
    (disk : again.disk = (run host r s c w).2.disk)
    (answers : (unitAnswers host c file again).1 = (unitAnswers host c file w).1) :
    (run host r s c again).1 = .ok (.written file warnings metadata) ∧
      callsOf host r s c again = callsOf host r s c w ∧
      (run host r s c again).2.disk = (run host r s c w).2.disk := by
  have writes : Writes host r s c w file := ⟨warnings, metadata, written⟩
  obtain ⟨k, rfl, stores⟩ := writes.exists_store isLocal
  rw [run_fst, ended_written_iff] at written
  obtain ⟨own, v, target, className, report, named, complete, placed, calls⟩ :=
    (attempt_course host r s c w).exists_report written
  obtain rfl := Subsingleton.elim k own
  -- The second run is ready, too, and its file is there already.
  obtain ⟨k', output, strategy, unit, warned⟩ := k.exists_again answers
  have script : k'.script = k.script := by
    unfold Ready.script
    rw [strategy]
  have restores := Disk.store_again stores
  rw [← disk] at restores
  have takes := Disk.takes_of_store restores
  rw [← output] at takes placed
  rw [← script] at complete
  obtain ⟨v'⟩ := k'.exists_stored isLocal takes
  obtain ⟨report', calls'⟩ :=
    (attempt_course host r s c again).report_of_stored v' complete placed named quiet
  have same : k'.report className = k.report className := by
    unfold Ready.report
    rw [output, strategy, unit, warned]
  have written' : (run host r s c again).1 = .ok (.written k.output warnings metadata) := by
    rw [run_fst, ended_written_iff, report', same, report]
  refine ⟨written', ?_, ?_⟩
  · rw [calls, calls']
    unfold Ready.storing Ready.directoryCall Ready.openCall Ready.closeCall
    rw [output, script]
  · have writes' : Writes host r s c again k.output := ⟨warnings, metadata, written'⟩
    obtain ⟨own', -, stores'⟩ := writes'.exists_store isLocal
    obtain rfl := Subsingleton.elim k' own'
    rw [script, restores] at stores'
    rw [← Except.ok.inj stores', disk]

/-- Surroundings in which the small collection is written. -/
def fruitsHost : Host Workspace := Workspace.fixedHost [] Workspace.oneUnit (.ofText ".")

/-- Surroundings with the disk on which it was written, which know nothing else of that run. -/
def fruitsWritten : Workspace :=
  .ofDisk (run fruitsHost .builtin .defaults .fruits (.ofDisk .empty)).2.disk

/-- There it is written once more. -/
theorem run_again_fruits :
    ∃ warnings metadata,
      (run fruitsHost .builtin .defaults .fruits (.ofDisk .empty)).1 =
          .ok (.written fruitsFile warnings metadata) ∧
        (unitAnswers fruitsHost .fruits fruitsFile fruitsWritten).1 =
          (unitAnswers fruitsHost .fruits fruitsFile (.ofDisk .empty)).1 ∧
        (run fruitsHost .builtin .defaults .fruits fruitsWritten).1 =
          .ok (.written fruitsFile warnings metadata) ∧
        (run fruitsHost .builtin .defaults .fruits fruitsWritten).2.disk = fruitsWritten.disk := by
  have isLocal : fruitsHost.Local (.ofText ".") := Workspace.fixedHost_isLocal
  have writes : Writes fruitsHost .builtin .defaults .fruits (.ofDisk .empty) fruitsFile :=
    writes_fruits Settings.defaults_wellTyped rfl rfl path_defaults takes_fruits
  obtain ⟨warnings, metadata, written⟩ := writes
  have disk : fruitsWritten.disk =
      (run fruitsHost .builtin .defaults .fruits (.ofDisk .empty)).2.disk :=
    Workspace.disk_ofDisk _
  have answers : (unitAnswers fruitsHost .fruits fruitsFile fruitsWritten).1 =
      (unitAnswers fruitsHost .fruits fruitsFile (.ofDisk .empty)).1 :=
    unitAnswers_fixed _ _ _ _ _ _ _
  obtain ⟨written', -, kept⟩ := run_again isLocal (fun _ => rfl) written disk answers
  rw [← disk] at kept
  exact ⟨warnings, metadata, written, answers, written', kept⟩

end

end StaticAccessors.Generation
