import StaticAccessors.Proofs.Generation.Course
import StaticAccessors.Proofs.Registry
import StaticAccessors.Proofs.Script.Lines
import StaticAccessors.Proofs.Strategy.Owners

/-!
# The order of effects

A run makes its calls in one order and stops at the first that fails: the directory, the file, its
closing, the refresh. None is made before all checks have passed, an open file is closed, and the refresh
comes after a complete script. How the run then ends depends only on the first fault (`ended`): faults of
the generation and of the disk become failed reports, all others are passed on.

One thing can keep a fault of the disk from becoming a report. The report names the place of the file,
and if the root of the project is no path that leads anywhere, looking for that place fails in its turn.
The run then ends with this second fault instead.

## Contents
- `ended`, `run_apply`: how a run ends; `ended_error_iff`: when with a fault.
- `attempt_course`: a run and the watched run take the same course.
- `EffectOrder`, and `effectOrder_run`.
- `disk_fault_escapes`: a fault of the disk that does not become a report.
-/

namespace StaticAccessors.Generation

open StaticAccessors.Action Outcome

variable {σ : Type} {host : Host σ} {r : Registry} {s : Settings} {c : Collection} {before : σ}

/-! ## Faults before the first call -/

/-- A look-up fails neither for the generation nor for the disk. -/
theorem lookup_error {name : StrategyName} {fault : Fault} (h : r.lookup name = .error fault) :
    fault.isGeneration = false ∧ fault.isDisk = false := by
  unfold Registry.lookup at h
  split at h
  · obtain rfl := Except.error.inj h
    exact ⟨rfl, rfl⟩
  · split at h
    · exact absurd h nofun
    · obtain rfl := Except.error.inj h
      exact ⟨rfl, rfl⟩

/-- A path can only be missing for a value of an unfit kind. -/
theorem path_error {fault : Fault} (h : Script.path s c = .error fault) : fault = .wrongType := by
  rcases bind_eq_error.mp h with h | ⟨name, -, h⟩
  · exact Collection.className_error (map_eq_error.mp h)
  · unfold Settings.outputPath at h
    split at h
    · exact absurd h nofun
    · exact (Except.error.inj h).symm

/-- The script of a run with the built-in strategies is that of the strategy of its style. -/
theorem Ready.script_eq (k : Ready host .builtin s c before) :
    k.script = Script.print (Strategy.builtIn c.style) s c := by
  have strategy := Except.ok.inj (k.lookup.symm.trans (Registry.lookup_builtin c.style))
  unfold script
  rw [strategy]

/-! ## How a run ends -/

/-- The place of the file of a script. -/
def placeOf (here : Location) (s : Settings) (c : Collection) : Except Fault FilePath :=
  (Script.path s c).bind fun output => absolutePath here (s .projectRoot) output

/-- How a run ends whose steps end in some way. -/
def ended (here : Location) (s : Settings) (c : Collection) : Except Fault Report → Except Fault Report
  | .ok report => .ok report
  | .error fault =>
    if fault.isGeneration then .ok (.failed ("Code generation failed: " ++ fault.message) fault)
    else if fault.isDisk then
      (placeOf here s c).map fun target =>
        .failed ("Failed to write " ++ target.text ++ ": " ++ fault.message) fault
    else .error fault

section

variable {here : Location} {fault : Fault}

theorem ended_generation (hg : fault.isGeneration = true) :
    ended here s c (.error fault) =
      .ok (.failed ("Code generation failed: " ++ fault.message) fault) :=
  if_pos hg

theorem ended_disk (hd : fault.isDisk = true) :
    ended here s c (.error fault) =
      (placeOf here s c).map fun target =>
        .failed ("Failed to write " ++ target.text ++ ": " ++ fault.message) fault := by
  have hg : ¬fault.isGeneration = true := by
    cases fault <;> simp_all [Fault.isDisk, Fault.isGeneration]
  exact (if_neg hg).trans (if_pos hd)

theorem ended_other (hg : fault.isGeneration = false) (hd : fault.isDisk = false) :
    ended here s c (.error fault) = .error fault :=
  (if_neg (by rw [hg]; exact nofun)).trans (if_neg (by rw [hd]; exact nofun))

/-- Where the place of the file can be told, only a fault that does not become a report is passed on. -/
theorem ended_error_iff {raised : Except Fault Report} {target : FilePath}
    (placed : placeOf here s c = .ok target) :
    ended here s c raised = .error fault ↔
      raised = .error fault ∧ fault.isGeneration = false ∧ fault.isDisk = false := by
  constructor
  · intro h
    cases raised with
    | ok report => exact absurd h nofun
    | error cause =>
    cases hg : cause.isGeneration with
    | true =>
      rw [ended_generation hg] at h
      exact absurd h nofun
    | false =>
    cases hd : cause.isDisk with
    | true =>
      rw [ended_disk hd, placed] at h
      exact absurd h nofun
    | false =>
    rw [ended_other hg hd] at h
    obtain rfl := Except.error.inj h
    exact ⟨rfl, hg, hd⟩
  · rintro ⟨rfl, hg, hd⟩
    exact ended_other hg hd

end

theorem reportUnwritten_apply (host : Host σ) (s : Settings) (c : Collection) (fault : Fault) (after : σ) :
    ∃ records, reportUnwritten host s c fault after =
      ((placeOf host.here s c).map fun target =>
          .failed ("Failed to write " ++ target.text ++ ": " ++ fault.message) fault,
        host.logged records after) := by
  unfold reportUnwritten placeOf
  cases Script.path s c with
  | error other => exact ⟨[], bind_of_error (ofExcept_apply _ _) _⟩
  | ok output =>
    rw [bind_of_ok (ofExcept_apply _ _)]
    show ∃ records, _ = ((absolutePath host.here (s .projectRoot) output).map _, host.logged records after)
    cases absolutePath host.here (s .projectRoot) output with
    | error other => exact ⟨[], bind_of_error (ofExcept_apply _ _) _⟩
    | ok target => exact ⟨[_], rfl⟩

/-- What a run does after its steps is to end, and to log. -/
theorem run_apply (host : Host σ) (r : Registry) (s : Settings) (c : Collection) (before : σ) :
    ∃ records, run host r s c before =
      (ended host.here s c (attempt host r s c before).1,
        host.logged records (attempt host r s c before).2) := by
  unfold run
  rcases h : attempt host r s c before with ⟨fault | report, after⟩
  · rw [handle_of_error h]
    unfold ended
    dsimp only
    split
    · exact ⟨[_], rfl⟩
    · split
      · exact reportUnwritten_apply host s c fault after
      · exact ⟨[], rfl⟩
  · exact ⟨[], handle_of_ok h _⟩

/-- The calls of a run. -/
def callsOf (host : Host σ) (r : Registry) (s : Settings) (c : Collection) (before : σ) : List Call :=
  (run host.traced r s c (before, [])).2.2

/-- No call is made after the first fault. -/
theorem callsOf_eq (host : Host σ) (r : Registry) (s : Settings) (c : Collection) (before : σ) :
    callsOf host r s c before = (attempt host.traced r s c (before, [])).2.2 := by
  obtain ⟨records, h⟩ := run_apply host.traced r s c (before, [])
  unfold callsOf
  rw [h]
  rcases (attempt host.traced r s c (before, [])).2 with ⟨after, calls⟩
  rw [Host.logged_traced]

/-- **A run takes one of the courses**, with the calls that are watched. -/
theorem attempt_course (host : Host σ) (r : Registry) (s : Settings) (c : Collection) (before : σ) :
    Course host r s c before (attempt host r s c before).1 (attempt host r s c before).2
      (callsOf host r s c before) := by
  obtain ⟨outcome, after, calls, h, course⟩ := attempt_traced host r s c before
  obtain ⟨more, follows⟩ := follows_attempt host r s c before []
  have same := h.symm.trans follows
  rw [callsOf_eq, h]
  obtain ⟨rfl, states⟩ := Prod.mk.inj same
  obtain ⟨rfl, -⟩ := Prod.mk.inj states
  exact course

/-! ## The order of effects -/

/-- The effects of a complete run, in order. -/
def Ready.effects (k : Ready host r s c before) : List Effect :=
  [.ensureDirectory k.output.parent, .openForWrite k.output, .close k.output k.script.text, .persist]

/-- What can be relied on about the calls of a run whose steps raise something and which ends with some
result. -/
structure EffectOrder (host : Host σ) (r : Registry) (s : Settings) (c : Collection) (before : σ)
    (calls : List Call) (raised result : Except Fault Report) : Prop where
  /-- no call is made before all checks have passed -/
  checked : calls ≠ [] → Nonempty (Ready host r s c before)
  /-- the effects come in order, each at most once -/
  ordered : ∀ k : Ready host r s c before, calls.map (·.effect) <+: k.effects
  /-- no call is made after one that failed -/
  halted : ∀ call ∈ calls.dropLast, call.outcome = .ok ()
  /-- with a strategy and a path, the fault of the guard is raised -/
  guarded : ∀ strategy output fault after, r.lookup (.style c.style) = .ok strategy →
    Script.path s c = .ok output → sharedUnit host c output before = (.error fault, after) →
    raised = .error fault
  /-- once the guard has passed, the fault of the check is raised -/
  distinct : ∀ strategy output unit fault after, r.lookup (.style c.style) = .ok strategy →
    Script.path s c = .ok output → sharedUnit host c output before = (.ok unit, after) →
    Strategy.checkIdentifiers c = .error fault → raised = .error fault
  /-- once the file is closed, the fault of an incomplete script is raised -/
  complete : ∀ (k : Ready host r s c before) fault, ⟨.close k.output k.script.text, .ok ()⟩ ∈ calls →
    k.script.outcome = .error fault → raised = .error fault
  /-- the fault of a call is the one that is raised -/
  passed : ∀ call ∈ calls, ∀ fault, call.outcome = .error fault → raised = .error fault
  /-- a file that was opened is closed -/
  closed : ∀ file, ⟨.openForWrite file, .ok ()⟩ ∈ calls → ∃ text outcome, ⟨.close file text, outcome⟩ ∈ calls
  /-- the refresh comes after the file was closed with the complete script -/
  refreshed : ∀ outcome, ⟨.persist, outcome⟩ ∈ calls → ∃ k : Ready host r s c before,
    k.script.outcome = .ok () ∧ ⟨.close k.output k.script.text, .ok ()⟩ ∈ calls
  /-- a script counts as written exactly if all four calls succeed -/
  written : (∃ path warnings metadata, result = .ok (.written path warnings metadata)) ↔
    calls.length = 4 ∧ ∀ call ∈ calls, call.outcome = .ok ()
  /-- a fault of the generation becomes a report -/
  generation : ∀ fault, raised = .error fault → fault.isGeneration = true →
    result = .ok (.failed ("Code generation failed: " ++ fault.message) fault)
  /-- a fault of the disk becomes a report if the place of the file can be told, and only then -/
  disk : ∀ fault, raised = .error fault → fault.isDisk = true →
    ∃ output, Script.path s c = .ok output ∧
      (∀ target, absolutePath host.here (s .projectRoot) output = .ok target →
        result = .ok (.failed ("Failed to write " ++ target.text ++ ": " ++ fault.message) fault)) ∧
      ∀ other, absolutePath host.here (s .projectRoot) output = .error other → result = .error other
  /-- all other faults are passed on -/
  other : ∀ fault, raised = .error fault → fault.isGeneration = false → fault.isDisk = false →
    result = .error fault

/-! ## From the course to the order -/

namespace Course

variable {raised : Except Fault Report} {after : σ} {calls : List Call}

theorem checked (h : Course host r s c before raised after calls) (some_ : calls ≠ []) :
    Nonempty (Ready host r s c before) := by
  cases h
  case unready | unguarded | unfit => exact absurd rfl some_
  all_goals exact ⟨by assumption⟩

theorem ordered (h : Course host r s c before raised after calls) (k : Ready host r s c before) :
    calls.map (·.effect) <+: k.effects := by
  cases h
  case unready | unguarded | unfit => exact List.nil_prefix
  all_goals
    rename Ready host r s c before => own
    rw [Subsingleton.elim k own]
    exact ⟨_, rfl⟩

theorem halted (h : Course host r s c before raised after calls) :
    ∀ call ∈ calls.dropLast, call.outcome = .ok () := by
  cases h <;> simp

theorem guarded (h : Course host r s c before raised after calls) {strategy : Strategy}
    {output : FilePath} {fault : Fault} {blamed : σ} (lookup : r.lookup (.style c.style) = .ok strategy)
    (path : Script.path s c = .ok output)
    (failed : sharedUnit host c output before = (.error fault, blamed)) : raised = .error fault := by
  cases h
  case unready early =>
    rcases early with h | h
    · exact absurd (lookup.symm.trans h) nofun
    · exact absurd (path.symm.trans h) nofun
  case unguarded own other =>
    obtain rfl := Except.ok.inj (own.symm.trans path)
    rw [Except.error.inj (Prod.mk.inj (other.symm.trans failed)).1]
  case unfit own _ other =>
    obtain rfl := Except.ok.inj (own.symm.trans path)
    exact absurd (other.symm.trans failed) nofun
  all_goals
    rename Ready host r s c before => k
    exact absurd failed (k.not_unguarded path)

theorem distinct (h : Course host r s c before raised after calls) {strategy : Strategy}
    {output : FilePath} {unit : Value} {fault : Fault} {passed : σ}
    (lookup : r.lookup (.style c.style) = .ok strategy) (path : Script.path s c = .ok output)
    (guarded : sharedUnit host c output before = (.ok unit, passed))
    (failed : Strategy.checkIdentifiers c = .error fault) : raised = .error fault := by
  cases h
  case unready early =>
    rcases early with h | h
    · exact absurd (lookup.symm.trans h) nofun
    · exact absurd (path.symm.trans h) nofun
  case unguarded own other =>
    obtain rfl := Except.ok.inj (own.symm.trans path)
    exact absurd (other.symm.trans guarded) nofun
  case unfit _ rejected _ =>
    rcases rejected with h | ⟨h, -⟩
    · rw [Except.error.inj (h.symm.trans failed)]
    · exact absurd (h.symm.trans failed) nofun
  all_goals
    rename Ready host r s c before => k
    exact absurd (k.distinct.symm.trans failed) nofun

theorem complete (h : Course host r s c before raised after calls) {k : Ready host r s c before}
    {fault : Fault} (closed : ⟨.close k.output k.script.text, .ok ()⟩ ∈ calls)
    (failed : k.script.outcome = .error fault) : raised = .error fault := by
  cases h
  case incomplete own w _ other =>
    rw [Subsingleton.elim k own, other] at failed
    rw [Except.error.inj failed]
  case unplaced | unrefreshed | finished =>
    rename Ready host r s c before => own
    rename own.script.outcome = .ok () => whole
    rw [Subsingleton.elim k own] at failed
    exact absurd (whole.symm.trans failed) nofun
  all_goals simp at closed

theorem passed (h : Course host r s c before raised after calls) :
    ∀ call ∈ calls, ∀ fault, call.outcome = .error fault → raised = .error fault := by
  cases h <;> simp

theorem closed (h : Course host r s c before raised after calls) {file : FilePath}
    (opened : ⟨.openForWrite file, .ok ()⟩ ∈ calls) :
    ∃ text outcome, ⟨.close file text, outcome⟩ ∈ calls := by
  cases h
  case unready | unguarded | unfit | noDirectory | unopened => simp at opened
  all_goals
    rename Ready host r s c before => k
    obtain rfl : file = k.output := by simpa using opened
    refine ⟨k.script.text, ?_⟩
    simp

theorem refreshed (h : Course host r s c before raised after calls) {outcome : Except Fault Unit}
    (persisted : ⟨.persist, outcome⟩ ∈ calls) :
    ∃ k : Ready host r s c before, k.script.outcome = .ok () ∧
      ⟨.close k.output k.script.text, .ok ()⟩ ∈ calls := by
  cases h
  case unrefreshed | finished =>
    rename Ready host r s c before => k
    rename k.script.outcome = .ok () => complete
    exact ⟨k, complete, by simp⟩
  all_goals simp at persisted

theorem written_iff (h : Course host r s c before raised after calls) :
    (∃ path warnings metadata, raised = .ok (.written path warnings metadata)) ↔
      calls.length = 4 ∧ ∀ call ∈ calls, call.outcome = .ok () := by
  cases h <;> simp

/-- Faults of the disk come up when there is a path already. -/
theorem exists_path (h : Course host r s c before raised after calls) {fault : Fault}
    (failed : raised = .error fault) (onDisk : fault.isDisk = true) :
    ∃ output, Script.path s c = .ok output := by
  cases h
  case unready early =>
    obtain rfl := Except.error.inj failed
    rcases early with h | h
    · exact absurd (onDisk.symm.trans (lookup_error h).2) nofun
    · rw [path_error h] at onDisk
      exact absurd onDisk nofun
  case unguarded | unfit => exact ⟨_, by assumption⟩
  all_goals
    rename Ready host r s c before => k
    exact ⟨k.output, k.path⟩

end Course

/-- Only a run that is finished ends with a report about a script that was written. -/
theorem ended_written_iff {here : Location} {raised : Except Fault Report} {path : FilePath}
    {warnings : List String} {metadata : Metadata} :
    ended here s c raised = .ok (.written path warnings metadata) ↔
      raised = .ok (.written path warnings metadata) := by
  cases raised with
  | ok report => exact Iff.rfl
  | error fault =>
    refine ⟨fun h => ?_, fun h => absurd h nofun⟩
    cases hg : fault.isGeneration with
    | true =>
      rw [ended_generation hg] at h
      exact absurd (Except.ok.inj h) nofun
    | false =>
      cases hd : fault.isDisk with
      | true =>
        rw [ended_disk hd] at h
        obtain ⟨target, -, h⟩ := map_eq_ok.mp h
        exact absurd h nofun
      | false =>
        rw [ended_other hg hd] at h
        exact absurd h nofun

/-- **The order of effects.** For any host, registry, settings and collection: the calls of a run come in
one order, stop at the first that fails, and settle how the run ends, as `EffectOrder` says. The end of
the run adds no call to those of its steps. -/
theorem effectOrder_run (host : Host σ) (r : Registry) (s : Settings) (c : Collection) (before : σ) :
    callsOf host r s c before = (attempt host.traced r s c (before, [])).2.2 ∧
      EffectOrder host r s c before (callsOf host r s c before) (attempt host r s c before).1
        (run host r s c before).1 := by
  have course := attempt_course host r s c before
  obtain ⟨records, h⟩ := run_apply host r s c before
  have result : (run host r s c before).1 = ended host.here s c (attempt host r s c before).1 := by
    rw [h]
  refine ⟨callsOf_eq host r s c before, ?_⟩
  rw [result]
  -- What the calls are is a matter of the course; how the run ends, of the fault that was raised.
  generalize (attempt host r s c before).1 = raised at course
  refine ⟨course.checked, course.ordered, course.halted, fun _ _ _ _ => course.guarded,
    fun _ _ _ _ _ => course.distinct, fun _ _ => course.complete, course.passed, fun _ => course.closed,
    fun _ => course.refreshed, ?_, ?_, ?_, ?_⟩
  · rw [← course.written_iff]
    simp only [ended_written_iff]
  · rintro fault rfl hg
    exact ended_generation hg
  · intro fault failed hd
    obtain ⟨output, path⟩ := course.exists_path failed hd
    have place : placeOf host.here s c = absolutePath host.here (s .projectRoot) output := by
      unfold placeOf
      rw [path]
      rfl
    rw [failed, ended_disk hd, place]
    refine ⟨output, path, fun target placed => ?_, fun other placed => ?_⟩
    · rw [placed]
      rfl
    · rw [placed]
      rfl
  · rintro fault rfl hg hd
    exact ended_other hg hd

/-! ## A fault that escapes -/

/-- Surroundings in which no directory can be made. -/
def refusing : Host Unit where
  here := []
  log := fun _ s => s
  resolve := fun _ => pure (.text "Assembly-CSharp")
  ensureDirectory := fun p => .ofExcept (.error (.disk ⟨.permission, some p.text⟩))
  openForWrite := fun _ => pure ()
  close := fun _ _ => pure ()
  persist := pure ()

/-- Settings whose project has a root that no path leads to. -/
def unplaceable : Settings where
  value
    | .projectRoot => .text "a\x00b"
    | .outputDirectory => .text "Assets/Generated"
    | setting => setting.default
  custom := .given (.object [])

/-- The directory is refused, and the run ends with a fault that has nothing to do with the disk. -/
theorem disk_fault_escapes :
    (attempt refusing .builtin unplaceable .fruits ()).1 =
        .error (.disk ⟨.permission, some "Assets/Generated"⟩) ∧
      (run refusing .builtin unplaceable .fruits ()).1 = .error .badValue := by
  have path : Script.path unplaceable .fruits = .ok ⟨.here, ["Assets", "Generated", "FruitsStatic.cs"]⟩ := by
    unfold Script.path Script.fileName
    rw [Collection.className_fruits]
    rfl
  have raised : attempt refusing .builtin unplaceable .fruits () =
      (.error (.disk ⟨.permission, some "Assets/Generated"⟩), ()) := by
    unfold attempt
    rw [show Collection.fruits.style = .direct from rfl, Registry.lookup_builtin, path,
      Collection.checkIdentifiers_fruits]
    rfl
  refine ⟨by rw [raised], ?_⟩
  obtain ⟨records, h⟩ := run_apply refusing .builtin unplaceable .fruits ()
  rw [h, raised]
  have onDisk : (Fault.disk ⟨.permission, some "Assets/Generated"⟩).isDisk = true := rfl
  dsimp only
  rw [ended_disk onDisk]
  unfold placeOf
  rw [path]
  rfl

end StaticAccessors.Generation
