import StaticAccessors.Proofs.Strategy.Warnings
import StaticAccessors.Proofs.Workspace.Atomicity

/-!
# Rendered scripts and written ones

A script can be rendered as a text, or written by a run. Both look up the strategy, check the identifiers
and print the lines, each for itself; a run asks for more, and calls its collaborators in between. Once the
checks of a run have passed, though, its script is the one that is rendered (`Ready.render_eq`), so what is
left is to see which course the run takes.

The text that is rendered is the one that is written, whatever the collaborators are, and it is what the
file holds if they write to a disk. In the other direction there is one gap. When all calls have succeeded
up to the closing of the file, a record tells the place of the file, and a root of the project that no path
leads to makes the run fail at that point. Where files are written under the root itself this cannot
happen, since no file can be opened there.

## Contents
- `Collection.Identified`, and `exists_collectionWarnings`.
- `Ready.render_eq`.
- `Host.StoresOn`: collaborators that write to a disk.
- `Agreement`, and `agreement`.
- `written_not_reported`: a run that fails although its file is complete.
-/

namespace StaticAccessors

open StaticAccessors.Action Outcome

/-! ## Warnings -/

/-- A collection whose names and identifiers are texts. -/
structure Collection.Identified (c : Collection) : Prop where
  name : c.name.isText = true
  guid : c.guid.isText = true
  items : ∀ item ∈ c.items, item.name.isText = true ∧ item.guid.isText = true

/-- A collection all of whose values are texts is one of these. -/
theorem Collection.WellTyped.identified {c : Collection} (h : c.WellTyped) : c.Identified :=
  ⟨h.name, h.guid, fun item listed => ⟨(h.items item listed).name, (h.items item listed).guid⟩⟩

namespace Strategy

/-- Warnings never stop the run of a collection whose names and identifiers are texts. -/
theorem exists_collectionWarnings {c : Collection} (h : c.Identified) :
    ∃ warnings, collectionWarnings c = .ok warnings := by
  obtain ⟨_, told, -⟩ := collectionWarnings_eq h.items
  exact ⟨_, told⟩

end Strategy

/-! ## Hosts with a disk -/

section

variable {σ : Type}

/-- A host that puts what it closes on the disk in its state, under some root. -/
structure Host.StoresOn (host : Host σ) (root : FilePath) (disk : σ → Disk) : Prop where
  /-- the log is kept elsewhere -/
  logged : ∀ record x, disk (host.log record x) = disk x
  closed : ∀ p text x after, host.close p text x = (.ok (), after) →
    (disk x).writeFile host.here (root.join p) text.toUTF8 = .ok (disk after)

/-- A refresh that does not touch a file. -/
def Host.Spares (host : Host σ) (disk : σ → Disk) (file : FilePath) : Prop :=
  ∀ x, (disk (host.persist x).2).readBytes host.here file = (disk x).readBytes host.here file

namespace Host.StoresOn

variable {host : Host σ} {root : FilePath} {disk : σ → Disk}

theorem disk_logged (h : host.StoresOn root disk) (records : List Record) (x : σ) :
    disk (host.logged records x) = disk x := by
  unfold Host.logged
  induction records generalizing x with
  | nil => rfl
  | cons record rest ih => exact (ih (host.log record x)).trans (h.logged record x)

end Host.StoresOn

/-- The collaborators that write to the local disk do so under the root of the project, whoever knows the
units and whatever the refresh is. -/
theorem Workspace.Collaborators.storesOn (units : UnitSource) (refresh : Option (Except Fault Unit))
    (here : Location) (root : FilePath) :
    ((⟨units, .disk, refresh⟩ : Collaborators).host here root).StoresOn root Workspace.disk := by
  have closed : ∀ (p : FilePath) (text : String) (w after : Workspace),
      onDisk (·.writeFile here (root.join p) text.toUTF8) w = (.ok (), after) →
        w.disk.writeFile here (root.join p) text.toUTF8 = .ok after.disk := by
    intro p text w after h
    unfold onDisk ofRun at h
    dsimp only at h
    cases stored : w.disk.writeFile here (root.join p) text.toUTF8 with
    | error fault =>
      rw [stored] at h
      exact absurd (Prod.mk.inj h).1 nofun
    | ok d =>
      rw [stored] at h
      rw [← (Prod.mk.inj h).2]
  cases units <;> cases refresh <;> exact ⟨fun _ _ => rfl, closed⟩

end

namespace Generation

variable {σ : Type} {host : Host σ} {r : Registry} {s : Settings} {c : Collection} {before : σ}

/-- **Once its checks have passed, a run writes what is rendered.** -/
theorem Ready.render_eq (k : Ready host r s c before) :
    (Script.render r s c).1 = k.script.outcome.map fun () => k.script.text :=
  Script.render_of_checked k.lookup k.distinct

/-! ## Agreement -/

/-- The calls that store a text. -/
def storingCalls (file : FilePath) (text : String) : List Call :=
  [⟨.ensureDirectory file.parent, .ok ()⟩, ⟨.openForWrite file, .ok ()⟩, ⟨.close file text, .ok ()⟩]

/-- No call of a run is refused. -/
def Accepted (host : Host σ) (r : Registry) (s : Settings) (c : Collection) (before : σ) : Prop :=
  ∀ call ∈ callsOf host r s c before, call.outcome = .ok ()

/-- A run ends with the report that a file was written. -/
def Writes (host : Host σ) (r : Registry) (s : Settings) (c : Collection) (before : σ) (file : FilePath) :
    Prop :=
  ∃ warnings metadata, (run host r s c before).1 = .ok (.written file warnings metadata)

/-- How a run and the rendering of the same script agree. -/
structure Agreement (host : Host σ) (r : Registry) (s : Settings) (c : Collection) (before : σ) : Prop where
  /-- what is written is what is rendered -/
  written : ∀ file, Writes host r s c before file → ∃ text, (Script.render r s c).1 = .ok text ∧
    callsOf host r s c before = storingCalls file text ++ [persistCall (.ok ())]
  /-- on a disk, the file then holds the text as it is -/
  held : ∀ root disk, host.StoresOn root disk → ∀ file, Writes host r s c before file →
    host.Spares disk (root.join file) → ∃ text, (Script.render r s c).1 = .ok text ∧
      (disk (run host r s c before).2).readBytes host.here (root.join file) = .ok text.toUTF8
  /-- what is rendered is written; the run ends well if the place of the file can be told, and otherwise
  ends there, without the refresh -/
  rendered : ∀ text output unit after, (Script.render r s c).1 = .ok text → Script.path s c = .ok output →
    sharedUnit host c output before = (.ok unit, after) → Accepted host r s c before →
    (∀ target, absolutePath host.here (s .projectRoot) output = .ok target →
        Writes host r s c before output ∧
          callsOf host r s c before = storingCalls output text ++ [persistCall (.ok ())]) ∧
      ∀ fault, absolutePath host.here (s .projectRoot) output = .error fault →
        (run host r s c before).1 = .error fault ∧ callsOf host r s c before = storingCalls output text
  /-- under the root of the project it always can -/
  placed : ∀ text output unit after root disk, (Script.render r s c).1 = .ok text →
    Script.path s c = .ok output → sharedUnit host c output before = (.ok unit, after) →
    Accepted host r s c before → host.StoresOn root disk → pathOf (s .projectRoot) = .ok root →
    Writes host r s c before output
  /-- identifiers that collide when the script is rendered are what the run reports, too -/
  collided : ∀ cause output unit after, (Script.render r s c).1 = .error (.collisions cause) →
    Script.path s c = .ok output → sharedUnit host c output before = (.ok unit, after) →
    r.lookup (.style c.style) = .ok (Strategy.builtIn c.style) ∨ Accepted host r s c before →
    (run host r s c before).1 =
      .ok (.failed ("Code generation failed: " ++ cause.message) (.collisions cause))

/-! ## From the course of a run -/

/-- A place that cannot be told is a value of an unfit kind, or none that a path can have. -/
theorem absolutePath_error {here : Location} {projectRoot : Value} {p : FilePath} {fault : Fault}
    (h : absolutePath here projectRoot p = .error fault) :
    fault.isGeneration = false ∧ fault.isDisk = false := by
  unfold absolutePath at h
  split at h
  · exact absurd h nofun
  · unfold pathOf at h
    split at h
    · rename_i other unfit
      split at unfit
      · exact absurd unfit nofun
      · obtain rfl := Except.error.inj unfit
        obtain rfl := Except.error.inj h
        exact ⟨rfl, rfl⟩
    · unfold resolvePath at h
      split at h
      · obtain rfl := Except.error.inj h
        exact ⟨rfl, rfl⟩
      · exact absurd h nofun

namespace Course

variable {raised : Except Fault Report} {after : σ} {calls : List Call}

/-- A run that has written its script was ready, and took the course to the end. -/
theorem exists_ready (h : Course host r s c before raised after calls) {file : FilePath}
    {warnings : List String} {metadata : Metadata} (written : raised = .ok (.written file warnings metadata)) :
    ∃ (k : Ready host r s c before) (w : Stored k) (target : FilePath), k.output = file ∧
      k.script.outcome = .ok () ∧ calls = k.storing ++ [persistCall (.ok ())] ∧
      after = (host.persist (host.log (writtenRecord c target) w.closed)).2 := by
  cases h
  case finished =>
    rename Ready host r s c before => k
    rename Stored k => w
    rename k.script.outcome = .ok () => complete
    rename host.persist _ = _ => refreshed
    obtain ⟨rfl, -, -⟩ := Report.written.inj (Except.ok.inj written)
    exact ⟨k, w, _, rfl, complete, rfl, by rw [refreshed]⟩
  all_goals exact absurd written nofun

/-- The course of a run that is ready and in which no call is refused: it ends where the script does, or
where the place of the file cannot be told, or not at all. -/
theorem of_accepted (h : Course host r s c before raised after calls) (k : Ready host r s c before)
    (accepted : ∀ call ∈ calls, call.outcome = .ok ()) :
    (∃ fault, k.script.outcome = .error fault ∧ raised = .error fault) ∨
      k.script.outcome = .ok () ∧ Nonempty (Stored k) ∧
        ((∃ fault, absolutePath host.here (s .projectRoot) k.output = .error fault ∧
            raised = .error fault ∧ calls = k.storing) ∨
          ∃ target warnings metadata, absolutePath host.here (s .projectRoot) k.output = .ok target ∧
            raised = .ok (.written k.output warnings metadata) ∧
            calls = k.storing ++ [persistCall (.ok ())]) := by
  have some_ := h.calls_ne_nil k
  cases h
  case unready | unguarded | unfit => exact absurd rfl some_
  all_goals
    rename Ready host r s c before => own
    obtain rfl := Subsingleton.elim k own
  case noDirectory | unopened | unclosed | unrefreshed => simp at accepted
  case incomplete failed => exact .inl ⟨_, failed, rfl⟩
  all_goals
    rename Stored k => w
    rename k.script.outcome = .ok () => complete
  case unplaced =>
    rename absolutePath _ _ k.output = .error _ => unplaced
    exact .inr ⟨complete, ⟨w⟩, .inl ⟨_, unplaced, rfl, rfl⟩⟩
  case finished =>
    rename absolutePath _ _ k.output = .ok _ => placed
    exact .inr ⟨complete, ⟨w⟩, .inr ⟨_, _, _, placed, rfl, rfl⟩⟩

end Course

/-- How a run ends depends on how its steps do. -/
theorem run_fst (host : Host σ) (r : Registry) (s : Settings) (c : Collection) (before : σ) :
    (run host r s c before).1 = ended host.here s c (attempt host r s c before).1 := by
  obtain ⟨records, h⟩ := run_apply host r s c before
  rw [h]

/-- A run that writes a file was ready. -/
theorem Writes.exists_ready {file : FilePath} (h : Writes host r s c before file) :
    ∃ (k : Ready host r s c before) (w : Stored k) (target : FilePath), k.output = file ∧
      k.script.outcome = .ok () ∧ callsOf host r s c before = k.storing ++ [persistCall (.ok ())] ∧
      (attempt host r s c before).2 = (host.persist (host.log (writtenRecord c target) w.closed)).2 := by
  obtain ⟨warnings, metadata, h⟩ := h
  rw [run_fst, ended_written_iff] at h
  exact (attempt_course host r s c before).exists_ready h

/-- What passes its checks is ready, if names and identifiers are texts. -/
theorem exists_ready (identified : c.Identified) {strategy : Strategy} {output : FilePath} {unit : Value}
    {after : σ} (lookup : r.lookup (.style c.style) = .ok strategy) (path : Script.path s c = .ok output)
    (guarded : sharedUnit host c output before = (.ok unit, after))
    (distinct : Strategy.checkIdentifiers c = .ok ()) :
    ∃ k : Ready host r s c before, k.output = output ∧ k.strategy = strategy := by
  obtain ⟨warnings, warned⟩ := Strategy.exists_collectionWarnings identified
  exact ⟨⟨strategy, output, unit, warnings, after, lookup, path, guarded, distinct, warned⟩, rfl, rfl⟩

/-- The run of a script that is rendered, if no call is refused. -/
theorem exists_stored_of_rendered (identified : c.Identified) {text : String} {output : FilePath}
    {unit : Value} {after : σ} (rendered : (Script.render r s c).1 = .ok text)
    (path : Script.path s c = .ok output) (guarded : sharedUnit host c output before = (.ok unit, after))
    (accepted : Accepted host r s c before) :
    ∃ (k : Ready host r s c before) (_ : Stored k), k.output = output ∧
      ((∃ fault, absolutePath host.here (s .projectRoot) output = .error fault ∧
          (run host r s c before).1 = .error fault ∧ callsOf host r s c before = storingCalls output text) ∨
        ∃ target, absolutePath host.here (s .projectRoot) output = .ok target ∧
          Writes host r s c before output ∧
          callsOf host r s c before = storingCalls output text ++ [persistCall (.ok ())]) := by
  obtain ⟨strategy, lookup, distinct⟩ := Script.exists_of_render rendered
  obtain ⟨k, rfl, -⟩ := exists_ready identified lookup path guarded distinct
  rw [k.render_eq] at rendered
  obtain ⟨_, complete, rfl⟩ := map_eq_ok.mp rendered
  rcases (attempt_course host r s c before).of_accepted k accepted with
    ⟨fault, incomplete, -⟩ | ⟨-, ⟨w⟩, end_⟩
  · exact absurd (complete.symm.trans incomplete) nofun
  refine ⟨k, w, rfl, ?_⟩
  rcases end_ with ⟨fault, unplaced, raised, calls⟩ | ⟨target, warnings, metadata, placed, raised, calls⟩
  · have ⟨hg, hd⟩ := absolutePath_error unplaced
    refine .inl ⟨fault, unplaced, ?_, calls⟩
    rw [run_fst, raised]
    exact ended_other hg hd
  · refine .inr ⟨target, placed, ⟨warnings, metadata, ?_⟩, calls⟩
    rw [run_fst, raised]
    rfl

/-- A file that was stored under a root has a place there. -/
theorem Stored.exists_absolutePath {k : Ready host r s c before} (w : Stored k) {root : FilePath}
    {disk : σ → Disk} (storesOn : host.StoresOn root disk) (rooted : pathOf (s .projectRoot) = .ok root) :
    ∃ target, absolutePath host.here (s .projectRoot) k.output = .ok target := by
  obtain ⟨place, free, -⟩ := map_eq_ok.mp (storesOn.closed _ _ _ _ w.close)
  have plain := (Disk.fileToWrite_eq_ok_iff.mp free).1
  exact @Workspace.exists_absolutePath host.here _ _ _ rooted plain

/-- Identifiers that collide when a script is rendered stop its run. The check of a run finds the same
ones; a strategy of its own may find others while it writes, and no call may stop the run before that. -/
theorem attempt_collided (identified : c.Identified) {cause : Collisions} {output : FilePath} {unit : Value}
    {after : σ} (rendered : (Script.render r s c).1 = .error (.collisions cause))
    (path : Script.path s c = .ok output) (guarded : sharedUnit host c output before = (.ok unit, after))
    (own : r.lookup (.style c.style) = .ok (Strategy.builtIn c.style) ∨ Accepted host r s c before) :
    (attempt host r s c before).1 = .error (.collisions cause) := by
  have course := attempt_course host r s c before
  cases lookup : r.lookup (.style c.style) with
  | error fault =>
    rw [Script.render_of_unknown lookup] at rendered
    obtain rfl := Except.error.inj rendered
    exact absurd (lookup_error lookup).1 nofun
  | ok strategy =>
  cases distinct : Strategy.checkIdentifiers c with
  | error fault =>
    rw [Script.render_of_unchecked lookup distinct] at rendered
    obtain rfl := Except.error.inj rendered
    exact course.distinct lookup path guarded distinct
  | ok _ =>
  -- If the check passes, it is the strategy that finds identifiers to collide; built-in ones do not.
  obtain ⟨k, -, rfl⟩ := exists_ready identified lookup path guarded distinct
  rw [k.render_eq] at rendered
  have incomplete : k.script.outcome = .error (.collisions cause) := map_eq_error.mp rendered
  rcases own with builtIn | accepted
  · have same := Except.ok.inj (lookup.symm.trans builtIn)
    unfold Ready.script at incomplete
    rw [same] at incomplete
    exact absurd (Script.print_refused incomplete) nofun
  · rcases course.of_accepted k accepted with ⟨fault, other, raised⟩ | ⟨complete, -⟩
    · obtain rfl := Except.error.inj (incomplete.symm.trans other)
      exact raised
    · exact absurd (complete.symm.trans incomplete) nofun

/-- **Rendered scripts and written ones agree**, for any host, registry and settings, and for every
collection whose names and identifiers are texts. -/
theorem agreement (identified : c.Identified) : Agreement host r s c before := by
  refine ⟨?written, ?held, ?rendered, ?placed, ?collided⟩
  case written =>
    intro file writes
    obtain ⟨k, w, target, rfl, complete, calls, -⟩ := writes.exists_ready
    refine ⟨k.script.text, ?_, calls⟩
    rw [k.render_eq, complete]
    rfl
  case held =>
    intro root disk storesOn file writes spares
    obtain ⟨k, w, target, rfl, complete, -, last⟩ := writes.exists_ready
    refine ⟨k.script.text, ?_, ?_⟩
    · rw [k.render_eq, complete]
      rfl
    · have content : (disk w.closed).readBytes host.here (root.join k.output) = .ok k.script.text.toUTF8 :=
        Disk.readBytes_writeFile (storesOn.closed _ _ _ _ w.close)
      -- Nothing after the closing of the file touches it.
      obtain ⟨records, h⟩ := run_apply host r s c before
      rw [h, storesOn.disk_logged, last, spares, storesOn.logged, content]
  case rendered =>
    intro text output unit after rendered path guarded accepted
    obtain ⟨k, w, rfl, end_⟩ := exists_stored_of_rendered identified rendered path guarded accepted
    refine ⟨fun target placed => ?_, fun fault unplaced => ?_⟩
    · rcases end_ with ⟨fault, unplaced, -⟩ | ⟨-, -, writes⟩
      · exact absurd (placed.symm.trans unplaced) nofun
      · exact writes
    · rcases end_ with ⟨other, unplaced', raised⟩ | ⟨target, placed, -⟩
      · obtain rfl := Except.error.inj (unplaced.symm.trans unplaced')
        exact raised
      · exact absurd (placed.symm.trans unplaced) nofun
  case placed =>
    intro text output unit after root disk rendered path guarded accepted storesOn rooted
    obtain ⟨k, w, rfl, end_⟩ := exists_stored_of_rendered identified rendered path guarded accepted
    rcases end_ with ⟨fault, unplaced, -⟩ | ⟨-, -, writes, -⟩
    · obtain ⟨target, placed⟩ := w.exists_absolutePath storesOn rooted
      exact absurd (placed.symm.trans unplaced) nofun
    · exact writes
  case collided =>
    intro cause output unit after rendered path guarded own
    have raised := attempt_collided identified rendered path guarded own
    rw [run_fst, raised]
    exact ended_generation rfl

/-! ## The small collection -/

/-- Where it is written when nothing is set. -/
def fruitsFile : FilePath := .ofText "Assets/Generated/Scripts/FruitsStatic.cs"

theorem path_defaults : Script.path .defaults .fruits = .ok fruitsFile := by
  unfold Script.path Script.fileName
  rw [Collection.className_fruits]
  rfl

/-- With settings that suit it, it is written to any disk that takes its file. -/
theorem writes_fruits {s : Settings} {root file : FilePath} {w : Workspace} (typed : s.WellTyped)
    (size : s .indentSize = .int 4) (rooted : pathOf (s .projectRoot) = .ok root)
    (path : Script.path s .fruits = .ok file)
    (takes : w.disk.Takes [] (root.join file.parent) (root.join file)) :
    Writes (Workspace.fixedHost [] Workspace.oneUnit root) .builtin s .fruits w file := by
  obtain ⟨unit, after, guarded⟩ := @Workspace.exists_sharedUnit_oneUnit [] root .fruits _ rfl file w
  obtain ⟨k, rfl, strategy⟩ := exists_ready Collection.fruits_wellTyped.identified
    (Registry.lookup_builtin _) path guarded Collection.checkIdentifiers_fruits
  have complete : k.script.outcome = .ok () := by
    unfold Ready.script
    rw [strategy]
    exact (Script.print_eq_ok_iff k.distinct).mpr
      (Script.writable_of_indentSize Collection.fruits_wellTyped typed size)
  have ending := (Workspace.disk_of_ready (attempt_course _ _ _ _ _) rooted k takes).2
  rw [complete] at ending
  obtain ⟨file, warnings, metadata, written⟩ := ending
  have writes : Writes (Workspace.fixedHost [] Workspace.oneUnit root) .builtin s .fruits w file :=
    ⟨warnings, metadata, by rw [run_fst, written]; rfl⟩
  obtain ⟨own, -, -, same, -⟩ := writes.exists_ready
  obtain rfl := Subsingleton.elim k own
  rwa [← same] at writes

/-- On an empty disk there is room for it. -/
theorem takes_fruits : (Workspace.ofDisk .empty).disk.Takes [] ((FilePath.ofText ".").join fruitsFile.parent)
    ((FilePath.ofText ".").join fruitsFile) :=
  ⟨_, _, rfl, rfl⟩

/-- On an empty disk it is written, and the file holds what is rendered. -/
theorem agreement_fruits :
    Collection.fruits.Identified ∧ ∃ text, (Script.render .builtin .defaults .fruits).1 = .ok text ∧
      (run (Workspace.fixedHost [] Workspace.oneUnit (.ofText ".")) .builtin .defaults .fruits
        (Workspace.ofDisk .empty)).2.disk.readBytes [] fruitsFile = .ok text.toUTF8 := by
  have identified := Collection.fruits_wellTyped.identified
  refine ⟨identified, ?_⟩
  have writes := writes_fruits Settings.defaults_wellTyped rfl rfl path_defaults takes_fruits
  have stores := Workspace.Collaborators.storesOn (.fixed Workspace.oneUnit) none [] (.ofText ".")
  obtain ⟨text, rendered, held⟩ := (agreement identified).held _ _ stores _ writes fun _ => rfl
  exact ⟨text, rendered, held⟩

/-- Surroundings that refuse nothing. -/
def accepting : Host Unit where
  here := []
  log := fun _ s => s
  resolve := fun _ => pure (.text defaultUnit)
  ensureDirectory := fun _ => pure ()
  openForWrite := fun _ => pure ()
  close := fun _ _ => pure ()
  persist := pure ()

theorem accepted_accepting : Accepted accepting r s c () := by
  have course := attempt_course accepting r s c ()
  unfold Accepted
  generalize callsOf accepting r s c () = calls at course ⊢
  generalize (attempt accepting r s c ()).1 = raised at course
  cases course
  case noDirectory failed => exact absurd failed nofun
  case unopened failed => exact absurd failed nofun
  case unclosed failed => exact absurd failed nofun
  case unrefreshed failed => exact absurd failed nofun
  all_goals simp

/-- **A run that fails although its file is complete**: what is rendered is written, no call is refused,
and still the run ends with a fault, because the place of the file cannot be told. -/
theorem written_not_reported :
    ∃ text output, (Script.render .builtin unplaceable .fruits).1 = .ok text ∧
      Script.path unplaceable .fruits = .ok output ∧
      sharedUnit accepting .fruits output () = (.ok (.text defaultUnit), ()) ∧
      Accepted accepting .builtin unplaceable .fruits () ∧
      callsOf accepting .builtin unplaceable .fruits () = storingCalls output text ∧
      (run accepting .builtin unplaceable .fruits ()).1 = .error .badValue := by
  have path : Script.path unplaceable .fruits = .ok (.ofText "Assets/Generated/FruitsStatic.cs") := by
    unfold Script.path Script.fileName
    rw [Collection.className_fruits]
    rfl
  have typed : unplaceable.WellTyped := by
    intro setting
    cases setting <;> rfl
  have complete : (Script.print (Strategy.builtIn .direct) unplaceable .fruits).outcome = .ok () :=
    (Script.print_eq_ok_iff Collection.checkIdentifiers_fruits).mpr
      (Script.writable_of_indentSize Collection.fruits_wellTyped typed rfl)
  have rendered : (Script.render .builtin unplaceable .fruits).1 =
      .ok (Script.print (Strategy.builtIn .direct) unplaceable .fruits).text := by
    rw [Script.render_of_checked (Registry.lookup_builtin .direct) Collection.checkIdentifiers_fruits, complete]
    rfl
  have guarded : sharedUnit accepting .fruits (.ofText "Assets/Generated/FruitsStatic.cs") () =
      (.ok (.text defaultUnit), ()) := rfl
  have identified := Collection.fruits_wellTyped.identified
  obtain ⟨-, -, -, end_⟩ := exists_stored_of_rendered identified rendered path guarded accepted_accepting
  have nowhere : absolutePath accepting.here (unplaceable .projectRoot)
      (.ofText "Assets/Generated/FruitsStatic.cs") = .error .badValue := rfl
  rcases end_ with ⟨fault, unplaced, raised, calls⟩ | ⟨target, placed, -⟩
  · obtain rfl := Except.error.inj (nowhere.symm.trans unplaced)
    exact ⟨_, _, rendered, path, guarded, accepted_accepting, calls, raised⟩
  · exact absurd (nowhere.symm.trans placed) nofun

end Generation

end StaticAccessors
