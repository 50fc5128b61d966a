import StaticAccessors.Proofs.Disk.Storing
import StaticAccessors.Proofs.Generation.Course
import StaticAccessors.Workspace

/-!
# Runs on the local disk

A run on the local disk without a refresh has only that disk to change. This file says what each of its
steps does to it (`Host.Local`). The guard and the records leave it alone, and the three steps that store
the script do to it what `Disk.store` does; so with given units a run that has passed its checks, on a disk
that takes the file, always comes to close it.

## Contents
- `Action.KeepsDisk` and `Action.Changes`: what a step does to the disk.
- `Host.Local`, and `Host.Local.disk_of_sharedUnit`.
- `Ready.exists_stored`, `Stored.store`: the file is closed, and what that does to the disk.
- `Collaborators.isLocal`, whoever knows the units.
- `fixedHost`, `generate_fixed`: given units, the local disk and no refresh.
- `disk_of_no_calls`, `disk_of_ready`: the two ways in which such a run can go.
-/

namespace StaticAccessors

open StaticAccessors.Action

/-! ## Steps that leave the disk alone -/

/-- A step that leaves the disk alone. -/
def Action.KeepsDisk {α : Type} (x : Action Workspace α) : Prop := ∀ w, (x w).2.disk = w.disk

namespace Action.KeepsDisk

variable {α β : Type} {x : Action Workspace α}

theorem apply (h : KeepsDisk x) {w after : Workspace} {outcome : Except Fault α}
    (applied : x w = (outcome, after)) : after.disk = w.disk := by
  rw [← h w, applied]

theorem ofExcept (outcome : Except Fault α) : KeepsDisk (.ofExcept outcome) := fun _ => rfl

theorem bind {next : α → Action Workspace β} (hx : KeepsDisk x) (hn : ∀ a, KeepsDisk (next a)) :
    KeepsDisk (x >>= next) := by
  intro w
  rw [bind_apply]
  have kept := hx w
  rcases h : x w with ⟨fault | a, after⟩
  · rw [h] at kept
    exact kept
  · rw [h] at kept
    exact (hn a after).trans kept

end Action.KeepsDisk

/-! ## Steps that change the disk -/

/-- Tries a change that is not made at all when it fails. -/
def Disk.attempt (d : Disk) (change : Disk → Except Fault Disk) : Except Fault Unit × Disk :=
  match change d with
  | .ok after => (.ok (), after)
  | .error fault => (.error fault, d)

namespace Disk

variable {d after : Disk} {change : Disk → Except Fault Disk}

theorem attempt_eq_ok (h : d.attempt change = (.ok (), after)) : change d = .ok after := by
  unfold attempt at h
  split at h
  · rename_i made changed
    rw [changed, (Prod.mk.inj h).2]
  · exact absurd (Prod.mk.inj h).1 nofun

theorem attempt_of_ok (h : change d = .ok after) : d.attempt change = (.ok (), after) := by
  unfold attempt
  rw [h]

theorem attempt_eq_error {fault : Fault} (h : d.attempt change = (.error fault, after)) :
    change d = .error fault ∧ after = d := by
  unfold attempt at h
  split at h
  · exact absurd (Prod.mk.inj h).1 nofun
  · rename_i other failed
    obtain ⟨same, rfl⟩ := Prod.mk.inj h
    obtain rfl := Except.error.inj same
    exact ⟨failed, rfl⟩

end Disk

/-- A step that does to the disk what a change does, and ends as it does. -/
def Action.Changes (x : Action Workspace Unit) (change : Disk → Except Fault Unit × Disk) : Prop :=
  ∀ w, change w.disk = ((x w).1, (x w).2.disk)

theorem Action.Changes.apply {x : Action Workspace Unit} {change : Disk → Except Fault Unit × Disk}
    (h : Changes x change) {w after : Workspace} {outcome : Except Fault Unit}
    (applied : x w = (outcome, after)) :
    change w.disk = (outcome, after.disk) := by
  rw [h w, applied]

/-- Where the change succeeds, the step does. -/
theorem Action.Changes.exists_of_ok {x : Action Workspace Unit} {change : Disk → Except Fault Unit × Disk}
    (h : Changes x change) {w : Workspace} {d : Disk} (changed : change w.disk = (.ok (), d)) :
    ∃ after, x w = (.ok (), after) ∧ after.disk = d := by
  obtain ⟨ends, rfl⟩ := Prod.mk.inj (changed.symm.trans (h w))
  exact ⟨_, Prod.ext ends.symm rfl, rfl⟩

/-! ## Local hosts -/

/-- A host whose files are on the local disk, under some root, and whose other steps leave it alone. -/
structure Host.Local (host : Host Workspace) (root : FilePath) : Prop where
  logged : ∀ record w, (host.log record w).disk = w.disk
  resolved : ∀ p, KeepsDisk (host.resolve p)
  ensured : ∀ p, Changes (host.ensureDirectory p) (·.makeDirectories host.here (root.join p))
  opened : ∀ p, Changes (host.openForWrite p) (·.attempt (·.openForWrite host.here (root.join p)))
  closed : ∀ p text,
    Changes (host.close p text) (·.attempt (·.writeFile host.here (root.join p) text.toUTF8))
  persisted : KeepsDisk host.persist

namespace Host.Local

variable {host : Host Workspace} {root : FilePath}

theorem disk_logged (h : host.Local root) (records : List Record) (w : Workspace) :
    (host.logged records w).disk = w.disk := by
  unfold Host.logged
  induction records generalizing w with
  | nil => rfl
  | cons record rest ih => exact (ih (host.log record w)).trans (h.logged record w)

/-- The guard looks up units, and logs. -/
theorem keepsDisk_sharedUnit (h : host.Local root) (c : Collection) (output : FilePath) :
    KeepsDisk (sharedUnit host c output) := by
  have noted (level : Level) (text : String) : KeepsDisk (host.note level text) := fun w => h.logged _ w
  unfold sharedUnit
  refine .bind (h.resolved _) fun outputUnit => .bind (.ofExcept _) fun source => ?_
  refine .bind (h.resolved _) fun collectionUnit => ?_
  split
  · exact .bind (noted _ _) fun _ _ => rfl
  · exact .bind (noted _ _) fun _ _ => rfl

theorem disk_of_sharedUnit (h : host.Local root) {c : Collection} {output : FilePath}
    {outcome : Except Fault Value} {w after : Workspace}
    (guarded : sharedUnit host c output w = (outcome, after)) : after.disk = w.disk :=
  (h.keepsDisk_sharedUnit c output).apply guarded

end Host.Local

namespace Generation

variable {host : Host Workspace} {root : FilePath} {r : Registry} {s : Settings} {c : Collection} {w : Workspace}

/-- The checks of a run leave the disk alone. -/
theorem Ready.disk_noted (isLocal : host.Local root) (k : Ready host r s c w) : k.noted.disk = w.disk :=
  (isLocal.disk_logged _ k.after).trans (isLocal.disk_of_sharedUnit k.guarded)

/-- A file that was closed is stored. -/
theorem Stored.store (isLocal : host.Local root) {k : Ready host r s c w} (v : Stored k) :
    w.disk.store host.here (root.join k.output.parent) (root.join k.output) k.script.text.toUTF8 =
      .ok v.closed.disk := by
  have directory := (isLocal.ensured _).apply v.directory
  have file := Disk.attempt_eq_ok ((isLocal.opened _).apply v.file)
  have close := Disk.attempt_eq_ok ((isLocal.closed _ _).apply v.close)
  rw [k.disk_noted isLocal] at directory
  rw [isLocal.disk_logged, Disk.writeFile_of_openForWrite file] at close
  unfold Disk.store
  rw [directory]
  exact close

/-- **A run that has passed its checks**, on a disk that takes the file, comes to close it. -/
theorem Ready.exists_stored (isLocal : host.Local root) (k : Ready host r s c w)
    (takes : w.disk.Takes host.here (root.join k.output.parent) (root.join k.output)) :
    Nonempty (Stored k) := by
  obtain ⟨_, opens, directories, open_⟩ := takes
  rw [← k.disk_noted isLocal] at directories
  obtain ⟨made, directory, rfl⟩ := (isLocal.ensured _).exists_of_ok directories
  obtain ⟨opened, file, rfl⟩ := (isLocal.opened _).exists_of_ok (Disk.attempt_of_ok open_)
  obtain ⟨last, written⟩ := Disk.exists_writeFile_of_openForWrite open_ k.script.text.toUTF8
  rw [← isLocal.disk_logged k.script.records opened] at written
  obtain ⟨closed, close, -⟩ := (isLocal.closed _ _).exists_of_ok (Disk.attempt_of_ok written)
  exact ⟨⟨made, opened, closed, directory, file, close⟩⟩

end Generation

namespace Workspace

variable {here : Location} {units : PrefixUnits} {root p : FilePath} {w : Workspace}

/-- Surroundings that hold a disk hold that disk. -/
@[simp] theorem disk_ofDisk (d : Disk) : (ofDisk d).disk = d := rfl

/-- Making sure that there is a directory does to the disk what making directories does. -/
theorem changes_ensureDirectory (here : Location) (p : FilePath) :
    Changes (ensureDirectory here p) (·.makeDirectories here p) := by
  intro w
  unfold ensureDirectory ofRun
  dsimp only
  cases known : w.disk.isDirectory here p with
  | error fault => exact Disk.makeDirectories_of_isDirectory_error known
  | ok there =>
    -- That a directory is made is logged, and nothing else depends on whether it was there.
    cases there with
    | true => rfl
    | false => rfl

theorem changes_onDisk (change : Disk → Except Fault Disk) : Changes (onDisk change) (·.attempt change) := by
  intro w
  unfold onDisk ofRun Disk.attempt
  dsimp only
  cases change w.disk <;> rfl

theorem onDisk_of_ok (step : Disk → Except Fault Disk) {d : Disk} (h : step w.disk = .ok d) :
    onDisk step w = (.ok (), { w with disk := d }) := by
  unfold onDisk ofRun
  dsimp only
  rw [h]

/-- A look-up by definition files keeps what it found out, and logs. -/
theorem keepsDisk_resolveUnit {memory : Workspace → Option UnitMemory}
    {keep : UnitMemory → Workspace → Workspace} (kept : ∀ m w, (keep m w).disk = w.disk) (p : FilePath) :
    KeepsDisk (resolveUnit here memory keep p) := by
  intro w
  unfold resolveUnit ofRun
  dsimp only
  cases memory w with
  | none => rfl
  | some m => exact kept _ w

/-- **The collaborators that write to the local disk** make a local host, whoever knows the units. -/
theorem Collaborators.isLocal (units : UnitSource) (here : Location) (root : FilePath) :
    ((⟨units, .disk, none⟩ : Collaborators).host here root).Local root := by
  have ensured (p : FilePath) := changes_ensureDirectory here (root.join p)
  have opened (p : FilePath) := changes_onDisk (·.openForWrite here (root.join p))
  have closed (p : FilePath) (text : String) := changes_onDisk (·.writeFile here (root.join p) text.toUTF8)
  cases units with
  | definitions =>
    exact ⟨fun _ _ => rfl, keepsDisk_resolveUnit fun _ _ => rfl, ensured, opened, closed, fun _ => rfl⟩
  | remembered =>
    exact ⟨fun _ _ => rfl, keepsDisk_resolveUnit fun _ _ => rfl, ensured, opened, closed, fun _ => rfl⟩
  | fixed units => exact ⟨fun _ _ => rfl, fun _ _ => rfl, ensured, opened, closed, fun _ => rfl⟩

/-! ## Given units -/

/-- Given units, the local disk and no refresh. -/
def Collaborators.fixed (units : PrefixUnits) : Collaborators := ⟨.fixed units, .disk, none⟩

/-- The host that they make. -/
def fixedHost (here : Location) (units : PrefixUnits) (root : FilePath) : Host Workspace :=
  (Collaborators.fixed units).host here root

theorem fixedHost_isLocal : (fixedHost here units root).Local root :=
  Collaborators.isLocal (.fixed units) here root

/-- With given units a run in a workspace needs nothing but the root of the project to begin. -/
theorem generate_fixed {r : Registry} {s : Settings} (c : Collection) (rooted : pathOf (s .projectRoot) = .ok root) :
    generate here r (.fixed units) s c w = Generation.run (fixedHost here units root) r s c w := by
  unfold generate
  rw [bind_of_ok (show prepareUnits here s (Collaborators.fixed units).units w = (.ok (), w) from rfl)]
  exact bind_of_ok (show Action.ofExcept (rootFor s .disk) w = (.ok root, w) from rooted ▸ rfl) _

/-! ## Runs -/

open Generation

variable {s : Settings} {c : Collection}

/-- The place of a file that can be named in full can be told. -/
theorem exists_absolutePath {projectRoot : Value} (rooted : pathOf projectRoot = .ok root)
    (plain : (root.join p).hasNul = false) : ∃ target, absolutePath here projectRoot p = .ok target := by
  unfold absolutePath
  by_cases absolute : p.isAbsolute = true
  · rw [if_pos absolute]
    exact ⟨p, rfl⟩
  · rw [if_neg absolute, rooted]
    dsimp only
    unfold resolvePath
    rw [plain]
    exact ⟨_, rfl⟩

section

variable {raised : Except Fault Report} {after : Workspace} {calls : List Call}

/-- **A run without calls** fails and leaves the disk as it was. -/
theorem disk_of_no_calls (h : Course (fixedHost here units root) .builtin s c w raised after calls)
    (none : calls = []) :
    ¬Nonempty (Ready (fixedHost here units root) .builtin s c w) ∧ (∃ fault, raised = .error fault) ∧
      after.disk = w.disk := by
  refine ⟨fun ⟨k⟩ => h.calls_ne_nil k none, ?_⟩
  cases h
  case unready => exact ⟨⟨_, rfl⟩, rfl⟩
  case unguarded guarded => exact ⟨⟨_, rfl⟩, fixedHost_isLocal.disk_of_sharedUnit guarded⟩
  case unfit =>
    rename sharedUnit _ c _ w = (.ok _, after) => guarded
    exact ⟨⟨_, rfl⟩, fixedHost_isLocal.disk_of_sharedUnit guarded⟩
  all_goals exact absurd none (List.cons_ne_nil _ _)

/-- **A run that has passed its checks**, on a disk that takes the file, stores the script as far as it
goes, and ends as the script does. -/
theorem disk_of_ready (h : Course (fixedHost here units root) .builtin s c w raised after calls)
    (rooted : pathOf (s .projectRoot) = .ok root)
    (k : Ready (fixedHost here units root) .builtin s c w)
    (takes : w.disk.Takes here (root.join k.output.parent) (root.join k.output)) :
    w.disk.store here (root.join k.output.parent) (root.join k.output) k.script.text.toUTF8 =
        .ok after.disk ∧
      match k.script.outcome with
      | .ok () => ∃ path warnings metadata, raised = .ok (.written path warnings metadata)
      | .error fault => raised = .error fault := by
  obtain ⟨v⟩ := k.exists_stored fixedHost_isLocal takes
  have stores := v.store fixedHost_isLocal
  -- On a disk that takes the file, all three calls succeed.
  have stored := h.storing_prefix v
  cases h
  case unready | unguarded | unfit | noDirectory | unopened | unclosed => simp at stored
  all_goals
    rename Ready (fixedHost here units root) .builtin s c w => own
    obtain rfl := Subsingleton.elim k own
    rename Stored k => own
    obtain rfl := Subsingleton.elim v own
  -- The file is closed; what is left is the end of the run.
  case incomplete incomplete =>
    rw [incomplete]
    exact ⟨stores, rfl⟩
  case unplaced =>
    rename absolutePath _ (s .projectRoot) k.output = .error _ => unplaced
    obtain ⟨target, placed⟩ := @exists_absolutePath here _ _ _ rooted takes.hasNul
    exact absurd (unplaced.symm.trans placed) nofun
  case unrefreshed failed => exact absurd failed nofun
  case finished =>
    rename k.script.outcome = .ok () => complete
    rename (fixedHost here units root).persist _ = _ => refreshed
    rw [complete]
    obtain ⟨-, rfl⟩ := Prod.mk.inj refreshed
    exact ⟨stores, _, _, _, rfl⟩

end

end Workspace

end StaticAccessors
