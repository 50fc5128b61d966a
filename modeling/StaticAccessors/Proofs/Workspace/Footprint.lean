import StaticAccessors.Proofs.Disk.Laid
import StaticAccessors.Proofs.Generation.Effects
import StaticAccessors.Proofs.Workspace.LocalDisk

/-!
# What a run leaves on the disk

However a run on the local disk ends, there are three things that it can have done to the disk: nothing,
as long as its checks have not passed; making the directories above its file, as far as this is possible;
or storing the text of its script in the file. `Footprint` lists them. None of them touches a place
off the way of the directory but that of the file (`Footprint.confined`).

## Contents
- `Footprint`, and `Course.footprint`, `footprint_run`.
- `generate_cases`, `footprint_generate`: runs in a workspace.
- `Footprint.confined`.
-/

namespace StaticAccessors

open Outcome

namespace Generation

variable {host : Host Workspace} {r : Registry} {s : Settings} {c : Collection} {root : FilePath}
  {w after : Workspace}

/-- What a run can leave on the disk. -/
inductive Footprint (host : Host Workspace) (root : FilePath) (r : Registry) (s : Settings) (c : Collection)
    (w : Workspace) : Disk → Prop
  | untouched : Footprint host root r s c w w.disk
  /-- The file could not be opened, or not even its directory be made. -/
  | directories (k : Ready host r s c w) :
      Footprint host root r s c w (w.disk.makeDirectories host.here (root.join k.output.parent)).2
  | stored (k : Ready host r s c w) {d : Disk} :
      w.disk.store host.here (root.join k.output.parent) (root.join k.output) k.script.text.toUTF8 = .ok d →
      Footprint host root r s c w d

/-- **Whatever course a run takes, it leaves one of these on the disk.** -/
theorem Course.footprint (isLocal : host.Local root) {raised : Except Fault Report} {calls : List Call}
    (h : Course host r s c w raised after calls) : Footprint host root r s c w after.disk := by
  cases h
  case unready => exact .untouched
  case unguarded guarded =>
    rw [isLocal.disk_of_sharedUnit guarded]
    exact .untouched
  case unfit =>
    rename sharedUnit host c _ w = _ => guarded
    rw [isLocal.disk_of_sharedUnit guarded]
    exact .untouched
  case noDirectory k _ failed =>
    -- What was made before the refusal stays.
    have made := (isLocal.ensured _).apply failed
    rw [k.disk_noted isLocal] at made
    rw [← show _ = after.disk from congrArg (·.2) made]
    exact .directories k
  case unopened k made _ directory failed =>
    have directories := (isLocal.ensured _).apply directory
    obtain ⟨-, same⟩ := Disk.attempt_eq_error ((isLocal.opened _).apply failed)
    rw [k.disk_noted isLocal] at directories
    rw [same, ← show _ = made.disk from congrArg (·.2) directories]
    exact .directories k
  case unclosed k _ opened _ _ file failed =>
    -- What was opened can be closed.
    have file := Disk.attempt_eq_ok ((isLocal.opened _).apply file)
    obtain ⟨failed, -⟩ := Disk.attempt_eq_error ((isLocal.closed _ _).apply failed)
    obtain ⟨closed, written⟩ := Disk.exists_writeFile_of_openForWrite file k.script.text.toUTF8
    rw [isLocal.disk_logged] at failed
    exact absurd (failed.symm.trans written) nofun
  all_goals
    rename Ready host r s c w => k
    rename Stored k => v
  case incomplete | unplaced => exact .stored k (v.store isLocal)
  all_goals
    rename host.persist _ = _ => refreshed
    have kept := isLocal.persisted.apply refreshed
    rw [kept, isLocal.logged]
    exact .stored k (v.store isLocal)

/-- **A run leaves one of these on the disk**, however it ends. -/
theorem footprint_run (isLocal : host.Local root) (r : Registry) (s : Settings) (c : Collection)
    (w : Workspace) : Footprint host root r s c w (run host r s c w).2.disk := by
  obtain ⟨records, h⟩ := run_apply host r s c w
  rw [h]
  dsimp only
  rw [isLocal.disk_logged]
  exact (attempt_course host r s c w).footprint isLocal

end Generation

namespace Workspace

variable (here : Location) (r : Registry) (units : UnitSource) (s : Settings) (c : Collection) (w : Workspace)

theorem Collaborators.host_here (root : FilePath) :
    ((⟨units, .disk, none⟩ : Collaborators).host here root).here = here := by
  cases units <;> rfl

theorem keepsDisk_prepareUnits : Action.KeepsDisk (prepareUnits here s units) := by
  cases units with
  | definitions => exact .bind (.ofExcept _) fun _ _ => rfl
  | _ => exact fun _ => rfl

/-- **A run in a workspace** either cannot begin, and then fails and leaves the disk as it is, or is a run on a
local host. -/
theorem generate_cases :
    ((∃ fault, (generate here r ⟨units, .disk, none⟩ s c w).1 = .error fault) ∧
        (generate here r ⟨units, .disk, none⟩ s c w).2.disk = w.disk) ∨
      ∃ root prepared, pathOf (s .projectRoot) = .ok root ∧ prepared.disk = w.disk ∧
        generate here r ⟨units, .disk, none⟩ s c w =
          Generation.run ((⟨units, .disk, none⟩ : Collaborators).host here root) r s c prepared := by
  unfold generate
  rcases prepares : prepareUnits here s units w with ⟨fault | _, prepared⟩
  · have kept := (keepsDisk_prepareUnits here units s).apply prepares
    rw [Action.bind_of_error prepares]
    exact .inl ⟨⟨fault, rfl⟩, kept⟩
  have kept := (keepsDisk_prepareUnits here units s).apply prepares
  rw [Action.bind_of_ok prepares]
  cases rooted : pathOf (s .projectRoot) with
  | error fault =>
    rw [Action.bind_of_error (show Action.ofExcept (rootFor s .disk) prepared = (.error fault, prepared) from
      rooted ▸ rfl)]
    exact .inl ⟨⟨fault, rfl⟩, kept⟩
  | ok root =>
    rw [Action.bind_of_ok (show Action.ofExcept (rootFor s .disk) prepared = (.ok root, prepared) from
      rooted ▸ rfl)]
    exact .inr ⟨root, prepared, rfl, kept, rfl⟩

theorem footprint_generate :
    (generate here r ⟨units, .disk, none⟩ s c w).2.disk = w.disk ∨
      ∃ root prepared, pathOf (s .projectRoot) = .ok root ∧ prepared.disk = w.disk ∧
        Generation.Footprint ((⟨units, .disk, none⟩ : Collaborators).host here root) root r s c prepared
          (generate here r ⟨units, .disk, none⟩ s c w).2.disk := by
  rcases generate_cases here r units s c w with ⟨-, kept⟩ | ⟨root, prepared, rooted, kept, runs⟩
  · exact .inl kept
  · rw [runs]
    exact .inr ⟨root, prepared, rooted, kept,
      Generation.footprint_run (Collaborators.isLocal units here root) r s c prepared⟩

end Workspace

/-! ## Confinement -/

namespace Generation.Footprint

variable {host : Host Workspace} {root : FilePath} {r : Registry} {s : Settings} {c : Collection}
  {w : Workspace} {d : Disk}

/-- A run that has no path for its script leaves the disk as it is. -/
theorem eq_of_no_path (h : Footprint host root r s c w d) (none : ∀ output, Script.path s c ≠ .ok output) :
    d = w.disk := by
  cases h
  case untouched => rfl
  case directories k => exact absurd k.path (none k.output)
  case stored k _ => exact absurd k.path (none k.output)

/-- **A run keeps to the way of its directory and the place of its file.** -/
theorem confined (h : Footprint host root r s c w d) {output : FilePath}
    (path : Script.path s c = .ok output) :
    w.disk.Confined d host.here (root.join output.parent) ((root.join output).locate host.here) := by
  cases h
  case untouched => exact .refl w.disk
  all_goals
    rename Ready host r s c w => k
    obtain rfl : k.output = output := Except.ok.inj (k.path.symm.trans path)
  case directories => exact Disk.confined_makeDirectories _ _ _ _
  case stored stores => exact Disk.confined_store stores

end Generation.Footprint

end StaticAccessors
