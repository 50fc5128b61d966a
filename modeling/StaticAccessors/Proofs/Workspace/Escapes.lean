import StaticAccessors.Proofs.Script.FileName
import StaticAccessors.Proofs.Strategy.Collisions
import StaticAccessors.Proofs.Units.Lookup
import StaticAccessors.Proofs.Workspace.Agreement

/-!
# Faults that escape a run

Faults of the generation and of the disk become failed reports. With settings and collaborators that are the
standard ones, and a collection of texts, little else can go wrong: names can be derived, the script can be
printed, and directories and files are refused by nobody but the disk.

What is left is the look-up of the two units. It reads the definition files on the way up to the root of
the project, and passes over those that cannot be read, but not over all of them. Where it comes to
such an obstacle, for the output directory first and then for the source of the collection, the run ends
with a fault instead of a report, and it ends so in no other case (`escapes_iff`).

## Contents
- `Workspace.sharedUnit_eq_error_iff`: the guard with definition files.
- `Workspace.guarded_of_raised`: a fault that escapes comes from the guard.
- `Workspace.escapes_iff`.
- `Workspace.undecodable_escapes`: one file that keeps a project from getting a report.
-/

namespace StaticAccessors

open StaticAccessors.Action Outcome

namespace Workspace

open Generation UnitMemory

variable {here : Location} {w : Workspace} {c : Collection} {fault : Fault}

/-! ## The guard -/

/-- The host of a run that names no collaborators. -/
abbrev standardHost (here : Location) (root : FilePath) : Host Workspace :=
  Collaborators.standard.host here root

/-- A look-up keeps what it found out, and the disk. -/
theorem resolveOwn_apply (here : Location) {m : UnitMemory} (known : w.units = some m) (p : FilePath) :
    ∃ after, resolveOwn here p w = ((m.resolve w.disk here p).1, after) ∧ after.disk = w.disk ∧
      after.units = some (m.resolve w.disk here p).2.2 := by
  unfold resolveOwn resolveUnit ofRun
  dsimp only
  rw [known]
  exact ⟨_, rfl, rfl, rfl⟩

/-- **The guard with definition files** fails, if not for the generation, exactly where one of the two
look-ups fails. -/
theorem sharedUnit_eq_error_iff {m : UnitMemory} (known : w.units = some m)
    (faithful : m.Faithful w.disk here) {root output source : FilePath}
    (placed : pathOf c.sourcePath = .ok source) (other : fault.isGeneration = false) :
    (sharedUnit (standardHost here root) c output w).1 = .error fault ↔
      unitOf w.disk here m.root output.parent = .error fault ∨
        (∃ unit, unitOf w.disk here m.root output.parent = .ok unit) ∧
          unitOf w.disk here m.root source = .error fault := by
  unfold sharedUnit
  obtain ⟨found, later, kept⟩ := resolve_faithful faithful output.parent
  obtain ⟨between, resolves, disk, units⟩ := resolveOwn_apply here known output.parent
  cases first : (m.resolve w.disk here output.parent).1 with
  | error cause =>
    rw [bind_of_error (first ▸ resolves), ← found, first]
    refine ⟨fun h => .inl (congrArg Except.error (Except.error.inj h)), ?_⟩
    rintro (h | ⟨⟨unit, h⟩, -⟩)
    · exact congrArg Except.error (Except.error.inj h)
    · exact absurd h nofun
  | ok outputUnit =>
  rw [bind_of_ok (first ▸ resolves), placed, bind_of_ok (ofExcept_apply _ _), ← found, first]
  -- The second look-up starts with what the first one remembers.
  obtain ⟨found', -, -⟩ := resolve_faithful later source
  obtain ⟨last, resolves', -, -⟩ := resolveOwn_apply here units source
  rw [disk] at resolves'
  rw [kept] at found'
  rw [or_iff_right (a := Except.ok outputUnit = Except.error fault) nofun,
    and_iff_right ⟨outputUnit, rfl⟩, ← found']
  cases second : (resolve w.disk here (m.resolve w.disk here output.parent).2.2 source).1 with
  | error cause =>
    rw [bind_of_error (second ▸ resolves')]
  | ok collectionUnit =>
    rw [bind_of_ok (second ▸ resolves')]
    -- Both units are found, and if they differ this is a fault of the generation.
    refine ⟨fun h => ?_, fun h => absurd h nofun⟩
    split at h
    · exact absurd h nofun
    · rw [← Except.error.inj h] at other
      exact absurd other nofun

/-! ## The run -/

/-- What a run that names no collaborators begins with. -/
def beginning (here : Location) (w : Workspace) : Workspace := { w with units := some ⟨here.toPath, []⟩ }

/-- With standard settings a run always begins. -/
theorem generate_defaults (here : Location) (c : Collection) (w : Workspace) :
    generate here .builtin .standard .defaults c w =
      run (standardHost here (.ofText ".")) .builtin .defaults c (beginning here w) := by
  have prepares : prepareUnits here .defaults .definitions w = (.ok (), beginning here w) := rfl
  have rooted : rootFor .defaults .disk = .ok (.ofText ".") := rfl
  show (prepareUnits here .defaults .definitions >>= fun _ => _) w = _
  rw [bind_of_ok prepares, show rootFor .defaults Collaborators.standard.files = _ from rooted]
  exact bind_of_ok (ofExcept_apply _ _) _

/-- The output directory of the standard settings. -/
def standardFolder : FilePath := .ofText "Assets/Generated/Scripts"

/-- With standard settings scripts are written into this directory, to a path that can have a name. -/
theorem exists_path_defaults (typed : c.WellTyped) :
    ∃ output, Script.path .defaults c = .ok output ∧ output.parent = standardFolder ∧
      ((FilePath.ofText ".").join output).hasNul = false := by
  obtain ⟨names, derived⟩ := Vocabulary.keywords.exists_derive typed.name
  have named : c.className = .ok names.upper := map_eq_ok.mpr ⟨names, derived, rfl⟩
  have placed := (Script.path_eq_ok_iff (s := .defaults) (c := c) (by decide) (by decide)).mpr
    ⟨standardFolder, names.upper, rfl, named, rfl⟩
  refine ⟨_, placed, FilePath.parent_beside _ _, ?_⟩
  have plain : '\x00' ∉ (Script.fileOf .defaults names.upper).toList := by
    unfold Script.fileOf
    rw [String.toList_append, String.toList_append, List.mem_append, List.mem_append, not_or, not_or]
    exact ⟨⟨not_mem_of_isWordChar (Collection.className_chars named).2 (by decide), by decide⟩, by decide⟩
  rw [FilePath.join_beside, FilePath.hasNul_beside, List.contains_eq_mem, decide_eq_false plain, Bool.or_false]
  rfl

/-- **A fault that escapes comes from the guard.** All else that can go wrong becomes a report. -/
theorem guarded_of_raised {root : FilePath} (rooted : pathOf (Settings.defaults .projectRoot) = .ok root)
    (typed : c.WellTyped) {output : FilePath} (path : Script.path .defaults c = .ok output)
    (plain : (root.join output).hasNul = false) (above : (root.join output.parent).hasNul = false)
    (raised : (attempt (standardHost here root) .builtin .defaults c w).1 = .error fault)
    (noReport : fault.isGeneration = false ∧ fault.isDisk = false) :
    (sharedUnit (standardHost here root) c output w).1 = .error fault := by
  have isLocal : (standardHost here root).Local root := Collaborators.isLocal .definitions here root
  have course := attempt_course (standardHost here root) .builtin .defaults c w
  generalize callsOf (standardHost here root) .builtin .defaults c w = calls at course
  generalize attempt (standardHost here root) .builtin .defaults c w = attempted at course raised
  obtain ⟨outcome, after⟩ := attempted
  dsimp only at course raised
  subst raised
  cases course
  case unready early =>
    rcases early with unknown | nowhere
    · exact absurd ((Registry.lookup_builtin c.style).symm.trans unknown) nofun
    · exact absurd (path.symm.trans nowhere) nofun
  case unguarded own guarded =>
    obtain rfl := Except.ok.inj (path.symm.trans own)
    rw [guarded]
  case unfit rejected _ =>
    rcases rejected with collided | ⟨-, untold⟩
    · obtain ⟨cause, rfl⟩ := Strategy.checkIdentifiers_error typed collided
      exact absurd noReport.1 nofun
    · obtain ⟨warnings, told⟩ := Strategy.exists_collectionWarnings typed.identified
      exact absurd (told.symm.trans untold) nofun
  all_goals
    rename Ready (standardHost here root) .builtin .defaults c w => k
    obtain rfl := Except.ok.inj (path.symm.trans k.path)
  case noDirectory failed =>
    have making := Disk.making_of_makeDirectories ((isLocal.ensured _).apply failed)
    exact absurd ((making.isDisk above).symm.trans noReport.2) nofun
  case unopened failed =>
    obtain ⟨refused, -⟩ := Disk.attempt_eq_error ((isLocal.opened _).apply failed)
    exact absurd ((Disk.isDisk_of_fileToWrite plain (map_eq_error.mp refused)).symm.trans noReport.2) nofun
  case unclosed failed =>
    obtain ⟨refused, -⟩ := Disk.attempt_eq_error ((isLocal.closed _ _).apply failed)
    exact absurd ((Disk.isDisk_of_fileToWrite plain (map_eq_error.mp refused)).symm.trans noReport.2) nofun
  case incomplete failed =>
    have writable : Script.Writable c.style .defaults c :=
      Script.writable_of_indentSize typed Settings.defaults_wellTyped rfl
    have complete := (Script.print_eq_ok_iff k.distinct).mpr writable
    rw [← k.script_eq] at complete
    exact absurd (complete.symm.trans failed) nofun
  case unplaced =>
    rename absolutePath _ _ k.output = .error _ => unplaced
    obtain ⟨target, placed⟩ := @exists_absolutePath here _ _ _ rooted plain
    exact absurd (unplaced.symm.trans placed) nofun
  case unrefreshed failed => exact absurd (Prod.mk.inj failed).1 nofun

/-- A run with standard settings ends with a fault exactly if the guard fails with one that does not become a
report. -/
theorem generate_eq_error_iff (typed : c.WellTyped) {output : FilePath}
    (path : Script.path .defaults c = .ok output) (plain : ((FilePath.ofText ".").join output).hasNul = false)
    (folder : output.parent = standardFolder) :
    (generate here .builtin .standard .defaults c w).1 = .error fault ↔
      (fault.isGeneration = false ∧ fault.isDisk = false) ∧
        (sharedUnit (standardHost here (.ofText ".")) c output (beginning here w)).1 = .error fault := by
  have above : ((FilePath.ofText ".").join output.parent).hasNul = false := by
    rw [folder]
    rfl
  obtain ⟨target, placed⟩ := @exists_absolutePath here _ _ (Settings.defaults .projectRoot) rfl plain
  have place : placeOf (standardHost here (.ofText ".")).here .defaults c = .ok target := by
    unfold placeOf
    rw [path]
    exact placed
  rw [generate_defaults, run_fst, ended_error_iff place]
  constructor
  · rintro ⟨raised, noReport⟩
    exact ⟨noReport, guarded_of_raised rfl typed path plain above raised noReport⟩
  · rintro ⟨noReport, guarded⟩
    have course := attempt_course (standardHost here (.ofText ".")) .builtin .defaults c (beginning here w)
    exact ⟨course.guarded (Registry.lookup_builtin c.style) path (Prod.ext guarded rfl), noReport⟩

/-- **When a fault escapes.** With standard settings and collaborators, and a collection of texts, a run ends
with a fault instead of a report exactly if one of the two look-ups of the guard is stopped: that of the
output directory, or else that of the source of the collection. On a disk without obstacles, under paths
that can have a name, there is always a report. -/
theorem escapes_iff (here : Location) (w : Workspace) (typed : c.WellTyped) {source : String}
    (located : c.sourcePath = .text source) :
    (∀ fault, (generate here .builtin .standard .defaults c w).1 = .error fault ↔
      Stopped w.disk here here.toPath standardFolder fault ∨
        (∃ unit, unitOf w.disk here here.toPath standardFolder = .ok unit) ∧
          Stopped w.disk here here.toPath (.ofText source) fault) ∧
      (Clear w.disk here → here.toPath.hasNul = false → (FilePath.ofText source).hasNul = false →
        ∃ report, (generate here .builtin .standard .defaults c w).1 = .ok report) := by
  obtain ⟨output, path, folder, plain⟩ := exists_path_defaults typed
  have placed : pathOf c.sourcePath = .ok (.ofText source) := by
    rw [located]
    rfl
  have guarded {fault : Fault} (other : fault.isGeneration = false) :=
    @sharedUnit_eq_error_iff here (beginning here w) c fault ⟨here.toPath, []⟩ rfl (faithful_nil _ _ _)
      (.ofText ".") output _ placed other
  rw [folder] at guarded
  have escapes (fault : Fault) : (generate here .builtin .standard .defaults c w).1 = .error fault ↔
      Stopped w.disk here here.toPath standardFolder fault ∨
        (∃ unit, unitOf w.disk here here.toPath standardFolder = .ok unit) ∧
          Stopped w.disk here here.toPath (.ofText source) fault := by
    rw [generate_eq_error_iff typed path plain folder]
    constructor
    · rintro ⟨⟨generation, onDisk⟩, failed⟩
      rcases (guarded generation).mp failed with first | ⟨found, second⟩
      · exact .inl ((unitOf_eq_error_iff onDisk).mp first)
      · exact .inr ⟨found, (unitOf_eq_error_iff onDisk).mp second⟩
    · rintro (first | ⟨found, second⟩)
      · have noReport := first.passed_on
        exact ⟨noReport, (guarded noReport.1).mpr (.inl ((unitOf_eq_error_iff noReport.2).mpr first))⟩
      · have noReport := second.passed_on
        exact ⟨noReport, (guarded noReport.1).mpr (.inr ⟨found, (unitOf_eq_error_iff noReport.2).mpr second⟩)⟩
  refine ⟨escapes, fun clear above named => ?_⟩
  cases ends : (generate here .builtin .standard .defaults c w).1 with
  | ok report => exact ⟨report, rfl⟩
  | error fault =>
    rcases (escapes fault).mp ends with first | ⟨-, second⟩
    · exact absurd first (clear.not_stopped above rfl)
    · exact absurd second (clear.not_stopped above named)

/-- On an empty disk the small collection gets a report. -/
theorem escapes_iff_fruits :
    Collection.fruits.WellTyped ∧ Collection.fruits.sourcePath = .text "Assets/Scripts/FruitCollection.cs" ∧
      ∃ report, (generate [] .builtin .standard .defaults .fruits (ofDisk .empty)).1 = .ok report := by
  have clear : Clear Disk.empty [] := by
    intro directory name fault listed
    exact absurd listed (by simp [definitionNames, Disk.names, Disk.empty])
  obtain ⟨-, reports⟩ := escapes_iff [] (ofDisk .empty) Collection.fruits_wellTyped rfl
  exact ⟨Collection.fruits_wellTyped, rfl, reports clear rfl rfl⟩

/-! ## A fault that escapes -/

/-- A disk with one definition file above the output directory, whose single byte is no text. -/
def disguised : Disk := ⟨[(["Assets"], .directory), (["Assets", "Bad.asmdef"], .file ⟨#[0xff]⟩)]⟩

/-- **A definition file that keeps a project from getting a report**, even from a failed one. -/
theorem undecodable_escapes :
    Collection.fruits.WellTyped ∧
      (generate [] .builtin .standard .defaults .fruits (ofDisk disguised)).1 = .error .undecodable := by
  refine ⟨Collection.fruits_wellTyped, ?_⟩
  have names : definitionNames disguised [] ⟨.root, ["Assets"]⟩ = [] ++ "Bad.asmdef" :: [] := by
    decide +kernel
  have noText : String.fromUTF8? ⟨#[0xff]⟩ = none := by decide +kernel
  -- The look-up passes two directories that are not there yet, and comes to the file in the third.
  have meets : Meets disguised [] ⟨.root, []⟩ ⟨.root, ["Assets", "Bad.asmdef"]⟩
      [⟨.root, ["Assets", "Generated", "Scripts"]⟩, ⟨.root, ["Assets", "Generated"]⟩, ⟨.root, ["Assets"]⟩,
        ⟨.root, []⟩] :=
    .later rfl (by decide) (.later rfl (by decide) (.first rfl names rfl rfl))
  have stopped : Stopped disguised [] ⟨.root, []⟩ standardFolder .undecodable :=
    .obstacle rfl rfl meets (.undecodable rfl noText)
  have stops := (unitOf_eq_error_iff rfl).mpr stopped
  rw [generate_eq_error_iff Collection.fruits_wellTyped path_defaults rfl rfl]
  exact ⟨⟨rfl, rfl⟩, (sharedUnit_eq_error_iff rfl (faithful_nil _ _ _) rfl rfl).mpr (.inl stops)⟩

end Workspace

end StaticAccessors
