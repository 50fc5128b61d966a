import StaticAccessors.Project
import StaticAccessors.Proofs.Generation.Effects
import StaticAccessors.Proofs.Script.Printing
import StaticAccessors.Proofs.Workspace.LocalDisk

/-!
# Failed runs and the disk

A run from a manifest that fails should leave the disk as it was. It does so as long as it fails in one
of its checks. Once these have passed the file is opened, which empties it, and only then is the script
printed. So if the settings and the directives do not allow the script to be printed to its end, an older
file is lost, and what is left is the text so far.

`Fate` says what becomes of the disk in each case, and `atomic_iff` when a run is all or nothing.

## Contents
- `Cleared`: a run from a manifest that has passed its checks.
- `generateFromManifest_run`: up to the run.
- `Fate`, and `fate_of_takes`.
- `atomic_iff`.
- `older_file_lost`: a failed run that empties the file of an earlier one.
-/

namespace StaticAccessors.Workspace

open StaticAccessors.Action Outcome Generation

/-- Whether a run has written its script. -/
def Succeeds (result : Except Fault Report) : Prop :=
  ∃ path warnings metadata, result = .ok (.written path warnings metadata)

theorem not_succeeds_error {fault : Fault} : ¬Succeeds (.error fault) := fun ⟨_, _, _, h⟩ => absurd h nofun

section

variable (here : Location) (units : PrefixUnits) (manifest overrides : Value) (w : Workspace)

/-- A run from a manifest that has passed all its checks. -/
structure Cleared where
  settings : Settings
  collection : Collection
  root : FilePath
  overlaid : Settings.overlay [] overrides = .ok settings
  described : collectionOf settings manifest = .ok collection
  rooted : pathOf (settings .projectRoot) = .ok root
  ready : Ready (fixedHost here units root) .builtin settings collection w

variable {here units manifest overrides w}

namespace Cleared

/-- Checks are passed in one way only. -/
instance : Subsingleton (Cleared here units manifest overrides w) := by
  refine ⟨fun k other => ?_⟩
  obtain ⟨settings, collection, root, overlaid, described, rooted, ready⟩ := k
  obtain ⟨settings', collection', root', overlaid', described', rooted', ready'⟩ := other
  obtain rfl : settings = settings' := Except.ok.inj (overlaid.symm.trans overlaid')
  obtain rfl : collection = collection' := Except.ok.inj (described.symm.trans described')
  obtain rfl : root = root' := Except.ok.inj (rooted.symm.trans rooted')
  obtain rfl : ready = ready' := Subsingleton.elim ready ready'
  rfl

variable (k : Cleared here units manifest overrides w)

/-- The directory of the script. -/
def directory : FilePath := k.root.join k.ready.output.parent

/-- The file of the script. -/
def file : FilePath := k.root.join k.ready.output

/-- The text of the script, as far as it goes. -/
def content : ByteArray := k.ready.script.text.toUTF8

/-- Whether the script can be printed to its end. -/
def Writable : Prop := Script.Writable k.collection.style k.settings k.collection

theorem complete_iff : k.ready.script.outcome = .ok () ↔ k.Writable := by
  rw [k.ready.script_eq]
  exact Script.print_eq_ok_iff k.ready.distinct

theorem refused {fault : Fault} (h : k.ready.script.outcome = .error fault) : Layout.Refusal fault := by
  rw [k.ready.script_eq] at h
  exact Script.print_refused h

end Cleared

/-! ## Up to the run -/

/-- **A run from a manifest** either fails before it begins, or is a run on the local disk. -/
theorem generateFromManifest_run (here : Location) (units : PrefixUnits) (manifest overrides : Value)
    (w : Workspace) :
    (¬Nonempty (Cleared here units manifest overrides w) ∧
      ∃ fault, generateFromManifest here .builtin (.fixed units) manifest overrides w = (.error fault, w)) ∨
    ∃ s c root, Settings.overlay [] overrides = .ok s ∧ collectionOf s manifest = .ok c ∧
      pathOf (s .projectRoot) = .ok root ∧
      generateFromManifest here .builtin (.fixed units) manifest overrides w =
        run (fixedHost here units root) .builtin s c w := by
  unfold generateFromManifest
  cases overlaid : Settings.overlay [] overrides with
  | error fault =>
    refine .inl ⟨fun ⟨k⟩ => absurd (overlaid.symm.trans k.overlaid) nofun, fault, ?_⟩
    exact bind_of_error (ofExcept_apply _ _) _
  | ok s =>
  rw [bind_of_ok (ofExcept_apply _ _)]
  cases described : collectionOf s manifest with
  | error fault =>
    refine .inl ⟨fun ⟨k⟩ => ?_, fault, bind_of_error (ofExcept_apply _ _) _⟩
    obtain rfl := Except.ok.inj (overlaid.symm.trans k.overlaid)
    exact absurd (described.symm.trans k.described) nofun
  | ok c =>
  rw [bind_of_ok (ofExcept_apply _ _)]
  cases rooted : pathOf (s .projectRoot) with
  | error fault =>
    refine .inl ⟨fun ⟨k⟩ => ?_, fault, ?_⟩
    · obtain rfl := Except.ok.inj (overlaid.symm.trans k.overlaid)
      exact absurd (rooted.symm.trans k.rooted) nofun
    · unfold generate
      rw [bind_of_ok (show prepareUnits here s (Collaborators.fixed units).units w = (.ok (), w) from rfl)]
      exact bind_of_error (rooted ▸ ofExcept_apply _ _) _
  | ok root => exact .inr ⟨s, c, root, rfl, described, rooted, generate_fixed c rooted⟩

/-! ## What becomes of the disk -/

/-- What becomes of the disk in a run from a manifest with some result. -/
structure Fate (here : Location) (units : PrefixUnits) (manifest overrides : Value) (w : Workspace)
    (result : Except Fault Report) (after : Disk) : Prop where
  /-- a run that does not pass its checks writes nothing and leaves the disk as it was -/
  unchanged : ¬Nonempty (Cleared here units manifest overrides w) → ¬Succeeds result ∧ after = w.disk
  /-- one that passes them succeeds exactly if its script can be printed to its end -/
  succeeds : ∀ k : Cleared here units manifest overrides w, Succeeds result ↔ k.Writable
  /-- otherwise the fault that stops the printing is raised -/
  raised : ∀ k : Cleared here units manifest overrides w, ¬k.Writable →
    ∃ fault, Layout.Refusal fault ∧ k.ready.script.outcome = .error fault ∧ result = .error fault
  /-- the script is stored, as far as it goes, whether the run succeeds or not -/
  stored : ∀ k : Cleared here units manifest overrides w,
    w.disk.store here k.directory k.file k.content = .ok after
  /-- and then stands in place of what the file held before -/
  held : ∀ k : Cleared here units manifest overrides w, after.readBytes here k.file = .ok k.content
  /-- no other file is touched; all that is added besides are directories -/
  spared : ∀ k : Cleared here units manifest overrides w,
    ∃ at_, after.walk here k.file = .ok at_ ∧ w.disk.GrowsAt after (· ≠ at_)

namespace Fate

variable {result : Except Fault Report} {after : Disk}

/-- The fate of a run that does not pass its checks. -/
theorem of_uncleared (none : ¬Nonempty (Cleared here units manifest overrides w)) (failed : ¬Succeeds result)
    (kept : after = w.disk) : Fate here units manifest overrides w result after :=
  ⟨fun _ => ⟨failed, kept⟩, fun k => absurd ⟨k⟩ none, fun k => absurd ⟨k⟩ none, fun k => absurd ⟨k⟩ none,
    fun k => absurd ⟨k⟩ none, fun k => absurd ⟨k⟩ none⟩

/-- The fate of one that does. -/
theorem of_cleared (k : Cleared here units manifest overrides w) (succeeds : Succeeds result ↔ k.Writable)
    (raised : ¬k.Writable →
      ∃ fault, Layout.Refusal fault ∧ k.ready.script.outcome = .error fault ∧ result = .error fault)
    (stores : w.disk.store here k.directory k.file k.content = .ok after) :
    Fate here units manifest overrides w result after := by
  refine ⟨fun none => absurd ⟨k⟩ none, fun other => ?_, fun other => ?_, fun other => ?_, fun other => ?_,
    fun other => ?_⟩
  all_goals obtain rfl := Subsingleton.elim k other
  · exact succeeds
  · exact raised
  · exact stores
  · exact Disk.readBytes_store stores
  · exact Disk.growsAt_store stores

end Fate

/-- Only a run whose steps succeed ends with success. -/
theorem succeeds_ended_iff {s : Settings} {c : Collection} {raised : Except Fault Report} :
    Succeeds (ended here s c raised) ↔ Succeeds raised := by
  unfold Succeeds
  simp only [ended_written_iff]

/-- A refusal of the layout is passed on. -/
theorem ended_refusal {s : Settings} {c : Collection} {fault : Fault} (h : Layout.Refusal fault) :
    ended here s c (.error fault) = .error fault := by
  cases h <;> rfl

/-- **The disk after a run from a manifest**, if it takes the file. -/
theorem fate_of_takes (takes : ∀ k : Cleared here units manifest overrides w,
      w.disk.Takes here k.directory k.file) :
    Fate here units manifest overrides w
      (generateFromManifest here .builtin (.fixed units) manifest overrides w).1
      (generateFromManifest here .builtin (.fixed units) manifest overrides w).2.disk := by
  rcases generateFromManifest_run here units manifest overrides w with
    ⟨none, fault, h⟩ | ⟨s, c, root, overlaid, described, rooted, h⟩
  · rw [h]
    exact .of_uncleared none not_succeeds_error rfl
  have course := attempt_course (fixedHost here units root) .builtin s c w
  obtain ⟨records, ends⟩ := run_apply (fixedHost here units root) .builtin s c w
  rw [h, ends]
  -- All that matters about the run from here on is the course that it takes.
  generalize attempt (fixedHost here units root) .builtin s c w = attempted at course ⊢
  generalize callsOf (fixedHost here units root) .builtin s c w = calls at course
  obtain ⟨raised, after⟩ := attempted
  dsimp only at course ⊢
  rw [fixedHost_isLocal.disk_logged]
  rcases Classical.em (Nonempty (Ready (fixedHost here units root) .builtin s c w)) with ⟨⟨ready⟩⟩ | none
  · let k : Cleared here units manifest overrides w := ⟨s, c, root, overlaid, described, rooted, ready⟩
    obtain ⟨stores, outcome⟩ := disk_of_ready course rooted ready (takes k)
    have ending : (Succeeds (ended here s c raised) ↔ k.Writable) ∧
        (¬k.Writable → ∃ fault, Layout.Refusal fault ∧ ready.script.outcome = .error fault ∧
          ended here s c raised = .error fault) := by
      rw [succeeds_ended_iff, ← k.complete_iff]
      cases printed : ready.script.outcome with
      | ok _ =>
        rw [printed] at outcome
        exact ⟨⟨fun _ => rfl, fun _ => outcome⟩, fun incomplete => absurd rfl incomplete⟩
      | error fault =>
        rw [printed] at outcome
        have refusal := k.refused printed
        refine ⟨⟨fun h => ?_, fun complete => absurd complete nofun⟩,
          fun _ => ⟨fault, refusal, rfl, ?_⟩⟩
        · exact absurd (outcome ▸ h) not_succeeds_error
        · rw [outcome, ended_refusal refusal]
    exact .of_cleared k ending.1 ending.2 stores
  · have no_calls : calls = [] := by
      cases calls with
      | nil => rfl
      | cons call rest => exact absurd (course.checked (List.cons_ne_nil call rest)) none
    obtain ⟨-, ⟨fault, failed⟩, kept⟩ := disk_of_no_calls course no_calls
    have uncleared : ¬Nonempty (Cleared here units manifest overrides w) := by
      rintro ⟨k⟩
      obtain rfl := Except.ok.inj (overlaid.symm.trans k.overlaid)
      obtain rfl := Except.ok.inj (described.symm.trans k.described)
      obtain rfl := Except.ok.inj (rooted.symm.trans k.rooted)
      exact none ⟨k.ready⟩
    refine .of_uncleared uncleared ?_ kept
    rw [succeeds_ended_iff, failed]
    exact not_succeeds_error

/-- **All or nothing.** On a disk that takes the file, a run from a manifest meets its `Fate`. So it
succeeds, or leaves the disk as it was, exactly if its checks do not pass, or its script can be printed to
its end, or the disk happens to hold just the text that is printed of it. -/
theorem atomic_iff (takes : ∀ k : Cleared here units manifest overrides w,
      w.disk.Takes here k.directory k.file) :
    Fate here units manifest overrides w
        (generateFromManifest here .builtin (.fixed units) manifest overrides w).1
        (generateFromManifest here .builtin (.fixed units) manifest overrides w).2.disk ∧
      (Succeeds (generateFromManifest here .builtin (.fixed units) manifest overrides w).1 ∨
          (generateFromManifest here .builtin (.fixed units) manifest overrides w).2.disk = w.disk ↔
        ∀ k : Cleared here units manifest overrides w,
          k.Writable ∨ w.disk.store here k.directory k.file k.content = .ok w.disk) := by
  have fate := fate_of_takes takes
  refine ⟨fate, fun h k => ?_, fun h => ?_⟩
  · rcases h with success | same
    · exact .inl ((fate.succeeds k).mp success)
    · have stores := fate.stored k
      rw [same] at stores
      exact .inr stores
  · rcases Classical.em (Nonempty (Cleared here units manifest overrides w)) with ⟨⟨k⟩⟩ | none
    · rcases h k with writable | same
      · exact .inl ((fate.succeeds k).mpr writable)
      · exact .inr (Except.ok.inj ((fate.stored k).symm.trans same))
    · exact .inr (fate.unchanged none).2

end

/-! ## An older file that is lost -/

/-- A project in which the script was generated before. -/
def olderDisk : Disk := ⟨[
  (["Assets"], .directory), (["Assets", "Generated"], .directory),
  (["Assets", "Generated", "FruitsStatic.cs"], .file "keep me".toUTF8)]⟩

/-- The small collection as a manifest. -/
def fruitsManifest : Value := .object [
  ("name", .text "Fruits"), ("guid", .text "g1"),
  ("type", .object [("name", .text "FruitCollection"), ("namespace", .text "Game.Fruits")]),
  ("element_type", .object [("name", .text "Fruit"), ("namespace", .text "Game.Fruits")]),
  ("source_path", .text "Assets/Scripts/FruitCollection.cs"),
  ("items", .list [
    .object [("name", .text "Golden Apple"), ("guid", .text "i1"),
      ("type", .object [("name", .text "Fruit"), ("namespace", .text "Game.Fruits")])],
    .object [("name", .text "Pear"), ("guid", .text "i2"),
      ("type", .object [("name", .text "Fruit"), ("namespace", .text "Game.Fruits")])]])]

/-- Overrides with a size of the indentation that is no number. -/
def unindentedOverrides : Value :=
  .object [("output_directory", .text "Assets/Generated"), ("indent_size", .text "x")]

/-- The settings that they lead to. -/
def unindented : Settings where
  value
    | .outputDirectory => .text "Assets/Generated"
    | .indentSize => .text "x"
    | setting => setting.default
  custom := .given (.object [])

theorem overlay_unindented : Settings.overlay [] unindentedOverrides = .ok unindented := by
  show Except.ok (Settings.mk _ _) = Except.ok (Settings.mk _ _)
  congr 2
  funext setting
  cases setting <;> rfl

/-- Units of which there is but one. -/
def oneUnit : PrefixUnits := ⟨[], .text defaultUnit⟩

theorem resolve_oneUnit (p : FilePath) : oneUnit.resolve p = .text defaultUnit := by
  unfold PrefixUnits.resolve PrefixUnits.byLength
  rw [show oneUnit.units = [] from rfl, List.mergeSort_nil]
  rfl

/-- The guard has nothing to object to where there is but one unit. -/
theorem exists_sharedUnit_oneUnit {here : Location} {root : FilePath} {c : Collection} {source : FilePath}
    (h : pathOf c.sourcePath = .ok source) (output : FilePath) (w : Workspace) :
    ∃ unit after, sharedUnit (fixedHost here oneUnit root) c output w = (.ok unit, after) := by
  have resolve : ∀ p, (fixedHost here oneUnit root).resolve p w = (.ok (.text defaultUnit), w) := by
    intro p
    show (Except.ok (oneUnit.resolve p), w) = _
    rw [resolve_oneUnit]
  unfold sharedUnit
  rw [bind_of_ok (resolve _), h, bind_of_ok (ofExcept_apply _ _), bind_of_ok (resolve _),
    if_pos (show (Value.text defaultUnit).equal (.text defaultUnit) = true from rfl)]
  exact ⟨_, _, rfl⟩

/-- The run on this project passes its checks. -/
theorem exists_cleared_older :
    ∃ k : Cleared [] oneUnit fruitsManifest unindentedOverrides (ofDisk olderDisk),
      k.settings = unindented ∧ k.directory = .ofText "Assets/Generated" ∧
        k.file = .ofText "Assets/Generated/FruitsStatic.cs" := by
  have path : Script.path unindented .fruits = .ok (.ofText "Assets/Generated/FruitsStatic.cs") := by
    unfold Script.path Script.fileName
    rw [Collection.className_fruits]
    rfl
  obtain ⟨unit, after, guarded⟩ := @exists_sharedUnit_oneUnit [] (.ofText ".") .fruits _ rfl
    (.ofText "Assets/Generated/FruitsStatic.cs") (ofDisk olderDisk)
  obtain ⟨warnings, warned⟩ : ∃ warnings, Strategy.collectionWarnings .fruits = .ok warnings := ⟨_, rfl⟩
  refine ⟨⟨unindented, .fruits, .ofText ".", overlay_unindented, rfl, rfl,
    ⟨_, _, unit, warnings, after, Registry.lookup_builtin _, path, guarded,
      Collection.checkIdentifiers_fruits, warned⟩⟩, rfl, ?_, ?_⟩
  · rfl
  · rfl

theorem takes_older (k : Cleared [] oneUnit fruitsManifest unindentedOverrides (ofDisk olderDisk)) :
    (ofDisk olderDisk).disk.Takes [] k.directory k.file := by
  obtain ⟨own, -, directory, file⟩ := exists_cleared_older
  obtain rfl := Subsingleton.elim own k
  rw [directory, file]
  exact ⟨olderDisk, _, rfl, rfl⟩

/-- Nothing can be printed under these settings. -/
theorem script_older (k : Cleared [] oneUnit fruitsManifest unindentedOverrides (ofDisk olderDisk)) :
    k.ready.script = ⟨"", [], .error .wrongType⟩ := by
  obtain ⟨own, settings, -, -⟩ := exists_cleared_older
  obtain rfl := Subsingleton.elim own k
  rw [own.ready.script_eq, settings]
  rfl

/-- The run is not all or nothing. -/
theorem not_atomic_older :
    (∀ k : Cleared [] oneUnit fruitsManifest unindentedOverrides (ofDisk olderDisk),
        (ofDisk olderDisk).disk.Takes [] k.directory k.file) ∧
      ¬(Succeeds (generateFromManifest [] .builtin (.fixed oneUnit) fruitsManifest unindentedOverrides
            (ofDisk olderDisk)).1 ∨
          (generateFromManifest [] .builtin (.fixed oneUnit) fruitsManifest unindentedOverrides
            (ofDisk olderDisk)).2.disk = olderDisk) := by
  refine ⟨takes_older, fun h => ?_⟩
  obtain ⟨k, -, -, file⟩ := exists_cleared_older
  rcases (atomic_iff takes_older).2.mp h k with writable | same
  · have complete := k.complete_iff.mpr writable
    rw [script_older k] at complete
    exact absurd complete nofun
  · have emptied := Disk.readBytes_store same
    rw [file] at emptied
    unfold Cleared.content at emptied
    rw [script_older k] at emptied
    have kept : olderDisk.readBytes [] (.ofText "Assets/Generated/FruitsStatic.cs") =
        .ok "keep me".toUTF8 := rfl
    have sizes := congrArg ByteArray.size (Except.ok.inj (kept.symm.trans emptied))
    exact absurd sizes (by decide)

/-- **A failed run that empties the file of an earlier one.** -/
theorem older_file_lost :
    olderDisk.readBytes [] (.ofText "Assets/Generated/FruitsStatic.cs") = .ok "keep me".toUTF8 ∧
      (generateFromManifest [] .builtin (.fixed oneUnit) fruitsManifest unindentedOverrides
        (ofDisk olderDisk)).1 = .error .wrongType ∧
      (generateFromManifest [] .builtin (.fixed oneUnit) fruitsManifest unindentedOverrides
        (ofDisk olderDisk)).2.disk.readBytes [] (.ofText "Assets/Generated/FruitsStatic.cs") = .ok .empty := by
  obtain ⟨k, -, -, file⟩ := exists_cleared_older
  have fate := fate_of_takes takes_older
  have script := script_older k
  refine ⟨rfl, ?_, ?_⟩
  · have incomplete : ¬k.Writable := by
      rw [← k.complete_iff, script]
      exact nofun
    obtain ⟨fault, -, printed, raised⟩ := fate.raised k incomplete
    rw [script] at printed
    obtain rfl := Except.error.inj printed
    exact raised
  · have held := fate.held k
    rw [file] at held
    rw [held]
    unfold Cleared.content
    rw [script]
    rfl

end StaticAccessors.Workspace
