import StaticAccessors.Project
import StaticAccessors.Proofs.Disk.Growth
import StaticAccessors.Proofs.Workspace.LocalDisk

/-!
# Empty scripts and the disk

An empty script is only made where nothing is. Its folder is made first, then it is looked whether its file
is there, and all that can fail in its text fails before the file is opened. So no file that was there is
touched, however the request ends, and asking again changes nothing (`creation`).

What is found in place of the file need not have been there before, though. The name of a script may lead
out of its folder, and then to a directory that was only made on the way to the folder. In this one case a
script is said to be there although nothing was.

## Contents
- `EmptyScript.site`: the folder and the file.
- `Attempt`, and `attempt_createScript`: all that a request can do.
- `Creation`, and `creation`.
- `folder_taken_for_script`: a script that is said to be there.
-/

namespace StaticAccessors

open StaticAccessors.Action

/-- The folder and the file of an empty script, as seen from the place of the program. -/
def EmptyScript.site (q : EmptyScript) (s : Settings) : Except Fault (FilePath × FilePath) := do
  let root ← pathOf (s .projectRoot)
  let folder ← pathOf q.folder
  return (root.join folder, root.join (folder.join (.ofText (q.name.display ++ (s .fileExtension).display))))

namespace Workspace

variable {here : Location} {s : Settings} {q : EmptyScript}

/-! ## What a request does -/

/-- What a request for an empty script does to a disk: how it ends, and the disk that it leaves. -/
inductive Attempt (here : Location) (s : Settings) (q : EmptyScript) (d : Disk) :
    Except Fault Bool → Disk → Prop
  /-- There is no place for it. -/
  | unplaced {fault} : q.site s = .error fault → Attempt here s q d (.error fault) d
  | noFolder {folder file fault made} : q.site s = .ok (folder, file) →
      d.makeDirectories here folder = (.error fault, made) → Attempt here s q d (.error fault) made
  /-- It cannot be told whether its file is there. -/
  | unknown {folder file made fault} : q.site s = .ok (folder, file) →
      d.makeDirectories here folder = (.ok (), made) → made.pathExists here file = .error fault →
      Attempt here s q d (.error fault) made
  | present {folder file made} : q.site s = .ok (folder, file) →
      d.makeDirectories here folder = (.ok (), made) → made.pathExists here file = .ok true →
      Attempt here s q d (.ok false) made
  /-- It has no text. -/
  | unrendered {folder file made fault} : q.site s = .ok (folder, file) →
      d.makeDirectories here folder = (.ok (), made) → made.pathExists here file = .ok false →
      q.text s = .error fault → Attempt here s q d (.error fault) made
  | unopened {folder file made text fault} : q.site s = .ok (folder, file) →
      d.makeDirectories here folder = (.ok (), made) → made.pathExists here file = .ok false →
      q.text s = .ok text → made.writeFile here file text.toUTF8 = .error fault →
      Attempt here s q d (.error fault) made
  | created {folder file made text after} : q.site s = .ok (folder, file) →
      d.makeDirectories here folder = (.ok (), made) → made.pathExists here file = .ok false →
      q.text s = .ok text → made.writeFile here file text.toUTF8 = .ok after →
      Attempt here s q d (.ok true) after

theorem onDisk_of_error (step : Disk → Except Fault Disk) {w : Workspace} {fault : Fault}
    (h : step w.disk = .error fault) : onDisk step w = (.error fault, w) := by
  unfold onDisk ofRun
  dsimp only
  rw [h]

/-- **A request** does one of these things. -/
theorem attempt_createScript (here : Location) (s : Settings) (q : EmptyScript) (w : Workspace) :
    Attempt here s q w.disk (createScript here s q w).1 (createScript here s q w).2.disk := by
  unfold createScript
  -- The steps are taken one by one, and each that fails is a case of its own.
  cases rooted : pathOf (s .projectRoot) with
  | error fault =>
    rw [bind_of_error (Generation.ofExcept_apply _ _)]
    exact .unplaced (by unfold EmptyScript.site; rw [rooted]; rfl)
  | ok root =>
  rw [bind_of_ok (Generation.ofExcept_apply _ _)]
  cases contained : pathOf q.folder with
  | error fault =>
    rw [bind_of_error (Generation.ofExcept_apply _ _)]
    exact .unplaced (by unfold EmptyScript.site; rw [rooted, contained]; rfl)
  | ok folder =>
  rw [bind_of_ok (Generation.ofExcept_apply _ _)]
  have target : q.target s = .ok (folder.join (.ofText (q.name.display ++ (s .fileExtension).display))) := by
    unfold EmptyScript.target
    rw [contained]
    rfl
  have site : q.site s = .ok (root.join folder,
      root.join (folder.join (.ofText (q.name.display ++ (s .fileExtension).display)))) := by
    unfold EmptyScript.site
    rw [rooted, contained]
    rfl
  rw [target]
  generalize folder.join (.ofText (q.name.display ++ (s .fileExtension).display)) = file at site
  rcases ensures : ensureDirectory here (root.join folder) w with ⟨fault | _, v⟩
  · rw [bind_of_error ensures]
    exact .noFolder site ((changes_ensureDirectory here _).apply ensures)
  have makes := (changes_ensureDirectory here _).apply ensures
  rw [bind_of_ok ensures, bind_of_ok (Generation.ofExcept_apply _ _)]
  rw [bind_of_ok (show (get : Action Workspace Workspace) v = (.ok v, v) from rfl)]
  cases known : v.disk.pathExists here (root.join file) with
  | error fault =>
    rw [bind_of_error (Generation.ofExcept_apply _ _)]
    exact .unknown site makes known
  | ok there =>
  rw [bind_of_ok (Generation.ofExcept_apply _ _)]
  cases there with
  | true => exact .present site makes known
  | false =>
  rw [if_neg Bool.false_ne_true]
  cases rendered : q.text s with
  | error fault =>
    rw [bind_of_error (Generation.ofExcept_apply _ _)]
    exact .unrendered site makes known rendered
  | ok text =>
  rw [bind_of_ok (Generation.ofExcept_apply _ _)]
  cases writes : v.disk.writeFile here (root.join file) text.toUTF8 with
  | error fault =>
    rw [bind_of_error (onDisk_of_error _ writes)]
    exact .unopened site makes known rendered writes
  | ok after =>
    rw [bind_of_ok (onDisk_of_ok _ writes)]
    exact .created site makes known rendered writes

/-- Each step finds what the ones before it left, so a request can only do one of them. -/
theorem Attempt.unique {d after other : Disk} {result found : Except Fault Bool}
    (h : Attempt here s q d result after) (h' : Attempt here s q d found other) :
    result = found ∧ after = other := by
  cases h <;> cases h' <;> simp_all

/-! ## What becomes of the disk -/

/-- What becomes of the disk in a request for an empty script with some result. -/
structure Creation (here : Location) (s : Settings) (q : EmptyScript) (before after : Disk)
    (result : Except Fault Bool) : Prop where
  /-- no file is touched that was there -/
  spared : ∀ place content, before.get? place = some (.file content) → after.get? place = some (.file content)
  /-- all that is added are directories on the way to the folder and the file itself -/
  confined : ∀ folder file, q.site s = .ok (folder, file) →
    before.Confined after here folder (file.locate here)
  /-- a script is only made where nothing was, and its file holds its text -/
  made : result = .ok true → ∃ folder file text, q.site s = .ok (folder, file) ∧ q.text s = .ok text ∧
    before.get? (file.locate here) = none ∧ after.readBytes here file = .ok text.toUTF8
  /-- asked for once more it is there, and nothing changes -/
  again : result = .ok true → ∀ w : Workspace, w.disk = after →
    (createScript here s q w).1 = .ok false ∧ (createScript here s q w).2.disk = after
  /-- where it is said to be there, something was there, or the place was free and a directory was made there
  on the way to the folder -/
  present : result = .ok false → ∃ folder file, q.site s = .ok (folder, file) ∧
    ((∃ entry, before.get? (file.locate here) = some entry ∧ after.get? (file.locate here) = some entry) ∨
      before.get? (file.locate here) = none ∧ after.get? (file.locate here) = some .directory ∧
        folder.OnWay here (file.locate here))
  /-- as long as no script is made, at most directories are added -/
  unmade : result ≠ .ok true → before.Grows after

namespace Attempt

variable {before after : Disk} {result : Except Fault Bool}

/-- A request keeps to the way of the folder and the place of the file. -/
theorem confined (h : Attempt here s q before result after) {folder file : FilePath}
    (site : q.site s = .ok (folder, file)) : before.Confined after here folder (file.locate here) := by
  have directories := Disk.confined_makeDirectories before here folder (file.locate here)
  cases h
  case unplaced nowhere => exact absurd (site.symm.trans nowhere) nofun
  all_goals
    rename before.makeDirectories here _ = _ => makes
    rename q.site s = .ok (_, _) => own
    obtain ⟨rfl, rfl⟩ := Prod.mk.inj (Except.ok.inj (site.symm.trans own))
    rw [makes] at directories
  -- The folder is made in all other cases, and the file comes after it in one.
  case created writes => exact directories.trans (Disk.confined_writeFile writes folder)
  all_goals exact directories

/-- As long as no script is made, at most directories are. -/
theorem unmade (h : Attempt here s q before result after) (other : result ≠ .ok true) :
    before.Grows after := by
  cases h
  case unplaced => exact .refl before
  case created => exact absurd rfl other
  all_goals
    rename before.makeDirectories here _ = _ => makes
    exact (Disk.making_of_makeDirectories makes).grows

/-- A script is made where nothing was. -/
theorem made (h : Attempt here s q before (.ok true) after) :
    ∃ folder file text, q.site s = .ok (folder, file) ∧ q.text s = .ok text ∧
      before.get? (file.locate here) = none ∧ after.readBytes here file = .ok text.toUTF8 := by
  cases h
  case created site makes known rendered writes =>
    have grows := (Disk.making_of_makeDirectories makes).grows
    have free := grows.get?_of_none (Disk.free_of_pathExists known writes)
    exact ⟨_, _, _, site, rendered, free, Disk.readBytes_writeFile writes⟩

/-- No file is touched that was there. -/
theorem spared (h : Attempt here s q before result after) {place : Location} {content : ByteArray}
    (found : before.get? place = some (.file content)) : after.get? place = some (.file content) := by
  by_cases new : result = .ok true
  · -- The file that is made stands where nothing was, and all else that is added are directories.
    subst new
    obtain ⟨folder, file, text, site, -, free, -⟩ := h.made
    rcases h.confined site place with same | ⟨none, -⟩ | ⟨rfl, -⟩
    · exact same.trans found
    · exact absurd (none.symm.trans found) nofun
    · exact absurd (free.symm.trans found) nofun
  · exact (h.unmade new).get?_of_some found

/-- A script that was made is there. -/
theorem again (h : Attempt here s q before (.ok true) after) {next : Disk} {result : Except Fault Bool}
    (h' : Attempt here s q after result next) : result = .ok false ∧ next = after := by
  cases h
  case created folder file made text site makes known rendered writes =>
  have there := Disk.pathExists_of_writeFile writes
  have kept := Disk.makeDirectories_of_isDirectory
    (Disk.isDirectory_of_writeFile writes (Disk.making_of_makeDirectories makes).isDirectory)
  -- The folder is there, so nothing is made; and then the file is found.
  cases h'
  case unplaced nowhere => exact absurd (site.symm.trans nowhere) nofun
  all_goals
    rename after.makeDirectories here _ = _ => makes'
    rename q.site s = .ok (_, _) => site'
    obtain ⟨rfl, rfl⟩ := Prod.mk.inj (Except.ok.inj (site.symm.trans site'))
    obtain ⟨ends, rfl⟩ := Prod.mk.inj (kept.symm.trans makes')
  case present => exact ⟨rfl, rfl⟩
  case noFolder => exact absurd ends nofun
  all_goals
    rename after.pathExists here _ = _ => known'
    exact absurd (there.symm.trans known') nofun

/-- Where a script is said to be there, something was there or its folder's way leads there. -/
theorem origin (h : Attempt here s q before (.ok false) after) :
    ∃ folder file, q.site s = .ok (folder, file) ∧
      ((∃ entry, before.get? (file.locate here) = some entry ∧ after.get? (file.locate here) = some entry) ∨
        before.get? (file.locate here) = none ∧ after.get? (file.locate here) = some .directory ∧
          folder.OnWay here (file.locate here)) := by
  have confined := @h.confined
  have grows := h.unmade nofun
  cases h
  case present folder file site makes known =>
  refine ⟨folder, file, site, ?_⟩
  obtain ⟨-, entry, -, found, -⟩ := Disk.exists_of_ask known
  rcases confined site (file.locate here) with same | added | ⟨-, noDirectory, content, written⟩
  · exact .inl ⟨entry, same.symm.trans found, found⟩
  · exact .inr added
  · -- At most directories were added, so a file that is there was there.
    rcases grows (file.locate here) trivial with same | ⟨-, directory⟩
    · exact .inl ⟨.file content, same.symm.trans written, written⟩
    · exact absurd (written.symm.trans directory) nofun

end Attempt

/-- **Empty scripts never overwrite**, for any disk, settings and request. -/
theorem creation (here : Location) (s : Settings) (q : EmptyScript) (w : Workspace) :
    Creation here s q w.disk (createScript here s q w).2.disk (createScript here s q w).1 := by
  have attempt := attempt_createScript here s q w
  refine ⟨fun _ _ => attempt.spared, fun _ _ => attempt.confined, fun made => ?_, fun made v same => ?_,
    fun present => ?_, attempt.unmade⟩
  · rw [made] at attempt
    exact attempt.made
  · rw [made] at attempt
    have second := attempt_createScript here s q v
    rw [same] at second
    exact attempt.again second
  · rw [present] at attempt
    exact attempt.origin

/-- A script whose name leads out of its folder, to the folder itself. -/
def askew : EmptyScript :=
  ⟨.text "../Scripts", .text "Scripts.cs", .null, .null, .text "public class Foo", .null⟩

/-- **A folder that is taken for a script**: nothing is on the disk, and yet a script is said to be there. -/
theorem folder_taken_for_script :
    (createScript [] .defaults askew (ofDisk .empty)).1 = .ok false ∧
      Disk.empty.get? ["Scripts.cs"] = none ∧
      (createScript [] .defaults askew (ofDisk .empty)).2.disk.get? ["Scripts.cs"] = some .directory := by
  refine ⟨rfl, rfl, ?_⟩
  decide +kernel

end Workspace

end StaticAccessors
