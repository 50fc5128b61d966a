import StaticAccessors.Proofs.Disk.Storing

/-!
# Where a disk changes

A path that can be followed leads to its place (`walk_eq_locate`), and it still does after directories were
added. Where a directory could be made its path leads to it, and making it once more changes nothing.

`Confined` says what may become of each place when a file is stored below a directory: directories are made
on the way of the directory and nowhere else, and only the place of the file is written. Steps that keep to
this do so together (`Confined.trans`).

## Contents
- `walk_eq_locate`, `walk_grows`.
- `FilePath.OnWay`.
- `Making.isDirectory`, `makeDirectories_of_isDirectory`.
- `Making.isDisk`, `isDisk_of_fileToWrite`: what is refused, is refused by the disk.
- `pathExists_of_writeFile`, `free_of_pathExists`: files that are there, and places that are free.
- `Confined`, with `Making.confined` and `confined_writeFile`.
-/

namespace StaticAccessors

/-! ## Ways -/

/-- A place on the way of a path: where some of its first parts lead. -/
def FilePath.OnWay (p : FilePath) (here place : Location) : Prop :=
  ∃ parts, parts <+: p.parts ∧ place = FilePath.locate ⟨p.anchor, parts⟩ here

/-- A path ends where it leads. -/
theorem FilePath.onWay_locate (p : FilePath) (here : Location) : p.OnWay here (p.locate here) :=
  ⟨p.parts, List.prefix_rfl, rfl⟩

/-- The way of a path goes on from that of the path without its last part. -/
theorem FilePath.OnWay.of_parent {p : FilePath} {here place : Location} (h : p.parent.OnWay here place) :
    p.OnWay here place := by
  obtain ⟨parts, front, rfl⟩ := h
  exact ⟨parts, front.trans p.parts.dropLast_prefix, rfl⟩

/-- What stands above a path that can have a name can have one. -/
theorem FilePath.hasNul_parent {p : FilePath} (h : p.hasNul = false) : p.parent.hasNul = false := by
  unfold hasNul at h ⊢
  rw [List.any_eq_false] at h ⊢
  exact fun part listed => h part (List.dropLast_subset p.parts listed)

/-- A path seen from some root can have a name if both can. -/
theorem FilePath.hasNul_join {root p : FilePath} (hr : root.hasNul = false) (hp : p.hasNul = false) :
    (root.join p).hasNul = false := by
  unfold join
  split
  · exact hp
  · unfold hasNul at hr hp ⊢
    rw [List.any_append, hr, hp]
    rfl

namespace Disk

open FilePath (hasNul_parent)

variable {d between after : Disk} {here at_ : Location} {p file : FilePath} {content : ByteArray}

/-- A way that can be followed leads where its parts say. -/
theorem walkFrom_eq_follow {from_ goal : Location} {parts : List String}
    (h : d.walkFrom from_ parts = .ok goal) : goal = Location.follow from_ parts := by
  induction parts generalizing from_ with
  | nil => exact (Except.ok.inj h).symm
  | cons part rest ih =>
    unfold walkFrom at h
    split at h
    · exact absurd h nofun
    · exact absurd h nofun
    · split at h
      · exact absurd h nofun
      · exact ih h

/-- **A path leads to its place** if it can be followed. -/
theorem walk_eq_locate (h : d.walk here p = .ok at_) : at_ = p.locate here := by
  unfold walk at h
  split at h
  · exact absurd h nofun
  · exact walkFrom_eq_follow h

/-- What was there is there after directories were added. -/
theorem Grows.get?_of_some (h : d.Grows after) {place : Location} {entry : Entry}
    (found : d.get? place = some entry) : after.get? place = some entry := by
  rcases h place trivial with same | ⟨none_, -⟩
  · exact same.trans found
  · exact absurd (none_.symm.trans found) nofun

/-- What is free after directories were added was free before. -/
theorem Grows.get?_of_none (h : d.Grows after) {place : Location} (free : after.get? place = none) :
    d.get? place = none := by
  rcases h place trivial with same | ⟨none_, -⟩
  · exact same.symm.trans free
  · exact none_

theorem walkFrom_grows (grows : d.Grows after) {from_ goal : Location} {parts : List String}
    (h : d.walkFrom from_ parts = .ok goal) : after.walkFrom from_ parts = .ok goal := by
  induction parts generalizing from_ with
  | nil => exact h
  | cons part rest ih =>
    unfold walkFrom at h ⊢
    cases entry : d.get? from_ with
    | none =>
      rw [entry] at h
      cases h
    | some found =>
      -- Only a directory can be passed, and after the growth it is one still.
      rw [grows.get?_of_some entry]
      rw [entry] at h
      cases found with
      | file _ => cases h
      | directory =>
        dsimp only at h ⊢
        split at h
        · cases h
        · rename_i short
          rw [if_neg short]
          exact ih h

/-- **Added directories leave ways open.** -/
theorem walk_grows (grows : d.Grows after) (h : d.walk here p = .ok at_) : after.walk here p = .ok at_ := by
  unfold walk at h ⊢
  split at h
  · exact absurd h nofun
  · rename_i short
    rw [if_neg short]
    exact walkFrom_grows grows h

/-! ## Questions -/

theorem ask_eq_of_walk (nul : p.hasNul = false) (way : d.walk here p = .ok at_) {entry : Entry}
    (found : d.get? at_ = some entry) (question : Entry → Bool) :
    d.ask here p question = .ok (question entry) := by
  unfold ask status
  rw [nul, way]
  dsimp only
  rw [found]
  rfl

/-- A question whose answer is yes is about an entry. -/
theorem exists_of_ask {question : Entry → Bool} (h : d.ask here p question = .ok true) :
    p.hasNul = false ∧ ∃ entry, d.walk here p = .ok (p.locate here) ∧
      d.get? (p.locate here) = some entry ∧ question entry = true := by
  unfold ask at h
  cases nul : p.hasNul with
  | true =>
    rw [nul] at h
    exact absurd (Except.ok.inj h) nofun
  | false =>
  rw [nul, if_neg Bool.false_ne_true] at h
  refine ⟨rfl, ?_⟩
  unfold status at h
  cases way : d.walk here p with
  | error refusal =>
    -- Where a path leads nowhere the answer is no, if there is one.
    rw [way] at h
    cases refusal <;> exact absurd h nofun
  | ok place =>
    rw [way] at h
    dsimp only at h
    obtain rfl := walk_eq_locate way
    cases found : d.get? (p.locate here) with
    | none =>
      rw [found] at h
      exact absurd (Except.ok.inj h) nofun
    | some entry =>
      rw [found] at h
      exact ⟨entry, rfl, rfl, Except.ok.inj h⟩

/-- A path leads to a directory if one can be found there. -/
theorem isDirectory_eq_true_iff :
    d.isDirectory here p = .ok true ↔
      p.hasNul = false ∧ d.walk here p = .ok (p.locate here) ∧ d.get? (p.locate here) = some .directory := by
  constructor
  · intro h
    obtain ⟨nul, entry, way, found, directory⟩ := exists_of_ask h
    refine ⟨nul, way, ?_⟩
    cases entry with
    | directory => exact found
    | file _ => exact absurd directory nofun
  · rintro ⟨nul, way, found⟩
    exact ask_eq_of_walk nul way found _

/-- A file that can be read is at its place. -/
theorem get?_of_readBytes (h : d.readBytes here p = .ok content) :
    d.get? (p.locate here) = some (.file content) := by
  unfold readBytes status at h
  split at h
  · exact absurd h nofun
  · cases way : d.walk here p with
    | error refusal =>
      rw [way] at h
      exact absurd h nofun
    | ok place =>
      obtain rfl := walk_eq_locate way
      rw [way] at h
      dsimp only at h
      cases found : d.get? (p.locate here) with
      | none =>
        rw [found] at h
        exact absurd h nofun
      | some entry =>
        rw [found] at h
        cases entry with
        | directory => exact absurd h nofun
        | file held => exact congrArg (fun held => some (Entry.file held)) (Except.ok.inj h)

/-! ## Directories -/

/-- A directory that was made is found. -/
theorem isDirectory_of_makeDirectory {made : Disk} (h : d.makeDirectory here p = .ok made) :
    made.isDirectory here p = .ok true := by
  have grows := grows_makeDirectory h
  obtain ⟨nul, place, way, below, free, rfl⟩ := makeDirectory_eq_ok h
  obtain rfl := walk_eq_locate way
  exact isDirectory_eq_true_iff.mpr ⟨nul, walk_grows grows way, get?_put_self d .directory below⟩

/-- **Where directories are made, the path leads to one.** -/
theorem Making.isDirectory (h : Making here d p (.ok ()) after) : after.isDirectory here p = .ok true := by
  generalize ends : Except.ok () = outcome at h
  induction h with
  | made makes => exact isDirectory_of_makeDirectory makes
  | present there => exact there
  | refused | unknown | stopped => cases ends
  | deeper _ _ _ last => exact last ends

/-- **A directory that is there is not made again.** -/
theorem makeDirectories_of_isDirectory (h : d.isDirectory here p = .ok true) :
    d.makeDirectories here p = (.ok (), d) := by
  obtain ⟨nul, way, found⟩ := isDirectory_eq_true_iff.mp h
  have present : d.makeDirectory here p = .error (.disk ⟨.present, some p.text⟩) := by
    unfold makeDirectory
    rw [nul, way]
    dsimp only
    rw [found]
    rfl
  rw [makeDirectories_of_denied present rfl]
  unfold tolerate
  rw [h]
  rfl

/-! ## Refusals -/

/-- What a question about a path fails with is a refusal of the disk. -/
theorem isDisk_of_isDirectory_error {fault : Fault} (h : d.isDirectory here p = .error fault) :
    fault.isDisk = true := by
  obtain ⟨-, refusal, -, -, rfl⟩ := walk_of_isDirectory_error h
  rfl

theorem isDisk_of_makeDirectory {fault : Fault} (nul : p.hasNul = false)
    (h : d.makeDirectory here p = .error fault) : fault.isDisk = true := by
  unfold makeDirectory at h
  rw [nul, if_neg Bool.false_ne_true] at h
  split at h
  · rw [← Except.error.inj h]
    rfl
  · split at h
    · rw [← Except.error.inj h]
      rfl
    · exact absurd h nofun

/-- **Directories are refused by the disk**, if their path can have a name at all. -/
theorem Making.isDisk {fault : Fault} (h : Making here d p (.error fault) after) (nul : p.hasNul = false) :
    fault.isDisk = true := by
  generalize ends : Except.error fault = outcome at h
  induction h with
  | made | present => cases ends
  | refused denied =>
    obtain rfl := Except.error.inj ends
    exact isDisk_of_makeDirectory nul denied
  | unknown untold =>
    obtain rfl := Except.error.inj ends
    exact isDisk_of_isDirectory_error untold
  | stopped _ above => exact above (hasNul_parent nul) ends
  | deeper _ _ _ last => exact last nul ends

/-- A file is refused by the disk, if its path can have a name at all. -/
theorem isDisk_of_fileToWrite {fault : Fault} (nul : p.hasNul = false)
    (h : d.fileToWrite here p = .error fault) : fault.isDisk = true := by
  unfold fileToWrite at h
  rw [nul, if_neg Bool.false_ne_true] at h
  split at h
  · rw [← Except.error.inj h]
    rfl
  · split at h
    · rw [← Except.error.inj h]
      rfl
    · exact absurd h nofun

/-! ## Files -/

/-- A directory stays one when a file is written. -/
theorem isDirectory_of_writeFile (h : d.writeFile here file content = .ok after)
    (known : d.isDirectory here p = .ok true) : after.isDirectory here p = .ok true := by
  obtain ⟨at_, writes, rfl⟩ := Outcome.map_eq_ok.mp h
  obtain ⟨-, -, free⟩ := fileToWrite_eq_ok_iff.mp writes
  obtain ⟨nul, way, found⟩ := isDirectory_eq_true_iff.mp known
  have other : at_ ≠ p.locate here := by
    rintro rfl
    exact free found
  exact isDirectory_eq_true_iff.mpr
    ⟨nul, walk_put free content way, (get?_put_of_ne d _ other).trans found⟩

/-- A file that was written is there. -/
theorem pathExists_of_writeFile (h : d.writeFile here file content = .ok after) :
    after.pathExists here file = .ok true := by
  obtain ⟨at_, writes, rfl⟩ := Outcome.map_eq_ok.mp h
  obtain ⟨nul, -, -⟩ := fileToWrite_eq_ok_iff.mp writes
  obtain ⟨way, found, -⟩ := fileToWrite_put writes content
  exact ask_eq_of_walk nul way found _

/-- A file that is written where nothing could be found stands where nothing was. -/
theorem free_of_pathExists (known : d.pathExists here file = .ok false)
    (h : d.writeFile here file content = .ok after) : d.get? (file.locate here) = none := by
  obtain ⟨place, writes, -⟩ := Outcome.map_eq_ok.mp h
  obtain ⟨nul, way, -⟩ := fileToWrite_eq_ok_iff.mp writes
  obtain rfl := walk_eq_locate way
  cases found : d.get? (file.locate here) with
  | none => rfl
  | some entry =>
    have there := ask_eq_of_walk nul way found fun _ => true
    exact absurd (Except.ok.inj (known.symm.trans there)) nofun

/-! ## Places that may change -/

/-- What becomes of each place when files are stored at one place, in directories on one way: it stays, or it
was free and is a directory on the way, or it is that of the files. -/
def Confined (d after : Disk) (here : Location) (directory : FilePath) (goal : Location) : Prop :=
  ∀ place, after.get? place = d.get? place ∨
    (d.get? place = none ∧ after.get? place = some .directory ∧ directory.OnWay here place) ∨
    (place = goal ∧ d.get? place ≠ some .directory ∧ ∃ content, after.get? place = some (.file content))

namespace Confined

variable {directory : FilePath} {goal : Location}

theorem refl (d : Disk) : Confined d d here directory goal := fun _ => .inl rfl

/-- Such steps can be taken one after another. -/
theorem trans (h : Confined d between here directory goal) (h' : Confined between after here directory goal) :
    Confined d after here directory goal := by
  intro place
  rcases h' place with same | ⟨free, made, way⟩ | ⟨rfl, noDirectory, written⟩
  · rw [same]
    exact h place
  · -- What is free in between was free before.
    rcases h place with same | ⟨-, made', -⟩ | ⟨-, -, content, written⟩
    · exact .inr (.inl ⟨same ▸ free, made, way⟩)
    · exact absurd (free.symm.trans made') nofun
    · exact absurd (free.symm.trans written) nofun
  · -- What is no directory in between was none before.
    rcases h place with same | ⟨-, made, -⟩ | ⟨-, noDirectory', -⟩
    · exact .inr (.inr ⟨rfl, same ▸ noDirectory, written⟩)
    · exact absurd made noDirectory
    · exact .inr (.inr ⟨rfl, noDirectory', written⟩)

end Confined

/-- Making a directory changes its place. -/
theorem confined_makeDirectory {made : Disk} (h : d.makeDirectory here p = .ok made) {directory : FilePath}
    (way : directory.OnWay here (p.locate here)) (goal : Location) : Confined d made here directory goal := by
  obtain ⟨-, at_, leads, below, free, rfl⟩ := makeDirectory_eq_ok h
  obtain rfl := walk_eq_locate leads
  intro place
  by_cases same : p.locate here = place
  · subst same
    exact .inr (.inl ⟨free, get?_put_self d .directory below, way⟩)
  · exact .inl (get?_put_of_ne d .directory same)

/-- **Directories are made on the way of their path**, whether this succeeds or not. -/
theorem Making.confined {outcome : Except Fault Unit} (h : Making here d p outcome after)
    {directory : FilePath} (way : ∀ place, p.OnWay here place → directory.OnWay here place)
    (goal : Location) : Confined d after here directory goal := by
  induction h with
  | @made _ _ p makes => exact confined_makeDirectory makes (way _ (p.onWay_locate here)) goal
  | present | refused | unknown => exact .refl _
  | stopped _ above => exact above fun place on => way place on.of_parent
  -- What is on the way of the directory above is on this way, too.
  | deeper _ _ above last => exact (above fun place on => way place on.of_parent).trans (last way)

theorem confined_makeDirectories (d : Disk) (here : Location) (p : FilePath) (goal : Location) :
    Confined d (d.makeDirectories here p).2 here p goal :=
  (making_makeAbove d here p p.parts.length).confined (fun _ on => on) goal

/-- **A file is written at the place of its path.** -/
theorem confined_writeFile (h : d.writeFile here file content = .ok after) (directory : FilePath) :
    Confined d after here directory (file.locate here) := by
  obtain ⟨at_, free, rfl⟩ := Outcome.map_eq_ok.mp h
  obtain ⟨-, way, noDirectory⟩ := fileToWrite_eq_ok_iff.mp free
  obtain ⟨-, found, -⟩ := fileToWrite_put free content
  obtain rfl := walk_eq_locate way
  intro place
  by_cases same : file.locate here = place
  · subst same
    exact .inr (.inr ⟨rfl, noDirectory, content, found⟩)
  · exact .inl (get?_put_of_ne d _ same)

end Disk

end StaticAccessors
