import StaticAccessors.Disk.Access
import StaticAccessors.Proofs.Outcome
import StaticAccessors.Proofs.Table

/-!
# Storing files

A file is stored in three steps: the directories above it are made, it is opened, which empties it, and
it receives its content. The path leads to the same place all the while, since only a place that was no
directory is written. So the content of a stored file is the last that was written, and whether it can
be stored does not depend on the content.

## Contents
- `walk_put`, `fileToWrite_put`: paths over a disk on which a file was written.
- `writeFile_of_openForWrite`, `readBytes_writeFile`, `readText_of_readBytes`.
- `makeDirectories_of_isDirectory_error`: where it cannot be told what is there, nothing is made.
- `Making`, and `making_of_makeDirectories`: all that making directories can come to.
- `Disk.Grows`, and `Making.grows`: what is there stays.
- `Disk.store`, `Disk.Takes`, and `readBytes_store`, `growsAt_store`.
-/

namespace StaticAccessors.Disk

open Outcome

variable {d : Disk} {here at_ : Location} {p directory file : FilePath} {content : ByteArray}

/-- What was put to a place is replaced by what is put there next. -/
theorem put_put (d : Disk) (at_ : Location) (first second : Entry) :
    (d.put at_ first).put at_ second = d.put at_ second :=
  congrArg Disk.mk (Table.put_put d.entries at_ first second)

/-! ## Paths -/

/-- A file that is written in place of no directory leaves all ways as they are. -/
theorem walkFrom_put (free : d.get? at_ ≠ some .directory) (content : ByteArray) {from_ goal : Location}
    {parts : List String} (h : d.walkFrom from_ parts = .ok goal) :
    (d.put at_ (.file content)).walkFrom from_ parts = .ok goal := by
  induction parts generalizing from_ with
  | nil => exact h
  | cons part rest ih =>
    unfold walkFrom at h ⊢
    cases entry : d.get? from_ with
    | none =>
      rw [entry] at h
      exact absurd h nofun
    | some found =>
      cases found with
      | file _ =>
        rw [entry] at h
        exact absurd h nofun
      | directory =>
        -- A way only leads through directories, and the place that is written was none.
        have other : at_ ≠ from_ := by
          rintro rfl
          exact free entry
        rw [get?_put_of_ne d _ other, entry]
        rw [entry] at h
        dsimp only at h ⊢
        split at h
        · exact absurd h nofun
        · rename_i short
          rw [if_neg short]
          exact ih h

theorem walk_put (free : d.get? at_ ≠ some .directory) (content : ByteArray) {goal : Location}
    (h : d.walk here p = .ok goal) : (d.put at_ (.file content)).walk here p = .ok goal := by
  unfold walk at h ⊢
  split at h
  · exact absurd h nofun
  · rename_i short
    rw [if_neg short]
    exact walkFrom_put free content h

/-- The place of a file that can be written holds no directory. -/
theorem fileToWrite_eq_ok_iff :
    d.fileToWrite here p = .ok at_ ↔
      p.hasNul = false ∧ d.walk here p = .ok at_ ∧ d.get? at_ ≠ some .directory := by
  unfold fileToWrite
  cases nul : p.hasNul with
  | true => simp
  | false =>
    simp only [Bool.false_eq_true, if_false, true_and]
    cases way : d.walk here p with
    | error refusal =>
      constructor
      · intro h
        exact absurd h nofun
      · rintro ⟨h, -⟩
        exact absurd h nofun
    | ok place =>
      dsimp only
      constructor
      · intro h
        split at h
        · exact absurd h nofun
        · rename_i free
          obtain rfl := Except.ok.inj h
          exact ⟨rfl, free⟩
      · rintro ⟨same, free⟩
        obtain rfl := Except.ok.inj same
        split
        · rename_i found
          exact absurd found free
        · rfl

/-- A file that was written can be written again, and is found at the same place. -/
theorem fileToWrite_put (h : d.fileToWrite here p = .ok at_) (content : ByteArray) :
    (d.put at_ (.file content)).walk here p = .ok at_ ∧
      (d.put at_ (.file content)).get? at_ = some (.file content) ∧
      (d.put at_ (.file content)).fileToWrite here p = .ok at_ := by
  obtain ⟨nul, way, free⟩ := fileToWrite_eq_ok_iff.mp h
  have below : at_ ≠ [] := by
    rintro rfl
    exact free rfl
  have entry := get?_put_self d (.file content) below
  have again := walk_put free content way
  refine ⟨again, entry, fileToWrite_eq_ok_iff.mpr ⟨nul, again, ?_⟩⟩
  rw [entry]
  exact nofun

/-! ## Writing -/

/-- **A file that was opened is written** as if it had not been opened before. -/
theorem writeFile_of_openForWrite {opened : Disk} (h : d.openForWrite here p = .ok opened)
    (content : ByteArray) : opened.writeFile here p content = d.writeFile here p content := by
  obtain ⟨place, free, rfl⟩ := map_eq_ok.mp h
  obtain ⟨-, -, again⟩ := fileToWrite_put free .empty
  unfold writeFile
  rw [again, free]
  exact congrArg Except.ok (put_put d place _ _)

/-- A file that was opened can be written. -/
theorem exists_writeFile_of_openForWrite {opened : Disk} (h : d.openForWrite here p = .ok opened)
    (content : ByteArray) : ∃ after, opened.writeFile here p content = .ok after := by
  obtain ⟨place, free, rfl⟩ := map_eq_ok.mp h
  obtain ⟨-, -, again⟩ := fileToWrite_put free .empty
  exact ⟨_, map_eq_ok.mpr ⟨place, again, rfl⟩⟩

/-- **A file that was written holds its content.** -/
theorem readBytes_writeFile {after : Disk} (h : d.writeFile here p content = .ok after) :
    after.readBytes here p = .ok content := by
  obtain ⟨place, free, rfl⟩ := map_eq_ok.mp h
  obtain ⟨nul, -, -⟩ := fileToWrite_eq_ok_iff.mp free
  obtain ⟨way, entry, -⟩ := fileToWrite_put free content
  unfold readBytes status
  rw [nul, way]
  dsimp only
  rw [entry]
  rfl

/-- The bytes of a text are read as that text, with its line ends unified. -/
theorem readText_of_readBytes {s : String} (h : d.readBytes here p = .ok s.toUTF8) :
    d.readText here p = .ok (String.ofList (Text.unifyLines s.toList)) := by
  have decoded : String.fromUTF8? s.toUTF8 = some s := by
    unfold String.fromUTF8? String.toUTF8
    rw [dif_pos s.isValidUTF8]
    rfl
  unfold readText
  refine bind_eq_ok.mpr ⟨_, h, ?_⟩
  rw [decoded]
  rfl

/-! ## Directories -/

/-- A question about a path is only refused for its way. -/
theorem walk_of_isDirectory_error {fault : Fault} (h : d.isDirectory here p = .error fault) :
    p.hasNul = false ∧ ∃ refusal, refusal ≠ .notFound ∧ d.walk here p = .error refusal ∧
      fault = .disk ⟨refusal, some p.text⟩ := by
  unfold isDirectory ask at h
  cases nul : p.hasNul with
  | true =>
    rw [nul] at h
    exact absurd h nofun
  | false =>
    rw [nul] at h
    refine ⟨rfl, ?_⟩
    unfold status at h
    cases way : d.walk here p with
    | error refusal =>
      rw [way] at h
      refine ⟨refusal, ?_, rfl, ?_⟩
      · rintro rfl
        exact absurd h nofun
      · cases refusal with
        | notFound | notADirectory => exact absurd h nofun
        | _ => exact (Except.error.inj h).symm
    | ok place =>
      rw [way] at h
      dsimp only at h
      cases entry : d.get? place <;> rw [entry] at h <;> exact absurd h nofun

/-- Where a directory is refused, and not for a missing one above it, no other is tried. -/
theorem makeDirectories_of_denied {fault : Fault} (denied : d.makeDirectory here p = .error fault)
    (found : isNotFound fault = false) : d.makeDirectories here p = d.tolerate here p fault := by
  unfold makeDirectories
  cases p.parts.length with
  | zero =>
    unfold makeAbove makeLast
    rw [denied]
    dsimp only
    rw [found, if_neg Bool.false_ne_true]
  | succ missing =>
    unfold makeAbove
    rw [denied]
    dsimp only
    rw [found, if_neg Bool.false_ne_true]

/-- Where it cannot be told whether there is a directory, none can be made. -/
theorem makeDirectories_of_isDirectory_error {fault : Fault} (h : d.isDirectory here p = .error fault) :
    d.makeDirectories here p = (.error fault, d) := by
  obtain ⟨nul, refusal, present, way, cause⟩ := walk_of_isDirectory_error h
  have denied : d.makeDirectory here p = .error fault := by
    unfold makeDirectory
    rw [nul, way, cause]
    rfl
  have found : isNotFound fault = false := by
    rw [cause]
    cases refusal with
    | notFound => exact absurd rfl present
    | _ => rfl
  rw [makeDirectories_of_denied denied found]
  unfold tolerate
  rw [if_pos (by rw [cause]; rfl), h]

/-- A directory is made where nothing is. -/
theorem makeDirectory_eq_ok {made : Disk} (h : d.makeDirectory here p = .ok made) :
    p.hasNul = false ∧ ∃ place, d.walk here p = .ok place ∧ place ≠ [] ∧ d.get? place = none ∧
      made = d.put place .directory := by
  unfold makeDirectory at h
  split at h
  · exact absurd h nofun
  rename_i nul
  split at h
  · exact absurd h nofun
  rename_i place way
  split at h
  · exact absurd h nofun
  rename_i free
  have below : place ≠ [] := by
    rintro rfl
    exact absurd free nofun
  exact ⟨Bool.eq_false_iff.mpr nul, place, way, below, free, (Except.ok.inj h).symm⟩

/-- What making a directory can come to, with those above it. -/
inductive Making (here : Location) : Disk → FilePath → Except Fault Unit → Disk → Prop
  | made {d made : Disk} {p : FilePath} : d.makeDirectory here p = .ok made →
      Making here d p (.ok ()) made
  /-- It is refused, but there is one. -/
  | present {d : Disk} {p : FilePath} : d.isDirectory here p = .ok true → Making here d p (.ok ()) d
  | refused {d : Disk} {p : FilePath} {fault : Fault} : d.makeDirectory here p = .error fault →
      Making here d p (.error fault) d
  /-- It is refused, and it cannot be told whether there is one. -/
  | unknown {d : Disk} {p : FilePath} {fault : Fault} : d.isDirectory here p = .error fault →
      Making here d p (.error fault) d
  /-- The one above it cannot be made. -/
  | stopped {d after : Disk} {p : FilePath} {fault : Fault} : Making here d p.parent (.error fault) after →
      Making here d p (.error fault) after
  /-- The one above it is made first. -/
  | deeper {d between after : Disk} {p : FilePath} {outcome : Except Fault Unit} :
      Making here d p.parent (.ok ()) between → Making here between p outcome after →
      Making here d p outcome after

theorem making_tolerate {fault : Fault} (denied : d.makeDirectory here p = .error fault) :
    Making here d p (d.tolerate here p fault).1 (d.tolerate here p fault).2 := by
  unfold tolerate
  split
  · split
    · rename_i there
      exact .present there
    · exact .refused denied
    · rename_i other untold
      exact .unknown untold
  · exact .refused denied

theorem making_makeLast (d : Disk) (here : Location) (p : FilePath) :
    Making here d p (d.makeLast here p).1 (d.makeLast here p).2 := by
  unfold makeLast
  split
  · rename_i made makes
    exact .made makes
  · rename_i fault denied
    split
    · exact .refused denied
    · exact making_tolerate denied

theorem making_makeAbove (d : Disk) (here : Location) (p : FilePath) (missing : Nat) :
    Making here d p (d.makeAbove here p missing).1 (d.makeAbove here p missing).2 := by
  induction missing generalizing p with
  | zero => exact making_makeLast d here p
  | succ missing ih =>
    unfold makeAbove
    split
    · rename_i made makes
      exact .made makes
    · rename_i fault denied
      split
      · split
        · exact .refused denied
        · -- The directories above are made first, by the induction hypothesis.
          have above := ih p.parent
          split
          · rename_i other after makes
            rw [makes] at above
            exact .stopped above
          · rename_i after makes
            rw [makes] at above
            exact .deeper above (making_makeLast after here p)
      · exact making_tolerate denied

/-- **Making directories comes to one of these.** -/
theorem making_of_makeDirectories {outcome : Except Fault Unit} {after : Disk}
    (h : d.makeDirectories here p = (outcome, after)) : Making here d p outcome after := by
  have makes := making_makeAbove d here p p.parts.length
  rwa [show d.makeAbove here p p.parts.length = (outcome, after) from h] at makes

/-! ## What stays -/

/-- Whether one disk is another one to which at most directories were added at the places in question. -/
def GrowsAt (d after : Disk) (places : Location → Prop) : Prop :=
  ∀ place, places place →
    after.get? place = d.get? place ∨ d.get? place = none ∧ after.get? place = some .directory

/-- Whether at most directories were added anywhere. -/
def Grows (d after : Disk) : Prop := d.GrowsAt after fun _ => True

theorem Grows.refl (d : Disk) : d.Grows d := fun _ _ => .inl rfl

theorem Grows.trans {between after : Disk} (h : d.Grows between) (h' : between.Grows after) :
    d.Grows after := by
  intro place _
  rcases h place trivial, h' place trivial with ⟨same | ⟨none, added⟩, same' | ⟨none', added'⟩⟩
  · exact .inl (same'.trans same)
  · exact .inr ⟨same ▸ none', added'⟩
  · exact .inr ⟨none, same'.trans added⟩
  · exact .inr ⟨none, added'⟩

/-- A directory is only made where nothing is. -/
theorem grows_makeDirectory {made : Disk} (h : d.makeDirectory here p = .ok made) : d.Grows made := by
  obtain ⟨-, at_, -, below, free, rfl⟩ := makeDirectory_eq_ok h
  intro place _
  by_cases same : at_ = place
  · subst same
    exact .inr ⟨free, get?_put_self d .directory below⟩
  · exact .inl (get?_put_of_ne d .directory same)

/-- **Making directories adds directories**, whether it succeeds or not. -/
theorem Making.grows {outcome : Except Fault Unit} {after : Disk} (h : Making here d p outcome after) :
    d.Grows after := by
  induction h with
  | made makes => exact grows_makeDirectory makes
  | present | refused | unknown => exact .refl _
  | stopped _ ih => exact ih
  | deeper _ _ above last => exact above.trans last

/-! ## Storing -/

/-- The disk with some directory made and some file written. -/
def store (d : Disk) (here : Location) (directory file : FilePath) (content : ByteArray) :
    Except Fault Disk :=
  match d.makeDirectories here directory with
  | (.ok (), made) => made.writeFile here file content
  | (.error fault, _) => .error fault

/-- A disk on which some directory can be made, and some file then be opened. -/
def Takes (d : Disk) (here : Location) (directory file : FilePath) : Prop :=
  ∃ made opened, d.makeDirectories here directory = (.ok (), made) ∧ made.openForWrite here file = .ok opened

/-- A path at which a file can be opened is free of the character that no name can hold. -/
theorem Takes.hasNul (h : d.Takes here directory file) : file.hasNul = false := by
  obtain ⟨made, opened, -, open_⟩ := h
  obtain ⟨place, free, -⟩ := map_eq_ok.mp open_
  exact (fileToWrite_eq_ok_iff.mp free).1

theorem readBytes_store {after : Disk} (h : d.store here directory file content = .ok after) :
    after.readBytes here file = .ok content := by
  unfold store at h
  split at h
  · exact readBytes_writeFile h
  · exact absurd h nofun

/-- **Storing a file touches no other one**: all that is added besides are directories. -/
theorem growsAt_store {after : Disk} (h : d.store here directory file content = .ok after) :
    ∃ at_, after.walk here file = .ok at_ ∧ d.GrowsAt after (· ≠ at_) := by
  unfold store at h
  split at h
  · rename_i made makes
    have grows := (making_of_makeDirectories makes).grows
    obtain ⟨at_, free, rfl⟩ := map_eq_ok.mp h
    refine ⟨at_, (fileToWrite_put free content).1, fun place other => ?_⟩
    rw [get?_put_of_ne made _ (Ne.symm other)]
    exact grows place trivial
  · exact absurd h nofun

end StaticAccessors.Disk
