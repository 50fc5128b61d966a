import StaticAccessors.Proofs.Disk.Growth

/-!
# Disks on which a file was stored

Where storing a file succeeds it settles every place of the disk (`Laid`): the file has its content, all that
is on the way of its directory is a directory, and all else is as it was. What was made on the way, and in
which order, does not matter any more. So the same file can be stored once more without any change
(`store_again`), and two files at different places come to one disk in either order (`Laid.comm`).

## Contents
- `writeFile_again`, `store_again`: storing what is there; `takes_of_store`.
- `get?_of_onWay`: the way of a directory.
- `confined_store`, `Laid` and `laid_store`: what storing comes to.
- `Laid.comm`.
-/

namespace StaticAccessors.Disk

variable {d after : Disk} {here : Location} {p directory file : FilePath} {content : ByteArray}

/-! ## Writing what is there -/

/-- **A file that was written is written again** without any change. -/
theorem writeFile_again (h : d.writeFile here file content = .ok after) :
    after.writeFile here file content = .ok after := by
  obtain ⟨place, free, rfl⟩ := Outcome.map_eq_ok.mp h
  obtain ⟨-, -, again⟩ := fileToWrite_put free content
  exact Outcome.map_eq_ok.mpr ⟨place, again, put_put d place _ _⟩

/-- **A file that was stored is stored again** without any change. -/
theorem store_again (h : d.store here directory file content = .ok after) :
    after.store here directory file content = .ok after := by
  unfold store at h
  split at h
  · rename_i made makes
    have there := isDirectory_of_writeFile h (making_of_makeDirectories makes).isDirectory
    unfold store
    rw [makeDirectories_of_isDirectory there]
    exact writeFile_again h
  · exact absurd h nofun

/-- What was stored could be stored. -/
theorem takes_of_store (h : d.store here directory file content = .ok after) : d.Takes here directory file := by
  unfold store at h
  split at h
  · rename_i made makes
    obtain ⟨place, free, -⟩ := Outcome.map_eq_ok.mp h
    exact ⟨made, _, makes, Outcome.map_eq_ok.mpr ⟨place, free, rfl⟩⟩
  · exact absurd h nofun

/-! ## The way of a directory -/

/-- A way that can be followed passes directories only, and ends at one if its end is one. -/
theorem get?_of_walkFrom {from_ goal : Location} {parts front : List String}
    (h : d.walkFrom from_ parts = .ok goal) (ends : d.get? goal = some .directory)
    (passed : front <+: parts) : d.get? (Location.follow from_ front) = some .directory := by
  induction parts generalizing from_ front with
  | nil =>
    obtain rfl := List.prefix_nil.mp passed
    rw [Except.ok.inj h]
    exact ends
  | cons part rest ih =>
    unfold walkFrom at h
    split at h
    · exact absurd h nofun
    · exact absurd h nofun
    · rename_i entry
      split at h
      · exact absurd h nofun
      · cases front with
        | nil => exact entry
        | cons first front =>
          obtain ⟨rfl, ahead⟩ := List.cons_prefix_cons.mp passed
          have further := ih h ahead
          exact further

/-- **All that is on the way of a directory are directories.** -/
theorem get?_of_onWay (h : d.isDirectory here p = .ok true) {place : Location} (on : p.OnWay here place) :
    d.get? place = some .directory := by
  obtain ⟨-, way, found⟩ := isDirectory_eq_true_iff.mp h
  obtain ⟨front, passed, rfl⟩ := on
  unfold walk at way
  split at way
  · exact absurd way nofun
  · exact get?_of_walkFrom way found passed

/-! ## What storing comes to -/

/-- A file that is stored changes its place and the way of its directory. -/
theorem confined_store (h : d.store here directory file content = .ok after) :
    d.Confined after here directory (file.locate here) := by
  have directories := confined_makeDirectories d here directory (file.locate here)
  unfold store at h
  split at h
  · rename_i made makes
    rw [makes] at directories
    exact directories.trans (confined_writeFile h directory)
  · exact absurd h nofun

/-- A disk after a file was stored on another one, place by place. -/
structure Laid (d after : Disk) (here : Location) (directory file : FilePath) (content : ByteArray) : Prop where
  /-- no file stood on the way of the directory -/
  clear : ∀ place, directory.OnWay here place → ∀ other, d.get? place ≠ some (.file other)
  written : after.get? (file.locate here) = some (.file content)
  passed : ∀ place, directory.OnWay here place → after.get? place = some .directory
  kept : ∀ place, place ≠ file.locate here → ¬directory.OnWay here place → after.get? place = d.get? place

/-- **Storing a file comes to this.** -/
theorem laid_store (h : d.store here directory file content = .ok after) :
    d.Laid after here directory file content := by
  have confined := confined_store h
  unfold store at h
  split at h
  · rename_i made makes
    have there := isDirectory_of_writeFile h (making_of_makeDirectories makes).isDirectory
    obtain ⟨place, free, rfl⟩ := Outcome.map_eq_ok.mp h
    obtain ⟨-, way, -⟩ := fileToWrite_eq_ok_iff.mp free
    obtain ⟨-, written, -⟩ := fileToWrite_put free content
    obtain rfl := walk_eq_locate way
    refine ⟨fun place on other found => ?_, written, fun place on => get?_of_onWay there on,
      fun place apart off => ?_⟩
    · have directory := get?_of_onWay there on
      rcases confined place with same | ⟨none_, -⟩ | ⟨-, -, content, file⟩
      · exact absurd (directory.symm.trans (same.trans found)) nofun
      · exact absurd (none_.symm.trans found) nofun
      · exact absurd (directory.symm.trans file) nofun
    · rcases confined place with same | ⟨-, -, on⟩ | ⟨same, -⟩
      · exact same
      · exact absurd on off
      · exact absurd same apart
  · exact absurd h nofun

namespace Laid

variable {d₁ d₂ d₁₂ d₂₁ : Disk} {here₁ here₂ : Location} {directory₁ directory₂ file₁ file₂ : FilePath}
  {content₁ content₂ : ByteArray}

/-- A file is not on the way of a directory that is made after it was stored. -/
theorem not_onWay (first : Laid d d₁ here₁ directory₁ file₁ content₁)
    (second : Laid d₁ d₁₂ here₂ directory₂ file₂ content₂) :
    ¬directory₂.OnWay here₂ (file₁.locate here₁) :=
  fun on => second.clear _ on _ first.written

/-- **Two files that can be stored in either order** come to the same disk in both, if they stand at different
places. -/
theorem comm (first : Laid d d₁ here₁ directory₁ file₁ content₁)
    (second : Laid d₁ d₁₂ here₂ directory₂ file₂ content₂) (first' : Laid d d₂ here₂ directory₂ file₂ content₂)
    (second' : Laid d₂ d₂₁ here₁ directory₁ file₁ content₁)
    (apart : file₁.locate here₁ ≠ file₂.locate here₂) (place : Location) :
    d₁₂.get? place = d₂₁.get? place := by
  by_cases one : place = file₁.locate here₁
  · rw [one, second'.written, second.kept _ apart (first.not_onWay second), first.written]
  by_cases two : place = file₂.locate here₂
  · rw [two, second.written, second'.kept _ (Ne.symm apart) (first'.not_onWay second'), first'.written]
  by_cases on₁ : directory₁.OnWay here₁ place
  · rw [second'.passed _ on₁]
    by_cases on₂ : directory₂.OnWay here₂ place
    · exact second.passed _ on₂
    · rw [second.kept _ two on₂, first.passed _ on₁]
  · rw [second'.kept _ one on₁]
    by_cases on₂ : directory₂.OnWay here₂ place
    · rw [second.passed _ on₂, first'.passed _ on₂]
    · rw [second.kept _ two on₂, first.kept _ one on₁, first'.kept _ two on₂]

end Laid

end StaticAccessors.Disk
