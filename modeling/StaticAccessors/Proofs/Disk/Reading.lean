import StaticAccessors.Proofs.Disk.Growth

/-!
# Reading files

A path leads to an entry, or it leads nowhere, or it cannot be followed at all, which is so exactly if it is too long
or a name on its way is. The question whether a path leads to anything is answered in the first two cases only.

## Contents
- `Blocks`, and `walk_error`: what can go wrong on the way of a path.
- `Absent`, `TooLong`, `There`, and `absent_or_tooLong_or_there`: where a path leads.
- `readBytes_error`, `readText_eq_error_iff`: what keeps a file from being read.
- `there_of_readBytes`, `there_of_readText`: what can be read is there.
-/

namespace StaticAccessors.Disk

open Outcome

variable {d : Disk} {here : Location} {p file : FilePath} {refusal : DiskRefusal} {fault : Fault}

/-! ## The way of a path -/

/-- The refusals that a way can meet. -/
def Blocks (refusal : DiskRefusal) : Prop :=
  refusal = .notFound ∨ refusal = .notADirectory ∨ refusal = .nameTooLong

theorem walkFrom_error {from_ : Location} {parts : List String} (h : d.walkFrom from_ parts = .error refusal) :
    Blocks refusal := by
  induction parts generalizing from_ with
  | nil => exact absurd h nofun
  | cons part rest ih =>
    unfold walkFrom at h
    split at h
    · exact .inl (Except.error.inj h).symm
    · exact .inr (.inl (Except.error.inj h).symm)
    · split at h
      · exact .inr (.inr (Except.error.inj h).symm)
      · exact ih h

theorem walk_error (h : d.walk here p = .error refusal) : Blocks refusal := by
  unfold walk at h
  split at h
  · exact .inr (.inr (Except.error.inj h).symm)
  · exact walkFrom_error h

/-- The entry that a path leads to is refused for the way, or nothing is there. -/
theorem status_error (h : d.status here p = .error refusal) :
    d.walk here p = .error refusal ∨ refusal = .notFound := by
  unfold status at h
  cases way : d.walk here p with
  | error met =>
    rw [way] at h
    exact .inl (congrArg _ (Except.error.inj h))
  | ok place =>
    rw [way] at h
    dsimp only at h
    split at h
    · exact absurd h nofun
    · exact .inr (Except.error.inj h).symm

/-- A path is too long if it is found to be on the way. -/
theorem status_nameTooLong_iff :
    d.status here p = .error .nameTooLong ↔ d.walk here p = .error .nameTooLong := by
  constructor
  · intro h
    rcases status_error h with way | none_
    · exact way
    · exact absurd none_ nofun
  · intro way
    unfold status
    rw [way]

/-! ## What is there -/

/-- A path leads nowhere: it cannot be the name of anything, nothing is found, or a file stands in its way. -/
def Absent (d : Disk) (here : Location) (p : FilePath) : Prop :=
  p.hasNul = true ∨ d.status here p = .error .notFound ∨ d.status here p = .error .notADirectory

/-- A path is too long, or a name on its way is. -/
structure TooLong (d : Disk) (here : Location) (p : FilePath) : Prop where
  named : p.hasNul = false
  long : d.walk here p = .error .nameTooLong

/-- A path leads to an entry. -/
structure There (d : Disk) (here : Location) (p : FilePath) : Prop where
  named : p.hasNul = false
  found : ∃ entry, d.status here p = .ok entry

/-- **A path is absent, or too long, or leads to an entry.** -/
theorem absent_or_tooLong_or_there (d : Disk) (here : Location) (p : FilePath) :
    d.Absent here p ∨ d.TooLong here p ∨ d.There here p := by
  cases nul : p.hasNul with
  | true => exact .inl (.inl nul)
  | false =>
  cases found : d.status here p with
  | ok entry => exact .inr (.inr ⟨nul, entry, found⟩)
  | error refusal =>
    have met : Blocks refusal := (status_error found).elim walk_error .inl
    rcases met with rfl | rfl | rfl
    · exact .inl (.inr (.inl found))
    · exact .inl (.inr (.inr found))
    · exact .inr (.inl ⟨nul, status_nameTooLong_iff.mp found⟩)

theorem pathExists_of_absent (h : d.Absent here p) : d.pathExists here p = .ok false := by
  unfold pathExists ask
  rcases h with nul | none_ | none_
  · rw [nul]
    rfl
  · rw [none_]
    exact ite_self _
  · rw [none_]
    exact ite_self _

theorem pathExists_of_tooLong (h : d.TooLong here p) :
    d.pathExists here p = .error (.disk ⟨.nameTooLong, some p.text⟩) := by
  unfold pathExists ask
  rw [h.named, status_nameTooLong_iff.mpr h.long]
  rfl

theorem pathExists_of_there (h : d.There here p) : d.pathExists here p = .ok true := by
  obtain ⟨entry, found⟩ := h.found
  unfold pathExists ask
  rw [h.named, found]
  rfl

/-! ## Files -/

/-- A file that cannot be read is refused by the disk, or its name is none. -/
theorem readBytes_error (h : d.readBytes here file = .error fault) :
    (file.hasNul = true ∧ fault = .badValue) ∨ (file.hasNul = false ∧ ∃ refusal, fault = .disk refusal) := by
  unfold Disk.readBytes at h
  cases nul : file.hasNul with
  | true =>
    rw [nul] at h
    exact .inl ⟨rfl, (Except.error.inj h).symm⟩
  | false =>
    rw [nul, if_neg Bool.false_ne_true] at h
    split at h
    · exact absurd h nofun
    · exact .inr ⟨rfl, _, (Except.error.inj h).symm⟩
    · exact .inr ⟨rfl, _, (Except.error.inj h).symm⟩

/-- A file cannot be read as text if it cannot be read at all, or if its bytes are no text. -/
theorem readText_eq_error_iff :
    d.readText here file = .error fault ↔ d.readBytes here file = .error fault ∨
      ∃ content, d.readBytes here file = .ok content ∧ String.fromUTF8? content = none ∧
        fault = .undecodable := by
  unfold Disk.readText
  rw [bind_eq_error]
  refine or_congr Iff.rfl (exists_congr fun content => and_congr Iff.rfl ?_)
  cases String.fromUTF8? content with
  | some text => exact ⟨nofun, nofun⟩
  | none => exact ⟨fun h => ⟨rfl, (Except.error.inj h).symm⟩, fun ⟨_, h⟩ => h ▸ rfl⟩

/-- A file whose bytes can be read is there. -/
theorem there_of_readBytes {content : ByteArray} (h : d.readBytes here file = .ok content) :
    d.There here file := by
  unfold readBytes at h
  split at h
  · exact absurd h nofun
  · rename_i named
    refine ⟨Bool.eq_false_iff.mpr named, ?_⟩
    split at h
    · rename_i found
      exact ⟨_, found⟩
    · exact absurd h nofun
    · exact absurd h nofun

/-- So is a file that can be read as text. -/
theorem there_of_readText {text : String} (h : d.readText here file = .ok text) : d.There here file := by
  obtain ⟨content, bytes, -⟩ := bind_eq_ok.mp h
  exact there_of_readBytes bytes

end StaticAccessors.Disk
