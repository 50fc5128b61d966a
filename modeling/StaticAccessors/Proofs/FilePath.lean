import StaticAccessors.FilePath
import StaticAccessors.Proofs.Text.Cutting

/-!
# Paths and how they are written

A path that was read has parts that are neither empty nor a dot and hold no slash (`Clean`). What is written
for it, with one more slash at the end, is cut at its slashes into the parts again, with an empty piece for
each slash at the front (`text_slash`). So one path contains another, part by part, exactly if what is
written for the first begins what is written for the second, as long as the first has a part at all
(`pieces_prefix_iff`).

## Contents
- `FilePath.Clean`, and `clean_ofText`.
- `slashed`, and `slashed_prefix_iff`: texts with a slash behind each.
- `pieces`, and `text_slash`: a path and its written form.
- `Contains`, and `pieces_prefix_iff`.
-/

namespace StaticAccessors

/-- What stands before the slashes of an anchor. -/
def Anchor.pieces : Anchor → List String
  | .here => []
  | .root => [""]
  | .doubleRoot => ["", ""]

namespace FilePath

open Text (prefix_cut_iff not_mem_of_mem_splitChar)

variable {p q : FilePath}

/-- A path as it is read: no part is empty or a dot, or holds a slash. -/
structure Clean (p : FilePath) : Prop where
  some_ : ∀ part ∈ p.parts, part ≠ ""
  noDot : ∀ part ∈ p.parts, part ≠ "."
  slashless : ∀ part ∈ p.parts, '/' ∉ part.toList

/-- **What is read is a clean path.** -/
theorem clean_ofText (s : String) : (ofText s).Clean := by
  have of_mem {part : String} (h : part ∈ (ofText s).parts) :
      part ≠ "" ∧ part ≠ "." ∧ '/' ∉ part.toList := by
    obtain ⟨cs, listed, rfl⟩ := List.mem_map.mp h
    obtain ⟨cut, kept⟩ := List.mem_filter.mp listed
    rw [Bool.and_eq_true, decide_eq_true_eq, decide_eq_true_eq] at kept
    refine ⟨fun none => kept.1 ?_, fun dot => kept.2 ?_, ?_⟩
    · rw [← String.toList_ofList (l := cs), none]
      rfl
    · rw [← String.toList_ofList (l := cs), dot]
      rfl
    · rw [String.toList_ofList]
      exact not_mem_of_mem_splitChar cut
  exact ⟨fun _ h => (of_mem h).1, fun _ h => (of_mem h).2.1, fun _ h => (of_mem h).2.2⟩

/-- Parts with a slash behind each. -/
def slashed (parts : List String) : List Char := parts.flatMap fun part => part.toList ++ ['/']

theorem slashed_cons (part : String) (rest : List String) :
    slashed (part :: rest) = part.toList ++ '/' :: slashed rest := by
  unfold slashed
  rw [List.flatMap_cons, List.append_assoc]
  rfl

theorem slashed_append (front back : List String) : slashed (front ++ back) = slashed front ++ slashed back :=
  List.flatMap_append

/-- Parts with slashes behind them begin others exactly if the parts do. -/
theorem slashed_prefix_iff {parts others : List String} (free : ∀ part ∈ parts, '/' ∉ part.toList)
    (free' : ∀ part ∈ others, '/' ∉ part.toList) : slashed parts <+: slashed others ↔ parts <+: others := by
  induction parts generalizing others with
  | nil => exact iff_of_true List.nil_prefix List.nil_prefix
  | cons part rest ih =>
    rw [List.forall_mem_cons] at free
    cases others with
    | nil =>
      refine iff_of_false (fun h => ?_) (fun h => ?_)
      · rw [slashed_cons] at h
        exact absurd (List.prefix_nil.mp h) (List.append_ne_nil_of_right_ne_nil _ (List.cons_ne_nil _ _))
      · exact absurd (List.prefix_nil.mp h) (List.cons_ne_nil part rest)
    | cons other more =>
      rw [List.forall_mem_cons] at free'
      rw [slashed_cons, slashed_cons, prefix_cut_iff free.1 free'.1, ih free.2 free'.2, String.toList_inj,
        List.cons_prefix_cons]

/-! ## Written paths -/

/-- What stands before each slash of a path that is written with one more slash at its end. -/
def pieces (p : FilePath) : List String :=
  p.anchor.pieces ++ if p.parts = [] then [if p.isAbsolute then "" else "."] else p.parts

theorem pieces_of_parts (some_ : p.parts ≠ []) : p.pieces = p.anchor.pieces ++ p.parts := by
  unfold pieces
  rw [if_neg some_]

theorem slashless_pieces (clean : p.Clean) : ∀ part ∈ p.pieces, '/' ∉ part.toList := by
  obtain ⟨anchor, parts⟩ := p
  have free := clean.slashless
  cases anchor <;> cases parts <;> simp_all [pieces, Anchor.pieces, isAbsolute]

/-- A written path and one more slash are the pieces of the path, each with its slash. -/
theorem text_slash (p : FilePath) : p.text.toList ++ ['/'] = slashed p.pieces := by
  have joined (part : String) (rest : List String) :
      (String.intercalate "/" (part :: rest)).toList ++ ['/'] = slashed (part :: rest) := by
    induction rest generalizing part with
    | nil =>
      rw [slashed_cons]
      simp [slashed]
    | cons next rest ih =>
      rw [String.intercalate_cons_cons, slashed_cons, ← ih next]
      simp
  obtain ⟨anchor, parts⟩ := p
  cases parts with
  | nil => cases anchor <;> rfl
  | cons part rest => cases anchor <;> simp [text, pieces, Anchor.pieces, Anchor.text, ← joined]

/-- A path is another one or an ancestor of it, as their parts say. -/
structure Contains (q p : FilePath) : Prop where
  anchor : q.anchor = p.anchor
  parts : q.parts <+: p.parts

theorem contains_iff : q.Contains p ↔ q.anchor = p.anchor ∧ q.parts <+: p.parts :=
  ⟨fun h => ⟨h.anchor, h.parts⟩, fun h => ⟨h.1, h.2⟩⟩

/-- Out of the paths that contain one path, each is told by the number of its parts. -/
theorem Contains.eq_of_length {o : FilePath} (h : o.Contains p) (h' : q.Contains p)
    (same : o.parts.length = q.parts.length) : o = q := by
  have parts : o.parts = q.parts :=
    (List.prefix_of_prefix_length_le h.parts h'.parts (Nat.le_of_eq same)).eq_of_length same
  obtain ⟨anchor, _⟩ := o
  obtain ⟨anchor', _⟩ := q
  exact FilePath.mk.injEq .. |>.mpr ⟨h.anchor.trans h'.anchor.symm, parts⟩

/-- **A path that has a part contains another exactly if its pieces begin those of the other.** -/
theorem pieces_prefix_iff (hq : q.Clean) (hp : p.Clean) (some_ : q.parts ≠ []) :
    q.pieces <+: p.pieces ↔ q.Contains p := by
  obtain ⟨anchor, parts⟩ := q
  obtain ⟨anchor', parts'⟩ := p
  obtain ⟨part, rest, rfl⟩ := List.exists_cons_of_ne_nil some_
  have full : part ≠ "" := hq.some_ part List.mem_cons_self
  have noDot : part ≠ "." := hq.noDot part List.mem_cons_self
  rw [contains_iff]
  cases parts' with
  | nil => cases anchor <;> cases anchor' <;> simp [pieces, Anchor.pieces, isAbsolute, full, noDot]
  | cons other more =>
    have full' : "" ≠ other := (hp.some_ other List.mem_cons_self).symm
    cases anchor <;> cases anchor' <;> simp [pieces, Anchor.pieces, full, full']

/-- Only the dot has a piece that is a dot. -/
theorem dot_prefix_iff (clean : p.Clean) : ["."] <+: p.pieces ↔ p = ⟨.here, []⟩ := by
  obtain ⟨anchor, parts⟩ := p
  cases parts with
  | nil => cases anchor <;> simp [pieces, Anchor.pieces, isAbsolute]
  | cons part rest =>
    have noDot : "." ≠ part := (clean.noDot part List.mem_cons_self).symm
    cases anchor <;> simp [pieces, Anchor.pieces, noDot]

/-- The paths whose first piece is empty are those that start at a root. -/
theorem slash_prefix_iff (clean : p.Clean) : [""] <+: p.pieces ↔ p.isAbsolute = true := by
  obtain ⟨anchor, parts⟩ := p
  cases parts with
  | nil => cases anchor <;> simp [pieces, Anchor.pieces, isAbsolute]
  | cons part rest =>
    have full : "" ≠ part := (clean.some_ part List.mem_cons_self).symm
    cases anchor <;> simp [pieces, Anchor.pieces, isAbsolute, full]

end FilePath

end StaticAccessors
