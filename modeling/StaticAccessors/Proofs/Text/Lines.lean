import StaticAccessors.Text.Lines

/-!
# Line ends that are exchanged

A text whose line ends are unified does not tell which of the three kinds they were. `Rebroken` relates two
texts that differ in nothing else: each line end of the one stands where the other has a line end of some
kind. A carriage return that stood alone must not be followed by a line feed, or the two would be one line
end. These are exactly the texts that are the same once they are unified.

## Contents
- `Newline.apply_append`, `Newline.apply_flatten`, `Newline.apply_of_not_mem`, and `Newline.applyText`.
- `Newline.Apart`, and `unifyLines_chars`, `exists_of_unifyLines`: one line end.
- `Rebroken`, and `rebroken_iff`.
-/

namespace StaticAccessors.Text

namespace Newline

variable (n : Newline)

/-! ## Line feeds as line ends of one kind -/

theorem apply_append (xs ys : List Char) : n.apply (xs ++ ys) = n.apply xs ++ n.apply ys := List.flatMap_append

theorem apply_flatten (texts : List (List Char)) : n.apply texts.flatten = (texts.map n.apply).flatten := by
  induction texts with
  | nil => rfl
  | cons cs rest ih => rw [List.flatten_cons, apply_append, ih, List.map_cons, List.flatten_cons]

/-- What has no line feed is kept as it is. -/
theorem apply_of_not_mem {cs : List Char} (h : '\n' ∉ cs) : n.apply cs = cs := by
  induction cs with
  | nil => rfl
  | cons c rest ih =>
    rw [List.mem_cons, not_or] at h
    have kept : n.apply [c] = [c] := by simp [apply, Ne.symm h.1]
    rw [← List.singleton_append, apply_append, kept, ih h.2]

/-- A text with its line feeds written as line ends of one kind. -/
def applyText (text : String) : String := String.ofList (n.apply text.toList)

/-! ## One line end -/

/-- A line end is one of its own before some text: a carriage return is not, before a line feed. -/
def Apart (rest : List Char) : Prop := n = cr → rest.head? ≠ some '\n'

end Newline

section

variable {n : Newline} {c : Char} {t rest : List Char}

theorem unifyLines_of_ne (h : c ≠ '\r') (rest : List Char) : unifyLines (c :: rest) = c :: unifyLines rest := by
  rw [unifyLines]
  · rintro more rfl
    exact absurd rfl h
  · exact h

theorem unifyLines_chars (h : n.Apart rest) : unifyLines (n.chars ++ rest) = '\n' :: unifyLines rest := by
  cases n with
  | lf => exact unifyLines_of_ne (by decide) rest
  | crlf => rfl
  | cr =>
    show unifyLines ('\r' :: rest) = _
    rw [unifyLines]
    rintro more rfl
    exact h rfl rfl

theorem eq_nil_of_unifyLines (h : unifyLines t = []) : t = [] := by
  unfold unifyLines at h
  split at h
  · rfl
  all_goals exact absurd h nofun

/-- A text that starts with a line feed once it is unified starts with some line end. -/
theorem exists_of_unifyLines (h : unifyLines t = '\n' :: rest) :
    ∃ (n : Newline) (more : List Char), t = n.chars ++ more ∧ n.Apart more ∧ unifyLines more = rest := by
  cases t with
  | nil => exact absurd h nofun
  | cons c more =>
    by_cases return_ : c = '\r'
    · subst return_
      by_cases both : more.head? = some '\n'
      · obtain ⟨more, rfl⟩ := List.head?_eq_some_iff.mp both
        exact ⟨.crlf, more, rfl, nofun, (List.cons.inj h).2⟩
      · have apart : Newline.cr.Apart more := fun _ => both
        have whole := (unifyLines_chars apart).symm.trans h
        exact ⟨.cr, more, rfl, apart, (List.cons.inj whole).2⟩
    · rw [unifyLines_of_ne return_] at h
      obtain ⟨rfl, later⟩ := List.cons.inj h
      exact ⟨.lf, more, rfl, nofun, later⟩

/-- One that starts with another character starts with that. -/
theorem eq_of_unifyLines (other : c ≠ '\n') (h : unifyLines t = c :: rest) :
    ∃ more, t = c :: more ∧ c ≠ '\r' ∧ unifyLines more = rest := by
  cases t with
  | nil => exact absurd h nofun
  | cons d more =>
    by_cases return_ : d = '\r'
    · subst return_
      refine absurd ?_ other
      by_cases both : more.head? = some '\n'
      · obtain ⟨more, rfl⟩ := List.head?_eq_some_iff.mp both
        exact (List.cons.inj h).1.symm
      · have apart : Newline.cr.Apart more := fun _ => both
        exact (List.cons.inj (h.symm.trans (unifyLines_chars apart))).1
    · rw [unifyLines_of_ne return_] at h
      obtain ⟨rfl, later⟩ := List.cons.inj h
      exact ⟨more, rfl, return_, later⟩

end

/-! ## Other line ends -/

/-- Two texts that differ at most in which of the three line ends stand where they have one. -/
inductive Rebroken : List Char → List Char → Prop
  | nil : Rebroken [] []
  | char {c : Char} {s t : List Char} : c ≠ '\n' → c ≠ '\r' → Rebroken s t → Rebroken (c :: s) (c :: t)
  | lineEnd {n m : Newline} {s t : List Char} : n.Apart s → m.Apart t → Rebroken s t →
      Rebroken (n.chars ++ s) (m.chars ++ t)

variable {s t : List Char}

theorem Rebroken.unifyLines_eq (h : Rebroken s t) : unifyLines s = unifyLines t := by
  induction h with
  | nil => rfl
  | char _ return_ _ ih => rw [unifyLines_of_ne return_, unifyLines_of_ne return_, ih]
  | lineEnd left right _ ih => rw [unifyLines_chars left, unifyLines_chars right, ih]

/-- **Texts that differ in their line ends only are those that are the same once they are unified.** -/
theorem rebroken_iff : Rebroken s t ↔ unifyLines s = unifyLines t := by
  refine ⟨Rebroken.unifyLines_eq, fun same => ?_⟩
  -- What both come to is taken apart, and each of them has to start as it says.
  generalize unified : unifyLines s = cs at same
  induction cs generalizing s t with
  | nil =>
    rw [eq_nil_of_unifyLines unified, eq_nil_of_unifyLines same.symm]
    exact .nil
  | cons c rest ih =>
    by_cases feed : c = '\n'
    · subst feed
      obtain ⟨n, s, rfl, left, unified⟩ := exists_of_unifyLines unified
      obtain ⟨m, t, rfl, right, same⟩ := exists_of_unifyLines same.symm
      exact .lineEnd left right (ih unified same.symm)
    · obtain ⟨s, rfl, return_, unified⟩ := eq_of_unifyLines feed unified
      obtain ⟨t, rfl, -, same⟩ := eq_of_unifyLines feed same.symm
      exact .char feed return_ (ih unified same.symm)

end StaticAccessors.Text
