import StaticAccessors.Strategy.Basic
import StaticAccessors.Text.Split

/-!
# Taking printed texts apart

What was put together can be taken apart again, as long as one knows what stands around a piece, or that
a character does not occur in it. A text is cut into its lines at the line feeds, a line between two parts
that are known, and a word off a line at the last blank. A string literal gives its text back, since every
quote and every backslash in it is escaped.

## Contents
- `SingleLine`.
- `splitChar_append`, `not_mem_of_mem_splitChar`, `prefix_cut_iff`: cuts at every separator.
- `splitLast?_append`, `splitLast?_of_not_mem`, `exists_last`: cuts at the last one.
- `linesOf`, and `linesOf_flatMap`.
- `between`, and `between_append`.
- `unquote`, and `unquote_stringLiteral`.
-/

namespace StaticAccessors

open Text

/-! ## Single lines -/

/-- A text without line feeds. -/
def SingleLine (t : String) : Prop := '\n' ∉ t.toList

instance (t : String) : Decidable (SingleLine t) := inferInstanceAs (Decidable (¬_))

@[simp] theorem singleLine_append {a b : String} : SingleLine (a ++ b) ↔ SingleLine a ∧ SingleLine b := by
  unfold SingleLine
  rw [String.toList_append, List.mem_append, not_or]

/-- An escape adds no line feed. -/
theorem singleLine_stringLiteral {t : String} (h : SingleLine t) : SingleLine (stringLiteral t) := by
  unfold SingleLine stringLiteral at *
  rw [String.toList_ofList, List.mem_append, List.mem_cons, List.mem_flatMap, List.mem_singleton]
  rintro ((same | ⟨c, listed, found⟩) | same)
  · exact absurd same (by decide)
  · unfold literalChar at found
    split at found
    · rcases List.mem_cons.mp found with same | found
      · exact absurd same (by decide)
      · rw [List.mem_singleton.mp found] at h
        exact h listed
    · rw [List.mem_singleton.mp found] at h
      exact h listed
  · exact absurd same (by decide)

namespace Text

variable {sep : Char} {cs : List Char}

/-! ## Cuts at a character -/

/-- What holds no separator is cut off at the first one behind it. -/
theorem splitChar_append (h : sep ∉ cs) (rest : List Char) :
    splitChar sep (cs ++ sep :: rest) = cs :: splitChar sep rest := by
  induction cs with
  | nil =>
    show splitChar sep (sep :: rest) = _
    rw [splitChar, if_pos rfl]
  | cons c more ih =>
    rw [List.mem_cons, not_or] at h
    show splitChar sep (c :: (more ++ sep :: rest)) = _
    rw [splitChar, if_neg (Ne.symm h.1), ih h.2]

/-- What is cut at a character does not hold it. -/
theorem not_mem_of_mem_splitChar {cs part : List Char} (h : part ∈ splitChar sep cs) : sep ∉ part := by
  induction cs generalizing part with
  | nil =>
    rw [List.mem_singleton.mp h]
    exact List.not_mem_nil
  | cons c rest ih =>
    unfold splitChar at h
    split at h
    · rcases List.mem_cons.mp h with rfl | h
      · exact List.not_mem_nil
      · exact ih h
    · rename_i other
      cases cut : splitChar sep rest with
      | nil =>
        rw [cut] at h
        rw [List.mem_singleton.mp h, List.mem_singleton]
        exact Ne.symm other
      | cons first more =>
        rw [cut] at h
        rw [cut] at ih
        rcases List.mem_cons.mp h with rfl | h
        · rw [List.mem_cons, not_or]
          exact ⟨Ne.symm other, ih List.mem_cons_self⟩
        · exact ih (List.mem_cons_of_mem first h)

/-- One text begins another exactly if it does so piece by piece, up to a first separator and behind it. -/
theorem prefix_cut_iff {a b s t : List Char} (ha : sep ∉ a) (hb : sep ∉ b) :
    a ++ sep :: s <+: b ++ sep :: t ↔ a = b ∧ s <+: t := by
  induction a generalizing b with
  | nil =>
    cases b with
    | nil =>
      rw [List.nil_append, List.nil_append, List.cons_prefix_cons]
      exact and_congr_left fun _ => iff_of_true rfl rfl
    | cons c rest =>
      rw [List.nil_append, List.cons_append, List.cons_prefix_cons]
      refine ⟨fun ⟨same, _⟩ => ?_, fun ⟨empty, _⟩ => absurd empty nofun⟩
      exact absurd (same ▸ List.mem_cons_self) hb
  | cons c rest ih =>
    rw [List.mem_cons, not_or] at ha
    cases b with
    | nil =>
      rw [List.nil_append, List.cons_append, List.cons_prefix_cons]
      exact ⟨fun ⟨same, _⟩ => absurd same.symm ha.1, fun ⟨empty, _⟩ => absurd empty nofun⟩
    | cons c' rest' =>
      rw [List.mem_cons, not_or] at hb
      rw [List.cons_append, List.cons_append, List.cons_prefix_cons, ih ha.2 hb.2, List.cons.injEq, and_assoc]

/-- What stands behind the last separator, from its end on. -/
theorem ne_of_mem_reverse (h : sep ∉ cs) : ∀ c ∈ cs.reverse, decide (c ≠ sep) = true := by
  intro c listed
  refine decide_eq_true ?_
  rintro rfl
  exact h (List.mem_reverse.mp listed)

/-- What holds no separator is cut off at the last one in front of it. -/
theorem splitLast?_append (before : List Char) (h : sep ∉ cs) :
    splitLast? sep (before ++ sep :: cs) = some (before, cs) := by
  have reversed : (before ++ sep :: cs).reverse = cs.reverse ++ sep :: before.reverse := by simp
  have word : (cs.reverse ++ sep :: before.reverse).takeWhile (· ≠ sep) = cs.reverse := by
    rw [List.takeWhile_append_of_pos (ne_of_mem_reverse h), List.takeWhile_cons_of_neg (by simp), List.append_nil]
  unfold splitLast?
  dsimp only
  rw [reversed, word, List.drop_left, List.reverse_reverse]
  dsimp only
  rw [List.reverse_reverse]

/-- What holds no separator has no last one. -/
theorem splitLast?_of_not_mem (h : sep ∉ cs) : splitLast? sep cs = none := by
  have whole : cs.reverse.takeWhile (· ≠ sep) = cs.reverse := by
    rw [← List.append_nil cs.reverse, List.takeWhile_append_of_pos (ne_of_mem_reverse h)]
    rfl
  unfold splitLast?
  dsimp only
  rw [whole, List.drop_length]

/-- A text that holds a separator is cut at its last one. -/
theorem exists_last (h : sep ∈ cs) : ∃ before after, cs = before ++ sep :: after ∧ sep ∉ after := by
  obtain ⟨after, before, reversed, free⟩ := List.eq_append_cons_of_mem (List.mem_reverse.mpr h)
  refine ⟨before.reverse, after.reverse, ?_, fun listed => free (List.mem_reverse.mp listed)⟩
  rw [← List.reverse_reverse cs, reversed]
  simp

/-! ## Lines -/

/-- The lines of a text, all of which end in a terminator whose last character is a line feed. -/
def linesOf (terminator text : String) : List (List Char) :=
  (splitChar '\n' text.toList).dropLast.map fun cs => cs.take (cs.length - (terminator.toList.length - 1))

/-- **Lines that were put together are the lines of the text.** -/
theorem linesOf_flatMap {terminator text : String} {before : List Char} {lines : List (List Char)}
    (ends : terminator.toList = before ++ ['\n']) (plain : '\n' ∉ before)
    (single : ∀ cs ∈ lines, '\n' ∉ cs) (whole : text.toList = lines.flatMap (· ++ terminator.toList)) :
    linesOf terminator text = lines := by
  have cut : splitChar '\n' (lines.flatMap (· ++ terminator.toList)) = lines.map (· ++ before) ++ [[]] := by
    clear whole
    induction lines with
    | nil => rfl
    | cons cs rest ih =>
      rw [List.forall_mem_cons] at single
      have free : '\n' ∉ cs ++ before := by
        rw [List.mem_append, not_or]
        exact ⟨single.1, plain⟩
      have front : (cs :: rest).flatMap (· ++ terminator.toList) =
          (cs ++ before) ++ '\n' :: rest.flatMap (· ++ terminator.toList) := by
        rw [List.flatMap_cons, ends]
        simp
      rw [front, splitChar_append free, ih single.2]
      rfl
  unfold linesOf
  rw [whole, cut, List.dropLast_concat, List.map_map, ends]
  -- What is left of each line is what stands before the terminator.
  have crop : ((fun cs : List Char => cs.take (cs.length - ((before ++ ['\n']).length - 1))) ∘
      fun cs : List Char => cs ++ before) = id := by
    funext cs
    show (cs ++ before).take ((cs ++ before).length - ((before ++ ['\n']).length - 1)) = cs
    rw [List.length_append, List.length_append, List.length_singleton, Nat.add_sub_cancel,
      Nat.add_sub_cancel, List.take_left]
  rw [crop, List.map_id]

/-! ## Pieces of a line -/

/-- What stands between a beginning and an end. -/
def between (before after : String) (cs : List Char) : List Char :=
  let inner := cs.drop before.toList.length
  inner.take (inner.length - after.toList.length)

theorem between_append (before after : String) (cs : List Char) :
    between before after (before.toList ++ cs ++ after.toList) = cs := by
  unfold between
  dsimp only
  rw [List.append_assoc, List.drop_left, List.length_append, Nat.add_sub_cancel, List.take_left]

/-! ## Literals -/

/-- A text whose escapes are undone. -/
def unescape : List Char → List Char
  | [] => []
  | '\\' :: c :: rest => c :: unescape rest
  | c :: rest => c :: unescape rest

theorem unescape_flatMap (cs : List Char) : unescape (cs.flatMap literalChar) = cs := by
  induction cs with
  | nil => rfl
  | cons c rest ih =>
    rw [List.flatMap_cons]
    unfold literalChar
    by_cases escaped : (c = '\\' || c = '"') = true
    · rw [if_pos escaped]
      show unescape ('\\' :: c :: rest.flatMap literalChar) = _
      rw [unescape, ih]
    · rw [if_neg escaped]
      have plain : c ≠ '\\' := by
        rintro rfl
        exact escaped rfl
      show unescape (c :: rest.flatMap literalChar) = _
      rw [unescape, ih]
      intro _ _ same
      exact absurd same plain

/-- The text of a string literal. -/
def unquote (cs : List Char) : List Char := unescape (cs.drop 1).dropLast

/-- **A string literal gives back its text.** -/
theorem unquote_stringLiteral (t : String) : unquote (stringLiteral t).toList = t.toList := by
  unfold unquote stringLiteral
  rw [String.toList_ofList, List.cons_append, List.drop_one, List.tail_cons, List.dropLast_concat,
    unescape_flatMap]

end Text

end StaticAccessors
