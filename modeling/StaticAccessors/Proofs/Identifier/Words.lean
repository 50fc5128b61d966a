import StaticAccessors.Identifier.Words

/-!
# The cut of a name into words

A word is a longest run of one class of characters, so no word reaches across a character that separates. A text
can be cut at such a character, and its words are those in front of the cut and then those behind it
(`words_append_separator`). The induction is on the text in front, since a run of it that reaches the cut ends
there like at the end of a text (`continues_append`). Of the separators themselves nothing is left: words hold all
other characters, in order (`flatten_words`).

## Contents
- `wordClass_eq_separator_iff`, `wordClass_ne_separator_iff`: what separates.
- `words_separator`, `words_cons`: the words of a text from those of its rest.
- `words_append_separator`.
- `Separating`, and `words_separators`, `words_append_separators`, `words_between`: runs of separators.
- `flatten_words` and `mem_of_mem_words`: what words hold.
-/

namespace StaticAccessors.Identifier

open Text

variable {c : Char} {cs ds : List Char} {k : WordClass} {ws vs : List (List Char)}

/-! ## The first word -/

theorem wordClass_eq_separator_iff : wordClass c = .separator ↔ c ≠ '_' ∧ isAlphanumeric c = false := by
  unfold wordClass
  by_cases under : c = '_'
  · simp [under]
  · by_cases wordy : isAlphanumeric c = true
    · simp [under, wordy]
    · simp [under, wordy]

/-- What does not separate is an underscore, a letter or a numeral. -/
theorem wordClass_ne_separator_iff : wordClass c ≠ .separator ↔ c = '_' ∨ isAlphanumeric c = true := by
  rw [ne_eq, wordClass_eq_separator_iff]
  by_cases under : c = '_'
  · simp [under]
  · simp [under]

theorem continues_cons (k : WordClass) (c : Char) (cs : List Char) :
    continues k (c :: cs) = decide (wordClass c = k) := rfl

theorem prependToFirst_ne_nil (c : Char) (ws : List (List Char)) : prependToFirst c ws ≠ [] := by
  cases ws with
  | nil => exact List.cons_ne_nil _ _
  | cons w ws => exact List.cons_ne_nil _ _

theorem prependToFirst_append (h : ws ≠ []) : prependToFirst c (ws ++ vs) = prependToFirst c ws ++ vs := by
  cases ws with
  | nil => exact absurd rfl h
  | cons w ws => rfl

theorem flatten_prependToFirst (c : Char) (ws : List (List Char)) :
    (prependToFirst c ws).flatten = c :: ws.flatten := by
  cases ws with
  | nil => rfl
  | cons first rest => rfl

/-- What separates belongs to no word. -/
theorem words_separator (h : wordClass c = .separator) : words (c :: cs) = words cs := by
  rw [words, h]

/-- Any other character goes on with the first word of the rest, or is a word of its own in front of it. -/
theorem words_cons (h : wordClass c = k) (word : k ≠ .separator) :
    words (c :: cs) = if continues k cs then prependToFirst c (words cs) else [c] :: words cs := by
  rw [words, h]
  cases k with
  | separator => exact absurd rfl word
  | letter | underscore => rfl

/-- A text that goes on in a class of words has a word. -/
theorem words_ne_nil (goesOn : continues k cs = true) (word : k ≠ .separator) : words cs ≠ [] := by
  cases cs with
  | nil => exact absurd goesOn Bool.false_ne_true
  | cons c rest =>
    have class_ : wordClass c = k := of_decide_eq_true goesOn
    rw [words_cons class_ word]
    split
    · exact prependToFirst_ne_nil c (words rest)
    · exact List.cons_ne_nil [c] (words rest)

/-! ## Cuts at separators -/

/-- A run ends in front of a separator as it does at the end of a text. -/
theorem continues_append (word : k ≠ .separator) (stops : wordClass c = .separator) :
    continues k (cs ++ c :: ds) = continues k cs := by
  cases cs with
  | nil =>
    show decide (wordClass c = k) = false
    rw [stops]
    exact decide_eq_false (Ne.symm word)
  | cons d rest => rfl

/-- **No word reaches across a separator**: the words of a text are those in front of one and those behind it. -/
theorem words_append_separator (stops : wordClass c = .separator) (cs ds : List Char) :
    words (cs ++ c :: ds) = words cs ++ words ds := by
  induction cs with
  | nil => exact words_separator stops
  | cons d rest ih =>
    rw [List.cons_append]
    by_cases separates : wordClass d = .separator
    · rw [words_separator separates, words_separator separates, ih]
    · -- Whether `d` goes on with the first word behind it does not depend on what follows the separator.
      rw [words_cons rfl separates, words_cons rfl separates, continues_append separates stops, ih]
      split
      · rename_i goesOn
        exact prependToFirst_append (words_ne_nil goesOn separates)
      · rfl

/-- Characters that are neither letters nor numerals nor underscores. -/
def Separating (cs : List Char) : Prop := ∀ c ∈ cs, c ≠ '_' ∧ isAlphanumeric c = false

-- Named, since characters are finitely many and a search finds an instance that tries them all.
instance (cs : List Char) : Decidable (Separating cs) :=
  List.decidableBAll (fun c => c ≠ '_' ∧ isAlphanumeric c = false) cs

variable {a b s t : List Char}

theorem separating_cons : Separating (c :: cs) ↔ wordClass c = .separator ∧ Separating cs := by
  unfold Separating
  rw [List.forall_mem_cons, wordClass_eq_separator_iff]

/-- Separators in front do not matter. -/
theorem words_separators (h : Separating s) (b : List Char) : words (s ++ b) = words b := by
  induction s with
  | nil => rfl
  | cons c rest ih =>
    obtain ⟨separates, h⟩ := separating_cons.mp h
    rw [List.cons_append, words_separator separates, ih h]

/-- **Cuts at separators**: words that something separates are those in front of it and those behind it. -/
theorem words_append_separators (some_ : s ≠ []) (h : Separating s) (a b : List Char) :
    words (a ++ s ++ b) = words a ++ words b := by
  obtain ⟨c, rest, rfl⟩ := List.exists_cons_of_ne_nil some_
  obtain ⟨separates, h⟩ := separating_cons.mp h
  calc words (a ++ c :: rest ++ b)
      = words (a ++ c :: (rest ++ b)) := by rw [List.append_assoc, List.cons_append]
    _ = words a ++ words (rest ++ b) := words_append_separator separates a (rest ++ b)
    _ = words a ++ words b := by rw [words_separators h]

/-- Separators behind do not matter either. -/
theorem words_between (hs : Separating s) (ht : Separating t) (a : List Char) :
    words (s ++ a ++ t) = words a := by
  have front : words (s ++ a) = words a := words_separators hs a
  by_cases none_ : t = []
  · rw [none_, List.append_nil, front]
  · have cut := words_append_separators none_ ht (s ++ a) []
    rwa [List.append_nil, show words [] = [] from rfl, List.append_nil, front] at cut

/-! ## What words hold -/

/-- **Words are all that does not separate them.** -/
theorem flatten_words (cs : List Char) : (words cs).flatten = cs.filter (wordClass · ≠ .separator) := by
  induction cs with
  | nil => rfl
  | cons c rest ih =>
    by_cases separates : wordClass c = .separator
    · rw [words_separator separates, List.filter_cons_of_neg (by simp [separates]), ih]
    · rw [words_cons rfl separates, List.filter_cons_of_pos (by simp [separates]), ← ih]
      split
      · exact flatten_prependToFirst c (words rest)
      · rfl

theorem mem_of_mem_words {cs w : List Char} {c : Char} (hw : w ∈ words cs) (hc : c ∈ w) :
    c ∈ cs ∧ wordClass c ≠ .separator := by
  have listed : c ∈ (words cs).flatten := List.mem_flatten.mpr ⟨w, hw, hc⟩
  rw [flatten_words, List.mem_filter, decide_eq_true_eq] at listed
  exact listed

end StaticAccessors.Identifier
