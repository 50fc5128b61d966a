import StaticAccessors.Proofs.Identifier.Case
import StaticAccessors.Proofs.Identifier.Words

/-!
# The characters of identifiers

Identifiers are made of letters, numerals and underscores, changed in case here and there. All of these
have codes from that of the digit zero on (`IsWordChar`), while blanks, line ends, quotes and parentheses
lie below. For the change of case this is checked in its tables, entry by entry (`staysAbove`).

## Contents
- `IsWordChar`.
- `Text.CaseRun.lands_of_covers`, `Text.mapCase_above`, `Text.isWordChar_of_isAlphanumeric`.
- `Identifier.onHead`: a change of the first letter alone.
- `Identifier.isWordChar_words`, `Identifier.isWordChar_sanitize`.
- `Vocabulary.isWordChar_upper`, `Vocabulary.isWordChar_lower`.
- `Vocabulary.avoid_not_mem`, `Vocabulary.lower_not_mem`: no identifier is a keyword, since none of these holds
  an underscore.
-/

namespace StaticAccessors

/-- A character from the digit zero on. -/
def IsWordChar (c : Char) : Prop := 0x30 ≤ c.toNat

instance (c : Char) : Decidable (IsWordChar c) := inferInstanceAs (Decidable (_ ≤ _))

/-- A character below the digits is in no text of word characters. -/
theorem not_mem_of_isWordChar {c : Char} {cs : List Char} (h : ∀ d ∈ cs, IsWordChar d)
    (below : c.toNat < 0x30) : c ∉ cs := by
  intro listed
  have above : 0x30 ≤ c.toNat := h c listed
  omega

/-! ## Tables -/

namespace Text

/-- Whether all that a table writes are characters from some code on, for characters from that code on. -/
def staysAbove (specials : List (Nat × List Nat)) (runs : List CaseRun) (low : Nat) : Bool :=
  specials.all (fun e => e.2.all fun code => low ≤ code && code < 0xd800) &&
  runs.all fun r => low ≤ r.first + r.shift &&
    (r.last + r.shift < 0xd800 || 0xdfff < r.first + r.shift && r.last + r.shift < 0x110000)

variable {specials : List (Nat × List Nat)} {runs : List CaseRun} {low : Nat}

theorem toNat_ofNat_of_valid {n : Nat} (valid : n.isValidChar) : (Char.ofNat n).toNat = n := by
  unfold Char.ofNat
  rw [dif_pos valid]
  rfl

/-- A run of such a table leads to characters from this code on. -/
theorem CaseRun.lands_of_covers (h : staysAbove specials runs low = true) {run : CaseRun} (listed : run ∈ runs)
    {code : Nat} (covers : run.covers code = true) :
    (low : Int) ≤ run.first + run.shift ∧
      (Char.ofNat (code + run.shift).toNat).toNat = (code + run.shift).toNat := by
  unfold staysAbove at h
  rw [Bool.and_eq_true] at h
  have entry := List.all_eq_true.mp h.2 _ listed
  obtain ⟨first, last, -⟩ := CaseRun.bounds_of_covers covers
  simp only [Bool.or_eq_true, Bool.and_eq_true, decide_eq_true_eq] at entry
  -- The code that results lies between those of the ends of the run.
  have valid : (code + run.shift).toNat.isValidChar := by
    unfold Nat.isValidChar
    omega
  exact ⟨entry.1, toNat_ofNat_of_valid valid⟩

/-- **A change of case stays above a code** if its tables do. -/
theorem mapCase_above (h : staysAbove specials runs low = true) {c : Char} (hc : low ≤ c.toNat) :
    ∀ d ∈ mapCase specials runs c, low ≤ d.toNat := by
  obtain ⟨inSpecials, -⟩ := (Bool.and_eq_true _ _).mp h
  have mapped := mapped_mapCase specials runs c
  generalize mapCase specials runs c = cs at mapped
  cases mapped with
  | special listed =>
    intro d written
    obtain ⟨code, among, rfl⟩ := List.mem_map.mp written
    have entry := List.all_eq_true.mp (List.all_eq_true.mp inSpecials _ listed) _ among
    rw [Bool.and_eq_true, decide_eq_true_eq, decide_eq_true_eq] at entry
    rw [toNat_ofNat_of_valid (.inl entry.2)]
    exact entry.1
  | run listed covers =>
    rw [List.forall_mem_singleton]
    obtain ⟨first, -, -⟩ := CaseRun.bounds_of_covers covers
    obtain ⟨above, code⟩ := CaseRun.lands_of_covers h listed covers
    rw [code]
    omega
  | plain _ => exact List.forall_mem_singleton.mpr hc

theorem staysAbove_upper : staysAbove upperSpecials upperRuns 0x30 = true := by decide +kernel

theorem isWordChar_upperOf {c : Char} (h : IsWordChar c) : ∀ d ∈ upperOf c, IsWordChar d :=
  mapCase_above staysAbove_upper h

theorem isWordChar_lowerOf {c : Char} (h : IsWordChar c) : ∀ d ∈ lowerOf c, IsWordChar d :=
  mapCase_above (by decide +kernel) h

/-- Letters and numerals start with the digit zero. -/
theorem isWordChar_of_isAlphanumeric {c : Char} (h : isAlphanumeric c = true) : IsWordChar c := by
  have starts : alphanumericTable.all (fun range => 0x30 ≤ range.1) = true := by decide +kernel
  obtain ⟨range, listed, low, -⟩ := CodeRanges.exists_of_contains h
  have above := of_decide_eq_true (List.all_eq_true.mp starts range listed)
  exact Nat.le_trans above low

end Text

/-! ## Words -/

namespace Identifier

open Text

/-- What does not separate words is a word character. -/
theorem isWordChar_of_wordClass {c : Char} (h : wordClass c ≠ .separator) : IsWordChar c := by
  rcases wordClass_ne_separator_iff.mp h with rfl | wordy
  · decide
  · exact isWordChar_of_isAlphanumeric wordy

/-- **Words are made of word characters.** -/
theorem isWordChar_words (cs : List Char) : ∀ w ∈ words cs, ∀ c ∈ w, IsWordChar c := fun _ hw _ hc =>
  isWordChar_of_wordClass (mem_of_mem_words hw hc).2

/-- A text with something else in place of its first character. -/
def onHead (change : Char → List Char) : List Char → List Char
  | [] => []
  | c :: rest => change c ++ rest

theorem firstToUpper_eq (cs : List Char) : firstToUpper cs = onHead upperOf cs := by
  cases cs <;> rfl

theorem firstToLower_eq (cs : List Char) : firstToLower cs = onHead lowerOf cs := by
  cases cs <;> rfl

section

variable {change : Char → List Char} {cs : List Char}

theorem forall_onHead {P : Char → Prop} (keeps : ∀ c, P c → ∀ d ∈ change c, P d) (h : ∀ c ∈ cs, P c) :
    ∀ c ∈ onHead change cs, P c := by
  cases cs with
  | nil => exact h
  | cons first rest =>
    rw [List.forall_mem_cons] at h
    exact List.forall_mem_append.mpr ⟨keeps first h.1, h.2⟩

/-- A character that is not changed stays. -/
theorem mem_onHead {c : Char} (same : change c = [c]) (listed : c ∈ cs) : c ∈ onHead change cs := by
  cases cs with
  | nil => exact listed
  | cons first rest =>
    show c ∈ change first ++ rest
    rcases List.mem_cons.mp listed with rfl | listed
    · rw [same]
      exact List.mem_cons_self
    · exact List.mem_append_right _ listed

end

theorem isWordChar_firstToUpper {cs : List Char} (h : ∀ c ∈ cs, IsWordChar c) :
    ∀ c ∈ firstToUpper cs, IsWordChar c := by
  rw [firstToUpper_eq]
  exact forall_onHead (fun _ => isWordChar_upperOf) h

theorem isWordChar_firstToLower {cs : List Char} (h : ∀ c ∈ cs, IsWordChar c) :
    ∀ c ∈ firstToLower cs, IsWordChar c := by
  rw [firstToLower_eq]
  exact forall_onHead (fun _ => isWordChar_lowerOf) h

theorem isWordChar_guardStart {cs : List Char} (h : ∀ c ∈ cs, IsWordChar c) :
    ∀ c ∈ guardStart cs, IsWordChar c := by
  have underscore : IsWordChar '_' := by decide
  cases cs with
  | nil => exact List.forall_mem_singleton.mpr underscore
  | cons c rest =>
    unfold guardStart
    dsimp only
    by_cases digit : isDigit c = true
    · rw [if_pos digit]
      exact List.forall_mem_cons.mpr ⟨underscore, h⟩
    · rw [if_neg digit]
      exact h

/-- **The body of an identifier is made of word characters.** -/
theorem isWordChar_sanitize (cs : List Char) : ∀ c ∈ sanitize cs, IsWordChar c := by
  refine isWordChar_guardStart fun c hc => ?_
  obtain ⟨w, hw, hc⟩ := List.mem_flatMap.mp hc
  exact isWordChar_firstToUpper (isWordChar_words cs w hw) c hc

end Identifier

/-! ## Identifiers -/

namespace Vocabulary

open Identifier

/-- A vocabulary whose suffix is made of word characters keeps to them. -/
theorem isWordChar_avoid {v : Vocabulary} (suffix : ∀ c ∈ v.suffix.toList, IsWordChar c) {word : List Char}
    (h : ∀ c ∈ word, IsWordChar c) : ∀ c ∈ (v.avoid (String.ofList word)).toList, IsWordChar c := by
  unfold avoid
  split
  · rw [String.toList_append, String.toList_ofList, List.forall_mem_append]
    exact ⟨h, suffix⟩
  · rwa [String.toList_ofList]

/-- The underscore is a word character. -/
theorem isWordChar_underscore : ∀ c ∈ "_".toList, IsWordChar c := by
  intro c listed
  have underscore : c = '_' := List.mem_singleton.mp listed
  rw [underscore]
  decide

/-- **The identifier of an accessor is made of word characters.** -/
theorem isWordChar_upper (name : String) : ∀ c ∈ (keywords.pairOf name).upper.toList, IsWordChar c :=
  @isWordChar_avoid keywords isWordChar_underscore _ (isWordChar_firstToUpper (isWordChar_sanitize name.toList))

/-- **The identifier of a field is made of word characters.** -/
theorem isWordChar_lower (name : String) : ∀ c ∈ (keywords.pairOf name).lower.toList, IsWordChar c := by
  have plain := @isWordChar_avoid keywords isWordChar_underscore _
    (isWordChar_firstToLower (isWordChar_sanitize name.toList))
  unfold pairOf
  dsimp only
  split
  · rw [String.toList_append, List.forall_mem_append]
    exact ⟨isWordChar_underscore, plain⟩
  · exact plain

/-! ## Keywords -/

/-- A word with an underscore is no keyword. -/
theorem not_keyword_of_underscore {word : String} (h : '_' ∈ word.toList) : word ∉ csharpKeywords := by
  have plain : ∀ keyword ∈ csharpKeywords, '_' ∉ keyword.toList := by decide +kernel
  exact fun listed => plain word listed h

/-- A keyword is avoided. -/
theorem avoid_not_mem (word : String) : keywords.avoid word ∉ csharpKeywords := by
  unfold avoid
  by_cases reserved : word ∈ keywords.reserved
  · rw [if_pos reserved]
    refine not_keyword_of_underscore ?_
    rw [String.toList_append]
    exact List.mem_append_right _ List.mem_cons_self
  · rw [if_neg reserved]
    exact reserved

/-- **The identifier of a field is no keyword.** -/
theorem lower_not_mem (name : String) : (keywords.pairOf name).lower ∉ csharpKeywords := by
  unfold pairOf
  dsimp only
  split
  · refine not_keyword_of_underscore ?_
    rw [String.toList_append]
    exact List.mem_append_left _ List.mem_cons_self
  · exact avoid_not_mem _

end Vocabulary

end StaticAccessors
