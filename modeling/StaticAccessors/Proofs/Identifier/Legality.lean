import StaticAccessors.Proofs.Text.Category

/-!
# Legal identifiers

An identifier starts with a letter or an underscore, and goes on with letters, decimal digits, combining marks and
characters that connect or direct. The identifiers of a name are legal exactly if no character of the name is a
number of another sort (`legal_pairOf_iff`): fractions, superscripts and the like are cut into words together with
letters and digits, no change of case touches them, and so they are in the identifiers as well, where the language
does not allow them.

All else that a name can hold turns out well. What starts a word is a letter, an underscore or a digit (`Inner`);
digits are guarded, and a letter stays one in another case, with nothing worse than marks behind it.

## Contents
- `IsStart`, `IsPart` and `Legal`.
- `Inner` and `Joinable`: names without other numbers, up to `legal_sanitize`.
- `number_mem_sanitize`: what becomes of other numbers.
- `legal_pairOf_iff`.
-/

namespace StaticAccessors

open Text

/-! ## Legal texts -/

namespace Identifier

/-- A character that identifiers can start with. -/
def IsStart (c : Char) : Prop := c = '_' ∨ category? c = some .letter

/-- A character that can stand in identifiers: all that are of use to them but those that only count. -/
def IsPart (c : Char) : Prop := (category? c).any (· ≠ .number) = true

/-- A text that is an identifier. -/
structure Legal (cs : List Char) : Prop where
  start : ∃ first ∈ cs.head?, IsStart first
  parts : ∀ c ∈ cs, IsPart c

instance (c : Char) : Decidable (IsPart c) := inferInstanceAs (Decidable (_ = _))

variable {c : Char} {cs ds : List Char}

theorem isPart_of_category {k : Category} (h : category? c = some k) (other : k ≠ .number) : IsPart c := by
  unfold IsPart
  rw [h]
  exact decide_eq_true other

theorem isStart_underscore : IsStart '_' := .inl rfl

theorem isPart_underscore : IsPart '_' := by decide +kernel

theorem IsStart.isPart (h : IsStart c) : IsPart c := by
  rcases h with rfl | letter
  · exact isPart_underscore
  · exact isPart_of_category letter nofun

/-- What counts only is in no identifier. -/
theorem not_isPart_of_number (h : category? c = some .number) : ¬IsPart c := by
  unfold IsPart
  rw [h]
  exact nofun

namespace Legal

/-- A start with parts behind it. -/
theorem cons (start : IsStart c) (parts : ∀ d ∈ cs, IsPart d) : Legal (c :: cs) :=
  ⟨⟨c, rfl, start⟩, List.forall_mem_cons.mpr ⟨start.isPart, parts⟩⟩

theorem exists_cons (h : Legal cs) : ∃ first rest, cs = first :: rest ∧ IsStart first ∧ ∀ c ∈ rest, IsPart c := by
  obtain ⟨⟨first, found, start⟩, parts⟩ := h
  cases cs with
  | nil => exact absurd found nofun
  | cons _ rest =>
    obtain rfl := Option.some.inj found
    exact ⟨_, rest, rfl, start, (List.forall_mem_cons.mp parts).2⟩

theorem append (h : Legal cs) (parts : ∀ c ∈ ds, IsPart c) : Legal (cs ++ ds) := by
  obtain ⟨first, rest, rfl, start, others⟩ := h.exists_cons
  exact .cons start (List.forall_mem_append.mpr ⟨others, parts⟩)

/-- An underscore can stand alone. -/
theorem underscore : Legal ['_'] := .cons isStart_underscore fun _ none_ => absurd none_ List.not_mem_nil

end Legal

/-! ## Changes of case -/

section

variable {specials : List (Nat × List Nat)} {runs : List CaseRun}

/-- A start stays one, with parts behind it, in a table that has nothing on the underscore. -/
theorem legal_mapCase (letters : keepsLetters specials runs = true)
    (underscore : mapCase specials runs '_' = ['_']) (h : IsStart c) : Legal (mapCase specials runs c) := by
  rcases h with rfl | letter
  · rw [underscore]
    exact .underscore
  · obtain ⟨first, rest, written, start, behind⟩ := mapCase_of_letter letters letter
    rw [written]
    refine .cons (.inr start) fun d listed => ?_
    obtain ⟨k, category, follows⟩ := behind d listed
    refine isPart_of_category category ?_
    rintro rfl
    exact absurd follows nofun

end

theorem legal_upperOf (h : IsStart c) : Legal (upperOf c) :=
  legal_mapCase keepsLetters_upper (by decide +kernel) h

theorem legal_lowerOf (h : IsStart c) : Legal (lowerOf c) :=
  legal_mapCase keepsLetters_lower (by decide +kernel) h

theorem Legal.onHead {change : Char → List Char} (keeps : ∀ c, IsStart c → Legal (change c)) (h : Legal cs) :
    Legal (onHead change cs) := by
  obtain ⟨first, rest, rfl, start, parts⟩ := h.exists_cons
  exact (keeps first start).append parts

theorem Legal.firstToUpper (h : Legal cs) : Legal (firstToUpper cs) := by
  rw [firstToUpper_eq]
  exact h.onHead fun _ => legal_upperOf

theorem Legal.firstToLower (h : Legal cs) : Legal (firstToLower cs) := by
  rw [firstToLower_eq]
  exact h.onHead fun _ => legal_lowerOf

/-! ## Names without other numbers -/

/-- A character that words hold in names without other numbers. -/
def Inner (c : Char) : Prop := IsStart c ∨ category? c = some .digit

theorem Inner.isPart (h : Inner c) : IsPart c := by
  rcases h with start | digit
  · exact start.isPart
  · exact isPart_of_category digit nofun

/-- What does not separate words and is no other number. -/
theorem inner_of_wordClass (h : wordClass c ≠ .separator) (other : category? c ≠ some .number) : Inner c := by
  rcases wordClass_ne_separator_iff.mp h with underscore | wordy
  · exact .inl (.inl underscore)
  · obtain ⟨k, category, inWords⟩ := isAlphanumeric_iff.mp wordy
    cases k with
    | letter => exact .inl (.inr category)
    | digit => exact .inr category
    | number => exact absurd category other
    | mark => exact absurd inWords nofun
    | connector => exact absurd inWords nofun
    | format => exact absurd inWords nofun

/-- Parts of identifiers, of which the first can start a word. -/
structure Joinable (cs : List Char) : Prop where
  head : ∀ c ∈ cs.head?, Inner c
  parts : ∀ c ∈ cs, IsPart c

theorem joinable_of_inner (h : ∀ c ∈ cs, Inner c) : Joinable cs :=
  ⟨fun c first => h c (List.mem_of_mem_head? first), fun c listed => (h c listed).isPart⟩

theorem Legal.joinable (h : Legal cs) : Joinable cs := by
  obtain ⟨⟨first, found, start⟩, parts⟩ := h
  refine ⟨fun c same => ?_, parts⟩
  obtain rfl := Option.some.inj (found.symm.trans same)
  exact .inl start

theorem Joinable.append (h : Joinable cs) (more : Joinable ds) : Joinable (cs ++ ds) := by
  refine ⟨?_, List.forall_mem_append.mpr ⟨h.parts, more.parts⟩⟩
  cases cs with
  | nil => exact more.head
  | cons first rest => exact h.head

/-- A word stays joinable when its first letter is written in upper case. -/
theorem joinable_firstToUpper (h : ∀ c ∈ cs, Inner c) : Joinable (firstToUpper cs) := by
  cases cs with
  | nil => exact joinable_of_inner h
  | cons first rest =>
    rw [List.forall_mem_cons] at h
    have front : Joinable (upperOf first) := by
      rcases h.1 with start | digit
      · exact (legal_upperOf start).joinable
      · have same : upperOf first = [first] := mapCase_of_numeral sparesNumerals_upper (.inl digit)
        rw [same]
        exact joinable_of_inner (List.forall_mem_singleton.mpr h.1)
    exact front.append (joinable_of_inner h.2)

theorem joinable_flatMap {ws : List (List Char)} (h : ∀ w ∈ ws, ∀ c ∈ w, Inner c) :
    Joinable (ws.flatMap firstToUpper) := by
  induction ws with
  | nil => exact joinable_of_inner fun c none_ => absurd none_ List.not_mem_nil
  | cons w rest ih =>
    rw [List.forall_mem_cons] at h
    exact (joinable_firstToUpper h.1).append (ih h.2)

/-- What is joined needs a guard in front of a digit only. -/
theorem legal_guardStart (h : Joinable cs) : Legal (guardStart cs) := by
  cases cs with
  | nil => exact .underscore
  | cons first rest =>
    unfold guardStart
    dsimp only
    by_cases guarded : isDigit first = true
    · rw [if_pos guarded]
      exact .cons isStart_underscore h.parts
    · rw [if_neg guarded]
      refine .cons ?_ (List.forall_mem_cons.mp h.parts).2
      rcases h.head first rfl with start | digit
      · exact start
      · exact absurd (isDigit_of_category digit) guarded

/-- **A name without other numbers has a legal body.** -/
theorem legal_sanitize (h : ∀ c ∈ cs, category? c ≠ some .number) : Legal (sanitize cs) := by
  refine legal_guardStart (joinable_flatMap fun w hw c hc => ?_)
  obtain ⟨listed, wordy⟩ := mem_of_mem_words hw hc
  exact inner_of_wordClass wordy (h c listed)

/-! ## Other numbers -/

/-- The first letter alone changes its case, and other numbers have none. -/
theorem number_mem_firstToUpper (h : category? c = some .number) (listed : c ∈ cs) : c ∈ firstToUpper cs := by
  rw [firstToUpper_eq]
  exact mem_onHead (mapCase_of_numeral sparesNumerals_upper (.inr h)) listed

theorem number_mem_firstToLower (h : category? c = some .number) (listed : c ∈ cs) : c ∈ firstToLower cs := by
  rw [firstToLower_eq]
  exact mem_onHead (mapCase_of_numeral sparesNumerals_lower (.inr h)) listed

theorem mem_guardStart (listed : c ∈ cs) : c ∈ guardStart cs := by
  cases cs with
  | nil => exact absurd listed List.not_mem_nil
  | cons first rest =>
    unfold guardStart
    dsimp only
    split
    · exact List.mem_cons_of_mem _ listed
    · exact listed

/-- **Other numbers stay in the body of a name.** -/
theorem number_mem_sanitize (h : category? c = some .number) (listed : c ∈ cs) : c ∈ sanitize cs := by
  have wordy : wordClass c ≠ .separator :=
    wordClass_ne_separator_iff.mpr (.inr (isAlphanumeric_iff.mpr ⟨_, h, rfl⟩))
  have inWords : c ∈ (words cs).flatten := by
    rw [flatten_words]
    exact List.mem_filter.mpr ⟨listed, decide_eq_true wordy⟩
  obtain ⟨w, hw, hc⟩ := List.mem_flatten.mp inWords
  exact mem_guardStart (List.mem_flatMap.mpr ⟨w, hw, number_mem_firstToUpper h hc⟩)

end Identifier

/-! ## Identifiers -/

namespace Vocabulary

open Identifier

theorem legal_avoid {word : List Char} (h : Legal word) : Legal (keywords.avoid (String.ofList word)).toList := by
  unfold avoid
  split
  · rw [String.toList_append, String.toList_ofList]
    refine h.append fun c listed => ?_
    rw [List.mem_singleton.mp listed]
    exact isPart_underscore
  · rwa [String.toList_ofList]

theorem mem_avoid {word : List Char} {c : Char} (listed : c ∈ word) :
    c ∈ (keywords.avoid (String.ofList word)).toList := by
  unfold avoid
  split
  · rw [String.toList_append, String.toList_ofList]
    exact List.mem_append_left _ listed
  · rwa [String.toList_ofList]

theorem upper_eq (name : String) :
    (keywords.pairOf name).upper = keywords.avoid (String.ofList (firstToUpper (sanitize name.toList))) := rfl

/-- The identifier of a field is one that avoids keywords, possibly with an underscore in front. -/
theorem lower_cases (name : String) :
    (keywords.pairOf name).lower = keywords.avoid (String.ofList (firstToLower (sanitize name.toList))) ∨
      (keywords.pairOf name).lower =
        "_" ++ keywords.avoid (String.ofList (firstToLower (sanitize name.toList))) := by
  unfold pairOf
  dsimp only
  split
  · exact .inr rfl
  · exact .inl rfl

/-- **The identifiers of a name are legal** exactly if no character of the name is a number that is neither a
letter nor a decimal digit. -/
theorem legal_pairOf_iff (name : String) :
    (Legal (keywords.pairOf name).upper.toList ↔ ∀ c ∈ name.toList, category? c ≠ some .number) ∧
    (Legal (keywords.pairOf name).lower.toList ↔ ∀ c ∈ name.toList, category? c ≠ some .number) := by
  constructor
  · rw [upper_eq]
    constructor
    · intro legal c listed number
      have kept := mem_avoid (number_mem_firstToUpper number (number_mem_sanitize number listed))
      exact not_isPart_of_number number (legal.parts c kept)
    · exact fun none_ => legal_avoid (legal_sanitize none_).firstToUpper
  · have lower := lower_cases name
    constructor
    · intro legal c listed number
      have kept := mem_avoid (number_mem_firstToLower number (number_mem_sanitize number listed))
      refine not_isPart_of_number number (legal.parts c ?_)
      rcases lower with same | same
      · rwa [same]
      · rw [same, String.toList_append]
        exact List.mem_append_right _ kept
    · intro none_
      have legal := legal_avoid (legal_sanitize none_).firstToLower
      rcases lower with same | same
      · rwa [same]
      · rw [same, String.toList_append]
        exact .cons isStart_underscore legal.parts

/-- **A fraction makes no identifier**: it stands at the start of one and inside the other. -/
theorem pairOf_half : keywords.pairOf "½ Cup" = ⟨"½Cup", "_½Cup"⟩ ∧
    ¬Legal (keywords.pairOf "½ Cup").upper.toList ∧ ¬Legal (keywords.pairOf "½ Cup").lower.toList := by
  have pair : keywords.pairOf "½ Cup" = ⟨"½Cup", "_½Cup"⟩ := by decide +kernel
  have half : category? '½' = some .number := by decide +kernel
  rw [pair]
  refine ⟨rfl, fun legal => ?_, fun legal => ?_⟩
  · exact not_isPart_of_number half (legal.parts '½' (by decide))
  · exact not_isPart_of_number half (legal.parts '½' (by decide))

end Vocabulary

end StaticAccessors
