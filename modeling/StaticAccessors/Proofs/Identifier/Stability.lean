import StaticAccessors.Proofs.Identifier.Pairs
import StaticAccessors.Proofs.Text.Category

/-!
# Bodies of identifiers as names

The body of an identifier is a name itself, and mostly its own body (`sanitize_sanitize_iff`). The second cut
finds other words than the first, for two words that were joined are one now. But what a word starts with was
put in upper case, where a character is its own upper case (`mapCase_settled`), and what a word goes on with is
not touched. Read from left to right, the second pass so repeats the first (`joinFrom_joinFrom_iff`).

The exceptions are letters whose capital is written with a combining mark (`HasMarkedCapital`). The mark gets into
the body when the words are joined, after all that is no letter was left out. In the body it separates: the
second pass leaves it out, and starts a word behind it.

## Contents
- `Text.settles`, and `Text.mapCase_settled`: a change of case made twice.
- `WordClass` of what a change of case writes: `exists_upperOf`.
- `joinFrom`, and `joinWords_eq`: words joined from left to right.
- `joinFrom_joinFrom_iff`.
- `HasMarkedCapital`, `Unmarked`, and `sanitize_sanitize_iff`.
-/

namespace StaticAccessors

/-! ## A change of case made twice -/

namespace Text

/-- Whether a run has at most every second code. -/
def CaseRun.alternates (run : CaseRun) : Bool := run.first.beq run.last || run.stride.beq 2

/-- Whether a run leads to no code from which another one starts: all of them are too low or too high, or each lies
between two of those. The numbers are compared by functions that the kernel computes at once. -/
def CaseRun.misses (run other : CaseRun) : Bool :=
  (run.last + run.shift).toNat.blt other.first || other.last.blt (run.first + run.shift).toNat ||
    (run.alternates && other.alternates && (((run.first + run.shift).toNat + other.first) % 2).beq 1)

/-- An entry of several characters as a run from its code to the first of them. -/
def leadOf (special : Nat × List Nat) : CaseRun :=
  ⟨special.1, special.1, 1, (special.2.headD 0 : Nat) - special.1⟩

/-- All entries of a table as runs. -/
def leads (specials : List (Nat × List Nat)) (runs : List CaseRun) : List CaseRun := specials.map leadOf ++ runs

/-- Whether nothing to which a table leads is led any further. -/
def settles (specials : List (Nat × List Nat)) (runs : List CaseRun) : Bool :=
  (leads specials runs).all fun run => (leads specials runs).all run.misses

variable {specials : List (Nat × List Nat)} {runs : List CaseRun} {run other : CaseRun} {code low : Nat}

/-- The codes of a run that alternates have one parity. -/
theorem CaseRun.parity_of_covers (alternates : run.alternates = true) (h : run.covers code = true) :
    code % 2 = run.first % 2 := by
  obtain ⟨first, last, step⟩ := bounds_of_covers h
  unfold CaseRun.alternates at alternates
  rw [Bool.or_eq_true, Nat.beq_eq, Nat.beq_eq] at alternates
  rcases alternates with one | two
  · omega
  · rw [two] at step
    omega

/-- Where a run leads is not where one starts that it misses. -/
theorem CaseRun.not_covers_of_misses (missed : run.misses other = true) (above : 0 ≤ run.first + run.shift)
    (h : run.covers code = true) : other.covers (code + run.shift).toNat = false := by
  rw [Bool.eq_false_iff]
  intro again
  obtain ⟨first, last, -⟩ := bounds_of_covers h
  obtain ⟨otherFirst, otherLast, -⟩ := bounds_of_covers again
  unfold CaseRun.misses at missed
  simp only [Bool.or_eq_true, Bool.and_eq_true, Nat.blt_eq, Nat.beq_eq] at missed
  rcases missed with (lower | higher) | ⟨⟨alternates, otherAlternates⟩, apart⟩
  · omega
  · omega
  · have parity := parity_of_covers alternates h
    have otherParity := parity_of_covers otherAlternates again
    omega

/-- A character from which nothing leads stays as it is. -/
theorem mapCase_of_unled {c : Char} (h : ∀ run ∈ leads specials runs, run.covers c.toNat = false) :
    mapCase specials runs c = [c] := by
  have mapped := mapped_mapCase specials runs c
  generalize mapCase specials runs c = cs at mapped
  cases mapped with
  | @special codes listed =>
    have led : (leadOf (c.toNat, codes)).covers c.toNat = true := by simp [leadOf, CaseRun.covers]
    have among : leadOf (c.toNat, codes) ∈ leads specials runs :=
      List.mem_append_left _ (List.mem_map_of_mem listed)
    exact absurd led (ne_true_of_eq_false (h _ among))
  | run listed covers =>
    exact absurd covers (ne_true_of_eq_false (h _ (List.mem_append_right _ listed)))
  | plain _ => rfl

/-- **A second change of case does not touch the first character** that a change of case has written, if the table
settles. -/
theorem mapCase_settled (settled : settles specials runs = true) (above : staysAbove specials runs low = true)
    {c first : Char} {rest : List Char} (written : mapCase specials runs c = first :: rest) :
    mapCase specials runs first = [first] := by
  -- It is enough that a lead goes from `c` to `first`, since no other one starts where a lead ends.
  have led : ∀ run ∈ leads specials runs, run.covers c.toNat = true → 0 ≤ run.first + run.shift →
      first.toNat = (c.toNat + run.shift).toNat → mapCase specials runs first = [first] := by
    intro run listed covers from_ reached
    apply mapCase_of_unled
    intro other otherListed
    have missed := List.all_eq_true.mp (List.all_eq_true.mp settled run listed) other otherListed
    rw [reached]
    exact CaseRun.not_covers_of_misses missed from_ covers
  have mapped := mapped_mapCase specials runs c
  rw [written] at mapped
  generalize shown : first :: rest = cs at mapped
  cases mapped with
  | @special codes listed =>
    cases codes with
    | nil => exact absurd shown nofun
    | cons code more =>
      obtain ⟨rfl, -⟩ := List.cons.inj shown
      have entry := List.all_eq_true.mp ((Bool.and_eq_true _ _).mp above).1 _ listed
      have valid := List.all_eq_true.mp entry code List.mem_cons_self
      rw [Bool.and_eq_true, decide_eq_true_eq, decide_eq_true_eq] at valid
      refine led (leadOf (c.toNat, code :: more)) (List.mem_append_left _ (List.mem_map_of_mem listed)) ?_ ?_ ?_
      · simp [leadOf, CaseRun.covers]
      · simp only [leadOf, List.headD_cons]
        omega
      · rw [toNat_ofNat_of_valid (.inl valid.2)]
        simp only [leadOf, List.headD_cons]
        omega
  | @run run listed covers =>
    obtain ⟨rfl, -⟩ := List.cons.inj shown
    obtain ⟨from_, reached⟩ := CaseRun.lands_of_covers above listed covers
    exact led run (List.mem_append_right _ listed) covers (by omega) reached
  | plain _ =>
    obtain ⟨rfl, rfl⟩ := List.cons.inj shown
    exact written

theorem settles_upper : settles upperSpecials upperRuns = true := by decide +kernel

/-- What an upper case starts with is its own upper case. -/
theorem upperOf_settled {c first : Char} {rest : List Char} (h : upperOf c = first :: rest) :
    upperOf first = [first] :=
  mapCase_settled settles_upper staysAbove_upper h

end Text

/-! ## Words joined from left to right -/

namespace Identifier

open Text

variable {c : Char} {cs : List Char} {k before after : WordClass}

theorem ne_underscore {category : Category} (h : category? c = some category) (other : category ≠ .connector) :
    c ≠ '_' := by
  rintro rfl
  have connector : category? '_' = some .connector := by decide +kernel
  rw [connector] at h
  exact other (Option.some.inj h).symm

theorem wordClass_of_letter (h : category? c = some .letter) : wordClass c = .letter := by
  unfold wordClass
  rw [if_neg (ne_underscore h nofun), if_pos (isAlphanumeric_iff.mpr ⟨_, h, rfl⟩)]

theorem wordClass_of_mark (h : category? c = some .mark) : wordClass c = .separator := by
  have wordless : isAlphanumeric c ≠ true := by
    intro wordy
    obtain ⟨category, known, inWords⟩ := isAlphanumeric_iff.mp wordy
    rw [h] at known
    obtain rfl := Option.some.inj known
    exact absurd inWords nofun
  exact wordClass_eq_separator_iff.mpr ⟨ne_underscore h nofun, Bool.eq_false_iff.mpr wordless⟩

/-- **What a character of words is in upper case**: one of the same class that is its own upper case, with more of
that class or with marks behind it. -/
theorem exists_upperOf (h : wordClass c ≠ .separator) :
    ∃ first rest, upperOf c = first :: rest ∧ wordClass first = wordClass c ∧ upperOf first = [first] ∧
      ∀ d ∈ rest, wordClass d = wordClass c ∨ category? d = some .mark := by
  have unchanged (same : upperOf c = [c]) : ∃ first rest, upperOf c = first :: rest ∧
      wordClass first = wordClass c ∧ upperOf first = [first] ∧
      ∀ d ∈ rest, wordClass d = wordClass c ∨ category? d = some .mark :=
    ⟨c, [], same, rfl, same, fun d none_ => absurd none_ List.not_mem_nil⟩
  rcases wordClass_ne_separator_iff.mp h with rfl | wordy
  · exact unchanged (by decide +kernel)
  · obtain ⟨k, known, inWords⟩ := isAlphanumeric_iff.mp wordy
    cases k with
    | letter =>
      obtain ⟨first, rest, written, start, behind⟩ := mapCase_of_letter keepsLetters_upper known
      have written : upperOf c = first :: rest := written
      refine ⟨first, rest, written, ?_, upperOf_settled written, fun d listed => ?_⟩
      · rw [wordClass_of_letter start, wordClass_of_letter known]
      · obtain ⟨k, category, follows⟩ := behind d listed
        rw [wordClass_of_letter known]
        rcases (Bool.or_eq_true _ _).mp follows with letter | mark
        · rw [of_decide_eq_true letter] at category
          exact .inl (wordClass_of_letter category)
        · rw [of_decide_eq_true mark] at category
          exact .inr category
    | digit => exact unchanged (mapCase_of_numeral sparesNumerals_upper (.inl known))
    | number => exact unchanged (mapCase_of_numeral sparesNumerals_upper (.inr known))
    | mark | connector | format => exact absurd inWords nofun

/-- Words joined as they are read, `before` being the class of the character in front: what separates is left out, and
what does not go on with the class in front starts a word. -/
def joinFrom (before : WordClass) : List Char → List Char
  | [] => []
  | c :: rest =>
    match wordClass c with
    | .separator => joinFrom .separator rest
    | k => (if k = before then [c] else upperOf c) ++ joinFrom k rest

theorem joinFrom_separator (h : wordClass c = .separator) :
    joinFrom before (c :: cs) = joinFrom .separator cs := by
  rw [joinFrom, h]

theorem joinFrom_same (h : wordClass c = k) (word : k ≠ .separator) :
    joinFrom k (c :: cs) = c :: joinFrom k cs := by
  rw [joinFrom, h]
  cases k with
  | separator => exact absurd rfl word
  | letter | underscore => rfl

theorem joinFrom_other (h : wordClass c = k) (word : k ≠ .separator) (other : k ≠ before) :
    joinFrom before (c :: cs) = upperOf c ++ joinFrom k cs := by
  rw [joinFrom, h]
  cases k with
  | separator => exact absurd rfl word
  | letter | underscore =>
    dsimp only
    rw [if_neg other]

/-- Words joined, the first of them as it is. -/
def joinRest : List (List Char) → List Char
  | [] => []
  | w :: ws => w ++ ws.flatMap firstToUpper

theorem joinRest_prependToFirst (c : Char) (ws : List (List Char)) :
    joinRest (prependToFirst c ws) = c :: joinRest ws := by
  cases ws <;> rfl

theorem flatMap_prependToFirst (c : Char) (ws : List (List Char)) :
    (prependToFirst c ws).flatMap firstToUpper = upperOf c ++ joinRest ws := by
  cases ws <;> simp [prependToFirst, firstToUpper, joinRest]

/-- Words are joined from left to right, behind a separator or behind a part of the first of them. -/
theorem joinFrom_eq (cs : List Char) : joinFrom .separator cs = joinWords cs ∧ ∀ k, k ≠ .separator →
    joinFrom k cs = if continues k cs then joinRest (words cs) else joinWords cs := by
  induction cs with
  | nil => exact ⟨rfl, fun k _ => rfl⟩
  | cons c rest ih =>
    obtain ⟨apart, inside⟩ := ih
    by_cases separates : wordClass c = .separator
    · have same : joinWords (c :: rest) = joinWords rest := by
        unfold joinWords
        rw [words_separator separates]
      have stops (k : WordClass) (word : k ≠ .separator) : continues k (c :: rest) = false := by
        rw [continues_cons, separates]
        exact decide_eq_false (Ne.symm word)
      refine ⟨?_, fun k word => ?_⟩
      · rw [joinFrom_separator separates, apart, same]
      · rw [joinFrom_separator separates, apart, same, stops k word, if_neg Bool.false_ne_true]
    · -- The word of `c` goes on with what is joined from the rest in its class.
      have whole : joinRest (words (c :: rest)) = c :: joinFrom (wordClass c) rest := by
        rw [words_cons rfl separates, inside _ separates]
        split
        · exact joinRest_prependToFirst c (words rest)
        · rfl
      have started : joinWords (c :: rest) = upperOf c ++ joinFrom (wordClass c) rest := by
        unfold joinWords
        rw [words_cons rfl separates, inside _ separates]
        split
        · exact flatMap_prependToFirst c (words rest)
        · show upperOf c ++ [] ++ joinWords rest = upperOf c ++ joinWords rest
          rw [List.append_nil]
      refine ⟨?_, fun k word => ?_⟩
      · rw [joinFrom_other rfl separates separates, started]
      · rw [continues_cons]
        by_cases same : wordClass c = k
        · rw [decide_eq_true same, if_pos rfl, whole, same]
          exact joinFrom_same same word
        · rw [decide_eq_false same, if_neg Bool.false_ne_true, started]
          exact joinFrom_other rfl separates same

/-- **Words are joined from left to right.** -/
theorem joinWords_eq (cs : List Char) : joinWords cs = joinFrom .separator cs := (joinFrom_eq cs).1.symm

/-! ## Words joined twice -/

/-- What is joined does not start with a separator. -/
theorem joinFrom_ne_cons {d : Char} (separates : wordClass d = .separator) (ds : List Char) :
    joinFrom before cs ≠ d :: ds := by
  induction cs generalizing before with
  | nil => exact nofun
  | cons c rest ih =>
    intro starts
    by_cases left : wordClass c = .separator
    · rw [joinFrom_separator left] at starts
      exact ih starts
    · by_cases same : wordClass c = before
      · rw [joinFrom_same same (same ▸ left)] at starts
        obtain ⟨rfl, -⟩ := List.cons.inj starts
        exact left separates
      · obtain ⟨first, behind, written, class_, -⟩ := exists_upperOf left
        rw [joinFrom_other rfl left same, written, List.cons_append] at starts
        obtain ⟨rfl, -⟩ := List.cons.inj starts
        exact left (class_.symm.trans separates)

/-- What is behind the first character of an upper case stays if no mark is among it. -/
theorem joinFrom_append_iff {ds rest : List Char} (word : k ≠ .separator)
    (behind : ∀ d ∈ ds, wordClass d = k ∨ category? d = some .mark) :
    joinFrom k (ds ++ rest) = ds ++ rest ↔
      (∀ d ∈ ds, wordClass d ≠ .separator) ∧ joinFrom k rest = rest := by
  induction ds with
  | nil => simp
  | cons d ds ih =>
    rw [List.forall_mem_cons] at behind
    rw [List.forall_mem_cons, List.cons_append]
    rcases behind.1 with same | mark
    · rw [joinFrom_same same word, List.cons_inj_right, ih behind.2, same, and_assoc]
      exact (and_iff_right word).symm
    · have separates := wordClass_of_mark mark
      rw [joinFrom_separator separates]
      constructor
      · intro starts
        exact absurd starts (joinFrom_ne_cons separates _)
      · intro kept
        exact absurd separates kept.1.1

/-- **Joining words once more changes nothing** exactly if nothing that was joined separates. The second pass may take
for a part of the word in front what the first took for the start of one, but not the other way round. -/
theorem joinFrom_joinFrom_iff (h : before ≠ .separator → after = before) :
    joinFrom after (joinFrom before cs) = joinFrom before cs ↔
      ∀ d ∈ joinFrom before cs, wordClass d ≠ .separator := by
  induction cs generalizing before after with
  | nil => exact ⟨fun _ d none_ => absurd none_ List.not_mem_nil, fun _ => rfl⟩
  | cons c rest ih =>
    by_cases left : wordClass c = .separator
    · rw [joinFrom_separator left]
      exact ih fun never => absurd rfl never
    · have later := @ih (wordClass c) (wordClass c) fun _ => rfl
      by_cases same : wordClass c = before
      · have word : before ≠ .separator := same ▸ left
        rw [h word, joinFrom_same same word, joinFrom_same same word, List.cons_inj_right, List.forall_mem_cons]
        rw [same] at later
        rw [later]
        exact (and_iff_right left).symm
      · obtain ⟨first, behind, written, class_, settled, follow⟩ := exists_upperOf left
        rw [joinFrom_other rfl left same, written, List.cons_append]
        -- The first character is its own upper case, so it does not matter whether it starts a word.
        have front : joinFrom after (first :: (behind ++ joinFrom (wordClass c) rest)) =
            first :: joinFrom (wordClass c) (behind ++ joinFrom (wordClass c) rest) := by
          by_cases goesOn : wordClass c = after
          · rw [← goesOn]
            exact joinFrom_same class_ left
          · rw [joinFrom_other class_ left goesOn, settled]
            rfl
        rw [front, List.cons_inj_right, joinFrom_append_iff left follow, later, List.forall_mem_cons,
          List.forall_mem_append]
        exact (and_iff_right (class_ ▸ left)).symm

/-! ## Bodies -/

/-- What is joined starts with a character of words that is its own upper case. -/
theorem upperOf_of_joinWords {first : Char} {rest : List Char} (h : joinWords cs = first :: rest) :
    wordClass first ≠ .separator ∧ upperOf first = [first] := by
  rw [joinWords_eq] at h
  induction cs with
  | nil => exact absurd h nofun
  | cons c more ih =>
    by_cases left : wordClass c = .separator
    · rw [joinFrom_separator left] at h
      exact ih h
    · obtain ⟨start, behind, written, class_, settled, -⟩ := exists_upperOf left
      rw [joinFrom_other rfl left left, written] at h
      obtain ⟨rfl, -⟩ := List.cons.inj h
      exact ⟨class_ ▸ left, settled⟩

/-- A body starts with a character of words that is its own upper case. -/
theorem exists_sanitize_eq (cs : List Char) : ∃ first rest, sanitize cs = first :: rest ∧
    isDigit first = false ∧ wordClass first ≠ .separator ∧ upperOf first = [first] := by
  have guard : isDigit '_' = false ∧ wordClass '_' ≠ .separator ∧ upperOf '_' = ['_'] := by decide +kernel
  unfold sanitize
  cases joined : joinWords cs with
  | nil => exact ⟨'_', [], rfl, guard⟩
  | cons first rest =>
    unfold guardStart
    dsimp only
    by_cases digit : isDigit first = true
    · rw [if_pos digit]
      exact ⟨'_', first :: rest, rfl, guard⟩
    · rw [if_neg digit]
      exact ⟨first, rest, rfl, Bool.eq_false_iff.mpr digit, upperOf_of_joinWords joined⟩

/-- **A body is in upper case already.** -/
theorem firstToUpper_body (cs : List Char) : firstToUpper (sanitize cs) = sanitize cs := by
  obtain ⟨first, rest, body, -, -, settled⟩ := exists_sanitize_eq cs
  rw [body, firstToUpper, settled]
  rfl

/-- The body of a body starts like it, so it needs no other guard. -/
theorem sanitize_body (cs : List Char) : sanitize (sanitize cs) = joinFrom .separator (sanitize cs) := by
  obtain ⟨first, rest, body, noDigit, word, settled⟩ := exists_sanitize_eq cs
  unfold sanitize at body ⊢
  rw [body, joinWords_eq, joinFrom_other rfl word word, settled]
  show guardStart (first :: joinFrom (wordClass first) rest) = first :: joinFrom (wordClass first) rest
  unfold guardStart
  dsimp only
  rw [if_neg (ne_true_of_eq_false noDigit)]

/-- A letter whose capital is written with a combining mark. -/
def HasMarkedCapital (c : Char) : Prop := ∃ d ∈ upperOf c, category? d = some .mark

/-- A name in which no word starts with such a letter. -/
def Unmarked (cs : List Char) : Prop := ∀ w ∈ words cs, ∀ c ∈ w.head?, ¬HasMarkedCapital c

-- The instances are named, since characters are finitely many and a search finds one that tries them all.
instance (c : Char) : Decidable (HasMarkedCapital c) := List.decidableBEx _ (upperOf c)

instance (cs : List Char) : Decidable (Unmarked cs) :=
  have (w : List Char) : Decidable (∀ c ∈ w.head?, ¬HasMarkedCapital c) := Option.decidableForallMem w.head?
  List.decidableBAll _ (words cs)

/-- Nothing but such marks separates in what is joined. -/
theorem unmarked_iff : Unmarked cs ↔ ∀ d ∈ joinWords cs, wordClass d ≠ .separator := by
  unfold joinWords
  constructor
  · intro unmarked d listed
    obtain ⟨w, hw, hd⟩ := List.mem_flatMap.mp listed
    cases w with
    | nil => exact absurd hd List.not_mem_nil
    | cons c rest =>
      have word := (mem_of_mem_words hw List.mem_cons_self).2
      rcases List.mem_append.mp hd with hd | hd
      · obtain ⟨first, behind, written, class_, -, follow⟩ := exists_upperOf word
        have unmarked : ¬category? d = some .mark := fun mark => unmarked _ hw c rfl ⟨d, hd, mark⟩
        rw [written] at hd
        rcases List.mem_cons.mp hd with rfl | hd
        · rw [class_]
          exact word
        · rw [(follow d hd).resolve_right unmarked]
          exact word
      · exact (mem_of_mem_words hw (List.mem_cons_of_mem c hd)).2
  · rintro kept w hw c first ⟨d, hd, mark⟩
    cases w with
    | nil => exact absurd first nofun
    | cons start rest =>
      obtain rfl := Option.some.inj first
      have listed : d ∈ firstToUpper (start :: rest) := List.mem_append_left rest hd
      exact kept d (List.mem_flatMap.mpr ⟨_, hw, listed⟩) (wordClass_of_mark mark)

/-- **The body of a name is its own body** exactly if no word of the name starts with a letter whose capital has a
mark. -/
theorem sanitize_sanitize_iff (cs : List Char) : sanitize (sanitize cs) = sanitize cs ↔ Unmarked cs := by
  rw [sanitize_body, unmarked_iff, joinWords_eq]
  have twice (after : WordClass) := @joinFrom_joinFrom_iff cs .separator after fun never => absurd rfl never
  unfold sanitize
  rw [joinWords_eq]
  cases joined : joinFrom .separator cs with
  | nil => exact ⟨fun _ d none_ => absurd none_ List.not_mem_nil, fun _ => by decide +kernel⟩
  | cons first rest =>
    rw [joined] at twice
    unfold guardStart
    dsimp only
    by_cases digit : isDigit first = true
    · have guard : wordClass '_' = .underscore ∧ upperOf '_' = ['_'] := by decide +kernel
      have front : joinFrom .separator ('_' :: first :: rest) = upperOf '_' ++ joinFrom .underscore (first :: rest) :=
        joinFrom_other guard.1 nofun nofun
      rw [if_pos digit, front, guard.2, ← twice .underscore]
      exact List.cons_inj_right '_'
    · rw [if_neg digit]
      exact twice .separator

example : Unmarked "ßen 2nd_ﬁg".toList ∧ ¬Unmarked "ǰami".toList := by decide +kernel

end Identifier

end StaticAccessors
