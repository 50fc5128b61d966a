import StaticAccessors.Identifier.Vocabulary

/-!
# How identifiers start

The identifier of an accessor never starts with a small letter of the basic alphabet, and that of a
field never with a capital one. Both follow from the tables of letter case: what a table writes for a
character never starts in the range of letters that it exists to replace. The tables are checked entry
by entry (`avoids`), and the check carries over to all characters (`mapCase_cons`).

## Contents
- `startsIn`: whether a text starts with a character of a range.
- `Text.Mapped`: the ways in which a table of letter case can map a character.
- `upperOf_cons`, `lowerOf_cons`: the start of a mapped character.
- `startsSmall_upper`, `startsCapital_lower`: the start of an identifier.
-/

namespace StaticAccessors

/-- Whether the first of some characters lies in a range of codes. -/
def startsIn (low high : Nat) : List Char → Bool
  | [] => false
  | c :: _ => low ≤ c.toNat && c.toNat ≤ high

/-- Whether a text starts with a small letter of the basic alphabet. -/
def startsSmall (s : String) : Bool := startsIn 0x61 0x7a s.toList

/-- Whether a text starts with a capital letter of the basic alphabet. -/
def startsCapital (s : String) : Bool := startsIn 0x41 0x5a s.toList

theorem startsIn_append {low high : Nat} {cs : List Char} (h : cs ≠ []) (ds : List Char) :
    startsIn low high (cs ++ ds) = startsIn low high cs := by
  cases cs with
  | nil => exact absurd rfl h
  | cons c rest => rfl

/-! ## Tables -/

namespace Text

/-- The ways in which a table can map a character. -/
inductive Mapped (specials : List (Nat × List Nat)) (runs : List CaseRun) (c : Char) : List Char → Prop
  /-- There is an entry for the character. -/
  | special {codes : List Nat} : (c.toNat, codes) ∈ specials → Mapped specials runs c (codes.map Char.ofNat)
  /-- A run covers it. -/
  | run {r : CaseRun} : r ∈ runs → r.covers c.toNat = true →
      Mapped specials runs c [Char.ofNat (c.toNat + r.shift).toNat]
  /-- Nothing is about it. -/
  | plain : (∀ r ∈ runs, r.covers c.toNat = false) → Mapped specials runs c [c]

theorem mapped_mapCase (specials : List (Nat × List Nat)) (runs : List CaseRun) (c : Char) :
    Mapped specials runs c (mapCase specials runs c) := by
  unfold mapCase
  cases entry : specials.lookup c.toNat with
  | some codes =>
    obtain ⟨above, below, parts, -⟩ := List.lookup_eq_some_iff.mp entry
    refine .special ?_
    rw [parts]
    exact List.mem_append_right _ List.mem_cons_self
  | none =>
    cases found : runs.find? (·.covers c.toNat) with
    | some r =>
      have covers := List.find?_some found
      exact .run (List.mem_of_find?_eq_some found) covers
    | none => exact .plain fun r listed => Bool.eq_false_iff.mpr (List.find?_eq_none.mp found r listed)

theorem CaseRun.bounds_of_covers {run : CaseRun} {code : Nat} (h : run.covers code = true) :
    run.first ≤ code ∧ code ≤ run.last ∧ (code - run.first) % run.stride = 0 := by
  unfold covers at h
  rw [Bool.and_eq_true, Bool.and_eq_true, decide_eq_true_eq, decide_eq_true_eq, beq_iff_eq] at h
  exact ⟨h.1.1, h.1.2, h.2⟩

/-- Whether no entry of a table leads into a range, and some entry leads all of it away. -/
def avoids (specials : List (Nat × List Nat)) (runs : List CaseRun) (low high : Nat) : Bool :=
  specials.all (fun e =>
    match e.2 with
    | [] => false
    | code :: _ => code < low || high < code) &&
  runs.all (fun r => r.last + r.shift < low || high < r.first + r.shift) &&
  runs.any (fun r => r.first ≤ low && high ≤ r.last && r.stride == 1)

variable {specials : List (Nat × List Nat)} {runs : List CaseRun} {low high : Nat}

/-- A code is that of its character, unless there is no such character. -/
theorem toNat_ofNat (n : Nat) : (Char.ofNat n).toNat = n ∨ (Char.ofNat n).toNat = 0 := by
  unfold Char.ofNat
  by_cases valid : n.isValidChar
  · rw [dif_pos valid]
    exact .inl rfl
  · rw [dif_neg valid]
    exact .inr rfl

/-- A code outside of a range above zero gives no character in it. -/
theorem startsIn_ofNat {n : Nat} (hlow : 0 < low) (h : n < low ∨ high < n) (rest : List Char) :
    startsIn low high (Char.ofNat n :: rest) = false := by
  unfold startsIn
  rw [Bool.and_eq_false_iff, decide_eq_false_iff_not, decide_eq_false_iff_not]
  rcases toNat_ofNat n with hn | hn <;> omega

/-- **What a table writes for a character** is something, and does not start in a range that the table
avoids. -/
theorem mapCase_cons (h : avoids specials runs low high = true) (hlow : 0 < low) (c : Char) :
    mapCase specials runs c ≠ [] ∧ startsIn low high (mapCase specials runs c) = false := by
  unfold avoids at h
  rw [Bool.and_eq_true, Bool.and_eq_true] at h
  obtain ⟨⟨hspecials, hruns⟩, hcover⟩ := h
  have mapped := mapped_mapCase specials runs c
  generalize mapCase specials runs c = cs at mapped ⊢
  cases mapped with
  | @special codes listed =>
    have entry := List.all_eq_true.mp hspecials _ listed
    cases codes with
    | nil => exact absurd entry nofun
    | cons code rest =>
      simp only [Bool.or_eq_true, decide_eq_true_eq] at entry
      exact ⟨nofun, startsIn_ofNat hlow entry _⟩
  | run listed covers =>
    have entry := List.all_eq_true.mp hruns _ listed
    obtain ⟨first, last, -⟩ := CaseRun.bounds_of_covers covers
    simp only [Bool.or_eq_true, decide_eq_true_eq] at entry
    exact ⟨nofun, startsIn_ofNat hlow (by omega) _⟩
  | plain uncovered =>
    -- No entry is about the character, but one covers the whole range.
    obtain ⟨run, hm, wide⟩ := List.any_eq_true.mp hcover
    have other := uncovered run hm
    unfold CaseRun.covers at other
    simp only [Bool.and_eq_true, decide_eq_true_eq, beq_iff_eq] at wide
    obtain ⟨⟨hfirst, hlast⟩, hstride⟩ := wide
    rw [hstride, Nat.mod_one] at other
    refine ⟨nofun, ?_⟩
    show (decide (low ≤ c.toNat) && decide (c.toNat ≤ high)) = false
    rw [Bool.and_eq_false_iff, decide_eq_false_iff_not, decide_eq_false_iff_not]
    simp only [beq_self_eq_true, Bool.and_true, Bool.and_eq_false_iff, decide_eq_false_iff_not] at other
    omega

/-- A character in upper case does not start with a small letter. -/
theorem upperOf_cons (c : Char) : upperOf c ≠ [] ∧ startsIn 0x61 0x7a (upperOf c) = false :=
  mapCase_cons (by decide +kernel) (by decide) c

/-- A character in lower case does not start with a capital letter. -/
theorem lowerOf_cons (c : Char) : lowerOf c ≠ [] ∧ startsIn 0x41 0x5a (lowerOf c) = false :=
  mapCase_cons (by decide +kernel) (by decide) c

end Text

/-! ## Identifiers -/

open Text Identifier

theorem Identifier.guardStart_ne_nil (cs : List Char) : guardStart cs ≠ [] := by
  unfold guardStart
  split
  · exact nofun
  · split <;> exact nofun

/-- The body of an identifier is not empty. -/
theorem Identifier.exists_sanitize (cs : List Char) : ∃ c rest, sanitize cs = c :: rest :=
  List.exists_cons_of_ne_nil (guardStart_ne_nil (joinWords cs))

/-- The body of an identifier in upper case is not empty either, and does not start with a small letter. -/
theorem Identifier.firstToUpper_sanitize (cs : List Char) :
    firstToUpper (sanitize cs) ≠ [] ∧ startsIn 0x61 0x7a (firstToUpper (sanitize cs)) = false := by
  obtain ⟨c, rest, body⟩ := exists_sanitize cs
  obtain ⟨some_, start⟩ := upperOf_cons c
  rw [body, firstToUpper]
  exact ⟨List.append_ne_nil_of_left_ne_nil some_ rest, (startsIn_append some_ rest).trans start⟩

namespace Vocabulary

variable (v : Vocabulary)

/-- A reserved word is changed at its end. -/
theorem startsIn_avoid {low high : Nat} {word : List Char} (h : word ≠ []) :
    startsIn low high (v.avoid (String.ofList word)).toList = startsIn low high word := by
  unfold avoid
  split
  · rw [String.toList_append, String.toList_ofList]
    exact startsIn_append h _
  · rw [String.toList_ofList]

/-- **The identifier of an accessor does not start with a small letter.** -/
theorem startsSmall_upper (name : String) : startsSmall (v.pairOf name).upper = false := by
  obtain ⟨some_, start⟩ := firstToUpper_sanitize name.toList
  exact (startsIn_avoid v some_).trans start

/-- **The identifier of a field does not start with a capital letter.** -/
theorem startsCapital_lower (name : String) : startsCapital (v.pairOf name).lower = false := by
  obtain ⟨c, rest, hbody⟩ := exists_sanitize name.toList
  obtain ⟨some_, start⟩ := lowerOf_cons c
  have plain : startsCapital (v.avoid (String.ofList (firstToLower (sanitize name.toList)))) = false := by
    unfold startsCapital
    rw [hbody, firstToLower, startsIn_avoid v (List.append_ne_nil_of_left_ne_nil some_ rest)]
    exact (startsIn_append some_ rest).trans start
  unfold pairOf
  dsimp only
  split
  · unfold startsCapital
    rw [String.toList_append]
    rfl
  · exact plain

end Vocabulary

end StaticAccessors
