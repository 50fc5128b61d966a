import StaticAccessors.Proofs.Text.Cutting

/-!
# Values on one line

A value that stands inside a list or an object is shown without a line feed, whatever texts it holds: a text
between quotes shows its line ends as escapes. A text on its own is shown as it is, so a value is shown on one
line as soon as its texts are single lines.

## Contents
- `Unbroken` and `Value.Unbroken`: texts without an end of a line, and values all of whose texts are such.
- `singleLine_quote`, `singleLine_floatText`, `Value.singleLine_quoted`: what is shown on one line.
- `Value.Unbroken.singleLine_display`, `Value.Unbroken.elements`.
-/

namespace StaticAccessors

open Text Decimal

/-- A text without an end of a line in it. -/
def Unbroken (t : String) : Prop := SingleLine t ∧ '\r' ∉ t.toList

instance (t : String) : Decidable (Unbroken t) := inferInstanceAs (Decidable (_ ∧ _))

/-! ## Digits -/

theorem digitChar_ne_lineFeed (n : Nat) : n.digitChar ≠ '\n' := by
  by_cases small : n < 36
  · revert n
    decide
  · unfold Nat.digitChar
    simp (disch := omega) only [if_neg]
    decide

theorem lineFeed_not_mem_toDigits {base : Nat} (two : 2 ≤ base) (n : Nat) : '\n' ∉ Nat.toDigits base n := by
  induction n using Nat.strongRecOn with
  | ind n ih =>
    by_cases small : n < base
    · rw [Nat.toDigits_of_lt_base small, List.mem_singleton]
      exact (digitChar_ne_lineFeed n).symm
    · rw [Nat.toDigits_of_base_le two (by omega), List.mem_append, List.mem_singleton, not_or]
      exact ⟨ih _ (Nat.div_lt_self (by omega) two), (digitChar_ne_lineFeed _).symm⟩

/-- The digits of a double are digits. -/
theorem lineFeed_not_mem_shortest (mantissa : Nat) (exponent : Int) :
    '\n' ∉ (shortest mantissa exponent).digits := by
  unfold shortest
  dsimp only
  split
  · rename_i n _ _
    intro found
    exact lineFeed_not_mem_toDigits (by decide) n
      (List.mem_reverse.mp (List.dropWhile_subset _ (List.mem_reverse.mp found)))
  · decide

/-- A point, an exponent and zeros that fill up add no line feed to digits. -/
theorem lineFeed_not_mem_pointed {d : Digits} (h : '\n' ∉ d.digits) : '\n' ∉ pointed d := by
  have zeros (n : Nat) : '\n' ∉ List.replicate n '0' := fun found =>
    absurd (List.eq_of_mem_replicate found) (by decide)
  have digits (n : Nat) : '\n' ∉ digitsOf n := lineFeed_not_mem_toDigits (by decide) n
  have first (n : Nat) : '\n' ∉ d.digits.take n := fun found => h (List.mem_of_mem_take found)
  have last (n : Nat) : '\n' ∉ d.digits.drop n := fun found => h (List.mem_of_mem_drop found)
  have others : '\n' ∉ d.digits.tail := fun found => h (List.mem_of_mem_tail found)
  have sign (negative : Prop) [Decidable negative] : '\n' ≠ if negative then '-' else '+' := by
    split <;> decide
  unfold pointed
  dsimp only
  split
  · split
    · simp [zeros, h]
    · split
      · simp [zeros, h]
      · simp [first, last]
  · split
    · simp [zeros, first, digits, sign]
    · simp [zeros, first, others, digits, sign]

theorem singleLine_floatText (x : Float) : SingleLine (floatText x) := by
  unfold floatText
  split
  · decide
  · split <;> decide
  · rename_i negative mantissa exponent _
    have digits : '\n' ∉ pointed (if mantissa = 0 then ⟨['0'], 1⟩ else shortest mantissa exponent) := by
      refine lineFeed_not_mem_pointed ?_
      split
      · decide
      · exact lineFeed_not_mem_shortest mantissa exponent
    unfold SingleLine
    rw [String.toList_ofList, List.mem_append, not_or]
    refine ⟨?_, digits⟩
    split <;> decide

/-! ## Texts between quotes -/

theorem lineFeed_not_mem_hexText (width n : Nat) : '\n' ∉ hexText width n := by
  unfold hexText
  rw [List.mem_append, not_or]
  exact ⟨fun zeros => absurd (List.eq_of_mem_replicate zeros) (by decide),
    lineFeed_not_mem_toDigits (by decide) n⟩

/-- Between quotes a line feed is shown as an escape. -/
theorem lineFeed_not_mem_quoteChar {q : Char} (plain : q ≠ '\n') (c : Char) : '\n' ∉ quoteChar q c := by
  have hex (width : Nat) := lineFeed_not_mem_hexText width c.toNat
  unfold quoteChar
  repeat' split
  · rename_i escaped
    have other : '\n' ≠ c := by
      rintro rfl
      simp [plain.symm] at escaped
    simp [other]
  · decide
  · decide
  · decide
  · rename_i notFeed _ _
    simpa using Ne.symm notFeed
  all_goals simp [hex]

theorem quoteMark_ne_lineFeed (s : String) : quoteMark s ≠ '\n' := by
  unfold quoteMark
  split <;> decide

/-- A text between quotes is shown on one line. -/
theorem singleLine_quote (s : String) : SingleLine (quote s) := by
  have plain := quoteMark_ne_lineFeed s
  unfold SingleLine quote
  dsimp only
  rw [String.toList_ofList]
  simp only [List.mem_append, List.mem_cons, List.mem_flatMap, List.not_mem_nil, or_false, not_or]
  exact ⟨⟨plain.symm, fun ⟨c, _, found⟩ => lineFeed_not_mem_quoteChar plain c found⟩, plain.symm⟩

/-! ## Values -/

namespace Value

theorem singleLine_nat (n : Nat) : SingleLine (toString n) := by
  unfold SingleLine
  rw [Nat.toString_eq_repr, Nat.toList_repr]
  exact lineFeed_not_mem_toDigits (by decide) n

theorem singleLine_int (n : Int) : SingleLine (toString n) := by
  rw [Int.toString_eq_repr, Int.repr_eq_if]
  split
  · exact singleLine_nat _
  · exact singleLine_append.mpr ⟨by decide, singleLine_nat _⟩

mutual
/-- **Inside a list or an object every value is shown on one line.** -/
theorem singleLine_quoted (v : Value) : SingleLine v.quoted := by
  cases v with
  | null => decide
  | bool b => cases b <;> decide
  | int n => exact singleLine_int n
  | float x => exact singleLine_floatText x
  | text s => exact singleLine_quote s
  | list xs =>
    unfold quoted
    simp only [singleLine_append]
    exact ⟨⟨by decide, singleLine_quotedList xs⟩, by decide⟩
  | object fs =>
    unfold quoted
    simp only [singleLine_append]
    exact ⟨⟨by decide, singleLine_quotedFields fs⟩, by decide⟩

theorem singleLine_quotedList (xs : List Value) : SingleLine (quotedList xs) := by
  match xs with
  | [] => decide
  | [x] => exact singleLine_quoted x
  | x :: y :: rest =>
    unfold quotedList
    simp only [singleLine_append]
    exact ⟨⟨singleLine_quoted x, by decide⟩, singleLine_quotedList (y :: rest)⟩

theorem singleLine_quotedFields (fs : List (String × Value)) : SingleLine (quotedFields fs) := by
  match fs with
  | [] => decide
  | [(k, v)] =>
    unfold quotedFields
    simp only [singleLine_append]
    exact ⟨⟨singleLine_quote k, by decide⟩, singleLine_quoted v⟩
  | (k, v) :: f :: rest =>
    unfold quotedFields
    simp only [singleLine_append]
    exact ⟨⟨⟨⟨singleLine_quote k, by decide⟩, singleLine_quoted v⟩, by decide⟩, singleLine_quotedFields (f :: rest)⟩
end

/-- A value none of whose texts has an end of a line in it, the names of fields included. -/
inductive Unbroken : Value → Prop
  /-- a value without elements has no texts -/
  | scalar {v : Value} : v.elements? = none → Unbroken v
  | text {t : String} : StaticAccessors.Unbroken t → Unbroken (.text t)
  | list {xs : List Value} : (∀ x ∈ xs, Unbroken x) → Unbroken (.list xs)
  | object {fs : Fields} : (∀ f ∈ fs, StaticAccessors.Unbroken f.1) → (∀ f ∈ fs, Unbroken f.2) →
      Unbroken (.object fs)

/-- **Such a value is shown on one line.** -/
theorem Unbroken.singleLine_display {v : Value} (h : v.Unbroken) : SingleLine v.display := by
  cases h with
  | scalar none_ =>
    cases v with
    | text t => exact absurd none_ nofun
    | _ => exact singleLine_quoted _
  | text plain => exact plain.1
  | list => exact singleLine_quoted _
  | object => exact singleLine_quoted _

/-- What a loop over it visits is such a value again. -/
theorem Unbroken.elements {v : Value} (h : v.Unbroken) {elements : List Value}
    (visited : v.elements? = some elements) : ∀ e ∈ elements, e.Unbroken := by
  cases h with
  | scalar none_ => exact absurd (none_.symm.trans visited) nofun
  | @text t plain =>
    obtain rfl := Option.some.inj visited
    intro e listed
    obtain ⟨c, here, rfl⟩ := List.mem_map.mp listed
    refine .text ⟨?_, ?_⟩
    · unfold SingleLine
      rw [String.toList_singleton, List.mem_singleton]
      exact fun feed => plain.1 (feed ▸ here)
    · rw [String.toList_singleton, List.mem_singleton]
      exact fun return_ => plain.2 (return_ ▸ here)
  | list each =>
    obtain rfl := Option.some.inj visited
    exact each
  | object names _ =>
    obtain rfl := Option.some.inj visited
    intro e listed
    obtain ⟨f, here, rfl⟩ := List.mem_map.mp listed
    exact .text (names f here)

end Value

end StaticAccessors
