import StaticAccessors.Json.Printer
import StaticAccessors.Json.Reader
import StaticAccessors.Proofs.Value.Sameness
import StaticAccessors.Text.Lines

/-!
# Reading what was printed

A document without doubles is read back from its text (`read_print`). Each part of a text is read whatever
follows it, as long as that cannot be taken for more of the part: a string ends with its quote, a number
before a comma or a new line (`Ends`). `ReadsBack` says so of a value, and the elements of lists and the fields
of objects pass it on. The text of a document keeps to line feeds, so unifying its line ends does not change
it (`not_mem_print`).

## Contents
- `readString_print`: strings, escaped character by escaped character.
- `readUnsigned_toDigits`: numbers.
- `Plain`: documents that are read back; `ReadsBack`.
- `ReadsMember` and the steps of the reader; `readElements_print`, `readMembers_print`: lists and objects.
- `readsBack`, `read_print`.
- `unifyLines_of_not_mem`, `not_mem_print`.
-/

namespace StaticAccessors.Json

/-! ## Strings -/

theorem hexFour?_control {n : Nat} (h : n < 0x20) : hexFour? (hexText 4 n) = some n := by
  revert n
  decide

theorem length_hexText_control {n : Nat} (h : n < 0x20) : (hexText 4 n).length = 4 := by
  revert n
  decide

/-- What is escaped by its number is read, if the number is not one half of a pair. -/
theorem readString_hex (opened done : List Char) {w x y z : Char} {code : Nat}
    (read : hexFour? [w, x, y, z] = some code) (small : code < 0xd800) (fuel : Nat) (next : Char)
    (more : List Char) :
    readString opened (fuel + 1) done ('\\' :: 'u' :: w :: x :: y :: z :: next :: more) =
      readString opened fuel (Char.ofNat code :: done) (next :: more) := by
  have high : ¬(0xd800 ≤ code ∧ code ≤ 0xdbff) := by omega
  have low : ¬(0xdc00 ≤ code ∧ code ≤ 0xdfff) := by omega
  conv => lhs; unfold readString
  simp [read, high, low]

/-- A control character in its escape is read. -/
theorem readString_control (opened done : List Char) {c : Char} (control : c.toNat < 0x20) (fuel : Nat)
    (next : Char) (more : List Char) :
    readString opened (fuel + 1) done ('\\' :: 'u' :: (hexText 4 c.toNat ++ next :: more)) =
      readString opened fuel (c :: done) (next :: more) := by
  have read := hexFour?_control control
  have four := length_hexText_control control
  generalize hexText 4 c.toNat = digits at read four
  obtain ⟨w, x, y, z, rfl⟩ : ∃ w x y z, digits = [w, x, y, z] :=
    ⟨_, _, _, _, List.eq_getElem_of_length_eq_four _ four⟩
  have small : c.toNat < 0xd800 := Nat.lt_trans control (by decide)
  have step := readString_hex opened done read small fuel next more
  rwa [Char.ofNat_toNat] at step

/-- A character that needs no escape is read as it is. -/
theorem readString_plain (opened done : List Char) {c : Char} (unquoted : c ≠ '"') (unescaped : c ≠ '\\')
    (visible : ¬c.toNat < 0x20) (fuel : Nat) (rest : List Char) :
    readString opened (fuel + 1) done (c :: rest) = readString opened fuel (c :: done) rest := by
  conv => lhs; unfold readString
  split
  · rename_i none
    exact absurd none (List.cons_ne_nil c rest)
  · rename_i shape
    exact absurd (List.cons.inj shape).1 unquoted
  on_goal 4 =>
    rename_i shape
    obtain ⟨rfl, rfl⟩ := List.cons.inj shape
    exact if_neg visible
  all_goals
    rename_i shape
    exact absurd (List.cons.inj shape).1 unescaped

/-- One character is read from its escape. -/
theorem readString_escapeChar (opened done : List Char) (c : Char) (fuel : Nat) (next : Char) (more : List Char) :
    readString opened (fuel + 1) done (escapeChar c ++ next :: more) =
      readString opened fuel (c :: done) (next :: more) := by
  unfold escapeChar
  split
  · rename_i quoted
    simp only [Bool.or_eq_true, decide_eq_true_eq] at quoted
    rcases quoted with rfl | rfl <;> rfl
  rename_i plain
  split
  · subst_vars; rfl
  split
  · subst_vars; rfl
  split
  · subst_vars; rfl
  split
  · subst_vars; rfl
  split
  · subst_vars; rfl
  split
  · rename_i control
    exact readString_control opened done control fuel next more
  · rename_i visible
    simp only [Bool.or_eq_true, decide_eq_true_eq, not_or] at plain
    exact readString_plain opened done plain.1 plain.2 visible fuel _

/-- **A string is read back.** -/
theorem readString_print (opened done cs : List Char) (fuel : Nat) (rest : List Char)
    (enough : cs.length < fuel) :
    readString opened fuel done (cs.flatMap escapeChar ++ '"' :: rest) =
      .ok (String.ofList (done.reverse ++ cs), rest) := by
  induction cs generalizing done fuel with
  | nil =>
    obtain ⟨fuel, rfl⟩ := Nat.exists_eq_add_of_lt enough
    simp [readString]
  | cons c cs ih =>
    obtain ⟨fuel, rfl⟩ : ∃ n, fuel = n + 1 := ⟨fuel - 1, by omega⟩
    have further := ih (c :: done) fuel (by simpa using enough)
    rw [List.flatMap_cons, List.append_assoc]
    -- Something follows the character: at least the closing quote.
    obtain ⟨next, more, shape⟩ : ∃ next more, cs.flatMap escapeChar ++ '"' :: rest = next :: more :=
      List.exists_cons_of_ne_nil (by simp)
    rw [shape] at further ⊢
    rw [readString_escapeChar, further]
    simp

/-! ## Numbers -/

/-- What follows a value inside a document: nothing, a comma, or a new line. -/
def Ends (rest : List Char) : Prop := ∀ c ∈ rest.head?, c = ',' ∨ c = '\n'

theorem ends_nil : Ends [] := nofun

theorem ends_comma (rest : List Char) : Ends (',' :: rest) := fun _ h => .inl (Option.some.inj h).symm

theorem ends_newLine (rest : List Char) : Ends ('\n' :: rest) := fun _ h => .inr (Option.some.inj h).symm

theorem Ends.cases {rest : List Char} (h : Ends rest) :
    rest = [] ∨ (∃ more, rest = ',' :: more) ∨ ∃ more, rest = '\n' :: more := by
  cases rest with
  | nil => exact .inl rfl
  | cons c more =>
    rcases h c rfl with rfl | rfl
    · exact .inr (.inl ⟨more, rfl⟩)
    · exact .inr (.inr ⟨more, rfl⟩)

theorem takeDigits_append {digits rest : List Char} (all : ∀ c ∈ digits, c.isDigit = true) (ends : Ends rest) :
    takeDigits (digits ++ rest) = (digits, rest) := by
  have stop : rest.takeWhile Char.isDigit = [] ∧ rest.dropWhile Char.isDigit = rest := by
    rcases ends.cases with rfl | ⟨more, rfl⟩ | ⟨more, rfl⟩ <;> exact ⟨rfl, rfl⟩
  unfold takeDigits
  rw [List.takeWhile_append_of_pos all, List.dropWhile_append_of_pos all, stop.1, stop.2, List.append_nil]

theorem takeFraction_of_ends {rest : List Char} (ends : Ends rest) : takeFraction rest = ([], rest) := by
  rcases ends.cases with rfl | ⟨more, rfl⟩ | ⟨more, rfl⟩ <;> rfl

theorem takeExponent_cons {c : Char} (small : c ≠ 'e') (large : c ≠ 'E') (more : List Char) :
    takeExponent (c :: more) = none := by
  have apart : ¬((decide (c = 'e') || decide (c = 'E')) = true) := by simp [small, large]
  unfold takeExponent
  dsimp only
  split
  · rename_i shape
    obtain ⟨rfl, -⟩ := List.cons.inj shape
    exact if_neg apart
  · rename_i shape
    obtain ⟨rfl, -⟩ := List.cons.inj shape
    exact if_neg apart
  · rename_i shape
    obtain ⟨rfl, -⟩ := List.cons.inj shape
    exact if_neg apart
  · rfl

theorem takeExponent_of_ends {rest : List Char} (ends : Ends rest) : takeExponent rest = none := by
  rcases ends.cases with rfl | ⟨more, rfl⟩ | ⟨more, rfl⟩
  · rfl
  · exact takeExponent_cons (by decide) (by decide) more
  · exact takeExponent_cons (by decide) (by decide) more

theorem isDigit_of_mem_toDigits {n : Nat} : ∀ c ∈ Nat.toDigits 10 n, c.isDigit = true :=
  fun _ h => Nat.isDigit_of_mem_toDigits (by decide) (by decide) h

/-- Only zero is written with a leading zero. -/
theorem head_toDigits {n : Nat} (positive : 0 < n) : ∃ c rest, Nat.toDigits 10 n = c :: rest ∧ c ≠ '0' := by
  induction n using Nat.strongRecOn with
  | ind n ih =>
    by_cases small : n < 10
    · exact ⟨n.digitChar, [], Nat.toDigits_of_lt_base small, fun zero => by simp at zero; omega⟩
    · obtain ⟨c, rest, shape, nonzero⟩ := ih (n / 10) (by omega) (by omega)
      refine ⟨c, rest ++ [(n % 10).digitChar], ?_, nonzero⟩
      rw [Nat.toDigits_of_base_le (by decide) (by omega), shape]
      rfl

theorem readUnsigned_of_whole (negative : Bool) (start : List Char) {cs digits rest : List Char}
    (whole : (match cs with
      | '0' :: rest => (['0'], rest)
      | _ => takeDigits cs) = (digits, rest))
    (some_ : digits ≠ []) (few : digits.length ≤ digitLimit) (ends : Ends rest) :
    readUnsigned negative start cs =
      .ok (.int (if negative then -(digitsValue digits : Int) else digitsValue digits), rest) := by
  unfold readUnsigned
  dsimp only
  split
  · rename_i none
    exact absurd (Prod.mk.inj (whole.symm.trans none)).1 some_
  · rename_i digits' rest' same
    obtain ⟨rfl, rfl⟩ := Prod.mk.inj (whole.symm.trans same)
    rw [takeFraction_of_ends ends]
    dsimp only
    rw [takeExponent_of_ends ends]
    dsimp only
    rw [if_neg (Nat.not_lt.mpr few)]

/-- **The digits of a number are read as the number.** -/
theorem readUnsigned_toDigits (negative : Bool) (start : List Char) {n : Nat} {rest : List Char} (ends : Ends rest)
    (few : (Nat.toDigits 10 n).length ≤ digitLimit) :
    readUnsigned negative start (Nat.toDigits 10 n ++ rest) =
      .ok (.int (if negative then -(n : Int) else n), rest) := by
  have value : digitsValue (Nat.toDigits 10 n) = n := by
    have same : digitsValue (Nat.toDigits 10 n) = Nat.ofDigitChars 10 (Nat.toDigits 10 n) 0 := by
      simp [digitsValue, Nat.ofDigitChars, Nat.mul_comm]
    rw [same, Nat.ofDigitChars_ten_toDigits]
  have whole : (match Nat.toDigits 10 n ++ rest with
      | '0' :: rest => (['0'], rest)
      | _ => takeDigits (Nat.toDigits 10 n ++ rest)) = (Nat.toDigits 10 n, rest) := by
    rcases Nat.eq_zero_or_pos n with rfl | positive
    · rfl
    · obtain ⟨c, more, shape, nonzero⟩ := head_toDigits positive
      have taken := takeDigits_append (isDigit_of_mem_toDigits (n := n)) ends
      split
      · rename_i zero
        rw [shape] at zero
        exact absurd (List.cons.inj zero).1 nonzero
      · exact taken
  rw [readUnsigned_of_whole negative start whole Nat.toDigits_ne_nil few ends, value]

/-! ## Space -/

theorem toList_newLine (level : Nat) : (newLine level).toList = '\n' :: List.replicate (2 * level) ' ' := by
  simp [newLine]

/-- A text starts as a value does: not with space, nor with what ends a list, nor with a byte order mark. -/
def Starts (cs : List Char) : Prop :=
  ∃ c rest, cs = c :: rest ∧ isSpace c = false ∧ c ≠ ']' ∧ c ≠ '\ufeff'

theorem skipSpace_cons {c : Char} (visible : isSpace c = false) (rest : List Char) :
    skipSpace (c :: rest) = c :: rest := by
  simp [skipSpace, visible]

theorem Starts.skipSpace {cs : List Char} (h : Starts cs) : skipSpace cs = cs := by
  obtain ⟨c, rest, rfl, visible, -⟩ := h
  exact skipSpace_cons visible rest

theorem Starts.append {cs : List Char} (h : Starts cs) (more : List Char) : Starts (cs ++ more) := by
  obtain ⟨c, rest, rfl, visible⟩ := h
  exact ⟨c, rest ++ more, rfl, visible⟩

/-- A new line is skipped. -/
theorem skipSpace_newLine (level : Nat) {cs : List Char} (h : skipSpace cs = cs) :
    skipSpace ((newLine level).toList ++ cs) = cs := by
  rw [toList_newLine, List.cons_append]
  show skipSpace (List.replicate (2 * level) ' ' ++ cs) = cs
  induction 2 * level with
  | zero => exact h
  | succ n ih => exact ih

/-! ## Printed values -/

theorem toList_printString (s : String) :
    (printString s).toList = '"' :: (s.toList.flatMap escapeChar ++ ['"']) := by
  unfold printString
  rw [String.toList_ofList]
  rfl

theorem toList_int (n : Int) :
    (toString n).toList = if 0 ≤ n then Nat.toDigits 10 n.natAbs else '-' :: Nat.toDigits 10 n.natAbs := by
  rw [Int.toString_eq_repr, Int.repr_eq_if]
  split
  · rename_i positive
    rw [Nat.toList_repr]
    congr 1
    omega
  · rename_i negative
    rw [String.toList_append, Nat.toList_repr]
    show '-' :: Nat.toDigits 10 (-n).toNat = _
    congr 2
    omega

theorem toList_list (level : Nat) (x : Value) (xs : List Value) :
    (printAt level (.list (x :: xs))).toList =
      '[' :: ((newLine (level + 1)).toList ++ ((printAt (level + 1) x).toList ++
        ((printRest (level + 1) xs).toList ++ ((newLine level).toList ++ [']'])))) := by
  simp [printAt]

theorem toList_rest (level : Nat) (x : Value) (xs : List Value) :
    (printRest level (x :: xs)).toList =
      ',' :: ((newLine level).toList ++ ((printAt level x).toList ++ (printRest level xs).toList)) := by
  simp [printRest]

theorem toList_object (level : Nat) (k : String) (v : Value) (fs : Fields) :
    (printAt level (.object ((k, v) :: fs))).toList =
      '\x7b' :: ((newLine (level + 1)).toList ++ ((printString k).toList ++ (':' :: ' ' ::
        ((printAt (level + 1) v).toList ++ ((printFields (level + 1) fs).toList ++
          ((newLine level).toList ++ ['\x7d'])))))) := by
  simp [printAt]

theorem toList_fields (level : Nat) (k : String) (v : Value) (fs : Fields) :
    (printFields level ((k, v) :: fs)).toList =
      ',' :: ((newLine level).toList ++ ((printString k).toList ++ (':' :: ' ' ::
        ((printAt level v).toList ++ (printFields level fs).toList)))) := by
  simp [printFields]

/-! ## Values that are read back -/

/-- A value as it can be read from a text: no doubles, and no number of too many digits. -/
inductive Plain : Value → Prop
  | null : Plain .null
  | bool (b : Bool) : Plain (.bool b)
  | int {n : Int} : (Nat.toDigits 10 n.natAbs).length ≤ digitLimit → Plain (.int n)
  | text (s : String) : Plain (.text s)
  | list {xs : List Value} : (∀ x ∈ xs, Plain x) → Plain (.list xs)
  | object {fs : Fields} : fs.keys.Nodup → (∀ f ∈ fs, Plain f.2) → Plain (.object fs)

theorem Plain.of_object {fs : Fields} (h : Plain (.object fs)) : ∀ f ∈ fs, Plain f.2 := by
  cases h with
  | object _ each => exact each

/-- A value is read from the text that is printed for it inside `level` lists and objects, with room for `room`
more, whatever follows. -/
structure ReadsBack (level room : Nat) (v : Value) : Prop where
  starts : Starts (printAt level v).toList
  reads : ∀ fuel rest, ((printAt level v).toList ++ rest).length < fuel → Ends rest →
    readValue room fuel ((printAt level v).toList ++ rest) = .ok (v, rest)

theorem isSpace_digit {c : Char} (digit : c.isDigit = true) : isSpace c = false := by
  by_contra space
  simp only [isSpace, Bool.not_eq_false, Bool.or_eq_true, decide_eq_true_eq] at space
  rcases space with ((rfl | rfl) | rfl) | rfl <;> exact absurd digit (by decide)

theorem starts_toDigits (n : Nat) : Starts (Nat.toDigits 10 n) := by
  obtain ⟨c, rest, shape⟩ := List.exists_cons_of_ne_nil (@Nat.toDigits_ne_nil n 10)
  have digit : c.isDigit = true := isDigit_of_mem_toDigits c (by rw [shape]; exact List.mem_cons_self)
  refine ⟨c, rest, shape, isSpace_digit digit, ?_, ?_⟩ <;> rintro rfl <;> exact absurd digit (by decide)

/-- A text that starts with a digit is read as a number. -/
theorem readValue_digit (room fuel : Nat) {c : Char} (digit : c.isDigit = true) (more : List Char) :
    readValue room (fuel + 1) (c :: more) = readUnsigned false (c :: more) (c :: more) := by
  have apart (d : Char) (other : d.isDigit = false) : c ≠ d := by
    rintro rfl
    exact absurd (digit.symm.trans other) nofun
  unfold readValue
  split
  · rename_i shape
    exact absurd shape (List.cons_ne_nil c more)
  -- Of all that a value may start with, only what starts no other kind is left.
  on_goal 10 => rfl
  all_goals
    rename_i shape
    exact absurd (List.cons.inj shape).1 (apart _ (by decide))

/-- A sign that is not followed by the word for what is infinite is that of a number. -/
theorem readValue_negative (room fuel : Nat) {rest : List Char} (finite : dropWord? "Infinity" rest = none) :
    readValue room (fuel + 1) ('-' :: rest) = readUnsigned true ('-' :: rest) rest := by
  conv => lhs; unfold readValue
  simp [finite]

theorem readsBack_int (level room : Nat) {n : Int} (few : (Nat.toDigits 10 n.natAbs).length ≤ digitLimit) :
    ReadsBack level room (.int n) := by
  have shown : (printAt level (.int n)).toList =
      if 0 ≤ n then Nat.toDigits 10 n.natAbs else '-' :: Nat.toDigits 10 n.natAbs := by
    unfold printAt
    exact toList_int n
  obtain ⟨c, more, shape⟩ := List.exists_cons_of_ne_nil (@Nat.toDigits_ne_nil n.natAbs 10)
  have digit : c.isDigit = true := isDigit_of_mem_toDigits c (by rw [shape]; exact List.mem_cons_self)
  by_cases positive : 0 ≤ n
  · rw [if_pos positive] at shown
    refine ⟨shown ▸ starts_toDigits _, fun fuel rest enough ends => ?_⟩
    obtain ⟨fuel, rfl⟩ : ∃ k, fuel = k + 1 := ⟨fuel - 1, by omega⟩
    have read := readUnsigned_toDigits false (Nat.toDigits 10 n.natAbs ++ rest) ends few
    rw [shown]
    rw [shape, List.cons_append] at read ⊢
    rw [readValue_digit room fuel digit, read, if_neg Bool.false_ne_true, Int.natAbs_of_nonneg positive]
  · rw [if_neg positive] at shown
    refine ⟨⟨'-', _, shown, by decide⟩, fun fuel rest enough ends => ?_⟩
    obtain ⟨fuel, rfl⟩ : ∃ k, fuel = k + 1 := ⟨fuel - 1, by omega⟩
    have read := readUnsigned_toDigits true ('-' :: (Nat.toDigits 10 n.natAbs ++ rest)) ends few
    have finite : dropWord? "Infinity" (Nat.toDigits 10 n.natAbs ++ rest) = none := by
      have other : 'I' ≠ c := by
        rintro rfl
        exact absurd digit (by decide)
      have letters : "Infinity".toList = ['I', 'n', 'f', 'i', 'n', 'i', 't', 'y'] := rfl
      rw [shape, List.cons_append, dropWord?, letters]
      simp [List.isPrefixOf, other]
    rw [shown, List.cons_append]
    rw [readValue_negative room fuel finite, read, if_pos rfl, Int.ofNat_natAbs_of_nonpos (by omega), Int.neg_neg]

theorem readsBack_word {level room : Nat} {v : Value} (word : v = .null ∨ ∃ b, v = .bool b) :
    ReadsBack level room v := by
  rcases word with rfl | ⟨b, rfl⟩
  · have shown : (printAt level .null).toList = ['n', 'u', 'l', 'l'] := by simp [printAt]
    refine ⟨⟨'n', _, shown, by decide⟩, fun fuel rest enough _ => ?_⟩
    obtain ⟨fuel, rfl⟩ : ∃ k, fuel = k + 1 := ⟨fuel - 1, by omega⟩
    rw [shown]
    rfl
  · cases b with
    | false =>
      have shown : (printAt level (.bool false)).toList = ['f', 'a', 'l', 's', 'e'] := by simp [printAt]
      refine ⟨⟨'f', _, shown, by decide⟩, fun fuel rest enough _ => ?_⟩
      obtain ⟨fuel, rfl⟩ : ∃ k, fuel = k + 1 := ⟨fuel - 1, by omega⟩
      rw [shown]
      rfl
    | true =>
      have shown : (printAt level (.bool true)).toList = ['t', 'r', 'u', 'e'] := by simp [printAt]
      refine ⟨⟨'t', _, shown, by decide⟩, fun fuel rest enough _ => ?_⟩
      obtain ⟨fuel, rfl⟩ : ∃ k, fuel = k + 1 := ⟨fuel - 1, by omega⟩
      rw [shown]
      rfl

theorem length_le_escaped (cs : List Char) : cs.length ≤ (cs.flatMap escapeChar).length := by
  induction cs with
  | nil => exact Nat.le.refl
  | cons c cs ih =>
    have some_ : 1 ≤ (escapeChar c).length := by
      unfold escapeChar
      repeat' split
      all_goals simp
    rw [List.flatMap_cons, List.length_append, List.length_cons]
    omega

/-- A string is read from its text, whatever follows. -/
theorem readString_printString (s : String) (opened rest : List Char) {fuel : Nat}
    (enough : ((printString s).toList ++ rest).length ≤ fuel + 1) :
    ∃ more, (printString s).toList ++ rest = '"' :: more ∧ readString opened fuel [] more = .ok (s, rest) := by
  have shape : (printString s).toList ++ rest = '"' :: (s.toList.flatMap escapeChar ++ '"' :: rest) := by
    rw [toList_printString]
    simp
  have fewer : s.toList.length < fuel := by
    have escaped := length_le_escaped s.toList
    rw [shape] at enough
    simp only [List.length_cons, List.length_append] at enough
    omega
  refine ⟨_, shape, ?_⟩
  rw [readString_print opened [] s.toList fuel rest fewer]
  simp

theorem readsBack_text (level room : Nat) (s : String) : ReadsBack level room (.text s) := by
  have shown : printAt level (.text s) = printString s := by unfold printAt; rfl
  refine ⟨⟨'"', _, shown ▸ toList_printString s, by decide⟩, fun fuel rest enough _ => ?_⟩
  rw [shown] at enough ⊢
  obtain ⟨fuel, rfl⟩ : ∃ k, fuel = k + 1 := ⟨fuel - 1, by omega⟩
  obtain ⟨more, shape, reads⟩ := readString_printString s ((printString s).toList ++ rest) rest
    (Nat.le_of_lt enough)
  rw [shape] at reads ⊢
  show (readString ('"' :: more) fuel [] more).map _ = _
  rw [reads]
  rfl

/-! ## Steps of the reader -/

section

variable {room fuel : Nat} {k : String} {v : Value} {c : Char} {cs after rest : List Char}

/-- A list that does not end at once has elements. -/
theorem readValue_list (starts : skipSpace cs = c :: rest) (open_ : c ≠ ']') :
    readValue (room + 1) (fuel + 1) ('[' :: cs) = readElements room fuel [] (c :: rest) := by
  conv => lhs; unfold readValue
  simp [starts, open_]

/-- A bracket ends a list after its last element. -/
theorem readElements_last (done : List Value) (value : readValue room fuel cs = .ok (v, after))
    (closes : skipSpace after = ']' :: rest) :
    readElements room (fuel + 1) done cs = .ok (.list (v :: done).reverse, rest) := by
  conv => lhs; unfold readElements
  simp [value, closes]

/-- A comma stands before the next element. -/
theorem readElements_next (done : List Value) (value : readValue room fuel cs = .ok (v, after))
    (continues : skipSpace after = ',' :: rest) :
    readElements room (fuel + 1) done cs = readElements room fuel (v :: done) (skipSpace rest) := by
  conv => lhs; unfold readElements
  simp [value, continues]

/-- An object that does not end at once has fields. -/
theorem readValue_object (starts : skipSpace cs = c :: rest) (open_ : c ≠ '\x7d') :
    readValue (room + 1) (fuel + 1) ('\x7b' :: cs) = readMembers room fuel [] (c :: rest) := by
  conv => lhs; unfold readValue
  simp [starts, open_]

/-- A field is in front: its key, a colon and its value. -/
def ReadsMember (room fuel : Nat) (cs : List Char) (k : String) (v : Value) (after : List Char) : Prop :=
  ∃ more afterName before, cs = '"' :: more ∧ readString cs fuel [] more = .ok (k, afterName) ∧
    skipSpace afterName = ':' :: before ∧ readValue room fuel (skipSpace before) = .ok (v, after)

/-- A brace ends an object after its last field. -/
theorem readMembers_last (done : Fields) (member : ReadsMember room fuel cs k v after)
    (closes : skipSpace after = '\x7d' :: rest) :
    readMembers room (fuel + 1) done cs = .ok (.object (Table.put done k v), rest) := by
  obtain ⟨more, afterName, before, rfl, name, colon, value⟩ := member
  conv => lhs; unfold readMembers
  simp [name, colon, value, closes]

/-- A comma stands before the next field. -/
theorem readMembers_next (done : Fields) (member : ReadsMember room fuel cs k v after)
    (continues : skipSpace after = ',' :: rest) :
    readMembers room (fuel + 1) done cs = readMembers room fuel (Table.put done k v) (skipSpace rest) := by
  obtain ⟨more, afterName, before, rfl, name, colon, value⟩ := member
  conv => lhs; unfold readMembers
  simp [name, colon, value, continues]

end

/-! ## Lists and objects -/

section

variable {level outer room : Nat}

/-- What ends a list or an object, on a line of its own. -/
def closing (level : Nat) (bracket : Char) (rest : List Char) : List Char :=
  (newLine level).toList ++ bracket :: rest

theorem ends_closing (bracket : Char) (rest : List Char) : Ends (closing level bracket rest) := by
  unfold closing
  rw [toList_newLine]
  exact ends_newLine _

theorem skipSpace_closing {bracket : Char} (visible : isSpace bracket = false) (rest : List Char) :
    skipSpace (closing level bracket rest) = bracket :: rest :=
  skipSpace_newLine level (skipSpace_cons visible rest)

/-- **The elements of a list are read one after another.** -/
theorem readElements_print (xs : List Value) (x : Value) (done : List Value) (fuel : Nat) (rest : List Char)
    (each : ∀ y ∈ x :: xs, ReadsBack level room y)
    (enough : ((printAt level x).toList ++
      ((printRest level xs).toList ++ closing outer ']' rest)).length < fuel) :
    readElements room (fuel + 1) done
        ((printAt level x).toList ++ ((printRest level xs).toList ++ closing outer ']' rest)) =
      .ok (.list (done.reverse ++ x :: xs), rest) := by
  have first := each x List.mem_cons_self
  induction xs generalizing x done fuel with
  | nil =>
    have none : (printRest level []).toList = [] := by simp [printRest]
    rw [none, List.nil_append] at enough ⊢
    rw [readElements_last done (first.reads _ _ enough (ends_closing ']' rest)) (skipSpace_closing (by decide) rest)]
    simp
  | cons y ys ih =>
    have others : ∀ z ∈ y :: ys, ReadsBack level room z := fun z listed => each z (List.mem_cons_of_mem x listed)
    -- A step costs one unit of fuel and consumes a character at least, so the fuel stays above what is to come.
    have second := others y List.mem_cons_self
    rw [toList_rest, List.cons_append, List.append_assoc, List.append_assoc] at enough ⊢
    obtain ⟨fuel, rfl⟩ : ∃ k, fuel = k + 1 := ⟨fuel - 1, by omega⟩
    have further := ih y (x :: done) fuel others (by
      simp only [List.length_append, List.length_cons] at enough ⊢
      omega) second
    rw [readElements_next done (first.reads _ _ enough (ends_comma _)) (skipSpace_cons (by decide) _),
      skipSpace_newLine level (second.starts.append _).skipSpace, further]
    simp

/-- **A field is read from its text, whatever follows.** -/
theorem ReadsBack.readsMember {k : String} {v : Value} {fuel : Nat} {rest : List Char}
    (value : ReadsBack level room v) (ends : Ends rest)
    (enough : ((printString k).toList ++ (':' :: ' ' :: ((printAt level v).toList ++ rest))).length ≤ fuel) :
    ReadsMember room fuel ((printString k).toList ++ (':' :: ' ' :: ((printAt level v).toList ++ rest))) k v rest := by
  obtain ⟨more, shape, name⟩ := readString_printString k
    ((printString k).toList ++ (':' :: ' ' :: ((printAt level v).toList ++ rest)))
    (':' :: ' ' :: ((printAt level v).toList ++ rest)) (Nat.le_succ_of_le enough)
  have fewer : ((printAt level v).toList ++ rest).length < fuel := by
    simp only [List.length_append, List.length_cons] at enough ⊢
    omega
  have skipped : skipSpace (' ' :: ((printAt level v).toList ++ rest)) = (printAt level v).toList ++ rest :=
    (value.starts.append rest).skipSpace
  refine ⟨more, _, _, shape, name, skipSpace_cons (by decide) _, ?_⟩
  rw [skipped]
  exact value.reads fuel rest fewer ends

/-- **The fields of an object are read one after another.** -/
theorem readMembers_print (fs : Fields) (k : String) (v : Value) (done : Fields) (fuel : Nat) (rest : List Char)
    (each : ∀ f ∈ (k, v) :: fs, ReadsBack level room f.2)
    (enough : ((printString k).toList ++ (':' :: ' ' :: ((printAt level v).toList ++
      ((printFields level fs).toList ++ closing outer '\x7d' rest)))).length ≤ fuel) :
    readMembers room (fuel + 1) done ((printString k).toList ++ (':' :: ' ' :: ((printAt level v).toList ++
        ((printFields level fs).toList ++ closing outer '\x7d' rest)))) =
      .ok (.object (Table.merge done ((k, v) :: fs)), rest) := by
  have first := each _ List.mem_cons_self
  induction fs generalizing k v done fuel with
  | nil =>
    have none : (printFields level []).toList = [] := by simp [printFields]
    rw [none, List.nil_append] at enough ⊢
    rw [readMembers_last done (first.readsMember (ends_closing '\x7d' rest) enough)
      (skipSpace_closing (by decide) rest)]
    rfl
  | cons f fs ih =>
    obtain ⟨k', v'⟩ := f
    have others : ∀ f ∈ (k', v') :: fs, ReadsBack level room f.2 := fun f listed =>
      each f (List.mem_cons_of_mem _ listed)
    rw [toList_fields, List.cons_append, List.append_assoc, List.append_assoc, List.cons_append,
      List.cons_append, List.append_assoc] at enough ⊢
    have starts : Starts ((printString k').toList ++ (':' :: ' ' :: ((printAt level v').toList ++
        ((printFields level fs).toList ++ closing outer '\x7d' rest)))) :=
      Starts.append ⟨'"', _, toList_printString k', by decide⟩ _
    obtain ⟨fuel, rfl⟩ : ∃ n, fuel = n + 1 := ⟨fuel - 1, by simp at enough; omega⟩
    have further := ih k' v' (Table.put done k v) fuel others (by
      simp only [List.length_append, List.length_cons] at enough ⊢
      omega) (others _ List.mem_cons_self)
    rw [readMembers_next done (first.readsMember (ends_comma _) enough) (skipSpace_cons (by decide) _),
      skipSpace_newLine level starts.skipSpace, further]
    rfl

theorem readsBack_list {xs : List Value} (each : ∀ x ∈ xs, ReadsBack (level + 1) room x) :
    ReadsBack level (room + 1) (.list xs) := by
  cases xs with
  | nil =>
    have shown : (printAt level (.list [])).toList = ['[', ']'] := by simp [printAt]
    refine ⟨⟨'[', _, shown, by decide⟩, fun fuel rest enough _ => ?_⟩
    obtain ⟨fuel, rfl⟩ : ∃ k, fuel = k + 1 := ⟨fuel - 1, by omega⟩
    rw [shown]
    rfl
  | cons x xs =>
    refine ⟨⟨'[', _, toList_list level x xs, by decide⟩, fun fuel rest enough _ => ?_⟩
    have shape : (printAt level (.list (x :: xs))).toList ++ rest =
        '[' :: ((newLine (level + 1)).toList ++ ((printAt (level + 1) x).toList ++
          ((printRest (level + 1) xs).toList ++ closing level ']' rest))) := by
      rw [toList_list]
      simp [closing]
    rw [shape] at enough ⊢
    obtain ⟨fuel, rfl⟩ : ∃ k, fuel = k + 2 := ⟨fuel - 2, by simp at enough; omega⟩
    have read : readElements room (fuel + 1) [] ((printAt (level + 1) x).toList ++
        ((printRest (level + 1) xs).toList ++ closing level ']' rest)) = .ok (.list (x :: xs), rest) := by
      refine readElements_print xs x [] fuel rest each ?_
      rw [toList_newLine] at enough
      simp only [List.length_append, List.length_cons] at enough ⊢
      omega
    have starts := (each x List.mem_cons_self).starts.append
      ((printRest (level + 1) xs).toList ++ closing level ']' rest)
    have skipped := skipSpace_newLine (level + 1) starts.skipSpace
    obtain ⟨c, more, shape, -, open_, -⟩ := starts
    rw [shape] at read skipped ⊢
    rw [readValue_list skipped open_, read]

theorem readsBack_object {fs : Fields} (distinct : fs.keys.Nodup)
    (each : ∀ f ∈ fs, ReadsBack (level + 1) room f.2) : ReadsBack level (room + 1) (.object fs) := by
  cases fs with
  | nil =>
    have shown : (printAt level (.object [])).toList = ['\x7b', '\x7d'] := by simp [printAt]
    refine ⟨⟨'\x7b', _, shown, by decide⟩, fun fuel rest enough _ => ?_⟩
    obtain ⟨fuel, rfl⟩ : ∃ k, fuel = k + 1 := ⟨fuel - 1, by omega⟩
    rw [shown]
    rfl
  | cons f fs =>
    obtain ⟨k, v⟩ := f
    refine ⟨⟨'\x7b', _, toList_object level k v fs, by decide⟩, fun fuel rest enough _ => ?_⟩
    have shape : (printAt level (.object ((k, v) :: fs))).toList ++ rest =
        '\x7b' :: ((newLine (level + 1)).toList ++ ((printString k).toList ++ (':' :: ' ' ::
          ((printAt (level + 1) v).toList ++ ((printFields (level + 1) fs).toList ++
            closing level '\x7d' rest))))) := by
      rw [toList_object]
      simp [closing]
    rw [shape] at enough ⊢
    obtain ⟨fuel, rfl⟩ : ∃ k, fuel = k + 2 := ⟨fuel - 2, by simp at enough; omega⟩
    have read : readMembers room (fuel + 1) [] ((printString k).toList ++ (':' :: ' ' ::
        ((printAt (level + 1) v).toList ++ ((printFields (level + 1) fs).toList ++
          closing level '\x7d' rest)))) = .ok (.object (Table.merge [] ((k, v) :: fs)), rest) := by
      refine readMembers_print fs k v [] fuel rest each ?_
      rw [toList_newLine] at enough
      simp only [List.length_append, List.length_cons] at enough ⊢
      omega
    rw [Table.merge_nil_left _ distinct] at read
    rw [toList_printString, List.cons_append] at read ⊢
    rw [readValue_object (skipSpace_newLine (level + 1) (skipSpace_cons (by decide) _)) (by decide), read]

end

/-- **A value is read back from its text.** -/
theorem readsBack {v : Value} (plain : Plain v) {level room : Nat} (shallow : v.depth ≤ room) :
    ReadsBack level room v := by
  induction plain generalizing level room with
  | null => exact readsBack_word (.inl rfl)
  | bool b => exact readsBack_word (.inr ⟨b, rfl⟩)
  | int few => exact readsBack_int level room few
  | text s => exact readsBack_text level room s
  | @list xs _ each =>
    -- What is inside is less deep, and there is less room for it by the same amount.
    obtain ⟨room, rfl⟩ : ∃ k, room = k + 1 := ⟨room - 1, by simp [Value.depth] at shallow; omega⟩
    refine readsBack_list fun x listed => each x listed ?_
    exact Nat.le_of_lt_succ (Nat.lt_of_lt_of_le (Value.depth_lt_of_mem listed) shallow)
  | @object fs distinct _ each =>
    obtain ⟨room, rfl⟩ : ∃ k, room = k + 1 := ⟨room - 1, by simp [Value.depth] at shallow; omega⟩
    refine readsBack_object distinct fun f listed => each f listed ?_
    exact Nat.le_of_lt_succ (Nat.lt_of_lt_of_le (Value.depth_lt_of_field listed) shallow)

/-- **A document is read back from its text**, if it is plain and not nested too deeply. -/
theorem read_print {v : Value} (plain : Plain v) (shallow : v.depth ≤ depthLimit) : read (print v) = .ok v := by
  have back : ReadsBack 0 depthLimit v := readsBack plain shallow
  have value := back.reads ((printAt 0 v).toList.length + 1) [] (by simp) ends_nil
  rw [List.append_nil] at value
  have chars : readChars (print v).toList = .ok v := by
    unfold readChars print
    split
    · rename_i marked
      obtain ⟨c, rest, shape, -, -, unmarked⟩ := back.starts
      exact absurd (List.cons.inj (shape.symm.trans marked)).1 unmarked
    · rw [back.starts.skipSpace, value]
      rfl
  unfold read
  rw [chars]

/-! ## Lines -/

theorem unifyLines_of_not_mem {cs : List Char} (plain : '\r' ∉ cs) : Text.unifyLines cs = cs := by
  induction cs with
  | nil => rfl
  | cons c cs ih =>
    have other : c ≠ '\r' := fun same => plain (same ▸ List.mem_cons_self)
    have rest := ih fun later => plain (List.mem_cons_of_mem c later)
    unfold Text.unifyLines
    split <;> simp_all

theorem not_mem_newLine (level : Nat) : '\r' ∉ (newLine level).toList := by
  rw [toList_newLine]
  simp

theorem not_mem_escapeChar (c : Char) : '\r' ∉ escapeChar c := by
  have digits : ∀ n < 0x20, '\r' ∉ hexText 4 n := by decide
  unfold escapeChar
  split
  · rename_i quoted
    simp only [Bool.or_eq_true, decide_eq_true_eq] at quoted
    rcases quoted with rfl | rfl <;> decide
  split
  · decide
  split
  · decide
  rename_i other
  split
  · decide
  split
  · decide
  split
  · decide
  split
  · rename_i control
    simp [digits _ control]
  · rw [List.mem_singleton]
    exact fun same => other same.symm

theorem not_mem_printString (s : String) : '\r' ∉ (printString s).toList := by
  rw [toList_printString]
  simp [not_mem_escapeChar]

theorem not_mem_printRest {level : Nat} {xs : List Value} (each : ∀ x ∈ xs, '\r' ∉ (printAt level x).toList) :
    '\r' ∉ (printRest level xs).toList := by
  induction xs with
  | nil => simp [printRest]
  | cons x xs ih =>
    have rest := ih fun y listed => each y (List.mem_cons_of_mem x listed)
    have first := each x List.mem_cons_self
    rw [toList_rest]
    simp [not_mem_newLine, first, rest]

theorem not_mem_printFields {level : Nat} {fs : Fields} (each : ∀ f ∈ fs, '\r' ∉ (printAt level f.2).toList) :
    '\r' ∉ (printFields level fs).toList := by
  induction fs with
  | nil => simp [printFields]
  | cons f fs ih =>
    have rest := ih fun g listed => each g (List.mem_cons_of_mem f listed)
    have first := each f List.mem_cons_self
    rw [toList_fields]
    simp [not_mem_newLine, not_mem_printString, first, rest]

/-- **The text of a plain document holds no carriage return.** -/
theorem not_mem_print {v : Value} (plain : Plain v) (level : Nat) : '\r' ∉ (printAt level v).toList := by
  induction plain generalizing level with
  | null => simp [printAt]
  | bool b => cases b <;> simp [printAt]
  | @int n few =>
    have digits : '\r' ∉ Nat.toDigits 10 n.natAbs := fun listed =>
      absurd (isDigit_of_mem_toDigits _ listed) (by decide)
    unfold printAt
    rw [toList_int]
    split <;> simp [digits]
  | text s =>
    unfold printAt
    exact not_mem_printString s
  | @list xs _ each =>
    cases xs with
    | nil => simp [printAt]
    | cons x xs =>
      have first := each x List.mem_cons_self (level + 1)
      have rest := not_mem_printRest fun y listed => each y (List.mem_cons_of_mem x listed) (level + 1)
      rw [toList_list]
      simp [not_mem_newLine, first, rest]
  | @object fs _ _ each =>
    cases fs with
    | nil => simp [printAt]
    | cons f fs =>
      have first := each f List.mem_cons_self (level + 1)
      have rest := not_mem_printFields fun g listed => each g (List.mem_cons_of_mem f listed) (level + 1)
      rw [toList_object]
      simp [not_mem_newLine, not_mem_printString, first, rest]

end StaticAccessors.Json
