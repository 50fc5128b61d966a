import StaticAccessors.Json.Reader
import StaticAccessors.Strategy.Basic

/-!
# Reading string literals

A regular string literal of C# is a quote, a run of characters and escapes, and a quote again. `Literal.read`
takes one from the beginning of a text and gives its value, in the code units in which C# keeps strings, with
what follows it. There are many escapes, of which `stringLiteral` uses two: it escapes the characters that
would end the literal or begin an escape, and leaves all others as they are. The terminators of lines are
among these, and no literal goes on past one of them.

So a literal that was written is read as what it was written for, whatever follows it, as long as no line ends
in it; and one in which a line ends is no literal at all.

## Contents
- `unitsOf`, `valueOf`: the code units of a text, and `valueOf_injective`.
- `endsLine`, `readEscape`, `readBody`, `read`: the scanner.
- `readBody_close`, `readBody_escape`, `readBody_plain`, `readBody_endsLine`: its steps.
- `readBody_flatMap`, `read_stringLiteral`: what it makes of the literals that are written.
-/

namespace StaticAccessors.Literal

open Json (hexValue?)

/-! ## Values -/

/-- The code units of a code point: itself, or a pair of surrogates where it takes more than sixteen bits. -/
def unitsOf (code : Nat) : List Nat :=
  if code < 0x10000 then [code]
  else [0xd800 + (code - 0x10000) / 0x400, 0xdc00 + (code - 0x10000) % 0x400]

/-- The value of a text as a string: the code units of its characters. -/
def valueOf (cs : List Char) : List Nat := cs.flatMap fun c => unitsOf c.toNat

theorem unitsOf_ne_nil (code : Nat) : unitsOf code ≠ [] := by
  unfold unitsOf
  split <;> exact List.cons_ne_nil _ _

/-- A character is told from its code units, whatever follows them: no character is one half of a pair. -/
theorem unitsOf_append_inj {c d : Char} {xs ys : List Nat}
    (h : unitsOf c.toNat ++ xs = unitsOf d.toNat ++ ys) : c = d ∧ xs = ys := by
  have hc : c.toNat < 0xd800 ∨ 0xdfff < c.toNat ∧ c.toNat < 0x110000 := c.valid
  have hd : d.toNat < 0xd800 ∨ 0xdfff < d.toNat ∧ d.toNat < 0x110000 := d.valid
  have same : c.toNat = d.toNat → c = d := Char.toNat_inj.mp
  unfold unitsOf at h
  split at h <;> split at h <;>
    simp only [List.cons_append, List.nil_append, List.cons.injEq] at h
  · exact ⟨same h.1, h.2⟩
  · omega
  · omega
  · exact ⟨same (by omega), h.2.2⟩

/-- **A text is told from its value.** -/
theorem valueOf_injective {cs ds : List Char} (h : valueOf cs = valueOf ds) : cs = ds := by
  induction cs generalizing ds with
  | nil =>
    cases ds with
    | nil => rfl
    | cons d ds => exact absurd (List.append_eq_nil_iff.mp h.symm).1 (unitsOf_ne_nil _)
  | cons c cs ih =>
    cases ds with
    | nil => exact absurd (List.append_eq_nil_iff.mp h).1 (unitsOf_ne_nil _)
    | cons d ds =>
      obtain ⟨rfl, rest⟩ := unitsOf_append_inj h
      rw [ih rest]

/-! ## The scanner -/

/-- The characters that end a line. A regular literal holds none of them. -/
def endsLine (c : Char) : Bool := c ∈ ['\r', '\n', '\u0085', '\u2028', '\u2029']

/-- The escapes of one letter, and the code units they stand for. -/
def letterEscapes : List (Char × Nat) := [
  ('\'', 0x27), ('"', 0x22), ('\\', 0x5c), ('0', 0x00), ('a', 0x07), ('b', 0x08), ('f', 0x0c), ('n', 0x0a),
  ('r', 0x0d), ('t', 0x09), ('v', 0x0b)]

/-- A code point written in a number of hexadecimal digits, of which there has to be one at least. -/
def readDigits (count : Nat) (cs : List Char) : Option (List Nat × List Char) :=
  if count = 0 ∨ cs.length < count then none
  else
    match (cs.take count).mapM hexValue? with
    | none => none
    | some digits =>
      let code := digits.foldl (fun n d => 16 * n + d) 0
      if code ≤ 0x10ffff then some (unitsOf code, cs.drop count) else none

/-- What stands behind a backslash, with the code units it stands for. An `x` takes up to four digits, the
others have as many as they need. -/
def readEscape : List Char → Option (List Nat × List Char)
  | [] => none
  | c :: cs =>
    if c = 'x' then readDigits ((cs.take 4).takeWhile fun d => (hexValue? d).isSome).length cs
    else if c = 'u' then readDigits 4 cs
    else if c = 'U' then readDigits 8 cs
    else (letterEscapes.lookup c).map fun unit => ([unit], cs)

theorem length_readDigits {count : Nat} {cs rest : List Char} {units : List Nat}
    (h : readDigits count cs = some (units, rest)) : rest.length < cs.length := by
  unfold readDigits at h
  split at h
  · exact absurd h nofun
  · rename_i enough
    split at h
    · exact absurd h nofun
    · dsimp only at h
      split at h
      · obtain ⟨-, rfl⟩ := Prod.mk.inj (Option.some.inj h)
        rw [List.length_drop]
        omega
      · exact absurd h nofun

/-- An escape takes something. -/
theorem length_readEscape {cs rest : List Char} {units : List Nat}
    (h : readEscape cs = some (units, rest)) : rest.length < cs.length := by
  cases cs with
  | nil => exact absurd h nofun
  | cons c cs =>
    rw [List.length_cons]
    rw [readEscape] at h
    split at h
    · exact Nat.lt_succ_of_lt (length_readDigits h)
    · split at h
      · exact Nat.lt_succ_of_lt (length_readDigits h)
      · split at h
        · exact Nat.lt_succ_of_lt (length_readDigits h)
        · obtain ⟨unit, -, same⟩ := Option.map_eq_some_iff.mp h
          obtain ⟨-, rfl⟩ := Prod.mk.inj same
          exact Nat.lt_succ_self _

/-- The rest of a literal after its opening quote: its value, and what follows the closing quote. -/
def readBody : List Char → Option (List Nat × List Char)
  | [] => none
  | c :: cs =>
    if c = '"' then some ([], cs)
    else if c = '\\' then
      match _ : readEscape cs with
      | none => none
      | some (units, rest) => (readBody rest).map fun (value, after) => (units ++ value, after)
    else if endsLine c then none
    else (readBody cs).map fun (value, after) => (unitsOf c.toNat ++ value, after)
termination_by cs => cs.length
decreasing_by
  · exact Nat.lt_succ_of_lt (length_readEscape ‹_›)
  · exact Nat.lt_succ_self _

/-- The literal at the beginning of a text: its value, and what follows it. -/
def read : List Char → Option (List Nat × List Char)
  | [] => none
  | c :: cs => if c = '"' then readBody cs else none

/-! ## Its steps -/

variable {c : Char} {cs rest : List Char} {units : List Nat}

/-- A quote ends a literal. -/
theorem readBody_close (cs : List Char) : readBody ('"' :: cs) = some ([], cs) := by
  rw [readBody, if_pos rfl]

/-- An escape is taken as a whole. -/
theorem readBody_escape (taken : readEscape cs = some (units, rest)) :
    readBody ('\\' :: cs) = (readBody rest).map fun (value, after) => (units ++ value, after) := by
  rw [readBody, if_neg (by decide), if_pos rfl]
  split
  · rename_i none_
    exact absurd (taken.symm.trans none_) nofun
  · rename_i units' rest' same
    obtain ⟨rfl, rfl⟩ := Prod.mk.inj (Option.some.inj (taken.symm.trans same))
    rfl

/-- No literal goes on past the end of a line. -/
theorem readBody_endsLine (ends : endsLine c = true) : readBody (c :: cs) = none := by
  have unquoted : c ≠ '"' := by
    rintro rfl
    exact absurd ends (by decide)
  have unescaped : c ≠ '\\' := by
    rintro rfl
    exact absurd ends (by decide)
  rw [readBody, if_neg unquoted, if_neg unescaped, if_pos ends]

/-- All other characters stand for themselves. -/
theorem readBody_plain (unquoted : c ≠ '"') (unescaped : c ≠ '\\') (inside : endsLine c = false) :
    readBody (c :: cs) = (readBody cs).map fun (value, after) => (unitsOf c.toNat ++ value, after) := by
  rw [readBody, if_neg unquoted, if_neg unescaped, if_neg (Bool.eq_false_iff.mp inside)]

/-- One character is read from what is written for it. -/
theorem readBody_literalChar (inside : endsLine c = false) (cs : List Char) :
    readBody (literalChar c ++ cs) =
      (readBody cs).map fun (value, after) => (unitsOf c.toNat ++ value, after) := by
  unfold literalChar
  by_cases escaped : (c = '\\' || c = '"') = true
  · rw [if_pos escaped]
    rw [Bool.or_eq_true, decide_eq_true_eq, decide_eq_true_eq] at escaped
    have taken : readEscape (c :: cs) = some (unitsOf c.toNat, cs) := by
      rcases escaped with rfl | rfl <;> rfl
    exact readBody_escape taken
  · rw [if_neg escaped]
    rw [Bool.or_eq_true, decide_eq_true_eq, decide_eq_true_eq, not_or] at escaped
    exact readBody_plain escaped.2 escaped.1 inside

/-! ## Literals that are written -/

/-- What is written between the quotes is read as the text it was written for, or not at all. -/
theorem readBody_flatMap (cs rest : List Char) :
    readBody (cs.flatMap literalChar ++ '"' :: rest) =
      if cs.any endsLine then none else some (valueOf cs, rest) := by
  induction cs with
  | nil => exact readBody_close rest
  | cons c cs ih =>
    rw [List.flatMap_cons, List.append_assoc, List.any_cons]
    cases ends : endsLine c with
    | true =>
      have unescaped : literalChar c = [c] := by
        unfold literalChar
        rw [if_neg]
        intro escaped
        rw [Bool.or_eq_true, decide_eq_true_eq, decide_eq_true_eq] at escaped
        rcases escaped with rfl | rfl <;> exact absurd ends (by decide)
      rw [unescaped]
      exact readBody_endsLine ends
    | false =>
      rw [readBody_literalChar ends, ih, Bool.false_or]
      split
      · rfl
      · rfl

theorem read_written (t : String) (rest : List Char) :
    read ((stringLiteral t).toList ++ rest) =
      if t.toList.any endsLine then none else some (valueOf t.toList, rest) := by
  have quoted : (stringLiteral t).toList ++ rest = '"' :: (t.toList.flatMap literalChar ++ '"' :: rest) := by
    unfold stringLiteral
    rw [String.toList_ofList, List.cons_append, List.cons_append, List.append_assoc]
    rfl
  rw [quoted, read, if_pos rfl, readBody_flatMap]

/-- **A string literal is read as the text it was written for**, and as no other, if no line ends in this text;
what follows it is left as it is. If a line ends in the text, there is no literal. -/
theorem read_stringLiteral (t : String) (rest : List Char) :
    (∀ (u : String) (after : List Char),
      read ((stringLiteral t).toList ++ rest) = some (valueOf u.toList, after) ↔
        u = t ∧ after = rest ∧ ∀ c ∈ t.toList, endsLine c = false) ∧
    ((∃ c ∈ t.toList, endsLine c = true) → read ((stringLiteral t).toList ++ rest) = none) := by
  rw [read_written]
  cases ends : t.toList.any endsLine with
  | true =>
    obtain ⟨c, listed, end_⟩ := List.any_eq_true.mp ends
    refine ⟨fun u after => ⟨nofun, fun ⟨_, _, inside⟩ => ?_⟩, fun _ => rfl⟩
    exact absurd (end_.symm.trans (inside c listed)) nofun
  | false =>
    have inside : ∀ c ∈ t.toList, endsLine c = false := by
      intro c listed
      exact Bool.eq_false_iff.mpr (List.any_eq_false.mp ends c listed)
    refine ⟨fun u after => ⟨fun h => ?_, ?_⟩, fun ⟨c, listed, end_⟩ => ?_⟩
    · obtain ⟨value, rfl⟩ := Prod.mk.inj (Option.some.inj h)
      exact ⟨(String.toList_inj.mp (valueOf_injective value)).symm, rfl, inside⟩
    · rintro ⟨rfl, rfl, -⟩
      rfl
    · exact absurd (end_.symm.trans (inside c listed)) nofun

/-- The literal of a text of two lines is none. -/
theorem literal_broken : read ((stringLiteral "a\nb").toList ++ [')']) = none := by
  rw [read_written]
  rfl

end StaticAccessors.Literal
