import StaticAccessors.Proofs.Outcome
import StaticAccessors.Identifier.Vocabulary

/-!
# What a sanitizer remembers

A pair is remembered under the key of a name, and different names can have one key: zero, zero as a double of
either sign, and the truth value that counts as zero. All that is read off a name is read off its key, however
(`nameText_of_key`), so a pair that is remembered is the one that would be derived anew (`Faithful`). A
sanitizer therefore answers every request as a fresh one does, whatever it was asked before
(`answers_fresh`).

## Contents
- `Key.text?`, `Key.truthy` and `Key.nameText`: what a key tells about the names that have it.
- `Sanitizer.Request`, `Sanitizer.answer` and `Sanitizer.answers`.
- `Sanitizer.Faithful`, kept by each request (`answer_faithful`) and by a run of them (`answers_faithful`).
- `Sanitizer.answers_fresh`.
-/

namespace StaticAccessors

open Decimal (Binary twoTo)
open Outcome

/-! ## Names and their keys -/

namespace Key

/-- The text that has a key. -/
def text? : Key → Option String
  | text s => some s
  | _ => none

/-- Whether the values with a key are true. -/
def truthy : Key → Bool
  | null => false
  | whole n => n ≠ 0
  | text s => s ≠ ""
  | fraction _ _ _ | infinite _ | nan => true

/-- The text as which the names with a key are read. -/
def nameText (key : Key) : Except Fault String :=
  match key.text? with
  | some s => .ok s
  | none => if key.truthy then .error .wrongType else .ok ""

theorem signed_eq_zero_iff {negative : Bool} {n : Nat} : signed negative n = 0 ↔ n = 0 := by
  unfold signed
  split <;> omega

/-- A double has the key of no text, and is true unless its mantissa is zero. -/
theorem ofBinary_reads (x : Binary) : (ofBinary x).text? = none ∧
    (ofBinary x).truthy = match x with
      | .finite _ mantissa _ => decide (mantissa ≠ 0)
      | _ => true := by
  cases x with
  | nan => exact ⟨rfl, rfl⟩
  | infinite negative => exact ⟨rfl, rfl⟩
  | finite negative mantissa exponent =>
    have unit_pos (n : Nat) : 0 < twoTo n := Nat.two_pow_pos n
    unfold ofBinary
    dsimp only
    split
    · refine ⟨rfl, decide_eq_decide.mpr (not_congr (signed_eq_zero_iff.trans ?_))⟩
      rw [Nat.mul_eq_zero]
      exact or_iff_left (Nat.ne_of_gt (unit_pos exponent.toNat))
    · split
      · -- The double is whole although its exponent is negative.
        rename_i divides
        refine ⟨rfl, decide_eq_decide.mpr (not_congr (signed_eq_zero_iff.trans ?_))⟩
        rw [Nat.div_eq_zero_iff_lt (unit_pos _)]
        constructor
        · intro below
          rwa [Nat.mod_eq_of_lt below] at divides
        · rintro rfl
          exact unit_pos _
      · rename_i broken
        have some_ : mantissa ≠ 0 := by
          rintro rfl
          exact broken (Nat.zero_mod _)
        exact ⟨rfl, (decide_eq_true some_).symm⟩

end Key

/-- The text and the truth of a value are those of its key. -/
theorem Value.reads_of_key {v : Value} {key : Key} (h : v.key? = some key) :
    v.text? = key.text? ∧ v.truthy = key.truthy := by
  cases v with
  | null | text _ | int _ =>
    obtain rfl := Option.some.inj h
    exact ⟨rfl, rfl⟩
  | bool b =>
    obtain rfl := Option.some.inj h
    cases b <;> exact ⟨rfl, rfl⟩
  | float x =>
    obtain rfl := Option.some.inj h
    obtain ⟨noText, truth⟩ := Key.ofBinary_reads (Binary.ofFloat x)
    exact ⟨noText.symm, truth.symm⟩
  | list _ | object _ => exact absurd h nofun

namespace Vocabulary

theorem nameText_eq (name : Value) :
    nameText name = match name.text? with
      | some s => .ok s
      | none => if name.truthy then .error .wrongType else .ok "" := by
  cases name <;> rfl

/-- **A name is read through its key.** -/
theorem nameText_of_key {name : Value} {key : Key} (h : name.key? = some key) :
    nameText name = key.nameText := by
  obtain ⟨text_, truth⟩ := Value.reads_of_key h
  rw [nameText_eq, text_, truth]
  rfl

/-- The pair of a name is that of its key. -/
theorem derive_of_key (v : Vocabulary) {name : Value} {key : Key} (h : name.key? = some key) :
    v.derive name = key.nameText.map v.pairOf := by
  unfold derive
  rw [h, ← nameText_of_key h]

end Vocabulary

/-! ## Requests -/

namespace Sanitizer

/-- What a sanitizer can be asked for. -/
inductive Request
  /-- the pair of a name -/
  | pair (name : Value)
  /-- the body of the identifiers of a name -/
  | body (name : Value)
  /-- one variant of the pair of a name -/
  | variant (name : Value) (case : NameCase)

/-- What a sanitizer answers. -/
inductive Answer
  | pair (pair : IdentifierPair)
  | text (s : String)
deriving Repr, DecidableEq

/-- The answer to a request, or why there is none, and what is remembered then. -/
def answer (s : Sanitizer) : Request → Except Fault Answer × Sanitizer
  | .pair name => ((s.derive name).1.map .pair, (s.derive name).2)
  | .body name => ((Identifier.sanitizeValue name).map .text, s)
  | .variant name case => ((s.sanitizeName name case).1.map .text, (s.sanitizeName name case).2)

/-- The answers to requests made one after another. -/
def answers (s : Sanitizer) : List Request → List (Except Fault Answer) × Sanitizer
  | [] => ([], s)
  | request :: rest =>
    let (outcome, after) := s.answer request
    let (more, last) := after.answers rest
    (outcome :: more, last)

/-! ## Memory -/

/-- What is remembered under a key is what the names with this key derive. -/
def Faithful (s : Sanitizer) : Prop :=
  ∀ key pair, s.memory.lookup key = some pair → key.nameText.map s.vocabulary.pairOf = .ok pair

/-- A fresh sanitizer remembers nothing. -/
theorem faithful_fresh (v : Vocabulary) : (fresh v).Faithful := nofun

variable {s : Sanitizer}

/-- **A pair is derived as if for the first time**, and remembered rightly. -/
theorem derive_faithful (h : s.Faithful) (name : Value) :
    (s.derive name).1 = s.vocabulary.derive name ∧ (s.derive name).2.Faithful ∧
      (s.derive name).2.vocabulary = s.vocabulary := by
  unfold derive
  cases keyed : name.key? with
  | none =>
    unfold Vocabulary.derive
    rw [keyed]
    exact ⟨rfl, h, rfl⟩
  | some key =>
  dsimp only
  cases known : s.memory.lookup key with
  | some pair =>
    refine ⟨?_, h, rfl⟩
    rw [s.vocabulary.derive_of_key keyed]
    exact (h key pair known).symm
  | none =>
  dsimp only
  cases derived : s.vocabulary.derive name with
  | error fault => exact ⟨rfl, h, rfl⟩
  | ok pair =>
    refine ⟨rfl, fun other found remembered => ?_, rfl⟩
    -- This key is remembered with what was just derived, any other as before.
    rw [List.lookup_cons] at remembered
    by_cases same : other = key
    · subst same
      rw [beq_self_eq_true] at remembered
      obtain rfl := Option.some.inj remembered
      exact (s.vocabulary.derive_of_key keyed).symm.trans derived
    · rw [beq_false_of_ne same] at remembered
      exact h other found remembered

/-- **A request is answered as by a fresh sanitizer**, and what is remembered stays right. -/
theorem answer_faithful (h : s.Faithful) (request : Request) :
    (s.answer request).1 = ((fresh s.vocabulary).answer request).1 ∧ (s.answer request).2.Faithful ∧
      (s.answer request).2.vocabulary = s.vocabulary := by
  -- Both derive the pair of the name anew.
  have anew (name : Value) : (s.derive name).1 = ((fresh s.vocabulary).derive name).1 :=
    (derive_faithful h name).1.trans (derive_faithful (faithful_fresh s.vocabulary) name).1.symm
  cases request with
  | pair name => exact ⟨congrArg (·.map Answer.pair) (anew name), (derive_faithful h name).2⟩
  | body name => exact ⟨rfl, h, rfl⟩
  | variant name case =>
    exact ⟨congrArg (fun outcome => (outcome.map case.pick).map Answer.text) (anew name),
      (derive_faithful h name).2⟩

/-- **What is remembered stays right** from request to request. -/
theorem answers_faithful (h : s.Faithful) (requests : List Request) :
    (s.answers requests).1 = requests.map (fun request => ((fresh s.vocabulary).answer request).1) ∧
      (s.answers requests).2.Faithful ∧ (s.answers requests).2.vocabulary = s.vocabulary := by
  induction requests generalizing s with
  | nil => exact ⟨rfl, h, rfl⟩
  | cons request rest ih =>
    obtain ⟨answered, later, kept⟩ := answer_faithful h request
    obtain ⟨others, last, still⟩ := ih later
    rw [kept] at others still
    exact ⟨congr (congrArg List.cons answered) others, last, still⟩

/-- **No answer depends on what was asked before**: each request of a run is answered as by a fresh sanitizer, with
the same value or the same fault. -/
theorem answers_fresh (v : Vocabulary) (requests : List Request) :
    ((fresh v).answers requests).1 = requests.map fun request => ((fresh v).answer request).1 :=
  (answers_faithful (faithful_fresh v) requests).1

/-- Zero and false are one name, the empty one; true is no name at all. -/
example : ((fresh .keywords).answers
    [.pair (.int 0), .variant (.bool false) .camel, .pair (.bool true), .body (.list [])]).1 =
    [.ok (.pair ⟨"_", "__"⟩), .ok (.text "__"), .error .wrongType, .ok (.text "_")] := rfl

end Sanitizer

end StaticAccessors
