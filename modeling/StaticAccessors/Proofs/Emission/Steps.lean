import StaticAccessors.Proofs.Emission.Directives
import StaticAccessors.Proofs.Emission.Lines

/-!
# Steps

What a writer of scripts can be asked for, one step at a time: a line, the beginning or the end of a scope,
and the beginning or the end of a block. A step is refused exactly below a depth that its kind decides
(`Step.least`), and then nothing is written. From there on it changes the depth by a number of levels
(`Step.shift`) that never takes it below zero.

## Contents
- `Step`, `Step.emit`: steps as data, and what they write.
- `Header.WellTyped`, `Step.WellTyped`: arguments of the types that are meant; `fruitHeader` is of them.
- `Step.least`, `Step.refusal`, and `Step.emit_shallow`: below the least depth.
- `Step.shift`, and `Step.emit_line` and its siblings: from the least depth on.
-/

namespace StaticAccessors.Scope

open Emission

/-- What is asked for, apart from the depth. -/
inductive Step
  | line (text : String)
  | openScope (h : Header)
  | closeScope (namespace_ : Value)
  | openBlock (header : String)
  | closeBlock

/-- A header whose banner and whose directives are texts, in a list or in anything else that holds them. -/
structure Header.WellTyped (h : Header) : Prop where
  banner : ∃ texts : List String, h.banner.elements? = some (texts.map .text)
  directives : ∃ texts : List String, h.directives.elements? = some (texts.map .text)

/-- The header of a small class. -/
def fruitHeader : Header :=
  ⟨.text "Game", "Fruits", true, true, .list [.text "System", .text "System"], .list [.text "// fruits"]⟩

theorem fruitHeader_wellTyped : fruitHeader.WellTyped :=
  ⟨⟨["// fruits"], rfl⟩, ⟨["System", "System"], rfl⟩⟩

/-- The lines that open a block. -/
def blockOpening (depth : Nat) (header : String) : List Line :=
  if header = "" then [.opening depth] else [⟨depth, header⟩, .opening depth]

/-- Opening a block writes its opening, with or without a header, and returns the depth inside. -/
theorem openBlock_eq (depth : Nat) (header : String) :
    openBlock depth header = ⟨blockOpening depth header, .ok ((depth + 1 : Nat) : Int)⟩ := by
  unfold blockOpening
  by_cases bare : header = ""
  · unfold openBlock
    rw [if_pos bare, if_neg (not_not_intro bare), write_nat]
    rfl
  · rw [if_neg bare, openBlock_nat depth bare]

namespace Step

/-- What a step writes from a depth, and the depth it returns. A line returns none, so the depth stays. -/
def emit (depth : Int) : Step → Emission Int
  | line text => do
    .write depth text
    return depth
  | openScope h => Scope.openScope depth h
  | closeScope namespace_ => Scope.closeScope depth namespace_
  | openBlock header => Scope.openBlock depth header
  | closeBlock => Scope.closeBlock depth

/-- Steps whose arguments are of the types that are meant. -/
def WellTyped : Step → Prop
  | openScope h => h.WellTyped
  | _ => True

/-! ## Below the least depth -/

/-- The least depth from which a step can be made. -/
def least : Step → Nat
  | line _ | openScope _ | openBlock _ => 0
  | closeScope namespace_ => levels namespace_
  | closeBlock => 1

/-- How a step is refused from a depth below. -/
def refusal (depth : Int) : Step → Fault
  | line _ | openScope _ | openBlock _ => .negativeDepth (.int depth)
  | closeScope namespace_ => .scope (.closesTooMuch (levels namespace_) (.int depth))
  | closeBlock => .scope .belowZero

variable {step : Step} {depth : Int}

/-- **Below the least depth** a step is refused before it writes anything. -/
theorem emit_shallow (typed : step.WellTyped) (shallow : depth < step.least) :
    step.emit depth = fail (step.refusal depth) := by
  cases step with
  | line text =>
    rw [emit, write_of_neg shallow, bind_fail]
    rfl
  | openScope h =>
    -- The first line is one of the banner, or the blank one below it.
    obtain ⟨banner, hb⟩ := typed.banner
    rw [emit, Scope.openScope, elementsOf_eq hb, lift_eq, bind_ok]
    cases banner with
    | nil =>
      unfold blank
      rw [write_of_neg shallow]
      rfl
    | cons text rest =>
      rw [List.map_cons, writeAll, write_of_neg shallow]
      rfl
  | closeScope namespace_ =>
    rw [emit, Scope.closeScope]
    exact if_pos shallow
  | openBlock header =>
    rw [emit, Scope.openBlock]
    by_cases bare : header = ""
    · rw [if_neg (not_not_intro bare), write_of_neg shallow]
      rfl
    · rw [if_pos bare, write_of_neg shallow]
      rfl
  | closeBlock =>
    have below : depth - 1 < 0 := Int.sub_neg_of_lt shallow
    rw [emit, Scope.closeBlock]
    exact if_pos below

/-! ## From the least depth on -/

/-- By how much a step changes the depth. -/
def shift : Step → Int
  | line _ => 0
  | openScope h => levels h.namespace_
  | closeScope namespace_ => -levels namespace_
  | openBlock _ => 1
  | closeBlock => -1

/-- No step goes up by more levels than it needs to be deep. -/
theorem neg_least_le_shift (step : Step) : -(step.least : Int) ≤ step.shift := by
  cases step with
  | line text => exact Int.le_refl 0
  | openScope h => exact Int.natCast_nonneg (levels h.namespace_)
  | closeScope namespace_ => exact Int.le_refl _
  | openBlock header => show (0 : Int) ≤ 1; decide
  | closeBlock => exact Int.le_refl _

theorem emit_line (depth : Nat) (text : String) :
    (line text).emit depth = ⟨[⟨depth, text⟩], .ok (depth : Int)⟩ := by
  rw [emit, write_nat]
  rfl

/-- A scope opens with its banner, its directives without repetition, its namespace and its class. -/
theorem emit_openScope (depth : Nat) {h : Header} {banner directives : List String}
    (hb : h.banner.elements? = some (banner.map .text))
    (hd : h.directives.elements? = some (directives.map .text)) :
    (openScope h).emit depth =
      ⟨scopeOpening depth h (banner.map .text) ((firstOccurrences directives).map .text),
        .ok ((depth + levels h.namespace_ : Nat) : Int)⟩ :=
  openScope_nat depth h (elementsOf_eq hb) (elementsOf_eq hd) (dedupe_texts directives)

theorem emit_closeScope (depth : Nat) (namespace_ : Value) :
    (closeScope namespace_).emit ((depth + levels namespace_ : Nat) : Int) =
      ⟨scopeClosing depth namespace_, .ok (depth : Int)⟩ :=
  closeScope_nat depth namespace_

theorem emit_openBlock (depth : Nat) (header : String) :
    (openBlock header).emit depth = ⟨blockOpening depth header, .ok ((depth + 1 : Nat) : Int)⟩ :=
  openBlock_eq depth header

theorem emit_closeBlock (depth : Nat) :
    closeBlock.emit ((depth + 1 : Nat) : Int) = ⟨[.closing depth], .ok (depth : Int)⟩ :=
  closeBlock_nat depth

end Step

end StaticAccessors.Scope
