import StaticAccessors.Proofs.Emission.Layout
import StaticAccessors.Proofs.Emission.Nesting
import StaticAccessors.Proofs.Emission.Steps

/-!
# Scopes and blocks that are closed as they were opened

A program is a list of steps through which the depth is threaded. If every scope and every block in it is
closed after what is inside, and scopes with the namespace with which they were opened, the program ends at
the depth at which it started, is never above that depth in between, and its lines are nested
(`program_balanced`). None of this depends on the layout, which only has to have room for the lines: one
without can end even the smallest program with the fault of an indentation (`program_crowded`).

## Contents
- `program`, `Balanced`, `Step.Plain`.
- `Runs`: programs that end well and keep to a floor, and how they are put together.
- `Balanced.runs`, and `program_balanced`.
-/

namespace StaticAccessors.Scope

open Emission

/-! ## Programs -/

/-- Steps one after the other, each from the depth that the one before it returned. -/
def program (depth : Int) : List Step → Emission Int
  | [] => pure depth
  | step :: rest => do
    let next ← step.emit depth
    program next rest

theorem program_append (depth : Int) (first second : List Step) :
    program depth (first ++ second) = program depth first >>= fun next => program next second := by
  induction first generalizing depth with
  | nil => exact (bind_done depth fun next => program next second).symm
  | cons step rest ih =>
    rw [List.cons_append, program, program, Emission.bind_assoc]
    exact congrArg (step.emit depth >>= ·) (funext fun next => ih next)

/-- Programs in which scopes and blocks are closed as they were opened, innermost first. -/
inductive Balanced : List Step → Prop
  | nil : Balanced []
  | line {text rest} : Balanced rest → Balanced (.line text :: rest)
  | scope {h inside rest} : Balanced inside → Balanced rest →
      Balanced (.openScope h :: inside ++ .closeScope h.namespace_ :: rest)
  | block {header inside rest} : Balanced inside → Balanced rest →
      Balanced (.openBlock header :: inside ++ .closeBlock :: rest)

/-- Steps that are given no line that is just a brace. -/
def Step.Plain : Step → Prop
  | line text | openBlock text => text ≠ "\x7b" ∧ text ≠ "\x7d"
  | openScope h => ∀ banner, h.banner.elements? = some banner →
      .text "\x7b" ∉ banner ∧ .text "\x7d" ∉ banner
  | closeScope _ | closeBlock => True

/-! ## Running above a floor -/

/-- From one depth a program writes these lines and ends well at another. In between, the depth never is
less than a floor. -/
structure Runs (floor start stop : Nat) (steps : List Step) (lines : List Line) : Prop where
  ends : program start steps = ⟨lines, .ok (stop : Int)⟩
  above : ∀ before, before <+: steps →
    ∃ depth : Nat, floor ≤ depth ∧ (program start before).outcome = .ok (depth : Int)

namespace Runs

variable {floor start middle stop depth : Nat} {steps others : List Step} {lines more : List Line}

theorem nil (h : floor ≤ depth) : Runs floor depth depth [] [] := by
  refine ⟨rfl, fun before start => ⟨depth, h, ?_⟩⟩
  rw [List.prefix_nil.mp start]
  rfl

theorem mono {lower : Nat} (h : Runs floor start stop steps lines) (le : lower ≤ floor) :
    Runs lower start stop steps lines := by
  refine ⟨h.ends, fun before reached => ?_⟩
  obtain ⟨depth, above, ended⟩ := h.above before reached
  exact ⟨depth, Nat.le_trans le above, ended⟩

/-- A step that ends well, and what follows it. -/
theorem cons {step : Step} (h : step.emit start = ⟨lines, .ok (middle : Int)⟩) (above : floor ≤ start)
    (rest : Runs floor middle stop steps more) : Runs floor start stop (step :: steps) (lines ++ more) := by
  refine ⟨by rw [program, h, bind_ok, rest.ends], fun before reached => ?_⟩
  rcases List.prefix_cons_iff.mp reached with rfl | ⟨begun, rfl, inside⟩
  · exact ⟨start, above, rfl⟩
  · obtain ⟨depth, above, ended⟩ := rest.above begun inside
    refine ⟨depth, above, ?_⟩
    rw [program, h, bind_ok]
    exact ended

/-- One program after another. -/
theorem append (first : Runs floor start middle steps lines) (second : Runs floor middle stop others more) :
    Runs floor start stop (steps ++ others) (lines ++ more) := by
  refine ⟨by rw [program_append, first.ends, bind_ok, second.ends], fun before reached => ?_⟩
  rcases List.prefix_or_prefix_of_prefix reached (List.prefix_append steps others) with inside | beyond
  · exact first.above before inside
  · obtain ⟨begun, rfl⟩ := beyond
    obtain ⟨depth, above, ended⟩ :=
      second.above begun ((List.prefix_append_right_inj steps).mp reached)
    refine ⟨depth, above, ?_⟩
    rw [program_append, first.ends, bind_ok]
    exact ended

/-- **A pair of steps around a program** that starts and ends where the first of them leads and the second
leads back from. -/
theorem around {opening closing : Step} {inner : Nat} {above inside below after : List Line}
    (opens : opening.emit depth = ⟨above, .ok (inner : Int)⟩)
    (closes : closing.emit inner = ⟨below, .ok (depth : Int)⟩) (deeper : depth ≤ inner)
    (within : Runs inner inner inner steps inside) (rest : Runs depth depth depth others after) :
    Runs depth depth depth (opening :: steps ++ closing :: others) (above ++ (inside ++ (below ++ after))) :=
  cons opens (Nat.le_refl depth) ((within.mono deeper).append (cons closes deeper rest))

end Runs

/-! ## Balanced programs -/

variable {steps : List Step}

/-- A block around nested lines is nested, with or without a header. -/
theorem nested_blockOpening {depth : Nat} {header : String} {inside : List Line}
    (plain : header ≠ "\x7b" ∧ header ≠ "\x7d") (nested : Nested (depth + 1) inside) :
    Nested depth (blockOpening depth header ++ (inside ++ [.closing depth])) := by
  unfold blockOpening
  split
  · exact Nested.braces nested
  · exact .line (Nat.le_refl depth) (Line.isBrace_of_ne plain.1 plain.2 depth) (Nested.braces nested)

/-- **A balanced program** runs from any depth back to it, and what it writes is nested. -/
theorem Balanced.runs (balanced : Balanced steps) (typed : ∀ step ∈ steps, step.WellTyped)
    (plain : ∀ step ∈ steps, step.Plain) (depth : Nat) :
    ∃ lines, Nested depth lines ∧ Runs depth depth depth steps lines := by
  induction balanced generalizing depth with
  | nil => exact ⟨[], .nil, .nil (Nat.le_refl depth)⟩
  | @line text rest _ ih =>
    rw [List.forall_mem_cons] at typed plain
    obtain ⟨lines, nested, runs⟩ := ih typed.2 plain.2 depth
    obtain ⟨opening, closing⟩ := plain.1
    exact ⟨⟨depth, text⟩ :: lines,
      .line (Nat.le_refl depth) (Line.isBrace_of_ne opening closing depth) nested,
      .cons (Step.emit_line depth text) (Nat.le_refl depth) runs⟩
  | @scope h inside rest _ _ ihInside ihRest =>
    rw [List.forall_mem_append, List.forall_mem_cons, List.forall_mem_cons] at typed plain
    obtain ⟨⟨header, typedInside⟩, -, typedRest⟩ := typed
    obtain ⟨⟨noBrace, plainInside⟩, -, plainRest⟩ := plain
    obtain ⟨within, nestedWithin, runsWithin⟩ := ihInside typedInside plainInside (depth + levels h.namespace_)
    obtain ⟨after, nestedAfter, runsAfter⟩ := ihRest typedRest plainRest depth
    obtain ⟨banner, hb⟩ := header.banner
    obtain ⟨directives, hd⟩ := header.directives
    obtain ⟨opening, closing⟩ := noBrace _ hb
    have texts : ∀ v ∈ banner.map Value.text, ∃ t, v = .text t := fun v listed =>
      (List.mem_map.mp listed).imp fun t same => same.2.symm
    have scope := (nested_scope depth h ((firstOccurrences directives).map .text)
      (isBrace_lineText texts opening closing depth) nestedWithin).append nestedAfter
    rw [List.append_assoc, List.append_assoc] at scope
    exact ⟨_, scope, .around (Step.emit_openScope depth hb hd) (Step.emit_closeScope depth h.namespace_)
      (Nat.le_add_right depth _) runsWithin runsAfter⟩
  | @block header inside rest _ _ ihInside ihRest =>
    rw [List.forall_mem_append, List.forall_mem_cons, List.forall_mem_cons] at typed plain
    obtain ⟨⟨-, typedInside⟩, -, typedRest⟩ := typed
    obtain ⟨⟨noBrace, plainInside⟩, -, plainRest⟩ := plain
    obtain ⟨within, nestedWithin, runsWithin⟩ := ihInside typedInside plainInside (depth + 1)
    obtain ⟨after, nestedAfter, runsAfter⟩ := ihRest typedRest plainRest depth
    have block := (nested_blockOpening noBrace nestedWithin).append nestedAfter
    rw [List.append_assoc, List.append_assoc] at block
    exact ⟨_, block, .around (Step.emit_openBlock depth header) (Step.emit_closeBlock depth)
      (Nat.le_succ depth) runsWithin runsAfter⟩

/-- **Scopes are symmetric.** Whatever the layout, a balanced program writes the same lines, and they are
nested from its depth on. A layout with room for them prints all of them, and no step fails: the program
ends at the depth at which it started, and is never above that depth in between. A layout without room
ends it for want of it. -/
theorem program_balanced (balanced : Balanced steps) (typed : ∀ step ∈ steps, step.WellTyped)
    (plain : ∀ step ∈ steps, step.Plain) (depth : Nat) :
    ∃ lines, Nested depth lines ∧ program depth steps = ⟨lines, .ok (depth : Int)⟩ ∧
      ∀ (l : Layout) (ending : String), l.terminator = .text ending →
        ((∀ x ∈ lines, l.Fits x.depth) →
          ((program depth steps).print l).2 = .ok (depth : Int) ∧
          ((program depth steps).print l).1.toList =
            (lines.map l.shown).flatMap (· ++ ending.toList) ∧
          ∀ before, before <+: steps →
            ∃ inner : Nat, depth ≤ inner ∧ ((program depth before).print l).2 = .ok (inner : Int)) ∧
        ((¬∀ x ∈ lines, l.Fits x.depth) →
          ∃ fault, Layout.Excess fault ∧ ((program depth steps).print l).2 = .error fault) := by
  obtain ⟨lines, nested, runs⟩ := balanced.runs typed plain depth
  refine ⟨lines, nested, runs.ends, fun l ending ends => ?_⟩
  have text : l.terminator.isText = true := by
    rw [ends]
    rfl
  have wrote : (program depth steps).lines = lines := congrArg Emission.lines runs.ends
  refine ⟨fun fits => ?_, fun crowded => ?_⟩
  · have whole := (Layout.print_none_iff_fits text).mpr fits
    rw [print_of_fits text (wrote ▸ fits), runs.ends]
    refine ⟨rfl, Layout.toList_print whole ends, fun before reached => ?_⟩
    obtain ⟨inner, above, ended⟩ := runs.above before reached
    -- What a beginning of the program writes is a beginning of its lines.
    have begun : ∀ x ∈ (program depth before).lines, l.Fits x.depth := by
      obtain ⟨after, rfl⟩ := reached
      rw [program_append] at wrote
      exact fun x listed => fits x (wrote ▸ mem_lines_bind listed)
    refine ⟨inner, above, ?_⟩
    rw [print_of_fits text begun]
    exact ended
  · obtain ⟨fault, excess, printed⟩ := print_of_crowded text (wrote ▸ crowded)
    exact ⟨fault, excess, congrArg Prod.snd printed⟩

/-- The class with one method in it. -/
def fruitProgram : List Step :=
  [.openScope fruitHeader, .openBlock "public static int Count()", .line "return 0;", .closeBlock,
    .closeScope (.text "Game")]

/-- Symmetric is, for one, this class. -/
theorem program_balanced_fruits :
    Balanced fruitProgram ∧ (∀ step ∈ fruitProgram, step.WellTyped) ∧
      (∀ step ∈ fruitProgram, step.Plain) ∧
      ∃ lines, Nested 0 lines ∧ program 0 fruitProgram = ⟨lines, .ok 0⟩ ∧
        ((program 0 fruitProgram).print ⟨' ', 4, .text "\n"⟩).2 = .ok 0 := by
  have method : Balanced [.openBlock "public static int Count()", .line "return 0;", .closeBlock] :=
    @Balanced.block _ [.line "return 0;"] [] (.line .nil) .nil
  have balanced : Balanced fruitProgram := @Balanced.scope fruitHeader _ [] method .nil
  have typed : ∀ step ∈ fruitProgram, step.WellTyped := by
    unfold fruitProgram
    simp only [List.forall_mem_cons, Step.WellTyped, List.not_mem_nil, false_imp_iff, implies_true, and_true]
    exact fruitHeader_wellTyped
  have plain : ∀ step ∈ fruitProgram, step.Plain := by
    unfold fruitProgram
    simp only [List.forall_mem_cons, Step.Plain, List.not_mem_nil, false_imp_iff, implies_true, and_true]
    refine ⟨fun banner shown => ?_, by decide, by decide⟩
    obtain rfl := Option.some.inj shown
    simp
  obtain ⟨lines, nested, wrote, printed⟩ := program_balanced balanced typed plain 0
  have shallow : ∀ x ∈ (program 0 fruitProgram).lines, x.depth ≤ 3 := by decide
  have room : Layout.Fits ⟨' ', 4, .text "\n"⟩ 3 := by
    unfold Layout.Fits
    decide
  refine ⟨balanced, typed, plain, lines, nested, wrote, ((printed _ _ rfl).1 fun x listed => ?_).1⟩
  exact room.mono (shallow x (wrote ▸ listed))

/-- A block without a header and without anything inside. -/
def emptyBlock : List Step := [.openBlock "", .closeBlock]

/-- From a depth beyond what can be counted even this program fails, although nothing is to be indented. -/
theorem program_crowded :
    Balanced emptyBlock ∧ (∀ step ∈ emptyBlock, step.WellTyped ∧ step.Plain) ∧
      ∃ l, Layout.create (.int 0) (.bool false) (.text "\n") = .ok l ∧
        ((program (0x8000000000000000 : Nat) emptyBlock).print l).2 = .error .tooLarge := by
  refine ⟨@Balanced.block "" [] [] .nil .nil, ?_, _, rfl, rfl⟩
  unfold emptyBlock
  simp [Step.WellTyped, Step.Plain]

end StaticAccessors.Scope
