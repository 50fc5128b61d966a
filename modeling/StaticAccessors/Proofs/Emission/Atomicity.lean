import StaticAccessors.Proofs.Emission.Layout
import StaticAccessors.Proofs.Emission.Steps

/-!
# Steps that fail

A caller goes on with the depth that was returned last, and a step that fails does not stop it from asking
for others. What such a caller holds is a session. A step is refused for its depth before it writes anything,
so it leaves a session as it was; and since no step that ends well returns a negative depth, none is ever
held (`run_atomic`).

What is refused for want of room leaves a session as it was, too, with one exception: the header of a scope
goes a level down between the namespace and the class, and where the namespace can be indented, but not the
class, the lines above the class stay (`run_overhanging`).

## Contents
- `Session`, `Step.run`, `Session.after`.
- `Step.HasRoom`, `Step.Overhangs`.
- `Step.emit_lines`: the first line of a step, and how much deeper the others are.
- `Step.Atomic`, `Step.atomic`, and `run_atomic`.
-/

namespace StaticAccessors.Scope

open Emission

/-! ## Sessions -/

/-- What has been written, and the depth that was returned last. -/
structure Session where
  text : String
  depth : Int

/-- Makes a step. What it writes stands behind the text even if it fails; the depth is another one only if
it ends well. -/
def Step.run (l : Layout) (step : Step) (s : Session) : Except Fault Unit × Session :=
  match (step.emit s.depth).print l with
  | (written, .ok depth) => (.ok (), ⟨s.text ++ written, depth⟩)
  | (written, .error fault) => (.error fault, ⟨s.text ++ written, s.depth⟩)

/-- A session after steps, whether they end well or not. -/
def Session.after (l : Layout) (s : Session) (steps : List Step) : Session :=
  steps.foldl (fun s step => (step.run l s).2) s

theorem Session.after_concat (l : Layout) (s : Session) (steps : List Step) (step : Step) :
    s.after l (steps ++ [step]) = (step.run l (s.after l steps)).2 := by
  unfold after
  rw [List.foldl_append]
  rfl

namespace Step

variable {l : Layout} {step : Step} {s : Session} {written : String}

theorem run_of_ok {depth : Int} (h : (step.emit s.depth).print l = (written, .ok depth)) :
    step.run l s = (.ok (), ⟨s.text ++ written, depth⟩) := by
  unfold run
  rw [h]

theorem run_of_error {fault : Fault} (h : (step.emit s.depth).print l = (written, .error fault)) :
    step.run l s = (.error fault, ⟨s.text ++ written, s.depth⟩) := by
  unfold run
  rw [h]

/-- What a step adds to the text is what is printed of its lines. -/
theorem text_run (l : Layout) (step : Step) (s : Session) :
    (step.run l s).2.text = s.text ++ (l.print (step.emit s.depth).lines).1 := by
  rw [← print_text]
  unfold run
  rcases (step.emit s.depth).print l with ⟨written, _ | _⟩ <;> rfl

/-! ## Room -/

/-- There is an indentation for each line that a step writes. -/
def HasRoom (l : Layout) (depth : Int) (step : Step) : Prop := ∀ x ∈ (step.emit depth).lines, l.Fits x.depth

/-- A step opens a scope whose namespace can be indented, but not the class in it. -/
def Overhangs (l : Layout) (depth : Int) (step : Step) : Prop :=
  ∃ h, step = openScope h ∧ h.namespace_.truthy = true ∧
    l.Fits depth.toNat ∧ ¬l.Fits (depth.toNat + 1)

/-- What a step that is deep enough writes and returns. Its first line is the deepest, unless a scope with a
namespace is opened, which goes down one level. -/
theorem emit_lines {depth : Int} (typed : step.WellTyped) (enough : step.least ≤ depth) :
    ∃ first rest, step.emit depth = ⟨first :: rest, .ok (depth + step.shift)⟩ ∧
      ((∀ x ∈ rest, x.depth ≤ first.depth) ∨
        ∃ h, step = openScope h ∧ h.namespace_.truthy = true ∧ first.depth = depth.toNat ∧
          ∀ x ∈ rest, x.depth ≤ depth.toNat + 1) := by
  obtain ⟨above, rfl⟩ : ∃ above : Nat, depth = ((above + step.least : Nat) : Int) :=
    ⟨(depth - step.least).toNat, by omega⟩
  cases step with
  | line text =>
    have emitted := emit_line above text
    rw [← Int.add_zero (above : Int)] at emitted
    exact ⟨⟨above, text⟩, [], emitted, .inl nofun⟩
  | openScope h =>
    obtain ⟨banner, hb⟩ := typed.banner
    obtain ⟨directives, hd⟩ := typed.directives
    obtain ⟨first, rest, opening, here⟩ := exists_scopeOpening_eq above h (banner.map .text)
      ((firstOccurrences directives).map .text)
    have deep := depth_scopeOpening above h (banner.map .text) ((firstOccurrences directives).map .text)
    have emitted := emit_openScope above hb hd
    rw [opening] at deep emitted
    have below := fun x listed => deep x (List.mem_cons_of_mem first listed)
    refine ⟨first, rest, emitted, ?_⟩
    unfold classDepth at below
    split at below
    · rename_i inside
      exact .inr ⟨h, rfl, inside, here, below⟩
    · exact .inl fun x listed => here ▸ below x listed
  | closeScope namespace_ =>
    have returned : ((above + levels namespace_ : Nat) : Int) + -levels namespace_ = above := by omega
    have emitted := emit_closeScope above namespace_
    rw [← returned] at emitted
    exact ⟨.closing (classDepth above namespace_), _, emitted, .inl (depth_namespaceClosing above namespace_)⟩
  | openBlock header =>
    have emitted := emit_openBlock above header
    unfold blockOpening at emitted
    split at emitted
    · exact ⟨_, [], emitted, .inl nofun⟩
    · refine ⟨_, [.opening above], emitted, .inl fun x listed => ?_⟩
      rw [List.mem_singleton.mp listed]
      exact Nat.le_refl above
  | closeBlock =>
    have returned : ((above + 1 : Nat) : Int) + -1 = above := by omega
    have emitted := emit_closeBlock above
    rw [← returned] at emitted
    exact ⟨.closing above, [], emitted, .inl nofun⟩

/-! ## How a step goes -/

/-- Below the least depth a step leaves a session as it was. -/
theorem run_shallow (typed : step.WellTyped) (shallow : s.depth < step.least) :
    step.run l s = (.error (step.refusal s.depth), s) := by
  have refused : (step.emit s.depth).print l = ("", .error (step.refusal s.depth)) := by
    rw [emit_shallow typed shallow]
    rfl
  rw [run_of_error refused, String.append_empty]

/-- What is refused for its depth needs no room. -/
theorem hasRoom_of_shallow {depth : Int} (typed : step.WellTyped) (shallow : depth < step.least) :
    step.HasRoom l depth := by
  unfold HasRoom
  rw [emit_shallow typed shallow]
  exact nofun

/-- **With room** a step that is deep enough writes all its lines. -/
theorem run_roomy (text : l.terminator.isText = true) (typed : step.WellTyped) (enough : step.least ≤ s.depth)
    (room : step.HasRoom l s.depth) :
    step.run l s =
      (.ok (), ⟨s.text ++ (l.print (step.emit s.depth).lines).1, s.depth + step.shift⟩) := by
  obtain ⟨first, rest, emitted, -⟩ := emit_lines typed enough
  apply run_of_ok
  rw [print_of_fits text room, emitted]

/-- **Without room** it fails for want of it, and has written nothing, unless it overhangs. -/
theorem run_crowded (text : l.terminator.isText = true) (typed : step.WellTyped) (enough : step.least ≤ s.depth)
    (crowded : ¬step.HasRoom l s.depth) :
    ∃ fault written, Layout.Excess fault ∧ (written = "" ∨ step.Overhangs l s.depth) ∧
      step.run l s = (.error fault, ⟨s.text ++ written, s.depth⟩) := by
  obtain ⟨fault, excess, printed⟩ := print_of_crowded text crowded
  refine ⟨fault, _, excess, ?_, run_of_error printed⟩
  obtain ⟨first, rest, emitted, lower⟩ := emit_lines typed enough
  unfold HasRoom at crowded
  rw [emitted] at crowded ⊢
  by_cases fits : l.Fits first.depth
  · -- The line without room is deeper than the first one.
    have deeper : ¬∀ x ∈ rest, l.Fits x.depth := fun others =>
      crowded (List.forall_mem_cons.mpr ⟨fits, others⟩)
    rcases lower with flat | ⟨h, rfl, inside, here, below⟩
    · exact absurd (fun x listed => fits.mono (flat x listed)) deeper
    · rw [here] at fits
      exact .inr ⟨h, rfl, inside, fits, fun next => deeper fun x listed => next.mono (below x listed)⟩
  · refine .inl ?_
    cases laid : l.line first with
    | ok shown => exact absurd (Layout.exists_line_iff.mp ⟨shown, laid⟩).1 fits
    | error refused => rw [Layout.print_cons_error laid]

/-- What a step may come to in a session: how it ends, and the session then. -/
structure Atomic (l : Layout) (step : Step) (s : Session) (result : Except Fault Unit × Session) : Prop where
  /-- it appends whole lines, from the first of its lines on -/
  whole : ∃ lines, lines <+: (step.emit s.depth).lines ∧
    result.2.text.toList = s.text.toList ++ (lines.map l.shown).flatMap (· ++ l.terminator.display.toList)
  /-- with room, it fails exactly below its least depth -/
  error_iff : step.HasRoom l s.depth → ((∃ fault, result.1 = .error fault) ↔ s.depth < step.least)
  /-- there it is refused for the depth, and leaves the session as it was -/
  shallow : s.depth < step.least → result = (.error (step.refusal s.depth), s)
  /-- without room, that is what stops it -/
  crowded : ¬step.HasRoom l s.depth → ∃ fault, Layout.Excess fault ∧ result.1 = .error fault
  /-- when it fails, the session is as it was, but for the lines above a class that overhangs -/
  failed : (∃ fault, result.1 = .error fault) →
    result.2 = s ∨ result.2.depth = s.depth ∧ step.Overhangs l s.depth
  /-- when it ends well, all its lines are there, and the depth is another one, but not a negative one -/
  ended : result.1 = .ok () →
    result.2.text.toList =
      s.text.toList ++ ((step.emit s.depth).lines.map l.shown).flatMap (· ++ l.terminator.display.toList) ∧
    result.2.depth = s.depth + step.shift ∧ 0 ≤ result.2.depth

/-- What is printed of the lines of a step is whole lines. -/
theorem exists_whole (text : l.terminator.isText = true) (step : Step) (s : Session) :
    ∃ lines, lines <+: (step.emit s.depth).lines ∧
      (step.run l s).2.text.toList =
        s.text.toList ++ (lines.map l.shown).flatMap (· ++ l.terminator.display.toList) := by
  obtain ⟨ending, ends⟩ := Value.exists_of_isText text
  obtain ⟨lines, above, shown⟩ := Layout.exists_prefix_print ends (step.emit s.depth).lines
  refine ⟨lines, above, ?_⟩
  rw [text_run, String.toList_append, shown, ends, Value.display_text]

/-- With room, these are all its lines. -/
theorem toList_run (text : l.terminator.isText = true) (room : step.HasRoom l s.depth) :
    (step.run l s).2.text.toList =
      s.text.toList ++ ((step.emit s.depth).lines.map l.shown).flatMap (· ++ l.terminator.display.toList) := by
  obtain ⟨ending, ends⟩ := Value.exists_of_isText text
  have shown := Layout.toList_print ((Layout.print_none_iff_fits text).mpr room) ends
  rw [text_run, String.toList_append, shown, ends, Value.display_text]

/-- **Steps are atomic**: refused for the depth, made, or stopped for want of room. -/
theorem atomic (text : l.terminator.isText = true) (typed : step.WellTyped) (s : Session) :
    step.Atomic l s (step.run l s) := by
  have whole := exists_whole text step s
  rcases Int.lt_or_le s.depth step.least with shallow | enough
  · have room := @hasRoom_of_shallow l _ _ typed shallow
    rw [run_shallow typed shallow] at whole ⊢
    exact {
      whole := whole
      error_iff := fun _ => ⟨fun _ => shallow, fun _ => ⟨_, rfl⟩⟩
      shallow := fun _ => rfl
      crowded := fun crowded => absurd room crowded
      failed := fun _ => .inl rfl
      ended := nofun }
  have deep : ¬s.depth < step.least := Int.not_lt.mpr enough
  by_cases room : step.HasRoom l s.depth
  · have lower := step.neg_least_le_shift
    have returned : 0 ≤ s.depth + step.shift := by omega
    have all := toList_run text room
    rw [run_roomy text typed enough room] at whole all ⊢
    exact {
      whole := whole
      error_iff := fun _ => ⟨fun ⟨_, no⟩ => absurd no nofun, fun shallow => absurd shallow deep⟩
      shallow := fun shallow => absurd shallow deep
      crowded := fun crowded => absurd room crowded
      failed := fun ⟨_, no⟩ => absurd no nofun
      ended := fun _ => ⟨all, rfl, returned⟩ }
  · obtain ⟨fault, written, excess, kept, ran⟩ := run_crowded text typed enough room
    rw [ran] at whole ⊢
    refine {
      whole := whole
      error_iff := fun some_ => absurd some_ room
      shallow := fun shallow => absurd shallow deep
      crowded := fun _ => ⟨fault, excess, rfl⟩
      failed := fun _ => ?_
      ended := nofun }
    rcases kept with rfl | overhangs
    · rw [String.append_empty]
      exact .inl rfl
    · exact .inr ⟨rfl, overhangs⟩

/-- No step leaves a negative depth. -/
theorem Atomic.nonneg {result : Except Fault Unit × Session} (h : step.Atomic l s result) (nonneg : 0 ≤ s.depth) :
    0 ≤ result.2.depth := by
  cases ended : result.1 with
  | ok u => exact (h.ended ended).2.2
  | error fault =>
    have kept : result.2.depth = s.depth := (h.failed ⟨fault, ended⟩).elim (congrArg Session.depth) And.left
    rw [kept]
    exact nonneg

end Step

/-! ## Sequences of steps -/

/-- No sequence of steps leaves a negative depth. -/
theorem Session.after_nonneg {l : Layout} (text : l.terminator.isText = true) {s : Session} {steps : List Step}
    (typed : ∀ step ∈ steps, step.WellTyped) (nonneg : 0 ≤ s.depth) : 0 ≤ (s.after l steps).depth := by
  induction steps generalizing s with
  | nil => exact nonneg
  | cons step rest ih =>
    rw [List.forall_mem_cons] at typed
    exact ih typed.2 ((Step.atomic text typed.1 s).nonneg nonneg)

/-- **Steps are atomic, and so are sequences of them.** Whatever the session, a step appends whole lines or
leaves it as it was; it is refused for the depth exactly below its least one, and otherwise only for want
of room. So a session that starts at no negative depth never has one, and a step that fails after any others
changes neither its text nor its depth, but for the lines above a class that overhangs. -/
theorem run_atomic {l : Layout} (text : l.terminator.isText = true) {step : Step} (typed : step.WellTyped) :
    (∀ s : Session, step.Atomic l s (step.run l s)) ∧
      ∀ (s : Session) (steps : List Step), (∀ other ∈ steps, other.WellTyped) → 0 ≤ s.depth →
        0 ≤ (s.after l steps).depth ∧
        ((∃ fault, (step.run l (s.after l steps)).1 = .error fault) →
          s.after l (steps ++ [step]) = s.after l steps ∨
            (s.after l (steps ++ [step])).depth = (s.after l steps).depth ∧
              step.Overhangs l (s.after l steps).depth) := by
  refine ⟨Step.atomic text typed, fun s steps others nonneg => ⟨Session.after_nonneg text others nonneg, ?_⟩⟩
  rw [Session.after_concat]
  exact (Step.atomic text typed _).failed

/-- For one, a namespace cannot be closed once the class in it has been closed by itself. -/
theorem run_atomic_fruits :
    (∀ step ∈ [Step.openScope fruitHeader, .closeBlock], step.WellTyped) ∧
      Session.after ⟨' ', 4, .text "\n"⟩ ⟨"", 0⟩
          [.openScope fruitHeader, .closeBlock, .closeScope (.text "Game")] =
        Session.after ⟨' ', 4, .text "\n"⟩ ⟨"", 0⟩ [.openScope fruitHeader, .closeBlock] := by
  have typed : ∀ step ∈ [Step.openScope fruitHeader, .closeBlock], step.WellTyped := by
    rw [List.forall_mem_cons, List.forall_mem_singleton]
    exact ⟨fruitHeader_wellTyped, trivial⟩
  obtain ⟨-, sequences⟩ :=
    @run_atomic ⟨' ', 4, .text "\n"⟩ rfl (.closeScope (.text "Game")) trivial
  obtain ⟨-, failed⟩ := sequences ⟨"", 0⟩ [.openScope fruitHeader, .closeBlock] typed (Int.le_refl 0)
  refine ⟨typed, ?_⟩
  rcases failed ⟨_, rfl⟩ with same | ⟨-, h, other, -⟩
  · exact same
  · exact absurd other nofun

/-- Where the depth of a namespace is the last that can be counted, its beginning stays when the class is
refused. -/
theorem run_overhanging :
    ∃ l, Layout.create (.int 0) (.bool false) (.text "\n") = .ok l ∧ fruitHeader.WellTyped ∧
      (Step.openScope fruitHeader).run l ⟨"", 0x7fffffffffffffff⟩ =
        (.error .tooLarge,
          ⟨"// fruits\n\nusing System;\n\nnamespace Game\n\x7b\n", 0x7fffffffffffffff⟩) :=
  ⟨_, rfl, fruitHeader_wellTyped, rfl⟩

end StaticAccessors.Scope
