import StaticAccessors.Proofs.Script.Printing

/-!
# Strategies that leak depth

A strategy has to return the depth it was given. One that returns another depth is noticed by one of two
checks: the scope is not closed from a depth that has too few levels, and once it is closed the depth has to
be zero. A depth that is off by `k` meets the first check if `k` is negative and the second one if it is
positive (`closeScope_leaked`), be there a namespace or not. No line is written at a negative depth on the
way, since the first check comes before the lines that close the scope.

But these lines come before the second check, and they are written as deep as the leak is large. If there is
no indentation for them, the script ends for want of room, and the leak is not told (`Caught`).

## Contents
- `Strategy.Leaks`, `leakOutcome`, `leakClosing`.
- `closeScope_leaked` and `emit_leaked`: the end of such a script.
- `Room`, `Caught`, and `caught_of_leaks`.
-/

namespace StaticAccessors

open Outcome Emission Scope

/-- A strategy that returns a depth that is off by `k`, from whatever depth it is given. -/
def Strategy.Leaks (strategy : Strategy) (s : Settings) (c : Collection) (k : Int) : Prop :=
  ∀ depth : Nat, (strategy.write s c depth).outcome = .ok (depth + k)

namespace Script

variable {strategy : Strategy} {s : Settings} {c : Collection} {k : Int}

/-! ## The end of a script -/

/-- How a script ends if the depth is off by `k` after its members. -/
def leakOutcome (c : Collection) (k : Int) : Except Fault Unit :=
  if k < 0 then .error (.scope (.closesTooMuch (levels c.namespace_) (.int (levels c.namespace_ + k))))
  else if k ≠ 0 then .error (.scope (.leaked k))
  else .ok ()

/-- The lines that close it. -/
def leakClosing (c : Collection) (k : Int) : List Line :=
  if k < 0 then [] else scopeClosing k.toNat c.namespace_

/-- **The two checks share all depths between them.** -/
theorem closeScope_leaked (c : Collection) (k : Int) :
    (closeScope (levels c.namespace_ + k) c.namespace_ >>= settle) = ⟨leakClosing c k, leakOutcome c k⟩ := by
  unfold leakClosing leakOutcome
  by_cases negative : k < 0
  · -- Fewer levels are open than there are to close.
    have few : (levels c.namespace_ : Int) + k < levels c.namespace_ := by omega
    unfold closeScope
    rw [if_pos few, if_pos negative, if_pos negative]
    rfl
  · obtain ⟨n, rfl⟩ := Int.eq_ofNat_of_zero_le (Int.not_lt.mp negative)
    have closed := closeScope_nat n c.namespace_
    rw [Int.natCast_add, Int.add_comm] at closed
    rw [if_neg negative, if_neg negative, closed, bind_ok]
    unfold settle
    split
    · simp [fail]
    · simp [done]

theorem emitBody_leaked (leaks : strategy.Leaks s c k) :
    emitBody strategy s c (levels c.namespace_) =
      ⟨(strategy.write s c (levels c.namespace_)).lines ++ leakClosing c k, leakOutcome c k⟩ := by
  have returned := leaks (levels c.namespace_)
  unfold emitBody
  rcases body : strategy.write s c (levels c.namespace_) with ⟨lines, outcome⟩
  rw [body] at returned
  obtain rfl : outcome = .ok (levels c.namespace_ + k) := returned
  rw [bind_ok, closeScope_leaked]

/-- **A script of a leaking strategy** is its opening, the members, and what can be closed. -/
theorem emit_leaked (p : Plan s c) (leaks : strategy.Leaks s c k) :
    emit strategy s c =
      ⟨p.opening ++ ((strategy.write s c (levels c.namespace_)).lines ++ leakClosing c k), leakOutcome c k⟩ := by
  rw [emit_plan strategy p, emitBody_leaked leaks]

/-! ## Room -/

/-- There is an indentation for each line of a script. -/
def Room (strategy : Strategy) (s : Settings) (c : Collection) : Prop :=
  ∃ l, Layout.ofSettings s = .ok l ∧ ∀ x ∈ (emit strategy s c).lines, l.Fits x.depth

/-- A script with room for all its lines ends as it does by itself. -/
theorem print_of_room (typed : s.WellTyped) (room : Room strategy s c) :
    (print strategy s c).outcome = (emit strategy s c).outcome := by
  obtain ⟨l, layout, fits⟩ := room
  have text : l.terminator.isText = true := by
    rw [Layout.ofSettings_terminator layout]
    exact typed .lineEnding
  unfold print
  rw [layout]
  exact congrArg Prod.snd (Emission.print_of_fits text fits)

/-- One without ends for want of room. -/
theorem print_of_crowded (typed : s.WellTyped) (crowded : ¬Room strategy s c) :
    ∃ fault, (print strategy s c).outcome = .error fault ∧ Layout.Excess fault := by
  unfold print
  cases layout : Layout.ofSettings s with
  | error fault => exact ⟨fault, rfl, Layout.ofSettings_excess (typed .indentSize) layout⟩
  | ok l =>
    have text : l.terminator.isText = true := by
      rw [Layout.ofSettings_terminator layout]
      exact typed .lineEnding
    obtain ⟨fault, excess, printed⟩ :=
      Emission.print_of_crowded text fun fits => crowded ⟨l, layout, fits⟩
    exact ⟨fault, congrArg Prod.snd printed, excess⟩

/-! ## What is caught -/

/-- **How the writing of a script may end** whose strategy returns a depth that is off by `k`. -/
structure Caught (strategy : Strategy) (s : Settings) (c : Collection) (k : Int)
    (outcome : Except Fault Unit) : Prop where
  /-- it ends well exactly if nothing leaks and there is room -/
  ok_iff : outcome = .ok () ↔ k = 0 ∧ Room strategy s c
  /-- the leak is told if there is room for the lines that come before the checks -/
  told : k ≠ 0 → Room strategy s c → ∃ cause, outcome = .error (.scope cause)
  /-- without room, that is what ends it -/
  crowded : ¬Room strategy s c → ∃ fault, outcome = .error fault ∧ Layout.Excess fault
  /-- no line is written at a negative depth -/
  notNegative : ∀ depth, outcome ≠ .error (.negativeDepth depth)

/-- A depth that is off is a fault of the scope, and nothing else is one. -/
theorem leakOutcome_cases (c : Collection) (k : Int) :
    k = 0 ∧ leakOutcome c k = .ok () ∨ k ≠ 0 ∧ ∃ cause, leakOutcome c k = .error (.scope cause) := by
  unfold leakOutcome
  rcases Int.lt_trichotomy k 0 with negative | rfl | positive
  · exact .inr ⟨by omega, _, if_pos negative⟩
  · exact .inl ⟨rfl, rfl⟩
  · rw [if_neg (by omega), if_pos (by omega)]
    exact .inr ⟨by omega, _, rfl⟩

/-- **A leak is caught**, of either sign and of any size for which there is room. -/
theorem caught_of_leaks (hc : c.WellTyped) (hs : s.WellTyped) (leaks : strategy.Leaks s c k) :
    Caught strategy s c k (print strategy s c).outcome := by
  obtain ⟨p⟩ := nonempty_plan hc hs
  by_cases room : Room strategy s c
  · rw [print_of_room hs room, emit_leaked p leaks]
    dsimp only
    rcases leakOutcome_cases c k with ⟨rfl, ended⟩ | ⟨leaked, cause, ended⟩
    · rw [ended]
      exact ⟨⟨fun _ => ⟨rfl, room⟩, fun _ => rfl⟩, fun leaked => absurd rfl leaked, fun no => absurd room no, nofun⟩
    · rw [ended]
      exact ⟨⟨nofun, fun none_ => absurd none_.1 leaked⟩, fun _ _ => ⟨cause, rfl⟩, fun no => absurd room no, nofun⟩
  · obtain ⟨fault, ended, excess⟩ := print_of_crowded hs room
    rw [ended]
    refine ⟨⟨nofun, fun none_ => absurd none_.2 room⟩, fun _ some_ => absurd some_ room,
      fun _ => ⟨fault, rfl, excess⟩, fun depth negative => ?_⟩
    obtain rfl := Except.error.inj negative
    exact absurd excess nofun

/-- A leak past the limit of what can be counted has no room. -/
theorem not_room_of_limit (p : Plan s c) (leaks : strategy.Leaks s c k) (limit : Layout.countLimit ≤ k) :
    ¬Room strategy s c := by
  rintro ⟨l, -, fits⟩
  have positive : 0 < Layout.countLimit := by decide
  have brace : Line.closing (classDepth k.toNat c.namespace_) ∈ (emit strategy s c).lines := by
    rw [emit_leaked p leaks]
    unfold leakClosing
    rw [if_neg (by omega)]
    exact List.mem_append_right _ (List.mem_append_right _ List.mem_cons_self)
  have counted : (classDepth k.toNat c.namespace_ : Int) < Layout.countLimit := (fits _ brace).1
  have deep := (classDepth_le k.toNat c.namespace_).1
  omega

end Script

/-! ## A leaking strategy -/

/-- A strategy that writes a comment and returns a depth that is off by `k`. -/
def Strategy.leaky (k : Int) : Strategy where
  name := "leaky"
  style := .direct
  description := ""
  typeName := "Leaky"
  moduleName := "__main__"
  write _ _ depth := do
    .write depth "// leaky"
    return depth + k

theorem Strategy.write_leaky (k : Int) (s : Settings) (c : Collection) (depth : Nat) :
    (leaky k).write s c depth = ⟨[⟨depth, "// leaky"⟩], .ok (depth + k)⟩ := by
  show (Emission.write depth "// leaky" >>= fun _ => pure ((depth : Int) + k)) = _
  rw [write_nat, bind_ok]
  rfl

theorem Strategy.leaks_leaky (k : Int) (s : Settings) (c : Collection) : (leaky k).Leaks s c k := by
  intro depth
  rw [write_leaky]

/-- There is room for a small leak, indented as by default. -/
theorem Script.room_leaky {k : Nat} {c : Collection} (p : Plan .defaults c) (small : k ≤ 0x100000) :
    Room (Strategy.leaky k) .defaults c := by
  refine ⟨⟨' ', 4, .text "\n"⟩, rfl, ?_⟩
  have around : levels c.namespace_ ≤ 2 := by
    unfold levels
    split <;> decide
  have bound : ∀ x ∈ (emit (Strategy.leaky k) .defaults c).lines, x.depth ≤ k + levels c.namespace_ := by
    rw [emit_leaked p (Strategy.leaks_leaky k _ _), Strategy.write_leaky]
    unfold leakClosing
    rw [if_neg (by omega), Int.toNat_natCast, List.forall_mem_append, List.forall_mem_append,
      List.forall_mem_singleton]
    refine ⟨fun x listed => ?_, Nat.le_add_left _ _, fun x listed => ?_⟩
    · have opening : x.depth ≤ classDepth 0 c.namespace_ := depth_scopeOpening 0 p.header p.banner p.directives x listed
      have inner := (classDepth_le 0 c.namespace_).2
      omega
    · exact Nat.le_trans (depth_scopeClosing k c.namespace_ x listed) (classDepth_le k c.namespace_).2
  intro x listed
  have deep := bound x listed
  have limits : 0x100000 + 2 < Layout.countLimit ∧ 4 * (0x100000 + 2) ≤ Layout.lengthLimit := by decide
  exact ⟨by omega, by dsimp only; omega⟩

end StaticAccessors
