import StaticAccessors.Proofs.Script.Printing
import StaticAccessors.Proofs.Strategy.Nesting

/-!
# Scripts are nested

The members of a class are nested from the depth of the class body on, and the scope around them makes
a block of them, or a block in a block. So a script that is complete is nested, and one that stops
among the fields is the beginning of a nested one.

The result is `Script.nested_emit`.
-/

namespace StaticAccessors

/-! ## Scripts -/

/-- Faults of the depth that is threaded through an emission. -/
def Fault.isDepth : Fault → Bool
  | scope _ | negativeDepth _ => true
  | _ => false

/-- Settings whose banner has no line that is just a brace. -/
def Settings.PlainBanner (s : Settings) : Prop :=
  ∀ vs, s .banner = .list vs → Value.text "\x7b" ∉ vs ∧ Value.text "\x7d" ∉ vs

theorem Settings.defaults_plainBanner : defaults.PlainBanner := by
  intro vs h
  obtain rfl := Value.list.inj h
  constructor <;> simp

theorem Layout.Refusal.not_isDepth {fault : Fault} (h : Refusal fault) : fault.isDepth = false := by
  cases h <;> rfl

namespace Script

open Strategy (builtIn)

variable {s : Settings} {c : Collection}

/-- No line of the banner of such settings is a brace. -/
theorem Plan.isBrace_banner (p : Plan s c) (hs : s.WellTyped) (hb : s.PlainBanner) :
    ∀ v ∈ p.banner, (Line.mk 0 (Scope.lineText v)).isBrace = false := by
  intro v hv
  obtain ⟨vs, hl, ht⟩ := hs.banner
  have shown := p.shown
  rw [hl] at shown
  obtain rfl : vs = p.banner := Except.ok.inj shown
  obtain ⟨noOpening, noClosing⟩ := hb _ hl
  exact Scope.isBrace_lineText ht noOpening noClosing 0 v hv

/-- A script around nested members is nested. -/
theorem Plan.nested (p : Plan s c) (hs : s.WellTyped) (hb : s.PlainBanner) {inside : List Line}
    (hin : Nested (Scope.levels c.namespace_) inside) : Nested 0 (p.opening ++ (inside ++ closing c)) := by
  refine Scope.nested_scope 0 p.header p.directives (p.isBrace_banner hs hb) ?_
  rw [Nat.zero_add]
  exact hin

/-- A script of well-typed values is complete. -/
theorem emit_wellTyped (style : AccessorStyle) (hs : s.WellTyped) (hc : c.WellTyped) :
    (emit (builtIn style) s c).outcome = .ok () := by
  obtain ⟨p⟩ := nonempty_plan hc hs
  obtain ⟨named, h⟩ := hc.exists_named
  rw [emit_plan _ p, emitBody_named style s h]

/-- **Scripts are nested.** Under well-typed settings without a brace in the banner, and for any
collection: a script never fails for its depth; its lines are nested from depth zero on, or are the
beginning of lines that are; it is complete if the collection is well-typed; and if it is complete, the
depth at which the body was opened is the one at which it ends, from which the scope is closed to zero. -/
theorem nested_emit (style : AccessorStyle) {s : Settings} (hs : s.WellTyped) (hb : s.PlainBanner)
    (c : Collection) :
    (∀ fault, (emit (builtIn style) s c).outcome = .error fault ∨
      (print (builtIn style) s c).outcome = .error fault → fault.isDepth = false) ∧
    (∃ rest, Nested 0 ((emit (builtIn style) s c).lines ++ rest)) ∧
    (c.WellTyped → (emit (builtIn style) s c).outcome = .ok ()) ∧
    ((emit (builtIn style) s c).outcome = .ok () →
      Nested 0 (emit (builtIn style) s c).lines ∧
      ∃ header depth, headerOf s c = .ok header ∧
        (Scope.openScope 0 header).outcome = .ok depth ∧
        ((builtIn style).write s c depth).outcome = .ok depth ∧
        (Scope.closeScope depth c.namespace_).outcome = .ok 0) := by
  refine ⟨?_, ?_, emit_wellTyped style hs, ?_⟩
  · intro fault h
    rcases h with h | h
    · rw [emit_error h]
      rfl
    · exact (print_refused h).not_isDepth
  · have emitted := emit_builtIn style s c
    generalize emit (builtIn style) s c = e at emitted
    cases emitted with
    | unplanned _ => exact ⟨[], .nil⟩
    | @unnamed p named item rest fault _ _ =>
      -- What is missing is the end of the script.
      have fields := Nested.code (Nat.le_refl _) (Strategy.isCode_field c.type.name.display "values")
        (Strategy.nested_fields (Scope.levels c.namespace_) named .nil)
      rw [List.append_nil] at fields
      refine ⟨closing c, ?_⟩
      rw [List.append_assoc]
      exact p.nested hs hb fields
    | complete p _ =>
      refine ⟨[], ?_⟩
      rw [List.append_nil]
      exact p.nested hs hb (Strategy.nested_bodyLines _ _ _ _ _)
  · intro ended
    have emitted := emit_builtIn style s c
    generalize emit (builtIn style) s c = e at ended emitted
    cases emitted with
    | unplanned _ => exact absurd ended nofun
    | unnamed _ _ _ => exact absurd ended nofun
    | complete p named =>
      refine ⟨p.nested hs hb (Strategy.nested_bodyLines _ _ _ _ _), p.header,
        (Scope.levels c.namespace_ : Int), p.headerOf_eq, ?_, ?_, ?_⟩
      · rw [p.openScope_eq]
      · rw [Strategy.write_builtIn style s named]
      · rw [closeScope_eq]

/-- Nested is, for one, the script of a small collection under the defaults. -/
theorem nested_emit_fruits :
    Settings.defaults.WellTyped ∧ Settings.defaults.PlainBanner ∧
      Nested 0 (emit (builtIn .direct) .defaults .fruits).lines := by
  have typed := Settings.defaults_wellTyped
  have plain := Settings.defaults_plainBanner
  obtain ⟨-, -, complete, nested⟩ := nested_emit .direct typed plain .fruits
  exact ⟨typed, plain, (nested (complete Collection.fruits_wellTyped)).1⟩

end Script

end StaticAccessors
