import StaticAccessors.Script
import StaticAccessors.Proofs.Emission.Directives
import StaticAccessors.Proofs.Strategy.Lines

/-!
# The lines of a script

A script has a header if its collection has a class name, its directives can be told apart and its
banner has elements. `Plan` is what such a header is made of. Without a plan nothing is written at all;
with one, the lines are those that open the scope, and then what the strategy makes of the body.

A built-in strategy leaves only three ways for a script to go, and `emit_builtIn` lists them.

## Contents
- `headerOf_error`: all that fails before the header is a value of an unfit kind.
- `Plan`, with its `header`, its `opening` and the `closing` of a script.
- `emit_plan`, `emit_unplanned`: scripts of any strategy.
- `emitBody_named`, `emitBody_unnamed`, `emit_builtIn` and `emit_error`.
-/

namespace StaticAccessors

open Outcome Emission Scope

namespace Script

variable {s : Settings} {c : Collection}

/-! ## Plans -/

/-- What the header of a script is made of, and that it is what the code computes. -/
structure Plan (s : Settings) (c : Collection) where
  className : String
  directives : List Value
  banner : List Value
  named : c.className = .ok className
  kept : dedupe (c.directives s) = .ok directives
  shown : elementsOf (s .banner) = .ok banner

namespace Plan

variable (p : Plan s c)

/-- The header of the script. -/
def header : Header :=
  ⟨c.namespace_, p.className, (s .classPartial).truthy, (s .classStatic).truthy, .list p.directives,
    s .banner⟩

/-- The lines above the members of the class. -/
def opening : List Line := scopeOpening 0 p.header p.banner p.directives

theorem headerOf_eq : headerOf s c = .ok p.header := by
  unfold headerOf
  rw [p.named, p.kept]
  rfl

/-- The scope of the script is opened from depth zero. -/
theorem openScope_eq :
    openScope 0 p.header = ⟨p.opening, .ok (levels c.namespace_ : Int)⟩ := by
  have opened := openScope_nat 0 p.header p.shown (by rfl) (dedupe_dedupe p.kept)
  rwa [Nat.zero_add] at opened

end Plan

/-- **A script of well-typed values has a header**. -/
theorem nonempty_plan (h : c.WellTyped) (hs : s.WellTyped) : Nonempty (Plan s c) := by
  obtain ⟨names, hn⟩ := Vocabulary.keywords.exists_derive h.name
  obtain ⟨vs, hb, -⟩ := hs.banner
  have keyed : ∀ d ∈ c.directives s, d.truthy = true → d.key?.isSome = true := by
    intro d hd _
    obtain ⟨t, rfl⟩ := Value.exists_of_isText (h.isText_directives hs d hd)
    rfl
  obtain ⟨directives, hd⟩ := exists_dedupe_iff.mpr keyed
  refine ⟨⟨names.upper, directives, vs, ?_, hd, ?_⟩⟩
  · exact map_eq_ok.mpr ⟨names, hn, rfl⟩
  · rw [hb]
    rfl

/-- The lines below the members of the class. -/
def closing (c : Collection) : List Line := scopeClosing 0 c.namespace_

/-- The scope of a script is closed back to depth zero. -/
theorem closeScope_eq (c : Collection) :
    closeScope (levels c.namespace_ : Int) c.namespace_ = ⟨closing c, .ok 0⟩ := by
  have closed := closeScope_nat 0 c.namespace_
  rwa [Nat.zero_add] at closed

/-- All that fails before a header is a value of an unfit kind. -/
theorem headerOf_error {fault : Fault} (h : headerOf s c = .error fault) : fault = .wrongType := by
  rcases bind_eq_error.mp h with h | ⟨className, -, h⟩
  · exact Collection.className_error h
  · rcases bind_eq_error.mp h with h | ⟨directives, -, h⟩
    · exact dedupeAfter_error h
    · exact absurd h nofun

/-! ## Scripts of any strategy -/

/-- With a plan, a script is its opening and what follows from the depth inside. -/
theorem emit_plan (strategy : Strategy) (p : Plan s c) :
    emit strategy s c =
      ⟨p.opening ++ (emitBody strategy s c (levels c.namespace_)).lines,
        (emitBody strategy s c (levels c.namespace_)).outcome⟩ := by
  unfold emit
  rw [p.headerOf_eq, lift_eq, bind_ok, p.openScope_eq, bind_ok]
  rfl

/-- Without a plan, nothing is written. -/
theorem emit_unplanned (strategy : Strategy) (h : ¬ Nonempty (Plan s c)) :
    emit strategy s c = ⟨[], .error .wrongType⟩ := by
  unfold emit
  cases hh : headerOf s c with
  | error fault => rw [headerOf_error hh, lift_eq, bind_error]
  | ok header =>
    obtain ⟨className, hn, hh⟩ := bind_eq_ok.mp hh
    obtain ⟨directives, hd, hh⟩ := bind_eq_ok.mp hh
    obtain rfl := Except.ok.inj hh
    rw [lift_eq, bind_ok]
    unfold openScope
    cases hb : elementsOf (s .banner) with
    | ok banner => exact absurd ⟨⟨className, directives, banner, hn, hd, hb⟩⟩ h
    | error fault =>
      rw [elementsOf_error hb, lift_eq, bind_error, bind_error]
      rfl

/-- What is written to its end has a plan. -/
theorem nonempty_plan_of_ok {strategy : Strategy} (h : (emit strategy s c).outcome = .ok ()) :
    Nonempty (Plan s c) := by
  rcases Classical.em (Nonempty (Plan s c)) with plan | none
  · exact plan
  · rw [emit_unplanned strategy none] at h
    exact absurd h nofun

/-! ## Scripts of the built-in strategies -/

/-- A body whose items all have identifiers is closed and ends at depth zero. -/
theorem emitBody_named (style : AccessorStyle) (s : Settings) {named : List NamedItem}
    (h : c.items = named.map (·.item)) :
    emitBody (Strategy.builtIn style) s c (levels c.namespace_) =
      ⟨Strategy.bodyLines style (levels c.namespace_) s c named ++ closing c, .ok ()⟩ := by
  unfold emitBody settle
  rw [Strategy.write_builtIn style s h, bind_ok, closeScope_eq, bind_ok]
  simp

/-- A body stops among the fields at the first item without identifiers. -/
theorem emitBody_unnamed (style : AccessorStyle) (s : Settings) {named : List NamedItem} {item : Item}
    {rest : List Item} (h : c.items = named.map (·.item) ++ item :: rest) {fault : Fault}
    (hi : item.identifiers = .error fault) :
    emitBody (Strategy.builtIn style) s c (levels c.namespace_) =
      ⟨Strategy.fieldLine (levels c.namespace_) c.type.name.display "values" ::
          named.map (Strategy.itemField (levels c.namespace_)), .error .wrongType⟩ := by
  have : fault = .wrongType := Vocabulary.derive_error hi
  unfold emitBody
  rw [Strategy.write_builtIn_unnamed style s h hi, bind_error, this]

/-- The three ways in which a script of a built-in strategy can go. -/
inductive Emitted (style : AccessorStyle) (s : Settings) (c : Collection) : Emission Unit → Prop
  /-- There is no header, and nothing is written. -/
  | unplanned : ¬ Nonempty (Plan s c) → Emitted style s c ⟨[], .error .wrongType⟩
  /-- Some item has no identifiers, and the writing stops among the fields. -/
  | unnamed (p : Plan s c) {named : List NamedItem} {item rest fault} : c.items = named.map (·.item) ++ item :: rest →
      item.identifiers = .error fault →
      Emitted style s c
        ⟨p.opening ++ Strategy.fieldLine (levels c.namespace_) c.type.name.display "values" ::
          named.map (Strategy.itemField (levels c.namespace_)), .error .wrongType⟩
  /-- All is written. -/
  | complete (p : Plan s c) {named : List NamedItem} : c.items = named.map (·.item) →
      Emitted style s c
        ⟨p.opening ++ (Strategy.bodyLines style (levels c.namespace_) s c named ++ closing c), .ok ()⟩

/-- **A script of a built-in strategy** goes in one of these ways. -/
theorem emit_builtIn (style : AccessorStyle) (s : Settings) (c : Collection) :
    Emitted style s c (emit (Strategy.builtIn style) s c) := by
  rcases Classical.em (Nonempty (Plan s c)) with ⟨⟨p⟩⟩ | none
  · rw [emit_plan _ p]
    rcases named_or_unnamed c.items with ⟨named, h⟩ | ⟨named, item, rest, fault, h, hi⟩
    · rw [emitBody_named style s h]
      exact .complete p h
    · rw [emitBody_unnamed style s h hi]
      exact .unnamed p h hi
  · rw [emit_unplanned _ none]
    exact .unplanned none

/-- What stops a script of a built-in strategy is a value of an unfit kind. -/
theorem emit_error {style : AccessorStyle} {fault : Fault}
    (h : (emit (Strategy.builtIn style) s c).outcome = .error fault) : fault = .wrongType := by
  have emitted := emit_builtIn style s c
  generalize emit (Strategy.builtIn style) s c = e at h emitted
  cases emitted with
  | unplanned _ => exact (Except.error.inj h).symm
  | unnamed _ _ _ => exact (Except.error.inj h).symm
  | complete _ _ => exact absurd h nofun

end Script

end StaticAccessors
