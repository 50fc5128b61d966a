import StaticAccessors.Proofs.Registry
import StaticAccessors.Proofs.Script.Printing
import StaticAccessors.Proofs.Script.Reader

/-!
# Scripts are read back

A script that is rendered is the outline of its collection, printed (`exists_plan_of_render`), so it can be
read: one function recovers what the script says about the collection and about each of its items, in their
order, from the text alone and the settings under which it was written. Nothing of it can be lost on the
way, and no item can take the place of another.

This needs lines to be recognisable, so the values that are written must be single lines. The identifiers
are, and they hold no blanks, whatever the names in the collection are.

## Contents
- `Outline.Describes`: what a script has to say about a collection.
- `exists_plan_of_render`.
- `read_render`.
-/

namespace StaticAccessors

namespace Script

open Outcome
open Strategy (builtIn)

variable {s : Settings} {c : Collection}

/-- An outline says what there is to say about a collection: each of its items is told of, in order, with
the identifiers that are derived from its own name. -/
structure Outline.Describes (o : Outline) (c : Collection) : Prop where
  className : c.className = .ok o.className
  namespace_ : o.namespace_ = if c.namespace_.truthy then some c.namespace_.display else none
  typeName : o.typeName = c.type.name.display
  guid : o.guid = c.guid.display
  items : ∃ named : List NamedItem, c.items = named.map (·.item) ∧ o.items = named.map .of

namespace Plan

variable (p : Plan s c) {named : List NamedItem}

theorem describes_outline (h : c.items = named.map (·.item)) : (p.outline named).Describes c :=
  ⟨p.named, rfl, rfl, rfl, named, h, rfl⟩

/-- The names of fields are words. -/
theorem words_outline (named : List NamedItem) :
    ∀ i ∈ (p.outline named).items, ' ' ∉ i.lower.toList := by
  intro i hi
  obtain ⟨n, -, rfl⟩ := List.mem_map.mp hi
  obtain ⟨t, ht⟩ := Vocabulary.exists_pairOf n.derived
  show ' ' ∉ n.names.lower.toList
  rw [ht]
  exact not_mem_of_isWordChar (Vocabulary.isWordChar_lower t) (by decide)

end Plan

/-- A rendered script is the outline of its collection, printed. -/
theorem exists_plan_of_render {text : String} (rendered : (render .builtin s c).1 = .ok text) :
    ∃ (p : Plan s c) (named : List NamedItem) (l : Layout), c.items = named.map (·.item) ∧
      Layout.ofSettings s = .ok l ∧
      (emit (builtIn c.style) s c).lines = (p.outline named).lines c.style s ∧
      l.print ((p.outline named).lines c.style s) = (text, none) := by
  obtain ⟨strategy, lookup, checked⟩ := exists_of_render rendered
  obtain rfl := Except.ok.inj (lookup.symm.trans (Registry.lookup_builtin c.style))
  obtain ⟨className, -, named, hn, -⟩ := Strategy.checkIdentifiers_eq_ok_iff.mp checked
  rw [render_of_checked lookup checked] at rendered
  obtain ⟨_, complete, rfl⟩ := map_eq_ok.mp rendered
  obtain ⟨l, hl, emitted, printed⟩ := exists_layout_of_print complete
  obtain ⟨p⟩ := nonempty_plan_of_ok emitted
  have lines : (emit (builtIn c.style) s c).lines = (p.outline named).lines c.style s := by
    rw [emit_plan _ p, emitBody_named c.style s hn, p.lines_outline named c.style]
  rw [lines] at printed
  exact ⟨p, named, l, hn, hl, lines, printed⟩

/-- **Scripts are read back.** If the identifiers of a collection pass their check, and its values and the
settings are single lines, then its script is rendered exactly if it is writable. From the text, `read`
recovers an outline that describes the collection. The lines of the script are those of this outline, where
each item has one field and one accessor of its own, and the class declares nothing else. -/
theorem read_render (hs : s.SingleLines) (hc : c.SingleLines)
    (checked : Strategy.checkIdentifiers c = .ok ()) :
    ((∃ text, (render .builtin s c).1 = .ok text) ↔ Writable c.style s c) ∧
    ∀ text, (render .builtin s c).1 = .ok text → ∃ o, read text s c.style = some o ∧ o.Describes c ∧
      (emit (builtIn c.style) s c).lines = o.lines c.style s ∧
      Strategy.declarations o.inner (o.body c.style s) =
        (o.fields ++ o.accessors c.style).map (·.declaration o.inner) ∧
      o.fields.length = 1 + c.items.length ∧ (o.accessors c.style).length = 1 + c.items.length := by
  constructor
  · rw [render_of_checked (Registry.lookup_builtin c.style) checked, ← print_eq_ok_iff checked]
    constructor
    · rintro ⟨text, rendered⟩
      obtain ⟨_, complete, -⟩ := map_eq_ok.mp rendered
      exact complete
    · intro complete
      rw [complete]
      exact ⟨_, rfl⟩
  · intro text rendered
    obtain ⟨p, named, l, hn, hl, lines, printed⟩ := exists_plan_of_render rendered
    have single := p.singleLines_outline named hs hc hn
    have count : (p.outline named).items.length = c.items.length := by
      rw [hn, List.length_map]
      exact List.length_map _
    refine ⟨p.outline named, read_print hl hs single (p.words_outline named) printed, p.describes_outline hn,
      lines, p.declarations_body named c.style, ?_, ?_⟩
    · unfold Outline.fields
      rw [List.length_cons, List.length_map, count, Nat.add_comm]
    · unfold Outline.accessors
      rw [List.length_cons, List.length_map, count, Nat.add_comm]

/-- The script of the small collection, under the settings by default. -/
theorem read_render_fruits :
    Settings.defaults.SingleLines ∧ Collection.fruits.SingleLines ∧
      Strategy.checkIdentifiers .fruits = .ok () ∧
      ∃ text o, (render .builtin .defaults .fruits).1 = .ok text ∧ read text .defaults .direct = some o ∧
        o.Describes .fruits := by
  have settings : Settings.defaults.SingleLines := by
    refine ⟨.inl rfl, by decide, fun setting => ?_⟩
    cases setting <;> decide
  have values : Collection.fruits.SingleLines := by
    refine ⟨by decide, by decide, by decide, by decide⟩
  have checked := Collection.checkIdentifiers_fruits
  obtain ⟨writable, readable⟩ := read_render settings values checked
  obtain ⟨text, rendered⟩ :=
    writable.mpr (writable_of_indentSize Collection.fruits_wellTyped Settings.defaults_wellTyped rfl)
  obtain ⟨o, recovered, describes, -⟩ := readable text rendered
  exact ⟨settings, values, checked, text, o, rendered, recovered, describes⟩

end Script

end StaticAccessors
