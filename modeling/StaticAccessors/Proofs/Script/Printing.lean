import StaticAccessors.Proofs.Emission.Layout
import StaticAccessors.Proofs.Script.Lines
import StaticAccessors.Proofs.Strategy.Owners

/-!
# Scripts that can be printed

A collection that passes the check of identifiers can still have a script that is not printed to its
end. The settings and the directives are looked at only while the script is written: `Writable` says
what they have to be like, and `print_eq_ok_iff` that this is all there is to it.

The deepest line of a script is in an accessor, and every script has a blank line. So the layout accepts
all lines as soon as it has room for that depth and its terminator is a text.

## Contents
- `Layout.accepts_all_iff`.
- `Strategy.reach`: how much deeper than the body of the class an accessor goes.
- `Script.deepest`, `Script.Writable`, and `Script.writable_of_indentSize`.
- `Script.print_eq_ok_iff`, `Script.print_refused`.
- `Script.render_of_checked` and its siblings: what is rendered is what is printed.
-/

namespace StaticAccessors

open Outcome

/-- Lines with a blank one among them are accepted if there is room for the deepest of them, and if they
end in a text. -/
theorem Layout.accepts_all_iff {l : Layout} {lines : List Line} {deepest : Nat}
    (le : ∀ x ∈ lines, x.depth ≤ deepest) (reached : ∃ x ∈ lines, x.depth = deepest)
    (blank : ∃ x ∈ lines, x.text = "") :
    (∀ x ∈ lines, l.Accepts x) ↔ l.Fits deepest ∧ l.terminator.isText = true := by
  constructor
  · intro h
    obtain ⟨x, hx, rfl⟩ := reached
    obtain ⟨y, hy, empty⟩ := blank
    exact ⟨(h x hx).1, (h y hy).2 empty⟩
  · rintro ⟨room, text⟩ x hx
    exact ⟨room.mono (le x hx), fun _ => text⟩

/-! ## Depths -/

namespace Strategy

variable {bound : Nat}

/-- How many levels below the body of a class the lines of an accessor reach. -/
def reach : AccessorStyle → Nat
  | .direct => 3
  | .tryGet => 2

theorem depth_block {depth : Nat} {header : String} {inside : List Line} (outer : depth ≤ bound)
    (inner : ∀ x ∈ inside, x.depth ≤ bound) : ∀ x ∈ block depth header inside, x.depth ≤ bound := by
  unfold block
  rw [List.forall_mem_append, List.forall_mem_cons, List.forall_mem_cons, List.forall_mem_singleton]
  exact ⟨⟨outer, outer, inner⟩, outer⟩

/-- What is inside a block stands in the block. -/
theorem mem_block {depth : Nat} {header : String} {inside : List Line} {x : Line} (h : x ∈ inside) :
    x ∈ block depth header inside :=
  List.mem_append_left _ (List.mem_cons_of_mem _ (List.mem_cons_of_mem _ h))

theorem Direct.depth_getter {depth : Nat} (typeName field lookup : String) :
    ∀ x ∈ getter depth typeName field lookup, x.depth ≤ depth + 2 := by
  refine depth_block (Nat.le_add_right depth 2) ?_
  rw [List.forall_mem_cons, List.forall_mem_cons, List.forall_mem_singleton]
  exact ⟨Nat.le_succ _, Nat.le_refl _, Nat.le_succ _⟩

/-- The deepest line of a getter fills the field. -/
theorem Direct.exists_depth_getter (depth : Nat) (typeName field lookup : String) :
    ∃ x ∈ getter depth typeName field lookup, x.depth = depth + 2 := by
  refine ⟨⟨depth + 2, field ++ " = (" ++ typeName ++ ")" ++ lookup ++ ";"⟩, ?_, rfl⟩
  unfold getter block
  simp

namespace TryGet

theorem depth_returnLines {depth : Nat} (value : String) (success : Bool) (le : depth ≤ bound) :
    ∀ x ∈ returnLines depth value success, x.depth ≤ bound := by
  unfold returnLines
  rw [List.forall_mem_cons, List.forall_mem_singleton]
  exact ⟨le, le⟩

theorem depth_guardedLines {depth : Nat} (condition value : String) (success : Bool) :
    ∀ x ∈ guardedLines depth condition value success, x.depth ≤ depth + 1 := by
  unfold guardedLines
  rw [List.forall_mem_append, List.forall_mem_singleton]
  exact ⟨depth_block (Nat.le_succ depth) (depth_returnLines value success (Nat.le_refl _)),
    Nat.le_succ depth⟩

theorem depth_collectionInside {depth : Nat} (s : Settings) (c : Collection) :
    ∀ x ∈ collectionInside depth s c, x.depth ≤ depth + 1 := by
  unfold collectionInside
  rw [List.forall_mem_append, List.forall_mem_append, List.forall_mem_cons]
  exact ⟨depth_guardedLines _ _ _, depth_guardedLines _ _ _, Nat.le_succ depth,
    depth_returnLines _ _ (Nat.le_succ depth)⟩

theorem depth_itemInside {depth : Nat} (s : Settings) (c : Collection) (n : NamedItem) :
    ∀ x ∈ itemInside depth s c n, x.depth ≤ depth + 1 := by
  unfold itemInside
  rw [List.forall_mem_append, List.forall_mem_append, List.forall_mem_append, List.forall_mem_cons]
  exact ⟨depth_guardedLines _ _ _, depth_guardedLines _ _ _, depth_guardedLines _ _ _, Nat.le_succ depth,
    depth_returnLines _ _ (Nat.le_succ depth)⟩

end TryGet

section

variable (style : AccessorStyle) (depth : Nat) (s : Settings) (c : Collection)

theorem depth_collectionLines : ∀ x ∈ collectionLines style depth s c, x.depth ≤ depth + reach style := by
  cases style with
  | direct => exact depth_block (Nat.le_add_right depth 3) (Direct.depth_getter _ _ _)
  | tryGet => exact depth_block (Nat.le_add_right depth 2) (TryGet.depth_collectionInside s c)

theorem depth_itemLines (n : NamedItem) :
    ∀ x ∈ itemLines style depth s c n, x.depth ≤ depth + reach style := by
  cases style with
  | direct => exact depth_block (Nat.le_add_right depth 3) (Direct.depth_getter _ _ _)
  | tryGet => exact depth_block (Nat.le_add_right depth 2) (TryGet.depth_itemInside s c n)

/-- No member goes deeper than its style reaches. -/
theorem depth_bodyLines (named : List NamedItem) :
    ∀ x ∈ bodyLines style depth s c named, x.depth ≤ depth + reach style := by
  have here : depth ≤ depth + reach style := Nat.le_add_right depth _
  intro x hx
  rcases List.mem_append.mp hx with hx | hx
  · rcases List.mem_append.mp hx with hx | hx
    · rcases List.mem_cons.mp hx with rfl | hx
      · exact here
      · obtain ⟨n, -, rfl⟩ := List.mem_map.mp hx
        exact here
    · rw [List.mem_singleton.mp hx]
      exact here
  · rcases List.mem_append.mp hx with hx | hx
    · exact depth_collectionLines style depth s c x hx
    · obtain ⟨n, -, hx⟩ := List.mem_flatMap.mp hx
      rcases List.mem_cons.mp hx with rfl | hx
      · exact here
      · exact depth_itemLines style depth s c n x hx

/-- The accessor of the collection goes as deep as its style reaches. -/
theorem exists_depth_bodyLines (named : List NamedItem) :
    ∃ x ∈ bodyLines style depth s c named, x.depth = depth + reach style := by
  have accessor : ∃ x ∈ collectionLines style depth s c, x.depth = depth + reach style := by
    cases style with
    | direct =>
      obtain ⟨x, hx, deep⟩ := Direct.exists_depth_getter (depth + 1) c.type.name.display "values"
        (registryCall s ("GetCollectionByGUID(" ++ stringLiteral c.guid.display ++ ")"))
      exact ⟨x, mem_block hx, deep⟩
    | tryGet =>
      refine ⟨⟨depth + 2, "result = values;"⟩, mem_block (List.mem_append_left _ ?_), rfl⟩
      exact List.mem_append_left _ (mem_block List.mem_cons_self)
  obtain ⟨x, hx, reached⟩ := accessor
  exact ⟨x, List.mem_append_right _ (List.mem_append_left _ hx), reached⟩

end

end Strategy

namespace Script

open Strategy (builtIn)

variable {style : AccessorStyle} {s : Settings} {c : Collection}

/-! ## Writable scripts -/

/-- The depth of the deepest line of a script. -/
def deepest (style : AccessorStyle) (c : Collection) : Nat :=
  Scope.levels c.namespace_ + Strategy.reach style

/-- What settings and directives have to be like for a script to be printed to its end. -/
structure Writable (style : AccessorStyle) (s : Settings) (c : Collection) : Prop where
  /-- there is an indentation for the deepest line -/
  indents : Layout.Indents s (deepest style c)
  /-- blank lines are the terminator alone -/
  terminator : (s .lineEnding).isText = true
  /-- the banner is something to loop over -/
  banner : (s .banner).elements?.isSome = true
  /-- the directives can be compared -/
  directives : ∀ d ∈ c.directives s, d.truthy = true → d.key?.isSome = true

/-- Among values of the kinds that are meant, only the indentation is in question. -/
theorem writable_of_wellTyped (hc : c.WellTyped) (hs : s.WellTyped)
    (indents : Layout.Indents s (deepest style c)) : Writable style s c := by
  refine ⟨indents, hs .lineEnding, ?_, fun d hd _ => ?_⟩
  · obtain ⟨vs, banner, -⟩ := hs.banner
    rw [banner]
    rfl
  · obtain ⟨t, rfl⟩ := Value.exists_of_isText (hc.isText_directives hs d hd)
    rfl

/-- There is room for every script that is indented as by default. -/
theorem indents_of_indentSize (size : s .indentSize = .int 4) : Layout.Indents s (deepest style c) := by
  refine .inr ⟨4, by rw [size]; rfl, by decide, ?_⟩
  have limit : 20 ≤ Layout.lengthLimit := by decide
  unfold deepest Scope.levels Strategy.reach
  split <;> cases style <;> dsimp only <;> omega

/-- So scripts of well-typed values can be printed. -/
theorem writable_of_indentSize (hc : c.WellTyped) (hs : s.WellTyped) (size : s .indentSize = .int 4) :
    Writable style s c :=
  writable_of_wellTyped hc hs (indents_of_indentSize size)

/-- Scripts are not nested deeply. -/
theorem deepest_bounds (style : AccessorStyle) (c : Collection) :
    0 < deepest style c ∧ (deepest style c : Int) ≤ Layout.lengthLimit := by
  have limit : 5 ≤ Layout.lengthLimit := by decide
  unfold deepest Scope.levels Strategy.reach
  split <;> cases style <;> dsimp only <;> omega

/-- A script of a collection with a class name has a header if banner and directives allow it. -/
theorem nonempty_plan_iff {className : String} (named : c.className = .ok className) :
    Nonempty (Plan s c) ↔ (s .banner).elements?.isSome = true ∧
      ∀ d ∈ c.directives s, d.truthy = true → d.key?.isSome = true := by
  rw [← Scope.exists_dedupe_iff]
  constructor
  · rintro ⟨p⟩
    refine ⟨?_, p.directives, p.kept⟩
    have shown := p.shown
    unfold Scope.elementsOf at shown
    split at shown
    · rename_i h
      rw [h]
      rfl
    · exact absurd shown nofun
  · rintro ⟨hb, directives, kept⟩
    obtain ⟨banner, hb⟩ := Option.isSome_iff_exists.mp hb
    exact ⟨⟨className, directives, banner, named, kept, Scope.elementsOf_eq hb⟩⟩

/-- The lines of a complete script are accepted if there is room for the deepest of them, and if they end
in a text. -/
theorem Plan.accepts_iff (p : Plan s c) (style : AccessorStyle) (named : List NamedItem) (l : Layout) :
    (∀ x ∈ p.opening ++ (Strategy.bodyLines style (Scope.levels c.namespace_) s c named ++ closing c),
      l.Accepts x) ↔ l.Fits (deepest style c) ∧ l.terminator.isText = true := by
  have around : Scope.classDepth 0 c.namespace_ ≤ deepest style c := by
    have inner := (Scope.classDepth_le 0 c.namespace_).2
    unfold deepest
    omega
  -- The deepest line is in the accessor of the collection, and there is a blank one below the banner.
  refine Layout.accepts_all_iff ?_ ?_ ?_
  · rw [List.forall_mem_append, List.forall_mem_append]
    exact ⟨fun x hx => Nat.le_trans (Scope.depth_scopeOpening 0 p.header _ _ x hx) around,
      Strategy.depth_bodyLines style _ s c named,
      fun x hx => Nat.le_trans (Scope.depth_scopeClosing 0 c.namespace_ x hx) around⟩
  · obtain ⟨x, hx, reached⟩ := Strategy.exists_depth_bodyLines style (Scope.levels c.namespace_) s c named
    exact ⟨x, List.mem_append_right _ (List.mem_append_left _ hx), reached⟩
  · exact ⟨⟨0, ""⟩, List.mem_append_left _ (Scope.blank_mem_scopeOpening 0 p.header _ _), rfl⟩

/-! ## Printing -/

/-- **The script of a collection that passed its check is printed to its end** exactly if it is
writable. -/
theorem print_eq_ok_iff (h : Strategy.checkIdentifiers c = .ok ()) :
    (print (builtIn style) s c).outcome = .ok () ↔ Writable style s c := by
  obtain ⟨className, hc, named, hn, -⟩ := Strategy.checkIdentifiers_eq_ok_iff.mp h
  obtain ⟨pos, shallow⟩ := deepest_bounds style c
  have printed : (print (builtIn style) s c).outcome = .ok () ↔
      ∃ l, Layout.ofSettings s = .ok l ∧ ((emit (builtIn style) s c).print l).2 = .ok () := by
    unfold print
    cases hl : Layout.ofSettings s with
    | error fault => exact ⟨fun h => absurd h nofun, fun ⟨_, h, _⟩ => absurd h nofun⟩
    | ok l => exact ⟨fun h => ⟨l, rfl, h⟩, fun ⟨_, same, h⟩ => Except.ok.inj same ▸ h⟩
  rw [printed]
  constructor
  · rintro ⟨l, hl, h⟩
    obtain ⟨complete, accepted⟩ := Emission.print_eq_ok_iff.mp h
    obtain ⟨p⟩ := nonempty_plan_of_ok complete
    rw [emit_plan _ p, emitBody_named style s hn] at accepted
    obtain ⟨room, text⟩ := (p.accepts_iff style named l).mp accepted
    obtain ⟨banner, directives⟩ := (nonempty_plan_iff hc).mp ⟨p⟩
    rw [Layout.ofSettings_terminator hl] at text
    exact ⟨(Layout.exists_ofSettings_iff pos shallow).mp ⟨l, hl, room⟩, text, banner, directives⟩
  · intro w
    obtain ⟨l, hl, room⟩ := (Layout.exists_ofSettings_iff pos shallow).mpr w.indents
    obtain ⟨p⟩ := (nonempty_plan_iff hc).mpr ⟨w.banner, w.directives⟩
    refine ⟨l, hl, Emission.print_eq_ok_iff.mpr ?_⟩
    rw [emit_plan _ p, emitBody_named style s hn]
    refine ⟨rfl, (p.accepts_iff style named l).mpr ⟨room, ?_⟩⟩
    rw [Layout.ofSettings_terminator hl]
    exact w.terminator

/-- A script that is printed to its end is all its lines, in the layout of its settings. -/
theorem exists_layout_of_print {strategy : Strategy} (h : (print strategy s c).outcome = .ok ()) :
    ∃ l, Layout.ofSettings s = .ok l ∧ (emit strategy s c).outcome = .ok () ∧
      l.print (emit strategy s c).lines = ((print strategy s c).text, none) := by
  unfold print at h ⊢
  cases hl : Layout.ofSettings s with
  | error fault =>
    rw [hl] at h
    exact absurd h nofun
  | ok l =>
    rw [hl] at h
    obtain ⟨complete, accepted⟩ := Emission.print_eq_ok_iff.mp h
    have stopped : (l.print (emit strategy s c).lines).2 = none := Layout.print_none_iff.mpr accepted
    refine ⟨l, rfl, complete, Prod.ext ?_ stopped⟩
    dsimp only
    unfold Emission.print
    split <;> rename_i printed <;> rw [printed]

/-- What stops the printing of a script is always a refusal of the layout, or a value of an unfit kind. -/
theorem print_refused {fault : Fault} (h : (print (builtIn style) s c).outcome = .error fault) :
    Layout.Refusal fault := by
  unfold print at h
  cases hl : Layout.ofSettings s with
  | error first =>
    rw [hl] at h
    exact Except.error.inj h ▸ Layout.ofSettings_error hl
  | ok l =>
    rw [hl] at h
    rcases Emission.print_error h with refused | h
    · exact refused
    · exact emit_error h ▸ .kind

/-- Without a plan, what stops it is a value of an unfit kind, if the layout is settled. -/
theorem print_unplanned {strategy : Strategy} {l : Layout} (settled : Layout.ofSettings s = .ok l)
    (none_ : ¬Nonempty (Plan s c)) : (print strategy s c).outcome = .error .wrongType := by
  unfold print
  rw [settled]
  dsimp only
  rw [emit_unplanned strategy none_]
  rfl

/-! ## Rendering -/

section

variable {r : Registry} {strategy : Strategy}

/-- A script whose identifiers pass their check is rendered as it is printed. -/
theorem render_of_checked (lookup : r.lookup (.style c.style) = .ok strategy)
    (distinct : Strategy.checkIdentifiers c = .ok ()) :
    (render r s c).1 = (print strategy s c).outcome.map fun () => (print strategy s c).text := by
  unfold render
  rw [lookup]
  dsimp only
  rw [distinct]

/-- One whose identifiers do not pass is not rendered. -/
theorem render_of_unchecked {fault : Fault} (lookup : r.lookup (.style c.style) = .ok strategy)
    (rejected : Strategy.checkIdentifiers c = .error fault) : (render r s c).1 = .error fault := by
  unfold render
  rw [lookup]
  dsimp only
  rw [rejected]

/-- Without a strategy nothing is rendered. -/
theorem render_of_unknown {fault : Fault} (unknown : r.lookup (.style c.style) = .error fault) :
    (render r s c).1 = .error fault := by
  unfold render
  rw [unknown]

/-- A script that is rendered has a strategy and passes the check of its identifiers. -/
theorem exists_of_render {text : String} (h : (render r s c).1 = .ok text) :
    ∃ strategy, r.lookup (.style c.style) = .ok strategy ∧ Strategy.checkIdentifiers c = .ok () := by
  cases lookup : r.lookup (.style c.style) with
  | error fault =>
    rw [render_of_unknown lookup] at h
    exact absurd h nofun
  | ok strategy =>
    cases distinct : Strategy.checkIdentifiers c with
    | error fault =>
      rw [render_of_unchecked lookup distinct] at h
      exact absurd h nofun
    | ok _ => exact ⟨strategy, rfl, rfl⟩

end

end Script

end StaticAccessors
