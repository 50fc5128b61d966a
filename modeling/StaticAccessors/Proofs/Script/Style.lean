import StaticAccessors.Proofs.Registry
import StaticAccessors.Proofs.Script.Leaks
import StaticAccessors.Proofs.Script.Reader

/-!
# The style of a script

Three settings are about style: the size of the indentation, whether it is made of tabs, and what ends a line.
The lines of a script do not depend on them (`emit_restyled`), and the text is these lines, each indented by
its depth and followed by its ending (`render_restyled`). So style decides about nothing but layout, with one
exception: a style that has no indentation for the deepest line has no text either. A negative size asks for no
indentation at all, yet it can be so far below zero that a text cannot be repeated that often
(`render_outdented`).

## Contents
- `Setting.isStyle` and `Settings.Restyled`; `emit_restyled`.
- `Settings.indentUnit`, `Settings.ending`, `Line.laidOut` and `Script.laidOut`: how lines are laid out.
- `Script.Rendered`, and `render_restyled`.
-/

namespace StaticAccessors

open Outcome Scope

/-! ## Settings of style -/

/-- The settings that are about style. -/
def Setting.isStyle : Setting → Bool
  | indentSize | useTabs | lineEnding => true
  | _ => false

/-- Settings that differ in style only. -/
def Settings.Restyled (s t : Settings) : Prop := ∀ setting : Setting, setting.isStyle = false → t setting = s setting

theorem Settings.Restyled.refl (s : Settings) : s.Restyled s := fun _ _ => rfl

variable {s t : Settings}

namespace Script

/-! ## Lines without style -/

/-- No header depends on style. -/
theorem headerOf_restyled (h : s.Restyled t) (c : Collection) : headerOf t c = headerOf s c := by
  unfold headerOf Collection.directives
  rw [h .classPartial rfl, h .classStatic rfl, h .banner rfl, h .registryNamespace rfl]

theorem registryCall_restyled (h : s.Restyled t) (method : String) :
    Strategy.registryCall t method = Strategy.registryCall s method := by
  unfold Strategy.registryCall
  rw [h .registryAccessor rfl]

/-- No member does. -/
theorem write_restyled (h : s.Restyled t) (style : AccessorStyle) (c : Collection) (depth : Int) :
    (Strategy.builtIn style).write t c depth = (Strategy.builtIn style).write s c depth := by
  cases style with
  | direct =>
    show Strategy.Direct.write t c depth = Strategy.Direct.write s c depth
    unfold Strategy.Direct.write Strategy.Direct.writeCollection
    rw [registryCall_restyled h]
  | tryGet =>
    have collection (depth : Int) :
        Strategy.TryGet.writeCollection t depth c = Strategy.TryGet.writeCollection s depth c := by
      unfold Strategy.TryGet.writeCollection
      rw [registryCall_restyled h, h .collectionBaseType rfl]
    have item : Strategy.TryGet.writeItem t c = Strategy.TryGet.writeItem s c := by
      funext depth item
      unfold Strategy.TryGet.writeItem
      rw [h .itemBaseType rfl]
    show Strategy.TryGet.write t c depth = Strategy.TryGet.write s c depth
    unfold Strategy.TryGet.write
    simp only [collection, item]

/-- **The lines of a script do not depend on style.** -/
theorem emit_restyled (h : s.Restyled t) (style : AccessorStyle) (c : Collection) :
    emit (Strategy.builtIn style) t c = emit (Strategy.builtIn style) s c := by
  have body (depth : Int) :
      emitBody (Strategy.builtIn style) t c depth = emitBody (Strategy.builtIn style) s c depth := by
    unfold emitBody
    rw [write_restyled h]
  unfold emit
  simp only [headerOf_restyled h, body]

end Script

/-! ## Laying out -/

/-- The unit of indentation: a tab, or a number of blanks, which are none if the number is negative. -/
def Settings.indentUnit (s : Settings) : List Char :=
  if (s .useTabs).truthy then ['\t'] else List.replicate ((s .indentSize).whole?.getD 0).toNat ' '

/-- What ends a line. -/
def Settings.ending (s : Settings) : List Char := (s .lineEnding).display.toList

/-- A line with its indentation and its ending; a blank line is its ending alone. -/
def Line.laidOut (unit ending : List Char) (x : Line) : List Char :=
  (if x.text = "" then [] else (List.replicate x.depth unit).flatten ++ x.text.toList) ++ ending

/-- The text that lines make in some style. -/
def Script.laidOut (s : Settings) (lines : List Line) : String :=
  String.ofList (lines.flatMap (Line.laidOut s.indentUnit s.ending))

namespace Layout

variable {l : Layout}

/-- A layout indents by the unit that the settings ask for. -/
theorem ofSettings_unit (h : ofSettings s = .ok l) : List.replicate l.width l.mark = s.indentUnit := by
  unfold ofSettings create at h
  unfold Settings.indentUnit
  split at h
  · rename_i tabs
    rw [← Except.ok.inj h, if_pos tabs]
    rfl
  · rename_i noTabs
    split at h
    · rename_i size whole
      obtain ⟨width, counted, rfl⟩ := map_eq_ok.mp h
      obtain ⟨-, -, rfl⟩ := repeatedLength_one_iff.mp counted
      rw [if_neg noTabs, whole]
      rfl
    · exact absurd h nofun

/-- A line is printed as it is laid out. -/
theorem laidOut_eq_shown (h : ofSettings s = .ok l) (x : Line) :
    x.laidOut s.indentUnit s.ending = l.shown x ++ s.ending := by
  unfold Line.laidOut shown
  rw [← ofSettings_unit h, List.flatten_replicate_replicate, Nat.mul_comm]

/-- **What is printed to its end is the lines laid out.** -/
theorem print_laidOut (h : ofSettings s = .ok l) {ending : String} (ends : s .lineEnding = .text ending)
    {lines : List Line} (complete : (l.print lines).2 = none) : (l.print lines).1 = Script.laidOut s lines := by
  have terminator : l.terminator = .text ending := (ofSettings_terminator h).trans ends
  have last : s.ending = ending.toList := by
    unfold Settings.ending
    rw [ends, Value.display_text]
  have each : Line.laidOut s.indentUnit s.ending = fun x => l.shown x ++ ending.toList := by
    funext x
    rw [laidOut_eq_shown h, last]
  unfold Script.laidOut
  rw [← String.toList_inj, String.toList_ofList, toList_print complete terminator, List.flatMap_map, each]

end Layout

namespace Script

/-! ## Rendering -/

/-- **How a script is rendered** in the style of some settings, if its lines, or why there are none, are known
without that style. -/
structure Rendered (t : Settings) (c : Collection) (script : Except Fault (List Line)) : Prop where
  /-- if there is an indentation for the deepest line, its lines are laid out -/
  laid : Layout.Indents t (deepest c.style c) → (render .builtin t c).1 = script.map (laidOut t)
  /-- if there is none, nothing is rendered, for want of room or for what is wrong in any style -/
  crowded : ¬Layout.Indents t (deepest c.style c) →
    ∃ fault, (render .builtin t c).1 = .error fault ∧ (Layout.Excess fault ∨ script = .error fault)

/-- The lines of a script whose identifiers are distinct, or why there are none. -/
def scriptLines (s : Settings) (c : Collection) : Except Fault (List Line) :=
  (emit (Strategy.builtIn c.style) s c).outcome.map fun () => (emit (Strategy.builtIn c.style) s c).lines

variable {c : Collection}

/-- With a plan, all lines are rendered if there is room. -/
theorem rendered_of_plan (typed : t.WellTyped) (distinct : Strategy.checkIdentifiers c = .ok ())
    (p : Plan t c) : Rendered t c (scriptLines t c) := by
  obtain ⟨className, classNamed, named, items, -⟩ := Strategy.checkIdentifiers_eq_ok_iff.mp distinct
  obtain ⟨banner, directives⟩ := (nonempty_plan_iff classNamed).mp ⟨p⟩
  have complete : (emit (Strategy.builtIn c.style) t c).outcome = .ok () := by
    rw [emit_plan _ p, emitBody_named c.style t items]
  have rendered := render_of_checked (s := t) (Registry.lookup_builtin c.style) distinct
  constructor
  · intro indents
    have printed := (print_eq_ok_iff distinct).mpr
      (⟨indents, typed .lineEnding, banner, directives⟩ : Writable c.style t c)
    obtain ⟨l, layout, -, text⟩ := exists_layout_of_print printed
    obtain ⟨ending, ends⟩ := @Settings.WellTyped.text t typed .lineEnding rfl
    have laid := Layout.print_laidOut layout ends (congrArg Prod.snd text)
    rw [text] at laid
    unfold scriptLines
    rw [rendered, printed, complete]
    exact congrArg Except.ok laid
  · intro shallow
    have crowded : ¬Room (Strategy.builtIn c.style) t c := by
      intro room
      have printed := (print_of_room typed room).trans complete
      exact shallow ((print_eq_ok_iff distinct).mp printed).indents
    obtain ⟨fault, ended, excess⟩ := print_of_crowded typed crowded
    refine ⟨fault, ?_, .inl excess⟩
    rw [rendered, ended]
    rfl

/-- Without one, none is rendered. -/
theorem rendered_of_unplanned (typed : t.WellTyped) (distinct : Strategy.checkIdentifiers c = .ok ())
    (none_ : ¬Nonempty (Plan t c)) : Rendered t c (scriptLines t c) := by
  have nothing : emit (Strategy.builtIn c.style) t c = ⟨[], .error .wrongType⟩ := emit_unplanned _ none_
  have lines : scriptLines t c = .error .wrongType := by
    unfold scriptLines
    rw [nothing]
    rfl
  rw [lines]
  obtain ⟨positive, shallow⟩ := deepest_bounds c.style c
  have rendered := render_of_checked (s := t) (Registry.lookup_builtin c.style) distinct
  unfold print at rendered
  rw [nothing] at rendered
  constructor
  · intro indents
    obtain ⟨l, layout, -⟩ := (Layout.exists_ofSettings_iff positive shallow).mpr indents
    rw [rendered, layout]
    rfl
  · intro _
    rw [rendered]
    cases layout : Layout.ofSettings t with
    | error fault => exact ⟨fault, rfl, .inl (Layout.ofSettings_excess (typed .indentSize) layout)⟩
    | ok l => exact ⟨.wrongType, rfl, .inr rfl⟩

/-- **Style affects nothing but layout.** Settings that differ in style only share one list of lines, and each
of them lays it out in its own style. So of two styles with room, both render or neither does. -/
theorem render_restyled (s : Settings) (c : Collection) :
    (∃ script : Except Fault (List Line), ∀ t, t.WellTyped → s.Restyled t → Rendered t c script) ∧
    ∀ t, s.WellTyped → t.WellTyped → s.Restyled t →
      Layout.Indents s (deepest c.style c) → Layout.Indents t (deepest c.style c) →
      ((∃ text, (render .builtin s c).1 = .ok text) ↔ ∃ text, (render .builtin t c).1 = .ok text) := by
  have shared : ∃ script : Except Fault (List Line),
      ∀ t, t.WellTyped → s.Restyled t → Rendered t c script := by
    cases distinct : Strategy.checkIdentifiers c with
    | error fault =>
      -- The identifiers are checked before any setting is looked at.
      refine ⟨.error fault, fun t _ _ => ?_⟩
      have rendered := render_of_unchecked (s := t) (Registry.lookup_builtin c.style) distinct
      exact ⟨fun _ => rendered, fun _ => ⟨fault, rendered, .inr rfl⟩⟩
    | ok _ =>
      refine ⟨scriptLines s c, fun t typed restyled => ?_⟩
      have lines : scriptLines s c = scriptLines t c := by
        unfold scriptLines
        rw [emit_restyled restyled]
      rw [lines]
      rcases Classical.em (Nonempty (Plan t c)) with ⟨⟨p⟩⟩ | none_
      · exact rendered_of_plan typed distinct p
      · exact rendered_of_unplanned typed distinct none_
  refine ⟨shared, fun t typed restyledTyped restyled room otherRoom => ?_⟩
  obtain ⟨script, rendered⟩ := shared
  rw [(rendered s typed (.refl s)).laid room, (rendered t restyledTyped restyled).laid otherRoom]
  cases script with
  | error fault => exact ⟨fun ⟨_, none_⟩ => absurd none_ nofun, fun ⟨_, none_⟩ => absurd none_ nofun⟩
  | ok lines => exact ⟨fun _ => ⟨_, rfl⟩, fun _ => ⟨_, rfl⟩⟩

/-! ## The small collection in other styles -/

/-- Settings that indent by tabs and end lines in the other way. -/
def tabbed : Settings where
  value
    | .useTabs => .bool true
    | .lineEnding => .text "\r\n"
    | setting => setting.default
  custom := .given (.object [])

/-- Settings with a size of the indentation that is far below zero. -/
def outdented : Settings where
  value
    | .indentSize => .int (-1000000000000000000000000000000)
    | setting => setting.default
  custom := .given (.object [])

theorem tabbed_wellTyped : tabbed.WellTyped := by
  intro setting
  cases setting <;> rfl

theorem outdented_wellTyped : outdented.WellTyped := by
  intro setting
  cases setting <;> rfl

/-- By default there is room for the small collection. -/
theorem indents_fruits : Layout.Indents .defaults (deepest .direct .fruits) :=
  .inr ⟨4, rfl, by decide, by decide⟩

/-- The small collection has the same lines by default and with tabs. -/
theorem render_restyled_fruits : ∃ script : Except Fault (List Line),
    (render .builtin .defaults .fruits).1 = script.map (laidOut .defaults) ∧
    (render .builtin tabbed .fruits).1 = script.map (laidOut tabbed) := by
  have restyled : Settings.defaults.Restyled tabbed := by
    intro setting other
    cases setting <;> first | rfl | exact absurd other nofun
  obtain ⟨script, rendered⟩ := (render_restyled .defaults .fruits).1
  exact ⟨script, (rendered _ Settings.defaults_wellTyped (.refl _)).laid indents_fruits,
    (rendered _ tabbed_wellTyped restyled).laid (.inl rfl)⟩

/-- **A size so far below zero renders nothing**, though it differs from the default in style only. -/
theorem render_outdented : outdented.WellTyped ∧ Settings.defaults.Restyled outdented ∧
    (∃ text, (render .builtin .defaults .fruits).1 = .ok text) ∧
    (render .builtin outdented .fruits).1 = .error .tooLarge := by
  have restyled : Settings.defaults.Restyled outdented := by
    intro setting other
    cases setting <;> first | rfl | exact absurd other nofun
  refine ⟨outdented_wellTyped, restyled, ?_, ?_⟩
  · have writable : Writable .direct .defaults .fruits :=
      writable_of_indentSize Collection.fruits_wellTyped Settings.defaults_wellTyped rfl
    have printed := (print_eq_ok_iff Collection.checkIdentifiers_fruits).mpr writable
    rw [render_of_checked (Registry.lookup_builtin .direct) Collection.checkIdentifiers_fruits, printed]
    exact ⟨_, rfl⟩
  · have layout : Layout.ofSettings outdented = .error .tooLarge := rfl
    rw [render_of_checked (Registry.lookup_builtin .direct) Collection.checkIdentifiers_fruits]
    unfold print
    rw [layout]
    rfl

end Script

end StaticAccessors
