import StaticAccessors.Proofs.Template.Rendering
import StaticAccessors.Proofs.Text.Lines
import StaticAccessors.Proofs.Value.Display
import StaticAccessors.Template.EmptyScript

/-!
# Line ends of rendered templates

An engine writes the line feeds of the text of a template as line ends of its own, and inserts values as they
are. If no value has a line end in it, all line feeds in what is rendered come from the text of the template.
So what an engine with other line ends renders is what one with line feeds renders, with its line feeds
exchanged, and the two fail together (`Engine.render_written`).

The tree of a template has constants of its own besides the values of its context. They are words for truth
values and for nothing, so they have no line ends either: `Node.Unbroken` says this of a tree, and it is kept
by each piece that is added to a tree (`unbroken_build`).

The line ends in the text of a template do not matter at all, since they are unified before anything is cut
(`Node.ofText_rebroken`).

## Contents
- `Term.Unbroken`, `Node.Unbroken`, `Part.Unbroken`; `Node.unbroken_ofText`.
- `Meaning.Unbroken`, `Scope.Unbroken`: what names stand for, in a loop as well.
- `renderNode_written`, `renderNodes_written`.
- `Engine.render_written`, and `Engine.render_lineEnds`.
-/

namespace StaticAccessors.Template

open Outcome Text

/-! ## Trees without line ends in their constants -/

/-- The constants of a term have no line ends. What is negated shows as a truth value. -/
inductive Term.Unbroken : Term → Prop
  | name (n : String) : Unbroken (.name n)
  | constant {v : Value} : v.Unbroken → Unbroken (.constant v)
  | negation (t : Term) : Unbroken (.negation t)

/-- Nor do those of a node. -/
inductive Node.Unbroken : Node → Prop
  | text (cs : List Char) : Unbroken (.text cs)
  | slot {t : Term} : t.Unbroken → Unbroken (.slot t)
  | branch {condition : Term} {body : List Node} : (∀ n ∈ body, Unbroken n) → Unbroken (.branch condition body)
  | loop {item : String} {source : Term} {body : List Node} : source.Unbroken → (∀ n ∈ body, Unbroken n) →
      Unbroken (.loop item source body)

/-- The head of a block that makes such a node of such a body. -/
def Block.Unbroken : Block → Prop
  | branch _ => True
  | loop _ source => source.Unbroken

/-- A part that contributes such nodes. -/
def Part.Unbroken : Part → Prop
  | node n => n.Unbroken
  | opens block => block.Unbroken
  | closes _ _ | unknown _ | defective _ => True

/-- An open block with such nodes before it. -/
structure Frame.Unbroken (frame : Frame) : Prop where
  block : frame.block.Unbroken
  before : ∀ n ∈ frame.before, n.Unbroken

theorem Block.Unbroken.node {block : Block} (h : block.Unbroken) {body : List Node}
    (inside : ∀ n ∈ body, n.Unbroken) : (block.node body).Unbroken := by
  cases block with
  | branch condition => exact .branch inside
  | loop item source => exact .loop h inside

/-! ## Reading -/

/-- A word is a name, or a constant that is shown in one word. -/
theorem Term.unbroken_ofWord (word : String) : (Term.ofWord word).Unbroken := by
  unfold Term.ofWord
  split
  · rename_i v found
    refine .constant (.scalar ?_)
    have scalars : ∀ entry ∈ constants, entry.2.elements? = none := by
      unfold constants
      simp [Value.elements?]
    exact scalars _ (Table.mem_of_get? found)
  · exact .name word

theorem Term.unbroken_read {closing : Closing} {missing : Defect} {words rest : List String} {t : Term}
    (h : Term.read closing missing words = .ok (t, rest)) : t.Unbroken := by
  cases words with
  | nil => exact absurd h nofun
  | cons word words =>
    unfold Term.read at h
    obtain ⟨-, -, h⟩ := bind_eq_ok.mp h
    split at h
    · obtain ⟨⟨inner, more⟩, -, h⟩ := bind_eq_ok.mp h
      obtain ⟨rfl, -⟩ := Prod.mk.inj (Except.ok.inj h)
      exact .negation inner
    · obtain ⟨rfl, -⟩ := Prod.mk.inj (Except.ok.inj h)
      exact unbroken_ofWord word

theorem Part.unbroken_ofSlot {closing : Closing} {words : List String} {p : Part}
    (h : Part.ofSlot closing words = .ok p) : p.Unbroken := by
  obtain ⟨⟨t, rest⟩, read, h⟩ := bind_eq_ok.mp h
  obtain ⟨-, -, h⟩ := bind_eq_ok.mp h
  obtain rfl := Except.ok.inj h
  exact .slot (Term.unbroken_read read)

theorem Part.unbroken_ofBranch {closing : Closing} {words : List String} {p : Part}
    (h : Part.ofBranch closing words = .ok p) : p.Unbroken := by
  obtain ⟨⟨t, rest⟩, -, h⟩ := bind_eq_ok.mp h
  obtain ⟨-, -, h⟩ := bind_eq_ok.mp h
  obtain rfl := Except.ok.inj h
  trivial

theorem Part.unbroken_ofLoop {closing : Closing} {words : List String} {p : Part}
    (h : Part.ofLoop closing words = .ok p) : p.Unbroken := by
  cases words with
  | nil => exact absurd h nofun
  | cons item rest =>
    unfold Part.ofLoop at h
    obtain ⟨-, -, h⟩ := bind_eq_ok.mp h
    obtain ⟨-, -, h⟩ := bind_eq_ok.mp h
    dsimp only at h
    split at h
    · exact absurd h nofun
    cases rest with
    | nil => exact absurd h nofun
    | cons word rest =>
      dsimp only at h
      split at h
      · exact absurd h nofun
      obtain ⟨⟨source, more⟩, read, h⟩ := bind_eq_ok.mp h
      obtain ⟨-, -, h⟩ := bind_eq_ok.mp h
      obtain rfl := Except.ok.inj h
      exact (Term.unbroken_read read : source.Unbroken)

theorem Part.unbroken_ofTag {closing : Closing} {words : List String} {p : Part}
    (h : Part.ofTag closing words = .ok p) : p.Unbroken := by
  cases words with
  | nil => exact absurd h nofun
  | cons name rest =>
    unfold Part.ofTag at h
    obtain ⟨-, -, h⟩ := bind_eq_ok.mp h
    split at h
    · exact unbroken_ofBranch h
    split at h
    · exact unbroken_ofLoop h
    -- What closes a block, and an unknown tag, contribute no node.
    split at h
    · obtain rfl := Except.ok.inj h
      trivial
    split at h
    · obtain rfl := Except.ok.inj h
      trivial
    · obtain rfl := Except.ok.inj h
      trivial

theorem Part.unbroken_ofRead {outcome : Except Defect Part} (h : ∀ p, outcome = .ok p → p.Unbroken) :
    (Part.ofRead outcome).Unbroken := by
  cases outcome with
  | error defect => trivial
  | ok p => exact h p rfl

/-- **Every piece of a template contributes such a part.** -/
theorem Part.unbroken_ofPiece (piece : Piece) : (Part.ofPiece piece).Unbroken := by
  cases piece with
  | text cs => exact .text cs
  | slot inside closing => exact unbroken_ofRead fun _ => unbroken_ofSlot
  | tag inside closing => exact unbroken_ofRead fun _ => unbroken_ofTag

/-- **Such parts build such a tree.** -/
theorem unbroken_build {parts : List Part} (each : ∀ p ∈ parts, p.Unbroken) {frames : List Frame}
    (around : ∀ frame ∈ frames, frame.Unbroken) {nodes tree : List Node} (before : ∀ n ∈ nodes, n.Unbroken)
    (h : build frames nodes parts = .ok tree) : ∀ n ∈ tree, n.Unbroken := by
  induction parts generalizing frames nodes with
  | nil =>
    unfold build at h
    split at h
    · obtain rfl := Except.ok.inj h
      exact fun n listed => before n (List.mem_reverse.mp listed)
    · exact absurd h nofun
  | cons p rest ih =>
    rw [List.forall_mem_cons] at each
    cases p with
    | node n => exact ih each.2 around (List.forall_mem_cons.mpr ⟨each.1, before⟩) h
    | opens block =>
      have opened : Frame.Unbroken ⟨block, nodes⟩ := ⟨each.1, before⟩
      exact ih each.2 (List.forall_mem_cons.mpr ⟨opened, around⟩)
        (fun _ listed => absurd listed List.not_mem_nil) h
    | unknown name => exact absurd h nofun
    | defective defect => exact absurd h nofun
    | closes kind defect =>
      unfold build at h
      split at h
      · exact absurd h nofun
      rename_i frame outer
      rw [List.forall_mem_cons] at around
      split at h
      · exact absurd h nofun
      split at h
      · exact absurd h nofun
      -- The block that is closed becomes a node behind those before it.
      have closed := around.1.block.node fun n listed => before n (List.mem_reverse.mp listed)
      exact ih each.2 around.2 (List.forall_mem_cons.mpr ⟨closed, around.1.before⟩) h

theorem Node.unbroken_ofText {s : String} {tree : List Node} (h : Node.ofText s = .ok tree) :
    ∀ n ∈ tree, n.Unbroken := by
  obtain ⟨nodes, built, h⟩ := bind_eq_ok.mp h
  have unbroken := unbroken_build (fun p listed => by
    obtain ⟨piece, -, rfl⟩ := List.mem_map.mp listed
    exact Part.unbroken_ofPiece piece) (fun _ listed => absurd listed List.not_mem_nil)
    (fun _ listed => absurd listed List.not_mem_nil) built
  split at h
  · exact absurd h nofun
  · obtain rfl := Except.ok.inj h
    exact unbroken

/-! ## What names stand for -/

/-- A value without line ends, or anything that is no value. -/
def Meaning.Unbroken : Meaning → Prop
  | value v => v.Unbroken
  | facility _ | template _ | turn _ _ => True

/-- What names stand for has no line ends. -/
def Scope.Unbroken (scope : Scope) : Prop := ∀ entry ∈ scope, entry.2.Unbroken

theorem Meaning.Unbroken.singleLine_text {m : Meaning} (h : m.Unbroken) : SingleLine m.text := by
  cases m with
  | value v => exact Value.Unbroken.singleLine_display h
  | facility f => cases f <;> decide
  | template name =>
    exact singleLine_append.mpr ⟨singleLine_append.mpr ⟨by decide, singleLine_quote name⟩, by decide⟩
  | turn index total =>
    unfold text
    simp only [singleLine_append]
    exact ⟨⟨⟨⟨by decide, Value.singleLine_nat index⟩, by decide⟩, Value.singleLine_nat total⟩, by decide⟩

theorem Meaning.Unbroken.elements {m : Meaning} (h : m.Unbroken) {elements : List Value}
    (visited : m.elements = .ok elements) : ∀ e ∈ elements, e.Unbroken := by
  cases m with
  | value v =>
    unfold Meaning.elements at visited
    dsimp only at visited
    split at visited
    · rename_i found
      obtain rfl := Except.ok.inj visited
      exact Value.Unbroken.elements h found
    · exact absurd visited nofun
  | facility f => exact absurd visited nofun
  | template name => exact absurd visited nofun
  | turn index total =>
    obtain rfl := Except.ok.inj visited
    exact fun _ listed => absurd listed List.not_mem_nil

namespace Scope

variable {scope : Scope}

theorem Unbroken.put (h : scope.Unbroken) {name : String} {m : Meaning} (plain : m.Unbroken) :
    Scope.Unbroken (Table.put scope name m) := by
  intro entry listed
  rcases Table.mem_put listed with ⟨-, rfl⟩ | listed
  · exact plain
  · exact h entry listed

/-- The scope of a turn of a loop is one, too. -/
theorem Unbroken.inTurn (h : scope.Unbroken) (item : String) (index total : Nat) {element : Value}
    (plain : element.Unbroken) : (scope.inTurn item index total element).Unbroken :=
  (h.put (m := .turn index total) trivial).put (m := .value element) plain

theorem Unbroken.meaning (h : scope.Unbroken) {t : Term} (plain : t.Unbroken) {m : Meaning}
    (stands : scope.meaning? t = some m) : m.Unbroken := by
  cases plain with
  | name n =>
    unfold meaning? find? at stands
    rcases Option.or_eq_some_iff.mp stands with given | ⟨-, offered⟩
    · exact h _ (Table.mem_of_get? given)
    · obtain ⟨f, -, rfl⟩ := Option.map_eq_some_iff.mp offered
      trivial
  | constant plain =>
    obtain rfl := Option.some.inj stands
    exact plain
  | negation t =>
    obtain rfl := Option.some.inj stands
    exact .scalar rfl

/-- What a loop visits are such values. -/
theorem Unbroken.visited (h : scope.Unbroken) {source : Term} (plain : source.Unbroken) {elements : List Value}
    (visited : ((scope.meaning? source).map Meaning.elements).getD (.ok []) = .ok elements) :
    ∀ e ∈ elements, e.Unbroken := by
  cases stands : scope.meaning? source with
  | none =>
    rw [stands] at visited
    obtain rfl := Except.ok.inj visited
    exact fun _ listed => absurd listed List.not_mem_nil
  | some m =>
    rw [stands] at visited
    exact (h.meaning plain stands).elements visited

end Scope

/-! ## Rendering -/

section

variable (newline : Newline)

/-- What is shown in a slot is one line. -/
theorem singleLine_slot {scope : Scope} (h : scope.Unbroken) {t : Term} (plain : t.Unbroken) :
    SingleLine (((scope.meaning? t).map Meaning.text).getD "") := by
  cases stands : scope.meaning? t with
  | none => decide
  | some m => exact (h.meaning plain stands).singleLine_text

/-- Nodes in turn are written as each of them is. -/
theorem renderNodes_of_each {nodes : List Node} {scope : Scope}
    (each : ∀ n ∈ nodes, renderNode newline scope n = (renderNode .lf scope n).map newline.apply) :
    renderNodes newline scope nodes = (renderNodes .lf scope nodes).map newline.apply := by
  induction nodes with
  | nil =>
    rw [renderNodes_nil, renderNodes_nil]
    rfl
  | cons n rest ih =>
    rw [List.forall_mem_cons] at each
    rw [renderNodes_cons, renderNodes_cons, each.1, ih each.2]
    cases renderNode .lf scope n with
    | error problem => rfl
    | ok first =>
      cases renderNodes .lf scope rest with
      | error problem => rfl
      | ok more => exact congrArg Except.ok (newline.apply_append first more).symm

/-- **A node is written in another line end** as it is in line feeds, with its line feeds exchanged. -/
theorem renderNode_written {n : Node} (plain : n.Unbroken) :
    ∀ {scope : Scope}, scope.Unbroken → renderNode newline scope n = (renderNode .lf scope n).map newline.apply := by
  induction plain with
  | text cs =>
    intro scope _
    rw [renderNode_text, renderNode_text, Newline.apply_lf]
    rfl
  | slot plain =>
    intro scope h
    rw [renderNode_slot, renderNode_slot]
    exact congrArg Except.ok (newline.apply_of_not_mem (singleLine_slot h plain)).symm
  | branch _ ih =>
    intro scope h
    rw [renderNode_branch, renderNode_branch]
    split
    · exact renderNodes_of_each newline fun n listed => ih n listed h
    · rfl
  | @loop item source body plain _ ih =>
    intro scope h
    cases visited : ((scope.meaning? source).map Meaning.elements).getD (.ok []) with
    | error problem =>
      rw [renderNode_loop_error visited, renderNode_loop_error visited]
      rfl
    | ok elements =>
      -- Each turn is written in a scope of its own.
      have unbroken := h.visited plain visited
      have turns : (elements.zipIdx.mapM fun turn =>
            renderNodes newline (scope.inTurn item (turn.2 + 1) elements.length turn.1) body) =
          (elements.zipIdx.mapM fun turn =>
            renderNodes .lf (scope.inTurn item (turn.2 + 1) elements.length turn.1) body).map
              (List.map newline.apply) :=
        mapM_map fun turn listed => renderNodes_of_each newline fun node inside =>
          ih node inside (h.inTurn item (turn.2 + 1) elements.length
            (unbroken turn.1 (List.fst_mem_of_mem_zipIdx listed)))
      rw [renderNode_loop visited, renderNode_loop visited, turns]
      cases elements.zipIdx.mapM fun turn =>
          renderNodes .lf (scope.inTurn item (turn.2 + 1) elements.length turn.1) body with
      | error problem => rfl
      | ok texts => exact congrArg Except.ok (newline.apply_flatten texts).symm

end

namespace Engine

/-- The context that a template is rendered in has no line ends. -/
theorem unbroken_scopeOf {context : Fields} (h : ∀ f ∈ context, f.2.Unbroken) (name : String) (nodes : List Node) :
    (scopeOf name nodes context).Unbroken := by
  intro entry listed
  rcases mem_scopeOf listed with own | ⟨f, here, given⟩
  · rw [own]
    trivial
  · rw [given]
    exact h f here

/-- **Line ends are written as they are asked for.** -/
theorem render_written (newline : Newline) (templates : Table String String) (name : String) {context : Fields}
    (h : ∀ f ∈ context, f.2.Unbroken) :
    (Engine.mk newline templates).render name context =
      ((Engine.mk .lf templates).render name context).map newline.applyText := by
  unfold render render?
  dsimp only
  cases templates.get? name with
  | none => rfl
  | some content =>
    dsimp only
    cases read : Node.ofText content with
    | error defect => rfl
    | ok nodes =>
      dsimp only
      split
      · rfl
      · have plain := Node.unbroken_ofText read
        have scope := unbroken_scopeOf h name nodes
        rw [renderNodes_of_each newline fun n listed => renderNode_written newline (plain n listed) scope]
        cases renderNodes .lf (scopeOf name nodes context) nodes with
        | error problem => rfl
        | ok text =>
          unfold Newline.applyText
          show Except.ok _ = Except.ok (String.ofList (newline.apply (String.ofList text).toList))
          rw [String.toList_ofList]

/-- The line ends in the text of a template do not matter. -/
theorem render_rebroken (e : Engine) (name : String) (context : Fields) {s t : String}
    (h : Rebroken s.toList t.toList) : (e.add name s).render name context = (e.add name t).render name context := by
  have same : Node.ofText s = Node.ofText t := by
    unfold Node.ofText Piece.ofText
    rw [h.unifyLines_eq]
  unfold render render? add
  dsimp only
  rw [Table.get?_put_text, Table.get?_put_text]
  dsimp only
  rw [same]

/-- What fails is the template that was asked for. -/
theorem render_error {e : Engine} {name : String} {context : Fields} {fault : Fault}
    (h : e.render name context = .error fault) : ∃ problem, fault = .template ⟨name, problem⟩ := by
  unfold render at h
  cases rendered : e.render? name context with
  | error problem =>
    rw [rendered] at h
    exact ⟨problem, (Except.error.inj h).symm⟩
  | ok text =>
    rw [rendered] at h
    exact absurd h nofun

/-- **Rendering and line ends.** If no value of the context has a line end in it, each engine renders what the
one with line feeds does, with its own line ends for the line feeds, and fails where that fails, always with a
fault of the template. And which line ends stand in the text of a template changes nothing, for any context. -/
theorem render_lineEnds (name : String) (context : Fields) :
    ((∀ f ∈ context, f.2.Unbroken) → ∀ (newline : Newline) (templates : Table String String),
      (Engine.mk newline templates).render name context =
        ((Engine.mk .lf templates).render name context).map newline.applyText) ∧
    (∀ (e : Engine) (fault : Fault), e.render name context = .error fault →
      ∃ problem, fault = .template ⟨name, problem⟩) ∧
    ∀ (e : Engine) (s t : String), Rebroken s.toList t.toList →
      (e.add name s).render name context = (e.add name t).render name context :=
  ⟨fun unbroken newline templates => render_written newline templates name unbroken,
    fun _ _ => render_error, fun e _ _ => e.render_rebroken name context⟩

/-- A template with a tag at the end of a line, and a slot in the middle of one, with some line end. -/
def classTemplate (lineEnd : String) : String :=
  tagText "if name" ++ lineEnd ++ "public class " ++ slotOf "name" ++ lineEnd ++ tagText "endif" ++ lineEnd

/-- Such a template is rendered in carriage returns with line feeds, whichever line ends it is written in. -/
theorem render_lineEnds_pear :
    Rebroken (classTemplate "\r").toList (classTemplate "\n").toList ∧
    ((Engine.mk .crlf []).add "class" (classTemplate "\r")).render "class" [("name", .text "Pear")] =
      .ok "public class Pear\r\n" := by
  have pear : ∀ f ∈ [("name", Value.text "Pear")], f.2.Unbroken :=
    List.forall_mem_singleton.mpr (.text (by decide))
  have rebroken : Rebroken (classTemplate "\r").toList (classTemplate "\n").toList :=
    rebroken_iff.mpr (by decide +kernel)
  have plain : (((Engine.mk .lf []).add "class" (classTemplate "\n")).render "class"
      [("name", .text "Pear")]).toOption = some "public class Pear\n" := by decide +kernel
  obtain ⟨written, -, exchanged⟩ := render_lineEnds "class" [("name", .text "Pear")]
  refine ⟨rebroken, ?_⟩
  rw [exchanged _ _ _ rebroken]
  refine (written pear .crlf [("class", classTemplate "\n")]).trans ?_
  cases rendered : (Engine.mk .lf [("class", classTemplate "\n")]).render "class" [("name", .text "Pear")] with
  | error fault => exact absurd (rendered ▸ plain) nofun
  | ok text =>
    obtain rfl := Option.some.inj (rendered ▸ plain)
    exact congrArg Except.ok (by decide +kernel)

end Engine

end StaticAccessors.Template
