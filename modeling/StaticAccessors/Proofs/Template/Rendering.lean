import StaticAccessors.Proofs.Outcome
import StaticAccessors.Proofs.Table
import StaticAccessors.Template.Engine

/-!
# Rendering, node by node

What each kind of node comes to, as equations. The renderer is opened here and nowhere else.

## Contents
- `renderNode_text`, `renderNode_slot`, `renderNode_branch`.
- `renderNode_loop_error` and `renderNode_loop`: a loop, by what it visits.
- `renderNodes_nil`, `renderNodes_cons`.
- `Renders`, with a rule for each kind of node and for one run of nodes after another.
- `Engine.mem_scopeOf`: what a context gives names to.
-/

namespace StaticAccessors.Template

open Outcome Text

section

variable {newline : Newline} {scope : Scope}

theorem renderNode_text (cs : List Char) : renderNode newline scope (.text cs) = .ok (newline.apply cs) := by
  unfold renderNode
  rfl

theorem renderNode_slot (t : Term) :
    renderNode newline scope (.slot t) = .ok (((scope.meaning? t).map Meaning.text).getD "").toList := by
  unfold renderNode
  rfl

theorem renderNode_branch (condition : Term) (body : List Node) :
    renderNode newline scope (.branch condition body) =
      if (scope.meaning? condition).any Meaning.holds then renderNodes newline scope body else .ok [] := by
  rw [renderNode]

variable {item : String} {source : Term} {body : List Node}

/-- A loop over what has no elements fails. -/
theorem renderNode_loop_error {problem : TemplateProblem}
    (unvisited : ((scope.meaning? source).map Meaning.elements).getD (.ok []) = .error problem) :
    renderNode newline scope (.loop item source body) = .error problem := by
  unfold renderNode
  rw [unvisited]
  rfl

/-- Other loops render their body once for each element, in a scope of its own. -/
theorem renderNode_loop {elements : List Value}
    (visited : ((scope.meaning? source).map Meaning.elements).getD (.ok []) = .ok elements) :
    renderNode newline scope (.loop item source body) =
      (elements.zipIdx.mapM fun turn =>
        renderNodes newline (scope.inTurn item (turn.2 + 1) elements.length turn.1) body).map List.flatten := by
  unfold renderNode
  rw [visited, ok_bind]
  show (elements.zipIdx.mapM (fun turn =>
    renderNodes newline (scope.inTurn item (turn.2 + 1) elements.length turn.1) body) >>= _) = _
  cases elements.zipIdx.mapM fun turn =>
    renderNodes newline (scope.inTurn item (turn.2 + 1) elements.length turn.1) body <;> rfl

theorem renderNodes_nil : renderNodes newline scope [] = .ok [] := by
  unfold renderNodes
  rfl

theorem renderNodes_cons (n : Node) (rest : List Node) :
    renderNodes newline scope (n :: rest) =
      renderNode newline scope n >>= fun first => (renderNodes newline scope rest).map (first ++ ·) := by
  rw [renderNodes]
  cases renderNode newline scope n with
  | error problem => rfl
  | ok first => cases renderNodes newline scope rest <;> rfl

end

/-- In a turn of a loop its name stands for the element. -/
theorem Scope.find?_inTurn (scope : Scope) (item : String) (index total : Nat) (v : Value) :
    (scope.inTurn item index total v).find? item = some (.value v) := by
  unfold find? inTurn
  rw [Table.get?_put_text]
  rfl

/-! ## Nodes that render -/

/-- Nodes render as this text. -/
def Renders (newline : Newline) (scope : Scope) (nodes : List Node) (shown : List Char) : Prop :=
  renderNodes newline scope nodes = .ok shown

namespace Renders

variable {newline : Newline} {scope : Scope} {rest body : List Node} {more inside : List Char} {name item : String}

theorem nil : Renders newline scope [] [] := renderNodes_nil

theorem of_eq {nodes : List Node} {shown : List Char} (h : Renders newline scope nodes shown) (same : shown = more) :
    Renders newline scope nodes more :=
  same ▸ h

/-- A node before others. -/
theorem cons {node : Node} {first : List Char} (here : renderNode newline scope node = .ok first)
    (later : Renders newline scope rest more) : Renders newline scope (node :: rest) (first ++ more) := by
  unfold Renders at later ⊢
  rw [renderNodes_cons, here, later]
  rfl

theorem text (cs : List Char) (later : Renders newline scope rest more) :
    Renders newline scope (.text cs :: rest) (newline.apply cs ++ more) :=
  cons (renderNode_text cs) later

/-- A value is inserted as it shows. -/
theorem slot {v : Value} (stands : scope.find? name = some (.value v)) (later : Renders newline scope rest more) :
    Renders newline scope (.slot (.name name) :: rest) (v.display.toList ++ more) := by
  refine cons ?_ later
  rw [renderNode_slot, Scope.meaning?, stands]
  rfl

/-- The body of a branch shows if the value of its condition is true. -/
theorem branch {v : Value} (stands : scope.find? name = some (.value v)) (shown : Renders newline scope body inside)
    (later : Renders newline scope rest more) :
    Renders newline scope (.branch (.name name) body :: rest) ((if v.truthy then inside else []) ++ more) := by
  refine cons ?_ later
  rw [renderNode_branch, Scope.meaning?, stands, shown]
  show (if v.truthy then _ else _) = _
  split <;> rfl

/-- The body of a loop shows once for each element of its list. -/
theorem loop {xs : List Value} {turn : Value → List Char} (stands : scope.find? name = some (.value (.list xs)))
    (each : ∀ index total x, Renders newline (scope.inTurn item index total x) body (turn x))
    (later : Renders newline scope rest more) :
    Renders newline scope (.loop item (.name name) body :: rest) (xs.flatMap turn ++ more) := by
  refine cons ?_ later
  have visited : ((scope.meaning? (.name name)).map Meaning.elements).getD (.ok []) = .ok xs := by
    rw [Scope.meaning?, stands]
    rfl
  have turns := mapM_of_forall_ok fun (entry : Value × Nat) (_ : entry ∈ xs.zipIdx) =>
    each (entry.2 + 1) xs.length entry.1
  have texts : (xs.zipIdx.map fun entry => turn entry.1) = xs.map turn := by
    show xs.zipIdx.map (turn ∘ Prod.fst) = _
    rw [← List.map_map, List.zipIdx_map_fst]
  rw [renderNode_loop visited, turns, texts]
  exact congrArg Except.ok List.flatMap_def.symm

/-- One run of nodes after another. -/
theorem append {nodes : List Node} {first : List Char} (here : Renders newline scope nodes first)
    (later : Renders newline scope rest more) : Renders newline scope (nodes ++ rest) (first ++ more) := by
  induction nodes generalizing first with
  | nil =>
    obtain rfl := Except.ok.inj (here.symm.trans nil)
    exact later
  | cons node others ih =>
    unfold Renders at here
    rw [renderNodes_cons] at here
    obtain ⟨shown, rendered, here⟩ := bind_eq_ok.mp here
    obtain ⟨behind, shows, rfl⟩ := map_eq_ok.mp here
    rw [List.append_assoc]
    exact cons rendered (ih shows)

end Renders

/-! ## Scopes of templates -/

/-- A context gives names to its values; besides, a template can have one that calls itself. -/
theorem Engine.mem_scopeOf {name : String} {nodes : List Node} {context : Fields} {entry : String × Meaning}
    (h : entry ∈ scopeOf name nodes context) :
    entry.2 = .template name ∨ ∃ f ∈ context, entry.2 = .value f.2 := by
  have given : ∀ e ∈ context.map (fun f => (f.1, Meaning.value f.2)), ∃ f ∈ context, e.2 = .value f.2 := by
    intro e listed
    obtain ⟨f, here, rfl⟩ := List.mem_map.mp listed
    exact ⟨f, here, rfl⟩
  unfold scopeOf at h
  dsimp only at h
  split at h
  · rcases Table.mem_put h with ⟨-, same⟩ | h
    · exact .inl same
    · exact .inr (given entry h)
  · exact .inr (given entry h)

end StaticAccessors.Template
