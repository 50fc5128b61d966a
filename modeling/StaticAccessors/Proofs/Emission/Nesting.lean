import StaticAccessors.Proofs.Emission.Lines

/-!
# Nesting

Lines are nested from a depth on if none of them stands above that depth and their braces come in
pairs: each closing brace stands at the depth of the brace it closes, and what lies between the two
is nested from one level deeper on. This is what makes the text of a script well formed, and it is the
form in which the depth that is threaded through an emission can be observed.

`Nested` is the grammar of such lines. It is closed under all the ways in which an emission is put
together: one piece after another, lines without braces, and a block or a scope around a nested inside.
-/

namespace StaticAccessors

/-- Lines at some depth or deeper whose braces come in pairs at one depth, with all that lies between
a pair at least one level deeper. -/
inductive Nested : Nat → List Line → Prop
  | nil {depth} : Nested depth []
  | line {depth l rest} : depth ≤ l.depth → l.isBrace = false → Nested depth rest →
      Nested depth (l :: rest)
  | pair {depth at_ inside rest} : depth ≤ at_ → Nested (at_ + 1) inside → Nested depth rest →
      Nested depth (.opening at_ :: inside ++ .closing at_ :: rest)

namespace Nested

variable {depth : Nat} {xs ys : List Line}

/-- One nested run of lines after another is nested. -/
theorem append (hx : Nested depth xs) (hy : Nested depth ys) : Nested depth (xs ++ ys) := by
  induction hx with
  | nil => exact hy
  | line hd hb _ ih => exact .line hd hb (ih hy)
  | @pair depth at_ inside rest hd hin _ _ ih =>
    have whole := Nested.pair hd hin (ih hy)
    rwa [← List.cons_append, ← List.append_assoc] at whole

/-- No line of a nested run stands above its depth. -/
theorem le_depth (h : Nested depth xs) : ∀ l ∈ xs, depth ≤ l.depth := by
  induction h with
  | nil => intro l hl; exact absurd hl (by simp)
  | line hd _ _ ih =>
    intro l hl
    rcases List.mem_cons.mp hl with rfl | hl
    · exact hd
    · exact ih l hl
  | @pair depth at_ inside rest hd _ _ ihin ih =>
    intro l hl
    rcases List.mem_cons.mp hl with rfl | hl
    · exact hd
    · rcases List.mem_append.mp hl with hl | hl
      · have := ihin l hl
        omega
      · rcases List.mem_cons.mp hl with rfl | hl
        · exact hd
        · exact ih l hl

/-- Lines without braces are nested from the least of their depths on. -/
theorem of_plain (h : ∀ l ∈ xs, depth ≤ l.depth ∧ l.isBrace = false) : Nested depth xs := by
  induction xs with
  | nil => exact .nil
  | cons l rest ih =>
    obtain ⟨hd, hb⟩ := h l (by simp)
    exact .line hd hb (ih fun m hm => h m (List.mem_cons_of_mem l hm))

/-- Braces around a nested inside are nested. -/
theorem braces {inside : List Line} (hin : Nested (depth + 1) inside) :
    Nested depth (.opening depth :: inside ++ [.closing depth]) :=
  .pair (Nat.le_refl depth) hin .nil

/-- **A block around a nested inside is nested**. -/
theorem block {header : String} {inside : List Line} (hh : IsCode header)
    (hin : Nested (depth + 1) inside) : Nested depth (StaticAccessors.block depth header inside) :=
  .line (Nat.le_refl depth) (hh.isBrace depth) (braces hin)

end Nested

/-! ## Scopes -/

namespace Scope

theorem isCode_classDeclaration (typeName : String) (isPartial isStatic : Bool) :
    IsCode (classDeclaration typeName isPartial isStatic) :=
  .append_left (.append_left (.append_left (.append_left (by unfold IsCode; decide) _) _) _) _

/-- No line above the class is a brace, if none of the banner is. -/
theorem nested_prologue (depth : Nat) {banner : List Value} (directives : List Value)
    (hb : ∀ v ∈ banner, (Line.mk depth (lineText v)).isBrace = false) :
    Nested depth (prologue depth banner directives) := by
  refine .of_plain ?_
  intro l hl
  have directive : ∀ d : Value, IsCode ("using " ++ d.display ++ ";") := fun d =>
    .append_left (.append_left (by unfold IsCode; decide) _) _
  rcases List.mem_append.mp hl with hl | hl
  · rcases List.mem_append.mp hl with hl | hl
    · obtain ⟨v, hv, rfl⟩ := List.mem_map.mp hl
      exact ⟨Nat.le_refl depth, hb v hv⟩
    · rcases List.mem_cons.mp hl with rfl | hl
      · exact ⟨Nat.le_refl depth, Line.isBrace_blank depth⟩
      · obtain ⟨d, -, rfl⟩ := List.mem_map.mp hl
        exact ⟨Nat.le_refl depth, (directive d).isBrace depth⟩
  · split at hl
    · exact absurd hl (by simp)
    · rw [List.mem_singleton.mp hl]
      exact ⟨Nat.le_refl depth, Line.isBrace_blank depth⟩

/-- **A scope around nested lines is nested**. -/
theorem nested_scope (depth : Nat) (h : Header) {banner : List Value} (directives : List Value)
    (hb : ∀ v ∈ banner, (Line.mk depth (lineText v)).isBrace = false) {inside : List Line}
    (hin : Nested (depth + levels h.namespace_) inside) :
    Nested depth (scopeOpening depth h banner directives ++
      (inside ++ scopeClosing depth h.namespace_)) := by
  have namespace_ : IsCode ("namespace " ++ h.namespace_.display) :=
    .append_left (by unfold IsCode; decide) _
  have class_ := isCode_classDeclaration h.typeName h.isPartial h.isStatic
  have above := nested_prologue depth directives hb
  rw [levels_add] at hin
  have inner := Nested.block class_ hin
  unfold scopeOpening scopeClosing namespaceOpening namespaceClosing
  unfold classDepth at inner ⊢
  -- The class is the only block, or it is the inside of the block of the namespace.
  split at inner
  · rename_i ht
    have whole := above.append (Nested.block namespace_ inner)
    unfold block at whole
    simpa only [if_pos ht, List.append_assoc, List.cons_append, List.nil_append] using whole
  · rename_i hf
    have whole := above.append inner
    unfold block at whole
    simpa only [if_neg hf, List.append_assoc, List.cons_append, List.nil_append] using whole

end Scope

end StaticAccessors
