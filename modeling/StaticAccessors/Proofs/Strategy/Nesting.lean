import StaticAccessors.Proofs.Emission.Nesting
import StaticAccessors.Proofs.Strategy.Lines

/-!
# The members of a class are nested

Fields are single lines and accessors are blocks, with nested lines inside. So the members of a class are
nested from the depth of its body on, in either style and for any number of items.

## Contents
- `Nested.code`, `Nested.blank`: single lines.
- `nested_fields`, `Direct.nested_getter`, `TryGet.nested_collectionInside`, `TryGet.nested_itemInside`.
- `nested_bodyLines`: all members.
-/

namespace StaticAccessors

/-! ## Single lines -/

namespace Nested

variable {depth at_ : Nat} {text : String} {rest : List Line}

/-- A line of code in front of nested lines. -/
theorem code (le : depth ≤ at_) (ht : IsCode text) (h : Nested depth rest) :
    Nested depth (⟨at_, text⟩ :: rest) :=
  .line le (ht.isBrace at_) h

/-- A blank line in front of nested lines. -/
theorem blank (le : depth ≤ at_) (h : Nested depth rest) : Nested depth (⟨at_, ""⟩ :: rest) :=
  .line le (Line.isBrace_blank at_) h

end Nested

/-! ## Members -/

namespace Strategy

theorem isCode_field (typeName name : String) :
    IsCode ("private static " ++ typeName ++ " " ++ name ++ ";") :=
  .append_left (.append_left (.append_left (.append_left (by unfold IsCode; decide) _) _) _) _

/-- Fields are nested. -/
theorem nested_fields (depth : Nat) (named : List NamedItem) {rest : List Line} (h : Nested depth rest) :
    Nested depth (named.map (itemField depth) ++ rest) := by
  induction named with
  | nil => exact h
  | cons n more ih =>
    rw [List.map_cons]
    exact .code (Nat.le_refl depth) (isCode_field _ _) ih

theorem Direct.nested_getter (depth : Nat) (typeName field lookup : String) :
    Nested depth (getter depth typeName field lookup) := by
  have condition : IsCode ("if (" ++ field ++ " == null)") :=
    .append_left (.append_left (by unfold IsCode; decide) _) _
  have assignment : IsCode (field ++ " = (" ++ typeName ++ ")" ++ lookup ++ ";") :=
    .append_left (.append_left (.append_left (.append_left
      (.append_right field (by unfold IsCode; decide)) _) _) _) _
  have result : IsCode ("return " ++ field ++ ";") :=
    .append_left (.append_left (by unfold IsCode; decide) _) _
  have get : IsCode "get" := by
    unfold IsCode
    decide
  refine .block get ?_
  exact .code (Nat.le_refl _) condition (.code (Nat.le_succ _) assignment
    (.code (Nat.le_refl _) result .nil))

namespace TryGet

/-- The lines of a return are nested. -/
theorem nested_returnLines (depth : Nat) (value : String) (success : Bool) :
    Nested depth (returnLines depth value success) := by
  have result : IsCode ("result = " ++ value ++ ";") :=
    .append_left (.append_left (by unfold IsCode; decide) _) _
  have return_ : IsCode ("return " ++ (if success then "true" else "false") ++ ";") :=
    .append_left (.append_left (by unfold IsCode; decide) _) _
  exact .code (Nat.le_refl depth) result (.code (Nat.le_refl depth) return_ .nil)

theorem nested_guardedLines (depth : Nat) (condition value : String) (success : Bool) :
    Nested depth (guardedLines depth condition value success) := by
  refine .append (.block (isCode_condition condition) ?_) (.blank (Nat.le_refl depth) .nil)
  exact nested_returnLines (depth + 1) value success

theorem nested_collectionInside (depth : Nat) (s : Settings) (c : Collection) :
    Nested depth (collectionInside depth s c) := by
  have assignment : IsCode ("values = (" ++ c.type.name.display ++ ")resultCollection;") :=
    .append_left (.append_left (by unfold IsCode; decide) _) _
  refine .append (nested_guardedLines _ _ _ _) (.append (nested_guardedLines _ _ _ _) ?_)
  exact .code (Nat.le_refl depth) assignment (nested_returnLines _ _ _)

theorem nested_itemInside (depth : Nat) (s : Settings) (c : Collection) (n : NamedItem) :
    Nested depth (itemInside depth s c n) := by
  have assignment : IsCode (n.names.lower ++ " = (" ++ n.item.type.name.display ++ ")resultCollectable;") :=
    .append_left (.append_left (.append_right _ (by unfold IsCode; decide)) _) _
  refine .append (nested_guardedLines _ _ _ _) (.append (nested_guardedLines _ _ _ _)
    (.append (nested_guardedLines _ _ _ _) ?_))
  exact .code (Nat.le_refl depth) assignment (nested_returnLines _ _ _)

end TryGet

/-- The accessor of the collection is nested. -/
theorem nested_collectionLines (style : AccessorStyle) (depth : Nat) (s : Settings) (c : Collection) :
    Nested depth (collectionLines style depth s c) := by
  cases style with
  | direct => exact .block (Direct.isCode_propertyHeader _ _) (Direct.nested_getter _ _ _ _)
  | tryGet => exact .block (TryGet.isCode_methodHeader _ _) (TryGet.nested_collectionInside _ s c)

/-- The accessor of an item is nested. -/
theorem nested_itemLines (style : AccessorStyle) (depth : Nat) (s : Settings) (c : Collection)
    (n : NamedItem) : Nested depth (itemLines style depth s c n) := by
  cases style with
  | direct => exact .block (Direct.isCode_propertyHeader _ _) (Direct.nested_getter _ _ _ _)
  | tryGet => exact .block (TryGet.isCode_methodHeader _ _) (TryGet.nested_itemInside _ s c n)

/-- **The members of a class are nested** from the depth of its body on. -/
theorem nested_bodyLines (style : AccessorStyle) (depth : Nat) (s : Settings) (c : Collection)
    (named : List NamedItem) : Nested depth (bodyLines style depth s c named) := by
  have accessors : ∀ more : List NamedItem,
      Nested depth (more.flatMap fun n => ⟨depth, ""⟩ :: itemLines style depth s c n) := by
    intro more
    induction more with
    | nil => exact .nil
    | cons n rest ih =>
      rw [List.flatMap_cons]
      exact .blank (Nat.le_refl depth) (.append (nested_itemLines style depth s c n) ih)
  have fields : Nested depth (fieldLines depth c named) :=
    .code (Nat.le_refl depth) (isCode_field _ _)
      (nested_fields depth named (.blank (Nat.le_refl depth) .nil))
  exact .append fields (.append (nested_collectionLines style depth s c) (accessors named))

end Strategy

end StaticAccessors
