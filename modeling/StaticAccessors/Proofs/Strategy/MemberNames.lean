import StaticAccessors.Proofs.Strategy.Nesting
import StaticAccessors.Proofs.Strategy.Owners

/-!
# The names of the members

The lines at the depth of a class body that are neither blank nor braces are the declarations of its
members. Once the check of identifiers has passed, the members have names of their own. The check looks
at the identifiers as they are derived, and keeps them apart from the name of the class; but in the
style that reports failure an accessor is named by its identifier with something in front, and the
accessor of the collection has a fixed name, which the class may have as well. The name of the class is
that of a member in exactly these cases (`Clash`).

## Contents
- `Member`, its `declaration`, and the `members` of a class.
- `declarations_bodyLines`: the members are what is declared.
- `nodup_memberNames`, `className_mem_iff`, and `memberNames_of_checked`.
-/

namespace StaticAccessors.Strategy

/-! ## Members -/

/-- What is declared. -/
inductive MemberKind
  | field
  | property
  | method
deriving Repr, DecidableEq

/-- A member of a generated class. -/
structure Member where
  kind : MemberKind
  typeName : String
  name : String
deriving Repr, DecidableEq

/-- The line that declares a member. -/
def Member.declaration (depth : Nat) (m : Member) : Line :=
  match m.kind with
  | .field => fieldLine depth m.typeName m.name
  | .property => ⟨depth, Direct.propertyHeader m.typeName m.name⟩
  | .method => ⟨depth, TryGet.methodHeader m.typeName m.name⟩

/-- The name of the accessor for an identifier. -/
def accessorName : AccessorStyle → String → String
  | .direct, upper => upper
  | .tryGet, upper => "TryGet" ++ upper

/-- The accessor for an identifier. -/
def accessor (style : AccessorStyle) (typeName upper : String) : Member :=
  match style with
  | .direct => ⟨.property, typeName, accessorName .direct upper⟩
  | .tryGet => ⟨.method, typeName, accessorName .tryGet upper⟩

theorem accessor_name (style : AccessorStyle) (typeName upper : String) :
    (accessor style typeName upper).name = accessorName style upper := by
  cases style <;> rfl

/-- The members of a class: a field and an accessor for the collection and for each item. -/
def members (style : AccessorStyle) (c : Collection) (named : List NamedItem) : List Member :=
  ⟨.field, c.type.name.display, "values"⟩ ::
      named.map (fun n => ⟨.field, n.item.type.name.display, n.names.lower⟩) ++
    accessor style c.type.name.display "Values" ::
      named.map (fun n => accessor style n.item.type.name.display n.names.upper)

/-- Their names. -/
def memberNames (style : AccessorStyle) (c : Collection) (named : List NamedItem) : List String :=
  (members style c named).map (·.name)

/-! ## Declarations -/

/-- The lines at a depth that are neither blank nor braces. -/
def declarations (depth : Nat) (lines : List Line) : List Line :=
  lines.filter fun l => l.depth = depth && l.text ≠ "" && !l.isBrace

section

variable {depth : Nat} {xs ys : List Line}

theorem declarations_append : declarations depth (xs ++ ys) = declarations depth xs ++ declarations depth ys :=
  List.filter_append xs ys

/-- A line of code at the depth is a declaration. -/
theorem declarations_code {text : String} (h : IsCode text) :
    declarations depth (⟨depth, text⟩ :: xs) = ⟨depth, text⟩ :: declarations depth xs := by
  unfold declarations
  rw [List.filter_cons_of_pos]
  simp [h.ne_empty, h.isBrace depth]

theorem declarations_blank : declarations depth (⟨depth, ""⟩ :: xs) = declarations depth xs := by
  unfold declarations
  rw [List.filter_cons_of_neg]
  simp

/-- Nothing is declared deeper inside. -/
theorem declarations_deeper (h : Nested (depth + 1) xs) : declarations depth xs = [] := by
  unfold declarations
  rw [List.filter_eq_nil_iff]
  intro l hl
  have deeper := h.le_depth l hl
  simp only [Bool.and_eq_true, decide_eq_true_eq]
  omega

/-- A block declares what its header says. -/
theorem declarations_block {header : String} (h : IsCode header) (hin : Nested (depth + 1) xs) :
    declarations depth (block depth header xs) = [⟨depth, header⟩] := by
  unfold block
  rw [List.cons_append, declarations_code h, List.cons_append]
  have opening : declarations depth (.opening depth :: (xs ++ [.closing depth])) =
      declarations depth (xs ++ [.closing depth]) := by
    unfold declarations
    rw [List.filter_cons_of_neg]
    simp [Line.opening, Line.isBrace]
  have closing : declarations depth [.closing depth] = [] := by
    unfold declarations
    rw [List.filter_cons_of_neg]
    · rfl
    · simp [Line.closing, Line.isBrace]
  rw [opening, declarations_append, declarations_deeper hin, closing]
  rfl

end

/-- The accessor of the collection is one declaration. -/
theorem declarations_collectionLines (style : AccessorStyle) (depth : Nat) (s : Settings) (c : Collection) :
    declarations depth (collectionLines style depth s c) =
      [(accessor style c.type.name.display "Values").declaration depth] := by
  cases style with
  | direct =>
    exact declarations_block (Direct.isCode_propertyHeader _ _) (Direct.nested_getter _ _ _ _)
  | tryGet =>
    exact declarations_block (TryGet.isCode_methodHeader _ _) (TryGet.nested_collectionInside _ s c)

/-- The accessor of an item is one declaration. -/
theorem declarations_itemLines (style : AccessorStyle) (depth : Nat) (s : Settings) (c : Collection)
    (n : NamedItem) :
    declarations depth (itemLines style depth s c n) =
      [(accessor style n.item.type.name.display n.names.upper).declaration depth] := by
  cases style with
  | direct =>
    exact declarations_block (Direct.isCode_propertyHeader _ _) (Direct.nested_getter _ _ _ _)
  | tryGet =>
    exact declarations_block (TryGet.isCode_methodHeader _ _) (TryGet.nested_itemInside _ s c n)

/-- **The members are what is declared** in the body of a class. -/
theorem declarations_bodyLines (style : AccessorStyle) (depth : Nat) (s : Settings) (c : Collection)
    (named : List NamedItem) :
    declarations depth (bodyLines style depth s c named) =
      (members style c named).map (·.declaration depth) := by
  have fields : ∀ more : List NamedItem,
      declarations depth (more.map (itemField depth) ++ [⟨depth, ""⟩]) = more.map (itemField depth) := by
    intro more
    induction more with
    | nil => exact declarations_blank
    | cons n rest ih =>
      rw [List.map_cons, List.cons_append]
      refine (declarations_code (isCode_field _ _)).trans ?_
      rw [ih]
      rfl
  have accessors : ∀ more : List NamedItem,
      declarations depth (more.flatMap fun n => ⟨depth, ""⟩ :: itemLines style depth s c n) =
        more.map fun n => (accessor style n.item.type.name.display n.names.upper).declaration depth := by
    intro more
    induction more with
    | nil => rfl
    | cons n rest ih =>
      rw [List.flatMap_cons, List.cons_append, declarations_blank, declarations_append,
        declarations_itemLines, ih]
      rfl
  have values : declarations depth (fieldLines depth c named) =
      fieldLine depth c.type.name.display "values" :: named.map (itemField depth) := by
    refine (declarations_code (isCode_field _ _)).trans ?_
    show _ :: declarations depth (named.map (itemField depth) ++ [⟨depth, ""⟩]) = _
    rw [fields]
    rfl
  unfold bodyLines members
  rw [declarations_append, declarations_append, values, declarations_collectionLines, accessors,
    List.map_append, List.map_cons, List.map_cons, List.map_map, List.map_map]
  rfl

/-! ## Names of their own -/

/-- When the name of the class is that of one of its members: that of the accessor of the collection,
or in the style that reports failure that of any accessor. -/
def Clash (style : AccessorStyle) (className : String) (named : List NamedItem) : Prop :=
  match style with
  | .direct => className = "Values"
  | .tryGet => className = "TryGetValues" ∨ ∃ n ∈ named, className = "TryGet" ++ n.names.upper

/-- The names are those of the fields and those of the accessors. -/
theorem memberNames_eq (style : AccessorStyle) (c : Collection) (named : List NamedItem) :
    memberNames style c named = "values" :: named.map (·.names.lower) ++
      ("Values" :: named.map (·.names.upper)).map (accessorName style) := by
  unfold memberNames members
  rw [List.map_append, List.map_cons, List.map_cons, List.map_cons, List.map_map, List.map_map,
    List.map_map, accessor_name]
  congr 3
  funext n
  exact accessor_name style _ _

theorem accessorName_injective {style : AccessorStyle} {a b : String}
    (h : accessorName style a = accessorName style b) : a = b := by
  cases style with
  | direct => exact h
  | tryGet => exact String.append_right_inj "TryGet" |>.mp h

section

variable {className : String} {named : List NamedItem}

/-- What is mentioned: the fixed members, the identifiers of accessors and those of fields. -/
theorem mentioned_perm (className : String) (named : List NamedItem) :
    (mentioned className named).Perm
      (reserved className ++ (named.map (·.names.upper) ++ named.map (·.names.lower))) := by
  refine .append_left (reserved className) ?_
  induction named with
  | nil => exact .refl _
  | cons n rest ih =>
    refine .cons _ (.trans (.cons _ ih) ?_)
    exact List.perm_middle.symm

/-- **Members have names of their own** once no identifier is mentioned twice. -/
theorem nodup_memberNames (style : AccessorStyle) (c : Collection)
    (distinct : (mentioned className named).Nodup) : (memberNames style c named).Nodup := by
  obtain ⟨-, items, fixed⟩ := List.nodup_append.mp ((mentioned_perm _ _).nodup_iff.mp distinct)
  obtain ⟨uppers, lowers, apart⟩ := List.nodup_append.mp items
  have values : "values" ∈ reserved className := mem_reserved.mpr (.inr (.inr (by decide)))
  have Values : "Values" ∈ reserved className := mem_reserved.mpr (.inr (.inl (by decide)))
  rw [memberNames_eq, List.nodup_append]
  refine ⟨?_, ?_, ?_⟩
  · rw [List.nodup_cons]
    refine ⟨fun hm => ?_, lowers⟩
    exact fixed _ values _ (List.mem_append_right _ hm) rfl
  · -- What stands in front of all accessors alike does not make two of them the same.
    have accessors : ("Values" :: named.map (·.names.upper)).Nodup := by
      rw [List.nodup_cons]
      exact ⟨fun hm => fixed _ Values _ (List.mem_append_left _ hm) rfl, uppers⟩
    exact List.pairwise_map.mpr (accessors.imp fun hne he => hne (accessorName_injective he))
  · rintro a ha b hb rfl
    obtain ⟨upper, hu, hb⟩ := List.mem_map.mp hb
    cases style with
    | direct =>
      obtain rfl : upper = a := hb
      rcases List.mem_cons.mp ha with rfl | ha
      · rcases List.mem_cons.mp hu with hu | hu
        · exact absurd hu (by decide)
        · exact fixed _ values _ (List.mem_append_left _ hu) rfl
      · rcases List.mem_cons.mp hu with rfl | hu
        · exact fixed _ Values _ (List.mem_append_right _ ha) rfl
        · exact apart _ hu _ ha rfl
    | tryGet =>
      -- An accessor starts with a capital letter, and a field never does.
      have capital : startsCapital a = true := by
        rw [← hb]
        unfold startsCapital accessorName
        rw [String.toList_append]
        rfl
      rcases List.mem_cons.mp ha with rfl | ha
      · exact absurd capital (by decide)
      · obtain ⟨n, -, rfl⟩ := List.mem_map.mp ha
        exact absurd (capital.symm.trans n.startsCapital_lower) nofun

/-- **The name of the class is that of a member** exactly if they clash. -/
theorem className_mem_iff (style : AccessorStyle) {c : Collection} (hc : c.className = .ok className)
    (distinct : (mentioned className named).Nodup) :
    className ∈ memberNames style c named ↔ Clash style className named := by
  obtain ⟨-, -, fixed⟩ := List.nodup_append.mp ((mentioned_perm _ _).nodup_iff.mp distinct)
  have self : className ∈ reserved className := mem_reserved.mpr (.inl rfl)
  -- No field clashes: the one of the collection is in lower case, and the check keeps items apart.
  have noField : className ∉ "values" :: named.map (·.names.lower) := by
    intro hm
    rcases List.mem_cons.mp hm with rfl | hm
    · exact absurd (c.startsSmall_className hc) (by decide)
    · exact fixed _ self _ (List.mem_append_right _ hm) rfl
  rw [memberNames_eq, List.mem_append, or_iff_right noField]
  cases style with
  | direct =>
    show className ∈ ("Values" :: named.map (·.names.upper)).map id ↔ className = "Values"
    rw [List.map_id, List.mem_cons]
    exact or_iff_left fun hm => fixed _ self _ (List.mem_append_left _ hm) rfl
  | tryGet =>
    rw [List.map_cons, List.mem_cons, List.map_map, List.mem_map]
    show className = "TryGet" ++ "Values" ∨ _ ↔ className = "TryGetValues" ∨ _
    constructor
    · rintro (h | ⟨n, hn, rfl⟩)
      · exact .inl h
      · exact .inr ⟨n, hn, rfl⟩
    · rintro (h | ⟨n, hn, rfl⟩)
      · exact .inl h
      · exact .inr ⟨n, hn, rfl⟩

end

/-- **The members of a checked collection** are declared under names of their own, and the name of the
class is among these names exactly if they clash. -/
theorem memberNames_of_checked (style : AccessorStyle) (s : Settings) {c : Collection}
    (checked : checkIdentifiers c = .ok ()) :
    ∃ className, c.className = .ok className ∧
      ∃ named : List NamedItem, c.items = named.map (·.item) ∧
        (∀ depth : Nat, declarations depth ((builtIn style).write s c depth).lines =
          (members style c named).map (·.declaration depth)) ∧
        (memberNames style c named).Nodup ∧
        (className ∈ memberNames style c named ↔ Clash style className named) := by
  obtain ⟨className, hc, named, hn, distinct⟩ := checkIdentifiers_eq_ok_iff.mp checked
  refine ⟨className, hc, named, hn, ?_, nodup_memberNames style c distinct, className_mem_iff style hc distinct⟩
  intro depth
  rw [write_builtIn style s hn]
  exact declarations_bodyLines style depth s c named

/-- The members of a small collection have names of their own, none of which is that of the class. -/
theorem memberNames_of_checked_fruits :
    checkIdentifiers .fruits = .ok () ∧
      ∃ named : List NamedItem, Collection.fruits.items = named.map (·.item) ∧
        (memberNames .direct .fruits named).Nodup ∧ "Fruits" ∉ memberNames .direct .fruits named := by
  have checked := Collection.checkIdentifiers_fruits
  obtain ⟨className, hc, named, hn, -, distinct, clash⟩ := memberNames_of_checked .direct .defaults checked
  obtain rfl := Except.ok.inj (Collection.className_fruits.symm.trans hc)
  refine ⟨checked, named, hn, distinct, fun hm => ?_⟩
  exact absurd (show "Fruits" = "Values" from clash.mp hm) (by decide)

/-- A collection named like the accessor of the collection. -/
def valueCollection : Collection where
  name := .text "Values"
  guid := .text "g1"
  type := ⟨.text "ValueCollection", .text "Game"⟩
  elementType := ⟨.text "ValueCollection", .text "Game"⟩
  sourcePath := .text "Assets/Scripts/ValueCollection.cs"
  namespace_ := .text "Game"
  style := .direct
  items := []

/-- The class of this collection has the name of its own property, and the check passes. -/
theorem values_in_class_values :
    checkIdentifiers valueCollection = .ok () ∧ valueCollection.className = .ok "Values" ∧
      "Values" ∈ memberNames .direct valueCollection [] ∧
      ∀ depth : Nat, ⟨depth, "public static ValueCollection Values"⟩ ∈
        declarations depth (direct.write .defaults valueCollection depth).lines := by
  have derived : Vocabulary.keywords.pairOf "Values" = ⟨"Values", "values"⟩ := by decide +kernel
  have className : valueCollection.className = .ok "Values" := by
    show Except.ok (Vocabulary.keywords.pairOf "Values").upper = .ok "Values"
    rw [derived]
  refine ⟨?_, className, by decide, fun depth => ?_⟩
  · exact checkIdentifiers_eq_ok_iff.mpr ⟨"Values", className, [], rfl, by decide⟩
  · show _ ∈ declarations depth ((builtIn .direct).write .defaults valueCollection depth).lines
    have none_ : valueCollection.items = ([] : List NamedItem).map (·.item) := rfl
    rw [write_builtIn .direct .defaults none_, declarations_bodyLines]
    exact List.mem_cons_of_mem _ List.mem_cons_self

end StaticAccessors.Strategy
