import StaticAccessors.Proofs.Emission.Lines
import StaticAccessors.Proofs.Kinds
import StaticAccessors.Strategy.Direct
import StaticAccessors.Strategy.TryGet

/-!
# The lines of a class body

Both built-in strategies write the same kind of body: the private fields, an accessor for the
collection, and an accessor for each item, with blank lines between them. An accessor is a block. The
two styles differ in the headers of these blocks and in what is inside.

All identifiers are derived while the fields are written. So a body is either written to its end, or it
stops among the fields at the first item that has no identifiers.

## Contents
- `NamedItem`: an item together with its identifiers.
- `fieldLines`, `collectionLines`, `itemLines` and `bodyLines`.
- `builtIn`: the strategy of a style.
- `write_builtIn`, `write_builtIn_unnamed`: the two ways in which a body can end.
-/

namespace StaticAccessors

/-- An item together with the identifiers derived from its name. -/
structure NamedItem where
  item : Item
  names : IdentifierPair
  derived : item.identifiers = .ok names

/-- Items either have identifiers throughout, or there is a first one that has none. -/
theorem named_or_unnamed (items : List Item) :
    (∃ named : List NamedItem, items = named.map (·.item)) ∨
    ∃ (named : List NamedItem) (item : Item) (rest : List Item) (fault : Fault),
      items = named.map (·.item) ++ item :: rest ∧ item.identifiers = .error fault := by
  induction items with
  | nil => exact .inl ⟨[], rfl⟩
  | cons item rest ih =>
    cases hi : item.identifiers with
    | error fault => exact .inr ⟨[], item, rest, fault, rfl, hi⟩
    | ok names =>
      rcases ih with ⟨named, rfl⟩ | ⟨named, other, more, fault, rfl, ho⟩
      · exact .inl ⟨⟨item, names, hi⟩ :: named, rfl⟩
      · exact .inr ⟨⟨item, names, hi⟩ :: named, other, more, fault, rfl, ho⟩

/-- Items with texts for names have identifiers. -/
theorem exists_named {items : List Item} (texts : ∀ item ∈ items, item.name.isText = true) :
    ∃ named : List NamedItem, items = named.map (·.item) := by
  rcases named_or_unnamed items with named | ⟨named, item, rest, fault, here, unnamed⟩
  · exact named
  · obtain ⟨names, derived⟩ := Vocabulary.keywords.exists_derive (texts item (by simp [here]))
    exact absurd (derived.symm.trans unnamed) nofun

/-- All items of a well-typed collection do. -/
theorem Collection.WellTyped.exists_named {c : Collection} (h : c.WellTyped) :
    ∃ named : List NamedItem, c.items = named.map (·.item) :=
  StaticAccessors.exists_named fun item own => (h.items item own).name

namespace Strategy

open Emission Scope

/-! ## Fields -/

/-- The line of a private field. -/
def fieldLine (depth : Nat) (typeName name : String) : Line :=
  ⟨depth, "private static " ++ typeName ++ " " ++ name ++ ";"⟩

/-- The line of the field of an item. -/
def itemField (depth : Nat) (n : NamedItem) : Line :=
  fieldLine depth n.item.type.name.display n.names.lower

/-- The lines of the private fields and the blank line after them. -/
def fieldLines (depth : Nat) (c : Collection) (named : List NamedItem) : List Line :=
  fieldLine depth c.type.name.display "values" :: named.map (itemField depth) ++ [⟨depth, ""⟩]

/-- The field of the collection as it is written. -/
theorem fieldLine_values (depth : Nat) (typeName : String) :
    fieldLine depth typeName "values" = ⟨depth, "private static " ++ typeName ++ " values;"⟩ := by
  unfold fieldLine
  rw [String.append_assoc, String.append_assoc]
  rfl

/-- The fields of items that all have identifiers. -/
theorem writeItemFields_named (depth : Nat) (named : List NamedItem) :
    writeItemFields depth (named.map (·.item)) = ⟨named.map (itemField depth), .ok ()⟩ := by
  induction named with
  | nil => rfl
  | cons n rest ih =>
    unfold writeItemFields
    rw [List.map_cons]
    simp only [n.derived, lift_eq, bind_ok, write_nat, ih]
    rfl

/-- The fields before the first item without identifiers are written. -/
theorem writeItemFields_unnamed (depth : Nat) (named : List NamedItem) {item : Item} {fault : Fault}
    (h : item.identifiers = .error fault) (rest : List Item) :
    writeItemFields depth (named.map (·.item) ++ item :: rest) =
      ⟨named.map (itemField depth), .error fault⟩ := by
  induction named with
  | nil =>
    show writeItemFields depth (item :: rest) = _
    unfold writeItemFields
    rw [h, lift_eq, bind_error]
    rfl
  | cons n others ih =>
    show writeItemFields depth (n.item :: (others.map (·.item) ++ item :: rest)) = _
    unfold writeItemFields
    simp only [n.derived, lift_eq, bind_ok, write_nat, ih]
    rfl

theorem writeFields_named (depth : Nat) {c : Collection} {named : List NamedItem}
    (h : c.items = named.map (·.item)) :
    writeFields depth c = ⟨fieldLines depth c named, .ok ()⟩ := by
  unfold writeFields fieldLines
  rw [h, writeItemFields_named, fieldLine_values]
  simp only [write_nat, blank_nat, bind_ok]
  rfl

theorem writeFields_unnamed (depth : Nat) {c : Collection} {named : List NamedItem} {item : Item}
    {rest : List Item} {fault : Fault} (h : c.items = named.map (·.item) ++ item :: rest)
    (hi : item.identifiers = .error fault) :
    writeFields depth c =
      ⟨fieldLine depth c.type.name.display "values" :: named.map (itemField depth), .error fault⟩ := by
  unfold writeFields
  rw [h, writeItemFields_unnamed depth named hi, fieldLine_values]
  simp only [write_nat, bind_ok, bind_error]
  rfl

/-! ## Accessors -/

namespace Direct

/-- The block that fills a field from a look-up, if it is empty, and returns it. -/
def getter (depth : Nat) (typeName field lookup : String) : List Line :=
  block depth "get" [
    ⟨depth + 1, "if (" ++ field ++ " == null)"⟩,
    ⟨depth + 2, field ++ " = (" ++ typeName ++ ")" ++ lookup ++ ";"⟩,
    ⟨depth + 1, "return " ++ field ++ ";"⟩]

/-- The header of a property. -/
def propertyHeader (typeName property : String) : String :=
  "public static " ++ typeName ++ " " ++ property

theorem isCode_propertyHeader (typeName property : String) : IsCode (propertyHeader typeName property) :=
  .append_left (.append_left (.append_left (by unfold IsCode; decide) _) _) _

theorem writeProperty_nat (depth : Nat) (typeName property field lookup : String) :
    writeProperty depth typeName property field lookup =
      ⟨block depth (propertyHeader typeName property) (getter (depth + 1) typeName field lookup),
        .ok (depth : Int)⟩ := by
  have header := (isCode_propertyHeader typeName property).ne_empty
  have deeper : ((depth + 2 : Nat) : Int) + 1 = ((depth + 3 : Nat) : Int) := rfl
  unfold propertyHeader at header
  unfold writeProperty
  simp only [openBlock_nat _ header, openBlock_nat (depth + 1) (show "get" ≠ "" by decide), bind_ok,
    write_nat, deeper, closeBlock_nat]
  rfl

end Direct

namespace TryGet

/-- The lines that hand out a value and return. -/
def returnLines (depth : Nat) (value : String) (success : Bool) : List Line := [
  ⟨depth, "result = " ++ value ++ ";"⟩,
  ⟨depth, "return " ++ (if success then "true" else "false") ++ ";"⟩]

/-- The lines of an early return. -/
def guardedLines (depth : Nat) (condition value : String) (success : Bool) : List Line :=
  block depth ("if (" ++ condition ++ ")") (returnLines (depth + 1) value success) ++ [⟨depth, ""⟩]

theorem writeReturn_nat (depth : Nat) (value : String) (success : Bool) :
    writeReturn depth value success = ⟨returnLines depth value success, .ok ()⟩ := by
  unfold writeReturn
  simp only [write_nat, bind_ok]
  rfl

theorem isCode_condition (condition : String) : IsCode ("if (" ++ condition ++ ")") :=
  .append_left (.append_left (by unfold IsCode; decide) _) _

theorem writeGuarded_nat (depth : Nat) (condition value : String) (success : Bool) :
    writeGuarded depth condition value success =
      ⟨guardedLines depth condition value success, .ok ()⟩ := by
  unfold writeGuarded
  simp only [openBlock_nat depth (isCode_condition condition).ne_empty, bind_ok, writeReturn_nat,
    closeBlock_nat, blank_nat]
  rfl

/-- The header of a method. -/
def methodHeader (typeName method : String) : String :=
  "public static bool " ++ method ++ "(out " ++ typeName ++ " result)"

theorem isCode_methodHeader (typeName method : String) : IsCode (methodHeader typeName method) :=
  .append_left (.append_left (.append_left (.append_left (by unfold IsCode; decide) _) _) _) _

/-- The header of the method of the collection as it is written. -/
theorem methodHeader_values (typeName : String) :
    methodHeader typeName "TryGetValues" =
      "public static bool TryGetValues(out " ++ typeName ++ " result)" := by
  have split : "public static bool TryGetValues(out " =
      "public static bool " ++ "TryGetValues" ++ "(out " := rfl
  unfold methodHeader
  rw [split]

/-- The header of the method of an item as it is written. -/
theorem methodHeader_item (typeName upper : String) :
    methodHeader typeName ("TryGet" ++ upper) =
      "public static bool TryGet" ++ upper ++ "(out " ++ typeName ++ " result)" := by
  have split : "public static bool TryGet" = "public static bool " ++ "TryGet" := rfl
  unfold methodHeader
  rw [split, ← String.append_assoc]

/-- The look-up of the collection. -/
def collectionLookup (s : Settings) (c : Collection) : String :=
  registryCall s ("TryGetCollectionByGUID(" ++ stringLiteral c.guid.display ++ ", out " ++
    (s .collectionBaseType).display ++ " resultCollection)")

/-- What the method of the collection does. -/
def collectionInside (depth : Nat) (s : Settings) (c : Collection) : List Line :=
  guardedLines depth "values != null" "values" true ++
    (guardedLines depth ("!" ++ collectionLookup s c) "values" false ++
      ⟨depth, "values = (" ++ c.type.name.display ++ ")resultCollection;"⟩ ::
        returnLines depth "values" true)

theorem writeCollection_nat (s : Settings) (depth : Nat) (c : Collection) :
    writeCollection s depth c =
      ⟨block depth (methodHeader c.type.name.display "TryGetValues")
        (collectionInside (depth + 1) s c), .ok (depth : Int)⟩ := by
  have header := (isCode_methodHeader c.type.name.display "TryGetValues").ne_empty
  rw [methodHeader_values] at header ⊢
  unfold writeCollection
  simp only [openBlock_nat depth header, bind_ok, writeGuarded_nat, write_nat, writeReturn_nat,
    closeBlock_nat]
  unfold collectionInside collectionLookup block
  simp only [List.append_assoc, List.cons_append, List.nil_append]

/-- The look-up of an item. -/
def itemLookup (s : Settings) (item : Item) : String :=
  "collectionResult.TryGetCollectableByGUID(" ++ stringLiteral item.guid.display ++
    ", out " ++ (s .itemBaseType).display ++ " resultCollectable)"

/-- What the method of an item does. -/
def itemInside (depth : Nat) (s : Settings) (c : Collection) (n : NamedItem) : List Line :=
  guardedLines depth (n.names.lower ++ " != null") n.names.lower true ++
    (guardedLines depth ("!TryGetValues(out " ++ c.type.name.display ++ " collectionResult)") "null" false ++
      (guardedLines depth ("!" ++ itemLookup s n.item) "null" false ++
        ⟨depth, n.names.lower ++ " = (" ++ n.item.type.name.display ++ ")resultCollectable;"⟩ ::
          returnLines depth n.names.lower true))

theorem writeItem_nat (s : Settings) (c : Collection) (depth : Nat) (n : NamedItem) :
    writeItem s c depth n.item =
      ⟨block depth (methodHeader n.item.type.name.display ("TryGet" ++ n.names.upper))
        (itemInside (depth + 1) s c n), .ok (depth : Int)⟩ := by
  have header := (isCode_methodHeader n.item.type.name.display ("TryGet" ++ n.names.upper)).ne_empty
  rw [methodHeader_item] at header ⊢
  unfold writeItem
  simp only [n.derived, lift_eq, bind_ok, openBlock_nat depth header, writeGuarded_nat, write_nat,
    writeReturn_nat, closeBlock_nat]
  unfold itemInside itemLookup block
  simp only [List.append_assoc, List.cons_append, List.nil_append]

end TryGet

/-! ## Bodies -/

/-- The strategy of a style. -/
def builtIn : AccessorStyle → Strategy
  | .direct => direct
  | .tryGet => tryGet

/-- The lines of the accessor of the collection. -/
def collectionLines (style : AccessorStyle) (depth : Nat) (s : Settings) (c : Collection) : List Line :=
  match style with
  | .direct => block depth (Direct.propertyHeader c.type.name.display "Values")
      (Direct.getter (depth + 1) c.type.name.display "values"
        (registryCall s ("GetCollectionByGUID(" ++ stringLiteral c.guid.display ++ ")")))
  | .tryGet => block depth (TryGet.methodHeader c.type.name.display "TryGetValues")
      (TryGet.collectionInside (depth + 1) s c)

/-- The lines of the accessor of an item. -/
def itemLines (style : AccessorStyle) (depth : Nat) (s : Settings) (c : Collection) (n : NamedItem) :
    List Line :=
  match style with
  | .direct => block depth (Direct.propertyHeader n.item.type.name.display n.names.upper)
      (Direct.getter (depth + 1) n.item.type.name.display n.names.lower
        ("Values.GetCollectableByGUID(" ++ stringLiteral n.item.guid.display ++ ")"))
  | .tryGet => block depth (TryGet.methodHeader n.item.type.name.display ("TryGet" ++ n.names.upper))
      (TryGet.itemInside (depth + 1) s c n)

/-- The lines of the members of a class. -/
def bodyLines (style : AccessorStyle) (depth : Nat) (s : Settings) (c : Collection)
    (named : List NamedItem) : List Line :=
  fieldLines depth c named ++ (collectionLines style depth s c ++
    named.flatMap fun n => ⟨depth, ""⟩ :: itemLines style depth s c n)

/-- Accessors that return to their depth are written one after the other. -/
theorem writeItems_named {accessor : Int → Item → Emission Int} {depth : Nat}
    {lines : NamedItem → List Line}
    (h : ∀ n : NamedItem, accessor depth n.item = ⟨lines n, .ok (depth : Int)⟩) (named : List NamedItem) :
    writeItems accessor depth (named.map (·.item)) =
      ⟨named.flatMap fun n => ⟨depth, ""⟩ :: lines n, .ok (depth : Int)⟩ := by
  induction named with
  | nil => rfl
  | cons n rest ih =>
    rw [List.map_cons]
    unfold writeItems
    simp only [blank_nat, bind_ok, h n, ih]
    rfl

/-- **A body whose items all have identifiers** is written to its end and returns to its depth. -/
theorem write_builtIn (style : AccessorStyle) (s : Settings) {c : Collection} {named : List NamedItem}
    (h : c.items = named.map (·.item)) (depth : Nat) :
    (builtIn style).write s c depth = ⟨bodyLines style depth s c named, .ok (depth : Int)⟩ := by
  cases style with
  | direct =>
    have item : ∀ n : NamedItem, Direct.writeItem depth n.item =
        ⟨itemLines .direct depth s c n, .ok (depth : Int)⟩ := by
      intro n
      unfold Direct.writeItem
      rw [n.derived, lift_eq, bind_ok, Direct.writeProperty_nat]
      rfl
    show Direct.write s c depth = _
    unfold Direct.write Direct.writeCollection
    simp only [writeFields_named depth h, bind_ok, Direct.writeProperty_nat, h, writeItems_named item]
    rfl
  | tryGet =>
    show TryGet.write s c depth = _
    unfold TryGet.write
    simp only [writeFields_named depth h, bind_ok, TryGet.writeCollection_nat, h,
      writeItems_named (TryGet.writeItem_nat s c depth)]
    rfl

/-- **A body with an item that has no identifiers** stops among the fields. -/
theorem write_builtIn_unnamed (style : AccessorStyle) (s : Settings) {c : Collection}
    {named : List NamedItem} {item : Item} {rest : List Item} {fault : Fault}
    (h : c.items = named.map (·.item) ++ item :: rest) (hi : item.identifiers = .error fault)
    (depth : Nat) :
    (builtIn style).write s c depth =
      ⟨fieldLine depth c.type.name.display "values" :: named.map (itemField depth), .error fault⟩ := by
  cases style with
  | direct =>
    show Direct.write s c depth = _
    unfold Direct.write
    rw [writeFields_unnamed depth h hi, bind_error]
  | tryGet =>
    show TryGet.write s c depth = _
    unfold TryGet.write
    rw [writeFields_unnamed depth h hi, bind_error]

end Strategy

end StaticAccessors
