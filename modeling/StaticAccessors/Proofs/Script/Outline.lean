import StaticAccessors.Proofs.Identifier.Characters
import StaticAccessors.Proofs.Script.Lines
import StaticAccessors.Proofs.Strategy.MemberNames
import StaticAccessors.Proofs.Text.Cutting

/-!
# Outlines

An outline is all that a script says about its collection: the namespaces it imports, the namespace and
the name of the class, the type and the identifier of the collection, and of each item the type, its two
identifiers and its own one. `Outline.lines` writes an outline out, every accessor from the values of its
own item. The script of a collection is the outline of the collection written out (`lines_outline`), so
whoever recovers the outline has recovered all of this.

## Contents
- `ItemOutline`, `Outline`, and the members it has.
- `Outline.lines`, in the order in which a script is written.
- `Outline.SingleLines`, and `areSingle_lines`.
- `Plan.outline`, with `lines_outline`, `singleLines_outline` and `declarations_body`.
-/

namespace StaticAccessors

/-- Settings under which lines end in the usual way, and whose texts are single lines otherwise. -/
structure Settings.SingleLines (s : Settings) : Prop where
  ending : s .lineEnding = .text "\n" ∨ s .lineEnding = .text "\r\n"
  banner : ∀ v ∈ (s .banner).elements?.getD [], SingleLine v.display
  texts : ∀ setting : Setting, setting.kind = .text → setting ≠ .lineEnding → SingleLine (s setting).display

/-- A collection whose type names, namespaces and identifiers are single lines. -/
structure Collection.SingleLines (c : Collection) : Prop where
  type : SingleLine c.type.name.display ∧ SingleLine c.type.namespace_.display
  guid : SingleLine c.guid.display
  namespace_ : SingleLine c.namespace_.display
  items : ∀ item ∈ c.items, SingleLine item.type.name.display ∧ SingleLine item.type.namespace_.display ∧
    SingleLine item.guid.display

namespace Script

open Scope Strategy

/-- What a script says about an item. -/
structure ItemOutline where
  typeName : String
  /-- the identifier of the accessor -/
  upper : String
  /-- the identifier of the field -/
  lower : String
  guid : String
deriving Repr, DecidableEq

/-- What a script says. -/
structure Outline where
  directives : List String
  namespace_ : Option String
  className : String
  typeName : String
  guid : String
  items : List ItemOutline
deriving Repr, DecidableEq

namespace Outline

/-! ## Members -/

/-- The private fields, that of the collection first. -/
def fields (o : Outline) : List Member :=
  ⟨.field, o.typeName, "values"⟩ :: o.items.map fun i => ⟨.field, i.typeName, i.lower⟩

/-- The accessors, in the same order. -/
def accessors (style : AccessorStyle) (o : Outline) : List Member :=
  accessor style o.typeName "Values" :: o.items.map fun i => accessor style i.typeName i.upper

/-! ## Lines -/

/-- The depth at which the class is declared. -/
def outer : Option String → Nat
  | none => 0
  | some _ => 1

/-- The depth of the body of the class. -/
def inner (o : Outline) : Nat := outer o.namespace_ + 1

/-- The elements of the banner. -/
def bannerOf (s : Settings) : List Value := (s .banner).elements?.getD []

def bannerLines (s : Settings) : List Line := (bannerOf s).map (fun v => ⟨0, lineText v⟩) ++ [⟨0, ""⟩]

def directiveLines (directives : List String) : List Line :=
  directives.map (fun d => ⟨0, "using " ++ d ++ ";"⟩) ++ if directives.isEmpty then [] else [⟨0, ""⟩]

def namespaceLines : Option String → List Line
  | none => []
  | some name => [⟨0, "namespace " ++ name⟩, .opening 0]

def classLines (s : Settings) (depth : Nat) (className : String) : List Line :=
  [⟨depth, classDeclaration className (s .classPartial).truthy (s .classStatic).truthy⟩, .opening depth]

def fieldLines (o : Outline) : List Line := o.fields.map (·.declaration o.inner) ++ [⟨o.inner, ""⟩]

/-- The look-up with which an accessor fills the field of the collection. -/
def collectionLookup (style : AccessorStyle) (s : Settings) (guid : String) : String :=
  match style with
  | .direct => registryCall s ("GetCollectionByGUID(" ++ stringLiteral guid ++ ")")
  | .tryGet => registryCall s ("TryGetCollectionByGUID(" ++ stringLiteral guid ++ ", out " ++
      (s .collectionBaseType).display ++ " resultCollection)")

/-- The accessor of a collection of some type. -/
def collectionAccessor (style : AccessorStyle) (depth : Nat) (s : Settings) (typeName guid : String) :
    List Line :=
  match style with
  | .direct => block depth (Direct.propertyHeader typeName "Values")
      (Direct.getter (depth + 1) typeName "values" (collectionLookup .direct s guid))
  | .tryGet => block depth (TryGet.methodHeader typeName "TryGetValues")
      (TryGet.guardedLines (depth + 1) "values != null" "values" true ++
        (TryGet.guardedLines (depth + 1) ("!" ++ collectionLookup .tryGet s guid) "values" false ++
          ⟨depth + 1, "values = (" ++ typeName ++ ")resultCollection;"⟩ ::
            TryGet.returnLines (depth + 1) "values" true))

/-- The look-up with which an accessor fills the field of an item. -/
def itemLookup (style : AccessorStyle) (s : Settings) (guid : String) : String :=
  match style with
  | .direct => "Values.GetCollectableByGUID(" ++ stringLiteral guid ++ ")"
  | .tryGet => "collectionResult.TryGetCollectableByGUID(" ++ stringLiteral guid ++
      ", out " ++ (s .itemBaseType).display ++ " resultCollectable)"

/-- The accessor of an item in a collection of some type. -/
def itemAccessor (style : AccessorStyle) (depth : Nat) (s : Settings) (typeName : String) (i : ItemOutline) :
    List Line :=
  match style with
  | .direct => block depth (Direct.propertyHeader i.typeName i.upper)
      (Direct.getter (depth + 1) i.typeName i.lower (itemLookup .direct s i.guid))
  | .tryGet => block depth (TryGet.methodHeader i.typeName ("TryGet" ++ i.upper))
      (TryGet.guardedLines (depth + 1) (i.lower ++ " != null") i.lower true ++
        (TryGet.guardedLines (depth + 1) ("!TryGetValues(out " ++ typeName ++ " collectionResult)") "null"
            false ++
          (TryGet.guardedLines (depth + 1) ("!" ++ itemLookup .tryGet s i.guid) "null" false ++
            ⟨depth + 1, i.lower ++ " = (" ++ i.typeName ++ ")resultCollectable;"⟩ ::
              TryGet.returnLines (depth + 1) i.lower true)))

/-- The accessors of items, each below a blank line. -/
def itemAccessors (style : AccessorStyle) (depth : Nat) (s : Settings) (typeName : String)
    (items : List ItemOutline) : List Line :=
  items.flatMap fun i => ⟨depth, ""⟩ :: itemAccessor style depth s typeName i

def closingLines : Option String → List Line
  | none => [.closing 0]
  | some _ => [.closing 1, .closing 0]

/-- The lines of the members. -/
def body (style : AccessorStyle) (s : Settings) (o : Outline) : List Line :=
  o.fieldLines ++ (collectionAccessor style o.inner s o.typeName o.guid ++
    itemAccessors style o.inner s o.typeName o.items)

/-- The lines above them. -/
def opening (s : Settings) (o : Outline) : List Line :=
  bannerLines s ++ (directiveLines o.directives ++ (namespaceLines o.namespace_ ++
    classLines s (outer o.namespace_) o.className))

/-- **An outline, written out.** -/
def lines (style : AccessorStyle) (s : Settings) (o : Outline) : List Line :=
  o.opening s ++ (o.body style s ++ closingLines o.namespace_)

end Outline

/-! ## Single lines -/

/-- All lines written are single lines. -/
def AreSingle (lines : List Line) : Prop := ∀ x ∈ lines, SingleLine x.text

namespace AreSingle

variable {depth : Nat} {xs ys : List Line}

@[simp] theorem nil : AreSingle [] := fun _ h => absurd h List.not_mem_nil

@[simp] theorem cons_iff {x : Line} : AreSingle (x :: xs) ↔ SingleLine x.text ∧ AreSingle xs :=
  List.forall_mem_cons

@[simp] theorem append_iff : AreSingle (xs ++ ys) ↔ AreSingle xs ∧ AreSingle ys := List.forall_mem_append

@[simp] theorem block_iff {header : String} :
    AreSingle (block depth header xs) ↔ SingleLine header ∧ AreSingle xs := by
  have opening : SingleLine "\x7b" := by decide
  have closing : SingleLine "\x7d" := by decide
  unfold block Line.opening Line.closing
  simp [opening, closing]

/-- A guarded return is in single lines if its condition and its value are. -/
theorem guardedLines {condition value : String} (hc : SingleLine condition) (hv : SingleLine value)
    (success : Bool) : AreSingle (TryGet.guardedLines depth condition value success) := by
  unfold TryGet.guardedLines TryGet.returnLines
  cases success <;> simp +decide [hc, hv]

end AreSingle

namespace Outline

/-- An outline all of whose texts are single lines. -/
structure SingleLines (o : Outline) : Prop where
  directives : ∀ d ∈ o.directives, SingleLine d
  namespace_ : ∀ name ∈ o.namespace_, SingleLine name
  className : SingleLine o.className
  typeName : SingleLine o.typeName
  guid : SingleLine o.guid
  items : ∀ i ∈ o.items, SingleLine i.typeName ∧ SingleLine i.upper ∧ SingleLine i.lower ∧ SingleLine i.guid

section

variable {s : Settings} {o : Outline} (hs : s.SingleLines)

include hs

theorem areSingle_collectionAccessor {typeName guid : String} (ht : SingleLine typeName)
    (hg : SingleLine guid) (style : AccessorStyle) (depth : Nat) :
    AreSingle (collectionAccessor style depth s typeName guid) := by
  have accessor : SingleLine (s .registryAccessor).display := hs.texts .registryAccessor rfl nofun
  have base : SingleLine (s .collectionBaseType).display := hs.texts .collectionBaseType rfl nofun
  have literal := singleLine_stringLiteral hg
  cases style with
  | direct =>
    unfold collectionAccessor Direct.getter Direct.propertyHeader collectionLookup registryCall
    simp +decide [ht, accessor, literal]
  | tryGet =>
    have lookup : SingleLine ("!" ++ collectionLookup .tryGet s guid) := by
      unfold collectionLookup registryCall
      simp +decide [accessor, base, literal]
    have guards : AreSingle (TryGet.guardedLines (depth + 1) "values != null" "values" true) ∧
        AreSingle (TryGet.guardedLines (depth + 1) ("!" ++ collectionLookup .tryGet s guid) "values" false) :=
      ⟨.guardedLines (by decide) (by decide) true, .guardedLines lookup (by decide) false⟩
    unfold collectionAccessor TryGet.methodHeader TryGet.returnLines
    simp +decide [ht, guards]

theorem areSingle_itemAccessor {typeName : String} (ht : SingleLine typeName) {i : ItemOutline}
    (hi : SingleLine i.typeName ∧ SingleLine i.upper ∧ SingleLine i.lower ∧ SingleLine i.guid)
    (style : AccessorStyle) (depth : Nat) : AreSingle (itemAccessor style depth s typeName i) := by
  obtain ⟨own, upper, lower, guid⟩ := hi
  have base : SingleLine (s .itemBaseType).display := hs.texts .itemBaseType rfl nofun
  have literal := singleLine_stringLiteral guid
  cases style with
  | direct =>
    unfold itemAccessor Direct.getter Direct.propertyHeader itemLookup
    simp +decide [own, upper, lower, literal]
  | tryGet =>
    have lookup : SingleLine ("!" ++ itemLookup .tryGet s i.guid) := by
      unfold itemLookup
      simp +decide [base, literal]
    have collection : SingleLine ("!TryGetValues(out " ++ typeName ++ " collectionResult)") := by
      simp +decide [ht]
    have filled : SingleLine (i.lower ++ " != null") := by
      simp +decide [lower]
    have guards : AreSingle (TryGet.guardedLines (depth + 1) (i.lower ++ " != null") i.lower true) ∧
        AreSingle (TryGet.guardedLines (depth + 1) ("!TryGetValues(out " ++ typeName ++ " collectionResult)")
          "null" false) ∧
        AreSingle (TryGet.guardedLines (depth + 1) ("!" ++ itemLookup .tryGet s i.guid) "null" false) :=
      ⟨.guardedLines filled lower true, .guardedLines collection (by decide) false,
        .guardedLines lookup (by decide) false⟩
    unfold itemAccessor TryGet.methodHeader TryGet.returnLines
    simp +decide [own, upper, lower, guards]

theorem areSingle_opening (ho : o.SingleLines) : AreSingle (o.opening s) := by
  have banner : AreSingle (bannerLines s) := by
    unfold bannerLines
    rw [AreSingle.append_iff]
    refine ⟨fun x hx => ?_, by simp +decide⟩
    obtain ⟨v, hv, rfl⟩ := List.mem_map.mp hx
    show SingleLine (lineText v)
    unfold lineText
    split
    · exact hs.banner v hv
    · decide
  have directives : AreSingle (directiveLines o.directives) := by
    unfold directiveLines
    rw [AreSingle.append_iff]
    refine ⟨fun x hx => ?_, ?_⟩
    · obtain ⟨d, hd, rfl⟩ := List.mem_map.mp hx
      have single := ho.directives d hd
      simp +decide [single]
    · split <;> simp +decide
  have space : AreSingle (namespaceLines o.namespace_) := by
    have single := ho.namespace_
    unfold namespaceLines
    cases h : o.namespace_ with
    | none => simp
    | some name =>
      have single := single name h
      simp +decide [single, Line.opening]
  have class_ : AreSingle (classLines s (outer o.namespace_) o.className) := by
    have single := ho.className
    unfold classLines classDeclaration
    cases (s .classPartial).truthy <;> cases (s .classStatic).truthy <;> simp +decide [single, Line.opening]
  unfold opening
  simp [banner, directives, space, class_]

/-- **An outline is written in single lines** if its texts and those of the settings are. -/
theorem areSingle_lines (ho : o.SingleLines) (style : AccessorStyle) : AreSingle (o.lines style s) := by
  have fields : AreSingle o.fieldLines := by
    unfold fieldLines
    rw [AreSingle.append_iff]
    refine ⟨fun x hx => ?_, by simp +decide⟩
    obtain ⟨m, hm, rfl⟩ := List.mem_map.mp hx
    have single : ∀ typeName name, SingleLine typeName → SingleLine name →
        SingleLine (fieldLine o.inner typeName name).text := by
      intro typeName name ht hn
      unfold fieldLine
      simp +decide [ht, hn]
    have values : SingleLine "values" := by decide
    rcases List.mem_cons.mp hm with rfl | hm
    · exact single _ _ ho.typeName values
    · obtain ⟨i, hi, rfl⟩ := List.mem_map.mp hm
      obtain ⟨own, -, lower, -⟩ := ho.items i hi
      exact single _ _ own lower
  have items : AreSingle (itemAccessors style o.inner s o.typeName o.items) := by
    intro x hx
    obtain ⟨i, hi, hx⟩ := List.mem_flatMap.mp hx
    rcases List.mem_cons.mp hx with rfl | hx
    · show SingleLine ""
      decide
    · exact areSingle_itemAccessor hs ho.typeName (ho.items i hi) style o.inner x hx
  have closing : AreSingle (closingLines o.namespace_) := by
    unfold closingLines
    split <;> simp +decide [Line.closing]
  unfold lines body
  simp [areSingle_opening hs ho, fields, areSingle_collectionAccessor hs ho.typeName ho.guid, items, closing]

end

end Outline

/-! ## The outline of a collection -/

/-- What a script says about an item whose identifiers are known. -/
def ItemOutline.of (n : NamedItem) : ItemOutline :=
  ⟨n.item.type.name.display, n.names.upper, n.names.lower, n.item.guid.display⟩

variable {s : Settings} {c : Collection}

namespace Plan

variable (p : Plan s c) (named : List NamedItem)

/-- What the script of a collection says, according to its plan. -/
def outline : Outline where
  directives := p.directives.map (·.display)
  namespace_ := if c.namespace_.truthy then some c.namespace_.display else none
  className := p.className
  typeName := c.type.name.display
  guid := c.guid.display
  items := named.map .of

theorem inner_outline : (p.outline named).inner = levels c.namespace_ := by
  unfold Outline.inner outline levels
  split <;> rfl

/-- What stands above the members of the outline stands above those of the script. -/
theorem opening_outline : (p.outline named).opening s = p.opening := by
  have banner : Outline.bannerOf s = p.banner := by
    have shown := p.shown
    unfold elementsOf at shown
    unfold Outline.bannerOf
    split at shown
    · rename_i elements found
      rw [found]
      exact Except.ok.inj shown
    · exact absurd shown nofun
  have imports : Outline.directiveLines (p.directives.map (·.display)) =
      p.directives.map (fun d => ⟨0, "using " ++ d.display ++ ";"⟩) ++
        if p.directives.isEmpty then [] else [⟨0, ""⟩] := by
    unfold Outline.directiveLines
    rw [List.map_map, List.isEmpty_map]
    rfl
  have space : Outline.namespaceLines (p.outline named).namespace_ ++
      Outline.classLines s (Outline.outer (p.outline named).namespace_) p.className =
        namespaceOpening 0 c.namespace_ ++
          [⟨classDepth 0 c.namespace_, classDeclaration p.className (s .classPartial).truthy
            (s .classStatic).truthy⟩, .opening (classDepth 0 c.namespace_)] := by
    unfold outline namespaceOpening classDepth
    dsimp only
    cases c.namespace_.truthy <;> rfl
  unfold Outline.opening Plan.opening scopeOpening prologue Outline.bannerLines
  rw [show (p.outline named).directives = p.directives.map (·.display) from rfl,
    show (p.outline named).className = p.className from rfl, space, imports, banner]
  simp only [List.append_assoc, List.cons_append, List.nil_append]
  rfl

/-- The members of the outline are those of the script. -/
theorem body_outline (style : AccessorStyle) :
    (p.outline named).body style s = bodyLines style (levels c.namespace_) s c named := by
  have fields : (p.outline named).fieldLines =
      Strategy.fieldLines (levels c.namespace_) c named := by
    unfold Outline.fieldLines Outline.fields Strategy.fieldLines
    rw [p.inner_outline named, List.map_cons, List.map_map]
    unfold outline
    dsimp only
    rw [List.map_map]
    rfl
  have collection : ∀ depth, Outline.collectionAccessor style depth s c.type.name.display c.guid.display =
      collectionLines style depth s c := by
    intro depth
    cases style <;> rfl
  have item : ∀ depth n, Outline.itemAccessor style depth s c.type.name.display (.of n) =
      itemLines style depth s c n := by
    intro depth n
    cases style <;> rfl
  have items : ∀ depth, Outline.itemAccessors style depth s c.type.name.display (named.map .of) =
      named.flatMap fun n => ⟨depth, ""⟩ :: itemLines style depth s c n := by
    intro depth
    unfold Outline.itemAccessors
    rw [List.flatMap_map]
    simp only [item]
  unfold Outline.body bodyLines
  rw [fields, p.inner_outline named]
  exact congrArg _ (congr (congrArg _ (collection _)) (items _))

/-- **The script of a collection is its outline, written out.** -/
theorem lines_outline (style : AccessorStyle) :
    (p.outline named).lines style s =
      p.opening ++ (bodyLines style (levels c.namespace_) s c named ++ closing c) := by
  have closing_ : Outline.closingLines (p.outline named).namespace_ = closing c := by
    unfold outline closing scopeClosing namespaceClosing classDepth
    dsimp only
    split <;> rfl
  unfold Outline.lines
  rw [p.opening_outline named, p.body_outline named style, closing_]

/-- **Its outline is in single lines** if the values of the collection and the settings are: identifiers
always are. -/
theorem singleLines_outline (hs : s.SingleLines) (hc : c.SingleLines) (h : c.items = named.map (·.item)) :
    (p.outline named).SingleLines := by
  have identifier : ∀ {t : String}, (∀ d ∈ t.toList, IsWordChar d) → SingleLine t :=
    fun word => not_mem_of_isWordChar word (by decide)
  refine ⟨fun d hd => ?_, fun name hn => ?_, ?_, hc.type.1, hc.guid, fun i hi => ?_⟩
  · obtain ⟨v, hv, rfl⟩ := List.mem_map.mp hd
    have listed := (List.mem_filter.mp (dedupeAfter_subset p.kept hv)).1
    rcases List.mem_append.mp listed with listed | listed
    · rcases List.mem_cons.mp listed with rfl | listed
      · exact hs.texts .registryNamespace rfl nofun
      · rw [List.mem_singleton.mp listed]
        exact hc.type.2
    · obtain ⟨item, hi, rfl⟩ := List.mem_map.mp listed
      exact (hc.items item hi).2.1
  · unfold outline at hn
    dsimp only at hn
    split at hn
    · rw [← Option.some.inj hn]
      exact hc.namespace_
    · exact absurd hn nofun
  · obtain ⟨names, hn, upper⟩ := Outcome.map_eq_ok.mp p.named
    obtain ⟨t, rfl⟩ := Vocabulary.exists_pairOf hn
    show SingleLine p.className
    rw [← upper]
    exact identifier (Vocabulary.isWordChar_upper t)
  · obtain ⟨n, hn, rfl⟩ := List.mem_map.mp hi
    have listed : n.item ∈ c.items := by
      rw [h]
      exact List.mem_map_of_mem hn
    obtain ⟨own, -, guid⟩ := hc.items n.item listed
    obtain ⟨t, ht⟩ := Vocabulary.exists_pairOf n.derived
    refine ⟨own, ?_, ?_, guid⟩
    · show SingleLine n.names.upper
      rw [ht]
      exact identifier (Vocabulary.isWordChar_upper t)
    · show SingleLine n.names.lower
      rw [ht]
      exact identifier (Vocabulary.isWordChar_lower t)

/-- **The members of the outline are what the body of the class declares.** -/
theorem declarations_body (style : AccessorStyle) :
    declarations (p.outline named).inner ((p.outline named).body style s) =
      ((p.outline named).fields ++ (p.outline named).accessors style).map
        (·.declaration (p.outline named).inner) := by
  have same : (p.outline named).fields ++ (p.outline named).accessors style = members style c named := by
    unfold Outline.fields Outline.accessors members outline
    dsimp only
    rw [List.map_map, List.map_map]
    rfl
  rw [p.body_outline named style, p.inner_outline named, declarations_bodyLines, same]

end Plan

end Script

end StaticAccessors
