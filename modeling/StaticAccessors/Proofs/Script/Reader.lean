import StaticAccessors.Proofs.Emission.Layout
import StaticAccessors.Proofs.Script.Outline

/-!
# Reading scripts

`Script.read` recovers the outline of a script from its text. It goes through the lines from above and
takes what it needs from the places where it has to stand: the imports, the namespace, the name of the
class, the fields, and then one accessor after the other, whose number and types the fields have told. A
text between a known beginning and a known end can be anything; only the name of a field is found by the
blank in front of it, so names of fields must not hold any.

What is taken in this way is a guess, and the reader accepts it only if the outline, written out, is the
text (`print_of_read`). Every function of the reader undoes what writes its lines, so for the text of an
outline the guess is right (`read_print`).

## Contents
- `Layout.linesOf_print`: the lines of a printed text.
- `readDirectives`, `readNamespace`, `readClass`, `readFields`, each with what it undoes.
- `Spot`, the places where accessors hold texts, and `readItems`.
- `Script.scan`, and `scan_shown`.
- `Script.read`, with `print_of_read` and `read_print`.
-/

namespace StaticAccessors

open Text

/-! ## Printed lines -/

namespace Layout

variable {l : Layout} {lines : List Line} {t : String}

/-- Lines are indented by blanks or tabs. -/
theorem ofSettings_mark {s : Settings} (h : ofSettings s = .ok l) : l.mark ≠ '\n' := by
  unfold ofSettings create at h
  split at h
  · rw [← Except.ok.inj h]
    show '\t' ≠ '\n'
    decide
  · split at h
    · obtain ⟨width, -, rfl⟩ := Outcome.map_eq_ok.mp h
      show ' ' ≠ '\n'
      decide
    · exact absurd h nofun

/-- **The lines of a printed text** are those that were printed, if they are single lines. -/
theorem linesOf_print (h : (l.print lines).2 = none) (ht : l.terminator = .text t)
    (ending : t = "\n" ∨ t = "\r\n") (mark : l.mark ≠ '\n') (single : Script.AreSingle lines) :
    linesOf t (l.print lines).1 = lines.map l.shown := by
  have ends : ∃ before : List Char, t.toList = before ++ ['\n'] ∧ '\n' ∉ before := by
    rcases ending with rfl | rfl
    · exact ⟨[], rfl, by decide⟩
    · exact ⟨['\r'], rfl, by decide⟩
  obtain ⟨before, ends, plain⟩ := ends
  refine linesOf_flatMap ends plain (fun cs hcs => ?_) (toList_print h ht)
  obtain ⟨x, hx, rfl⟩ := List.mem_map.mp hcs
  unfold shown
  split
  · exact List.not_mem_nil
  · rw [List.mem_append, not_or]
    exact ⟨fun hm => mark (List.eq_of_mem_replicate hm).symm, single x hx⟩

end Layout

namespace Script

open Scope (classDeclaration)
open Strategy (Member fieldLine isCode_field registryCall Direct.propertyHeader TryGet.methodHeader)
open Outline (outer bannerOf directiveLines namespaceLines classLines collectionLookup itemLookup
  collectionAccessor itemAccessor itemAccessors)

section

variable (l : Layout)

/-! ## Pieces of lines -/

/-- What a line at some depth holds between a beginning and an end. -/
def textAt (depth : Nat) (before after : String) (line : List Char) : String :=
  String.ofList (between before after (line.drop (l.width * depth)))

variable {l} in
theorem textAt_shown {depth : Nat} {before : String} (h : before ≠ "") (text after : String) :
    textAt l depth before after (l.shown ⟨depth, before ++ text ++ after⟩) = text := by
  have some_ : before ++ text ++ after ≠ "" := by
    intro empty
    have lengths := congrArg String.length empty
    rw [String.length_append, String.length_append] at lengths
    refine h (String.length_eq_zero_iff.mp ?_)
    have none_ : "".length = 0 := rfl
    omega
  have inside : (l.shown ⟨depth, before ++ text ++ after⟩).drop (l.width * depth) =
      before.toList ++ text.toList ++ after.toList := by
    unfold Layout.shown
    rw [if_neg some_, List.drop_append_of_le_length (by simp), List.drop_eq_nil_of_le (by simp),
      String.toList_append, String.toList_append]
    rfl
  unfold textAt
  rw [inside, between_append, String.ofList_toList]

/-- A line of code is not blank. -/
theorem shown_ne_nil {depth : Nat} {text : String} (h : text ≠ "") : l.shown ⟨depth, text⟩ ≠ [] := by
  unfold Layout.shown
  rw [if_neg h]
  intro empty
  have none_ := (List.append_eq_nil_iff.mp empty).2
  exact h (String.toList_eq_nil_iff.mp none_)

/-- Without indentation a line is its text. -/
theorem shown_zero (text : String) : l.shown ⟨0, text⟩ = text.toList := by
  unfold Layout.shown
  split
  · rename_i empty
    rw [show text = "" from empty]
    rfl
  · rfl

/-- Lines of one sort end at the first of another sort. -/
theorem takeWhile_section {sort : List Char → Bool} {front : List (List Char)}
    (same : ∀ line ∈ front, sort line = true) {stop : List Char} (other : sort stop = false)
    (below : List (List Char)) :
    (front ++ stop :: below).takeWhile sort = front ∧
      (front ++ stop :: below).drop (front.length + 1) = below := by
  constructor
  · rw [List.takeWhile_append_of_pos same, List.takeWhile_cons_of_neg (ne_true_of_eq_false other),
      List.append_nil]
  · rw [← List.drop_drop, List.drop_left]
    rfl

/-! ## Above the members -/

def isDirective (line : List Char) : Bool := "using ".toList.isPrefixOf line

def isNamespace (line : List Char) : Bool := "namespace ".toList.isPrefixOf line

/-- The imports, and what stands below them. -/
def readDirectives (lines : List (List Char)) : List String × List (List Char) :=
  let imports := lines.takeWhile isDirective
  (imports.map (textAt l 0 "using " ";"), if imports.isEmpty then lines else lines.drop (imports.length + 1))

theorem readDirectives_shown (directives : List String) {below : List (List Char)}
    (other : below.takeWhile isDirective = []) :
    readDirectives l ((directiveLines directives).map l.shown ++ below) = (directives, below) := by
  cases directives with
  | nil =>
    show readDirectives l below = _
    unfold readDirectives
    rw [other]
    rfl
  | cons first rest =>
    have imports : ∀ line ∈ (first :: rest).map fun d => l.shown ⟨0, "using " ++ d ++ ";"⟩,
        isDirective line = true := by
      intro line listed
      obtain ⟨d, -, rfl⟩ := List.mem_map.mp listed
      unfold isDirective
      rw [shown_zero, String.toList_append, String.toList_append, List.append_assoc]
      exact List.isPrefixOf_iff_prefix.mpr (List.prefix_append _ _)
    obtain ⟨taken, dropped⟩ := takeWhile_section imports (show isDirective [] = false by decide) below
    have lines : (directiveLines (first :: rest)).map l.shown ++ below =
        ((first :: rest).map fun d => l.shown ⟨0, "using " ++ d ++ ";"⟩) ++ [] :: below := by
      unfold directiveLines
      rw [List.map_append, List.map_map, List.append_assoc]
      rfl
    have texts : ((first :: rest).map fun d => l.shown ⟨0, "using " ++ d ++ ";"⟩).map
        (textAt l 0 "using " ";") = first :: rest := by
      have each : (textAt l 0 "using " ";" ∘ fun d => l.shown ⟨0, "using " ++ d ++ ";"⟩) = id :=
        funext fun d => textAt_shown (by decide) d ";"
      rw [List.map_map, each, List.map_id]
    unfold readDirectives
    dsimp only
    rw [lines, taken, texts, dropped]
    rfl

/-- The namespace, if there is one, and what stands inside. -/
def readNamespace (lines : List (List Char)) : Option String × List (List Char) :=
  match lines with
  | [] => (none, [])
  | line :: below =>
    if isNamespace line then (some (textAt l 0 "namespace " "" line), below.drop 1) else (none, line :: below)

theorem readNamespace_shown (namespace_ : Option String) {line : List Char} (below : List (List Char))
    (other : namespace_ = none → isNamespace line = false) :
    readNamespace l ((namespaceLines namespace_).map l.shown ++ line :: below) =
      (namespace_, line :: below) := by
  cases namespace_ with
  | none =>
    show readNamespace l (line :: below) = _
    unfold readNamespace
    dsimp only
    rw [other rfl]
    rfl
  | some name =>
    have found : isNamespace (l.shown ⟨0, "namespace " ++ name⟩) = true := by
      unfold isNamespace
      rw [shown_zero, String.toList_append]
      exact List.isPrefixOf_iff_prefix.mpr (List.prefix_append _ _)
    have text : textAt l 0 "namespace " "" (l.shown ⟨0, "namespace " ++ name ++ ""⟩) = name :=
      textAt_shown (by decide) name ""
    rw [String.append_empty] at text
    show readNamespace l (l.shown ⟨0, "namespace " ++ name⟩ :: l.shown (.opening 0) :: line :: below) = _
    unfold readNamespace
    dsimp only
    rw [found, if_pos rfl, text]
    rfl

/-- What declares a class without a name. -/
def classPrefix (s : Settings) : String :=
  classDeclaration "" (s .classPartial).truthy (s .classStatic).truthy

/-- The name of the class, and what stands inside. -/
def readClass (s : Settings) (depth : Nat) (lines : List (List Char)) : String × List (List Char) :=
  (textAt l depth (classPrefix s) "" (lines.headD []), lines.drop 2)

theorem classDeclaration_eq (s : Settings) (className : String) :
    classDeclaration className (s .classPartial).truthy (s .classStatic).truthy =
      classPrefix s ++ className := by
  unfold classPrefix classDeclaration
  rw [String.append_empty]

theorem readClass_shown (s : Settings) (depth : Nat) (className : String) (below : List (List Char)) :
    readClass l s depth ((classLines s depth className).map l.shown ++ below) = (className, below) := by
  have some_ : classPrefix s ≠ "" := by
    unfold classPrefix
    cases (s .classPartial).truthy <;> cases (s .classStatic).truthy <;> decide
  have text : textAt l depth (classPrefix s) "" (l.shown ⟨depth, classPrefix s ++ className ++ ""⟩) =
      className :=
    textAt_shown some_ className ""
  rw [String.append_empty] at text
  unfold readClass classLines
  rw [classDeclaration_eq]
  exact congrArg (·, below) text

/-! ## Fields -/

/-- The type and the name of a field. -/
def readField (depth : Nat) (line : List Char) : String × String :=
  match splitLast? ' ' (textAt l depth "private static " ";" line).toList with
  | some (typeName, name) => (String.ofList typeName, String.ofList name)
  | none => ("", "")

theorem readField_shown (depth : Nat) (typeName : String) {name : String} (word : ' ' ∉ name.toList) :
    readField l depth (l.shown (fieldLine depth typeName name)) = (typeName, name) := by
  have text : textAt l depth "private static " ";"
      (l.shown ⟨depth, "private static " ++ (typeName ++ " " ++ name) ++ ";"⟩) = typeName ++ " " ++ name :=
    textAt_shown (by decide) _ ";"
  have line : fieldLine depth typeName name =
      ⟨depth, "private static " ++ (typeName ++ " " ++ name) ++ ";"⟩ := by
    unfold fieldLine
    simp only [String.append_assoc]
  have chars : (typeName ++ " " ++ name).toList = typeName.toList ++ ' ' :: name.toList := by
    rw [String.toList_append, String.toList_append, List.append_assoc]
    rfl
  unfold readField
  rw [line, text, chars, splitLast?_append _ word]
  dsimp only
  rw [String.ofList_toList, String.ofList_toList]

/-- The fields down to the first blank line, and what stands below it. -/
def readFields (depth : Nat) (lines : List (List Char)) : List (String × String) × List (List Char) :=
  let fields := lines.takeWhile (! ·.isEmpty)
  (fields.map (readField l depth), lines.drop (fields.length + 1))

theorem readFields_shown (o : Outline) (words : ∀ i ∈ o.items, ' ' ∉ i.lower.toList)
    (below : List (List Char)) :
    readFields l o.inner (o.fieldLines.map l.shown ++ below) =
      (o.fields.map fun m => (m.typeName, m.name), below) := by
  have each : ∀ m ∈ o.fields, m.declaration o.inner = fieldLine o.inner m.typeName m.name ∧
      ' ' ∉ m.name.toList := by
    intro m hm
    rcases List.mem_cons.mp hm with rfl | hm
    · exact ⟨rfl, show ' ' ∉ "values".toList by decide⟩
    · obtain ⟨i, hi, rfl⟩ := List.mem_map.mp hm
      exact ⟨rfl, words i hi⟩
  have some_ : ∀ line ∈ o.fields.map fun m => l.shown (m.declaration o.inner), (! line.isEmpty) = true := by
    intro line listed
    obtain ⟨m, hm, rfl⟩ := List.mem_map.mp listed
    rw [(each m hm).1, Bool.not_eq_true', List.isEmpty_eq_false_iff]
    exact shown_ne_nil l (isCode_field m.typeName m.name).ne_empty
  obtain ⟨taken, dropped⟩ := takeWhile_section some_ (show (! [].isEmpty) = false by decide) below
  have lines : o.fieldLines.map l.shown ++ below =
      (o.fields.map fun m => l.shown (m.declaration o.inner)) ++ [] :: below := by
    unfold Outline.fieldLines
    rw [List.map_append, List.map_map, List.append_assoc]
    rfl
  have read : (o.fields.map fun m => l.shown (m.declaration o.inner)).map (readField l o.inner) =
      o.fields.map fun m => (m.typeName, m.name) := by
    rw [List.map_map]
    refine List.map_congr_left fun m hm => ?_
    rw [Function.comp_apply, (each m hm).1]
    exact readField_shown l o.inner m.typeName (each m hm).2
  unfold readFields
  dsimp only
  rw [lines, taken, read, dropped]

/-! ## Accessors -/

/-- A place in an accessor: a line, how much deeper than its header it stands, and what is around the text
in question, with something in front of it that can be recognised. -/
structure Spot where
  line : Nat
  inner : Nat
  before : String
  after : String
  known : before ≠ ""

/-- An accessor holds a text at a spot. -/
def Spot.Holds (spot : Spot) (depth : Nat) (accessor : List Line) (text : String) : Prop :=
  accessor[spot.line]? = some ⟨depth + spot.inner, spot.before ++ text ++ spot.after⟩

/-- The text at a spot of the accessor that some lines start with. -/
def Spot.read (spot : Spot) (depth : Nat) (lines : List (List Char)) : String :=
  textAt l (depth + spot.inner) spot.before spot.after (lines[spot.line]?.getD [])

/-- **What an accessor holds at a spot is read there**, whatever stands below the accessor. -/
theorem Spot.read_shown {spot : Spot} {depth : Nat} {accessor : List Line} {text : String}
    (h : spot.Holds depth accessor text) (below : List (List Char)) :
    spot.read l depth (accessor.map l.shown ++ below) = text := by
  unfold Spot.Holds at h
  have within : spot.line < (accessor.map l.shown).length := by
    rw [List.length_map]
    exact (List.getElem?_eq_some_iff.mp h).1
  unfold Spot.read
  rw [List.getElem?_append_left within, List.getElem?_map, h]
  exact textAt_shown spot.known text spot.after

/-- Where the accessor of a collection holds its identifier. -/
def collectionGuid (style : AccessorStyle) (s : Settings) (typeName : String) : Spot :=
  match style with
  | .direct =>
    { line := 5, inner := 3
      before := "values" ++ (" = (" ++ typeName ++ ")" ++ registryCall s "GetCollectionByGUID(")
      after := ");"
      known := IsCode.ne_empty (.append_left (by unfold IsCode; decide) _) }
  | .tryGet =>
    { line := 8, inner := 1
      before := "if (!" ++ registryCall s "TryGetCollectionByGUID("
      after := ", out " ++ (s .collectionBaseType).display ++ " resultCollection))"
      known := IsCode.ne_empty (.append_left (by unfold IsCode; decide) _) }

theorem holds_collectionGuid (style : AccessorStyle) (depth : Nat) (s : Settings) (typeName guid : String) :
    (collectionGuid style s typeName).Holds depth (collectionAccessor style depth s typeName guid)
      (stringLiteral guid) := by
  cases style with
  | direct =>
    refine congrArg (fun text => some (Line.mk (depth + 3) text)) ?_
    unfold collectionLookup collectionGuid registryCall
    simp only [String.append_assoc]
    rfl
  | tryGet =>
    refine congrArg (fun text => some (Line.mk (depth + 1) text)) ?_
    unfold collectionLookup collectionGuid registryCall
    simp only [String.append_assoc]
    rfl

/-- Where the accessor of an item holds its own name. -/
def itemUpper (style : AccessorStyle) (typeName : String) : Spot :=
  match style with
  | .direct =>
    { line := 0, inner := 0
      before := "public static " ++ (typeName ++ " ")
      after := ""
      known := IsCode.ne_empty (.append_left (by unfold IsCode; decide) _) }
  | .tryGet =>
    { line := 0, inner := 0
      before := "public static bool TryGet"
      after := "(out " ++ typeName ++ " result)"
      known := by decide }

/-- Where it holds the identifier of the item. -/
def itemGuid (style : AccessorStyle) (s : Settings) (typeName lower : String) : Spot :=
  match style with
  | .direct =>
    { line := 5, inner := 3
      before := lower ++ " = (" ++ typeName ++ ")Values.GetCollectableByGUID("
      after := ");"
      known := IsCode.ne_empty (.append_right _ (by unfold IsCode; decide)) }
  | .tryGet =>
    { line := 14, inner := 1
      before := "if (!collectionResult.TryGetCollectableByGUID("
      after := ", out " ++ (s .itemBaseType).display ++ " resultCollectable))"
      known := by decide }

theorem holds_itemUpper (style : AccessorStyle) (depth : Nat) (s : Settings) (typeName : String)
    (i : ItemOutline) :
    (itemUpper style i.typeName).Holds depth (itemAccessor style depth s typeName i) i.upper := by
  cases style with
  | direct =>
    refine congrArg (fun text => some (Line.mk depth text)) ?_
    unfold itemUpper Direct.propertyHeader
    simp only [String.append_assoc, String.append_empty]
  | tryGet =>
    refine congrArg (fun text => some (Line.mk depth text)) ?_
    unfold itemUpper TryGet.methodHeader
    simp only [String.append_assoc]
    rfl

theorem holds_itemGuid (style : AccessorStyle) (depth : Nat) (s : Settings) (typeName : String)
    (i : ItemOutline) :
    (itemGuid style s i.typeName i.lower).Holds depth (itemAccessor style depth s typeName i)
      (stringLiteral i.guid) := by
  cases style with
  | direct =>
    refine congrArg (fun text => some (Line.mk (depth + 3) text)) ?_
    unfold itemLookup itemGuid
    simp only [String.append_assoc]
    rfl
  | tryGet =>
    refine congrArg (fun text => some (Line.mk (depth + 1) text)) ?_
    unfold itemLookup itemGuid
    simp only [String.append_assoc]
    rfl

/-- How many lines the accessor of a collection takes. -/
def collectionSize : AccessorStyle → Nat
  | .direct => 9
  | .tryGet => 18

/-- How many lines the accessor of an item takes. -/
def itemSize : AccessorStyle → Nat
  | .direct => 9
  | .tryGet => 24

theorem length_collectionAccessor (style : AccessorStyle) (depth : Nat) (s : Settings)
    (typeName guid : String) :
    (collectionAccessor style depth s typeName guid).length = collectionSize style := by
  cases style <;> rfl

theorem length_itemAccessor (style : AccessorStyle) (depth : Nat) (s : Settings) (typeName : String)
    (i : ItemOutline) : (itemAccessor style depth s typeName i).length = itemSize style := by
  cases style <;> rfl

/-- The text of a literal. -/
def unquoted (literal : String) : String := String.ofList (unquote literal.toList)

theorem unquoted_stringLiteral (t : String) : unquoted (stringLiteral t) = t := by
  unfold unquoted
  rw [unquote_stringLiteral, String.ofList_toList]

/-- The items of the fields, with what their accessors say; each accessor stands below a blank line. -/
def readItems (style : AccessorStyle) (s : Settings) (depth : Nat) :
    List (List Char) → List (String × String) → List ItemOutline
  | _, [] => []
  | lines, (typeName, lower) :: rest =>
    let accessor := lines.drop 1
    { typeName, lower
      upper := (itemUpper style typeName).read l depth accessor
      guid := unquoted ((itemGuid style s typeName lower).read l depth accessor) } ::
      readItems style s depth (accessor.drop (itemSize style)) rest

theorem readItems_shown (style : AccessorStyle) (s : Settings) (depth : Nat) (typeName : String)
    (items : List ItemOutline) (below : List (List Char)) :
    readItems l style s depth ((itemAccessors style depth s typeName items).map l.shown ++ below)
      (items.map fun i => (i.typeName, i.lower)) = items := by
  induction items with
  | nil => rfl
  | cons i rest ih =>
    let more := (itemAccessors style depth s typeName rest).map l.shown ++ below
    have lines : (itemAccessors style depth s typeName (i :: rest)).map l.shown ++ below =
        [] :: ((itemAccessor style depth s typeName i).map l.shown ++ more) := by
      unfold itemAccessors
      rw [List.flatMap_cons, List.map_append, List.append_assoc]
      rfl
    have upper := Spot.read_shown l (holds_itemUpper style depth s typeName i) more
    have guid := Spot.read_shown l (holds_itemGuid style depth s typeName i) more
    have next : ((itemAccessor style depth s typeName i).map l.shown ++ more).drop (itemSize style) = more := by
      rw [← length_itemAccessor style depth s typeName i, ← List.length_map, List.drop_left]
    have below_blank : ([] :: ((itemAccessor style depth s typeName i).map l.shown ++ more)).drop 1 =
        (itemAccessor style depth s typeName i).map l.shown ++ more := rfl
    rw [lines, List.map_cons]
    unfold readItems
    dsimp only
    rw [below_blank, upper, guid, unquoted_stringLiteral, next, ih]

/-! ## Whole scripts -/

/-- What a script would say whose lines these are, if it were one. -/
def scan (style : AccessorStyle) (s : Settings) (lines : List (List Char)) : Outline :=
  let imports := readDirectives l (lines.drop ((bannerOf s).length + 1))
  let space := readNamespace l imports.2
  let class_ := readClass l s (outer space.1) space.2
  let depth := outer space.1 + 1
  let fields := readFields l depth class_.2
  let typeName := (fields.1.headD ("", "")).1
  { directives := imports.1
    namespace_ := space.1
    className := class_.1
    typeName
    guid := unquoted ((collectionGuid style s typeName).read l depth fields.2)
    items := readItems l style s depth (fields.2.drop (collectionSize style)) fields.1.tail }

/-- The line of a class looks neither like an import nor like a namespace. -/
theorem class_other (s : Settings) (className : String) :
    isDirective (l.shown ⟨0, classDeclaration className (s .classPartial).truthy (s .classStatic).truthy⟩) =
        false ∧
      isNamespace (l.shown ⟨0, classDeclaration className (s .classPartial).truthy (s .classStatic).truthy⟩) =
        false := by
  have first : ∃ rest, (classDeclaration className (s .classPartial).truthy (s .classStatic).truthy).toList =
      'p' :: rest := by
    unfold classDeclaration
    simp only [String.toList_append]
    exact ⟨_, rfl⟩
  obtain ⟨rest, first⟩ := first
  rw [shown_zero, first]
  exact ⟨rfl, rfl⟩

/-- Below the imports there is a namespace or a class. -/
theorem imports_end (s : Settings) (namespace_ : Option String) (className : String)
    (below : List (List Char)) :
    ((namespaceLines namespace_).map l.shown ++
      ((classLines s (outer namespace_) className).map l.shown ++ below)).takeWhile isDirective = [] := by
  cases namespace_ with
  | none => exact List.takeWhile_cons_of_neg (ne_true_of_eq_false (class_other l s className).1)
  | some name =>
    have other : isDirective (l.shown ⟨0, "namespace " ++ name⟩) = false := by
      rw [shown_zero, String.toList_append]
      rfl
    exact List.takeWhile_cons_of_neg (ne_true_of_eq_false other)

/-- **The lines of an outline say what the outline says.** -/
theorem scan_shown (style : AccessorStyle) (s : Settings) (o : Outline)
    (words : ∀ i ∈ o.items, ' ' ∉ i.lower.toList) : scan l style s ((o.lines style s).map l.shown) = o := by
  -- What is left of the lines below each part.
  let belowCollection := (itemAccessors style o.inner s o.typeName o.items).map l.shown ++
    (Outline.closingLines o.namespace_).map l.shown
  let belowFields := (collectionAccessor style o.inner s o.typeName o.guid).map l.shown ++ belowCollection
  let belowClass := o.fieldLines.map l.shown ++ belowFields
  let belowSpace := (classLines s (outer o.namespace_) o.className).map l.shown ++ belowClass
  let belowImports := (namespaceLines o.namespace_).map l.shown ++ belowSpace
  have lines : (o.lines style s).map l.shown =
      (Outline.bannerLines s).map l.shown ++ ((directiveLines o.directives).map l.shown ++ belowImports) := by
    unfold Outline.lines Outline.opening Outline.body
    simp only [List.map_append, List.append_assoc]
    rfl
  have banner : ((o.lines style s).map l.shown).drop ((bannerOf s).length + 1) =
      (directiveLines o.directives).map l.shown ++ belowImports := by
    have size : ((Outline.bannerLines s).map l.shown).length = (bannerOf s).length + 1 := by
      unfold Outline.bannerLines
      rw [List.length_map, List.length_append, List.length_map, List.length_singleton]
    rw [lines, ← size, List.drop_left]
  have imports : readDirectives l ((directiveLines o.directives).map l.shown ++ belowImports) =
      (o.directives, belowImports) :=
    readDirectives_shown l o.directives (imports_end l s o.namespace_ o.className belowClass)
  have space : readNamespace l belowImports = (o.namespace_, belowSpace) := by
    refine readNamespace_shown l o.namespace_ _ fun none_ => ?_
    rw [none_]
    exact (class_other l s o.className).2
  have class_ : readClass l s (outer o.namespace_) belowSpace = (o.className, belowClass) :=
    readClass_shown l s (outer o.namespace_) o.className belowClass
  have fields : readFields l o.inner belowClass =
      ((o.typeName, "values") :: o.items.map (fun i => (i.typeName, i.lower)), belowFields) := by
    refine (readFields_shown l o words belowFields).trans ?_
    unfold Outline.fields
    rw [List.map_cons, List.map_map]
    rfl
  have guid : (collectionGuid style s o.typeName).read l o.inner belowFields = stringLiteral o.guid :=
    Spot.read_shown l (holds_collectionGuid style o.inner s o.typeName o.guid) belowCollection
  have collection : belowFields.drop (collectionSize style) = belowCollection := by
    rw [← length_collectionAccessor style o.inner s o.typeName o.guid, ← @List.length_map _ _ _ l.shown,
      List.drop_left]
  have items : readItems l style s o.inner belowCollection (o.items.map fun i => (i.typeName, i.lower)) =
      o.items :=
    readItems_shown l style s o.inner o.typeName o.items _
  have depth : outer o.namespace_ + 1 = o.inner := rfl
  unfold scan
  simp only [banner, imports, space, class_, depth, fields, List.headD_cons, List.tail_cons, guid, collection,
    items, unquoted_stringLiteral]

end

/-- **What a text says**, if it is the text of an outline. -/
def read (text : String) (s : Settings) (style : AccessorStyle) : Option Outline :=
  match Layout.ofSettings s, s .lineEnding with
  | .ok l, .text terminator =>
    let guess := scan l style s (linesOf terminator text)
    let printed := l.print (guess.lines style s)
    if printed.1 = text ∧ printed.2.isNone = true then some guess else none
  | _, _ => none

variable {s : Settings} {style : AccessorStyle} {l : Layout} {o : Outline} {text : String}

/-- **Nothing else is read**: what a text says, written out, is the text. -/
theorem print_of_read (h : read text s style = some o) :
    ∃ l, Layout.ofSettings s = .ok l ∧ l.print (o.lines style s) = (text, none) := by
  unfold read at h
  split at h
  · rename_i l terminator hl _
    dsimp only at h
    split at h
    · rename_i same
      obtain rfl := Option.some.inj h
      exact ⟨l, hl, Prod.ext same.1 (Option.isNone_iff_eq_none.mp same.2)⟩
    · exact absurd h nofun
  · exact absurd h nofun

/-- **An outline that was printed is read back**, if it is in single lines and the names of its fields are
words. -/
theorem read_print (hl : Layout.ofSettings s = .ok l) (hs : s.SingleLines) (ho : o.SingleLines)
    (words : ∀ i ∈ o.items, ' ' ∉ i.lower.toList) (printed : l.print (o.lines style s) = (text, none)) :
    read text s style = some o := by
  obtain ⟨t, ending, usual⟩ : ∃ t, s .lineEnding = .text t ∧ (t = "\n" ∨ t = "\r\n") := by
    rcases hs.ending with h | h
    · exact ⟨_, h, .inl rfl⟩
    · exact ⟨_, h, .inr rfl⟩
  have terminator : l.terminator = .text t := (Layout.ofSettings_terminator hl).trans ending
  have lines : linesOf t text = (o.lines style s).map l.shown := by
    have cut := Layout.linesOf_print (congrArg Prod.snd printed) terminator usual (Layout.ofSettings_mark hl)
      (Outline.areSingle_lines hs ho style)
    rwa [printed] at cut
  unfold read
  rw [hl, ending]
  dsimp only
  rw [lines, scan_shown l style s o words, printed, if_pos ⟨rfl, rfl⟩]

end Script

end StaticAccessors
