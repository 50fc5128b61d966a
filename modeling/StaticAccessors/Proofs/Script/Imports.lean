import StaticAccessors.Proofs.Script.Printing
import StaticAccessors.Proofs.Script.Reader

/-!
# The imports of a script

A script imports the namespaces of the registry and of the types it mentions: below the banner there is one
line for each of them, in the order in which they occur first, and a blank line if there are any
(`imports_emit`). No line further down looks like an import. Most lines show that by their first character; a
line that begins with the identifier of a field could be one if that was `using`, which it is not, being a
keyword.

## Contents
- `Collection.types` and `Collection.namespaces`.
- `NoImports`: lines none of which looks like an import, from pieces of members up to bodies.
- `Script.Imports`, and `imports_emit`.
-/

namespace StaticAccessors

open Outcome

/-! ## Namespaces -/

/-- The types that a script mentions: that of the collection and those of its items. -/
def Collection.types (c : Collection) : List TypeRef := c.type :: c.items.map (·.type)

/-- The namespaces that a script depends on, the registry's first. -/
def Collection.namespaces (s : Settings) (c : Collection) : List Value :=
  s .registryNamespace :: c.types.map (·.namespace_)

theorem Collection.directives_eq (s : Settings) (c : Collection) :
    c.directives s = (c.namespaces s).filter (·.truthy) := by
  unfold directives namespaces types
  rw [List.map_cons, List.map_map]
  rfl

namespace Script

open Scope Strategy Outline

/-! ## Lines that import nothing -/

/-- No line looks like an import. -/
def NoImports (lines : List Line) : Prop := ∀ x ∈ lines, isDirective x.text.toList = false

namespace NoImports

variable {depth : Nat} {xs ys : List Line}

@[simp] theorem nil : NoImports [] := fun _ h => absurd h List.not_mem_nil

@[simp] theorem cons_iff {x : Line} :
    NoImports (x :: xs) ↔ isDirective x.text.toList = false ∧ NoImports xs :=
  List.forall_mem_cons

@[simp] theorem append_iff : NoImports (xs ++ ys) ↔ NoImports xs ∧ NoImports ys := List.forall_mem_append

@[simp] theorem block_iff {header : String} :
    NoImports (block depth header xs) ↔ isDirective header.toList = false ∧ NoImports xs := by
  have opening : isDirective ['\x7b'] = false := rfl
  have closing : isDirective ['\x7d'] = false := rfl
  unfold block Line.opening Line.closing
  simp [opening, closing]

end NoImports

/-- A text whose first letter is another one than that of imports. -/
def StartsApart (text : String) : Prop := text.toList.head?.any (· ≠ 'u') = true

instance (text : String) : Decidable (StartsApart text) := inferInstanceAs (Decidable (_ = true))

namespace StartsApart

variable {a : String}

theorem append_left (h : StartsApart a) (b : String) : StartsApart (a ++ b) := by
  unfold StartsApart at h ⊢
  rw [String.toList_append]
  cases start : a.toList with
  | nil =>
    rw [start] at h
    exact absurd h nofun
  | cons first rest =>
    rw [start] at h
    exact h

theorem ne_empty (h : StartsApart a) : a ≠ "" := by
  rintro rfl
  exact absurd h nofun

theorem isDirective (h : StartsApart a) : isDirective a.toList = false := by
  unfold StartsApart at h
  unfold Script.isDirective
  cases start : a.toList with
  | nil => rfl
  | cons first rest =>
    rw [start] at h
    have other : first ≠ 'u' := of_decide_eq_true h
    simp [List.isPrefixOf, other.symm]

end StartsApart

/-- The name of a field with a blank behind it is no import: it is one word, and not the one that begins
imports. -/
theorem isDirective_field {name : String} (word : ∀ c ∈ name.toList, IsWordChar c) (other : name ≠ "using")
    (rest : String) : isDirective (name ++ (" " ++ rest)).toList = false := by
  rw [Bool.eq_false_iff]
  intro looks
  obtain ⟨tail, same⟩ := List.isPrefixOf_iff_prefix.mp looks
  have blank : ∀ c ∈ name.toList, decide (c ≠ ' ') = true := by
    intro c listed
    refine decide_eq_true ?_
    rintro rfl
    exact not_mem_of_isWordChar word (by decide) listed
  -- Both sides are cut at their first blank.
  have cut := congrArg (List.takeWhile fun c => decide (c ≠ ' ')) same
  rw [String.toList_append, String.toList_append, List.takeWhile_append_of_pos blank] at cut
  have first : "using".toList = name.toList := by simpa using cut
  exact other (String.toList_inj.mp first).symm

/-! ## Members -/

section

variable {depth : Nat}

/-- A field whose name, with anything behind it, begins no import. -/
def Apart (field : String) : Prop := ∀ rest : String, isDirective (field ++ (" " ++ rest)).toList = false

theorem Apart.assignment {field : String} (h : Apart field) (value : String) :
    isDirective (field ++ (" = (" ++ value)).toList = false := by
  have blank : " = (" = " " ++ "= (" := rfl
  rw [blank, String.append_assoc]
  exact h _

/-- What fills a field is no import. -/
theorem noImports_getter (typeName lookup : String) {field : String} (h : Apart field) :
    NoImports (Direct.getter depth typeName field lookup) := by
  have header : StartsApart "get" := by decide
  have test : StartsApart ("if (" ++ field ++ " == null)") := .append_left (.append_left (by decide) _) _
  have filled : isDirective (field ++ " = (" ++ typeName ++ ")" ++ lookup ++ ";").toList = false := by
    simpa only [String.append_assoc] using h.assignment (typeName ++ (")" ++ (lookup ++ ";")))
  have result : StartsApart ("return " ++ field ++ ";") := .append_left (.append_left (by decide) _) _
  unfold Direct.getter
  rw [NoImports.block_iff, NoImports.cons_iff, NoImports.cons_iff, NoImports.cons_iff]
  exact ⟨header.isDirective, test.isDirective, filled, result.isDirective, .nil⟩

theorem noImports_property {typeName property : String} {inside : List Line} (h : NoImports inside) :
    NoImports (block depth (Direct.propertyHeader typeName property) inside) := by
  have header : StartsApart (Direct.propertyHeader typeName property) :=
    .append_left (.append_left (.append_left (by decide) _) _) _
  exact NoImports.block_iff.mpr ⟨header.isDirective, h⟩

theorem noImports_method {typeName method : String} {inside : List Line} (h : NoImports inside) :
    NoImports (block depth (TryGet.methodHeader typeName method) inside) := by
  have header : StartsApart (TryGet.methodHeader typeName method) :=
    .append_left (.append_left (.append_left (.append_left (by decide) _) _) _) _
  exact NoImports.block_iff.mpr ⟨header.isDirective, h⟩

theorem noImports_returnLines (value : String) (success : Bool) :
    NoImports (TryGet.returnLines depth value success) := by
  have result : StartsApart ("result = " ++ value ++ ";") := .append_left (.append_left (by decide) _) _
  have answer : StartsApart ("return " ++ (if success then "true" else "false") ++ ";") :=
    .append_left (.append_left (by decide) _) _
  unfold TryGet.returnLines
  rw [NoImports.cons_iff, NoImports.cons_iff]
  exact ⟨result.isDirective, answer.isDirective, .nil⟩

theorem noImports_guardedLines (condition value : String) (success : Bool) :
    NoImports (TryGet.guardedLines depth condition value success) := by
  have test : StartsApart ("if (" ++ condition ++ ")") := .append_left (.append_left (by decide) _) _
  unfold TryGet.guardedLines
  rw [NoImports.append_iff, NoImports.block_iff, NoImports.cons_iff]
  exact ⟨⟨test.isDirective, noImports_returnLines value success⟩, rfl, .nil⟩

/-- What follows the early returns of a method. -/
theorem noImports_filled {field : String} (h : Apart field) (typeName base : String) :
    NoImports (⟨depth, field ++ " = (" ++ typeName ++ base⟩ :: TryGet.returnLines depth field true) := by
  have filled : isDirective (field ++ " = (" ++ typeName ++ base).toList = false := by
    simpa only [String.append_assoc] using h.assignment (typeName ++ base)
  exact NoImports.cons_iff.mpr ⟨filled, noImports_returnLines field true⟩

theorem apart_values : Apart "values" := by
  have word : "values".toList.all (fun c => decide (IsWordChar c)) = true := by decide
  exact isDirective_field (fun c listed => of_decide_eq_true (List.all_eq_true.mp word c listed)) (by decide)

/-- The fields of items are not named by keywords. -/
theorem apart_lower (n : NamedItem) : Apart n.names.lower := by
  obtain ⟨t, ht⟩ := Vocabulary.exists_pairOf n.derived
  rw [ht]
  refine isDirective_field (Vocabulary.isWordChar_lower t) fun same => ?_
  exact Vocabulary.lower_not_mem t (same ▸ by decide)

variable (style : AccessorStyle) (s : Settings) (c : Collection)

theorem noImports_collectionLines : NoImports (collectionLines style depth s c) := by
  cases style with
  | direct => exact noImports_property (noImports_getter _ _ apart_values)
  | tryGet =>
    refine noImports_method ?_
    unfold TryGet.collectionInside
    rw [NoImports.append_iff, NoImports.append_iff]
    exact ⟨noImports_guardedLines _ _ _, noImports_guardedLines _ _ _, noImports_filled apart_values _ _⟩

theorem noImports_itemLines (n : NamedItem) : NoImports (itemLines style depth s c n) := by
  cases style with
  | direct => exact noImports_property (noImports_getter _ _ (apart_lower n))
  | tryGet =>
    refine noImports_method ?_
    unfold TryGet.itemInside
    rw [NoImports.append_iff, NoImports.append_iff, NoImports.append_iff]
    exact ⟨noImports_guardedLines _ _ _, noImports_guardedLines _ _ _, noImports_guardedLines _ _ _,
      noImports_filled (apart_lower n) _ _⟩

theorem noImports_field (typeName name : String) :
    isDirective (fieldLine depth typeName name).text.toList = false :=
  StartsApart.isDirective (.append_left (.append_left (.append_left (.append_left (by decide) _) _) _) _)

theorem noImports_itemFields (named : List NamedItem) : NoImports (named.map (itemField depth)) := by
  intro x listed
  obtain ⟨n, -, rfl⟩ := List.mem_map.mp listed
  exact noImports_field _ _

/-- **No member looks like an import.** -/
theorem noImports_bodyLines (named : List NamedItem) : NoImports (bodyLines style depth s c named) := by
  unfold bodyLines Strategy.fieldLines
  rw [NoImports.append_iff, NoImports.append_iff, NoImports.append_iff, NoImports.cons_iff,
    NoImports.cons_iff]
  refine ⟨⟨⟨noImports_field _ _, noImports_itemFields named⟩, rfl, .nil⟩,
    noImports_collectionLines style s c, fun x listed => ?_⟩
  obtain ⟨n, -, listed⟩ := List.mem_flatMap.mp listed
  rcases List.mem_cons.mp listed with rfl | listed
  · rfl
  · exact noImports_itemLines style s c n x listed

end

/-! ## Scripts -/

variable {s : Settings} {c : Collection}

theorem noImports_closing (c : Collection) : NoImports (closing c) := by
  have brace : isDirective "\x7d".toList = false := by decide
  unfold closing scopeClosing namespaceClosing
  split
  · exact NoImports.cons_iff.mpr ⟨brace, NoImports.cons_iff.mpr ⟨brace, .nil⟩⟩
  · exact NoImports.cons_iff.mpr ⟨brace, .nil⟩

/-- Nothing below the header of a script of a built-in strategy looks like an import, be it written to its end
or not. -/
theorem noImports_emitBody (style : AccessorStyle) (s : Settings) (c : Collection) :
    NoImports (emitBody (builtIn style) s c (levels c.namespace_)).lines := by
  rcases named_or_unnamed c.items with ⟨named, items⟩ | ⟨named, item, rest, fault, items, unnamed⟩
  · rw [emitBody_named style s items]
    exact NoImports.append_iff.mpr ⟨noImports_bodyLines style s c named, noImports_closing c⟩
  · rw [emitBody_unnamed style s items unnamed]
    exact NoImports.cons_iff.mpr ⟨noImports_field _ _, noImports_itemFields named⟩

/-- Below the imports there is a line of code, that of the namespace or of the class. -/
theorem exists_heading (s : Settings) (namespace_ : Option String) (className : String) :
    ∃ first below, namespaceLines namespace_ ++ classLines s (outer namespace_) className = first :: below ∧
      first.text ≠ "" ∧ NoImports (first :: below) := by
  have class_ : StartsApart (classDeclaration className (s .classPartial).truthy (s .classStatic).truthy) :=
    .append_left (.append_left (.append_left (.append_left (by decide) _) _) _) _
  have brace : isDirective "\x7b".toList = false := by decide
  have heading : ∀ depth, NoImports (classLines s depth className) := by
    intro depth
    unfold classLines
    rw [NoImports.cons_iff, NoImports.cons_iff]
    exact ⟨class_.isDirective, brace, .nil⟩
  cases namespace_ with
  | none => exact ⟨_, _, rfl, class_.ne_empty, heading 0⟩
  | some name =>
    have space : StartsApart ("namespace " ++ name) := .append_left (by decide) _
    refine ⟨_, _, rfl, space.ne_empty, ?_⟩
    exact NoImports.cons_iff.mpr ⟨space.isDirective, NoImports.cons_iff.mpr ⟨brace, heading 1⟩⟩

/-- With a plan, the imports stand between the banner and this line. -/
theorem Plan.exists_imports (p : Plan s c) {imported : List String} (kept : p.directives = imported.map .text) :
    ∃ first below, p.opening = bannerLines s ++ (directiveLines imported ++ first :: below) ∧
      first.text ≠ "" ∧ NoImports (first :: below) := by
  obtain ⟨first, below, heading, code, apart⟩ := exists_heading s (p.outline []).namespace_ p.className
  have shown : (p.outline []).directives = imported := by
    show p.directives.map (·.display) = imported
    rw [kept, List.map_map]
    exact List.map_id imported
  refine ⟨first, below, ?_, code, apart⟩
  rw [← p.opening_outline [], Outline.opening, shown]
  show bannerLines s ++ (directiveLines imported ++ (namespaceLines (p.outline []).namespace_ ++
    classLines s (outer (p.outline []).namespace_) p.className)) = _
  rw [heading]

/-- **What a script imports**: a list of namespaces. -/
structure Imports (strategy : Strategy) (s : Settings) (c : Collection) (imported : List String) : Prop where
  /-- these are the namespaces that are not empty -/
  mem_iff : ∀ n, n ∈ imported ↔ .text n ∈ c.namespaces s ∧ n ≠ ""
  /-- each of them once -/
  nodup : imported.Nodup
  /-- among them is that of every type the script mentions -/
  types : ∀ t ∈ c.types, ∀ n, t.namespace_ = .text n → n ≠ "" → n ∈ imported
  /-- if the script has a header, they stand below the banner, with one blank line behind them if there are
  any; no line further down is an import, unless a strategy writes one that is not built in -/
  lines : (s .banner).elements?.isSome = true → (∃ className, c.className = .ok className) →
    ∃ first header body, (emit strategy s c).lines =
        bannerLines s ++ (directiveLines imported ++ first :: (header ++ body)) ∧
      first.text ≠ "" ∧ NoImports (first :: header) ∧ ∀ style, strategy = builtIn style → NoImports body
  /-- without a header, nothing is written -/
  unwritten : ¬((s .banner).elements?.isSome = true ∧ ∃ className, c.className = .ok className) →
    emit strategy s c = ⟨[], .error .wrongType⟩

/-- What is kept of the directives of a collection whose namespaces are texts. -/
theorem dedupe_directives {names : List String} (texts : c.namespaces s = names.map .text) :
    dedupe (c.directives s) = .ok ((firstOccurrences names).map .text) := by
  have named : (names.map Value.text).filter (·.truthy) = (names.filter (· ≠ "")).map .text :=
    List.filter_map
  have once : firstOccurrences (names.filter (· ≠ "")) = firstOccurrences names := by
    unfold firstOccurrences
    rw [List.filter_filter]
    simp only [Bool.and_self]
  rw [c.directives_eq s, texts, named, dedupe_texts, once]

/-- **A script imports each namespace where it occurs first**, and dropping repetitions once more, or from
directives that follow a list without any, changes nothing. -/
theorem imports_emit (strategy : Strategy) {names : List String} (texts : c.namespaces s = names.map .text) :
    Imports strategy s c (firstOccurrences names) ∧
    dedupe (c.namespaces s) = .ok ((firstOccurrences names).map .text) ∧
    ∀ directives unique, dedupe directives = .ok unique → dedupe unique = .ok unique ∧
      ∀ others, dedupe (unique ++ others) = dedupe (directives ++ others) := by
  have listed : ∀ n, .text n ∈ c.namespaces s ↔ n ∈ names := by
    intro n
    rw [texts, List.mem_map]
    exact ⟨fun ⟨m, listed, same⟩ => Value.text.inj same ▸ listed, fun listed => ⟨n, listed, rfl⟩⟩
  have keyed : ∀ d ∈ c.directives s, d.truthy = true → d.key?.isSome = true := by
    intro d among _
    rw [c.directives_eq s, texts] at among
    obtain ⟨n, -, rfl⟩ := List.mem_map.mp (List.mem_filter.mp among).1
    rfl
  refine ⟨⟨fun n => ?_, nodup_firstOccurrences names, fun t mentioned n own some_ => ?_, ?_, ?_⟩, ?_,
    fun directives unique h => ⟨dedupe_dedupe h, dedupe_append h⟩⟩
  · rw [mem_firstOccurrences, listed]
  · refine mem_firstOccurrences.mpr ⟨(listed n).mp ?_, some_⟩
    rw [← own]
    exact List.mem_cons_of_mem _ (List.mem_map_of_mem mentioned)
  · rintro banner ⟨className, named⟩
    obtain ⟨p⟩ := (nonempty_plan_iff named).mpr ⟨banner, keyed⟩
    have kept : p.directives = (firstOccurrences names).map .text :=
      Except.ok.inj (p.kept.symm.trans (dedupe_directives texts))
    obtain ⟨first, header, opening, code, apart⟩ := p.exists_imports kept
    refine ⟨first, header, (emitBody strategy s c (levels c.namespace_)).lines, ?_, code, apart, ?_⟩
    · rw [emit_plan strategy p, opening, List.append_assoc, List.append_assoc, List.cons_append]
    · rintro style rfl
      exact noImports_emitBody style s c
  · intro headless
    refine emit_unplanned strategy fun ⟨p⟩ => headless ⟨?_, p.className, p.named⟩
    exact ((nonempty_plan_iff p.named).mp ⟨p⟩).1
  · rw [texts, dedupe_texts]

/-- The fruits and their collection share a namespace, which is imported once, below that of the registry. -/
theorem imports_emit_fruits :
    Collection.fruits.namespaces .defaults =
      ["BrunoMikoski.ScriptableObjectCollections", "Game.Fruits", "Game.Fruits", "Game.Fruits"].map .text ∧
    Imports (builtIn .direct) .defaults .fruits
      ["BrunoMikoski.ScriptableObjectCollections", "Game.Fruits"] := by
  have once : firstOccurrences
      ["BrunoMikoski.ScriptableObjectCollections", "Game.Fruits", "Game.Fruits", "Game.Fruits"] =
      ["BrunoMikoski.ScriptableObjectCollections", "Game.Fruits"] := by decide
  exact ⟨rfl, once ▸ (imports_emit (builtIn .direct) rfl).1⟩

end Script

end StaticAccessors
