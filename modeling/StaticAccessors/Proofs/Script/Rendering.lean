import StaticAccessors.Proofs.Registry
import StaticAccessors.Proofs.Script.Imports
import StaticAccessors.Proofs.Strategy.Collisions

/-!
# Values that no script can be made of

A manifest is read without a look at the kinds of most of its values: whatever is there is taken for a name, and
an object can give anything for a namespace. Most of it does no harm, since scripts show values of any kind as
texts. Three uses are particular (`Unfit`): names are turned into identifiers, the names of items that collide are
joined, and the namespaces of types are compared with one another to list each once.

So a collection that a manifest is read as has a script, or is refused because its members collide, exactly if
nothing in it is unfit; otherwise it fails for a value of an unfit kind (`render_accepted`).

## Contents
- `Comparable`, and `writable_defaults_iff`: scripts in the default settings.
- `Unfit`, and `not_unfit`.
- `render_cases`; `RendersExactly`, and `render_accepted`.
-/

namespace StaticAccessors

open Outcome

namespace Script

open Strategy (Collide Tellable holders checkIdentifiers)

variable {style : AccessorStyle} {c : Collection} {className : String}

/-! ## Default settings -/

/-- The namespaces of the types that a script mentions can be compared, if they are there at all. -/
def Comparable (c : Collection) : Prop :=
  ∀ t ∈ c.types, t.namespace_.truthy = true → t.namespace_.key?.isSome = true

/-- What is imported by default can be compared exactly if the namespaces of the types can be. -/
theorem directives_defaults_iff :
    (∀ d ∈ c.directives .defaults, d.truthy = true → d.key?.isSome = true) ↔ Comparable c := by
  rw [Collection.directives_eq]
  unfold Collection.namespaces
  constructor
  · intro scalar t mentioned truthy
    have listed : t.namespace_ ∈ c.types.map (·.namespace_) := List.mem_map_of_mem mentioned
    exact scalar _ (List.mem_filter.mpr ⟨List.mem_cons_of_mem _ listed, truthy⟩) truthy
  · intro scalar d kept truthy
    rcases List.mem_cons.mp (List.mem_filter.mp kept).1 with rfl | listed
    · rfl
    · obtain ⟨t, mentioned, rfl⟩ := List.mem_map.mp listed
      exact scalar t mentioned truthy

/-- **A script can be written by default** exactly if the namespaces of its types can be compared. -/
theorem writable_defaults_iff : Writable style .defaults c ↔ Comparable c := by
  rw [← directives_defaults_iff]
  exact ⟨Writable.directives, fun scalar => ⟨indents_of_indentSize rfl, rfl, rfl, scalar⟩⟩

/-- A script that cannot be written by default fails for a value of an unfit kind. -/
theorem print_defaults_error {strategy : Strategy} (class_ : c.className = .ok className)
    (unfit : ¬Comparable c) : (print strategy .defaults c).outcome = .error .wrongType := by
  have settled : ∃ l, Layout.ofSettings .defaults = .ok l := ⟨_, rfl⟩
  obtain ⟨l, settled⟩ := settled
  refine print_unplanned settled fun plan => unfit ?_
  exact directives_defaults_iff.mp ((nonempty_plan_iff class_).mp plan).2

/-! ## Unfit values -/

/-- A collection holds a value that no script can be made of. -/
inductive Unfit (c : Collection) : Prop
  /-- Its name, or that of an item, cannot be turned into identifiers. -/
  | name : ¬c.name.Nameable → Unfit c
  | item {item : Item} : item ∈ c.items → ¬item.name.Nameable → Unfit c
  /-- An item shares an identifier with another member, and its name is no text, so the report cannot be made. -/
  | owner {className identifier : String} {item : Item} : c.className = .ok className → item ∈ c.items →
      item.derives identifier = true → 2 ≤ (holders className c identifier).length →
      item.name.isText = false → Unfit c
  /-- Nothing collides, but the namespace of a type is a list or an object, and not empty. -/
  | namespace_ {className : String} {t : TypeRef} : c.className = .ok className → ¬Collide className c →
      t ∈ c.types → t.namespace_.truthy = true → t.namespace_.key? = none → Unfit c

variable {named : List NamedItem}

/-- The class of a collection has a name exactly if the collection has one that can be turned into it. -/
theorem exists_className_iff : (∃ className, c.className = .ok className) ↔ c.name.Nameable := by
  rw [← Vocabulary.keywords.exists_derive_iff]
  constructor
  · rintro ⟨className, class_⟩
    obtain ⟨names, derived, -⟩ := map_eq_ok.mp class_
    exact ⟨names, derived⟩
  · rintro ⟨names, derived⟩
    exact ⟨names.upper, map_eq_ok.mpr ⟨names, derived, rfl⟩⟩

/-- Nothing is unfit where there are identifiers throughout, what collides can be told, and, if nothing does,
the namespaces can be compared. -/
theorem not_unfit (class_ : c.className = .ok className) (listed : c.items = named.map (·.item))
    (told : Tellable className c)
    (scalar : ¬Collide className c → Comparable c) : ¬Unfit c := by
  intro unfit
  cases unfit with
  | name unnamed => exact unnamed (exists_className_iff.mp ⟨className, class_⟩)
  | item own unnamed =>
    rw [listed] at own
    obtain ⟨n, -, rfl⟩ := List.mem_map.mp own
    exact unnamed (Vocabulary.keywords.exists_derive_iff.mp ⟨n.names, n.derived⟩)
  | owner same own derived several noText =>
    obtain rfl := Except.ok.inj (class_.symm.trans same)
    exact absurd ((told _ own _ derived several).symm.trans noText) nofun
  | namespace_ same apart mentioned truthy noKey =>
    obtain rfl := Except.ok.inj (class_.symm.trans same)
    have some_ := scalar apart _ mentioned truthy
    rw [noKey] at some_
    exact absurd some_ nofun

/-! ## Rendering -/

/-- A collection whose members collide is refused for it, if that can be told. -/
theorem render_of_collide (class_ : c.className = .ok className) (listed : c.items = named.map (·.item))
    (collide : Collide className c) (told : Tellable className c) :
    ∃ cause, (render .builtin .defaults c).1 = .error (.collisions cause) := by
  have several : Strategy.reported className c named ≠ [] := fun none_ =>
    (Strategy.reported_eq_nil_iff (c.startsSmall_className class_) listed).mp none_ collide
  have refused := Strategy.checkIdentifiers_eq class_ listed told
  rw [if_neg several] at refused
  exact ⟨_, render_of_unchecked (Registry.lookup_builtin c.style) refused⟩

/-- One whose members have identifiers of their own is rendered as it is printed. -/
theorem render_of_apart (class_ : c.className = .ok className) (listed : c.items = named.map (·.item))
    (apart : ¬Collide className c) :
    checkIdentifiers c = .ok () ∧ (render .builtin .defaults c).1 =
      (print (Strategy.builtIn c.style) .defaults c).outcome.map fun () =>
        (print (Strategy.builtIn c.style) .defaults c).text := by
  have small := c.startsSmall_className class_
  have passed := Strategy.checkIdentifiers_eq class_ listed (Strategy.tellable_of_not_collide small listed apart)
  rw [if_pos ((Strategy.reported_eq_nil_iff small listed).mpr apart)] at passed
  exact ⟨passed, render_of_checked (Registry.lookup_builtin c.style) passed⟩

/-- **What becomes of a collection**: if anything in it is unfit it fails for that; otherwise it is refused if its
members collide, and rendered if they do not. -/
theorem render_cases (c : Collection) :
    Unfit c ∧ (render .builtin .defaults c).1 = .error .wrongType ∨
      ¬Unfit c ∧ ∃ className, c.className = .ok className ∧
        (Collide className c ∧ (∃ cause, (render .builtin .defaults c).1 = .error (.collisions cause)) ∨
          ¬Collide className c ∧ ∃ text, (render .builtin .defaults c).1 = .ok text) := by
  have lookup := Registry.lookup_builtin c.style
  cases class_ : c.className with
  | error fault =>
    refine .inl ⟨.name fun nameable => ?_, render_of_unchecked lookup (Strategy.checkIdentifiers_classless class_)⟩
    obtain ⟨className, has⟩ := exists_className_iff.mpr nameable
    exact absurd (class_.symm.trans has) nofun
  | ok className =>
  rcases named_or_unnamed c.items with ⟨named, listed⟩ | ⟨front, item, rest, fault, here, unnamed⟩
  · by_cases collide : Collide className c
    · by_cases told : Tellable className c
      · have fit := not_unfit class_ listed told fun apart => absurd collide apart
        exact .inr ⟨fit, className, rfl, .inl ⟨collide, render_of_collide class_ listed collide told⟩⟩
      · -- The name of an item that collides is no text, so the report cannot be made.
        have refused := render_of_unchecked (s := .defaults) lookup
          (Strategy.checkIdentifiers_untold class_ listed told)
        unfold Tellable at told
        push Not at told
        obtain ⟨item, own, identifier, derived, several, noText⟩ := told
        exact .inl ⟨.owner class_ own derived several (Bool.eq_false_iff.mpr noText), refused⟩
    · -- The check is passed, and only the namespaces are still in question.
      obtain ⟨passed, rendered⟩ := render_of_apart class_ listed collide
      rw [rendered]
      by_cases scalar : Comparable c
      · have told := Strategy.tellable_of_not_collide (c.startsSmall_className class_) listed collide
        have fit := not_unfit class_ listed told fun _ => scalar
        rw [(print_eq_ok_iff passed).mpr (writable_defaults_iff.mpr scalar)]
        exact .inr ⟨fit, className, rfl, .inr ⟨collide, _, rfl⟩⟩
      · rw [print_defaults_error class_ scalar]
        unfold Comparable at scalar
        push Not at scalar
        obtain ⟨t, mentioned, truthy, noKey⟩ := scalar
        exact .inl ⟨.namespace_ class_ collide mentioned truthy (Option.not_isSome_iff_eq_none.mp noKey), rfl⟩
  · have own : item ∈ c.items := by
      rw [here]
      exact List.mem_append_right _ List.mem_cons_self
    refine .inl ⟨.item own fun nameable => ?_,
      render_of_unchecked lookup (Strategy.checkIdentifiers_unnamed class_ own unnamed)⟩
    obtain ⟨names, derived⟩ := Vocabulary.keywords.exists_derive_iff.mpr nameable
    exact absurd (derived.symm.trans unnamed) nofun

/-- What becomes of a collection, outcome by outcome. -/
structure RendersExactly (c : Collection) (outcome : Except Fault String) : Prop where
  ends : ((∃ text, outcome = .ok text) ∨ ∃ cause, outcome = .error (.collisions cause)) ↔ ¬Unfit c
  unfit : Unfit c → outcome = .error .wrongType
  collides : ∀ className, c.className = .ok className → ¬Unfit c →
    ((∃ cause, outcome = .error (.collisions cause)) ↔ Collide className c)

/-- **What becomes of a manifest.** It is refused, or it is read as a collection. A collection is rendered, or
refused for its collisions, exactly if nothing in it is unfit. What is unfit was not noticed when the manifest was
read, and shows only now. -/
theorem render_accepted (manifest defaultStyle : Value) :
    (∃ refusal, Collection.ofManifest manifest defaultStyle = .error refusal) ∨
      ∃ c, Collection.ofManifest manifest defaultStyle = .ok c ∧
        RendersExactly c (render .builtin .defaults c).1 := by
  cases accepted : Collection.ofManifest manifest defaultStyle with
  | error refusal => exact .inl ⟨refusal, rfl⟩
  | ok c =>
  refine .inr ⟨c, rfl, ?_⟩
  rcases render_cases c with ⟨unfit, failed⟩ | ⟨fit, className, class_, ⟨collide, cause, refused⟩ | ⟨apart, text, rendered⟩⟩
  · rw [failed]
    exact {
      ends := iff_of_false (fun ends => ends.elim nofun nofun) (not_not.mpr unfit)
      unfit := fun _ => rfl
      collides := fun _ _ fit => absurd unfit fit }
  · rw [refused]
    refine ⟨iff_of_true (.inr ⟨cause, rfl⟩) fit, fun unfit => absurd unfit fit, fun other same _ => ?_⟩
    obtain rfl := Except.ok.inj (class_.symm.trans same)
    exact iff_of_true ⟨cause, rfl⟩ collide
  · rw [rendered]
    refine ⟨iff_of_true (.inl ⟨text, rfl⟩) fit, fun unfit => absurd unfit fit, fun other same _ => ?_⟩
    obtain rfl := Except.ok.inj (class_.symm.trans same)
    exact iff_of_false (fun ⟨_, collided⟩ => absurd collided nofun) apart

/-- A manifest whose collection is named by a number. -/
def numbered : Value := .object [("name", .int 5), ("guid", .text "g1"), ("type", .text "Game.FruitCollection"),
  ("source_path", .text "Assets/FruitCollection.cs")]

/-- It is accepted, and no script can be made of it. -/
theorem numbered_accepted :
    ∃ c, Collection.ofManifest numbered (.text "direct") = .ok c ∧
      (render .builtin .defaults c).1 = .error .wrongType := by
  have accepted : Collection.ofManifest numbered (.text "direct") =
      .ok ⟨.int 5, .text "g1", ⟨.text "FruitCollection", .text "Game"⟩, ⟨.text "FruitCollection", .text "Game"⟩,
        .text "Assets/FruitCollection.cs", .text "Game", .direct, []⟩ := by
    rfl
  refine ⟨_, accepted, ?_⟩
  have unnamed : ¬(Value.int 5).Nameable := fun nameable => nameable.elim nofun fun isFalse => absurd isFalse.1 nofun
  rcases render_cases _ with ⟨-, failed⟩ | ⟨fit, -⟩
  · exact failed
  · exact absurd (.name unnamed) fit

end Script

end StaticAccessors
