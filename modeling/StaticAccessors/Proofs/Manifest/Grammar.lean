import Mathlib.Data.List.Forall2
import Mathlib.Data.List.TakeWhile
import StaticAccessors.Manifest.Collection
import StaticAccessors.Proofs.Outcome
import StaticAccessors.Proofs.Text.Cutting

/-!
# The grammar of manifests

A manifest is accepted exactly if it is of a certain form (`IsManifest`). The tests of this form stand in
several places and have different notions of what is empty: what has to be there (`Present`) may be zero,
`false` or an empty list, while what may be declared counts as missing if it is false in any way.

What each part of a manifest is read as is a relation of its own, and the function that reads the part gives a
result exactly if the relation holds (`…_eq_ok_iff`). The form of a part is then what can be read as something.

## Contents
- `Present`, `Refers`, `Spells`: fields, types and styles, and how they are read.
- `Describes`: entries and items.
- `Reads`: manifests and collections.
- `IsTypeReference`, `IsStyle`, `IsEntry`, `IsManifest`: the grammar.
- `ofManifest_grammar`.
-/

namespace StaticAccessors

open Outcome Text

/-! ## Texts -/

namespace Text

theorem trim_of_isBlankText {s : String} (h : isBlankText s = true) : trim s = "" := by
  have empty : trimLeft s.toList = [] := List.dropWhile_eq_nil_iff.mpr (List.all_eq_true.mp h)
  unfold trim
  rw [empty]
  rfl

end Text

namespace Manifest

/-! ## Fields -/

variable {fields : Fields} {key : String} {v : Value}

/-- A field that is there, and neither `null` nor empty. -/
structure Present (fields : Fields) (key : String) (v : Value) : Prop where
  found : Table.get? fields key = some v
  notNull : v ≠ .null
  notEmpty : v ≠ .text ""

theorem require_eq_ok_iff {owner : Owner} :
    Collection.require fields key owner = .ok v ↔ Present fields key v := by
  unfold Collection.require
  constructor
  · intro h
    split at h
    · exact absurd h nofun
    · exact absurd h nofun
    · rename_i s found
      split at h
      · exact absurd h nofun
      · rename_i full
        obtain rfl := Except.ok.inj h
        exact ⟨found, nofun, fun empty => full (Value.text.inj empty)⟩
    · rename_i w noNull noText found
      obtain rfl := Except.ok.inj h
      exact ⟨found, noNull, noText ""⟩
  · rintro ⟨found, notNull, notEmpty⟩
    rw [found]
    cases v with
    | null => exact absurd rfl notNull
    | text s => exact if_neg fun empty => notEmpty (congrArg _ empty)
    | _ => rfl

/-! ## Types -/

/-- What a value refers to: an object to the name in it, which must not be false, and a text to what stands
after its last dot, or to the whole if it has none, the white space at its ends apart. -/
inductive Refers : Value → TypeRef → Prop
  | mapping {fields : Fields} {name : Value} (named : Table.get? fields "name" = some name)
      (given : name.truthy = true) :
      Refers (.object fields) ⟨name, ((Table.get? fields "namespace").getD .null).orElse (.text "")⟩
  | dotted {s : String} {before after : List Char} (cut : (trim s).toList = before ++ '.' :: after)
      (last : '.' ∉ after) : Refers (.text s) ⟨.text (String.ofList after), .text (String.ofList before)⟩
  | plain {s : String} (some_ : isBlankText s = false) (undotted : '.' ∉ (trim s).toList) :
      Refers (.text s) ⟨.text (trim s), .text ""⟩

theorem refers_text_iff {s : String} {t : TypeRef} :
    Refers (.text s) t ↔ isBlankText s = false ∧ t = TypeRef.ofDotted (trim s) := by
  unfold TypeRef.ofDotted
  constructor
  · intro h
    cases h with
    | dotted cut last =>
      rw [cut, splitLast?_append _ last]
      refine ⟨?_, rfl⟩
      cases blank : isBlankText s with
      | false => rfl
      | true =>
        rw [trim_of_isBlankText blank] at cut
        exact absurd cut.symm (List.append_ne_nil_of_right_ne_nil _ (List.cons_ne_nil _ _))
    | plain some_ undotted =>
      rw [splitLast?_of_not_mem undotted]
      exact ⟨some_, rfl⟩
  · intro ⟨some_, same⟩
    rw [same]
    by_cases dotted : '.' ∈ (trim s).toList
    · obtain ⟨before, after, cut, last⟩ := exists_last dotted
      rw [cut, splitLast?_append before last]
      exact .dotted cut last
    · rw [splitLast?_of_not_mem dotted]
      exact .plain some_ dotted

/-- **What a type is read as** is what it refers to. -/
theorem parse_eq_ok_iff {t : TypeRef} : TypeRef.parse v = .ok t ↔ Refers v t := by
  cases v with
  | object fields =>
    have parsed : TypeRef.parse (.object fields) =
        if ((Table.get? fields "name").getD .null).truthy then
          .ok ⟨(Table.get? fields "name").getD .null,
            ((Table.get? fields "namespace").getD .null).orElse (.text "")⟩
        else .error (.unnamedType (.object fields)) := rfl
    rw [parsed]
    constructor
    · intro h
      split at h
      · rename_i given
        obtain rfl := Except.ok.inj h
        cases named : Table.get? fields "name" with
        | none =>
          rw [named] at given
          exact absurd given nofun
        | some name =>
          rw [named] at given
          exact .mapping named given
      · exact absurd h nofun
    · intro h
      cases h with
      | mapping named given =>
        rw [named]
        exact if_pos given
  | text s =>
    have parsed : TypeRef.parse (.text s) =
        if isBlankText s then .error (.invalidType (.text s)) else .ok (TypeRef.ofDotted (trim s)) := rfl
    rw [parsed, refers_text_iff]
    cases isBlankText s with
    | true => exact iff_of_false nofun fun ⟨some_, _⟩ => absurd some_ nofun
    | false => exact ⟨fun h => ⟨rfl, (Except.ok.inj h).symm⟩, fun ⟨_, same⟩ => same ▸ rfl⟩
  | _ => exact iff_of_false nofun nofun

/-- The type of the elements as a manifest declares it, or else the type of the collection. -/
inductive DeclaresType (fields : Fields) (type : TypeRef) : TypeRef → Prop
  | declared {v : Value} {t : TypeRef} (found : Table.get? fields "element_type" = some v)
      (given : v.truthy = true) (refers : Refers v t) : DeclaresType fields type t
  | missing (none_ : ∀ v, Table.get? fields "element_type" = some v → v.truthy = false) :
      DeclaresType fields type type

theorem elementTypeOf_eq_ok_iff {type t : TypeRef} :
    Collection.elementTypeOf fields type = .ok t ↔ DeclaresType fields type t := by
  unfold Collection.elementTypeOf
  constructor
  · intro h
    split at h
    · rename_i v found
      split at h
      · rename_i given
        exact .declared found given (parse_eq_ok_iff.mp h)
      · rename_i empty
        obtain rfl := Except.ok.inj h
        refine .missing fun w other => ?_
        obtain rfl := Option.some.inj (found.symm.trans other)
        exact (Bool.not_eq_true _).mp empty
    · rename_i none_
      obtain rfl := Except.ok.inj h
      exact .missing fun w found => absurd (none_.symm.trans found) nofun
  · intro h
    cases h with
    | declared found given refers =>
      rw [found]
      exact (if_pos given).trans (parse_eq_ok_iff.mpr refers)
    | missing none_ =>
      cases found : Table.get? fields "element_type" with
      | none => rfl
      | some v => exact if_neg (by rw [none_ v found]; exact Bool.false_ne_true)

/-! ## Styles -/

/-- A value that spells a style, in any of its spellings. -/
def Spells (v : Value) (style : AccessorStyle) : Prop := (normalizeName v.display, style) ∈ AccessorStyle.spellings

theorem style_eq_ok_iff {style : AccessorStyle} : AccessorStyle.parse v = .ok style ↔ Spells v style := by
  have lookup_iff (name : String) :
      AccessorStyle.spellings.lookup name = some style ↔ (name, style) ∈ AccessorStyle.spellings := by
    constructor
    · intro h
      obtain ⟨front, back, split, -⟩ := List.lookup_eq_some_iff.mp h
      rw [split]
      exact List.mem_append_right _ List.mem_cons_self
    · intro h
      simp only [AccessorStyle.spellings, List.mem_cons, Prod.mk.injEq, List.not_mem_nil, or_false] at h
      rcases h with ⟨rfl, rfl⟩ | ⟨rfl, rfl⟩ | ⟨rfl, rfl⟩ | ⟨rfl, rfl⟩ | ⟨rfl, rfl⟩ | ⟨rfl, rfl⟩ | ⟨rfl, rfl⟩
      all_goals rfl
  unfold Spells AccessorStyle.parse
  rw [← lookup_iff]
  cases AccessorStyle.spellings.lookup (normalizeName v.display) with
  | none => exact iff_of_false nofun nofun
  | some style => exact ⟨fun h => congrArg some (Except.ok.inj h), fun h => congrArg Except.ok (Option.some.inj h)⟩

/-! ## Entries -/

/-- What an entry of the item list says of an item. -/
inductive Describes : Value → Item → Prop
  | intro {fields : Fields} {name guid type : Value} {t : TypeRef} (named : Present fields "name" name)
      (identified : Present fields "guid" guid) (typed : Present fields "type" type) (refers : Refers type t) :
      Describes (.object fields) ⟨name, .text guid.display, t⟩

theorem itemOf_eq_ok_iff {collection entry : Value} {index : Nat} {item : Item} :
    Collection.itemOf collection index entry = .ok item ↔ Describes entry item := by
  unfold Collection.itemOf
  constructor
  · intro h
    split at h
    · obtain ⟨name, named, h⟩ := bind_eq_ok.mp h
      obtain ⟨guid, identified, h⟩ := bind_eq_ok.mp h
      obtain ⟨type, typed, h⟩ := bind_eq_ok.mp h
      obtain ⟨t, refers, h⟩ := bind_eq_ok.mp h
      obtain rfl := Except.ok.inj h
      exact .intro (require_eq_ok_iff.mp named) (require_eq_ok_iff.mp identified) (require_eq_ok_iff.mp typed)
        (parse_eq_ok_iff.mp refers)
    · exact absurd h nofun
  · rintro ⟨named, identified, typed, refers⟩
    exact bind_eq_ok.mpr ⟨_, require_eq_ok_iff.mpr named, bind_eq_ok.mpr ⟨_, require_eq_ok_iff.mpr identified,
      bind_eq_ok.mpr ⟨_, require_eq_ok_iff.mpr typed, bind_eq_ok.mpr ⟨_, parse_eq_ok_iff.mpr refers, rfl⟩⟩⟩⟩

/-- **Items are read one per entry, in the order of the entries.** -/
theorem itemsOf_eq_ok_iff {collection : Value} {index : Nat} {entries : List Value} {items : List Item} :
    Collection.itemsOf collection index entries = .ok items ↔ List.Forall₂ Describes entries items := by
  -- The index is told in refusals only, so any will do.
  induction entries generalizing index items with
  | nil =>
    rw [List.forall₂_nil_left_iff]
    exact ⟨fun h => (Except.ok.inj h).symm, fun h => h ▸ rfl⟩
  | cons entry rest ih =>
    rw [List.forall₂_cons_left_iff]
    unfold Collection.itemsOf
    constructor
    · intro h
      obtain ⟨item, first, h⟩ := bind_eq_ok.mp h
      obtain ⟨items, later, h⟩ := bind_eq_ok.mp h
      exact ⟨item, items, itemOf_eq_ok_iff.mp first, ih.mp later, (Except.ok.inj h).symm⟩
    · rintro ⟨item, items, first, later, rfl⟩
      exact bind_eq_ok.mpr ⟨item, itemOf_eq_ok_iff.mpr first, bind_eq_ok.mpr ⟨items, ih.mpr later, rfl⟩⟩

/-! ## Manifests -/

/-- The entries that a manifest lists: none if it has no list. -/
inductive Lists (fields : Fields) : List Value → Prop
  | absent (none_ : Table.get? fields "items" = none) : Lists fields []
  | listed {entries : List Value} (found : Table.get? fields "items" = some (.list entries)) : Lists fields entries

/-- The style that a manifest declares, or else the default. -/
def styleIn (fields : Fields) (defaultStyle : Value) : Value :=
  ((Table.get? fields "generation_type").getD .null).orElse defaultStyle

/-- What a manifest says of a collection. -/
structure Reads (defaultStyle : Value) (fields : Fields) (c : Collection) : Prop where
  name : Present fields "name" c.name
  guid : ∃ guid, Present fields "guid" guid ∧ c.guid = .text guid.display
  type : ∃ type, Present fields "type" type ∧ Refers type c.type
  elementType : DeclaresType fields c.type c.elementType
  sourcePath : Present fields "source_path" c.sourcePath
  namespace_ : c.namespace_ = Collection.namespaceOf fields c.elementType
  style : Spells (styleIn fields defaultStyle) c.style
  items : ∃ entries, Lists fields entries ∧ List.Forall₂ Describes entries c.items

/-- The items of a manifest, on their own. -/
def itemsIn (fields : Fields) (collection : Value) : Except SchemaError (List Item) :=
  match Table.get? fields "items" with
  | none => .ok []
  | some (.list entries) => Collection.itemsOf collection 0 entries
  | some _ => .error (.itemsNotAList collection)

theorem itemsIn_eq_ok_iff {collection : Value} {items : List Item} :
    itemsIn fields collection = .ok items ↔
      ∃ entries, Lists fields entries ∧ List.Forall₂ Describes entries items := by
  unfold itemsIn
  constructor
  · intro h
    split at h
    · rename_i none_
      obtain rfl := Except.ok.inj h
      exact ⟨[], .absent none_, .nil⟩
    · rename_i entries found
      exact ⟨entries, .listed found, itemsOf_eq_ok_iff.mp h⟩
    · exact absurd h nofun
  · rintro ⟨entries, lists, described⟩
    cases lists with
    | absent none_ =>
      rw [none_]
      exact congrArg Except.ok (List.forall₂_nil_left_iff.mp described).symm
    | listed found =>
      rw [found]
      exact itemsOf_eq_ok_iff.mpr described

/-- A manifest is read field by field. -/
theorem ofManifest_object (fields : Fields) (defaultStyle : Value) :
    Collection.ofManifest (.object fields) defaultStyle = (do
      let name ← Collection.require fields "name" .collection
      let type ← Collection.require fields "type" (.namedCollection name)
      let type ← TypeRef.parse type
      let elementType ← Collection.elementTypeOf fields type
      let guid ← Collection.require fields "guid" (.namedCollection name)
      let sourcePath ← Collection.require fields "source_path" (.namedCollection name)
      let style ← AccessorStyle.parse (styleIn fields defaultStyle)
      let items ← itemsIn fields name
      return ⟨name, .text guid.display, type, elementType, sourcePath,
        Collection.namespaceOf fields elementType, style, items⟩) := by
  unfold Collection.ofManifest itemsIn styleIn
  dsimp only
  cases found : Table.get? fields "items" with
  | none => rfl
  | some v => cases v <;> rfl

/-- **A manifest is read as what it says.** -/
theorem ofManifest_eq_ok_iff {defaultStyle : Value} {c : Collection} :
    Collection.ofManifest (.object fields) defaultStyle = .ok c ↔ Reads defaultStyle fields c := by
  rw [ofManifest_object]
  constructor
  · intro h
    obtain ⟨name, named, h⟩ := bind_eq_ok.mp h
    obtain ⟨typed, given, h⟩ := bind_eq_ok.mp h
    obtain ⟨type, refers, h⟩ := bind_eq_ok.mp h
    obtain ⟨elementType, declared, h⟩ := bind_eq_ok.mp h
    obtain ⟨guid, identified, h⟩ := bind_eq_ok.mp h
    obtain ⟨sourcePath, placed, h⟩ := bind_eq_ok.mp h
    obtain ⟨style, spelled, h⟩ := bind_eq_ok.mp h
    obtain ⟨items, listed, h⟩ := bind_eq_ok.mp h
    obtain rfl := Except.ok.inj h
    exact {
      name := require_eq_ok_iff.mp named
      guid := ⟨guid, require_eq_ok_iff.mp identified, rfl⟩
      type := ⟨typed, require_eq_ok_iff.mp given, parse_eq_ok_iff.mp refers⟩
      elementType := elementTypeOf_eq_ok_iff.mp declared
      sourcePath := require_eq_ok_iff.mp placed
      namespace_ := rfl
      style := style_eq_ok_iff.mp spelled
      items := itemsIn_eq_ok_iff.mp listed }
  · intro h
    obtain ⟨guid, identified, guidText⟩ := h.guid
    obtain ⟨typed, given, refers⟩ := h.type
    refine bind_eq_ok.mpr ⟨c.name, require_eq_ok_iff.mpr h.name, ?_⟩
    refine bind_eq_ok.mpr ⟨typed, require_eq_ok_iff.mpr given, ?_⟩
    refine bind_eq_ok.mpr ⟨c.type, parse_eq_ok_iff.mpr refers, ?_⟩
    refine bind_eq_ok.mpr ⟨c.elementType, elementTypeOf_eq_ok_iff.mpr h.elementType, ?_⟩
    refine bind_eq_ok.mpr ⟨guid, require_eq_ok_iff.mpr identified, ?_⟩
    refine bind_eq_ok.mpr ⟨c.sourcePath, require_eq_ok_iff.mpr h.sourcePath, ?_⟩
    refine bind_eq_ok.mpr ⟨c.style, style_eq_ok_iff.mpr h.style, ?_⟩
    refine bind_eq_ok.mpr ⟨c.items, itemsIn_eq_ok_iff.mpr h.items, ?_⟩
    rw [← guidText, ← h.namespace_]
    rfl

/-! ## The grammar -/

/-- A type reference: an object with a name that is not false, or a text that is not blank. -/
def IsTypeReference : Value → Prop
  | .object fields => ∃ name, Table.get? fields "name" = some name ∧ name.truthy = true
  | .text s => isBlankText s = false
  | _ => False

/-- A value that comes to one of the spellings of a style, when it is compared. -/
def IsStyle (v : Value) : Prop := normalizeName v.display ∈ AccessorStyle.spellings.map (·.1)

/-- An entry of the item list: an object with a name, an identifier and a type. -/
inductive IsEntry : Value → Prop
  | intro {fields : Fields} (name : ∃ v, Present fields "name" v) (guid : ∃ v, Present fields "guid" v)
      (type : ∃ v, Present fields "type" v ∧ IsTypeReference v) : IsEntry (.object fields)

/-- A manifest, if some style is the default. -/
inductive IsManifest (defaultStyle : Value) : Value → Prop
  | intro {fields : Fields} (name : ∃ v, Present fields "name" v) (guid : ∃ v, Present fields "guid" v)
      (sourcePath : ∃ v, Present fields "source_path" v)
      (type : ∃ v, Present fields "type" v ∧ IsTypeReference v)
      (elementType : ∀ v, Table.get? fields "element_type" = some v → v.truthy = true → IsTypeReference v)
      (style : IsStyle (styleIn fields defaultStyle))
      (items : Table.get? fields "items" = none ∨
        ∃ entries, Table.get? fields "items" = some (.list entries) ∧ ∀ entry ∈ entries, IsEntry entry) :
      IsManifest defaultStyle (.object fields)

theorem exists_refers_iff : (∃ t, Refers v t) ↔ IsTypeReference v := by
  cases v with
  | object fields =>
    constructor
    · rintro ⟨t, refers⟩
      cases refers with
      | mapping named given => exact ⟨_, named, given⟩
    · rintro ⟨name, named, given⟩
      exact ⟨_, .mapping named given⟩
  | text s =>
    exact ⟨fun ⟨_, refers⟩ => (refers_text_iff.mp refers).1,
      fun some_ => ⟨_, refers_text_iff.mpr ⟨some_, rfl⟩⟩⟩
  | _ => exact iff_of_false (fun ⟨_, refers⟩ => by cases refers) id

theorem exists_spells_iff : (∃ style, Spells v style) ↔ IsStyle v := by
  unfold Spells IsStyle
  rw [List.mem_map]
  exact ⟨fun ⟨style, listed⟩ => ⟨_, listed, rfl⟩, fun ⟨⟨_, style⟩, listed, same⟩ => ⟨style, same ▸ listed⟩⟩

theorem exists_declaresType_iff {type : TypeRef} : (∃ t, DeclaresType fields type t) ↔
    ∀ v, Table.get? fields "element_type" = some v → v.truthy = true → IsTypeReference v := by
  constructor
  · rintro ⟨t, declares⟩ v found given
    cases declares with
    | declared found' _ refers =>
      obtain rfl := Option.some.inj (found.symm.trans found')
      exact exists_refers_iff.mp ⟨_, refers⟩
    | missing none_ => exact absurd given (by rw [none_ v found]; exact Bool.false_ne_true)
  · intro all
    by_cases declared : ∃ v, Table.get? fields "element_type" = some v ∧ v.truthy = true
    · obtain ⟨v, found, given⟩ := declared
      obtain ⟨t, refers⟩ := exists_refers_iff.mpr (all v found given)
      exact ⟨t, .declared found given refers⟩
    · exact ⟨type, .missing fun v found => (Bool.not_eq_true _).mp fun given => declared ⟨v, found, given⟩⟩

theorem exists_describes_iff {entry : Value} : (∃ item, Describes entry item) ↔ IsEntry entry := by
  constructor
  · rintro ⟨item, describes⟩
    cases describes with
    | intro named identified typed refers =>
      exact .intro ⟨_, named⟩ ⟨_, identified⟩ ⟨_, typed, exists_refers_iff.mp ⟨_, refers⟩⟩
  · rintro ⟨⟨name, named⟩, ⟨guid, identified⟩, type, typed, reference⟩
    obtain ⟨t, refers⟩ := exists_refers_iff.mpr reference
    exact ⟨_, .intro named identified typed refers⟩

theorem exists_forall₂_describes_iff {entries : List Value} :
    (∃ items, List.Forall₂ Describes entries items) ↔ ∀ entry ∈ entries, IsEntry entry := by
  induction entries with
  | nil => exact iff_of_true ⟨[], .nil⟩ nofun
  | cons entry rest ih =>
    rw [List.forall_mem_cons, ← exists_describes_iff, ← ih]
    constructor
    · rintro ⟨_, described⟩
      cases described with
      | cons first later => exact ⟨⟨_, first⟩, _, later⟩
    · rintro ⟨⟨_, first⟩, _, later⟩
      exact ⟨_, .cons first later⟩

theorem exists_reads_iff {defaultStyle : Value} :
    (∃ c, Reads defaultStyle fields c) ↔ IsManifest defaultStyle (.object fields) := by
  constructor
  · rintro ⟨c, reads⟩
    obtain ⟨guid, identified, -⟩ := reads.guid
    obtain ⟨type, typed, refers⟩ := reads.type
    obtain ⟨entries, lists, described⟩ := reads.items
    have entries_ := exists_forall₂_describes_iff.mp ⟨_, described⟩
    -- What each field is read as shows that it can be read.
    refine .intro ⟨_, reads.name⟩ ⟨guid, identified⟩ ⟨_, reads.sourcePath⟩
      ⟨type, typed, exists_refers_iff.mp ⟨_, refers⟩⟩ (exists_declaresType_iff.mp ⟨_, reads.elementType⟩)
      (exists_spells_iff.mp ⟨_, reads.style⟩) ?_
    cases lists with
    | absent none_ => exact .inl none_
    | listed found => exact .inr ⟨entries, found, entries_⟩
  · rintro ⟨⟨name, named⟩, ⟨guid, identified⟩, ⟨sourcePath, placed⟩, ⟨type, typed, reference⟩, declared, style,
      listed⟩
    obtain ⟨t, refers⟩ := exists_refers_iff.mpr reference
    obtain ⟨elementType, declares⟩ := exists_declaresType_iff.mpr declared
    obtain ⟨style, spelled⟩ := exists_spells_iff.mpr style
    have items : ∃ items entries, Lists fields entries ∧ List.Forall₂ Describes entries items := by
      rcases listed with none_ | ⟨entries, found, entries_⟩
      · exact ⟨[], [], .absent none_, .nil⟩
      · obtain ⟨items, described⟩ := exists_forall₂_describes_iff.mpr entries_
        exact ⟨items, entries, .listed found, described⟩
    obtain ⟨items, listed⟩ := items
    exact ⟨⟨name, .text guid.display, t, elementType, sourcePath, Collection.namespaceOf fields elementType,
      style, items⟩, named, ⟨guid, identified, rfl⟩, ⟨type, typed, refers⟩, declares, placed, rfl, spelled, listed⟩

/-- **The grammar of manifests.** Whatever the default is, a document is read as a collection exactly if it is a
manifest, and else it is refused with a word about its form. What is read is what the manifest says: above all,
it has one item for each entry, in the order of the entries, with the name, the identifier and the type that
the entry gives. -/
theorem ofManifest_grammar (manifest defaultStyle : Value) :
    ((∃ c, Collection.ofManifest manifest defaultStyle = .ok c) ↔ IsManifest defaultStyle manifest) ∧
      (¬IsManifest defaultStyle manifest →
        ∃ refusal : SchemaError, Collection.ofManifest manifest defaultStyle = .error refusal) ∧
      ∀ c, Collection.ofManifest manifest defaultStyle = .ok c →
        ∃ fields, manifest = .object fields ∧ Reads defaultStyle fields c := by
  have accepted : (∃ c, Collection.ofManifest manifest defaultStyle = .ok c) ↔
      IsManifest defaultStyle manifest := by
    cases manifest with
    | object fields =>
      rw [← exists_reads_iff]
      exact exists_congr fun c => ofManifest_eq_ok_iff
    | _ => exact iff_of_false (fun ⟨_, h⟩ => absurd h nofun) nofun
  refine ⟨accepted, fun other => ?_, fun c h => ?_⟩
  · cases result : Collection.ofManifest manifest defaultStyle with
    | ok c => exact absurd (accepted.mp ⟨c, result⟩) other
    | error refusal => exact ⟨refusal, rfl⟩
  · cases manifest with
    | object fields => exact ⟨fields, rfl, ofManifest_eq_ok_iff.mp h⟩
    | _ => exact absurd h nofun

end Manifest

end StaticAccessors
