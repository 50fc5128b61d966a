import Mathlib.Data.List.Nodup
import StaticAccessors.Proofs.Identifier.Pairs
import StaticAccessors.Proofs.Strategy.Owners

/-!
# Which collisions are reported

The check of a collection refuses it exactly if an item derives an identifier that a fixed member has, or
two items derive the same one. An item never collides with itself, because its two identifiers differ
(`Vocabulary.upper_ne_lower`); so it counts once for each of them. What is reported are the identifiers
with several holders, each with all of its holders in order (`CheckedExactly`).

The owners that the check collects are read off the mentions (`ownersIn`). Those of an item are its name,
once, if it derives the identifier (`ownersIn_mentions`), and the items of a collection follow one after
the other. The report joins the names of the owners, so it can only be made if those of the items that collide are
texts (`Tellable`).

## Contents
- `Item.derives` and `IsFixed`: who has an identifier.
- `holders`, and `mem_owners_iff`, `holders_eq`: the owners of an identifier.
- `Collide`, and `nodup_mentioned_iff_not_collide`.
- `reported`, `Tellable`, and `mem_collisions_iff`, `mapM_collisions`: what is collected, and how it is told.
- `checkIdentifiers_eq`, `checkIdentifiers_untold`, `checkIdentifiers_classless`, `checkIdentifiers_unnamed`: what
  the check comes to.
- `CheckedExactly`, and `checkIdentifiers_exact`.
-/

namespace StaticAccessors

open Outcome

/-- Whether an identifier is one of the two of an item. -/
def Item.derives (item : Item) (identifier : String) : Bool :=
  match item.identifiers with
  | .ok names => identifier = names.upper || identifier = names.lower
  | .error _ => false

namespace NamedItem

variable (n : NamedItem)

theorem derives_iff (identifier : String) :
    n.item.derives identifier = true ↔ identifier ∈ n.identifiers := by
  unfold Item.derives identifiers
  rw [n.derived]
  simp

theorem upper_ne_lower : n.names.upper ≠ n.names.lower := by
  obtain ⟨t, ht⟩ := Vocabulary.exists_pairOf n.derived
  rw [ht]
  exact Vocabulary.keywords.upper_ne_lower t

theorem nodup_identifiers : n.identifiers.Nodup := by
  unfold identifiers
  simpa using n.upper_ne_lower

end NamedItem

namespace Strategy

/-! ## Holders -/

/-- The identifiers of fixed members: the class, the accessor of the collection, and the names in lower
case. -/
def IsFixed (className identifier : String) : Prop :=
  identifier = className ∨ identifier ∈ reservedUpper ∨ identifier ∈ reservedLower

instance (className identifier : String) : Decidable (IsFixed className identifier) :=
  inferInstanceAs (Decidable (_ ∨ _ ∨ _))

/-- Who has an identifier in the class of a collection: the fixed member first, if there is one, and then
each item that derives it, in order. -/
def holders (className : String) (c : Collection) (identifier : String) : List String :=
  (if IsFixed className identifier then ["<" ++ identifier ++ ">"] else []) ++
    (c.items.filter (·.derives identifier)).map (·.name.display)

section

variable {className identifier : String}

/-- **An item is one owner** of each identifier that it derives. -/
theorem ownersIn_mentions (n : NamedItem) (identifier : String) :
    ownersIn n.mentions identifier = if n.item.derives identifier then [n.item.name] else [] := by
  have differ := n.upper_ne_lower
  have derives := n.derives_iff identifier
  unfold NamedItem.identifiers at derives
  unfold ownersIn NamedItem.mentions NamedItem.identifiers
  by_cases upper : n.names.upper = identifier
  · subst upper
    rw [if_pos (derives.mpr List.mem_cons_self)]
    simp [differ.symm]
  · by_cases lower : n.names.lower = identifier
    · subst lower
      rw [if_pos (derives.mpr (by simp))]
      simp [differ]
    · rw [if_neg (fun h => by simpa [Ne.symm upper, Ne.symm lower] using derives.mp h)]
      simp [upper, lower]

/-- The items among the owners of an identifier are those that derive it. -/
theorem ownersIn_flatMap (named : List NamedItem) (identifier : String) :
    ownersIn (named.flatMap (·.mentions)) identifier =
      ((named.map (·.item)).filter (·.derives identifier)).map (·.name) := by
  induction named with
  | nil => rfl
  | cons n rest ih =>
    rw [List.flatMap_cons, ownersIn_append, ih, ownersIn_mentions, List.map_cons, List.filter_cons]
    split <;> rfl

/-- A fixed member is the first owner of its identifier. -/
theorem ownersIn_fixedMentions (class_ : startsSmall className = false) :
    ownersIn (fixedMentions className) identifier =
      if IsFixed className identifier then [marker identifier] else [] := by
  have records := records_fixedOwners class_
  rw [← records.of_eq]
  split
  · rename_i fixed
    refine Owners.of_eq_of_mem records.distinct (List.mem_map.mpr ⟨identifier, mem_reserved.mpr fixed, rfl⟩)
  · rename_i free
    rw [records.of_eq, ← List.length_eq_zero_iff, length_ownersIn, map_fst_fixedMentions]
    exact List.count_eq_zero_of_not_mem fun h => free (mem_reserved.mp h)

/-- Texts are told as they are. -/
theorem ownerTexts_of_isText {names : List Value} (texts : ∀ name ∈ names, name.isText = true) :
    ownerTexts names = .ok (names.map (·.display)) := by
  refine mapM_of_forall_ok fun name listed => ?_
  obtain ⟨t, rfl⟩ := Value.exists_of_isText (texts name listed)
  rfl

/-- Only texts can be told. -/
theorem exists_ownerTexts_iff {names : List Value} :
    (∃ texts, ownerTexts names = .ok texts) ↔ ∀ name ∈ names, name.isText = true := by
  refine exists_mapM_iff.trans (forall₂_congr fun name _ => ?_)
  cases name with
  | text t => exact ⟨fun _ => rfl, fun _ => ⟨t, rfl⟩⟩
  | _ => exact ⟨fun ⟨_, h⟩ => absurd h nofun, fun h => absurd h nofun⟩

/-- An owner that cannot be told is a value of an unfit kind. -/
theorem ownerTexts_error {names : List Value} {fault : Fault} (h : ownerTexts names = .error fault) :
    fault = .wrongType := by
  obtain ⟨name, -, untold⟩ := exists_of_mapM_error h
  split at untold
  · exact absurd untold nofun
  · exact (Except.error.inj untold).symm

variable {c : Collection} {named : List NamedItem}

/-- **Who owns an identifier**: its fixed member, if there is one, and the items that derive it. -/
theorem mem_owners_iff (class_ : startsSmall className = false) (listed : c.items = named.map (·.item))
    {owner : Value} :
    owner ∈ ownersIn (fixedMentions className ++ named.flatMap (·.mentions)) identifier ↔
      IsFixed className identifier ∧ owner = marker identifier ∨
        ∃ item ∈ c.items, item.derives identifier = true ∧ item.name = owner := by
  rw [ownersIn_append, List.mem_append, ownersIn_fixedMentions class_, ownersIn_flatMap, ← listed]
  refine or_congr ?_ ?_
  · split
    · rename_i fixed
      rw [List.mem_singleton]
      exact (and_iff_right fixed).symm
    · rename_i free
      exact iff_of_false List.not_mem_nil fun h => free h.1
  · rw [List.mem_map]
    exact exists_congr fun item => by rw [List.mem_filter, and_assoc]

/-- So its owners are texts exactly if the items that derive it have texts for names. -/
theorem isText_owners_iff (class_ : startsSmall className = false) (listed : c.items = named.map (·.item)) :
    (∀ owner ∈ ownersIn (fixedMentions className ++ named.flatMap (·.mentions)) identifier, owner.isText = true) ↔
      ∀ item ∈ c.items, item.derives identifier = true → item.name.isText = true := by
  constructor
  · intro texts item own derived
    exact texts _ ((mem_owners_iff class_ listed).mpr (.inr ⟨item, own, derived, rfl⟩))
  · intro texts owner owns
    rcases (mem_owners_iff class_ listed).mp owns with ⟨-, rfl⟩ | ⟨item, own, derived, rfl⟩
    · rfl
    · exact texts item own derived

/-- **The owners of an identifier are its holders.** -/
theorem holders_eq (class_ : startsSmall className = false) (listed : c.items = named.map (·.item)) :
    holders className c identifier =
      (ownersIn (fixedMentions className ++ named.flatMap (·.mentions)) identifier).map (·.display) := by
  rw [ownersIn_append, ownersIn_fixedMentions class_, ownersIn_flatMap, ← listed, List.map_append, List.map_map]
  unfold holders
  split <;> rfl

/-- There are as many as there are mentions. -/
theorem length_holders (class_ : startsSmall className = false) (listed : c.items = named.map (·.item)) :
    (holders className c identifier).length = (mentioned className named).count identifier := by
  rw [holders_eq class_ listed, List.length_map, length_ownersIn, map_fst_mentions]

/-! ## Collisions -/

/-- Two members of a class have one identifier: an item derives that of a fixed member, or two items at
different positions share one, be it of the same kind or not. -/
def Collide (className : String) (c : Collection) : Prop :=
  (∃ item ∈ c.items, ∃ identifier, item.derives identifier = true ∧ IsFixed className identifier) ∨
    ∃ (m n : Nat) (a b : Item), m < n ∧ c.items[m]? = some a ∧ c.items[n]? = some b ∧
      ∃ identifier, a.derives identifier = true ∧ b.derives identifier = true

/-- **No identifier is mentioned twice** exactly if no two members collide. -/
theorem nodup_mentioned_iff_not_collide (class_ : startsSmall className = false)
    (listed : c.items = named.map (·.item)) :
    (mentioned className named).Nodup ↔ ¬Collide className c := by
  have derives : ∀ n ∈ named, n.item ∈ c.items := by
    intro n own
    rw [listed]
    exact List.mem_map_of_mem own
  rw [nodup_mentioned_iff class_, List.nodup_flatMap, List.pairwise_iff_getElem]
  constructor
  · rintro ⟨⟨-, apart⟩, free⟩ (⟨item, own, identifier, derived, fixed⟩ | ⟨m, k, a, b, less, first, second, collision⟩)
    · -- An item with the identifier of a fixed member.
      rw [listed] at own
      obtain ⟨n, known, rfl⟩ := List.mem_map.mp own
      obtain ⟨noClass, noUpper, noLower⟩ :=
        free identifier (List.mem_flatMap.mpr ⟨n, known, (n.derives_iff _).mp derived⟩)
      rcases fixed with fixed | fixed | fixed
      · exact noClass fixed
      · exact noUpper fixed
      · exact noLower fixed
    · -- Two items with one identifier.
      obtain ⟨identifier, left, right⟩ := collision
      rw [listed, List.getElem?_map] at first second
      obtain ⟨n, atFirst, rfl⟩ := Option.map_eq_some_iff.mp first
      obtain ⟨n', atSecond, rfl⟩ := Option.map_eq_some_iff.mp second
      obtain ⟨below, rfl⟩ := List.getElem?_eq_some_iff.mp atFirst
      obtain ⟨below', rfl⟩ := List.getElem?_eq_some_iff.mp atSecond
      exact apart m k below below' less ((NamedItem.derives_iff _ _).mp left) ((NamedItem.derives_iff _ _).mp right)
  · intro apart
    refine ⟨⟨fun n _ => n.nodup_identifiers, ?_⟩, ?_⟩
    · intro m k below below' less identifier left right
      refine apart (.inr ⟨m, k, named[m].item, named[k].item, less, ?_, ?_, identifier,
        (NamedItem.derives_iff _ _).mpr left, (NamedItem.derives_iff _ _).mpr right⟩)
      · rw [listed, List.getElem?_map, List.getElem?_eq_getElem below]
        rfl
      · rw [listed, List.getElem?_map, List.getElem?_eq_getElem below']
        rfl
    · intro identifier mentions
      obtain ⟨n, own, derived⟩ := List.mem_flatMap.mp mentions
      have free : ¬IsFixed className identifier := fun fixed =>
        apart (.inl ⟨n.item, derives n own, identifier, (n.derives_iff _).mpr derived, fixed⟩)
      exact ⟨fun h => free (.inl h), fun h => free (.inr (.inl h)), fun h => free (.inr (.inr h))⟩

end

/-! ## The report -/

/-- The identifiers with several owners, each with its holders. -/
def reported (className : String) (c : Collection) (named : List NamedItem) : List (String × List String) :=
  (collisions ((fixedOwners className).addAll (named.flatMap (·.mentions)))).map fun entry =>
    (entry.1, holders className c entry.1)

/-- The items that share an identifier with another member have texts for names, so they can be told. -/
def Tellable (className : String) (c : Collection) : Prop :=
  ∀ item ∈ c.items, ∀ identifier, item.derives identifier = true →
    2 ≤ (holders className c identifier).length → item.name.isText = true

section

variable {className : String} {c : Collection} {named : List NamedItem}

theorem map_fst_reported : (reported className c named).map (·.1) =
    (collisions ((fixedOwners className).addAll (named.flatMap (·.mentions)))).map (·.1) := by
  unfold reported
  rw [List.map_map]
  rfl

/-- No identifier is reported twice. -/
theorem nodup_reported (class_ : startsSmall className = false) :
    ((reported className c named).map (·.1)).Nodup := by
  rw [map_fst_reported]
  exact List.Nodup.sublist (List.filter_sublist.map _) (records_class class_ named).distinct

/-- Nothing is reported exactly if no two members collide. -/
theorem reported_eq_nil_iff (class_ : startsSmall className = false) (listed : c.items = named.map (·.item)) :
    reported className c named = [] ↔ ¬Collide className c := by
  rw [← nodup_mentioned_iff_not_collide class_ listed, ← map_fst_mentions,
    ← collisions_eq_nil_iff (records_class class_ named)]
  exact List.map_eq_nil_iff

/-- **What is collected** are the identifiers with several holders, each with its owners. -/
theorem mem_collisions_iff (class_ : startsSmall className = false) (listed : c.items = named.map (·.item))
    {identifier : String} {names : List Value} :
    (identifier, names) ∈ collisions ((fixedOwners className).addAll (named.flatMap (·.mentions))) ↔
      names = ownersIn (fixedMentions className ++ named.flatMap (·.mentions)) identifier ∧
        2 ≤ (holders className c identifier).length := by
  have records := records_class class_ named
  unfold collisions
  rw [List.mem_filter, decide_eq_true_eq, records.mem_entry_iff, length_holders class_ listed, ← map_fst_mentions]
  constructor
  · rintro ⟨⟨-, rfl⟩, several⟩
    rw [length_ownersIn] at several
    exact ⟨rfl, several⟩
  · rintro ⟨rfl, several⟩
    rw [length_ownersIn]
    exact ⟨⟨List.count_pos_iff.mp (by omega), rfl⟩, several⟩

/-- **What is reported** are the identifiers with several holders. -/
theorem mem_reported_iff (class_ : startsSmall className = false) (listed : c.items = named.map (·.item))
    {identifier : String} {owners : List String} :
    (identifier, owners) ∈ reported className c named ↔
      owners = holders className c identifier ∧ 2 ≤ owners.length := by
  constructor
  · intro member
    obtain ⟨⟨i, names⟩, collides, same⟩ := List.mem_map.mp member
    obtain ⟨rfl, rfl⟩ := Prod.mk.inj same
    exact ⟨rfl, ((mem_collisions_iff class_ listed).mp collides).2⟩
  · rintro ⟨rfl, several⟩
    exact List.mem_map.mpr ⟨(identifier, _), (mem_collisions_iff class_ listed).mpr ⟨rfl, several⟩, rfl⟩

/-- An identifier with several holders is reported. -/
theorem reported_ne_nil (class_ : startsSmall className = false) (listed : c.items = named.map (·.item))
    {identifier : String} (several : 2 ≤ (holders className c identifier).length) :
    reported className c named ≠ [] := by
  intro none_
  have member := (mem_reported_iff class_ listed).mpr ⟨rfl, several⟩
  rw [none_] at member
  exact absurd member List.not_mem_nil

/-- Where nothing collides there is nothing to tell. -/
theorem tellable_of_not_collide (class_ : startsSmall className = false) (listed : c.items = named.map (·.item))
    (apart : ¬Collide className c) : Tellable className c := by
  intro _ _ _ _ several
  exact absurd ((reported_eq_nil_iff class_ listed).mpr apart) (reported_ne_nil class_ listed several)

/-- What is collected can be told exactly if the items that collide can be. -/
theorem isText_collisions_iff (class_ : startsSmall className = false) (listed : c.items = named.map (·.item)) :
    (∀ entry ∈ collisions ((fixedOwners className).addAll (named.flatMap (·.mentions))),
      ∀ owner ∈ entry.2, owner.isText = true) ↔ Tellable className c := by
  constructor
  · intro texts item own identifier derived several
    have collides := (mem_collisions_iff class_ listed).mpr ⟨rfl, several⟩
    exact (isText_owners_iff class_ listed).mp (texts _ collides) item own derived
  · rintro told ⟨identifier, names⟩ collides
    obtain ⟨rfl, several⟩ := (mem_collisions_iff class_ listed).mp collides
    exact (isText_owners_iff class_ listed).mpr fun item own derived => told item own identifier derived several

/-- Told are the holders of what is reported. -/
theorem mapM_collisions (class_ : startsSmall className = false) (listed : c.items = named.map (·.item))
    (told : Tellable className c) :
    (collisions ((fixedOwners className).addAll (named.flatMap (·.mentions)))).mapM
        (fun (identifier, names) => (ownerTexts names).map (identifier, ·)) =
      .ok (reported className c named) := by
  refine mapM_of_forall_ok ?_
  rintro ⟨identifier, names⟩ collides
  have texts := (isText_collisions_iff class_ listed).mpr told _ collides
  obtain ⟨rfl, -⟩ := (mem_collisions_iff class_ listed).mp collides
  dsimp only
  rw [ownerTexts_of_isText texts, holders_eq class_ listed]
  rfl

/-- What cannot be told is a value of an unfit kind. -/
theorem mapM_collisions_untold (class_ : startsSmall className = false) (listed : c.items = named.map (·.item))
    (untold : ¬Tellable className c) :
    (collisions ((fixedOwners className).addAll (named.flatMap (·.mentions)))).mapM
        (fun (identifier, names) => (ownerTexts names).map (identifier, ·)) = .error .wrongType := by
  cases told : (collisions ((fixedOwners className).addAll (named.flatMap (·.mentions)))).mapM
      (fun (identifier, names) => (ownerTexts names).map (identifier, ·)) with
  | error fault =>
    obtain ⟨entry, -, failed⟩ := exists_of_mapM_error told
    rw [ownerTexts_error (map_eq_error.mp failed)]
  | ok shared =>
    refine absurd ((isText_collisions_iff class_ listed).mp fun entry collides => ?_) untold
    obtain ⟨_, made⟩ := exists_mapM_iff.mp ⟨shared, told⟩ entry collides
    obtain ⟨texts, made, -⟩ := map_eq_ok.mp made
    exact exists_ownerTexts_iff.mp ⟨texts, made⟩

/-- The check of a class with named items passes if nothing is to be reported, and tells what is. -/
theorem checkIdentifiers_of_named (class_ : c.className = .ok className) (listed : c.items = named.map (·.item)) :
    checkIdentifiers c = if reported className c named = [] then .ok () else
      ((collisions ((fixedOwners className).addAll (named.flatMap (·.mentions)))).mapM
        (fun (identifier, names) => (ownerTexts names).map (identifier, ·))) >>= fun shared =>
          .error (.collisions ⟨c.name, shared⟩) := by
  have added : addItems (fixedOwners className) c.items =
      .ok ((fixedOwners className).addAll (named.flatMap (·.mentions))) :=
    addItems_eq_ok_iff.mpr ⟨named, listed, rfl⟩
  unfold checkIdentifiers
  rw [class_]
  show (addItems (fixedOwners className) c.items >>= _) = _
  rw [added]
  dsimp only [bind, Except.bind]
  split
  · rename_i none_
    rw [if_pos (by unfold reported; rw [none_]; rfl)]
    rfl
  · rename_i some_
    have several : reported className c named ≠ [] := fun none_ => some_ (List.map_eq_nil_iff.mp none_)
    rw [if_neg several]
    rfl

/-- The check reports what there is to report. -/
theorem checkIdentifiers_eq (class_ : c.className = .ok className) (listed : c.items = named.map (·.item))
    (told : Tellable className c) :
    checkIdentifiers c = if reported className c named = [] then .ok ()
      else .error (.collisions ⟨c.name, reported className c named⟩) := by
  rw [checkIdentifiers_of_named class_ listed, mapM_collisions (c.startsSmall_className class_) listed told]
  rfl

/-- It cannot report what cannot be told. -/
theorem checkIdentifiers_untold (class_ : c.className = .ok className) (listed : c.items = named.map (·.item))
    (untold : ¬Tellable className c) : checkIdentifiers c = .error .wrongType := by
  have small := c.startsSmall_className class_
  have several : reported className c named ≠ [] := fun none_ =>
    untold fun _ _ _ _ several => absurd none_ (reported_ne_nil small listed several)
  rw [checkIdentifiers_of_named class_ listed, if_neg several, mapM_collisions_untold small listed untold]
  rfl

/-- Without an identifier for the class there is nothing to check. -/
theorem checkIdentifiers_classless {fault : Fault} (classless : c.className = .error fault) :
    checkIdentifiers c = .error .wrongType := by
  obtain rfl := Collection.className_error classless
  exact bind_eq_error.mpr (.inl classless)

/-- Nor without identifiers for an item. -/
theorem checkIdentifiers_unnamed {item : Item} {fault : Fault} (class_ : c.className = .ok className)
    (own : item ∈ c.items) (unnamed : item.identifiers = .error fault) :
    checkIdentifiers c = .error .wrongType := by
  refine bind_eq_error.mpr (.inr ⟨className, class_, bind_eq_error.mpr (.inl ?_)⟩)
  cases added : addItems (fixedOwners className) c.items with
  | error met =>
    obtain ⟨other, -, failed⟩ := addItems_error added
    rw [Vocabulary.derive_error failed]
  | ok owners =>
    obtain ⟨named, listed, -⟩ := addItems_eq_ok_iff.mp added
    rw [listed] at own
    obtain ⟨n, -, rfl⟩ := List.mem_map.mp own
    exact absurd (n.derived.symm.trans unnamed) nofun

end

/-- **An exact outcome of the check**: it refuses nothing but collisions and all of them, and reports the
identifiers with several holders, each once and with all its holders. -/
structure CheckedExactly (className : String) (c : Collection) (outcome : Except Fault Unit) : Prop where
  passes_or_reports : outcome = .ok () ∨ ∃ shared, outcome = .error (.collisions ⟨c.name, shared⟩)
  reports_iff : (∃ shared, outcome = .error (.collisions ⟨c.name, shared⟩)) ↔ Collide className c
  distinct : ∀ shared, outcome = .error (.collisions ⟨c.name, shared⟩) → (shared.map (·.1)).Nodup
  mem_iff : ∀ shared, outcome = .error (.collisions ⟨c.name, shared⟩) → ∀ identifier owners,
    (identifier, owners) ∈ shared ↔ owners = holders className c identifier ∧ 2 ≤ owners.length

section

variable {c : Collection}

/-- A collection with texts for names has a class and named items, and its check reports what there is to
report. -/
theorem exists_checkIdentifiers_eq (name : c.name.isText = true)
    (items : ∀ item ∈ c.items, item.name.isText = true) :
    ∃ className named, c.className = .ok className ∧ c.items = named.map (·.item) ∧
      checkIdentifiers c = if reported className c named = [] then .ok ()
        else .error (.collisions ⟨c.name, reported className c named⟩) := by
  obtain ⟨names, derived⟩ := Vocabulary.keywords.exists_derive name
  have class_ : c.className = .ok names.upper := map_eq_ok.mpr ⟨names, derived, rfl⟩
  obtain ⟨named, listed⟩ := exists_named items
  exact ⟨names.upper, named, class_, listed, checkIdentifiers_eq class_ listed fun item own _ _ _ => items item own⟩

/-- The check of a collection of texts fails for nothing but collisions. -/
theorem checkIdentifiers_error (typed : c.WellTyped) {fault : Fault} (h : checkIdentifiers c = .error fault) :
    ∃ cause, fault = .collisions cause := by
  obtain ⟨_, _, -, -, reports⟩ := exists_checkIdentifiers_eq typed.name fun item own => (typed.items item own).name
  rw [reports] at h
  split at h
  · exact absurd h nofun
  · exact ⟨_, (Except.error.inj h).symm⟩

/-- **The check of a collection with texts for names is exact.** -/
theorem checkIdentifiers_exact (name : c.name.isText = true)
    (items : ∀ item ∈ c.items, item.name.isText = true) :
    ∃ className, c.className = .ok className ∧ CheckedExactly className c (checkIdentifiers c) := by
  obtain ⟨className, named, class_, listed, reports⟩ := exists_checkIdentifiers_eq name items
  have small := c.startsSmall_className class_
  have none_iff := reported_eq_nil_iff small listed
  refine ⟨className, class_, ?_⟩
  rw [reports]
  by_cases none_ : reported className c named = []
  · rw [if_pos none_]
    exact {
      passes_or_reports := .inl rfl
      reports_iff := ⟨fun ⟨_, h⟩ => absurd h nofun, fun collide => absurd collide (none_iff.mp none_)⟩
      distinct := nofun
      mem_iff := nofun }
  · rw [if_neg none_]
    have is : ∀ {shared}, Except.error (.collisions ⟨c.name, reported className c named⟩) =
        (.error (.collisions ⟨c.name, shared⟩) : Except Fault Unit) → reported className c named = shared := by
      intro shared h
      injection h with h
      injection h with h
      exact (Collisions.mk.inj h).2
    exact {
      passes_or_reports := .inr ⟨_, rfl⟩
      reports_iff := ⟨fun _ => not_not.mp fun free => none_ (none_iff.mpr free), fun _ => ⟨_, rfl⟩⟩
      distinct := fun shared h => is h ▸ nodup_reported small
      mem_iff := fun shared h _ _ => is h ▸ mem_reported_iff small listed }

end

/-- A collection in which two items differ in nothing but the case of a letter. -/
def apples : Collection :=
  { Collection.fruits with
    items := ["apple", "Apple"].map fun name => ⟨.text name, .text "i1", ⟨.text "Fruit", .text "Game.Fruits"⟩⟩ }

/-- They share both identifiers, and both are reported with the two of them. -/
theorem checkIdentifiers_exact_apples :
    apples.name.isText = true ∧ (∀ item ∈ apples.items, item.name.isText = true) ∧
      ∃ shared, checkIdentifiers apples = .error (.collisions ⟨apples.name, shared⟩) ∧
        ("Apple", ["apple", "Apple"]) ∈ shared ∧ ("apple", ["apple", "Apple"]) ∈ shared := by
  have name : apples.name.isText = true := rfl
  have items : ∀ item ∈ apples.items, item.name.isText = true := by
    intro item own
    obtain ⟨_, -, rfl⟩ := List.mem_map.mp own
    rfl
  have small : Vocabulary.keywords.pairOf "apple" = ⟨"Apple", "apple"⟩ := by decide +kernel
  have capital : Vocabulary.keywords.pairOf "Apple" = ⟨"Apple", "apple"⟩ := by decide +kernel
  have derive : ∀ item ∈ apples.items, item.identifiers = .ok ⟨"Apple", "apple"⟩ := by
    intro item own
    obtain ⟨t, listed, rfl⟩ := List.mem_map.mp own
    rcases List.mem_pair.mp listed with rfl | rfl
    · exact congrArg Except.ok small
    · exact congrArg Except.ok capital
  have held : ∀ i ∈ ["Apple", "apple"], holders "Fruits" apples i = ["apple", "Apple"] := by
    intro i known
    have free : ∀ i ∈ ["Apple", "apple"], ¬IsFixed "Fruits" i := by decide
    have all : apples.items.filter (·.derives i) = apples.items := by
      refine List.filter_eq_self.mpr fun item own => ?_
      unfold Item.derives
      rw [derive item own]
      simpa using known
    unfold holders
    rw [if_neg (free i known), all]
    rfl
  obtain ⟨className, class_, exact_⟩ := checkIdentifiers_exact name items
  obtain rfl := Except.ok.inj (Collection.className_fruits.symm.trans class_)
  have collide : Collide "Fruits" apples := by
    refine .inr ⟨0, 1, _, _, by decide, rfl, rfl, "Apple", ?_, ?_⟩
    · unfold Item.derives
      rw [derive _ List.mem_cons_self]
      rfl
    · unfold Item.derives
      rw [derive _ (List.mem_cons_of_mem _ List.mem_cons_self)]
      rfl
  obtain ⟨shared, refused⟩ := exact_.reports_iff.mpr collide
  refine ⟨name, items, shared, refused, ?_, ?_⟩
  · exact (exact_.mem_iff shared refused _ _).mpr ⟨(held _ (by decide)).symm, by decide⟩
  · exact (exact_.mem_iff shared refused _ _).mpr ⟨(held _ (by decide)).symm, by decide⟩

end Strategy
end StaticAccessors
