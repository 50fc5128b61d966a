import StaticAccessors.Proofs.Identifier.Case
import StaticAccessors.Proofs.Outcome
import StaticAccessors.Proofs.Strategy.Lines
import StaticAccessors.Strategy.Check

/-!
# Who owns an identifier

The check of a collection goes through the mentions of identifiers: the fixed members first, and then
every item with its two identifiers. The table it keeps has an entry for each identifier, with all who
mention it in order (`Records`). This is the invariant of the check, and it is preserved by each mention.
An identifier has several owners exactly if it is mentioned several times, so the check passes exactly
if no identifier is mentioned twice.

## Contents
- `ownersIn`, `Records`, and `Records.add`: the invariant and its step.
- `collisions_eq_nil_iff`: tables without collisions.
- `mem_reserved`, `nodup_reserved`: the fixed members.
- `checkIdentifiers_eq_ok_iff`: the check.
-/

namespace StaticAccessors

open Outcome

/-- An identifier that was derived is that of some text. -/
theorem Vocabulary.exists_pairOf {v : Vocabulary} {name : Value} {names : IdentifierPair}
    (h : v.derive name = .ok names) : ∃ t, names = v.pairOf t := by
  unfold derive at h
  split at h
  · exact absurd h nofun
  · obtain ⟨t, -, rfl⟩ := map_eq_ok.mp h
    exact ⟨t, rfl⟩

namespace NamedItem

variable (n : NamedItem)

theorem startsCapital_lower : startsCapital n.names.lower = false := by
  obtain ⟨t, ht⟩ := Vocabulary.exists_pairOf n.derived
  rw [ht]
  exact Vocabulary.keywords.startsCapital_lower t

/-- The identifiers of an item. -/
def identifiers : List String := [n.names.upper, n.names.lower]

/-- The two mentions of an item. -/
def mentions : List (String × Value) := n.identifiers.map (·, n.item.name)

end NamedItem

theorem Collection.startsSmall_className {c : Collection} {className : String}
    (h : c.className = .ok className) : startsSmall className = false := by
  obtain ⟨names, hn, rfl⟩ := map_eq_ok.mp h
  obtain ⟨t, rfl⟩ := Vocabulary.exists_pairOf hn
  exact Vocabulary.keywords.startsSmall_upper t

namespace Strategy

/-! ## Tables of owners -/

/-- The owners of an identifier among some mentions, in order. -/
def ownersIn (mentions : List (String × Value)) (identifier : String) : List Value :=
  (mentions.filter (·.1 = identifier)).map (·.2)

theorem ownersIn_append (mentions more : List (String × Value)) (identifier : String) :
    ownersIn (mentions ++ more) identifier = ownersIn mentions identifier ++ ownersIn more identifier := by
  unfold ownersIn
  rw [List.filter_append, List.map_append]

/-- An identifier has as many owners as it has mentions. -/
theorem length_ownersIn (mentions : List (String × Value)) (identifier : String) :
    (ownersIn mentions identifier).length = (mentions.map (·.1)).count identifier := by
  unfold ownersIn
  induction mentions with
  | nil => rfl
  | cons m rest ih =>
    rw [List.map_cons, List.count_cons, List.filter_cons]
    by_cases h : m.1 = identifier
    · simpa [h] using ih
    · simpa [h] using ih

namespace Owners

/-- Adds mentions in order. -/
def addAll (owners : Owners) (mentions : List (String × Value)) : Owners :=
  mentions.foldl (fun acc m => acc.add m.1 m.2) owners

/-- A table that has an entry for each identifier of some mentions, with its owners. -/
structure Records (owners : Owners) (mentions : List (String × Value)) : Prop where
  distinct : (owners.map (·.1)).Nodup
  of_eq : ∀ identifier, owners.of identifier = ownersIn mentions identifier
  mem_iff : ∀ identifier, identifier ∈ owners.map (·.1) ↔ identifier ∈ mentions.map (·.1)

variable {owners : Owners} {mentions : List (String × Value)} {i j : String} {owner : Value}

theorem of_cons (i : String) (names : List Value) (rest : Owners) (j : String) :
    of ((i, names) :: rest) j = if i = j then names else rest.of j := by
  unfold of
  rw [List.lookup_cons]
  by_cases h : i = j
  · rw [if_pos h, h, beq_self_eq_true]
    rfl
  · rw [if_neg h, beq_false_of_ne (Ne.symm h)]

/-- An owner is added to one identifier and to no other. -/
theorem of_add (owners : Owners) (i j : String) (owner : Value) :
    (owners.add i owner).of j = owners.of j ++ if i = j then [owner] else [] := by
  induction owners with
  | nil =>
    unfold add
    rw [of_cons]
    rfl
  | cons e rest ih =>
    obtain ⟨k, names⟩ := e
    unfold add
    by_cases hk : k = i
    · rw [if_pos hk, of_cons, of_cons, hk]
      split
      · rfl
      · rw [List.append_nil]
    · rw [if_neg hk, of_cons, of_cons, ih]
      split
      · rename_i hj
        rw [if_neg (fun hi => hk (hj.trans hi.symm)), List.append_nil]
      · rfl

/-- The identifiers after a mention: the new one stands at the end. -/
theorem keys_add (owners : Owners) (i : String) (owner : Value) :
    (owners.add i owner).map (·.1) =
      if i ∈ owners.map (·.1) then owners.map (·.1) else owners.map (·.1) ++ [i] := by
  induction owners with
  | nil => rfl
  | cons e rest ih =>
    obtain ⟨k, names⟩ := e
    unfold add
    by_cases hk : k = i
    · rw [if_pos hk, List.map_cons, if_pos (by simp [hk])]
      rfl
    · rw [if_neg hk, List.map_cons, ih, List.map_cons]
      by_cases hr : i ∈ rest.map (·.1)
      · rw [if_pos hr, if_pos (List.mem_cons_of_mem k hr)]
      · rw [if_neg hr, if_neg]
        · rfl
        · intro hm
          rcases List.mem_cons.mp hm with rfl | hm
          · exact hk rfl
          · exact hr hm

/-- **One mention keeps the table right.** -/
theorem Records.add (h : Records owners mentions) (i : String) (owner : Value) :
    Records (owners.add i owner) (mentions ++ [(i, owner)]) := by
  refine ⟨?_, ?_, ?_⟩
  · rw [keys_add]
    split
    · exact h.distinct
    · rename_i new
      rw [List.nodup_append]
      refine ⟨h.distinct, by simp, ?_⟩
      rintro a ha b hb rfl
      exact new (List.mem_singleton.mp hb ▸ ha)
  · intro j
    rw [of_add, h.of_eq, ownersIn_append]
    congr 1
    unfold ownersIn
    by_cases hj : i = j
    · simp [hj]
    · simp [hj]
  · intro j
    rw [keys_add, List.map_append, List.mem_append, ← h.mem_iff]
    split
    · rename_i known
      refine ⟨.inl, ?_⟩
      rintro (hm | hm)
      · exact hm
      · rw [List.mem_singleton.mp hm]
        exact known
    · exact List.mem_append

/-- Any number of mentions does. -/
theorem Records.addAll (h : Records owners mentions) (more : List (String × Value)) :
    Records (owners.addAll more) (mentions ++ more) := by
  induction more generalizing owners mentions with
  | nil =>
    rw [List.append_nil]
    exact h
  | cons m rest ih =>
    have step := ih (h.add m.1 m.2)
    rwa [List.append_assoc] at step

/-- The entry of an identifier that has one. -/
theorem of_eq_of_mem (hd : (owners.map (·.1)).Nodup) {names : List Value} (h : (i, names) ∈ owners) :
    owners.of i = names := by
  induction owners with
  | nil => exact absurd h (by simp)
  | cons e rest ih =>
    obtain ⟨k, found⟩ := e
    rw [List.map_cons, List.nodup_cons] at hd
    rw [of_cons]
    rcases List.mem_cons.mp h with he | hr
    · obtain ⟨rfl, rfl⟩ := Prod.mk.inj he
      exact if_pos rfl
    · have other : k ≠ i := by
        rintro rfl
        exact hd.1 (List.mem_map.mpr ⟨_, hr, rfl⟩)
      rw [if_neg other]
      exact ih hd.2 hr

/-- Identifiers with one owner each make a table. -/
theorem records_single (owner : String → Value) {identifiers : List String} (hd : identifiers.Nodup) :
    Records (identifiers.map fun i => (i, [owner i])) (identifiers.map fun i => (i, owner i)) := by
  have keys : (identifiers.map fun i => (i, [owner i])).map (·.1) = identifiers := by
    rw [List.map_map]
    exact List.map_id _
  have mentioned : (identifiers.map fun i => (i, owner i)).map (·.1) = identifiers := by
    rw [List.map_map]
    exact List.map_id _
  refine ⟨keys.symm ▸ hd, ?_, fun i => by rw [keys, mentioned]⟩
  intro j
  clear keys mentioned
  induction identifiers with
  | nil => rfl
  | cons i rest ih =>
    rw [List.nodup_cons] at hd
    rw [List.map_cons, List.map_cons, of_cons, ih hd.2]
    by_cases hj : i = j
    · have others : ownersIn (rest.map fun i => (i, owner i)) j = [] := by
        unfold ownersIn
        rw [List.map_eq_nil_iff, List.filter_eq_nil_iff]
        rintro m hm hmj
        obtain ⟨k, hk, rfl⟩ := List.mem_map.mp hm
        obtain rfl : k = j := of_decide_eq_true hmj
        exact hd.1 (hj ▸ hk)
      unfold ownersIn at others ⊢
      rw [if_pos hj, List.filter_cons, if_pos (decide_eq_true hj), List.map_cons, others]
    · unfold ownersIn
      rw [if_neg hj, List.filter_cons, if_neg (by simpa using hj)]

/-- The entries of a table are the identifiers mentioned, each with its owners. -/
theorem Records.mem_entry_iff (h : Records owners mentions) {names : List Value} :
    (i, names) ∈ owners ↔ i ∈ mentions.map (·.1) ∧ names = ownersIn mentions i := by
  constructor
  · intro he
    refine ⟨(h.mem_iff i).mp (List.mem_map.mpr ⟨_, he, rfl⟩), ?_⟩
    rw [← h.of_eq, of_eq_of_mem h.distinct he]
  · rintro ⟨hi, rfl⟩
    obtain ⟨⟨k, names⟩, he, rfl⟩ := List.mem_map.mp ((h.mem_iff i).mpr hi)
    rw [← h.of_eq, of_eq_of_mem h.distinct he]
    exact he

end Owners

/-- **A table has no collisions** exactly if no identifier was mentioned twice. -/
theorem collisions_eq_nil_iff {owners : Owners} {mentions : List (String × Value)}
    (h : owners.Records mentions) : collisions owners = [] ↔ (mentions.map (·.1)).Nodup := by
  unfold collisions
  rw [List.filter_eq_nil_iff, List.nodup_iff_count]
  constructor
  · -- An identifier has as many owners as there are mentions of it.
    intro single i
    by_cases hi : i ∈ mentions.map (·.1)
    · have entry := single _ (h.mem_entry_iff.mpr ⟨hi, rfl⟩)
      rw [decide_eq_true_eq, length_ownersIn] at entry
      omega
    · rw [List.count_eq_zero_of_not_mem hi]
      omega
  · rintro once ⟨i, names⟩ he
    obtain ⟨-, rfl⟩ := h.mem_entry_iff.mp he
    rw [decide_eq_true_eq, length_ownersIn]
    have := once i
    omega

/-! ## The fixed members -/

theorem startsSmall_reservedLower {i : String} (h : i ∈ reservedLower) : startsSmall i = true := by
  have all : ∀ i ∈ reservedLower, startsSmall i = true := by decide
  exact all i h

/-- The fixed members are the class, the accessor of the collection, and the names in lower case. -/
theorem mem_reserved {className i : String} :
    i ∈ reserved className ↔ i = className ∨ i ∈ reservedUpper ∨ i ∈ reservedLower := by
  unfold reserved
  rw [List.mem_append]
  split
  · rename_i taken
    constructor
    · rintro (h | h)
      · exact .inr (.inl h)
      · exact .inr (.inr h)
    · rintro (rfl | h | h)
      · exact .inl taken
      · exact .inl h
      · exact .inr h
  · rw [(List.mergeSort_perm _ _).mem_iff, List.mem_cons, or_assoc]

/-- No fixed member is listed twice. -/
theorem nodup_reserved {className : String} (h : startsSmall className = false) :
    (reserved className).Nodup := by
  have notLower : ∀ {i}, startsSmall i = false → i ∉ reservedLower := by
    intro i hi hm
    exact absurd ((startsSmall_reservedLower hm).symm.trans hi) nofun
  have upper : ∀ i ∈ reservedUpper, startsSmall i = false := by decide
  unfold reserved
  rw [List.nodup_append]
  -- The class is listed only if it is not fixed anyway, and no class starts with a small letter.
  refine ⟨?_, by decide, ?_⟩
  · split
    · decide
    · rename_i new
      rw [(List.mergeSort_perm _ _).nodup_iff, List.nodup_cons]
      exact ⟨new, by decide⟩
  · rintro i hi j hj rfl
    split at hi
    · exact notLower (upper i hi) hj
    · rcases List.mem_cons.mp ((List.mergeSort_perm _ _).mem_iff.mp hi) with rfl | hi
      · exact notLower h hj
      · exact notLower (upper i hi) hj

/-- The mentions of the fixed members. -/
def fixedMentions (className : String) : List (String × Value) :=
  (reserved className).map fun i => (i, marker i)

theorem map_fst_fixedMentions (className : String) :
    (fixedMentions className).map (·.1) = reserved className := by
  unfold fixedMentions
  rw [List.map_map]
  exact List.map_id _

/-- The table of the fixed members is right before any item is added. -/
theorem records_fixedOwners {className : String} (h : startsSmall className = false) :
    (fixedOwners className).Records (fixedMentions className) :=
  Owners.records_single marker (nodup_reserved h)

/-! ## The check -/

/-- Items are added if all of them have identifiers. -/
theorem addItems_eq_ok_iff {owners after : Owners} {items : List Item} :
    addItems owners items = .ok after ↔
      ∃ named : List NamedItem, items = named.map (·.item) ∧
        after = owners.addAll (named.flatMap (·.mentions)) := by
  induction items generalizing owners with
  | nil =>
    constructor
    · intro h
      exact ⟨[], rfl, (Except.ok.inj h).symm⟩
    · rintro ⟨named, h, rfl⟩
      rw [List.map_eq_nil_iff.mp h.symm]
      rfl
  | cons item rest ih =>
    unfold addItems
    cases hi : item.identifiers with
    | error fault =>
      -- An item without identifiers ends the loop, and is no item of named ones.
      refine ⟨fun h => absurd h nofun, ?_⟩
      rintro ⟨named, h, -⟩
      obtain ⟨n, others, rfl, rfl, -⟩ := List.map_eq_cons_iff.mp h.symm
      exact absurd (n.derived.symm.trans hi) nofun
    | ok names =>
      dsimp only
      rw [ih]
      constructor
      · rintro ⟨named, rfl, rfl⟩
        exact ⟨⟨item, names, hi⟩ :: named, rfl, rfl⟩
      · rintro ⟨named, h, rfl⟩
        obtain ⟨n, others, rfl, rfl, rfl⟩ := List.map_eq_cons_iff.mp h.symm
        obtain rfl : names = n.names := Except.ok.inj (hi.symm.trans n.derived)
        exact ⟨others, rfl, rfl⟩

/-- What keeps items from being added is one that has no identifiers. -/
theorem addItems_error {owners : Owners} {items : List Item} {fault : Fault}
    (h : addItems owners items = .error fault) : ∃ item ∈ items, item.identifiers = .error fault := by
  induction items generalizing owners with
  | nil => exact absurd h nofun
  | cons item rest ih =>
    unfold addItems at h
    cases derived : item.identifiers with
    | error met =>
      rw [derived] at h
      exact ⟨item, List.mem_cons_self, derived.trans (congrArg _ (Except.error.inj h))⟩
    | ok names =>
      rw [derived] at h
      obtain ⟨other, listed, failed⟩ := ih h
      exact ⟨other, List.mem_cons_of_mem item listed, failed⟩

/-- All identifiers that a class mentions: those of its fixed members and of its items. -/
def mentioned (className : String) (named : List NamedItem) : List String :=
  reserved className ++ named.flatMap (·.identifiers)

/-- The table of a class with its items. -/
theorem records_class {className : String} (h : startsSmall className = false)
    (named : List NamedItem) :
    ((fixedOwners className).addAll (named.flatMap (·.mentions))).Records
      (fixedMentions className ++ named.flatMap (·.mentions)) :=
  (records_fixedOwners h).addAll _

theorem map_fst_mentions (className : String) (named : List NamedItem) :
    (fixedMentions className ++ named.flatMap (·.mentions)).map (·.1) = mentioned className named := by
  unfold mentioned
  rw [List.map_append, map_fst_fixedMentions]
  congr 1
  induction named with
  | nil => rfl
  | cons n rest ih =>
    rw [List.flatMap_cons, List.flatMap_cons, List.map_append, ih]
    rfl

/-- Nothing is mentioned twice if no item mentions what is fixed or what an item mentioned before. -/
theorem nodup_mentioned_iff {className : String} (h : startsSmall className = false)
    {named : List NamedItem} :
    (mentioned className named).Nodup ↔
      (named.flatMap (·.identifiers)).Nodup ∧
        ∀ i ∈ named.flatMap (·.identifiers), i ≠ className ∧ i ∉ reservedUpper ∧ i ∉ reservedLower := by
  unfold mentioned
  rw [List.nodup_append]
  constructor
  · rintro ⟨-, items, apart⟩
    refine ⟨items, fun i hi => ⟨?_, ?_, ?_⟩⟩
    · rintro rfl
      exact apart _ (mem_reserved.mpr (.inl rfl)) _ hi rfl
    · intro hu
      exact apart _ (mem_reserved.mpr (.inr (.inl hu))) _ hi rfl
    · intro hl
      exact apart _ (mem_reserved.mpr (.inr (.inr hl))) _ hi rfl
  · rintro ⟨items, free⟩
    refine ⟨nodup_reserved h, items, ?_⟩
    rintro i hr j hi rfl
    obtain ⟨noClass, noUpper, noLower⟩ := free i hi
    rcases mem_reserved.mp hr with hr | hr | hr
    · exact noClass hr
    · exact noUpper hr
    · exact noLower hr

/-- **The check passes** exactly if there are identifiers throughout, and none is mentioned twice. -/
theorem checkIdentifiers_eq_ok_iff {c : Collection} :
    checkIdentifiers c = .ok () ↔
      ∃ className, c.className = .ok className ∧
        ∃ named : List NamedItem, c.items = named.map (·.item) ∧ (mentioned className named).Nodup := by
  unfold checkIdentifiers
  rw [bind_eq_ok]
  constructor
  · rintro ⟨className, hc, h⟩
    obtain ⟨owners, ho, h⟩ := bind_eq_ok.mp h
    obtain ⟨named, hn, rfl⟩ := addItems_eq_ok_iff.mp ho
    refine ⟨className, hc, named, hn, ?_⟩
    rw [← map_fst_mentions, ← collisions_eq_nil_iff (records_class (c.startsSmall_className hc) named)]
    split at h
    · assumption
    · -- The collisions are reported, if they can be.
      obtain ⟨shared, -, h⟩ := bind_eq_ok.mp h
      exact absurd h nofun
  · rintro ⟨className, hc, named, hn, distinct⟩
    rw [← map_fst_mentions,
      ← collisions_eq_nil_iff (records_class (c.startsSmall_className hc) named)] at distinct
    refine ⟨className, hc, bind_eq_ok.mpr ⟨_, addItems_eq_ok_iff.mpr ⟨named, hn, rfl⟩, ?_⟩⟩
    rw [distinct]
    rfl

end Strategy

namespace Collection

open Strategy

theorem className_fruits : fruits.className = .ok "Fruits" := by
  have derived : Vocabulary.keywords.pairOf "Fruits" = ⟨"Fruits", "fruits"⟩ := by decide +kernel
  show Except.ok (Vocabulary.keywords.pairOf "Fruits").upper = .ok "Fruits"
  rw [derived]

/-- The small collection passes the check. -/
theorem checkIdentifiers_fruits : checkIdentifiers fruits = .ok () := by
  have apple : Item.identifiers ⟨.text "Golden Apple", .text "i1", ⟨.text "Fruit", .text "Game.Fruits"⟩⟩ =
      .ok ⟨"GoldenApple", "goldenApple"⟩ := by
    refine congrArg Except.ok (?_ : Vocabulary.keywords.pairOf "Golden Apple" = _)
    decide +kernel
  have pear : Item.identifiers ⟨.text "Pear", .text "i2", ⟨.text "Fruit", .text "Game.Fruits"⟩⟩ =
      .ok ⟨"Pear", "pear"⟩ := by
    refine congrArg Except.ok (?_ : Vocabulary.keywords.pairOf "Pear" = _)
    decide +kernel
  refine checkIdentifiers_eq_ok_iff.mpr
    ⟨"Fruits", className_fruits, [⟨_, _, apple⟩, ⟨_, _, pear⟩], rfl, ?_⟩
  rw [nodup_mentioned_iff (fruits.startsSmall_className className_fruits)]
  show ["GoldenApple", "goldenApple", "Pear", "pear"].Nodup ∧
    ∀ i ∈ ["GoldenApple", "goldenApple", "Pear", "pear"],
      i ≠ "Fruits" ∧ i ∉ reservedUpper ∧ i ∉ reservedLower
  decide

end Collection

end StaticAccessors
