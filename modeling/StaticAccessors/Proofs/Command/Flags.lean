import Mathlib.Data.List.Find
import StaticAccessors.Command.Manual
import StaticAccessors.Proofs.Command.Reading

/-!
# Command lines without a flag

A flag that is only noted says nothing about the other arguments, so a command line that is accepted with it is
accepted without it, and gives the same except for the flag itself (`Grammar.Spares.read`). The flag is meant by
any argument that is short for it, but not by one that follows two hyphens.

The other way does not hold in general: of `m.json --dry-run --` nothing can take the hyphens, while `m.json --`
is accepted.

## Contents
- `Fits`: what is known of the mark of an argument.
- `Taking`: how a flag is taken.
- `Grammar.without`, and `Grammar.Spares`: a flag that can be left out.
- `Accepted.without`, and `Grammar.Spares.read`.
- `spares_dry_run`.
-/

namespace StaticAccessors.Command

open Outcome

variable {g : Grammar} {p q : Progress} {args rest others : List Marked} {f : Flag} {key : String}

/-! ## Marks -/

/-- Only two hyphens are marked as such, and a flag is one of the grammar by one of its names. -/
def Fits (g : Grammar) : Marked → Prop
  | (word, .dashes) => word = "--"
  | (_, .flag f name _) => f ∈ g.flags ∧ name ∈ f.names
  | _ => True

namespace Grammar

theorem mem_names {name : String} : (name, f) ∈ g.names ↔ f ∈ g.flags ∧ name ∈ f.names := by
  unfold names
  simp only [List.mem_flatMap, List.mem_map, Prod.mk.injEq]
  constructor
  · rintro ⟨f, listed, _, named, rfl, rfl⟩
    exact ⟨listed, named⟩
  · rintro ⟨listed, named⟩
    exact ⟨f, listed, name, named, rfl, rfl⟩

theorem mem_names_of_lookup {name : String} (h : g.names.lookup name = some f) : (name, f) ∈ g.names := by
  obtain ⟨before, after, listed, -⟩ := List.lookup_eq_some_iff.mp h
  rw [listed]
  exact List.mem_append_right _ List.mem_cons_self

theorem mem_names_of_candidates {cs : List Char} {name : String} {attached : Option String}
    (h : (name, f, attached) ∈ g.candidates cs) : (name, f) ∈ g.names := by
  unfold candidates at h
  split at h
  · obtain ⟨⟨name', f'⟩, listed, same⟩ := List.mem_map.mp h
    simp only [Prod.mk.injEq] at same
    obtain ⟨rfl, rfl, -⟩ := same
    exact (List.mem_filter.mp listed).1
  · obtain ⟨⟨name', f'⟩, listed, made⟩ := List.mem_filterMap.mp h
    dsimp only at made
    split at made
    · obtain ⟨rfl, rfl, -⟩ : name' = name ∧ f' = f ∧ _ = attached := by simpa using made
      exact listed
    · split at made
      · obtain ⟨rfl, rfl, -⟩ : name' = name ∧ f' = f ∧ _ = attached := by simpa using made
        exact listed
      · exact absurd made nofun

theorem fits_of_mark {arg : String} {mark : Mark} (h : g.mark arg = .ok mark) :
    mark ≠ .dashes ∧ Fits g (arg, mark) := by
  have flag {name : String} {f : Flag} (attached : Option String) (listed : (name, f) ∈ g.names)
      (same : (.ok (.flag f name attached) : Except String Mark) = .ok mark) :
      mark ≠ .dashes ∧ Fits g (arg, mark) := by
    obtain rfl := Except.ok.inj same
    exact ⟨nofun, mem_names.mp listed⟩
  unfold Grammar.mark at h
  split at h
  · dsimp only at h
    split at h
    · rename_i f found
      exact flag none (mem_names_of_lookup found) h
    · split at h
      · rename_i f found
        split at found
        · exact flag _ (mem_names_of_lookup found) h
        · exact absurd found nofun
      · unfold markOther at h
        split at h
        · rename_i name f attached found
          exact flag attached (mem_names_of_candidates (found ▸ List.mem_singleton.mpr rfl)) h
        · obtain rfl := Except.ok.inj h
          split
          · exact ⟨nofun, trivial⟩
          · exact ⟨nofun, trivial⟩
        · exact absurd h nofun
  · obtain rfl := Except.ok.inj h
    exact ⟨nofun, trivial⟩

theorem fits_of_markAll {words : List String} {marked : List Marked} (h : g.markAll words = .ok marked) :
    ∀ arg ∈ marked, Fits g arg := by
  induction words using markAll.induct generalizing marked with
  | case1 =>
    obtain rfl := Except.ok.inj h
    exact nofun
  | case2 rest =>
    obtain rfl := Except.ok.inj h
    refine List.forall_mem_cons.mpr ⟨rfl, fun arg listed => ?_⟩
    obtain ⟨word, -, rfl⟩ := List.mem_map.mp listed
    trivial
  | case3 arg rest other ih =>
    rw [markAll.eq_3 _ _ _ other] at h
    obtain ⟨mark, known, h⟩ := bind_eq_ok.mp h
    obtain ⟨more, later, h⟩ := bind_eq_ok.mp h
    obtain rfl := Except.ok.inj h
    exact List.forall_mem_cons.mpr ⟨(fits_of_mark known).2, ih later⟩

end Grammar

/-! ## How flags are taken -/

/-- How a flag takes its value: what is noted for it, and the arguments after those taken. -/
inductive Taking (g : Grammar) (f : Flag) : Option String → List Marked → List String → List Marked → Prop
  | noted {rest : List Marked} : f.effect = .note → Taking g f none rest [] rest
  | attached {choices : List String} {text : String} {rest : List Marked} : f.effect = .value choices →
      g.checkChoice f.key choices text = .ok () → Taking g f (some text) rest [text] rest
  | next {choices : List String} {text : String} {rest : List Marked} : f.effect = .value choices →
      g.checkChoice f.key choices text = .ok () → Taking g f none ((text, .word) :: rest) [text] rest

/-- A flag that is only noted has no short name, under which other letters could follow it. -/
def Flag.Long (f : Flag) : Prop := f.effect = .note → ∀ name ∈ f.names, "--".toList.isPrefixOf name.toList = true

/-- What acts without ending the reading is noted. -/
theorem noted_of_act (valueless : ∀ choices, f.effect ≠ .value choices) (h : g.act p f = .ok q) :
    f.effect = .note ∧ g.take p f.key [] = .ok q := by
  unfold Grammar.act at h
  cases effect : f.effect with
  | help | version =>
    rw [effect] at h
    exact absurd h nofun
  | note =>
    rw [effect] at h
    exact ⟨rfl, h⟩
  | value choices => exact absurd effect (valueless choices)

theorem exists_of_together {letters : List Char} {flags : List Flag} (h : g.together f letters = .ok flags) :
    ∃ more, flags = f :: more := by
  cases letters with
  | nil => exact ⟨[], (Except.ok.inj h).symm⟩
  | cons c letters =>
    unfold Grammar.together at h
    split at h
    · exact absurd h nofun
    · obtain ⟨more, -, rfl⟩ := map_eq_ok.mp h
      exact ⟨more, rfl⟩

/-- **A flag that is taken** is noted with its value. -/
theorem taking_of_takeFlag {name : String} {attached : Option String} (long : f.Long) (named : name ∈ f.names)
    (h : g.takeFlag p f name attached rest = .ok (q, others)) :
    ∃ words, Taking g f attached rest words others ∧ g.take p f.key words = .ok q := by
  unfold Grammar.takeFlag at h
  split at h
  · rename_i choices text effect
    obtain ⟨_, choice, h⟩ := bind_eq_ok.mp h
    obtain ⟨_, taken, h⟩ := bind_eq_ok.mp h
    obtain ⟨rfl, rfl⟩ := Prod.mk.inj (Except.ok.inj h)
    exact ⟨[text], .attached effect choice, taken⟩
  · rename_i choices effect
    split at h
    · rename_i word rest
      obtain ⟨_, choice, h⟩ := bind_eq_ok.mp h
      obtain ⟨_, taken, h⟩ := bind_eq_ok.mp h
      obtain ⟨rfl, rfl⟩ := Prod.mk.inj (Except.ok.inj h)
      exact ⟨[word], .next effect choice, taken⟩
    · exact absurd h nofun
  · rename_i valueless
    obtain ⟨_, acted, h⟩ := bind_eq_ok.mp h
    obtain ⟨rfl, rfl⟩ := Prod.mk.inj (Except.ok.inj h)
    obtain ⟨effect, taken⟩ := noted_of_act valueless acted
    exact ⟨[], .noted effect, taken⟩
  · rename_i text valueless
    split at h
    · exact absurd h nofun
    · rename_i short
      obtain ⟨flags, together, h⟩ := bind_eq_ok.mp h
      obtain ⟨_, acted, -⟩ := bind_eq_ok.mp h
      obtain ⟨more, rfl⟩ := exists_of_together together
      rw [List.foldlM_cons] at acted
      obtain ⟨_, acted, -⟩ := bind_eq_ok.mp acted
      -- Other letters can follow a short name only, and what has one ends the reading or takes a value.
      have long := long (noted_of_act valueless acted).1 name named
      rw [long] at short
      exact absurd rfl short

theorem takeFlag_of_taking {name : String} {attached : Option String} {words : List String}
    (h : Taking g f attached rest words others) (taken : g.take p f.key words = .ok q) :
    g.takeFlag p f name attached rest = .ok (q, others) := by
  unfold Grammar.takeFlag
  cases h with
  | noted effect =>
    have acted : g.act p f = .ok q := by
      unfold Grammar.act
      rw [effect]
      exact taken
    rw [effect]
    exact bind_eq_ok.mpr ⟨q, acted, rfl⟩
  | attached effect choice | next effect choice =>
    rw [effect]
    exact bind_eq_ok.mpr ⟨(), choice, bind_eq_ok.mpr ⟨q, taken, rfl⟩⟩

/-! ## Leaving out a flag -/

/-- Whether this is the flag with a key. -/
def Mark.isFor (key : String) : Mark → Bool
  | .flag f _ _ => f.key = key
  | _ => false

namespace Grammar

/-- Whether an argument is taken as the flag with a key. -/
def isFor (g : Grammar) (key arg : String) : Bool :=
  match g.mark arg with
  | .ok mark => mark.isFor key
  | .error _ => false

/-- A command line without a flag; after two hyphens there are no flags. -/
def without (g : Grammar) (key : String) : List String → List String
  | [] => []
  | "--" :: rest => "--" :: rest
  | arg :: rest => if g.isFor key arg then g.without key rest else arg :: g.without key rest

/-- A flag that can be left out: it is only noted, and the other arguments, of which one at most fills a place,
do not depend on it. -/
structure Spares (g : Grammar) (key : String) : Prop where
  noted : ∀ f ∈ g.flags, f.key = key → f.effect = .note
  long : ∀ f ∈ g.flags, f.Long
  group : key ∉ g.oneOf
  place : ∃ name, name ≠ key ∧ g.places = [⟨name, .atMostOne⟩]

end Grammar

/-- What is given without what is given for a key. -/
def givenWithout (key : String) (given : List Given) : List Given := given.filter (·.key ≠ key)

/-- Progress without what is given for a key. -/
def Progress.without (key : String) (p : Progress) : Progress := { p with given := givenWithout key p.given }

theorem any_givenWithout {other : String} (different : other ≠ key) (given : List Given) :
    (givenWithout key given).any (·.key = other) = given.any (·.key = other) := by
  unfold givenWithout
  rw [List.any_filter]
  refine List.any_congr rfl fun entry => ?_
  by_cases same : entry.key = other
  · simp [same, different]
  · simp [same]

namespace Grammar

variable {other : String} {words : List String} {place : Place} {places : List Place}

/-- Whether another key is allowed does not depend on a key that belongs to no group. -/
theorem checkGroup_without (group : key ∉ g.oneOf) (p : Progress) (other : String) :
    g.checkGroup (p.without key) other = g.checkGroup p other := by
  have same : (g.oneOf.filter (· ≠ other)).find? (fun other => (p.without key).given.any (·.key = other)) =
      (g.oneOf.filter (· ≠ other)).find? (fun other => p.given.any (·.key = other)) := by
    refine List.find?_congr fun name listed => any_givenWithout ?_ p.given
    rintro rfl
    exact group (List.mem_filter.mp listed).1
  unfold checkGroup
  rw [same]

theorem take_without (group : key ∉ g.oneOf) (different : other ≠ key) (p : Progress) (words : List String) :
    g.take (p.without key) other words = (g.take p other words).map (Progress.without key) := by
  unfold take
  rw [checkGroup_without group]
  rcases g.checkGroup p other with reading | _
  · rfl
  · refine congrArg Except.ok ?_
    unfold Progress.without givenWithout
    dsimp only
    rw [List.filter_append, List.filter_cons_of_pos (by simpa using different), List.filter_nil]

/-- The flag itself leaves no trace. -/
theorem without_of_take (h : g.take p key words = .ok q) : q.without key = p.without key := by
  obtain ⟨-, rfl⟩ := (g.yields_take p key words).of_ok h
  unfold Progress.without givenWithout
  dsimp only
  rw [List.filter_append, List.filter_cons_of_neg (by simp), List.filter_nil, List.append_nil]

theorem fill_without (group : key ∉ g.oneOf) (different : place.key ≠ key) (p : Progress) (words : List String) :
    g.fill (p.without key) place words = (g.fill p place words).map (Progress.without key) := by
  unfold fill
  split
  · rw [take_without group different]
    rcases g.checkChoice place.key _ _ with reading | _ <;> rfl
  all_goals
    split
    · rfl
    · exact take_without group different p _

theorem fillPlaces_without (group : key ∉ g.oneOf) (different : ∀ place ∈ places, place.key ≠ key) (p : Progress)
    (args : List Marked) :
    g.fillPlaces (p.without key) args places =
      (g.fillPlaces p args places).map fun made => (made.1.without key, made.2) := by
  induction places generalizing p args with
  | nil => rfl
  | cons place more ih =>
    rw [List.forall_mem_cons] at different
    unfold fillPlaces
    split
    · rfl
    · rename_i n counted
      have fills := fill_without group different.1 { p with places := more } ((args.take n).map (·.1))
      show (g.fill (Progress.without key { p with places := more }) place _ >>= _) = _
      rw [fills]
      rcases g.fill { p with places := more } place _ with reading | q
      · rfl
      · exact ih different.2 q _

end Grammar

/-! ## Words before a flag -/

section

variable {tail : List Mark}

theorem takeWhile_append_of_head {α : Type} {holds : α → Bool} {tail : List α}
    (stops : ∀ a ∈ tail.head?, holds a = false) (front : List α) :
    (front ++ tail).takeWhile holds = front.takeWhile holds := by
  induction front with
  | nil =>
    cases tail with
    | nil => rfl
    | cons a rest => exact List.takeWhile_cons_of_neg (by rw [stops a rfl]; decide)
  | cons a rest ih =>
    rw [List.cons_append, List.takeWhile_cons, List.takeWhile_cons, ih]

theorem Reach.le_length_of_count {r : Reach} {marks : List Mark} {n : Nat} (h : r.count marks = some n) :
    n ≤ marks.length := by
  have all := (List.takeWhile_prefix (fun mark : Mark => decide (mark = .dashes)) (l := marks)).length_le
  unfold Reach.count at h
  dsimp only at h
  split at h
  case h_5 => exact absurd h nofun
  all_goals obtain rfl := Option.some.inj h
  case h_3 => exact all
  all_goals
    rename_i rest cut
    have length := congrArg List.length cut
    have dashes := (List.takeWhile_prefix (fun mark : Mark => decide (mark = .dashes)) (l := rest)).length_le
    rw [List.length_drop, List.length_cons] at length
    omega

theorem Reach.exists_count (marks : List Mark) : ∃ n, Reach.count .atMostOne marks = some n := by
  unfold Reach.count
  dsimp only
  generalize marks.drop _ = cut
  rcases cut with _ | ⟨mark, rest⟩
  · exact ⟨_, rfl⟩
  · cases mark <;> exact ⟨_, rfl⟩

/-- What follows from the first flag on does not matter to a place for at most one word. -/
theorem Reach.count_append (before : List Mark) (starts : ∀ mark ∈ tail.head?, mark.isFlag = true) :
    Reach.count .atMostOne (before ++ tail) = Reach.count .atMostOne before := by
  have stops : ∀ mark ∈ tail.head?, decide (mark = .dashes) = false := by
    intro mark first
    refine decide_eq_false ?_
    rintro rfl
    exact absurd (starts _ first) nofun
  have fits := (List.takeWhile_prefix (fun mark : Mark => decide (mark = .dashes)) (l := before)).length_le
  unfold Reach.count
  dsimp only
  rw [takeWhile_append_of_head stops, List.drop_append_of_le_length fits]
  generalize (before.takeWhile fun mark => decide (mark = .dashes)).length = dashes
  rcases before.drop dashes with _ | ⟨mark, rest⟩
  · rcases tail with _ | ⟨mark, tail⟩
    · rfl
    · cases mark with
      | word => exact absurd (starts _ rfl) nofun
      | dashes | unknown | flag => rfl
  · cases mark with
    | word =>
      dsimp only [List.cons_append]
      rw [takeWhile_append_of_head stops]
    | dashes | unknown | flag => rfl

end

/-- A place for at most one word is always filled. -/
theorem places_of_fillPlaces {name : String} (h : g.fillPlaces p args [⟨name, .atMostOne⟩] = .ok (q, others)) :
    q.places = [] := by
  obtain ⟨n, count⟩ := Reach.exists_count (args.map (·.2))
  rw [Grammar.fillPlaces_of_count count] at h
  obtain ⟨q', fills, same⟩ := map_eq_ok.mp h
  obtain ⟨rfl, -⟩ := Prod.mk.inj same
  exact ((g.yields_fill _ _ _).of_ok fills).2

/-- A place for at most one word takes what stands before a flag, whatever follows from the flag on. -/
theorem fillPlaces_optional {name : String} {before tail : List Marked} (plain : Plain before)
    (starts : ∀ arg ∈ tail.head?, arg.2.isFlag = true) (later : ∀ arg ∈ others.head?, arg.2.isFlag = true)
    (h : g.fillPlaces p (before ++ tail) [⟨name, .atMostOne⟩] = .ok (q, others)) :
    others = tail ∧ ∀ tail' : List Marked, (∀ arg ∈ tail'.head?, arg.2.isFlag = true) →
      g.fillPlaces p (before ++ tail') [⟨name, .atMostOne⟩] = .ok (q, tail') := by
  have counted {tail : List Marked} (starts : ∀ arg ∈ tail.head?, arg.2.isFlag = true) :
      Reach.count .atMostOne ((before ++ tail).map (·.2)) = Reach.count .atMostOne (before.map (·.2)) := by
    rw [List.map_append]
    refine Reach.count_append _ fun mark leads => ?_
    rw [List.head?_map] at leads
    obtain ⟨arg, first, rfl⟩ := Option.map_eq_some_iff.mp leads
    exact starts arg first
  obtain ⟨n, count⟩ := Reach.exists_count (before.map (·.2))
  have fewer := Reach.le_length_of_count count
  rw [List.length_map] at fewer
  rw [Grammar.fillPlaces_of_count ((counted starts).trans count)] at h
  obtain ⟨q', fills, same⟩ := map_eq_ok.mp h
  obtain ⟨rfl, rfl⟩ := Prod.mk.inj same
  rw [List.drop_append_of_le_length fewer] at later ⊢
  rw [List.take_append_of_le_length fewer] at fills
  -- What is left starts with a flag, so nothing of what stands before is left.
  have whole : before.drop n = [] := by
    rcases cut : before.drop n with _ | ⟨arg, rest⟩
    · rfl
    · rw [cut] at later
      have word := plain arg (List.mem_of_mem_drop (cut ▸ List.mem_cons_self))
      rw [later arg rfl] at word
      exact absurd word nofun
  refine ⟨by rw [whole, List.nil_append], fun tail' starts' => ?_⟩
  rw [Grammar.fillPlaces_of_count ((counted starts').trans count), List.take_append_of_le_length fewer, fills,
    List.drop_append_of_le_length fewer, whole]
  rfl

/-! ## The reading without the flag -/

/-- Where no place is left, what is taken next is a flag. -/
theorem Accepted.starts (h : Accepted g p args q) (none : p.places = []) :
    ∀ arg ∈ args.head?, arg.2.isFlag = true := by
  cases h with
  | last plain fills =>
    rw [none] at fills
    obtain ⟨-, rfl⟩ := Prod.mk.inj (Except.ok.inj fills)
    exact nofun
  | flag => exact fun _ first => Option.some.inj first ▸ rfl
  | fill _ _ _ fills shorter =>
    rw [none] at fills
    obtain ⟨-, rfl⟩ := Prod.mk.inj (Except.ok.inj fills)
    exact absurd shorter (Nat.lt_irrefl _)

/-- Where no place and no argument is left, nothing is taken. -/
theorem Accepted.eq_of_nil (h : Accepted g p args q) (nil : args = []) (none : p.places = []) : q = p := by
  cases h with
  | last _ fills =>
    rw [none] at fills
    exact (Prod.mk.inj (Except.ok.inj fills)).1.symm
  | flag => exact absurd nil (List.cons_ne_nil _ _)
  | fill => exact absurd nil (List.append_ne_nil_of_right_ne_nil _ (List.cons_ne_nil _ _))

theorem Taking.filter {attached : Option String} {words : List String}
    (h : Taking g f attached rest words others) :
    Taking g f attached (rest.filter (!·.2.isFor key)) words (others.filter (!·.2.isFor key)) := by
  cases h with
  | noted effect => exact .noted effect
  | attached effect choice => exact .attached effect choice
  | next effect choice => exact .next effect choice

/-- What is taken for a flag is among the arguments after it. -/
theorem Taking.subset {attached : Option String} {words : List String}
    (h : Taking g f attached rest words others) : others ⊆ rest := by
  cases h with
  | noted | attached => exact List.Subset.refl _
  | next => exact List.subset_cons_self _ _

/-- **Arguments that are all taken** are all taken without a flag that can be left out. -/
theorem Accepted.without (spares : g.Spares key) (h : Accepted g p args q) (fits : ∀ arg ∈ args, Fits g arg)
    (places : p.places = g.places ∨ p.places = []) :
    Accepted g (p.without key) (args.filter (!·.2.isFor key)) (q.without key) := by
  obtain ⟨name, different, placed⟩ := spares.place
  have others_ {places : List Place} (known : places = g.places ∨ places = []) :
      ∀ place ∈ places, place.key ≠ key := by
    rcases known with rfl | rfl
    · rw [placed]
      exact List.forall_mem_singleton.mpr different
    · exact nofun
  have kept {args : List Marked} (plain : Plain args) : args.filter (!·.2.isFor key) = args := by
    refine List.filter_eq_self.mpr fun arg listed => ?_
    have word := plain arg listed
    obtain ⟨text, mark⟩ := arg
    cases mark with
    | flag => exact absurd word nofun
    | word | dashes | unknown => rfl
  induction h with
  | @last p q args plain fills =>
    rw [kept plain]
    refine .last plain ?_
    show g.fillPlaces (p.without key) args p.places = _
    rw [Grammar.fillPlaces_without spares.group (others_ places), fills]
    rfl
  | @flag p p' q word f name attached rest others taken later ih =>
    obtain ⟨⟨listed, named⟩, fits⟩ := List.forall_mem_cons.mp fits
    obtain ⟨words, taking, noted⟩ := taking_of_takeFlag (spares.long f listed) named taken
    obtain ⟨-, same⟩ := (g.yields_take p f.key words).of_ok noted
    have ih := ih (fun arg listed => fits arg (taking.subset listed)) (by rw [same]; exact places)
    by_cases meant : f.key = key
    · have dropped : Mark.isFor key (.flag f name attached) = true := decide_eq_true meant
      rw [List.filter_cons_of_neg (by rw [dropped]; decide)]
      -- The flag took nothing after it, so its own note is all that is missing.
      cases taking with
      | noted =>
        rw [meant] at noted
        rwa [Grammar.without_of_take noted] at ih
      | attached effect | next effect => exact absurd (effect.symm.trans (spares.noted f listed meant)) nofun
    · have stays : Mark.isFor key (.flag f name attached) = false := decide_eq_false meant
      rw [List.filter_cons_of_pos (by rw [stays]; decide)]
      refine .flag (takeFlag_of_taking taking.filter ?_) ih
      rw [Grammar.take_without spares.group meant, noted]
      rfl
  | @fill p p' q before rest others arg plain some_ isFlag fills shorter later ih =>
    have placed : p.places = [⟨name, .atMostOne⟩] := by
      rcases places with known | none
      · rw [known, placed]
      · rw [none] at fills
        obtain ⟨-, rfl⟩ := Prod.mk.inj (Except.ok.inj fills)
        exact absurd shorter (Nat.lt_irrefl _)
    rw [placed] at fills
    have filled := places_of_fillPlaces fills
    have starts : ∀ first ∈ (arg :: rest).head?, first.2.isFlag = true := fun _ first => Option.some.inj first ▸ isFlag
    obtain ⟨rfl, again⟩ := fillPlaces_optional plain starts (later.starts filled) fills
    have ih := ih (fun other listed => fits other (List.mem_append_right _ listed)) (.inr filled)
    rw [List.filter_append, kept plain]
    generalize (arg :: rest).filter (!·.2.isFor key) = tail at ih ⊢
    have starts := ih.starts filled
    have fills : g.fillPlaces (p.without key) (before ++ tail) p.places = .ok (p'.without key, tail) := by
      rw [Grammar.fillPlaces_without spares.group (others_ places), placed, again tail starts]
      rfl
    rcases tail with _ | ⟨first, more⟩
    · -- The flag was the only one that was left.
      rw [List.append_nil] at fills ⊢
      refine .last plain (fills.trans ?_)
      rw [ih.eq_of_nil rfl filled]
    · refine .fill plain some_ (starts first rfl) fills ?_ ih
      rw [List.length_append]
      exact Nat.lt_add_of_pos_left (List.length_pos_iff.mpr some_)

/-! ## Whole command lines -/

theorem markAll_without (key : String) {words : List String} {marked : List Marked}
    (h : g.markAll words = .ok marked) :
    g.markAll (g.without key words) = .ok (marked.filter (!·.2.isFor key)) := by
  induction words using Grammar.markAll.induct generalizing marked with
  | case1 =>
    obtain rfl := Except.ok.inj h
    rfl
  | case2 rest =>
    obtain rfl := Except.ok.inj h
    refine congrArg Except.ok (List.filter_eq_self.mpr (List.forall_mem_cons.mpr ⟨rfl, fun arg listed => ?_⟩)).symm
    obtain ⟨word, -, rfl⟩ := List.mem_map.mp listed
    rfl
  | case3 arg rest other ih =>
    rw [Grammar.markAll.eq_3 _ _ _ other] at h
    obtain ⟨mark, known, h⟩ := bind_eq_ok.mp h
    obtain ⟨more, later, h⟩ := bind_eq_ok.mp h
    obtain rfl := Except.ok.inj h
    have ih := ih later
    rw [Grammar.without.eq_3 _ _ _ _ other]
    unfold Grammar.isFor
    rw [known]
    dsimp only
    by_cases meant : mark.isFor key = true
    · rwa [if_pos meant, List.filter_cons_of_neg (by rw [meant]; decide)]
    · rw [if_neg meant, List.filter_cons_of_pos (by rw [Bool.eq_false_of_not_eq_true meant]; decide),
        Grammar.markAll.eq_3 _ _ _ other, known, ih]
      rfl

theorem finish_without (spares : g.Spares key) {given : List Given}
    (h : g.finish p = .ok (.complete given [])) :
    g.finish (p.without key) = .ok (.complete (givenWithout key given) []) := by
  obtain ⟨rfl, none⟩ := Reading.complete.inj ((g.yields_finish p).of_ok h)
  have any : g.oneOf.any (fun name => (p.without key).given.any (·.key = name)) =
      g.oneOf.any fun name => p.given.any (·.key = name) := by
    rw [Bool.eq_iff_iff, List.any_eq_true, List.any_eq_true]
    refine exists_congr fun name => and_congr_right fun listed => ?_
    rw [show (p.without key).given = givenWithout key p.given from rfl, any_givenWithout]
    rintro rfl
    exact spares.group listed
  have same : g.finish (p.without key) = (g.finish p).map fun _ => .complete (p.without key).given p.leftOver := by
    unfold Grammar.finish
    rw [any, show (p.without key).places = p.places from rfl]
    generalize p.places.filter (·.reach = .one) = missing
    rcases missing with _ | ⟨place, more⟩
    · dsimp only
      split <;> rfl
    · rfl
  rw [same, h, none]
  rfl

/-- **A command line that is accepted** is accepted without a flag that can be left out, and gives the same
except for it. -/
theorem Grammar.Spares.read (spares : g.Spares key) {words : List String} {given : List Given}
    (h : g.read words = .complete given []) :
    g.read (g.without key words) = .complete (givenWithout key given) [] := by
  obtain ⟨marked, q, marks, accepted, finish⟩ := Grammar.read_eq_complete_iff.mp h
  exact Grammar.read_eq_complete_iff.mpr ⟨_, q.without key, markAll_without key marks,
    accepted.without spares (Grammar.fits_of_markAll marks) (.inl rfl), finish_without spares finish⟩

/-- The flag that only shows the code can be left out. -/
theorem spares_dry_run : Manual.generate.grammar.Spares "dry_run" := by
  refine ⟨by decide, ?_, by decide, "manifest", by decide, rfl⟩
  unfold Flag.Long
  decide

example : Manual.generate.grammar.without "dry_run" ["m.json", "--dry", "--verbose"] = ["m.json", "--verbose"] := by
  decide +kernel

end StaticAccessors.Command
