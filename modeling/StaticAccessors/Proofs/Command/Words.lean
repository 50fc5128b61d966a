import StaticAccessors.Proofs.Command.Flags
import StaticAccessors.Proofs.Command.Speech

/-!
# Other words for a command

The tool reads its own flags up to the name of a command, and leaves all that follows to the command. So the
words after the name can be exchanged for others that the command accepts, and the tool accepts the whole line
as before (`Asks.reword`). In particular a flag of the command that can be left out may be left out
(`Asks.without`).

## Contents
- `Grammar.Leads`: a grammar whose only place takes a name and all that follows it.
- `Accepted.exists_name`, and `Grammar.Leads.read`.
- `reword`, `Asks.reword`, `Asks.without`.
-/

namespace StaticAccessors.Command

open Outcome

variable {g : Grammar} {p q : Progress} {args rest others : List Marked} {key : String} {choices : List String}

/-! ## The place for a name -/

/-- A grammar whose only place takes one of some names and all that follows it. -/
structure Grammar.Leads (g : Grammar) (key : String) (choices : List String) : Prop where
  places : g.places = [⟨key, .remainder choices⟩]
  some_ : choices ≠ []
  dashless : "--" ∉ choices
  long : ∀ f ∈ g.flags, f.Long
  others : ∀ f ∈ g.flags, f.key ≠ key
  free : g.oneOf = []

/-- Progress with a name and all that follows it. -/
def Progress.named (p : Progress) (key name : String) (words : List Marked) : Progress :=
  { p with places := [], given := p.given ++ [⟨key, name :: words.map (·.1)⟩] }

theorem Grammar.Leads.take (leads : g.Leads key choices) (p : Progress) (key : String) (words : List String) :
    g.take p key words = .ok { p with given := p.given ++ [⟨key, words⟩] } := by
  unfold Grammar.take Grammar.checkGroup
  rw [leads.free, if_neg List.not_mem_nil]
  rfl

theorem checkChoice_eq_ok_iff (some_ : choices ≠ []) {word : String} :
    g.checkChoice key choices word = .ok () ↔ word ∈ choices := by
  unfold Grammar.checkChoice
  by_cases listed : word ∈ choices
  · simp [listed]
  · rw [if_neg (by simp [some_, listed])]
    exact ⟨nofun, fun held => absurd held listed⟩

theorem fillPlaces_named (leads : g.Leads key choices) {name : String} (listed : name ∈ choices) (p : Progress)
    (words : List Marked) :
    g.fillPlaces p ((name, .word) :: words) [⟨key, .remainder choices⟩] = .ok (p.named key name words, []) := by
  have count : Reach.count (.remainder choices) (((name, Mark.word) :: words).map (·.2)) =
      some ((name, Mark.word) :: words).length := by
    refine congrArg some ?_
    show 0 + 1 + (words.map (·.2)).length = words.length + 1
    rw [List.length_map]
    omega
  rw [Grammar.fillPlaces_of_count count, List.take_length, List.drop_length]
  unfold Grammar.fill
  dsimp only
  rw [List.map_cons, List.headD_cons, (checkChoice_eq_ok_iff leads.some_).mpr listed, leads.take]
  rfl

theorem Reach.pos_of_count {marks : List Mark} {n : Nat} (h : Reach.count (.remainder choices) marks = some n) :
    0 < n := by
  unfold Reach.count at h
  dsimp only at h
  split at h
  case h_4 =>
    obtain rfl := Option.some.inj h
    omega
  case h_5 => exact absurd h nofun
  all_goals contradiction

/-- The place is left as it is, or it takes a name and all that follows it. -/
theorem named_of_fillPlaces (leads : g.Leads key choices) (fits : ∀ arg ∈ args, Fits g arg)
    (h : g.fillPlaces p args [⟨key, .remainder choices⟩] = .ok (q, others)) :
    (q = p ∧ others = args) ∨
      ∃ name words, args = (name, .word) :: words ∧ name ∈ choices ∧ others = [] ∧ q = p.named key name words := by
  cases count : Reach.count (.remainder choices) (args.map (·.2)) with
  | none =>
    rw [Grammar.fillPlaces_of_count_eq_none count] at h
    obtain ⟨rfl, rfl⟩ := Prod.mk.inj (Except.ok.inj h)
    exact .inl ⟨rfl, rfl⟩
  | some n =>
    obtain ⟨less, rfl⟩ : ∃ less, n = less + 1 := ⟨n - 1, by have := Reach.pos_of_count count; omega⟩
    rcases args with _ | ⟨⟨word, mark⟩, rest⟩
    · exact absurd count nofun
    -- What comes first is one of the names, so it is no hyphens.
    have listed : word ∈ choices := by
      rw [Grammar.fillPlaces_of_count count] at h
      obtain ⟨_, fills, -⟩ := map_eq_ok.mp h
      unfold Grammar.fill at fills
      obtain ⟨_, choice, -⟩ := bind_eq_ok.mp fills
      exact (checkChoice_eq_ok_iff leads.some_).mp choice
    cases mark with
    | word =>
      rw [fillPlaces_named leads listed] at h
      obtain ⟨rfl, rfl⟩ := Prod.mk.inj (Except.ok.inj h)
      exact .inr ⟨word, rest, rfl, listed, rfl, rfl⟩
    | dashes =>
      obtain rfl : word = "--" := fits _ List.mem_cons_self
      exact absurd listed leads.dashless
    | unknown | flag => exact absurd count nofun

/-- A name is accepted with any words after it. -/
theorem accepted_named (leads : g.Leads key choices) {name : String} (listed : name ∈ choices)
    (placed : p.places = [⟨key, .remainder choices⟩]) (words : List Marked) :
    Accepted g p ((name, .word) :: words) (p.named key name words) := by
  have fills := fillPlaces_named leads listed p words
  rw [← placed] at fills
  rcases exists_plain ((name, .word) :: words) with plain | ⟨before, arg, rest, cut, plain, isFlag⟩
  · exact .last plain fills
  · rcases before with _ | ⟨first, before⟩
    · obtain ⟨rfl, -⟩ := List.cons.inj cut
      exact absurd isFlag nofun
    · rw [cut] at fills ⊢
      exact .fill plain (List.cons_ne_nil _ _) isFlag fills (Nat.succ_pos _) (.last nofun rfl)

/-! ## Words after a name -/

/-- What is noted for other keys than the one of the place does not matter to it. -/
theorem allOf_append_of_ne (given : List Given) {other : String} (different : other ≠ key) (words : List String) :
    allOf (given ++ [⟨other, words⟩]) key = allOf given key := by
  unfold allOf
  rw [List.filter_append, List.filter_cons_of_neg (by simpa using different), List.filter_nil, List.append_nil]

theorem allOf_named (p : Progress) (key name : String) (words : List Marked) :
    allOf (p.named key name words).given key = allOf p.given key ++ name :: words.map (·.1) := by
  unfold allOf Progress.named
  dsimp only
  rw [List.filter_append, List.flatMap_append, List.filter_cons_of_pos (by simp), List.filter_nil,
    List.flatMap_cons, List.flatMap_nil, List.append_nil]

/-- What a flag takes is no hyphens, and any other arguments may follow it. -/
theorem Taking.exists_taken {f : Flag} {attached : Option String} {words : List String}
    (h : Taking g f attached rest words others) :
    ∃ taken, rest = taken ++ others ∧ (∀ arg ∈ taken, arg.2 ≠ .dashes) ∧
      ∀ others, Taking g f attached (taken ++ others) words others := by
  cases h with
  | noted effect => exact ⟨[], rfl, nofun, fun _ => .noted effect⟩
  | attached effect choice => exact ⟨[], rfl, nofun, fun _ => .attached effect choice⟩
  | @next _ text _ effect choice =>
    exact ⟨[(text, .word)], rfl, List.forall_mem_singleton.mpr nofun, fun _ => .next effect choice⟩

/-- **A name is found at the place**, if any, after flags with their values; and any other words may follow it. -/
theorem Accepted.exists_name (leads : g.Leads key choices) (h : Accepted g p args q)
    (fits : ∀ arg ∈ args, Fits g arg) (placed : p.places = [⟨key, .remainder choices⟩]) :
    allOf q.given key = allOf p.given key ∨
      ∃ lead name words, args = lead ++ (name, .word) :: words ∧ (∀ arg ∈ lead, arg.2 ≠ .dashes) ∧
        allOf q.given key = allOf p.given key ++ name :: words.map (·.1) ∧
        ∀ others, ∃ q', Accepted g p (lead ++ (name, .word) :: others) q' ∧ q'.places = [] ∧
          q'.leftOver = p.leftOver ∧ allOf q'.given key = allOf p.given key ++ name :: others.map (·.1) := by
  have named {p : Progress} (placed : p.places = [⟨key, .remainder choices⟩]) {name : String} (listed : name ∈ choices)
      (others : List Marked) : ∃ q', Accepted g p ([] ++ (name, .word) :: others) q' ∧ q'.places = [] ∧
        q'.leftOver = p.leftOver ∧ allOf q'.given key = allOf p.given key ++ name :: others.map (·.1) :=
    ⟨_, accepted_named leads listed placed others, rfl, rfl, allOf_named _ _ _ _⟩
  induction h with
  | last plain fills =>
    rw [placed] at fills
    rcases named_of_fillPlaces leads fits fills with ⟨rfl, -⟩ | ⟨name, words, rfl, listed, -, rfl⟩
    · exact .inl rfl
    · exact .inr ⟨[], name, words, rfl, nofun, allOf_named _ _ _ _, named placed listed⟩
  | @fill p p' q before rest others arg plain some_ isFlag fills shorter later ih =>
    rw [placed] at fills
    rcases named_of_fillPlaces leads fits fills with ⟨-, rfl⟩ | ⟨name, words, cut, listed, rfl, rfl⟩
    · exact absurd shorter (Nat.lt_irrefl _)
    · obtain rfl := later.eq_of_nil rfl rfl
      exact .inr ⟨[], name, words, cut, nofun, allOf_named _ _ _ _, named placed listed⟩
  | @flag p p' q word f name attached rest others taken later ih =>
    obtain ⟨⟨listed, known⟩, fits⟩ := List.forall_mem_cons.mp fits
    obtain ⟨values, taking, noted⟩ := taking_of_takeFlag (leads.long f listed) known taken
    obtain ⟨-, rfl⟩ := (g.yields_take p f.key values).of_ok noted
    have same := allOf_append_of_ne p.given (leads.others f listed) values
    have ih := ih (fun arg listed => fits arg (taking.subset listed)) placed
    rw [same] at ih
    rcases ih with unchanged | ⟨lead, verb, words, rfl, dashless, given, again⟩
    · exact .inl unchanged
    · obtain ⟨front, rfl, plain, retaking⟩ := taking.exists_taken
      refine .inr ⟨(word, .flag f name attached) :: (front ++ lead), verb, words, ?_, ?_, given, fun others => ?_⟩
      · rw [List.cons_append, List.append_assoc]
      · exact List.forall_mem_cons.mpr ⟨nofun, List.forall_mem_append.mpr ⟨plain, dashless⟩⟩
      · obtain ⟨q', accepted, rest_⟩ := again others
        rw [List.cons_append, List.append_assoc]
        exact ⟨q', .flag (takeFlag_of_taking (retaking _) noted) accepted, rest_⟩

/-! ## Whole command lines -/

theorem map_of_markAll {words : List String} {marked : List Marked} (h : g.markAll words = .ok marked) :
    marked.map (·.1) = words := by
  induction words using Grammar.markAll.induct generalizing marked with
  | case1 =>
    obtain rfl := Except.ok.inj h
    rfl
  | case2 rest =>
    obtain rfl := Except.ok.inj h
    rw [List.map_cons, List.map_map]
    exact congrArg _ (List.map_id rest)
  | case3 arg rest other ih =>
    rw [Grammar.markAll.eq_3 _ _ _ other] at h
    obtain ⟨mark, -, h⟩ := bind_eq_ok.mp h
    obtain ⟨more, later, h⟩ := bind_eq_ok.mp h
    obtain rfl := Except.ok.inj h
    exact congrArg _ (ih later)

/-- Marks do not depend on what follows, before two hyphens. -/
theorem exists_of_markAll_append {words : List String} {lead marked : List Marked}
    (h : g.markAll words = .ok (lead ++ marked)) (plain : ∀ arg ∈ lead, arg.2 ≠ .dashes) :
    ∃ rest, words = lead.map (·.1) ++ rest ∧ g.markAll rest = .ok marked ∧
      ∀ rest' marked', g.markAll rest' = .ok marked' →
        g.markAll (lead.map (·.1) ++ rest') = .ok (lead ++ marked') := by
  induction lead generalizing words with
  | nil => exact ⟨words, rfl, h, fun _ _ => id⟩
  | cons first lead ih =>
    obtain ⟨plain, plains⟩ := List.forall_mem_cons.mp plain
    cases words using Grammar.markAll.fun_cases with
    | case1 => exact absurd (Except.ok.inj h) nofun
    | case2 rest =>
      obtain ⟨rfl, -⟩ := List.cons.inj (Except.ok.inj h)
      exact absurd rfl plain
    | case3 arg rest other =>
      rw [Grammar.markAll.eq_3 _ _ _ other] at h
      obtain ⟨mark, known, h⟩ := bind_eq_ok.mp h
      obtain ⟨more, later, h⟩ := bind_eq_ok.mp h
      obtain ⟨rfl, rfl⟩ := List.cons.inj (Except.ok.inj h)
      obtain ⟨rest, rfl, marks, again⟩ := ih later plains
      refine ⟨rest, rfl, marks, fun rest' marked' marks' => ?_⟩
      rw [List.map_cons, List.cons_append, Grammar.markAll.eq_3 _ _ _ other, known, again rest' marked' marks']
      rfl

/-- **The words after a name** may be any others. -/
theorem Grammar.Leads.read (leads : g.Leads key choices) {words more : List String} {given : List Given}
    {name : String} (h : g.read words = .complete given []) (named : allOf given key = name :: more) :
    ∃ lead, words = lead ++ name :: more ∧ (∃ marked, g.markAll more = .ok marked) ∧
      ∀ other, (∃ marked, g.markAll other = .ok marked) →
        ∃ given', g.read (lead ++ name :: other) = .complete given' [] ∧ allOf given' key = name :: other := by
  obtain ⟨marked, q, marks, accepted, finish⟩ := Grammar.read_eq_complete_iff.mp h
  obtain ⟨rfl, -⟩ := Reading.complete.inj ((g.yields_finish q).of_ok finish)
  rcases accepted.exists_name leads (Grammar.fits_of_markAll marks) leads.places with
    none | ⟨lead, verb, following, rfl, plain, found, again⟩
  · rw [named] at none
    exact absurd none nofun
  rw [named] at found
  obtain ⟨rfl, rfl⟩ := List.cons.inj (show name :: more = verb :: following.map (·.1) from found)
  have plain : ∀ arg ∈ lead ++ [(name, Mark.word)], arg.2 ≠ .dashes :=
    List.forall_mem_append.mpr ⟨plain, List.forall_mem_singleton.mpr nofun⟩
  rw [← List.singleton_append, ← List.append_assoc] at marks
  obtain ⟨rest, rfl, later, remarks⟩ := exists_of_markAll_append marks plain
  rw [map_of_markAll later]
  have single (rest : List String) : (lead ++ [(name, Mark.word)]).map (·.1) ++ rest =
      lead.map (·.1) ++ name :: rest := by
    rw [List.map_append, List.append_assoc]
    rfl
  refine ⟨lead.map (·.1), single rest, ⟨_, later⟩, fun other ⟨marked', marks'⟩ => ?_⟩
  obtain ⟨q', accepted', places, leftOver, given'⟩ := again marked'
  rw [map_of_markAll marks'] at given'
  have remarks := remarks other marked' marks'
  rw [single, List.append_assoc, List.singleton_append] at remarks
  have finish' : g.finish q' = .ok (.complete q'.given []) := by
    unfold Grammar.finish
    rw [places, leftOver, leads.free]
    rfl
  exact ⟨q'.given, Grammar.read_eq_complete_iff.mpr ⟨_, q', remarks, accepted', finish'⟩, given'⟩

/-! ## Commands -/

theorem leads_command : Manual.tool.grammar.Leads "command" commandNames := by
  refine ⟨rfl, by decide, by decide, ?_, by decide, rfl⟩
  unfold Flag.Long
  decide

/-- A command line with other words after the name of its command. -/
def reword (args words other : List String) : List String := args.take (args.length - words.length) ++ other

/-- **A command may be given other words** that it accepts, if the tool itself has nothing against them. -/
theorem Asks.reword {args words : List String} {verb : Verb} {own : List Given} (h : Asks args verb words own) :
    (∃ marked, Manual.tool.grammar.markAll words = .ok marked) ∧
      ∀ other own', (∃ marked, Manual.tool.grammar.markAll other = .ok marked) →
        verb.manual.grammar.read other = .complete own' [] → Asks (reword args words other) verb other own' := by
  obtain ⟨given, name, accepted, named, known, -⟩ := h
  obtain ⟨lead, rfl, marks, again⟩ := leads_command.read accepted named
  refine ⟨marks, fun other own' marks' own_ => ?_⟩
  obtain ⟨given', accepted', named'⟩ := again other marks'
  have same : Command.reword (lead ++ name :: words) words other = lead ++ name :: other := by
    rw [List.append_cons lead name words, List.append_cons lead name other]
    unfold Command.reword
    rw [List.length_append, Nat.add_sub_cancel, List.take_left]
  rw [same]
  exact ⟨given', name, accepted', named', known, own_⟩

/-- What one grammar has marked, without a flag of another one. -/
theorem exists_markAll_without (other : Grammar) (key : String) {words : List String}
    (h : ∃ marked, g.markAll words = .ok marked) :
    ∃ marked, g.markAll (other.without key words) = .ok marked := by
  obtain ⟨marked, h⟩ := h
  induction words using Grammar.markAll.induct generalizing marked with
  | case1 => exact ⟨marked, h⟩
  | case2 rest => exact ⟨marked, h⟩
  | case3 arg rest plain ih =>
    rw [Grammar.markAll.eq_3 _ _ _ plain] at h
    obtain ⟨mark, known, h⟩ := bind_eq_ok.mp h
    obtain ⟨more, later, -⟩ := bind_eq_ok.mp h
    obtain ⟨kept, marks⟩ := ih more later
    rw [Grammar.without.eq_3 _ _ _ _ plain]
    split
    · exact ⟨kept, marks⟩
    · refine ⟨(arg, mark) :: kept, ?_⟩
      rw [Grammar.markAll.eq_3 _ _ _ plain, known, marks]
      rfl

/-- **A command line without a flag** that can be left out is accepted, too, and gives the same except for it. -/
theorem Asks.without {args words : List String} {verb : Verb} {own : List Given} {key : String}
    (h : Asks args verb words own) (spares : verb.manual.grammar.Spares key) :
    Asks (Command.reword args words (verb.manual.grammar.without key words)) verb
      (verb.manual.grammar.without key words) (givenWithout key own) := by
  obtain ⟨marks, again⟩ := h.reword
  obtain ⟨given, name, -, -, -, own_⟩ := h
  exact again _ _ (exists_markAll_without _ key marks) (spares.read own_)

end StaticAccessors.Command
