import StaticAccessors.Command.Grammar
import StaticAccessors.Proofs.Outcome

/-!
# Command lines that are accepted

A command line is read from the left with a bound on the number of steps, and arguments that nothing takes are
set aside. If none is left over in the end then none was set aside on the way, so each step has filled places
or taken a flag. `Accepted` says this without the bound, one constructor for each step, and
`read_eq_complete_iff` says that a reading without left-over arguments is nothing else.

## Contents
- `Step.Yields` and its rules: what holds if a step goes on.
- what each step yields.
- `Accepted`, `accepted_of_advance`, `Accepted.advance`.
- `Grammar.read_eq_complete_iff`.
-/

namespace StaticAccessors.Command

open Outcome

variable {g : Grammar} {p q : Progress} {args rest others : List Marked} {f : Flag}

/-! ## Steps that go on or end the reading -/

/-- A reading that ends before the command line is complete. -/
inductive Ends : Reading → Prop
  | help : Ends .help
  | version : Ends .version
  | refused (message : String) : Ends (.refused message)

/-- A step that ends the reading early, or goes on with a result of some kind. -/
def Step.Yields {α : Type} (post : α → Prop) : Step α → Prop
  | .ok a => post a
  | .error reading => Ends reading

namespace Step.Yields

variable {α β : Type} {post : α → Prop} {last : β → Prop} {x : Step α} {next : α → Step β}

theorem of_ok (h : Yields post x) {a : α} (ok : x = .ok a) : post a := by
  rw [ok] at h
  exact h

theorem of_error (h : Yields post x) {reading : Reading} (error : x = .error reading) : Ends reading := by
  rw [error] at h
  exact h

theorem bind (hx : Yields post x) (hn : ∀ a, post a → Yields last (next a)) : Yields last (x >>= next) := by
  rcases x with reading | a
  · exact hx
  · exact hn a hx

theorem mono {post' : α → Prop} (h : Yields post x) (weaker : ∀ a, post a → post' a) : Yields post' x := by
  rcases x with reading | a
  · exact h
  · exact weaker a h

theorem map {f : α → β} (hx : Yields post x) (hf : ∀ a, post a → last (f a)) : Yields last (x.map f) := by
  rcases x with reading | a
  · exact hx
  · exact hf a hx

theorem refuse (g : Grammar) (key message : String) : Yields post (g.refuse key message) :=
  .refused _

/-- What each step along a list keeps, all of them keep. -/
theorem foldlM {keeps : β → Prop} {step : β → α → Step β} (each : ∀ b a, keeps b → Yields keeps (step b a))
    (as : List α) {b : β} (h : keeps b) : Yields keeps (as.foldlM step b) := by
  induction as generalizing b with
  | nil => exact h
  | cons a rest ih =>
    rw [List.foldlM_cons]
    exact (each b a h).bind fun _ kept => ih kept

end Step.Yields

/-! ## What the steps yield -/

namespace Grammar

open Step

theorem yields_checkChoice (g : Grammar) (key : String) (choices : List String) (word : String) :
    Yields (fun _ => True) (g.checkChoice key choices word) := by
  unfold checkChoice
  split
  · trivial
  · exact .refuse g _ _

/-- What is taken is noted, and nothing else happens. -/
theorem yields_take (g : Grammar) (p : Progress) (key : String) (words : List String) :
    Yields (fun q => g.checkGroup p key = .ok () ∧ q = { p with given := p.given ++ [⟨key, words⟩] })
      (g.take p key words) := by
  have group : Yields (fun _ => True) (g.checkGroup p key) := by
    unfold checkGroup
    split
    · split
      · exact .refuse g _ _
      · trivial
    · trivial
  unfold take
  rcases h : g.checkGroup p key with reading | _
  · exact group.of_error h
  · exact ⟨rfl, rfl⟩

/-- A place that is filled adds to what is given at most. -/
theorem yields_fill (g : Grammar) (p : Progress) (place : Place) (words : List String) :
    Yields (fun q => q.leftOver = p.leftOver ∧ q.places = p.places) (g.fill p place words) := by
  have taken (key : String) (words : List String) :
      Yields (fun q => q.leftOver = p.leftOver ∧ q.places = p.places) (g.take p key words) :=
    (g.yields_take p key words).mono fun _ ⟨_, same⟩ => by rw [same]; exact ⟨rfl, rfl⟩
  unfold fill
  split
  · exact (g.yields_checkChoice _ _ _).bind fun _ _ => taken _ _
  all_goals
    split
    · exact ⟨rfl, rfl⟩
    · exact taken _ _

theorem yields_fillPlaces (g : Grammar) (p : Progress) (args : List Marked) (places : List Place) :
    Yields (fun made => made.1.leftOver = p.leftOver) (g.fillPlaces p args places) := by
  induction places generalizing p args with
  | nil => rfl
  | cons place more ih =>
    unfold fillPlaces
    split
    · rfl
    · refine (g.yields_fill _ _ _).bind fun q ⟨same, _⟩ => (ih q _).mono fun _ later => ?_
      rw [later, same]

/-- A single place takes as many arguments as it can, if it can be filled. -/
theorem fillPlaces_of_count {place : Place} {n : Nat} (h : place.reach.count (args.map (·.2)) = some n) :
    g.fillPlaces p args [place] =
      (g.fill { p with places := [] } place ((args.take n).map (·.1))).map fun q => (q, args.drop n) := by
  unfold fillPlaces
  rw [h]
  dsimp only
  rcases g.fill { p with places := [] } place _ with _ | _ <;> rfl

theorem fillPlaces_of_count_eq_none {place : Place} (h : place.reach.count (args.map (·.2)) = none) :
    g.fillPlaces p args [place] = .ok (p, args) := by
  unfold fillPlaces
  rw [h]

theorem yields_act (g : Grammar) (p : Progress) (f : Flag) :
    Yields (fun q => q.leftOver = p.leftOver) (g.act p f) := by
  unfold act
  split
  · exact .help
  · exact .version
  · exact (g.yields_take p _ _).mono fun _ ⟨_, same⟩ => by rw [same]

theorem yields_together (g : Grammar) (f : Flag) (letters : List Char) :
    Yields (fun _ => True) (g.together f letters) := by
  induction letters generalizing f with
  | nil => trivial
  | cons c letters ih =>
    unfold together
    split
    · exact .refuse g _ _
    · exact (ih _).map fun _ _ => trivial

/-- A flag takes at most what follows it, and sets nothing aside. -/
theorem yields_takeFlag (g : Grammar) (p : Progress) (f : Flag) (name : String) (attached : Option String)
    (rest : List Marked) :
    Yields (fun made => made.1.leftOver = p.leftOver ∧ made.2.length ≤ rest.length)
      (g.takeFlag p f name attached rest) := by
  have taken (words : List String) (others : List Marked) (fewer : others.length ≤ rest.length) :
      Yields (fun made => made.1.leftOver = p.leftOver ∧ made.2.length ≤ rest.length)
        (do let q ← g.take p f.key words; return (q, others)) :=
    (g.yields_take p _ _).bind fun _ ⟨_, same⟩ => ⟨by rw [same], fewer⟩
  unfold takeFlag
  split
  · exact (g.yields_checkChoice _ _ _).bind fun _ _ => taken _ _ (Nat.le_refl _)
  · split
    · exact (g.yields_checkChoice _ _ _).bind fun _ _ => taken _ _ (Nat.le_succ _)
    · exact .refuse g _ _
  · exact (g.yields_act p f).bind fun _ same => ⟨same, Nat.le_refl _⟩
  · split
    · exact .refuse g _ _
    · refine (g.yields_together _ _).bind fun flags _ => ?_
      have all : Yields (fun q => q.leftOver = p.leftOver) (flags.foldlM g.act p) :=
        .foldlM (fun b f kept => (g.yields_act b f).mono fun _ same => same.trans kept) flags rfl
      exact all.bind fun _ same => ⟨same, Nat.le_refl _⟩

/-- A reading that is finished is complete. -/
theorem yields_finish (g : Grammar) (p : Progress) :
    Yields (· = .complete p.given p.leftOver) (g.finish p) := by
  unfold finish
  split
  · split
    · rfl
    · exact .refused _
  · exact .refused _

end Grammar

/-! ## One step -/

section

variable {before : List Marked} {arg : Marked}

/-- Arguments before the first flag. -/
def Plain (before : List Marked) : Prop := ∀ arg ∈ before, arg.2.isFlag = false

theorem exists_plain (args : List Marked) :
    Plain args ∨ ∃ before arg rest, args = before ++ arg :: rest ∧ Plain before ∧ arg.2.isFlag = true := by
  induction args with
  | nil => exact .inl nofun
  | cons arg rest ih =>
    cases flag : arg.2.isFlag with
    | true => exact .inr ⟨[], arg, rest, rfl, nofun, flag⟩
    | false =>
      rcases ih with plain | ⟨before, first, rest, rfl, plain, isFlag⟩
      · exact .inl (List.forall_mem_cons.mpr ⟨flag, plain⟩)
      · exact .inr ⟨arg :: before, first, rest, rfl, List.forall_mem_cons.mpr ⟨flag, plain⟩, isFlag⟩

theorem Plain.takeWhile (h : Plain before) (args : List Marked) :
    (before ++ args).takeWhile (!·.2.isFlag) = before ++ args.takeWhile (!·.2.isFlag) :=
  List.takeWhile_append_of_pos fun arg listed => by rw [h arg listed]; rfl

namespace Grammar

/-- What is done at a flag, when places have been filled or not. -/
def proceed (g : Grammar) (fuel : Nat) (before : List Marked) (arg : Marked) (rest : List Marked)
    (made : Progress × List Marked) : Step Progress :=
  if made.2.length < (before ++ arg :: rest).length then g.advance fuel made.1 made.2
  else
    let p := { made.1 with leftOver := made.1.leftOver ++ before.map (·.1) }
    match arg.2 with
    | .flag f name attached => do
      let (p, rest) ← g.takeFlag p f name attached rest
      g.advance fuel p rest
    | _ => g.advance fuel { p with leftOver := p.leftOver ++ [arg.1] } rest

/-- The last step: the places take what they can. -/
theorem advance_plain (g : Grammar) (fuel : Nat) (p : Progress) (h : Plain before) :
    g.advance (fuel + 1) p before = (g.fillPlaces p before p.places).map fun made =>
      { made.1 with leftOver := made.1.leftOver ++ made.2.map (·.1) } := by
  have whole := h.takeWhile []
  rw [List.append_nil, List.takeWhile_nil, List.append_nil] at whole
  unfold advance
  dsimp only
  rw [whole, List.drop_length]
  dsimp only
  rcases g.fillPlaces p before p.places with _ | _ <;> rfl

/-- A step before the last. -/
theorem advance_flag (g : Grammar) (fuel : Nat) (p : Progress) (h : Plain before) (isFlag : arg.2.isFlag = true)
    (rest : List Marked) :
    g.advance (fuel + 1) p (before ++ arg :: rest) =
      (if before.isEmpty then .ok (p, before ++ arg :: rest)
        else g.fillPlaces p (before ++ arg :: rest) p.places) >>= g.proceed fuel before arg rest := by
  have front : (before ++ arg :: rest).takeWhile (!·.2.isFlag) = before := by
    rw [h.takeWhile, List.takeWhile_cons_of_neg (by rw [isFlag]; decide), List.append_nil]
  unfold advance
  dsimp only
  rw [front, List.drop_left]
  dsimp only
  split <;> rfl

/-- A step at a flag: there is nothing to fill a place with. -/
theorem advance_at_flag (g : Grammar) (fuel : Nat) (p : Progress) (word : String) (f : Flag) (name : String)
    (attached : Option String) (rest : List Marked) :
    g.advance (fuel + 1) p ((word, .flag f name attached) :: rest) =
      g.takeFlag p f name attached rest >>= fun made => g.advance fuel made.1 made.2 := by
  refine (@advance_flag [] (word, .flag f name attached) g fuel p nofun rfl rest).trans ?_
  refine (if_neg (Nat.lt_irrefl _)).trans ?_
  dsimp only
  rw [List.map_nil, List.append_nil]

end Grammar

end

/-- **What is left over stays left over.** -/
theorem yields_advance (g : Grammar) (fuel : Nat) (p : Progress) (args : List Marked) :
    Step.Yields (fun q => p.leftOver <+: q.leftOver) (g.advance fuel p args) := by
  induction fuel generalizing p args with
  | zero => exact List.prefix_rfl
  | succ fuel ih =>
    have goesOn {q : Progress} (args : List Marked) (earlier : p.leftOver <+: q.leftOver) :
        Step.Yields (fun q => p.leftOver <+: q.leftOver) (g.advance fuel q args) :=
      (ih q args).mono fun _ later => earlier.trans later
    rcases exists_plain args with plain | ⟨before, arg, rest, rfl, plain, isFlag⟩
    · rw [g.advance_plain fuel p plain]
      exact (g.yields_fillPlaces p _ _).map fun _ same => same ▸ List.prefix_append _ _
    · rw [g.advance_flag fuel p plain isFlag]
      have fills : Step.Yields (fun made => made.1.leftOver = p.leftOver) (if before.isEmpty = true then
          .ok (p, before ++ arg :: rest) else g.fillPlaces p (before ++ arg :: rest) p.places) := by
        split
        · rfl
        · exact g.yields_fillPlaces p _ _
      refine fills.bind fun made same => ?_
      have aside (words : List String) : p.leftOver <+: made.1.leftOver ++ words :=
        same ▸ List.prefix_append _ _
      unfold Grammar.proceed
      split
      · exact goesOn _ (same ▸ List.prefix_rfl)
      · dsimp only
        split
        · refine (g.yields_takeFlag _ _ _ _ _).bind fun taken ⟨same, _⟩ => goesOn _ ?_
          rw [same]
          exact aside _
        · exact goesOn _ ((aside _).trans (List.prefix_append _ _))

/-! ## Accepted arguments -/

/-- Arguments all of which are taken, in the order in which they stand. -/
inductive Accepted (g : Grammar) : Progress → List Marked → Progress → Prop
  /-- no flag is left, and the places take the rest -/
  | last {p q : Progress} {args : List Marked} : Plain args → g.fillPlaces p args p.places = .ok (q, []) →
      Accepted g p args q
  /-- a flag is taken, with its value -/
  | flag {p p' q : Progress} {word : String} {f : Flag} {name : String} {attached : Option String}
      {rest others : List Marked} : g.takeFlag p f name attached rest = .ok (p', others) →
      Accepted g p' others q → Accepted g p ((word, .flag f name attached) :: rest) q
  /-- places take what stands before a flag -/
  | fill {p p' q : Progress} {before rest others : List Marked} {arg : Marked} : Plain before → before ≠ [] →
      arg.2.isFlag = true → g.fillPlaces p (before ++ arg :: rest) p.places = .ok (p', others) →
      others.length < (before ++ arg :: rest).length → Accepted g p' others q →
      Accepted g p (before ++ arg :: rest) q

/-- Where nothing is left over, all arguments were taken. -/
theorem accepted_of_advance {fuel : Nat} (enough : args.length < fuel) (h : g.advance fuel p args = .ok q)
    (none : q.leftOver = []) : Accepted g p args q := by
  induction fuel generalizing p args with
  | zero => exact absurd enough (Nat.not_lt_zero _)
  | succ fuel ih =>
    -- Nothing was left over on the way, either.
    have nothing {p' : Progress} {args' : List Marked} (later : g.advance fuel p' args' = .ok q) :
        p'.leftOver = [] :=
      List.prefix_nil.mp (none ▸ (yields_advance g fuel p' args').of_ok later)
    rcases exists_plain args with plain | ⟨before, arg, rest, rfl, plain, isFlag⟩
    · rw [g.advance_plain fuel p plain] at h
      obtain ⟨⟨last, rest⟩, fills, rfl⟩ := map_eq_ok.mp h
      obtain ⟨clean, none⟩ := List.append_eq_nil_iff.mp none
      obtain rfl := List.map_eq_nil_iff.mp none
      refine .last plain (fills.trans ?_)
      dsimp only
      rw [List.map_nil, List.append_nil]
    · rw [g.advance_flag fuel p plain isFlag] at h
      obtain ⟨⟨p', others⟩, fills, h⟩ := bind_eq_ok.mp h
      unfold Grammar.proceed at h
      by_cases shorter : others.length < (before ++ arg :: rest).length
      · rw [if_pos shorter] at h
        have some_ : before ≠ [] := by
          rintro rfl
          obtain ⟨-, rfl⟩ := Prod.mk.inj (Except.ok.inj fills)
          exact absurd shorter (Nat.lt_irrefl _)
        rw [if_neg (by rwa [List.isEmpty_iff])] at fills
        exact .fill plain some_ isFlag fills shorter (ih (by omega) h)
      · rw [if_neg shorter] at h
        dsimp only at h
        obtain ⟨word, mark⟩ := arg
        cases mark with
        | word | dashes => exact absurd isFlag nofun
        | unknown => exact absurd (nothing h) (List.append_ne_nil_of_right_ne_nil _ (List.cons_ne_nil _ _))
        | flag f name attached =>
          obtain ⟨⟨p'', others'⟩, taken, later⟩ := bind_eq_ok.mp h
          obtain ⟨same, fewer⟩ := (g.yields_takeFlag _ _ _ _ _).of_ok taken
          -- Words before the flag would be left over.
          obtain ⟨-, none⟩ := List.append_eq_nil_iff.mp (same.symm.trans (nothing later))
          obtain rfl := List.map_eq_nil_iff.mp none
          obtain ⟨rfl, -⟩ := Prod.mk.inj (Except.ok.inj fills)
          rw [List.map_nil, List.append_nil] at taken
          rw [List.nil_append, List.length_cons] at enough
          dsimp only at fewer
          exact .flag taken (ih (by omega) later)

/-- **Arguments that are all taken** are read to the end, with any sufficient bound. -/
theorem Accepted.advance (h : Accepted g p args q) {fuel : Nat} (enough : args.length < fuel) :
    g.advance fuel p args = .ok q := by
  obtain ⟨fuel, rfl⟩ : ∃ less, fuel = less + 1 := ⟨fuel - 1, by omega⟩
  -- Each step leaves fewer arguments than it found, so the bound lasts.
  induction h generalizing fuel with
  | last plain fills =>
    rw [g.advance_plain fuel _ plain, fills]
    refine congrArg Except.ok ?_
    dsimp only
    rw [List.map_nil, List.append_nil]
  | @flag p p' q word f name attached rest others taken later ih =>
    have fewer := ((g.yields_takeFlag _ _ _ _ _).of_ok taken).2
    rw [List.length_cons] at enough
    dsimp only at fewer
    obtain ⟨less, rfl⟩ : ∃ less, fuel = less + 1 := ⟨fuel - 1, by omega⟩
    rw [g.advance_at_flag, taken]
    exact ih less (by omega)
  | @fill p p' q before rest others arg plain some_ isFlag fills shorter later ih =>
    obtain ⟨less, rfl⟩ : ∃ less, fuel = less + 1 := ⟨fuel - 1, by omega⟩
    rw [g.advance_flag (less + 1) p plain isFlag, if_neg (by rwa [List.isEmpty_iff]), fills]
    show g.proceed (less + 1) before arg rest (p', others) = _
    unfold Grammar.proceed
    rw [if_pos shorter]
    exact ih less (by omega)

/-- **A command line is accepted with nothing left over** if all of its arguments are taken. -/
theorem Grammar.read_eq_complete_iff {words : List String} {given : List Given} :
    g.read words = .complete given [] ↔ ∃ marked q, g.markAll words = .ok marked ∧
      Accepted g ⟨[], [], g.places⟩ marked q ∧ g.finish q = .ok (.complete given []) := by
  unfold Grammar.read
  cases marks : g.markAll words with
  | error message => exact ⟨nofun, fun ⟨_, _, h, _⟩ => absurd h nofun⟩
  | ok marked =>
    have finished : Step.Yields (fun _ => True)
        (g.advance (marked.length + 1) ⟨[], [], g.places⟩ marked >>= g.finish) :=
      (yields_advance g _ _ _).bind fun q _ => (g.yields_finish q).mono fun _ _ => trivial
    constructor
    · intro h
      dsimp only at h
      split at h
      · rename_i reading done
        obtain ⟨q, read, finish⟩ := bind_eq_ok.mp done
        rw [h] at finish
        obtain ⟨-, none⟩ := Reading.complete.inj ((g.yields_finish q).of_ok finish)
        exact ⟨marked, q, rfl, accepted_of_advance (Nat.lt_succ_self _) read none.symm, finish⟩
      · rename_i reading failed
        rw [h] at failed
        exact absurd (finished.of_error failed) nofun
    · rintro ⟨_, q, same, accepted, finish⟩
      obtain rfl := Except.ok.inj same
      dsimp only
      rw [accepted.advance (Nat.lt_succ_self _), show (.ok q >>= g.finish : Step Reading) = _ from finish]

end StaticAccessors.Command
