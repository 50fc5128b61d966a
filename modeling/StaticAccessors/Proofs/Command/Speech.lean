import StaticAccessors.Command.Run
import StaticAccessors.Proofs.Generation.Trace
import StaticAccessors.Proofs.Outcome

/-!
# What a command says

Most steps of a command print something and leave the workspace alone. How such a step ends depends on
nothing but the workspace (`Speaks`), so a chain of them can be followed without looking at the terminal. Other
steps read the disk and keep a log; these depend on the disk alone (`Action.Consults`).

A command line that is accepted names a command and gives it its own arguments (`Asks`). The command is
carried out, and a fault that it ends with is told, if it is of a kind that is; all others end the tool
(`exitOf`).

## Contents
- `Console.Markup.Unreadable`: why a message may fail.
- `Action.Consults` and its rules.
- `Terminal.told`, `Terminal.Speaks`.
- `warned`, `settled`: the settings of a command.
- `Asks` and `exitOf`, with `run_asked`, `run_unasked` and `handle_tellFault`.
-/

namespace StaticAccessors

open StaticAccessors.Action Outcome

/-! ## Messages -/

namespace Console.Markup

/-- What is wrong with markup. -/
inductive Unreadable : Fault → Prop
  | markup : Unreadable .markup
  | number : Unreadable .badValue

variable {fault : Fault}

theorem canonical_error {cs : List Char} (h : canonical cs = .error fault) : Unreadable fault := by
  unfold canonical at h
  cases known : Style.canonical (String.ofList cs) with
  | ok name =>
    rw [known] at h
    exact absurd h nofun
  | error problem =>
    rw [known] at h
    obtain rfl := Except.error.inj h
    cases problem with
    | notAStyle => exact .markup
    | notANumber => exact .number

theorem close_error {t : Tag} (h : t.close = .error fault) : Unreadable fault := by
  unfold Tag.close at h
  split at h
  · exact absurd h nofun
  · dsimp only at h
    split at h
    · exact absurd h nofun
    · exact Except.error.inj h ▸ .markup

theorem closeBy_error {tags : List Tag} {name : List Char} (h : closeBy tags name = .error fault) :
    Unreadable fault := by
  unfold closeBy at h
  dsimp only at h
  split at h
  case' isTrue => rw [pure_bind] at h
  case' isFalse =>
    rcases bind_eq_error.mp h with unnamed | ⟨found, -, h⟩
    · exact canonical_error (map_eq_error.mp unnamed)
  -- A tag was looked for in either case.
  all_goals
    split at h
    · exact Except.error.inj h ▸ .markup
    · rcases bind_eq_error.mp h with unclosed | ⟨_, -, none_⟩
      · exact close_error unclosed
      · exact absurd none_ nofun

theorem piece_error {p : Progress} {piece : Piece} (h : p.read piece = .error fault) : Unreadable fault := by
  unfold Progress.read at h
  split at h
  · exact absurd h nofun
  · split at h
    · rcases bind_eq_error.mp h with unclosed | ⟨_, -, h⟩
      · exact closeBy_error unclosed
      · exact absurd h nofun
    · rcases bind_eq_error.mp h with unnamed | ⟨_, -, h⟩
      · exact canonical_error unnamed
      · exact absurd h nofun

theorem check_error {t : Tag} (h : t.check = .error fault) : Unreadable fault := by
  unfold Tag.check at h
  split at h
  · exact absurd h nofun
  · split at h
    · exact Except.error.inj h ▸ .number
    · exact absurd h nofun

/-- A message fails for its markup only. -/
theorem messageLines_error {message : String} (h : messageLines message = .error fault) : Unreadable fault := by
  rcases bind_eq_error.mp (map_eq_error.mp h) with unread | ⟨reading, -, h⟩
  · obtain ⟨piece, -, _, failed⟩ := exists_of_foldlM_error (map_eq_error.mp unread)
    exact piece_error failed
  · obtain ⟨t, -, failed⟩ := exists_of_forM_error (map_eq_error.mp (map_eq_error.mp h))
    exact check_error failed

end Console.Markup

/-! ## Steps that consult a part of the state -/

/-- A step that leaves a part of the state alone, and ends in a way that depends on nothing else. -/
def Action.Consults {σ ν α : Type} (view : σ → ν) (x : Action σ α) (outcome : ν → Except Fault α) : Prop :=
  ∀ state, (x state).1 = outcome (view state) ∧ view (x state).2 = view state

namespace Action.Consults

variable {σ ν μ α β : Type} {view : σ → ν} {x : Action σ α} {outcome : ν → Except Fault α}

theorem ofExcept (outcome : Except Fault α) : Consults view (.ofExcept outcome) fun _ => outcome :=
  fun _ => ⟨rfl, rfl⟩

/-- A chain of such steps. -/
theorem bind {next : α → Action σ β} {more : α → ν → Except Fault β} (hx : Consults view x outcome)
    (hn : ∀ a, Consults view (next a) (more a)) :
    Consults view (x >>= next) fun v => outcome v >>= fun a => more a v := by
  intro state
  obtain ⟨ends, kept⟩ := hx state
  rw [bind_apply]
  dsimp only
  rw [← ends]
  rcases h : x state with ⟨fault | a, after⟩
  · rw [h] at kept
    exact ⟨rfl, kept⟩
  · rw [h] at kept
    obtain ⟨more_, kept_⟩ := hn a after
    rw [show view after = view state from kept] at more_ kept_
    exact ⟨more_, kept_⟩

/-- How such a step ends in a state, and what it leaves. -/
theorem exists_eq (h : Consults view x outcome) (state : σ) {result : Except Fault α}
    (ends : outcome (view state) = result) : ∃ after, view after = view state ∧ x state = (result, after) :=
  ⟨(x state).2, (h state).2, Prod.ext ((h state).1.trans ends) rfl⟩

/-- A step whose fault is passed on in other words. -/
theorem handle {mend : Fault → Action σ α} {words : Fault → Fault} (h : Consults view x outcome)
    (passes : ∀ fault, Consults view (mend fault) fun _ => .error (words fault)) :
    Consults view (x.handle mend) fun v => (outcome v).mapError words := by
  intro state
  obtain ⟨ends, kept⟩ := h state
  dsimp only
  rw [← ends]
  rcases done : x state with ⟨fault | a, after⟩
  · rw [done] at kept
    rw [handle_of_error done]
    obtain ⟨error, same⟩ := passes fault after
    exact ⟨error, same.trans kept⟩
  · rw [done] at kept
    rw [handle_of_ok done]
    exact ⟨rfl, kept⟩

theorem congr {other : ν → Except Fault α} (h : Consults view x outcome) (same : ∀ v, outcome v = other v) :
    Consults view x other := by
  intro state
  rw [← same]
  exact h state

/-- What leaves some of the state alone leaves a part of it alone. -/
theorem coarsen (part : ν → μ) {outcome : μ → Except Fault α} (h : Consults view x fun v => outcome (part v)) :
    Consults (fun state => part (view state)) x outcome := by
  intro state
  obtain ⟨ends, kept⟩ := h state
  exact ⟨ends, congrArg part kept⟩

end Action.Consults

/-! ## Steps that speak -/

namespace Terminal

variable {α : Type}

/-- Whether a message can be told: its markup has to close what it opens, and no more. -/
def told (message : String) : Except Fault Unit := (Console.messageLines message).map fun _ => ()

/-- A step that leaves the workspace alone, and ends in a way that depends on nothing else. -/
abbrev Speaks (x : Action Terminal α) (outcome : Workspace → Except Fault α) : Prop :=
  Consults Terminal.space x outcome

namespace Speaks

theorem print (lines : List String) : Speaks (Terminal.print lines) fun _ => .ok () :=
  fun _ => ⟨rfl, rfl⟩

theorem tell (message : String) : Speaks (Terminal.tell message) fun _ => told message := by
  refine ((Consults.ofExcept (Console.messageLines message)).bind print).congr fun w => ?_
  unfold told
  cases Console.messageLines message <;> rfl

/-- A message, and then a result. -/
theorem tell_return (message : String) (a : α) :
    Speaks (do Terminal.tell message; return a) fun _ => (told message).map fun _ => a := by
  refine ((Speaks.tell message).bind fun _ => .ofExcept (.ok a)).congr fun _ => ?_
  cases told message <;> rfl

end Speaks

/-- A step in the workspace does there what it does. -/
theorem inSpace_of_eq {x : Action Workspace α} {t : Terminal} {outcome : Except Fault α} {w : Workspace}
    (h : x t.space = (outcome, w)) : inSpace x t = (outcome, { t with space := w }) := by
  show ((x t.space).1, { t with space := (x t.space).2 }) = _
  rw [h]

end Terminal

namespace Command

open Terminal

/-! ## Settings -/

/-- A warning as it is told. -/
def warningLine (warning : String) : String := "[yellow]⚠️  " ++ warning ++ "[/yellow]"

/-- Whether the warnings about settings can be told. -/
def warned (s : Settings) : Except Fault Unit := do
  let warnings ← s.warnings
  warnings.forM fun warning => told (warningLine warning)

/-- The settings of a command about which it has warned. -/
def settled (here : Location) (own : List Given) (d : Disk) : Except Fault Settings := do
  let s ← (Settings.load d here (valueOf own "config") (.object (overrides own))).mapError settingsRefusal
  warned s
  return s

theorem speaks_each {α : Type} (message : α → String) (xs : List α) :
    Speaks (forIn xs PUnit.unit fun x _ => do
      tell (message x)
      pure (ForInStep.yield PUnit.unit)) fun _ => xs.forM fun x => told (message x) := by
  induction xs with
  | nil => exact .ofExcept (.ok ())
  | cons x rest ih =>
    rw [List.forIn_cons, bind_assoc]
    refine (Speaks.tell (message x)).bind fun _ => ?_
    rw [pure_bind]
    exact ih

theorem speaks_settingsFor (here : Location) (own : List Given) :
    Speaks (settingsFor here own) fun w => settled here own w.disk := by
  have loads : Speaks (loadSettings here own) fun w =>
      (Settings.load w.disk here (valueOf own "config") (.object (overrides own))).mapError settingsRefusal :=
    fun _ => ⟨rfl, rfl⟩
  unfold settingsFor settled warned
  refine loads.bind fun s => ?_
  refine ((Consults.ofExcept s.warnings).bind fun warnings =>
    (speaks_each warningLine warnings).bind fun _ => .ofExcept (.ok s)).congr fun w => ?_
  cases s.warnings <;> rfl

/-! ## Command lines -/

/-- A command line that is accepted: it names a command, and `own` is what the words after the name give. -/
def Asks (args : List String) (verb : Verb) (words : List String) (own : List Given) : Prop :=
  ∃ given name, Manual.tool.grammar.read args = .complete given [] ∧
    allOf given "command" = name :: words ∧ Verb.ofName? name = some verb ∧
    verb.manual.grammar.read words = .complete own []

/-- A command line asks for one thing only. -/
theorem Asks.unique {args words words' : List String} {verb verb' : Verb} {own own' : List Given}
    (h : Asks args verb words own) (h' : Asks args verb' words' own') :
    verb = verb' ∧ words = words' ∧ own = own' := by
  obtain ⟨given, name, accepted, named, known, own_⟩ := h
  obtain ⟨given', name', accepted', named', known', own_'⟩ := h'
  obtain ⟨rfl, -⟩ := Reading.complete.inj (accepted.symm.trans accepted')
  obtain ⟨rfl, rfl⟩ := List.cons.inj (named.symm.trans named')
  obtain rfl := Option.some.inj (known.symm.trans known')
  exact ⟨rfl, rfl, (Reading.complete.inj (own_.symm.trans own_')).1⟩

/-- What is told about a fault, if it is of a kind that is told. -/
def complaint : Fault → Option String
  | .command words => some ("[red]✗ Error:[/red] " ++ words)
  | fault =>
    if isGenerationFault fault then some ("[red]✗ Generation error:[/red] " ++ fault.message) else none

/-- How the tool ends if its command ends in some way. -/
def exitOf : Except Fault Nat → Except Fault Nat
  | .ok n => .ok n
  | .error fault =>
    match complaint fault with
    | some message => (told message).map fun _ => 1
    | none => .error fault

/-- A fault that is told leads to the exit code 1. -/
theorem exitOf_error_eq_ok {fault : Fault} {n : Nat} (h : exitOf (.error fault) = .ok n) :
    n = 1 ∧ (complaint fault).isSome = true := by
  unfold exitOf at h
  dsimp only at h
  split at h
  · rename_i some_
    obtain ⟨_, -, rfl⟩ := map_eq_ok.mp h
    exact ⟨rfl, by rw [some_]; rfl⟩
  · exact absurd h nofun

/-- The fault of a message is not told in its turn. -/
theorem complaint_of_told {message : String} {fault : Fault} (h : told message = .error fault) :
    complaint fault = none := by
  cases Console.Markup.messageLines_error (map_eq_error.mp h) with
  | markup => rfl
  | number => rfl

theorem exitOf_eq_error_iff {result : Except Fault Nat} {fault : Fault} :
    exitOf result = .error fault ↔ ∃ first, result = .error first ∧ exitOf (.error first) = .error fault := by
  cases result with
  | ok n => exact ⟨fun h => absurd h nofun, fun ⟨_, h, _⟩ => absurd h nofun⟩
  | error first => exact ⟨fun h => ⟨first, rfl, h⟩, fun ⟨_, same, h⟩ => Except.error.inj same ▸ h⟩

theorem speaks_tellFault (fault : Fault) : Speaks (tellFault fault) fun _ => exitOf (.error fault) := by
  cases fault
  -- The kinds that are told each have a message, and the others are passed on.
  case command | registry | generation | scope | unitMismatch | collisions => exact Speaks.tell_return _ 1
  all_goals exact .ofExcept (.error _)

theorem speaks_setThreshold (given : List Given) : Speaks (setThreshold given) fun _ => .ok () := by
  intro t
  unfold setThreshold ofRun
  dsimp only
  split <;> exact ⟨rfl, rfl⟩

/-- **A command line that is accepted** is carried out, and a fault is handed to the teller. -/
theorem run_asked {args words : List String} {verb : Verb} {own : List Given} (asked : Asks args verb words own)
    (here : Location) (response : Response) (t : Terminal) :
    ∃ before : Terminal, before.space = t.space ∧ ∀ r,
      run here r response args t = (carryOut here r response own verb).handle tellFault before := by
  obtain ⟨given, name, accepted, named, known, own_⟩ := asked
  have same (r : Registry) : run here r response args =
      setThreshold given >>= fun _ => (carryOut here r response own verb).handle tellFault := by
    unfold run
    rw [accepted]
    dsimp only
    rw [named]
    dsimp only
    rw [known]
    dsimp only
    unfold runVerb
    rw [own_]
    rfl
  obtain ⟨before, kept, noted⟩ := (speaks_setThreshold given).exists_eq t rfl
  refine ⟨before, kept, fun r => ?_⟩
  rw [same]
  exact bind_of_ok noted _

theorem answer_space (m : Manual) (reading : Reading) (t : Terminal) :
    (answer m reading t).2.space = t.space := by
  cases reading <;> rfl

/-- A command line that is not accepted is answered, and leaves the workspace alone. -/
theorem run_unasked {args : List String} (unasked : ∀ verb words own, ¬Asks args verb words own) (here : Location)
    (r : Registry) (response : Response) (t : Terminal) : (run here r response args t).2.space = t.space := by
  unfold run
  cases accepted : Manual.tool.grammar.read args with
  | help | version | refused => exact answer_space _ _ t
  | complete given leftOver =>
  dsimp only
  cases named : allOf given "command" with
  | nil =>
    cases leftOver with
    | cons => exact answer_space _ _ t
    | nil =>
      obtain ⟨-, kept⟩ := ((speaks_setThreshold given).bind fun _ => (Speaks.print Manual.tool.pages).bind
        fun _ => .ofExcept (.ok 1)) t
      exact kept
  | cons name rest =>
  dsimp only
  cases known : Verb.ofName? name with
  | none => exact answer_space _ _ t
  | some verb =>
  dsimp only
  unfold runVerb
  cases own_ : verb.manual.grammar.read rest with
  | help | version | refused => exact answer_space _ _ t
  | complete own more =>
  dsimp only
  cases none : leftOver ++ more with
  | cons => exact answer_space _ _ t
  | nil =>
    obtain ⟨rfl, rfl⟩ := List.append_eq_nil_iff.mp none
    exact absurd ⟨given, name, accepted, named, known, own_⟩ (unasked verb rest own)

/-- The tool ends as its command does, or tells about its fault, and leaves the workspace as the command does. -/
theorem handle_tellFault (x : Action Terminal Nat) (t : Terminal) :
    (x.handle tellFault t).1 = exitOf (x t).1 ∧ (x.handle tellFault t).2.space = (x t).2.space := by
  rcases ends : x t with ⟨fault | n, after⟩
  · rw [handle_of_error ends]
    exact speaks_tellFault fault after
  · rw [handle_of_ok ends]
    exact ⟨rfl, rfl⟩

end Command

end StaticAccessors
