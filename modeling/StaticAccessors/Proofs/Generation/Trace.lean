import StaticAccessors.Generation

/-!
# Runs that are watched

`Host.traced` is a host that keeps a list of the calls with effects that are made of it, each with its
outcome. Everything else it leaves to the host it watches, so a watched run ends as the run itself does,
in the same state (`follows_run`).

## Contents
- `Action.bind_apply` and its companions: steps one after another.
- `Effect`, `Call` and `Host.traced`.
- `Action.Follows`: a step that only adds calls to another one.
- `follows_run`.
-/

namespace StaticAccessors

/-! ## Steps one after another -/

namespace Action

variable {σ α β : Type}

theorem bind_apply (x : Action σ α) (next : α → Action σ β) (s : σ) :
    (x >>= next) s =
      match x s with
      | (.ok a, after) => next a after
      | (.error fault, after) => (.error fault, after) := by
  show (ExceptT.bind x next) s = _
  unfold ExceptT.bind ExceptT.mk
  show (ExceptT.bindCont next (x s).1) (x s).2 = _
  rcases x s with ⟨_ | _, after⟩ <;> rfl

/-- What follows a step that ended well. -/
theorem bind_of_ok {x : Action σ α} {s after : σ} {a : α} (h : x s = (.ok a, after))
    (next : α → Action σ β) : (x >>= next) s = next a after := by
  rw [bind_apply, h]

/-- Nothing follows a step that failed. -/
theorem bind_of_error {x : Action σ α} {s after : σ} {fault : Fault} (h : x s = (.error fault, after))
    (next : α → Action σ β) : (x >>= next) s = (.error fault, after) := by
  rw [bind_apply, h]

theorem handle_of_ok {x : Action σ α} {s after : σ} {a : α} (h : x s = (.ok a, after))
    (mend : Fault → Action σ α) : x.handle mend s = (.ok a, after) := by
  unfold handle
  rw [h]

/-- A fault is made up for from the state in which it left things. -/
theorem handle_of_error {x : Action σ α} {s after : σ} {fault : Fault} (h : x s = (.error fault, after))
    (mend : Fault → Action σ α) : x.handle mend s = mend fault after := by
  unfold handle
  rw [h]

end Action

/-! ## Calls -/

/-- What a run does to its surroundings. -/
inductive Effect
  | ensureDirectory (directory : FilePath)
  | openForWrite (file : FilePath)
  | close (file : FilePath) (text : String)
  | persist
deriving Repr, DecidableEq

/-- An effect that was asked for, and how it ended. -/
structure Call where
  effect : Effect
  outcome : Except Fault Unit

namespace Action

variable {σ α β : Type}

/-- A step that is watched. -/
def observed (effect : Effect) (x : Action σ Unit) : Action (σ × List Call) Unit := fun (s, calls) =>
  let (outcome, after) := x s
  (outcome, after, calls ++ [⟨effect, outcome⟩])

/-- A step that is no call with an effect. -/
def unobserved (x : Action σ α) : Action (σ × List Call) α := fun (s, calls) =>
  let (outcome, after) := x s
  (outcome, after, calls)

theorem observed_of_eq {x : Action σ Unit} {s after : σ} {outcome : Except Fault Unit}
    (h : x s = (outcome, after)) (effect : Effect) (calls : List Call) :
    x.observed effect (s, calls) = (outcome, after, calls ++ [⟨effect, outcome⟩]) := by
  show ((x s).1, (x s).2, calls ++ [⟨effect, (x s).1⟩]) = _
  rw [h]

theorem unobserved_of_eq {x : Action σ α} {s after : σ} {outcome : Except Fault α}
    (h : x s = (outcome, after)) (calls : List Call) :
    x.unobserved (s, calls) = (outcome, after, calls) := by
  show ((x s).1, (x s).2, calls) = _
  rw [h]

/-- Steps without calls are no calls together. -/
theorem unobserved_bind (x : Action σ α) (next : α → Action σ β) :
    (x >>= next).unobserved = x.unobserved >>= fun a => (next a).unobserved := by
  funext ⟨s, calls⟩
  cases h : x s with
  | mk outcome after =>
    rw [bind_apply, unobserved_of_eq h]
    cases outcome with
    | error fault => exact unobserved_of_eq (bind_of_error h next) calls
    | ok a => exact unobserved_of_eq (bind_of_ok h next) calls

/-- A step over a state with calls that does what another step does, and at most adds calls. -/
def Follows (x : Action (σ × List Call) α) (y : Action σ α) : Prop :=
  ∀ s calls, ∃ more, x (s, calls) = ((y s).1, (y s).2, calls ++ more)

namespace Follows

theorem observed (effect : Effect) (x : Action σ Unit) : Follows (x.observed effect) x :=
  fun _ _ => ⟨_, rfl⟩

theorem unobserved (x : Action σ α) : Follows x.unobserved x := by
  intro s calls
  refine ⟨[], ?_⟩
  rw [List.append_nil]
  rfl

/-- A step that neither reads nor changes the state. -/
theorem ofExcept (outcome : Except Fault α) :
    Follows (.ofExcept outcome) (.ofExcept outcome : Action σ α) :=
  unobserved (.ofExcept outcome)

theorem bind {x : Action (σ × List Call) α} {y : Action σ α} {f : α → Action (σ × List Call) β}
    {g : α → Action σ β} (hx : Follows x y) (hf : ∀ a, Follows (f a) (g a)) :
    Follows (x >>= f) (y >>= g) := by
  intro s calls
  obtain ⟨more, h⟩ := hx s calls
  rw [bind_apply, bind_apply, h]
  cases hy : y s with
  | mk outcome after =>
    cases outcome with
    | error fault => exact ⟨more, rfl⟩
    | ok a =>
      obtain ⟨others, h⟩ := hf a after (calls ++ more)
      refine ⟨more ++ others, ?_⟩
      rw [← List.append_assoc]
      exact h

theorem handle {x : Action (σ × List Call) α} {y : Action σ α} {f : Fault → Action (σ × List Call) α}
    {g : Fault → Action σ α} (hx : Follows x y) (hf : ∀ fault, Follows (f fault) (g fault)) :
    Follows (x.handle f) (y.handle g) := by
  intro s calls
  obtain ⟨more, h⟩ := hx s calls
  unfold Action.handle
  rw [h]
  cases hy : y s with
  | mk outcome after =>
    cases outcome with
    | ok a => exact ⟨more, rfl⟩
    | error fault =>
      obtain ⟨others, h⟩ := hf fault after (calls ++ more)
      refine ⟨more ++ others, ?_⟩
      rw [← List.append_assoc]
      exact h

end Follows

end Action

/-! ## Watched hosts -/

namespace Host

variable {σ : Type}

/-- A host that keeps the calls with effects that are made of it. -/
def traced (host : Host σ) : Host (σ × List Call) where
  here := host.here
  log := fun record (s, calls) => (host.log record s, calls)
  resolve := fun p => (host.resolve p).unobserved
  ensureDirectory := fun p => (host.ensureDirectory p).observed (.ensureDirectory p)
  openForWrite := fun p => (host.openForWrite p).observed (.openForWrite p)
  close := fun p text => (host.close p text).observed (.close p text)
  persist := host.persist.observed .persist

section

variable {host : Host σ} {s after : σ} {outcome : Except Fault Unit}

theorem ensureDirectory_traced {p : FilePath} (h : host.ensureDirectory p s = (outcome, after))
    (calls : List Call) :
    host.traced.ensureDirectory p (s, calls) = (outcome, after, calls ++ [⟨.ensureDirectory p, outcome⟩]) :=
  Action.observed_of_eq h (.ensureDirectory p) calls

theorem openForWrite_traced {p : FilePath} (h : host.openForWrite p s = (outcome, after))
    (calls : List Call) :
    host.traced.openForWrite p (s, calls) = (outcome, after, calls ++ [⟨.openForWrite p, outcome⟩]) :=
  Action.observed_of_eq h (.openForWrite p) calls

theorem close_traced {p : FilePath} {text : String} (h : host.close p text s = (outcome, after))
    (calls : List Call) :
    host.traced.close p text (s, calls) = (outcome, after, calls ++ [⟨.close p text, outcome⟩]) :=
  Action.observed_of_eq h (.close p text) calls

theorem persist_traced (h : host.persist s = (outcome, after)) (calls : List Call) :
    host.traced.persist (s, calls) = (outcome, after, calls ++ [⟨.persist, outcome⟩]) :=
  Action.observed_of_eq h .persist calls

end

/-- The state after some records. -/
def logged (host : Host σ) (records : List Record) (s : σ) : σ :=
  records.foldl (fun s record => host.log record s) s

theorem noteAll_apply (host : Host σ) (records : List Record) (s : σ) :
    host.noteAll records s = (.ok (), host.logged records s) := rfl

theorem note_traced (host : Host σ) (level : Level) (text : String) (s : σ) (calls : List Call) :
    host.traced.note level text (s, calls) = (.ok (), host.log ⟨level, text⟩ s, calls) := rfl

/-- Records are no calls. -/
theorem logged_traced (host : Host σ) (records : List Record) (s : σ) (calls : List Call) :
    host.traced.logged records (s, calls) = (host.logged records s, calls) := by
  unfold logged
  induction records generalizing s with
  | nil => rfl
  | cons record rest ih => exact ih (host.log record s)

theorem follows_note (host : Host σ) (level : Level) (text : String) :
    Action.Follows (host.traced.note level text) (host.note level text) :=
  .unobserved (host.note level text)

theorem follows_noteAll (host : Host σ) (records : List Record) :
    Action.Follows (host.traced.noteAll records) (host.noteAll records) := by
  intro s calls
  refine ⟨[], ?_⟩
  rw [noteAll_apply, noteAll_apply, logged_traced, List.append_nil]

end Host

/-! ## Watched runs -/

namespace Generation

open StaticAccessors.Action

variable {σ : Type} (host : Host σ) (r : Registry) (s : Settings) (c : Collection)

/-- The guard makes no calls. -/
theorem sharedUnit_traced (output : FilePath) :
    sharedUnit host.traced c output = (sharedUnit host c output).unobserved := by
  unfold sharedUnit
  simp only [unobserved_bind]
  refine congrArg _ (funext fun outputUnit => congrArg _ (funext fun source => congrArg _ (funext ?_)))
  intro collectionUnit
  split
  · exact (unobserved_bind (host.note _ _) fun _ => pure outputUnit).symm
  · exact (unobserved_bind (host.note _ _) fun _ => throw _).symm

theorem follows_writeScript (strategy : Strategy) (output : FilePath) :
    Follows (writeScript host.traced strategy s c output) (writeScript host strategy s c output) := by
  unfold writeScript
  refine .bind (.observed _ _) fun _ => ?_
  refine .bind (host.follows_noteAll _) fun _ => ?_
  exact .bind (.observed _ _) fun _ => .ofExcept _

theorem follows_attempt : Follows (attempt host.traced r s c) (attempt host r s c) := by
  unfold attempt
  refine .bind (.ofExcept _) fun strategy => ?_
  refine .bind (.ofExcept _) fun output => ?_
  rw [sharedUnit_traced]
  refine .bind (.unobserved _) fun unit => ?_
  refine .bind (.ofExcept _) fun _ => ?_
  refine .bind (.ofExcept _) fun warnings => ?_
  refine .bind (host.follows_noteAll _) fun _ => ?_
  refine .bind (.observed _ _) fun _ => ?_
  refine .bind (follows_writeScript host s c strategy output) fun _ => ?_
  refine .bind (.ofExcept _) fun target => ?_
  refine .bind (host.follows_note _ _) fun _ => ?_
  refine .bind (.observed _ _) fun _ => ?_
  exact .bind (.ofExcept _) fun className => .ofExcept _

/-- **A watched run** does what the run itself does. -/
theorem follows_run : Follows (run host.traced r s c) (run host r s c) := by
  unfold run
  refine .handle (follows_attempt host r s c) fun fault => ?_
  split
  · exact .bind (host.follows_note _ _) fun _ => .ofExcept _
  · split
    · refine .bind (.ofExcept _) fun output => .bind (.ofExcept _) fun target => ?_
      exact .bind (host.follows_note _ _) fun _ => .ofExcept _
    · exact .ofExcept (.error fault)

end Generation

end StaticAccessors
