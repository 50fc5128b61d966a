import StaticAccessors.Proofs.Units.Nearest
import StaticAccessors.Proofs.Workspace.Regeneration

/-!
# What runs share about units

Runs can share what they know about units. As long as the disk stays as it is this does not show: every
look-up ends as if it were the first one (`answers_eq_map`), and the guard of a run gives the verdict that it
gives before anything is known, whatever was looked up or run before it, and whichever of its two paths is
looked up first (`transparent`).

A run looks up units before it touches the disk, so what it adds is right about the disk that it found
(`Knows.generate`). It is still right afterwards if the run has left that disk as it was.

## Contents
- `UnitMemory.answers`, and `answers_eq_map`: look-ups one after another.
- `Workspace.Knows`, and `Knows.answer`: one look-up in a workspace.
- `Generation.reversedAnswers`, and `reversed_verdict_iff`: the two look-ups of the guard, in either order.
- `LooksUp`, and `view_run`: what a run leaves of a part that only look-ups change.
- `Uses`, and `Uses.knows`: what may happen before.
- `transparent`.
-/

namespace StaticAccessors

open StaticAccessors.Action Outcome

/-! ## Steps and the state -/

namespace Action

variable {σ α β ν : Type} {x : Action σ α}

/-- A step that leaves some part of the state alone. -/
def Leaves (view : σ → ν) (x : Action σ α) : Prop := ∀ s, view (x s).2 = view s

theorem Leaves.apply {view : σ → ν} (h : Leaves view x) {s after : σ} {outcome : Except Fault α}
    (applied : x s = (outcome, after)) : view after = view s := by
  rw [← h s, applied]

/-- A step that keeps what holds of the state, however it ends. -/
def Keeps (P : σ → Prop) (x : Action σ α) : Prop := ∀ s, P s → P (x s).2

theorem Keeps.bind {P : σ → Prop} {next : α → Action σ β} (hx : Keeps P x) (hn : ∀ a, Keeps P (next a)) :
    Keeps P (x >>= next) := by
  intro s holds
  have kept := hx s holds
  rcases applied : x s with ⟨fault | a, after⟩
  · rw [bind_of_error applied]
    rwa [applied] at kept
  · rw [bind_of_ok applied]
    rw [applied] at kept
    exact hn a after kept

end Action

/-! ## Look-ups one after another -/

namespace UnitMemory

variable {d : Disk} {here : Location} {m : UnitMemory} {root p : FilePath} {fault : Fault}

/-- The answers to some look-ups, one after another. -/
def answers (d : Disk) (here : Location) (m : UnitMemory) : List FilePath → List (Except Fault Value)
  | [] => []
  | p :: rest => (resolve d here m p).1 :: answers d here (resolve d here m p).2.2 rest

/-- Each of them is answered as without memory. -/
theorem answers_of_faithful (faithful : m.Faithful d here) (asked : List FilePath) :
    answers d here m asked = asked.map (unitOf d here m.root) := by
  induction asked generalizing m with
  | nil => rfl
  | cons p rest ih =>
    obtain ⟨answer, later, root⟩ := resolve_faithful faithful p
    have others := ih later
    rw [root] at others
    show _ :: answers d here (resolve d here m p).2.2 rest = unitOf d here m.root p :: _
    rw [answer, others]

/-- **Look-ups one after another are answered as if each were the first.** -/
theorem answers_eq_map (d : Disk) (here : Location) (root : FilePath) (asked : List FilePath) :
    answers d here ⟨root, []⟩ asked = asked.map fun p => (resolve d here ⟨root, []⟩ p).1 := by
  have fresh := faithful_nil d here root
  rw [answers_of_faithful fresh]
  exact List.map_congr_left fun p _ => (resolve_faithful fresh p).1.symm

/-- A look-up does not fail with a fault of the generation. -/
theorem isGeneration_of_unitOf_error (h : unitOf d here root p = .error fault) :
    fault.isGeneration = false := by
  cases onDisk : fault.isDisk with
  | false => exact ((unitOf_eq_error_iff onDisk).mp h).passed_on.1
  | true => cases fault <;> first | rfl | exact absurd onDisk nofun

end UnitMemory

/-! ## Look-ups in a workspace -/

namespace Workspace

open UnitMemory

variable {here : Location} {w : Workspace} {d : Disk} {root : FilePath}

/-- What is shared about units is right about a disk. -/
def Knows (w : Workspace) (d : Disk) (here : Location) (root : FilePath) : Prop :=
  ∃ m, w.shared = some m ∧ m.root = root ∧ m.Faithful d here

/-- Nothing is known at first, and nothing wrong. -/
theorem knows_fresh (d : Disk) (here : Location) (fresh : w.shared = some ⟨root, []⟩) : w.Knows d here root :=
  ⟨_, fresh, rfl, faithful_nil d here root⟩

/-- What is known of the units is known after a change that leaves it alone. -/
theorem Knows.of_shared_eq {after : Workspace} (h : w.Knows d here root) (same : after.shared = w.shared) :
    after.Knows d here root := by
  obtain ⟨m, known, rest⟩ := h
  exact ⟨m, same.trans known, rest⟩

/-- **A look-up is answered as without memory**, and what is known stays right. -/
theorem Knows.apply (h : w.Knows w.disk here root) {p : FilePath} {answer : Except Fault Value}
    {after : Workspace} (asked : resolveShared here p w = (answer, after)) :
    answer = unitOf w.disk here root p ∧ after.disk = w.disk ∧ after.Knows w.disk here root := by
  obtain ⟨m, known, rfl, faithful⟩ := h
  obtain ⟨same, later, kept⟩ := resolve_faithful faithful p
  unfold resolveShared resolveUnit ofRun at asked
  dsimp only at asked
  rw [known] at asked
  obtain ⟨rfl, rfl⟩ := Prod.mk.inj asked
  exact ⟨same, rfl, _, rfl, kept, later⟩

theorem Knows.answer (h : w.Knows w.disk here root) (p : FilePath) :
    (resolveShared here p w).1 = unitOf w.disk here root p := by
  rcases asked : resolveShared here p w with ⟨answer, after⟩
  exact (h.apply asked).1

/-- A chain that begins with a look-up ends as if nothing were known, if the rest does. -/
theorem Knows.fst_bind {β : Type} (h : w.Knows w.disk here root) {p : FilePath}
    {next : Value → Action Workspace β} {more : Value → Except Fault β}
    (rest : ∀ unit after, after.disk = w.disk → after.Knows after.disk here root →
      (next unit after).1 = more unit) :
    ((resolveShared here p >>= next) w).1 = unitOf w.disk here root p >>= more := by
  rcases asked : resolveShared here p w with ⟨answer, after⟩
  obtain ⟨told, disk, knows⟩ := h.apply asked
  rw [← told]
  cases answer with
  | error fault =>
    rw [bind_of_error asked]
    rfl
  | ok unit =>
    rw [bind_of_ok asked]
    exact rest unit after disk (disk ▸ knows)

end Workspace

/-! ## The two look-ups of the guard -/

namespace Generation

open Workspace UnitMemory

variable {σ : Type} {host : Host Workspace} {d : Disk} {here : Location} {w : Workspace}
  {root output : FilePath} {c : Collection} {units : Value × Value} {fault : Fault}

/-- What a run is told about units if it asks for that of the source first. -/
def reversedAnswers (host : Host σ) (c : Collection) (output : FilePath) : Action σ (Value × Value) := do
  let source ← .ofExcept (pathOf c.sourcePath)
  let collectionUnit ← host.resolve source
  let outputUnit ← host.resolve output.parent
  return (outputUnit, collectionUnit)

/-- The guard with its look-ups in the other order. -/
def sharedUnitReversed (host : Host σ) (c : Collection) (output : FilePath) : Action σ Value := do
  let units ← reversedAnswers host c output
  .ofExcept (compareUnits output units)

theorem sharedUnitReversed_fst (host : Host σ) (c : Collection) (output : FilePath) (x : σ) :
    (sharedUnitReversed host c output x).1 = (reversedAnswers host c output x).1.bind (compareUnits output) := by
  unfold sharedUnitReversed
  rw [bind_apply]
  rcases reversedAnswers host c output x with ⟨fault | units, after⟩ <;> rfl

/-- What there is to tell about the two units: that of the output directory, and that of the source. -/
def toldUnits (d : Disk) (here : Location) (root output : FilePath) (c : Collection) :
    Except Fault (Value × Value) := do
  let outputUnit ← unitOf d here root output.parent
  let source ← pathOf c.sourcePath
  let collectionUnit ← unitOf d here root source
  return (outputUnit, collectionUnit)

/-- The same in the other order. -/
def toldReversed (d : Disk) (here : Location) (root output : FilePath) (c : Collection) :
    Except Fault (Value × Value) := do
  let source ← pathOf c.sourcePath
  let collectionUnit ← unitOf d here root source
  let outputUnit ← unitOf d here root output.parent
  return (outputUnit, collectionUnit)

/-- **The guard is told what there is to tell**, whatever is known already. -/
theorem unitAnswers_fst (resolves : host.resolve = resolveShared here) (h : w.Knows w.disk here root) :
    (unitAnswers host c output w).1 = toldUnits w.disk here root output c := by
  unfold unitAnswers toldUnits
  rw [resolves]
  refine h.fst_bind fun outputUnit between disk knows => ?_
  cases pathOf c.sourcePath with
  | error fault => rfl
  | ok source =>
    rw [← disk]
    exact knows.fst_bind fun _ _ _ _ => rfl

theorem reversedAnswers_fst (resolves : host.resolve = resolveShared here) (h : w.Knows w.disk here root) :
    (reversedAnswers host c output w).1 = toldReversed w.disk here root output c := by
  unfold reversedAnswers toldReversed
  rw [resolves]
  cases pathOf c.sourcePath with
  | error fault => rfl
  | ok source =>
    refine h.fst_bind fun collectionUnit between disk knows => ?_
    rw [← disk]
    exact knows.fst_bind fun _ _ _ _ => rfl

/-- In either order both units are told, or not. -/
theorem toldReversed_eq_ok_iff :
    toldReversed d here root output c = .ok units ↔ toldUnits d here root output c = .ok units := by
  unfold toldReversed toldUnits
  simp only [bind_eq_ok]
  constructor
  · rintro ⟨source, placed, collectionUnit, second, outputUnit, first, same⟩
    exact ⟨outputUnit, first, source, placed, collectionUnit, second, same⟩
  · rintro ⟨outputUnit, first, source, placed, collectionUnit, second, same⟩
    exact ⟨source, placed, collectionUnit, second, outputUnit, first, same⟩

/-- A path that is none is no fault of the generation. -/
theorem isGeneration_of_pathOf_error {v : Value} (h : pathOf v = .error fault) : fault.isGeneration = false := by
  unfold pathOf at h
  split at h
  · exact absurd h nofun
  · rw [← Except.error.inj h]
    rfl

/-- What keeps the units from being told is no verdict. -/
theorem isGeneration_of_toldUnits_error (h : toldUnits d here root output c = .error fault) :
    fault.isGeneration = false := by
  unfold toldUnits at h
  rcases bind_eq_error.mp h with h | ⟨_, -, h⟩
  · exact isGeneration_of_unitOf_error h
  rcases bind_eq_error.mp h with h | ⟨_, -, h⟩
  · exact isGeneration_of_pathOf_error h
  rcases bind_eq_error.mp h with h | ⟨_, -, h⟩
  · exact isGeneration_of_unitOf_error h
  · exact absurd h nofun

theorem isGeneration_of_toldReversed_error (h : toldReversed d here root output c = .error fault) :
    fault.isGeneration = false := by
  unfold toldReversed at h
  rcases bind_eq_error.mp h with h | ⟨_, -, h⟩
  · exact isGeneration_of_pathOf_error h
  rcases bind_eq_error.mp h with h | ⟨_, -, h⟩
  · exact isGeneration_of_unitOf_error h
  rcases bind_eq_error.mp h with h | ⟨_, -, h⟩
  · exact isGeneration_of_unitOf_error h
  · exact absurd h nofun

/-- **The verdict does not depend on the order of the look-ups.** If one of them fails there is none, in
either order. -/
theorem reversed_verdict_iff {compared : Except Fault Value}
    (verdict : (∃ unit, compared = .ok unit) ∨ ∃ fault, compared = .error fault ∧ fault.isGeneration = true) :
    (toldReversed d here root output c).bind (compareUnits output) = compared ↔
      (toldUnits d here root output c).bind (compareUnits output) = compared := by
  rcases verdict with ⟨unit, rfl⟩ | ⟨fault, rfl, generation⟩
  · refine bind_eq_ok.trans (Iff.trans ?_ bind_eq_ok.symm)
    exact exists_congr fun units => and_congr_left fun _ => toldReversed_eq_ok_iff
  · refine bind_eq_error.trans (Iff.trans ?_ bind_eq_error.symm)
    have untold (h : toldUnits d here root output c = .error fault) : False := by
      rw [isGeneration_of_toldUnits_error h] at generation
      exact absurd generation nofun
    have untold' (h : toldReversed d here root output c = .error fault) : False := by
      rw [isGeneration_of_toldReversed_error h] at generation
      exact absurd generation nofun
    refine or_congr (iff_of_false untold' untold) ?_
    exact exists_congr fun units => and_congr_left fun _ => toldReversed_eq_ok_iff

/-! ## Runs -/

section

variable {τ ν : Type} {watched : Host τ} {view : τ → ν} {r : Registry} {s : Settings} {before after : τ}

/-- Nothing but a look-up changes some part of the state. -/
structure LooksUp (watched : Host τ) (view : τ → ν) : Prop where
  logged : ∀ record x, view (watched.log record x) = view x
  ensured : ∀ p, Leaves view (watched.ensureDirectory p)
  opened : ∀ p, Leaves view (watched.openForWrite p)
  closed : ∀ p text, Leaves view (watched.close p text)
  persisted : Leaves view watched.persist

namespace LooksUp

theorem view_logged (h : LooksUp watched view) (records : List Record) (x : τ) :
    view (watched.logged records x) = view x := by
  unfold Host.logged
  induction records generalizing x with
  | nil => rfl
  | cons record rest ih => exact (ih _).trans (h.logged record x)

/-- Once its checks have passed, a run does not look up any more. -/
theorem view_closed (h : LooksUp watched view) {k : Ready watched r s c before} (v : Stored k) :
    view v.closed = view k.noted :=
  calc view v.closed
    _ = view (watched.logged k.script.records v.opened) := (h.closed _ _).apply v.close
    _ = view v.opened := h.view_logged _ _
    _ = view v.made := (h.opened _).apply v.file
    _ = view k.noted := (h.ensured _).apply v.directory

/-- **A run looks up nothing but the units of its guard.** -/
theorem view_run (h : LooksUp watched view) (r : Registry) (s : Settings) (c : Collection) (before : τ) :
    view (run watched r s c before).2 = view before ∨
      ∃ output, view (run watched r s c before).2 = view (sharedUnit watched c output before).2 := by
  obtain ⟨records, ended⟩ := run_apply watched r s c before
  rw [ended, h.view_logged]
  have course := attempt_course watched r s c before
  generalize callsOf watched r s c before = calls at course
  generalize attempt watched r s c before = attempted at course
  obtain ⟨outcome, last⟩ := attempted
  dsimp only at course ⊢
  cases course
  case unready => exact .inl rfl
  case unguarded guarded => exact .inr ⟨_, congrArg (view ·.2) guarded.symm⟩
  case unfit =>
    rename sharedUnit watched c _ before = _ => guarded
    exact .inr ⟨_, congrArg (view ·.2) guarded.symm⟩
  all_goals
    rename Ready watched r s c before => k
    have noted : view k.noted = view (sharedUnit watched c k.output before).2 :=
      (h.view_logged _ _).trans (congrArg (view ·.2) k.guarded.symm)
    refine .inr ⟨k.output, Eq.trans ?_ noted⟩
  case noDirectory failed => exact (h.ensured _).apply failed
  case unopened directory failed => exact ((h.opened _).apply failed).trans ((h.ensured _).apply directory)
  case unclosed directory file failed =>
    have opened := ((h.opened _).apply file).trans ((h.ensured _).apply directory)
    exact ((h.closed _ _).apply failed).trans ((h.view_logged _ _).trans opened)
  all_goals
    rename Stored k => v
    rw [← h.view_closed v]
  all_goals
    rename watched.persist _ = _ => refreshed
    exact (h.persisted.apply refreshed).trans (h.logged _ _)

end LooksUp

end

end Generation

/-! ## Runs that share what they know -/

namespace Workspace

open UnitMemory Generation

variable {here : Location} {w used : Workspace} {root base : FilePath} {r : Registry} {s : Settings}
  {c : Collection}

/-- The collaborators of a run that shares what it knows about units. -/
def Collaborators.sharing (files : FileTarget) (refresh : Option (Except Fault Unit)) : Collaborators :=
  ⟨.remembered, files, refresh⟩

variable {files : FileTarget} {refresh : Option (Except Fault Unit)}

theorem resolve_sharing : ((Collaborators.sharing files refresh).host here base).resolve = resolveShared here := by
  cases files <;> cases refresh <;> rfl

theorem leaves_ensureDirectory (p : FilePath) : Leaves Workspace.shared (ensureDirectory here p) := by
  intro w
  unfold ensureDirectory ofRun
  dsimp only
  split
  · rfl
  · dsimp only
    split <;> rfl

theorem leaves_onDisk (step : Disk → Except Fault Disk) : Leaves Workspace.shared (onDisk step) := by
  intro w
  unfold onDisk ofRun
  dsimp only
  split <;> rfl

/-- What is shared is changed by nothing but look-ups. -/
theorem looksUp_sharing : LooksUp ((Collaborators.sharing files refresh).host here base) Workspace.shared := by
  have ensured (p : FilePath) : Leaves Workspace.shared (ensureDirectory here (base.join p)) :=
    leaves_ensureDirectory (base.join p)
  have opened (p : FilePath) := leaves_onDisk (·.openForWrite here (base.join p))
  have closed (p : FilePath) (text : String) := leaves_onDisk (·.writeFile here (base.join p) text.toUTF8)
  cases files with
  | disk => cases refresh <;> exact ⟨fun _ _ => rfl, ensured, opened, closed, fun _ => rfl⟩
  | memory refused =>
    cases refresh <;>
      exact ⟨fun _ _ => rfl, fun _ _ => rfl, fun _ _ => rfl, fun _ _ _ => rfl, fun _ => rfl⟩

/-- What is known is right about a disk, which is the present one. -/
def KnowsOwn (d : Disk) (here : Location) (root : FilePath) (w : Workspace) : Prop :=
  w.disk = d ∧ w.Knows d here root

theorem keeps_resolveShared (d : Disk) (p : FilePath) : Keeps (KnowsOwn d here root) (resolveShared here p) := by
  rintro w ⟨rfl, knows⟩
  rcases asked : resolveShared here p w with ⟨answer, after⟩
  exact (knows.apply asked).2

/-- **The guard leaves the disk alone, and what is known right.** -/
theorem keeps_sharedUnit (d : Disk) (c : Collection) (output : FilePath) :
    Keeps (KnowsOwn d here root)
      (sharedUnit ((Collaborators.sharing files refresh).host here base) c output) := by
  have noted (level : Level) (text : String) : Keeps (KnowsOwn d here root)
      (((Collaborators.sharing files refresh).host here base).note level text) := by
    rintro w ⟨disk, knows⟩
    cases files <;> cases refresh <;> exact ⟨disk, knows⟩
  unfold sharedUnit
  rw [resolve_sharing]
  refine (keeps_resolveShared d _).bind fun outputUnit => Keeps.bind (fun _ holds => holds) fun source => ?_
  refine (keeps_resolveShared d _).bind fun collectionUnit => ?_
  split
  · exact (noted _ _).bind fun _ _ holds => holds
  · exact (noted _ _).bind fun _ _ holds => holds

/-- **What a run knows afterwards is right about the disk that it found.** -/
theorem Knows.generate (knows : w.Knows w.disk here root) :
    (generate here r (.sharing files refresh) s c w).2.Knows w.disk here root := by
  unfold Workspace.generate
  rw [bind_of_ok (show prepareUnits here s (Collaborators.sharing files refresh).units w = (.ok (), w) from rfl)]
  cases rooted : rootFor s (Collaborators.sharing files refresh).files with
  | error fault =>
    rw [bind_of_error (ofExcept_apply _ _)]
    exact knows
  | ok base =>
  rw [bind_of_ok (ofExcept_apply _ _)]
  rcases looksUp_sharing.view_run r s c w with same | ⟨output, same⟩
  · exact knows.of_shared_eq same
  · obtain ⟨-, later⟩ := keeps_sharedUnit w.disk c output w ⟨rfl, knows⟩
    exact later.of_shared_eq same

/-- What may happen while the disk stays the same: look-ups, and runs that leave it as they found it. -/
inductive Uses (here : Location) (w : Workspace) : Workspace → Prop
  | refl : Uses here w w
  | lookUp {between : Workspace} (p : FilePath) : Uses here w between →
      Uses here w (resolveShared here p between).2
  | run {between : Workspace} (r : Registry) (files : FileTarget) (refresh : Option (Except Fault Unit))
      (s : Settings) (c : Collection) : Uses here w between →
      (generate here r (.sharing files refresh) s c between).2.disk = between.disk →
      Uses here w (generate here r (.sharing files refresh) s c between).2

/-- **Whatever happens while the disk stays the same**, what is known stays right about it. -/
theorem Uses.knows (h : Uses here w used) (knows : w.Knows w.disk here root) :
    KnowsOwn w.disk here root used := by
  induction h with
  | refl => exact ⟨rfl, knows⟩
  | lookUp p _ ih => exact keeps_resolveShared w.disk p _ ih
  | run r files refresh s c _ kept ih =>
    obtain ⟨disk, known⟩ := ih
    rw [← disk] at known
    exact ⟨kept.trans disk, disk ▸ known.generate⟩

/-- **What is remembered of units does not show.** Look-ups one after another are answered as if each were the
first. After any look-ups and runs that share what they know, while the disk stays the same, a look-up is
answered as at the start, and so is the guard, which gives the same verdict whichever of its two paths is
looked up first. -/
theorem transparent (here : Location) (root : FilePath) :
    (∀ d asked, answers d here ⟨root, []⟩ asked = asked.map fun p => (resolve d here ⟨root, []⟩ p).1) ∧
      ∀ w used : Workspace, w.shared = some ⟨root, []⟩ → Uses here w used →
        (∀ p, (resolveShared here p used).1 = (resolveShared here p w).1) ∧
          ∀ files refresh base c output,
            let host := (Collaborators.sharing files refresh).host here base
            (sharedUnit host c output used).1 = (sharedUnit host c output w).1 ∧
              (∀ unit, (sharedUnitReversed host c output used).1 = .ok unit ↔
                (sharedUnit host c output w).1 = .ok unit) ∧
              ∀ mismatch, (sharedUnitReversed host c output used).1 = .error (.unitMismatch mismatch) ↔
                (sharedUnit host c output w).1 = .error (.unitMismatch mismatch) := by
  refine ⟨fun d => answers_eq_map d here root, fun w used fresh uses => ?_⟩
  have knows := knows_fresh w.disk here fresh
  obtain ⟨disk, known⟩ := uses.knows knows
  rw [← disk] at known
  refine ⟨fun p => ?_, fun files refresh base c output => ?_⟩
  · rw [known.answer, knows.answer, disk]
  · intro host
    have resolves : host.resolve = resolveShared here := resolve_sharing
    rw [sharedUnit_fst, sharedUnit_fst, sharedUnitReversed_fst, unitAnswers_fst resolves known,
      unitAnswers_fst resolves knows, reversedAnswers_fst resolves known, disk]
    exact ⟨rfl, fun unit => reversed_verdict_iff (.inl ⟨unit, rfl⟩),
      fun mismatch => reversed_verdict_iff (.inr ⟨_, rfl, rfl⟩)⟩

/-- A project with its definition, of which nothing is known yet. -/
def unseenProject : Workspace := { ofDisk nestedDisk with shared := some ⟨Location.toPath ["Project"], []⟩ }

/-- In it the root is looked up, then a script, and then the guard of a run looks up both once more. -/
theorem transparent_unseenProject :
    unseenProject.shared = some ⟨Location.toPath ["Project"], []⟩ ∧
      Uses [] unseenProject (resolveShared [] (.ofText ".") unseenProject).2 ∧
      (resolveShared [] (.ofText "Scripts/A.cs") (resolveShared [] (.ofText ".") unseenProject).2).1 =
        .ok (.text "Game") ∧
      (sharedUnit ((Collaborators.sharing .disk none).host [] (.ofText ".")) .fruits (.ofText "Scripts/A.cs")
          (resolveShared [] (.ofText ".") unseenProject).2).1 =
        (sharedUnit ((Collaborators.sharing .disk none).host [] (.ofText ".")) .fruits (.ofText "Scripts/A.cs")
          unseenProject).1 := by
  have uses : Uses [] unseenProject (resolveShared [] (.ofText ".") unseenProject).2 := .lookUp _ .refl
  obtain ⟨answered, guarded⟩ := (transparent [] (Location.toPath ["Project"])).2 unseenProject _ rfl uses
  refine ⟨rfl, uses, (answered _).trans ?_, (guarded _ _ _ _ _).1⟩
  have told : unitOf nestedDisk [] (Location.toPath ["Project"]) (.ofText "Scripts/A.cs") = .ok (.text "Game") := by
    have scripts : (definitionIn nestedDisk [] (Location.toPath ["Project", "Scripts"])).1 = .ok none := rfl
    show (nearest nestedDisk [] _
      [Location.toPath ["Project", "Scripts"], Location.toPath ["Project"], _]).map _ = _
    rw [nearest, scripts]
    dsimp only
    rw [if_neg (by decide), nearest, definitionIn_project]
    rfl
  have knows : unseenProject.Knows unseenProject.disk [] (Location.toPath ["Project"]) := knows_fresh _ _ rfl
  exact (knows.answer _).trans told

end Workspace

end StaticAccessors
