import StaticAccessors.Proofs.Generation.Trace

/-!
# The course of a run

A run up to its first fault can stop at ten points. `Course` lists them, each with what has succeeded
before, the state that is left, and the calls with effects that were made. That a watched run takes one
of these courses (`attempt_traced`) is proved by following its steps once; all that can be said about the
order of effects is then a matter of cases.

## Contents
- `Ready`: all checks have passed.
- `Stored`: the file was closed.
- `Course`, `Course.calls_ne_nil`, `Course.storing_prefix`, and `attempt_traced`.
-/

namespace StaticAccessors.Generation

open StaticAccessors.Action

variable {σ : Type} {host : Host σ} {r : Registry} {s : Settings} {c : Collection} {before : σ}

/-! ## What has succeeded -/

/-- What a run has found out when all its checks have passed. -/
structure Ready (host : Host σ) (r : Registry) (s : Settings) (c : Collection) (before : σ) where
  strategy : Strategy
  output : FilePath
  unit : Value
  warnings : List String
  /-- the state after the guard -/
  after : σ
  lookup : r.lookup (.style c.style) = .ok strategy
  path : Script.path s c = .ok output
  guarded : sharedUnit host c output before = (.ok unit, after)
  distinct : Strategy.checkIdentifiers c = .ok ()
  warned : Strategy.collectionWarnings c = .ok warnings

namespace Ready

/-- All checks pass in one way only. -/
instance : Subsingleton (Ready host r s c before) := by
  refine ⟨fun k other => ?_⟩
  obtain ⟨strategy, output, unit, warnings, after, lookup, path, guarded, distinct, warned⟩ := k
  obtain ⟨strategy', output', unit', warnings', after', lookup', path', guarded', distinct', warned'⟩ := other
  obtain rfl : strategy = strategy' := Except.ok.inj (lookup.symm.trans lookup')
  obtain rfl : output = output' := Except.ok.inj (path.symm.trans path')
  obtain ⟨units, states⟩ := Prod.mk.inj (guarded.symm.trans guarded')
  obtain rfl : unit = unit' := Except.ok.inj units
  obtain rfl : after = after' := states
  obtain rfl : warnings = warnings' := Except.ok.inj (warned.symm.trans warned')
  rfl

variable (k : Ready host r s c before)

/-- The script. -/
def script : Printed := Script.print k.strategy s c

/-- The state in which the first call is made. -/
def noted : σ := host.logged (k.warnings.map (⟨.warning, ·⟩)) k.after

@[simp] def directoryCall (outcome : Except Fault Unit) : Call := ⟨.ensureDirectory k.output.parent, outcome⟩

@[simp] def openCall (outcome : Except Fault Unit) : Call := ⟨.openForWrite k.output, outcome⟩

@[simp] def closeCall (outcome : Except Fault Unit) : Call := ⟨.close k.output k.script.text, outcome⟩

end Ready

@[simp] def persistCall (outcome : Except Fault Unit) : Call := ⟨.persist, outcome⟩

/-- The record about a script that was written. -/
def writtenRecord (c : Collection) (target : FilePath) : Record :=
  ⟨.info, "Wrote " ++ target.text ++ " for collection " ++ c.name.display⟩

/-- The states up to the one in which the file is closed. -/
structure Stored (k : Ready host r s c before) where
  made : σ
  opened : σ
  closed : σ
  directory : host.ensureDirectory k.output.parent k.noted = (.ok (), made)
  file : host.openForWrite k.output made = (.ok (), opened)
  close : host.close k.output k.script.text (host.logged k.script.records opened) = (.ok (), closed)

/-- They are reached in one way only. -/
instance (k : Ready host r s c before) : Subsingleton (Stored k) := by
  refine ⟨fun w other => ?_⟩
  obtain ⟨made, opened, closed, directory, file, close⟩ := w
  obtain ⟨made', opened', closed', directory', file', close'⟩ := other
  obtain rfl : made = made' := (Prod.mk.inj (directory.symm.trans directory')).2
  obtain rfl : opened = opened' := (Prod.mk.inj (file.symm.trans file')).2
  obtain rfl : closed = closed' := (Prod.mk.inj (close.symm.trans close')).2
  rfl

/-- The calls made up to then. -/
@[simp] def Ready.storing (k : Ready host r s c before) : List Call :=
  [k.directoryCall (.ok ()), k.openCall (.ok ()), k.closeCall (.ok ())]

/-! ## Courses -/

/-- The courses of a run up to its first fault: how it ends, the state it leaves and the calls it makes. -/
inductive Course (host : Host σ) (r : Registry) (s : Settings) (c : Collection) (before : σ) :
    Except Fault Report → σ → List Call → Prop
  /-- There is no strategy or no path. -/
  | unready {fault} : r.lookup (.style c.style) = .error fault ∨ Script.path s c = .error fault →
      Course host r s c before (.error fault) before []
  /-- The guard fails. -/
  | unguarded {output fault after} : Script.path s c = .ok output →
      sharedUnit host c output before = (.error fault, after) →
      Course host r s c before (.error fault) after []
  /-- The collection does not pass its checks. -/
  | unfit {output unit fault after} : Script.path s c = .ok output →
      sharedUnit host c output before = (.ok unit, after) →
      Strategy.checkIdentifiers c = .error fault ∨
        Strategy.checkIdentifiers c = .ok () ∧ Strategy.collectionWarnings c = .error fault →
      Course host r s c before (.error fault) after []
  | noDirectory (k : Ready host r s c before) {fault made} :
      host.ensureDirectory k.output.parent k.noted = (.error fault, made) →
      Course host r s c before (.error fault) made [k.directoryCall (.error fault)]
  | unopened (k : Ready host r s c before) {made fault opened} :
      host.ensureDirectory k.output.parent k.noted = (.ok (), made) →
      host.openForWrite k.output made = (.error fault, opened) →
      Course host r s c before (.error fault) opened [k.directoryCall (.ok ()), k.openCall (.error fault)]
  | unclosed (k : Ready host r s c before) {made opened fault closed} :
      host.ensureDirectory k.output.parent k.noted = (.ok (), made) →
      host.openForWrite k.output made = (.ok (), opened) →
      host.close k.output k.script.text (host.logged k.script.records opened) = (.error fault, closed) →
      Course host r s c before (.error fault) closed
        [k.directoryCall (.ok ()), k.openCall (.ok ()), k.closeCall (.error fault)]
  /-- The script could not be completed. -/
  | incomplete (k : Ready host r s c before) (w : Stored k) {fault} : k.script.outcome = .error fault →
      Course host r s c before (.error fault) w.closed k.storing
  /-- The place of the file cannot be told. -/
  | unplaced (k : Ready host r s c before) (w : Stored k) {fault} : k.script.outcome = .ok () →
      absolutePath host.here (s .projectRoot) k.output = .error fault →
      Course host r s c before (.error fault) w.closed k.storing
  | unrefreshed (k : Ready host r s c before) (w : Stored k) {target fault after} :
      k.script.outcome = .ok () →
      absolutePath host.here (s .projectRoot) k.output = .ok target →
      host.persist (host.log (writtenRecord c target) w.closed) = (.error fault, after) →
      Course host r s c before (.error fault) after (k.storing ++ [persistCall (.error fault)])
  | finished (k : Ready host r s c before) (w : Stored k) {target after className} :
      k.script.outcome = .ok () →
      absolutePath host.here (s .projectRoot) k.output = .ok target →
      host.persist (host.log (writtenRecord c target) w.closed) = (.ok (), after) →
      c.className = .ok className →
      Course host r s c before
        (.ok (.written k.output k.warnings ⟨c.name, k.strategy.name, className,
          c.namespace_.orElse (.text ""), k.unit, c.items.length, k.output⟩))
        after (k.storing ++ [persistCall (.ok ())])

/-- What is ready has passed the guard. -/
theorem Ready.not_unguarded (k : Ready host r s c before) {output : FilePath} {fault : Fault} {after : σ}
    (path : Script.path s c = .ok output) : sharedUnit host c output before ≠ (.error fault, after) := by
  intro failed
  obtain rfl : k.output = output := Except.ok.inj (k.path.symm.trans path)
  exact absurd (k.guarded.symm.trans failed) nofun

/-- A run whose checks have passed makes some call. -/
theorem Course.calls_ne_nil {raised : Except Fault Report} {after : σ} {calls : List Call}
    (h : Course host r s c before raised after calls) (k : Ready host r s c before) : calls ≠ [] := by
  cases h
  case unready early =>
    rcases early with h | h
    · exact absurd (k.lookup.symm.trans h) nofun
    · exact absurd (k.path.symm.trans h) nofun
  case unguarded path failed => exact absurd failed (k.not_unguarded path)
  case unfit rejected _ =>
    rcases rejected with h | ⟨-, h⟩
    · exact absurd (k.distinct.symm.trans h) nofun
    · exact absurd (k.warned.symm.trans h) nofun
  all_goals exact List.cons_ne_nil _ _

/-- A run whose file was closed has made the calls up to then. -/
theorem Course.storing_prefix {raised : Except Fault Report} {after : σ} {calls : List Call}
    (h : Course host r s c before raised after calls) {k : Ready host r s c before} (v : Stored k) :
    k.storing <+: calls := by
  have some_ := h.calls_ne_nil k
  cases h
  case unready | unguarded | unfit => exact absurd rfl some_
  all_goals
    rename Ready host r s c before => own
    obtain rfl := Subsingleton.elim k own
  case noDirectory failed => exact absurd (failed.symm.trans v.directory) nofun
  case unopened directory failed =>
    obtain rfl := (Prod.mk.inj (directory.symm.trans v.directory)).2
    exact absurd (failed.symm.trans v.file) nofun
  case unclosed directory file failed =>
    obtain rfl := (Prod.mk.inj (directory.symm.trans v.directory)).2
    obtain rfl := (Prod.mk.inj (file.symm.trans v.file)).2
    exact absurd (failed.symm.trans v.close) nofun
  case incomplete | unplaced => exact List.prefix_rfl
  case unrefreshed | finished => exact List.prefix_append _ _

/-- A script that has a path has a class name. -/
theorem exists_className_of_path {output : FilePath} (h : Script.path s c = .ok output) :
    ∃ className, c.className = .ok className := by
  cases hc : c.className with
  | ok className => exact ⟨className, rfl⟩
  | error fault =>
    unfold Script.path Script.fileName at h
    rw [hc] at h
    exact absurd h nofun

theorem ofExcept_apply {τ α : Type} (outcome : Except Fault α) (x : τ) :
    (Action.ofExcept outcome) x = (outcome, x) := rfl

/-! ## The steps of a watched run -/

/-- The file that cannot be opened. -/
theorem writeScript_unopened {strategy : Strategy} {output : FilePath} {made opened : σ} {fault : Fault}
    (h : host.openForWrite output made = (.error fault, opened)) (calls : List Call) :
    writeScript host.traced strategy s c output (made, calls) =
      (.error fault, opened, calls ++ [⟨.openForWrite output, .error fault⟩]) :=
  bind_of_error (Host.openForWrite_traced h calls) _

/-- The file that is opened is closed, with the text as far as it goes. -/
theorem writeScript_opened {strategy : Strategy} {output : FilePath} {made opened closed : σ}
    {outcome : Except Fault Unit} (h : host.openForWrite output made = (.ok (), opened))
    (hc : host.close output (Script.print strategy s c).text
      (host.logged (Script.print strategy s c).records opened) = (outcome, closed)) (calls : List Call) :
    writeScript host.traced strategy s c output (made, calls) =
      (outcome.bind fun _ => (Script.print strategy s c).outcome, closed,
        calls ++ [⟨.openForWrite output, .ok ()⟩] ++
          [⟨.close output (Script.print strategy s c).text, outcome⟩]) := by
  unfold writeScript
  rw [bind_of_ok (Host.openForWrite_traced h calls)]
  rw [bind_of_ok (host.traced.noteAll_apply _ _), host.logged_traced]
  have close := Host.close_traced hc (calls ++ [⟨.openForWrite output, .ok ()⟩])
  cases outcome with
  | error fault => exact bind_of_error close _
  | ok _ => exact bind_of_ok close _

/-- **A watched run takes one of these courses.** -/
theorem attempt_traced (host : Host σ) (r : Registry) (s : Settings) (c : Collection) (before : σ) :
    ∃ outcome after calls, attempt host.traced r s c (before, []) = (outcome, after, calls) ∧
      Course host r s c before outcome after calls := by
  unfold attempt
  cases lookup : r.lookup (.style c.style) with
  | error fault => exact ⟨_, _, _, bind_of_error (ofExcept_apply _ _) _, .unready (.inl lookup)⟩
  | ok strategy =>
  rw [bind_of_ok (ofExcept_apply _ _)]
  cases path : Script.path s c with
  | error fault => exact ⟨_, _, _, bind_of_error (ofExcept_apply _ _) _, .unready (.inr path)⟩
  | ok output =>
  rw [bind_of_ok (ofExcept_apply _ _), sharedUnit_traced]
  rcases guarded : sharedUnit host c output before with ⟨fault | unit, after⟩
  · exact ⟨_, _, _, bind_of_error (unobserved_of_eq guarded []) _, .unguarded path guarded⟩
  rw [bind_of_ok (unobserved_of_eq guarded [])]
  cases distinct : Strategy.checkIdentifiers c with
  | error fault =>
    exact ⟨_, _, _, bind_of_error (ofExcept_apply _ _) _, .unfit path guarded (.inl distinct)⟩
  | ok _ =>
  rw [bind_of_ok (ofExcept_apply _ _)]
  cases warned : Strategy.collectionWarnings c with
  | error fault =>
    exact ⟨_, _, _, bind_of_error (ofExcept_apply _ _) _, .unfit path guarded (.inr ⟨distinct, warned⟩)⟩
  | ok warnings =>
  rw [bind_of_ok (ofExcept_apply _ _), bind_of_ok (host.traced.noteAll_apply _ _), host.logged_traced]
  -- All checks have passed, and the calls begin.
  let k : Ready host r s c before :=
    ⟨strategy, output, unit, warnings, after, lookup, path, guarded, distinct, warned⟩
  rcases directory : host.ensureDirectory output.parent (host.logged (warnings.map (⟨.warning, ·⟩)) after)
    with ⟨fault | _, made⟩
  · exact ⟨_, _, _, bind_of_error (Host.ensureDirectory_traced directory []) _, .noDirectory k directory⟩
  rw [bind_of_ok (Host.ensureDirectory_traced directory [])]
  rcases file : host.openForWrite output made with ⟨fault | _, opened⟩
  · exact ⟨_, _, _, bind_of_error (writeScript_unopened file _) _, .unopened k directory file⟩
  rcases close : host.close output (Script.print strategy s c).text
    (host.logged (Script.print strategy s c).records opened) with ⟨fault | _, closed⟩
  · exact ⟨_, _, _, bind_of_error (writeScript_opened file close _) _, .unclosed k directory file close⟩
  let w : Stored k := ⟨made, opened, closed, directory, file, close⟩
  have written := writeScript_opened file close ([] ++ [⟨.ensureDirectory output.parent, .ok ()⟩])
  cases complete : (Script.print strategy s c).outcome with
  | error fault =>
    rw [complete] at written
    exact ⟨_, _, _, bind_of_error written _, .incomplete k w complete⟩
  | ok _ =>
  rw [complete] at written
  rw [bind_of_ok written]
  cases placed : absolutePath host.here (s .projectRoot) output with
  | error fault =>
    exact ⟨_, _, _, bind_of_error (by rw [← placed]; rfl) _, .unplaced k w complete placed⟩
  | ok target =>
  rw [bind_of_ok (by rw [← placed]; rfl), bind_of_ok (host.note_traced _ _ _ _)]
  rcases refreshed : host.persist
    (host.log ⟨.info, "Wrote " ++ target.text ++ " for collection " ++ c.name.display⟩ closed)
    with ⟨fault | _, last⟩
  · exact ⟨_, _, _, bind_of_error (Host.persist_traced refreshed _) _,
      .unrefreshed k w complete placed refreshed⟩
  rw [bind_of_ok (Host.persist_traced refreshed _)]
  obtain ⟨className, hc⟩ := exists_className_of_path path
  rw [hc, bind_of_ok (ofExcept_apply _ _)]
  exact ⟨_, _, _, rfl, .finished k w complete placed refreshed hc⟩

end StaticAccessors.Generation
