import StaticAccessors.Proofs.Script.Leaks
import StaticAccessors.Proofs.Workspace.Agreement

/-!
# Runs of strategies that leak depth

A run whose script cannot be completed closes its file all the same, and ends with what stopped the script.
So a leak that is told becomes a failed report, unless closing the file fails, which is then reported in its
place. In no case does the run come to the refresh, which is called after a complete script only.

## Contents
- `Opened`, and `Course.raised_of_incomplete`: what a run raises whose script is incomplete.
- `LeakReported`, and `run_leaked`.
- `leak_untold`: a leak that is too large to be told.
-/

namespace StaticAccessors.Generation

open StaticAccessors.Action Outcome

variable {σ : Type} {host : Host σ} {r : Registry} {s : Settings} {c : Collection} {before : σ}

/-- The states up to the one in which the file is open. -/
structure Opened (k : Ready host r s c before) where
  made : σ
  opened : σ
  directory : host.ensureDirectory k.output.parent k.noted = (.ok (), made)
  file : host.openForWrite k.output made = (.ok (), opened)

/-- How closing the file ends. -/
def Opened.closing {k : Ready host r s c before} (o : Opened k) : Except Fault Unit :=
  (host.close k.output k.script.text (host.logged k.script.records o.opened)).1

/-- **An incomplete script** ends a run with its fault, unless closing the file fails. -/
theorem Course.raised_of_incomplete {raised : Except Fault Report} {after : σ} {calls : List Call}
    (h : Course host r s c before raised after calls) {k : Ready host r s c before} (o : Opened k) {fault : Fault}
    (incomplete : k.script.outcome = .error fault) :
    o.closing = .ok () ∧ raised = .error fault ∨ ∃ other, o.closing = .error other ∧ raised = .error other := by
  have some_ := h.calls_ne_nil k
  unfold Opened.closing
  cases h
  case unready | unguarded | unfit => exact absurd rfl some_
  all_goals
    rename Ready host r s c before => own
    obtain rfl := Subsingleton.elim k own
  case noDirectory failed => exact absurd (failed.symm.trans o.directory) nofun
  case unopened directory failed =>
    obtain rfl := (Prod.mk.inj (directory.symm.trans o.directory)).2
    exact absurd (failed.symm.trans o.file) nofun
  case unclosed directory file failed =>
    obtain rfl := (Prod.mk.inj (directory.symm.trans o.directory)).2
    obtain rfl := (Prod.mk.inj (file.symm.trans o.file)).2
    exact .inr ⟨_, by rw [failed], rfl⟩
  case incomplete _ w first =>
    obtain ⟨_, _, _, directory, file, close⟩ := w
    obtain rfl := (Prod.mk.inj (directory.symm.trans o.directory)).2
    obtain rfl := (Prod.mk.inj (file.symm.trans o.file)).2
    obtain rfl := Except.error.inj (first.symm.trans incomplete)
    exact .inl ⟨by rw [close], rfl⟩
  all_goals
    rename k.script.outcome = .ok () => complete
    exact absurd (complete.symm.trans incomplete) nofun

/-- **How a run may end** whose strategy leaks. -/
structure LeakReported (host : Host σ) (r : Registry) (s : Settings) (c : Collection) (before : σ)
    (strategy : Strategy) : Prop where
  /-- the refresh is never called -/
  unrefreshed : ∀ outcome, ⟨.persist, outcome⟩ ∉ callsOf host r s c before
  /-- with an open file and room for the script, the report carries the fault of the scope -/
  reported : ∀ {k : Ready host r s c before} (o : Opened k), o.closing = .ok () → Script.Room strategy s c →
    ∃ cause, k.script.outcome = .error (.scope cause) ∧ (run host r s c before).1 =
      .ok (.failed ("Code generation failed: " ++ cause.message) (.scope cause))
  /-- without room, the run ends for want of it -/
  crowded : ∀ {k : Ready host r s c before} (o : Opened k), o.closing = .ok () → ¬Script.Room strategy s c →
    ∃ fault, Layout.Excess fault ∧ k.script.outcome = .error fault ∧ (run host r s c before).1 = .error fault
  /-- if closing the file fails, it ends with that fault -/
  unclosed : ∀ {k : Ready host r s c before} (o : Opened k) fault, o.closing = .error fault →
    (run host r s c before).1 = ended host.here s c (.error fault)

section

variable {strategy : Strategy} {k : Int}

/-- A run that leaks ends as it may. -/
theorem leakReported_of_leaks (hc : c.WellTyped) (hs : s.WellTyped)
    (lookup : r.lookup (.style c.style) = .ok strategy) (leaks : strategy.Leaks s c k) (leaked : k ≠ 0) :
    LeakReported host r s c before strategy := by
  have caught := Script.caught_of_leaks hc hs leaks
  have course := attempt_course host r s c before
  obtain ⟨records, ends⟩ := run_apply host r s c before
  have script : ∀ k : Ready host r s c before, k.script = Script.print strategy s c := by
    intro k
    unfold Ready.script
    rw [Except.ok.inj (k.lookup.symm.trans lookup)]
  have incomplete : ∀ k : Ready host r s c before, ∃ fault, k.script.outcome = .error fault := by
    intro k
    rw [script k]
    cases ended : (Script.print strategy s c).outcome with
    | ok _ => exact absurd (caught.ok_iff.mp ended).1 leaked
    | error fault => exact ⟨fault, rfl⟩
  have raised : ∀ {k : Ready host r s c before} (o : Opened k) {fault}, o.closing = .ok () →
      k.script.outcome = .error fault → (run host r s c before).1 = ended host.here s c (.error fault) := by
    intro k o fault closed stopped
    rw [ends]
    rcases course.raised_of_incomplete o stopped with ⟨-, raised⟩ | ⟨other, failed, -⟩
    · rw [raised]
    · exact absurd (closed.symm.trans failed) nofun
  constructor
  case unrefreshed =>
    intro outcome persisted
    obtain ⟨k, complete, -⟩ := course.refreshed persisted
    obtain ⟨fault, stopped⟩ := incomplete k
    exact absurd (complete.symm.trans stopped) nofun
  case reported =>
    intro k o closed room
    obtain ⟨cause, told⟩ := caught.told leaked room
    rw [← script k] at told
    exact ⟨cause, told, (raised o closed told).trans (ended_generation rfl)⟩
  case crowded =>
    intro k o closed crowded
    obtain ⟨fault, stopped, excess⟩ := caught.crowded crowded
    rw [← script k] at stopped
    refine ⟨fault, excess, stopped, (raised o closed stopped).trans ?_⟩
    cases excess with
    | count => exact ended_other rfl rfl
    | length => exact ended_other rfl rfl
  case unclosed =>
    intro k o fault failed
    obtain ⟨first, stopped⟩ := incomplete k
    rw [ends]
    rcases course.raised_of_incomplete o stopped with ⟨closed, -⟩ | ⟨other, same, raised⟩
    · exact absurd (closed.symm.trans failed) nofun
    · rw [raised, Except.error.inj (same.symm.trans failed)]

/-- **Leaks are caught** by the writing of a script, and a run that leaks is never refreshed. -/
theorem run_leaked (host : Host σ) (before : σ) (hc : c.WellTyped) (hs : s.WellTyped)
    (lookup : r.lookup (.style c.style) = .ok strategy) (leaks : strategy.Leaks s c k) :
    Script.Caught strategy s c k (Script.print strategy s c).outcome ∧
      (k ≠ 0 → LeakReported host r s c before strategy) :=
  ⟨Script.caught_of_leaks hc hs leaks, leakReported_of_leaks hc hs lookup leaks⟩

end

/-! ## Two leaks -/

/-- A registry with a leaking strategy in the place of the direct one. -/
def leakyRegistry (k : Int) : Registry := ⟨[("direct", .leaky k)], []⟩

theorem lookup_leaky (k : Int) : (leakyRegistry k).lookup (.style .direct) = .ok (.leaky k) := rfl

/-- Surroundings with no space left for what is written. -/
def full : Host Unit := { accepting with close := fun _ _ => .ofExcept (.error (.disk ⟨.noSpace, none⟩)) }

/-- In such surroundings all checks pass for the small collection, and its file is opened. -/
theorem exists_opened_leaky {host : Host Unit} (kind : host = accepting ∨ host = full) (k : Int) :
    ∃ ready : Ready host (leakyRegistry k) .defaults .fruits (), Nonempty (Opened ready) := by
  have guarded : sharedUnit host .fruits fruitsFile () = (.ok (.text defaultUnit), ()) := by
    rcases kind with rfl | rfl <;> rfl
  obtain ⟨ready, -, -⟩ := exists_ready Collection.fruits_wellTyped.identified (lookup_leaky k) path_defaults
    guarded Collection.checkIdentifiers_fruits
  refine ⟨ready, ⟨(), (), ?_, ?_⟩⟩
  · rcases kind with rfl | rfl <;> rfl
  · rcases kind with rfl | rfl <;> rfl

/-- A script that ends one level too deep is reported. -/
theorem run_leaked_fruits :
    Collection.fruits.WellTyped ∧ Settings.defaults.WellTyped ∧
      (leakyRegistry 1).lookup (.style .direct) = .ok (.leaky 1) ∧ (Strategy.leaky 1).Leaks .defaults .fruits 1 ∧
      ∃ cause : ScopeError, (run accepting (leakyRegistry 1) .defaults .fruits ()).1 =
        .ok (.failed ("Code generation failed: " ++ cause.message) (.scope cause)) := by
  have leaks := Strategy.leaks_leaky 1 .defaults .fruits
  obtain ⟨-, reports⟩ := run_leaked accepting () Collection.fruits_wellTyped Settings.defaults_wellTyped
    (lookup_leaky 1) leaks
  obtain ⟨ready, ⟨opened⟩⟩ := exists_opened_leaky (.inl rfl) 1
  obtain ⟨p⟩ := Script.nonempty_plan Collection.fruits_wellTyped Settings.defaults_wellTyped
  obtain ⟨cause, -, reported⟩ := (reports (by decide)).reported opened rfl (Script.room_leaky (k := 1) p (by decide))
  exact ⟨Collection.fruits_wellTyped, Settings.defaults_wellTyped, lookup_leaky 1, leaks, cause, reported⟩

/-- More levels than can be counted. -/
def uncountable : Int := 1000000000000000000000000000000

/-- **Leaks that are not told.** If the lines that would close the script cannot be indented, no fault of the
scope comes up, and the run ends with a fault that does not become a report. If there is no space left for the
file, that is what is reported. -/
theorem leak_untold :
    Collection.fruits.WellTyped ∧ Settings.defaults.WellTyped ∧
      (leakyRegistry uncountable).lookup (.style .direct) = .ok (.leaky uncountable) ∧
      (Strategy.leaky uncountable).Leaks .defaults .fruits uncountable ∧
      (¬∃ cause, (Script.print (.leaky uncountable) .defaults .fruits).outcome = .error (.scope cause)) ∧
      (∃ fault, Layout.Excess fault ∧
        (run accepting (leakyRegistry uncountable) .defaults .fruits ()).1 = .error fault) ∧
      ∃ message, (run full (leakyRegistry uncountable) .defaults .fruits ()).1 =
        .ok (.failed message (.disk ⟨.noSpace, none⟩)) := by
  have typed := And.intro Collection.fruits_wellTyped Settings.defaults_wellTyped
  have leaks := Strategy.leaks_leaky uncountable .defaults .fruits
  obtain ⟨p⟩ := Script.nonempty_plan typed.1 typed.2
  have crowded := Script.not_room_of_limit p leaks (by decide)
  refine ⟨typed.1, typed.2, lookup_leaky _, leaks, ?_, ?_, ?_⟩
  · rintro ⟨cause, told⟩
    obtain ⟨fault, ended, excess⟩ := Script.print_of_crowded typed.2 crowded
    obtain rfl := Except.error.inj (ended.symm.trans told)
    exact absurd excess nofun
  · obtain ⟨ready, ⟨opened⟩⟩ := exists_opened_leaky (.inl rfl) uncountable
    obtain ⟨fault, excess, -, ended⟩ :=
      (leakReported_of_leaks typed.1 typed.2 (lookup_leaky _) leaks (by decide)).crowded opened rfl crowded
    exact ⟨fault, excess, ended⟩
  · obtain ⟨ready, ⟨opened⟩⟩ := exists_opened_leaky (.inr rfl) uncountable
    have ended := (leakReported_of_leaks typed.1 typed.2 (lookup_leaky _) leaks (by decide)).unclosed opened _ rfl
    rw [ended_disk rfl] at ended
    unfold placeOf at ended
    rw [path_defaults] at ended
    exact ⟨_, ended⟩

end StaticAccessors.Generation
