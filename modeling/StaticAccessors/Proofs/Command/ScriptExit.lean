import StaticAccessors.Proofs.Command.Speech
import StaticAccessors.Proofs.Workspace.EmptyScripts

/-!
# The exit code of a command that creates a script

The command that creates an empty script has two exit codes. It ends with 0 if it has made the file, and with
1 if something is there already or its settings cannot be had.

Not all that can go wrong has an exit code, though. The tool tells about faults of the generation and about
those that its commands word themselves. What the disk refuses is told by the command that generates, which
turns it into a report; here nothing does so, and the fault ends the tool. So does what the template cannot
take, and a message in which some name reads as markup (`Escapes`).

## Contents
- `reportLine`, and `createScript_settled`: what the command does with its settings.
- `Disk.GainsFile`.
- `Raises`, `Escapes`: the faults that end the tool.
- `ScriptExit`, and `exit_createScript`.
- `refused_folder_escapes`: a file where the folder should be.
-/

namespace StaticAccessors

open StaticAccessors.Action Outcome

/-- There is a file where there was nothing. -/
def Disk.GainsFile (before after : Disk) : Prop :=
  ∃ place content, before.get? place = none ∧ after.get? place = some (.file content)

/-- A disk that gains directories at most has gained no file. -/
theorem Disk.Grows.not_gainsFile {before after : Disk} (h : before.Grows after) : ¬before.GainsFile after := by
  rintro ⟨place, content, free, written⟩
  rcases h place trivial with same | ⟨-, directory⟩
  · exact absurd (free.symm.trans (same.symm.trans written)) nofun
  · exact absurd (directory.symm.trans written) nofun

namespace Command

open Terminal

variable {here : Location} {own : List Given}

/-! ## The course of the command -/

/-- What is told when the script is created, or something is there already. -/
def reportLine (s : Settings) (q : EmptyScript) (created : Bool) : String :=
  let file := q.name.display ++ (s .fileExtension).display
  if created then "[green]✓[/green] Created [cyan]" ++ file ++ "[/cyan]"
  else "[yellow]⚠️  " ++ file ++ " already exists in " ++ q.folder.display ++ "[/yellow]"

/-- The answer, and the exit code that goes with it. -/
def answerScript (s : Settings) (q : EmptyScript) (created : Bool) : Action Terminal Nat := do
  tell (reportLine s q created)
  return if created then 0 else 1

theorem createScript_eq (here : Location) (own : List Given) :
    createScript here own = settingsFor here own >>= fun s =>
      inSpace (Workspace.createScript here s (scriptOf own)) >>= answerScript s (scriptOf own) := by
  unfold createScript
  refine congrArg _ (funext fun s => ?_)
  dsimp only
  refine congrArg _ (funext fun created => ?_)
  unfold answerScript reportLine
  cases created <;> rfl

/-- Without settings nothing is done. -/
theorem createScript_unsettled {t : Terminal} {fault : Fault} (h : settled here own t.space.disk = .error fault) :
    (createScript here own t).1 = .error fault ∧ (createScript here own t).2.space = t.space := by
  obtain ⟨after, kept, fails⟩ := (speaks_settingsFor here own).exists_eq t h
  rw [createScript_eq, Action.bind_of_error fails]
  exact ⟨rfl, kept⟩

/-- With settings, the script is asked for, and the answer is told. -/
theorem createScript_settled {t : Terminal} {s : Settings} (h : settled here own t.space.disk = .ok s) :
    (createScript here own t).1 = ((Workspace.createScript here s (scriptOf own) t.space).1 >>= fun created =>
        (told (reportLine s (scriptOf own) created)).map fun _ => if created then 0 else 1) ∧
      (createScript here own t).2.space = (Workspace.createScript here s (scriptOf own) t.space).2 := by
  obtain ⟨before, kept, settles⟩ := (speaks_settingsFor here own).exists_eq t h
  rw [createScript_eq, Action.bind_of_ok settles, ← kept]
  rcases asked : Workspace.createScript here s (scriptOf own) before.space with ⟨fault | created, w⟩
  · rw [Action.bind_of_error (inSpace_of_eq asked)]
    exact ⟨rfl, rfl⟩
  · rw [Action.bind_of_ok (inSpace_of_eq asked)]
    exact Speaks.tell_return (reportLine s (scriptOf own) created) (if created then 0 else 1) _

/-! ## Faults -/

/-- The faults that the command raises. -/
inductive Raises (here : Location) (own : List Given) (d : Disk) : Fault → Prop
  /-- the settings cannot be had, or a warning about them cannot be told -/
  | unsettled {fault} : settled here own d = .error fault → Raises here own d fault
  /-- the request for the script fails -/
  | obstructed {s fault after} : settled here own d = .ok s →
      Workspace.Attempt here s (scriptOf own) d (.error fault) after → Raises here own d fault
  /-- the answer cannot be told -/
  | unreported {s created after fault} : settled here own d = .ok s →
      Workspace.Attempt here s (scriptOf own) d (.ok created) after →
      told (reportLine s (scriptOf own) created) = .error fault → Raises here own d fault

/-- The faults that end the tool: those that are not told, and those of telling about another one. -/
def Escapes (here : Location) (own : List Given) (d : Disk) (fault : Fault) : Prop :=
  ∃ first, Raises here own d first ∧ exitOf (.error first) = .error fault

/-- **The command raises** what it may raise. -/
theorem createScript_error_iff {t : Terminal} {fault : Fault} :
    (createScript here own t).1 = .error fault ↔ Raises here own t.space.disk fault := by
  cases ready : settled here own t.space.disk with
  | error first =>
    rw [(createScript_unsettled ready).1]
    constructor
    · intro h
      exact .unsettled (ready.trans (congrArg _ (Except.error.inj h)))
    · intro h
      cases h
      case unsettled same => exact congrArg _ (Except.error.inj (ready.symm.trans same))
      all_goals
        rename settled here own _ = .ok _ => some_
        exact absurd (ready.symm.trans some_) nofun
  | ok s =>
    have attempt := Workspace.attempt_createScript here s (scriptOf own) t.space
    rw [(createScript_settled ready).1, bind_eq_error]
    generalize (Workspace.createScript here s (scriptOf own) t.space).1 = result at attempt ⊢
    constructor
    · rintro (rfl | ⟨created, rfl, untold⟩)
      · exact .obstructed ready attempt
      · exact .unreported ready attempt (map_eq_error.mp untold)
    · intro h
      cases h
      case unsettled failed => exact absurd (ready.symm.trans failed) nofun
      case obstructed own other =>
        obtain rfl := Except.ok.inj (ready.symm.trans own)
        exact .inl (attempt.unique other).1
      case unreported own other untold =>
        obtain rfl := Except.ok.inj (ready.symm.trans own)
        exact .inr ⟨_, (attempt.unique other).1, map_eq_error.mpr untold⟩

/-! ## Exit codes -/

/-- **How the tool may end** when a script is to be created. -/
structure ScriptExit (here : Location) (own : List Given) (before after : Disk) (result : Except Fault Nat) :
    Prop where
  /-- there are two exit codes -/
  code : ∀ n, result = .ok n → n = 0 ∨ n = 1
  /-- the code is 0 exactly if there is a new file -/
  zero_iff : ∀ n, result = .ok n → (n = 0 ↔ before.GainsFile after)
  /-- the new file is the script that was asked for -/
  created : result = .ok 0 → ∃ s folder file text, settled here own before = .ok s ∧
    (scriptOf own).site s = .ok (folder, file) ∧ (scriptOf own).text s = .ok text ∧
    before.get? (file.locate here) = none ∧ after.readBytes here file = .ok text.toUTF8
  /-- faults end the tool that it does not tell, or cannot tell -/
  escapes_iff : ∀ fault, result = .error fault ↔ Escapes here own before fault

/-- A command that ends with an exit code, as the tool does, has made the script or added directories at
most. -/
theorem exit_cases {t : Terminal} {n : Nat} (h : exitOf (createScript here own t).1 = .ok n) :
    (n = 0 ∧ ∃ s, settled here own t.space.disk = .ok s ∧ Workspace.Attempt here s (scriptOf own) t.space.disk
        (.ok true) (createScript here own t).2.space.disk) ∨
      n = 1 ∧ t.space.disk.Grows (createScript here own t).2.space.disk := by
  cases ready : settled here own t.space.disk with
  | error fault =>
    obtain ⟨ends, kept⟩ := createScript_unsettled ready
    rw [ends] at h
    rw [kept]
    exact .inr ⟨(exitOf_error_eq_ok h).1, .refl _⟩
  | ok s =>
    obtain ⟨ends, kept⟩ := createScript_settled ready
    have attempt := Workspace.attempt_createScript here s (scriptOf own) t.space
    rw [ends] at h
    rw [kept]
    generalize (Workspace.createScript here s (scriptOf own) t.space).1 = result at attempt h
    rcases result with fault | created
    · exact .inr ⟨(exitOf_error_eq_ok h).1, attempt.unmade nofun⟩
    · -- The answer was told, since a message that cannot be told has no exit code.
      cases answer : told (reportLine s (scriptOf own) created) with
      | error fault =>
        rw [show (Except.ok created >>= fun created => (told (reportLine s (scriptOf own) created)).map fun _ =>
          if created then 0 else 1) = .error fault from map_eq_error.mpr answer] at h
        have told_ := (exitOf_error_eq_ok h).2
        rw [complaint_of_told answer] at told_
        exact absurd told_ nofun
      | ok _ =>
        rw [show (Except.ok created >>= fun created => (told (reportLine s (scriptOf own) created)).map fun _ =>
          if created then 0 else 1) = .ok (if created then 0 else 1) from map_eq_ok.mpr ⟨_, answer, rfl⟩] at h
        obtain rfl : (if created then 0 else 1) = n := Except.ok.inj h
        cases created with
        | true => exact .inl ⟨rfl, s, rfl, attempt⟩
        | false => exact .inr ⟨rfl, attempt.unmade nofun⟩

/-- **The exit codes of a command that creates a script**, for every command line that is accepted. -/
theorem exit_createScript {args words : List String} (asked : Asks args .createScript words own)
    (here : Location) (r : Registry) (response : Response) (t : Terminal) :
    ScriptExit here own t.space.disk (run here r response args t).2.space.disk
      (run here r response args t).1 := by
  obtain ⟨before, same, runs⟩ := run_asked asked here response t
  obtain ⟨result, space⟩ := handle_tellFault (createScript here own) before
  rw [runs, show carryOut here r response own .createScript = createScript here own from rfl, result, space, ← same]
  have cases_ : ∀ {n}, exitOf (createScript here own before).1 = .ok n → _ := exit_cases
  constructor
  case code =>
    intro n ends
    exact (cases_ ends).imp And.left And.left
  case zero_iff =>
    intro n ends
    rcases cases_ ends with ⟨rfl, s, -, attempt⟩ | ⟨rfl, grows⟩
    · obtain ⟨folder, file, text, -, -, free, held⟩ := attempt.made
      exact ⟨fun _ => ⟨file.locate here, _, free, Disk.get?_of_readBytes held⟩, fun _ => rfl⟩
    · exact ⟨nofun, fun gains => absurd gains grows.not_gainsFile⟩
  case created =>
    intro ends
    rcases cases_ ends with ⟨-, s, ready, attempt⟩ | ⟨zero, -⟩
    · obtain ⟨folder, file, text, site, rendered, free, held⟩ := attempt.made
      exact ⟨s, folder, file, text, ready, site, rendered, free, held⟩
    · exact absurd zero nofun
  case escapes_iff =>
    intro fault
    rw [exitOf_eq_error_iff]
    unfold Escapes
    simp only [createScript_error_iff]

/-! ## Two runs -/

/-- A command line that asks for a script in a folder. -/
def fooArgs : List String := ["create-script", "Foo", "Scripts"]

/-- What it gives. -/
def fooGiven : List Given := [⟨"name", ["Foo"]⟩, ⟨"folder", ["Scripts"]⟩]

theorem asks_foo : Asks fooArgs .createScript ["Foo", "Scripts"] fooGiven :=
  ⟨[⟨"command", fooArgs⟩], "create-script", by decide +kernel, by decide, by decide, by decide +kernel⟩

/-- A disk with a directory and a file in it, by their names. -/
def diskWith (folder : Option String) (file : String) : Disk :=
  let made := match folder with
    | some folder => (Disk.empty.makeDirectories [] (.ofText folder)).2
    | none => .empty
  (made.writeFile [] (.ofText file) "x".toUTF8).toOption.getD made

/-- Where the file of the script is, the tool ends with 1, and there is no new file. -/
theorem exit_createScript_foo :
    Asks fooArgs .createScript ["Foo", "Scripts"] fooGiven ∧
      ∃ after, run [] .builtin (.unreachable "") fooArgs
          (.ofSpace (.ofDisk (diskWith (some "Scripts") "Scripts/Foo.cs"))) = (.ok 1, after) ∧
        ¬(diskWith (some "Scripts") "Scripts/Foo.cs").GainsFile after.space.disk := by
  have ends : (run [] .builtin (.unreachable "") fooArgs
      (.ofSpace (.ofDisk (diskWith (some "Scripts") "Scripts/Foo.cs")))).1.toOption = some 1 := by decide +kernel
  have exits := exit_createScript asks_foo [] .builtin (.unreachable "")
    (.ofSpace (.ofDisk (diskWith (some "Scripts") "Scripts/Foo.cs")))
  rcases done : run [] .builtin (.unreachable "") fooArgs
    (.ofSpace (.ofDisk (diskWith (some "Scripts") "Scripts/Foo.cs"))) with ⟨fault | n, after⟩
  · rw [done] at ends
    exact absurd ends nofun
  · rw [done] at ends exits
    obtain rfl : n = 1 := Option.some.inj ends
    exact ⟨asks_foo, after, rfl, fun gains => absurd ((exits.zero_iff 1 rfl).mpr gains) nofun⟩

/-- **A fault of the disk that ends the tool**: a file stands where the folder should be. -/
theorem refused_folder_escapes :
    Asks fooArgs .createScript ["Foo", "Scripts"] fooGiven ∧
      (run [] .builtin (.unreachable "") fooArgs (.ofSpace (.ofDisk (diskWith none "Scripts")))).1 =
        .error (.disk ⟨.present, some "Scripts"⟩) :=
  ⟨asks_foo, rfl⟩

end Command

end StaticAccessors
