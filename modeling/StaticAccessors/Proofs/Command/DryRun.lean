import StaticAccessors.Proofs.Command.Words
import StaticAccessors.Proofs.Workspace.Footprint
import StaticAccessors.Proofs.Workspace.Regeneration

/-!
# Dry runs

A command that generates a script first finds out what it is about: the settings, the manifest, and the
collection with its style (`requested`). None of this touches the disk. From there on a dry run renders the
script and shows it, while otherwise the script is written and reported. So what is shown is what would be
written (`dry_run`).

The style is chosen in one place for both: the flag comes first, then the manifest, then the settings
(`styleChoice`), and the strategy of that style is the only one that is looked up.

## Contents
- `Request`, `requested`, `exists_proceed`: a command first finds out what it is about.
- `styleChoice`, `style_of_requested`: how the style is chosen.
- `consults_preview`, `preview_eq_ok`, `stored_of_generate`: the two ways to go on.
- `Request.Codes`, `Request.Held`, `StyleChosen`, `DryRun`, and `dry_run`.
-/

namespace StaticAccessors

open StaticAccessors.Action Outcome

namespace Command

open Terminal

variable {here : Location} {r : Registry} {response : Response} {own : List Given} {t : Terminal}

/-! ## What a generation is about -/

/-- What a command that generates a script is about. -/
structure Request where
  settings : Settings
  manifest : Value
  collection : Collection

/-- A fault on the way to a collection, as it is told. -/
def manifestRefusal (fault : Fault) : Fault :=
  if isManifestFault fault then .command ("Failed to load manifest: " ++ fault.message) else fault

/-- The manifest, with the name of its source, and the collection that it describes. -/
def described (here : Location) (s : Settings) (own : List Given) (response : Response) (d : Disk) :
    Except Fault (String × Value × Collection) := do
  let (source, manifest) ← (Source.load d here (valueOf own "manifest") (valueOf own "url") response).1
  let c ← Workspace.collectionOf s manifest
  return (source, manifest, c)

/-- What a command is about, if it can be found out. -/
def requested (here : Location) (response : Response) (own : List Given) (d : Disk) : Except Fault Request := do
  let s ← settled here own d
  let (source, manifest, c) ← (described here s own response d).mapError manifestRefusal
  let c ← restyle own c
  told ("📄 Loaded: " ++ source)
  return ⟨s, manifest, c⟩

/-- The steps that find it out. -/
def ask (here : Location) (response : Response) (own : List Given) : Action Terminal (Settings × Collection) := do
  let s ← settingsFor here own
  let (source, c) ← loadCollection here s own response
  let c ← .ofExcept (restyle own c)
  tell ("📄 Loaded: " ++ source)
  return (s, c)

/-- What a command does when it knows what it is about. -/
def proceed (here : Location) (r : Registry) (own : List Given) (s : Settings) (c : Collection) :
    Action Terminal Nat :=
  if isGiven own "dry_run" then preview r s c
  else inSpace (Workspace.generate here r .standard s c) >>= tellReport own

theorem generate_eq (here : Location) (r : Registry) (response : Response) (own : List Given) :
    generate here r response own = ask here response own >>= fun found => proceed here r own found.1 found.2 := by
  unfold generate ask proceed
  simp only [bind_assoc, pure_bind]

/-- The disk of a terminal. -/
def diskOf (t : Terminal) : Disk := t.space.disk

theorem consults_inSpace {α : Type} {x : Action Workspace α} {outcome : Disk → Except Fault α}
    (h : Consults Workspace.disk x outcome) : Consults diskOf (inSpace x) outcome :=
  fun t => h t.space

theorem consults_loadCollection (here : Location) (s : Settings) (own : List Given) (response : Response) :
    Consults diskOf (loadCollection here s own response) fun d =>
      ((described here s own response d).map fun found => (found.1, found.2.2)).mapError manifestRefusal := by
  have loads : Consults Workspace.disk
      (Workspace.load here (valueOf own "manifest") (valueOf own "url") response) fun d =>
        (Source.load d here (valueOf own "manifest") (valueOf own "url") response).1 :=
    fun _ => ⟨rfl, rfl⟩
  refine (consults_inSpace ((loads.bind fun found =>
    (Consults.ofExcept (Workspace.collectionOf s found.2)).bind fun c => .ofExcept (.ok (found.1, c))).congr
      fun d => ?_)).handle fun fault => ?_
  · unfold described
    simp only [map_chain]
    rfl
  · unfold manifestRefusal
    split <;> exact fun _ => ⟨rfl, rfl⟩

/-- A message does not touch the disk. -/
theorem consults_tell (message : String) : Consults diskOf (tell message) fun _ => told message :=
  (Speaks.tell message).coarsen Workspace.disk

theorem consults_ask (here : Location) (response : Response) (own : List Given) :
    Consults diskOf (ask here response own) fun d =>
      (requested here response own d).map fun q => (q.settings, q.collection) := by
  unfold ask
  refine (((speaks_settingsFor here own).coarsen Workspace.disk).bind fun s =>
    (consults_loadCollection here s own response).bind fun found =>
    (Consults.ofExcept (restyle own found.2)).bind fun c =>
    (consults_tell ("📄 Loaded: " ++ found.1)).bind fun _ =>
    .ofExcept (.ok (s, c))).congr fun d => ?_
  unfold requested
  simp only [map_chain, chain_of_map]
  rfl

/-- A command that does not find out what it is about fails, and leaves the disk as it is. -/
theorem generate_unrequested {fault : Fault} (h : requested here response own t.space.disk = .error fault) :
    ∃ after : Terminal, after.space.disk = t.space.disk ∧ ∀ r,
      generate here r response own t = (.error fault, after) := by
  obtain ⟨after, kept, fails⟩ := (consults_ask here response own).exists_eq t (map_eq_error.mpr h)
  refine ⟨after, kept, fun r => ?_⟩
  rw [generate_eq]
  exact bind_of_error fails _

/-- **A command that finds out what it is about** goes on with that. -/
theorem exists_proceed {q : Request} (h : requested here response own t.space.disk = .ok q) :
    ∃ before : Terminal, before.space.disk = t.space.disk ∧ ∀ r,
      generate here r response own t = proceed here r own q.settings q.collection before := by
  obtain ⟨before, kept, asks⟩ := (consults_ask here response own).exists_eq t (map_eq_ok.mpr ⟨q, h, rfl⟩)
  refine ⟨before, kept, fun r => ?_⟩
  rw [generate_eq]
  exact bind_of_ok asks _

/-! ## The choice of a style -/

/-- What decides about the style: a flag, or else the manifest, or else the settings. -/
def styleChoice (own : List Given) (q : Request) : Value :=
  (valueOf own "strategy").orElse
    (((q.manifest.get? "generation_type").getD .null).orElse (q.settings .defaultGenerationType))

theorem style_of_ofManifest {manifest standard : Value} {c : Collection}
    (h : Collection.ofManifest manifest standard = .ok c) :
    AccessorStyle.parse (((manifest.get? "generation_type").getD .null).orElse standard) = .ok c.style := by
  unfold Collection.ofManifest at h
  split at h
  · obtain ⟨name, -, h⟩ := bind_eq_ok.mp h
    obtain ⟨_, -, h⟩ := bind_eq_ok.mp h
    obtain ⟨type, -, h⟩ := bind_eq_ok.mp h
    obtain ⟨elementType, -, h⟩ := bind_eq_ok.mp h
    obtain ⟨guid, -, h⟩ := bind_eq_ok.mp h
    obtain ⟨sourcePath, -, h⟩ := bind_eq_ok.mp h
    obtain ⟨style, parsed, h⟩ := bind_eq_ok.mp h
    have kept : c.style = style := by
      dsimp only at h
      split at h
      all_goals
        obtain ⟨items, -, h⟩ := bind_eq_ok.mp h
        rw [← Except.ok.inj h]
    rw [kept]
    exact parsed
  · exact absurd h nofun

/-- The flag comes before what the collection has. -/
theorem style_of_restyle {c c' : Collection} {choice : Value} (parsed : AccessorStyle.parse choice = .ok c.style)
    (h : restyle own c = .ok c') : AccessorStyle.parse ((valueOf own "strategy").orElse choice) = .ok c'.style := by
  unfold restyle at h
  unfold valueOf Value.orElse
  cases flag : lastOf own "strategy" with
  | none =>
    rw [flag] at h
    obtain rfl := Except.ok.inj h
    exact parsed
  | some text =>
    rw [flag] at h
    dsimp only at h
    split at h
    · rename_i empty
      obtain rfl := Except.ok.inj h
      rw [empty]
      exact parsed
    · rename_i some_
      obtain ⟨style, styled, rfl⟩ := map_eq_ok.mp h
      have truthy : (Value.text text).truthy = true := by
        unfold Value.truthy
        simpa using some_
      rw [Option.map_some, Option.getD_some, if_pos truthy]
      exact mapError_eq_ok.mp styled

/-- **The style of a collection** is the one that the choice comes to. -/
theorem style_of_requested {d : Disk} {q : Request} (h : requested here response own d = .ok q) :
    AccessorStyle.parse (styleChoice own q) = .ok q.collection.style := by
  obtain ⟨s, -, h⟩ := bind_eq_ok.mp h
  obtain ⟨⟨source, manifest, c⟩, found, h⟩ := bind_eq_ok.mp h
  obtain ⟨c', styled, h⟩ := bind_eq_ok.mp h
  obtain ⟨_, -, h⟩ := bind_eq_ok.mp h
  obtain rfl := Except.ok.inj h
  obtain ⟨_, -, found⟩ := bind_eq_ok.mp (mapError_eq_ok.mp found)
  obtain ⟨c'', collected, found⟩ := bind_eq_ok.mp found
  obtain ⟨-, same⟩ := Prod.mk.inj (Except.ok.inj found)
  obtain ⟨rfl, rfl⟩ := Prod.mk.inj same
  exact style_of_restyle (style_of_ofManifest (mapError_eq_ok.mp collected)) styled

/-! ## What is given without the flag -/

theorem lastOf_without {key other : String} (different : other ≠ key) (own : List Given) :
    lastOf (givenWithout key own) other = lastOf own other := by
  unfold lastOf givenWithout
  rw [List.filter_filter]
  refine congrArg (fun given : List Given => given.getLast?.bind (·.words.getLast?)) ?_
  refine List.filter_congr fun given _ => ?_
  by_cases same : given.key = other
  · simp [same, different]
  · simp [same]

/-- What a command is about does not depend on whether it is a dry run. -/
theorem requested_without (here : Location) (response : Response) (own : List Given) (d : Disk) :
    requested here response (givenWithout "dry_run" own) d = requested here response own d := by
  have same {key : String} (different : key ≠ "dry_run") := lastOf_without different own
  have settings : settled here (givenWithout "dry_run" own) d = settled here own d := by
    unfold settled valueOf overrides override
    rw [same (by decide), same (by decide), same (by decide), same (by decide)]
  unfold requested described restyle valueOf
  rw [settings, same (by decide), same (by decide), same (by decide)]

/-! ## The two ways to go on -/

/-- What is said about a script leaves the workspace alone, and an exit code of 0 tells that one was written. -/
theorem tellReport_spec (own : List Given) (report : Report) (t : Terminal) :
    (tellReport own report t).2.space = t.space ∧ ((tellReport own report t).1 = .ok 0 →
      ∃ path warnings metadata, report = .written path warnings metadata) := by
  cases report with
  | failed message fault =>
    obtain ⟨ends, kept⟩ := Speaks.tell_return ("[red]✗ " ++ message ++ "[/red]") 1 t
    refine ⟨kept, fun zero => ?_⟩
    obtain ⟨_, -, same⟩ := map_eq_ok.mp (ends.symm.trans zero)
    exact absurd same (by decide)
  | written path warnings metadata =>
    refine ⟨?_, fun _ => ⟨path, warnings, metadata, rfl⟩⟩
    have metadata_ : ∃ outcome, Speaks (tellMetadata metadata) outcome :=
      ⟨_, (Consults.ofExcept _).bind fun _ => Speaks.print _⟩
    have warnings_ : ∃ outcome, Speaks (tellWarnings warnings) outcome := by
      unfold tellWarnings
      split
      · exact ⟨_, (Speaks.tell _).bind fun _ =>
          (speaks_each (fun warning => "  [yellow]•[/yellow] " ++ warning) warnings).bind fun _ => .ofExcept (.ok ())⟩
      · exact ⟨_, .ofExcept (.ok ())⟩
    obtain ⟨_, told_⟩ := metadata_
    obtain ⟨_, warned_⟩ := warnings_
    have ends := warned_.bind fun _ => Consults.ofExcept (.ok 0)
    unfold tellReport
    dsimp only
    by_cases verbose : isGiven own "verbose" = true
    · rw [if_pos verbose]
      exact (((Speaks.tell _).bind fun _ => told_.bind fun _ => ends) t).2
    · rw [if_neg verbose]
      exact (((Speaks.tell _).bind fun _ => ends) t).2

/-- A dry run leaves the disk alone, and ends as the rendering does. -/
theorem consults_preview (r : Registry) (s : Settings) (c : Collection) :
    Consults diskOf (preview r s c) fun _ => (Script.render r s c).1.map fun _ => 0 := by
  unfold preview
  rcases Script.render r s c with ⟨outcome, records⟩
  have logs : Consults diskOf (inSpace (Workspace.change (Workspace.logAll records))) fun _ => .ok () :=
    fun _ => ⟨rfl, rfl⟩
  have prints (lines : List String) : Consults diskOf (print lines) fun _ => .ok () := fun _ => ⟨rfl, rfl⟩
  refine (logs.bind fun _ => (Consults.ofExcept outcome).bind fun code =>
    (prints (Console.codeLines code)).bind fun _ => .ofExcept (.ok 0)).congr fun _ => ?_
  cases outcome <;> rfl

/-- The code that it shows is what is rendered. -/
theorem preview_eq_ok {s : Settings} {c : Collection} {n : Nat} {after : Terminal}
    (h : preview r s c t = (.ok n, after)) :
    ∃ text, (Script.render r s c).1 = .ok text ∧ after.out = t.out ++ Console.codeLines text := by
  unfold preview at h
  generalize Script.render r s c = rendered at h ⊢
  obtain ⟨fault | text, records⟩ := rendered
  · exact absurd (Prod.mk.inj h).1 nofun
  · obtain ⟨-, rfl⟩ := Prod.mk.inj h
    exact ⟨text, rfl, rfl⟩

/-- A run that is told to have gone well has written what is rendered. -/
theorem stored_of_generate {s : Settings} {c : Collection} {after : Terminal}
    (h : (inSpace (Workspace.generate here r .standard s c) >>= tellReport own) t = (.ok 0, after)) :
    ∃ text root output, (Script.render r s c).1 = .ok text ∧ pathOf (s .projectRoot) = .ok root ∧
      Script.path s c = .ok output ∧ after.space.disk.readBytes here (root.join output) = .ok text.toUTF8 := by
  rcases done : Workspace.generate here r .standard s c t.space with ⟨fault | report, w⟩
  · rw [bind_of_error (inSpace_of_eq done)] at h
    exact absurd (Prod.mk.inj h).1 nofun
  rw [bind_of_ok (inSpace_of_eq done)] at h
  obtain ⟨kept, written⟩ := tellReport_spec own report { t with space := w }
  rw [h] at kept written
  obtain ⟨path, warnings, metadata, rfl⟩ := written rfl
  rw [show after.space = w from kept]
  -- A report that something was written comes from a run that got past the units and the root.
  rcases Workspace.generate_cases here r .definitions s c t.space with
    ⟨⟨fault, failed⟩, -⟩ | ⟨root, prepared, rooted, -, runs⟩
  · exact absurd (failed.symm.trans (congrArg Prod.fst done)) nofun
  have runs := runs.symm.trans done
  have writes : Generation.Writes _ r s c prepared path := ⟨warnings, metadata, congrArg Prod.fst runs⟩
  have isLocal := Workspace.Collaborators.isLocal .definitions here root
  obtain ⟨k, rfl, stores⟩ := writes.exists_store isLocal
  obtain ⟨own, -, -, -, complete, -, -⟩ := writes.exists_ready
  obtain rfl := Subsingleton.elim k own
  have rendered := k.render_eq
  rw [complete] at rendered
  have held := Disk.readBytes_store stores
  rw [runs, Workspace.Collaborators.host_here] at held
  exact ⟨k.script.text, root, k.output, rendered, rooted, k.path, held⟩

/-- **The strategy of the collection's style** is the only one that is looked up. -/
theorem proceed_congr {r' : Registry} {c : Collection} (same : r'.lookup (.style c.style) = r.lookup (.style c.style))
    (here : Location) (own : List Given) (s : Settings) : proceed here r' own s c = proceed here r own s c := by
  unfold proceed preview Workspace.generate Generation.run Generation.attempt Script.render
  rw [same]

/-! ## Two runs -/

/-- The command line without the flag of a dry run. -/
def wetArgs (args words : List String) : List String :=
  reword args words (Manual.generate.grammar.without "dry_run" words)

/-- The code that a request comes to: what the strategy of its style prints. -/
structure Request.Codes (q : Request) (r : Registry) (text : String) : Prop where
  rendered : (Script.render r q.settings q.collection).1 = .ok text
  strategy : ∃ strategy, r.lookup (.style q.collection.style) = .ok strategy ∧
    (Script.print strategy q.settings q.collection).text = text

/-- The file of the script that is asked for holds a text. -/
def Request.Held (q : Request) (here : Location) (text : String) (d : Disk) : Prop :=
  ∃ root output, pathOf (q.settings .projectRoot) = .ok root ∧ Script.path q.settings q.collection = .ok output ∧
    d.readBytes here (root.join output) = .ok text.toUTF8

theorem Request.codes_of_render {q : Request} {text : String}
    (rendered : (Script.render r q.settings q.collection).1 = .ok text) : q.Codes r text := by
  obtain ⟨strategy, lookup, distinct⟩ := Script.exists_of_render rendered
  refine ⟨rendered, strategy, lookup, ?_⟩
  rw [Script.render_of_checked lookup distinct] at rendered
  obtain ⟨_, -, same⟩ := map_eq_ok.mp rendered
  exact same

/-- How the style of a script is chosen, and used. -/
structure StyleChosen (here : Location) (r : Registry) (response : Response) (args : List String)
    (own : List Given) (t : Terminal) : Prop where
  /-- the flag decides, or else the manifest, or else the settings -/
  style : ∀ q, requested here response own t.space.disk = .ok q →
    AccessorStyle.parse (styleChoice own q) = .ok q.collection.style
  /-- no strategy matters but that of the style -/
  only : ∀ r', (∀ q, requested here response own t.space.disk = .ok q →
      r'.lookup (.style q.collection.style) = r.lookup (.style q.collection.style)) →
    run here r' response args t = run here r response args t

/-- How a dry run and the run without the flag agree. -/
structure DryRun (here : Location) (r : Registry) (response : Response) (args words : List String)
    (own : List Given) (t wet : Terminal) : Prop where
  /-- without the flag the command line is accepted, too -/
  accepted : Asks (wetArgs args words) .generate (Manual.generate.grammar.without "dry_run" words)
    (givenWithout "dry_run" own)
  /-- code that is shown is what the run without the flag leaves in the file, if it ends well -/
  shown : ∀ after, run here r response args t = (.ok 0, after) →
    ∃ q text, requested here response own t.space.disk = .ok q ∧ q.Codes r text ∧
      (∃ earlier, after.out = earlier ++ Console.codeLines text) ∧
      ∀ done, run here r response (wetArgs args words) wet = (.ok 0, done) → q.Held here text done.space.disk
  /-- what the run without the flag leaves in the file is the code of the request -/
  written : ∀ done, run here r response (wetArgs args words) wet = (.ok 0, done) →
    ∃ q text, requested here response own t.space.disk = .ok q ∧ q.Codes r text ∧ q.Held here text done.space.disk
  dry : StyleChosen here r response args own t
  unflagged : StyleChosen here r response (wetArgs args words) (givenWithout "dry_run" own) wet

/-- The strategy is chosen in the same way in any run that generates. -/
theorem styleChosen {args words : List String} (asked : Asks args .generate words own) (here : Location)
    (r : Registry) (response : Response) (t : Terminal) : StyleChosen here r response args own t := by
  refine ⟨fun q found => style_of_requested found, fun r' same => ?_⟩
  obtain ⟨before, kept, runs⟩ := run_asked asked here response t
  rw [runs, runs]
  -- Nothing looks at the registry before the request is known.
  have same : generate here r' response own before = generate here r response own before := by
    cases found : requested here response own before.space.disk with
    | error fault =>
      obtain ⟨after, -, fails⟩ := generate_unrequested found
      rw [fails, fails]
    | ok q =>
      obtain ⟨before', -, goesOn⟩ := exists_proceed found
      rw [kept] at found
      rw [goesOn, goesOn, proceed_congr (same q found)]
  unfold Action.handle
  rw [show carryOut here r' response own .generate before = _ from same]
  rfl

/-- A command that is told to have gone well did not have its fault told. -/
theorem eq_of_handle_zero {x : Action Terminal Nat} {after : Terminal}
    (h : x.handle tellFault t = (.ok 0, after)) : x t = (.ok 0, after) := by
  rcases ends : x t with ⟨fault | n, left⟩
  · have exits := (handle_tellFault x t).1
    rw [h, ends] at exits
    exact absurd (exitOf_error_eq_ok exits.symm).1 (by decide)
  · rwa [handle_of_ok ends] at h

/-- A run that ends well has gone on with what it was about. -/
theorem proceed_of_run {args words : List String} (asked : Asks args .generate words own) {after : Terminal}
    (h : run here r response args t = (.ok 0, after)) :
    ∃ q before, requested here response own t.space.disk = .ok q ∧
      proceed here r own q.settings q.collection before = (.ok 0, after) := by
  obtain ⟨before, kept, runs⟩ := run_asked asked here response t
  rw [runs] at h
  have h : generate here r response own before = (.ok 0, after) := eq_of_handle_zero h
  rw [← kept]
  cases found : requested here response own before.space.disk with
  | error fault =>
    obtain ⟨_, -, fails⟩ := generate_unrequested found
    rw [fails] at h
    exact absurd (Prod.mk.inj h).1 nofun
  | ok q =>
    obtain ⟨before', -, goesOn⟩ := exists_proceed found
    rw [goesOn] at h
    exact ⟨q, before', rfl, h⟩

/-- A command that makes a dry run leaves the disk as it is. -/
theorem disk_of_dry (dry : isGiven own "dry_run" = true) :
    (generate here r response own t).2.space.disk = t.space.disk := by
  cases found : requested here response own t.space.disk with
  | error fault =>
    obtain ⟨after, kept, fails⟩ := generate_unrequested found
    rw [fails]
    exact kept
  | ok q =>
    obtain ⟨before, kept, goesOn⟩ := exists_proceed found
    rw [goesOn, proceed, if_pos dry]
    exact (consults_preview r q.settings q.collection before).2.trans kept

theorem isGiven_without (key : String) (own : List Given) : isGiven (givenWithout key own) key = false := by
  unfold isGiven givenWithout
  rw [List.any_filter, List.any_eq_false]
  simp

/-- A command that is carried out without the flag, and ends well, has written the code of its request. -/
theorem held_of_run {args words : List String} (asked : Asks args .generate words (givenWithout "dry_run" own))
    {done : Terminal} (ends : run here r response args t = (.ok 0, done)) :
    ∃ q text, requested here response own t.space.disk = .ok q ∧
      (Script.render r q.settings q.collection).1 = .ok text ∧ q.Held here text done.space.disk := by
  obtain ⟨q, before, found, goesOn⟩ := proceed_of_run asked ends
  rw [requested_without] at found
  rw [proceed, if_neg (by rw [isGiven_without]; decide)] at goesOn
  obtain ⟨text, root, output, rendered, rooted, path, held⟩ := stored_of_generate goesOn
  exact ⟨q, text, found, rendered, root, output, rooted, path, held⟩

/-- **A dry run is harmless and truthful**, for every command line with the flag. -/
theorem dry_run {args : List String}
    (dry : ∀ verb words own, Asks args verb words own → verb = .generate ∧ isGiven own "dry_run" = true)
    (here : Location) (r : Registry) (response : Response) (t : Terminal) :
    (run here r response args t).2.space.disk = t.space.disk ∧
      ∀ words own, Asks args .generate words own → ∀ wet : Terminal, wet.space.disk = t.space.disk →
        DryRun here r response args words own t wet := by
  constructor
  · by_cases asked : ∃ verb words own, Asks args verb words own
    · obtain ⟨verb, words, own, asked⟩ := asked
      obtain ⟨rfl, flag⟩ := dry verb words own asked
      obtain ⟨before, kept, runs⟩ := run_asked asked here response t
      rw [runs, (handle_tellFault _ before).2, ← kept]
      exact disk_of_dry flag
    · -- A line that asks for nothing is answered, and that is all.
      rw [run_unasked (fun verb words own h => asked ⟨verb, words, own, h⟩)]
  · intro words own asked wet disk
    have flag := (dry _ _ _ asked).2
    have accepted := asked.without spares_dry_run
    refine ⟨accepted, ?_, ?_, styleChosen asked here r response t, styleChosen accepted here r response wet⟩
    · intro after ends
      obtain ⟨q, before, found, goesOn⟩ := proceed_of_run asked ends
      rw [proceed, if_pos flag] at goesOn
      obtain ⟨text, rendered, out⟩ := preview_eq_ok goesOn
      refine ⟨q, text, found, Request.codes_of_render rendered, ⟨before.out, out⟩, fun done ends => ?_⟩
      -- Both runs are about the same request, so both render the same code.
      obtain ⟨q', text', found', rendered', held⟩ := held_of_run accepted ends
      rw [disk] at found'
      obtain rfl := Except.ok.inj (found.symm.trans found')
      obtain rfl := Except.ok.inj (rendered.symm.trans rendered')
      exact held
    · intro done ends
      obtain ⟨q, text, found, rendered, held⟩ := held_of_run accepted ends
      rw [disk] at found
      exact ⟨q, text, found, Request.codes_of_render rendered, held⟩

/-! ## A small manifest -/

/-- A command line that asks for a dry run. -/
def bareArgs : List String := ["generate", "m", "--dry-run"]

/-- What it gives. -/
def bareGiven : List Given := [⟨"manifest", ["m"]⟩, ⟨"dry_run", []⟩]

/-- A manifest of a collection without items. -/
def bareManifest : Value := .object [
  ("name", .text "Fruits"), ("guid", .text "g1"), ("type", .text "Fruit"), ("source_path", .text "Fruit.cs")]

/-- The collection that it describes. -/
def bare : Collection where
  name := .text "Fruits"
  guid := .text "g1"
  type := ⟨.text "Fruit", .text ""⟩
  elementType := ⟨.text "Fruit", .text ""⟩
  sourcePath := .text "Fruit.cs"
  namespace_ := .text ""
  style := .direct
  items := []

/-- The manifest as a text. -/
def bareText : String :=
  "\x7b\"name\":\"Fruits\",\"guid\":\"g1\",\"type\":\"Fruit\",\"source_path\":\"Fruit.cs\"\x7d"

/-- A terminal on a disk that holds the manifest and nothing else. -/
def bareTerminal : Terminal := .ofSpace (.ofDisk ⟨[(["m"], .file bareText.toUTF8)]⟩)

theorem asks_bare : Asks bareArgs .generate ["m", "--dry-run"] bareGiven :=
  ⟨[⟨"command", bareArgs⟩], "generate", by decide +kernel, by decide, by decide, by decide +kernel⟩

theorem overlay_nothing : Settings.overlay [] (.object []) = .ok .defaults := by
  have steps : Settings.overlay [] (.object []) = Settings.ofEntries
      (((Entries.ofFields Settings.defaults.allFields).merge (Entries.ofFields [])).merge []) :=
    rfl
  rw [steps]
  refine map_eq_ok.mpr ⟨.given (.object []), rfl, ?_⟩
  refine congrArg (Settings.mk · _) (funext fun setting => ?_)
  cases setting <;> rfl

theorem settled_bare : settled [] bareGiven bareTerminal.space.disk = .ok .defaults := by
  have loads : Settings.load bareTerminal.space.disk [] (valueOf bareGiven "config")
      (.object (overrides bareGiven)) = Settings.overlay [] (.object []) :=
    rfl
  have quiet : warned .defaults = .ok () := rfl
  unfold settled
  rw [loads, overlay_nothing]
  exact bind_eq_ok.mpr ⟨.defaults, rfl, bind_eq_ok.mpr ⟨(), quiet, rfl⟩⟩

theorem described_bare : described [] .defaults bareGiven (.unreachable "") bareTerminal.space.disk =
    .ok ("m", bareManifest, bare) := by
  have there : bareTerminal.space.disk.pathExists [] (.ofText "m") = .ok true := rfl
  have held : bareTerminal.space.disk.readText [] (.ofText "m") = .ok bareText := rfl
  have read : Json.read bareText = .ok bareManifest := by cbv
  have loads : (Source.load bareTerminal.space.disk [] (valueOf bareGiven "manifest") (valueOf bareGiven "url")
      (.unreachable "")).1 = .ok ("m", bareManifest) := by
    show (Source.fromFile bareTerminal.space.disk [] (.ofText "m")).1 = _
    unfold Source.fromFile
    rw [there]
    dsimp only
    rw [held]
    unfold Source.parseFile
    dsimp only
    rw [read]
    rfl
  have collected : Workspace.collectionOf .defaults bareManifest = .ok bare := rfl
  unfold described
  rw [loads]
  exact bind_eq_ok.mpr ⟨_, rfl, bind_eq_ok.mpr ⟨bare, collected, rfl⟩⟩

theorem requested_bare :
    requested [] (.unreachable "") bareGiven bareTerminal.space.disk = .ok ⟨.defaults, bareManifest, bare⟩ := by
  have announced : told ("📄 Loaded: " ++ "m") = .ok () := by
    have readable : (told ("📄 Loaded: " ++ "m")).toOption = some () := by decide +kernel
    rcases told_ : told ("📄 Loaded: " ++ "m") with _ | _
    · rw [told_] at readable
      exact absurd readable nofun
    · rfl
  refine bind_eq_ok.mpr ⟨.defaults, settled_bare, ?_⟩
  refine bind_eq_ok.mpr ⟨_, mapError_eq_ok.mpr described_bare, ?_⟩
  exact bind_eq_ok.mpr ⟨bare, rfl, bind_eq_ok.mpr ⟨(), announced, rfl⟩⟩

theorem className_bare : bare.className = .ok "Fruits" := Collection.className_fruits

theorem path_bare : Script.path .defaults bare = .ok (.ofText "Assets/Generated/Scripts/FruitsStatic.cs") := by
  unfold Script.path Script.fileName
  rw [className_bare]
  rfl

theorem exists_render_bare : ∃ text, (Script.render .builtin .defaults bare).1 = .ok text := by
  have typed : bare.WellTyped := ⟨rfl, rfl, ⟨rfl, rfl⟩, ⟨rfl, rfl⟩, rfl, .inr rfl, nofun⟩
  have distinct : Strategy.checkIdentifiers bare = .ok () := by
    refine Strategy.checkIdentifiers_eq_ok_iff.mpr ⟨"Fruits", className_bare, [], rfl, ?_⟩
    rw [Strategy.nodup_mentioned_iff (bare.startsSmall_className className_bare)]
    exact ⟨List.nodup_nil, nofun⟩
  have complete : (Script.print (Strategy.builtIn bare.style) .defaults bare).outcome = .ok () :=
    (Script.print_eq_ok_iff distinct).mpr (Script.writable_of_indentSize typed Settings.defaults_wellTyped rfl)
  rw [Script.render_of_checked (Registry.lookup_builtin bare.style) distinct, complete]
  exact ⟨_, rfl⟩

/-- A dry run that shows the script of the small manifest. -/
theorem dry_run_bare :
    (∀ verb words own, Asks bareArgs verb words own → verb = .generate ∧ isGiven own "dry_run" = true) ∧
      ∃ after text, run [] .builtin (.unreachable "") bareArgs bareTerminal = (.ok 0, after) ∧
        after.space.disk = bareTerminal.space.disk ∧
        (Script.render .builtin .defaults bare).1 = .ok text ∧
        (∃ earlier, after.out = earlier ++ Console.codeLines text) ∧
        ∀ done, run [] .builtin (.unreachable "") ["generate", "m"] bareTerminal = (.ok 0, done) →
          done.space.disk.readBytes [] (.ofText "Assets/Generated/Scripts/FruitsStatic.cs") = .ok text.toUTF8 := by
  have dry : ∀ verb words own, Asks bareArgs verb words own →
      verb = .generate ∧ isGiven own "dry_run" = true := by
    intro verb words own asked
    obtain ⟨rfl, -, rfl⟩ := asks_bare.unique asked
    exact ⟨rfl, rfl⟩
  refine ⟨dry, ?_⟩
  obtain ⟨harmless, agrees⟩ := dry_run dry [] .builtin (.unreachable "") bareTerminal
  obtain ⟨text, rendered⟩ := exists_render_bare
  -- The run ends well, since the script is rendered.
  obtain ⟨before, kept, runs⟩ := run_asked asks_bare [] (.unreachable "") bareTerminal
  obtain ⟨before', -, goesOn⟩ := @exists_proceed [] (.unreachable "") bareGiven before _ (kept ▸ requested_bare)
  have shows : (Script.render .builtin .defaults bare).1.map (fun _ => 0) = .ok 0 := by
    rw [rendered]
    rfl
  obtain ⟨after, -, previewed⟩ := (consults_preview .builtin .defaults bare).exists_eq before' shows
  have carried : carryOut [] .builtin (.unreachable "") bareGiven .generate before = (.ok 0, after) :=
    (goesOn .builtin).trans previewed
  have run_ := (runs .builtin).trans (handle_of_ok carried tellFault)
  rw [run_] at harmless
  obtain ⟨q, text', found, codes, out, wet⟩ := (agrees _ _ asks_bare bareTerminal rfl).shown _ run_
  obtain rfl := Except.ok.inj (requested_bare.symm.trans found)
  obtain rfl := Except.ok.inj (rendered.symm.trans codes.rendered)
  refine ⟨_, text, run_, harmless, rendered, out, fun done ended => ?_⟩
  have args : wetArgs bareArgs ["m", "--dry-run"] = ["generate", "m"] := by decide +kernel
  obtain ⟨root, output, rooted, path, held⟩ := wet done (by rw [args]; exact ended)
  obtain rfl : .ofText "." = root := Except.ok.inj rooted
  obtain rfl := Except.ok.inj (path_bare.symm.trans path)
  exact held

end Command

end StaticAccessors
