import StaticAccessors.Command.Manual
import StaticAccessors.Console.Lines
import StaticAccessors.Logging
import StaticAccessors.Project
import StaticAccessors.Settings.Validation

/-!
# Running the tool

A command line is read, the threshold of the log is set, and the command is carried out in a terminal,
which is a workspace with two streams of lines. The result is an exit code: 0 for success, 1 for a
command that could not be carried out, 2 for a command line that is refused.

## Contents
- `Terminal`.
- one action for each command.
- `Command.run`.
-/

namespace StaticAccessors

/-- A workspace, what was printed, and the threshold of its log. -/
structure Terminal where
  space : Workspace
  out : List String
  err : List String
  threshold : Nat

namespace Terminal

/-- A terminal on which nothing was printed. -/
def ofSpace (w : Workspace) : Terminal := ⟨w, [], [], Level.warning.number⟩

/-- Prints lines. -/
def print (lines : List String) : Action Terminal Unit :=
  .ofRun fun t => (.ok (), { t with out := t.out ++ lines })

/-- Prints lines about an error. -/
def complain (lines : List String) : Action Terminal Unit :=
  .ofRun fun t => (.ok (), { t with err := t.err ++ lines })

/-- Prints a message with its markup. -/
def tell (message : String) : Action Terminal Unit := do
  let lines ← .ofExcept (Console.messageLines message)
  print lines

/-- A step in the workspace. -/
def inSpace {α : Type} (action : Action Workspace α) : Action Terminal α := .ofRun fun t =>
  let (outcome, space) := action.run t.space
  (outcome, { t with space })

end Terminal

namespace Command

open Terminal (print complain tell inSpace)

/-! ## Settings -/

/-- The setting that a flag overrides, unless its value is empty. -/
def override (given : List Given) (key : String) (setting : Setting) : Fields :=
  match lastOf given key with
  | some text => if text = "" then [] else [(setting.key, .text text)]
  | none => []

/-- The settings that flags override. -/
def overrides (given : List Given) : Fields :=
  override given "output_dir" .outputDirectory ++ override given "project_root" .projectRoot ++
    override given "strategy" .defaultGenerationType

/-- The value of a flag, or `null`. -/
def valueOf (given : List Given) (key : String) : Value := ((lastOf given key).map Value.text).getD .null

/-- The fault of a command whose settings cannot be had. -/
def settingsRefusal : Fault → Fault
  | .settings cause => .command ("Configuration error: " ++ cause.message)
  | fault => fault

/-- The settings of a file with overrides. -/
def loadSettings (here : Location) (given : List Given) : Action Terminal Settings := .ofRun fun t =>
  ((Settings.load t.space.disk here (valueOf given "config") (.object (overrides given))).mapError
    settingsRefusal, t)

/-- The settings of a command, with the warnings about them. -/
def settingsFor (here : Location) (given : List Given) : Action Terminal Settings := do
  let s ← loadSettings here given
  let warnings ← .ofExcept s.warnings
  for warning in warnings do
    tell ("[yellow]⚠️  " ++ warning ++ "[/yellow]")
  return s

/-! ## Generating -/

/-- Whether a fault means that there is no usable manifest. -/
def isManifestFault : Fault → Bool
  | .source _ | .schema _ | .manifestMissing _ => true
  | .disk cause => cause.refusal = .notFound
  | _ => false

/-- The collection that is asked for, with the name of the source of its manifest. -/
def loadCollection (here : Location) (s : Settings) (given : List Given) (response : Response) :
    Action Terminal (String × Collection) :=
  (inSpace do
    let (source, manifest) ← Workspace.load here (valueOf given "manifest") (valueOf given "url") response
    let c ← .ofExcept (Workspace.collectionOf s manifest)
    return (source, c)).handle fun fault =>
      if isManifestFault fault then throw (.command ("Failed to load manifest: " ++ fault.message))
      else throw fault

/-- The collection with the style that a flag asks for. -/
def restyle (given : List Given) (c : Collection) : Except Fault Collection :=
  match lastOf given "strategy" with
  | none => .ok c
  | some text =>
    if text = "" then .ok c
    else ((AccessorStyle.parse (.text text)).mapError Fault.schema).map fun style => { c with style }

/-- A key as a title: its words start in upper case. -/
def titleOf (key : String) : String :=
  String.intercalate " " ((Text.splitChar '_' key.toList).map fun word =>
    match word with
    | [] => ""
    | c :: rest => String.ofList (c.toUpper :: rest))

/-- Prints what is told about a script. -/
def tellMetadata (m : Metadata) : Action Terminal Unit := do
  let rows := m.fields.map fun (key, value) => [titleOf key, value.display]
  let lines ← .ofExcept (Console.tableLines "📊 Generation Metadata" (["Property", "Value"] :: rows))
  print lines

/-- Prints warnings. -/
def tellWarnings (warnings : List String) : Action Terminal Unit := do
  if !warnings.isEmpty then
    tell "\n[yellow]⚠️  Warnings:[/yellow]"
    for warning in warnings do
      tell ("  [yellow]•[/yellow] " ++ warning)

/-- Prints a report. -/
def tellReport (given : List Given) : Report → Action Terminal Nat
  | .failed message _ => do
    tell ("[red]✗ " ++ message ++ "[/red]")
    return 1
  | .written path warnings metadata => do
    tell ("[green]✓[/green] Generated [cyan]" ++ path.text ++ "[/cyan]")
    if isGiven given "verbose" then tellMetadata metadata
    tellWarnings warnings
    return 0

/-- Prints the code that would be written. -/
def preview (r : Registry) (s : Settings) (c : Collection) : Action Terminal Nat := do
  let (outcome, records) := Script.render r s c
  inSpace (Workspace.change (Workspace.logAll records))
  let code ← .ofExcept outcome
  print (Console.codeLines code)
  return 0

/-- Generates a script. -/
def generate (here : Location) (r : Registry) (response : Response) (given : List Given) :
    Action Terminal Nat := do
  let s ← settingsFor here given
  let (source, c) ← loadCollection here s given response
  let c ← .ofExcept (restyle given c)
  tell ("📄 Loaded: " ++ source)
  if isGiven given "dry_run" then preview r s c
  else do
    let report ← inSpace (Workspace.generate here r .standard s c)
    tellReport given report

/-! ## Creating scripts -/

/-- The script that is asked for. -/
def scriptOf (given : List Given) : EmptyScript :=
  let name := (lastOf given "name").getD ""
  { name := .text name
    folder := valueOf given "folder"
    namespace_ := .text ((lastOf given "namespace").getD "")
    assetMenu := valueOf given "asset_menu"
    declaration := (valueOf given "class_declaration").orElse (.text ("public class " ++ name))
    directives := .list ((allOf given "directive").map .text) }

/-- Creates a script. -/
def createScript (here : Location) (given : List Given) : Action Terminal Nat := do
  let s ← settingsFor here given
  let q := scriptOf given
  let created ← inSpace (Workspace.createScript here s q)
  let file := q.name.display ++ (s .fileExtension).display
  if created then do
    tell ("[green]✓[/green] Created [cyan]" ++ file ++ "[/cyan]")
    return 0
  else do
    tell ("[yellow]⚠️  " ++ file ++ " already exists in " ++ q.folder.display ++ "[/yellow]")
    return 1

/-! ## Listing strategies -/

/-- A strategy as a row. -/
def strategyRow (name : String) (d : Registry.Description) : List String :=
  ["🔧 " ++ name, d.strategy.typeName,
    if d.aliases.isEmpty then "[dim]none[/dim]" else String.intercalate ", " d.aliases,
    d.strategy.description]

/-- Lists the strategies. -/
def listStrategies (r : Registry) : Action Terminal Nat := do
  let descriptions ← .ofExcept r.describeAll
  let rows := descriptions.map fun (name, d) => strategyRow name d
  let lines ← .ofExcept (Console.tableLines "📋 Accessor Strategies"
    (["Strategy", "Class", "Aliases", "Description"] :: rows))
  print lines
  print ["💡 Quick Start"]
  tell ("[bold]Usage:[/bold] collection-codegen generate [dim]manifest.json[/dim] " ++
    "--strategy [cyan]STRATEGY[/cyan]")
  return 0

/-! ## The tool -/

/-- Carries out a command. -/
def carryOut (here : Location) (r : Registry) (response : Response) (given : List Given) :
    Verb → Action Terminal Nat
  | .generate => generate here r response given
  | .createScript => createScript here given
  | .listStrategies => listStrategies r

/-- Whether a fault is told as one of the generation. -/
def isGenerationFault : Fault → Bool
  | .registry _ => true
  | fault => fault.isGeneration

/-- Tells about a fault that ends a command; other faults end the tool. -/
def tellFault (fault : Fault) : Action Terminal Nat :=
  match fault with
  | .command words => do
    tell ("[red]✗ Error:[/red] " ++ words)
    return 1
  | _ =>
    if isGenerationFault fault then do
      tell ("[red]✗ Generation error:[/red] " ++ fault.message)
      return 1
    else throw fault

/-- Sets the threshold of the log. -/
def setThreshold (given : List Given) : Action Terminal Unit := .ofRun fun t =>
  match (lastOf given "log_level").bind Logging.thresholdNames.get? with
  | some n => (.ok (), { t with threshold := n.toNat })
  | none => (.ok (), t)

/-- Answers a reading that is not complete. -/
def answer (m : Manual) (reading : Reading) : Action Terminal Nat :=
  match reading with
  | .help => do
    print m.pages
    return 0
  | .version => do
    print [toolName ++ " " ++ toolVersion]
    return 0
  | .refused message => do
    complain (m.refusal message)
    return 2
  | .complete _ _ => return 0

/-- Refuses arguments that nothing takes. -/
def refuseLeftOver (leftOver : List String) : Action Terminal Nat :=
  answer .tool (.refused ("unrecognized arguments: " ++ String.intercalate " " leftOver))

/-- Runs a command on the rest of the command line. -/
def runVerb (here : Location) (r : Registry) (response : Response) (given : List Given)
    (leftOver : List String) (verb : Verb) (rest : List String) : Action Terminal Nat :=
  match verb.manual.grammar.read rest with
  | .complete own more =>
    match leftOver ++ more with
    | [] => do
      setThreshold given
      (carryOut here r response own verb).handle tellFault
    | extras => refuseLeftOver extras
  | reading => answer verb.manual reading

/-- Runs the tool; `response` is what asking for an address leads to. Gives the exit code. -/
def run (here : Location) (r : Registry) (response : Response) (args : List String) : Action Terminal Nat :=
  match Manual.tool.grammar.read args with
  | .complete given leftOver =>
    match allOf given "command" with
    | name :: rest =>
      match Verb.ofName? name with
      | some verb => runVerb here r response given leftOver verb rest
      | none => answer .tool (.refused ("unknown command " ++ name))
    | [] =>
      match leftOver with
      | [] => do
        setThreshold given
        print Manual.tool.pages
        return 1
      | extras => refuseLeftOver extras
  | reading => answer .tool reading

end Command

end StaticAccessors
