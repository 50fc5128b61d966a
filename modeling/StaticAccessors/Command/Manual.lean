import StaticAccessors.Command.Grammar

/-!
# Manuals

The tool has three commands, each with a command line of its own. A manual holds the grammar of a
command line together with the text that explains it.

## Contents
- `Manual`, its usage and its pages.
- `Manual.tool` and the manuals of the commands.
-/

namespace StaticAccessors.Command

/-- A grammar and the text that explains it. -/
structure Manual where
  grammar : Grammar
  usage : List String
  details : List String

namespace Manual

/-- The whole text. -/
def pages (m : Manual) : List String := m.usage ++ [""] ++ m.details

/-- What is printed when a command line is refused. -/
def refusal (m : Manual) (message : String) : List String :=
  m.usage ++ [m.grammar.program ++ ": error: " ++ message]

end Manual

/-! ## Flags that several command lines have -/

/-- The flag that asks for the manual. -/
def helpFlag : Flag := ⟨["-h", "--help"], "help", .help⟩

/-- A flag with a value of any kind. -/
def valueFlag (name key : String) : Flag := ⟨[name], key, .value []⟩

/-- The name of the tool. -/
def toolName : String := "collection-codegen"

/-- The version of the tool. -/
def toolVersion : String := "0.1.0"

/-- The names of the commands. -/
def commandNames : List String := ["generate", "create-script", "list-strategies"]

/-! ## Manuals -/

namespace Manual

/-- The command line of the tool itself. -/
def tool : Manual where
  grammar := {
    program := toolName
    flags := [helpFlag, ⟨["--version"], "version", .version⟩,
      ⟨["--log-level"], "log_level", .value ["DEBUG", "INFO", "WARNING", "ERROR"]⟩]
    places := [⟨"command", .remainder commandNames⟩]
    oneOf := [] }
  usage := [
    "usage: collection-codegen [-h] [--version]",
    "                          [--log-level \x7bDEBUG,INFO,WARNING,ERROR\x7d]",
    "                          \x7bgenerate,create-script,list-strategies\x7d ..."]
  details := [
    "Generate static C# accessor classes for item collections",
    "",
    "positional arguments:",
    "  \x7bgenerate,create-script,list-strategies\x7d",
    "    generate            Generate the static file of a collection",
    "    create-script       Create a script with an empty class",
    "    list-strategies     List accessor strategies",
    "",
    "options:",
    "  -h, --help            show this help message and exit",
    "  --version             show program's version number and exit",
    "  --log-level \x7bDEBUG,INFO,WARNING,ERROR\x7d",
    "                        Logging level (default: WARNING)",
    "",
    "Examples:",
    "  collection-codegen generate fruits.json --output-dir Assets/Generated",
    "  collection-codegen generate --url https://host/fruits.json --dry-run",
    "  collection-codegen create-script FruitItem Assets/Scripts --namespace Game",
    "  collection-codegen list-strategies"]

/-- The command line of a generation. -/
def generate : Manual where
  grammar := {
    program := toolName ++ " generate"
    flags := [helpFlag, valueFlag "--url" "url", valueFlag "--config" "config",
      valueFlag "--output-dir" "output_dir", valueFlag "--project-root" "project_root",
      ⟨["--strategy"], "strategy", .value ["direct", "try_get"]⟩,
      ⟨["--dry-run"], "dry_run", .note⟩, ⟨["--verbose"], "verbose", .note⟩]
    places := [⟨"manifest", .atMostOne⟩]
    oneOf := ["manifest", "url"] }
  usage := [
    "usage: collection-codegen generate [-h] [--url URL] [--config CONFIG]",
    "                                   [--output-dir OUTPUT_DIR]",
    "                                   [--project-root PROJECT_ROOT]",
    "                                   [--strategy \x7bdirect,try_get\x7d] [--dry-run]",
    "                                   [--verbose]",
    "                                   [manifest]"]
  details := [
    "positional arguments:",
    "  manifest              Collection manifest (JSON)",
    "",
    "options:",
    "  -h, --help            show this help message and exit",
    "  --url URL             URL to fetch the manifest from",
    "  --config CONFIG       Configuration file path (JSON)",
    "  --output-dir OUTPUT_DIR",
    "                        Directory for the generated file",
    "  --project-root PROJECT_ROOT",
    "                        Root that relative paths resolve against",
    "  --strategy \x7bdirect,try_get\x7d",
    "                        Override the collection's accessor strategy",
    "  --dry-run             Print the generated code instead of writing it",
    "  --verbose             Show generation metadata"]

/-- The command line that creates an empty script. -/
def createScript : Manual where
  grammar := {
    program := toolName ++ " create-script"
    flags := [helpFlag, valueFlag "--namespace" "namespace",
      valueFlag "--class-declaration" "class_declaration", valueFlag "--asset-menu" "asset_menu",
      valueFlag "--directive" "directive", valueFlag "--config" "config"]
    places := [⟨"name", .one⟩, ⟨"folder", .one⟩]
    oneOf := [] }
  usage := [
    "usage: collection-codegen create-script [-h] [--namespace NAMESPACE]",
    "                                        [--class-declaration CLASS_DECLARATION]",
    "                                        [--asset-menu ASSET_MENU]",
    "                                        [--directive NAMESPACE]",
    "                                        [--config CONFIG]",
    "                                        name folder"]
  details := [
    "positional arguments:",
    "  name                  Script file name without extension",
    "  folder                Folder to create the script in",
    "",
    "options:",
    "  -h, --help            show this help message and exit",
    "  --namespace NAMESPACE",
    "                        Namespace for the class",
    "  --class-declaration CLASS_DECLARATION",
    "                        Class declaration line (default: 'public class",
    "                        <name>')",
    "  --asset-menu ASSET_MENU",
    "                        Attribute line placed above the class",
    "  --directive NAMESPACE",
    "                        Add a using-directive (repeatable)",
    "  --config CONFIG       Configuration file path (JSON)"]

/-- The command line that lists strategies. -/
def listStrategies : Manual where
  grammar := {
    program := toolName ++ " list-strategies"
    flags := [helpFlag]
    places := []
    oneOf := [] }
  usage := ["usage: collection-codegen list-strategies [-h]"]
  details := [
    "options:",
    "  -h, --help  show this help message and exit"]

end Manual

/-- A command. -/
inductive Verb
  | generate
  | createScript
  | listStrategies
deriving Repr, DecidableEq

namespace Verb

/-- The manual of a command. -/
def manual : Verb → Manual
  | generate => .generate
  | createScript => .createScript
  | listStrategies => .listStrategies

/-- The command with a name. -/
def ofName? (name : String) : Option Verb :=
  (commandNames.zip [generate, createScript, listStrategies]).lookup name

end Verb

end StaticAccessors.Command
