import StaticAccessors.FilePath
import StaticAccessors.Json.Reader
import StaticAccessors.Template.Defect
import StaticAccessors.Value.Display

/-!
# Faults

Everything that can stop an operation, as causes. Each family of causes has one function that words
it; `Fault.message` collects them. Two families are caught by a generation run and turned into a
failed result: faults of the generation itself (`Fault.isGeneration`) and faults of the disk
(`Fault.isDisk`). All others end the operation that met them.

## Contents
- one inductive type of causes per part of the program, with its `message`;
- `Fault`, the union of them.
-/

namespace StaticAccessors

/-! ## Manifests -/

/-- The part of a manifest in which a key is required. -/
inductive Owner
  | collection
  | namedCollection (name : Value)
  | entry (index : Nat) (collection : Value)
  | namedItem (name : Value)

/-- How a message names that part. -/
def Owner.text : Owner → String
  | collection => "Collection"
  | namedCollection name => "Collection '" ++ name.display ++ "'"
  | entry index name => "Item #" ++ toString index ++ " of '" ++ name.display ++ "'"
  | namedItem name => "Item '" ++ name.display ++ "'"

/-- Why a manifest describes no collection. -/
inductive SchemaError
  | notAnObject
  | missingKey (owner : Owner) (key : String)
  | unnamedType (entry : Value)
  | invalidType (given : Value)
  | unknownStyle (given : Value)
  | itemsNotAList (collection : Value)
  | entryNotAnObject (index : Nat) (collection : Value)

/-- The words for a cause. -/
def SchemaError.message : SchemaError → String
  | notAnObject => "Manifest must be a JSON object"
  | missingKey owner key => owner.text ++ " is missing required key '" ++ key ++ "'"
  | unnamedType entry => "Type entry is missing 'name': " ++ entry.display
  | invalidType given => "Invalid type reference: " ++ given.quoted
  | unknownStyle given => "Unknown static file type: " ++ given.display
  | itemsNotAList name => (Owner.namedCollection name).text ++ " items must be a list"
  | entryNotAnObject index name => (Owner.entry index name).text ++ " must be an object"

/-! ## The disk -/

/-- What a disk refuses, as numbered by the operating system. -/
inductive DiskRefusal
  | notFound
  | permission
  | present
  | notADirectory
  | isADirectory
  | noSpace
  | nameTooLong
deriving Repr, DecidableEq

/-- The number of a refusal. -/
def DiskRefusal.number : DiskRefusal → Nat
  | notFound => 2
  | permission => 13
  | present => 17
  | notADirectory => 20
  | isADirectory => 21
  | noSpace => 28
  | nameTooLong => 36

/-- The words for a refusal. -/
def DiskRefusal.text : DiskRefusal → String
  | notFound => "No such file or directory"
  | permission => "Permission denied"
  | present => "File exists"
  | notADirectory => "Not a directory"
  | isADirectory => "Is a directory"
  | noSpace => "No space left on device"
  | nameTooLong => "File name too long"

/-- A refusal with the path it concerns, if it concerns one. -/
structure DiskError where
  refusal : DiskRefusal
  path : Option String
deriving Repr, DecidableEq

/-- The words for a disk error. -/
def DiskError.message (e : DiskError) : String :=
  "[Errno " ++ toString e.refusal.number ++ "] " ++ e.refusal.text ++
    (match e.path with
      | some path => ": " ++ quote path
      | none => "")

/-! ## Settings -/

/-- Why settings cannot be loaded from a file or saved to one. -/
inductive SettingsError
  | missing (path : FilePath)
  | notJson (path : FilePath)
  | malformed (path : FilePath) (refusal : Json.Refusal)
  | unreadable (path : FilePath) (cause : DiskError)
  | notAnObject (path : FilePath)
  | unsaved (path : FilePath) (cause : DiskError)

/-- The words for a cause. -/
def SettingsError.message : SettingsError → String
  | missing path => "Configuration file not found: " ++ path.text
  | notJson path => "Configuration file must be JSON: " ++ path.text
  | malformed path refusal => "Invalid JSON in configuration file " ++ path.text ++ ": " ++ refusal.message
  | unreadable path cause => "Failed to load configuration file " ++ path.text ++ ": " ++ cause.message
  | notAnObject path => "Configuration file must contain a JSON object: " ++ path.text
  | unsaved path cause => "Failed to save configuration to " ++ path.text ++ ": " ++ cause.message

/-! ## The registry of strategies -/

/-- Why the registry refuses a registration or a look-up. -/
inductive RegistryError
  | notAStrategy
  | aliasIsPrimary (alias_ : Value)
  | aliasTaken (alias_ : Value) (target : String)
  | unknown (name : String) (available : List String)
  | invalidSettings (given : Value)

/-- The words for a cause. -/
def RegistryError.message : RegistryError → String
  | notAStrategy => "Strategy class must inherit from AccessorStrategy"
  | aliasIsPrimary a => "Alias '" ++ a.display ++ "' conflicts with existing primary strategy"
  | aliasTaken a target => "Alias '" ++ a.display ++ "' already points to '" ++ target ++ "'"
  | unknown name available =>
    "No strategy registered for: " ++ name ++ ". Available: " ++ String.intercalate ", " available
  | invalidSettings given => "Invalid config type: <class '" ++ given.kindName ++ "'>"

/-! ## Emission -/

/-- How the nesting of scopes can go wrong. -/
inductive ScopeError
  /-- more levels are to be closed than are open -/
  | closesTooMuch (levels : Nat) (depth : Value)
  /-- a block is closed at the outermost level -/
  | belowZero
  /-- a script ends inside a block -/
  | leaked (depth : Int)

/-- The words for a cause. -/
def ScopeError.message : ScopeError → String
  | closesTooMuch levels depth =>
    "Cannot close " ++ toString levels ++ " scope level(s) from depth " ++ depth.display
  | belowZero => "Closing brace emitted below depth zero"
  | leaked depth => "Generation ended at depth " ++ toString depth ++ " instead of 0"

/-- Two compiled units where there should be one. -/
structure UnitMismatch where
  path : String
  collectionUnit : Value
  outputUnit : Value

/-- The words for a mismatch. -/
def UnitMismatch.message (m : UnitMismatch) : String :=
  "Cannot create file at path " ++ m.path ++ " since it would be in a different assembly, " ++
    "Collection Assembly: " ++ m.collectionUnit.display ++
    " Static File Assembly: " ++ m.outputUnit.display

/-- Identifiers that several members of one class would share, each with its owners. -/
structure Collisions where
  collection : Value
  shared : List (String × List String)

/-- The words for collisions. -/
def Collisions.message (c : Collisions) : String :=
  "Items of collection '" ++ c.collection.display ++ "' produce duplicate identifiers (" ++
    String.intercalate "; " (c.shared.map fun (identifier, owners) =>
      identifier ++ ": " ++ String.intercalate ", " owners) ++ ")"

/-! ## Templates -/

/-- Why a template cannot be rendered. -/
inductive TemplateProblem
  /-- no template has the name -/
  | missing
  /-- a loop runs over something of a kind that has no elements -/
  | notIterable (kind : String)
  /-- a template has no block of this number -/
  | blockMissing (index : Nat)
  /-- the context gives a value to the name of the template itself -/
  | selfGiven
  /-- the text of the template is not well formed -/
  | malformed (defect : Template.Defect)

/-- A problem with the name of its template. -/
structure TemplateError where
  name : String
  problem : TemplateProblem

/-- The words for a template error. -/
def TemplateError.message (e : TemplateError) : String :=
  "Failed to render template " ++ e.name ++ ": " ++
    (match e.problem with
      | .missing => e.name
      | .notIterable kind => "'" ++ kind ++ "' object is not iterable"
      | .blockMissing index => toString index
      | .selfGiven => "Template.render() got multiple values for argument 'self'"
      | .malformed defect => defect.message)

/-! ## Sources of manifests -/

/-- Why a manifest cannot be loaded. -/
inductive SourceError
  | noSource
  | twoSources
  | malformed (path : FilePath) (refusal : Json.Refusal)
  | unreadable (path : FilePath) (cause : DiskError)
  | invalidUrl (url : String)
  | timeout (url : String)
  | status (code : Int) (url : String)
  | request (url : String) (reason : String)

/-- The words for a cause. -/
def SourceError.message : SourceError → String
  | noSource => "Either file_path or url must be provided"
  | twoSources => "Cannot specify both file_path and url"
  | malformed path refusal => "Invalid JSON in manifest " ++ path.text ++ ": " ++ refusal.message
  | unreadable path cause => "Error reading manifest " ++ path.text ++ ": " ++ cause.message
  | invalidUrl url => "Invalid URL: " ++ url
  | timeout url => "Request timeout for URL: " ++ url
  | status code url => "HTTP error " ++ toString code ++ " for URL: " ++ url
  | request url reason => "Request error for URL " ++ url ++ ": " ++ reason

/-! ## The union -/

/-- What stops an operation. -/
inductive Fault
  | schema (cause : SchemaError)
  | settings (cause : SettingsError)
  | registry (cause : RegistryError)
  | template (cause : TemplateError)
  | source (cause : SourceError)
  /-- a refusal of the generation that a persistence step raises in its own words -/
  | generation (words : String)
  | scope (cause : ScopeError)
  | unitMismatch (cause : UnitMismatch)
  | collisions (cause : Collisions)
  | disk (cause : DiskError)
  | manifestMissing (path : FilePath)
  | negativeDepth (depth : Value)
  /-- a value of a kind that the operation cannot work on -/
  | wrongType
  /-- a value that lacks what is asked of it -/
  | noSuchAttribute
  /-- a value of the right kind that is out of range -/
  | badValue
  /-- a number beyond what can be counted -/
  | tooLarge
  /-- a text longer than can be held -/
  | tooLong
  /-- a document nested deeper than is followed -/
  | tooDeep
  /-- a key that a table lacks -/
  | noSuchKey
  /-- bytes that are no text -/
  | undecodable
  /-- a line terminator that templates do not know -/
  | unknownNewline
  /-- a failure of the host program -/
  | hostFailure
  /-- console markup that closes what is not open -/
  | markup
  /-- a command that cannot be carried out, in its own words -/
  | command (words : String)

namespace Fault

/-- The words for a fault. Faults that only report a value of the wrong kind have none. -/
def message : Fault → String
  | schema cause => cause.message
  | settings cause => cause.message
  | registry cause => cause.message
  | template cause => cause.message
  | source cause => cause.message
  | generation words => words
  | command words => words
  | scope cause => cause.message
  | unitMismatch cause => cause.message
  | collisions cause => cause.message
  | disk cause => cause.message
  | manifestMissing path => "Manifest not found: " ++ path.text
  | negativeDepth depth => "Indent depth cannot be negative: " ++ depth.display
  | _ => ""

/-- The fault of a text that exceeds a limit of the reader, whatever its grammar. -/
def ofExcess? (refusal : Json.Refusal) : Option Fault :=
  match refusal.problem with
  | .tooManyDigits => some badValue
  | .tooDeep => some tooDeep
  | _ => none

/-- Faults of the generation itself. -/
def isGeneration : Fault → Bool
  | generation _ | scope _ | unitMismatch _ | collisions _ => true
  | _ => false

/-- Faults of the disk, an absent manifest among them. -/
def isDisk : Fault → Bool
  | disk _ | manifestMissing _ => true
  | _ => false

end Fault

end StaticAccessors
