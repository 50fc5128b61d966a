import StaticAccessors.Manifest.Source
import StaticAccessors.Settings.File
import StaticAccessors.Template.EmptyScript
import StaticAccessors.Workspace

/-!
# Projects

What can be done in a workspace: manifests are loaded, scripts are generated from a manifest or from the
file of one, and scripts with an empty class are created where there is no file yet.

## Contents
- `Workspace.load`.
- `Workspace.generateFromManifest`, `Workspace.generateFromFile`.
- `EmptyScript` and `Workspace.createScript`.
-/

namespace StaticAccessors

namespace Workspace

/-- Loads a manifest. -/
def load (here : Location) (file url : Value) (response : Response) : Action Workspace (String × Value) :=
  .ofRun fun w =>
    let (outcome, records) := Source.load w.disk here file url response
    (outcome, w.logAll records)

/-- The collection that a manifest describes under some settings. -/
def collectionOf (s : Settings) (manifest : Value) : Except Fault Collection :=
  (Collection.ofManifest manifest (s .defaultGenerationType)).mapError Fault.schema

/-- Generates the script of the collection that a manifest describes. -/
def generateFromManifest (here : Location) (r : Registry) (collaborators : Collaborators)
    (manifest overrides : Value) : Action Workspace Report := do
  let s ← .ofExcept (Settings.overlay [] overrides)
  let c ← .ofExcept (collectionOf s manifest)
  generate here r collaborators s c

/-- Generates the script of the collection that the manifest in a file describes. -/
def generateFromFile (here : Location) (r : Registry) (collaborators : Collaborators)
    (file overrides : Value) : Action Workspace Report := do
  let (_, manifest) ← load here file .null (.unreachable "")
  generateFromManifest here r collaborators manifest overrides

end Workspace

/-! ## Empty scripts -/

/-- A script with one empty class, as it is asked for. -/
structure EmptyScript where
  name : Value
  folder : Value
  namespace_ : Value
  assetMenu : Value
  declaration : Value
  directives : Value

namespace EmptyScript

/-- The file of a script. -/
def target (q : EmptyScript) (s : Settings) : Except Fault FilePath :=
  (pathOf q.folder).map fun folder => folder.join (.ofText (q.name.display ++ (s .fileExtension).display))

/-- The context in which its template is rendered. -/
def context (q : EmptyScript) (s : Settings) : Except Fault Fields := do
  let layout ← Layout.ofSettings s
  let directives ← Scope.elementsOf q.directives
  let directives ← Scope.dedupe directives
  return [
    ("directives", .list directives), ("namespace", q.namespace_), ("asset_menu", q.assetMenu),
    ("class_declaration", q.declaration),
    ("indent", .text (if q.namespace_.truthy then layout.unit else ""))]

/-- The text of a script. -/
def text (q : EmptyScript) (s : Settings) : Except Fault String := do
  let _ ← Layout.ofSettings s
  let engine ← Template.Engine.builtin (s .lineEnding)
  let context ← q.context s
  engine.render Template.emptyScriptName context

end EmptyScript

namespace Workspace

/-- Creates a script, unless its file is there already. -/
def createScript (here : Location) (s : Settings) (q : EmptyScript) : Action Workspace Bool := do
  let root ← .ofExcept (pathOf (s .projectRoot))
  let folder ← .ofExcept (pathOf q.folder)
  ensureDirectory here (root.join folder)
  let target ← .ofExcept (q.target s)
  let file := root.join target
  let w ← get
  if ← .ofExcept (w.disk.pathExists here file) then
    change (log ⟨.warning, "Script " ++ target.text ++ " already exists, not overwriting"⟩)
    return false
  else
    let text ← .ofExcept (q.text s)
    onDisk (·.writeFile here file text.toUTF8)
    change (log ⟨.info, "Created script " ++ target.text⟩)
    return true

end Workspace

end StaticAccessors
