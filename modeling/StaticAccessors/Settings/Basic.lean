import StaticAccessors.Fault
import StaticAccessors.Value.Scalar

/-!
# Settings

The settings of a generation are a fixed list of named values and further ones under keys of their
own. They are assembled from flat entries in which defaults, a file and overrides have been put one over
the other: a known key gives its setting, all other keys go to the further ones. Values are taken as
they are; a value of an unfit kind is noticed where it is used.

## Contents
- `Setting`: the names, with `key` and `default`.
- `entriesOf`: the entries that a value stands for.
- `Further`, `Settings`, `Settings.ofEntries` and `Settings.toTable`.
- `Settings.overlay`: overrides over a file over the defaults.
-/

namespace StaticAccessors

/-- The named settings. -/
inductive Setting
  | outputDirectory
  | fileSuffix
  | fileExtension
  | projectRoot
  | indentSize
  | useTabs
  | lineEnding
  | banner
  | classPartial
  | classStatic
  | registryNamespace
  | registryAccessor
  | collectionBaseType
  | itemBaseType
  | defaultGenerationType
deriving Repr, DecidableEq

namespace Setting

/-- All settings, in the order in which they are written. -/
def all : List Setting := [
  outputDirectory, fileSuffix, fileExtension, projectRoot, indentSize, useTabs, lineEnding, banner,
  classPartial, classStatic, registryNamespace, registryAccessor, collectionBaseType, itemBaseType,
  defaultGenerationType]

/-- The key of a setting in a table. -/
def key : Setting → String
  | outputDirectory       => "output_directory"
  | fileSuffix            => "file_suffix"
  | fileExtension         => "file_extension"
  | projectRoot           => "project_root"
  | indentSize            => "indent_size"
  | useTabs               => "use_tabs"
  | lineEnding            => "line_ending"
  | banner                => "banner"
  | classPartial          => "class_partial"
  | classStatic           => "class_static"
  | registryNamespace     => "registry_namespace"
  | registryAccessor      => "registry_accessor"
  | collectionBaseType    => "collection_base_type"
  | itemBaseType          => "item_base_type"
  | defaultGenerationType => "default_generation_type"

/-- The value of a setting that nothing sets. -/
def default : Setting → Value
  | outputDirectory       => .text "Assets/Generated/Scripts"
  | fileSuffix            => .text "Static"
  | fileExtension         => .text ".cs"
  | projectRoot           => .text "."
  | indentSize            => .int 4
  | useTabs               => .bool false
  | lineEnding            => .text "\n"
  | banner                => .list [.text "//  Automatically generated", .text "//"]
  | classPartial          => .bool true
  | classStatic           => .bool false
  | registryNamespace     => .text "BrunoMikoski.ScriptableObjectCollections"
  | registryAccessor      => .text "CollectionsRegistry.Instance"
  | collectionBaseType    => .text "ScriptableObjectCollection"
  | itemBaseType          => .text "CollectableScriptableObject"
  | defaultGenerationType => .text "direct"

/-- Every setting is listed. -/
theorem mem_all (s : Setting) : s ∈ all := by cases s <;> decide

/-- Settings are told apart by their keys. -/
theorem key_injective {s t : Setting} (h : s.key = t.key) : s = t := by
  cases s <;> cases t <;> first | rfl | exact absurd h (by decide)

end Setting

/-- The key of the further settings. -/
def customKey : String := "custom"

/-- The keys that are not those of further settings. -/
def knownKeys : List String := Setting.all.map Setting.key ++ [customKey]

/-! ## Entries from values -/

/-- A key and a value from an element of two parts. -/
def entryOf (element : Value) : Except Fault (Scalar × Value) :=
  match element.elements? with
  | none => .error .wrongType
  | some [k, v] =>
    match Scalar.ofValue? k with
    | some key => .ok (key, v)
    | none => .error .wrongType
  | some _ => .error .badValue

/-- The entries a value stands for: the fields of an object, or the pairs a list is made of. -/
def entriesOf : Value → Except Fault Entries
  | .object fields => .ok (.ofFields fields)
  | .list elements => (elements.mapM entryOf).map (Table.merge [])
  | .text s => if s = "" then .ok [] else .error .badValue
  | _ => .error .wrongType

/-! ## Settings -/

/-- The further settings: a value as it was given, or entries that were put together. -/
inductive Further
  | given (v : Value)
  | entries (table : Entries)

namespace Further

/-- The further settings as entries. -/
def toEntries : Further → Except Fault Entries
  | given v => entriesOf v
  | entries table => .ok table

/-- The further settings as a value. -/
def shown : Further → Value
  | given v => v
  | entries table => .object table.shown

/-- Whether further settings are the same. -/
def same : Further → Further → Bool
  | given v, given w => v.same w
  | entries table, entries other => table.same other
  | entries table, given (.object fields) | given (.object fields), entries table =>
    table.same (.ofFields fields)
  | _, _ => false

end Further

/-- The settings of a generation. -/
structure Settings where
  value : Setting → Value
  custom : Further

namespace Settings

instance : CoeFun Settings (fun _ => Setting → Value) := ⟨Settings.value⟩

/-- The settings when nothing is set. -/
def defaults : Settings := ⟨Setting.default, .given (.object [])⟩

/-- The table of the named settings. -/
def toTable (s : Settings) : Fields := Setting.all.map fun setting => (setting.key, s setting)

/-- The table of the named settings together with the further ones, under their key. -/
def allFields (s : Settings) : Fields := s.toTable ++ [(customKey, s.custom.shown)]

/-- The entries that no known key takes. -/
def extras (entries : Entries) : Entries := entries.filter fun e => e.1.text?.all (· ∉ knownKeys)

/-- The further settings of some entries: what stands under their key, and over it every entry of an
unknown key. -/
def customOf (entries : Entries) : Except Fault Further :=
  let given := (entries.get? (.text customKey)).getD (.object [])
  match extras entries with
  | [] => .ok (.given given)
  | more => (entriesOf (given.orElse (.object []))).map fun base => .entries (base.merge more)

/-- Assembles settings from entries. -/
def ofEntries (entries : Entries) : Except Fault Settings :=
  (customOf entries).map fun custom =>
    ⟨fun s => (entries.get? (.text s.key)).getD s.default, custom⟩

/-- Overrides over a file over the defaults; a false value overrides nothing. -/
def overlay (file : Fields) (overrides : Value) : Except Fault Settings := do
  let more ← if overrides.truthy then entriesOf overrides else .ok []
  ofEntries (((Entries.ofFields defaults.allFields).merge (Entries.ofFields file)).merge more)

/-- The entries that are written when settings are saved: the further settings stand beside the named
ones. -/
def flatten (s : Settings) : Except Fault Entries :=
  s.custom.toEntries.map (Entries.ofFields s.toTable).merge

/-- Whether all settings are the same. -/
def same (s t : Settings) : Bool :=
  Setting.all.all (fun setting => (s setting).same (t setting)) && s.custom.same t.custom

/-- The path of a generated file inside the output directory. -/
def outputPath (s : Settings) (fileName : String) : Except Fault FilePath :=
  match FilePath.ofValue? (s .outputDirectory) with
  | some directory =>
    .ok (directory.join (.ofText (fileName ++ (s .fileExtension).display)))
  | none => .error .wrongType

end Settings

end StaticAccessors
