import StaticAccessors.Settings.Basic
import StaticAccessors.Manifest.Types

/-!
# Warnings about settings

Settings are checked for what would make the generated code useless or the layout odd. The warnings
come in the order of the checks. A value of a kind that a check cannot look at ends the checking.
-/

namespace StaticAccessors

namespace Settings

/-- A warning, if the condition holds. -/
def warnIf (condition : Bool) (warning : String) : List String := if condition then [warning] else []

/-- The warnings about the indentation. -/
def indentWarnings (s : Settings) : Except Fault (List String) :=
  match (s .indentSize).below? 1 with
  | some tooSmall => .ok (warnIf tooSmall ("Invalid indent_size: " ++ (s .indentSize).display))
  | none => .error .wrongType

/-- The warnings about the line terminator. -/
def lineEndingWarnings (s : Settings) : Except Fault (List String) :=
  let ending := s .lineEnding
  match ending.key? with
  | none => .error .wrongType
  | some key =>
    .ok (warnIf (key ≠ .text "\n" && key ≠ .text "\r\n") ("Unusual line_ending: " ++ ending.quoted))

/-- The warnings about the file extension. -/
def extensionWarnings (s : Settings) : Except Fault (List String) :=
  match s .fileExtension with
  | .text e => .ok (warnIf (e.toList.head? ≠ some '.') ("file_extension should start with '.': " ++ e))
  | _ => .error .noSuchAttribute

/-- The warnings about the default style. -/
def styleWarnings (s : Settings) : List String :=
  let given := s .defaultGenerationType
  match AccessorStyle.parse given with
  | .ok _ => []
  | .error _ => ["Invalid default_generation_type: " ++ given.display]

/-- A warning, if a setting is false. -/
def emptyWarning (s : Settings) (setting : Setting) : List String :=
  warnIf (!(s setting).truthy) (setting.key ++ " is empty")

/-- All warnings. -/
def warnings (s : Settings) : Except Fault (List String) := do
  let indent ← s.indentWarnings
  let ending ← s.lineEndingWarnings
  let extension ← s.extensionWarnings
  return indent ++ ending ++ extension ++ s.emptyWarning .outputDirectory ++ s.styleWarnings ++
    s.emptyWarning .registryAccessor ++ s.emptyWarning .collectionBaseType ++
    s.emptyWarning .itemBaseType

end Settings

end StaticAccessors
