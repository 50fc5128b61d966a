import StaticAccessors.Template.Engine

/-!
# The empty script

The built-in template of a script with one empty class: the using-directives, a namespace if there is
one, an attribute line if there is one, and the declaration with a pair of braces.
-/

namespace StaticAccessors.Template

/-- The name of the template. -/
def emptyScriptName : String := "empty_script.cs.j2"

/-- A tag. -/
def tagText (content : String) : String := "\x7b% " ++ content ++ " %\x7d"

/-- A slot. -/
def slotOf (name : String) : String := "\x7b\x7b " ++ name ++ " \x7d\x7d"

/-- The lines of the template. -/
def emptyScriptLines : List String := [
  tagText "for directive in directives",
  "using " ++ slotOf "directive" ++ ";",
  tagText "endfor",
  "",
  tagText "if namespace",
  "namespace " ++ slotOf "namespace",
  "\x7b",
  tagText "endif",
  tagText "if asset_menu",
  slotOf "indent" ++ slotOf "asset_menu",
  tagText "endif",
  slotOf "indent" ++ slotOf "class_declaration",
  slotOf "indent" ++ "\x7b",
  slotOf "indent" ++ "\x7d",
  tagText "if namespace",
  "\x7d",
  tagText "endif"]

/-- The text of the template. -/
def emptyScript : String := String.join (emptyScriptLines.map (· ++ "\n"))

/-- The engine of the built-in template. -/
def Engine.builtin (newline : Value) : Except Fault Engine :=
  (create newline).map (·.add emptyScriptName emptyScript)

/-- The text of an empty script in a context. -/
def renderEmptyScript (newline : Value) (context : Fields) : Except Fault String := do
  let engine ← Engine.builtin newline
  engine.render emptyScriptName context

end StaticAccessors.Template
