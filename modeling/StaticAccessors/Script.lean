import StaticAccessors.Emission.Layout
import StaticAccessors.Host
import StaticAccessors.Registry
import StaticAccessors.Strategy.Check

/-!
# Scripts

A script is the file with the generated class: the header, the members that a strategy writes, and
the braces that close the header. All of it is one emission, whose depth starts at zero and has to be
back at zero at the end. `render` gives the text of a script whose identifiers are distinct.

## Contents
- `Script.emit`: the lines of a script.
- `Printed` and `Script.print`: the text as far as it was written, and how the writing ended.
- `Script.path`: where a script is written.
- `Script.render`.
-/

namespace StaticAccessors

/-- The text that was written, the records about it and how the writing ended. -/
structure Printed where
  text : String
  records : List Record
  outcome : Except Fault Unit

namespace Script

/-- The header of the script of a collection. -/
def headerOf (s : Settings) (c : Collection) : Except Fault Scope.Header := do
  let className ← c.className
  let directives ← Scope.dedupe (c.directives s)
  return ⟨c.namespace_, className, (s .classPartial).truthy, (s .classStatic).truthy, .list directives,
    s .banner⟩

/-- Refuses to end at any depth but zero. -/
def settle (depth : Int) : Emission Unit :=
  if depth ≠ 0 then .fail (.scope (.leaked depth)) else .done ()

/-- The members and all that comes after the header. -/
def emitBody (strategy : Strategy) (s : Settings) (c : Collection) (depth : Int) : Emission Unit := do
  let depth ← strategy.write s c depth
  let depth ← Scope.closeScope depth c.namespace_
  settle depth

/-- The lines of the script of a collection. -/
def emit (strategy : Strategy) (s : Settings) (c : Collection) : Emission Unit := do
  let header ← .lift (headerOf s c)
  let depth ← Scope.openScope 0 header
  emitBody strategy s c depth

/-- The record about a header that was written. -/
def openedRecord (header : Scope.Header) (depth : Int) : Record :=
  ⟨.debug, "Opened scope for " ++ header.typeName ++ " at depth " ++ toString depth⟩

/-- The record about the header, if it can be written. -/
def headerRecords (s : Settings) (c : Collection) (layout : Layout) : List Record :=
  match headerOf s c with
  | .error _ => []
  | .ok header =>
    match ((Scope.openScope 0 header).print layout).2 with
    | .ok depth => [openedRecord header depth]
    | .error _ => []

/-- Writes the script of a collection. The layout is settled before anything is written. -/
def print (strategy : Strategy) (s : Settings) (c : Collection) : Printed :=
  match Layout.ofSettings s with
  | .error fault => ⟨"", [], .error fault⟩
  | .ok layout =>
    let (text, outcome) := (emit strategy s c).print layout
    ⟨text, headerRecords s c layout, outcome⟩

/-- The name of the file of a script, without its extension. -/
def fileName (s : Settings) (c : Collection) : Except Fault String :=
  c.className.map fun name => name ++ (s .fileSuffix).display

/-- The path of the file of a script. -/
def path (s : Settings) (c : Collection) : Except Fault FilePath := do s.outputPath (← fileName s c)

/-- The text of the script of a collection whose identifiers are distinct, and the records about it. -/
def render (r : Registry) (s : Settings) (c : Collection) : Except Fault String × List Record :=
  match r.lookup (.style c.style) with
  | .error fault => (.error fault, [])
  | .ok strategy =>
    match Strategy.checkIdentifiers c with
    | .error fault => (.error fault, [])
    | .ok () =>
      let printed := print strategy s c
      (printed.outcome.map fun () => printed.text, printed.records)

end Script

end StaticAccessors
