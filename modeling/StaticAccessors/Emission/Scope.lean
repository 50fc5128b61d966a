import StaticAccessors.Emission.Depth
import StaticAccessors.Value.Key

/-!
# Scopes and blocks

A scope is what stands around the members of a generated class: the banner, the using-directives,
the namespace and the class itself. A block is a header with a pair of braces. Opening returns the
depth of what comes inside, closing the depth outside, and the caller threads it from call to call.

## Contents
- `dedupe`: directives without repetition.
- `classDeclaration`.
- `openScope`, `closeScope`, `openBlock`, `closeBlock`.
- The same at a depth that is given as a value.
-/

namespace StaticAccessors.Scope

/-- Drops false and repeated directives; `seen` are the keys met so far. -/
def dedupeAfter (seen : List Key) : List Value → Except Fault (List Value)
  | [] => .ok []
  | d :: rest =>
    if !d.truthy then dedupeAfter seen rest
    else
      match d.key? with
      | none => .error .wrongType
      | some key =>
        if key ∈ seen then dedupeAfter seen rest
        else (dedupeAfter (key :: seen) rest).map (d :: ·)

/-- Directives in order of first occurrence, each once. -/
def dedupe (directives : List Value) : Except Fault (List Value) := dedupeAfter [] directives

/-- The elements of a value, which has to have some. -/
def elementsOf (v : Value) : Except Fault (List Value) :=
  match v.elements? with
  | some xs => .ok xs
  | none => .error .wrongType

/-- The line that declares the class. -/
def classDeclaration (typeName : String) (isPartial isStatic : Bool) : String :=
  "public " ++ (if isStatic then "static " else "") ++ (if isPartial then "partial " else "") ++
    "class " ++ typeName

/-- What the header of a scope is made of. -/
structure Header where
  namespace_ : Value
  typeName : String
  isPartial : Bool
  isStatic : Bool
  directives : Value
  banner : Value

/-- The text of a value as a line: false values give a blank line. -/
def lineText (v : Value) : String := if v.truthy then v.display else ""

/-- Writes the header of a scope and returns the depth of the class body. -/
def openScope (depth : Int) (h : Header) : Emission Int := do
  let banner ← .lift (elementsOf h.banner)
  .writeAll depth lineText banner
  .blank depth
  let directives ← .lift (elementsOf h.directives)
  let unique ← .lift (dedupe directives)
  .writeAll depth (fun d => "using " ++ d.display ++ ";") unique
  if !unique.isEmpty then .blank depth
  let inner ←
    if h.namespace_.truthy then do
      .write depth ("namespace " ++ h.namespace_.display)
      .write depth "\x7b"
      pure (depth + 1)
    else pure depth
  .write inner (classDeclaration h.typeName h.isPartial h.isStatic)
  .write inner "\x7b"
  return inner + 1

/-- The levels of a scope: the class, and the namespace around it, if there is one. -/
def levels (namespace_ : Value) : Nat := if namespace_.truthy then 2 else 1

/-- Closes the class and the namespace around it, if there is one. -/
def closeScope (depth : Int) (namespace_ : Value) : Emission Int := do
  if depth < levels namespace_ then
    .fail (.scope (.closesTooMuch (levels namespace_) (.int depth)))
  else do
    .write (depth - 1) "\x7d"
    if namespace_.truthy then do
      .write (depth - 2) "\x7d"
      return depth - 2
    else return depth - 1

/-- Writes a header, if there is one, and an opening brace. -/
def openBlock (depth : Int) (header : String) : Emission Int := do
  if header ≠ "" then .write depth header
  .write depth "\x7b"
  return depth + 1

/-- Writes the brace that closes the innermost block. -/
def closeBlock (depth : Int) : Emission Int := do
  if depth - 1 < 0 then .fail (.scope .belowZero)
  else do
    .write (depth - 1) "\x7d"
    return depth - 1

/-! ## Depths given as values -/

/-- Writes the header of a scope. The banner is looked at before the depth. -/
def openScopeAt (depth : Value) (h : Header) : Emission Int := do
  let _ ← .lift (elementsOf h.banner)
  let depth ← .lift (Depth.toWrite depth)
  openScope depth h

/-- Closes a scope. -/
def closeScopeAt (depth namespace_ : Value) : Emission Int := do
  let depth ← .lift (Depth.toClose (levels namespace_) depth)
  closeScope depth namespace_

/-- Opens a block. -/
def openBlockAt (depth : Value) (header : String) : Emission Int := do
  let depth ← .lift (Depth.toWrite depth)
  openBlock depth header

/-- Closes a block. -/
def closeBlockAt (depth : Value) : Emission Int := do
  let depth ← .lift (Depth.toEndBlock depth)
  closeBlock depth

end StaticAccessors.Scope
