import StaticAccessors.Strategy.Basic

/-!
# Checks of a collection

Every member of a generated class needs an identifier of its own. `checkIdentifiers` collects the
owners of each identifier, the fixed members first and then the items in order, and refuses a
collection in which one has several. `collectionWarnings` lists what is legal but suspicious.

## Contents
- `Owners`: a table from identifiers to owners in order of first mention.
- `checkIdentifiers` and its `collisions`.
- `collectionWarnings`.
-/

namespace StaticAccessors.Strategy

/-- Fixed members whose names start in upper case. -/
def reservedUpper : List String := ["Values"]

/-- Fixed members and local names of the generated code, in ascending order. -/
def reservedLower : List String :=
  ["collectionResult", "result", "resultCollectable", "resultCollection", "values"]

/-! ## Owners -/

/-- Identifiers in order of first mention, each with its owners. -/
abbrev Owners := List (String × List Value)

namespace Owners

/-- Adds an owner to an identifier. -/
def add (owners : Owners) (identifier : String) (owner : Value) : Owners :=
  match owners with
  | [] => [(identifier, [owner])]
  | (i, names) :: rest =>
    if i = identifier then (i, names ++ [owner]) :: rest else (i, names) :: add rest identifier owner

/-- The owners of one identifier. -/
def of (owners : Owners) (identifier : String) : List Value := (owners.lookup identifier).getD []

end Owners

/-- The owner that stands for a fixed member. -/
def marker (identifier : String) : Value := .text ("<" ++ identifier ++ ">")

/-- The identifiers that belong to fixed members of a class, each once. -/
def reserved (className : String) : List String :=
  (if className ∈ reservedUpper then reservedUpper
    else (className :: reservedUpper).mergeSort (· ≤ ·)) ++ reservedLower

/-- The owners of the fixed members. -/
def fixedOwners (className : String) : Owners :=
  (reserved className).map fun identifier => (identifier, [marker identifier])

/-- Adds each item to its two identifiers. -/
def addItems (owners : Owners) : List Item → Except Fault Owners
  | [] => .ok owners
  | item :: rest =>
    match item.identifiers with
    | .ok names => addItems ((owners.add names.upper item.name).add names.lower item.name) rest
    | .error fault => .error fault

/-- The texts of owners, all of which have to be texts. -/
def ownerTexts (names : List Value) : Except Fault (List String) :=
  names.mapM fun name =>
    match name with
    | .text s => .ok s
    | _ => .error .wrongType

/-- The identifiers with several owners. -/
def collisions (owners : Owners) : Owners := owners.filter fun o => o.2.length > 1

/-- Refuses a collection in which two members would have one identifier. -/
def checkIdentifiers (c : Collection) : Except Fault Unit := do
  let className ← c.className
  let owners ← addItems (fixedOwners className) c.items
  match collisions owners with
  | [] => return ()
  | shared =>
    let shared ← shared.mapM fun (identifier, names) => (ownerTexts names).map (identifier, ·)
    throw (.collisions ⟨c.name, shared⟩)

/-! ## Warnings -/

/-- One warning for each item that is not named by its identifier. -/
def renameWarnings : List Item → Except Fault (List String)
  | [] => .ok []
  | item :: rest => do
    let names ← item.identifiers
    let more ← renameWarnings rest
    return (if (Value.text names.upper).equal item.name then []
      else ["Item '" ++ item.name.display ++ "' renamed to " ++ names.upper]) ++ more

/-- One warning for each identifier that an earlier item had; `seen` are the keys met so far. -/
def repetitionWarnings (seen : List Key) : List Item → Except Fault (List String)
  | [] => .ok []
  | item :: rest =>
    match item.guid.key? with
    | none => .error .wrongType
    | some key => do
      let more ← repetitionWarnings (key :: seen) rest
      return (if key ∈ seen then
        ["Item identifier " ++ item.guid.display ++ " is used more than once"] else []) ++ more

/-- The warnings about a collection: that it is empty, that items are renamed, and that identifiers
of items are repeated. -/
def collectionWarnings (c : Collection) : Except Fault (List String) := do
  let renamed ← renameWarnings c.items
  let repeated ← repetitionWarnings [] c.items
  return (if c.items.isEmpty then
    ["Collection '" ++ c.name.display ++ "' has no items - only the collection accessor is generated"]
    else []) ++ renamed ++ repeated

end StaticAccessors.Strategy
