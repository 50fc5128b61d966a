import StaticAccessors.FilePath
import StaticAccessors.Table

/-!
# Disks

A disk is a tree of directories and files, kept as a table of the entry at each place. There are no links,
so a place has one entry and a path leads to one place.

## Contents
- `Entry` and `Disk`, with `get?`, `put` and `remove`.
- `Disk.names`: what a directory holds.
- `Disk.changesSince`: what was written since.
- what `put` does to `get?`.
-/

namespace StaticAccessors

/-- What stands at a place. -/
inductive Entry
  | directory
  | file (content : ByteArray)

/-- Files are equal when their bytes are. -/
instance : DecidableEq Entry
  | .directory, .directory => .isTrue rfl
  | .directory, .file _ => .isFalse nofun
  | .file _, .directory => .isFalse nofun
  | .file a, .file b =>
    if h : a.data = b.data then .isTrue (congrArg Entry.file (ByteArray.ext h))
    else .isFalse fun same => h (congrArg ByteArray.data (Entry.file.inj same))

/-- Whether the entry is a directory. -/
def Entry.isDirectory : Entry → Bool
  | directory => true
  | file _ => false

/-- A place is its own key. -/
instance : Keyed Location Location := ⟨fun place => place, inferInstance⟩

/-- The entries below the root, each place once. -/
structure Disk where
  entries : Table Location Entry

namespace Disk

/-- The disk that holds its root alone. -/
def empty : Disk := ⟨[]⟩

/-- The entry at a place. The root is always a directory. -/
def get? (d : Disk) (at_ : Location) : Option Entry :=
  if at_ = [] then some .directory else d.entries.get? at_

/-- The disk with an entry at a place. -/
def put (d : Disk) (at_ : Location) (entry : Entry) : Disk := ⟨d.entries.put at_ entry⟩

/-- The disk without a place and all that lies below it. -/
def remove (d : Disk) (at_ : Location) : Disk := ⟨d.entries.filter fun e => !at_.isPrefixOf e.1⟩

/-- Whether a place is a directory. -/
def isDirectoryAt (d : Disk) (at_ : Location) : Bool := (d.get? at_).any Entry.isDirectory

/-- The names of the entries of a directory, in ascending order. -/
def names (d : Disk) (at_ : Location) : List String :=
  (d.entries.filterMap fun (place, _) =>
    match place.getLast? with
    | some name => if place.dropLast = at_ then some name else none
    | none => none).mergeSort (· ≤ ·)

/-- The entries that differ from those at the same index before. -/
def changedEntries : List (Location × Entry) → List (Location × Entry) → List (Location × Entry)
  | old :: olds, new :: news =>
    if new = old then changedEntries olds news else new :: changedEntries olds news
  | [], added => added
  | _, [] => []

/-- What was put into a disk since an earlier state of it. An entry keeps its index when it is replaced,
and new ones are added at the end, so the index tells which entries belong together. -/
def changesSince (after before : Disk) : List (Location × Entry) :=
  changedEntries before.entries after.entries

/-- A place that was just written holds what was written. -/
theorem get?_put_self (d : Disk) {at_ : Location} (entry : Entry) (h : at_ ≠ []) :
    (d.put at_ entry).get? at_ = some entry := by
  unfold get? put
  rw [if_neg h]
  exact Table.get?_put_self d.entries at_ entry

/-- Writing one place leaves every other alone. -/
theorem get?_put_of_ne (d : Disk) {at_ other : Location} (entry : Entry) (h : at_ ≠ other) :
    (d.put at_ entry).get? other = d.get? other := by
  unfold get? put
  rw [Table.get?_put_of_ne d.entries at_ entry h]

end Disk

end StaticAccessors
