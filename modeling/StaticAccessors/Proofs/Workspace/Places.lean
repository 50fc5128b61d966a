import StaticAccessors.Proofs.Disk.Growth
import StaticAccessors.Proofs.Script.FileName
import StaticAccessors.Proofs.Workspace.LocalDisk
import StaticAccessors.Units.Definitions
import Mathlib.Data.List.Basic

/-!
# The place of an output

A run places its output three times: the guard looks up the unit of the directory, the script is opened on
the disk, and where it went is told. The guard places the root of the project first and goes on from there,
the disk follows the whole path part by part, and what is told is placed in the end. All three come to one
directory (`place_of_output`), however often the path leads up, as long as it ends in the name of a file.

A path that names no file may come to two. The path without any part is its own directory to the guard, while
what it leads to lies in the directory above, and is opened and told there (`unnamed_output`).

## Contents
- `Location.Named`: the places that there are.
- `FilePath.locate_join_resolve`: a path from a root that was placed before.
- `Disk.get?_of_walkFrom_append`: what stands on the way.
- `place_of_output`.
-/

namespace StaticAccessors

/-! ## Places -/

namespace Location

variable {at_ : Location} {parts more : List String}

/-- A place that names of files lead to: none of them leads up, or holds what no file name can hold. -/
structure Named (at_ : Location) : Prop where
  noDots : ".." ∉ at_
  plain : ∀ name ∈ at_, '\x00' ∉ name.toList

theorem follow_append : follow at_ (parts ++ more) = follow (follow at_ parts) more := List.foldl_append

/-- The names of a place lead there. -/
theorem Named.follow_eq (h : Named at_) : follow [] at_ = at_ := by
  suffices lead : ∀ front back : Location, ".." ∉ back → follow front back = front ++ back by
    exact lead [] at_ h.noDots
  intro front back noDots
  induction back generalizing front with
  | nil => exact (List.append_nil front).symm
  | cons name rest ih =>
    rw [List.mem_cons, not_or] at noDots
    show follow (step front name) rest = _
    rw [ih _ noDots.2, step, if_neg (Ne.symm noDots.1), List.append_assoc]
    rfl

/-- From one place parts lead to another. -/
theorem Named.follow (h : Named at_) (plain : ∀ part ∈ parts, '\x00' ∉ part.toList) :
    Named (Location.follow at_ parts) := by
  induction parts generalizing at_ with
  | nil => exact h
  | cons part rest ih =>
    rw [List.forall_mem_cons] at plain
    refine ih ?_ plain.2
    unfold step
    split
    · have above : at_.dropLast ⊆ at_ := List.dropLast_subset at_
      exact ⟨fun up => h.noDots (above up), fun name known => h.plain name (above known)⟩
    · rename_i down
      refine ⟨fun up => ?_, fun name known => ?_⟩
      · rcases List.mem_append.mp up with up | up
        · exact h.noDots up
        · exact down (List.mem_singleton.mp up).symm
      · rcases List.mem_append.mp known with known | known
        · exact h.plain name known
        · exact List.mem_singleton.mp known ▸ plain.1

end Location

namespace FilePath

variable {here : Location} {root p : FilePath}

theorem hasNul_eq_false_iff : p.hasNul = false ↔ ∀ part ∈ p.parts, '\x00' ∉ part.toList := by
  unfold hasNul
  simp

/-- A path that can be named leads to a place. -/
theorem named_locate (placed : here.Named) (plain : p.hasNul = false) : (p.locate here).Named := by
  unfold locate
  split
  · exact Location.Named.follow ⟨List.not_mem_nil, nofun⟩ (hasNul_eq_false_iff.mp plain)
  · exact placed.follow (hasNul_eq_false_iff.mp plain)

/-- The path from the root of the tree to a place leads there. -/
theorem locate_toPath {at_ : Location} (h : at_.Named) (here : Location) : at_.toPath.locate here = at_ :=
  h.follow_eq

/-- **A root may be placed first**: a path seen from it leads to the same place. -/
theorem locate_join_resolve (placed : here.Named) (plain : root.hasNul = false) (p : FilePath) :
    ((root.resolve here).join p).locate here = (root.join p).locate here := by
  unfold join
  split
  · rfl
  · show Location.follow [] (root.locate here ++ p.parts) = _
    rw [Location.follow_append, (named_locate placed plain).follow_eq]
    unfold locate
    rw [Location.follow_append]
    rfl

/-- A path with a part is a file of the directory above it. -/
theorem beside_name (some_ : p.parts ≠ []) : p = p.parent.beside p.name := by
  obtain ⟨anchor, parts⟩ := p
  obtain ⟨front, last, rfl⟩ := (List.eq_nil_or_concat' parts).resolve_left some_
  simp [beside, parent, name]

@[simp] theorem name_beside (directory : FilePath) (name : String) : (directory.beside name).name = name := by
  simp [beside, FilePath.name]

end FilePath

/-- Every part but the last is passed at a directory. -/
theorem Disk.get?_of_walkFrom_append {d : Disk} {from_ goal : Location} {front rest : List String}
    {part : String} (h : d.walkFrom from_ (front ++ part :: rest) = .ok goal) :
    d.get? (Location.follow from_ front) = some .directory := by
  induction front generalizing from_ with
  | nil =>
    rw [List.nil_append] at h
    unfold walkFrom at h
    split at h
    · exact absurd h nofun
    · exact absurd h nofun
    · rename_i entry
      exact entry
  | cons first front ih =>
    rw [List.cons_append] at h
    unfold walkFrom at h
    split at h
    · exact absurd h nofun
    · exact absurd h nofun
    · split at h
      · exact absurd h nofun
      · exact ih h

/-! ## The three places -/

section

open FilePath

variable {here : Location} {projectRoot : Value} {root p : FilePath}

theorem resolvePath_eq_ok_iff {place : FilePath} :
    resolvePath here p = .ok place ↔ p.hasNul = false ∧ place = p.resolve here := by
  unfold resolvePath
  cases p.hasNul with
  | true => exact iff_of_false nofun fun ⟨plain, _⟩ => absurd plain nofun
  | false => exact ⟨fun h => ⟨rfl, (Except.ok.inj h).symm⟩, fun ⟨_, same⟩ => same ▸ rfl⟩

/-- What is known of units starts from the place of the root. -/
theorem UnitMemory.create_eq_ok_iff (rooted : pathOf projectRoot = .ok root) {m : UnitMemory} :
    UnitMemory.create here projectRoot = .ok m ↔ root.hasNul = false ∧ m = ⟨root.resolve here, []⟩ := by
  constructor
  · intro made
    obtain ⟨root', rooted', made⟩ := Outcome.bind_eq_ok.mp made
    obtain ⟨place, found, made⟩ := Outcome.bind_eq_ok.mp made
    obtain rfl := Except.ok.inj (rooted.symm.trans rooted')
    obtain ⟨plain, rfl⟩ := resolvePath_eq_ok_iff.mp found
    exact ⟨plain, (Except.ok.inj made).symm⟩
  · rintro ⟨plain, rfl⟩
    exact Outcome.bind_eq_ok.mpr ⟨root, rooted, Outcome.bind_eq_ok.mpr
      ⟨root.resolve here, resolvePath_eq_ok_iff.mpr ⟨plain, rfl⟩, rfl⟩⟩

theorem hasNul_of_join (h : (root.join p).hasNul = false) : p.hasNul = false := by
  rw [hasNul_eq_false_iff] at h ⊢
  unfold join at h
  split at h
  · exact h
  · exact fun part listed => h part (List.mem_append_right _ listed)

/-- Paths that come to one place are looked up alike. -/
theorem UnitMemory.resolve_congr {m : UnitMemory} {q : FilePath}
    (same : resolvePath here (m.root.join p) = resolvePath here (m.root.join q)) (d : Disk) :
    UnitMemory.resolve d here m p = UnitMemory.resolve d here m q := by
  unfold UnitMemory.resolve
  rw [same]

/-- **What the guard looks up** is the place of the directory. -/
theorem guarded_place (placed : here.Named) (rooted : pathOf projectRoot = .ok root) {m : UnitMemory}
    {place : FilePath} (made : UnitMemory.create here projectRoot = .ok m)
    (found : resolvePath here (m.root.join p) = .ok place) :
    place = ((root.join p).locate here).toPath ∧
      ∀ d, UnitMemory.resolve d here m p = UnitMemory.resolve d here m place := by
  obtain ⟨plain, rfl⟩ := (UnitMemory.create_eq_ok_iff rooted).mp made
  obtain ⟨plain', rfl⟩ := resolvePath_eq_ok_iff.mp found
  have arrives : ((root.resolve here).join p).resolve here = ((root.join p).locate here).toPath :=
    congrArg Location.toPath (locate_join_resolve placed plain p)
  have named : ((root.join p).locate here).Named :=
    named_locate placed (hasNul_join plain (hasNul_of_join plain'))
  refine ⟨arrives, UnitMemory.resolve_congr (found.trans (Eq.symm ?_))⟩
  -- A place is the same from wherever it is seen.
  dsimp only
  rw [arrives]
  refine resolvePath_eq_ok_iff.mpr ⟨hasNul_eq_false_iff.mpr named.plain, ?_⟩
  exact congrArg Location.toPath (locate_toPath named here).symm

/-- **What is opened** is a file of a directory that is there. -/
theorem opened_place (some_ : p.parts ≠ []) (down : p.name ≠ "..") {d after : Disk}
    (opened : d.openForWrite here p = .ok after) :
    d.get? (p.parent.locate here) = some .directory ∧
      after = d.put (p.parent.locate here ++ [p.name]) (.file .empty) := by
  obtain ⟨at_, file, rfl⟩ := Outcome.map_eq_ok.mp opened
  obtain ⟨-, way, -⟩ := Disk.fileToWrite_eq_ok_iff.mp file
  obtain rfl := Disk.walk_eq_locate way
  have beside := beside_name some_
  refine ⟨?_, ?_⟩
  · unfold Disk.walk at way
    split at way
    · exact absurd way nofun
    · rw [beside] at way
      exact Disk.get?_of_walkFrom_append way
  · rw [← locate_beside _ _ _ down, ← beside]

/-- **What is told** is the place of the file. -/
theorem told_place (placed : here.Named) (rooted : pathOf projectRoot = .ok root) (some_ : p.parts ≠ [])
    (down : p.name ≠ "..") {told : FilePath} (found : absolutePath here projectRoot p = .ok told) :
    told.parent.locate here = (root.join p.parent).locate here ∧
      told.locate here = (root.join p.parent).locate here ++ [p.name] := by
  have beside := beside_name some_
  have seen : root.join p = (root.join p.parent).beside p.name := by
    rw [← join_beside, ← beside]
  -- A path from a root is told as it is, and any other is placed first.
  unfold absolutePath at found
  split at found
  · rename_i absolute
    obtain rfl := Except.ok.inj found
    have stays : root.join p.parent = p.parent := if_pos absolute
    rw [stays]
    refine ⟨rfl, ?_⟩
    rw [← locate_beside _ _ _ down, ← beside]
  · rw [rooted] at found
    obtain ⟨plain, rfl⟩ := resolvePath_eq_ok_iff.mp found
    have place : (root.join p).locate here = (root.join p.parent).locate here ++ [p.name] := by
      rw [seen, locate_beside _ _ _ down]
    have plain' : (root.join p.parent).hasNul = false := by
      rw [← parent_beside (root.join p.parent) p.name, ← seen]
      exact hasNul_parent plain
    have above : ((root.join p).resolve here).parent = ((root.join p.parent).locate here).toPath := by
      unfold resolve parent
      rw [place]
      exact congrArg Location.toPath List.dropLast_concat
    refine ⟨?_, ?_⟩
    · rw [above, locate_toPath (named_locate placed plain')]
    · rw [← place]
      exact locate_toPath (named_locate placed plain) here

/-- **One place for an output.** From wherever the program runs, for each root of the project and each output
that ends in the name of a file, the guard looks up the directory that the output lies in, a script is opened
in that directory, which is there, and that is where it is told to be. If no name holds what no name can hold,
the directory can be looked up and the output told. -/
theorem place_of_output (placed : here.Named) (rooted : pathOf projectRoot = .ok root) (some_ : p.parts ≠ [])
    (down : p.name ≠ "..") :
    let directory := (root.join p.parent).locate here
    (∀ m place, UnitMemory.create here projectRoot = .ok m →
        resolvePath here (m.root.join p.parent) = .ok place →
          place = directory.toPath ∧
            ∀ d, UnitMemory.resolve d here m p.parent = UnitMemory.resolve d here m directory.toPath) ∧
      (∀ d after : Disk, d.openForWrite here (root.join p) = .ok after →
        d.get? directory = some .directory ∧ after = d.put (directory ++ [p.name]) (.file .empty)) ∧
      (∀ told, absolutePath here projectRoot p = .ok told →
        told.parent.locate here = directory ∧ told.locate here = directory ++ [p.name]) ∧
      (root.hasNul = false → p.hasNul = false →
        (∃ m place, UnitMemory.create here projectRoot = .ok m ∧
          resolvePath here (m.root.join p.parent) = .ok place) ∧
          ∃ told, absolutePath here projectRoot p = .ok told) := by
  intro directory
  have seen : root.join p = (root.join p.parent).beside p.name := by
    rw [← join_beside, ← beside_name some_]
  refine ⟨fun m place made found => ?_, fun d after opened => ?_,
    fun told found => told_place placed rooted some_ down found, fun plain plain' => ⟨?_, ?_⟩⟩
  · obtain ⟨rfl, alike⟩ := guarded_place placed rooted made found
    exact ⟨rfl, alike⟩
  · rw [seen] at opened
    have opened := opened_place (List.append_ne_nil_of_right_ne_nil _ (List.cons_ne_nil _ _))
      (by rwa [name_beside]) opened
    rwa [parent_beside, name_beside] at opened
  · have named : (root.resolve here).hasNul = false :=
      hasNul_eq_false_iff.mpr (named_locate placed plain).plain
    exact ⟨_, _, (UnitMemory.create_eq_ok_iff rooted).mpr ⟨plain, rfl⟩,
      resolvePath_eq_ok_iff.mpr ⟨hasNul_join named (hasNul_parent plain'), rfl⟩⟩
  · exact Workspace.exists_absolutePath rooted (hasNul_join plain plain')

/-- An output beside the project, of a program that runs above it. -/
theorem place_of_output_climbing :
    (∃ m, UnitMemory.create ["work"] (.text "Game") = .ok m ∧
        resolvePath ["work"] (m.root.join (ofText "../Shared/./Fruits.cs").parent) =
          .ok (Location.toPath ["work", "Shared"])) ∧
      ∃ told, absolutePath ["work"] (.text "Game") (ofText "../Shared/./Fruits.cs") = .ok told ∧
        told.parent.locate ["work"] = ["work", "Shared"] := by
  have placed : Location.Named ["work"] := ⟨by decide, by decide⟩
  have directory : ((ofText "Game").join (ofText "../Shared/./Fruits.cs").parent).locate ["work"] =
      ["work", "Shared"] := by decide +kernel
  obtain ⟨guarded, -, told, done⟩ := place_of_output (p := ofText "../Shared/./Fruits.cs") placed
    (show pathOf (.text "Game") = .ok (ofText "Game") from rfl) (by decide +kernel) (by decide +kernel)
  obtain ⟨⟨m, place, made, found⟩, path, reported⟩ := done (by decide +kernel) (by decide +kernel)
  rw [directory] at guarded told
  obtain ⟨rfl, -⟩ := guarded m place made found
  exact ⟨⟨m, made, found⟩, path, reported, (told path reported).1⟩

/-- An output that names no file: the guard looks up the root of the project, which is not made yet, the disk
opens a file in its place in the directory above, and that is told. -/
theorem unnamed_output :
    (∃ m, UnitMemory.create [] (.text "Game") = .ok m ∧
        resolvePath [] (m.root.join (ofText ".").parent) = .ok (Location.toPath ["Game"])) ∧
      Disk.empty.openForWrite [] ((ofText "Game").join (ofText ".")) =
        .ok (Disk.empty.put ["Game"] (.file .empty)) ∧
      absolutePath [] (.text "Game") (ofText ".") = .ok (Location.toPath ["Game"]) ∧
      (Location.toPath ["Game"]).parent.locate [] = [] := by
  refine ⟨⟨_, rfl, ?_⟩, ?_, ?_, ?_⟩
  · rfl
  · rfl
  · rfl
  · rfl

end

end StaticAccessors
