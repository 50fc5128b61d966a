import StaticAccessors.Proofs.Units.Lookup
import Mathlib.Data.List.Induction

/-!
# The nearest definition

A directory defines the unit that the first of its usable definition files names, in the order of their
names (`Defines`). A path belongs to the unit of the deepest directory on the way to it that defines one,
and to a unit of the project if there is none (`Belongs`). That is one unit at most (`Belongs.unique`).

A look-up of a path in the project has the unit that the path belongs to from the root of the project on
(`belongs_of_resolve`), with one exception. If the root itself is looked up, is no directory, and has a name
with an ending, the look-up starts above it, never comes to it, and goes on up to the root of the tree
(`Astray`).

## Contents
- `Disk.mem_names_of_get?` and `Disk.names_pairwise`: what a directory lists.
- `Defines`, and `defines_of_definitionIn`: what one directory defines.
- `Deepest`, and `deepest_of_nearest`: the directories on the way up.
- `Belongs`, `Astray`, and `belongs_of_unitOf`: look-ups without memory.
- `afterwards`, and `belongs_of_resolve`: look-ups after others.
-/

namespace StaticAccessors

/-! ## What a directory lists -/

namespace Disk

variable {d : Disk} {place : Location} {name : String} {entry : Entry}

/-- What stands right below a place is listed there. -/
theorem mem_names_of_get? (h : d.get? (place ++ [name]) = some entry) : name ∈ d.names place := by
  unfold get? at h
  rw [if_neg (List.append_ne_nil_of_right_ne_nil place (List.cons_ne_nil name []))] at h
  obtain ⟨at_, same, listed⟩ := Table.exists_of_get? h
  obtain rfl : at_ = place ++ [name] := same
  unfold names
  rw [(List.mergeSort_perm _ _).mem_iff, List.mem_filterMap]
  refine ⟨_, listed, ?_⟩
  dsimp only
  rw [List.getLast?_concat, List.dropLast_concat]
  exact if_pos rfl

/-- The names are listed in ascending order. -/
theorem names_pairwise (d : Disk) (place : Location) : (d.names place).Pairwise (· ≤ ·) := by
  have trans (a b c : String) (first : decide (a ≤ b)) (second : decide (b ≤ c)) : decide (a ≤ c) :=
    decide_eq_true (String.le_trans (of_decide_eq_true first) (of_decide_eq_true second))
  have total (a b : String) : decide (a ≤ b) || decide (b ≤ a) := by
    simpa using String.le_total a b
  exact (List.pairwise_mergeSort trans total _).imp of_decide_eq_true

end Disk

namespace UnitMemory

open Outcome

variable {d : Disk} {here root floor path : Location} {m : UnitMemory} {directory file p : FilePath}
  {name : String} {unit other : Value} {found : Option Value}

/-! ## What a directory defines -/

/-- A directory defines a unit: it is there, and the first of its definition files that name a unit, in the
order of the names of the files, names this one. -/
structure Defines (d : Disk) (here : Location) (directory : FilePath) (unit : Value) : Prop where
  there : d.isDirectory here directory = .ok true
  first : ∃ name, isDefinitionName name = true ∧ Names d here (directory.join ⟨.here, [name]⟩) unit ∧
    ∀ other, other < name → isDefinitionName other = true →
      ∀ unit, ¬Names d here (directory.join ⟨.here, [other]⟩) unit

/-- A directory defines one unit. -/
theorem Defines.unique (h : Defines d here directory unit) (h' : Defines d here directory other) :
    unit = other := by
  obtain ⟨name, ending, names, first⟩ := h.first
  obtain ⟨name', ending', names', first'⟩ := h'.first
  -- Neither of the two files can come before the other.
  have order : name = name' := by
    refine String.le_antisymm (String.not_lt.mp fun before => ?_) (String.not_lt.mp fun before => ?_)
    · exact first _ before ending' _ names'
    · exact first' _ before ending _ names
  subst order
  exact names.unique names'

/-- A definition file that names a unit is listed in its directory. -/
theorem Names.listed (h : Names d here (directory.join ⟨.here, [name]⟩) unit)
    (ending : isDefinitionName name = true) : name ∈ definitionNames d here directory := by
  obtain ⟨text, -, read, -⟩ := h
  obtain ⟨content, bytes, -⟩ := bind_eq_ok.mp read
  have found := Disk.get?_of_readBytes bytes
  have place : (directory.join ⟨.here, [name]⟩).locate here = directory.locate here ++ [name] := by
    have plain : name ≠ ".." := by
      rintro rfl
      exact absurd ending (by decide)
    have step : Location.step (directory.locate here) name = directory.locate here ++ [name] := if_neg plain
    rw [← step]
    exact List.foldl_append
  rw [place] at found
  exact List.mem_filter.mpr ⟨Disk.mem_names_of_get? found, ending⟩

/-- The file used is the first of those that name a unit. -/
theorem names_of_firstUnit {names : List String} (sorted : names.Pairwise (· ≤ ·))
    (h : (firstUnit d here directory names).1 = .ok (some unit)) :
    ∃ name ∈ names, Names d here (directory.join ⟨.here, [name]⟩) unit ∧ ∀ other ∈ names, other < name →
      ∀ unit, ¬Names d here (directory.join ⟨.here, [other]⟩) unit := by
  induction names with
  | nil => exact absurd h nofun
  | cons name rest ih =>
    obtain ⟨before, sorted⟩ := List.pairwise_cons.mp sorted
    rcases firstUnit_cons d here directory name with
      ⟨fault, -, stops⟩ | ⟨first, names, uses⟩ | ⟨unused, passes⟩
    · exact absurd ((stops rest).symm.trans h) nofun
    · obtain rfl := Option.some.inj (Except.ok.inj ((uses rest).symm.trans h))
      refine ⟨name, List.mem_cons_self, names, fun other among earlier => ?_⟩
      rcases List.mem_cons.mp among with rfl | among
      · exact absurd earlier (String.lt_irrefl _)
      · exact absurd earlier (String.not_lt.mpr (before other among))
    · obtain ⟨used, listed, names, first⟩ := ih sorted ((passes rest).symm.trans h)
      refine ⟨used, List.mem_cons_of_mem _ listed, names, fun other among earlier => ?_⟩
      rcases List.mem_cons.mp among with rfl | among
      · exact unused
      · exact first other among earlier

/-- If no file is used, none names a unit. -/
theorem not_names_of_firstUnit {names : List String}
    (h : (firstUnit d here directory names).1 = .ok none) :
    ∀ name ∈ names, ∀ unit, ¬Names d here (directory.join ⟨.here, [name]⟩) unit := by
  induction names with
  | nil => exact fun _ listed => absurd listed List.not_mem_nil
  | cons name rest ih =>
    rcases firstUnit_cons d here directory name with
      ⟨fault, -, stops⟩ | ⟨first, -, uses⟩ | ⟨unused, passes⟩
    · exact absurd ((stops rest).symm.trans h) nofun
    · exact absurd ((uses rest).symm.trans h) nofun
    · intro other among
      rcases List.mem_cons.mp among with rfl | among
      · exact unused
      · exact ih ((passes rest).symm.trans h) other among

/-- **What a look-up in a directory finds, the directory defines.** -/
theorem defines_of_definitionIn (h : (definitionIn d here directory).1 = .ok (some unit)) :
    Defines d here directory unit := by
  unfold definitionIn at h
  split at h
  · exact absurd h nofun
  · exact absurd (Except.ok.inj h) nofun
  · rename_i there
    have sorted : (definitionNames d here directory).Pairwise (· ≤ ·) :=
      (Disk.names_pairwise d (directory.locate here)).filter _
    obtain ⟨name, listed, names, first⟩ := names_of_firstUnit sorted h
    refine ⟨there, name, (List.mem_filter.mp listed).2, names, fun other earlier ending unit used => ?_⟩
    exact first other (used.listed ending) earlier unit used

/-- **If it finds nothing, the directory defines nothing.** -/
theorem not_defines_of_definitionIn (h : (definitionIn d here directory).1 = .ok none) :
    ∀ unit, ¬Defines d here directory unit := by
  intro unit defines
  obtain ⟨name, ending, names, -⟩ := defines.first
  unfold definitionIn at h
  rw [defines.there] at h
  exact not_names_of_firstUnit h name (names.listed ending) unit names

/-! ## The directories on the way up -/

/-- What is defined on the way down to a path, from a floor on: the unit of the deepest directory that
defines one, or nothing. -/
inductive Deepest (d : Disk) (here floor path : Location) : Option Value → Prop
  /-- A directory defines a unit, and none below it on the way does. -/
  | defined {place : Location} {unit : Value} : floor <+: place → place <+: path →
      Defines d here place.toPath unit →
      (∀ deeper : Location, deeper <+: path → place.length < deeper.length →
        ∀ unit, ¬Defines d here deeper.toPath unit) →
      Deepest d here floor path (some unit)
  /-- No directory on the way defines a unit. -/
  | undefined :
      (∀ place : Location, floor <+: place → place <+: path → ∀ unit, ¬Defines d here place.toPath unit) →
      Deepest d here floor path none

/-- There is one deepest definition at most. -/
theorem Deepest.unique {found' : Option Value} (h : Deepest d here floor path found)
    (h' : Deepest d here floor path found') : found = found' := by
  cases h with
  | undefined nothing =>
    cases h' with
    | undefined => rfl
    | defined above on defines => exact absurd defines (nothing _ above on _)
  | defined above on defines deepest =>
    cases h' with
    | undefined nothing => exact absurd defines (nothing _ above on _)
    | defined above' on' defines' deepest' =>
      -- Two directories on one way are the same if neither is deeper.
      have no_deeper := Nat.not_lt.mp fun less => deepest _ on' less _ defines'
      have no_higher := Nat.not_lt.mp fun less => deepest' _ on less _ defines
      have same := (List.prefix_of_prefix_length_le on on' no_higher).eq_of_length_le no_deeper
      subst same
      exact congrArg some (defines.unique defines')

/-- One step further down, where nothing is defined, nothing changes. -/
theorem Deepest.step (h : Deepest d here floor path found)
    (nothing : ∀ unit, ¬Defines d here (Location.toPath (path ++ [name])) unit) :
    Deepest d here floor (path ++ [name]) found := by
  cases h with
  | undefined none =>
    refine .undefined fun place above on => ?_
    rcases List.prefix_concat_iff.mp on with rfl | on
    · exact nothing
    · exact none place above on
  | defined above on defines deepest =>
    refine .defined above (on.trans (List.prefix_append _ _)) defines fun deeper below less => ?_
    rcases List.prefix_concat_iff.mp below with rfl | below
    · exact nothing
    · exact deepest deeper below less

/-- The ancestors of a path are the directory it lies in and the ancestors of that. -/
theorem parents_concat (place : Location) (name : String) :
    (Location.toPath (place ++ [name])).parents = place.toPath :: place.toPath.parents := by
  have prefixes : FilePath.prefixesOf (place ++ [name]) = place :: FilePath.prefixesOf place := by
    induction place with
    | nil => rfl
    | cons part rest ih =>
      rw [List.cons_append, FilePath.prefixesOf, ih]
      rfl
  unfold FilePath.parents Location.toPath
  rw [prefixes]
  rfl

/-- A directory that defines a unit is the deepest one on the way to itself. -/
theorem Deepest.of_defines (below : floor <+: path) (defines : Defines d here path.toPath unit) :
    Deepest d here floor path (some unit) := by
  refine .defined below List.prefix_rfl defines fun deeper on less => ?_
  exact absurd on.length_le (Nat.not_le.mpr less)

/-- On the way from a directory to itself there is nothing but what it defines. -/
theorem Deepest.of_not_defines (nothing : ∀ unit, ¬Defines d here path.toPath unit) :
    Deepest d here path path none := by
  refine .undefined fun place below on => ?_
  rw [on.eq_of_length_le below.length_le]
  exact nothing

/-- A search finds what the first directory defines, or ends there at the root of the project, or goes on. -/
theorem nearest_cons {rootPath : FilePath} {rest : List FilePath}
    (h : nearest d here rootPath (directory :: rest) = .ok found) :
    (∃ unit, Defines d here directory unit ∧ found = some unit) ∨
      (∀ unit, ¬Defines d here directory unit) ∧
        (directory = rootPath ∧ found = none ∨
          directory ≠ rootPath ∧ nearest d here rootPath rest = .ok found) := by
  unfold nearest at h
  split at h
  · exact absurd h nofun
  · rename_i unit looked
    exact .inl ⟨unit, defines_of_definitionIn looked, (Except.ok.inj h).symm⟩
  · rename_i looked
    refine .inr ⟨not_defines_of_definitionIn looked, ?_⟩
    split at h
    · exact .inl ⟨‹_›, (Except.ok.inj h).symm⟩
    · exact .inr ⟨‹_›, h⟩

/-- Where a search on the way up from a path ends: at the root of the project, or at that of the tree if the
path does not lie in the project. -/
def floorOf (root path : Location) : Location := if root <+: path then root else []

theorem floorOf_above (root path : Location) : floorOf root path <+: path := by
  unfold floorOf
  split
  · assumption
  · exact List.nil_prefix

/-- Every other path ends its search where the directory it lies in does. -/
theorem floorOf_concat (other : path ++ [name] ≠ root) : floorOf root (path ++ [name]) = floorOf root path := by
  have inside : root <+: path ++ [name] ↔ root <+: path := by
    rw [List.prefix_concat_iff]
    exact or_iff_right fun same => other same.symm
  unfold floorOf
  simp only [inside]

/-- **A search on the way up finds the deepest definition**, from where it ends on. -/
theorem deepest_of_nearest (h : nearest d here root.toPath (path.toPath :: path.toPath.parents) = .ok found) :
    Deepest d here (floorOf root path) path found := by
  -- Going up takes the last part off the path.
  induction path using List.reverseRec with
  | nil =>
    have floor : floorOf root [] = [] := List.prefix_nil.mp (floorOf_above root [])
    rw [floor]
    rcases nearest_cons h with ⟨unit, defines, rfl⟩ | ⟨nothing, ⟨-, rfl⟩ | ⟨-, h⟩⟩
    · exact .of_defines List.prefix_rfl defines
    · exact .of_not_defines nothing
    · obtain rfl := Except.ok.inj h
      exact .of_not_defines nothing
  | append_singleton above name ih =>
    rcases nearest_cons h with ⟨unit, defines, rfl⟩ | ⟨nothing, ⟨same, rfl⟩ | ⟨other, h⟩⟩
    · exact .of_defines (floorOf_above root _) defines
    · obtain rfl : above ++ [name] = root := congrArg FilePath.parts same
      have floor : floorOf (above ++ [name]) (above ++ [name]) = above ++ [name] := if_pos List.prefix_rfl
      rw [floor]
      exact .of_not_defines nothing
    · rw [parents_concat] at h
      rw [floorOf_concat fun same => other (congrArg Location.toPath same)]
      exact (ih h).step nothing

/-! ## Look-ups without memory -/

/-- A look-up goes astray: the path is the root of the project itself, which is no directory and has a name
with an ending, so that the look-up starts above it. -/
def Astray (d : Disk) (here root path : Location) : Prop :=
  path = root ∧ d.isDirectory here root.toPath = .ok false ∧ root.toPath.suffix ≠ ""

/-- From where it starts, a look-up finds the deepest definition from the root of the project on, unless it
goes astray, and then from the root of the tree on. -/
theorem deepest_of_startOf {start : FilePath} (below : root <+: path)
    (begun : startOf d here path.toPath = .ok start)
    (h : nearest d here root.toPath (start :: start.parents) = .ok found) :
    (¬Astray d here root path → Deepest d here root path found) ∧
      (Astray d here root path → Deepest d here [] path found) := by
  obtain ⟨there, known, begins⟩ := map_eq_ok.mp begun
  split at begins
  · -- It starts at the path.
    rename_i starts
    subst begins
    have deepest := deepest_of_nearest h
    rw [floorOf, if_pos below] at deepest
    refine ⟨fun _ => deepest, ?_⟩
    rintro ⟨rfl, noDirectory, ending⟩
    obtain rfl := Except.ok.inj (known.symm.trans noDirectory)
    exact absurd (of_decide_eq_true starts) ending
  · -- It starts in the directory that the path lies in.
    rename_i starts
    rw [Bool.or_eq_true, not_or, Bool.not_eq_true, decide_eq_true_eq] at starts
    obtain ⟨rfl, ending⟩ := starts
    cases path using List.reverseRec with
    | nil => exact absurd rfl ending
    | append_singleton above name =>
    have directory : start = Location.toPath above :=
      begins.symm.trans (congrArg Location.toPath List.dropLast_concat)
    subst directory
    have nothing (unit : Value) : ¬Defines d here (Location.toPath (above ++ [name])) unit := fun defines =>
      absurd (known.symm.trans defines.there) nofun
    have deepest := (deepest_of_nearest h).step nothing
    constructor
    · intro straight
      have inside : root <+: above := by
        rcases List.prefix_concat_iff.mp below with rfl | inside
        · exact absurd ⟨rfl, known, ending⟩ straight
        · exact inside
      rw [floorOf, if_pos inside] at deepest
      exact deepest
    · rintro ⟨rfl, -, -⟩
      have outside : ¬above ++ [name] <+: above := fun inside => by
        have shorter := inside.length_le
        rw [List.length_append, List.length_singleton] at shorter
        omega
      rw [floorOf, if_neg outside] at deepest
      exact deepest

/-- The unit a path belongs to, counted from a floor on: what is defined on the way down to it, or else a unit
of the project, which depends on whether the way from the root to the path leads through a directory of
editor code. -/
def Belongs (d : Disk) (here root floor path : Location) (unit : Value) : Prop :=
  ∃ found, Deepest d here floor path found ∧ unit = found.getD
    (.text (if editorFolder ∈ path.drop root.length then editorUnit else defaultUnit))

/-- **A path belongs to one unit.** -/
theorem Belongs.unique (h : Belongs d here root floor path unit) (h' : Belongs d here root floor path other) :
    unit = other := by
  obtain ⟨found, deepest, rfl⟩ := h
  obtain ⟨found', deepest', rfl⟩ := h'
  rw [deepest.unique deepest']

/-- The unit of a path in the project that no definition covers. -/
theorem fallback_below (below : root <+: path) :
    fallback root.toPath path.toPath =
      if editorFolder ∈ path.drop root.length then editorUnit else defaultUnit := by
  unfold fallback isEditorPath
  have inside : (decide (root.toPath.anchor = path.toPath.anchor) &&
      root.toPath.parts.isPrefixOf path.toPath.parts) = true :=
    (Bool.and_eq_true _ _).mpr ⟨rfl, List.isPrefixOf_iff_prefix.mpr below⟩
  rw [if_pos inside]
  simp only [List.contains_iff_mem]
  rfl

/-- **A path belongs to the unit that a look-up has**, from the root of the project on or, if the look-up goes
astray, from the root of the tree on. -/
theorem belongs_of_unitOf (below : root <+: (root.toPath.join p).locate here)
    (h : unitOf d here root.toPath p = .ok unit) :
    (¬Astray d here root ((root.toPath.join p).locate here) →
        Belongs d here root root ((root.toPath.join p).locate here) unit) ∧
      (Astray d here root ((root.toPath.join p).locate here) →
        Belongs d here root [] ((root.toPath.join p).locate here) unit) := by
  unfold unitOf resolvePath at h
  split at h
  · exact absurd h nofun
  rename_i placed named
  split at named
  · exact absurd named nofun
  obtain rfl := Except.ok.inj named
  split at h
  · exact absurd h nofun
  rename_i start begun
  obtain ⟨found, searched, rfl⟩ := map_eq_ok.mp h
  obtain ⟨straight, astray⟩ := deepest_of_startOf below begun searched
  rw [FilePath.resolve, fallback_below below]
  exact ⟨fun h => ⟨found, straight h, rfl⟩, fun h => ⟨found, astray h, rfl⟩⟩

/-! ## Look-ups after others -/

/-- What is remembered after some look-ups. -/
def afterwards (d : Disk) (here : Location) (m : UnitMemory) (asked : List FilePath) : UnitMemory :=
  asked.foldl (fun m p => (resolve d here m p).2.2) m

/-- Look-ups leave a memory faithful, and the root of the project where it is. -/
theorem afterwards_faithful (faithful : m.Faithful d here) (asked : List FilePath) :
    (afterwards d here m asked).Faithful d here ∧ (afterwards d here m asked).root = m.root := by
  induction asked generalizing m with
  | nil => exact ⟨faithful, rfl⟩
  | cons p rest ih =>
    obtain ⟨-, later, root⟩ := resolve_faithful faithful p
    obtain ⟨faithful, same⟩ := ih later
    exact ⟨faithful, same.trans root⟩

/-- A new memory is empty, and the root of the project is placed in the tree. -/
theorem create_eq_ok {projectRoot : Value} (h : create here projectRoot = .ok m) :
    ∃ root : Location, m = ⟨root.toPath, []⟩ := by
  obtain ⟨path, -, h⟩ := bind_eq_ok.mp h
  obtain ⟨placed, resolved, h⟩ := bind_eq_ok.mp h
  obtain rfl := Except.ok.inj h
  unfold resolvePath at resolved
  split at resolved
  · exact absurd resolved nofun
  · obtain rfl := Except.ok.inj resolved
    exact ⟨path.locate here, rfl⟩

/-- **The nearest definition decides.** A look-up of a path in the project, after any others, has the unit of
the deepest directory on the way from the root of the project to the path that defines one, and else a unit
of the project. Only if it goes astray, directories above the root decide too. -/
theorem belongs_of_resolve {projectRoot : Value} (made : create here projectRoot = .ok m)
    (asked : List FilePath) (below : m.root.parts <+: (m.root.join p).locate here)
    (h : (resolve d here (afterwards d here m asked) p).1 = .ok unit) :
    (¬Astray d here m.root.parts ((m.root.join p).locate here) →
        Belongs d here m.root.parts m.root.parts ((m.root.join p).locate here) unit) ∧
      (Astray d here m.root.parts ((m.root.join p).locate here) →
        Belongs d here m.root.parts [] ((m.root.join p).locate here) unit) := by
  obtain ⟨root, rfl⟩ := create_eq_ok made
  obtain ⟨faithful, same⟩ := afterwards_faithful (faithful_nil d here root.toPath) asked
  rw [(resolve_faithful faithful p).1, same] at h
  exact belongs_of_unitOf below h

/-- A directory with one definition file, which names a unit, defines that unit. -/
theorem definitionIn_of_names (there : d.isDirectory here directory = .ok true)
    (listed : definitionNames d here directory = [name])
    (names : Names d here (directory.join ⟨.here, [name]⟩) unit) :
    (definitionIn d here directory).1 = .ok (some unit) := by
  have used : (firstUnit d here directory (definitionNames d here directory)).1 = .ok (some unit) := by
    rw [listed, firstUnit, readDefinition_eq_some_iff.mpr names]
  unfold definitionIn
  rw [there]
  exact used

/-- A definition that names the game. -/
def gameText : String := "\x7b\"name\": \"Game\"\x7d"

/-- A definition that names something around it. -/
def outerText : String := "\x7b\"name\": \"Outer\"\x7d"

/-- A disk with a project and its definition, and another definition outside. -/
def nestedDisk : Disk := ⟨[(["Outer.asmdef"], .file outerText.toUTF8), (["Project"], .directory),
  (["Project", "Game.asmdef"], .file gameText.toUTF8)]⟩

theorem definitionIn_project :
    (definitionIn nestedDisk [] (Location.toPath ["Project"])).1 = .ok (some (.text "Game")) := by
  have names : nestedDisk.names ["Project"] = ["Game.asmdef"] := List.mergeSort_of_pairwise (by decide)
  have listed : definitionNames nestedDisk [] (Location.toPath ["Project"]) = ["Game.asmdef"] :=
    congrArg (List.filter isDefinitionName) names
  have read : Json.read gameText = .ok (.object [("name", .text "Game")]) := by cbv
  exact definitionIn_of_names rfl listed ⟨gameText, _, rfl, read, rfl, rfl⟩

theorem definitionIn_outside :
    (definitionIn nestedDisk [] (Location.toPath [])).1 = .ok (some (.text "Outer")) := by
  have names : nestedDisk.names [] = ["Outer.asmdef", "Project"] := List.mergeSort_of_pairwise (by decide)
  have listed : definitionNames nestedDisk [] (Location.toPath []) = ["Outer.asmdef"] :=
    congrArg (List.filter isDefinitionName) names
  have read : Json.read outerText = .ok (.object [("name", .text "Outer")]) := by cbv
  exact definitionIn_of_names rfl listed ⟨outerText, _, rfl, read, rfl, rfl⟩

/-- A script in the project, after a look-up of its root. -/
theorem belongs_of_resolve_game :
    create [] (.text "Project") = .ok ⟨Location.toPath ["Project"], []⟩ ∧
      (resolve nestedDisk [] (afterwards nestedDisk [] ⟨Location.toPath ["Project"], []⟩ [.ofText "."])
          (.ofText "Scripts/A.cs")).1 = .ok (.text "Game") ∧
      Belongs nestedDisk [] ["Project"] ["Project"] ["Project", "Scripts", "A.cs"] (.text "Game") := by
  have made : create [] (.text "Project") = .ok ⟨Location.toPath ["Project"], []⟩ := rfl
  have found : (resolve nestedDisk [] (afterwards nestedDisk [] ⟨Location.toPath ["Project"], []⟩ [.ofText "."])
      (.ofText "Scripts/A.cs")).1 = .ok (.text "Game") := by
    obtain ⟨faithful, root⟩ :=
      afterwards_faithful (faithful_nil nestedDisk [] (Location.toPath ["Project"])) [.ofText "."]
    have scripts : (definitionIn nestedDisk [] (Location.toPath ["Project", "Scripts"])).1 = .ok none := rfl
    rw [(resolve_faithful faithful _).1, root]
    show (nearest nestedDisk [] _
      [Location.toPath ["Project", "Scripts"], Location.toPath ["Project"], _]).map _ = _
    rw [nearest, scripts]
    dsimp only
    rw [if_neg (by decide), nearest, definitionIn_project]
    rfl
  have below : ["Project"] <+: ((Location.toPath ["Project"]).join (.ofText "Scripts/A.cs")).locate [] := by
    decide
  exact ⟨made, found, (belongs_of_resolve made _ below found).1 fun astray => absurd astray.1 (by decide)⟩

/-- **A definition outside the project decides**, if the root of the project is looked up before it is there
and has the name of a file. -/
theorem astray_outer :
    create [] (.text "Game.v1") = .ok ⟨Location.toPath ["Game.v1"], []⟩ ∧
      (resolve nestedDisk [] ⟨Location.toPath ["Game.v1"], []⟩ (.ofText ".")).1 = .ok (.text "Outer") ∧
      ¬Belongs nestedDisk [] ["Game.v1"] ["Game.v1"] ["Game.v1"] (.text "Outer") := by
  refine ⟨rfl, ?_, fun outer => ?_⟩
  · rw [(resolve_faithful (faithful_nil nestedDisk [] _) _).1]
    show (nearest nestedDisk [] _ [Location.toPath []]).map _ = _
    rw [nearest, definitionIn_outside]
    rfl
  · have nothing (unit : Value) : ¬Defines nestedDisk [] (Location.toPath ["Game.v1"]) unit := fun defines =>
      absurd defines.there nofun
    have default : Belongs nestedDisk [] ["Game.v1"] ["Game.v1"] ["Game.v1"] (.text defaultUnit) :=
      ⟨none, .of_not_defines nothing, rfl⟩
    exact absurd (Value.text.inj (outer.unique default)) (by decide)

end UnitMemory

end StaticAccessors
