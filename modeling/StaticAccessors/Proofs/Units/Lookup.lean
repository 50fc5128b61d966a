import StaticAccessors.Proofs.Disk.Reading
import StaticAccessors.Units.Definitions

/-!
# Looking up units

What is remembered of a directory is what the disk says about it, as long as the disk stays as it is
(`Faithful`). So a look-up has the result that it has without any memory (`resolve_faithful`), which is
`unitOf`: the unit of the nearest directory that defines one.

A definition file that cannot be read is passed over, mostly. Bytes that are no text, and texts beyond the
limits of the reader, are not: they stop the look-up of every path below (`unitOf_eq_error_iff`).

## Contents
- `nearest`, `unitOf`: look-ups without memory.
- `Faithful`, and `resolve_faithful`.
- `Obstacle`, and `readDefinition_eq_error_iff`: the files that stop a look-up.
- `Names`, and `readDefinition_eq_some_iff`: the files that are used.
- `Meets`, and `nearest_eq_error_iff`; `Stopped`, and `unitOf_eq_error_iff`.
- `Clear`: the disks without obstacles.
-/

namespace StaticAccessors.UnitMemory

open Outcome
open Disk (readBytes_error readText_eq_error_iff)

variable {d : Disk} {here : Location} {m : UnitMemory} {root directory file p : FilePath} {fault : Fault}

/-! ## Without memory -/

/-- The unit of the first of some directories that defines one, looked at anew. -/
def nearest (d : Disk) (here : Location) (root : FilePath) : List FilePath → Except Fault (Option Value)
  | [] => .ok none
  | directory :: rest =>
    match (definitionIn d here directory).1 with
    | .error fault => .error fault
    | .ok (some unit) => .ok (some unit)
    | .ok none => if directory = root then .ok none else nearest d here root rest

/-- The unit of a path, looked up anew. -/
def unitOf (d : Disk) (here : Location) (root p : FilePath) : Except Fault Value :=
  match resolvePath here (root.join p) with
  | .error fault => .error fault
  | .ok path =>
    match startOf d here path with
    | .error fault => .error fault
    | .ok start =>
      (nearest d here root (start :: start.parents)).map fun unit => unit.getD (.text (fallback root path))

/-! ## Memory -/

/-- What is remembered of a directory is what the disk says about it. -/
def Faithful (d : Disk) (here : Location) (m : UnitMemory) : Prop :=
  ∀ directory unit, remembered? m.known directory = some unit → (definitionIn d here directory).1 = .ok unit

/-- Nothing is remembered at first. -/
theorem faithful_nil (d : Disk) (here : Location) (root : FilePath) : Faithful d here ⟨root, []⟩ := nofun

/-- A directory is looked at as if for the first time, and remembered rightly. -/
theorem unitIn_faithful (faithful : m.Faithful d here) (directory : FilePath) :
    (unitIn d here m directory).1 = (definitionIn d here directory).1 ∧
      (unitIn d here m directory).2.2.Faithful d here ∧ (unitIn d here m directory).2.2.root = m.root := by
  unfold unitIn
  cases known : remembered? m.known directory with
  | some unit => exact ⟨(faithful directory unit known).symm, faithful, rfl⟩
  | none =>
    dsimp only
    rcases looked : definitionIn d here directory with ⟨fault | unit, records⟩
    · exact ⟨rfl, faithful, rfl⟩
    · refine ⟨rfl, fun other found remembered => ?_, rfl⟩
      -- This directory is remembered with what was just found, any other as before.
      unfold remembered? at remembered
      rw [List.lookup_cons] at remembered
      by_cases same : other = directory
      · subst same
        rw [beq_self_eq_true] at remembered
        rw [looked]
        exact congrArg Except.ok (Option.some.inj remembered)
      · rw [beq_false_of_ne same] at remembered
        exact faithful other found remembered

/-- **A search finds what it finds without memory.** -/
theorem search_faithful (faithful : m.Faithful d here) (directories : List FilePath) :
    (search d here m directories).1 = nearest d here m.root directories ∧
      (search d here m directories).2.2.Faithful d here ∧ (search d here m directories).2.2.root = m.root := by
  induction directories generalizing m with
  | nil => exact ⟨rfl, faithful, rfl⟩
  | cons directory rest ih =>
    obtain ⟨found, later, root⟩ := unitIn_faithful faithful directory
    unfold search nearest
    rw [← found]
    rcases looked : unitIn d here m directory with ⟨fault | unit | unit, records, after⟩
    · rw [looked] at later root
      exact ⟨rfl, later, root⟩
    · rw [looked] at later root
      dsimp only at later root ⊢
      rw [root]
      split
      · exact ⟨rfl, later, root⟩
      · -- Nothing is defined here, and what was found out is kept for the directories above.
        have above := ih later
        rw [root] at above
        exact above
    · rw [looked] at later root
      exact ⟨rfl, later, root⟩

/-- **A look-up has the result that it has without memory**, and remembers rightly. -/
theorem resolve_faithful (faithful : m.Faithful d here) (p : FilePath) :
    (resolve d here m p).1 = unitOf d here m.root p ∧
      (resolve d here m p).2.2.Faithful d here ∧ (resolve d here m p).2.2.root = m.root := by
  unfold resolve unitOf
  cases resolvePath here (m.root.join p) with
  | error fault => exact ⟨rfl, faithful, rfl⟩
  | ok path =>
  dsimp only
  cases startOf d here path with
  | error fault => exact ⟨rfl, faithful, rfl⟩
  | ok start =>
  dsimp only
  obtain ⟨found, later, root⟩ := search_faithful faithful (start :: start.parents)
  rw [← found]
  rcases searched : search d here m (start :: start.parents) with ⟨fault | unit | unit, records, after⟩
  all_goals
    rw [searched] at later root
    dsimp only at later root ⊢
  · exact ⟨rfl, later, root⟩
  · rw [root]
    exact ⟨rfl, later, rfl⟩
  · exact ⟨rfl, later, root⟩

/-! ## Definition files that stop a look-up -/

/-- What makes a definition file stop a look-up with a fault. -/
inductive Obstacle (d : Disk) (here : Location) (file : FilePath) : Fault → Prop
  /-- No file can have its name. -/
  | nul : file.hasNul = true → Obstacle d here file .badValue
  /-- Its bytes are no text. -/
  | undecodable {content} : d.readBytes here file = .ok content → String.fromUTF8? content = none →
      Obstacle d here file .undecodable
  /-- Its text is beyond a limit of the reader. -/
  | excess {text refusal fault} : d.readText here file = .ok text → Json.read text = .error refusal →
      Fault.ofExcess? refusal = some fault → Obstacle d here file fault

/-- A fault of an obstacle is none that becomes a report. -/
theorem Obstacle.passed_on (h : Obstacle d here file fault) :
    fault.isGeneration = false ∧ fault.isDisk = false := by
  cases h
  case nul | undecodable => exact ⟨rfl, rfl⟩
  case excess =>
    rename Fault.ofExcess? _ = some fault => excess
    unfold Fault.ofExcess? at excess
    split at excess
    · rw [← Option.some.inj excess]
      exact ⟨rfl, rfl⟩
    · rw [← Option.some.inj excess]
      exact ⟨rfl, rfl⟩
    · exact absurd excess nofun

/-- **A definition file stops a look-up** exactly if it is an obstacle; any other is read or passed over. -/
theorem readDefinition_eq_error_iff :
    readDefinition d here file = .error fault ↔ Obstacle d here file fault := by
  unfold readDefinition
  constructor
  · intro h
    split at h
    · exact absurd h nofun
    · -- It cannot be read, and the disk did not refuse it.
      rename_i cause kept unread
      obtain rfl := Except.error.inj h
      rcases readText_eq_error_iff.mp unread with refused | ⟨content, bytes, noText, rfl⟩
      · rcases readBytes_error refused with ⟨nul, rfl⟩ | ⟨-, refusal, rfl⟩
        · exact .nul nul
        · exact absurd rfl (kept refusal)
      · exact .undecodable bytes noText
    · rename_i text read
      split at h
      · exact absurd h nofun
      · rename_i refusal malformed
        split at h
        · rename_i excess
          obtain rfl := Except.error.inj h
          exact .excess read malformed excess
        · exact absurd h nofun
  · rintro (nul | ⟨bytes, noText⟩ | ⟨read, malformed, excess⟩)
    · have unread : d.readText here file = .error .badValue := by
        refine readText_eq_error_iff.mpr (.inl ?_)
        unfold Disk.readBytes
        rw [nul]
        rfl
      rw [unread]
    · rw [readText_eq_error_iff.mpr (.inr ⟨_, bytes, noText, rfl⟩)]
    · rw [read]
      dsimp only
      rw [malformed]
      dsimp only
      rw [excess]

/-! ## Definition files that name a unit -/

/-- A definition file names a unit: its text is an object with a name that is not empty. -/
def Names (d : Disk) (here : Location) (file : FilePath) (unit : Value) : Prop :=
  ∃ text document, d.readText here file = .ok text ∧ Json.read text = .ok document ∧
    document.get? "name" = some unit ∧ unit.truthy = true

/-- A file names one unit. -/
theorem Names.unique {unit other : Value} (h : Names d here file unit) (h' : Names d here file other) :
    unit = other := by
  obtain ⟨text, document, read, parsed, named, -⟩ := h
  obtain ⟨text', document', read', parsed', named', -⟩ := h'
  obtain rfl := Except.ok.inj (read.symm.trans read')
  obtain rfl := Except.ok.inj (parsed.symm.trans parsed')
  exact Option.some.inj (named.symm.trans named')

/-- A document names a unit if it has a name that is not empty. -/
theorem unitNamed_eq_some_iff {document unit : Value} :
    unitNamed document = some unit ↔ document.get? "name" = some unit ∧ unit.truthy = true := by
  unfold unitNamed
  cases document.get? "name" with
  | none => exact ⟨nofun, nofun⟩
  | some name =>
    dsimp only
    constructor
    · intro h
      split at h
      · rename_i truthy
        obtain rfl := Option.some.inj h
        exact ⟨rfl, truthy⟩
      · exact absurd h nofun
    · rintro ⟨same, truthy⟩
      obtain rfl := Option.some.inj same
      exact if_pos truthy

/-- **A definition file is used** exactly if it names a unit. -/
theorem readDefinition_eq_some_iff {unit : Value} :
    readDefinition d here file = .ok (.ok (some unit)) ↔ Names d here file unit := by
  unfold readDefinition Names
  constructor
  · intro h
    split at h
    · exact absurd (Except.ok.inj h) nofun
    · exact absurd h nofun
    · rename_i text read
      split at h
      · rename_i document parsed
        have named := unitNamed_eq_some_iff.mp (Except.ok.inj (Except.ok.inj h))
        exact ⟨text, document, read, parsed, named⟩
      · split at h
        · exact absurd h nofun
        · exact absurd (Except.ok.inj h) nofun
  · rintro ⟨text, document, read, parsed, named⟩
    rw [read]
    dsimp only
    rw [parsed]
    dsimp only
    rw [unitNamed_eq_some_iff.mpr named]

/-! ## Directories -/

/-- The definition files of a directory, in the order in which they are looked at. -/
def definitionNames (d : Disk) (here : Location) (directory : FilePath) : List String :=
  (d.names (directory.locate here)).filter isDefinitionName

/-- A definition file stops the look-up in its directory, names its unit, or is passed over. -/
theorem firstUnit_cons (d : Disk) (here : Location) (directory : FilePath) (name : String) :
    (∃ fault, Obstacle d here (directory.join ⟨.here, [name]⟩) fault ∧
        ∀ rest, (firstUnit d here directory (name :: rest)).1 = .error fault) ∨
      (∃ unit, Names d here (directory.join ⟨.here, [name]⟩) unit ∧
        ∀ rest, (firstUnit d here directory (name :: rest)).1 = .ok (some unit)) ∨
      (∀ unit, ¬Names d here (directory.join ⟨.here, [name]⟩) unit) ∧
        ∀ rest, (firstUnit d here directory (name :: rest)).1 = (firstUnit d here directory rest).1 := by
  rcases read : readDefinition d here (directory.join ⟨.here, [name]⟩) with fault | reason | unit | unit
  · refine .inl ⟨fault, readDefinition_eq_error_iff.mp read, fun rest => ?_⟩
    unfold firstUnit
    dsimp only
    rw [read]
  · refine .inr (.inr ⟨fun unit names => ?_, fun rest => ?_⟩)
    · exact absurd (read.symm.trans (readDefinition_eq_some_iff.mpr names)) nofun
    · rw [firstUnit, read]
  · refine .inr (.inr ⟨fun unit names => ?_, fun rest => ?_⟩)
    · exact absurd (read.symm.trans (readDefinition_eq_some_iff.mpr names)) nofun
    · rw [firstUnit, read]
  · refine .inr (.inl ⟨unit, readDefinition_eq_some_iff.mp read, fun rest => ?_⟩)
    rw [firstUnit, read]

/-- A look-up in a directory stops at the first obstacle, if no file in front of it names a unit. -/
theorem firstUnit_eq_error_iff {names : List String} :
    (firstUnit d here directory names).1 = .error fault ↔ ∃ front name back, names = front ++ name :: back ∧
      (firstUnit d here directory front).1 = .ok none ∧
      Obstacle d here (directory.join ⟨.here, [name]⟩) fault := by
  constructor
  · intro h
    induction names with
    | nil => exact absurd h nofun
    | cons name rest ih =>
      rcases firstUnit_cons d here directory name with
        ⟨cause, obstacle, stops⟩ | ⟨unit, -, names⟩ | ⟨-, passes⟩
      · obtain rfl := Except.error.inj ((stops rest).symm.trans h)
        exact ⟨[], name, rest, rfl, rfl, obstacle⟩
      · exact absurd ((names rest).symm.trans h) nofun
      · obtain ⟨front, other, back, rfl, clear, obstacle⟩ := ih ((passes rest).symm.trans h)
        exact ⟨name :: front, other, back, rfl, (passes front).trans clear, obstacle⟩
  · rintro ⟨front, name, back, rfl, clear, obstacle⟩
    -- The files in front name no unit, so each of them is passed over.
    induction front with
    | nil =>
      rw [List.nil_append, firstUnit, readDefinition_eq_error_iff.mpr obstacle]
    | cons other front ih =>
      rcases firstUnit_cons d here directory other with
        ⟨cause, -, stops⟩ | ⟨unit, -, names⟩ | ⟨-, passes⟩
      · exact absurd ((stops front).symm.trans clear) nofun
      · exact absurd ((names front).symm.trans clear) nofun
      · exact (passes _).trans (ih ((passes front).symm.trans clear))

/-- A look-up in a directory stops at an obstacle, or where it cannot be told whether it is one. -/
theorem definitionIn_eq_error_iff :
    (definitionIn d here directory).1 = .error fault ↔ d.isDirectory here directory = .error fault ∨
      d.isDirectory here directory = .ok true ∧
        (firstUnit d here directory (definitionNames d here directory)).1 = .error fault := by
  unfold definitionIn
  rcases d.isDirectory here directory with cause | there
  · constructor
    · exact fun h => .inl (congrArg Except.error (Except.error.inj h))
    · rintro (h | ⟨h, -⟩)
      · exact congrArg Except.error (Except.error.inj h)
      · exact absurd h nofun
  · cases there with
    | false => exact ⟨fun h => absurd h nofun, fun h => h.elim nofun fun ⟨h, _⟩ => absurd h nofun⟩
    | true => exact ⟨fun h => .inr ⟨rfl, h⟩, fun h => h.elim nofun fun ⟨_, h⟩ => h⟩

/-! ## Paths -/

/-- A look-up in some directories, one after another, comes to a definition file. -/
inductive Meets (d : Disk) (here : Location) (root file : FilePath) : List FilePath → Prop
  /-- It is in the first directory, and no file in front of it names a unit. -/
  | first {directory rest front name back} : d.isDirectory here directory = .ok true →
      definitionNames d here directory = front ++ name :: back →
      (firstUnit d here directory front).1 = .ok none → file = directory.join ⟨.here, [name]⟩ →
      Meets d here root file (directory :: rest)
  /-- The first directory defines nothing, and is not the root of the project. -/
  | later {directory rest} : (definitionIn d here directory).1 = .ok none → directory ≠ root →
      Meets d here root file rest → Meets d here root file (directory :: rest)

/-- A look-up comes to nothing but the definition files of directories. -/
theorem Meets.exists_mem {directories : List FilePath} (h : Meets d here root file directories) :
    ∃ directory name, name ∈ definitionNames d here directory ∧ file = directory.join ⟨.here, [name]⟩ := by
  induction h with
  | first _ names _ same =>
    refine ⟨_, _, ?_, same⟩
    rw [names]
    exact List.mem_append_right _ List.mem_cons_self
  | later _ _ _ ih => exact ih

/-- **A look-up in some directories fails**, if not for the disk, exactly if it comes to an obstacle. -/
theorem nearest_eq_error_iff (other : fault.isDisk = false) {directories : List FilePath} :
    nearest d here root directories = .error fault ↔
      ∃ file, Meets d here root file directories ∧ Obstacle d here file fault := by
  constructor
  · intro h
    induction directories with
    | nil => exact absurd h nofun
    | cons directory rest ih =>
      unfold nearest at h
      split at h
      · rename_i cause looked
        obtain rfl := Except.error.inj h
        rcases definitionIn_eq_error_iff.mp looked with unknown | ⟨there, stops⟩
        · rw [Disk.isDisk_of_isDirectory_error unknown] at other
          exact absurd other nofun
        · obtain ⟨front, name, back, names, clear, obstacle⟩ := firstUnit_eq_error_iff.mp stops
          exact ⟨_, .first there names clear rfl, obstacle⟩
      · exact absurd h nofun
      · -- The directory defines nothing, and the search goes on above it.
        rename_i looked
        split at h
        · exact absurd h nofun
        · rename_i below
          obtain ⟨file, meets, obstacle⟩ := ih h
          exact ⟨file, .later looked below meets, obstacle⟩
  · rintro ⟨file, meets, obstacle⟩
    induction meets with
    | first there names clear same =>
      subst same
      have stops := firstUnit_eq_error_iff.mpr ⟨_, _, _, names, clear, obstacle⟩
      unfold nearest
      rw [definitionIn_eq_error_iff.mpr (.inr ⟨there, stops⟩)]
    | later looked below _ ih =>
      unfold nearest
      rw [looked]
      exact (if_neg below).trans ih

/-- What stops the look-up of a path with a fault that is none of the disk. -/
inductive Stopped (d : Disk) (here : Location) (root p : FilePath) : Fault → Prop
  /-- No path can have its name. -/
  | nul : (root.join p).hasNul = true → Stopped d here root p .badValue
  /-- On the way up to the root of the project there is an obstacle, and nothing in front of it. -/
  | obstacle {start file fault} : (root.join p).hasNul = false →
      startOf d here ((root.join p).resolve here) = .ok start →
      Meets d here root file (start :: start.parents) → Obstacle d here file fault →
      Stopped d here root p fault

/-- What stops a look-up is a fault that does not become a report. -/
theorem Stopped.passed_on (h : Stopped d here root p fault) :
    fault.isGeneration = false ∧ fault.isDisk = false := by
  cases h
  case nul => exact ⟨rfl, rfl⟩
  case obstacle obstacle => exact obstacle.passed_on

/-- A disk on which no definition file stops a look-up. -/
def Clear (d : Disk) (here : Location) : Prop :=
  ∀ directory name fault, name ∈ definitionNames d here directory →
    ¬Obstacle d here (directory.join ⟨.here, [name]⟩) fault

/-- On such a disk only a path without a name is stopped. -/
theorem Clear.not_stopped (h : Clear d here) (rootNamed : root.hasNul = false) (named : p.hasNul = false) :
    ¬Stopped d here root p fault := by
  rintro (nul | ⟨-, -, meets, obstacle⟩)
  · rw [FilePath.hasNul_join rootNamed named] at nul
    exact absurd nul nofun
  · obtain ⟨directory, name, listed, rfl⟩ := meets.exists_mem
    exact h directory name _ listed obstacle

/-- **The look-up of a path fails**, if not for the disk, exactly if it is stopped. -/
theorem unitOf_eq_error_iff (other : fault.isDisk = false) :
    unitOf d here root p = .error fault ↔ Stopped d here root p fault := by
  unfold unitOf resolvePath
  constructor
  · intro h
    cases nul : (root.join p).hasNul with
    | true =>
      rw [nul] at h
      obtain rfl := Except.error.inj h
      exact .nul nul
    | false =>
    rw [nul, if_neg Bool.false_ne_true] at h
    dsimp only at h
    split at h
    · rename_i cause unknown
      obtain rfl := Except.error.inj h
      rw [Disk.isDisk_of_isDirectory_error (map_eq_error.mp unknown)] at other
      exact absurd other nofun
    · rename_i start begun
      obtain ⟨file, meets, obstacle⟩ := (nearest_eq_error_iff other).mp (map_eq_error.mp h)
      exact .obstacle nul begun meets obstacle
  · rintro (nul | ⟨nul, begun, meets, obstacle⟩)
    · rw [nul]
      rfl
    · rw [nul, if_neg Bool.false_ne_true]
      dsimp only
      rw [begun]
      exact map_eq_error.mpr ((nearest_eq_error_iff other).mpr ⟨_, meets, obstacle⟩)

end StaticAccessors.UnitMemory
