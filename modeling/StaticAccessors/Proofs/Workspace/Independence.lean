import StaticAccessors.Proofs.Workspace.Footprint
import StaticAccessors.Proofs.Workspace.Regeneration

/-!
# Independent runs

A run that writes a file lays its script on the disk: it settles every place of the disk (`Disk.Laid`), and
the text that it writes depends neither on what the disk holds nor on who knows the units. So two runs that
write files at different places can be made in either order (`generate_comm`).

## Contents
- `scriptText`: what is written.
- `Writes.stores`, `Generates.stores` and `Generates.laid`: what a run comes to that writes it.
- `generate_comm`, and the small collection written to two directories.
-/

namespace StaticAccessors

namespace Generation

variable {r : Registry} {s : Settings} {c : Collection}

/-- The text of a script, which depends neither on the surroundings nor on what they hold. -/
def scriptText (r : Registry) (s : Settings) (c : Collection) : String :=
  match r.lookup (.style c.style) with
  | .ok strategy => (Script.print strategy s c).text
  | .error _ => ""

variable {host : Host Workspace} {root file : FilePath} {w : Workspace}

theorem Ready.script_text (k : Ready host r s c w) : k.script.text = scriptText r s c := by
  unfold scriptText
  rw [k.lookup]
  rfl

/-- A run that writes a file stores its script. -/
theorem Writes.stores (isLocal : host.Local root) (h : Writes host r s c w file) :
    w.disk.store host.here (root.join file.parent) (root.join file) (scriptText r s c).toUTF8 =
      .ok (run host r s c w).2.disk := by
  obtain ⟨k, -, stores⟩ := h.exists_store isLocal
  rw [k.script_text] at stores
  exact stores

end Generation

namespace Workspace

open Generation

section

variable {here : Location} {r : Registry} {units : UnitSource} {s : Settings} {c : Collection}
  {w : Workspace} {root file : FilePath}

/-- The surroundings after a run on the local disk. -/
def generated (here : Location) (r : Registry) (units : UnitSource) (s : Settings) (c : Collection)
    (w : Workspace) : Workspace :=
  (generate here r ⟨units, .disk, none⟩ s c w).2

/-- A run on the local disk ends with the report that a file was written. -/
def Generates (here : Location) (r : Registry) (units : UnitSource) (s : Settings) (c : Collection)
    (w : Workspace) (file : FilePath) : Prop :=
  ∃ warnings metadata,
    (generate here r ⟨units, .disk, none⟩ s c w).1 = .ok (.written file warnings metadata)

/-- **A run in a workspace that writes a file** stores its script under the root of the project. -/
theorem Generates.stores (h : Generates here r units s c w file) (rooted : pathOf (s .projectRoot) = .ok root) :
    w.disk.store here (root.join file.parent) (root.join file) (scriptText r s c).toUTF8 =
      .ok (generated here r units s c w).disk := by
  obtain ⟨warnings, metadata, written⟩ := h
  rcases generate_cases here r units s c w with ⟨⟨fault, failed⟩, -⟩ | ⟨root', prepared, rooted', kept, runs⟩
  · exact absurd (failed.symm.trans written) nofun
  obtain rfl := Except.ok.inj (rooted.symm.trans rooted')
  have stores := Writes.stores (Collaborators.isLocal units here root) ⟨warnings, metadata, runs ▸ written⟩
  rw [kept, Collaborators.host_here] at stores
  unfold generated
  rw [runs]
  exact stores

theorem Generates.laid (h : Generates here r units s c w file) (rooted : pathOf (s .projectRoot) = .ok root) :
    w.disk.Laid (generated here r units s c w).disk here (root.join file.parent) (root.join file)
      (scriptText r s c).toUTF8 :=
  Disk.laid_store (h.stores rooted)

end

/-- **Independent runs commute.** Two runs that write files at different places, whatever units they ask and
whichever comes first, leave the same files and directories. -/
theorem generate_comm {here : Location} {r : Registry} {units₁ units₂ : UnitSource} {s₁ s₂ : Settings}
    {c₁ c₂ : Collection} {w : Workspace} {root₁ root₂ file₁ file₂ : FilePath}
    (rooted₁ : pathOf (s₁ .projectRoot) = .ok root₁) (rooted₂ : pathOf (s₂ .projectRoot) = .ok root₂)
    (apart : (root₁.join file₁).locate here ≠ (root₂.join file₂).locate here)
    (first : Generates here r units₁ s₁ c₁ w file₁)
    (second : Generates here r units₂ s₂ c₂ (generated here r units₁ s₁ c₁ w) file₂)
    (first' : Generates here r units₂ s₂ c₂ w file₂)
    (second' : Generates here r units₁ s₁ c₁ (generated here r units₂ s₂ c₂ w) file₁) (place : Location) :
    (generated here r units₂ s₂ c₂ (generated here r units₁ s₁ c₁ w)).disk.get? place =
      (generated here r units₁ s₁ c₁ (generated here r units₂ s₂ c₂ w)).disk.get? place :=
  (first.laid rooted₁).comm (second.laid rooted₂) (first'.laid rooted₂) (second'.laid rooted₁) apart place

/-! ## The small collection in two directories -/

/-- Settings under which the small collection is written to another directory. -/
def elsewhere : Settings where
  value
    | .outputDirectory => .text "Assets/Other"
    | setting => setting.default
  custom := .given (.object [])

/-- Where the small collection is written when nothing is set. -/
def usualFile : FilePath := ⟨.here, ["Assets", "Generated", "Scripts", "FruitsStatic.cs"]⟩

/-- Where it is written with the other settings. -/
def otherFile : FilePath := ⟨.here, ["Assets", "Other", "FruitsStatic.cs"]⟩

theorem path_usual : Script.path .defaults .fruits = .ok usualFile := by
  unfold Script.path Script.fileName
  rw [Collection.className_fruits]
  rfl

theorem path_other : Script.path elsewhere .fruits = .ok otherFile := by
  unfold Script.path Script.fileName
  rw [Collection.className_fruits]
  rfl

/-- The surroundings before any run. -/
def untouched : Workspace := .ofDisk .empty

/-- The place where the program runs is the root of every path that is not rooted itself. -/
theorem here_join (p : FilePath) : (⟨.here, []⟩ : FilePath).join p = p := by
  obtain ⟨anchor, parts⟩ := p
  cases anchor <;> rfl

/-- The surroundings after the small collection was written. -/
def withFruits (s : Settings) (w : Workspace) : Workspace := generated [] .builtin (.fixed oneUnit) s .fruits w

/-- The small collection is written where its disk takes it. -/
theorem generates_fruits {s : Settings} {file : FilePath} {w : Workspace} (typed : s.WellTyped)
    (size : s .indentSize = .int 4) (rooted : pathOf (s .projectRoot) = .ok ⟨.here, []⟩)
    (path : Script.path s .fruits = .ok file) (takes : w.disk.Takes [] file.parent file) :
    Generates [] .builtin (.fixed oneUnit) s .fruits w file := by
  obtain ⟨warnings, metadata, written⟩ :=
    writes_fruits typed size rooted path (by rwa [here_join, here_join])
  refine ⟨warnings, metadata, ?_⟩
  rw [show generate [] .builtin ⟨.fixed oneUnit, .disk, none⟩ s .fruits w = _ from generate_fixed .fruits rooted]
  exact written

/-- On an empty disk it is stored in its file. -/
theorem exists_stores_fruits {s : Settings} {file : FilePath} (rooted : pathOf (s .projectRoot) = .ok ⟨.here, []⟩)
    (h : Generates [] .builtin (.fixed oneUnit) s .fruits untouched file) :
    ∃ content, Disk.empty.store [] file.parent file content =
      .ok (withFruits s untouched).disk := by
  have stores := h.stores rooted
  rw [here_join, here_join] at stores
  exact ⟨_, stores⟩

theorem takes_usual_empty : Disk.empty.Takes [] usualFile.parent usualFile := ⟨_, _, rfl, rfl⟩

theorem takes_other_empty : Disk.empty.Takes [] otherFile.parent otherFile := ⟨_, _, rfl, rfl⟩

/-- A disk that holds the small collection where it is written when nothing is set takes it elsewhere. -/
theorem takes_other {content : ByteArray} {d : Disk}
    (stores : Disk.empty.store [] usualFile.parent usualFile content = .ok d) :
    d.Takes [] otherFile.parent otherFile := by
  obtain rfl := Except.ok.inj stores
  exact ⟨_, _, rfl, rfl⟩

/-- A disk that holds it elsewhere takes it where it is written when nothing is set. -/
theorem takes_usual {content : ByteArray} {d : Disk}
    (stores : Disk.empty.store [] otherFile.parent otherFile content = .ok d) :
    d.Takes [] usualFile.parent usualFile := by
  obtain rfl := Except.ok.inj stores
  exact ⟨_, _, rfl, rfl⟩

/-- In either order, both files stand on the disk in the end. -/
theorem generate_comm_fruits :
    Generates [] .builtin (.fixed oneUnit) .defaults .fruits untouched usualFile ∧
      Generates [] .builtin (.fixed oneUnit) elsewhere .fruits (withFruits .defaults untouched) otherFile ∧
      Generates [] .builtin (.fixed oneUnit) elsewhere .fruits untouched otherFile ∧
      Generates [] .builtin (.fixed oneUnit) .defaults .fruits (withFruits elsewhere untouched) usualFile ∧
      ∀ place, (withFruits elsewhere (withFruits .defaults untouched)).disk.get? place =
        (withFruits .defaults (withFruits elsewhere untouched)).disk.get? place := by
  have typed : elsewhere.WellTyped := by
    intro setting
    cases setting <;> rfl
  have rooted : pathOf (Settings.defaults .projectRoot) = .ok ⟨.here, []⟩ := rfl
  have rooted' : pathOf (elsewhere .projectRoot) = .ok ⟨.here, []⟩ := rfl
  have first : Generates [] .builtin (.fixed oneUnit) .defaults .fruits untouched usualFile :=
    generates_fruits Settings.defaults_wellTyped rfl rooted path_usual takes_usual_empty
  have first' : Generates [] .builtin (.fixed oneUnit) elsewhere .fruits untouched otherFile :=
    generates_fruits typed rfl rooted' path_other takes_other_empty
  obtain ⟨_, stores⟩ := exists_stores_fruits rooted first
  obtain ⟨_, stores'⟩ := exists_stores_fruits rooted' first'
  have second : Generates [] .builtin (.fixed oneUnit) elsewhere .fruits (withFruits .defaults untouched) otherFile :=
    generates_fruits typed rfl rooted' path_other (takes_other stores)
  have second' : Generates [] .builtin (.fixed oneUnit) .defaults .fruits (withFruits elsewhere untouched) usualFile :=
    generates_fruits Settings.defaults_wellTyped rfl rooted path_usual (takes_usual stores')
  have apart : ((⟨.here, []⟩ : FilePath).join usualFile).locate [] ≠
      ((⟨.here, []⟩ : FilePath).join otherFile).locate [] := by
    rw [here_join, here_join]
    decide
  exact ⟨first, second, first', second',
    fun place => generate_comm rooted rooted' apart first second first' second' place⟩

end Workspace

end StaticAccessors
