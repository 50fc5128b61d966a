import StaticAccessors.Proofs.Kinds
import StaticAccessors.Proofs.Script.FileName
import StaticAccessors.Proofs.Workspace.Footprint

/-!
# Confinement

Whatever a collection is called, its script is one file in the output directory, and a run touches no other.
The name of the class has been freed of all that could lead elsewhere, so the path of the script is that of
the directory with one part more; and a run keeps to the way of the directory and the place of the file.

## Contents
- `Confinement`, and `confinement_generate`.
-/

namespace StaticAccessors

open Generation

/-- How far a run for a collection reaches. -/
structure Confinement (here : Location) (s : Settings) (c : Collection) (before after : Disk) : Prop where
  /-- there is a script for every name and every output directory -/
  exists_path : c.name.isText = true → (s .outputDirectory).isText = true →
    ∃ output, Script.path s c = .ok output
  /-- it is a file of the output directory -/
  placed : ∀ output, Script.path s c = .ok output → ∃ directory name,
    pathOf (s .outputDirectory) = .ok directory ∧ IsFileName name ∧ output = directory.beside name
  /-- no other file changes, and directories are only made on the way from the root of the project to the
  output directory -/
  confined : ∀ directory name root, pathOf (s .outputDirectory) = .ok directory →
    Script.path s c = .ok (directory.beside name) → pathOf (s .projectRoot) = .ok root →
    before.Confined after here (root.join directory) ((root.join directory).locate here ++ [name])
  /-- without a script or a root of the project nothing changes -/
  untouched : (∀ output, Script.path s c ≠ .ok output) ∨ (∀ root, pathOf (s .projectRoot) ≠ .ok root) →
    after = before

variable {here : Location} {s : Settings} {c : Collection}

/-- **A run is confined to one file of the output directory**, for any registry, units and disk, if suffix and
extension hold no slash. -/
theorem confinement_generate (suffix : '/' ∉ (s .fileSuffix).display.toList)
    (extension : '/' ∉ (s .fileExtension).display.toList) (here : Location) (r : Registry)
    (units : Workspace.UnitSource) (c : Collection) (w : Workspace) :
    Confinement here s c w.disk (Workspace.generate here r ⟨units, .disk, none⟩ s c w).2.disk := by
  have path {output : FilePath} := @Script.path_eq_ok_iff s c suffix extension output
  refine ⟨?exists_path, ?placed, ?confined, ?untouched⟩
  case exists_path =>
    intro name directory
    obtain ⟨names, derived⟩ := Vocabulary.keywords.exists_derive name
    obtain ⟨text, read⟩ := Value.exists_of_isText directory
    have read : pathOf (s .outputDirectory) = .ok (.ofText text) := by
      rw [read]
      rfl
    have named : c.className = .ok names.upper := Outcome.map_eq_ok.mpr ⟨names, derived, rfl⟩
    exact ⟨_, path.mpr ⟨_, _, read, named, rfl⟩⟩
  case placed =>
    intro output placed
    obtain ⟨directory, className, read, named, rfl⟩ := path.mp placed
    exact ⟨directory, _, read, Script.isFileName_fileOf named suffix extension, rfl⟩
  case confined =>
    intro directory name root read placed rooted
    obtain ⟨directory', className, read', named, same⟩ := path.mp placed
    obtain rfl := Except.ok.inj (read.symm.trans read')
    -- The path is that of the directory with one part more, so it tells the name.
    obtain rfl : name = Script.fileOf s className := by
      have parts := congrArg FilePath.parts same
      exact List.singleton_inj.mp (List.append_cancel_left parts)
    have noDots := (Script.isFileName_fileOf named suffix extension).noDots
    rcases Workspace.footprint_generate here r units s c w with kept | ⟨root', prepared, rooted', disk, left⟩
    · rw [kept]
      exact .refl w.disk
    · obtain rfl := Except.ok.inj (rooted.symm.trans rooted')
      have confined := left.confined placed
      rwa [disk, Workspace.Collaborators.host_here, FilePath.parent_beside, FilePath.join_beside,
        FilePath.locate_beside _ _ _ noDots] at confined
  case untouched =>
    intro missing
    rcases Workspace.footprint_generate here r units s c w with kept | ⟨root, prepared, rooted, disk, left⟩
    · exact kept
    rcases missing with noPath | noRoot
    · exact (left.eq_of_no_path noPath).trans disk
    · exact absurd rooted (noRoot root)

/-- A collection whose name would lead out of the output directory, were it not for its identifier. -/
def Collection.climbing : Collection := { fruits with name := .text "../../etc/passwd" }

/-- It is confined to the output directory as any other. -/
theorem confinement_generate_climbing :
    '/' ∉ (Settings.defaults .fileSuffix).display.toList ∧
      '/' ∉ (Settings.defaults .fileExtension).display.toList ∧
      Confinement [] .defaults .climbing (Workspace.ofDisk .empty).disk
        (Workspace.generate [] .builtin ⟨.definitions, .disk, none⟩ .defaults .climbing
          (.ofDisk .empty)).2.disk := by
  have suffix : '/' ∉ (Settings.defaults .fileSuffix).display.toList := by decide
  have extension : '/' ∉ (Settings.defaults .fileExtension).display.toList := by decide
  exact ⟨suffix, extension, confinement_generate suffix extension [] .builtin .definitions .climbing
    (Workspace.ofDisk .empty)⟩

end StaticAccessors
