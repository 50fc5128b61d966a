import StaticAccessors.Proofs.Identifier.Characters
import StaticAccessors.Proofs.Strategy.Owners
import StaticAccessors.Proofs.Text.Cutting
import StaticAccessors.ProjectPath
import StaticAccessors.Script

/-!
# The file of a script

The file of a script is named by its class, and the name of a class is made of word characters, whatever
the name of the collection is. So it holds no slash and does not start with a dot. If the suffix and the
extension that follow hold no slash either, the file has a name of one part (`IsFileName`), and lies
directly in the output directory.

## Contents
- `IsFileName`, and `IsFileName.ofText_eq`.
- `Collection.className_chars`: the characters of the name of a class.
- `FilePath.beside`: a file of a directory.
- `Script.fileOf`, and `Script.isFileName_fileOf`, `Script.path_eq_ok_iff`.
-/

namespace StaticAccessors

open Text Outcome

/-! ## Single parts -/

namespace Text

/-- What holds no separator is not cut. -/
theorem splitChar_of_not_mem {sep : Char} {cs : List Char} (h : sep ∉ cs) : splitChar sep cs = [cs] := by
  induction cs with
  | nil => rfl
  | cons c rest ih =>
    rw [List.mem_cons, not_or] at h
    rw [splitChar, if_neg (Ne.symm h.1), ih h.2]

end Text

/-- A name of one part that is no step up the tree. -/
structure IsFileName (name : String) : Prop where
  slashless : '/' ∉ name.toList
  some_ : name ≠ ""
  noDot : name ≠ "."
  noDots : name ≠ ".."

/-- **Such a name is read as one part.** -/
theorem IsFileName.ofText_eq {name : String} (h : IsFileName name) :
    FilePath.ofText name = ⟨.here, [name]⟩ := by
  have anchor : FilePath.anchorOf name.toList = .here := by
    unfold FilePath.anchorOf
    cases cs : name.toList with
    | nil => rfl
    | cons c rest =>
      have other : c ≠ '/' := by
        rintro rfl
        exact h.slashless (by rw [cs]; exact List.mem_cons_self)
      rw [List.takeWhile_cons_of_neg (by simpa using other)]
      rfl
  have kept : decide (name.toList ≠ []) && decide (name.toList ≠ ['.']) := by
    rw [Bool.and_eq_true, decide_eq_true_eq, decide_eq_true_eq]
    exact ⟨fun none => h.some_ (String.toList_eq_nil_iff.mp none),
      fun dot => h.noDot (String.toList_inj.mp dot)⟩
  -- A text is cut at its slashes, of which there is none, and what is empty or a dot is left out.
  unfold FilePath.ofText
  rw [anchor, splitChar_of_not_mem h.slashless, List.filter_cons, if_pos kept]
  show FilePath.mk .here [String.ofList name.toList] = _
  rw [String.ofList_toList]

/-! ## Names of classes -/

/-- An identifier is never empty. -/
theorem Vocabulary.upper_ne_nil (v : Vocabulary) (name : String) : (v.pairOf name).upper.toList ≠ [] := by
  obtain ⟨word, -⟩ := Identifier.firstToUpper_sanitize name.toList
  show (v.avoid (String.ofList (Identifier.firstToUpper (Identifier.sanitize name.toList)))).toList ≠ []
  unfold avoid
  split
  · rw [String.toList_append, String.toList_ofList]
    exact List.append_ne_nil_of_left_ne_nil word _
  · rw [String.toList_ofList]
    exact word

/-- **The name of a class** is made of word characters, one at least. -/
theorem Collection.className_chars {c : Collection} {className : String} (h : c.className = .ok className) :
    className.toList ≠ [] ∧ ∀ ch ∈ className.toList, IsWordChar ch := by
  obtain ⟨names, derived, rfl⟩ := map_eq_ok.mp h
  obtain ⟨t, rfl⟩ := Vocabulary.exists_pairOf derived
  exact ⟨Vocabulary.keywords.upper_ne_nil t, Vocabulary.isWordChar_upper t⟩

/-- What starts with a word character and holds no slash is a name of one part. -/
theorem isFileName_append {word rest : String} (some_ : word.toList ≠ [])
    (chars : ∀ ch ∈ word.toList, IsWordChar ch) (slashless : '/' ∉ rest.toList) :
    IsFileName (word ++ rest) := by
  -- It is no text that starts with a lower character, or with none.
  have starts (cs : List Char) (low : ∀ ch, cs.head? = some ch → ch.toNat < 0x30) :
      (word ++ rest).toList ≠ cs := by
    rintro rfl
    rw [String.toList_append] at low
    obtain ⟨ch, more, start⟩ := List.exists_cons_of_ne_nil some_
    rw [start] at low chars
    have above : 0x30 ≤ ch.toNat := chars ch List.mem_cons_self
    have below := low ch rfl
    omega
  refine ⟨?_, ?_, ?_, ?_⟩
  · rw [String.toList_append, List.mem_append, not_or]
    exact ⟨not_mem_of_isWordChar chars (by decide), slashless⟩
  · rintro none
    exact starts [] nofun (by rw [none]; rfl)
  · rintro dot
    exact starts ['.'] (by rintro ch ⟨⟩; decide) (by rw [dot]; rfl)
  · rintro dots
    exact starts ['.', '.'] (by rintro ch ⟨⟩; decide) (by rw [dots]; rfl)

/-! ## Paths -/

/-- The file of some name in a directory. -/
def FilePath.beside (directory : FilePath) (name : String) : FilePath :=
  ⟨directory.anchor, directory.parts ++ [name]⟩

namespace FilePath

variable (root directory : FilePath) (name : String)

@[simp] theorem parent_beside : (directory.beside name).parent = directory := by
  unfold beside parent
  rw [List.dropLast_concat]

/-- A file seen from some root is beside what its directory is seen as. -/
theorem join_beside : root.join (directory.beside name) = (root.join directory).beside name := by
  unfold join
  cases absolute : directory.isAbsolute with
  | true => rw [if_pos (show (directory.beside name).isAbsolute = true from absolute), if_pos rfl]
  | false =>
    rw [if_neg (by rw [show (directory.beside name).isAbsolute = false from absolute]; exact nofun),
      if_neg Bool.false_ne_true]
    unfold beside
    rw [List.append_assoc]

/-- A file lies in its directory. -/
theorem locate_beside (here : Location) (noDots : name ≠ "..") :
    (directory.beside name).locate here = directory.locate here ++ [name] := by
  show Location.follow _ (directory.parts ++ [name]) = Location.follow _ directory.parts ++ [name]
  unfold Location.follow
  rw [List.foldl_append]
  exact if_neg noDots

/-- A file can be named if its directory and its name can. -/
theorem hasNul_beside :
    (directory.beside name).hasNul = (directory.hasNul || name.toList.contains '\x00') := by
  unfold hasNul beside
  rw [List.any_append, List.any_cons, List.any_nil, Bool.or_false]

end FilePath

namespace Script

variable {s : Settings} {c : Collection} {className : String}

/-- The name of the file of a class. -/
def fileOf (s : Settings) (className : String) : String :=
  className ++ (s .fileSuffix).display ++ (s .fileExtension).display

/-- **The file of a class has a name of one part** if suffix and extension hold no slash. -/
theorem isFileName_fileOf (named : c.className = .ok className)
    (suffix : '/' ∉ (s .fileSuffix).display.toList)
    (extension : '/' ∉ (s .fileExtension).display.toList) : IsFileName (fileOf s className) := by
  obtain ⟨some_, chars⟩ := Collection.className_chars named
  unfold fileOf
  rw [String.append_assoc]
  refine isFileName_append some_ chars ?_
  rw [String.toList_append, List.mem_append, not_or]
  exact ⟨suffix, extension⟩

/-- **A script is written directly in the output directory**, if suffix and extension hold no slash. -/
theorem path_eq_ok_iff (suffix : '/' ∉ (s .fileSuffix).display.toList)
    (extension : '/' ∉ (s .fileExtension).display.toList) {output : FilePath} :
    path s c = .ok output ↔ ∃ directory className, pathOf (s .outputDirectory) = .ok directory ∧
      c.className = .ok className ∧ output = directory.beside (fileOf s className) := by
  unfold path fileName
  rw [bind_eq_ok]
  constructor
  · rintro ⟨name, composed, h⟩
    obtain ⟨className, named, rfl⟩ := map_eq_ok.mp composed
    unfold Settings.outputPath at h
    split at h
    · rename_i directory read
      refine ⟨directory, className, by unfold pathOf; rw [read], named, ?_⟩
      rw [← Except.ok.inj h]
      exact congrArg directory.join (isFileName_fileOf named suffix extension).ofText_eq
    · exact absurd h nofun
  · rintro ⟨directory, className, read, named, rfl⟩
    refine ⟨className ++ (s .fileSuffix).display, map_eq_ok.mpr ⟨className, named, rfl⟩, ?_⟩
    unfold pathOf at read
    split at read
    · rename_i directory' read'
      obtain rfl := Except.ok.inj read
      unfold Settings.outputPath
      rw [read']
      exact congrArg (Except.ok ∘ directory'.join) (isFileName_fileOf named suffix extension).ofText_eq
    · exact absurd read nofun

end Script

end StaticAccessors
