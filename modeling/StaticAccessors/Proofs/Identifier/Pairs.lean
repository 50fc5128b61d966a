import StaticAccessors.Proofs.Identifier.Characters
import StaticAccessors.Proofs.Identifier.Memory

/-!
# The two identifiers of a name

With the keywords of C# for reserved words, the identifier of an accessor never takes a suffix: all keywords
start with a small letter, and it does not (`upper_keywords`). That of a field may take one, and with it is no
keyword any more. An underscore that is put in front of it makes it longer than the other, so the two differ in
any vocabulary (`upper_ne_lower`). All of this holds of the pair that a sanitizer answers with, whatever it was
asked before (`derive_keywords`).

## Contents
- `Vocabulary.upper_ne_lower`.
- `Vocabulary.startsSmall_of_keyword`, and `Vocabulary.upper_keywords`.
- `Sanitizer.derive_keywords`.
-/

namespace StaticAccessors

open Identifier

namespace Vocabulary

/-- **The two identifiers of a name differ**, also where its first letter has no case. -/
theorem upper_ne_lower (v : Vocabulary) (name : String) : (v.pairOf name).upper ≠ (v.pairOf name).lower := by
  unfold pairOf
  dsimp only
  split
  · rename_i same
    rw [← same]
    intro h
    have lengths := congrArg String.length h
    rw [String.length_append, show "_".length = 1 from rfl] at lengths
    omega
  · rename_i differ
    exact Ne.symm differ

/-- Keywords start with small letters of the basic alphabet. -/
theorem startsSmall_of_keyword {word : String} (h : word ∈ csharpKeywords) : startsSmall word = true := by
  have small : ∀ keyword ∈ csharpKeywords, startsSmall keyword = true := by decide +kernel
  exact small word h

/-- A body in upper case is no keyword. -/
theorem firstToUpper_not_mem (cs : List Char) : String.ofList (firstToUpper (sanitize cs)) ∉ csharpKeywords := by
  intro listed
  obtain ⟨-, start⟩ := firstToUpper_sanitize cs
  have small := startsSmall_of_keyword listed
  unfold startsSmall at small
  rw [String.toList_ofList, start] at small
  exact absurd small Bool.false_ne_true

/-- **The identifier of an accessor takes no suffix.** -/
theorem upper_keywords (name : String) :
    (keywords.pairOf name).upper = String.ofList (firstToUpper (sanitize name.toList)) :=
  if_neg (firstToUpper_not_mem name.toList)

end Vocabulary

/-- **The pair of a name**, whatever was asked for before: neither identifier is a keyword, that of the accessor is
the body of the name in upper case as it is, and the two differ. -/
theorem Sanitizer.derive_keywords (requests : List Request) (name : String) :
    ∃ pair, (((fresh .keywords).answers requests).2.derive (.text name)).1 = .ok pair ∧
      pair.upper ∉ csharpKeywords ∧ pair.lower ∉ csharpKeywords ∧
      pair.upper = String.ofList (firstToUpper (sanitize name.toList)) ∧ pair.upper ≠ pair.lower := by
  obtain ⟨-, faithful, vocabulary⟩ := answers_faithful (faithful_fresh .keywords) requests
  refine ⟨Vocabulary.keywords.pairOf name, ?_, ?_, Vocabulary.lower_not_mem name, Vocabulary.upper_keywords name,
    Vocabulary.keywords.upper_ne_lower name⟩
  · rw [(derive_faithful faithful (.text name)).1, vocabulary]
    rfl
  · rw [Vocabulary.upper_keywords]
    exact Vocabulary.firstToUpper_not_mem name.toList

end StaticAccessors
