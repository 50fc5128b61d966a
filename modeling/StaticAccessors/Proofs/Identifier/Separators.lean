import StaticAccessors.Proofs.Identifier.Memory
import StaticAccessors.Proofs.Identifier.Words

/-!
# Names that differ in their separators

A name is read for its words, and what stands between them only separates. Names with the same words therefore
have one body and are answered alike by all sanitizers, whatever those were asked before (`alike_of_words`). This
is so for names that differ in how much, or what, separates their words, and for names with separators in front
of their first word or behind the last one.

## Contents
- `Sanitizer.Alike`: names that are answered alike.
- `alike_of_words`.
- `words_alone`.
-/

namespace StaticAccessors

open Text Identifier

/-- Names with one body have one pair. -/
theorem Vocabulary.pairOf_of_sanitize (v : Vocabulary) {name other : String}
    (h : sanitize name.toList = sanitize other.toList) : v.pairOf name = v.pairOf other := by
  unfold pairOf
  rw [h]

/-- The body of a name is read off its words. -/
theorem Identifier.sanitize_of_words {cs ds : List Char} (h : words cs = words ds) : sanitize cs = sanitize ds := by
  unfold sanitize joinWords
  rw [h]

namespace Sanitizer

/-- Names for which all sanitizers with one vocabulary have the same pair, whatever each was asked before. -/
def Alike (name other : String) : Prop :=
  ∀ (v : Vocabulary) (requests others : List Request), ∃ pair,
    (((fresh v).answers requests).2.derive (.text name)).1 = .ok pair ∧
    (((fresh v).answers others).2.derive (.text other)).1 = .ok pair

/-- A text has the pair that its vocabulary derives. -/
theorem derive_text (v : Vocabulary) (requests : List Request) (name : String) :
    (((fresh v).answers requests).2.derive (.text name)).1 = .ok (v.pairOf name) := by
  obtain ⟨-, faithful, vocabulary⟩ := answers_faithful (faithful_fresh v) requests
  rw [(derive_faithful faithful (.text name)).1, vocabulary]
  rfl

/-- **Names with the same words are answered alike.** -/
theorem alike_of_words {name other : String} (h : words name.toList = words other.toList) : Alike name other := by
  intro v requests others
  have same : v.pairOf name = v.pairOf other := v.pairOf_of_sanitize (sanitize_of_words h)
  refine ⟨v.pairOf name, derive_text v requests name, ?_⟩
  rw [same]
  exact derive_text v others other

/-- **A name is read for its words alone.** Whatever separates two parts of a name, its words are those of the one
and then those of the other. Names with the same words have one body and one pair; so separators around a name do
not matter, and one run of them is as good as another. And the words are all that the name holds besides, in
order. -/
theorem words_alone :
    (∀ a s b : String, s ≠ "" → Separating s.toList →
      words (a ++ s ++ b).toList = words a.toList ++ words b.toList) ∧
    (∀ name other : String, words name.toList = words other.toList →
      sanitize name.toList = sanitize other.toList ∧ Alike name other) ∧
    (∀ s a t : String, Separating s.toList → Separating t.toList →
      words (s ++ a ++ t).toList = words a.toList ∧ Alike (s ++ a ++ t) a) ∧
    (∀ a s t b : String, s ≠ "" → Separating s.toList → t ≠ "" → Separating t.toList →
      Alike (a ++ s ++ b) (a ++ t ++ b)) ∧
    (∀ name : String, (words name.toList).flatten = name.toList.filter fun c => c = '_' || isAlphanumeric c) := by
  have cut (a s b : String) (some_ : s ≠ "") (h : Separating s.toList) :
      words (a ++ s ++ b).toList = words a.toList ++ words b.toList := by
    rw [String.toList_append, String.toList_append]
    exact words_append_separators (fun none_ => some_ (String.toList_eq_nil_iff.mp none_)) h _ _
  have around (s a t : String) (hs : Separating s.toList) (ht : Separating t.toList) :
      words (s ++ a ++ t).toList = words a.toList := by
    rw [String.toList_append, String.toList_append]
    exact words_between hs ht _
  refine ⟨cut, fun name other h => ⟨sanitize_of_words h, alike_of_words h⟩, fun s a t hs ht => ?_,
    fun a s t b hs ss ht st => ?_, fun name => ?_⟩
  · have same := around s a t hs ht
    exact ⟨same, alike_of_words same⟩
  · apply alike_of_words
    rw [cut a s b hs ss, cut a t b ht st]
  · rw [flatten_words]
    refine List.filter_congr fun c _ => ?_
    rw [Bool.eq_iff_iff, decide_eq_true_iff, wordClass_ne_separator_iff]
    simp

/-- **A dash and a blank** are as good as a blank of no width, and signs around a name do not matter. -/
theorem words_alone_golden :
    Separating "- ".toList ∧ Separating "\u200b".toList ∧ Separating "¡".toList ∧ Separating "!".toList ∧
      words ("½ golden" ++ "- " ++ "_apple").toList =
        ["½".toList, "golden".toList, "_".toList, "apple".toList] ∧
      Alike ("½ golden" ++ "- " ++ "_apple") ("½ golden" ++ "\u200b" ++ "_apple") ∧
      Alike ("¡" ++ "½ golden" ++ "!") "½ golden" ∧
      words "¡½ golden!".toList = words "½, golden".toList ∧ Alike "¡½ golden!" "½, golden" := by
  obtain ⟨cut, same, around, exchange, -⟩ := words_alone
  have dash : Separating "- ".toList := by decide +kernel
  have hidden : Separating "\u200b".toList := by decide +kernel
  have front : Separating "¡".toList := by decide +kernel
  have behind : Separating "!".toList := by decide +kernel
  have parts : words "¡½ golden!".toList = words "½, golden".toList := by decide +kernel
  refine ⟨dash, hidden, front, behind, ?_, exchange _ _ _ _ (by decide) dash (by decide) hidden,
    (around _ _ _ front behind).2, parts, (same _ _ parts).2⟩
  rw [cut _ _ _ (by decide) dash]
  decide +kernel

end Sanitizer

end StaticAccessors
