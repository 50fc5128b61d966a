import Mathlib.Data.List.DropRight
import StaticAccessors.Proofs.Manifest.Grammar

/-!
# Dotted names of types

A text that is not blank is always read as a type, and no name that is read from it holds a dot. The full name
of the type puts the namespace and the name together again, but only if there is a namespace: a dot that stands
first in a name, and is its only one, is lost (`Rootless`). Behind such a dot there can be white space, or
nothing at all, and then the full name is not read as the same type again (`Detached`). A dot that stands last
leaves a type without a name (`Nameless`).

Each of these three shapes is what one of the properties fails for, and it fails for no other text
(`parse_text_exact`).

## Contents
- `Text.Trimmed`, and `trim_eq_self_iff`: texts that trimming leaves alone.
- `fullName_join`: the full name of what was cut at a dot.
- `Nameless`, `Rootless`, `Detached`.
- `TypeRef.parse_text_exact`, and `TypeRef.nameless_accepted`.
-/

namespace StaticAccessors

open Manifest

/-! ## White space at the ends -/

namespace Text

variable {cs : List Char} {s : String}

/-- A text that neither begins nor ends with white space. -/
structure Trimmed (cs : List Char) : Prop where
  head : ∀ c ∈ cs.head?, isBlank c = false
  last : ∀ c ∈ cs.getLast?, isBlank c = false

theorem toList_trim (s : String) : (trim s).toList = trimRight (trimLeft s.toList) := by
  unfold trim
  exact String.toList_ofList

theorem trimLeft_eq_self_iff : trimLeft cs = cs ↔ ∀ c ∈ cs.head?, isBlank c = false := by
  unfold trimLeft
  cases cs with
  | nil => simp
  | cons c rest => simp [List.dropWhile_eq_self_iff]

theorem trimRight_eq_self_iff : trimRight cs = cs ↔ ∀ c ∈ cs.getLast?, isBlank c = false := by
  have dropped : trimRight cs = cs.rdropWhile isBlank := rfl
  rw [dropped, List.rdropWhile_eq_self_iff]
  constructor
  · intro h c last
    obtain ⟨full, rfl⟩ := List.mem_getLast?_eq_getLast last
    exact (Bool.not_eq_true _).mp (h full)
  · intro h full
    rw [Bool.not_eq_true]
    exact h _ (List.getLast?_eq_some_getLast full)

/-- Trimming leaves a text that is trimmed, as it begins as it did before its end was dropped. -/
theorem trimmed_trim (s : String) : Trimmed (trim s).toList := by
  rw [toList_trim]
  have front : trimLeft (trimLeft s.toList) = trimLeft s.toList := List.dropWhile_idempotent _ _
  have back : trimRight (trimRight (trimLeft s.toList)) = trimRight (trimLeft s.toList) :=
    List.rdropWhile_idempotent _ _
  refine ⟨fun c first => ?_, trimRight_eq_self_iff.mp back⟩
  obtain ⟨dropped, whole⟩ : trimRight (trimLeft s.toList) <+: trimLeft s.toList := List.rdropWhile_prefix isBlank _
  apply trimLeft_eq_self_iff.mp front c
  rw [← whole, List.head?_append, Option.mem_def.mp first]
  rfl

theorem trim_eq_self_iff : trim s = s ↔ Trimmed s.toList := by
  constructor
  · intro same
    have trimmed := trimmed_trim s
    rwa [same] at trimmed
  · rintro ⟨head, last⟩
    unfold trim
    rw [trimLeft_eq_self_iff.mpr head, trimRight_eq_self_iff.mpr last, String.ofList_toList]

/-- Trimming leaves something of every text that is not blank. -/
theorem trim_ne_empty (some_ : isBlankText s = false) : (trim s).toList ≠ [] := by
  rw [toList_trim]
  intro none_
  have blank : ∀ c ∈ trimLeft s.toList, isBlank c = true := List.rdropWhile_eq_nil_iff.mp none_
  cases front : trimLeft s.toList with
  | nil =>
    have all : isBlankText s = true := List.all_eq_true.mpr (List.dropWhile_eq_nil_iff.mp front)
    exact absurd (some_.symm.trans all) Bool.false_ne_true
  | cons c rest =>
    -- What trimming in front leaves does not begin with white space.
    have again : trimLeft (c :: rest) = c :: rest := by
      rw [← front]
      exact List.dropWhile_idempotent _ _
    rw [front] at blank
    have plain := trimLeft_eq_self_iff.mp again c rfl
    exact absurd ((blank c List.mem_cons_self).symm.trans plain) nofun

/-- Trimming adds nothing. -/
theorem mem_of_mem_trim {c : Char} (h : c ∈ (trim s).toList) : c ∈ s.toList := by
  rw [toList_trim] at h
  have front : c ∈ trimLeft s.toList := (List.rdropWhile_prefix isBlank _).subset h
  exact (List.dropWhile_sublist isBlank).subset front

/-- A text that begins with something else than white space is not blank. -/
theorem isBlankText_of_head {c : Char} (first : s.toList.head? = some c) (plain : isBlank c = false) :
    isBlankText s = false := by
  unfold isBlankText
  rw [List.all_eq_false]
  exact ⟨c, List.mem_of_head? first, by simp [plain]⟩

/-- What is left of a text that is not blank is not blank. -/
theorem isBlankText_trim (some_ : isBlankText s = false) : isBlankText (trim s) = false := by
  obtain ⟨c, rest, here⟩ := List.exists_cons_of_ne_nil (trim_ne_empty some_)
  have first : (trim s).toList.head? = some c := by rw [here]; rfl
  exact isBlankText_of_head first ((trimmed_trim s).head c first)

end Text

namespace TypeRef

open Text

variable {name : String}

/-! ## Full names -/

/-- A namespace that is there stands in front of the name. -/
theorem fullName_join {before : List Char} (some_ : before ≠ []) (after : List Char) :
    (TypeRef.mk (.text (String.ofList after)) (.text (String.ofList before))).fullName =
      .text (String.ofList (before ++ '.' :: after)) := by
  have given : (Value.text (String.ofList before)).truthy = true := by
    show decide (String.ofList before ≠ "") = true
    rw [decide_eq_true_eq, Ne, String.ofList_eq_empty_iff]
    exact some_
  unfold fullName
  dsimp only
  rw [if_pos given, Value.display_text, Value.display_text, ← String.ofList_append]
  congr 1
  exact String.toList_inj.mp (by simp)

/-! ## Three shapes of names -/

/-- A text with nothing behind its last dot. -/
def Nameless (s : String) : Prop := s.toList.getLast? = some '.'

/-- A text with nothing in front of its last dot, which is its only one. -/
def Rootless (s : String) : Prop := ∃ after, s.toList = '.' :: after ∧ '.' ∉ after

/-- A text in which such a dot is followed by white space, or by nothing. -/
def Detached (s : String) : Prop :=
  ∃ after, s.toList = '.' :: after ∧ '.' ∉ after ∧ ∀ c ∈ after.head?, isBlank c = true

section

variable {before after : List Char}

/-- What stands behind the last dot is nothing exactly if the dot stands last. -/
theorem nameless_append_iff (before : List Char) (last : '.' ∉ after) :
    Nameless (String.ofList (before ++ '.' :: after)) ↔ after = [] := by
  unfold Nameless
  rw [String.toList_ofList, List.getLast?_append_cons]
  constructor
  · intro ends
    cases after with
    | nil => rfl
    | cons c rest =>
      rw [List.getLast?_cons_cons] at ends
      exact absurd (List.mem_of_getLast? ends) last
  · rintro rfl
    rfl

theorem not_nameless_of_plain (undotted : '.' ∉ name.toList) : ¬Nameless name :=
  fun ends => undotted (List.mem_of_getLast? ends)

theorem not_rootless_of_plain (undotted : '.' ∉ name.toList) : ¬Rootless name := by
  rintro ⟨after, here, -⟩
  rw [here] at undotted
  exact undotted List.mem_cons_self

/-- With something in front of the last dot, a dot that stands first is not the only one. -/
theorem not_rootless_append (some_ : before ≠ []) (after : List Char) :
    ¬Rootless (String.ofList (before ++ '.' :: after)) := by
  rintro ⟨rest, here, only⟩
  rw [String.toList_ofList] at here
  cases before with
  | nil => exact some_ rfl
  | cons c front =>
    obtain ⟨-, rfl⟩ := List.cons.inj here
    exact only (List.mem_append_right _ List.mem_cons_self)

theorem rootless_cons (only : '.' ∉ after) : Rootless (String.ofList ('.' :: after)) :=
  ⟨after, String.toList_ofList, only⟩

theorem detached_cons_iff (only : '.' ∉ after) :
    Detached (String.ofList ('.' :: after)) ↔ ∀ c ∈ after.head?, isBlank c = true := by
  unfold Detached
  rw [String.toList_ofList]
  constructor
  · rintro ⟨rest, same, -, blank⟩
    obtain ⟨-, rfl⟩ := List.cons.inj same
    exact blank
  · intro blank
    exact ⟨after, rfl, only, blank⟩

/-- A detached name is rootless. -/
theorem Detached.rootless (h : Detached name) : Rootless name := by
  obtain ⟨after, here, only, -⟩ := h
  exact ⟨after, here, only⟩

/-! ## What is read from a text -/

/-- **An exact reading** of a trimmed text: the name of the type has no dot, and it is empty exactly for nameless
texts; the full name is the text, unless that is rootless; and it is read as the same type again, unless the text
is detached. -/
structure ReadExactly (text : String) (t : TypeRef) : Prop where
  name : ∃ name, t.name = .text name ∧ '.' ∉ name.toList ∧ (name = "" ↔ Nameless text)
  fullName : t.fullName = .text text ↔ ¬Rootless text
  again : parse t.fullName = .ok t ↔ ¬Detached text

/-- A trimmed text that is not blank is read as it is cut. -/
theorem parse_trimmed (some_ : isBlankText name = false) (trimmed : Trimmed name.toList) :
    parse (.text name) = .ok (ofDotted name) := by
  rw [parse_eq_ok_iff, refers_text_iff, trim_eq_self_iff.mpr trimmed]
  exact ⟨some_, rfl⟩

theorem ofDotted_append (before : List Char) (last : '.' ∉ after) :
    ofDotted (String.ofList (before ++ '.' :: after)) =
      ⟨.text (String.ofList after), .text (String.ofList before)⟩ := by
  unfold ofDotted
  rw [String.toList_ofList, splitLast?_append before last]

theorem ofDotted_plain (undotted : '.' ∉ name.toList) : ofDotted name = ⟨.text name, .text ""⟩ := by
  unfold ofDotted
  rw [splitLast?_of_not_mem undotted]

/-- A text without a dot is read as itself exactly if there is nothing to trim. -/
theorem parse_plain_iff (undotted : '.' ∉ name.toList) :
    parse (.text name) = .ok ⟨.text name, .text ""⟩ ↔ isBlankText name = false ∧ Trimmed name.toList := by
  have still : '.' ∉ (trim name).toList := fun listed => undotted (mem_of_mem_trim listed)
  rw [parse_eq_ok_iff, refers_text_iff, ofDotted_plain still, ← trim_eq_self_iff, eq_comm (a := trim name)]
  refine and_congr_right fun _ => ?_
  constructor
  · intro same
    exact Value.text.inj (TypeRef.mk.inj same).1
  · intro same
    rw [← same]

/-- Without a dot, a text is the name itself. -/
theorem readExactly_plain (some_ : isBlankText name = false) (trimmed : Trimmed name.toList)
    (undotted : '.' ∉ name.toList) : ReadExactly name (ofDotted name) := by
  have unrooted := not_rootless_of_plain undotted
  have parsed := parse_trimmed some_ trimmed
  have full : name ≠ "" := by
    rintro rfl
    exact Bool.noConfusion some_
  rw [ofDotted_plain undotted] at parsed ⊢
  exact {
    name := ⟨name, rfl, undotted, iff_of_false full (not_nameless_of_plain undotted)⟩
    fullName := iff_of_true rfl unrooted
    again := iff_of_true parsed fun detached => unrooted detached.rootless }

/-- With a namespace in front of the last dot, the full name is the text. -/
theorem readExactly_qualified (joined : name = String.ofList (before ++ '.' :: after))
    (some_ : isBlankText name = false) (trimmed : Trimmed name.toList) (root : before ≠ []) (last : '.' ∉ after) :
    ReadExactly name (ofDotted name) := by
  have unrooted := not_rootless_append root after
  have nameless := nameless_append_iff before last
  have parsed := parse_trimmed some_ trimmed
  have full := fullName_join root after
  subst joined
  rw [ofDotted_append before last] at parsed ⊢
  exact {
    name := by
      refine ⟨String.ofList after, rfl, ?_, ?_⟩
      · rwa [String.toList_ofList]
      · rw [nameless, String.ofList_eq_empty_iff]
    fullName := iff_of_true full unrooted
    again := by
      rw [full]
      exact iff_of_true parsed fun detached => unrooted detached.rootless }

/-- What stands behind a first dot is read as itself exactly if no white space follows the dot. -/
theorem parse_behind_iff (trimmed : Trimmed ('.' :: after)) (only : '.' ∉ after) :
    parse (.text (String.ofList after)) = .ok ⟨.text (String.ofList after), .text ""⟩ ↔
      ¬Detached (String.ofList ('.' :: after)) := by
  have undotted : '.' ∉ (String.ofList after).toList := by rwa [String.toList_ofList]
  rw [parse_plain_iff undotted, detached_cons_iff only, String.toList_ofList]
  cases after with
  | nil => exact iff_of_false (fun ⟨some_, _⟩ => Bool.noConfusion some_) fun other => other fun _ none_ => nomatch none_
  | cons c rest =>
    have head : (∀ d ∈ (c :: rest).head?, isBlank d = true) ↔ isBlank c = true := by simp
    have last : ∀ d ∈ (c :: rest).getLast?, isBlank d = false := by
      have whole := trimmed.last
      rwa [List.getLast?_cons_cons] at whole
    rw [head, Bool.not_eq_true]
    constructor
    · rintro ⟨-, first, -⟩
      exact first c rfl
    · intro plain
      refine ⟨isBlankText_of_head ?_ plain, fun d first => ?_, last⟩
      · rw [String.toList_ofList]
        rfl
      · obtain rfl := Option.some.inj first
        exact plain

/-- With nothing in front of its last dot, a text loses the dot, and the full name is what stands behind it. -/
theorem readExactly_rootless (joined : name = String.ofList ('.' :: after)) (trimmed : Trimmed name.toList)
    (only : '.' ∉ after) : ReadExactly name (ofDotted name) := by
  have rootless := rootless_cons only
  have nameless := nameless_append_iff [] only
  have cut := ofDotted_append [] only
  subst joined
  rw [String.toList_ofList] at trimmed
  rw [List.nil_append] at nameless cut
  rw [cut]
  exact {
    name := by
      refine ⟨String.ofList after, rfl, ?_, ?_⟩
      · rwa [String.toList_ofList]
      · rw [nameless, String.ofList_eq_empty_iff]
    fullName := by
      refine iff_of_false (fun same => ?_) (not_not.mpr rootless)
      have lengths := congrArg List.length (String.ofList_inj.mp (Value.text.inj same))
      rw [List.length_cons] at lengths
      omega
    again := parse_behind_iff trimmed only }

/-- **What is read from a text.** Every text that is not blank is read as a type, and exactly: its name has no dot,
and it is empty exactly if nothing stands behind the last dot; its full name is the trimmed text, unless the only
dot stands first; and the full name is read as the same type again, unless such a dot is followed by white space
or by nothing. -/
theorem parse_text_exact {s : String} (some_ : isBlankText s = false) :
    ∃ t, parse (.text s) = .ok t ∧ ReadExactly (trim s) t := by
  have trimmed := trimmed_trim s
  have full := isBlankText_trim some_
  refine ⟨ofDotted (trim s), parse_eq_ok_iff.mpr (refers_text_iff.mpr ⟨some_, rfl⟩), ?_⟩
  by_cases dotted : '.' ∈ (trim s).toList
  · obtain ⟨before, after, cut, last⟩ := exists_last dotted
    have joined : trim s = String.ofList (before ++ '.' :: after) := by
      rw [← cut, String.ofList_toList]
    by_cases root : before = []
    · rw [root, List.nil_append] at joined
      exact readExactly_rootless joined trimmed last
    · exact readExactly_qualified joined full trimmed root last
  · exact readExactly_plain full trimmed dotted

/-- A qualified name with white space around it has none of the three shapes, so it is read without loss. -/
theorem parse_text_exact_apple : isBlankText " Game.Fruits.Apple\n" = false ∧
    ∃ t, parse (.text " Game.Fruits.Apple\n") = .ok t ∧ t.fullName = .text "Game.Fruits.Apple" ∧
      parse t.fullName = .ok t ∧ ∃ name, t.name = .text name ∧ name ≠ "" := by
  have some_ : isBlankText " Game.Fruits.Apple\n" = false := by decide +kernel
  have trims : trim " Game.Fruits.Apple\n" = "Game.Fruits.Apple" := by decide +kernel
  obtain ⟨t, parsed, exact_⟩ := parse_text_exact some_
  rw [trims] at exact_
  obtain ⟨name, named, -, empty⟩ := exact_.name
  have unrooted : ¬Rootless "Game.Fruits.Apple" := fun ⟨_, here, _⟩ => absurd here (by simp)
  have ends : ¬Nameless "Game.Fruits.Apple" := by
    unfold Nameless
    decide
  exact ⟨some_, t, parsed, exact_.fullName.mpr unrooted, exact_.again.mpr fun h => unrooted h.rootless, name, named,
    fun none_ => ends (empty.mp none_)⟩

/-- **A type without a name is accepted**, if the dot that cuts it off stands last. An object without a name is
refused. -/
theorem nameless_accepted :
    isBlankText "Game." = false ∧ parse (.text "Game.") = .ok ⟨.text "", .text "Game"⟩ ∧
      parse (.object [("name", .text ""), ("namespace", .text "Game")]) =
        .error (.unnamedType (.object [("name", .text ""), ("namespace", .text "Game")])) :=
  ⟨by decide +kernel, by rfl, by rfl⟩

end

end TypeRef

end StaticAccessors
