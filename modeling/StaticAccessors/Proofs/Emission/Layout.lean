import StaticAccessors.Emission.Layout
import StaticAccessors.Proofs.Kinds
import StaticAccessors.Proofs.Outcome

/-!
# Lines that can be laid out

A layout refuses a line only if its indentation would be too long, or if it is blank and the
terminator is no text. So lines can be printed to their end exactly if each of them is accepted, and
what is refused is never refused for its depth being negative.

## Contents
- `Layout.Refusal`: the faults of a layout.
- `Layout.Fits`: the depths at which there is an indentation.
- `Layout.Accepts`, and `exists_line_iff`.
- `Layout.Indents`, and `exists_ofSettings_iff`: the settings with room for a depth.
- `print_none_iff`, and `Layout.shown`, `toList_print`: a printed text is its lines.
- `Emission.print_eq_ok_iff`, `Emission.print_of_fits`, `Emission.print_of_crowded`, `Emission.print_error`.
-/

namespace StaticAccessors

open Outcome

namespace Layout

/-- The faults with which a layout, or a line in it, is refused. -/
inductive Refusal : Fault → Prop
  | kind : Refusal .wrongType
  | count : Refusal .tooLarge
  | length : Refusal .tooLong

/-- Those for want of room. -/
inductive Excess : Fault → Prop
  | count : Excess .tooLarge
  | length : Excess .tooLong

variable {l : Layout} {fault : Fault}

theorem Excess.refusal (h : Excess fault) : Refusal fault := by
  cases h with
  | count => exact .count
  | length => exact .length

/-! ## Lengths -/

theorem repeatedLength_error {length : Nat} {times : Int} (h : repeatedLength length times = .error fault) :
    Excess fault := by
  unfold repeatedLength at h
  dsimp only at h
  split at h
  · exact Except.error.inj h ▸ .count
  · split at h
    · exact Except.error.inj h ▸ .length
    · exact absurd h nofun

/-- A text can be repeated if neither the count nor the length that results exceeds its limit. -/
theorem repeatedLength_eq_ok_iff {length times n : Nat} :
    repeatedLength length times = .ok n ↔
      (times : Int) < countLimit ∧ (length * times : Nat) ≤ lengthLimit ∧ n = length * times := by
  have total : (length : Int) * times = (length * times : Nat) := (Int.natCast_mul length times).symm
  have limits : 0 < lengthLimit ∧ lengthLimit < countLimit := by decide
  unfold repeatedLength
  simp only [total, Int.toNat_natCast]
  constructor
  · intro h
    split at h
    · exact absurd h nofun
    · rename_i hc
      simp only [Bool.or_eq_true, decide_eq_true_eq] at hc
      split at h
      · exact absurd h nofun
      · exact ⟨by omega, by omega, (Except.ok.inj h).symm⟩
  · rintro ⟨hc, hl, rfl⟩
    rw [if_neg (by simp only [Bool.or_eq_true, decide_eq_true_eq]; omega), if_neg (by omega)]

/-! ## Layouts -/

theorem ofSettings_error {s : Settings} (h : ofSettings s = .error fault) : Refusal fault := by
  unfold ofSettings create at h
  split at h
  · exact absurd h nofun
  · split at h
    · exact (repeatedLength_error (map_eq_error.mp h)).refusal
    · exact Except.error.inj h ▸ .kind

/-- With a size that is a whole number there can only be too little room. -/
theorem ofSettings_excess {s : Settings} (whole : (s .indentSize).whole?.isSome = true)
    (h : ofSettings s = .error fault) : Excess fault := by
  unfold ofSettings create at h
  split at h
  · exact absurd h nofun
  · split at h
    · exact repeatedLength_error (map_eq_error.mp h)
    · rename_i none_
      rw [none_] at whole
      exact absurd whole nofun

/-! ## Lines -/

/-- The depths at which there is an indentation. -/
def Fits (l : Layout) (depth : Nat) : Prop :=
  (depth : Int) < countLimit ∧ (l.width * depth : Nat) ≤ lengthLimit

/-- What is no deeper than a depth that fits does so as well. -/
theorem Fits.mono {depth deeper : Nat} (h : l.Fits deeper) (le : depth ≤ deeper) : l.Fits depth := by
  have widths : l.width * depth ≤ l.width * deeper := Nat.mul_le_mul_left l.width le
  obtain ⟨hc, hl⟩ := h
  exact ⟨by omega, by omega⟩

/-- There is no indentation at a negative depth, and lines have none. -/
theorem indentation_nat (l : Layout) (depth : Nat) :
    l.indentation depth = (repeatedLength l.width depth).map l.marks := by
  unfold indentation
  rw [if_neg (by omega)]

theorem exists_indentation_iff {depth : Nat} :
    (∃ text, l.indentation depth = .ok text) ↔ l.Fits depth := by
  rw [indentation_nat]
  constructor
  · rintro ⟨text, h⟩
    obtain ⟨n, hn, -⟩ := map_eq_ok.mp h
    obtain ⟨hc, hl, -⟩ := repeatedLength_eq_ok_iff.mp hn
    exact ⟨hc, hl⟩
  · rintro ⟨hc, hl⟩
    exact ⟨_, map_eq_ok.mpr ⟨_, repeatedLength_eq_ok_iff.mpr ⟨hc, hl, rfl⟩, rfl⟩⟩

/-- The lines that a layout accepts. -/
def Accepts (l : Layout) (x : Line) : Prop :=
  l.Fits x.depth ∧ (x.text = "" → l.terminator.isText = true)

/-- **A line has a text** exactly if the layout accepts it. -/
theorem exists_line_iff {x : Line} : (∃ text, l.line x = .ok text) ↔ l.Accepts x := by
  unfold Accepts line
  rw [← exists_indentation_iff]
  cases hi : l.indentation x.depth with
  | error fault => exact ⟨fun ⟨_, h⟩ => absurd h nofun, fun ⟨⟨_, h⟩, _⟩ => absurd h nofun⟩
  | ok indent =>
    rw [ok_bind]
    by_cases hb : x.text = ""
    · rw [if_pos hb]
      cases ht : l.terminator with
      | text t => exact ⟨fun _ => ⟨⟨_, rfl⟩, fun _ => rfl⟩, fun _ => ⟨t, rfl⟩⟩
      | _ => exact ⟨fun ⟨_, h⟩ => absurd h nofun, fun ⟨_, h⟩ => absurd (h hb) nofun⟩
    · rw [if_neg hb]
      exact ⟨fun _ => ⟨⟨_, rfl⟩, fun h => absurd h hb⟩, fun _ => ⟨_, rfl⟩⟩

theorem indentation_error {depth : Nat} (h : l.indentation depth = .error fault) : Excess fault := by
  rw [indentation_nat] at h
  exact repeatedLength_error (map_eq_error.mp h)

theorem line_error {x : Line} (h : l.line x = .error fault) : Refusal fault := by
  rcases bind_eq_error.mp h with h | ⟨indent, -, h⟩
  · exact (indentation_error h).refusal
  · split at h
    · split at h
      · exact absurd h nofun
      · exact Except.error.inj h ▸ .kind
    · exact absurd h nofun

/-- If lines end in a text, there can only be too little room. -/
theorem line_excess (text : l.terminator.isText = true) {x : Line} (h : l.line x = .error fault) :
    Excess fault := by
  obtain ⟨t, ends⟩ := Value.exists_of_isText text
  rcases bind_eq_error.mp h with h | ⟨indent, -, h⟩
  · exact indentation_error h
  · rw [ends] at h
    split at h
    · exact absurd h nofun
    · exact absurd h nofun

/-! ## Settings -/

/-- A layout ends lines as the settings say. -/
theorem ofSettings_terminator {s : Settings} (h : ofSettings s = .ok l) : l.terminator = s .lineEnding := by
  unfold ofSettings create at h
  split at h
  · rw [← Except.ok.inj h]
  · split at h
    · obtain ⟨width, -, rfl⟩ := map_eq_ok.mp h
      rfl
    · exact absurd h nofun

/-- Settings under which there is an indentation at a depth: tabs, or a size that is a whole number and
not too large. -/
def Indents (s : Settings) (depth : Nat) : Prop :=
  (s .useTabs).truthy = true ∨
    ∃ size, (s .indentSize).whole? = some size ∧ -countLimit ≤ size ∧ size * depth ≤ lengthLimit

/-- A unit of some size, if it exists, is that many characters wide. -/
theorem repeatedLength_one_iff {size : Int} {width : Nat} :
    repeatedLength 1 size = .ok width ↔
      -countLimit ≤ size ∧ size ≤ lengthLimit ∧ width = size.toNat := by
  have limits : 0 < lengthLimit ∧ lengthLimit < countLimit := by decide
  unfold repeatedLength
  simp only [Int.natCast_one, Int.one_mul]
  constructor
  · intro h
    split at h
    · exact absurd h nofun
    · rename_i hc
      simp only [Bool.or_eq_true, decide_eq_true_eq] at hc
      split at h
      · exact absurd h nofun
      · exact ⟨by omega, by omega, (Except.ok.inj h).symm⟩
  · rintro ⟨hc, hl, rfl⟩
    rw [if_neg (by simp only [Bool.or_eq_true, decide_eq_true_eq]; omega), if_neg (by omega)]

/-- A negative size leaves nothing, which is as short as it is long. -/
theorem toNat_mul_le_iff {size : Int} {depth : Nat} :
    ((size.toNat * depth : Nat) : Int) ≤ lengthLimit ↔ size * depth ≤ lengthLimit := by
  have limit : 0 < lengthLimit := by decide
  rcases Int.le_total 0 size with nonneg | neg
  · rw [Int.natCast_mul, Int.toNat_of_nonneg nonneg]
  · have product := Int.mul_le_mul_of_nonneg_right neg (Int.natCast_nonneg depth)
    rw [Int.toNat_of_nonpos neg, Nat.zero_mul]
    omega

/-- **There is a layout with room for a depth** exactly if the settings indent to that depth. -/
theorem exists_ofSettings_iff {s : Settings} {depth : Nat} (pos : 0 < depth)
    (shallow : (depth : Int) ≤ lengthLimit) :
    (∃ l, ofSettings s = .ok l ∧ l.Fits depth) ↔ Indents s depth := by
  have limits : 0 < lengthLimit ∧ lengthLimit < countLimit := by decide
  unfold ofSettings create Indents Fits
  by_cases tabs : (s .useTabs).truthy = true
  · rw [if_pos tabs]
    refine ⟨fun _ => .inl tabs, fun _ => ⟨_, rfl, by omega, ?_⟩⟩
    rw [Nat.one_mul]
    exact shallow
  rw [if_neg tabs]
  cases whole : (s .indentSize).whole? with
  | none =>
    constructor
    · rintro ⟨l, h, -⟩
      exact absurd h nofun
    · rintro (h | ⟨size, h, -⟩)
      · exact absurd h tabs
      · exact absurd h nofun
  | some size =>
    constructor
    · rintro ⟨l, h, -, room⟩
      obtain ⟨width, hw, rfl⟩ := map_eq_ok.mp h
      obtain ⟨hc, -, rfl⟩ := repeatedLength_one_iff.mp hw
      exact .inr ⟨size, rfl, hc, toNat_mul_le_iff.mp room⟩
    · rintro (h | ⟨other, same, hc, room⟩)
      · exact absurd h tabs
      · obtain rfl := Option.some.inj same
        have width := (@toNat_mul_le_iff size 1).mp
          (Int.le_trans (Int.ofNat_le.mpr (Nat.mul_le_mul_left size.toNat pos)) (toNat_mul_le_iff.mpr room))
        rw [Int.natCast_one, Int.mul_one] at width
        exact ⟨_, map_eq_ok.mpr ⟨_, repeatedLength_one_iff.mpr ⟨hc, width, rfl⟩, rfl⟩, by omega,
          toNat_mul_le_iff.mpr room⟩

/-! ## Runs of lines -/

theorem print_cons_error {x : Line} {rest : List Line} (h : l.line x = .error fault) :
    l.print (x :: rest) = ("", some fault) := by
  rw [print, h]

theorem print_cons_ok {x : Line} {rest : List Line} {text : String} (h : l.line x = .ok text) :
    l.print (x :: rest) = (text ++ (l.print rest).1, (l.print rest).2) := by
  rw [print, h]

/-- What stops the printing of lines is what refuses one of them. -/
theorem exists_line_of_print {lines : List Line} (h : (l.print lines).2 = some fault) :
    ∃ x ∈ lines, l.line x = .error fault := by
  induction lines with
  | nil => exact absurd h nofun
  | cons x rest ih =>
    cases hx : l.line x with
    | error first =>
      rw [print_cons_error hx] at h
      exact ⟨x, List.mem_cons_self, Option.some.inj h ▸ hx⟩
    | ok text =>
      rw [print_cons_ok hx] at h
      obtain ⟨y, listed, refused⟩ := ih h
      exact ⟨y, List.mem_cons_of_mem x listed, refused⟩

/-- **Lines are printed to their end** exactly if the layout accepts all of them. -/
theorem print_none_iff {lines : List Line} : (l.print lines).2 = none ↔ ∀ x ∈ lines, l.Accepts x := by
  induction lines with
  | nil => exact ⟨fun _ x hx => absurd hx (by simp), fun _ => rfl⟩
  | cons x rest ih =>
    rw [List.forall_mem_cons, ← ih, ← exists_line_iff]
    cases hx : l.line x with
    | error first =>
      rw [print_cons_error hx]
      exact ⟨fun h => absurd h nofun, fun ⟨⟨_, h⟩, _⟩ => absurd h nofun⟩
    | ok text =>
      rw [print_cons_ok hx]
      exact ⟨fun h => ⟨⟨text, rfl⟩, h⟩, fun ⟨_, h⟩ => h⟩

/-- If lines end in a text, there only has to be room for each of them. -/
theorem print_none_iff_fits (text : l.terminator.isText = true) {lines : List Line} :
    (l.print lines).2 = none ↔ ∀ x ∈ lines, l.Fits x.depth :=
  print_none_iff.trans
    ⟨fun accepts x listed => (accepts x listed).1, fun fits x listed => ⟨fits x listed, fun _ => text⟩⟩

/-! ## Whole lines -/

/-- A line as it is printed, without its terminator. -/
def shown (l : Layout) (x : Line) : List Char :=
  if x.text = "" then [] else List.replicate (l.width * x.depth) l.mark ++ x.text.toList

theorem toList_line {x : Line} {text : String} (h : l.line x = .ok text) (ht : l.terminator = .text t) :
    text.toList = l.shown x ++ t.toList := by
  obtain ⟨indent, hi, h⟩ := bind_eq_ok.mp h
  rw [indentation_nat] at hi
  obtain ⟨n, hn, rfl⟩ := map_eq_ok.mp hi
  obtain ⟨-, -, rfl⟩ := repeatedLength_eq_ok_iff.mp hn
  unfold shown
  rw [ht] at h
  by_cases blank : x.text = ""
  · rw [if_pos blank] at h ⊢
    rw [Except.ok.inj h]
    rfl
  · rw [if_neg blank] at h ⊢
    rw [← Except.ok.inj h]
    unfold marks
    rw [String.toList_append, String.toList_append, String.toList_ofList, Value.display_text]

/-- A text that is printed to its end is its lines, each with the terminator. -/
theorem toList_print (h : (l.print lines).2 = none) (ht : l.terminator = .text t) :
    (l.print lines).1.toList = (lines.map l.shown).flatMap (· ++ t.toList) := by
  induction lines with
  | nil => rfl
  | cons x rest ih =>
    cases hx : l.line x with
    | error fault =>
      rw [print_cons_error hx] at h
      exact absurd h nofun
    | ok text =>
      rw [print_cons_ok hx] at h ⊢
      rw [String.toList_append, toList_line hx ht, ih h]
      rfl

/-- What is printed is whole lines in any case, those above the first that is refused. -/
theorem exists_prefix_print (ht : l.terminator = .text t) (lines : List Line) :
    ∃ whole, whole <+: lines ∧ (l.print lines).1.toList = (whole.map l.shown).flatMap (· ++ t.toList) := by
  induction lines with
  | nil => exact ⟨[], List.nil_prefix, rfl⟩
  | cons x rest ih =>
    cases hx : l.line x with
    | error fault =>
      rw [print_cons_error hx]
      exact ⟨[], List.nil_prefix, rfl⟩
    | ok text =>
      obtain ⟨whole, above, shown⟩ := ih
      refine ⟨x :: whole, List.cons_prefix_cons.mpr ⟨rfl, above⟩, ?_⟩
      rw [print_cons_ok hx, String.toList_append, toList_line hx ht, shown]
      rfl

end Layout

/-! ## Emissions -/

namespace Emission

variable {α : Type} {e : Emission α} {l : Layout}

/-- The text of an emission is what is printed of its lines. -/
theorem print_text (e : Emission α) (l : Layout) : (e.print l).1 = (l.print e.lines).1 := by
  unfold print
  split <;> rename_i printed <;> rw [printed]

/-- An emission that is printed to its end ends as it does by itself. -/
theorem print_of_accepts (h : ∀ x ∈ e.lines, l.Accepts x) : (e.print l).2 = e.outcome := by
  unfold print
  split
  · rename_i fault hp
    exact absurd (hp ▸ Layout.print_none_iff.mpr h) nofun
  · rfl

/-- **A printed emission ends well** exactly if the emission does and the layout accepts its lines. -/
theorem print_eq_ok_iff {a : α} :
    (e.print l).2 = .ok a ↔ e.outcome = .ok a ∧ ∀ x ∈ e.lines, l.Accepts x := by
  constructor
  · intro h
    unfold print at h
    split at h
    · exact absurd h nofun
    · rename_i hp
      exact ⟨h, Layout.print_none_iff.mp (by rw [hp])⟩
  · rintro ⟨ho, ha⟩
    rw [print_of_accepts ha, ho]

/-- With room for its lines an emission ends as it does by itself. -/
theorem print_of_fits (text : l.terminator.isText = true) (fits : ∀ x ∈ e.lines, l.Fits x.depth) :
    e.print l = ((l.print e.lines).1, e.outcome) := by
  have complete := (Layout.print_none_iff_fits text).mpr fits
  unfold print
  split
  · rename_i printed
    exact absurd (printed ▸ complete) nofun
  · rename_i printed
    rw [printed]

/-- Without, it ends for want of room. -/
theorem print_of_crowded (text : l.terminator.isText = true) (crowded : ¬∀ x ∈ e.lines, l.Fits x.depth) :
    ∃ fault, Layout.Excess fault ∧ e.print l = ((l.print e.lines).1, .error fault) := by
  unfold print
  split
  · rename_i shown fault printed
    obtain ⟨x, -, refused⟩ := Layout.exists_line_of_print (congrArg Prod.snd printed)
    refine ⟨fault, Layout.line_excess text refused, ?_⟩
    rw [printed]
  · rename_i printed
    exact absurd ((Layout.print_none_iff_fits text).mp (congrArg Prod.snd printed)) crowded

/-- A printed emission fails for the layout, or as the emission does. -/
theorem print_error {fault : Fault} (h : (e.print l).2 = .error fault) :
    Layout.Refusal fault ∨ e.outcome = .error fault := by
  unfold print at h
  split at h
  · rename_i text first hp
    have stopped : (l.print e.lines).2 = some first := congrArg Prod.snd hp
    obtain ⟨x, -, refused⟩ := Layout.exists_line_of_print stopped
    exact .inl (Except.error.inj h ▸ Layout.line_error refused)
  · exact .inr h

end Emission

end StaticAccessors
