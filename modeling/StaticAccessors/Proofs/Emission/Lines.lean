import StaticAccessors.Emission.Scope

/-!
# The lines of an emission

At a depth that is a natural number none of the writing steps is refused for its depth, so each of
them is the list of its lines together with the depth it returns. This file gives these lists, and the
rules by which the lines of a whole are put together from those of its pieces.

A block is a header with braces around what is inside (`block`), a scope a header with one or two
levels of braces (`scopeOpening`, `scopeClosing`).

## Contents
- `Line.isBrace`, `IsCode`: braces, and the texts that are more than a brace.
- `Emission.bind_ok`, `Emission.bind_error`: a piece, and what follows it.
- `Emission.write_nat`, `Emission.writeAll_nat`.
- `Scope.openBlock_nat`, `Scope.closeBlock_nat`.
- `Scope.openScope_nat`, `Scope.closeScope_nat`.
- `Scope.depth_scopeOpening`, `Scope.depth_scopeClosing`: how deep the lines of a scope stand.
-/

namespace StaticAccessors

/-! ## Lines -/

/-- Whether a line is a brace and nothing else. -/
def Line.isBrace (l : Line) : Bool := l.text = "\x7b" || l.text = "\x7d"

@[simp] theorem Line.isBrace_blank (depth : Nat) : (Line.mk depth "").isBrace = false := rfl

/-- Every other text makes another line. -/
theorem Line.isBrace_of_ne {text : String} (opening : text ≠ "\x7b") (closing : text ≠ "\x7d") (depth : Nat) :
    (Line.mk depth text).isBrace = false := by
  unfold isBrace
  rw [Bool.or_eq_false_iff, decide_eq_false_iff_not, decide_eq_false_iff_not]
  exact ⟨opening, closing⟩

/-- The line that opens a pair of braces. -/
def Line.opening (depth : Nat) : Line := ⟨depth, "\x7b"⟩

/-- The line that closes it. -/
def Line.closing (depth : Nat) : Line := ⟨depth, "\x7d"⟩

/-- A text of two characters or more: neither blank nor a brace. -/
def IsCode (text : String) : Prop := 2 ≤ text.length

namespace IsCode

variable {a b : String}

theorem append_left (h : IsCode a) (b : String) : IsCode (a ++ b) := by
  unfold IsCode at h ⊢
  rw [String.length_append]
  omega

theorem append_right (a : String) (h : IsCode b) : IsCode (a ++ b) := by
  unfold IsCode at h ⊢
  rw [String.length_append]
  omega

theorem ne_empty (h : IsCode a) : a ≠ "" := by
  rintro rfl
  exact absurd h (by unfold IsCode; decide)

theorem isBrace (h : IsCode a) (depth : Nat) : (Line.mk depth a).isBrace = false := by
  refine Line.isBrace_of_ne ?_ ?_ depth <;> rintro rfl <;> exact absurd h (by unfold IsCode; decide)

end IsCode

/-! ## Blocks of lines -/

/-- The lines of a block: its header, and braces around the lines inside. -/
def block (depth : Nat) (header : String) (inside : List Line) : List Line :=
  ⟨depth, header⟩ :: .opening depth :: inside ++ [.closing depth]

/-! ## Pieces and what follows them -/

namespace Emission

variable {α β : Type}

@[simp] theorem pure_eq (a : α) : (pure a : Emission α) = ⟨[], .ok a⟩ := rfl

@[simp] theorem done_eq (a : α) : done a = ⟨[], .ok a⟩ := rfl

@[simp] theorem lift_eq (outcome : Except Fault α) : lift outcome = ⟨[], outcome⟩ := rfl

/-- What follows a piece that ended well stands behind it. -/
@[simp] theorem bind_ok (lines : List Line) (a : α) (next : α → Emission β) :
    ((⟨lines, .ok a⟩ : Emission α) >>= next) = ⟨lines ++ (next a).lines, (next a).outcome⟩ := rfl

/-- Nothing follows a piece that failed. -/
@[simp] theorem bind_error (lines : List Line) (fault : Fault) (next : α → Emission β) :
    ((⟨lines, .error fault⟩ : Emission α) >>= next) = ⟨lines, .error fault⟩ := rfl

/-- What a piece writes is there whatever follows it. -/
theorem mem_lines_bind {e : Emission α} {next : α → Emission β} {x : Line} (h : x ∈ e.lines) :
    x ∈ (e >>= next).lines := by
  obtain ⟨lines, outcome⟩ := e
  cases outcome with
  | error fault => exact h
  | ok a => exact List.mem_append_left _ h

@[simp] theorem write_nat (depth : Nat) (text : String) :
    write depth text = ⟨[⟨depth, text⟩], .ok ()⟩ := by
  rw [write_of_nonneg (Int.natCast_nonneg depth)]
  rfl

@[simp] theorem blank_nat (depth : Nat) : blank depth = ⟨[⟨depth, ""⟩], .ok ()⟩ := write_nat depth ""

@[simp] theorem writeAll_nat (depth : Nat) (line : α → String) (xs : List α) :
    writeAll depth line xs = ⟨xs.map fun a => ⟨depth, line a⟩, .ok ()⟩ := by
  induction xs with
  | nil => rfl
  | cons a rest ih =>
    unfold writeAll
    rw [write_nat, bind_ok, ih]
    rfl

end Emission

namespace Scope

open Emission

/-! ## Blocks -/

/-- Opening a block writes its header and a brace. -/
theorem openBlock_nat (depth : Nat) {header : String} (h : header ≠ "") :
    openBlock depth header =
      ⟨[⟨depth, header⟩, .opening depth], .ok ((depth + 1 : Nat) : Int)⟩ := by
  unfold openBlock
  rw [if_pos h, write_nat, write_nat]
  rfl

/-- Closing a block from the depth inside writes a brace and returns the depth outside. -/
theorem closeBlock_nat (depth : Nat) :
    closeBlock ((depth + 1 : Nat) : Int) = ⟨[.closing depth], .ok (depth : Int)⟩ := by
  have outside : ((depth + 1 : Nat) : Int) - 1 = depth := by omega
  unfold closeBlock
  rw [outside, if_neg (by omega), write_nat]
  rfl

/-! ## Scopes -/

theorem elementsOf_eq {v : Value} {xs : List Value} (h : v.elements? = some xs) : elementsOf v = .ok xs := by
  unfold elementsOf
  rw [h]

/-- A text is its own line. -/
theorem lineText_text (t : String) : lineText (.text t) = t := by
  unfold lineText Value.truthy
  by_cases h : t = ""
  · rw [h]
    rfl
  · rw [if_pos (decide_eq_true h)]
    rfl

/-- Texts make no line of a brace if no brace is among them. -/
theorem isBrace_lineText {banner : List Value} (texts : ∀ v ∈ banner, ∃ t, v = .text t)
    (opening : .text "\x7b" ∉ banner) (closing : .text "\x7d" ∉ banner) (depth : Nat) :
    ∀ v ∈ banner, (Line.mk depth (lineText v)).isBrace = false := by
  intro v listed
  obtain ⟨t, rfl⟩ := texts v listed
  rw [lineText_text]
  refine Line.isBrace_of_ne ?_ ?_ depth <;> rintro rfl
  · exact opening listed
  · exact closing listed

/-- The lines above the declaration of the class: banner and using-directives. -/
def prologue (depth : Nat) (banner directives : List Value) : List Line :=
  banner.map (fun v => ⟨depth, lineText v⟩) ++ ⟨depth, ""⟩ ::
    directives.map (fun d => ⟨depth, "using " ++ d.display ++ ";"⟩) ++
    if directives.isEmpty then [] else [⟨depth, ""⟩]

/-- The lines that open the namespace, if there is one. -/
def namespaceOpening (depth : Nat) (namespace_ : Value) : List Line :=
  if namespace_.truthy then [⟨depth, "namespace " ++ namespace_.display⟩, .opening depth] else []

/-- The lines that close the namespace, if there is one. -/
def namespaceClosing (depth : Nat) (namespace_ : Value) : List Line :=
  if namespace_.truthy then [.closing depth] else []

/-- The depth at which the class is declared in a scope that starts at some depth. -/
def classDepth (depth : Nat) (namespace_ : Value) : Nat :=
  if namespace_.truthy then depth + 1 else depth

/-- The class stands at the depth of the scope or in the namespace one level deeper. -/
theorem levels_add (depth : Nat) (namespace_ : Value) :
    depth + levels namespace_ = classDepth depth namespace_ + 1 := by
  unfold levels classDepth
  split <;> rfl

/-- The lines that open a scope whose banner and directives have these elements. -/
def scopeOpening (depth : Nat) (h : Header) (banner directives : List Value) : List Line :=
  prologue depth banner directives ++ namespaceOpening depth h.namespace_ ++
    [⟨classDepth depth h.namespace_, classDeclaration h.typeName h.isPartial h.isStatic⟩,
      .opening (classDepth depth h.namespace_)]

/-- The lines that close a scope. -/
def scopeClosing (depth : Nat) (namespace_ : Value) : List Line :=
  .closing (classDepth depth namespace_) :: namespaceClosing depth namespace_

/-- **Opening a scope** writes its opening and returns the depth of the class body. -/
theorem openScope_nat (depth : Nat) (h : Header) {banner directives unique : List Value}
    (hb : elementsOf h.banner = .ok banner) (hd : elementsOf h.directives = .ok directives)
    (hu : dedupe directives = .ok unique) :
    openScope depth h =
      ⟨scopeOpening depth h banner unique, .ok ((depth + levels h.namespace_ : Nat) : Int)⟩ := by
  have inner : (depth : Int) + 1 = ((depth + 1 : Nat) : Int) := rfl
  unfold openScope scopeOpening prologue namespaceOpening classDepth levels
  rw [hb, hd]
  -- The code branches on the directives and on the namespace; each branch writes a fixed run of lines.
  cases h.namespace_.truthy <;> cases unique <;>
    simp only [lift_eq, bind_ok, writeAll_nat, blank_nat, write_nat, hu, inner, pure_eq,
      List.isEmpty_nil, List.isEmpty_cons, Bool.not_true, Bool.not_false, if_true, if_false,
      Bool.false_eq_true, List.append_assoc, List.nil_append]
  all_goals rfl

/-- **Closing a scope** from the depth of its class body writes its closing and returns the depth at
which it was opened. -/
theorem closeScope_nat (depth : Nat) (namespace_ : Value) :
    closeScope ((depth + levels namespace_ : Nat) : Int) namespace_ =
      ⟨scopeClosing depth namespace_, .ok (depth : Int)⟩ := by
  unfold closeScope scopeClosing namespaceClosing classDepth levels
  cases namespace_.truthy with
  | false =>
    have outside : ((depth + 1 : Nat) : Int) - 1 = depth := by omega
    simp only [Bool.false_eq_true, if_false, outside, write_nat]
    rw [if_neg (by omega)]
    rfl
  | true =>
    have class_ : ((depth + 2 : Nat) : Int) - 1 = ((depth + 1 : Nat) : Int) := by omega
    have outside : ((depth + 2 : Nat) : Int) - 2 = depth := by omega
    simp only [if_true, class_, outside, write_nat]
    rw [if_neg (by omega)]
    rfl

/-! ## Depths -/

theorem depth_prologue (depth : Nat) (banner directives : List Value) :
    ∀ x ∈ prologue depth banner directives, x.depth = depth := by
  intro x hx
  rcases List.mem_append.mp hx with hx | hx
  · rcases List.mem_append.mp hx with hx | hx
    · obtain ⟨v, -, rfl⟩ := List.mem_map.mp hx
      rfl
    · rcases List.mem_cons.mp hx with rfl | hx
      · rfl
      · obtain ⟨d, -, rfl⟩ := List.mem_map.mp hx
        rfl
  · split at hx
    · exact absurd hx List.not_mem_nil
    · rw [List.mem_singleton.mp hx]

theorem classDepth_le (depth : Nat) (namespace_ : Value) :
    depth ≤ classDepth depth namespace_ ∧ classDepth depth namespace_ ≤ depth + levels namespace_ := by
  rw [levels_add]
  unfold classDepth
  split <;> omega

/-- What opens a scope reaches down to the declaration of its class. -/
theorem depth_scopeOpening (depth : Nat) (h : Header) (banner directives : List Value) :
    ∀ x ∈ scopeOpening depth h banner directives, x.depth ≤ classDepth depth h.namespace_ := by
  have outer := (classDepth_le depth h.namespace_).1
  unfold scopeOpening namespaceOpening
  rw [List.forall_mem_append, List.forall_mem_append, List.forall_mem_cons, List.forall_mem_singleton]
  refine ⟨⟨fun x hx => ?_, fun x hx => ?_⟩, Nat.le_refl _, Nat.le_refl _⟩
  · rw [depth_prologue depth banner directives x hx]
    exact outer
  · split at hx
    · rcases List.mem_cons.mp hx with rfl | hx
      · exact outer
      · rw [List.mem_singleton.mp hx]
        exact outer
    · exact absurd hx List.not_mem_nil

/-- Its first line stands where the scope does. -/
theorem exists_scopeOpening_eq (depth : Nat) (h : Header) (banner directives : List Value) :
    ∃ first rest, scopeOpening depth h banner directives = first :: rest ∧ first.depth = depth := by
  unfold scopeOpening prologue
  cases banner with
  | nil => exact ⟨_, _, rfl, rfl⟩
  | cons line others => exact ⟨_, _, rfl, rfl⟩

/-- What closes a scope starts from there. -/
theorem depth_namespaceClosing (depth : Nat) (namespace_ : Value) :
    ∀ x ∈ namespaceClosing depth namespace_, x.depth ≤ classDepth depth namespace_ := by
  unfold namespaceClosing
  intro x hx
  split at hx
  · rw [List.mem_singleton.mp hx]
    exact (classDepth_le depth namespace_).1
  · exact absurd hx List.not_mem_nil

theorem depth_scopeClosing (depth : Nat) (namespace_ : Value) :
    ∀ x ∈ scopeClosing depth namespace_, x.depth ≤ classDepth depth namespace_ := by
  unfold scopeClosing
  rw [List.forall_mem_cons]
  exact ⟨Nat.le_refl _, depth_namespaceClosing depth namespace_⟩

/-- Below the banner there is a blank line. -/
theorem blank_mem_scopeOpening (depth : Nat) (h : Header) (banner directives : List Value) :
    ⟨depth, ""⟩ ∈ scopeOpening depth h banner directives := by
  refine List.mem_append_left _ (List.mem_append_left _ (List.mem_append_left _ ?_))
  exact List.mem_append_right _ List.mem_cons_self

end Scope

end StaticAccessors
