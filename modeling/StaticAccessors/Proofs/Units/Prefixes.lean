import StaticAccessors.Proofs.FilePath
import StaticAccessors.Proofs.Table
import StaticAccessors.Units.Prefixes
import Mathlib.Data.List.Basic
import Mathlib.Data.List.Nodup

/-!
# The most specific path of a mapping

A mapping is said to give a path the unit of the mapped path that has most parts, out of those that are
the path itself or above it (`MostSpecific`). The texts that are compared say the same of all mapped paths
that have a part: such a text, with a slash at its end, begins what is written for a path exactly if the
parts begin the parts (`covers_comparable_iff`), and the longer text is the one with more parts.

Paths without parts are compared as texts too, and there the two differ (`Strays`). A dot is above every
path that starts nowhere in particular, and covers none of them but itself. The two roots are apart, but
each is compared as the empty text, so the later one stands for both.

## Contents
- `Reaches`, and `covers_comparable_iff`: the paths that a text covers.
- `Decides`, and `decides_or_unreached`: the entry that a look-up finds.
- `Picks` and `MostSpecific`: what a mapping says of a path.
- `Strays`, and `mostSpecific_resolve`: look-ups are right but for these.
-/

namespace StaticAccessors

namespace PrefixUnits

open FilePath

variable {units : Table String Value} {fallback unit : Value} {mapped path : String} {p q o : FilePath}

/-! ## What is compared -/

/-- A text covers another if it begins the other, with a slash behind both. -/
theorem covers_iff : covers mapped path = true ↔ mapped.toList ++ ['/'] <+: path.toList ++ ['/'] := by
  unfold covers
  rw [List.prefix_concat_iff, Bool.or_eq_true, decide_eq_true_eq, List.isPrefixOf_iff_prefix,
    List.append_left_inj, String.toList_inj]
  exact or_congr_left eq_comm

/-- A path that starts at a root and has no part. -/
structure IsRoot (p : FilePath) : Prop where
  absolute : p.isAbsolute = true
  bare : p.parts = []

instance : Decidable (IsRoot p) :=
  decidable_of_iff (p.isAbsolute = true ∧ p.parts = []) ⟨fun h => ⟨h.1, h.2⟩, fun h => ⟨h.1, h.2⟩⟩

theorem eq_dot (relative : ¬p.isAbsolute = true) (bare : p.parts = []) : p = ⟨.here, []⟩ := by
  obtain ⟨anchor, parts⟩ := p
  obtain rfl : parts = [] := bare
  cases anchor with
  | here => rfl
  | root | doubleRoot => exact absurd rfl relative

theorem IsRoot.eq (root : IsRoot p) : p = ⟨.root, []⟩ ∨ p = ⟨.doubleRoot, []⟩ := by
  obtain ⟨anchor, parts⟩ := p
  obtain rfl : parts = [] := root.bare
  cases anchor with
  | here => exact absurd root.absolute nofun
  | root => exact .inl rfl
  | doubleRoot => exact .inr rfl

/-- The pieces of a path as it is compared: a root is one slash, whichever it is. -/
def compared (p : FilePath) : List String := if IsRoot p then [""] else p.pieces

/-- No slash is taken off the end of a path that has parts. -/
theorem comparable_of_parts (clean : p.Clean) (some_ : p.parts ≠ []) : comparable p = p.text := by
  obtain ⟨front, last, parts⟩ := (List.eq_nil_or_concat' p.parts).resolve_left some_
  have known : last ∈ p.parts := by
    rw [parts]
    exact List.mem_concat_self
  have written : p.text.toList = slashed (p.anchor.pieces ++ front) ++ last.toList := by
    have h := text_slash p
    rw [pieces_of_parts some_, parts, ← List.append_assoc, slashed_append _ [last], slashed_cons,
      ← List.append_assoc] at h
    exact List.append_cancel_right h
  obtain ⟨before, c, chars⟩ := (List.eq_nil_or_concat' last.toList).resolve_left fun empty =>
    clean.some_ last known (String.toList_eq_nil_iff.mp empty)
  -- The text ends as the last part does, and not with a slash.
  have other : c ≠ '/' := by
    rintro rfl
    exact clean.slashless last known (chars ▸ List.mem_concat_self)
  unfold comparable
  rw [written, chars, ← List.append_assoc, List.reverse_concat, List.dropWhile_cons_of_neg (by simpa using other),
    ← List.reverse_concat, List.reverse_reverse, List.append_assoc, ← chars, ← written, String.ofList_toList]

/-- What is compared, with one more slash. -/
theorem comparable_slash (clean : p.Clean) : (comparable p).toList ++ ['/'] = slashed (compared p) := by
  unfold compared
  by_cases bare : p.parts = []
  · obtain ⟨anchor, parts⟩ := p
    obtain rfl : parts = [] := bare
    cases anchor <;> decide +kernel
  · rw [comparable_of_parts clean bare, text_slash, if_neg fun root => bare root.bare]

/-- Pieces that are compared hold no slash. -/
theorem slashless_compared (clean : p.Clean) : ∀ part ∈ compared p, '/' ∉ part.toList := by
  unfold compared
  split
  · simp
  · exact slashless_pieces clean

/-- A path lies under a mapped one as a mapping has it: a root is above all paths that start at either root,
and a dot above itself alone. -/
inductive Reaches (q p : FilePath) : Prop
  | root (root : IsRoot q) (absolute : p.isAbsolute = true)
  | dot (mapped : q = ⟨.here, []⟩) (same : p = ⟨.here, []⟩)
  | inside (some_ : q.parts ≠ []) (contained : q.Contains p)

/-- **The paths that a text covers** are those that lie under the path it was made of. -/
theorem covers_comparable_iff (hq : q.Clean) (hp : p.Clean) :
    covers (comparable q) p.text = true ↔ Reaches q p := by
  rw [covers_iff, comparable_slash hq, text_slash,
    slashed_prefix_iff (slashless_compared hq) (slashless_pieces hp)]
  unfold compared
  constructor
  · intro h
    split at h
    · rename_i root
      exact .root root ((slash_prefix_iff hp).mp h)
    · rename_i noRoot
      by_cases bare : q.parts = []
      · obtain rfl : q = ⟨.here, []⟩ := eq_dot (fun absolute => noRoot ⟨absolute, bare⟩) bare
        exact .dot rfl ((dot_prefix_iff hp).mp h)
      · exact .inside bare ((pieces_prefix_iff hq hp bare).mp h)
  · intro h
    cases h with
    | root root absolute =>
      rw [if_pos root]
      exact (slash_prefix_iff hp).mpr absolute
    | dot mapped same =>
      subst mapped
      rw [if_neg fun root => absurd root.absolute nofun]
      exact (dot_prefix_iff hp).mpr same
    | inside some_ contained =>
      rw [if_neg fun root => some_ root.bare]
      exact (pieces_prefix_iff hq hp some_).mpr contained

/-- What lies under a path is contained in it, or the one starts at a root and the other is the other root. -/
theorem Reaches.contains_or_root (h : Reaches q p) :
    q.Contains p ∨ IsRoot q ∧ p.isAbsolute = true ∧ q.anchor ≠ p.anchor := by
  cases h with
  | root root absolute =>
    by_cases same : q.anchor = p.anchor
    · exact .inl ⟨same, root.bare ▸ List.nil_prefix⟩
    · exact .inr ⟨root, absolute, same⟩
  | dot mapped same =>
    subst mapped same
    exact .inl ⟨rfl, List.prefix_rfl⟩
  | inside _ contained => exact .inl contained

/-- What is contained in a path lies under it, or the path is the dot and the other goes on from there. -/
theorem reaches_or_dot (h : q.Contains p) :
    Reaches q p ∨ q = ⟨.here, []⟩ ∧ p.anchor = .here ∧ p.parts ≠ [] := by
  by_cases bare : q.parts = []
  · by_cases absolute : q.isAbsolute = true
    · refine .inl (.root ⟨absolute, bare⟩ ?_)
      unfold isAbsolute at absolute ⊢
      exact h.anchor ▸ absolute
    · have mapped := eq_dot absolute bare
      have relative : p.anchor = .here := by rw [← h.anchor, mapped]
      by_cases below : p.parts = []
      · exact .inl (.dot mapped (eq_dot (by simp [isAbsolute, relative]) below))
      · exact .inr ⟨mapped, relative, below⟩
  · exact .inl (.inside bare h)

/-- A path from a root lies under no path without parts but a root. -/
theorem Reaches.isRoot (h : Reaches q p) (bare : q.parts = []) (absolute : p.isAbsolute = true) : IsRoot q := by
  cases h with
  | root root _ => exact root
  | dot _ same => exact absurd (same ▸ absolute) nofun
  | inside some_ _ => exact absurd bare some_

/-- A path that starts at no root lies under no path without parts but the dot. -/
theorem Reaches.eq_dot (h : Reaches q p) (bare : q.parts = []) (relative : ¬p.isAbsolute = true) :
    q = ⟨.here, []⟩ := by
  cases h with
  | root _ absolute => exact absurd absolute relative
  | dot mapped _ => exact mapped
  | inside some_ _ => exact absurd bare some_

theorem Reaches.contains (h : Reaches q p) (some_ : q.parts ≠ []) : q.Contains p := by
  cases h with
  | root root _ => exact absurd root.bare some_
  | dot mapped _ => exact absurd (mapped ▸ rfl) some_
  | inside _ contained => exact contained

/-! ## Longer texts -/

theorem compared_prefix_pieces (clean : p.Clean) : compared p <+: p.pieces := by
  unfold compared
  split
  · rename_i root
    exact (slash_prefix_iff clean).mpr root.absolute
  · exact List.prefix_rfl

/-- **The longer text has more parts**: out of two paths that a path lies under, the one whose text is at
least as long has at least as many parts. -/
theorem parts_le_of_length_le (ho : o.Clean) (hq : q.Clean) (hp : p.Clean) (above : Reaches o p)
    (above' : Reaches q p) (shorter : (comparable o).length ≤ (comparable q).length) :
    o.parts.length ≤ q.parts.length := by
  by_cases bare : o.parts = []
  · rw [bare]
    exact Nat.zero_le _
  · have begins := covers_iff.mp ((covers_comparable_iff ho hp).mpr above)
    have begins' := covers_iff.mp ((covers_comparable_iff hq hp).mpr above')
    -- Both begin what is written for `p`, so the shorter one begins the longer.
    have order : (comparable o).toList ++ ['/'] <+: (comparable q).toList ++ ['/'] :=
      List.prefix_of_prefix_length_le begins begins' (by simpa [String.length_toList] using shorter)
    rw [comparable_slash ho, comparable_slash hq,
      slashed_prefix_iff (slashless_compared ho) (slashless_compared hq)] at order
    unfold compared at order
    rw [if_neg fun root => bare root.bare] at order
    have inside : o.Contains q := (pieces_prefix_iff ho hq bare).mp (order.trans (compared_prefix_pieces hq))
    exact inside.parts.length_le

/-- Two paths that a path lies under are the same if they have as many parts, or both are roots. -/
theorem eq_or_roots (above : Reaches o p) (above' : Reaches q p) (same : o.parts.length = q.parts.length) :
    o = q ∨ IsRoot o ∧ IsRoot q := by
  by_cases bare : o.parts = []
  · have bare' : q.parts = [] := List.eq_nil_of_length_eq_zero (same ▸ List.length_eq_zero_iff.mpr bare)
    by_cases absolute : p.isAbsolute = true
    · exact .inr ⟨above.isRoot bare absolute, above'.isRoot bare' absolute⟩
    · exact .inl ((above.eq_dot bare absolute).trans (above'.eq_dot bare' absolute).symm)
  · have bare' : q.parts ≠ [] := by
      rw [← List.length_pos_iff, ← same]
      exact List.length_pos_iff.mpr bare
    exact .inl ((above.contains bare).eq_of_length (above'.contains bare') same)

theorem comparable_root (root : IsRoot p) : comparable p = "" := by
  rcases root.eq with rfl | rfl <;> decide +kernel

/-! ## Look-ups -/

/-- What is found with the longest texts first has a text as long as all that could be found. -/
theorem longest_of_find? {u : PrefixUnits} {entry : String × Value} {test : String × Value → Bool}
    (h : u.byLength.find? test = some entry) :
    entry ∈ u.units ∧ test entry = true ∧
      ∀ other ∈ u.units, test other = true → other.1.length ≤ entry.1.length := by
  have trans (a b c : String × Value) (first : decide (b.1.length ≤ a.1.length))
      (second : decide (c.1.length ≤ b.1.length)) : decide (c.1.length ≤ a.1.length) :=
    decide_eq_true (Nat.le_trans (of_decide_eq_true second) (of_decide_eq_true first))
  have total (a b : String × Value) : decide (b.1.length ≤ a.1.length) || decide (a.1.length ≤ b.1.length) := by
    simpa using Nat.le_total b.1.length a.1.length
  have sorted : u.byLength.Pairwise fun a b => b.1.length ≤ a.1.length :=
    (List.pairwise_mergeSort trans total _).imp of_decide_eq_true
  have listed {other : String × Value} : other ∈ u.byLength ↔ other ∈ u.units :=
    (List.mergeSort_perm _ _).mem_iff
  obtain ⟨passes, front, back, split, before⟩ := List.find?_eq_some_iff_append.mp h
  rw [split] at sorted listed
  -- What stands before the entry fails the test, and what stands behind it is no longer.
  refine ⟨listed.mp (List.mem_append_right _ List.mem_cons_self), passes, fun other known tested => ?_⟩
  rcases List.mem_append.mp (listed.mpr known) with early | late
  · exact absurd tested (by simpa using before other early)
  · rcases List.mem_cons.mp late with rfl | late
    · exact Nat.le_refl _
    · exact (List.pairwise_cons.mp (List.pairwise_append.mp sorted).2.1).1 other late

/-- An entry decides over a path: the path lies under it, it lies under none with more parts, and under no
later one with as many. -/
structure Decides (units : Table String Value) (p : FilePath) (entry : String × Value) : Prop where
  above : Reaches (ofText entry.1) p
  deepest : ∀ other ∈ units, Reaches (ofText other.1) p →
    (ofText other.1).parts.length ≤ (ofText entry.1).parts.length
  last : ∃ front back, units = front ++ entry :: back ∧ ∀ other ∈ back, Reaches (ofText other.1) p →
    (ofText other.1).parts.length < (ofText entry.1).parts.length

/-- An entry covers what lies under its path. -/
theorem covers_entry_iff (entry : String × Value) (hp : p.Clean) :
    covers (comparable (ofText entry.1)) p.text = true ↔ Reaches (ofText entry.1) p :=
  covers_comparable_iff (clean_ofText entry.1) hp

/-- The text of each entry is kept, with the unit of this entry or another. -/
theorem exists_mem_create {entry : String × Value} (fallback : Value) (known : entry ∈ units) :
    ∃ value, (comparable (ofText entry.1), value) ∈ (create units fallback).units := by
  have key : comparable (ofText entry.1) ∈
      Table.keys (units.map fun entry => (comparable (.ofText entry.1), entry.2)) :=
    List.mem_map.mpr ⟨_, List.mem_map.mpr ⟨entry, known, rfl⟩, rfl⟩
  obtain ⟨value, found⟩ := Table.exists_get?_merge key
  exact ⟨value, Table.mem_of_get? found⟩

/-- A text is kept with the unit of the last entry of this text. -/
theorem last_of_mem_create {kept : String × Value} (h : kept ∈ (create units fallback).units) :
    ∃ front entry back, units = front ++ entry :: back ∧ kept = (comparable (ofText entry.1), entry.2) ∧
      ∀ other ∈ back, comparable (ofText other.1) ≠ comparable (ofText entry.1) := by
  have distinct : (create units fallback).units.keys.Nodup := Table.nodup_keys_merge _ _ List.nodup_nil
  obtain ⟨text, unit⟩ := kept
  obtain ⟨front, path, back, split, same, new⟩ := Table.last_of_get?_merge (Table.get?_of_mem distinct h)
  obtain rfl : path = text := same
  obtain ⟨front, rest, rfl, rfl, rest_eq⟩ := List.map_eq_append_iff.mp split
  obtain ⟨entry, back, rfl, entry_eq, rfl⟩ := List.map_eq_cons_iff.mp rest_eq
  obtain ⟨rfl, rfl⟩ := Prod.mk.inj entry_eq
  refine ⟨front, entry, back, rfl, rfl, fun other later same => new ?_⟩
  exact List.mem_map.mpr ⟨_, List.mem_map.mpr ⟨other, later, rfl⟩, same⟩

/-- **A look-up finds the entry that decides over the path**, or the path lies under no entry. -/
theorem decides_or_unreached (units : Table String Value) (fallback : Value) (hp : p.Clean) :
    (∃ entry, Decides units p entry ∧ (create units fallback).resolve p = entry.2) ∨
      (∀ other ∈ units, ¬Reaches (ofText other.1) p) ∧ (create units fallback).resolve p = fallback := by
  unfold resolve
  cases found : (create units fallback).byLength.find? fun entry => covers entry.1 p.text with
  | none =>
    refine .inr ⟨fun other known above => ?_, rfl⟩
    obtain ⟨value, listed⟩ := exists_mem_create fallback known
    exact List.find?_eq_none.mp found _ ((List.mergeSort_perm _ _).mem_iff.mpr listed)
      ((covers_entry_iff other hp).mpr above)
  | some kept =>
    obtain ⟨listed, covering, longest⟩ := longest_of_find? found
    obtain ⟨front, entry, back, rfl, rfl, new⟩ := last_of_mem_create listed
    have above := (covers_entry_iff entry hp).mp covering
    have deepest : ∀ other ∈ front ++ entry :: back, Reaches (ofText other.1) p →
        (ofText other.1).parts.length ≤ (ofText entry.1).parts.length := by
      intro other known above'
      obtain ⟨value, listed⟩ := exists_mem_create fallback known
      have shorter : (comparable (ofText other.1)).length ≤ (comparable (ofText entry.1)).length :=
        longest (comparable (ofText other.1), value) listed ((covers_entry_iff other hp).mpr above')
      exact parts_le_of_length_le (clean_ofText other.1) (clean_ofText entry.1) hp above' above shorter
    refine .inl ⟨entry, ⟨above, deepest, front, back, rfl, fun other later above' => ?_⟩, rfl⟩
    refine Nat.lt_of_le_of_ne (deepest other (List.mem_append_right _ (List.mem_cons_of_mem _ later)) above') ?_
    -- An entry with as many parts is compared as the same text.
    intro same
    apply new other later
    rcases eq_or_roots above' above same with path | ⟨root, root'⟩
    · rw [path]
    · rw [comparable_root root, comparable_root root']

theorem Decides.listed {entry : String × Value} (h : Decides units p entry) : entry ∈ units := by
  obtain ⟨front, back, split, -⟩ := h.last
  exact split ▸ List.mem_append_right _ List.mem_cons_self

/-- One entry at most decides over a path. -/
theorem Decides.unique {entry other : String × Value} (h : Decides units p entry) (h' : Decides units p other) :
    entry = other := by
  obtain ⟨front, back, split, last⟩ := h.last
  obtain ⟨front', back', split', last'⟩ := h'.last
  -- The two cuts of the list agree, or one of the entries stands behind the other.
  rcases List.append_eq_append_iff.mp (split.symm.trans split') with ⟨between, -, rest⟩ | ⟨between, -, rest⟩
  · cases between with
    | nil => exact (List.cons.inj rest).1
    | cons _ more =>
      have later : other ∈ back := (List.cons.inj rest).2 ▸ List.mem_append_right _ List.mem_cons_self
      exact absurd (last other later h'.above) (Nat.not_lt.mpr (h'.deepest entry h.listed h.above))
  · cases between with
    | nil => exact (List.cons.inj rest).1.symm
    | cons _ more =>
      have later : entry ∈ back' := (List.cons.inj rest).2 ▸ List.mem_append_right _ List.mem_cons_self
      exact absurd (last' entry later h.above) (Nat.not_lt.mpr (h.deepest other h'.listed h'.above))

/-- The entry that decides is found. -/
theorem Decides.resolve_eq {entry : String × Value} (h : Decides units p entry) (fallback : Value) (hp : p.Clean) :
    (create units fallback).resolve p = entry.2 := by
  rcases decides_or_unreached units fallback hp with ⟨other, decides, found⟩ | ⟨unreached, -⟩
  · rw [found, h.unique decides]
  · exact absurd h.above (unreached entry h.listed)

/-! ## What a mapping says -/

/-- The paths that are mapped. -/
def paths (units : Table String Value) : List FilePath := units.map fun entry => ofText entry.1

/-- A mapping of both roots. -/
def MapsBothRoots (units : Table String Value) : Prop := ⟨.root, []⟩ ∈ paths units ∧ ⟨.doubleRoot, []⟩ ∈ paths units

/-- What a mapping says of a path, if one knows what is above what: the unit of the entry with most parts out
of those above the path, and the fallback if none is. -/
inductive Picks (isAbove : FilePath → FilePath → Prop) (units : Table String Value) (fallback : Value)
    (p : FilePath) : Value → Prop
  | mapped {entry : String × Value} (listed : entry ∈ units) (above : isAbove (ofText entry.1) p)
      (deepest : ∀ other ∈ units, isAbove (ofText other.1) p →
        (ofText other.1).parts.length ≤ (ofText entry.1).parts.length) :
      Picks isAbove units fallback p entry.2
  | unmapped (alone : ∀ other ∈ units, ¬isAbove (ofText other.1) p) : Picks isAbove units fallback p fallback

/-- **The unit of the most specific path**, with paths above others as their parts say. -/
abbrev MostSpecific : Table String Value → Value → FilePath → Value → Prop := Picks Contains

/-- A mapping of different paths says one thing only if no two that are above a path have as many parts. -/
theorem Picks.unique {isAbove : FilePath → FilePath → Prop} {unit other : Value} (distinct : (paths units).Nodup)
    (one : ∀ a ∈ units, ∀ b ∈ units, isAbove (ofText a.1) p → isAbove (ofText b.1) p →
      (ofText a.1).parts.length = (ofText b.1).parts.length → ofText a.1 = ofText b.1)
    (h : Picks isAbove units fallback p unit) (h' : Picks isAbove units fallback p other) : unit = other := by
  cases h with
  | mapped listed above deepest =>
    cases h' with
    | mapped listed' above' deepest' =>
      have same := one _ listed _ listed' above above'
        (Nat.le_antisymm (deepest' _ listed above) (deepest _ listed' above'))
      rw [List.inj_on_of_nodup_map distinct listed listed' same]
    | unmapped alone => exact absurd above (alone _ listed)
  | unmapped alone =>
    cases h' with
    | mapped listed' above' _ => exact absurd above' (alone _ listed')
    | unmapped _ => rfl

/-- What a mapping says does not depend on its order. -/
theorem Picks.perm {isAbove : FilePath → FilePath → Prop} {others : Table String Value} (same : units.Perm others)
    (h : Picks isAbove units fallback p unit) : Picks isAbove others fallback p unit := by
  cases h with
  | mapped listed above deepest =>
    exact .mapped (same.mem_iff.mp listed) above fun other known => deepest other (same.mem_iff.mpr known)
  | unmapped alone => exact .unmapped fun other known => alone other (same.mem_iff.mpr known)

/-- A mapping of different paths names one most specific unit. -/
theorem MostSpecific.unique {other : Value} (distinct : (paths units).Nodup)
    (h : MostSpecific units fallback p unit) (h' : MostSpecific units fallback p other) : unit = other :=
  Picks.unique distinct (fun _ _ _ _ => Contains.eq_of_length) h h'

/-! ## Look-ups that stray -/

/-- No mapped path that has a part is above the path. -/
def Bare (units : Table String Value) (p : FilePath) : Prop :=
  ∀ other ∈ units, (ofText other.1).Contains p → (ofText other.1).parts = []

/-- Look-ups of a path that lies under no mapped path with parts, and what they answer: the dot is mapped but
found for no path below it; or the root is mapped that the path does not start at, and is found for it, unless
the other root is mapped later. -/
inductive Strays (units : Table String Value) (fallback : Value) (p : FilePath) : Value → Prop
  | dot (listed : ⟨.here, []⟩ ∈ paths units) (relative : p.anchor = .here)
      (below : p.parts ≠ []) (bare : Bare units p) : Strays units fallback p fallback
  | root {front back : Table String Value} {entry : String × Value} (listed : units = front ++ entry :: back)
      (root : IsRoot (ofText entry.1)) (last : ∀ other ∈ back, ¬IsRoot (ofText other.1))
      (absolute : p.isAbsolute = true) (other : (ofText entry.1).anchor ≠ p.anchor) (bare : Bare units p) :
      Strays units fallback p entry.2

/-- An entry that decides names the most specific unit, or the look-up strays. -/
theorem Decides.mostSpecific_or_strays {entry : String × Value} (h : Decides units p entry) (fallback : Value) :
    MostSpecific units fallback p entry.2 ∨ Strays units fallback p entry.2 := by
  rcases h.above.contains_or_root with inside | ⟨root, absolute, other⟩
  · refine .inl (.mapped h.listed inside fun other known inside' => ?_)
    rcases reaches_or_dot inside' with above | ⟨dot, -, -⟩
    · exact h.deepest other known above
    · rw [dot]
      exact Nat.zero_le _
  · obtain ⟨front, back, split, last⟩ := h.last
    have none_less (o : FilePath) : ¬o.parts.length < (ofText entry.1).parts.length := by
      rw [root.bare]
      exact Nat.not_lt_zero _
    refine .inr (.root split root (fun other later root' => ?_) absolute other fun other known inside => ?_)
    · exact none_less _ (last other later (Reaches.root root' absolute))
    · rcases reaches_or_dot inside with above | ⟨dot, -, -⟩
      · have deepest := h.deepest other known above
        rw [root.bare] at deepest
        exact List.eq_nil_of_length_eq_zero (Nat.le_zero.mp deepest)
      · rw [dot]

/-- A look-up finds the unit of the most specific path, or it strays. -/
theorem mostSpecific_or_strays (units : Table String Value) (fallback : Value) (hp : p.Clean) :
    MostSpecific units fallback p ((create units fallback).resolve p) ∨
      Strays units fallback p ((create units fallback).resolve p) := by
  rcases decides_or_unreached units fallback hp with ⟨entry, decides, found⟩ | ⟨unreached, found⟩
  · rw [found]
    exact decides.mostSpecific_or_strays fallback
  · rw [found]
    by_cases inside : ∃ other ∈ units, (ofText other.1).Contains p
    · obtain ⟨other, known, inside⟩ := inside
      obtain ⟨dot, relative, below⟩ := (reaches_or_dot inside).resolve_left (unreached other known)
      refine .inr (.dot (List.mem_map.mpr ⟨other, known, dot⟩) relative below fun other known inside => ?_)
      obtain ⟨dot, -, -⟩ := (reaches_or_dot inside).resolve_left (unreached other known)
      rw [dot]
    · exact .inl (.unmapped fun other known h => inside ⟨other, known, h⟩)

/-- A look-up that strays gives what is said. -/
theorem Strays.resolve_eq (h : Strays units fallback p unit) (hp : p.Clean) :
    (create units fallback).resolve p = unit := by
  cases h with
  | dot _ relative below bare =>
    have unreached : ∀ other ∈ units, ¬Reaches (ofText other.1) p := by
      intro other known above
      cases above with
      | root _ absolute => exact absurd absolute (by simp [isAbsolute, relative])
      | dot _ same => exact below (same ▸ rfl)
      | inside some_ contained => exact some_ (bare other known contained)
    rcases decides_or_unreached units fallback hp with ⟨entry, decides, -⟩ | ⟨-, found⟩
    · exact absurd decides.above (unreached entry decides.listed)
    · exact found
  | @root front back entry listed root last absolute _ bare =>
    -- Only roots are above the path, and the entry is the last of them.
    have bare' : ∀ other ∈ units, Reaches (ofText other.1) p → (ofText other.1).parts = [] := by
      intro other known above
      rcases above.contains_or_root with inside | ⟨root, -, -⟩
      · exact bare other known inside
      · exact root.bare
    have decides : Decides units p entry := by
      refine ⟨Reaches.root root absolute, fun other known above => ?_, front, back, listed,
        fun other later above => ?_⟩
      · rw [bare' other known above]
        exact Nat.zero_le _
      · have known : other ∈ units := listed ▸ List.mem_append_right _ (List.mem_cons_of_mem _ later)
        exact absurd (above.isRoot (bare' other known above) absolute) (last other later)
    exact decides.resolve_eq fallback hp

/-- If units are told apart, a look-up that strays does not give the most specific unit. -/
theorem Strays.not_mostSpecific (h : Strays units fallback p unit) (apart : (units.map (·.2)).Nodup)
    (unmapped : fallback ∉ units.map (·.2)) : ¬MostSpecific units fallback p unit := by
  intro specific
  cases h with
  | dot listed relative _ _ =>
    obtain ⟨dotted, known, dot⟩ := List.mem_map.mp listed
    generalize same : fallback = unit at specific
    cases specific with
    | mapped listed' _ _ => exact unmapped (same ▸ List.mem_map.mpr ⟨_, listed', rfl⟩)
    | unmapped alone => exact alone dotted known (dot ▸ ⟨relative.symm, List.nil_prefix⟩)
  | @root front back entry listed _ _ _ other _ =>
    have known : entry ∈ units := listed ▸ List.mem_append_right _ List.mem_cons_self
    generalize same : entry.2 = unit at specific
    cases specific with
    | mapped listed' above _ =>
      obtain rfl := List.inj_on_of_nodup_map apart known listed' same
      exact other above.anchor
    | unmapped _ => exact unmapped (same ▸ List.mem_map.mpr ⟨entry, known, rfl⟩)

/-- What is answered is what the mapping says, if the paths that a text covers are taken for those below it. -/
theorem picks_resolve (units : Table String Value) (fallback : Value) (hp : p.Clean) :
    Picks Reaches units fallback p ((create units fallback).resolve p) := by
  rcases decides_or_unreached units fallback hp with ⟨entry, decides, found⟩ | ⟨unreached, found⟩
  · rw [found]
    exact .mapped decides.listed decides.above decides.deepest
  · rw [found]
    exact .unmapped unreached

/-- The order of a mapping of different paths counts only if it maps both roots. -/
theorem resolve_perm {others : Table String Value} (distinct : (paths units).Nodup) (one : ¬MapsBothRoots units)
    (same : units.Perm others) (fallback : Value) (hp : p.Clean) :
    (create others fallback).resolve p = (create units fallback).resolve p := by
  have unique : ∀ a ∈ units, ∀ b ∈ units, Reaches (ofText a.1) p → Reaches (ofText b.1) p →
      (ofText a.1).parts.length = (ofText b.1).parts.length → ofText a.1 = ofText b.1 := by
    intro a known b known' above above' alike
    rcases eq_or_roots above above' alike with path | ⟨root, root'⟩
    · exact path
    · have listed : ofText a.1 ∈ paths units := List.mem_map.mpr ⟨a, known, rfl⟩
      have listed' : ofText b.1 ∈ paths units := List.mem_map.mpr ⟨b, known', rfl⟩
      rcases root.eq with eq | eq <;> rcases root'.eq with eq' | eq' <;> rw [eq] at listed <;> rw [eq'] at listed'
      · rw [eq, eq']
      · exact absurd ⟨listed, listed'⟩ one
      · exact absurd ⟨listed', listed⟩ one
      · rw [eq, eq']
  have said : Picks Reaches units fallback p ((create others fallback).resolve p) :=
    (picks_resolve others fallback hp).perm same.symm
  exact said.unique distinct unique (picks_resolve units fallback hp)

/-- **The most specific path of a mapping.** With different paths mapped, a look-up of a path gives the unit of
the most specific mapped path, and no other unit is this one, except where it strays. There it gives what is
said (`Strays`), and if units are told apart this is not the most specific unit. The order of the mapping does
not matter, unless it maps both roots. -/
theorem mostSpecific_resolve (distinct : (paths units).Nodup) (fallback : Value) (path : String) :
    let p := ofText path
    let answer := (create units fallback).resolve p
    ((∀ unit, ¬Strays units fallback p unit) → ∀ unit, MostSpecific units fallback p unit ↔ unit = answer) ∧
      (∀ unit, Strays units fallback p unit → answer = unit) ∧
      ((units.map (·.2)).Nodup → fallback ∉ units.map (·.2) → ∀ unit, Strays units fallback p unit →
        ¬MostSpecific units fallback p unit) ∧
      ∀ others, units.Perm others → ¬MapsBothRoots units → (create others fallback).resolve p = answer := by
  intro p answer
  have hp : p.Clean := clean_ofText path
  refine ⟨fun straight unit => ?_, fun unit strays => strays.resolve_eq hp, fun apart unmapped unit strays => ?_,
    fun others same one => resolve_perm distinct one same fallback hp⟩
  · have specific := (mostSpecific_or_strays units fallback hp).resolve_right (straight answer)
    exact ⟨fun h => h.unique distinct specific, fun h => h ▸ specific⟩
  · exact strays.not_mostSpecific apart unmapped

/-- A mapping of a folder and a folder in it. -/
def folders : Table String Value := [("Assets", .text "Main"), ("Assets/Plugins", .text "Plugins")]

/-- A script below two mapped paths has the unit of the nearer one. -/
theorem mostSpecific_resolve_plugins :
    (create folders (.text defaultUnit)).resolve (ofText "Assets/Plugins/Thing.cs") = .text "Plugins" := by
  have straight : ∀ unit, ¬Strays folders (.text defaultUnit) (ofText "Assets/Plugins/Thing.cs") unit := by
    intro unit strays
    cases strays with
    | dot listed => exact absurd listed (by decide +kernel)
    | root _ _ _ absolute => exact absurd absolute (by decide +kernel)
  have inside : (ofText "Assets/Plugins").Contains (ofText "Assets/Plugins/Thing.cs") :=
    contains_iff.mpr ⟨by decide +kernel, by decide +kernel⟩
  have deepest : ∀ other ∈ folders, (ofText other.1).parts.length ≤ (ofText "Assets/Plugins").parts.length :=
    List.forall_mem_cons.mpr ⟨by decide +kernel, List.forall_mem_singleton.mpr (by decide +kernel)⟩
  have specific : MostSpecific folders (.text defaultUnit) (ofText "Assets/Plugins/Thing.cs") (.text "Plugins") :=
    .mapped (List.mem_cons_of_mem _ List.mem_cons_self) inside fun other known _ => deepest other known
  exact (((mostSpecific_resolve (by decide +kernel) _ _).1 straight _).mp specific).symm

/-- The dot is above a script in a folder, but its unit is not the one that is found. -/
theorem dot_missed :
    MostSpecific [(".", .text "Game")] (.text defaultUnit) (ofText "Assets/Fruits.cs") (.text "Game") ∧
      (create [(".", .text "Game")] (.text defaultUnit)).resolve (ofText "Assets/Fruits.cs") =
        .text "Assembly-CSharp" := by
  have kept : (create [(".", .text "Game")] (.text defaultUnit)).byLength = [(".", .text "Game")] := by
    have listed : (create [(".", .text "Game")] (.text defaultUnit)).units = [(".", .text "Game")] := rfl
    unfold byLength
    rw [listed, List.mergeSort_singleton]
  refine ⟨.mapped List.mem_cons_self ?_ fun other known _ => ?_, ?_⟩
  · exact contains_iff.mpr ⟨by decide +kernel, by decide +kernel⟩
  · obtain rfl := List.mem_singleton.mp known
    exact Nat.le_refl _
  · unfold resolve
    rw [kept]
    rfl

end PrefixUnits

end StaticAccessors
