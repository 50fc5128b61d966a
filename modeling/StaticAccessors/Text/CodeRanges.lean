/-!
# Sets of characters as ascending ranges of code points

A property of characters is kept as the list of its maximal ranges, in ascending order. Membership
walks the list and stops at the first range that begins above the character, so plain characters
are settled by the first entries.
-/

namespace StaticAccessors.Text

/-- Inclusive ranges of code points in ascending order. -/
abbrev CodeRanges := List (Nat × Nat)

namespace CodeRanges

/-- Whether `code` lies in one of the ranges. -/
def contains : CodeRanges → Nat → Bool
  | [],                _    => false
  | (low, high) :: rest, code => if code < low then false else code ≤ high || contains rest code

/-- No character lies in the empty table. -/
@[simp] theorem contains_nil (code : Nat) : contains [] code = false := rfl

/-- A member of a table lies inside one of its entries. -/
theorem exists_of_contains {table : CodeRanges} {code : Nat} (h : table.contains code = true) :
    ∃ range ∈ table, range.1 ≤ code ∧ code ≤ range.2 := by
  induction table with
  | nil => simp at h
  | cons head rest ih =>
    obtain ⟨low, high⟩ := head
    simp only [contains] at h
    split at h
    · simp at h
    · rename_i notBelow
      rcases Bool.or_eq_true _ _ ▸ h with within | later
      · exact ⟨(low, high), by simp, by omega, by simpa using within⟩
      · obtain ⟨range, member, bounds⟩ := ih later
        exact ⟨range, List.mem_cons_of_mem _ member, bounds⟩

end CodeRanges

end StaticAccessors.Text
