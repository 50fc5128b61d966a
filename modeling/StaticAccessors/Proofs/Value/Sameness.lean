import StaticAccessors.Proofs.Value.Entries

/-!
# Values that are the same

A value that lists no key twice is the same as itself (`same_self`). Sameness forgets the order of fields and
the kind of numbers, but not how deep lists and objects are nested (`depth_eq_of_same`); so no value is the
same as one that it holds.

## Contents
- `Value.depth`, with `depth_lt_of_mem` and `depth_lt_of_field`.
- `Value.Distinct`: every object in it lists its keys once.
- `Value.same_self`, `Value.depth_eq_of_same`.
-/

namespace StaticAccessors.Value

/-! ## Depth -/

mutual
/-- How many lists and objects stand inside each other. -/
def depth : Value → Nat
  | list xs => depthList xs + 1
  | object fs => depthFields fs + 1
  | _ => 0

/-- The depth of the deepest element. -/
def depthList : List Value → Nat
  | [] => 0
  | x :: xs => max x.depth (depthList xs)

/-- The depth of the deepest field. -/
def depthFields : List (String × Value) → Nat
  | [] => 0
  | f :: fs => max f.2.depth (depthFields fs)
end

theorem depthList_le_iff {xs : List Value} {n : Nat} : depthList xs ≤ n ↔ ∀ x ∈ xs, x.depth ≤ n := by
  induction xs with
  | nil => simp [depthList]
  | cons x xs ih => rw [depthList, Nat.max_le, ih, List.forall_mem_cons]

theorem depthFields_le_iff {fs : Fields} {n : Nat} : depthFields fs ≤ n ↔ ∀ f ∈ fs, f.2.depth ≤ n := by
  induction fs with
  | nil => simp [depthFields]
  | cons f fs ih => rw [depthFields, Nat.max_le, ih, List.forall_mem_cons]

theorem depth_lt_of_mem {x : Value} {xs : List Value} (h : x ∈ xs) : x.depth < (list xs).depth := by
  show x.depth < depthList xs + 1
  exact Nat.lt_succ_of_le (depthList_le_iff.mp Nat.le.refl x h)

theorem depth_lt_of_field {f : String × Value} {fs : Fields} (h : f ∈ fs) : f.2.depth < (object fs).depth := by
  show f.2.depth < depthFields fs + 1
  exact Nat.lt_succ_of_le (depthFields_le_iff.mp Nat.le.refl f h)

theorem depth_of_key? {v : Value} {k : Key} (h : v.key? = some k) : v.depth = 0 := by
  cases v with
  | list | object => exact absurd h nofun
  | _ => rfl

/-! ## Distinct keys -/

/-- Every object in a value lists its keys once. -/
inductive Distinct : Value → Prop
  | scalar {v : Value} {k : Key} : v.key? = some k → Distinct v
  | list {xs : List Value} : (∀ x ∈ xs, Distinct x) → Distinct (.list xs)
  | object {fs : Fields} : fs.keys.Nodup → (∀ f ∈ fs, Distinct f.2) → Distinct (.object fs)

theorem Distinct.empty : (Value.object []).Distinct :=
  .object List.nodup_nil fun _ listed => absurd listed List.not_mem_nil

theorem Distinct.of_mem {xs : List Value} (h : (Value.list xs).Distinct) : ∀ x ∈ xs, x.Distinct := by
  cases h with
  | scalar key => exact absurd key nofun
  | list each => exact each

theorem Distinct.of_object {fs : Fields} (h : (Value.object fs).Distinct) :
    fs.keys.Nodup ∧ ∀ f ∈ fs, f.2.Distinct := by
  cases h with
  | scalar key => exact absurd key nofun
  | object distinct each => exact ⟨distinct, each⟩

/-! ## Sameness -/

theorem sameList_self {xs : List Value} (each : ∀ x ∈ xs, x.same x = true) : sameList xs xs = true := by
  induction xs with
  | nil => rfl
  | cons x xs ih =>
    unfold sameList
    rw [each x List.mem_cons_self, ih fun y listed => each y (List.mem_cons_of_mem x listed), Bool.and_true]

/-- **A value that lists no key twice is the same as itself.** -/
theorem same_self {v : Value} (h : v.Distinct) : v.same v = true := by
  induction h with
  | scalar key => rw [same_eq_of_key key, key, beq_self_eq_true]
  | list _ each =>
    unfold same
    exact sameList_self each
  | @object fs distinct _ each =>
    rw [same_object]
    refine Entries.same_self (Entries.nodup_keys_ofFields distinct) fun k v listed => ?_
    obtain ⟨f, here, same⟩ := List.mem_map.mp listed
    obtain ⟨-, rfl⟩ := Prod.mk.inj same
    exact each f here

theorem depthList_eq_of_sameList {xs ys : List Value}
    (each : ∀ x ∈ xs, ∀ {w : Value}, x.same w = true → x.depth = w.depth) (same : sameList xs ys = true) :
    depthList xs = depthList ys := by
  induction xs generalizing ys with
  | nil =>
    cases ys with
    | nil => rfl
    | cons => exact absurd same nofun
  | cons x xs ih =>
    cases ys with
    | nil => exact absurd same nofun
    | cons y ys =>
      unfold sameList at same
      obtain ⟨here, further⟩ := Bool.and_eq_true_iff.mp same
      unfold depthList
      rw [each x List.mem_cons_self here, ih (fun z listed => each z (List.mem_cons_of_mem x listed)) further]

/-- **Values that are the same are of the same depth**, if the first lists no key twice. -/
theorem depth_eq_of_same {v w : Value} (h : v.Distinct) (same : v.same w = true) : v.depth = w.depth := by
  induction h generalizing w with
  | scalar key =>
    rw [same_eq_of_key key] at same
    rw [depth_of_key? key, depth_of_key? (beq_iff_eq.mp same)]
  | @list xs _ each =>
    cases w with
    | list ys => exact congrArg (· + 1) (depthList_eq_of_sameList each same)
    | _ => exact absurd same nofun
  | @object fs distinct _ each =>
    cases w with
    | object gs =>
      rw [same_object] at same
      refine congrArg (· + 1) (Nat.le_antisymm ?_ ?_)
      · refine depthFields_le_iff.mpr fun f listed => ?_
        obtain ⟨w, found, alike⟩ := (Entries.same_iff.mp same).2 _ _ (List.mem_map_of_mem listed)
        have there := Table.mem_of_get? ((Entries.get?_ofFields gs f.1).symm.trans found)
        exact each f listed alike ▸ depthFields_le_iff.mp Nat.le.refl _ there
      · refine depthFields_le_iff.mpr fun g listed => ?_
        obtain ⟨v, found, alike⟩ :=
          Entries.exists_of_same (Entries.nodup_keys_ofFields distinct) same (List.mem_map_of_mem listed)
        have here := Table.mem_of_get? ((Entries.get?_ofFields fs g.1).symm.trans found)
        exact each _ here alike ▸ depthFields_le_iff.mp Nat.le.refl _ here
    | _ => exact absurd same nofun

end StaticAccessors.Value
