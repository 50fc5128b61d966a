/-!
# Outcomes, one step at a time

A chain of computations that may fail is opened at its first step: it succeeds if that step and the rest
do, and it fails where the first of them fails.
-/

namespace StaticAccessors.Outcome

variable {ε ε' α β γ : Type}

theorem map_eq_ok {x : Except ε α} {f : α → β} {b : β} :
    x.map f = .ok b ↔ ∃ a, x = .ok a ∧ f a = b := by
  cases x with
  | error e => exact ⟨nofun, nofun⟩
  | ok a => exact ⟨fun h => ⟨a, rfl, Except.ok.inj h⟩, fun ⟨_, ha, h⟩ => Except.ok.inj ha ▸ congrArg _ h⟩

theorem map_eq_error {x : Except ε α} {f : α → β} {e : ε} : x.map f = .error e ↔ x = .error e := by
  cases x with
  | error e' => exact ⟨fun h => congrArg _ (Except.error.inj h), fun h => congrArg _ (Except.error.inj h)⟩
  | ok a => exact ⟨nofun, nofun⟩

theorem mapError_eq_ok {x : Except ε α} {f : ε → ε'} {a : α} : x.mapError f = .ok a ↔ x = .ok a := by
  cases x with
  | error e => exact ⟨nofun, nofun⟩
  | ok b => exact ⟨fun h => congrArg _ (Except.ok.inj h), fun h => congrArg _ (Except.ok.inj h)⟩

theorem bind_eq_ok {x : Except ε α} {f : α → Except ε β} {b : β} :
    x >>= f = .ok b ↔ ∃ a, x = .ok a ∧ f a = .ok b := by
  cases x with
  | error e => exact ⟨nofun, nofun⟩
  | ok a => exact ⟨fun h => ⟨a, rfl, h⟩, fun ⟨_, ha, h⟩ => Except.ok.inj ha ▸ h⟩

theorem bind_eq_error {x : Except ε α} {f : α → Except ε β} {e : ε} :
    x >>= f = .error e ↔ x = .error e ∨ ∃ a, x = .ok a ∧ f a = .error e := by
  cases x with
  | error e' =>
    exact ⟨fun h => .inl (congrArg _ (Except.error.inj h)),
      fun h => h.elim (fun h => congrArg _ (Except.error.inj h)) nofun⟩
  | ok a =>
    exact ⟨fun h => .inr ⟨a, rfl, h⟩, fun h => h.elim nofun fun ⟨_, ha, h⟩ => Except.ok.inj ha ▸ h⟩

/-- A chain goes on with a result. -/
theorem ok_bind (a : α) (next : α → Except ε β) : (Except.ok a >>= next) = next a := rfl

/-- What becomes of the result of a chain becomes of the result of its last step. -/
theorem map_chain (x : Except ε α) (next : α → Except ε β) (f : β → γ) :
    (x >>= next).map f = x >>= fun a => (next a).map f := by
  cases x <;> rfl

/-- A chain goes on from a step whose result and fault are passed on in other words. -/
theorem chain_of_map (x : Except ε α) (f : α → β) (words : ε → ε') (next : β → Except ε' γ) :
    (x.map f).mapError words >>= next = x.mapError words >>= fun a => next (f a) := by
  cases x <;> rfl

/-- A computation that succeeds for each element of a list does so for the list. -/
theorem mapM_of_forall_ok {f : α → Except ε β} {g : α → β} {as : List α} (h : ∀ a ∈ as, f a = .ok (g a)) :
    as.mapM f = .ok (as.map g) := by
  induction as with
  | nil => rfl
  | cons a rest ih =>
    rw [List.forall_mem_cons] at h
    rw [List.mapM_cons, h.1, ih h.2]
    rfl

/-- What becomes of each result of a computation for the elements of a list becomes of the results. -/
theorem mapM_map {f : α → Except ε γ} {g : α → Except ε β} {w : β → γ} {as : List α}
    (h : ∀ a ∈ as, f a = (g a).map w) : as.mapM f = (as.mapM g).map (List.map w) := by
  induction as with
  | nil => rfl
  | cons a rest ih =>
    rw [List.forall_mem_cons] at h
    rw [List.mapM_cons, List.mapM_cons, h.1, ih h.2]
    cases g a with
    | error e => rfl
    | ok b => cases rest.mapM g <;> rfl

/-- What a computation for the elements of a list lists, it has for one of them. -/
theorem exists_of_mem_mapM {f : α → Except ε β} {as : List α} {bs : List β} (h : as.mapM f = .ok bs) {b : β}
    (listed : b ∈ bs) : ∃ a ∈ as, f a = .ok b := by
  induction as generalizing bs with
  | nil =>
    obtain rfl := Except.ok.inj h
    exact absurd listed List.not_mem_nil
  | cons a rest ih =>
    rw [List.mapM_cons] at h
    obtain ⟨first, here, h⟩ := bind_eq_ok.mp h
    obtain ⟨others, later, h⟩ := bind_eq_ok.mp h
    obtain rfl := Except.ok.inj h
    rcases List.mem_cons.mp listed with rfl | listed
    · exact ⟨a, List.mem_cons_self, here⟩
    · obtain ⟨other, listed, made⟩ := ih later listed
      exact ⟨other, List.mem_cons_of_mem a listed, made⟩

/-- A computation for the elements of a list succeeds exactly if it does for each of them. -/
theorem exists_mapM_iff {f : α → Except ε β} {as : List α} :
    (∃ bs, as.mapM f = .ok bs) ↔ ∀ a ∈ as, ∃ b, f a = .ok b := by
  induction as with
  | nil => exact ⟨fun _ a listed => absurd listed List.not_mem_nil, fun _ => ⟨[], rfl⟩⟩
  | cons a rest ih =>
    rw [List.forall_mem_cons, ← ih, List.mapM_cons]
    constructor
    · rintro ⟨bs, h⟩
      obtain ⟨first, here, h⟩ := bind_eq_ok.mp h
      obtain ⟨others, later, -⟩ := bind_eq_ok.mp h
      exact ⟨⟨first, here⟩, others, later⟩
    · rintro ⟨⟨first, here⟩, others, later⟩
      rw [here, later]
      exact ⟨first :: others, rfl⟩

/-- Where it fails, it does so at one of them. -/
theorem exists_of_mapM_error {f : α → Except ε β} {as : List α} {e : ε} (h : as.mapM f = .error e) :
    ∃ a ∈ as, f a = .error e := by
  induction as with
  | nil => exact absurd h nofun
  | cons a rest ih =>
    rw [List.mapM_cons] at h
    rcases bind_eq_error.mp h with first | ⟨_, -, h⟩
    · exact ⟨a, List.mem_cons_self, first⟩
    · rcases bind_eq_error.mp h with later | ⟨_, -, h⟩
      · obtain ⟨other, listed, failed⟩ := ih later
        exact ⟨other, List.mem_cons_of_mem a listed, failed⟩
      · exact absurd h nofun

/-- Where a computation along a list fails, it does so at one of its elements. -/
theorem exists_of_foldlM_error {f : β → α → Except ε β} {as : List α} {b : β} {e : ε}
    (h : as.foldlM f b = .error e) : ∃ a ∈ as, ∃ b, f b a = .error e := by
  induction as generalizing b with
  | nil => exact absurd h nofun
  | cons a rest ih =>
    rw [List.foldlM_cons] at h
    rcases bind_eq_error.mp h with first | ⟨next, -, h⟩
    · exact ⟨a, List.mem_cons_self, b, first⟩
    · obtain ⟨other, listed, failed⟩ := ih h
      exact ⟨other, List.mem_cons_of_mem a listed, failed⟩

/-- The same for one that keeps nothing. -/
theorem exists_of_forM_error {f : α → Except ε Unit} {as : List α} {e : ε} (h : as.forM f = .error e) :
    ∃ a ∈ as, f a = .error e := by
  induction as with
  | nil => exact absurd h nofun
  | cons a rest ih =>
    rcases bind_eq_error.mp (show (f a >>= fun _ => rest.forM f) = .error e from h) with first | ⟨_, -, h⟩
    · exact ⟨a, List.mem_cons_self, first⟩
    · obtain ⟨other, listed, failed⟩ := ih h
      exact ⟨other, List.mem_cons_of_mem a listed, failed⟩

end StaticAccessors.Outcome
