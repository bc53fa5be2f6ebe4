import Mathlib.Data.List.Forall2

namespace LedgerFeed

variable {ε α β : Type}

theorem bind_eq_ok {x : Except ε α} {f : α → Except ε β} {b : β} :
    (x >>= f) = .ok b ↔ ∃ a, x = .ok a ∧ f a = .ok b := by
  cases x <;> simp [bind, Except.bind]

theorem bind_eq_error {x : Except ε α} {f : α → Except ε β} {e : ε} :
    (x >>= f) = .error e ↔ x = .error e ∨ ∃ a, x = .ok a ∧ f a = .error e := by
  cases x <;> simp [bind, Except.bind]

theorem pure_eq_ok {a b : α} : (pure a : Except ε α) = .ok b ↔ a = b := by
  simp [pure, Except.pure]

theorem pure_ne_error {a : α} {e : ε} : (pure a : Except ε α) ≠ .error e := by
  simp [pure, Except.pure]

theorem map_eq_error {x : Except ε α} {f : α → β} {e : ε} :
    x.map f = .error e ↔ x = .error e := by
  cases x <;> simp [Except.map]

theorem map_eq_ok {x : Except ε α} {f : α → β} {b : β} :
    x.map f = .ok b ↔ ∃ a, x = .ok a ∧ f a = b := by
  cases x <;> simp [Except.map]

theorem mapM_eq_ok {f : α → Except ε β} {xs : List α} {ys : List β} :
    xs.mapM f = .ok ys ↔ List.Forall₂ (fun x y => f x = .ok y) xs ys := by
  induction xs generalizing ys with
  | nil => cases ys <;> simp [pure, Except.pure]
  | cons x xs ih =>
      simp only [List.mapM_cons, bind_eq_ok, pure_eq_ok, ih]
      constructor
      · rintro ⟨y, hy, rest, hrest, rfl⟩
        exact .cons hy hrest
      · intro h
        cases h with
        | cons hy hrest => exact ⟨_, hy, _, hrest, rfl⟩

theorem mapM_mem {f : α → Except ε β} {xs : List α} {ys : List β} (h : xs.mapM f = .ok ys) {y : β}
    (hy : y ∈ ys) : ∃ x ∈ xs, f x = .ok y := by
  have pairs := mapM_eq_ok.mp h
  clear h
  induction pairs with
  | nil => cases hy
  | cons hxy _ ih =>
      rcases List.mem_cons.mp hy with rfl | hy
      · exact ⟨_, List.mem_cons_self, hxy⟩
      · obtain ⟨x, hx, hf⟩ := ih hy
        exact ⟨x, List.mem_cons_of_mem _ hx, hf⟩

theorem mapM_ok_of_mem {f : α → Except ε β} {xs : List α} {ys : List β} (h : xs.mapM f = .ok ys)
    {x : α} (hx : x ∈ xs) : ∃ y ∈ ys, f x = .ok y := by
  have pairs := mapM_eq_ok.mp h
  clear h
  induction pairs with
  | nil => cases hx
  | cons hxy _ ih =>
      rcases List.mem_cons.mp hx with rfl | hx
      · exact ⟨_, List.mem_cons_self, hxy⟩
      · obtain ⟨y, hy, hf⟩ := ih hx
        exact ⟨y, List.mem_cons_of_mem _ hy, hf⟩

theorem mapM_eq_error_iff {f : α → Except ε β} {xs : List α} {e : ε} :
    xs.mapM f = .error e ↔ ∃ earlier x later, xs = earlier ++ x :: later ∧
      (∀ y ∈ earlier, ∃ z, f y = .ok z) ∧ f x = .error e := by
  induction xs with
  | nil => simp [pure, Except.pure]
  | cons x xs ih =>
      simp only [List.mapM_cons, bind_eq_error, pure_ne_error, and_false, exists_false, or_false,
        ih]
      constructor
      · rintro (fails | ⟨y, passes, earlier, z, later, rfl, before, fails⟩)
        · exact ⟨[], x, xs, rfl, by simp, fails⟩
        · exact ⟨x :: earlier, z, later, rfl, List.forall_mem_cons.mpr ⟨⟨y, passes⟩, before⟩, fails⟩
      · rintro ⟨earlier, z, later, split, before, fails⟩
        cases earlier with
        | nil =>
            cases split
            exact .inl fails
        | cons w earlier =>
            cases split
            obtain ⟨⟨y, passes⟩, before⟩ := List.forall_mem_cons.mp before
            exact .inr ⟨y, passes, earlier, z, later, rfl, before, fails⟩

theorem mapM_eq_error {f : α → Except ε β} {xs : List α} {e : ε}
    (h : xs.mapM f = .error e) : ∃ x ∈ xs, f x = .error e := by
  obtain ⟨earlier, x, later, rfl, -, fails⟩ := mapM_eq_error_iff.mp h
  exact ⟨x, List.mem_append_right _ List.mem_cons_self, fails⟩

theorem mapM_exists {f : α → Except ε β} {xs : List α} (each : ∀ x ∈ xs, ∃ y, f x = .ok y) :
    ∃ ys, xs.mapM f = .ok ys := by
  cases mapped : xs.mapM f with
  | ok ys => exact ⟨ys, rfl⟩
  | error fault =>
      obtain ⟨x, listed, fails⟩ := mapM_eq_error mapped
      obtain ⟨y, succeeds⟩ := each x listed
      rw [fails] at succeeds
      cases succeeds

end LedgerFeed
