import Mathlib.Data.List.Forall2

/-!
A function that may fail, applied along a list: it succeeds with the values of all members, or
fails as its first failing member does.
-/

namespace CatalogEntities.Outcome

variable {α β ε γ : Type} {f : α → Except ε β} {xs : List α}

theorem map_ok_iff {g : α → β} {x : Except ε α} {b : β} :
    x.map g = .ok b ↔ ∃ a, x = .ok a ∧ g a = b := by
  cases x <;> simp [Except.map]

theorem map_error_iff {g : α → β} {x : Except ε α} {fault : ε} :
    x.map g = .error fault ↔ x = .error fault := by
  cases x <;> simp [Except.map]

theorem mapError_ok_iff {g : ε → γ} {x : Except ε α} {a : α} :
    x.mapError g = .ok a ↔ x = .ok a := by
  cases x <;> simp [Except.mapError]

theorem toOption_eq_some_iff {x : Except ε α} {a : α} : x.toOption = some a ↔ x = .ok a := by
  cases x <;> simp [Except.toOption]

theorem bind_ok_iff {x : Except ε α} {b : β} :
    (x >>= f) = .ok b ↔ ∃ a, x = .ok a ∧ f a = .ok b := by
  cases x <;> simp [bind, Except.bind]

theorem mapM_ok_iff {ys : List β} :
    xs.mapM f = .ok ys ↔ List.Forall₂ (fun x y => f x = .ok y) xs ys := by
  induction xs generalizing ys with
  | nil => cases ys <;> simp [pure, Except.pure]
  | cons x rest ih =>
    rw [List.mapM_cons]
    cases hx : f x with
    | error fault => cases ys <;> simp [bind, Except.bind, hx]
    | ok y =>
      cases ys with
      | nil => cases rest.mapM f <;> simp [bind, Except.bind, pure, Except.pure]
      | cons y' ys' =>
        rw [List.forall₂_cons, ← ih, hx, Except.ok.injEq]
        cases rest.mapM f <;> simp [bind, Except.bind, pure, Except.pure]

theorem mapM_error {fault : ε} (h : xs.mapM f = .error fault) : ∃ x ∈ xs, f x = .error fault := by
  induction xs with
  | nil => simp [pure, Except.pure] at h
  | cons x rest ih =>
    rw [List.mapM_cons] at h
    cases hx : f x with
    | error fault' =>
      simp only [hx, bind, Except.bind, Except.error.injEq] at h
      exact ⟨x, List.mem_cons_self, h ▸ hx⟩
    | ok y =>
      cases hrest : rest.mapM f with
      | error fault' =>
        simp only [hx, hrest, bind, Except.bind, Except.error.injEq] at h
        obtain ⟨x', hx', hfault⟩ := ih (h ▸ hrest)
        exact ⟨x', List.mem_cons_of_mem x hx', hfault⟩
      | ok ys => simp [hx, hrest, bind, Except.bind, pure, Except.pure] at h

theorem mapM_total (h : ∀ x ∈ xs, ∃ y, f x = .ok y) : ∃ ys, xs.mapM f = .ok ys := by
  cases hm : xs.mapM f with
  | ok ys => exact ⟨ys, rfl⟩
  | error fault =>
    obtain ⟨x, hx, hfault⟩ := mapM_error hm
    obtain ⟨y, hy⟩ := h x hx
    rw [hy] at hfault
    contradiction

section

variable {ys : List β} {R : α → β → Prop}

theorem mem_right (h : List.Forall₂ R xs ys) {y : β} (hy : y ∈ ys) : ∃ x ∈ xs, R x y := by
  induction h with
  | nil => simp at hy
  | cons hxy _ ih =>
    rcases List.mem_cons.mp hy with rfl | hy
    · exact ⟨_, List.mem_cons_self, hxy⟩
    · obtain ⟨x, hx, hr⟩ := ih hy
      exact ⟨x, List.mem_cons_of_mem _ hx, hr⟩

theorem mem_left (h : List.Forall₂ R xs ys) {x : α} (hx : x ∈ xs) : ∃ y ∈ ys, R x y :=
  mem_right h.flip hx

/-- Members that a partial function answers for, beside their answers. -/
theorem forall₂_filterMap {p : α → Bool} {f : α → Option β} (hskip : ∀ x ∈ xs, ¬ p x → f x = none)
    (hkeep : ∀ x ∈ xs, p x → ∃ y, f x = some y ∧ R x y) :
    List.Forall₂ R (xs.filter p) (xs.filterMap f) := by
  induction xs with
  | nil => exact .nil
  | cons x rest ih =>
    have ih := ih (fun y hy => hskip y (List.mem_cons_of_mem x hy))
      fun y hy => hkeep y (List.mem_cons_of_mem x hy)
    by_cases hp : p x
    · obtain ⟨y, hy, hr⟩ := hkeep x List.mem_cons_self hp
      rw [List.filter_cons_of_pos hp, List.filterMap_cons_some hy]
      exact .cons hr ih
    · rw [List.filter_cons_of_neg hp, List.filterMap_cons_none (hskip x List.mem_cons_self hp)]
      exact ih

theorem map_eq (h : List.Forall₂ R xs ys) {g : α → γ} {k : β → γ}
    (heq : ∀ x ∈ xs, ∀ y, R x y → g x = k y) : xs.map g = ys.map k := by
  induction h with
  | nil => rfl
  | cons hxy _ ih =>
    rw [List.map_cons, List.map_cons, heq _ List.mem_cons_self _ hxy,
      ih fun x hx => heq x (List.mem_cons_of_mem _ hx)]

end

end CatalogEntities.Outcome
