import NovaCommerce.Lib.Raise

/-!
# What a computation may raise

* `Only E r` : whatever `r` raises satisfies `E`; step by step (`Only.bind`, `only_raiseIf`, `only_orRaise`, `Only.mapM`,
  `Only.foldSteps`);
* `Fails E r` : `r` raises, and what it raises satisfies `E` (`Fails.bind`, `Fails.after`).
-/

namespace Raise

variable {ε δ α β : Type} {E F : ε → Prop}

/-- Whatever the computation raises satisfies `E`. -/
def Only (E : ε → Prop) (r : Except ε α) : Prop := ∀ x, r = .error x → E x

theorem only_ok (a : α) : Only E (.ok a : Except ε α) := fun _ h => nomatch h

theorem only_pure (a : α) : Only E (pure a : Except ε α) := fun _ h => nomatch h

theorem only_error {x : ε} (hx : E x) : Only E (.error x : Except ε α) := by
  intro y hy
  cases hy
  exact hx

theorem Only.mono {r : Except ε α} (h : Only E r) (hEF : ∀ x, E x → F x) : Only F r := fun x hx => hEF x (h x hx)

theorem only_of_ok {r : Except ε α} {a : α} (h : r = .ok a) : Only E r := by
  rw [h]
  exact only_ok a

theorem Only.bind {r : Except ε α} {f : α → Except ε β} (hr : Only E r) (hf : ∀ a, r = .ok a → Only E (f a)) :
    Only E (r >>= f) := by
  cases r with
  | ok a => exact hf a rfl
  | error x => exact only_error (hr x rfl)

theorem only_raiseIf (c : Prop) [Decidable c] {x : ε} (hx : E x) : Only E (raiseIf c x) := by
  unfold raiseIf
  split_ifs
  · exact only_error hx
  · exact only_ok ()

theorem only_orRaise (a : Option α) {x : ε} (hx : E x) : Only E (orRaise a x) := by
  cases a with
  | some a => exact only_ok a
  | none => exact only_error hx

theorem Only.map {r : Except ε α} (h : Only E r) (f : α → β) : Only E (r.map f) := by
  cases r with
  | ok a => exact only_ok (f a)
  | error x => exact only_error (h x rfl)

theorem Only.mapError {r : Except ε α} {f : ε → δ} {G : δ → Prop} (h : Only E r) (hf : ∀ x, E x → G (f x)) :
    Only G (r.mapError f) := by
  cases r with
  | ok a => exact only_ok a
  | error x => exact only_error (hf x (h x rfl))

theorem Only.mapM {f : α → Except ε β} (hf : ∀ a, Only E (f a)) (xs : List α) : Only E (xs.mapM f) := by
  induction xs with
  | nil => exact only_pure []
  | cons x xs ih =>
    rw [List.mapM_cons]
    exact (hf x).bind fun y _ => ih.bind fun ys _ => only_pure (y :: ys)

theorem Only.foldSteps {σ : Type} {f : σ → α → Except ε σ} (hf : ∀ s a, Only E (f s a)) (xs : List α) (s : σ) :
    Only E (foldSteps f xs s) := by
  induction xs generalizing s with
  | nil => exact only_ok s
  | cons x xs ih => exact (hf s x).bind fun t _ => ih t

/-- The computation raises, and what it raises satisfies `E`. -/
def Fails (E : ε → Prop) (r : Except ε α) : Prop := ∃ x, r = .error x ∧ E x

theorem fails_error {x : ε} (hx : E x) : Fails E (.error x : Except ε α) := ⟨x, rfl, hx⟩

theorem Fails.bind {r : Except ε α} (h : Fails E r) (f : α → Except ε β) : Fails E (r >>= f) := by
  obtain ⟨x, rfl, hx⟩ := h
  exact fails_error hx

theorem Fails.after {r : Except ε α} {a : α} (hr : r = .ok a) {f : α → Except ε β} (h : Fails E (f a)) : Fails E (r >>= f) := by
  subst hr
  exact h

theorem Fails.map {r : Except ε α} (h : Fails E r) (f : α → β) : Fails E (r.map f) := by
  obtain ⟨x, rfl, hx⟩ := h
  exact fails_error hx

theorem Fails.mapError {r : Except ε α} {f : ε → δ} {G : δ → Prop} (h : Fails E r) (hf : ∀ x, E x → G (f x)) :
    Fails G (r.mapError f) := by
  obtain ⟨x, rfl, hx⟩ := h
  exact fails_error (hf x hx)

/-- A computation that raises nothing of `E` does not fail with `E`. -/
theorem Only.not_fails {r : Except ε α} (h : Only (fun x => ¬ E x) r) : ¬ Fails E r := by
  rintro ⟨x, hx, hE⟩
  exact h x hx hE

end Raise
