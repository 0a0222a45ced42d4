import NovaCommerce.Lib.Sql

/-!
# Programs that read

* `ReadsAlike p p' e e'` : alone, `p` on `e` and `p'` on `e'` end in one value or exception, and change nothing;
* `Foretells p q e e' K` : a session that only reads foretells another: where `p` raises, so does `q`, and where `p`
  ends in a value, `K` holds of it and of what `q` does.
-/

namespace Sql

variable {D L ε α β γ : Type} {e e' : Exec D}

/-! ## Reading alike -/

/-- Alone, both programs end in one value or exception, and change nothing. -/
def ReadsAlike (p p' : Sql D L ε α) (e e' : Exec D) : Prop := ∃ r, p.run e = (r, e) ∧ p'.run e' = (r, e')

theorem readsAlike_pure (a : α) : ReadsAlike (pure a : Sql D L ε α) (pure a) e e' := ⟨.ok a, rfl, rfl⟩

theorem readsAlike_raise (x : ε) : ReadsAlike (raise x : Sql D L ε α) (raise x) e e' := ⟨.error x, rfl, rfl⟩

theorem readsAlike_ofExcept (r : Except ε α) : ReadsAlike (ofExcept r : Sql D L ε α) (ofExcept r) e e' :=
  ⟨r, run_ofExcept r e, run_ofExcept r e'⟩

theorem readsAlike_orRaise (x : Option α) (y : ε) : ReadsAlike (orRaise x y : Sql D L ε α) (orRaise x y) e e' := by
  cases x with
  | none => exact readsAlike_raise y
  | some a => exact readsAlike_pure a

theorem readsAlike_raiseIf (c : Prop) [Decidable c] (x : ε) :
    ReadsAlike (raiseIf c x : Sql D L ε Unit) (raiseIf c x) e e' := by
  unfold raiseIf
  split_ifs
  · exact readsAlike_raise x
  · exact readsAlike_pure ()

theorem readsAlike_query {g : D → α} (h : g e'.view = g e.view) :
    ReadsAlike (query g : Sql D L ε α) (query g) e e' :=
  ⟨.ok (g e.view), rfl, by rw [run_query, h]⟩

theorem readsAlike_lock {rows : D → List L} {g : D → α} (h : g e'.view = g e.view) :
    ReadsAlike (lock rows g : Sql D L ε α) (lock rows g) e e' :=
  ⟨.ok (g e.view), rfl, by rw [run_lock, h]⟩

/-- Row locks are not needed to read. -/
theorem ReadsAlike.unlocked {p p' : Sql D L ε α} (h : ReadsAlike p p' e e') : ReadsAlike p.unlocked p' e e' := by
  obtain ⟨r, hp, hp'⟩ := h
  exact ⟨r, by rw [run_unlocked, hp], hp'⟩

/-- What follows reads alike on the value both ended in. -/
theorem ReadsAlike.bind {p p' : Sql D L ε α} {f f' : α → Sql D L ε β} (h : ReadsAlike p p' e e')
    (hf : ∀ a, p.run e = (.ok a, e) → ReadsAlike (f a) (f' a) e e') : ReadsAlike (p >>= f) (p' >>= f') e e' := by
  obtain ⟨r, hp, hp'⟩ := h
  cases r with
  | error x => exact ⟨.error x, by rw [run_bind, hp, andThen_error], by rw [run_bind, hp', andThen_error]⟩
  | ok a =>
    obtain ⟨r, hr, hr'⟩ := hf a hp
    exact ⟨r, by rw [run_bind, hp, andThen_ok, hr], by rw [run_bind, hp', andThen_ok, hr']⟩

/-! ## Foretelling -/

/-- Where `p` raises so does `q`, and neither changed anything; otherwise `K` holds. -/
def Foretells (p : Sql D L ε α) (q : Sql D L ε β) (e e' : Exec D) (K : α → Except ε β × Exec D → Prop) : Prop :=
  (∃ x, p.run e = (.error x, e) ∧ q.run e' = (.error x, e')) ∨ ∃ a, p.run e = (.ok a, e) ∧ K a (q.run e')

variable {K : α → Except ε β × Exec D → Prop}

theorem foretells_pure {a : α} {q : Sql D L ε β} (h : K a (q.run e')) : Foretells (pure a) q e e' K := .inr ⟨a, rfl, h⟩

/-- A session is foretold step by step, as long as it reads what was read. -/
theorem Foretells.bind {p p' : Sql D L ε γ} {f : γ → Sql D L ε α} {f' : γ → Sql D L ε β} (h : ReadsAlike p p' e e')
    (hf : ∀ c, p.run e = (.ok c, e) → Foretells (f c) (f' c) e e' K) : Foretells (p >>= f) (p' >>= f') e e' K := by
  obtain ⟨r, hp, hp'⟩ := h
  cases r with
  | error x => exact .inl ⟨x, by rw [run_bind, hp, andThen_error], by rw [run_bind, hp', andThen_error]⟩
  | ok c =>
    rcases hf c hp with ⟨x, hx, hx'⟩ | ⟨a, ha, hk⟩
    · exact .inl ⟨x, by rw [run_bind, hp, andThen_ok, hx], by rw [run_bind, hp', andThen_ok, hx']⟩
    · exact .inr ⟨a, by rw [run_bind, hp, andThen_ok, ha], by rw [run_bind, hp', andThen_ok]; exact hk⟩

/-- What is foretold of a session that ends in a value. -/
theorem Foretells.ok {p : Sql D L ε α} {q : Sql D L ε β} {b : β} {e₁ : Exec D} (h : Foretells p q e e' K)
    (hq : q.run e' = (.ok b, e₁)) : ∃ a, p.run e = (.ok a, e) ∧ K a (.ok b, e₁) := by
  rcases h with ⟨x, -, hx⟩ | ⟨a, ha, hk⟩
  · rw [hx] at hq
    cases hq
  · rw [hq] at hk
    exact ⟨a, ha, hk⟩

end Sql
