import Mathlib

/-!
# Computations that raise

Rules for reading a successful run of an `Except` computation step by step:

* `bind_eq_ok`, `map_eq_ok` : what a sequence of steps did when it did not raise;
* `raiseIf c e` : raise `e` when `c` holds (`raiseIf_eq_ok`);
* `mapM_forall₂` : a traversal that did not raise (`exists_of_mem_mapM`, `exists_ok_of_mapM`, `map_eq_map_of_mapM`);
* `forEach xs f` : a checking loop (`forEach_eq_ok`);
* `foldSteps f xs s` : a loop that carries a state (`foldSteps_inv`, `foldSteps_total`).
-/

namespace Raise

variable {ε α β σ : Type}

@[simp] theorem bind_eq_ok {x : Except ε α} {f : α → Except ε β} {b : β} :
    (x >>= f) = .ok b ↔ ∃ a, x = .ok a ∧ f a = .ok b := by
  constructor
  · intro h
    cases x with
    | error e => cases h
    | ok a => exact ⟨a, rfl, h⟩
  · rintro ⟨a, rfl, h⟩
    exact h

@[simp] theorem ok_bind (a : α) (f : α → Except ε β) : (Except.ok a >>= f) = f a := rfl

@[simp] theorem error_bind (e : ε) (f : α → Except ε β) :
    ((Except.error e : Except ε α) >>= f) = .error e := rfl

@[simp] theorem map_eq_ok {x : Except ε α} {f : α → β} {b : β} :
    (f <$> x) = .ok b ↔ ∃ a, x = .ok a ∧ f a = b := by
  constructor
  · intro h
    cases x with
    | error e => cases h
    | ok a => exact ⟨a, rfl, Except.ok.inj h⟩
  · rintro ⟨a, rfl, rfl⟩
    rfl

@[simp] theorem pure_eq_ok {a b : α} : (pure a : Except ε α) = .ok b ↔ a = b := by
  constructor
  · intro h; exact Except.ok.inj h
  · rintro rfl; rfl

@[simp] theorem throw_ne_ok {e : ε} {a : α} : (throw e : Except ε α) = .ok a ↔ False := by
  constructor
  · intro h; nomatch h
  · exact False.elim

/-- Raise `e` when `c` holds. -/
def raiseIf (c : Prop) [Decidable c] (e : ε) : Except ε Unit :=
  if c then .error e else .ok ()

@[simp] theorem raiseIf_eq_ok {c : Prop} [Decidable c] {e : ε} {u : Unit} :
    raiseIf c e = .ok u ↔ ¬ c := by
  unfold raiseIf
  split_ifs with h <;> simp [h]

theorem raiseIf_neg {c : Prop} [Decidable c] {e : ε} (h : ¬ c) : raiseIf c e = .ok () :=
  raiseIf_eq_ok.mpr h

theorem raiseIf_pos {c : Prop} [Decidable c] {e : ε} (h : c) : raiseIf c e = .error e :=
  if_pos h

/-- Unwrap an optional value, raising `e` when there is none. -/
def orRaise (x : Option α) (e : ε) : Except ε α :=
  match x with
  | some a => .ok a
  | none => .error e

@[simp] theorem orRaise_eq_ok {x : Option α} {e : ε} {a : α} :
    orRaise x e = .ok a ↔ x = some a := by
  cases x with
  | none => simp [orRaise]
  | some b => simp [orRaise]

/-- A traversal whose calls all go through collects their results. -/
theorem mapM_eq_map {f : α → Except ε β} {g : α → β} :
    ∀ {xs : List α}, (∀ x ∈ xs, f x = .ok (g x)) → xs.mapM f = .ok (xs.map g)
  | [], _ => rfl
  | x :: xs, h => by
    have ih := mapM_eq_map (fun y hy => h y (List.mem_cons_of_mem x hy))
    rw [List.mapM_cons, h x List.mem_cons_self, ok_bind, ih, ok_bind]
    rfl

/-- A traversal that did not raise has one result for each element. -/
theorem mapM_forall₂ {f : α → Except ε β} : ∀ {xs : List α} {ys : List β}, xs.mapM f = .ok ys →
    List.Forall₂ (fun x y => f x = .ok y) xs ys
  | [], ys, h => by
    cases h
    exact .nil
  | x :: xs, ys, h => by
    rw [List.mapM_cons, bind_eq_ok] at h
    obtain ⟨y, hy, h⟩ := h
    obtain ⟨rest, hrest, h⟩ := bind_eq_ok.mp h
    cases h
    exact .cons hy (mapM_forall₂ hrest)

/-- Every result of a traversal is the result of an element. -/
theorem exists_of_mem_mapM {f : α → Except ε β} {xs : List α} {ys : List β} (h : xs.mapM f = .ok ys)
    {y : β} (hy : y ∈ ys) : ∃ x ∈ xs, f x = .ok y := by
  have hall := mapM_forall₂ h
  clear h
  induction hall with
  | nil => cases hy
  | @cons x y' xs ys hx _ ih =>
    rcases List.mem_cons.mp hy with rfl | hy
    · exact ⟨x, List.mem_cons_self, hx⟩
    · obtain ⟨x', hx', hy'⟩ := ih hy
      exact ⟨x', List.mem_cons_of_mem _ hx', hy'⟩

/-- Every element of a traversal has its result. -/
theorem exists_ok_of_mapM {f : α → Except ε β} {xs : List α} {ys : List β} (h : xs.mapM f = .ok ys)
    {x : α} (hx : x ∈ xs) : ∃ y ∈ ys, f x = .ok y := by
  have hall := mapM_forall₂ h
  clear h
  induction hall with
  | nil => exact absurd hx List.not_mem_nil
  | cons hxy _ ih =>
    rcases List.mem_cons.mp hx with rfl | hx
    · exact ⟨_, List.mem_cons_self, hxy⟩
    · obtain ⟨y, hy, hfy⟩ := ih hx
      exact ⟨y, List.mem_cons_of_mem _ hy, hfy⟩

/-- A traversal whose calls all go through goes through. -/
theorem mapM_total {f : α → Except ε β} : ∀ {xs : List α}, (∀ x ∈ xs, ∃ y, f x = .ok y) → ∃ ys, xs.mapM f = .ok ys
  | [], _ => ⟨[], rfl⟩
  | x :: xs, h => by
    obtain ⟨y, hy⟩ := h x List.mem_cons_self
    obtain ⟨ys, hys⟩ := mapM_total fun z hz => h z (List.mem_cons_of_mem x hz)
    exact ⟨y :: ys, by rw [List.mapM_cons, hy, ok_bind, hys]; rfl⟩

/-- What an element and its result agree on, the lists agree on. -/
theorem map_eq_map_of_mapM {γ : Type} {f : α → Except ε β} {g : α → γ} {k : β → γ}
    (hf : ∀ x y, f x = .ok y → k y = g x) {xs : List α} {ys : List β} (h : xs.mapM f = .ok ys) :
    ys.map k = xs.map g := by
  have hall := mapM_forall₂ h
  clear h
  induction hall with
  | nil => rfl
  | cons hx _ ih => rw [List.map_cons, List.map_cons, ih, hf _ _ hx]

/-- Run a check on every element, front to back. -/
def forEach (f : α → Except ε Unit) : List α → Except ε Unit
  | [] => .ok ()
  | x :: xs => do f x; forEach f xs

theorem forEach_eq_ok {f : α → Except ε Unit} {xs : List α} :
    forEach f xs = .ok () ↔ ∀ x ∈ xs, f x = .ok () := by
  induction xs with
  | nil => simp [forEach]
  | cons x xs ih =>
    simp only [forEach, bind_eq_ok, List.forall_mem_cons, ih]
    constructor
    · rintro ⟨⟨⟩, hx, hs⟩; exact ⟨hx, hs⟩
    · rintro ⟨hx, hs⟩; exact ⟨(), hx, hs⟩

/-- Carry a state through a list, front to back. -/
def foldSteps (f : σ → α → Except ε σ) : List α → σ → Except ε σ
  | [], s => .ok s
  | x :: xs, s => do foldSteps f xs (← f s x)

/-- What every step of a loop preserves, the loop preserves. -/
theorem foldSteps_inv {f : σ → α → Except ε σ} {P : σ → Prop} {xs : List α} {s t : σ}
    (step : ∀ s t, ∀ x ∈ xs, P s → f s x = .ok t → P t) (hs : P s) (h : foldSteps f xs s = .ok t) :
    P t := by
  induction xs generalizing s with
  | nil => cases h; exact hs
  | cons x xs ih =>
    obtain ⟨m, hm, h⟩ := bind_eq_ok.mp h
    exact ih (fun s t y hy => step s t y (List.mem_cons_of_mem _ hy))
      (step s m x List.mem_cons_self hs hm) h

/-- A loop whose steps go through under an invariant they keep goes through. -/
theorem foldSteps_total {f : σ → α → Except ε σ} (P : σ → Prop) (xs : List α) {s : σ}
    (step : ∀ s, ∀ x ∈ xs, P s → ∃ t, f s x = .ok t ∧ P t) (hs : P s) :
    ∃ t, foldSteps f xs s = .ok t ∧ P t := by
  induction xs generalizing s with
  | nil => exact ⟨s, rfl, hs⟩
  | cons x xs ih =>
    obtain ⟨m, hm, hP⟩ := step s x List.mem_cons_self hs
    obtain ⟨t, ht, hQ⟩ := ih (fun s y hy => step s y (List.mem_cons_of_mem _ hy)) hP
    exact ⟨t, bind_eq_ok.mpr ⟨m, hm, ht⟩, hQ⟩

end Raise
