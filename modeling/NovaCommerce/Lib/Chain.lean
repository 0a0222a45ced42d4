import Mathlib.Logic.Relation

/-!
# Chains of links

A relation whose steps are unique in both directions links its elements into chains.

* `Linear` : at most one successor and one predecessor;
* `Linear.comparable` : of two elements of one component, one leads to the other;
* `Linear.end_unique` : a component has one element without a successor, if any;
* `eqvGen_map` : components under a map of the elements, such as the one that folds a new leaf into its predecessor
  (`eqvGen_fold`);
* `eqvGen_isolated` : an element without links.
-/

namespace Chain

open Relation

variable {α β : Type*}

/-- Steps are unique in both directions. -/
structure Linear (r : α → α → Prop) : Prop where
  succ : ∀ a b c, r a b → r a c → b = c
  pred : ∀ a b c, r a c → r b c → a = b

variable {r : α → α → Prop}

theorem reflTransGen_swap {a b : α} (h : ReflTransGen (Function.swap r) a b) : ReflTransGen r b a := by
  induction h with
  | refl => exact .refl
  | tail _ hstep ih => exact .head hstep ih

theorem swap_reflTransGen {a b : α} (h : ReflTransGen r a b) : ReflTransGen (Function.swap r) b a := by
  induction h with
  | refl => exact .refl
  | tail _ hstep ih => exact .head hstep ih

/-- Of two elements of one chain, one leads to the other. -/
theorem Linear.comparable (h : Linear r) {a b : α} (hab : EqvGen r a b) : ReflTransGen r a b ∨ ReflTransGen r b a := by
  induction hab with
  | rel a b hstep => exact .inl (.single hstep)
  | refl a => exact .inl .refl
  | symm a b _ ih => exact ih.symm
  | trans a b c _ _ ih ih' =>
    rcases ih with hab | hba
    · rcases ih' with hbc | hcb
      · exact .inl (hab.trans hbc)
      · have hpred : Relator.RightUnique (Function.swap r) := fun x y z hx hy => h.pred y z x hx hy
        have htotal := ReflTransGen.total_of_right_unique hpred (swap_reflTransGen hab) (swap_reflTransGen hcb)
        exact (htotal.imp reflTransGen_swap reflTransGen_swap).symm
    · rcases ih' with hbc | hcb
      · have hsucc : Relator.RightUnique r := fun x y z hx hy => h.succ x y z hx hy
        exact ReflTransGen.total_of_right_unique hsucc hba hbc
      · exact .inr (hcb.trans hba)

/-- A chain has one end. -/
theorem Linear.end_unique (h : Linear r) {a b : α} (hab : EqvGen r a b) (ha : ∀ c, ¬ r a c) (hb : ∀ c, ¬ r b c) : a = b := by
  have hend : ∀ {x y : α}, ReflTransGen r x y → (∀ c, ¬ r x c) → x = y := by
    intro x y hxy hx
    rcases hxy.cases_head with heq | ⟨c, hstep, -⟩
    · exact heq
    · exact absurd hstep (hx c)
  rcases h.comparable hab with hab | hba
  · exact hend hab ha
  · exact (hend hba hb).symm

/-- A map that keeps the components of steps keeps components. -/
theorem eqvGen_map {r' : β → β → Prop} {f : β → α} (hf : ∀ x y, r' x y → EqvGen r (f x) (f y)) {a b : β} (hab : EqvGen r' a b) :
    EqvGen r (f a) (f b) := by
  induction hab with
  | rel a b hstep => exact hf a b hstep
  | refl a => exact .refl _
  | symm a b _ ih => exact .symm _ _ ih
  | trans a b c _ _ ih ih' => exact .trans _ _ _ ih ih'

/-- A new leaf lies in the component of its predecessor, and links nothing else. -/
theorem eqvGen_fold [DecidableEq α] {r' : α → α → Prop} {p n : α} (hnew : ∀ x y, r' x y → (r x y ∧ x ≠ n ∧ y ≠ n) ∨ (x = p ∧ y = n))
    (hp : p ≠ n) {a b : α} (hab : EqvGen r' a b) : EqvGen r (if a = n then p else a) (if b = n then p else b) := by
  refine eqvGen_map (f := fun x => if x = n then p else x) (fun x y hstep => ?_) hab
  rcases hnew x y hstep with ⟨hold, hx, hy⟩ | ⟨rfl, rfl⟩
  · rw [if_neg hx, if_neg hy]
    exact .rel _ _ hold
  · rw [if_neg hp, if_pos rfl]
    exact .refl _

/-- An element without links is a component of its own. -/
theorem eqvGen_isolated {n : α} (hsource : ∀ x, ¬ r n x) (htarget : ∀ x, ¬ r x n) {a b : α} (hab : EqvGen r a b) : a = n ↔ b = n := by
  induction hab with
  | rel a b hstep =>
    refine ⟨fun ha => ?_, fun hb => ?_⟩
    · exact absurd (ha ▸ hstep) (hsource b)
    · exact absurd (hb ▸ hstep) (htarget a)
  | refl a => exact Iff.rfl
  | symm a b _ ih => exact ih.symm
  | trans a b c _ _ ih ih' => exact ih.trans ih'

end Chain
