import Mathlib

/-!
# Runs of a state machine

A machine answers an event with its next state, or refuses it.

* `Reached step allowed s₀` : the states of the runs from `s₀` whose steps are all allowed;
* `Reached.invariant` : what holds first and is kept by every allowed step holds in every state reached;
* `run` : the run of a list of events (`reached_run`).
-/

namespace Transition

variable {σ ε : Type*} {step : σ → ε → Option σ}

/-- The states of the runs from `s₀` whose steps are all allowed. -/
inductive Reached (step : σ → ε → Option σ) (allowed : σ → ε → Prop) (s₀ : σ) : σ → Prop where
  | start : Reached step allowed s₀ s₀
  | next {s s' : σ} (e : ε) (reached : Reached step allowed s₀ s) (ok : allowed s e) (taken : step s e = some s') :
      Reached step allowed s₀ s'

theorem Reached.invariant {allowed : σ → ε → Prop} {P : σ → Prop} {s₀ s : σ} (h : Reached step allowed s₀ s)
    (first : P s₀) (keep : ∀ {s e s'}, P s → allowed s e → step s e = some s' → P s') : P s := by
  induction h with
  | start => exact first
  | next e _ ok taken ih => exact keep ih ok taken

theorem Reached.mono {allowed allowed' : σ → ε → Prop} {s₀ s : σ} (h : Reached step allowed s₀ s)
    (weaker : ∀ s e, allowed s e → allowed' s e) : Reached step allowed' s₀ s := by
  induction h with
  | start => exact .start
  | next e _ ok taken ih => exact .next e ih (weaker _ e ok) taken

/-- The run of a list of events. -/
def run (step : σ → ε → Option σ) : σ → List ε → Option σ
  | s, [] => some s
  | s, e :: es => (step s e).bind fun s' => run step s' es

/-- The state a run ends in is reached, if its events are allowed in every state. -/
theorem reached_run {allowed : σ → ε → Prop} {s₀ : σ} : ∀ {es : List ε} {s s' : σ},
    Reached step allowed s₀ s → (∀ s, ∀ e ∈ es, allowed s e) → run step s es = some s' → Reached step allowed s₀ s'
  | [], s, s', h, _, hrun => by
    cases hrun
    exact h
  | e :: es, s, s', h, hes, hrun => by
    obtain ⟨t, htaken, hrest⟩ := Option.bind_eq_some_iff.mp hrun
    exact reached_run (h.next e (hes s e List.mem_cons_self) htaken) (fun s e he => hes s e (List.mem_cons_of_mem _ he))
      hrest

end Transition
