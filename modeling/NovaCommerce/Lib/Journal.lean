import Mathlib.Order.Basic
import Mathlib.Data.List.Basic

/-!
# Journals

A journal notes, with each change of a value, when it was made and what the value was before. The value at an instant is
read back from the first change that was not made before it.

* `Journal.change` : a change; `Journal.valueAt` : the value at an instant;
* `valueAt_change` : later changes leave the value at an instant; `valueAt_eq_current` : after all changes it is the current one;
* `valueAt_since` : the changes before an instant are not needed.
-/

namespace NovaCommerce

variable {τ α : Type}

/-- The changes of a value, oldest first, each with the value before it. -/
structure Journal (τ α : Type) where
  entries : List (τ × α)
  current : α

namespace Journal

section Instants

variable [LE τ] [DecidableLE τ]

def change (j : Journal τ α) (now : τ) (value : α) : Journal τ α := ⟨j.entries ++ [(now, j.current)], value⟩

/-- What the next change found, or the current value when there is none. -/
def valueAt (j : Journal τ α) (t : τ) : α :=
  ((j.entries.find? fun e => decide (t ≤ e.1)).map Prod.snd).getD j.current

/-- The journal from an instant on. -/
def since (j : Journal τ α) (start : τ) : Journal τ α := ⟨j.entries.filter fun e => decide (start ≤ e.1), j.current⟩

/-- A change that is not made before an instant leaves the value there. -/
theorem valueAt_change {j : Journal τ α} {now t : τ} (h : t ≤ now) (value : α) :
    (j.change now value).valueAt t = j.valueAt t := by
  unfold valueAt change
  rw [List.find?_append]
  cases j.entries.find? fun e => decide (t ≤ e.1) with
  | some e => rfl
  | none =>
    have hfirst : ([(now, j.current)].find? fun e => decide (t ≤ e.1)) = some (now, j.current) :=
      List.find?_cons_of_pos (decide_eq_true h)
    rw [Option.none_or, hfirst]
    rfl

/-- After all changes, the value is the current one. -/
theorem valueAt_eq_current {j : Journal τ α} {t : τ} (h : ∀ e ∈ j.entries, ¬ t ≤ e.1) : j.valueAt t = j.current := by
  have hnone : (j.entries.find? fun e => decide (t ≤ e.1)) = none := by
    refine List.find?_eq_none.mpr fun e he hle => ?_
    exact h e he (of_decide_eq_true hle)
  unfold valueAt
  rw [hnone]
  rfl

end Instants

/-- The value at an instant needs no earlier change. -/
theorem valueAt_since [Preorder τ] [DecidableLE τ] (j : Journal τ α) {start t : τ} (h : start ≤ t) : (j.since start).valueAt t = j.valueAt t := by
  have hsame : ((j.entries.filter fun e => decide (start ≤ e.1)).find? fun e => decide (t ≤ e.1)) =
      j.entries.find? fun e => decide (t ≤ e.1) := by
    rw [List.find?_filter]
    refine congrArg (fun p => j.entries.find? p) (funext fun e => ?_)
    simp only [decide_eq_true_eq]
    exact decide_eq_decide.mpr ⟨fun hboth => hboth.2, fun hle => ⟨h.trans hle, hle⟩⟩
  unfold valueAt since
  rw [hsame]

end Journal

end NovaCommerce
