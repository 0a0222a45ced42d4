import NovaCommerce.Lib.Dict

/-!
# Totals of groups

A figure of the rows of a table, added up over the rows of one group.

* `Dict.totalOf` : the total of a group; what inserting, rewriting and adjusting rows does to it;
* `totalOf_eq_zero` : a group whose rows carry nothing;
* `sum_shares` : shares of distinct rows of a group, added up over all its rows.
-/

namespace Dict

variable {κ ν ι : Type} [DecidableEq κ] [DecidableEq ι]

/-- A figure, added up over the rows of a group. -/
def totalOf (d : Dict κ ν) (group : ν → ι) (figure : ν → Int) (i : ι) : Int :=
  d.total fun _ v => if group v = i then figure v else 0

variable {d : Dict κ ν} {group : ν → ι} {figure : ν → Int} {i : ι}

omit [DecidableEq κ] in
@[simp] theorem totalOf_empty : (empty : Dict κ ν).totalOf group figure i = 0 := rfl

theorem totalOf_eq_zero (h : ∀ k v, d.get? k = some v → group v = i → figure v = 0) : d.totalOf group figure i = 0 := by
  refine total_eq_zero fun e he => ?_
  split_ifs with hi
  · exact h e.1 e.2 (get?_eq_some.mpr he) hi
  · rfl

theorem totalOf_nonneg (h : ∀ k v, d.get? k = some v → 0 ≤ figure v) : 0 ≤ d.totalOf group figure i := by
  refine total_nonneg fun e he => ?_
  split_ifs
  · exact h e.1 e.2 (get?_eq_some.mpr he)
  · exact le_refl 0

theorem totalOf_set_fresh {k : κ} (h : d.get? k = none) (v : ν) :
    (d.set k v).totalOf group figure i = d.totalOf group figure i + if group v = i then figure v else 0 :=
  total_set_fresh h v _

/-- A new row that carries nothing. -/
theorem totalOf_set_zero {k : κ} (h : d.get? k = none) {v : ν} (hv : figure v = 0) :
    (d.set k v).totalOf group figure i = d.totalOf group figure i := by
  rw [totalOf_set_fresh h, hv, ite_self, add_zero]

/-- A row that is rewritten in its group. -/
theorem totalOf_modify {k : κ} {v : ν} (h : d.get? k = some v) {f : ν → ν} (hgroup : group (f v) = group v) :
    (d.modify k f).totalOf group figure i =
      d.totalOf group figure i + if group v = i then figure (f v) - figure v else 0 := by
  unfold totalOf
  rw [total_modify h, hgroup]
  split_ifs
  · ring
  · ring

/-- A row whose figure is not rewritten. -/
theorem totalOf_modify_same {k : κ} {f : ν → ν} (h : ∀ v, d.get? k = some v → group (f v) = group v ∧ figure (f v) = figure v) :
    (d.modify k f).totalOf group figure i = d.totalOf group figure i := by
  cases hk : d.get? k with
  | none =>
    unfold totalOf total
    rw [modify_absent hk]
  | some v =>
    obtain ⟨hgroup, hfigure⟩ := h v hk
    rw [totalOf_modify hk hgroup, hfigure, sub_self, ite_self, add_zero]

theorem totalOf_adjust_same {f : κ → ν → ν}
    (h : ∀ k v, d.get? k = some v → group (f k v) = group v ∧ figure (f k v) = figure v) :
    (d.adjust f).totalOf group figure i = d.totalOf group figure i := by
  unfold totalOf
  rw [total_adjust]
  refine total_congr fun e he => ?_
  obtain ⟨hgroup, hfigure⟩ := h e.1 e.2 (get?_eq_some.mpr he)
  rw [hgroup, hfigure]

/-- Rows of one group, inserted at once. -/
theorem totalOf_setFrom {d : Dict Nat ν} {n : Nat} {rows : List ν} (h : ∀ j, n ≤ j → d.get? j = none) {i₀ : ι}
    (hrows : ∀ row ∈ rows, group row = i₀) (figure : ν → Int) (i : ι) :
    (d.setFrom n rows).totalOf group figure i =
      d.totalOf group figure i + if i = i₀ then (rows.map figure).sum else 0 := by
  have hsum : (rows.map fun row => if group row = i then figure row else 0).sum =
      if i = i₀ then (rows.map figure).sum else 0 := by
    by_cases hi : i = i₀
    · rw [if_pos hi]
      refine congrArg List.sum (List.map_congr_left fun row hrow => ?_)
      rw [hrows row hrow, if_pos hi.symm]
    · rw [if_neg hi]
      refine List.sum_eq_zero fun x hx => ?_
      obtain ⟨row, hrow, rfl⟩ := List.mem_map.mp hx
      rw [hrows row hrow, if_neg (Ne.symm hi)]
  unfold totalOf
  rw [total_setFrom h fun v => if group v = i then figure v else 0, hsum]

/-- Rows that are rewritten where neither the group nor the figure looks. -/
theorem Grows.totalOf_eq {R : ν → ν → Prop} {d' : Dict κ ν} (h : Grows R (fun _ => False) d d')
    (hR : ∀ v v', R v v' → group v' = group v ∧ figure v' = figure v) :
    d'.totalOf group figure i = d.totalOf group figure i := by
  refine h.total_eq fun _ v v' hv => ?_
  obtain ⟨hgroup, hfigure⟩ := hR v v' hv
  rw [hgroup, hfigure]

/-- Shares that are given to distinct rows of one group, added up over all its rows. -/
theorem sum_shares {share : κ → Int} {keys : List κ} (hkeys : keys.Nodup)
    (hrows : ∀ k ∈ keys, ∃ v, d.get? k = some v ∧ group v = i) (helse : ∀ k, k ∉ keys → share k = 0) :
    (d.total fun k v => if group v = i then share k else 0) = (keys.map share).sum := by
  rw [total_eq_sum, ← List.sum_toFinset _ hkeys]
  refine (Finset.sum_subset (fun k hk => ?_) fun k hk hnot => ?_).symm.trans (Finset.sum_congr rfl fun k hk => ?_)
  · obtain ⟨v, hv, -⟩ := hrows k (List.mem_toFinset.mp hk)
    exact List.mem_toFinset.mpr (mem_keys_iff.mpr ⟨v, hv⟩)
  · obtain ⟨v, hv⟩ := mem_keys_iff.mp (List.mem_toFinset.mp hk)
    have hzero := helse k fun hmem => hnot (List.mem_toFinset.mpr hmem)
    rw [hv]
    show (if group v = i then share k else 0) = 0
    rw [hzero, ite_self]
  · obtain ⟨v, hv, hgroup⟩ := hrows k (List.mem_toFinset.mp hk)
    rw [hv]
    exact if_pos hgroup

/-- Rows whose figures take their shares. -/
theorem totalOf_adjust_shares {f : κ → ν → ν} {share : κ → Int} {keys : List κ} (hkeys : keys.Nodup)
    (hrows : ∀ k ∈ keys, ∃ v, d.get? k = some v ∧ group v = i) (helse : ∀ k, k ∉ keys → share k = 0)
    (hf : ∀ k v, d.get? k = some v → group (f k v) = group v ∧ figure (f k v) = figure v + share k) :
    (d.adjust f).totalOf group figure i = d.totalOf group figure i + (keys.map share).sum := by
  rw [← sum_shares hkeys hrows helse]
  unfold totalOf
  rw [total_adjust, ← total_add]
  refine total_congr fun e he => ?_
  obtain ⟨hgroup, hfigure⟩ := hf e.1 e.2 (get?_eq_some.mpr he)
  rw [hgroup, hfigure]
  split_ifs
  · rfl
  · rw [add_zero]

end Dict
