import Mathlib

/-!
# Pro-rata splits of an integer amount

* `floorShares total ws` : the floor of every position's exact share of `total`;
* `handOut rem ps` : one extra unit for each positive weight, from the last position backwards,
  while units remain; `handOut_left`, `handOut_sum`, `handOut_shape`;
* `split total ws` : the floors with the remainder handed out; for non-negative weights with a
  positive sum it uses up the whole total (`split_left`, `split_sum`), stays non-negative
  (`split_nonneg`), and gives no position more than its weight while `total ≤ ws.sum`
  (`split_le_weight`).
-/

namespace ProRata

/-- The number of positions with a positive weight. -/
def positives (ws : List Int) : Int := ((ws.filter (fun w => decide (0 < w))).length : Int)

/-- The floor of every position's exact share. -/
def floorShares (total : Int) (ws : List Int) : List Int :=
  ws.map (fun w => total * w / ws.sum)

/-- Walk the `(weight, share)` positions from the last one backwards and give one unit to each
non-zero weight while units remain: the units left, and the shares after the walk. -/
def handOut (rem : Int) : List (Int × Int) → Int × List Int
  | [] => (rem, [])
  | (w, s) :: rest =>
    let later := handOut rem rest
    if later.1 = 0 then (later.1, s :: later.2)
    else if w = 0 then (later.1, s :: later.2)
    else (later.1 - 1, (s + 1) :: later.2)

/-- The floors, with what they leave of `total` handed out. -/
def split (total : Int) (ws : List Int) : Int × List Int :=
  handOut (total - (floorShares total ws).sum) (ws.zip (floorShares total ws))

/-! ## Counting the positive weights -/

@[simp] theorem positives_nil : positives [] = 0 := rfl

theorem positives_cons_pos {w : Int} (h : 0 < w) (ws : List Int) :
    positives (w :: ws) = positives ws + 1 := by
  simp [positives, h]

theorem positives_cons_zero (ws : List Int) : positives (0 :: ws) = positives ws := by
  simp [positives]

theorem positives_nonneg (ws : List Int) : 0 ≤ positives ws := Int.natCast_nonneg _

/-! ## The floors -/

@[simp] theorem floorShares_length (total : Int) (ws : List Int) :
    (floorShares total ws).length = ws.length := by
  simp [floorShares]

theorem sum_nonneg_of {ws : List Int} (hw : ∀ w ∈ ws, 0 ≤ w) : 0 ≤ ws.sum :=
  List.sum_nonneg hw

/-- A floor is at most the weight it came from while the total fits in the weights. -/
theorem floor_le_weight {total w s : Int} (hs : 0 < s) (hw : 0 ≤ w) (ht : total ≤ s) :
    total * w / s ≤ w := by
  have : total * w / s ≤ s * w / s := by
    exact Int.ediv_le_ediv hs (Int.mul_le_mul_of_nonneg_right ht hw)
  rwa [Int.mul_ediv_cancel_left _ (by omega)] at this

/-- A total below the sum leaves every positive weight room for one more unit. -/
theorem floor_lt_weight {total w s : Int} (hs : 0 < s) (hw : 0 < w) (ht : total < s) :
    total * w / s < w := by
  apply Int.ediv_lt_of_lt_mul hs
  calc total * w < s * w := Int.mul_lt_mul_of_pos_right ht hw
    _ = w * s := Int.mul_comm s w

/-- Scaled by the divisor, the floors of a list of multiples of `total` miss their exact sum by
at least nothing and by less than one divisor for each positive weight. -/
theorem floors_sum_bounds (total : Int) {s : Int} (hs : 0 < s) :
    ∀ {ws : List Int}, (∀ w ∈ ws, 0 ≤ w) →
      0 ≤ total * ws.sum - s * (ws.map (fun w => total * w / s)).sum ∧
      total * ws.sum - s * (ws.map (fun w => total * w / s)).sum ≤ (s - 1) * positives ws
  | [], _ => by simp
  | w :: ws, hw => by
    obtain ⟨lo, hi⟩ := floors_sum_bounds total hs
      (fun v hv => hw v (List.mem_cons_of_mem _ hv))
    have hw0 : 0 ≤ w := hw w List.mem_cons_self
    have hdiv : s * (total * w / s) + total * w % s = total * w := Int.mul_ediv_add_emod _ _
    have hm0 : 0 ≤ total * w % s := Int.emod_nonneg _ (by omega)
    have hm1 : total * w % s < s := Int.emod_lt_of_pos _ hs
    simp only [List.sum_cons, List.map_cons, Int.mul_add]
    rcases hw0.lt_or_eq with hpos | rfl
    · rw [positives_cons_pos hpos, Int.mul_add]
      constructor <;> omega
    · rw [positives_cons_zero]
      simp only [Int.mul_zero, Int.zero_ediv] at hdiv hm0 hm1 ⊢
      constructor <;> omega

/-- What the floors leave of the total is between nothing and one unit a positive weight. -/
theorem remainder_bounds (total : Int) {ws : List Int} (hs : 0 < ws.sum)
    (hw : ∀ w ∈ ws, 0 ≤ w) :
    0 ≤ total - (floorShares total ws).sum ∧
      total - (floorShares total ws).sum ≤ positives ws := by
  obtain ⟨lo, hi⟩ := floors_sum_bounds total hs hw
  have hscale : total * ws.sum - ws.sum * (floorShares total ws).sum =
      ws.sum * (total - (floorShares total ws).sum) := by ring
  rw [← floorShares, hscale] at lo hi
  constructor
  · exact nonneg_of_mul_nonneg_right lo hs
  · have hle : ws.sum * (total - (floorShares total ws).sum) ≤ ws.sum * positives ws :=
      hi.trans (Int.mul_le_mul_of_nonneg_right (by omega) (positives_nonneg ws))
    exact le_of_mul_le_mul_left hle hs

/-! ## Handing out the remainder -/

/-- The walk keeps the sum of what is left and what was given. -/
theorem handOut_sum (rem : Int) : ∀ ps : List (Int × Int),
    (handOut rem ps).1 + (handOut rem ps).2.sum = rem + (ps.map Prod.snd).sum
  | [] => by simp [handOut]
  | (w, s) :: rest => by
    have ih := handOut_sum rem rest
    simp only [handOut, List.map_cons, List.sum_cons]
    split_ifs <;> simp only [List.sum_cons] <;> omega

/-- Enough positive weights take every unit. -/
theorem handOut_left {rem : Int} (h0 : 0 ≤ rem) : ∀ ps : List (Int × Int),
    (∀ p ∈ ps, 0 ≤ p.1) → (handOut rem ps).1 = max 0 (rem - positives (ps.map Prod.fst))
  | [], _ => by simp [handOut, h0]
  | (w, s) :: rest, hw => by
    have ih := handOut_left h0 rest (fun p hp => hw p (List.mem_cons_of_mem _ hp))
    have hw0 : 0 ≤ w := hw (w, s) List.mem_cons_self
    simp only [handOut, List.map_cons]
    rcases hw0.lt_or_eq with hpos | rfl
    · rw [positives_cons_pos hpos, if_neg hpos.ne']
      split_ifs with hz <;> simp only <;> omega
    · rw [positives_cons_zero, ← ih]
      split_ifs with hz hne
      · rfl
      · rfl
      · exact absurd rfl hne

/-- Every position keeps its share or gets one unit more, and a zero weight keeps its share. -/
theorem handOut_shape (rem : Int) : ∀ ps : List (Int × Int),
    List.Forall₂ (fun p t => p.2 ≤ t ∧ t ≤ p.2 + 1 ∧ (p.1 = 0 → t = p.2)) ps (handOut rem ps).2
  | [] => by simp [handOut]
  | (w, s) :: rest => by
    have ih := handOut_shape rem rest
    simp only [handOut]
    split_ifs with hz hw
    · exact .cons (by simp) ih
    · exact .cons (by simp) ih
    · exact .cons (by simp [hw]) ih

/-- With nothing to hand out every share stays. -/
theorem handOut_zero : ∀ ps : List (Int × Int), handOut 0 ps = (0, ps.map Prod.snd)
  | [] => rfl
  | (w, s) :: rest => by simp [handOut, handOut_zero rest]

/-! ## The whole split -/

theorem zip_map_fst {ws ss : List Int} (h : ss.length = ws.length) :
    (ws.zip ss).map Prod.fst = ws := by
  rw [List.map_fst_zip (by omega)]

theorem zip_map_snd {ws ss : List Int} (h : ss.length = ws.length) :
    (ws.zip ss).map Prod.snd = ss := by
  rw [List.map_snd_zip (by omega)]

/-- The split uses up the total. -/
theorem split_left (total : Int) {ws : List Int} (hs : 0 < ws.sum) (hw : ∀ w ∈ ws, 0 ≤ w) :
    (split total ws).1 = 0 := by
  obtain ⟨lo, hi⟩ := remainder_bounds total hs hw
  have hfst : ∀ p ∈ ws.zip (floorShares total ws), 0 ≤ p.1 :=
    fun p hp => hw p.1 (List.of_mem_zip hp).1
  rw [split, handOut_left lo _ hfst, zip_map_fst (floorShares_length total ws)]
  omega

theorem split_sum (total : Int) {ws : List Int} (hs : 0 < ws.sum) (hw : ∀ w ∈ ws, 0 ≤ w) :
    (split total ws).2.sum = total := by
  have hsum := handOut_sum (total - (floorShares total ws).sum) (ws.zip (floorShares total ws))
  rw [zip_map_snd (floorShares_length total ws)] at hsum
  have hleft := split_left total hs hw
  rw [split] at hleft ⊢
  omega

/-- Each weight beside its share of the split: the floor, or one unit more when the weight is
positive. -/
theorem split_shape (total : Int) (ws : List Int) :
    List.Forall₂ (fun w t => total * w / ws.sum ≤ t ∧ t ≤ total * w / ws.sum + 1 ∧
      (w = 0 → t = total * w / ws.sum)) ws (split total ws).2 := by
  have h := handOut_shape (total - (floorShares total ws).sum) (ws.zip (floorShares total ws))
  have hzip : ws.zip (floorShares total ws) = ws.map (fun w => (w, total * w / ws.sum)) :=
    List.map_prod_left_eq_zip.symm
  rw [split]
  rw [hzip, List.forall₂_map_left_iff] at h
  rw [hzip]
  exact h

@[simp] theorem split_length (total : Int) (ws : List Int) :
    (split total ws).2.length = ws.length :=
  (split_shape total ws).length_eq.symm

theorem split_nonneg {total : Int} {ws : List Int} (ht : 0 ≤ total) (hw : ∀ w ∈ ws, 0 ≤ w) :
    List.Forall₂ (fun _ t => 0 ≤ t) ws (split total ws).2 := by
  have hs : 0 ≤ ws.sum := sum_nonneg_of hw
  refine (List.Forall₂.imp ?_ ((List.forall₂_and_left _ _).mpr ⟨hw, split_shape total ws⟩))
  rintro w t ⟨hw0, hlo, -, -⟩
  exact (Int.ediv_nonneg (Int.mul_nonneg ht hw0) hs).trans hlo

/-- No position gets more than its weight while the total fits in the weights. -/
theorem split_le_weight {total : Int} {ws : List Int} (hs : 0 < ws.sum) (hw : ∀ w ∈ ws, 0 ≤ w)
    (ht : total ≤ ws.sum) : List.Forall₂ (fun w t => t ≤ w) ws (split total ws).2 := by
  rcases ht.lt_or_eq with hlt | rfl
  · refine (List.Forall₂.imp ?_ ((List.forall₂_and_left _ _).mpr ⟨hw, split_shape total ws⟩))
    rintro w t ⟨hw0, -, hhi, hzero⟩
    rcases hw0.lt_or_eq with hpos | rfl
    · have := floor_lt_weight hs hpos hlt
      omega
    · simp [hzero rfl]
  · -- the floors are the weights themselves and nothing is left to hand out
    have hfloor : floorShares ws.sum ws = ws := by
      rw [floorShares]
      conv_rhs => rw [← List.map_id ws]
      refine List.map_congr_left fun w _ => ?_
      rw [Int.mul_ediv_cancel_left _ hs.ne', id]
    rw [split, hfloor, sub_self, handOut_zero, zip_map_snd rfl]
    exact List.forall₂_same.mpr fun w _ => le_refl w

/-- Nothing is split into nothing. -/
theorem split_zero (ws : List Int) : (split 0 ws).2 = ws.map fun _ => 0 := by
  have hfloor : floorShares 0 ws = ws.map fun _ => 0 := by
    simp only [floorShares, Int.zero_mul, Int.zero_ediv]
  have hsum : (ws.map fun _ => (0 : Int)).sum = 0 := by simp
  rw [split, hfloor, hsum, sub_self, handOut_zero, zip_map_snd (by rw [List.length_map])]

end ProRata
