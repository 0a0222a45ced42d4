import NovaCommerce.Pricing.Allocation

/-!
# Fair shares

* `FairShare` : a share is the floor of its exact value or one unit more, within its weight;
* `allocateProRata_fair` : every allocation that its weights can carry is made of fair shares;
* `allocateProRata_distant` : a unit of the remainder may go to a share that is exact already.
-/

namespace NovaCommerce.Pricing

open Raise

/-- `share` of `total` for a weight out of `sum`. Scaled by `sum`, it misses the exact value by less than one unit, or lies one
unit above an exact value that is whole. -/
structure FairShare (total sum weight share : Int) : Prop where
  nonneg : 0 ≤ share
  zero : weight = 0 → share = 0
  within : share ≤ weight
  floor : share = total * weight / sum ∨ share = total * weight / sum + 1
  near : |share * sum - total * weight| < sum ∨ (total * weight % sum = 0 ∧ share * sum = total * weight + sum)

/-- A floor, with or without a unit of the remainder, is near the exact value. -/
theorem near_of_floor {total sum weight share : Int} (hs : 0 < sum)
    (h : share = total * weight / sum ∨ share = total * weight / sum + 1) :
    |share * sum - total * weight| < sum ∨ (total * weight % sum = 0 ∧ share * sum = total * weight + sum) := by
  have hdiv : sum * (total * weight / sum) + total * weight % sum = total * weight := Int.mul_ediv_add_emod _ _
  have hlow : 0 ≤ total * weight % sum := Int.emod_nonneg _ hs.ne'
  have hhigh : total * weight % sum < sum := Int.emod_lt_of_pos _ hs
  rcases h with h | h
  · left
    have hscaled : share * sum = sum * (total * weight / sum) := by rw [h, Int.mul_comm]
    rw [abs_lt]
    constructor <;> omega
  · have hscaled : share * sum = sum * (total * weight / sum) + sum := by rw [h, Int.add_mul, Int.mul_comm, Int.one_mul]
    rcases hlow.lt_or_eq with hpos | hzero
    · left
      rw [abs_lt]
      constructor <;> omega
    · right
      constructor <;> omega

theorem fairShare_split {total : Int} {weights : List Int} (ht : 0 ≤ total) (hle : total ≤ weights.sum)
    (hw : ∀ w ∈ weights, 0 ≤ w) (hs : 0 < weights.sum) :
    List.Forall₂ (FairShare total weights.sum) weights (ProRata.split total weights).2 := by
  have hnonneg := ProRata.split_nonneg ht hw
  have hwithin := ProRata.split_le_weight hs hw hle
  have hshape := ProRata.split_shape total weights
  rw [List.forall₂_iff_zip] at hnonneg hwithin hshape ⊢
  refine ⟨hshape.1, fun {w t} hmem => ?_⟩
  obtain ⟨hlo, hhi, hzero⟩ := hshape.2 hmem
  have hfloor : t = total * w / weights.sum ∨ t = total * w / weights.sum + 1 := by omega
  refine ⟨hnonneg.2 hmem, fun h => ?_, hwithin.2 hmem, hfloor, near_of_floor hs hfloor⟩
  rw [hzero h, h, Int.mul_zero, Int.zero_ediv]

/-- Weights that can carry the total share it out fairly, and the walk over the positive weights takes the whole remainder. -/
theorem allocateProRata_fair (total : Int) (weights : List Int) (ht : 0 ≤ total) (hle : total ≤ weights.sum)
    (hw : ∀ w ∈ weights, 0 ≤ w) (hs : 0 < weights.sum) :
    (ProRata.split total weights).1 = 0 ∧ ∃ shares, allocateProRata total weights = .ok shares ∧
      shares.length = weights.length ∧ shares.sum = total ∧ List.Forall₂ (FairShare total weights.sum) weights shares := by
  refine ⟨ProRata.split_left total hs hw, (ProRata.split total weights).2, allocateProRata_eq ht hw hs, ?_, ?_,
    fairShare_split ht hle hw hs⟩
  · exact ProRata.split_length total weights
  · exact ProRata.split_sum total hs hw

theorem allocateProRata_fair_sample : ∃ shares, allocateProRata 5 [2, 0, 3, 2] = .ok shares ∧ shares.sum = 5 ∧
    List.Forall₂ (FairShare 5 7) [2, 0, 3, 2] shares := by
  obtain ⟨-, shares, h, -, hsum, hfair⟩ :=
    allocateProRata_fair 5 [2, 0, 3, 2] (by decide) (by decide) (by decide) (by decide)
  exact ⟨shares, h, hsum, hfair⟩

/-- Of 2 units for the weights 1, 1 and 2 the last one takes both, one more than its exact value. -/
theorem allocateProRata_distant : ¬ ∀ (total : Int) (weights : List Int), 0 ≤ total → total ≤ weights.sum →
    (∀ w ∈ weights, 0 ≤ w) → 0 < weights.sum → ∃ shares, allocateProRata total weights = .ok shares ∧
      List.Forall₂ (fun w t => |t * weights.sum - total * w| < weights.sum) weights shares := by
  intro h
  obtain ⟨shares, hshares, hnear⟩ := h 2 [1, 1, 2] (by decide) (by decide) (by decide) (by decide)
  have hvalue : allocateProRata 2 [1, 1, 2] = .ok [0, 0, 2] := by decide
  rw [hvalue] at hshares
  cases hshares
  revert hnear
  decide

end NovaCommerce.Pricing
