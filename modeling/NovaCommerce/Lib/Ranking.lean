import Mathlib

/-!
# Gains of a ranking

A ranking gains, for each wanted element, a discount that falls with its rank.

* `ranksFrom` : the ranks of the wanted elements; `gain` : what they gain together;
* `ideal` : the gain of the first ranks (`gain_ranksFrom_le`);
* `gain_eq_ideal_iff` : only a ranking that leads with wanted elements gains as much;
* `mean_mem`, `mean_eq_one_iff` : means of numbers between zero and one.
-/

namespace Ranking

variable {α ν : Type}

/-- The ranks of the wanted elements, where the first element has rank `k`. -/
def ranksFrom (wanted : α → Bool) (k : Nat) (xs : List α) : List Nat :=
  ((xs.zipIdx k).filter fun e => wanted e.1).map Prod.snd

/-- The first `m` elements are there, and wanted. -/
def LeadsWith (wanted : α → Bool) (m : Nat) (xs : List α) : Prop := m ≤ xs.length ∧ ∀ x ∈ xs.take m, wanted x = true

theorem ranksFrom_cons (wanted : α → Bool) (k : Nat) (x : α) (xs : List α) :
    ranksFrom wanted k (x :: xs) = if wanted x then k :: ranksFrom wanted (k + 1) xs else ranksFrom wanted (k + 1) xs := by
  unfold ranksFrom
  rw [List.zipIdx_cons, List.filter_cons]
  split_ifs <;> rfl

/-- As many ranks as wanted elements. -/
theorem length_ranksFrom (wanted : α → Bool) (k : Nat) (xs : List α) :
    (ranksFrom wanted k xs).length = (xs.filter wanted).length := by
  induction xs generalizing k with
  | nil => rfl
  | cons x xs ih =>
    rw [ranksFrom_cons, List.filter_cons]
    split_ifs
    · rw [List.length_cons, List.length_cons, ih]
    · exact ih (k + 1)

theorem le_of_mem_ranksFrom {wanted : α → Bool} {k rank : Nat} {xs : List α} (h : rank ∈ ranksFrom wanted k xs) : k ≤ rank := by
  obtain ⟨e, he, rfl⟩ := List.mem_map.mp h
  exact List.le_snd_of_mem_zipIdx (List.mem_of_mem_filter he)

/-- Ranking one wanted element first leaves the others. -/
theorem leadsWith_cons {wanted : α → Bool} {m : Nat} {x : α} {xs : List α} :
    LeadsWith wanted (m + 1) (x :: xs) ↔ wanted x = true ∧ LeadsWith wanted m xs := by
  unfold LeadsWith
  rw [List.length_cons, Nat.add_le_add_iff_right, List.take_succ_cons, List.forall_mem_cons]
  exact and_left_comm

theorem leadsWith_zero (wanted : α → Bool) (xs : List α) : LeadsWith wanted 0 xs :=
  ⟨Nat.zero_le _, fun _ hx => absurd hx (List.not_mem_nil)⟩

section gains

variable [Field ν]

/-- What some ranks gain. -/
def gain (discount : Nat → ν) (ranks : List Nat) : ν := (ranks.map discount).sum

/-- What the first `m` ranks gain, from rank `k` on. -/
def ideal (discount : Nat → ν) (k m : Nat) : ν := gain discount (List.range' k m)

/-- From the first rank on, a discount is positive and falls. -/
structure Discounts [LinearOrder ν] (discount : Nat → ν) : Prop where
  positive : ∀ rank, 1 ≤ rank → 0 < discount rank
  falls : ∀ rank rank', 1 ≤ rank → rank < rank' → discount rank' < discount rank

theorem gain_cons (discount : Nat → ν) (rank : Nat) (ranks : List Nat) :
    gain discount (rank :: ranks) = discount rank + gain discount ranks := by
  unfold gain
  rw [List.map_cons, List.sum_cons]

theorem ideal_zero (discount : Nat → ν) (k : Nat) : ideal discount k 0 = 0 := rfl

theorem ideal_succ (discount : Nat → ν) (k m : Nat) : ideal discount k (m + 1) = discount k + ideal discount (k + 1) m := by
  unfold ideal
  rw [List.range'_succ, gain_cons]

variable [LinearOrder ν] [IsStrictOrderedRing ν] {discount : Nat → ν} {wanted : α → Bool}

theorem gain_nonneg (h : Discounts discount) {ranks : List Nat} (hranks : ∀ rank ∈ ranks, 1 ≤ rank) : 0 ≤ gain discount ranks := by
  unfold gain
  refine List.sum_nonneg fun x hx => ?_
  obtain ⟨rank, hrank, rfl⟩ := List.mem_map.mp hx
  exact (h.positive rank (hranks rank hrank)).le

theorem ideal_nonneg (h : Discounts discount) {k : Nat} (hk : 1 ≤ k) (m : Nat) : 0 ≤ ideal discount k m :=
  gain_nonneg h fun _ hrank => hk.trans (List.mem_range'_1.mp hrank).1

theorem ideal_pos (h : Discounts discount) {k m : Nat} (hk : 1 ≤ k) (hm : 0 < m) : 0 < ideal discount k m := by
  obtain ⟨m, rfl⟩ := Nat.exists_eq_succ_of_ne_zero hm.ne'
  rw [ideal_succ]
  exact add_pos_of_pos_of_nonneg (h.positive k hk) (ideal_nonneg h (by omega) m)

/-- Later ranks gain less. -/
theorem ideal_succ_le (h : Discounts discount) {k : Nat} (hk : 1 ≤ k) (m : Nat) : ideal discount (k + 1) m ≤ ideal discount k m := by
  induction m generalizing k with
  | zero => exact le_refl _
  | succ m ih =>
    rw [ideal_succ, ideal_succ]
    exact add_le_add (h.falls k (k + 1) hk (Nat.lt_succ_self k)).le (ih (by omega))

theorem ideal_succ_lt (h : Discounts discount) {k m : Nat} (hk : 1 ≤ k) (hm : 0 < m) : ideal discount (k + 1) m < ideal discount k m := by
  obtain ⟨m, rfl⟩ := Nat.exists_eq_succ_of_ne_zero hm.ne'
  rw [ideal_succ, ideal_succ]
  exact add_lt_add_of_lt_of_le (h.falls k (k + 1) hk (Nat.lt_succ_self k)) (ideal_succ_le h (by omega) m)

/-- No ranking with `m` wanted elements gains more than the first `m` ranks. -/
theorem gain_ranksFrom_le (h : Discounts discount) {xs : List α} {k m : Nat} (hk : 1 ≤ k) (hm : (xs.filter wanted).length ≤ m) :
    gain discount (ranksFrom wanted k xs) ≤ ideal discount k m := by
  induction xs generalizing k m with
  | nil => exact ideal_nonneg h hk m
  | cons x xs ih =>
    rw [ranksFrom_cons]
    rw [List.filter_cons] at hm
    by_cases hx : wanted x = true
    · rw [if_pos hx, List.length_cons] at hm
      obtain ⟨m, rfl⟩ := Nat.exists_eq_succ_of_ne_zero (by omega : m ≠ 0)
      rw [if_pos hx, gain_cons, ideal_succ]
      exact add_le_add (le_refl _) (ih (by omega) (by omega))
    · rw [if_neg hx] at hm
      rw [if_neg hx]
      exact (ih (by omega) hm).trans (ideal_succ_le h hk m)

/-- Only a ranking that leads with `m` wanted elements gains as much as the first `m` ranks. -/
theorem gain_eq_ideal_iff (h : Discounts discount) {xs : List α} {k m : Nat} (hk : 1 ≤ k) (hm : (xs.filter wanted).length ≤ m) :
    gain discount (ranksFrom wanted k xs) = ideal discount k m ↔ LeadsWith wanted m xs := by
  induction xs generalizing k m with
  | nil =>
    constructor
    · intro heq
      rcases Nat.eq_zero_or_pos m with rfl | hpos
      · exact leadsWith_zero wanted []
      · exact absurd heq (ideal_pos h hk hpos).ne
    · intro hlead
      have hzero : m = 0 := Nat.le_zero.mp hlead.1
      rw [hzero]
      rfl
  | cons x xs ih =>
    rw [ranksFrom_cons]
    rw [List.filter_cons] at hm
    by_cases hx : wanted x = true
    · rw [if_pos hx, List.length_cons] at hm
      obtain ⟨m, rfl⟩ := Nat.exists_eq_succ_of_ne_zero (by omega : m ≠ 0)
      rw [if_pos hx, gain_cons, ideal_succ, add_right_inj, ih (by omega) (by omega), leadsWith_cons]
      exact (and_iff_right hx).symm
    · rw [if_neg hx] at hm
      rw [if_neg hx]
      have hle := gain_ranksFrom_le h (k := k + 1) (by omega) hm
      rcases Nat.eq_zero_or_pos m with rfl | hpos
      · refine iff_of_true ?_ (leadsWith_zero wanted _)
        exact le_antisymm hle (gain_nonneg h fun _ hrank => (by omega : 1 ≤ k + 1).trans (le_of_mem_ranksFrom hrank))
      · refine iff_of_false (hle.trans_lt (ideal_succ_lt h hk hpos)).ne fun hlead => ?_
        obtain ⟨m, rfl⟩ := Nat.exists_eq_succ_of_ne_zero hpos.ne'
        exact hx (leadsWith_cons.mp hlead).1

/-! ## Means -/

/-- A sum of `n` numbers between zero and one, over `n`. -/
theorem mean_mem {sum : ν} {n : Nat} (hn : 0 < n) (h0 : 0 ≤ sum) (h1 : sum ≤ n) : 0 ≤ sum / n ∧ sum / n ≤ 1 := by
  have hpos : (0 : ν) < n := Nat.cast_pos.mpr hn
  exact ⟨div_nonneg h0 hpos.le, (div_le_one hpos).mpr h1⟩

theorem mean_eq_one_iff {sum : ν} {n : Nat} (hn : 0 < n) : sum / n = 1 ↔ sum = n := by
  have hpos : (0 : ν) < n := Nat.cast_pos.mpr hn
  exact div_eq_one_iff_eq hpos.ne'

/-- One number more keeps a sum full only if it is one itself. -/
theorem add_eq_succ_iff {sum x : ν} {n : Nat} (h : sum ≤ n) (hx : x ≤ 1) : sum + x = ((n + 1 : Nat) : ν) ↔ sum = n ∧ x = 1 := by
  rw [Nat.cast_succ]
  constructor
  · intro heq
    have hsum : sum = n := by linarith
    exact ⟨hsum, by linarith⟩
  · rintro ⟨rfl, rfl⟩
    rfl

end gains

end Ranking
