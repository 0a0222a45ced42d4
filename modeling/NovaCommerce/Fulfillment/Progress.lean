import NovaCommerce.Fulfillment.Shipping

/-!
# How far an order has shipped

`computeFulfillmentStatus` reads the lines in the order it is given them, and answers at the first line that is short.

* `threeWay` : the rule, for a set of lines: nothing, everything, or a part;
* `fulfillmentAxis_eq` : what the answer says is decided by the first line alone;
* `fulfillmentStatus_follows_iff` : when it says what the rule says, in one order of the lines and in every order.
-/

namespace NovaCommerce

variable {shipped : Nat → Int} {lines : List (Nat × Int)}

/-- Nothing has left on any line. -/
def NothingShipped (shipped : Nat → Int) (lines : List (Nat × Int)) : Prop := ∀ line ∈ lines, shipped line.1 = 0

/-- Every line has left in full. -/
def EverythingShipped (shipped : Nat → Int) (lines : List (Nat × Int)) : Prop := ∀ line ∈ lines, line.2 ≤ shipped line.1

instance decidableNothingShipped : Decidable (NothingShipped shipped lines) := by
  unfold NothingShipped
  infer_instance

instance decidableEverythingShipped : Decidable (EverythingShipped shipped lines) := by
  unfold EverythingShipped
  infer_instance

/-- The three-way rule. -/
def threeWay (shipped : Nat → Int) (lines : List (Nat × Int)) : FulfillmentStatus :=
  if NothingShipped shipped lines then .unfulfilled
  else if EverythingShipped shipped lines then .shipped
  else .partialShipped

/-- The rule does not depend on the order of the lines. -/
theorem threeWay_perm {lines' : List (Nat × Int)} (h : lines'.Perm lines) : threeWay shipped lines' = threeWay shipped lines := by
  have hnothing : NothingShipped shipped lines' ↔ NothingShipped shipped lines := by
    unfold NothingShipped
    simp only [h.mem_iff]
  have heverything : EverythingShipped shipped lines' ↔ EverythingShipped shipped lines := by
    unfold EverythingShipped
    simp only [h.mem_iff]
  unfold threeWay
  simp only [hnothing, heverything]

/-- Once something has left, the answer is a part or everything. -/
theorem fulfillmentAxis_some : fulfillmentAxis shipped lines true =
    if EverythingShipped shipped lines then .shipped else .partialShipped := by
  induction lines with
  | nil =>
    have hnil : EverythingShipped shipped [] := fun _ h => nomatch h
    rw [if_pos hnil]
    rfl
  | cons line lines ih =>
    obtain ⟨id, orderedQuantity⟩ := line
    unfold fulfillmentAxis
    dsimp only
    rw [Bool.true_or, if_pos rfl, ih]
    have hcons : EverythingShipped shipped ((id, orderedQuantity) :: lines) ↔
        orderedQuantity ≤ shipped id ∧ EverythingShipped shipped lines := List.forall_mem_cons
    by_cases hshort : shipped id < orderedQuantity
    · rw [if_pos hshort, if_neg fun h => absurd (hcons.mp h).1 (not_le.mpr hshort)]
    · rw [if_neg hshort]
      simp only [hcons, not_lt.mp hshort, true_and]

/-- The first line decides: when nothing has left on it the answer is that nothing has left at all. -/
theorem fulfillmentAxis_eq {line : Nat × Int} (hordered : 0 < line.2) (hshipped : 0 ≤ shipped line.1) :
    fulfillmentAxis shipped (line :: lines) false =
      if shipped line.1 = 0 then .unfulfilled
      else if EverythingShipped shipped (line :: lines) then .shipped else .partialShipped := by
  by_cases hzero : shipped line.1 = 0
  · have hshort : shipped line.1 < line.2 := by omega
    unfold fulfillmentAxis
    simp [hzero, hordered]
  · have hsome : fulfillmentAxis shipped (line :: lines) false = fulfillmentAxis shipped (line :: lines) true := by
      have hleft : decide (0 < shipped line.1) = true := decide_eq_true (by omega)
      unfold fulfillmentAxis
      simp only [hleft, Bool.or_true]
    rw [hsome, fulfillmentAxis_some, if_neg hzero]

/-- In one order of the lines the answer follows the rule exactly when nothing has left at all, or something has on the first. -/
theorem fulfillmentAxis_follows_iff {line : Nat × Int} (hordered : 0 < line.2) (hshipped : 0 ≤ shipped line.1) :
    fulfillmentAxis shipped (line :: lines) false = threeWay shipped (line :: lines) ↔
      NothingShipped shipped (line :: lines) ∨ 0 < shipped line.1 := by
  rw [fulfillmentAxis_eq hordered hshipped]
  unfold threeWay
  by_cases hnothing : NothingShipped shipped (line :: lines)
  · simp [hnothing, hnothing line List.mem_cons_self]
  · rw [if_neg hnothing]
    by_cases hzero : shipped line.1 = 0
    · rw [if_pos hzero]
      simp only [hnothing, hzero, lt_irrefl, or_self, iff_false]
      split_ifs <;> decide
    · rw [if_neg hzero]
      exact iff_of_true rfl (.inr (by omega))

/-- In the order it is given, the answer follows the rule exactly when nothing has left or something has on the first line; and it
does so whatever the order, exactly when nothing has left on any line or something has on every line. -/
theorem fulfillmentStatus_follows_iff (ordered : Dict Nat Int) (shipped : Nat → Int) (current : Option FulfillmentStatus)
    (hlines : ordered.entries ≠ []) (hordered : ∀ line ∈ ordered.entries, 0 < line.2) (hshipped : ∀ id, 0 ≤ shipped id)
    (hcurrent : current ≠ some .delivered) :
    (computeFulfillmentStatus ordered shipped current = threeWay shipped ordered.entries ↔
      NothingShipped shipped ordered.entries ∨ ∃ line ∈ ordered.entries.head?, 0 < shipped line.1) ∧
    ((∀ ordered' : Dict Nat Int, ordered'.entries.Perm ordered.entries →
        computeFulfillmentStatus ordered' shipped current = threeWay shipped ordered.entries) ↔
      NothingShipped shipped ordered.entries ∨ ∀ line ∈ ordered.entries, 0 < shipped line.1) := by
  have hfollows : ∀ ordered' : Dict Nat Int, ordered'.entries.Perm ordered.entries → ∀ line rest,
      ordered'.entries = line :: rest →
      (computeFulfillmentStatus ordered' shipped current = threeWay shipped ordered.entries ↔
        NothingShipped shipped ordered.entries ∨ 0 < shipped line.1) := by
    intro ordered' hperm line rest hentries
    have hmem : line ∈ ordered.entries := hperm.mem_iff.mp (hentries ▸ List.mem_cons_self)
    unfold computeFulfillmentStatus
    rw [if_neg hcurrent, if_neg (by simp [hentries]), ← threeWay_perm hperm, hentries,
      fulfillmentAxis_follows_iff (hordered line hmem) (hshipped line.1), ← hentries]
    unfold NothingShipped
    simp only [hperm.mem_iff]
  refine ⟨?_, ?_, ?_⟩
  · obtain ⟨line, rest, hentries⟩ := List.exists_cons_of_ne_nil hlines
    rw [hfollows ordered (.refl _) line rest hentries]
    simp [hentries]
  · intro hall
    by_contra hcon
    rw [not_or] at hcon
    obtain ⟨hsome, hzero⟩ := hcon
    push Not at hzero
    obtain ⟨line, hmem, hle⟩ := hzero
    obtain ⟨ordered', hperm, rest, hentries⟩ := Dict.exists_perm_head hmem
    rcases (hfollows ordered' hperm line rest hentries).mp (hall ordered' hperm) with hnothing | hpos
    · exact hsome hnothing
    · omega
  · intro h ordered' hperm
    have hne : ordered'.entries ≠ [] := by
      intro hnil
      rw [hnil, List.nil_perm] at hperm
      exact hlines hperm
    obtain ⟨line, rest, hentries⟩ := List.exists_cons_of_ne_nil hne
    have hmem : line ∈ ordered.entries := hperm.mem_iff.mp (hentries ▸ List.mem_cons_self)
    exact (hfollows ordered' hperm line rest hentries).mpr (h.imp_right fun hall => hall line hmem)

/-- One of two lines has left in part. -/
theorem fulfillmentStatus_follows_first :
    computeFulfillmentStatus (Dict.ofList [(1, 2), (2, 3)]) (fun id => if id = 1 then 1 else 0) none =
      threeWay (fun id => if id = 1 then 1 else 0) [(1, 2), (2, 3)] := by
  have h := fulfillmentStatus_follows_iff (Dict.ofList [(1, 2), (2, 3)]) (fun id => if id = 1 then 1 else 0) none
    (by decide) (by decide) (fun id => by split_ifs <;> decide) (by decide)
  exact h.1.mpr (by decide)

/-- The second of two lines has left in full, and the answer is that nothing has left. -/
theorem fulfillmentStatus_second_line :
    computeFulfillmentStatus (Dict.ofList [(1, 2), (2, 3)]) (fun id => if id = 2 then 3 else 0) (some .unfulfilled) = .unfulfilled ∧
    computeFulfillmentStatus (Dict.ofList [(2, 3), (1, 2)]) (fun id => if id = 2 then 3 else 0) (some .unfulfilled) =
      .partialShipped ∧
    threeWay (fun id => if id = 2 then 3 else 0) [(1, 2), (2, 3)] = .partialShipped := by
  decide

end NovaCommerce
