import NovaCommerce.AfterSales.Claims

/-!
# What one claim may ask for

The cap of a line is its remaining money times its remaining units over its quantity. The units a claim names do not enter it, and
the refunds before it enter it twice.

* `Admits` : the caps let a claim through; `admits_line` : for a claim on one line;
* `claimCap_share_iff` : when the cap is the share of the units named;
* `ClaimedInTurn` : claims on one line, each refunded before the next (`later_claims_fall_short`);
* `claimShare_iff` : both halves.
-/

namespace NovaCommerce

open Raise

/-- The order can be claimed against. -/
def Order.Claimable (order : Order) : Prop :=
  order.orderStatus ∉ deadOrderStatuses ∧ order.paymentStatus ∈ claimablePaymentStatuses

/-- The caps let a claim for an amount through. -/
def Admits (order : Order) (items : List (Nat × OrderItem)) (claimed : Nat → Int) (lines : List (Nat × Int)) (amount : Int) : Prop :=
  ∃ verdict, eligibility order items claimed lines = .ok verdict ∧ checkClaim amount lines verdict = .ok ()

section

variable {order : Order} {items : List (Nat × OrderItem)} {claimed : Nat → Int} {lineId : Nat} {item : OrderItem}

/-- A claim on one line is let through for at most the cap of the line. -/
theorem admits_line (hclaimable : order.Claimable) (hitem : rowOf items lineId = some item) {q : Int} (hq : 0 < q) (amount : Int) :
    Admits order items claimed [(lineId, q)] amount ↔
      0 < item.claimCap (claimed lineId) ∧ q ≤ item.remainingUnits (claimed lineId) ∧ amount ≤ item.claimCap (claimed lineId) := by
  have hmem := mem_of_rowOf hitem
  have hon : lineId ∈ items.map Prod.fst := List.mem_map_of_mem hmem
  have hcap : ((([(lineId, q)].map Prod.fst).dedup).map fun id =>
      (rowOf (items.map fun e => (e.1, e.2.claimCap (claimed e.1))) id).getD 0).sum = item.claimCap (claimed lineId) := by
    have hone : ([(lineId, q)].map Prod.fst).dedup = [lineId] := by simp
    rw [hone, List.map_singleton, List.sum_singleton, rowOf_map items (fun id item => item.claimCap (claimed id)), hitem]
    rfl
  have hunits : (rowOf (items.map fun e => (e.1, e.2.remainingUnits (claimed e.1))) lineId).getD 0 =
      item.remainingUnits (claimed lineId) := by
    rw [rowOf_map items (fun id item => item.remainingUnits (claimed id)), hitem]
    rfl
  unfold Admits
  constructor
  · rintro ⟨verdict, hverdict, hchecked⟩
    unfold eligibility at hverdict
    simp only [bind_eq_ok, raiseIf_eq_ok, pure_eq_ok, Bool.not_eq_false] at hverdict
    obtain ⟨-, -, -, -, -, -, -, hcapacity, rfl⟩ := hverdict
    unfold checkClaim at hchecked
    simp only [bind_eq_ok, raiseIf_eq_ok, not_lt] at hchecked
    obtain ⟨⟨⟩, havailable, hamount⟩ := hchecked
    have havailable := not_lt.mp (raiseIf_eq_ok.mp (forEach_eq_ok.mp havailable (lineId, q) List.mem_cons_self))
    unfold ClaimEligibility.hasCapacity at hcapacity
    rw [Bool.and_eq_true, decide_eq_true_eq] at hcapacity
    exact ⟨hcap ▸ hcapacity.1, hunits ▸ havailable, hcap ▸ hamount⟩
  · rintro ⟨hpos, havailable, hamount⟩
    refine ⟨{
      amountCap := ((([(lineId, q)].map Prod.fst).dedup).map fun id =>
        (rowOf (items.map fun e => (e.1, e.2.claimCap (claimed e.1))) id).getD 0).sum
      claimableQuantity := items.map fun e => (e.1, e.2.remainingUnits (claimed e.1))
      linePayables := items.map fun e => (e.1, e.2.payableAmount)
      lineRefunded := items.map fun e => (e.1, e.2.refundedAmount) }, ?_, ?_⟩
    · unfold eligibility
      simp only [bind_eq_ok, raiseIf_eq_ok, pure_eq_ok, Bool.not_eq_false, not_not]
      refine ⟨(), hclaimable.1, (), hclaimable.2, (), forEach_eq_ok.mpr fun line hline => ?_, (), ?_, trivial⟩
      · rw [List.mem_singleton.mp hline]
        exact raiseIf_neg (not_not.mpr hon)
      unfold ClaimEligibility.hasCapacity
      rw [Bool.and_eq_true, decide_eq_true_eq]
      refine ⟨hcap.symm ▸ hpos, ?_⟩
      refine List.any_eq_true.mpr ⟨(lineId, item.remainingUnits (claimed lineId)), List.mem_map.mpr ⟨_, hmem, rfl⟩, ?_⟩
      exact decide_eq_true (by omega)
    · unfold checkClaim
      simp only [bind_eq_ok, raiseIf_eq_ok, not_lt]
      refine ⟨(), forEach_eq_ok.mpr fun line hline => ?_, hcap.symm ▸ hamount⟩
      rw [List.mem_singleton.mp hline]
      exact raiseIf_neg (not_lt.mpr (hunits.symm ▸ havailable))

end

/-! ## One claim -/

section

variable {item : OrderItem} {claimed : Int}

theorem claimCap_of_units (hunits : 0 < item.remainingUnits claimed) (hn : 0 < item.quantity) :
    item.claimCap claimed = max (item.payableAmount - item.refundedAmount) 0 * item.remainingUnits claimed / item.quantity :=
  if_pos ⟨hunits, hn⟩

theorem claimCap_nonneg (item : OrderItem) (claimed : Int) : 0 ≤ item.claimCap claimed := by
  unfold OrderItem.claimCap
  dsimp only
  split_ifs with h
  · exact Int.ediv_nonneg (Int.mul_nonneg (le_max_right _ _) h.1.le) h.2.le
  · exact le_refl 0

/-- The cap exceeds the share of `q` units by less than one, exactly when the money of the remaining units does. -/
theorem claimCap_share_iff (hunits : 0 < item.remainingUnits claimed) (hn : 0 < item.quantity) (q : Int) :
    item.claimCap claimed * item.quantity < item.payableAmount * q + item.quantity ↔
      max (item.payableAmount - item.refundedAmount) 0 * item.remainingUnits claimed <
        ((item.payableAmount * q + item.quantity - 1) / item.quantity + 1) * item.quantity := by
  rw [claimCap_of_units hunits hn]
  generalize max (item.payableAmount - item.refundedAmount) 0 * item.remainingUnits claimed = money
  calc money / item.quantity * item.quantity < item.payableAmount * q + item.quantity ↔
        money / item.quantity * item.quantity ≤ item.payableAmount * q + item.quantity - 1 := by omega
    _ ↔ money / item.quantity ≤ (item.payableAmount * q + item.quantity - 1) / item.quantity := (Int.le_ediv_iff_mul_le hn).symm
    _ ↔ money / item.quantity < (item.payableAmount * q + item.quantity - 1) / item.quantity + 1 := Int.lt_add_one_iff.symm
    _ ↔ money < ((item.payableAmount * q + item.quantity - 1) / item.quantity + 1) * item.quantity := Int.ediv_lt_iff_lt_mul hn

/-- A cap never exceeds the money of the line, and stays below it once units were claimed. -/
theorem claimCap_le (hn : 0 < item.quantity) (hclaimed : 0 ≤ claimed) (hpos : 0 < item.claimCap claimed) :
    item.claimCap claimed ≤ item.payableAmount - item.refundedAmount ∧
      (0 < claimed → item.claimCap claimed < item.payableAmount - item.refundedAmount) := by
  have hunits : 0 < item.remainingUnits claimed := by
    by_contra hnone
    have hzero : item.claimCap claimed = 0 := if_neg fun h => hnone h.1
    omega
  have hcap := claimCap_of_units hunits hn
  have hmul := Int.ediv_mul_le (max (item.payableAmount - item.refundedAmount) 0 * item.remainingUnits claimed) hn.ne'
  rw [← hcap] at hmul
  have hleft : item.remainingUnits claimed = item.quantity - claimed := by
    unfold OrderItem.remainingUnits at hunits ⊢
    omega
  rw [hleft] at hmul hunits
  have hmoney : 0 < item.payableAmount - item.refundedAmount := by
    by_contra hnone
    rw [max_eq_right (by omega), zero_mul] at hmul
    nlinarith only [hmul, hpos, hn]
  rw [max_eq_left hmoney.le] at hmul
  constructor
  · by_contra hlt
    nlinarith only [hmul, hlt, hn, hclaimed, hmoney]
  · intro hsome
    by_contra hlt
    nlinarith only [hmul, hlt, hn, hsome, hmoney]

end

/-! ## Claims in turn -/

/-- A claim on one line: the units it names, the money it asks for and the money it is refunded. -/
structure LineClaim where
  quantity : Int
  asked : Int
  refunded : Int

/-- Claims on one line of an order, each of them let through and refunded before the next. -/
inductive ClaimedInTurn (order : Order) (lineId : Nat) : OrderItem → Int → List LineClaim → Prop where
  | none {item : OrderItem} {claimed : Int} : ClaimedInTurn order lineId item claimed []
  | claim {item : OrderItem} {claimed : Int} {c : LineClaim} {cs : List LineClaim} (units : 0 < c.quantity) (asks : 0 < c.asked)
      (admitted : Admits order [(lineId, item)] (fun _ => claimed) [(lineId, c.quantity)] c.asked)
      (refunded : 0 ≤ c.refunded ∧ c.refunded ≤ c.asked)
      (later : ClaimedInTurn order lineId (item.withShare c.refunded) (claimed + c.quantity) cs) :
      ClaimedInTurn order lineId item claimed (c :: cs)

section

variable {order : Order} {lineId : Nat} {item : OrderItem} {claimed : Int}

theorem rowOf_single (lineId : Nat) (item : OrderItem) : rowOf [(lineId, item)] lineId = some item := by
  simp [rowOf]

/-- Once units were claimed, the claims on the rest leave money on the line. -/
theorem later_claims_fall_short (hclaimable : order.Claimable) {cs : List LineClaim} (h : ClaimedInTurn order lineId item claimed cs)
    (hn : 0 < item.quantity) (hclaimed : 0 < claimed) (hcs : cs ≠ []) :
    item.refundedAmount + (cs.map LineClaim.refunded).sum < item.payableAmount := by
  induction h with
  | none => exact absurd rfl hcs
  | @claim item claimed c cs units _ admitted refunded later ih =>
    obtain ⟨hpos, -, hasked⟩ := (admits_line hclaimable (rowOf_single lineId item) units c.asked).mp admitted
    have hbelow := (claimCap_le hn hclaimed.le hpos).2 hclaimed
    rw [List.map_cons, List.sum_cons]
    by_cases hlast : cs = []
    · rw [hlast]
      simp only [List.map_nil, List.sum_nil]
      omega
    · have hrest : item.refundedAmount + c.refunded + (cs.map LineClaim.refunded).sum < item.payableAmount :=
        ih hn (by omega) hlast
      omega

/-- Claims for all the units of a line can bring back all of its money only if they are one claim. -/
theorem whole_line_iff (hclaimable : order.Claimable) (hn : 0 < item.quantity) (hfresh : item.refundedAmount = 0) {qs : List Int}
    (hqs : ∀ q ∈ qs, 0 < q) (hall : qs.sum = item.quantity) :
    (∃ cs : List LineClaim, cs.map LineClaim.quantity = qs ∧ ClaimedInTurn order lineId item 0 cs ∧
        (cs.map LineClaim.refunded).sum = item.payableAmount) ↔
      0 < item.payableAmount ∧ qs.length = 1 := by
  constructor
  · rintro ⟨cs, rfl, hturn, htotal⟩
    cases hturn with
    | none =>
      simp only [List.map_nil, List.sum_nil] at hall
      omega
    | @claim _ _ c cs units _ admitted refunded later =>
      obtain ⟨hpos, -, hasked⟩ := (admits_line hclaimable (rowOf_single lineId item) units c.asked).mp admitted
      have hmoney := (claimCap_le hn le_rfl hpos).1
      refine ⟨by omega, ?_⟩
      by_cases hlast : cs = []
      · rw [hlast]
        rfl
      · have hshort := later_claims_fall_short hclaimable later hn (by omega) hlast
        rw [List.map_cons, List.sum_cons] at htotal
        have hshort : item.refundedAmount + c.refunded + (cs.map LineClaim.refunded).sum < item.payableAmount := hshort
        omega
  · rintro ⟨hmoney, hone⟩
    obtain ⟨q, rfl⟩ := List.length_eq_one_iff.mp hone
    rw [List.sum_singleton] at hall
    subst hall
    refine ⟨[⟨item.quantity, item.payableAmount, item.payableAmount⟩], rfl, ?_, by simp⟩
    have hunits : item.remainingUnits 0 = item.quantity := by
      unfold OrderItem.remainingUnits
      omega
    have hcap : item.claimCap 0 = item.payableAmount := by
      rw [claimCap_of_units (by omega) hn, hunits, hfresh, sub_zero, max_eq_left hmoney.le]
      exact Int.mul_ediv_cancel _ hn.ne'
    refine .claim hn hmoney ?_ ⟨hmoney.le, le_rfl⟩ .none
    rw [admits_line hclaimable (rowOf_single lineId item) hn]
    exact ⟨hcap ▸ hmoney, hunits.ge, hcap.ge⟩

end

/-- A claim for `q` of the remaining units may ask for at most their share, up to less than one, exactly when the money of all
remaining units is no more; and claims for all units can bring back all the money exactly when they are one claim. -/
theorem claimShare_iff {order : Order} (hclaimable : order.Claimable) {items : List (Nat × OrderItem)} (claimed : Nat → Int)
    {lineId : Nat} {item : OrderItem} (hitem : rowOf items lineId = some item) (hchecked : item.Checked) :
    (∀ q, 0 < q → q ≤ item.remainingUnits (claimed lineId) →
      ((∀ amount, 0 < amount → Admits order items claimed [(lineId, q)] amount →
          amount * item.quantity < item.payableAmount * q + item.quantity) ↔
        max (item.payableAmount - item.refundedAmount) 0 * item.remainingUnits (claimed lineId) <
          ((item.payableAmount * q + item.quantity - 1) / item.quantity + 1) * item.quantity)) ∧
    ∀ qs : List Int, (∀ q ∈ qs, 0 < q) → qs.sum = item.quantity → item.refundedAmount = 0 →
      ((∃ cs : List LineClaim, cs.map LineClaim.quantity = qs ∧ ClaimedInTurn order lineId item 0 cs ∧
          (cs.map LineClaim.refunded).sum = item.payableAmount) ↔
        0 < item.payableAmount ∧ qs.length = 1) := by
  obtain ⟨hn, -, -, -, hpayable, -⟩ := hchecked
  refine ⟨fun q hq hle => ?_, fun qs hqs hall hfresh => whole_line_iff hclaimable hn hfresh hqs hall⟩
  rw [← claimCap_share_iff (hq.trans_le hle) hn]
  constructor
  · intro h
    rcases (claimCap_nonneg item (claimed lineId)).eq_or_lt with hzero | hpos
    · rw [← hzero, zero_mul]
      have hshare := Int.mul_nonneg hpayable hq.le
      omega
    · exact h _ hpos ((admits_line hclaimable hitem hq _).mpr ⟨hpos, hle, le_rfl⟩)
  · intro h amount _ hadmitted
    obtain ⟨-, -, hamount⟩ := (admits_line hclaimable hitem hq amount).mp hadmitted
    have hmul := Int.mul_le_mul_of_nonneg_right hamount hn.le
    omega

/-- A paid order. -/
def sampleBoxOrder : Order where
  orderNo := "NV20240101000001"
  userId := 1
  merchantId := 1
  orderStatus := .processing
  paymentStatus := .paid
  fulfillmentStatus := .unfulfilled
  afterSaleStatus := .none
  originalAmount := 300
  payableAmount := 300
  paidAmount := 300
  requestHash := ""
  clientRequestId := "order"

/-- Its line of three boxes. -/
def sampleBoxes (refundedAmount : Int) : OrderItem where
  orderId := 1
  warehouseId := 1
  productId := 1
  skuId := 1
  productName := "Box"
  skuName := "Box"
  unitPrice := 100
  quantity := 3
  originalAmount := 300
  payableAmount := 300
  refundedAmount := refundedAmount

theorem sampleBoxOrder_claimable : sampleBoxOrder.Claimable := by
  unfold Order.Claimable
  decide

/-- The last box, after two were claimed and refunded; and all three in one claim. -/
theorem claimShare_last_box :
    (∀ amount, 0 < amount → Admits sampleBoxOrder [(1, sampleBoxes 200)] (fun _ => 2) [(1, 1)] amount → amount * 3 < 300 * 1 + 3) ∧
    ∃ cs : List LineClaim, cs.map LineClaim.quantity = [3] ∧ ClaimedInTurn sampleBoxOrder 1 (sampleBoxes 0) 0 cs ∧
      (cs.map LineClaim.refunded).sum = 300 := by
  constructor
  · exact ((claimShare_iff sampleBoxOrder_claimable (fun _ => 2) (rowOf_single 1 (sampleBoxes 200)) (by decide)).1 1 (by decide)
      (by decide)).mpr (by decide)
  · exact ((claimShare_iff sampleBoxOrder_claimable (fun _ => 0) (rowOf_single 1 (sampleBoxes 0)) (by decide)).2 [3] (by decide)
      (by decide) rfl).mpr (by decide)

/-- A claim for one box of three may ask for the money of all of them, and three claims for one box each never bring it all back. -/
theorem claimShare_first_box :
    Admits sampleBoxOrder [(1, sampleBoxes 0)] (fun _ => 0) [(1, 1)] 300 ∧
    ¬ ∃ cs : List LineClaim, cs.map LineClaim.quantity = [1, 1, 1] ∧ ClaimedInTurn sampleBoxOrder 1 (sampleBoxes 0) 0 cs ∧
      (cs.map LineClaim.refunded).sum = 300 := by
  constructor
  · exact (admits_line sampleBoxOrder_claimable (rowOf_single 1 (sampleBoxes 0)) (by decide) 300).mpr (by decide)
  · intro h
    have hone := (whole_line_iff sampleBoxOrder_claimable (by decide) rfl (by decide) (by decide)).mp h
    exact absurd hone.2 (by decide)

end NovaCommerce
