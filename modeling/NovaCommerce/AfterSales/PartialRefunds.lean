import NovaCommerce.AfterSales.Workflow

/-!
# Refunding in parts

The weights of a refund are what its lines have left, so they shrink with every part.

* `checkPerLineCap_ok` : the cap of a line accepts what the split places on it;
* `RefundLedger.refund` : the caps and then the counters, for one part; `RefundLedger.Legal` : what is needed for the parts
  that are still to come, kept by each of them (`refund_ok`);
* `legalRefunds_ok` : every sequence of parts goes through, and parts that add up to everything leave every line at its payable amount.
-/

namespace NovaCommerce

open Raise

/-! ## One split -/

/-- A share that a line can carry passes its cap. -/
theorem checkPerLineCap_ok {split : RefundSplit} {amount : Int} {lines payables refunded : List (Nat × Int)}
    (h : split.Places amount lines)
    (hlines : ∀ line ∈ lines, line.2 ≤ (rowOf payables line.1).getD 0 - (rowOf refunded line.1).getD 0) :
    checkPerLineCap split payables refunded = .ok () := by
  refine forEach_eq_ok.mpr fun share hshare => raiseIf_neg (not_lt.mpr ?_)
  obtain ⟨-, capacity, hmem, hle⟩ := h.within share hshare
  have hroom := hlines _ hmem
  dsimp only at hroom ⊢
  omega

theorem RefundSplit.placed_of_mem {split : RefundSplit} (hids : (split.shares.map Prod.fst).Nodup) {share : Nat × Int}
    (h : share ∈ split.shares) : split.placed share.1 = share.2 := by
  unfold RefundSplit.placed
  rw [rowOf_of_mem hids h]
  rfl

/-- The lines of a split carry the whole of it. -/
theorem RefundSplit.Places.sum_placed {split : RefundSplit} {amount : Int} {lines : List (Nat × Int)}
    (h : split.Places amount lines) (hids : (lines.map Prod.fst).Nodup) :
    ((lines.map Prod.fst).map split.placed).sum = amount := by
  have hshares : (split.shares.map Prod.fst).map split.placed = split.shares.map Prod.snd := by
    rw [List.map_map]
    exact List.map_congr_left fun share hshare => RefundSplit.placed_of_mem (h.ids.nodup_iff.mpr hids) hshare
  calc ((lines.map Prod.fst).map split.placed).sum = ((split.shares.map Prod.fst).map split.placed).sum :=
        ((h.ids.map split.placed).sum_eq).symm
    _ = split.total := by rw [hshares]; rfl
    _ = amount := h.total

/-- A line of a split carries at most what it has. -/
theorem RefundSplit.Places.placed_le {split : RefundSplit} {amount : Int} {lines : List (Nat × Int)}
    (h : split.Places amount lines) (hids : (lines.map Prod.fst).Nodup) {line : Nat × Int} (hline : line ∈ lines) :
    0 ≤ split.placed line.1 ∧ split.placed line.1 ≤ line.2 := by
  have hmem : line.1 ∈ split.shares.map Prod.fst := h.ids.mem_iff.mpr (List.mem_map_of_mem hline)
  obtain ⟨share, hshare, heq⟩ := List.mem_map.mp hmem
  obtain ⟨hnonneg, capacity, hcapacity, hle⟩ := h.within share hshare
  have hsame : (share.1, capacity) = line := List.inj_on_of_nodup_map hids hcapacity hline heq
  rw [← heq, RefundSplit.placed_of_mem (h.ids.nodup_iff.mpr hids) hshare]
  rw [← hsame]
  exact ⟨hnonneg, hle⟩

/-! ## Parts -/

/-- The locked rows the parts of a refund are checked against. -/
structure RefundLedger where
  claim : AfterSale
  payment : Payment
  orderItems : Dict Nat OrderItem

/-- The shares go on the counters of their lines. -/
def addShares (orderItems : Dict Nat OrderItem) (shares : List (Nat × Int)) : Dict Nat OrderItem :=
  shares.foldl (fun items share => items.modify share.1 (OrderItem.withShare share.2)) orderItems

theorem get?_addShares {orderItems : Dict Nat OrderItem} {shares : List (Nat × Int)} (hids : (shares.map Prod.fst).Nodup)
    (lineId : Nat) : (addShares orderItems shares).get? lineId =
      (orderItems.get? lineId).map (OrderItem.withShare ((rowOf shares lineId).getD 0)) := by
  induction shares generalizing orderItems with
  | nil =>
    show orderItems.get? lineId = (orderItems.get? lineId).map (OrderItem.withShare 0)
    have hself : OrderItem.withShare 0 = id := by
      funext item
      unfold OrderItem.withShare
      rw [add_zero]
      rfl
    rw [hself, Option.map_id, id]
  | cons share shares ih =>
    rw [List.map_cons, List.nodup_cons] at hids
    show (addShares (orderItems.modify share.1 (OrderItem.withShare share.2)) shares).get? lineId = _
    rw [ih hids.2]
    by_cases hline : lineId = share.1
    · subst hline
      have hnone : rowOf shares share.1 = none := by
        cases hr : rowOf shares share.1 with
        | none => rfl
        | some v => exact absurd (List.mem_map_of_mem (mem_of_rowOf hr)) hids.1
      have hnodup : ((share :: shares).map Prod.fst).Nodup := List.nodup_cons.mpr hids
      have hsome : rowOf (share :: shares) share.1 = some share.2 := rowOf_of_mem hnodup List.mem_cons_self
      rw [Dict.get?_modify_self, hnone, hsome, Option.map_map]
      refine congrArg (fun f => (orderItems.get? share.1).map f) (funext fun item => ?_)
      show { item with refundedAmount := item.refundedAmount + share.2 + 0 } = item.withShare share.2
      rw [add_zero]
      rfl
    · have hskip : rowOf (share :: shares) lineId = rowOf shares lineId := by
        unfold rowOf
        rw [List.find?_cons_of_neg]
        simpa using Ne.symm hline
      rw [Dict.get?_modify_ne hline, hskip]

namespace RefundLedger

/-- One part: the caps, then the counters of the payment, the claim and the lines. -/
def refund (lineItems : List (Nat × Int)) (ledger : RefundLedger) (part : Int × Time) : Except AppError RefundLedger := do
  let split ← validateCaps ledger.claim ledger.payment ledger.orderItems.entries lineItems part.1
  return {
    payment := ledger.payment.refundedBy part.1 ledger.payment
    claim := ledger.claim.refundedBy part.1 part.2 ledger.claim
    orderItems := addShares ledger.orderItems split.shares }

/-- The parts, one after the other. -/
def refunds (lineItems : List (Nat × Int)) (ledger : RefundLedger) (parts : List (Int × Time)) : Except AppError RefundLedger :=
  parts.foldlM (refund lineItems) ledger

/-- What the lines of the claim can still be refunded for. -/
def capacity (ledger : RefundLedger) (lineItems : List (Nat × Int)) : Int := claimCapacity ledger.orderItems.entries lineItems

/-- The amount can be refunded, in whatever parts. -/
structure Legal (ledger : RefundLedger) (lineItems : List (Nat × Int)) (amount : Int) : Prop where
  distinct : (lineItems.map Prod.fst).Nodup
  onOrder : ∀ line ∈ lineItems, ∃ item, ledger.orderItems.get? line.1 = some item
  within : ∀ {lineId : Nat} {item : OrderItem}, ledger.orderItems.get? lineId = some item → item.refundedAmount ≤ item.payableAmount
  paid : ledger.payment.refundedAmount + amount ≤ ledger.payment.paidAmount
  approved : ledger.claim.refundedAmount + amount ≤ ledger.claim.approvedAmount
  capacity : amount ≤ ledger.capacity lineItems

theorem capacity_eq (ledger : RefundLedger) (lineItems : List (Nat × Int)) : ledger.capacity lineItems =
    (lineItems.map fun line => ((ledger.orderItems.get? line.1).map OrderItem.remainingCapacity).getD 0).sum := by
  unfold capacity claimCapacity lineFigures
  rw [List.map_map]
  rfl

variable {ledger : RefundLedger} {lineItems : List (Nat × Int)}

/-- A part of a legal amount goes through, and leaves the rest legal. -/
theorem refund_ok {amount rest : Int} (h : ledger.Legal lineItems (amount + rest)) (hpos : 0 < amount) (hrest : 0 ≤ rest) (now : Time) :
    ∃ ledger', refund lineItems ledger (amount, now) = .ok ledger' ∧ ledger'.Legal lineItems rest ∧
      ledger'.capacity lineItems = ledger.capacity lineItems - amount ∧
      ∀ lineId, (ledger'.orderItems.get? lineId).map OrderItem.payableAmount = (ledger.orderItems.get? lineId).map OrderItem.payableAmount := by
  have hcapacity := h.capacity
  have hnamed : lineItems ≠ [] := by
    rintro rfl
    have hnothing : ledger.capacity [] = 0 := rfl
    omega
  have hrow : ∀ line ∈ lineItems, (rowOf ledger.orderItems.entries line.1).isSome := by
    intro line hline
    obtain ⟨item, hitem⟩ := h.onOrder line hline
    exact Option.isSome_iff_exists.mpr ⟨item, hitem⟩
  have hpaid := h.paid
  have happroved := h.approved
  have hcaps : WithinCaps ledger.claim ledger.payment ledger.orderItems.entries lineItems amount :=
    ⟨hpos, by omega, by omega, hnamed, hrow, show amount ≤ ledger.capacity lineItems by omega⟩
  obtain ⟨split, hsplit⟩ := validateCaps_ok hcaps fun entry hentry => h.within (Dict.get?_eq_some.mpr hentry)
  obtain ⟨-, hplaces⟩ := validateCaps_eq_ok hsplit
  have hids : ((lineFigures ledger.orderItems.entries lineItems OrderItem.remainingCapacity).map Prod.fst).Nodup := by
    rw [map_fst_lineFigures]
    exact h.distinct
  have hshares : (split.shares.map Prod.fst).Nodup := hplaces.ids.nodup_iff.mpr hids
  -- What the part leaves of a line.
  have hline : ∀ lineId, (addShares ledger.orderItems split.shares).get? lineId =
      (ledger.orderItems.get? lineId).map (OrderItem.withShare (split.placed lineId)) := get?_addShares hshares
  have hroom : ∀ {lineId : Nat} {item : OrderItem}, ledger.orderItems.get? lineId = some item →
      split.placed lineId ≤ item.payableAmount - item.refundedAmount := by
    intro lineId item hitem
    have hwithin := h.within hitem
    by_cases hclaimed : lineId ∈ lineItems.map Prod.fst
    · obtain ⟨line, hmem, rfl⟩ := List.mem_map.mp hclaimed
      have hfigure : (line.1, ((rowOf ledger.orderItems.entries line.1).map OrderItem.remainingCapacity).getD 0) ∈
          lineFigures ledger.orderItems.entries lineItems OrderItem.remainingCapacity := List.mem_map.mpr ⟨line, hmem, rfl⟩
      have hle := (hplaces.placed_le hids hfigure).2
      have hrow : rowOf ledger.orderItems.entries line.1 = some item := hitem
      rw [hrow] at hle
      unfold OrderItem.remainingCapacity at hle
      simp only [Option.map_some, Option.getD_some] at hle
      omega
    · have hzero : split.placed lineId = 0 := by
        unfold RefundSplit.placed
        cases hr : rowOf split.shares lineId with
        | none => rfl
        | some v =>
          have hmem := hplaces.ids.mem_iff.mp (List.mem_map_of_mem (mem_of_rowOf hr))
          rw [map_fst_lineFigures] at hmem
          exact absurd hmem hclaimed
      omega
  have hleft : ({ claim := ledger.claim.refundedBy amount now ledger.claim
                  payment := ledger.payment.refundedBy amount ledger.payment
                  orderItems := addShares ledger.orderItems split.shares } : RefundLedger).capacity lineItems =
      ledger.capacity lineItems - amount := by
    have hsum := hplaces.sum_placed hids
    rw [map_fst_lineFigures, List.map_map] at hsum
    have hterms : ∀ line ∈ lineItems,
        (((addShares ledger.orderItems split.shares).get? line.1).map OrderItem.remainingCapacity).getD 0 +
          (split.placed ∘ Prod.fst) line = ((ledger.orderItems.get? line.1).map OrderItem.remainingCapacity).getD 0 := by
      intro line hmem
      obtain ⟨item, hitem⟩ := h.onOrder line hmem
      have hle := hroom hitem
      have hwithin := h.within hitem
      rw [hline, hitem]
      show (item.withShare (split.placed line.1)).remainingCapacity + split.placed line.1 = item.remainingCapacity
      unfold OrderItem.remainingCapacity OrderItem.withShare
      dsimp only
      omega
    rw [capacity_eq, capacity_eq, ← List.map_congr_left hterms, List.sum_map_add, hsum]
    ring
  refine ⟨_, ?_, ⟨h.distinct, ?_, ?_, ?_, ?_, ?_⟩, hleft, ?_⟩
  · unfold refund
    rw [hsplit]
    rfl
  · intro line hmem
    obtain ⟨item, hitem⟩ := h.onOrder line hmem
    refine ⟨item.withShare (split.placed line.1), ?_⟩
    show (addShares ledger.orderItems split.shares).get? line.1 = _
    rw [hline, hitem]
    rfl
  · intro lineId item' hitem'
    have hitem' : (addShares ledger.orderItems split.shares).get? lineId = some item' := hitem'
    rw [hline] at hitem'
    obtain ⟨item, hitem, rfl⟩ := Option.map_eq_some_iff.mp hitem'
    have hle := hroom hitem
    show item.refundedAmount + split.placed lineId ≤ item.payableAmount
    omega
  · show ledger.payment.refundedAmount + amount + rest ≤ ledger.payment.paidAmount
    omega
  · have hcounted : (ledger.claim.refundedBy amount now ledger.claim).refundedAmount = ledger.claim.refundedAmount + amount ∧
        (ledger.claim.refundedBy amount now ledger.claim).approvedAmount = ledger.claim.approvedAmount := by
      unfold AfterSale.refundedBy
      dsimp only
      split_ifs <;> exact ⟨rfl, rfl⟩
    show (ledger.claim.refundedBy amount now ledger.claim).refundedAmount + rest ≤ (ledger.claim.refundedBy amount now ledger.claim).approvedAmount
    omega
  · rw [hleft]
    omega
  · intro lineId
    show ((addShares ledger.orderItems split.shares).get? lineId).map OrderItem.payableAmount = _
    rw [hline, Option.map_map]
    rfl

/-- The parts of a legal amount go through. -/
theorem refunds_ok (parts : List (Int × Time)) (hparts : ∀ part ∈ parts, 0 < part.1)
    (h : ledger.Legal lineItems (parts.map Prod.fst).sum) :
    ∃ final, refunds lineItems ledger parts = .ok final ∧ final.Legal lineItems 0 ∧
      final.capacity lineItems = ledger.capacity lineItems - (parts.map Prod.fst).sum ∧
      ∀ lineId, (final.orderItems.get? lineId).map OrderItem.payableAmount = (ledger.orderItems.get? lineId).map OrderItem.payableAmount := by
  induction parts generalizing ledger with
  | nil => exact ⟨ledger, rfl, h, by simp, fun _ => rfl⟩
  | cons part parts ih =>
    have hrest : 0 ≤ (parts.map Prod.fst).sum := by
      refine List.sum_nonneg fun x hx => ?_
      obtain ⟨later, hlater, rfl⟩ := List.mem_map.mp hx
      exact (hparts later (List.mem_cons_of_mem _ hlater)).le
    rw [List.map_cons, List.sum_cons] at h ⊢
    obtain ⟨ledger', hpart, hlegal, hcapacity, hpayable⟩ := refund_ok h (hparts part List.mem_cons_self) hrest part.2
    obtain ⟨final, hfinal, hdone, hleft, hsame⟩ := ih (fun later hlater => hparts later (List.mem_cons_of_mem _ hlater)) hlegal
    refine ⟨final, ?_, hdone, by rw [hleft, hcapacity]; ring, fun lineId => (hsame lineId).trans (hpayable lineId)⟩
    unfold refunds
    rw [List.foldlM_cons]
    have hpart : refund lineItems ledger part = .ok ledger' := hpart
    rw [hpart]
    exact hfinal

/-- Lines that can carry nothing any more are at their payable amounts. -/
theorem Legal.exhausted (h : ledger.Legal lineItems 0) (hnothing : ledger.capacity lineItems = 0) :
    ∀ line ∈ lineItems, ∃ item, ledger.orderItems.get? line.1 = some item ∧ item.refundedAmount = item.payableAmount := by
  intro line hline
  obtain ⟨item, hitem⟩ := h.onOrder line hline
  refine ⟨item, hitem, le_antisymm (h.within hitem) ?_⟩
  rw [capacity_eq] at hnothing
  have hterms : ∀ x ∈ lineItems.map fun line => ((ledger.orderItems.get? line.1).map OrderItem.remainingCapacity).getD 0, 0 ≤ x := by
    intro x hx
    obtain ⟨other, hother, rfl⟩ := List.mem_map.mp hx
    obtain ⟨otherItem, hotherItem⟩ := h.onOrder other hother
    rw [hotherItem]
    exact remainingCapacity_nonneg otherItem
  have hle := List.single_le_sum hterms _ (List.mem_map.mpr ⟨line, hline, rfl⟩)
  rw [hnothing, hitem] at hle
  have hzero : item.remainingCapacity ≤ 0 := hle
  unfold OrderItem.remainingCapacity at hzero
  omega

/-- An amount that the lines can carry is split within them, and the cap of every line accepts its share; and the parts of a legal
amount go through, keep every line within its payable amount, and bring it there when they add up to everything. -/
theorem legalRefunds_ok :
    (∀ (amount : Int) (lines : List (Nat × Int)), 0 < amount → (∀ line ∈ lines, 0 ≤ line.2) → amount ≤ (lines.map Prod.snd).sum →
      ∃ split, allocateRefundAcrossLines amount lines = .ok split ∧ split.Places amount lines ∧
        ∀ payables refunded, (∀ line ∈ lines, line.2 ≤ (rowOf payables line.1).getD 0 - (rowOf refunded line.1).getD 0) →
          checkPerLineCap split payables refunded = .ok ()) ∧
    ∀ (ledger : RefundLedger) (lineItems : List (Nat × Int)) (parts : List (Int × Time)), (∀ part ∈ parts, 0 < part.1) →
      ledger.Legal lineItems (parts.map Prod.fst).sum →
      ∃ final, refunds lineItems ledger parts = .ok final ∧
        final.capacity lineItems = ledger.capacity lineItems - (parts.map Prod.fst).sum ∧
        (∀ lineId, (final.orderItems.get? lineId).map OrderItem.payableAmount = (ledger.orderItems.get? lineId).map OrderItem.payableAmount) ∧
        (∀ lineId item, final.orderItems.get? lineId = some item → item.refundedAmount ≤ item.payableAmount) ∧
        ((parts.map Prod.fst).sum = ledger.capacity lineItems → ∀ line ∈ lineItems, ∃ item,
          final.orderItems.get? line.1 = some item ∧ item.refundedAmount = item.payableAmount) := by
  constructor
  · intro amount lines hpos hlines hle
    obtain ⟨split, hsplit, hplaces⟩ := allocateRefundAcrossLines_ok hpos hlines hle
    exact ⟨split, hsplit, hplaces, fun payables refunded hroom => checkPerLineCap_ok hplaces hroom⟩
  · intro ledger lineItems parts hparts hlegal
    obtain ⟨final, hfinal, hdone, hcapacity, hpayable⟩ := refunds_ok parts hparts hlegal
    refine ⟨final, hfinal, hcapacity, hpayable, fun lineId item hitem => hdone.within hitem, fun hall => ?_⟩
    exact hdone.exhausted (by omega)

/-- A line of a third of a payment of 10000. -/
def sampleThird (skuId : Nat) (payableAmount : Int) : OrderItem where
  orderId := 1
  warehouseId := 1
  productId := 1
  skuId := skuId
  productName := "Tea set"
  skuName := "Tea set"
  unitPrice := payableAmount
  quantity := 1
  originalAmount := payableAmount
  payableAmount := payableAmount

/-- A payment of 10000 for three lines, all of it approved. -/
def sampleThirds : RefundLedger where
  claim := {
    merchantId := 1, afterSaleNo := "NVAS20240101000001", orderId := 1, orderNo := "NV20240101000001", userId := 1
    type := .refundOnly, claimStatus := .approved, requestedAmount := 10000, approvedAmount := 10000
    reason := "broken", idempotencyKey := "claim", clientRequestId := "claim", requestHash := "" }
  payment := {
    paymentNo := "NVPAY20240101000001", orderId := 1, orderNo := "NV20240101000001", merchantId := 1, userId := 1
    channel := "MOCK", amount := 10000, status := .success, idempotencyKey := "pay", clientRequestId := "pay"
    requestHash := "", paidAmount := 10000 }
  orderItems := Dict.ofList [(1, sampleThird 1 3333), (2, sampleThird 2 3333), (3, sampleThird 3 3334)]

/-- 4000 of it and then the other 6000. -/
theorem legalRefunds_thirds :
    (∃ split, allocateRefundAcrossLines 4000 [(1, 3333), (2, 3333), (3, 3334)] = .ok split ∧
      checkPerLineCap split [(1, 3333), (2, 3333), (3, 3334)] [(1, 0), (2, 0), (3, 0)] = .ok ()) ∧
    ∃ final, refunds [(1, 1), (2, 1), (3, 1)] sampleThirds [(4000, 1704096000000), (6000, 1704121200000)] = .ok final ∧
      ∀ line ∈ ([(1, 1), (2, 1), (3, 1)] : List (Nat × Int)), ∃ item,
        final.orderItems.get? line.1 = some item ∧ item.refundedAmount = item.payableAmount := by
  constructor
  · obtain ⟨split, hsplit, -, hcap⟩ := legalRefunds_ok.1 4000 [(1, 3333), (2, 3333), (3, 3334)] (by decide) (by decide) (by decide)
    exact ⟨split, hsplit, hcap _ _ (by decide)⟩
  · have hrows : sampleThirds.orderItems.entries = [(1, sampleThird 1 3333), (2, sampleThird 2 3333), (3, sampleThird 3 3334)] :=
      rfl
    have hlegal : sampleThirds.Legal [(1, 1), (2, 1), (3, 1)] 10000 := by
      refine ⟨by decide, ?_, ?_, by decide, by decide, by decide⟩
      · intro line hline
        simp only [List.mem_cons, List.not_mem_nil, or_false] at hline
        rcases hline with rfl | rfl | rfl
        · exact ⟨_, rfl⟩
        · exact ⟨_, rfl⟩
        · exact ⟨_, rfl⟩
      · intro lineId item hitem
        have hmem := Dict.get?_eq_some.mp hitem
        rw [hrows] at hmem
        simp only [List.mem_cons, List.not_mem_nil, or_false, Prod.mk.injEq] at hmem
        rcases hmem with ⟨-, rfl⟩ | ⟨-, rfl⟩ | ⟨-, rfl⟩ <;> decide
    obtain ⟨final, hfinal, -, -, -, hall⟩ := legalRefunds_ok.2 sampleThirds [(1, 1), (2, 1), (3, 1)]
      [(4000, 1704096000000), (6000, 1704121200000)] (by decide) hlegal
    exact ⟨final, hfinal, hall (by decide)⟩

end RefundLedger

end NovaCommerce
