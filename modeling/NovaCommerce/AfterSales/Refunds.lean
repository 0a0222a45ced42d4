import NovaCommerce.Marketing.PromotionService
import NovaCommerce.Pricing.Allocation

/-!
# Where a refund lands

A refund is one amount; the order's lines count what went back for each of them. The amount is placed on the claimed
lines in proportion to what each can still carry.

* `allocateRefundAcrossLines` : the split; `RefundSplit.Places` : what a split says, and
  `allocateRefundAcrossLines_ok` : it goes through whenever the lines can carry the amount;
* `validateCaps` : the caps of a refund, in the order they are checked (`validateCaps_ok`, `validateCaps_placed`);
* `movementQuantityFor` : the units that come back to stock.
-/

namespace NovaCommerce

open Raise

/-! ## The split -/

/-- The minor units placed on each line, in the order of the lines. -/
structure RefundSplit where
  shares : List (Nat × Int)

def RefundSplit.total (split : RefundSplit) : Int := (split.shares.map Prod.snd).sum

/-- `as_dict().get(line, 0)`. -/
def RefundSplit.placed (split : RefundSplit) (lineId : Nat) : Int := (rowOf split.shares lineId).getD 0

/-- One backward pass over `(share, weight)`: each line below its weight takes one unit while units remain. -/
def placeUnits (remainder : Int) : List (Int × Int) → Int × List Int
  | [] => (remainder, [])
  | (share, weight) :: lines =>
    let later := placeUnits remainder lines
    if later.1 ≠ 0 ∧ share < weight then (later.1 - 1, (share + 1) :: later.2)
    else (later.1, share :: later.2)

/-- Passes until nothing is left; a pass that places nothing is an error. -/
def placePasses (total : Int) (weights : List Int) : Nat → Int → List Int → Except AppError (List Int)
  | 0, _, shares => .ok shares
  | passes + 1, remainder, shares =>
    if remainder ≤ 0 then .ok shares
    else
      let placed := placeUnits remainder (shares.zip weights)
      if placed.1 = remainder then
        .error { kind := .validation
                 message := "the refund could not be distributed within the lines' remaining capacity"
                 context := [("total", .int total), ("undistributed", .int remainder)] }
      else placePasses total weights passes placed.1 placed.2

/-- `_distribute_within_capacity`. -/
def distributeWithinCapacity (total : Int) (weights : List Int) : Except AppError (List Int) := do
  Raise.raiseIf (weights.sum = 0 ∨ weights.sum < total)
    { kind := .validation
      message := "the refund cannot be placed within the lines' remaining capacity"
      context := [("total", .int total), ("weights", .ints weights)] }
  let shares := weights.map fun weight => min (total * weight / weights.sum) weight
  placePasses total weights total.toNat (total - shares.sum) shares

/-- `allocate_refund_across_lines`: the amount, in proportion to the lines' remaining amounts. -/
def allocateRefundAcrossLines (amount : Int) (linePayables : List (Nat × Int)) : Except AppError RefundSplit := do
  Raise.raiseIf (amount ≤ 0)
    { kind := .validation, message := "a refund split needs a positive amount", context := [("amount", .int amount)] }
  Raise.raiseIf (linePayables = [])
    { kind := .validation, message := "a refund must name at least one line to be placed on" }
  let weights := linePayables.map Prod.snd
  Raise.raiseIf (weights.sum < amount)
    { kind := .validation
      message := "a refund cannot be placed above the lines' total capacity"
      context := [("amount", .int amount), ("capacity_total", .int weights.sum),
        ("line_ids", .ints (linePayables.map fun line => (line.1 : Int)))] }
  let proportional ← priced (Pricing.allocateProRata amount weights)
  let shares ← if weights.sum < amount ∨ ∃ p ∈ proportional.zip weights, p.2 < p.1 then
      distributeWithinCapacity amount weights
    else pure proportional
  return { shares := ((linePayables.map Prod.fst).zip shares).insertionSort fun a b => a.1 ≤ b.1 }

/-- What a line can still be refunded for. -/
def OrderItem.remainingCapacity (item : OrderItem) : Int := max (item.payableAmount - item.refundedAmount) 0

/-- `check_per_line_cap`. -/
def checkPerLineCap (split : RefundSplit) (linePayables alreadyRefunded : List (Nat × Int)) : Except AppError Unit :=
  Raise.forEach (fun share =>
    let payable := (rowOf linePayables share.1).getD 0
    let prior := (rowOf alreadyRefunded share.1).getD 0
    Raise.raiseIf (payable < prior + share.2)
      { kind := .refundExceedsItem
        message := "this refund would exceed what the line can still be refunded for"
        context := [("order_item_id", .int share.1), ("line_payable_amount", .int payable),
          ("already_refunded", .int prior), ("requested_share", .int share.2),
          ("over_by", .int (prior + share.2 - payable))] }) split.shares

/-! ## The units that come back -/

/-- `movement_quantity_for`: the claimed quantity of every line the refund placed money on, for a return only. -/
def movementQuantityFor (claimType : AfterSaleType) (claimItems : List (Nat × Int)) (split : RefundSplit) :
    List (Nat × Int) :=
  if claimType = .returnRefund then
    (claimItems.insertionSort fun a b => a.1 ≤ b.1).filter fun line => decide (0 < split.placed line.1 ∧ 0 < line.2)
  else []

/-- `return_in_movement_key`. -/
def returnInMovementKey (afterSaleNo : String) (orderItemId : Nat) : String := s!"return-in:{afterSaleNo}:{orderItemId}"

/-! ## The caps -/

/-- A figure of each claimed line. -/
def lineFigures (orderItems : List (Nat × OrderItem)) (lineItems : List (Nat × Int)) (f : OrderItem → Int) :
    List (Nat × Int) :=
  lineItems.map fun line => (line.1, ((rowOf orderItems line.1).map f).getD 0)

/-- `_validate_caps`: the payment, the claim, the lines. -/
def validateCaps (claim : AfterSale) (payment : Payment) (orderItems : List (Nat × OrderItem))
    (lineItems : List (Nat × Int)) (amount : Int) : Except AppError RefundSplit := do
  Raise.raiseIf (amount ≤ 0)
    { kind := .refundAmountInvalid, message := "a refund amount must be positive", context := [("amount", .int amount)] }
  Raise.raiseIf (payment.paidAmount < payment.refundedAmount + amount)
    { kind := .refundExceedsPaid
      message := "this refund would exceed the amount actually paid"
      context := [("payment_no", .str payment.paymentNo), ("paid_amount", .int payment.paidAmount),
        ("already_refunded", .int payment.refundedAmount), ("requested_amount", .int amount),
        ("refundable", .int (max (payment.paidAmount - payment.refundedAmount) 0))] }
  Raise.raiseIf (claim.approvedAmount < claim.refundedAmount + amount)
    { kind := .refundAmountInvalid
      message := "this refund would exceed the approved amount for the claim"
      context := [("after_sale_no", .str claim.afterSaleNo), ("approved_amount", .int claim.approvedAmount),
        ("already_refunded", .int claim.refundedAmount), ("requested_amount", .int amount)] }
  Raise.raiseIf (lineItems = [])
    { kind := .refundAmountInvalid
      message := "this claim names no lines to place the refund on"
      context := [("after_sale_no", .str claim.afterSaleNo)] }
  let missing := (lineItems.map Prod.fst).filter fun id => (rowOf orderItems id).isNone
  Raise.raiseIf (missing ≠ [])
    { kind := .afterSaleNotEligible
      message := "the claim names a line that is not on this order"
      context := [("order_no", .str claim.orderNo), ("order_item_ids", .ints (missing.map Int.ofNat))] }
  let remaining := lineFigures orderItems lineItems OrderItem.remainingCapacity
  Raise.raiseIf ((remaining.map Prod.snd).sum < amount)
    { kind := .refundExceedsItem
      message := "this refund exceeds what the claimed lines can still be refunded for"
      context := [("after_sale_no", .str claim.afterSaleNo), ("requested_amount", .int amount),
        ("line_remaining_total", .int (remaining.map Prod.snd).sum),
        ("line_remaining", .byId (remaining.map fun line => ((line.1 : Int), line.2)))] }
  let split ← allocateRefundAcrossLines amount remaining
  checkPerLineCap split (lineFigures orderItems lineItems OrderItem.payableAmount)
    (lineFigures orderItems lineItems OrderItem.refundedAmount)
  return split

/-! ## What a split says -/

/-- A split of an amount over lines that can carry at most their figures. -/
structure RefundSplit.Places (split : RefundSplit) (amount : Int) (lines : List (Nat × Int)) : Prop where
  ids : (split.shares.map Prod.fst).Perm (lines.map Prod.fst)
  total : split.total = amount
  within : ∀ share ∈ split.shares, 0 ≤ share.2 ∧ ∃ capacity, (share.1, capacity) ∈ lines ∧ share.2 ≤ capacity

/-- The shares of an allocation, beside the lines they are for. -/
theorem mem_zip_shares {lines : List (Nat × Int)} {shares : List Int}
    (h : List.Forall₂ (fun w t => 0 ≤ t ∧ t ≤ w) (lines.map Prod.snd) shares) :
    ∀ share ∈ (lines.map Prod.fst).zip shares,
      0 ≤ share.2 ∧ ∃ capacity, (share.1, capacity) ∈ lines ∧ share.2 ≤ capacity := by
  induction lines generalizing shares with
  | nil => simp
  | cons line lines ih =>
    cases h with
    | @cons _ t _ rest hhead htail =>
      intro share hshare
      rw [List.map_cons, List.zip_cons_cons, List.mem_cons] at hshare
      rcases hshare with rfl | hshare
      · exact ⟨hhead.1, line.2, List.mem_cons_self, hhead.2⟩
      · obtain ⟨hnonneg, capacity, hmem, hle⟩ := ih htail share hshare
        exact ⟨hnonneg, capacity, List.mem_cons_of_mem _ hmem, hle⟩

/-- An amount that the lines can carry is split. -/
theorem allocateRefundAcrossLines_ok {amount : Int} {lines : List (Nat × Int)} (hpos : 0 < amount)
    (hw : ∀ line ∈ lines, 0 ≤ line.2) (hle : amount ≤ (lines.map Prod.snd).sum) :
    ∃ split, allocateRefundAcrossLines amount lines = .ok split ∧ split.Places amount lines := by
  have hweights : ∀ w ∈ lines.map Prod.snd, 0 ≤ w := by
    intro w hw'
    obtain ⟨line, hline, rfl⟩ := List.mem_map.mp hw'
    exact hw line hline
  obtain ⟨shares, hshares, hsum, hwithin⟩ := Pricing.allocateProRata_ok hpos.le hweights hle
  have hne : lines ≠ [] := by
    rintro rfl
    simp at hle
    omega
  have hlength : shares.length = (lines.map Prod.snd).length := hwithin.length_eq.symm
  have hfits : ¬ ((lines.map Prod.snd).sum < amount ∨ ∃ p ∈ shares.zip (lines.map Prod.snd), p.2 < p.1) := by
    rintro (hlt | ⟨p, hp, hlt⟩)
    · omega
    · have hle := (List.forall₂_iff_zip.mp hwithin.flip).2 hp
      omega
  refine ⟨{ shares := ((lines.map Prod.fst).zip shares).insertionSort fun a b => a.1 ≤ b.1 }, ?_, ?_, ?_, ?_⟩
  · unfold allocateRefundAcrossLines
    rw [raiseIf_neg (not_le.mpr hpos), raiseIf_neg hne]
    simp only [ok_bind]
    rw [raiseIf_neg (not_lt.mpr hle), priced_eq_ok.mpr hshares]
    simp only [ok_bind]
    rw [if_neg hfits]
    rfl
  · have hperm := (List.perm_insertionSort (fun a b : Nat × Int => a.1 ≤ b.1) ((lines.map Prod.fst).zip shares)).map Prod.fst
    rwa [List.map_fst_zip (by simp [hlength])] at hperm
  · have hperm := (List.perm_insertionSort (fun a b : Nat × Int => a.1 ≤ b.1) ((lines.map Prod.fst).zip shares)).map Prod.snd
    rw [List.map_snd_zip (by simp [hlength])] at hperm
    exact hperm.sum_eq.trans hsum
  · intro share hshare
    exact mem_zip_shares hwithin share ((List.mem_insertionSort _).mp hshare)

/-! ## What the caps let through -/

/-- The figures of the claimed lines that are on the order. -/
theorem lineFigures_eq {orderItems : List (Nat × OrderItem)} {lineItems : List (Nat × Int)} {f : OrderItem → Int}
    {id : Nat} {figure : Int} (hlines : ∀ line ∈ lineItems, (rowOf orderItems line.1).isSome)
    (h : (id, figure) ∈ lineFigures orderItems lineItems f) :
    ∃ quantity item, (id, quantity) ∈ lineItems ∧ rowOf orderItems id = some item ∧ figure = f item := by
  obtain ⟨line, hline, heq⟩ := List.mem_map.mp h
  obtain ⟨item, hitem⟩ := Option.isSome_iff_exists.mp (hlines line hline)
  rw [hitem] at heq
  cases heq
  exact ⟨line.2, item, hline, hitem, rfl⟩

theorem rowOf_lineFigures {orderItems : List (Nat × OrderItem)} {lineItems : List (Nat × Int)} {f : OrderItem → Int}
    {id : Nat} {item : OrderItem} (hid : id ∈ lineItems.map Prod.fst) (hitem : rowOf orderItems id = some item) :
    rowOf (lineFigures orderItems lineItems f) id = some (f item) := by
  have hmem : ∃ figure, (id, figure) ∈ lineFigures orderItems lineItems f := by
    obtain ⟨line, hline, rfl⟩ := List.mem_map.mp hid
    exact ⟨_, List.mem_map.mpr ⟨line, hline, rfl⟩⟩
  obtain ⟨figure, hfigure⟩ := hmem
  cases hr : rowOf (lineFigures orderItems lineItems f) id with
  | none =>
    have hnone := List.find?_eq_none.mp (Option.map_eq_none_iff.mp hr) (id, figure) hfigure
    simp at hnone
  | some w =>
    obtain ⟨line, hline, heq⟩ := List.mem_map.mp (mem_of_rowOf hr)
    rw [Prod.mk.injEq] at heq
    obtain ⟨rfl, rfl⟩ := heq
    rw [hitem]
    rfl

theorem remainingCapacity_nonneg (item : OrderItem) : 0 ≤ item.remainingCapacity := le_max_right _ _

/-- What the lines of a claim can still be refunded for. -/
def claimCapacity (orderItems : List (Nat × OrderItem)) (lineItems : List (Nat × Int)) : Int :=
  ((lineFigures orderItems lineItems OrderItem.remainingCapacity).map Prod.snd).sum

/-- What a refund has to keep within. -/
structure WithinCaps (claim : AfterSale) (payment : Payment) (orderItems : List (Nat × OrderItem))
    (lineItems : List (Nat × Int)) (amount : Int) : Prop where
  positive : 0 < amount
  paid : payment.refundedAmount + amount ≤ payment.paidAmount
  approved : claim.refundedAmount + amount ≤ claim.approvedAmount
  named : lineItems ≠ []
  onOrder : ∀ line ∈ lineItems, (rowOf orderItems line.1).isSome
  capacity : amount ≤ claimCapacity orderItems lineItems

/-- Exactly the refunds within the caps are let through, and the split places the amount within the lines. -/
theorem validateCaps_eq_ok {claim : AfterSale} {payment : Payment} {orderItems : List (Nat × OrderItem)}
    {lineItems : List (Nat × Int)} {amount : Int} {split : RefundSplit}
    (h : validateCaps claim payment orderItems lineItems amount = .ok split) :
    WithinCaps claim payment orderItems lineItems amount ∧
      split.Places amount (lineFigures orderItems lineItems OrderItem.remainingCapacity) := by
  unfold validateCaps at h
  simp only [bind_eq_ok, raiseIf_eq_ok, not_le, not_lt, not_not] at h
  obtain ⟨_, hpos, _, hpaid, _, happroved, _, hnamed, _, hmissing, _, hcapacity, split', hsplit, _, -, h⟩ := h
  cases h
  have hon : ∀ line ∈ lineItems, (rowOf orderItems line.1).isSome := by
    intro line hline
    have hnone := List.filter_eq_nil_iff.mp hmissing line.1 (List.mem_map_of_mem hline)
    rwa [Bool.not_eq_true, Option.isNone_eq_false_iff] at hnone
  refine ⟨⟨hpos, hpaid, happroved, hnamed, hon, hcapacity⟩, ?_⟩
  have hw : ∀ line ∈ lineFigures orderItems lineItems OrderItem.remainingCapacity, 0 ≤ line.2 := by
    intro line hline
    obtain ⟨_, item, _, _, hfigure⟩ := lineFigures_eq hon (show (line.1, line.2) ∈ _ from hline)
    rw [hfigure]
    exact remainingCapacity_nonneg item
  obtain ⟨placed, hplaced, hplaces⟩ := allocateRefundAcrossLines_ok hpos hw hcapacity
  rw [hplaced] at hsplit
  cases hsplit
  exact hplaces

theorem validateCaps_ok {claim : AfterSale} {payment : Payment} {orderItems : List (Nat × OrderItem)}
    {lineItems : List (Nat × Int)} {amount : Int} (h : WithinCaps claim payment orderItems lineItems amount)
    (hitems : ∀ entry ∈ orderItems, entry.2.refundedAmount ≤ entry.2.payableAmount) :
    ∃ split, validateCaps claim payment orderItems lineItems amount = .ok split := by
  have hw : ∀ line ∈ lineFigures orderItems lineItems OrderItem.remainingCapacity, 0 ≤ line.2 := by
    intro line hline
    obtain ⟨_, item, _, _, hfigure⟩ := lineFigures_eq h.onOrder (show (line.1, line.2) ∈ _ from hline)
    rw [hfigure]
    exact remainingCapacity_nonneg item
  obtain ⟨split, hsplit, hplaces⟩ := allocateRefundAcrossLines_ok h.positive hw h.capacity
  have hmissing : ((lineItems.map Prod.fst).filter fun id => (rowOf orderItems id).isNone) = [] := by
    refine List.filter_eq_nil_iff.mpr fun id hid => ?_
    obtain ⟨line, hline, rfl⟩ := List.mem_map.mp hid
    rw [Bool.not_eq_true, Option.isNone_eq_false_iff]
    exact h.onOrder line hline
  have hcap : checkPerLineCap split (lineFigures orderItems lineItems OrderItem.payableAmount)
      (lineFigures orderItems lineItems OrderItem.refundedAmount) = .ok () := by
    refine forEach_eq_ok.mpr fun share hshare => raiseIf_neg (not_lt.mpr ?_)
    obtain ⟨-, capacity, hmem, hle⟩ := hplaces.within share hshare
    obtain ⟨quantity, item, hline, hitem, rfl⟩ := lineFigures_eq h.onOrder hmem
    have hid : share.1 ∈ lineItems.map Prod.fst := List.mem_map.mpr ⟨_, hline, rfl⟩
    rw [rowOf_lineFigures hid hitem, rowOf_lineFigures hid hitem]
    have hroom : item.refundedAmount ≤ item.payableAmount := hitems (share.1, item) (mem_of_rowOf hitem)
    unfold OrderItem.remainingCapacity at hle
    simp only [Option.getD_some]
    omega
  refine ⟨split, ?_⟩
  unfold validateCaps
  simp only [bind_eq_ok, raiseIf_eq_ok, not_le, not_lt, not_not, pure_eq_ok]
  exact ⟨(), h.positive, (), h.paid, (), h.approved, (), h.named, (), hmissing, (), h.capacity, split, hsplit, (), hcap, rfl⟩

end NovaCommerce
