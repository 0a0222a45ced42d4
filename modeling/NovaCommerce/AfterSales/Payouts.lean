import NovaCommerce.AfterSales.Claims

/-!
# Paying out what was approved

Approval compares a claim with its request alone, and the refund's caps compare it with what its lines can still carry;
between the two, other claims of the order draw on the same lines.

* `Db.capacityOf`, `Db.promised` : what the lines of a claim can still carry, and what is approved against them;
* `Db.Covered` : no claim of an order is promised more than its lines carry; refunds keep it (`covered_posted`);
* `approved_payable` : it is enough that no approval breaks it.
-/

namespace NovaCommerce

open Sql

/-! ## Capacities -/

/-- What a line can still be refunded for. -/
def Db.capacityOn (d : Db) (lineId : Nat) : Int := ((d.orderItems.get? lineId).map OrderItem.remainingCapacity).getD 0

def Db.lineIds (d : Db) (claimId : Nat) : List Nat := (d.claimLines claimId).map Prod.fst

/-- What the lines of a claim can still be refunded for. -/
def Db.capacityOf (d : Db) (claimId : Nat) : Int := ((d.lineIds claimId).map d.capacityOn).sum

/-- What the lines of an order can still be refunded for. -/
def Db.orderCapacity (d : Db) (orderId : Nat) : Int :=
  d.orderItems.total fun _ item => if item.orderId = orderId then item.remainingCapacity else 0

theorem capacityOn_nonneg (d : Db) (lineId : Nat) : 0 ≤ d.capacityOn lineId := by
  unfold Db.capacityOn
  cases d.orderItems.get? lineId with
  | none => exact le_refl 0
  | some item => exact remainingCapacity_nonneg item

theorem mem_lineIds {d : Db} {claimId lineId : Nat} :
    lineId ∈ d.lineIds claimId ↔ ∃ i row, d.afterSaleItems.get? i = some row ∧ row.afterSaleId = claimId ∧
      row.orderItemId = lineId := by
  unfold Db.lineIds Db.claimLines
  rw [List.map_map, List.mem_map]
  constructor
  · rintro ⟨⟨i, row⟩, hrow, rfl⟩
    obtain ⟨hget, hclaim⟩ := mem_claimItems.mp hrow
    exact ⟨i, row, hget, hclaim, rfl⟩
  · rintro ⟨i, row, hget, hclaim, rfl⟩
    exact ⟨(i, row), mem_claimItems.mpr ⟨hget, hclaim⟩, rfl⟩

/-- A line of a claim is a line of its order. -/
theorem Db.Claimed.line {d : Db} (hd : d.Claimed) {claimId lineId : Nat} {c : AfterSale}
    (hc : d.afterSales.get? claimId = some c) (hline : lineId ∈ d.lineIds claimId) :
    ∃ item, d.orderItems.get? lineId = some item ∧ item.orderId = c.orderId := by
  obtain ⟨i, row, hrow, hclaim, rfl⟩ := mem_lineIds.mp hline
  obtain ⟨-, c', item, hc', hitem, hof⟩ := hd.items hrow
  rw [hclaim, hc] at hc'
  cases hc'
  exact ⟨item, hitem, hof⟩

theorem rowOf_itemsFor_eq {d : Db} {orderId lineId : Nat} {item : OrderItem} (hitem : d.orderItems.get? lineId = some item)
    (hof : item.orderId = orderId) : rowOf (d.itemsFor orderId) lineId = some item := by
  have hkeys : ((d.itemsFor orderId).map Prod.fst).Nodup :=
    d.orderItems.nodup.sublist (List.filter_sublist.map Prod.fst)
  exact rowOf_of_mem hkeys (Dict.mem_select.mpr ⟨hitem, decide_eq_true hof⟩)

/-- The workflow adds up the same capacities. -/
theorem claimCapacity_eq {d : Db} (hd : d.Claimed) {claimId : Nat} {c : AfterSale}
    (hc : d.afterSales.get? claimId = some c) :
    claimCapacity (d.itemsFor c.orderId) (d.claimLines claimId) = d.capacityOf claimId := by
  unfold claimCapacity lineFigures Db.capacityOf Db.lineIds
  rw [List.map_map, List.map_map]
  refine congrArg List.sum (List.map_congr_left fun line hline => ?_)
  obtain ⟨item, hitem, hof⟩ := hd.line hc (List.mem_map_of_mem hline)
  show ((rowOf (d.itemsFor c.orderId) line.1).map OrderItem.remainingCapacity).getD 0 = d.capacityOn line.1
  unfold Db.capacityOn
  rw [rowOf_itemsFor_eq hitem hof, hitem]

theorem capacityOf_le {d : Db} (hd : d.Claimed) {claimId : Nat} {c : AfterSale}
    (hc : d.afterSales.get? claimId = some c) : d.capacityOf claimId ≤ d.orderCapacity c.orderId := by
  have hpairs : (d.lineIds claimId).map d.capacityOn = ((d.lineIds claimId).map fun id => (id, d.capacityOn id)).map Prod.snd := by
    rw [List.map_map]
    rfl
  unfold Db.capacityOf Db.orderCapacity
  rw [hpairs]
  refine Dict.sum_le_total (fun e _ => ?_) ?_ fun pair hpair => ?_
  · split_ifs
    · exact remainingCapacity_nonneg e.2
    · exact le_refl 0
  · have hids : ((d.lineIds claimId).map fun id => (id, d.capacityOn id)).map Prod.fst = d.lineIds claimId := by
      rw [List.map_map]
      exact List.map_id _
    rw [hids]
    exact hd.linesDistinct claimId
  · obtain ⟨lineId, hline, rfl⟩ := List.mem_map.mp hpair
    obtain ⟨item, hitem, hof⟩ := hd.line hc hline
    refine ⟨item, hitem, ?_⟩
    show d.capacityOn lineId ≤ _
    rw [if_pos hof]
    unfold Db.capacityOn
    rw [hitem]
    exact le_refl _

/-! ## Shares -/

/-- Shares of distinct lines, none of them negative. -/
structure RefundSplit.Proper (split : RefundSplit) : Prop where
  distinct : (split.shares.map Prod.fst).Nodup
  nonneg : ∀ share ∈ split.shares, 0 ≤ share.2

theorem RefundSplit.Proper.placed_nonneg {split : RefundSplit} (h : split.Proper) (lineId : Nat) :
    0 ≤ split.placed lineId := by
  unfold RefundSplit.placed
  cases hr : rowOf split.shares lineId with
  | none => exact le_refl 0
  | some share => exact h.nonneg _ (mem_of_rowOf hr)

theorem RefundSplit.placed_eq_zero {split : RefundSplit} {lineId : Nat} (h : lineId ∉ split.shares.map Prod.fst) :
    split.placed lineId = 0 := by
  unfold RefundSplit.placed
  cases hr : rowOf split.shares lineId with
  | none => rfl
  | some share => exact absurd (List.mem_map_of_mem (mem_of_rowOf hr)) h

/-- Distinct lines carry at most the whole. -/
theorem RefundSplit.Proper.sum_placed_le {split : RefundSplit} (h : split.Proper) {lineIds : List Nat}
    (hd : lineIds.Nodup) : (lineIds.map split.placed).sum ≤ split.total := by
  let shares : Dict Nat Int := ⟨split.shares, h.distinct⟩
  have htotal : split.total = shares.total fun _ share => share := rfl
  have hzero : ∀ ids : List Nat, (ids.map split.placed).sum =
      (((ids.filter fun id => id ∈ split.shares.map Prod.fst).map fun id => (id, split.placed id)).map Prod.snd).sum := by
    intro ids
    induction ids with
    | nil => rfl
    | cons id ids ih =>
      rw [List.map_cons, List.sum_cons, ih, List.filter_cons]
      split_ifs with hid
      · rfl
      · rw [RefundSplit.placed_eq_zero (by simpa using hid), zero_add]
  rw [hzero, htotal]
  refine Dict.sum_le_total (fun e he => h.nonneg e he) ?_ fun pair hpair => ?_
  · rw [List.map_map]
    have hids : (lineIds.filter fun id => id ∈ split.shares.map Prod.fst).map
        (Prod.fst ∘ fun id => (id, split.placed id)) = lineIds.filter fun id => id ∈ split.shares.map Prod.fst :=
      List.map_id _
    rw [hids]
    exact hd.filter _
  · obtain ⟨id, hid, rfl⟩ := List.mem_map.mp hpair
    have hmem := of_decide_eq_true (List.mem_filter.mp hid).2
    obtain ⟨share, hshare, rfl⟩ := List.mem_map.mp hmem
    have hrow := rowOf_of_mem h.distinct hshare
    refine ⟨share.2, Dict.get?_eq_some.mpr hshare, ?_⟩
    show (rowOf split.shares share.1).getD 0 ≤ share.2
    rw [hrow]
    exact le_refl _

theorem RefundPosted.proper {principal : Principal} {request : RefundRequest} {requestHash : String} {now : Time}
    {refundId : Nat} {rows : RefundRows} {split : RefundSplit} {d d' : Db} (hd : d.Claimed)
    (h : RefundPosted principal request requestHash now refundId rows split d d') : split.Proper := by
  obtain ⟨-, hplaces⟩ := validateCaps_eq_ok h.caps
  refine ⟨?_, fun share hshare => (hplaces.within share hshare).1⟩
  rw [hplaces.ids.nodup_iff, map_fst_lineFigures, h.locks.lineItems]
  exact hd.linesDistinct rows.claimId

/-- A refund only places money on the lines of its claim. -/
theorem RefundPosted.placed_elsewhere {principal : Principal} {request : RefundRequest} {requestHash : String} {now : Time}
    {refundId : Nat} {rows : RefundRows} {split : RefundSplit} {d d' : Db}
    (h : RefundPosted principal request requestHash now refundId rows split d d') {lineId : Nat}
    (hline : lineId ∉ d.lineIds rows.claimId) : split.placed lineId = 0 := by
  obtain ⟨-, hplaces⟩ := validateCaps_eq_ok h.caps
  refine RefundSplit.placed_eq_zero fun hmem => hline ?_
  rw [hplaces.ids.mem_iff, map_fst_lineFigures, h.locks.lineItems] at hmem
  exact hmem

/-! ## What a refund takes from the lines -/

/-- Every line keeps to its CHECK constraints. -/
def Db.LinesChecked (d : Db) : Prop := ∀ (lineId : Nat) (item : OrderItem), d.orderItems.get? lineId = some item → item.Checked

theorem remainingCapacity_of_checked {item : OrderItem} (h : item.Checked) :
    item.remainingCapacity = item.payableAmount - item.refundedAmount := by
  obtain ⟨-, -, -, -, -, -, -, hle⟩ := h
  unfold OrderItem.remainingCapacity
  omega

section

variable {principal : Principal} {request : RefundRequest} {requestHash : String} {now : Time} {refundId : Nat}
  {rows : RefundRows} {split : RefundSplit} {d d' : Db}

theorem RefundPosted.orderItems (h : RefundPosted principal request requestHash now refundId rows split d d') :
    d'.orderItems = d.orderItems.adjust fun id => OrderItem.withShare (split.placed id) := by
  obtain ⟨movements, inventories, outbox, -, -, rfl⟩ := h.effects
  rfl

theorem RefundPosted.orderItem (h : RefundPosted principal request requestHash now refundId rows split d d') {lineId : Nat}
    {item : OrderItem} (hitem : d.orderItems.get? lineId = some item) :
    d'.orderItems.get? lineId = some (item.withShare (split.placed lineId)) := by
  rw [h.orderItems, Dict.get?_adjust, hitem]
  rfl

theorem RefundPosted.orderItem_origin (h : RefundPosted principal request requestHash now refundId rows split d d')
    {lineId : Nat} {item' : OrderItem} (hitem : d'.orderItems.get? lineId = some item') :
    ∃ item, d.orderItems.get? lineId = some item ∧ item' = item.withShare (split.placed lineId) := by
  rw [h.orderItems, Dict.get?_adjust] at hitem
  obtain ⟨item, hold, rfl⟩ := Option.map_eq_some_iff.mp hitem
  exact ⟨item, hold, rfl⟩

theorem RefundPosted.linesChecked (h : RefundPosted principal request requestHash now refundId rows split d d')
    (hd : d.Claimed) (hlines : d.LinesChecked) : d'.LinesChecked := by
  intro lineId item' hitem'
  obtain ⟨item, hitem, rfl⟩ := h.orderItem_origin hitem'
  by_cases hmem : lineId ∈ split.shares.map Prod.fst
  · obtain ⟨share, hshare, rfl⟩ := List.mem_map.mp hmem
    have hplaced : split.placed share.1 = share.2 := by
      unfold RefundSplit.placed
      rw [rowOf_of_mem (h.proper hd).distinct hshare]
      rfl
    rw [hplaced]
    exact h.itemsChecked share hshare item hitem
  · rw [RefundSplit.placed_eq_zero hmem]
    have hsame : item.withShare 0 = item := by
      unfold OrderItem.withShare
      rw [add_zero]
    rw [hsame]
    exact hlines lineId item hitem

/-- A line loses what is placed on it. -/
theorem RefundPosted.remainingCapacity (h : RefundPosted principal request requestHash now refundId rows split d d')
    (hd : d.Claimed) (hlines : d.LinesChecked) {lineId : Nat} {item : OrderItem}
    (hitem : d.orderItems.get? lineId = some item) :
    (item.withShare (split.placed lineId)).remainingCapacity = item.remainingCapacity - split.placed lineId := by
  rw [remainingCapacity_of_checked (hlines lineId item hitem),
    remainingCapacity_of_checked (h.linesChecked hd hlines lineId _ (h.orderItem hitem))]
  show item.payableAmount - (item.refundedAmount + split.placed lineId) = _
  ring

theorem RefundPosted.lineIds (h : RefundPosted principal request requestHash now refundId rows split d d') (claimId : Nat) :
    d'.lineIds claimId = d.lineIds claimId := by
  obtain ⟨movements, inventories, outbox, -, -, rfl⟩ := h.effects
  rfl

/-- A claim's lines lose what is placed on them. -/
theorem RefundPosted.capacityOf (h : RefundPosted principal request requestHash now refundId rows split d d')
    (hd : d.Claimed) (hlines : d.LinesChecked) {claimId : Nat} {c : AfterSale}
    (hc : d.afterSales.get? claimId = some c) :
    d'.capacityOf claimId = d.capacityOf claimId - ((d.lineIds claimId).map split.placed).sum := by
  have hline : ∀ lineId ∈ d.lineIds claimId, d'.capacityOn lineId + split.placed lineId = d.capacityOn lineId := by
    intro lineId hmem
    obtain ⟨item, hitem, -⟩ := hd.line hc hmem
    unfold Db.capacityOn
    rw [h.orderItem hitem, hitem]
    show (item.withShare (split.placed lineId)).remainingCapacity + split.placed lineId = item.remainingCapacity
    rw [h.remainingCapacity hd hlines hitem]
    ring
  have hsum : ((d.lineIds claimId).map fun id => d'.capacityOn id + split.placed id).sum =
      ((d.lineIds claimId).map d.capacityOn).sum := congrArg List.sum (List.map_congr_left hline)
  rw [List.sum_map_add] at hsum
  unfold Db.capacityOf
  rw [h.lineIds]
  omega

/-- The order's lines lose the whole amount. -/
theorem RefundPosted.orderCapacity (h : RefundPosted principal request requestHash now refundId rows split d d')
    (hd : d.Claimed) (hlines : d.LinesChecked) :
    d'.orderCapacity rows.claim.orderId ≤ d.orderCapacity rows.claim.orderId - request.amount := by
  obtain ⟨hwithin, hplaces⟩ := validateCaps_eq_ok h.caps
  have hproper := h.proper hd
  have hcapacity : d'.orderCapacity rows.claim.orderId = d.orderItems.total fun id item =>
      if item.orderId = rows.claim.orderId then item.remainingCapacity - split.placed id else 0 := by
    unfold Db.orderCapacity
    rw [h.orderItems, Dict.total_adjust]
    refine Dict.total_congr fun e he => ?_
    rw [h.remainingCapacity hd hlines (Dict.get?_eq_some.mpr he)]
    rfl
  have hplaced : split.total ≤ d.orderItems.total fun id item =>
      if item.orderId = rows.claim.orderId then split.placed id else 0 := by
    refine Dict.sum_le_total (fun e _ => ?_) hproper.distinct fun share hshare => ?_
    · split_ifs
      · exact hproper.placed_nonneg e.1
      · exact le_refl 0
    · obtain ⟨-, capacity, hcap, -⟩ := hplaces.within share hshare
      obtain ⟨quantity, item, -, hitem, -⟩ := lineFigures_eq hwithin.onOrder hcap
      rw [h.locks.orderItems] at hitem
      obtain ⟨hget, hof⟩ := rowOf_itemsFor hitem
      refine ⟨item, hget, ?_⟩
      rw [if_pos hof]
      unfold RefundSplit.placed
      rw [rowOf_of_mem hproper.distinct hshare]
      exact le_refl _
  have hsum : (d.orderItems.total fun id item =>
      if item.orderId = rows.claim.orderId then item.remainingCapacity - split.placed id else 0) +
      (d.orderItems.total fun id item => if item.orderId = rows.claim.orderId then split.placed id else 0) =
      d.orderCapacity rows.claim.orderId := by
    rw [← Dict.total_add]
    refine Dict.total_congr fun e _ => ?_
    split_ifs <;> ring
  rw [hplaces.total] at hplaced
  omega

/-- Other orders' lines lose nothing. -/
theorem RefundPosted.orderCapacity_other (h : RefundPosted principal request requestHash now refundId rows split d d')
    (hd : d.Claimed) {orderId : Nat} (hne : orderId ≠ rows.claim.orderId) :
    d'.orderCapacity orderId = d.orderCapacity orderId := by
  unfold Db.orderCapacity
  rw [h.orderItems, Dict.total_adjust]
  refine Dict.total_congr fun e he => ?_
  show (if e.2.orderId = orderId then (e.2.withShare (split.placed e.1)).remainingCapacity else 0) = _
  split_ifs with hof
  · have hzero : split.placed e.1 = 0 := by
      refine h.placed_elsewhere fun hline => hne ?_
      obtain ⟨item, hitem, hitemOf⟩ := hd.line h.locks.claim hline
      rw [Dict.get?_eq_some.mpr he] at hitem
      cases hitem
      exact hof.symm.trans hitemOf
    rw [hzero]
    unfold OrderItem.withShare
    rw [add_zero]
  · rfl

end

/-! ## Promises -/

/-- What is approved for a claim and not paid out. -/
def AfterSale.outstanding (c : AfterSale) : Int :=
  if c.claimStatus = .approved then c.approvedAmount - c.refundedAmount else 0

/-- Two claims name a common line. -/
def Db.sharesLine (d : Db) (i j : Nat) : Bool := (d.lineIds i).any fun lineId => decide (lineId ∈ d.lineIds j)

/-- What is approved and not paid out, of a claim and of every claim it shares a line with. -/
def Db.promised (d : Db) (claimId : Nat) : Int :=
  d.afterSales.total fun j c => if d.sharesLine claimId j = true then c.outstanding else 0

/-- No approved claim of an order is promised more than its lines carry. -/
def Db.Covered (d : Db) (orderId : Nat) : Prop :=
  ∀ (id : Nat) (c : AfterSale), d.afterSales.get? id = some c → c.orderId = orderId → c.claimStatus = .approved →
    d.promised id ≤ d.capacityOf id

/-- Nothing is paid out beyond its approval, and every claim names a line. -/
structure Db.Approvals (d : Db) : Prop where
  outstanding : ∀ {id : Nat} {c : AfterSale}, d.afterSales.get? id = some c → 0 ≤ c.outstanding
  named : ∀ {id : Nat} {c : AfterSale}, d.afterSales.get? id = some c → d.lineIds id ≠ []

theorem sharesLine_self {d : Db} {claimId : Nat} (h : d.lineIds claimId ≠ []) : d.sharesLine claimId claimId = true := by
  obtain ⟨lineId, hline⟩ := List.exists_mem_of_ne_nil _ h
  exact List.any_eq_true.mpr ⟨lineId, hline, decide_eq_true hline⟩

/-- Claims of different orders share no line. -/
theorem sharesLine_other {d : Db} (hd : d.Claimed) {i j : Nat} {c c' : AfterSale} (hc : d.afterSales.get? i = some c)
    (hc' : d.afterSales.get? j = some c') (hne : c.orderId ≠ c'.orderId) : d.sharesLine i j = false := by
  rw [Bool.eq_false_iff]
  intro hshares
  obtain ⟨lineId, hline, hline'⟩ := List.any_eq_true.mp hshares
  obtain ⟨item, hitem, hof⟩ := hd.line hc hline
  obtain ⟨item', hitem', hof'⟩ := hd.line hc' (of_decide_eq_true hline')
  rw [hitem] at hitem'
  cases hitem'
  exact hne (hof.symm.trans hof')

/-- A claim is promised its own outstanding amount at least. -/
theorem outstanding_le_promised {d : Db} (ha : d.Approvals) {id : Nat} {c : AfterSale}
    (hc : d.afterSales.get? id = some c) : c.outstanding ≤ d.promised id := by
  have hself := sharesLine_self (ha.named hc)
  have hterm := Dict.le_total (g := fun j c => if d.sharesLine id j = true then AfterSale.outstanding c else 0)
    (fun e he => by
      have hnonneg := ha.outstanding (Dict.get?_eq_some.mpr he)
      split_ifs
      · exact hnonneg
      · exact le_refl 0) hc
  rw [if_pos hself] at hterm
  exact hterm

/-- Rewriting one claim moves the promises of the claims it shares a line with. -/
theorem promised_modify (d d' : Db) (hitems : d'.afterSaleItems = d.afterSaleItems) {k : Nat} {c : AfterSale}
    {f : AfterSale → AfterSale} (hc : d.afterSales.get? k = some c) (hclaims : d'.afterSales = d.afterSales.modify k f)
    (claimId : Nat) : d'.promised claimId = d.promised claimId +
      if d.sharesLine claimId k = true then (f c).outstanding - c.outstanding else 0 := by
  have hlines : d'.lineIds = d.lineIds := by
    funext id
    unfold Db.lineIds Db.claimLines Db.claimItems
    rw [hitems]
  have hshares : d'.sharesLine = d.sharesLine := by
    funext i j
    unfold Db.sharesLine
    rw [hlines]
  unfold Db.promised
  rw [hshares, hclaims, Dict.total_modify hc]
  split_ifs <;> ring

theorem capacityOf_congr (d d' : Db) (hitems : d'.afterSaleItems = d.afterSaleItems)
    (horderItems : d'.orderItems = d.orderItems) (claimId : Nat) : d'.capacityOf claimId = d.capacityOf claimId := by
  unfold Db.capacityOf Db.lineIds Db.claimLines Db.claimItems Db.capacityOn
  rw [hitems, horderItems]

/-- A claim that is promised less, and is not approved, leaves the others covered. -/
theorem covered_modified {d : Db} {orderId k : Nat} {c : AfterSale} {f : AfterSale → AfterSale}
    (h : d.Covered orderId) (hc : d.afterSales.get? k = some c) (hstatus : (f c).claimStatus ≠ .approved)
    (hle : (f c).outstanding ≤ c.outstanding) :
    ({ d with afterSales := d.afterSales.modify k f } : Db).Covered orderId := by
  intro id c' hc' hof happroved
  have hpromised := promised_modify d { d with afterSales := d.afterSales.modify k f } rfl hc rfl id
  have hcapacity := capacityOf_congr d { d with afterSales := d.afterSales.modify k f } rfl rfl id
  have hold : d.afterSales.get? id = some c' := by
    by_cases hid : id = k
    · subst hid
      obtain rfl : f c = c' := by
        have hrow : (d.afterSales.modify id f).get? id = some c' := hc'
        rw [Dict.get?_modify_self, hc] at hrow
        exact Option.some.inj hrow
      exact absurd happroved hstatus
    · exact (Dict.get?_modify_ne hid f).symm.trans hc'
  have hcovered := h id c' hold hof happroved
  rw [hpromised, hcapacity]
  split_ifs <;> omega

/-- A refund pays out of the promise of its claim. -/
theorem refundedBy_outstanding {c : AfterSale} {amount : Int} (happroved : c.claimStatus = .approved)
    (hle : c.refundedAmount + amount ≤ c.approvedAmount) (now : Time) :
    (c.refundedBy amount now c).outstanding = c.outstanding - amount := by
  have hold : c.outstanding = c.approvedAmount - c.refundedAmount := if_pos happroved
  rw [hold]
  unfold AfterSale.refundedBy
  dsimp only
  by_cases hdone : 0 < c.approvedAmount ∧ c.approvedAmount ≤ c.refundedAmount + amount
  · rw [if_pos hdone]
    show (0 : Int) = _
    omega
  · rw [if_neg hdone]
    show (if c.claimStatus = .approved then c.approvedAmount - (c.refundedAmount + amount) else 0) = _
    rw [if_pos happroved]
    ring

/-- A refund takes from the lines of a claim no more than from what is promised on them. -/
theorem covered_posted {principal : Principal} {request : RefundRequest} {requestHash : String} {now : Time}
    {refundId : Nat} {rows : RefundRows} {split : RefundSplit} {d d' : Db} {orderId : Nat} (hc : d.Covered orderId)
    (hd : d.Claimed) (hlines : d.LinesChecked)
    (h : RefundPosted principal request requestHash now refundId rows split d d') : d'.Covered orderId := by
  obtain ⟨hwithin, hplaces⟩ := validateCaps_eq_ok h.caps
  have hproper := h.proper hd
  have hitems : d'.afterSaleItems = d.afterSaleItems := by
    obtain ⟨movements, inventories, outbox, -, -, rfl⟩ := h.effects
    rfl
  have hclaims : d'.afterSales = d.afterSales.modify rows.claimId (rows.claim.refundedBy request.amount now) := by
    obtain ⟨movements, inventories, outbox, -, -, rfl⟩ := h.effects
    rfl
  intro id c' hc' hof happroved
  obtain ⟨c, hold, hstatus, hsame⟩ : ∃ c, d.afterSales.get? id = some c ∧ c.claimStatus = .approved ∧
      c'.orderId = c.orderId := by
    by_cases hid : id = rows.claimId
    · subst hid
      have hfollows := refundedBy_follows hwithin.positive h.locks.approved now
      rw [hclaims, Dict.get?_modify_self, h.locks.claim] at hc'
      cases hc'
      exact ⟨rows.claim, h.locks.claim, h.locks.approved, hfollows.orderId⟩
    · rw [hclaims, Dict.get?_modify_ne hid] at hc'
      exact ⟨c', hc', happroved, rfl⟩
  have hcovered := hc id c hold (hsame.symm.trans hof) hstatus
  have hpromised := promised_modify d d' hitems h.locks.claim hclaims id
  rw [refundedBy_outstanding h.locks.approved hwithin.approved] at hpromised
  rw [hpromised, h.capacityOf hd hlines hold]
  have hplaced := hproper.sum_placed_le (hd.linesDistinct id)
  rw [hplaces.total] at hplaced
  by_cases hshares : d.sharesLine id rows.claimId = true
  · rw [if_pos hshares]
    show _ ≤ d.capacityOf id - ((d.lineIds id).map split.placed).sum
    have hplaced : ((d.lineIds id).map split.placed).sum ≤ request.amount := hplaced
    omega
  · have hzero : ((d.lineIds id).map split.placed).sum = 0 := by
      refine List.sum_eq_zero fun q hq => ?_
      obtain ⟨lineId, hline, rfl⟩ := List.mem_map.mp hq
      refine h.placed_elsewhere fun hmem => hshares ?_
      exact List.any_eq_true.mpr ⟨lineId, hline, decide_eq_true hmem⟩
    rw [if_neg hshares, hzero]
    omega

/-! ## New claims -/

theorem claimLines_ne_nil (request : ApplyAfterSaleRequest) : request.claimLines ≠ [] := by
  have hmerged : ∀ (items : List ApplyAfterSaleItem) (merged : Dict Nat Int) (id : Nat), (id ∈ merged.keys ∨
      ∃ line ∈ items, line.orderItemId = id) → id ∈ (items.foldl (fun merged line =>
        merged.set line.orderItemId ((merged.get? line.orderItemId).getD 0 + line.quantity)) merged).keys := by
    intro items
    induction items with
    | nil =>
      rintro merged id (h | ⟨line, hline, -⟩)
      · exact h
      · cases hline
    | cons line items ih =>
      intro merged id h
      refine ih _ id ?_
      by_cases hid : id = line.orderItemId
      · exact .inl (Dict.mem_keys_iff.mpr ⟨_, by rw [hid, Dict.get?_set_self]⟩)
      · rcases h with h | ⟨line', hline', hid'⟩
        · obtain ⟨v, hv⟩ := Dict.mem_keys_iff.mp h
          exact .inl (Dict.mem_keys_iff.mpr ⟨v, by rw [Dict.get?_set_ne hid, hv]⟩)
        · rcases List.mem_cons.mp hline' with rfl | hline'
          · exact absurd hid'.symm hid
          · exact .inr ⟨line', hline', hid'⟩
  intro hnil
  obtain ⟨line, hline⟩ := List.exists_mem_of_length_pos request.lines.1
  have hkey := hmerged request.items Dict.empty line.orderItemId (.inr ⟨line, hline, rfl⟩)
  obtain ⟨v, hv⟩ := Dict.mem_keys_iff.mp hkey
  have hentry := (claimLines_perm request).mem_iff.mpr (Dict.get?_eq_some.mp hv)
  rw [hnil] at hentry
  cases hentry

section

variable {principal : Principal} {request : ApplyAfterSaleRequest} {key requestHash : String} {next : Nat} {d : Db}
  {orderId : Nat} {order : Order} {rows : List AfterSaleItem} {now : Time}

/-- The lines of the other claims stay. -/
theorem ClaimFiled.lineIds (h : ClaimFiled principal request key next d orderId order rows) (hfresh : d.FreshFrom next)
    {claimId : Nat} (hne : claimId ≠ next + 1) :
    (d.filed request key requestHash orderId order rows next now).lineIds claimId = d.lineIds claimId := by
  have hselect : (d.afterSaleItems.setFrom (next + 2) rows).select (fun row => row.afterSaleId = claimId) =
      d.afterSaleItems.select fun row => row.afterSaleId = claimId := by
    unfold Dict.select
    rw [Dict.entries_setFrom fun i hi => (hfresh i (by omega)).afterSaleItems, List.filter_append]
    have hnone : ((rows.zipIdx (next + 2)).map Prod.swap).filter (fun e => decide (e.2.afterSaleId = claimId)) = [] := by
      refine List.filter_eq_nil_iff.mpr fun e he => ?_
      obtain ⟨⟨row, i⟩, hrow, rfl⟩ := List.mem_map.mp he
      have hclaim := (h.row (List.fst_mem_of_mem_zipIdx hrow)).claim
      show ¬ decide (row.afterSaleId = claimId) = true
      rw [hclaim]
      simpa using Ne.symm hne
    rw [hnone, List.append_nil]
  unfold Db.lineIds Db.claimLines Db.claimItems
  show ((((d.afterSaleItems.setFrom (next + 2) rows).select _).insertionSort _).map _).map _ = _
  rw [hselect]

/-- A new claim is promised nothing. -/
theorem ClaimFiled.promised (h : ClaimFiled principal request key next d orderId order rows) (hfresh : d.FreshFrom next)
    {claimId : Nat} (hne : claimId ≠ next + 1) :
    (d.filed request key requestHash orderId order rows next now).promised claimId = d.promised claimId := by
  generalize hd' : d.filed request key requestHash orderId order rows next now = d'
  have hlines : ∀ {id : Nat}, id ≠ next + 1 → d'.lineIds id = d.lineIds id := by
    intro id hid
    rw [← hd']
    exact h.lineIds hfresh hid
  have hclaims : d'.afterSales = d.afterSales.set (next + 1) (newClaim request key requestHash orderId order now (next + 1)) := by
    rw [← hd']
    rfl
  unfold Db.promised
  rw [hclaims, Dict.total_set_fresh (hfresh (next + 1) (Nat.le_succ _)).afterSales]
  have hnew : (newClaim request key requestHash orderId order now (next + 1)).outstanding = 0 := rfl
  rw [hnew, ite_self, add_zero]
  refine Dict.total_congr fun e he => ?_
  have hold : e.1 ≠ next + 1 := by
    intro heq
    have hget := Dict.get?_eq_some.mpr he
    rw [heq, (hfresh (next + 1) (Nat.le_succ _)).afterSales] at hget
    cases hget
  unfold Db.sharesLine
  rw [hlines hne, hlines hold]

theorem ClaimFiled.covered (h : ClaimFiled principal request key next d orderId order rows) (hfresh : d.FreshFrom next)
    {paidId : Nat} (hc : d.Covered paidId) : (d.filed request key requestHash orderId order rows next now).Covered paidId := by
  intro id c hrow hof happroved
  have hne : id ≠ next + 1 := by
    rintro rfl
    obtain rfl := Option.some.inj ((Dict.get?_set_self _ _ _).symm.trans hrow)
    cases happroved
  have hold : d.afterSales.get? id = some c := (Dict.get?_set_ne hne _).symm.trans hrow
  have hcovered := hc id c hold hof happroved
  rw [h.promised hfresh hne]
  unfold Db.capacityOf at hcovered ⊢
  rw [h.lineIds hfresh hne]
  exact hcovered

theorem ClaimFiled.approvals (h : ClaimFiled principal request key next d orderId order rows) (hfresh : d.FreshFrom next)
    (ha : d.Approvals) : (d.filed request key requestHash orderId order rows next now).Approvals where
  outstanding := by
    intro id c hrow
    by_cases hid : id = next + 1
    · subst hid
      obtain rfl := Option.some.inj ((Dict.get?_set_self _ _ _).symm.trans hrow)
      exact le_refl 0
    · exact ha.outstanding ((Dict.get?_set_ne hid _).symm.trans hrow)
  named := by
    intro id c hrow
    by_cases hid : id = next + 1
    · subst hid
      obtain ⟨line, hline⟩ := List.exists_mem_of_ne_nil _ (claimLines_ne_nil request)
      have hlength : 0 < rows.length := by
        rw [← h.rows.length_eq]
        exact List.length_pos_of_mem hline
      have hmem : rows[0] ∈ rows := List.getElem_mem hlength
      refine List.ne_nil_of_mem (a := rows[0].orderItemId) (mem_lineIds.mpr ⟨next + 2 + 0, rows[0], ?_, (h.row hmem).claim, rfl⟩)
      exact (Dict.get?_setFrom_at hlength).trans (List.getElem?_eq_getElem hlength)
    · rw [h.lineIds hfresh hid]
      exact ha.named ((Dict.get?_set_ne hid _).symm.trans hrow)

end

/-! ## Runs -/

/-- Where the session approves a claim of an order, the approval leaves its claims covered. -/
def AfterSaleOp.Covers (orderId : Nat) (op : AfterSaleOp) (d : Db) : Prop :=
  match op with
  | .approveAfterSale _ afterSaleNo request now => ∀ id c, d.afterSales.get? id = some c → c.afterSaleNo = afterSaleNo →
      c.orderId = orderId → Answer c (c.approvedBy request.approvedAmount now.time) →
        ({ d with afterSales := d.afterSales.modify id (AfterSale.approvedBy request.approvedAmount now.time) } : Db).Covered
          orderId
  | _ => True

/-- What is left of a payment of an order covers its lines. -/
structure Db.Funded (d : Db) (orderId : Nat) : Prop where
  payment : ∀ {id : Nat} {p : Payment}, d.latestPayment orderId = some (id, p) → p.status ∈ refundablePaymentStatuses →
    d.orderCapacity orderId ≤ p.paidAmount - p.refundedAmount
  order : ∀ {o : Order}, d.orders.get? orderId = some o → d.orderCapacity orderId ≤ o.paidAmount - o.refundedAmount

/-- What runs keep of an order whose approvals leave its claims covered. -/
structure Shop.Payable (orderId : Nat) (s : Shop) : Prop extends s.Claimed where
  linesChecked : s.db.LinesChecked
  approvals : s.db.Approvals
  covered : s.db.Covered orderId
  funded : s.db.Funded orderId

/-- What an answer leaves of the approvals. -/
theorem Answer.outstanding {c c' : AfterSale} (h : Answer c c') (hrefunded : 0 ≤ c.refundedAmount) : 0 ≤ c'.outstanding := by
  cases h with
  | cancelled _ => exact le_refl 0
  | @approved amount now _ positive covers _ =>
    show 0 ≤ amount - c.refundedAmount
    omega
  | rejected _ _ => exact le_refl 0

theorem Db.Approvals.modified {d : Db} (ha : d.Approvals) {k : Nat} {c : AfterSale} {f : AfterSale → AfterSale}
    (hc : d.afterSales.get? k = some c) (hnonneg : 0 ≤ (f c).outstanding) :
    ({ d with afterSales := d.afterSales.modify k f } : Db).Approvals := by
  have hrows : ∀ {id : Nat} {c' : AfterSale}, (d.afterSales.modify k f).get? id = some c' →
      0 ≤ c'.outstanding ∧ d.lineIds id ≠ [] := by
    intro id c' hrow
    by_cases hid : id = k
    · subst hid
      rw [Dict.get?_modify_self, hc] at hrow
      cases hrow
      exact ⟨hnonneg, ha.named hc⟩
    · rw [Dict.get?_modify_ne hid] at hrow
      exact ⟨ha.outstanding hrow, ha.named hrow⟩
  exact ⟨fun hrow => (hrows hrow).1, fun hrow => (hrows hrow).2⟩

theorem Db.Approvals.answered {d d' : Db} (ha : d.Approvals) (hd : d.Claimed) {afterSaleNo : String}
    {f : AfterSale → AfterSale} (h : Answered afterSaleNo f d d') : d'.Approvals := by
  obtain ⟨id, c, hc, -, hanswer, -, rfl⟩ := h
  exact ha.modified hc (hanswer.outstanding (hd.refunded hc).1)

/-- A withdrawn or rejected claim is promised nothing. -/
theorem covered_dropped {d d' : Db} {orderId : Nat} (hcov : d.Covered orderId) (ha : d.Approvals) {afterSaleNo : String}
    {f : AfterSale → AfterSale} (h : Answered afterSaleNo f d d') (hf : ∀ c, (f c).claimStatus ≠ .approved) :
    d'.Covered orderId := by
  obtain ⟨id, c, hc, -, -, -, rfl⟩ := h
  have hnothing : (f c).outstanding = 0 := if_neg (hf c)
  exact covered_modified hcov hc (hf c) (hnothing ▸ ha.outstanding hc)

/-- An approval on another order draws on other lines. -/
theorem covered_approvedElsewhere {d : Db} {orderId : Nat} (hcov : d.Covered orderId) (hd : d.Claimed) {k : Nat}
    {c : AfterSale} {f : AfterSale → AfterSale} (hc : d.afterSales.get? k = some c) (hne : c.orderId ≠ orderId)
    (hsame : (f c).orderId = c.orderId) : ({ d with afterSales := d.afterSales.modify k f } : Db).Covered orderId := by
  intro id c' (hc' : (d.afterSales.modify k f).get? id = some c') hof happroved
  have hid : id ≠ k := by
    rintro rfl
    rw [Dict.get?_modify_self, hc] at hc'
    cases hc'
    exact hne (hsame.symm.trans hof)
  rw [Dict.get?_modify_ne hid] at hc'
  have hpromised := promised_modify d { d with afterSales := d.afterSales.modify k f } rfl hc rfl id
  have hother : d.sharesLine id k = false := sharesLine_other hd hc' hc fun heq => hne (heq.symm.trans hof)
  rw [hother, if_neg (by decide), add_zero] at hpromised
  rw [hpromised, capacityOf_congr d { d with afterSales := d.afterSales.modify k f } rfl rfl id]
  exact hcov id c' hc' hof happroved

theorem Db.Approvals.posted {principal : Principal} {request : RefundRequest} {requestHash : String} {now : Time}
    {refundId : Nat} {rows : RefundRows} {split : RefundSplit} {d d' : Db} (ha : d.Approvals)
    (h : RefundPosted principal request requestHash now refundId rows split d d') : d'.Approvals := by
  obtain ⟨hwithin, -⟩ := validateCaps_eq_ok h.caps
  have hpaid := refundedBy_outstanding h.locks.approved hwithin.approved now
  have hopen : rows.claim.outstanding = rows.claim.approvedAmount - rows.claim.refundedAmount := if_pos h.locks.approved
  have hleft := hwithin.approved
  have hmodified := ha.modified (f := rows.claim.refundedBy request.amount now) h.locks.claim (by omega)
  obtain ⟨movements, inventories, outbox, -, -, rfl⟩ := h.effects
  exact ⟨hmodified.outstanding, hmodified.named⟩

theorem Db.Funded.posted {principal : Principal} {request : RefundRequest} {requestHash : String} {now : Time}
    {refundId : Nat} {rows : RefundRows} {split : RefundSplit} {d d' : Db} {orderId : Nat} (hf : d.Funded orderId)
    (hd : d.Claimed) (hlines : d.LinesChecked)
    (h : RefundPosted principal request requestHash now refundId rows split d d') : d'.Funded orderId := by
  have hpayments : d'.payments = d.payments.modify rows.paymentId (rows.payment.refundedBy request.amount) := by
    obtain ⟨movements, inventories, outbox, -, -, rfl⟩ := h.effects
    rfl
  have horders : d'.orders = d.orders.modify rows.claim.orderId fun row =>
      rows.order.afterSaleAxis request.amount (rows.order.refundedBy request.amount row) := by
    obtain ⟨movements, inventories, outbox, -, -, rfl⟩ := h.effects
    rfl
  by_cases hof : orderId = rows.claim.orderId
  · subst hof
    have hcapacity := h.orderCapacity hd hlines
    refine ⟨fun {id p'} hlatest _ => ?_, fun {o'} ho => ?_⟩
    · obtain ⟨p, hp, rfl⟩ := latestPayment_modify hpayments (fun _ => ⟨rfl, rfl⟩) hlatest
      rw [h.locks.latest] at hp
      cases hp
      have hfunded := hf.payment h.locks.latest h.locks.settled
      rw [if_pos rfl]
      show _ ≤ rows.payment.paidAmount - (rows.payment.refundedAmount + request.amount)
      omega
    · rw [horders, Dict.get?_modify_self, h.locks.order] at ho
      cases ho
      have hfunded := hf.order h.locks.order
      show _ ≤ rows.order.paidAmount - (rows.order.refundedAmount + request.amount)
      omega
  · have hcapacity := h.orderCapacity_other hd hof
    refine ⟨fun {id p'} hlatest hsettled => ?_, fun {o'} ho => ?_⟩
    · obtain ⟨p, hp, rfl⟩ := latestPayment_modify hpayments (fun _ => ⟨rfl, rfl⟩) hlatest
      have hid : id ≠ rows.paymentId := by
        rintro rfl
        obtain ⟨hrow, hpaid⟩ := latestPayment_row h.locks.latest
        obtain ⟨hrow', hpaid'⟩ := latestPayment_row hp
        rw [hrow] at hrow'
        cases hrow'
        exact hof (hpaid'.symm.trans hpaid)
      rw [if_neg hid] at hsettled ⊢
      rw [hcapacity]
      exact hf.payment hp hsettled
    · rw [horders, Dict.get?_modify_ne hof] at ho
      rw [hcapacity]
      exact hf.order ho

theorem payable_keeps (env : Deployment) (orderId : Nat) :
    AfterSaleKeeps env (AfterSaleOp.Covers orderId) (Shop.Payable orderId) where
  distinct h := h.claimed.linesDistinct
  drawn h hle := ⟨(claimed_keeps env).drawn h.toClaimed hle, h.linesChecked, h.approvals, h.covered, h.funded⟩
  effect := by
    intro s op next d h hok heffect
    have hclaimed := (claimed_keeps env).effect h.toClaimed trivial heffect
    cases heffect with
    | applied _ filed =>
      exact ⟨hclaimed, h.linesChecked, filed.approvals h.fresh h.approvals, filed.covered h.fresh h.covered,
        h.funded.payment, h.funded.order⟩
    | cancelled answered =>
      have happrovals := h.approvals.answered h.claimed answered
      have hcovered := covered_dropped h.covered h.approvals answered fun _ => nofun
      obtain ⟨id, c, -, -, -, -, rfl⟩ := answered
      exact ⟨hclaimed, h.linesChecked, happrovals, hcovered, h.funded.payment, h.funded.order⟩
    | rejected answered =>
      have happrovals := h.approvals.answered h.claimed answered
      have hcovered := covered_dropped h.covered h.approvals answered fun _ => nofun
      obtain ⟨id, c, -, -, -, -, rfl⟩ := answered
      exact ⟨hclaimed, h.linesChecked, happrovals, hcovered, h.funded.payment, h.funded.order⟩
    | approved answered =>
      have happrovals := h.approvals.answered h.claimed answered
      obtain ⟨id, c, hc, hno, hanswer, -, rfl⟩ := answered
      refine ⟨hclaimed, h.linesChecked, happrovals, ?_, h.funded.payment, h.funded.order⟩
      by_cases hof : c.orderId = orderId
      · exact hok id c hc hno hof hanswer
      · exact covered_approvedElsewhere h.covered h.claimed hc hof hanswer.follows.orderId
    | refunded _ posted =>
      exact ⟨hclaimed, posted.linesChecked h.claimed h.linesChecked, h.approvals.posted posted,
        covered_posted h.covered h.claimed h.linesChecked posted, h.funded.posted h.claimed h.linesChecked posted⟩

/-- An order that was paid in full, and of which nothing was refunded. -/
structure Db.PaidInFull (d : Db) (orderId : Nat) (o : Order) : Prop where
  order : d.orders.get? orderId = some o
  unrefunded : o.refundedAmount = 0
  linesChecked : d.LinesChecked
  lines : (d.orderItems.total fun _ item => if item.orderId = orderId then item.payableAmount else 0) ≤ o.paidAmount
  payment : ∀ {id : Nat} {p : Payment}, d.latestPayment orderId = some (id, p) → p.status ∈ refundablePaymentStatuses →
    p.paidAmount = o.paidAmount ∧ p.refundedAmount = 0

theorem Db.PaidInFull.funded {d : Db} {orderId : Nat} {o : Order} (h : d.PaidInFull orderId o) : d.Funded orderId := by
  have hcapacity : d.orderCapacity orderId ≤ o.paidAmount := by
    refine le_trans (Dict.total_le_total fun e he => ?_) h.lines
    obtain ⟨-, -, -, -, hpayable, hrefunded, -, -⟩ := h.linesChecked _ _ (Dict.get?_eq_some.mpr he)
    unfold OrderItem.remainingCapacity
    split_ifs <;> omega
  refine ⟨fun hlatest hsettled => ?_, fun {o'} ho => ?_⟩
  · obtain ⟨hpaid, hnone⟩ := h.payment hlatest hsettled
    rw [hpaid, hnone, sub_zero]
    exact hcapacity
  · rw [h.order] at ho
    cases ho
    rw [h.unrefunded, sub_zero]
    exact hcapacity

theorem Shop.NoClaims.payable {s : Shop} (h : s.NoClaims) {orderId : Nat} {o : Order} (hpaid : s.db.PaidInFull orderId o) :
    s.Payable orderId where
  toClaimed := h.claimed
  linesChecked := hpaid.linesChecked
  approvals := by
    constructor
    · intro id c hc
      rw [h.afterSales] at hc
      cases hc
    · intro id c hc
      rw [h.afterSales] at hc
      cases hc
  covered := by
    intro id c hc
    rw [h.afterSales] at hc
    cases hc
  funded := hpaid.funded

/-- The refund of a claim's outstanding amount keeps within every cap. -/
def Db.PaysOut (d : Db) (orderId : Nat) : Prop :=
  ∀ (id : Nat) (c : AfterSale), d.afterSales.get? id = some c → c.orderId = orderId → c.claimStatus = .approved →
    0 < c.approvedAmount - c.refundedAmount →
    ∀ (paymentId : Nat) (p : Payment), d.latestPayment orderId = some (paymentId, p) → p.status ∈ refundablePaymentStatuses →
    ∀ o, d.orders.get? orderId = some o →
      (∃ split, validateCaps c p (d.itemsFor orderId) (d.claimLines id) (c.approvedAmount - c.refundedAmount) = .ok split) ∧
        o.refundedAmount + (c.approvedAmount - c.refundedAmount) ≤ o.paidAmount

theorem Shop.Payable.paysOut {orderId : Nat} {s : Shop} (h : s.Payable orderId) : s.db.PaysOut orderId := by
  intro id c hc hof happroved hpositive paymentId p hlatest hsettled o ho
  have hopen : c.outstanding = c.approvedAmount - c.refundedAmount := if_pos happroved
  have hpromised := outstanding_le_promised h.approvals hc
  have hcovered := h.covered id c hc hof happroved
  have hcapacity := capacityOf_le h.claimed hc
  rw [hof] at hcapacity
  have hpayment := h.funded.payment hlatest hsettled
  have horder := h.funded.order ho
  have hlines := claimCapacity_eq h.claimed hc
  rw [hof] at hlines
  have hwithin : WithinCaps c p (s.db.itemsFor orderId) (s.db.claimLines id) (c.approvedAmount - c.refundedAmount) := by
    refine ⟨hpositive, by omega, by omega, ?_, fun line hline => ?_, by omega⟩
    · intro hnil
      refine h.approvals.named hc ?_
      unfold Db.lineIds
      rw [hnil]
      rfl
    · obtain ⟨item, hitem, hitemOf⟩ := h.claimed.line hc (List.mem_map_of_mem hline)
      rw [rowOf_itemsFor_eq hitem (hitemOf.trans hof)]
      rfl
  refine ⟨validateCaps_ok hwithin fun entry hentry => ?_, by omega⟩
  obtain ⟨-, -, -, -, -, -, -, hle⟩ := h.linesChecked _ _ (Dict.mem_select.mp hentry).1
  exact hle

/-- In a run whose approvals each leave the claims of a paid order covered, every approved amount can be paid out. -/
theorem approved_payable (env : Deployment) {s : Shop} (opened : s.NoClaims) {orderId : Nat} {o : Order}
    (paid : s.db.PaidInFull orderId o) {ops : List (AfterSaleOp × Nat)}
    (meets : Shop.MeetsAfterSales env (AfterSaleOp.Covers orderId) ops s) :
    (s.runAfterSales env ops).db.PaysOut orderId :=
  ((payable_keeps env orderId).runMeeting (opened.payable paid) meets).paysOut

theorem paidShop_paidInFull : ∃ o, paidShop.db.PaidInFull 1 o := by
  have hall : ∀ e ∈ paidShop.db.orderItems.entries, e.2.Checked := by decide
  have hlatest : ∀ e ∈ paidShop.db.payments.entries, e.2.paidAmount = 1000 ∧ e.2.refundedAmount = 0 := by decide
  refine ⟨_, rfl, rfl, fun lineId item hitem => hall _ (Dict.get?_eq_some.mp hitem), ?_, fun h _ => ?_⟩
  · decide
  · exact hlatest _ (Dict.get?_eq_some.mp (latestPayment_row h).1)

/-- Covered claims, checked one by one. -/
theorem covered_of_entries {d : Db} {orderId : Nat} (h : ∀ e ∈ d.afterSales.entries, e.2.orderId = orderId →
    e.2.claimStatus = .approved → d.promised e.1 ≤ d.capacityOf e.1) : d.Covered orderId :=
  fun _ _ hc => h _ (Dict.get?_eq_some.mp hc)

/-- The buyer's return of everything, once it is approved. -/
theorem approved_payable_paidShop :
    (paidShop.runAfterSales afterSaleDeployment (sampleReturnRun.take 2)).db.PaysOut 1 := by
  obtain ⟨o, hpaid⟩ := paidShop_paidInFull
  refine approved_payable afterSaleDeployment paidShop_noClaims hpaid ⟨trivial, ?_, trivial⟩
  intro id c hc _ _ _
  refine covered_of_entries ?_
  have hall : ∀ e ∈ (paidShop.runAfterSales afterSaleDeployment (sampleReturnRun.take 1)).db.afterSales.entries,
      ∀ e' ∈ ((paidShop.runAfterSales afterSaleDeployment (sampleReturnRun.take 1)).db.afterSales.modify e.1
        (AfterSale.approvedBy 1000 sampleMorning.time)).entries, e'.2.orderId = 1 → e'.2.claimStatus = .approved →
        ({ (paidShop.runAfterSales afterSaleDeployment (sampleReturnRun.take 1)).db with
          afterSales := (paidShop.runAfterSales afterSaleDeployment (sampleReturnRun.take 1)).db.afterSales.modify e.1
            (AfterSale.approvedBy 1000 sampleMorning.time) } : Db).promised e'.1 ≤
        ({ (paidShop.runAfterSales afterSaleDeployment (sampleReturnRun.take 1)).db with
          afterSales := (paidShop.runAfterSales afterSaleDeployment (sampleReturnRun.take 1)).db.afterSales.modify e.1
            (AfterSale.approvedBy 1000 sampleMorning.time) } : Db).capacityOf e'.1 := by decide +kernel
  exact hall _ (Dict.get?_eq_some.mp hc)

/-- The buyer wants one cup refunded, for the price of both. -/
def sampleWholeClaim : ApplyAfterSaleRequest where
  orderNo := "NV20240101000001"
  type := .refundOnly
  items := [⟨2, 1⟩]
  requestedAmount := 1000
  reason := "broken"
  clientRequestId := "one cup"
  amount := sampleAmount_pos
  reasonGiven := sampleReason_given

/-- And the other cup. -/
def sampleHalfClaim : ApplyAfterSaleRequest where
  orderNo := "NV20240101000001"
  type := .refundOnly
  items := [⟨2, 1⟩]
  requestedAmount := 500
  reason := "broken too"
  clientRequestId := "other cup"

/-- Both claims are approved, and the first is paid out. -/
def sampleClaimsRun : List (AfterSaleOp × Nat) := [
  (.applyAfterSale sampleBuyer sampleWholeClaim "one cup" sampleMorning, 1000),
  (.applyAfterSale sampleBuyer sampleHalfClaim "other cup" sampleMorning, 1000),
  (.approveAfterSale sampleReviewer "NVAS20240101000011" { approvedAmount := 1000, positive := sampleAmount_pos } sampleMorning, 1000),
  (.approveAfterSale sampleReviewer "NVAS20240101000014" { approvedAmount := 500 } sampleMorning, 1000),
  (.executeRefund sampleReviewer { afterSaleNo := "NVAS20240101000011", amount := 1000, idempotencyKey := "refund" }
    sampleMorning, 1000)]

/-- Nothing is left for the second claim. -/
theorem approved_unpayable :
    ¬ ∀ (env : Deployment) (s : Shop) (orderId : Nat) (o : Order), s.NoClaims → s.db.PaidInFull orderId o →
      ∀ ops : List (AfterSaleOp × Nat), (s.runAfterSales env ops).db.PaysOut orderId := by
  intro h
  obtain ⟨o, hpaid⟩ := paidShop_paidInFull
  have hpays := h afterSaleDeployment paidShop 1 o paidShop_noClaims hpaid sampleClaimsRun
  have hrefused : (((paidShop.runAfterSales afterSaleDeployment sampleClaimsRun).db.afterSales.get? 14).bind fun c =>
      ((paidShop.runAfterSales afterSaleDeployment sampleClaimsRun).db.latestPayment 1).bind fun e =>
        ((paidShop.runAfterSales afterSaleDeployment sampleClaimsRun).db.orders.get? 1).map fun _ =>
          decide (c.orderId = 1 ∧ c.claimStatus = .approved ∧ 0 < c.approvedAmount - c.refundedAmount ∧
            e.2.status ∈ refundablePaymentStatuses ∧
            (validateCaps c e.2 ((paidShop.runAfterSales afterSaleDeployment sampleClaimsRun).db.itemsFor 1)
              ((paidShop.runAfterSales afterSaleDeployment sampleClaimsRun).db.claimLines 14)
              (c.approvedAmount - c.refundedAmount)).toOption = none)) = some true := by decide +kernel
  obtain ⟨c, hc, hrefused⟩ := Option.bind_eq_some_iff.mp hrefused
  obtain ⟨⟨paymentId, p⟩, hlatest, hrefused⟩ := Option.bind_eq_some_iff.mp hrefused
  obtain ⟨o', ho, hrefused⟩ := Option.map_eq_some_iff.mp hrefused
  obtain ⟨hof, happroved, hpositive, hsettled, hnone⟩ := of_decide_eq_true hrefused
  obtain ⟨⟨split, hsplit⟩, -⟩ := hpays 14 c hc hof happroved hpositive paymentId p hlatest hsettled o' ho
  rw [hsplit] at hnone
  cases hnone

end NovaCommerce
