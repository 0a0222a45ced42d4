import NovaCommerce.AfterSales.Claims
import NovaCommerce.Lib.Digits

/-!
# Units that are claimed, and units that come back

* `Db.liveUnits` : the units of a line on live claims; the code's own count is the same (`liveClaimedQuantity_eq`);
* `InventoryMovement.Credits` : a movement that returns the units of one claimed line; `Db.Credited` : every movement of a
  kind is one of them, and every effect keeps that (`credited_effect`);
* `returns_bounded` : over every run, claimed and returned units stay within what was ordered;
* `returned_iff` : over every run, a claimed line came back exactly when a refund of its claim placed money on it.
-/

namespace NovaCommerce

open Sql

/-! ## Claimed units -/

/-- The claim's units are spoken for. -/
def Db.isLive (d : Db) (claimId : Nat) : Bool :=
  (d.afterSales.get? claimId).any fun c => decide (c.claimStatus ∈ liveClaimStatuses)

/-- The units of a line on live claims. -/
def Db.liveUnits (d : Db) (lineId : Nat) : Int :=
  d.afterSaleItems.total fun _ row => if row.orderItemId = lineId ∧ d.isLive row.afterSaleId = true then row.quantity else 0

theorem sum_claimItems (d : Db) (claimId lineId : Nat) :
    (((d.claimItems claimId).filter fun row => row.2.orderItemId = lineId).map fun row => row.2.quantity).sum =
      d.afterSaleItems.total fun _ row =>
        if row.afterSaleId = claimId then (if row.orderItemId = lineId then row.quantity else 0) else 0 := by
  have hperm := ((claimItems_perm d claimId).filter fun row => decide (row.2.orderItemId = lineId)).map
    fun row => row.2.quantity
  have hselect : ((d.afterSaleItems.select fun row => row.afterSaleId = claimId).filter
      fun row => decide (row.2.orderItemId = lineId)) =
      d.afterSaleItems.select fun row => decide (row.orderItemId = lineId) && decide (row.afterSaleId = claimId) := by
    unfold Dict.select
    rw [List.filter_filter]
  rw [hperm.sum_eq, hselect, Dict.sum_select _ _ AfterSaleItem.quantity]
  refine Dict.total_congr fun e _ => ?_
  by_cases hclaim : e.2.afterSaleId = claimId
  · by_cases hline : e.2.orderItemId = lineId
    · simp [hclaim, hline]
    · simp [hline]
  · simp [hclaim]

/-- The code counts the units of the live claims of the line's order: there are no others. -/
theorem liveClaimedQuantity_eq {d : Db} (hd : d.Claimed) {lineId : Nat} {item : OrderItem}
    (hitem : d.orderItems.get? lineId = some item) : d.liveClaimedQuantity item.orderId lineId = d.liveUnits lineId := by
  unfold Db.liveClaimedQuantity Db.liveClaims Db.liveUnits
  simp only [sum_claimItems]
  rw [Dict.sum_select_total d.afterSales _ d.afterSaleItems AfterSaleItem.afterSaleId
    (fun row => if row.orderItemId = lineId then row.quantity else 0)]
  refine Dict.total_congr fun e he => ?_
  obtain ⟨-, c, item', hc, hitem', hof⟩ := hd.items (Dict.get?_eq_some.mpr he)
  by_cases hline : e.2.orderItemId = lineId
  · rw [hline, hitem] at hitem'
    cases hitem'
    have hlive : ((d.afterSales.get? e.2.afterSaleId).any fun c =>
        decide (c.orderId = item.orderId ∧ c.claimStatus ∈ liveClaimStatuses)) = d.isLive e.2.afterSaleId := by
      unfold Db.isLive
      rw [hc]
      simp [hof]
    rw [hlive]
    simp [hline]
  · simp [hline]

/-- Rows of distinct lines: at most one names a line. -/
theorem sum_named_le {rows : List AfterSaleItem} (hd : (rows.map AfterSaleItem.orderItemId).Nodup) {lineId : Nat}
    {bound : Int} (hb : 0 ≤ bound) (hle : ∀ row ∈ rows, row.orderItemId = lineId → row.quantity ≤ bound) :
    (rows.map fun row => if row.orderItemId = lineId then row.quantity else 0).sum ≤ bound := by
  induction rows with
  | nil => simpa using hb
  | cons row rows ih =>
    rw [List.map_cons, List.nodup_cons] at hd
    rw [List.map_cons, List.sum_cons]
    by_cases hline : row.orderItemId = lineId
    · have hrest : (rows.map fun row => if row.orderItemId = lineId then row.quantity else 0).sum = 0 := by
        refine List.sum_eq_zero fun q hq => ?_
        obtain ⟨r, hr, rfl⟩ := List.mem_map.mp hq
        refine if_neg fun heq => hd.1 ?_
        rw [hline, ← heq]
        exact List.mem_map_of_mem hr
      rw [if_pos hline, hrest, add_zero]
      exact hle row List.mem_cons_self hline
    · rw [if_neg hline, zero_add]
      exact ih hd.2 fun r hr => hle r (List.mem_cons_of_mem _ hr)

/-- No line is claimed for more units than it has. -/
def Db.UnitsBounded (d : Db) : Prop :=
  ∀ (lineId : Nat) (item : OrderItem), d.orderItems.get? lineId = some item → d.liveUnits lineId ≤ item.quantity

/-- Filing a claim keeps within the units of the lines. -/
theorem ClaimFiled.unitsBounded {principal : Principal} {request : ApplyAfterSaleRequest} {key requestHash : String}
    {next : Nat} {d : Db} {orderId : Nat} {order : Order} {rows : List AfterSaleItem} {now : Time} (hd : d.Claimed)
    (hfresh : d.FreshFrom next) (h : ClaimFiled principal request key next d orderId order rows) (hb : d.UnitsBounded) :
    (d.filed request key requestHash orderId order rows next now).UnitsBounded := by
  intro lineId item (hitem : d.orderItems.get? lineId = some item)
  generalize hd' : d.filed request key requestHash orderId order rows next now = d'
  have hitems : d'.afterSaleItems = d.afterSaleItems.setFrom (next + 2) rows := by
    rw [← hd']
    rfl
  have hlive : ∀ {i : Nat} {row : AfterSaleItem}, d.afterSaleItems.get? i = some row →
      d'.isLive row.afterSaleId = d.isLive row.afterSaleId := by
    intro i row hrow
    obtain ⟨-, c, -, hc, -⟩ := hd.items hrow
    have hne : row.afterSaleId ≠ next + 1 := by
      intro heq
      rw [heq, (hfresh (next + 1) (Nat.le_succ _)).afterSales] at hc
      cases hc
    unfold Db.isLive
    rw [← hd']
    show ((d.afterSales.set (next + 1) _).get? row.afterSaleId).any _ = _
    rw [Dict.get?_set_ne hne]
  have hrows : (rows.map fun row =>
      if row.orderItemId = lineId ∧ d'.isLive row.afterSaleId = true then row.quantity else 0).sum ≤
      item.quantity - d.liveUnits lineId := by
    have hdistinct : (rows.map AfterSaleItem.orderItemId).Nodup := by
      rw [h.map_orderItemId]
      exact claimLines_nodup request
    have hterms : (rows.map fun row =>
        if row.orderItemId = lineId ∧ d'.isLive row.afterSaleId = true then row.quantity else 0).sum ≤
        (rows.map fun row => if row.orderItemId = lineId then row.quantity else 0).sum := by
      refine List.sum_le_sum fun row hrow => ?_
      have hpos := (h.row hrow).positive
      split_ifs <;> omega
    refine hterms.trans (sum_named_le hdistinct (by have := hb lineId item hitem; omega) fun row hrow hline => ?_)
    obtain ⟨-, -, item', hitem', hof, hle⟩ := h.row hrow
    rw [hline, hitem] at hitem'
    cases hitem'
    rw [← hof, hline, liveClaimedQuantity_eq hd hitem] at hle
    omega
  unfold Db.liveUnits at hrows ⊢
  rw [hitems, Dict.total_setFrom (fun i hi => (hfresh i (by omega)).afterSaleItems)
    (fun row => if row.orderItemId = lineId ∧ d'.isLive row.afterSaleId = true then row.quantity else 0)]
  have hold : (d.afterSaleItems.total fun _ row =>
      if row.orderItemId = lineId ∧ d'.isLive row.afterSaleId = true then row.quantity else 0) =
      d.afterSaleItems.total fun _ row =>
        if row.orderItemId = lineId ∧ d.isLive row.afterSaleId = true then row.quantity else 0 := by
    refine Dict.total_congr fun e he => ?_
    rw [hlive (Dict.get?_eq_some.mpr he)]
  rw [hold]
  omega

/-- Claims that follow free units at most. -/
theorem liveUnits_le {d d' : Db} (hd : d.Claimed) (hitems : d'.afterSaleItems = d.afterSaleItems)
    (hclaims : Dict.Grows AfterSale.Follows (fun _ => True) d.afterSales d'.afterSales) (lineId : Nat) :
    d'.liveUnits lineId ≤ d.liveUnits lineId := by
  unfold Db.liveUnits
  rw [hitems]
  refine Dict.total_le_total fun e he => ?_
  obtain ⟨hpos, c, -, hc, -⟩ := hd.items (Dict.get?_eq_some.mpr he)
  have hlive : d'.isLive e.2.afterSaleId = true → d.isLive e.2.afterSaleId = true := by
    obtain ⟨c', hc', hfollows⟩ := hclaims.kept _ _ hc
    unfold Db.isLive
    rw [hc, hc']
    simpa using hfollows.live
  split_ifs with h' h
  · exact le_refl _
  · exact absurd ⟨h'.1, hlive h'.2⟩ h
  · exact hpos.le
  · exact le_refl _

theorem unitsBounded_effect {env : Deployment} {next next' : Nat} {d d' : Db} {op : AfterSaleOp} (hd : d.Claimed)
    (hfresh : d.FreshFrom next) (h : AfterSaleEffect env next d op next' d') (hb : d.UnitsBounded) : d'.UnitsBounded := by
  have hle : d'.afterSaleItems = d.afterSaleItems → ∀ lineId, d'.liveUnits lineId ≤ d.liveUnits lineId :=
    fun hitems lineId => liveUnits_le hd hitems (h.claims hfresh) lineId
  have hanswered : ∀ {afterSaleNo : String} {f : AfterSale → AfterSale}, Answered afterSaleNo f d d' → d'.UnitsBounded := by
    rintro afterSaleNo f ⟨id, c, -, -, -, -, rfl⟩
    exact fun lineId item hitem => (hle rfl lineId).trans (hb lineId item hitem)
  cases h with
  | applied _ filed => exact filed.unitsBounded hd hfresh hb
  | cancelled answered => exact hanswered answered
  | approved answered => exact hanswered answered
  | rejected answered => exact hanswered answered
  | @refunded _ _ _ _ split _ _ posted =>
    obtain ⟨movements, inventories, outbox, -, -, rfl⟩ := posted.effects
    intro lineId item (hitem : (d.orderItems.adjust _).get? lineId = some item)
    rw [Dict.get?_adjust] at hitem
    obtain ⟨old, hold, rfl⟩ := Option.map_eq_some_iff.mp hitem
    exact (hle rfl lineId).trans (hb lineId old hold)

/-! ## Returned units -/

theorem returnInKey_eq (n : String) (j : Nat) : returnInMovementKey n j = "return-in:" ++ n ++ ":" ++ toString j := by
  unfold returnInMovementKey
  simp only [String.append_assoc]
  rfl

theorem returnInKey_inj {n n' : String} {j j' : Nat} (h : returnInMovementKey n j = returnInMovementKey n' j') :
    n = n' ∧ j = j' := by
  rw [returnInKey_eq, returnInKey_eq] at h
  obtain ⟨hrest, hj⟩ := Digits.append_colon_decimal_inj h
  exact ⟨(String.append_right_inj _).mp hrest, hj⟩

/-- The movement returns the units of a line of a claim. -/
def InventoryMovement.Credits (m : InventoryMovement) (c : AfterSale) (lineId : Nat) : Prop :=
  m.movementType = .returnIn ∧ m.idempotencyKey = returnInMovementKey c.afterSaleNo lineId

instance InventoryMovement.decidableCredits (m : InventoryMovement) (c : AfterSale) (lineId : Nat) :
    Decidable (m.Credits c lineId) := by
  unfold InventoryMovement.Credits
  infer_instance

/-- The units of a line that came back to stock, over all claims. -/
def Db.creditedUnits (d : Db) (lineId : Nat) : Int :=
  ((d.movements.filter fun m => d.afterSales.values.any fun c => decide (m.Credits c lineId)).map
    InventoryMovement.deltaAvailable).sum

/-- What the movement that returns a claimed line says. -/
structure ReturnOf (d : Db) (m : InventoryMovement) (row : AfterSaleItem) : Prop where
  movementType : m.movementType = .returnIn
  units : m.deltaAvailable = row.quantity
  reference : m.referenceId = some row.afterSaleId
  claim : ∃ c, d.afterSales.get? row.afterSaleId = some c ∧ c.type = .returnRefund ∧ 0 < c.refundedAmount ∧
    m.idempotencyKey = returnInMovementKey c.afterSaleNo row.orderItemId

/-- Every movement of a kind returns a claimed line. -/
def Db.Credited (d : Db) (p : InventoryMovement → Prop) : Prop :=
  ∀ m ∈ d.movements, p m → ∃ i row, d.afterSaleItems.get? i = some row ∧ ReturnOf d m row

/-- Returned lines stay returned. -/
theorem ReturnOf.grows {d d' : Db} {m : InventoryMovement} {row : AfterSaleItem} (h : ReturnOf d m row)
    (hclaims : Dict.Grows AfterSale.Follows (fun _ => True) d.afterSales d'.afterSales) : ReturnOf d' m row where
  movementType := h.movementType
  units := h.units
  reference := h.reference
  claim := by
    obtain ⟨c, hc, htype, hrefunded, hkey⟩ := h.claim
    obtain ⟨c', hc', hfollows⟩ := hclaims.kept _ _ hc
    refine ⟨c', hc', hfollows.type.trans htype, lt_of_lt_of_le hrefunded hfollows.refundedAmount, ?_⟩
    rw [hfollows.afterSaleNo]
    exact hkey

theorem mem_claimLines {d : Db} {claimId : Nat} {line : Nat × Int} :
    line ∈ d.claimLines claimId ↔ ∃ i row, d.afterSaleItems.get? i = some row ∧ row.afterSaleId = claimId ∧
      line = (row.orderItemId, row.quantity) := by
  unfold Db.claimLines
  rw [List.mem_map]
  constructor
  · rintro ⟨⟨i, row⟩, hrow, rfl⟩
    obtain ⟨hget, hclaim⟩ := mem_claimItems.mp hrow
    exact ⟨i, row, hget, hclaim, rfl⟩
  · rintro ⟨i, row, hget, hclaim, rfl⟩
    exact ⟨(i, row), mem_claimItems.mpr ⟨hget, hclaim⟩, rfl⟩

/-- The movements of a posted refund. -/
theorem RefundPosted.movements {principal : Principal} {request : RefundRequest} {requestHash : String} {now : Time}
    {refundId : Nat} {rows : RefundRows} {split : RefundSplit} {d d' : Db} (hd : d.Claimed)
    (h : RefundPosted principal request requestHash now refundId rows split d d') :
    ∃ ms, d'.movements = d.movements ++ ms ∧
      ∀ m ∈ ms, ∃ i row, d.afterSaleItems.get? i = some row ∧ row.afterSaleId = rows.claimId ∧
        0 < split.placed row.orderItemId ∧ ReturnOf d' m row := by
  obtain ⟨hwithin, -⟩ := validateCaps_eq_ok h.caps
  obtain ⟨movements, inventories, outbox, hmoves, -, hd'⟩ := h.effects
  obtain ⟨ms, inventories', heq, hms⟩ := hmoves.frame
  have hmovements : movements = d.movements ++ ms := congrArg Db.movements heq
  refine ⟨ms, by rw [hd']; exact hmovements, fun m hm => ?_⟩
  obtain ⟨stock, hstock, held, rfl⟩ := hms m hm
  obtain ⟨htype, line, item, hline, hplaced, -, hitem, rfl⟩ := mem_returnRequests.mp hstock
  rw [h.locks.lineItems] at hline
  obtain ⟨i, row, hrow, hclaim, rfl⟩ := mem_claimLines.mp hline
  refine ⟨i, row, hrow, hclaim, hplaced, rfl, ?_, congrArg some hclaim.symm,
    rows.claim.refundedBy request.amount now rows.claim, ?_, ?_, ?_, ?_⟩
  · show held.availableQty + row.quantity - held.availableQty = row.quantity
    ring
  · rw [hd', hclaim]
    show (d.afterSales.modify rows.claimId _).get? rows.claimId = _
    rw [Dict.get?_modify_self, h.locks.claim]
    rfl
  · exact (refundedBy_follows hwithin.positive h.locks.approved now).type.trans htype
  · have hclaimed := (refundedBy_claim rows.claim request.amount now rows.claim).1
    have hpositive := hwithin.positive
    have hnonneg := (hd.refunded h.locks.claim).1
    omega
  · rw [(refundedBy_follows hwithin.positive h.locks.approved now).afterSaleNo]
    rfl

/-- Only refunds move stock. -/
theorem AfterSaleEffect.movements {env : Deployment} {next next' : Nat} {d d' : Db} {op : AfterSaleOp}
    (h : AfterSaleEffect env next d op next' d') (hd : d.Claimed) :
    ∃ ms, d'.movements = d.movements ++ ms ∧ ∀ m ∈ ms, ∃ i row, d.afterSaleItems.get? i = some row ∧ ReturnOf d' m row := by
  have hsame : d'.movements = d.movements → ∃ ms, d'.movements = d.movements ++ ms ∧
      ∀ m ∈ ms, ∃ i row, d.afterSaleItems.get? i = some row ∧ ReturnOf d' m row :=
    fun heq => ⟨[], by rw [heq, List.append_nil], fun _ hm => nomatch hm⟩
  cases h with
  | applied _ _ => exact hsame rfl
  | cancelled answered =>
    obtain ⟨id, c, -, -, -, -, rfl⟩ := answered
    exact hsame rfl
  | approved answered =>
    obtain ⟨id, c, -, -, -, -, rfl⟩ := answered
    exact hsame rfl
  | rejected answered =>
    obtain ⟨id, c, -, -, -, -, rfl⟩ := answered
    exact hsame rfl
  | refunded _ posted =>
    obtain ⟨ms, hmovements, hms⟩ := posted.movements hd
    refine ⟨ms, hmovements, fun m hm => ?_⟩
    obtain ⟨i, row, hrow, -, -, hreturn⟩ := hms m hm
    exact ⟨i, row, hrow, hreturn⟩

theorem credited_effect {env : Deployment} {next next' : Nat} {d d' : Db} {op : AfterSaleOp}
    {p : InventoryMovement → Prop} (hd : d.Claimed) (hfresh : d.FreshFrom next)
    (h : AfterSaleEffect env next d op next' d') (hc : d.Credited p) : d'.Credited p := by
  obtain ⟨ms, hmovements, hms⟩ := h.movements hd
  intro m hm hp
  rw [hmovements, List.mem_append] at hm
  rcases hm with hold | hnew
  · obtain ⟨i, row, hrow, hreturn⟩ := hc m hold hp
    exact ⟨i, row, h.items hfresh hrow, hreturn.grows (h.claims hfresh)⟩
  · obtain ⟨i, row, hrow, hreturn⟩ := hms m hnew
    exact ⟨i, row, h.items hfresh hrow, hreturn⟩

theorem movementKeys_effect {env : Deployment} {next next' : Nat} {d d' : Db} {op : AfterSaleOp}
    (h : AfterSaleEffect env next d op next' d') (hk : d.MovementKeys) : d'.MovementKeys := by
  cases h with
  | applied _ _ => exact hk
  | cancelled answered =>
    obtain ⟨id, c, -, -, -, -, rfl⟩ := answered
    exact hk
  | approved answered =>
    obtain ⟨id, c, -, -, -, -, rfl⟩ := answered
    exact hk
  | rejected answered =>
    obtain ⟨id, c, -, -, -, -, rfl⟩ := answered
    exact hk
  | refunded _ posted =>
    obtain ⟨movements, inventories, outbox, hmoves, -, rfl⟩ := posted.effects
    exact hmoves.movementKeys hk

/-! ## The bounds -/

/-- What runs of after-sales keep of units. -/
structure Shop.UnitsKept (p : InventoryMovement → Prop) (s : Shop) : Prop extends s.Claimed where
  bounded : s.db.UnitsBounded
  keys : s.db.MovementKeys
  credited : s.db.Credited p

theorem unitsKept_keeps (env : Deployment) (p : InventoryMovement → Prop) :
    AfterSaleKeeps env (fun _ _ => True) (Shop.UnitsKept p) where
  distinct h := h.claimed.linesDistinct
  drawn h hle := ⟨(claimed_keeps env).drawn h.toClaimed hle, h.bounded, h.keys, h.credited⟩
  effect h hok heffect := ⟨(claimed_keeps env).effect h.toClaimed hok heffect,
    unitsBounded_effect h.claimed h.fresh heffect h.bounded, movementKeys_effect heffect h.keys,
    credited_effect h.claimed h.fresh heffect h.credited⟩

/-- A shop without claims, where no movement of a kind was made yet. -/
structure Shop.NoReturns (p : InventoryMovement → Prop) (s : Shop) : Prop extends s.NoClaims where
  keys : s.db.MovementKeys
  items : ∀ {lineId : Nat} {item : OrderItem}, s.db.orderItems.get? lineId = some item → item.Checked
  unreturned : ∀ m ∈ s.db.movements, ¬ p m

theorem Shop.NoReturns.unitsKept {p : InventoryMovement → Prop} {s : Shop} (h : s.NoReturns p) : s.UnitsKept p where
  toClaimed := h.claimed
  bounded := by
    intro lineId item hitem
    unfold Db.liveUnits
    rw [h.afterSaleItems]
    exact (h.items hitem).1.le
  keys := h.keys
  credited m hm hp := absurd hp (h.unreturned m hm)

/-- A claimed line comes back at most once. -/
theorem credits_unique {d : Db} (hk : d.MovementKeys) (c : AfterSale) (lineId : Nat) :
    (d.movements.filter fun m => decide (m.Credits c lineId)).length ≤ 1 := by
  have hnodup : ((d.movements.filter fun m => decide (m.Credits c lineId)).map InventoryMovement.idempotencyKey).Nodup :=
    hk.sublist (List.filter_sublist.map InventoryMovement.idempotencyKey)
  have hsame : ∀ key ∈ (d.movements.filter fun m => decide (m.Credits c lineId)).map InventoryMovement.idempotencyKey,
      key = returnInMovementKey c.afterSaleNo lineId := by
    intro key hkey
    obtain ⟨m, hm, rfl⟩ := List.mem_map.mp hkey
    exact (of_decide_eq_true (List.mem_filter.mp hm).2).2
  rw [← List.length_map InventoryMovement.idempotencyKey]
  have hcard := List.toFinset_card_of_nodup hnodup
  rw [← hcard]
  refine (Finset.card_le_card (t := {returnInMovementKey c.afterSaleNo lineId}) fun key hkey => ?_).trans (by simp)
  exact Finset.mem_singleton.mpr (hsame key (List.mem_toFinset.mp hkey))

/-- The units of a line that came back are units of live claims. -/
theorem creditedUnits_le {d : Db} (hd : d.Claimed) (hk : d.MovementKeys)
    (hc : d.Credited fun m => m.movementType = .returnIn) (lineId : Nat) : d.creditedUnits lineId ≤ d.liveUnits lineId := by
  unfold Db.creditedUnits
  generalize hms : d.movements.filter (fun m => d.afterSales.values.any fun c => decide (m.Credits c lineId)) = ms
  have hcredit : ∀ m ∈ ms, ∃ i row, d.afterSaleItems.get? i = some row ∧ ReturnOf d m row ∧ row.orderItemId = lineId := by
    intro m hm
    rw [← hms, List.mem_filter, List.any_eq_true] at hm
    obtain ⟨hmem, c, -, hcredits⟩ := hm
    obtain ⟨htype, hkey⟩ := of_decide_eq_true hcredits
    obtain ⟨i, row, hrow, hreturn⟩ := hc m hmem htype
    obtain ⟨c', -, -, -, hkey'⟩ := hreturn.claim
    exact ⟨i, row, hrow, hreturn, (returnInKey_inj (hkey'.symm.trans hkey)).2⟩
  choose! rowId hrowId using hcredit
  have hkeys : (ms.map InventoryMovement.idempotencyKey).Nodup := by
    rw [← hms]
    exact hk.sublist (List.filter_sublist.map InventoryMovement.idempotencyKey)
  have hids : (ms.map rowId).Nodup := by
    refine List.Nodup.map_on (fun m hm m' hm' heq => ?_) (List.Nodup.of_map _ hkeys)
    obtain ⟨row, hrow, hreturn, -⟩ := hrowId m hm
    obtain ⟨row', hrow', hreturn', -⟩ := hrowId m' hm'
    rw [heq, hrow'] at hrow
    cases hrow
    obtain ⟨c, hclaim, -, -, hkey⟩ := hreturn.claim
    obtain ⟨c', hclaim', -, -, hkey'⟩ := hreturn'.claim
    rw [hclaim] at hclaim'
    cases hclaim'
    exact List.inj_on_of_nodup_map hkeys hm hm' (hkey.trans hkey'.symm)
  have hpairs : ms.map InventoryMovement.deltaAvailable = (ms.map fun m => (rowId m, m.deltaAvailable)).map Prod.snd := by
    rw [List.map_map]
    rfl
  rw [hpairs]
  refine Dict.sum_le_total (fun e he => ?_) ?_ fun pair hpair => ?_
  · have hpos := (hd.items (Dict.get?_eq_some.mpr he)).1
    split_ifs <;> omega
  · rw [List.map_map]
    exact hids
  · obtain ⟨m, hm, rfl⟩ := List.mem_map.mp hpair
    obtain ⟨row, hrow, hreturn, hline⟩ := hrowId m hm
    refine ⟨row, hrow, ?_⟩
    have hlive : d.isLive row.afterSaleId = true := by
      obtain ⟨c, hclaim, -, hrefunded, -⟩ := hreturn.claim
      unfold Db.isLive
      rw [hclaim]
      rcases (hd.refunded hclaim).2 hrefunded with h | h
      · simp [h, liveClaimStatuses]
      · simp [h, liveClaimStatuses]
    rw [if_pos ⟨hline, hlive⟩]
    exact hreturn.units.le

/-- Over every run of after-sales, the units of a line on live claims, and the units of it that came back to stock, stay
within what was ordered; a claimed line comes back at most once, and only on a return. -/
theorem returns_bounded (env : Deployment) {s : Shop} (opened : s.NoReturns fun m => m.movementType = .returnIn)
    (ops : List (AfterSaleOp × Nat)) :
    let d := (s.runAfterSales env ops).db
    (∀ lineId item, d.orderItems.get? lineId = some item →
      d.liveUnits lineId ≤ item.quantity ∧ d.creditedUnits lineId ≤ item.quantity) ∧
    (∀ id c, d.afterSales.get? id = some c → ∀ lineId,
      (d.movements.filter fun m => decide (m.Credits c lineId)).length ≤ 1) ∧
    (∀ m ∈ d.movements, m.movementType = .returnIn → ∃ id c lineId, d.afterSales.get? id = some c ∧
      c.type = .returnRefund ∧ m.referenceId = some id ∧ m.Credits c lineId) ∧
    (∀ id c, d.afterSales.get? id = some c → c.type = .refundOnly → ∀ m ∈ d.movements, ∀ lineId, ¬ m.Credits c lineId) := by
  have hkept := (unitsKept_keeps env _).run opened.unitsKept ops
  have hcredited := hkept.credited
  refine ⟨fun lineId item hitem => ?_, fun id c _ lineId => credits_unique hkept.keys c lineId, fun m hm htype => ?_,
    fun id c hc htype m hm lineId hcredits => ?_⟩
  · have hlive := hkept.bounded lineId item hitem
    have hback := creditedUnits_le hkept.claimed hkept.keys hcredited lineId
    exact ⟨hlive, hback.trans hlive⟩
  · obtain ⟨i, row, -, hreturn⟩ := hcredited m hm htype
    obtain ⟨c, hc, hreturned, -, hkey⟩ := hreturn.claim
    exact ⟨row.afterSaleId, c, row.orderItemId, hc, hreturned, hreturn.reference, htype, hkey⟩
  · obtain ⟨i, row, -, hreturn⟩ := hcredited m hm hcredits.1
    obtain ⟨c', hc', hreturned, -, hkey⟩ := hreturn.claim
    have hno := (returnInKey_inj (hkey.symm.trans hcredits.2)).1
    obtain rfl := hkept.claimed.number_inj hc hc' hno.symm
    rw [hc] at hc'
    cases hc'
    rw [htype] at hreturned
    cases hreturned

theorem paidShop_noReturns (p : InventoryMovement → Prop) : paidShop.NoReturns p where
  toNoClaims := paidShop_noClaims
  keys := List.nodup_nil
  items := by
    have hall : ∀ e ∈ paidShop.db.orderItems.entries, e.2.Checked := by decide
    intro lineId item hitem
    exact hall _ (Dict.get?_eq_some.mp hitem)
  unreturned _ h := nomatch h

/-- The buyer returns the cups and the plate. -/
theorem returns_bounded_paidShop :
    let d := (paidShop.runAfterSales afterSaleDeployment sampleReturnRun).db
    (∀ lineId item, d.orderItems.get? lineId = some item →
      d.liveUnits lineId ≤ item.quantity ∧ d.creditedUnits lineId ≤ item.quantity) ∧
    (∀ id c, d.afterSales.get? id = some c → ∀ lineId,
      (d.movements.filter fun m => decide (m.Credits c lineId)).length ≤ 1) ∧
    (∀ m ∈ d.movements, m.movementType = .returnIn → ∃ id c lineId, d.afterSales.get? id = some c ∧
      c.type = .returnRefund ∧ m.referenceId = some id ∧ m.Credits c lineId) ∧
    (∀ id c, d.afterSales.get? id = some c → c.type = .refundOnly → ∀ m ∈ d.movements, ∀ lineId, ¬ m.Credits c lineId) :=
  returns_bounded afterSaleDeployment (paidShop_noReturns _) sampleReturnRun

/-! ## The lines that come back -/

/-- The key is of a returned line. -/
def InventoryMovement.KeyedReturn (m : InventoryMovement) : Prop := "return-in:".toList <+: m.idempotencyKey.toList

/-- What was refunded of a line. -/
def Db.refundedOn (d : Db) (lineId : Nat) : Int := ((d.orderItems.get? lineId).map OrderItem.refundedAmount).getD 0

/-- The session asks for a refund of a claim. -/
def AfterSaleOp.Refunds (op : AfterSaleOp) (afterSaleNo : String) : Prop :=
  match op with
  | .executeRefund _ request _ => request.afterSaleNo = afterSaleNo
  | _ => False

/-- Some refund of a claim in the run places money on a line. -/
def Shop.PlacesOn (env : Deployment) (afterSaleNo : String) (lineId : Nat) : List (AfterSaleOp × Nat) → Shop → Prop
  | [], _ => False
  | (op, n) :: ops, s =>
    (op.Refunds afterSaleNo ∧ s.db.refundedOn lineId < (s.afterSale env op n).db.refundedOn lineId) ∨
      Shop.PlacesOn env afterSaleNo lineId ops (s.afterSale env op n)

/-- A line of a claim came back. -/
def Db.Returned (d : Db) (afterSaleNo : String) (lineId : Nat) : Prop :=
  ∃ m ∈ d.movements, m.movementType = .returnIn ∧ m.idempotencyKey = returnInMovementKey afterSaleNo lineId

theorem keyedReturn {m : InventoryMovement} {n : String} {j : Nat} (h : m.idempotencyKey = returnInMovementKey n j) :
    m.KeyedReturn := by
  unfold InventoryMovement.KeyedReturn
  rw [h, returnInKey_eq, String.append_assoc, String.append_assoc, String.toList_append]
  exact ⟨_, rfl⟩

/-- Every request of a loop has its movement in the end. -/
theorem Moves.used {op : StockOperation} {now : Time} {requests : List StockRequest} {d d' : Db}
    (h : Moves op now requests d d') :
    (∀ m ∈ d.movements, m ∈ d'.movements) ∧ ∀ r ∈ requests, ∃ m ∈ d'.movements, m.idempotencyKey = r.idempotencyKey := by
  induction h with
  | nil => exact ⟨fun _ h => h, fun _ h => nomatch h⟩
  | @cons first rest d d₁ d₂ moved _ ih =>
    have hfirst : (∀ m ∈ d.movements, m ∈ d₁.movements) ∧ ∃ m ∈ d₁.movements, m.idempotencyKey = first.idempotencyKey := by
      cases moved with
      | @replayed m used =>
        have hkey := List.find?_some used
        rw [decide_eq_true_eq] at hkey
        exact ⟨fun _ h => h, m, List.mem_of_find?_eq_some used, hkey⟩
      | @applied _ _ row _ _ _ _ _ =>
        exact ⟨fun m hm => List.mem_append_left _ hm, op.movement first row, by simp [Db.moved], rfl⟩
    refine ⟨fun m hm => ih.1 m (hfirst.1 m hm), fun r hr => ?_⟩
    rcases List.mem_cons.mp hr with rfl | hr
    · obtain ⟨m, hm, hkey⟩ := hfirst.2
      exact ⟨m, ih.1 m hm, hkey⟩
    · exact ih.2 r hr

/-- A refund raises a line by what it places on it. -/
theorem RefundPosted.refundedOn {principal : Principal} {request : RefundRequest} {requestHash : String} {now : Time}
    {refundId : Nat} {rows : RefundRows} {split : RefundSplit} {d d' : Db}
    (h : RefundPosted principal request requestHash now refundId rows split d d') {lineId : Nat} {item : OrderItem}
    (hitem : d.orderItems.get? lineId = some item) : d'.refundedOn lineId = d.refundedOn lineId + split.placed lineId := by
  obtain ⟨movements, inventories, outbox, -, -, rfl⟩ := h.effects
  unfold Db.refundedOn
  show (((d.orderItems.adjust _).get? lineId).map OrderItem.refundedAmount).getD 0 = _
  rw [Dict.get?_adjust, hitem]
  rfl

/-- A line that a refund of a return placed money on came back. -/
theorem RefundPosted.returned {principal : Principal} {request : RefundRequest} {requestHash : String} {now : Time}
    {refundId : Nat} {rows : RefundRows} {split : RefundSplit} {d d' : Db} (hd : d.Claimed)
    (h : RefundPosted principal request requestHash now refundId rows split d d') (htype : rows.claim.type = .returnRefund)
    (hc : d'.Credited InventoryMovement.KeyedReturn) {lineId : Nat} (hplaced : 0 < split.placed lineId) :
    d'.Returned rows.claim.afterSaleNo lineId := by
  obtain ⟨hwithin, hplaces⟩ := validateCaps_eq_ok h.caps
  obtain ⟨share, hshare⟩ : ∃ share, rowOf split.shares lineId = some share := by
    unfold RefundSplit.placed at hplaced
    cases hr : rowOf split.shares lineId with
    | none =>
      rw [hr] at hplaced
      exact absurd hplaced (lt_irrefl 0)
    | some share => exact ⟨share, rfl⟩
  obtain ⟨-, capacity, hcapacity, -⟩ := hplaces.within _ (mem_of_rowOf hshare)
  obtain ⟨quantity, item, hline, hitem, -⟩ := lineFigures_eq hwithin.onOrder hcapacity
  have hpositive : 0 < quantity := by
    rw [h.locks.lineItems] at hline
    obtain ⟨i, row, hrow, -, heq⟩ := mem_claimLines.mp hline
    rw [Prod.mk.injEq] at heq
    rw [heq.2]
    exact (hd.items hrow).1
  have hrequest : _ ∈ returnRequests principal rows.claimId _ _ _ _ := mem_returnRequests.mpr
    ⟨htype, (lineId, quantity), item, hline, hplaced, hpositive, hitem, rfl⟩
  obtain ⟨movements, inventories, outbox, hmoves, -, hd'⟩ := h.effects
  obtain ⟨m, hm, hkey⟩ := hmoves.used.2 _ hrequest
  have hm' : m ∈ d'.movements := by
    rw [hd']
    exact hm
  obtain ⟨i, row, -, hreturn⟩ := hc m hm' (keyedReturn hkey)
  exact ⟨m, hm', hreturn.movementType, hkey⟩

/-- What a session does to a line of a return. -/
theorem returned_step {env : Deployment} {s : Shop} (op : AfterSaleOp) (n : Nat) {afterSaleNo : String} (lineId : Nat)
    (hs : s.UnitsKept InventoryMovement.KeyedReturn)
    (htype : ∀ id c, (s.afterSale env op n).db.afterSales.get? id = some c → c.afterSaleNo = afterSaleNo →
      c.type = .returnRefund) :
    (s.afterSale env op n).db.Returned afterSaleNo lineId ↔ s.db.Returned afterSaleNo lineId ∨
      (op.Refunds afterSaleNo ∧ s.db.refundedOn lineId < (s.afterSale env op n).db.refundedOn lineId) := by
  have hs' := (unitsKept_keeps env _).step hs op trivial n
  rcases afterSale_effect hs.claimed.linesDistinct op n with ⟨hsame, -⟩ | ⟨next, -, heffect⟩
  · rw [hsame]
    simp
  · have hcredited := hs'.credited
    generalize (s.afterSale env op n).db = d' at htype heffect hcredited ⊢
    have hquiet : d'.movements = s.db.movements → ¬ op.Refunds afterSaleNo → (d'.Returned afterSaleNo lineId ↔
        s.db.Returned afterSaleNo lineId ∨ (op.Refunds afterSaleNo ∧ s.db.refundedOn lineId < d'.refundedOn lineId)) := by
      intro hmovements hop
      unfold Db.Returned
      rw [hmovements]
      simp [hop]
    cases heffect with
    | applied _ _ => exact hquiet rfl id
    | cancelled answered =>
      obtain ⟨id, c, -, -, -, -, rfl⟩ := answered
      exact hquiet rfl fun h => h
    | approved answered =>
      obtain ⟨id, c, -, -, -, -, rfl⟩ := answered
      exact hquiet rfl fun h => h
    | rejected answered =>
      obtain ⟨id, c, -, -, -, -, rfl⟩ := answered
      exact hquiet rfl fun h => h
    | @refunded principal request now rows split _ given posted =>
      obtain ⟨hwithin, -⟩ := validateCaps_eq_ok posted.caps
      have hfollows := refundedBy_follows hwithin.positive posted.locks.approved now.time
      have hclaim : d'.afterSales.get? rows.claimId =
          some (rows.claim.refundedBy request.amount now.time rows.claim) := by
        obtain ⟨movements, inventories, outbox, -, -, rfl⟩ := posted.effects
        show (s.db.afterSales.modify rows.claimId _).get? rows.claimId = _
        rw [Dict.get?_modify_self, posted.locks.claim]
        rfl
      obtain ⟨ms, hmovements, hms⟩ := posted.movements hs.claimed
      constructor
      · rintro ⟨m, hm, hreturn, hkey⟩
        rw [hmovements, List.mem_append] at hm
        rcases hm with hold | hnew
        · exact .inl ⟨m, hold, hreturn, hkey⟩
        · obtain ⟨i, row, hrow, hof, hplaced, hreturned⟩ := hms m hnew
          obtain ⟨c, hc, -, -, hkey'⟩ := hreturned.claim
          rw [hof, hclaim] at hc
          cases hc
          obtain ⟨hno, rfl⟩ := returnInKey_inj (hkey'.symm.trans hkey)
          obtain ⟨-, -, item, -, hitem, -⟩ := hs.claimed.items hrow
          refine .inr ⟨?_, ?_⟩
          · show request.afterSaleNo = afterSaleNo
            rw [← hno, hfollows.afterSaleNo, posted.locks.number]
          · rw [posted.refundedOn hitem]
            omega
      · rintro (⟨m, hm, hreturn⟩ | ⟨hop, hraised⟩)
        · refine ⟨m, ?_, hreturn⟩
          rw [hmovements]
          exact List.mem_append_left _ hm
        · have hop : request.afterSaleNo = afterSaleNo := hop
          have hnumber : rows.claim.afterSaleNo = afterSaleNo := posted.locks.number.trans hop
          have hreturnType : rows.claim.type = .returnRefund :=
            hfollows.type.symm.trans (htype _ _ hclaim (hfollows.afterSaleNo.trans hnumber))
          rw [← hnumber]
          refine posted.returned hs.claimed hreturnType hcredited ?_
          cases hitem : s.db.orderItems.get? lineId with
          | none =>
            obtain ⟨movements, inventories, outbox, -, -, rfl⟩ := posted.effects
            have hgone : (s.db.orderItems.adjust fun id => OrderItem.withShare (split.placed id)).get? lineId = none := by
              rw [Dict.get?_adjust, hitem]
              rfl
            unfold Db.refundedOn at hraised
            rw [hitem] at hraised
            change (none.map _).getD 0 < (((s.db.orderItems.adjust _).get? lineId).map _).getD 0 at hraised
            rw [hgone] at hraised
            exact absurd hraised (lt_irrefl _)
          | some item =>
            rw [posted.refundedOn hitem] at hraised
            omega

theorem AfterSale.Follows.trans {c c' c'' : AfterSale} (h : c.Follows c') (h' : c'.Follows c'') : c.Follows c'' where
  merchantId := h'.merchantId.trans h.merchantId
  afterSaleNo := h'.afterSaleNo.trans h.afterSaleNo
  orderId := h'.orderId.trans h.orderId
  userId := h'.userId.trans h.userId
  type := h'.type.trans h.type
  idempotencyKey := h'.idempotencyKey.trans h.idempotencyKey
  requestHash := h'.requestHash.trans h.requestHash
  refundedAmount := h.refundedAmount.trans h'.refundedAmount
  live hlive := h.live (h'.live hlive)

/-- Over a run, a claim follows itself. -/
theorem claim_follows {env : Deployment} {id : Nat} {c : AfterSale} : ∀ (ops : List (AfterSaleOp × Nat)) {s : Shop},
    s.Claimed → s.db.afterSales.get? id = some c →
      ∃ c', (s.runAfterSales env ops).db.afterSales.get? id = some c' ∧ c.Follows c' := by
  intro ops
  induction ops generalizing c with
  | nil => exact fun _ hc => ⟨c, hc, .refl c⟩
  | cons step ops ih =>
    intro s hs hc
    have hstep : ∃ c₁, (s.afterSale env step.1 step.2).db.afterSales.get? id = some c₁ ∧ c.Follows c₁ := by
      rcases afterSale_effect hs.claimed.linesDistinct step.1 step.2 with ⟨hsame, -⟩ | ⟨next, -, heffect⟩
      · exact ⟨c, by rw [hsame]; exact hc, .refl c⟩
      · exact (heffect.claims hs.fresh).kept id c hc
    obtain ⟨c₁, hc₁, hfollows⟩ := hstep
    obtain ⟨c', hc', hrest⟩ := ih ((claimed_keeps env).step hs step.1 trivial step.2) hc₁
    exact ⟨c', hc', hfollows.trans hrest⟩

theorem returned_run (env : Deployment) {afterSaleNo : String} (lineId : Nat) :
    ∀ (ops : List (AfterSaleOp × Nat)) {s : Shop}, s.UnitsKept InventoryMovement.KeyedReturn →
      (∀ id c, (s.runAfterSales env ops).db.afterSales.get? id = some c → c.afterSaleNo = afterSaleNo →
        c.type = .returnRefund) →
      ((s.runAfterSales env ops).db.Returned afterSaleNo lineId ↔
        s.db.Returned afterSaleNo lineId ∨ Shop.PlacesOn env afterSaleNo lineId ops s) := by
  intro ops
  induction ops with
  | nil => exact fun _ _ => (or_iff_left id).symm
  | cons step ops ih =>
    intro s hs htype
    have hs' := (unitsKept_keeps env _).step hs step.1 trivial step.2
    have hstep := returned_step step.1 step.2 lineId hs fun id c hc hno => by
      obtain ⟨c', hc', hfollows⟩ := claim_follows ops hs'.toClaimed hc
      exact hfollows.type.symm.trans (htype id c' hc' (hfollows.afterSaleNo.trans hno))
    rw [show (s.runAfterSales env (step :: ops)) = (s.afterSale env step.1 step.2).runAfterSales env ops from rfl, ih hs' htype,
      hstep, or_assoc]
    rfl

/-- Over every run, every unit of a claimed line of a return came back to stock, by one movement, exactly when some refund
of the claim placed money on the line. -/
theorem returned_iff (env : Deployment) {s : Shop} (opened : s.NoReturns InventoryMovement.KeyedReturn)
    (ops : List (AfterSaleOp × Nat)) {i : Nat} {row : AfterSaleItem} {c : AfterSale}
    (hrow : (s.runAfterSales env ops).db.afterSaleItems.get? i = some row)
    (hc : (s.runAfterSales env ops).db.afterSales.get? row.afterSaleId = some c) (htype : c.type = .returnRefund) :
    (∃ m ∈ (s.runAfterSales env ops).db.movements, m.Credits c row.orderItemId ∧ m.deltaAvailable = row.quantity ∧
      ∀ m' ∈ (s.runAfterSales env ops).db.movements, m'.Credits c row.orderItemId → m' = m) ↔
      Shop.PlacesOn env c.afterSaleNo row.orderItemId ops s := by
  have hkept := (unitsKept_keeps env _).run opened.unitsKept ops
  have hrun := returned_run env row.orderItemId ops opened.unitsKept
    fun id c' hc' hno => by
      obtain rfl := hkept.claimed.number_inj hc hc' hno.symm
      rw [hc] at hc'
      cases hc'
      exact htype
  have hfirst : ¬ s.db.Returned c.afterSaleNo row.orderItemId := by
    rintro ⟨m, hm, -, hkey⟩
    exact opened.unreturned m hm (keyedReturn hkey)
  rw [or_iff_right hfirst] at hrun
  rw [← hrun]
  constructor
  · rintro ⟨m, hm, hcredits, -⟩
    exact ⟨m, hm, hcredits⟩
  · rintro ⟨m, hm, hreturn, hkey⟩
    refine ⟨m, hm, ⟨hreturn, hkey⟩, ?_, fun m' hm' hcredits =>
      List.inj_on_of_nodup_map hkept.keys hm' hm (hcredits.2.trans hkey.symm)⟩
    obtain ⟨j, row', hrow', hreturned⟩ := hkept.credited m hm (keyedReturn hkey)
    obtain ⟨c', hc', -, -, hkey'⟩ := hreturned.claim
    obtain ⟨hno, hline⟩ := returnInKey_inj (hkey'.symm.trans hkey)
    have hsame : row'.afterSaleId = row.afterSaleId := hkept.claimed.number_inj hc' hc hno
    obtain rfl := hkept.claimed.distinct hrow' hrow hsame hline
    rw [hrow] at hrow'
    cases hrow'
    exact hreturned.units

/-- The row and the claim of a claimed line in the end of a run. -/
theorem claimedLine_of {d : Db} {i : Nat} {p : AfterSaleItem → AfterSale → Bool}
    (h : ((d.afterSaleItems.get? i).bind fun row => (d.afterSales.get? row.afterSaleId).map (p row)) = some true) :
    ∃ row c, d.afterSaleItems.get? i = some row ∧ d.afterSales.get? row.afterSaleId = some c ∧ p row c = true := by
  obtain ⟨row, hrow, h⟩ := Option.bind_eq_some_iff.mp h
  obtain ⟨c, hc, h⟩ := Option.map_eq_some_iff.mp h
  exact ⟨row, c, hrow, hc, h⟩

/-- The cups of the returned order. -/
theorem returned_paidShop :
    ∃ row c, (paidShop.runAfterSales afterSaleDeployment sampleReturnRun).db.afterSaleItems.get? 12 = some row ∧
      (paidShop.runAfterSales afterSaleDeployment sampleReturnRun).db.afterSales.get? row.afterSaleId = some c ∧
      ((∃ m ∈ (paidShop.runAfterSales afterSaleDeployment sampleReturnRun).db.movements,
          m.Credits c row.orderItemId ∧ m.deltaAvailable = row.quantity ∧
            ∀ m' ∈ (paidShop.runAfterSales afterSaleDeployment sampleReturnRun).db.movements,
              m'.Credits c row.orderItemId → m' = m) ↔
        Shop.PlacesOn afterSaleDeployment c.afterSaleNo row.orderItemId sampleReturnRun paidShop) := by
  have hline : (((paidShop.runAfterSales afterSaleDeployment sampleReturnRun).db.afterSaleItems.get? 12).bind fun row =>
      ((paidShop.runAfterSales afterSaleDeployment sampleReturnRun).db.afterSales.get? row.afterSaleId).map fun c =>
        decide (c.type = .returnRefund)) = some true := by decide +kernel
  obtain ⟨row, c, hrow, hc, htype⟩ := claimedLine_of hline
  exact ⟨row, c, hrow, hc, returned_iff afterSaleDeployment (paidShop_noReturns _) sampleReturnRun hrow hc
    (of_decide_eq_true htype)⟩

/-- Of a completed return, a line that nothing was paid for does not come back. -/
theorem returned_forgotten :
    ¬ ∀ (env : Deployment) (s : Shop), s.NoReturns InventoryMovement.KeyedReturn →
      ∀ (ops : List (AfterSaleOp × Nat)) (i : Nat) (row : AfterSaleItem) (c : AfterSale),
        (s.runAfterSales env ops).db.afterSaleItems.get? i = some row →
        (s.runAfterSales env ops).db.afterSales.get? row.afterSaleId = some c → c.type = .returnRefund →
        c.claimStatus = .completed →
          ∃ m ∈ (s.runAfterSales env ops).db.movements, m.Credits c row.orderItemId ∧ m.deltaAvailable = row.quantity := by
  intro h
  have hline : (((paidShop.runAfterSales afterSaleDeployment sampleReturnRun).db.afterSaleItems.get? 13).bind fun row =>
      ((paidShop.runAfterSales afterSaleDeployment sampleReturnRun).db.afterSales.get? row.afterSaleId).map fun c =>
        decide (c.type = .returnRefund ∧ c.claimStatus = .completed ∧
          ∀ m ∈ (paidShop.runAfterSales afterSaleDeployment sampleReturnRun).db.movements,
            ¬ m.Credits c row.orderItemId)) = some true := by decide +kernel
  obtain ⟨row, c, hrow, hc, hp⟩ := claimedLine_of hline
  obtain ⟨htype, hstatus, hnone⟩ := of_decide_eq_true hp
  obtain ⟨m, hm, hcredits, -⟩ := h afterSaleDeployment paidShop (paidShop_noReturns _) sampleReturnRun 13 row c hrow hc htype
    hstatus
  exact hnone m hm hcredits

end NovaCommerce
