import NovaCommerce.Shop.Items

/-!
# Stock across the order lifecycle

* `lockKey_inj`, `releaseKey_inj`, `deductKey_inj` : a stock key names the order and the line it is for;
* `LineMovement` : a movement of a line: its reservation, its release, or its deduction;
* `Db.Stocked` : the order movements are the movements of lines, each line has those of its order's stage, and
  the locked stock is what pending orders ask for (`Change.stocked`);
* `stock_conserved` : so it is after every run.
-/

namespace NovaCommerce

open Sql

/-! ## Keys -/

theorem lockKey_eq (u : Nat) (c : String) (s : Nat) :
    orderLockMovementKey u c s = "order-lock:" ++ (toString u ++ ":" ++ c) ++ ":" ++ toString s := by
  unfold orderLockMovementKey
  simp only [String.append_assoc]
  rfl

theorem releaseKey_eq (n : String) (s : Nat) : orderReleaseMovementKey n s = "order-release:" ++ n ++ ":" ++ toString s := by
  unfold orderReleaseMovementKey
  simp only [String.append_assoc]
  rfl

theorem deductKey_eq (n : String) (j : Nat) : orderDeductKey n j = "order-deduct:" ++ n ++ ":" ++ toString j := by
  unfold orderDeductKey
  simp only [String.append_assoc]
  rfl

theorem lockKey_inj {u u' s s' : Nat} {c c' : String}
    (h : orderLockMovementKey u c s = orderLockMovementKey u' c' s') : u = u' ∧ c = c' ∧ s = s' := by
  rw [lockKey_eq, lockKey_eq] at h
  obtain ⟨hrest, hs⟩ := Digits.append_colon_decimal_inj h
  obtain ⟨hu, hc⟩ := Digits.decimal_colon_append_inj ((String.append_right_inj _).mp hrest)
  exact ⟨hu, hc, hs⟩

theorem releaseKey_inj {n n' : String} {s s' : Nat}
    (h : orderReleaseMovementKey n s = orderReleaseMovementKey n' s') : n = n' ∧ s = s' := by
  rw [releaseKey_eq, releaseKey_eq] at h
  obtain ⟨hrest, hs⟩ := Digits.append_colon_decimal_inj h
  exact ⟨(String.append_right_inj _).mp hrest, hs⟩

theorem deductKey_inj {n n' : String} {j j' : Nat} (h : orderDeductKey n j = orderDeductKey n' j') :
    n = n' ∧ j = j' := by
  rw [deductKey_eq, deductKey_eq] at h
  obtain ⟨hrest, hj⟩ := Digits.append_colon_decimal_inj h
  exact ⟨(String.append_right_inj _).mp hrest, hj⟩

/-- The seventh character tells the workflows' keys apart. -/
theorem lockKey_mark (u : Nat) (c : String) (s : Nat) :
    orderKeyPrefix <+: (orderLockMovementKey u c s).toList ∧ (orderLockMovementKey u c s).toList[6]? = some 'l' := by
  rw [lockKey_eq, String.append_assoc, String.append_assoc, String.toList_append]
  exact ⟨⟨_, rfl⟩, rfl⟩

theorem releaseKey_mark (n : String) (s : Nat) :
    orderKeyPrefix <+: (orderReleaseMovementKey n s).toList ∧
      (orderReleaseMovementKey n s).toList[6]? = some 'r' := by
  rw [releaseKey_eq, String.append_assoc, String.append_assoc, String.toList_append]
  exact ⟨⟨_, rfl⟩, rfl⟩

theorem deductKey_mark (n : String) (j : Nat) :
    orderKeyPrefix <+: (orderDeductKey n j).toList ∧ (orderDeductKey n j).toList[6]? = some 'd' := by
  rw [deductKey_eq, String.append_assoc, String.append_assoc, String.toList_append]
  exact ⟨⟨_, rfl⟩, rfl⟩

/-! ## Movements of lines -/

/-- What a movement of a line says. -/
structure InventoryMovement.Posts (m : InventoryMovement) (i : OrderItem) (key : String) (movementType : MovementType)
    (available locked : Int) : Prop where
  idempotencyKey : m.idempotencyKey = key
  warehouseId : m.warehouseId = i.warehouseId
  skuId : m.skuId = i.skuId
  movementType : m.movementType = movementType
  deltaAvailable : m.deltaAvailable = available
  deltaLocked : m.deltaLocked = locked

def InventoryMovement.Reserves (m : InventoryMovement) (o : Order) (i : OrderItem) : Prop :=
  m.Posts i (orderLockMovementKey o.userId o.clientRequestId i.skuId) .orderLock (-i.quantity) i.quantity

def InventoryMovement.Releases (m : InventoryMovement) (o : Order) (i : OrderItem) : Prop :=
  m.Posts i (orderReleaseMovementKey o.orderNo i.skuId) .orderRelease i.quantity (-i.quantity)

def InventoryMovement.Deducts (m : InventoryMovement) (o : Order) (j : Nat) (i : OrderItem) : Prop :=
  m.Posts i (orderDeductKey o.orderNo j) .orderDeduct 0 (-i.quantity)

theorem InventoryMovement.Reserves.same {m : InventoryMovement} {o o' : Order} {i : OrderItem} (h : m.Reserves o i)
    (hsame : o.SamePurchase o') : m.Reserves o' i := by
  unfold InventoryMovement.Reserves
  rw [hsame.userId, hsame.clientRequestId]
  exact h

theorem InventoryMovement.Releases.same {m : InventoryMovement} {o o' : Order} {i : OrderItem} (h : m.Releases o i)
    (hsame : o.SamePurchase o') : m.Releases o' i := by
  unfold InventoryMovement.Releases
  rw [hsame.orderNo]
  exact h

theorem InventoryMovement.Deducts.same {m : InventoryMovement} {o o' : Order} {j : Nat} {i : OrderItem}
    (h : m.Deducts o j i) (hsame : o.SamePurchase o') : m.Deducts o' j i := by
  unfold InventoryMovement.Deducts
  rw [hsame.orderNo]
  exact h

/-- A movement of the line `j` of an order. -/
inductive LineMovement (o : Order) (j : Nat) (i : OrderItem) (m : InventoryMovement) : Prop where
  | reserved (reserves : m.Reserves o i)
  | released (ended : o.Ended) (releases : m.Releases o i)
  | deducted (settled : o.Settled) (deducts : m.Deducts o j i)

theorem LineMovement.advance {o o' : Order} (h : o.Advances o') {j : Nat} {i : OrderItem} {m : InventoryMovement}
    (hm : LineMovement o j i m) : LineMovement o' j i m := by
  cases hm with
  | reserved reserves => exact .reserved (reserves.same h.toSamePurchase)
  | released ended releases => exact .released (h.ended ended) (releases.same h.toSamePurchase)
  | deducted settled deducts => exact .deducted (h.settled settled) (deducts.same h.toSamePurchase)

/-- The movement of a request that asks for a line. -/
structure StockRequest.For (r : StockRequest) (i : OrderItem) (key : String) : Prop where
  idempotencyKey : r.idempotencyKey = key
  warehouseId : r.warehouseId = some i.warehouseId
  skuId : r.skuId = i.skuId
  quantity : r.quantity = i.quantity

theorem reserves_of_appends {r : StockRequest} {m : InventoryMovement} {i : OrderItem} {key : String}
    (h : reserveOperation.Appends r m) (hr : r.For i key) : m.Posts i key .orderLock (-i.quantity) i.quantity := by
  obtain ⟨row, rfl, hw, hs⟩ := h
  rw [hr.warehouseId] at hw
  refine ⟨hr.idempotencyKey, (Option.some.inj hw).symm, hs.symm.trans hr.skuId, rfl, ?_, ?_⟩
  · show row.availableQty - r.quantity - row.availableQty = _
    rw [hr.quantity]
    ring
  · show row.lockedQty + r.quantity - row.lockedQty = _
    rw [hr.quantity]
    ring

theorem releases_of_appends {r : StockRequest} {m : InventoryMovement} {i : OrderItem} {key : String}
    (h : releaseOperation.Appends r m) (hr : r.For i key) : m.Posts i key .orderRelease i.quantity (-i.quantity) := by
  obtain ⟨row, rfl, hw, hs⟩ := h
  rw [hr.warehouseId] at hw
  refine ⟨hr.idempotencyKey, (Option.some.inj hw).symm, hs.symm.trans hr.skuId, rfl, ?_, ?_⟩
  · show row.availableQty + r.quantity - row.availableQty = _
    rw [hr.quantity]
    ring
  · show row.lockedQty - r.quantity - row.lockedQty = _
    rw [hr.quantity]
    ring

theorem deducts_of_appends {r : StockRequest} {m : InventoryMovement} {i : OrderItem} {key : String}
    (h : deductOperation.Appends r m) (hr : r.For i key) : m.Posts i key .orderDeduct 0 (-i.quantity) := by
  obtain ⟨row, rfl, hw, hs⟩ := h
  rw [hr.warehouseId] at hw
  refine ⟨hr.idempotencyKey, (Option.some.inj hw).symm, hs.symm.trans hr.skuId, rfl, ?_, ?_⟩
  · show row.availableQty - row.availableQty = _
    ring
  · show row.lockedQty - r.quantity - row.lockedQty = _
    rw [hr.quantity]
    ring

/-! ## What pending orders ask for -/

/-- What a line asks of a set of positions. -/
def OrderItem.asks (i : OrderItem) (p : Nat → Nat → Bool) : Int :=
  if p i.warehouseId i.skuId = true then i.quantity else 0

def Db.isPending (d : Db) (orderId : Nat) : Bool :=
  match d.orders.get? orderId with
  | some o => decide (o.orderStatus = .pendingPayment)
  | none => false

/-- What the lines of pending orders ask of a set of positions. -/
def Db.pendingIn (d : Db) (p : Nat → Nat → Bool) : Int :=
  d.orderItems.total fun _ i => if d.isPending i.orderId = true then i.asks p else 0

/-- The lines of one order. -/
theorem sum_itemsFor (d : Db) (orderId : Nat) (p : Nat → Nat → Bool) :
    ((d.itemsFor orderId).map fun e => e.2.asks p).sum =
      d.orderItems.total fun _ i => if i.orderId = orderId then i.asks p else 0 := by
  unfold Db.itemsFor
  rw [Dict.sum_select _ _ fun i : OrderItem => i.asks p]
  simp only [decide_eq_true_eq]

/-- An order that is not pending any more asks for nothing. -/
theorem pendingIn_left {d d' : Db} {orderId : Nat} {o : Order} (row : d.orders.get? orderId = some o)
    (pending : o.orderStatus = .pendingPayment) {write : Order → Order} (left : (write o).orderStatus ≠ .pendingPayment)
    (orders : d'.orders = d.orders.modify orderId write) (orderItems : d'.orderItems = d.orderItems)
    (p : Nat → Nat → Bool) :
    d'.pendingIn p = d.pendingIn p - ((d.itemsFor orderId).map fun e => e.2.asks p).sum := by
  have hself : d.isPending orderId = true := by
    unfold Db.isPending
    rw [row]
    exact decide_eq_true pending
  have hself' : d'.isPending orderId = false := by
    unfold Db.isPending
    rw [orders, Dict.get?_modify_self, row]
    exact decide_eq_false left
  have hothers : ∀ i, i ≠ orderId → d'.isPending i = d.isPending i := by
    intro i hi
    unfold Db.isPending
    rw [orders, Dict.get?_modify_ne hi]
  have hsplit : d.pendingIn p =
      d'.pendingIn p + d.orderItems.total fun _ i => if i.orderId = orderId then i.asks p else 0 := by
    unfold Db.pendingIn
    rw [orderItems, ← Dict.total_add]
    refine Dict.total_congr fun e _ => ?_
    by_cases hi : e.2.orderId = orderId
    · rw [hi, hself, hself', if_pos rfl, if_pos rfl, if_neg Bool.false_ne_true, zero_add]
    · rw [hothers _ hi, if_neg hi, add_zero]
  rw [hsplit, sum_itemsFor]
  ring

theorem pendingIn_kept {d d' : Db} (itemized : d.Itemized) (orderItems : d'.orderItems = d.orderItems)
    (orders : ∀ i o, d.orders.get? i = some o →
      ∃ o', d'.orders.get? i = some o' ∧ (o'.orderStatus = .pendingPayment ↔ o.orderStatus = .pendingPayment))
    (p : Nat → Nat → Bool) : d'.pendingIn p = d.pendingIn p := by
  unfold Db.pendingIn
  rw [orderItems]
  refine Dict.total_congr fun e he => ?_
  obtain ⟨o, ho⟩ := itemized.owned e.1 e.2 (Dict.get?_eq_some.mpr he)
  obtain ⟨o', ho', hiff⟩ := orders _ o ho
  have hsame : d'.isPending e.2.orderId = d.isPending e.2.orderId := by
    unfold Db.isPending
    rw [ho, ho']
    exact decide_eq_decide.mpr hiff
  rw [hsame]

/-- A new order asks for its rows. -/
theorem pendingIn_made {d d' : Db} {orderId next : Nat} {o : Order} {rows : List OrderItem} (itemized : d.Itemized)
    (freshOrder : d.orders.get? orderId = none) (freshItems : ∀ j, next ≤ j → d.orderItems.get? j = none)
    (owned : ∀ row ∈ rows, row.orderId = orderId) (pending : o.orderStatus = .pendingPayment)
    (orders : d'.orders = d.orders.set orderId o) (orderItems : d'.orderItems = d.orderItems.setFrom next rows)
    (p : Nat → Nat → Bool) : d'.pendingIn p = d.pendingIn p + (rows.map fun row => row.asks p).sum := by
  have hself : d'.isPending orderId = true := by
    unfold Db.isPending
    rw [orders, Dict.get?_set_self]
    exact decide_eq_true pending
  have hothers : ∀ i, i ≠ orderId → d'.isPending i = d.isPending i := by
    intro i hi
    unfold Db.isPending
    rw [orders, Dict.get?_set_ne hi]
  unfold Db.pendingIn
  rw [orderItems, Dict.total_setFrom freshItems]
  have hold : (d.orderItems.total fun _ i => if d'.isPending i.orderId = true then i.asks p else 0) =
      d.orderItems.total fun _ i => if d.isPending i.orderId = true then i.asks p else 0 := by
    refine Dict.total_congr fun e he => ?_
    obtain ⟨o', ho'⟩ := itemized.owned e.1 e.2 (Dict.get?_eq_some.mpr he)
    have hne : e.2.orderId ≠ orderId := by
      intro heq
      rw [heq, freshOrder] at ho'
      cases ho'
    rw [hothers _ hne]
  have hnew : (rows.map fun i => if d'.isPending i.orderId = true then i.asks p else 0) =
      rows.map fun row => row.asks p :=
    List.map_congr_left fun row hrow => by rw [owned row hrow, hself, if_pos rfl]
  rw [hold, hnew]

theorem asks_of_for {r : StockRequest} {i : OrderItem} {key : String} (h : r.For i key) (p : Nat → Nat → Bool) :
    r.asks p = i.asks p := by
  unfold StockRequest.asks OrderItem.asks
  rw [h.warehouseId, h.skuId, h.quantity]

/-! ## The invariant -/

/-- What the stock tables say of the orders, from the movements of the start on. -/
structure Db.Stocked (start : List InventoryMovement) (d : Db) : Prop where
  ownKeys : ∀ m ∈ start, ¬ orderKeyPrefix <+: m.idempotencyKey.toList
  keys : d.MovementKeys
  origin : ∀ m ∈ d.movements, m ∈ start ∨
    ∃ j i o, d.orderItems.get? j = some i ∧ d.orders.get? i.orderId = some o ∧ LineMovement o j i m
  reserved : ∀ j i o, d.orderItems.get? j = some i → d.orders.get? i.orderId = some o →
    ∃ m ∈ d.movements, m.Reserves o i
  released : ∀ j i o, d.orderItems.get? j = some i → d.orders.get? i.orderId = some o → o.Ended →
    ∃ m ∈ d.movements, m.Releases o i
  deducted : ∀ j i o, d.orderItems.get? j = some i → d.orders.get? i.orderId = some o → o.Settled →
    ∃ m ∈ d.movements, m.Deducts o j i
  locked : ∀ p, d.lockedIn p = d.pendingIn p

variable {start : List InventoryMovement}

/-- A movement of an order workflow is a movement of a line. -/
theorem Db.Stocked.of_prefix {d : Db} (hd : d.Stocked start) {m : InventoryMovement}
    (hm : m ∈ d.movements) (hbegins : orderKeyPrefix <+: m.idempotencyKey.toList) :
    ∃ j i o, d.orderItems.get? j = some i ∧ d.orders.get? i.orderId = some o ∧ LineMovement o j i m :=
  (hd.origin m hm).resolve_left fun hstart => hd.ownKeys m hstart hbegins

/-- The movement of a reservation key. -/
theorem Db.Stocked.of_lockKey {d : Db} (hd : d.Stocked start) {u s : Nat} {c : String} {m : InventoryMovement}
    (hm : m ∈ d.movements) (hkey : m.idempotencyKey = orderLockMovementKey u c s) :
    ∃ i o, d.orders.get? i = some o ∧ o.userId = u ∧ o.clientRequestId = c := by
  obtain ⟨j, i, o, -, ho, hline⟩ := hd.of_prefix hm (hkey ▸ (lockKey_mark u c s).1)
  have hmark := (lockKey_mark u c s).2
  rw [← hkey] at hmark
  cases hline with
  | reserved reserves =>
    have hsame := reserves.idempotencyKey
    rw [hkey] at hsame
    obtain ⟨hu, hc, -⟩ := lockKey_inj hsame
    exact ⟨_, o, ho, hu.symm, hc.symm⟩
  | released _ releases =>
    rw [releases.idempotencyKey, (releaseKey_mark _ _).2] at hmark
    cases hmark
  | deducted _ deducts =>
    rw [deducts.idempotencyKey, (deductKey_mark _ _).2] at hmark
    cases hmark

/-- The movement of a release key. -/
theorem Db.Stocked.of_releaseKey {d : Db} (hd : d.Stocked start) {n : String} {s : Nat} {m : InventoryMovement}
    (hm : m ∈ d.movements) (hkey : m.idempotencyKey = orderReleaseMovementKey n s) :
    ∃ i o, d.orders.get? i = some o ∧ o.orderNo = n ∧ o.Ended := by
  obtain ⟨j, i, o, -, ho, hline⟩ := hd.of_prefix hm (hkey ▸ (releaseKey_mark n s).1)
  have hmark := (releaseKey_mark n s).2
  rw [← hkey] at hmark
  cases hline with
  | reserved reserves =>
    rw [reserves.idempotencyKey, (lockKey_mark _ _ _).2] at hmark
    cases hmark
  | released ended releases =>
    have hsame := releases.idempotencyKey
    rw [hkey] at hsame
    exact ⟨_, o, ho, (releaseKey_inj hsame).1.symm, ended⟩
  | deducted _ deducts =>
    rw [deducts.idempotencyKey, (deductKey_mark _ _).2] at hmark
    cases hmark

/-- The movement of a deduction key. -/
theorem Db.Stocked.of_deductKey {d : Db} (hd : d.Stocked start) {n : String} {j : Nat} {m : InventoryMovement}
    (hm : m ∈ d.movements) (hkey : m.idempotencyKey = orderDeductKey n j) :
    ∃ i o, d.orders.get? i = some o ∧ o.orderNo = n ∧ o.Settled := by
  obtain ⟨j', i, o, -, ho, hline⟩ := hd.of_prefix hm (hkey ▸ (deductKey_mark n j).1)
  have hmark := (deductKey_mark n j).2
  rw [← hkey] at hmark
  cases hline with
  | reserved reserves =>
    rw [reserves.idempotencyKey, (lockKey_mark _ _ _).2] at hmark
    cases hmark
  | released _ releases =>
    rw [releases.idempotencyKey, (releaseKey_mark _ _).2] at hmark
    cases hmark
  | deducted settled deducts =>
    have hsame := deducts.idempotencyKey
    rw [hkey] at hsame
    exact ⟨_, o, ho, (deductKey_inj hsame).1.symm, settled⟩

/-- A line that was there keeps its movements. -/
theorem Db.Stocked.kept_origin {d d' : Db} (hd : d.Stocked start) (items : ItemsChanged d d')
    (orders : d.orders.Grows Order.Advances Order.Opened d'.orders) :
    ∀ m ∈ d.movements, m ∈ start ∨
      ∃ j i o, d'.orderItems.get? j = some i ∧ d'.orders.get? i.orderId = some o ∧ LineMovement o j i m := by
  intro m hm
  rcases hd.origin m hm with hstart | ⟨j, i, o, hi, ho, hline⟩
  · exact .inl hstart
  · obtain ⟨_, hi', rfl⟩ := items.grow.kept j i hi
    obtain ⟨o', ho', hadvances⟩ := orders.kept _ o ho
    exact .inr ⟨j, i, o', hi', ho', hline.advance hadvances⟩

/-- A line that is there was there, or its order is new. -/
theorem line_origin {d d' : Db} (itemized : d.Itemized) (items : ItemsChanged d d')
    (orders : d.orders.Grows Order.Advances Order.Opened d'.orders) {j : Nat} {i : OrderItem} {o' : Order}
    (hi : d'.orderItems.get? j = some i) (ho' : d'.orders.get? i.orderId = some o') :
    (∃ o, d.orderItems.get? j = some i ∧ d.orders.get? i.orderId = some o ∧ o.Advances o') ∨
      (d.orders.get? i.orderId = none ∧ o'.Opened) := by
  rcases items.grow.origin j i hi with ⟨_, hold, rfl⟩ | ⟨-, hnone⟩
  · obtain ⟨o, ho⟩ := itemized.owned j _ hold
    rcases orders.origin _ o' ho' with ⟨o₁, ho₁, hadvances⟩ | ⟨hnone, -⟩
    · exact .inl ⟨o₁, hold, ho₁, hadvances⟩
    · rw [ho] at hnone
      cases hnone
  · rcases orders.origin _ o' ho' with ⟨o₁, ho₁, -⟩ | ⟨-, hopened⟩
    · rw [hnone] at ho₁
      cases ho₁
    · exact .inr ⟨hnone, hopened⟩

/-! ## Changes that move no stock -/

/-- The order stays where it is in its life. -/
structure Order.SameStage (o o' : Order) : Prop extends Order.Advances o o' where
  wasSettled : o'.Settled → o.Settled
  wasEnded : o'.Ended → o.Ended

theorem Order.SameStage.pending_iff {o o' : Order} (h : o.SameStage o') :
    o'.orderStatus = .pendingPayment ↔ o.orderStatus = .pendingPayment := by
  refine ⟨h.pending, fun hp => ?_⟩
  rcases o'.stage with hpending | hsettled | hended
  · exact hpending
  · exact absurd (h.wasSettled hsettled) (not_settled_of_pending hp)
  · exact absurd (h.wasEnded hended) (not_ended_of_pending hp)

theorem Order.SameStage.refl (o : Order) : o.SameStage o := ⟨Order.Advances.refl o, id, id⟩

theorem Order.SameTrade.sameStage {o o' : Order} (h : o.SameTrade o') : o.SameStage o' := by
  refine ⟨h.advances, fun hs => ?_, fun he => ?_⟩
  · unfold Order.Settled
    rw [← h.orderStatus]
    exact hs
  · unfold Order.Ended
    rw [← h.orderStatus]
    exact he

theorem Db.Stocked.kept {d d' : Db} (hd : d.Stocked start) (itemized : d.Itemized)
    (orders : d.orders.Grows Order.SameStage (fun _ => False) d'.orders)
    (orderItems : d'.orderItems = d.orderItems) (movements : d'.movements = d.movements)
    (inventories : d'.inventories = d.inventories) : d'.Stocked start := by
  have hback : ∀ i o', d'.orders.get? i = some o' → ∃ o, d.orders.get? i = some o ∧ o.SameStage o' := fun i o' ho' =>
    (orders.origin i o' ho').resolve_right fun hn => hn.2
  have hadvance : d.orders.Grows Order.Advances Order.Opened d'.orders := by
    refine ⟨fun i o ho => ?_, fun i o' ho' => ?_⟩
    · obtain ⟨o', ho', hsame⟩ := orders.kept i o ho
      exact ⟨o', ho', hsame.toAdvances⟩
    · obtain ⟨o, ho, hsame⟩ := hback i o' ho'
      exact .inl ⟨o, ho, hsame.toAdvances⟩
  refine ⟨hd.ownKeys, ?_, ?_, fun j i o' hi ho' => ?_, fun j i o' hi ho' hended => ?_, fun j i o' hi ho' hsettled => ?_, fun p => ?_⟩
  · unfold Db.MovementKeys
    rw [movements]
    exact hd.keys
  · rw [movements]
    exact hd.kept_origin (.same orderItems) hadvance
  · rw [orderItems] at hi
    rw [movements]
    obtain ⟨o, ho, hsame⟩ := hback _ o' ho'
    obtain ⟨m, hm, hreserves⟩ := hd.reserved j i o hi ho
    exact ⟨m, hm, hreserves.same hsame.toSamePurchase⟩
  · rw [orderItems] at hi
    rw [movements]
    obtain ⟨o, ho, hsame⟩ := hback _ o' ho'
    obtain ⟨m, hm, hreleases⟩ := hd.released j i o hi ho (hsame.wasEnded hended)
    exact ⟨m, hm, hreleases.same hsame.toSamePurchase⟩
  · rw [orderItems] at hi
    rw [movements]
    obtain ⟨o, ho, hsame⟩ := hback _ o' ho'
    obtain ⟨m, hm, hdeducts⟩ := hd.deducted j i o hi ho (hsame.wasSettled hsettled)
    exact ⟨m, hm, hdeducts.same hsame.toSamePurchase⟩
  · have hpending : d'.pendingIn p = d.pendingIn p := by
      refine pendingIn_kept itemized orderItems (fun i o ho => ?_) p
      obtain ⟨o', ho', hsame⟩ := orders.kept i o ho
      exact ⟨o', ho', hsame.pending_iff⟩
    rw [hpending, ← hd.locked p]
    unfold Db.lockedIn
    rw [inventories]

/-! ## Orders that leave the pending stage -/

/-- Every line of the order gets its movement, and its stock is not locked any more. -/
theorem Db.Stocked.left {d d' : Db} (hd : d.Stocked start) {orderId : Nat} {o : Order} {write : Order → Order}
    {l : List InventoryMovement} (row : d.orders.get? orderId = some o) (pending : o.orderStatus = .pendingPayment)
    (purchase : o.SamePurchase (write o)) (left : (write o).orderStatus ≠ .pendingPayment)
    (orders : d'.orders = d.orders.modify orderId write) (orderItems : d'.orderItems = d.orderItems)
    (movements : d'.movements = d.movements ++ l) (keys : d'.MovementKeys)
    (lines : ∀ m ∈ l, ∃ e ∈ d.itemsFor orderId, LineMovement (write o) e.1 e.2 m)
    (releases : (write o).Ended → ∀ e ∈ d.itemsFor orderId, ∃ m ∈ l, m.Releases o e.2)
    (deducts : (write o).Settled → ∀ e ∈ d.itemsFor orderId, ∃ m ∈ l, m.Deducts o e.1 e.2)
    (locked : ∀ p, d'.lockedIn p = d.lockedIn p - ((d.itemsFor orderId).map fun e => e.2.asks p).sum) : d'.Stocked start := by
  have hself : d'.orders.get? orderId = some (write o) := by
    rw [orders, Dict.get?_modify_self, row]
    rfl
  have hothers : ∀ {i}, i ≠ orderId → d'.orders.get? i = d.orders.get? i := by
    intro i hi
    rw [orders, Dict.get?_modify_ne hi]
  have hadvance : d.orders.Grows Order.Advances Order.Opened d'.orders := by
    rw [orders]
    exact grows_advances row (advances_of_pending pending purchase)
  have hmine : ∀ {j i}, d.orderItems.get? j = some i → i.orderId = orderId → (j, i) ∈ d.itemsFor orderId :=
    fun hi howned => Dict.mem_select.mpr ⟨hi, decide_eq_true howned⟩
  have hold : ∀ {m}, m ∈ d.movements → m ∈ d'.movements := fun hm => by
    rw [movements]
    exact List.mem_append_left _ hm
  have hnew : ∀ {m}, m ∈ l → m ∈ d'.movements := fun hm => by
    rw [movements]
    exact List.mem_append_right _ hm
  refine ⟨hd.ownKeys, keys, ?_, fun j i o' hi ho' => ?_, fun j i o' hi ho' hended => ?_, fun j i o' hi ho' hsettled => ?_, fun p => ?_⟩
  · rw [movements]
    intro m hm
    rcases List.mem_append.mp hm with hm | hm
    · exact hd.kept_origin (.same orderItems) hadvance m hm
    · obtain ⟨⟨j, i⟩, he, hline⟩ := lines m hm
      obtain ⟨hi, howned⟩ := Dict.mem_select.mp he
      refine .inr ⟨j, i, write o, ?_, ?_, hline⟩
      · rw [orderItems, hi]
      · rw [of_decide_eq_true howned, hself]
  · rw [orderItems] at hi
    by_cases howned : i.orderId = orderId
    · rw [howned, hself] at ho'
      cases ho'
      obtain ⟨m, hm, hreserves⟩ := hd.reserved j i o hi (by rw [howned, row])
      exact ⟨m, hold hm, hreserves.same purchase⟩
    · rw [hothers howned] at ho'
      obtain ⟨m, hm, hreserves⟩ := hd.reserved j i o' hi ho'
      exact ⟨m, hold hm, hreserves⟩
  · rw [orderItems] at hi
    by_cases howned : i.orderId = orderId
    · rw [howned, hself] at ho'
      cases ho'
      obtain ⟨m, hm, hreleases⟩ := releases hended _ (hmine hi howned)
      exact ⟨m, hnew hm, hreleases.same purchase⟩
    · rw [hothers howned] at ho'
      obtain ⟨m, hm, hreleases⟩ := hd.released j i o' hi ho' hended
      exact ⟨m, hold hm, hreleases⟩
  · rw [orderItems] at hi
    by_cases howned : i.orderId = orderId
    · rw [howned, hself] at ho'
      cases ho'
      obtain ⟨m, hm, hdeducts⟩ := deducts hsettled _ (hmine hi howned)
      exact ⟨m, hnew hm, hdeducts.same purchase⟩
    · rw [hothers howned] at ho'
      obtain ⟨m, hm, hdeducts⟩ := hd.deducted j i o' hi ho' hsettled
      exact ⟨m, hold hm, hdeducts⟩
  · rw [locked, hd.locked p, pendingIn_left row pending left orders orderItems]

/-- Requests that ask for the lines of an order, one for each. -/
structure RequestsFor (requests : List StockRequest) (items : List (Nat × OrderItem)) (key : Nat × OrderItem → String) :
    Prop where
  line : ∀ r ∈ requests, ∃ e ∈ items, r.For e.2 (key e)
  request : ∀ e ∈ items, ∃ r ∈ requests, r.For e.2 (key e)
  asks : ∀ p, (requests.map fun r => r.asks p).sum = (items.map fun e => e.2.asks p).sum
  keys : (requests.map StockRequest.idempotencyKey).Perm (items.map key)

theorem requestsFor_map {es items : List (Nat × OrderItem)} {make : Nat × OrderItem → StockRequest}
    {key : Nat × OrderItem → String} (hperm : es.Perm items) (hmake : ∀ e ∈ items, (make e).For e.2 (key e)) :
    RequestsFor (es.map make) items key where
  line r hr := by
    obtain ⟨e, he, rfl⟩ := List.mem_map.mp hr
    have he := hperm.mem_iff.mp he
    exact ⟨e, he, hmake e he⟩
  request e he := ⟨make e, List.mem_map_of_mem (hperm.mem_iff.mpr he), hmake e he⟩
  asks p := by
    rw [List.map_map, ← (hperm.map fun e => e.2.asks p).sum_eq]
    refine congrArg List.sum (List.map_congr_left fun e he => ?_)
    exact asks_of_for (hmake e (hperm.mem_iff.mp he)) p
  keys := by
    rw [List.map_map]
    refine List.Perm.trans (List.Perm.of_eq (List.map_congr_left fun e he => ?_)) (hperm.map key)
    exact (hmake e (hperm.mem_iff.mp he)).idempotencyKey

theorem releaseRequests_for (orderId : Nat) (orderNo : String) (items : List (Nat × OrderItem)) (cause : ReleaseCause) :
    RequestsFor (releaseRequests orderId orderNo items cause) items fun e => orderReleaseMovementKey orderNo e.2.skuId :=
  requestsFor_map (List.perm_insertionSort _ items) fun _ _ => ⟨rfl, rfl, rfl, rfl⟩

theorem deductRequests_for (orderNo : String) (items : List (Nat × OrderItem)) :
    RequestsFor (deductRequests orderNo items) items fun e => orderDeductKey orderNo e.1 :=
  requestsFor_map (List.Perm.refl items) fun _ _ => ⟨rfl, rfl, rfl, rfl⟩

/-- A loop over the lines of an order, under keys that name them. -/
theorem RequestsFor.moved {requests : List StockRequest} {items : List (Nat × OrderItem)} {key : Nat × OrderItem → String}
    (hr : RequestsFor requests items key) {op : StockOperation} {sign : Int} (hop : op.Shifts sign) {now : Time}
    {d d' : Db} (h : Moves op now requests d d') (unused : ∀ e ∈ items, d.movementAt (key e) = none)
    (distinct : (items.map key).Nodup) :
    ∃ ms, (∀ m ∈ ms, ∃ e ∈ items, ∃ r, r.For e.2 (key e) ∧ op.Appends r m) ∧
      (∀ e ∈ items, ∃ m ∈ ms, ∃ r, r.For e.2 (key e) ∧ op.Appends r m) ∧ d'.movements = d.movements ++ ms ∧
      ∀ p, d'.lockedIn p = d.lockedIn p + sign * (items.map fun e => e.2.asks p).sum := by
  obtain ⟨ms, hof, hfor, hmovements, hlocked⟩ := h.fresh hop
    (fun r hreq => by
      obtain ⟨e, -, hfor⟩ := hr.line r hreq
      exact ⟨_, hfor.warehouseId⟩)
    (fun r hreq => by
      obtain ⟨e, he, hfor⟩ := hr.line r hreq
      rw [hfor.idempotencyKey]
      exact unused e he)
    (hr.keys.nodup_iff.mpr distinct)
  refine ⟨ms, fun m hm => ?_, fun e he => ?_, hmovements, fun p => ?_⟩
  · obtain ⟨r, hreq, happends⟩ := hof m hm
    obtain ⟨e, he, hline⟩ := hr.line r hreq
    exact ⟨e, he, r, hline, happends⟩
  · obtain ⟨r, hreq, hline⟩ := hr.request e he
    obtain ⟨m, hm, happends⟩ := hfor r hreq
    exact ⟨m, hm, r, hline, happends⟩
  · rw [hlocked p, hr.asks p]

theorem itemsFor_nodup (d : Db) (orderId : Nat) : (d.itemsFor orderId).Nodup := by
  refine List.Nodup.of_map Prod.fst ?_
  exact d.orderItems.nodup.sublist (List.filter_sublist.map _)

/-- Keys that name the lines of an order are distinct. -/
theorem itemsFor_keys {d : Db} {orderId : Nat} {key : Nat × OrderItem → String}
    (hkey : ∀ e ∈ d.itemsFor orderId, ∀ e' ∈ d.itemsFor orderId, key e = key e' → e.1 = e'.1) :
    ((d.itemsFor orderId).map key).Nodup := by
  refine List.Nodup.map_on (fun e he e' he' h => ?_) (itemsFor_nodup d orderId)
  have hid := hkey e he e' he' h
  have hrow := (Dict.mem_select.mp he).1
  have hrow' := (Dict.mem_select.mp he').1
  rw [hid, hrow'] at hrow
  exact Prod.ext hid (Option.some.inj hrow).symm

theorem movementAt_none {d : Db} {key : String} (h : ∀ m ∈ d.movements, m.idempotencyKey ≠ key) :
    d.movementAt key = none := by
  refine movementAt_eq_none.mpr fun hmem => ?_
  obtain ⟨m, hm, hkey⟩ := List.mem_map.mp hmem
  exact h m hm hkey

/-- Ending a pending order releases its lines. -/
theorem Db.Stocked.ended {env : Deployment} {terms : Terms} {d d₂ d' : Db} {orderId : Nat} {order : Order}
    {cause : ReleaseCause} {now : Time} {write : Order → Order} {log : OrderStatusLog} (hd : d.Stocked start)
    (itemized : d.Itemized) (numbered : d.Numbered env) (row : d.orders.get? orderId = some order)
    (pending : order.orderStatus = .pendingPayment) (ending : Ending terms orderId order write log)
    (stock : Moves releaseOperation now (releaseRequests orderId order.orderNo (d.itemsFor orderId) cause) d d₂)
    (orders : d'.orders = d.orders.modify orderId write) (orderItems : d'.orderItems = d.orderItems)
    (movements : d'.movements = d₂.movements) (inventories : d'.inventories = d₂.inventories) : d'.Stocked start := by
  have hunused : ∀ e ∈ d.itemsFor orderId, d.movementAt (orderReleaseMovementKey order.orderNo e.2.skuId) = none := by
    refine fun e _ => movementAt_none fun m hm hkey => ?_
    obtain ⟨i, o, ho, hno, hended⟩ := hd.of_releaseKey hm hkey
    rw [numbered.unique ho row hno, row] at ho
    cases ho
    exact not_ended_of_pending pending hended
  have hdistinct := @itemsFor_keys d orderId (fun e => orderReleaseMovementKey order.orderNo e.2.skuId)
    fun e he e' he' h => by
      obtain ⟨hrow, howned⟩ := Dict.mem_select.mp he
      obtain ⟨hrow', howned'⟩ := Dict.mem_select.mp he'
      refine itemized.distinct e.1 e'.1 e.2 e'.2 hrow hrow' ?_ (releaseKey_inj h).2
      rw [of_decide_eq_true howned, of_decide_eq_true howned']
  obtain ⟨ms, hof, hfor, hmovements, hlocked⟩ :=
    (releaseRequests_for orderId order.orderNo (d.itemsFor orderId) cause).moved release_shifts stock hunused hdistinct
  have hended := ending.ended order
  have hsame := ending.samePurchase order
  refine hd.left (l := ms) row pending hsame (fun hp => not_ended_of_pending hp hended) orders orderItems
    (movements.trans hmovements) ?_ (fun m hm => ?_) (fun _ e he => ?_) (fun hsettled => absurd hsettled hended.not_settled)
    fun p => ?_
  · unfold Db.MovementKeys
    rw [movements]
    exact stock.movementKeys hd.keys
  · obtain ⟨e, he, r, hr, happends⟩ := hof m hm
    have hreleases : m.Releases order e.2 := releases_of_appends happends hr
    exact ⟨e, he, .released hended (hreleases.same hsame)⟩
  · obtain ⟨m, hm, r, hr, happends⟩ := hfor e he
    exact ⟨m, hm, releases_of_appends happends hr⟩
  · have hrows : d'.lockedIn p = d₂.lockedIn p := by
      unfold Db.lockedIn
      rw [inventories]
    rw [hrows, hlocked p]
    ring

/-- Settling a pending order deducts its lines. -/
theorem Db.Stocked.settled {env : Deployment} {d d₂ d' : Db} {orderId : Nat} {order : Order} {now : Time}
    {write : Order → Order} (hd : d.Stocked start) (numbered : d.Numbered env) (row : d.orders.get? orderId = some order)
    (pending : order.orderStatus = .pendingPayment) (hsame : order.SamePurchase (write order))
    (hsettled : (write order).Settled)
    (stock : Moves deductOperation now (deductRequests order.orderNo (d.itemsFor orderId)) d d₂)
    (orders : d'.orders = d.orders.modify orderId write) (orderItems : d'.orderItems = d.orderItems)
    (movements : d'.movements = d₂.movements) (inventories : d'.inventories = d₂.inventories) : d'.Stocked start := by
  have hunused : ∀ e ∈ d.itemsFor orderId, d.movementAt (orderDeductKey order.orderNo e.1) = none := by
    refine fun e _ => movementAt_none fun m hm hkey => ?_
    obtain ⟨i, o, ho, hno, hpaid⟩ := hd.of_deductKey hm hkey
    rw [numbered.unique ho row hno, row] at ho
    cases ho
    exact not_settled_of_pending pending hpaid
  have hdistinct := @itemsFor_keys d orderId (fun e => orderDeductKey order.orderNo e.1)
    fun _ _ _ _ h => (deductKey_inj h).2
  obtain ⟨ms, hof, hfor, hmovements, hlocked⟩ :=
    (deductRequests_for order.orderNo (d.itemsFor orderId)).moved deduct_shifts stock hunused hdistinct
  refine hd.left (l := ms) row pending hsame (fun hp => not_settled_of_pending hp hsettled) orders orderItems
    (movements.trans hmovements) ?_ (fun m hm => ?_) (fun hended => absurd hsettled hended.not_settled) (fun _ e he => ?_)
    fun p => ?_
  · unfold Db.MovementKeys
    rw [movements]
    exact stock.movementKeys hd.keys
  · obtain ⟨e, he, r, hr, happends⟩ := hof m hm
    have hdeducts : m.Deducts order e.1 e.2 := deducts_of_appends happends hr
    exact ⟨e, he, .deducted hsettled (hdeducts.same hsame)⟩
  · obtain ⟨m, hm, r, hr, happends⟩ := hfor e he
    exact ⟨m, hm, deducts_of_appends happends hr⟩
  · have hrows : d'.lockedIn p = d₂.lockedIn p := by
      unfold Db.lockedIn
      rw [inventories]
    rw [hrows, hlocked p]
    ring

/-! ## New orders -/

/-- The merged line a row was made for. -/
def OrderItem.input (i : OrderItem) : OrderLineInput := { skuId := i.skuId, quantity := i.quantity }

theorem ItemRows.inputs {orderId warehouseId : Nat} {lines : List OrderLineInput} {rows : List OrderItem}
    (h : ItemRows orderId warehouseId lines rows) : rows.map OrderItem.input = lines := by
  have hpairs := congrArg (List.map fun e : Nat × Int => ({ skuId := e.1, quantity := e.2 } : OrderLineInput)) h.lines
  rw [List.map_map, List.map_map] at hpairs
  refine Eq.trans hpairs ?_
  exact List.map_id lines

theorem reserveRequests_for (principal : Principal) (request : CreateOrderRequest) {orderId warehouseId : Nat}
    {lines : List OrderLineInput} {rows : List OrderItem} (h : ItemRows orderId warehouseId lines rows) :
    RequestsFor (reserveRequests principal request lines orderId warehouseId) (rows.map fun row => (0, row))
      fun e => orderLockMovementKey principal.userId request.clientRequestId e.2.skuId := by
  have hsorted : lines.insertionSort (fun a b => a.skuId ≤ b.skuId) =
      ((rows.map fun row => (0, row)).insertionSort fun a b : Nat × OrderItem => a.2.skuId ≤ b.2.skuId).map
        fun e => e.2.input := by
    have hmap := List.map_insertionSort (fun a b : Nat × OrderItem => a.2.skuId ≤ b.2.skuId)
      (fun a b : OrderLineInput => a.skuId ≤ b.skuId) (fun e => e.2.input) (rows.map fun row => (0, row))
      fun _ _ _ _ => Iff.rfl
    rw [hmap, List.map_map]
    conv_lhs => rw [← h.inputs]
    rfl
  unfold reserveRequests
  rw [hsorted, List.map_map]
  refine requestsFor_map (List.perm_insertionSort _ _) fun e he => ?_
  obtain ⟨row, hrow, rfl⟩ := List.mem_map.mp he
  exact ⟨rfl, congrArg some (h.owned row hrow).2.symm, rfl, rfl⟩

/-- A new order reserves its lines. -/
theorem Db.Stocked.created {d c d' : Db} {orderId next warehouseId : Nat} {principal : Principal}
    {request : CreateOrderRequest} {lines : List OrderLineInput} {rows : List OrderItem} {o : Order} {now : Time}
    (hd : d.Stocked start) (itemized : d.Itemized) (merged : MergedLines lines)
    (items : ItemRows orderId warehouseId lines rows) (freshOrder : d.orders.get? orderId = none)
    (freshItems : ∀ j, next ≤ j → d.orderItems.get? j = none)
    (unordered : d.orderByClientRequestId principal.userId request.clientRequestId = none)
    (userId : o.userId = principal.userId) (clientRequestId : o.clientRequestId = request.clientRequestId)
    (opened : o.Opened)
    (stock : Moves reserveOperation now (reserveRequests principal request lines orderId warehouseId) d c)
    (orders : d'.orders = d.orders.set orderId o) (orderItems : d'.orderItems = d.orderItems.setFrom next rows)
    (movements : d'.movements = c.movements) (inventories : d'.inventories = c.inventories) : d'.Stocked start := by
  have hunused : ∀ e ∈ rows.map (fun row => ((0 : Nat), row)), d.movementAt
      (orderLockMovementKey principal.userId request.clientRequestId e.2.skuId) = none := by
    refine fun e _ => movementAt_none fun m hm hkey => ?_
    obtain ⟨i, o', ho', hu, hc⟩ := hd.of_lockKey hm hkey
    exact Dict.find?_none.mp unordered (i, o') (Dict.get?_eq_some.mp ho') (decide_eq_true ⟨hu, hc⟩)
  have hdistinct : ((rows.map fun row => ((0 : Nat), row)).map fun e =>
      orderLockMovementKey principal.userId request.clientRequestId e.2.skuId).Nodup := by
    have hskus : (rows.map OrderItem.skuId).Nodup := by
      rw [items.skuIds]
      exact merged.nodup
    have hkeys := hskus.map (f := orderLockMovementKey principal.userId request.clientRequestId)
      fun s s' h => (lockKey_inj h).2.2
    rw [List.map_map] at hkeys ⊢
    exact hkeys
  obtain ⟨ms, hof, hfor, hmovements, hlocked⟩ :=
    (reserveRequests_for principal request items).moved reserve_shifts stock hunused hdistinct
  have hmoves : d'.movements = d.movements ++ ms := movements.trans hmovements
  have hself : d'.orders.get? orderId = some o := by rw [orders, Dict.get?_set_self]
  have hothers : ∀ {i}, i ≠ orderId → d'.orders.get? i = d.orders.get? i := by
    intro i hi
    rw [orders, Dict.get?_set_ne hi]
  have hold : ∀ {j i}, d.orderItems.get? j = some i → i.orderId ≠ orderId := by
    intro j i hi heq
    obtain ⟨o', ho'⟩ := itemized.owned j i hi
    rw [heq, freshOrder] at ho'
    cases ho'
  have hreserves : ∀ {r row m}, r.For row (orderLockMovementKey principal.userId request.clientRequestId row.skuId) →
      reserveOperation.Appends r m → m.Reserves o row := by
    intro r row m hr happends
    unfold InventoryMovement.Reserves
    rw [userId, clientRequestId]
    exact reserves_of_appends happends hr
  refine ⟨hd.ownKeys, ?_, ?_, fun j i o' hi ho' => ?_, fun j i o' hi ho' hended => ?_, fun j i o' hi ho' hsettled => ?_, fun p => ?_⟩
  · unfold Db.MovementKeys
    rw [movements]
    exact stock.movementKeys hd.keys
  · rw [hmoves]
    intro m hm
    rcases List.mem_append.mp hm with hm | hm
    · have hadvance : d.orders.Grows Order.Advances Order.Opened d'.orders := by
        rw [orders]
        exact Dict.grows_set Order.Advances.refl freshOrder opened
      exact hd.kept_origin (.made merged items freshOrder freshItems orders orderItems) hadvance m hm
    · obtain ⟨e, he, r, hr, happends⟩ := hof m hm
      obtain ⟨row, hrow, rfl⟩ := List.mem_map.mp he
      obtain ⟨n, hn⟩ := List.mem_iff_getElem?.mp hrow
      refine .inr ⟨next + n, row, o, ?_, ?_, .reserved (hreserves hr happends)⟩
      · rw [orderItems, Dict.get?_setFrom_at (List.getElem?_eq_some_iff.mp hn).choose, hn]
      · rw [(items.owned row hrow).1, hself]
  · rw [hmoves]
    rcases inserted_origin orderItems hi with hi | ⟨n, -, hn⟩
    · rw [hothers (hold hi)] at ho'
      obtain ⟨m, hm, h⟩ := hd.reserved j i o' hi ho'
      exact ⟨m, List.mem_append_left _ hm, h⟩
    · have hrow := List.mem_of_getElem? hn
      rw [(items.owned i hrow).1, hself] at ho'
      cases ho'
      obtain ⟨m, hm, r, hr, happends⟩ := hfor (0, i) (List.mem_map_of_mem hrow)
      exact ⟨m, List.mem_append_right _ hm, hreserves hr happends⟩
  · rw [hmoves]
    rcases inserted_origin orderItems hi with hi | ⟨n, -, hn⟩
    · rw [hothers (hold hi)] at ho'
      obtain ⟨m, hm, h⟩ := hd.released j i o' hi ho' hended
      exact ⟨m, List.mem_append_left _ hm, h⟩
    · rw [(items.owned i (List.mem_of_getElem? hn)).1, hself] at ho'
      cases ho'
      exact absurd hended (not_ended_of_pending opened.pending)
  · rw [hmoves]
    rcases inserted_origin orderItems hi with hi | ⟨n, -, hn⟩
    · rw [hothers (hold hi)] at ho'
      obtain ⟨m, hm, h⟩ := hd.deducted j i o' hi ho' hsettled
      exact ⟨m, List.mem_append_left _ hm, h⟩
    · rw [(items.owned i (List.mem_of_getElem? hn)).1, hself] at ho'
      cases ho'
      exact absurd hsettled (not_settled_of_pending opened.pending)
  · have hrows : d'.lockedIn p = c.lockedIn p := by
      unfold Db.lockedIn
      rw [inventories]
    rw [hrows, hlocked p, pendingIn_made itemized freshOrder freshItems (fun row hrow => (items.owned row hrow).1)
      opened.pending orders orderItems, hd.locked p, List.map_map, one_mul]
    rfl

/-! ## Every change -/

theorem Db.Quiet.stocked {d d' : Db} (h : d.Quiet d') (itemized : d.Itemized) (hd : d.Stocked start) : d'.Stocked start := by
  refine hd.kept itemized ⟨fun i o ho => ?_, fun i o' ho' => .inl ?_⟩ h.orderItems h.movements h.inventories
  · obtain ⟨o', ho', hsame⟩ := h.orders.kept i o ho
    exact ⟨o', ho', hsame.sameStage⟩
  · obtain ⟨o, ho, hsame⟩ := (h.orders.origin i o' ho').resolve_right fun hn => hn.2
    exact ⟨o, ho, hsame.sameStage⟩

theorem Trade.stocked {env : Deployment} {terms : Terms} {s s' : Shop} (h : Trade env terms s s')
    (hs : s.db.FreshFrom s.next) (numbered : s.db.Numbered env) (itemized : s.db.Itemized) (hd : s.db.Stocked start) :
    s'.db.Stocked start := by
  cases h with
  | created created =>
    cases created with
    | mk merged unclaimed unordered window priced checked coupon stock items event =>
      obtain ⟨outbox, hframe, -⟩ := event.frame
      have hitems : ∀ j, s.next + 2 ≤ j → s.db.orderItems.get? j = none := fun j hj => (hs j (by omega)).orderItems
      dsimp only
      rw [hframe]
      exact hd.created itemized merged items (hs _ (Nat.le_succ _)).orders hitems unordered rfl rfl
        ⟨rfl, rfl, checked⟩ stock rfl rfl rfl rfl
  | claimed claimed =>
    cases claimed with
    | mk _ _ _ _ _ _ _ => exact hd.kept itemized (Dict.grows_refl Order.SameStage.refl _) rfl rfl rfl
  | swept swept =>
    cases swept with
    | mk _ _ => exact hd.kept itemized (Dict.grows_refl Order.SameStage.refl _) rfl rfl rfl
  | ended row pending held ending ended =>
    obtain ⟨d₁, d₂, -, hstock, rfl⟩ := ended.parts
    exact hd.ended itemized numbered row pending ending hstock rfl rfl rfl rfl
  | settled settling pending items coupon stock shell event =>
    obtain ⟨c₁, c₂, c₃, outbox, -, hstock, -, rfl⟩ := settled_parts coupon stock shell event
    exact hd.settled numbered settling.order pending ⟨rfl, rfl, rfl, rfl, rfl, rfl, rfl, rfl, rfl, rfl, rfl⟩ (.inl rfl)
      hstock rfl rfl rfl rfl
  | confirmed confirmed =>
    cases confirmed with
    | mk row processing =>
      refine hd.kept itemized (Dict.grows_modify Order.SameStage.refl fun o ho => ?_) rfl rfl rfl
      rw [row] at ho
      cases ho
      refine ⟨⟨⟨rfl, rfl, rfl, rfl, rfl, rfl, rfl, rfl, rfl, rfl, rfl⟩, fun _ => .inr rfl, fun he => ?_, fun h => nomatch h⟩,
        fun _ => .inl processing, fun he => ?_⟩
      · rcases he with he | he <;> rw [processing] at he <;> cases he
      · rcases he with he | he <;> cases he

theorem Change.stocked {env : Deployment} {terms : Terms} {s s' : Shop} (h : Change env terms s s')
    (hs : s.db.FreshFrom s.next) (numbered : s.db.Numbered env) (itemized : s.db.Itemized) (hd : s.db.Stocked start) :
    s'.db.Stocked start := by
  cases h with
  | booked booking => exact booking.quiet.stocked itemized hd
  | traded trade => exact trade.stocked hs numbered itemized hd
  | shipped shipped => exact shipped.quiet.stocked itemized hd

theorem Shop.Opening.stocked {s : Shop} (h : s.Opening) : s.db.Stocked s.db.movements := by
  have hnone : ∀ {j i}, s.db.orderItems.get? j = some i → False := by
    intro j i hi
    rw [h.orderItems] at hi
    cases hi
  refine ⟨h.ownKeys, h.keys, fun m hm => .inl hm, fun _ _ _ hi => (hnone hi).elim, fun _ _ _ hi => (hnone hi).elim,
    fun _ _ _ hi => (hnone hi).elim, fun p => ?_⟩
  have hpending : s.db.pendingIn p = 0 := by
    unfold Db.pendingIn
    rw [h.orderItems]
    rfl
  rw [hpending]
  unfold Db.lockedIn
  refine Dict.total_eq_zero fun e he => ?_
  rw [h.unlocked e.1 e.2 (Dict.get?_eq_some.mpr he), ite_self]

/-! ## Every run -/

/-- The movements that take the reservation of a line. -/
def Db.consumptions (d : Db) (o : Order) (j : Nat) (i : OrderItem) : List InventoryMovement :=
  d.movements.filter fun m =>
    decide (m.idempotencyKey = orderReleaseMovementKey o.orderNo i.skuId ∨ m.idempotencyKey = orderDeductKey o.orderNo j)

/-- A key names one movement. -/
theorem filter_key {movements : List InventoryMovement} (hkeys : (movements.map InventoryMovement.idempotencyKey).Nodup)
    {m : InventoryMovement} (hm : m ∈ movements) :
    (movements.filter fun m' => decide (m'.idempotencyKey = m.idempotencyKey)) = [m] := by
  induction movements with
  | nil => cases hm
  | cons m' movements ih =>
    rw [List.map_cons, List.nodup_cons] at hkeys
    rcases List.mem_cons.mp hm with rfl | hm
    · rw [List.filter_cons, if_pos (decide_eq_true rfl)]
      refine congrArg _ (List.filter_eq_nil_iff.mpr fun m' hm' hkey => hkeys.1 ?_)
      rw [← of_decide_eq_true hkey]
      exact List.mem_map_of_mem hm'
    · have hne : m'.idempotencyKey ≠ m.idempotencyKey := by
        intro hkey
        rw [hkey] at hkeys
        exact hkeys.1 (List.mem_map_of_mem hm)
      rw [List.filter_cons, if_neg (by simpa using hne), ih hkeys.2 hm]

section

variable {env : Deployment} {d : Db} (hd : d.Stocked start) (numbered : d.Numbered env) {id : Nat} {o : Order}
  (row : d.orders.get? id = some o)
include hd numbered row

theorem release_ended {s : Nat} {m : InventoryMovement} (hm : m ∈ d.movements)
    (hkey : m.idempotencyKey = orderReleaseMovementKey o.orderNo s) : o.Ended := by
  obtain ⟨i, o', ho', hno, hended⟩ := hd.of_releaseKey hm hkey
  rw [numbered.unique ho' row hno, row] at ho'
  cases ho'
  exact hended

theorem deduct_settled {j : Nat} {m : InventoryMovement} (hm : m ∈ d.movements)
    (hkey : m.idempotencyKey = orderDeductKey o.orderNo j) : o.Settled := by
  obtain ⟨i, o', ho', hno, hsettled⟩ := hd.of_deductKey hm hkey
  rw [numbered.unique ho' row hno, row] at ho'
  cases ho'
  exact hsettled

theorem consumptions_pending (pending : o.orderStatus = .pendingPayment) (j : Nat) (i : OrderItem) :
    d.consumptions o j i = [] := by
  refine List.filter_eq_nil_iff.mpr fun m hm hkey => ?_
  rcases of_decide_eq_true hkey with hkey | hkey
  · exact not_ended_of_pending pending (release_ended hd numbered row hm hkey)
  · exact not_settled_of_pending pending (deduct_settled hd numbered row hm hkey)

theorem consumptions_ended (hended : o.Ended) {i : OrderItem} {m : InventoryMovement} (hm : m ∈ d.movements)
    (hreleases : m.Releases o i) (j : Nat) : d.consumptions o j i = [m] := by
  unfold Db.consumptions
  rw [← filter_key hd.keys hm, hreleases.idempotencyKey]
  refine List.filter_congr fun m' hm' => decide_eq_decide.mpr (or_iff_left fun hkey => ?_)
  exact hended.not_settled (deduct_settled hd numbered row hm' hkey)

theorem consumptions_settled (hsettled : o.Settled) {j : Nat} {i : OrderItem} {m : InventoryMovement}
    (hm : m ∈ d.movements) (hdeducts : m.Deducts o j i) : d.consumptions o j i = [m] := by
  unfold Db.consumptions
  rw [← filter_key hd.keys hm, hdeducts.idempotencyKey]
  refine List.filter_congr fun m' hm' => decide_eq_decide.mpr (or_iff_right fun hkey => ?_)
  exact (release_ended hd numbered row hm' hkey).not_settled hsettled

end

/-- After every run the reservation of a line is untouched while its order is pending, and taken by exactly one
movement afterwards: a release of the line's quantity when the order ended unpaid, a deduction of it when the order
was settled. Every movement since the start is such a movement or a reservation, and for every set of positions
(those of a SKU, or a single one) the locked stock is what the lines of pending orders ask of it. -/
theorem stock_conserved {env : Deployment} {s : Shop} (h : s.Opening) (ops : List (Op × Nat)) :
    let d := (s.run env ops).db
    (∀ j i o, d.orderItems.get? j = some i → d.orders.get? i.orderId = some o →
      (∃ m ∈ d.movements, m.Reserves o i) ∧
      (o.orderStatus = .pendingPayment → d.consumptions o j i = []) ∧
      (o.Ended → ∃ m, d.consumptions o j i = [m] ∧ m.Releases o i) ∧
      (o.Settled → ∃ m, d.consumptions o j i = [m] ∧ m.Deducts o j i)) ∧
    (∀ m ∈ d.movements, m ∈ s.db.movements ∨
      ∃ j i o, d.orderItems.get? j = some i ∧ d.orders.get? i.orderId = some o ∧ LineMovement o j i m) ∧
    ∀ p, d.lockedIn p = d.pendingIn p := by
  have hopening : s.Sound env ∧ s.db.Itemized ∧ s.db.Stocked s.db.movements := ⟨h.sound, h.itemized, h.stocked⟩
  obtain ⟨hsound, -, hstocked⟩ := @run_keeps env
    (fun s' => s'.Sound env ∧ s'.db.Itemized ∧ s'.db.Stocked s.db.movements)
    (fun s₁ s₂ hchange hs => ⟨hchange.sound hs.1, hchange.itemized hs.1.fresh hs.2.1,
      hchange.stocked hs.1.fresh hs.1.consistent.numbered hs.2.1 hs.2.2⟩) s hopening ops
  have hnumbered := hsound.consistent.numbered
  refine ⟨fun j i o hi ho => ⟨hstocked.reserved j i o hi ho, fun hpending => ?_, fun hended => ?_, fun hsettled => ?_⟩,
    hstocked.origin, hstocked.locked⟩
  · exact consumptions_pending hstocked hnumbered ho hpending j i
  · obtain ⟨m, hm, hreleases⟩ := hstocked.released j i o hi ho hended
    exact ⟨m, consumptions_ended hstocked hnumbered ho hended hm hreleases j, hreleases⟩
  · obtain ⟨m, hm, hdeducts⟩ := hstocked.deducted j i o hi ho hsettled
    exact ⟨m, consumptions_settled hstocked hnumbered ho hsettled hm hdeducts, hdeducts⟩

/-- The customer of the small shop pays two cups, and orders a plate. -/
theorem stock_conserved_plate :
    let d := (sampleShop.run sampleProvider
      (samplePaid ++ [(.createOrder sampleCustomer samplePlate sampleNoon, 1000)])).db
    d.orders.keys = [11, 17] ∧
    (∀ j i o, d.orderItems.get? j = some i → d.orders.get? i.orderId = some o →
      (∃ m ∈ d.movements, m.Reserves o i) ∧
      (o.orderStatus = .pendingPayment → d.consumptions o j i = []) ∧
      (o.Ended → ∃ m, d.consumptions o j i = [m] ∧ m.Releases o i) ∧
      (o.Settled → ∃ m, d.consumptions o j i = [m] ∧ m.Deducts o j i)) ∧
    (∀ m ∈ d.movements, m ∈ sampleShop.db.movements ∨
      ∃ j i o, d.orderItems.get? j = some i ∧ d.orders.get? i.orderId = some o ∧ LineMovement o j i m) ∧
    ∀ p, d.lockedIn p = d.pendingIn p :=
  ⟨by decide +kernel, stock_conserved sampleShop_opening _⟩

end NovaCommerce
