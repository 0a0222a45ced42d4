import NovaCommerce.Inventory.Moves
import NovaCommerce.Marketing.CouponService
import NovaCommerce.Payment.Repository

/-!
# Orders that end unpaid

* `closeExpiredOrder` : close one expired order, checked again under its row locks;
* `OrderEnded` : what cancelling and closing an order do to the database.
-/

namespace NovaCommerce

open Sql

/-! ## Returning the reserved stock -/

/-- `order_release_movement_key`. -/
def orderReleaseMovementKey (orderNo : String) (skuId : Nat) : String :=
  s!"order-release:{orderNo}:{skuId}"

/-- Who ends an order, and why, as the stock ledger records it. -/
structure ReleaseCause where
  operatorType : OperatorType
  operatorId : Option Nat
  reason : String

/-- The release of an order's lines, in the order of their SKUs. -/
def releaseRequests (orderId : Nat) (orderNo : String) (items : List (Nat × OrderItem))
    (cause : ReleaseCause) : List StockRequest :=
  (items.insertionSort fun a b => a.2.skuId ≤ b.2.skuId).map fun item => {
    skuId := item.2.skuId
    quantity := item.2.quantity
    idempotencyKey := orderReleaseMovementKey orderNo item.2.skuId
    warehouseId := some item.2.warehouseId
    referenceType := .order
    referenceId := some orderId
    operatorType := cause.operatorType
    operatorId := cause.operatorId
    reason := some cause.reason }

/-- What ending an order did: its coupon went back, its stock was released, its open attempts were
closed, and one status log was written. -/
inductive OrderEnded (orderId : Nat) (order : Order) (requests : List StockRequest) (now : Time)
    (attempts : List (Nat × Payment)) (write : Order → Order) (log : OrderStatusLog) (d : Db) : Db → Prop where
  | mk {d₁ d₂ : Db} (coupon : CouponMoved .release orderId order d d₁)
      (stock : Moves releaseOperation now requests d₁ d₂) :
      OrderEnded orderId order requests now attempts write log d { d₂ with
        payments := d.payments.adjust fun id p =>
          if ∃ e ∈ attempts, e.1 = id ∧ e.2.Open then p.closed now else p
        orders := d.orders.modify orderId write
        statusLogs := d.statusLogs ++ [log] }

/-- What ending an order writes, table by table. -/
theorem OrderEnded.frame {orderId : Nat} {order : Order} {requests : List StockRequest} {now : Time}
    {attempts : List (Nat × Payment)} {write : Order → Order} {log : OrderStatusLog} {d d' : Db}
    (h : OrderEnded orderId order requests now attempts write log d d') :
    ∃ userCoupons couponUsages movements inventories, d' = { d with
      payments := d.payments.adjust fun id p =>
        if ∃ e ∈ attempts, e.1 = id ∧ e.2.Open then p.closed now else p
      orders := d.orders.modify orderId write
      statusLogs := d.statusLogs ++ [log]
      userCoupons := userCoupons
      couponUsages := d.couponUsages ++ couponUsages
      movements := d.movements ++ movements
      inventories := inventories } ∧
      (∀ r ∈ couponUsages, r.orderId = orderId ∧ r.action = .release) ∧
      ∀ m ∈ movements, ∃ request ∈ requests, ∃ row, m = releaseOperation.movement request row := by
  cases h with
  | mk coupon stock =>
    obtain ⟨userCoupons, couponUsages, hd₁, husages⟩ := coupon.frame
    obtain ⟨movements, inventories, hd₂, hmovements⟩ := stock.frame
    refine ⟨userCoupons, couponUsages, movements, inventories, ?_, husages, hmovements⟩
    rw [hd₂, hd₁]

/-! ## Expiry -/

def expiredReason : String := "payment window expired"

def expiryCause : ReleaseCause := { operatorType := .worker, operatorId := none, reason := expiredReason }

/-- The attempts for an order, oldest first. -/
def Db.paymentsOf (d : Db) (orderId : Nat) : List (Nat × Payment) :=
  d.payments.select fun p => decide (p.orderId = orderId)

def lockPaymentsOf (orderId : Nat) : Tx (List (Nat × Payment)) :=
  lock (fun d => (d.paymentsOf orderId).map fun e => RowLock.payment e.1) (fun d => d.paymentsOf orderId)

/-- The guards of `close_expired_order`, on the rows it locked. -/
def Order.Expired (o : Order) (payments : List (Nat × Payment)) (now : Time) : Prop :=
  o.orderStatus = .pendingPayment ∧ (∃ t ∈ o.expiresAt, t ≤ now) ∧ o.paidAmount = 0 ∧
    (o.paymentStatus = .unpaid ∨ o.paymentStatus = .paying) ∧ ¬ ∃ e ∈ payments, e.2.status = .success

instance Order.decidableExpired (o : Order) (payments : List (Nat × Payment)) (now : Time) :
    Decidable (o.Expired payments now) := by
  unfold Order.Expired
  infer_instance

/-- The columns of an expired order, from the row the session holds. -/
def Order.closedBy (held : Order) (now : Time) (row : Order) : Order :=
  { row with
    orderStatus := .closed
    paymentStatus := .unpaid
    cancelReason := some expiredReason
    closedAt := some now
    updatedAt := now
    version := held.version + 1 }

def closeExpiredLocked (orderId : Nat) (order : Order) (payments : List (Nat × Payment)) (now : Time) :
    Tx Unit := do
  let _ ← ofExcept (assertTransition order.orderStatus .closed .orderStateInvalid)
  releaseCoupon orderId order now
  let items ← itemsFor orderId
  moveAll releaseOperation (releaseRequests orderId order.orderNo items expiryCause) now
  closeAttempts payments now
  update fun d => { d with orders := d.orders.modify orderId (order.closedBy now) }
  appendLog orderId order .pendingPayment .closed .worker none (some expiredReason)

/-- Recheck and close one order under row locks, payments before the order. -/
def closeExpiredOrder (orderId : Nat) (now : Time) : Tx Bool := do
  let payments ← lockPaymentsOf orderId
  match ← getOrderForUpdate orderId with
  | none => return false
  | some order =>
    if order.Expired payments now then
      closeExpiredLocked orderId order payments now
      return true
    else
      return false

/-- One order of the expiry cycle. -/
def expireOrder (orderId : Nat) (now : Time) : Tx Bool := transaction (closeExpiredOrder orderId now)

def expiryLog (orderId : Nat) (order : Order) : OrderStatusLog where
  orderId := orderId
  orderNo := order.orderNo
  fromStatus := some .pendingPayment
  toStatus := .closed
  reason := some expiredReason
  operatorType := .worker
  operatorId := none

/-- What closing an order that is expired did. -/
def OrderExpired (orderId : Nat) (now : Time) (d d' : Db) : Prop :=
  ∃ order, d.orders.get? orderId = some order ∧ order.Expired (d.paymentsOf orderId) now ∧
    OrderEnded orderId order (releaseRequests orderId order.orderNo (d.itemsFor orderId) expiryCause) now
      (d.paymentsOf orderId) (order.closedBy now) (expiryLog orderId order) d d'

/-- Items are not stock, coupons or payments. -/
theorem itemsFor_congr {d c : Db} (h : c.orderItems = d.orderItems) (orderId : Nat) :
    c.itemsFor orderId = d.itemsFor orderId := by
  unfold Db.itemsFor
  rw [h]

theorem closeExpiredLocked_ended {orderId : Nat} {order : Order} {payments : List (Nat × Payment)}
    {now : Time} {e e' : Exec Db} {u : Unit}
    (h : (closeExpiredLocked orderId order payments now).run e = (.ok u, e')) :
    ∃ d, e' = { e with view := d } ∧
      OrderEnded orderId order
        (releaseRequests orderId order.orderNo (e.view.itemsFor orderId) expiryCause) now payments
        (order.closedBy now) (expiryLog orderId order) e.view d := by
  unfold closeExpiredLocked closeAttempts appendLog itemsFor at h
  rw [run_bind_eq_ok] at h
  obtain ⟨_, e₁, hguard, h⟩ := h
  rw [run_ofExcept_eq_ok] at hguard
  obtain ⟨-, rfl⟩ := hguard
  rw [run_bind_eq_ok] at h
  obtain ⟨_, e₂, hrelease, h⟩ := h
  obtain ⟨d₁, rfl, hcoupon⟩ := releaseCoupon_moved hrelease
  rw [run_bind, run_query, andThen_ok, run_bind_eq_ok] at h
  obtain ⟨_, e₃, hloop, h⟩ := h
  obtain ⟨d₂, rfl, hmoves⟩ := moveAll_moves hloop
  simp only [run_bind, run_update, andThen_ok] at h
  cases h
  obtain ⟨userCoupons, couponUsages, hd₁, -⟩ := hcoupon.frame
  obtain ⟨movements, inventories, hd₂, -⟩ := hmoves.frame
  refine ⟨_, rfl, ?_⟩
  have hitems : d₁.itemsFor orderId = e.view.itemsFor orderId := itemsFor_congr (by rw [hd₁]) orderId
  rw [hitems] at hmoves
  have hended : OrderEnded orderId order _ now payments (order.closedBy now) (expiryLog orderId order)
      e.view _ := .mk hcoupon hmoves
  have hp : d₂.payments = e.view.payments := by rw [hd₂, hd₁]
  have ho : d₂.orders = e.view.orders := by rw [hd₂, hd₁]
  have hl : d₂.statusLogs = e.view.statusLogs := by rw [hd₂, hd₁]
  rw [← hp, ← ho, ← hl] at hended
  exact hended

/-- `closeExpiredOrder` closes the order exactly when its guards hold on the rows it locks. -/
theorem closeExpiredOrder_eq_ok {orderId : Nat} {now : Time} {e e' : Exec Db} {b : Bool}
    (h : (closeExpiredOrder orderId now).run e = (.ok b, e')) :
    (b = false ∧ e' = e ∧ ∀ o, e.view.orders.get? orderId = some o →
        ¬ o.Expired (e.view.paymentsOf orderId) now) ∨
      (b = true ∧ ∃ d, e' = { e with view := d } ∧ OrderExpired orderId now e.view d) := by
  unfold closeExpiredOrder lockPaymentsOf getOrderForUpdate at h
  rw [run_bind, run_lock, andThen_ok, run_bind, run_lock, andThen_ok] at h
  cases ho : e.view.orders.get? orderId with
  | none =>
    simp only [ho, run_pure] at h
    cases h
    refine .inl ⟨rfl, rfl, fun o h => ?_⟩
    cases h
  | some order =>
    simp only [ho] at h
    split_ifs at h with hexpired
    · rw [run_bind_eq_ok] at h
      obtain ⟨_, e₁, hclose, h⟩ := h
      cases h
      obtain ⟨d, rfl, hended⟩ := closeExpiredLocked_ended hclose
      exact .inr ⟨rfl, d, rfl, order, ho, hexpired, hended⟩
    · cases h
      refine .inl ⟨rfl, rfl, fun o h => ?_⟩
      cases h
      exact hexpired

@[grind .] theorem noCommit_closeExpiredOrder (orderId : Nat) (now : Time) :
    (closeExpiredOrder orderId now).NoCommit := by
  have hlocked : ∀ order payments, (closeExpiredLocked orderId order payments now).NoCommit := by
    intro order payments
    unfold closeExpiredLocked
    grind
  have hpayments : (lockPaymentsOf orderId).NoCommit := noCommit_lock _ _
  unfold closeExpiredOrder
  grind

end NovaCommerce
