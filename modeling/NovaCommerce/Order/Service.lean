import NovaCommerce.Order.Reconciliation

/-!
# Customer transitions of an order

`cancel` reads the order, locks its attempts and then the order itself; the locking read returns the
instance the session already holds (`identityMap`), so the guard sees the first read.
-/

namespace NovaCommerce

open Sql

/-- An authenticated caller. -/
structure Principal where
  userId : Nat
  merchantId : Option Nat
  isStaff : Bool := false
  permissions : List String := []

def Principal.logOperatorType (p : Principal) : OperatorType := if p.isStaff then .staff else .customer

def Principal.movementOperator (p : Principal) : OperatorType := if p.isStaff then .staff else .customer

def orderNotFound (orderNo : String) : AppError :=
  { kind := .orderNotFound, message := "order not found", context := [("order_no", .str orderNo)] }

/-- A `SELECT` without `populate_existing` of a row the session already loaded returns the loaded
instance with its old attributes. -/
def identityMap {α : Type} (loaded fetched : Nat × α) : Nat × α :=
  if fetched.1 = loaded.1 then loaded else fetched

@[simp] theorem identityMap_self {α : Type} (e : Nat × α) : identityMap e e = e := by
  unfold identityMap
  split_ifs <;> rfl

/-! ## Cancel -/

def cancelReleaseReason : String := "order cancelled"

def defaultCancelReason : String := "cancelled by customer"

/-- `reason or DEFAULT_CANCEL_REASON`. -/
def cancelReasonOf (reason : Option String) : String :=
  match reason with
  | none => defaultCancelReason
  | some r => if r = "" then defaultCancelReason else r

def Principal.releaseCause (p : Principal) : ReleaseCause where
  operatorType := p.movementOperator
  operatorId := some p.userId
  reason := cancelReleaseReason

/-- The columns of a cancelled order, from the row the session holds. -/
def Order.cancelledBy (held : Order) (reason : String) (now : Time) (row : Order) : Order :=
  { row with
    orderStatus := .cancelled
    cancelReason := some reason
    cancelledAt := some now
    version := held.version + 1 }

def cancelLog (principal : Principal) (orderId : Nat) (order : Order) (reason : String) : OrderStatusLog where
  orderId := orderId
  orderNo := order.orderNo
  fromStatus := some .pendingPayment
  toStatus := .cancelled
  reason := some reason
  operatorType := principal.logOperatorType
  operatorId := some principal.userId

/-- A cancellation after its locks, on the instances the session holds. -/
def cancelLocked (principal : Principal) (orderId : Nat) (order : Order) (items : List (Nat × OrderItem))
    (attempts : List (Nat × Payment)) (reason : Option String) (now : Time) : Tx Unit := do
  raiseIf (order.orderStatus = .cancelled)
    { kind := .orderNotCancellable
      message := "order is already cancelled"
      context := [("from_status", .str order.orderStatus.value),
        ("to_status", .str OrderStatus.cancelled.value)] }
  let _ ← ofExcept (transitionToCancelled order.orderStatus)
  closeAttempts attempts now
  releaseCoupon orderId order now
  moveAll releaseOperation (releaseRequests orderId order.orderNo items principal.releaseCause) now
  update fun d => { d with orders := d.orders.modify orderId (order.cancelledBy (cancelReasonOf reason) now) }
  appendLog orderId order .pendingPayment .cancelled principal.logOperatorType (some principal.userId)
    (some (cancelReasonOf reason))

/-- The locking read of a cancellation, and what follows it. -/
def cancelFrom (principal : Principal) (orderNo : String) (reason : Option String) (now : Time) (id : Nat)
    (candidate : Order) (items : List (Nat × OrderItem)) (attempts : List (Nat × Payment)) : Tx Unit := do
  match ← getByOrderNoForUpdate orderNo (some principal.userId) with
  | none => raise (orderNotFound orderNo)
  | some fetched =>
    let (orderId, order) := identityMap (id, candidate) fetched
    let items ← if orderId = id then pure items else itemsFor orderId
    cancelLocked principal orderId order items attempts reason now

def cancelOrder (principal : Principal) (orderNo : String) (reason : Option String) (now : Time) : Tx Unit := do
  match ← getByOrderNo orderNo (some principal.userId) with
  | none => raise (orderNotFound orderNo)
  | some (id, candidate) =>
    let items ← itemsFor id
    let attempts ← lockAttemptsForOrder id principal.userId
    cancelFrom principal orderNo reason now id candidate items attempts

/-- `PENDING_PAYMENT -> CANCELLED`. -/
def cancel (principal : Principal) (orderNo : String) (reason : Option String) (now : Time) : Tx Unit :=
  transaction (cancelOrder principal orderNo reason now)

/-- What cancelling a pending order did. -/
def OrderCancelled (principal : Principal) (orderNo : String) (reason : Option String) (now : Time)
    (d d' : Db) : Prop :=
  ∃ id order, d.orderByNo orderNo (some principal.userId) = some (id, order) ∧
    order.orderStatus = .pendingPayment ∧
    OrderEnded id order (releaseRequests id order.orderNo (d.itemsFor id) principal.releaseCause) now
      (d.attemptsFor id principal.userId) (order.cancelledBy (cancelReasonOf reason) now)
      (cancelLog principal id order (cancelReasonOf reason)) d d'

theorem cancelLocked_ended {principal : Principal} {orderId : Nat} {order : Order}
    {items : List (Nat × OrderItem)} {attempts : List (Nat × Payment)} {reason : Option String} {now : Time}
    {e e' : Exec Db} {u : Unit}
    (h : (cancelLocked principal orderId order items attempts reason now).run e = (.ok u, e')) :
    order.orderStatus = .pendingPayment ∧ ∃ d, e' = { e with view := d } ∧
      OrderEnded orderId order (releaseRequests orderId order.orderNo items principal.releaseCause) now
        attempts (order.cancelledBy (cancelReasonOf reason) now)
        (cancelLog principal orderId order (cancelReasonOf reason)) e.view d := by
  unfold cancelLocked closeAttempts appendLog at h
  rw [run_bind_eq_ok] at h
  obtain ⟨_, e₁, hnot, h⟩ := h
  rw [run_raiseIf_eq_ok] at hnot
  obtain ⟨-, rfl⟩ := hnot
  rw [run_bind_eq_ok] at h
  obtain ⟨_, e₂, hguard, h⟩ := h
  rw [run_ofExcept_eq_ok, transitionToCancelled_eq_ok] at hguard
  obtain ⟨⟨hpending, -⟩, rfl⟩ := hguard
  rw [run_bind, run_update, andThen_ok, run_bind_eq_ok] at h
  obtain ⟨_, e₃, hrelease, h⟩ := h
  obtain ⟨d₁, rfl, hcoupon⟩ := releaseCoupon_moved hrelease
  rw [run_bind_eq_ok] at h
  obtain ⟨_, e₄, hloop, h⟩ := h
  obtain ⟨d₂, rfl, hmoves⟩ := moveAll_moves hloop
  simp only [run_bind, run_update, andThen_ok] at h
  cases h
  refine ⟨hpending, _, rfl, ?_⟩
  obtain ⟨userCoupons, couponUsages, hd₁, -⟩ := hcoupon.frame
  obtain ⟨movements, inventories, hd₂, -⟩ := hmoves.frame
  -- the attempts were closed first, in tables that coupons and stock do not see
  have hcoupon' := hcoupon.transfer (c := e.view) rfl rfl
  have hmoves' := hmoves.transfer
    (c := { e.view with userCoupons := d₁.userCoupons, couponUsages := d₁.couponUsages })
    (by rw [hd₁]) (by rw [hd₁]) (by rw [hd₁])
  have hended : OrderEnded orderId order _ now attempts (order.cancelledBy (cancelReasonOf reason) now)
      (cancelLog principal orderId order (cancelReasonOf reason)) e.view _ := .mk hcoupon' hmoves'
  rw [hd₂, hd₁] at hended ⊢
  exact hended

theorem cancelOrder_cancelled {principal : Principal} {orderNo : String} {reason : Option String} {now : Time}
    {e e' : Exec Db} {u : Unit} (h : (cancelOrder principal orderNo reason now).run e = (.ok u, e')) :
    ∃ d, e' = { e with view := d } ∧ OrderCancelled principal orderNo reason now e.view d := by
  unfold cancelOrder cancelFrom getByOrderNo getByOrderNoForUpdate lockAttemptsForOrder itemsFor at h
  rw [run_bind, run_query, andThen_ok] at h
  cases ho : e.view.orderByNo orderNo (some principal.userId) with
  | none => simp [ho] at h
  | some entry =>
    obtain ⟨id, order⟩ := entry
    simp only [ho, run_bind, run_query, run_lock, andThen_ok, identityMap_self, if_true, run_pure] at h
    obtain ⟨hpending, d, rfl, hended⟩ := cancelLocked_ended h
    exact ⟨d, rfl, id, order, ho, hpending, hended⟩

@[grind .] theorem noCommit_cancelLocked (principal : Principal) (orderId : Nat) (order : Order)
    (items : List (Nat × OrderItem)) (attempts : List (Nat × Payment)) (reason : Option String)
    (now : Time) : (cancelLocked principal orderId order items attempts reason now).NoCommit := by
  unfold cancelLocked
  grind

@[grind .] theorem noCommit_cancelFrom (principal : Principal) (orderNo : String) (reason : Option String)
    (now : Time) (id : Nat) (candidate : Order) (items : List (Nat × OrderItem))
    (attempts : List (Nat × Payment)) :
    (cancelFrom principal orderNo reason now id candidate items attempts).NoCommit := by
  unfold cancelFrom
  grind

@[grind .] theorem noCommit_cancelOrder (principal : Principal) (orderNo : String) (reason : Option String)
    (now : Time) : (cancelOrder principal orderNo reason now).NoCommit := by
  unfold cancelOrder
  grind

/-! ## Confirm receipt -/

def confirmReceiptReason : String := "receipt confirmed by customer"

def confirmReceiptOrder (principal : Principal) (orderNo : String) (now : Time) : Tx Unit := do
  match ← getByOrderNoForUpdate orderNo (some principal.userId) with
  | none => raise (orderNotFound orderNo)
  | some (id, order) =>
    let _ ← ofExcept (transitionToCompleted order.orderStatus)
    update fun d => { d with
      orders := d.orders.modify id fun row =>
        { row with orderStatus := .completed, completedAt := some now, version := order.version + 1 } }
    appendLog id order .processing .completed principal.logOperatorType (some principal.userId)
      (some confirmReceiptReason)

/-- `PROCESSING -> COMPLETED`. -/
def confirmReceipt (principal : Principal) (orderNo : String) (now : Time) : Tx Unit :=
  transaction (confirmReceiptOrder principal orderNo now)

/-- The columns of a received order, from the row the session holds. -/
def Order.completedBy (held : Order) (now : Time) (row : Order) : Order :=
  { row with orderStatus := .completed, completedAt := some now, version := held.version + 1 }

def receiptLog (principal : Principal) (orderId : Nat) (order : Order) : OrderStatusLog where
  orderId := orderId
  orderNo := order.orderNo
  fromStatus := some .processing
  toStatus := .completed
  reason := some confirmReceiptReason
  operatorType := principal.logOperatorType
  operatorId := some principal.userId

/-- What confirming a receipt did. -/
inductive ReceiptConfirmed (d : Db) : Db → Prop where
  | mk {principal : Principal} {orderId : Nat} {order : Order} {now : Time}
      (row : d.orders.get? orderId = some order) (processing : order.orderStatus = .processing) :
      ReceiptConfirmed d { d with
        orders := d.orders.modify orderId (order.completedBy now)
        statusLogs := d.statusLogs ++ [receiptLog principal orderId order] }

theorem confirmReceiptOrder_confirmed {principal : Principal} {orderNo : String} {now : Time} {e e' : Exec Db}
    {u : Unit} (h : (confirmReceiptOrder principal orderNo now).run e = (.ok u, e')) :
    ∃ d, e' = { e with view := d } ∧ ReceiptConfirmed e.view d := by
  unfold confirmReceiptOrder getByOrderNoForUpdate appendLog at h
  rw [run_bind, run_lock, andThen_ok] at h
  cases ho : e.view.orderByNo orderNo (some principal.userId) with
  | none => simp [ho] at h
  | some entry =>
    obtain ⟨id, order⟩ := entry
    simp only [ho] at h
    rw [run_bind_eq_ok] at h
    obtain ⟨_, e₁, hguard, h⟩ := h
    rw [run_ofExcept_eq_ok, transitionToCompleted_eq_ok] at hguard
    obtain ⟨⟨hprocessing, -⟩, rfl⟩ := hguard
    cases h
    exact ⟨_, rfl, ReceiptConfirmed.mk (orderByNo_some ho).1 hprocessing⟩

@[grind .] theorem noCommit_confirmReceiptOrder (principal : Principal) (orderNo : String) (now : Time) :
    (confirmReceiptOrder principal orderNo now).NoCommit := by
  unfold confirmReceiptOrder
  grind

end NovaCommerce
