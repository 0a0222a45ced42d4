import NovaCommerce.Fulfillment.Service
import NovaCommerce.Order.Reconciliation
import NovaCommerce.Outbox.Writer
import NovaCommerce.Payment.Providers

/-!
# `PaymentSuccessWorkflow`

The transaction that turns one provider callback into a settlement: claim the event, verify the
signature, resolve and lock the payment, guard its state and amount, lock the order, and settle it,
on time or late. `execute` commits unless the outcome is marked uncommitted.
-/

namespace NovaCommerce

open Sql

/-- One provider delivery. -/
structure CallbackRequest where
  headers : CallbackHeaders
  eventType : String
  rawBody : List UInt8
  payload : JsonObject

/-- What the workflow did with one delivery. -/
structure CallbackExecution where
  callbackId : Option Nat
  paymentId : Option Nat := none
  replayed : Bool := false
  duplicate : Bool := false
  processed : Bool := false
  uncommitted : Bool := false
  status : Option String := none
  errorCode : Option String := none
  detail : Option String := none

/-! ## Reading the payload -/

/-- The first key that holds a non-blank string. -/
def firstText (payload : JsonObject) (keys : List String) : Option String := keys.findSome? payload.text?

def resolvePaymentNo (payload : JsonObject) : Option String :=
  firstText payload ["payment_no", "out_trade_no", "payment_id", "merchant_payment_no"]

def resolveOrderNo (payload : JsonObject) : Option String :=
  firstText payload ["order_no", "merchant_order_no"]

def resolveExternalTransactionNo (payload : JsonObject) : Option String :=
  (firstText payload ["transaction_no", "trade_no", "transaction_id", "external_transaction_no"]).map
    (truncate 128)

/-! ## Outcomes without an effect -/

/-- Record a delivery whose money is already in. -/
def replay (now : Time) (id : Nat) (callback : PaymentCallback) (paymentId : Nat) (payment : Payment)
    (detail : String) : Tx CallbackExecution := do
  writeCallback id (callback.markedProcessed now)
  return {
    callbackId := some id
    paymentId := some paymentId
    replayed := true
    duplicate := true
    errorCode := some "PAYMENT_CALLBACK_DUPLICATE"
    status := some payment.status.value
    detail := some detail }

/-- Record a refusal; the caller rolls it back. -/
def refuse (id : Nat) (callback : PaymentCallback) (paymentId : Option Nat) (code : String)
    (status : Option String) (detail : String) : Tx CallbackExecution := do
  writeCallback id callback
  return {
    callbackId := some id
    paymentId := paymentId
    uncommitted := true
    errorCode := some code
    status := status
    detail := some detail }

/-- Refuse a payment whose state cannot be settled. -/
def refuseState (now : Time) (id : Nat) (callback : PaymentCallback) (paymentId : Nat) (payment : Payment) :
    Tx CallbackExecution :=
  let detail := s!"payment status is {payment.status.value}; only INITIATED/PAYING can be settled"
  refuse id (callback.markedFailed detail now) (some paymentId) "PAYMENT_STATE_INVALID"
    (some payment.status.value) detail

/-! ## Settling -/

/-- The columns of a closed order that was paid late, from the row the session holds. -/
def Order.paidLate (held : Order) (amount : Int) (now : Time) (row : Order) : Order :=
  { row with
    paymentStatus := .paid
    paidAmount := amount
    paidAt := some now
    updatedAt := now
    version := held.version + 1 }

/-- A late payment: the order stays closed, and the money is to be refunded. -/
def settleLate (request : CallbackRequest) (now : Time) (id : Nat) (callback : PaymentCallback)
    (paymentId : Nat) (payment : Payment) (amount : Int) (orderId : Nat) (order : Order) :
    Tx CallbackExecution := do
  recordSuccess paymentId amount (resolveExternalTransactionNo request.payload) now
  writeOrder orderId (order.paidLate amount now)
  ensureCompensationRefund paymentId payment id amount
  writeCallback id (callback.markedProcessed now)
  return {
    callbackId := some id
    paymentId := some paymentId
    processed := true
    status := some PaymentRecordStatus.success.value
    detail := some "late payment recorded; order remains closed and requires compensation refund" }

def orderProcessingReason : String := "payment succeeded"

/-- `order_deduct_key`. -/
def orderDeductKey (orderNo : String) (orderItemId : Nat) : String := s!"order-deduct:{orderNo}:{orderItemId}"

/-- One deduction for every line, under its deterministic key. -/
def deductRequests (orderNo : String) (items : List (Nat × OrderItem)) : List StockRequest :=
  items.map fun line => {
    skuId := line.2.skuId
    quantity := line.2.quantity
    warehouseId := some line.2.warehouseId
    idempotencyKey := orderDeductKey orderNo line.1
    referenceType := .orderItem
    referenceId := some line.1
    operatorType := .system
    operatorId := none }

/-- The columns of an order that was paid on time, from the row the session holds. -/
def Order.paidOnTime (held : Order) (now : Time) (row : Order) : Order :=
  { row with
    paymentStatus := .paid
    paidAmount := held.payableAmount
    paidAt := some now
    orderStatus := .processing
    updatedAt := now
    version := held.version + 1 }

/-- The event of a settled payment. -/
def settledEvent (request : CallbackRequest) (paymentId : Nat) (payment : Payment) (order : Order) :
    OutboxMessage where
  eventType := .paymentSettled
  aggregateType := .payment
  aggregateId := paymentId
  idempotencyKey := s!"{request.headers.provider}:{request.headers.eventId}"
  payload := paymentSettledPayload payment.paymentNo order.orderNo payment.amount request.headers.provider
  merchantId := some payment.merchantId

/-- The goods of a paid order: stock, package and event. -/
def settleGoods (env : Deployment) (request : CallbackRequest) (now : Time) (id : Nat)
    (callback : PaymentCallback) (paymentId : Nat) (payment : Payment) (orderId : Nat) (order : Order)
    (items : List (Nat × OrderItem)) (first : OrderItem) : Tx CallbackExecution := do
  moveAll deductOperation (deductRequests order.orderNo items) now
  createShell env.settings.fulfillmentNoPrefix orderId order items first.warehouseId now
  enqueue (settledEvent request paymentId payment order)
  writeCallback id (callback.markedProcessed now)
  return {
    callbackId := some id
    paymentId := some paymentId
    processed := true
    status := some PaymentRecordStatus.success.value }

/-- Settle a pending order. -/
def settleOnTime (env : Deployment) (request : CallbackRequest) (now : Time) (id : Nat)
    (callback : PaymentCallback) (paymentId : Nat) (payment : Payment) (amount : Int) (orderId : Nat)
    (order : Order) : Tx CallbackExecution := do
  recordSuccess paymentId amount (resolveExternalTransactionNo request.payload) now
  writeOrder orderId (order.paidOnTime now)
  appendLog orderId order .pendingPayment .processing .system none (some orderProcessingReason)
  markUsed orderId order now
  match ← itemsFor orderId with
  | [] =>
    refuse id (callback.markedFailed "order has no line items" now) (some paymentId)
      "ORDER_AMOUNT_MISMATCH" none "the paid order carries no order_items"
  | first :: rest =>
    settleGoods env request now id callback paymentId payment orderId order (first :: rest) first.2

/-! ## The order of a payment -/

/-- Decide on the rows the session holds locked. -/
def settleOrder (env : Deployment) (request : CallbackRequest) (now : Time) (id : Nat)
    (callback : PaymentCallback) (paymentId : Nat) (payment : Payment) (amount : Int) (orderId : Nat)
    (order : Order) : Tx CallbackExecution :=
  if payment.status ∈ latePaymentStatuses ∧ order.orderStatus ≠ .closed then
    refuseState now id callback paymentId payment
  else if order.paymentStatus = .paid then
    replay now id callback paymentId payment "the order is already paid"
  else if order.orderStatus = .closed then
    settleLate request now id callback paymentId payment amount orderId order
  else if order.orderStatus ≠ .pendingPayment then
    if order.orderStatus = .processing then
      replay now id callback paymentId payment "the order is already being processed"
    else
      refuse id (callback.markedFailed s!"order is {order.orderStatus.value}, not payable" now)
        (some paymentId) "PAYMENT_ALREADY_PAID" (some order.orderStatus.value)
        s!"order_status is {order.orderStatus.value}"
  else
    settleOnTime env request now id callback paymentId payment amount orderId order

/-- A pending order whose payment window is over. -/
def Order.Due (o : Order) (now : Time) : Prop :=
  o.orderStatus = .pendingPayment ∧ ∃ t ∈ o.expiresAt, t ≤ now

instance Order.decidableDue (o : Order) (now : Time) : Decidable (o.Due now) := by
  unfold Order.Due
  infer_instance

/-- Close a due order first, in the instances the session holds. -/
def settleLocked (env : Deployment) (request : CallbackRequest) (now : Time) (id : Nat)
    (callback : PaymentCallback) (paymentId : Nat) (payment : Payment) (amount : Int) (orderId : Nat)
    (order : Order) : Tx CallbackExecution := do
  if order.Due now then
    let _ ← closeExpiredOrder orderId now
    let order ← query fun d => (d.orders.get? orderId).getD order
    let payment ← query fun d => (d.payments.get? paymentId).getD payment
    settleOrder env request now id callback paymentId payment amount orderId order
  else
    settleOrder env request now id callback paymentId payment amount orderId order

/-! ## The payment of a callback -/

/-- Guard the state and the amount of a locked payment, and lock its order. -/
def processPayment (env : Deployment) (request : CallbackRequest) (now : Time) (id : Nat)
    (callback : PaymentCallback) (paymentId : Nat) (payment : Payment) (amount : Option Int) :
    Tx CallbackExecution := do
  if payment.status = .success then
    replay now id callback paymentId payment "this payment was already settled before this delivery"
  else if payment.status ∉ settleableStatuses ∧ payment.status ∉ latePaymentStatuses then
    refuseState now id callback paymentId payment
  else if amount ≠ some payment.amount then
    let reported := match amount with
      | none => "None"
      | some value => toString value
    refuse id (callback.markedFailed s!"amount mismatch: provider={reported} payment={payment.amount}" now)
      (some paymentId) "PAYMENT_AMOUNT_MISMATCH" (some payment.status.value)
      s!"provider reported {reported}, the payment asks for {payment.amount}"
  else
    match ← getByOrderNoForUpdate payment.orderNo none with
    | none =>
      refuse id (callback.markedFailed "order not found" now) (some paymentId) "ORDER_NOT_FOUND" none
        "the payment names an order that does not exist"
    | some (orderId, order) =>
      settleLocked env request now id callback paymentId payment payment.amount orderId order

/-- The callback row of a verified delivery. -/
def PaymentCallback.verified (env : Deployment) (callback : PaymentCallback) (payload : JsonObject) :
    PaymentCallback :=
  { callback with
    paymentNo := resolvePaymentNo payload
    orderNo := resolveOrderNo payload
    payloadSnapshot := some (env.filterCallbackPayload payload)
    signatureValid := true
    processError := none }

/-- Resolve and lock the payment a verified delivery names. -/
def processVerified (env : Deployment) (request : CallbackRequest) (now : Time) (id : Nat)
    (callback : PaymentCallback) : Tx CallbackExecution := do
  let amount ← ofExcept (parseAmountMinor (request.payload.get "amount"))
  let callback := callback.verified env request.payload
  match resolvePaymentNo request.payload with
  | none =>
    refuse id (callback.markedIgnored "unresolved payment_no" now) none "PAYMENT_NOT_FOUND" none
      "the payload names no resolvable payment_no"
  | some paymentNo =>
    match ← getByPaymentNoForUpdate paymentNo with
    | none =>
      refuse id (callback.markedIgnored "payment_no not found" now) none "PAYMENT_NOT_FOUND" none
        "payment_no did not resolve to a row"
    | some (paymentId, payment) =>
      processPayment env request now id
        { callback with merchantId := some payment.merchantId, orderNo := some payment.orderNo }
        paymentId payment amount

/-! ## A delivery -/

/-- The outcome of a delivery whose event is already claimed. -/
def duplicateExecution : CallbackExecution where
  callbackId := none
  replayed := true
  duplicate := true
  errorCode := some "PAYMENT_CALLBACK_DUPLICATE"
  detail := some "another delivery of this event owns the business effect"

/-- The transaction body: the signature is verified at `verifiedAt`, everything else happens at `now`. -/
def process (env : Deployment) (request : CallbackRequest) (verifiedAt now : Time) :
    Tx CallbackExecution := do
  match ← insertReceived request.headers.provider request.headers.eventId request.eventType now with
  | none => return duplicateExecution
  | some (id, callback) =>
    let verdict ← ofExcept (env.verifySignature request.headers request.rawBody verifiedAt)
    if verdict.valid then
      processVerified env request now id callback
    else
      return {
        callbackId := some id
        uncommitted := true
        errorCode := some "PAYMENT_CALLBACK_INVALID_SIGNATURE"
        detail := some verdict.reason }

@[grind .] theorem noCommit_replay (now : Time) (id : Nat) (callback : PaymentCallback) (paymentId : Nat)
    (payment : Payment) (detail : String) : (replay now id callback paymentId payment detail).NoCommit := by
  unfold replay
  grind

@[grind .] theorem noCommit_refuse (id : Nat) (callback : PaymentCallback) (paymentId : Option Nat)
    (code : String) (status : Option String) (detail : String) :
    (refuse id callback paymentId code status detail).NoCommit := by
  unfold refuse
  grind

@[grind .] theorem noCommit_settleLate (request : CallbackRequest) (now : Time) (id : Nat)
    (callback : PaymentCallback) (paymentId : Nat) (payment : Payment) (amount : Int) (orderId : Nat)
    (order : Order) :
    (settleLate request now id callback paymentId payment amount orderId order).NoCommit := by
  unfold settleLate
  grind

section

variable (env : Deployment) (request : CallbackRequest) (now : Time) (id : Nat)
  (callback : PaymentCallback) (paymentId : Nat) (payment : Payment) (orderId : Nat) (order : Order)

@[grind .] theorem noCommit_settleGoods (items : List (Nat × OrderItem)) (first : OrderItem) :
    (settleGoods env request now id callback paymentId payment orderId order items first).NoCommit := by
  unfold settleGoods
  grind

@[grind .] theorem noCommit_settleOnTime (amount : Int) :
    (settleOnTime env request now id callback paymentId payment amount orderId order).NoCommit := by
  unfold settleOnTime
  grind

@[grind .] theorem noCommit_settleOrder (amount : Int) :
    (settleOrder env request now id callback paymentId payment amount orderId order).NoCommit := by
  unfold settleOrder refuseState
  grind

@[grind .] theorem noCommit_settleLocked (amount : Int) :
    (settleLocked env request now id callback paymentId payment amount orderId order).NoCommit := by
  unfold settleLocked
  grind

@[grind .] theorem noCommit_processPayment (amount : Option Int) :
    (processPayment env request now id callback paymentId payment amount).NoCommit := by
  unfold processPayment refuseState
  grind

@[grind .] theorem noCommit_processVerified :
    (processVerified env request now id callback).NoCommit := by
  unfold processVerified
  grind

@[grind .] theorem noCommit_process (verifiedAt : Time) : (process env request verifiedAt now).NoCommit := by
  unfold process
  grind

end

/-- Commit an outcome with an effect, roll back the others. -/
def closeTransaction (execution : CallbackExecution) : Tx Unit :=
  if execution.uncommitted then rollbackNow else commitNow

/-- Process one delivery and close its transaction. -/
def execute (env : Deployment) (request : CallbackRequest) (verifiedAt now : Time) :
    Tx CallbackExecution := do
  let execution ← process env request verifiedAt now
  closeTransaction execution
  return execution

end NovaCommerce
