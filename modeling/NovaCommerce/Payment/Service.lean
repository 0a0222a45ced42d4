import NovaCommerce.Order.Service
import NovaCommerce.Payment.Providers

/-!
# Creating a payment attempt

The order is locked before anything is decided. The insert is attempted under two unique keys, and a
conflict is answered with the attempt the client already made.
-/

namespace NovaCommerce

open Sql

/-! ## Canonical requests -/

/-- `canonical_payment_request_hash`: keys sorted, no whitespace. -/
def canonicalPaymentRequestHash (env : Deployment) (userId : Nat) (orderNo channel : String) : String :=
  env.sha256Hex ("\x7b\"channel\":" ++ jsonString channel ++ ",\"order_no\":" ++ jsonString orderNo ++
    ",\"user_id\":" ++ toString userId ++ "\x7d")

/-! ## The two guards -/

/-- What a client asks for. -/
structure PaymentRequest where
  orderNo : String
  channel : String
  clientRequestId : String
  idempotencyKey : String

/-- The attempt a client made under its request id. -/
def Db.paymentByClientRequestId (d : Db) (userId : Nat) (clientRequestId : String) :
    Option (Nat × Payment) :=
  d.payments.find? fun p => decide (p.userId = userId ∧ p.clientRequestId = clientRequestId)

/-- The attempt a merchant has under an idempotency key. -/
def Db.paymentByIdempotencyKey (d : Db) (merchantId : Nat) (key : String) : Option (Nat × Payment) :=
  d.payments.find? fun p => decide (p.merchantId = merchantId ∧ p.idempotencyKey = key)

/-- A duplicate key, answered with the attempt it belongs to. -/
def resolveConflict (principal : Principal) (request : PaymentRequest) (requestHash : String) : Tx Nat := do
  let byRequest ← query fun d => d.paymentByClientRequestId principal.userId request.clientRequestId
  let byKey ← query fun d => principal.merchantId.bind fun m =>
    d.paymentByIdempotencyKey m request.idempotencyKey
  match byRequest.or byKey with
  | none => raise { kind := .integrity, message := "Duplicate entry for key 'payments'" }
  | some (id, existing) =>
    raiseIf (existing.requestHash ≠ requestHash)
      { kind := .idempotencyPayloadMismatch
        message := "this Idempotency-Key was already used for a different payment request"
        context := [("payment_no", .str existing.paymentNo), ("order_no", .str existing.orderNo),
          ("channel", .str existing.channel)] }
    return id

/-! ## The attempt -/

/-- A new attempt for an order, at the order's payable amount. -/
def Payment.attempt (env : Deployment) (principal : Principal) (orderId : Nat) (order : Order)
    (request : PaymentRequest) (requestHash : String) (now : Time) (id : Nat) : Payment where
  paymentNo := businessNo env.settings.paymentNoPrefix now id
  orderId := orderId
  orderNo := order.orderNo
  merchantId := order.merchantId
  userId := principal.userId
  channel := request.channel
  amount := order.payableAmount
  status := .paying
  idempotencyKey := request.idempotencyKey
  clientRequestId := request.clientRequestId
  requestHash := requestHash
  expiresAt := order.expiresAt
  createdAt := now
  updatedAt := now

/-- `UNPAID -> PAYING`, from `UNPAID` only. -/
def markOrderPaying (orderId : Nat) (order : Order) (now : Time) : Tx Unit := do
  if order.paymentStatus = .unpaid then
    update fun d => { d with
      orders := d.orders.modify orderId fun row =>
        { row with paymentStatus := .paying, updatedAt := now, version := order.version + 1 } }

/-- A settled order is not paid again. -/
def settledPaymentStatuses : List PaymentStatus := [.paid, .partialRefunded, .refunded]

/-- Insert an attempt; the payment window is checked with it. -/
def insertAttempt (env : Deployment) (principal : Principal) (orderId : Nat) (order : Order)
    (request : PaymentRequest) (requestHash : String) (now : Time) : Tx Nat := do
  raiseIf (order.payableAmount ≤ 0) (checkViolation "payments")
  raiseIf (∃ t ∈ order.expiresAt, t ≤ now)
    { kind := .orderExpired
      message := "this order's payment window has expired"
      context := [("order_no", .str order.orderNo)] }
  let id ← newId
  update fun d => { d with
    payments := d.payments.set id (.attempt env principal orderId order request requestHash now id) }
  markOrderPaying orderId order now
  return id

/-- Insert an attempt, or replay the one a guard found. -/
def insertOrReplay (env : Deployment) (principal : Principal) (orderId : Nat) (order : Order)
    (request : PaymentRequest) (requestHash : String) (now : Time) : Tx Nat := do
  raiseIf (order.orderStatus ≠ .pendingPayment)
    { kind := .orderStateInvalid
      message := "this order is not awaiting payment"
      context := [("order_no", .str order.orderNo), ("order_status", .str order.orderStatus.value)] }
  raiseIf (order.paymentStatus ∈ settledPaymentStatuses)
    { kind := .paymentStateInvalid
      message := "this order is already paid and cannot be paid again"
      context := [("order_no", .str order.orderNo), ("payment_status", .str order.paymentStatus.value)] }
  let taken ← lock
    (fun _ => [RowLock.paymentKey order.merchantId request.idempotencyKey,
      RowLock.paymentRequest principal.userId request.clientRequestId])
    (fun d => (d.paymentByIdempotencyKey order.merchantId request.idempotencyKey).isSome ||
      (d.paymentByClientRequestId principal.userId request.clientRequestId).isSome)
  if taken then resolveConflict principal request requestHash
  else insertAttempt env principal orderId order request requestHash now

def createAttempt (env : Deployment) (principal : Principal) (request : PaymentRequest) (now : Time) :
    Tx Nat := do
  raiseIf (request.idempotencyKey = "")
    { kind := .idempotencyKeyRequired
      message := "creating a payment attempt is idempotent by contract; supply an Idempotency-Key header" }
  raiseIf (request.channel ∉ env.settings.enabledChannels)
    { kind := .paymentChannelUnsupported
      message := "this payment channel is not enabled on this deployment"
      context := [("channel", .str request.channel),
        ("enabled", .strs (env.settings.enabledChannels.mergeSort fun a b => decide (a ≤ b)))] }
  match ← getByOrderNoForUpdate request.orderNo (some principal.userId) with
  | none =>
    raise { kind := .orderNotFound
            message := "no such order for this account"
            context := [("order_no", .str request.orderNo)] }
  | some (orderId, order) =>
    let requestHash := canonicalPaymentRequestHash env principal.userId order.orderNo request.channel
    insertOrReplay env principal orderId order request requestHash now

/-- Create one payment attempt for an order, or replay the attempt a key made. -/
def createPayment (env : Deployment) (principal : Principal) (request : PaymentRequest) (now : Time) :
    Tx Nat :=
  transaction (createAttempt env principal request now)

/-! ## What it does -/

/-- The columns of an order with an attempt, from the row the session holds. -/
def Order.payingBy (held : Order) (now : Time) (row : Order) : Order :=
  if held.paymentStatus = .unpaid then
    { row with paymentStatus := .paying, updatedAt := now, version := held.version + 1 }
  else row

/-- What a create request did. -/
inductive AttemptCreated (next : Nat) (d : Db) : Nat → Db → Prop where
  | replayed : AttemptCreated next d next d
  | created {orderId : Nat} {order : Order} {p : Payment} {now : Time}
      (locked : d.orders.get? orderId = some order) (pending : order.orderStatus = .pendingPayment)
      (unsettled : order.paymentStatus ∉ settledPaymentStatuses) (positive : 0 < order.payableAmount)
      (ofOrder : p.orderId = orderId) (orderNo : p.orderNo = order.orderNo)
      (userId : p.userId = order.userId) (amount : p.amount = order.payableAmount)
      (status : p.status = .paying) (paid : p.paidAmount = 0) (refunded : p.refundedAmount = 0) :
      AttemptCreated next d (next + 1) { d with
        payments := d.payments.set next p
        orders := d.orders.modify orderId (order.payingBy now) }

theorem resolveConflict_eq_ok {principal : Principal} {request : PaymentRequest} {requestHash : String}
    {e e' : Exec Db} {id : Nat} (h : (resolveConflict principal request requestHash).run e = (.ok id, e')) :
    e' = e := by
  unfold resolveConflict at h
  rw [run_bind, run_query, andThen_ok, run_bind, run_query, andThen_ok] at h
  split at h
  · cases h
  · rw [run_bind_eq_ok] at h
    obtain ⟨_, e₁, hhash, h⟩ := h
    rw [run_raiseIf_eq_ok] at hhash
    obtain ⟨-, rfl⟩ := hhash
    cases h
    rfl

theorem markOrderPaying_eq_ok {orderId : Nat} {order : Order} {now : Time} {e e' : Exec Db} {u : Unit}
    (h : (markOrderPaying orderId order now).run e = (.ok u, e')) :
    e' = { e with view := { e.view with orders := e.view.orders.modify orderId (order.payingBy now) } } := by
  unfold markOrderPaying at h
  split_ifs at h with hunpaid
  · rw [run_update] at h
    cases h
    have hf : order.payingBy now = fun row =>
        { row with paymentStatus := .paying, updatedAt := now, version := order.version + 1 } := by
      funext row
      rw [Order.payingBy, if_pos hunpaid]
    rw [hf]
  · cases h
    have hf : order.payingBy now = id := by
      funext row
      rw [Order.payingBy, if_neg hunpaid]
      rfl
    rw [hf, Dict.modify_id]

theorem insertOrReplay_created {env : Deployment} {principal : Principal} {orderId : Nat} {order : Order}
    {request : PaymentRequest} {requestHash : String} {now : Time} {e e' : Exec Db} {id : Nat}
    (h : (insertOrReplay env principal orderId order request requestHash now).run e = (.ok id, e'))
    (hrow : e.view.orders.get? orderId = some order) (huser : order.userId = principal.userId) :
    AttemptCreated e.next e.view e'.next e'.view := by
  unfold insertOrReplay at h
  rw [run_bind_eq_ok] at h
  obtain ⟨_, e₁, hpending, h⟩ := h
  rw [run_raiseIf_eq_ok, not_not] at hpending
  obtain ⟨hpending, rfl⟩ := hpending
  rw [run_bind_eq_ok] at h
  obtain ⟨_, e₂, hunsettled, h⟩ := h
  rw [run_raiseIf_eq_ok] at hunsettled
  obtain ⟨hunsettled, rfl⟩ := hunsettled
  rw [run_bind, run_lock, andThen_ok] at h
  split_ifs at h with htaken
  · rw [resolveConflict_eq_ok h]
    exact .replayed
  · unfold insertAttempt at h
    rw [run_bind_eq_ok] at h
    obtain ⟨_, e₃, hpositive, h⟩ := h
    rw [run_raiseIf_eq_ok, not_le] at hpositive
    obtain ⟨hpositive, rfl⟩ := hpositive
    rw [run_bind_eq_ok] at h
    obtain ⟨_, e₄, hopen, h⟩ := h
    rw [run_raiseIf_eq_ok] at hopen
    obtain ⟨-, rfl⟩ := hopen
    rw [run_bind, run_newId, andThen_ok, run_bind, run_update, andThen_ok, run_bind_eq_ok] at h
    obtain ⟨_, e₅, hpaying, h⟩ := h
    rw [markOrderPaying_eq_ok hpaying] at h
    cases h
    exact .created hrow hpending hunsettled hpositive rfl rfl huser.symm rfl rfl rfl rfl

/-- A create request that ends in a value made one attempt, or found one. -/
theorem createAttempt_created {env : Deployment} {principal : Principal} {request : PaymentRequest}
    {now : Time} {e e' : Exec Db} {id : Nat}
    (h : (createAttempt env principal request now).run e = (.ok id, e')) :
    AttemptCreated e.next e.view e'.next e'.view := by
  unfold createAttempt getByOrderNoForUpdate at h
  rw [run_bind_eq_ok] at h
  obtain ⟨_, e₁, hkey, h⟩ := h
  rw [run_raiseIf_eq_ok] at hkey
  obtain ⟨-, rfl⟩ := hkey
  rw [run_bind_eq_ok] at h
  obtain ⟨_, e₂, hchannel, h⟩ := h
  rw [run_raiseIf_eq_ok] at hchannel
  obtain ⟨-, rfl⟩ := hchannel
  rw [run_bind, run_lock, andThen_ok] at h
  cases ho : e.view.orderByNo request.orderNo (some principal.userId) with
  | none => simp [ho] at h
  | some entry =>
    obtain ⟨orderId, order⟩ := entry
    simp only [ho] at h
    obtain ⟨hrow, -, huser⟩ := orderByNo_some ho
    exact insertOrReplay_created h hrow (huser _ rfl)

@[grind .] theorem noCommit_createAttempt (env : Deployment) (principal : Principal)
    (request : PaymentRequest) (now : Time) : (createAttempt env principal request now).NoCommit := by
  have hconflict : ∀ hash, (resolveConflict principal request hash).NoCommit := by
    intro hash
    unfold resolveConflict
    grind
  have hpaying : ∀ orderId order, (markOrderPaying orderId order now).NoCommit := by
    intro orderId order
    unfold markOrderPaying
    grind
  have hinsert : ∀ orderId order hash,
      (insertAttempt env principal orderId order request hash now).NoCommit := by
    intro orderId order hash
    unfold insertAttempt
    grind
  have hreplay : ∀ orderId order hash,
      (insertOrReplay env principal orderId order request hash now).NoCommit := by
    intro orderId order hash
    unfold insertOrReplay
    grind
  unfold createAttempt
  grind

end NovaCommerce
