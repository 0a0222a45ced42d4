import NovaCommerce.AfterSales.Refunds
import NovaCommerce.AfterSales.Service
import NovaCommerce.Payment.Repository

/-!
# The refund workflow

A refund against an approved claim: the locks, the caps against the locked rows, and then every counter, the
returned stock and the event, in one transaction. The unique key of `refunds` decides whether a request is new.

* `executeRefund` : the workflow, `RefundRequest` its arguments, `RefundOutcome` its answer;
* `RefundPosted` : what a new refund was decided on, `Db.posted` the database it leaves (`refundFresh_posted`).
-/

namespace NovaCommerce

open Sql

/-! ## Requests -/

/-- What the operator asks for. -/
structure RefundRequest where
  afterSaleNo : String
  amount : Int
  reason : Option String := none
  idempotencyKey : String
  deriving DecidableEq

/-- `refund_no_for`. -/
def refundNoFor (refundId : Nat) (createdAt : Time) : String := businessNo "NVR" createdAt refundId

/-- The text that is hashed for a refund. -/
def refundText (request : RefundRequest) : String :=
  "|".intercalate [
    "after_sale_no=" ++ request.afterSaleNo,
    "amount=" ++ toString request.amount,
    "reason=" ++ request.reason.getD "",
    "key=" ++ request.idempotencyKey]

/-- `request_hash_for_refund`. -/
def requestHashForRefund (env : Deployment) (request : RefundRequest) : String := env.sha256Hex (refundText request)

/-- The refund, and whether this call is the one that wrote it. -/
structure RefundOutcome where
  refundId : Nat
  refund : Refund
  replayed : Bool
  split : Option RefundSplit := none

/-! ## Replays -/

/-- The refund a merchant has under an idempotency key. -/
def Db.refundByKey (d : Db) (merchantId : Nat) (key : String) : Option (Nat × Refund) :=
  d.refunds.find? fun r => decide (r.merchantId = merchantId ∧ r.idempotencyKey = key)

/-- The stored refund, for a request with its hash. -/
def replayRefund (request : RefundRequest) (requestHash : String) (existing : Nat × Refund) : Except AppError RefundOutcome := do
  Raise.raiseIf (existing.2.requestHash ≠ requestHash)
    { kind := .refundAlreadyCompleted
      message := "this Idempotency-Key was already used to refund a different amount"
      context := [("idempotency_key", .str request.idempotencyKey), ("existing_amount", .int existing.2.amount)] }
  return { refundId := existing.1, refund := existing.2, replayed := true }

/-! ## Locks -/

/-- `REFUNDABLE_PAYMENT_STATUSES`. -/
def refundablePaymentStatuses : List PaymentRecordStatus := [.success, .partialRefunded, .refunded]

/-- `EXECUTABLE_CLAIM_STATUSES`. -/
def executableClaimStatuses : List AfterSaleClaimStatus := [.approved]

/-- `get_latest_for_order`: the first attempt by `created_at DESC, id DESC`. -/
def Db.latestPayment (d : Db) (orderId : Nat) : Option (Nat × Payment) :=
  (d.payments.select fun p => p.orderId = orderId).argmax fun e => toLex (e.2.createdAt, e.1)

/-- `_locked_payment`: the latest attempt, then its lock. -/
def lockedPayment (claim : AfterSale) : Tx (Nat × Payment) := do
  let missing : AppError := {
    kind := .afterSaleNotEligible
    message := "this order has no payment to refund"
    context := [("order_no", .str claim.orderNo)] }
  let latest ← orRaise (← query fun d => d.latestPayment claim.orderId) missing
  let locked ← orRaise (← lock (fun _ => [RowLock.payment latest.1]) fun d => d.payments.get? latest.1) missing
  let payment := identityMap latest (latest.1, locked)
  raiseIf (payment.2.status ∉ refundablePaymentStatuses)
    { kind := .afterSaleNotEligible
      message := "the payment for this order was never successfully settled"
      context := [("order_no", .str claim.orderNo), ("payment_status", .str payment.2.status.value)] }
  return payment

def lockedOrderItems (orderId : Nat) : Tx (List (Nat × OrderItem)) :=
  lock (fun d => (d.itemsFor orderId).map fun e => RowLock.orderItem e.1) (fun d => d.itemsFor orderId)

/-- `_claim_lines`. -/
def Db.claimLines (d : Db) (claimId : Nat) : List (Nat × Int) :=
  (d.claimItems claimId).map fun row => (row.2.orderItemId, row.2.quantity)

/-! ## Writes -/

/-- The row of a new refund. -/
def newRefund (principal : Principal) (claimId : Nat) (claim : AfterSale) (paymentId : Nat) (request : RefundRequest)
    (requestHash : String) (now : Time) (id : Nat) : Refund where
  merchantId := claim.merchantId
  refundNo := refundNoFor id now
  afterSaleId := claimId
  orderId := claim.orderId
  orderNo := claim.orderNo
  paymentId := some paymentId
  userId := claim.userId
  amount := request.amount
  status := .succeeded
  reason := request.reason
  operatorType := principal.movementOperator
  operatorId := some principal.userId
  idempotencyKey := request.idempotencyKey
  requestHash := requestHash
  completedAt := some now

/-- Insert a refund: its id, or `none` when the unique index refuses it. -/
def insertRefund (principal : Principal) (claimId : Nat) (claim : AfterSale) (paymentId : Nat) (request : RefundRequest)
    (requestHash : String) (now : Time) : Tx (Option Nat) := do
  let taken ← lock (fun _ => [RowLock.refundKey claim.merchantId request.idempotencyKey])
    (fun d => d.refundByKey claim.merchantId request.idempotencyKey)
  let id ← newId
  match taken with
  | some _ => return none
  | none =>
    update fun d => { d with
      refunds := d.refunds.set id (newRefund principal claimId claim paymentId request requestHash now id) }
    return some id

/-- `_refund_axis_status`: whether everything paid has come back. -/
def refundAxisStatus (paid refunded : Int) : AfterSaleStatus :=
  if 0 < paid ∧ paid ≤ refunded then .refunded else .partialRefunded

/-- The status of the payment axis with the same value. -/
def AfterSaleStatus.paymentAxis : AfterSaleStatus → PaymentStatus
  | .refunded => .refunded
  | _ => .partialRefunded

/-- `PaymentRepository.apply_refund`. -/
def Payment.refundedBy (held : Payment) (amount : Int) (row : Payment) : Payment :=
  let refunded := held.refundedAmount + amount
  { row with
    refundedAmount := refunded
    status :=
      if refunded = held.paidAmount then .refunded
      else if 0 < refunded then .partialRefunded
      else held.status }

/-- `AfterSaleRepository.apply_refund`. -/
def AfterSale.refundedBy (held : AfterSale) (amount : Int) (now : Time) (row : AfterSale) : AfterSale :=
  let refunded := held.refundedAmount + amount
  if 0 < held.approvedAmount ∧ held.approvedAmount ≤ refunded then
    { row with refundedAmount := refunded, claimStatus := .completed, completedAt := some now }
  else { row with refundedAmount := refunded }

/-- The order's money, and its payment axis. -/
def Order.refundedBy (held : Order) (amount : Int) (row : Order) : Order :=
  let refunded := held.refundedAmount + amount
  { row with
    refundedAmount := refunded
    paymentStatus := (refundAxisStatus held.paidAmount refunded).paymentAxis }

/-- The order's after-sale axis. -/
def Order.afterSaleAxis (held : Order) (amount : Int) (row : Order) : Order :=
  { row with afterSaleStatus := refundAxisStatus held.paidAmount (held.refundedAmount + amount) }

/-- `UPDATE order_items` of one row, under the CHECK constraints. -/
def writeOrderItem (id : Nat) (f : OrderItem → OrderItem) : Tx Unit := do
  let row ← query fun d => d.orderItems.get? id
  raiseIf (∃ i ∈ row, ¬ (f i).Checked) (checkViolation "order_items")
  update fun d => { d with orderItems := d.orderItems.modify id f }

/-- The share of a line goes on its counter. -/
def writeShare (orderItems : List (Nat × OrderItem)) (share : Nat × Int) : Tx Unit := do
  let item ← orRaise (rowOf orderItems share.1) { kind := .internal, message := "KeyError" }
  writeOrderItem share.1 fun row => { row with refundedAmount := item.refundedAmount + share.2 }

/-- The return of a claimed line. -/
def returnRequest (principal : Principal) (claimId : Nat) (claim : AfterSale) (line : Nat × Int) (item : OrderItem) :
    StockRequest where
  skuId := item.skuId
  quantity := line.2
  idempotencyKey := returnInMovementKey claim.afterSaleNo line.1
  warehouseId := some item.warehouseId
  referenceType := .afterSale
  referenceId := some claimId
  operatorType := principal.movementOperator
  operatorId := some principal.userId
  reason := some ("return received for " ++ claim.afterSaleNo)

/-- The returns of a refund: the claimed units of every line it placed money on. -/
def returnRequests (principal : Principal) (claimId : Nat) (claim : AfterSale) (orderItems : List (Nat × OrderItem))
    (lineItems : List (Nat × Int)) (split : RefundSplit) : List StockRequest :=
  (movementQuantityFor claim.type lineItems split).filterMap fun line =>
    (rowOf orderItems line.1).map (returnRequest principal claimId claim line)

/-- The event of a refund. -/
def refundEvent (claim : AfterSale) (order : Order) (request : RefundRequest) (refundId : Nat) (now : Time) :
    OutboxMessage where
  eventType := .refundSucceeded
  aggregateType := .refund
  aggregateId := refundId
  idempotencyKey := request.idempotencyKey
  payload :=
    let refunded := order.refundedAmount + request.amount
    let axis := refundAxisStatus order.paidAmount refunded
    refundSucceededPayload (refundNoFor refundId now) refundId claim.afterSaleNo claim.orderNo request.amount refunded
      order.paidAmount axis.paymentAxis.value axis.value (claim.refundedBy request.amount now claim).claimStatus.value
  merchantId := some order.merchantId

/-! ## The transaction -/

/-- The rows a refund is decided on. -/
structure RefundRows where
  claimId : Nat
  claim : AfterSale
  paymentId : Nat
  payment : Payment
  order : Order
  orderItems : List (Nat × OrderItem)
  lineItems : List (Nat × Int)

/-- Everything a new refund moves. -/
def applyRefund (principal : Principal) (request : RefundRequest) (rows : RefundRows) (split : RefundSplit)
    (refundId : Nat) (now : Time) : Tx Unit := do
  writePayment rows.paymentId (rows.payment.refundedBy request.amount)
  writeClaim rows.claimId (rows.claim.refundedBy request.amount now)
  writeOrder rows.claim.orderId (rows.order.refundedBy request.amount)
  forEach (writeShare rows.orderItems) split.shares
  raiseIf (split.total ≠ request.amount)
    { kind := .validation
      message := "the refund split does not partition the refund amount"
      context := [("amount", .int request.amount), ("placed", .int split.total)] }
  moveAll returnInOperation
    (returnRequests principal rows.claimId rows.claim rows.orderItems rows.lineItems split) now
  writeOrder rows.claim.orderId (rows.order.afterSaleAxis request.amount)
  enqueue (refundEvent rows.claim rows.order request refundId now)

/-- The locks of a refund, in their order. -/
def lockRows (request : RefundRequest) (merchantId : Nat) : Tx RefundRows := do
  let (claimId, claim) ← lockedClaim request.afterSaleNo (some merchantId) none
  raiseIf (claim.claimStatus ∉ executableClaimStatuses)
    (claimStateInvalid "only an approved claim can be refunded" claim.afterSaleNo claim.claimStatus)
  let (paymentId, payment) ← lockedPayment claim
  let order ← orRaise (← getOrderForUpdate claim.orderId)
    { kind := .afterSaleNotEligible, message := "the order for this claim is missing" }
  let orderItems ← lockedOrderItems claim.orderId
  let lineItems ← query fun d => d.claimLines claimId
  return { claimId, claim, paymentId, payment, order, orderItems, lineItems }

/-- A refund whose key was not used. -/
def refundFresh (principal : Principal) (request : RefundRequest) (merchantId : Nat) (requestHash : String) (now : Time) :
    Tx RefundOutcome := do
  let rows ← lockRows request merchantId
  let split ← ofExcept (validateCaps rows.claim rows.payment rows.orderItems rows.lineItems request.amount)
  match ← insertRefund principal rows.claimId rows.claim rows.paymentId request requestHash now with
  | none =>
    let winner ← orRaise (← query fun d => d.refundByKey merchantId request.idempotencyKey)
      { kind := .integrity, message := "Duplicate entry for key 'refunds'" }
    ofExcept (replayRefund request requestHash winner)
  | some refundId =>
    applyRefund principal request rows split refundId now
    let refund := newRefund principal rows.claimId rows.claim rows.paymentId request requestHash now refundId
    return { refundId, refund, replayed := false, split := some split }

/-- Execute a refund, or answer a retry with the refund its key made. -/
def executeRefund (env : Deployment) (principal : Principal) (request : RefundRequest) (now : Time) : Tx RefundOutcome := do
  ofExcept (principal.requirePermission "refund:execute")
  raiseIf (request.idempotencyKey = "")
    { kind := .validation, message := "an Idempotency-Key is required to execute a refund" }
  raiseIf (request.amount ≤ 0)
    { kind := .refundAmountInvalid
      message := "a refund amount must be positive"
      context := [("amount", .int request.amount)] }
  let merchantId ← ofExcept principal.merchantFilter
  let requestHash := requestHashForRefund env request
  match ← query fun d => d.refundByKey merchantId request.idempotencyKey with
  | some existing => ofExcept (replayRefund request requestHash existing)
  | none => transaction (refundFresh principal request merchantId requestHash now)

/-! ## What the locks find -/

theorem lockedPayment_eq_ok {claim : AfterSale} {e e' : Exec Db} {found : Nat × Payment} :
    (lockedPayment claim).run e = (.ok found, e') ↔
      ∃ locked, e.view.latestPayment claim.orderId = some found ∧ e.view.payments.get? found.1 = some locked ∧
        found.2.status ∈ refundablePaymentStatuses ∧ e = e' := by
  unfold lockedPayment
  simp only [run_bind_eq_ok, run_query, run_lock, run_orRaise_eq_ok, run_raiseIf_eq_ok, run_pure, Prod.mk.injEq,
    Except.ok.injEq, not_not]
  constructor
  · rintro ⟨_, _, ⟨rfl, rfl⟩, latest, _, ⟨hlatest, rfl⟩, _, _, ⟨rfl, rfl⟩, locked, _, ⟨hlocked, rfl⟩, _, _, ⟨hstatus, rfl⟩,
      rfl, rfl⟩
    have hheld : identityMap latest (latest.1, locked) = latest := if_pos rfl
    rw [hheld] at hstatus ⊢
    exact ⟨locked, hlatest, hlocked, hstatus, rfl⟩
  · rintro ⟨locked, hlatest, hlocked, hstatus, rfl⟩
    have hheld : identityMap found (found.1, locked) = found := if_pos rfl
    exact ⟨_, e, ⟨rfl, rfl⟩, found, e, ⟨hlatest, rfl⟩, _, e, ⟨rfl, rfl⟩, locked, e, ⟨hlocked, rfl⟩, (), e,
      ⟨by rw [hheld]; exact hstatus, rfl⟩, by rw [hheld], rfl⟩

/-- The rows of an order that a refund is decided on. -/
structure RefundLocks (request : RefundRequest) (d : Db) (rows : RefundRows) : Prop where
  claim : d.afterSales.get? rows.claimId = some rows.claim
  number : rows.claim.afterSaleNo = request.afterSaleNo
  approved : rows.claim.claimStatus = .approved
  latest : d.latestPayment rows.claim.orderId = some (rows.paymentId, rows.payment)
  settled : rows.payment.status ∈ refundablePaymentStatuses
  order : d.orders.get? rows.claim.orderId = some rows.order
  orderItems : rows.orderItems = d.itemsFor rows.claim.orderId
  lineItems : rows.lineItems = d.claimLines rows.claimId

theorem lockRows_eq_ok {request : RefundRequest} {merchantId : Nat} {e e' : Exec Db} {rows : RefundRows}
    (h : (lockRows request merchantId).run e = (.ok rows, e')) : e = e' ∧ RefundLocks request e.view rows := by
  unfold lockRows lockedOrderItems getOrderForUpdate at h
  simp only [run_bind_eq_ok, run_raiseIf_eq_ok, run_orRaise_eq_ok, run_lock, run_query, run_pure, Prod.mk.injEq,
    Except.ok.injEq, not_not] at h
  obtain ⟨⟨claimId, claim⟩, _, hclaim, _, _, ⟨happroved, rfl⟩, ⟨paymentId, payment⟩, _, hpayment, _, _, ⟨rfl, rfl⟩, order, _,
    ⟨horder, rfl⟩, _, _, ⟨rfl, rfl⟩, _, _, ⟨rfl, rfl⟩, rfl, rfl⟩ := h
  obtain ⟨rfl, hrow, hnumber⟩ := lockedClaim_row hclaim
  obtain ⟨locked, hlatest, -, hsettled, rfl⟩ := lockedPayment_eq_ok.mp hpayment
  exact ⟨rfl, hrow, hnumber, List.mem_singleton.mp happroved, hlatest, hsettled, horder, rfl, rfl⟩

theorem latestPayment_row {d : Db} {orderId id : Nat} {p : Payment} (h : d.latestPayment orderId = some (id, p)) :
    d.payments.get? id = some p ∧ p.orderId = orderId := by
  obtain ⟨hrow, hof⟩ := Dict.mem_select.mp (List.argmax_mem h)
  exact ⟨hrow, of_decide_eq_true hof⟩

/-- The latest attempt of an order is the one that no other attempt of it comes after. -/
theorem latestPayment_eq_some {d : Db} {orderId id : Nat} {p : Payment} :
    d.latestPayment orderId = some (id, p) ↔ d.payments.get? id = some p ∧ p.orderId = orderId ∧
      ∀ id' p', d.payments.get? id' = some p' → p'.orderId = orderId →
        toLex (p'.createdAt, id') ≤ toLex (p.createdAt, id) := by
  constructor
  · intro h
    obtain ⟨hrow, hof⟩ := latestPayment_row h
    refine ⟨hrow, hof, fun id' p' hrow' hof' => ?_⟩
    have hmem : (id', p') ∈ d.payments.select fun p => p.orderId = orderId :=
      Dict.mem_select.mpr ⟨hrow', decide_eq_true hof'⟩
    exact List.le_of_mem_argmax (f := fun e : Nat × Payment => toLex (e.2.createdAt, e.1)) hmem h
  · rintro ⟨hrow, hof, hlatest⟩
    have hmem : (id, p) ∈ d.payments.select fun p => p.orderId = orderId :=
      Dict.mem_select.mpr ⟨hrow, decide_eq_true hof⟩
    cases hfound : d.latestPayment orderId with
    | none =>
      have hempty := List.argmax_eq_none.mp hfound
      rw [hempty] at hmem
      cases hmem
    | some found =>
      obtain ⟨id', p'⟩ := found
      obtain ⟨hrow', hof'⟩ := latestPayment_row hfound
      have hle := List.le_of_mem_argmax (f := fun e : Nat × Payment => toLex (e.2.createdAt, e.1)) hmem hfound
      have hsame := toLex.injective (le_antisymm hle (hlatest id' p' hrow' hof'))
      rw [Prod.mk.injEq] at hsame
      obtain ⟨-, rfl⟩ := hsame
      rw [hrow] at hrow'
      cases hrow'
      rfl

/-- Rewriting an attempt does not make another the latest. -/
theorem latestPayment_modify {d d' : Db} {k orderId id : Nat} {f : Payment → Payment} {p' : Payment}
    (hd' : d'.payments = d.payments.modify k f)
    (hf : ∀ p, (f p).orderId = p.orderId ∧ (f p).createdAt = p.createdAt)
    (h : d'.latestPayment orderId = some (id, p')) :
    ∃ p, d.latestPayment orderId = some (id, p) ∧ p' = if id = k then f p else p := by
  have hrows : ∀ {i : Nat} {q : Payment}, d.payments.get? i = some q →
      d'.payments.get? i = some (if i = k then f q else q) := by
    intro i q hq
    rw [hd', Dict.get?_modify, hq]
    split_ifs <;> rfl
  have hkey : ∀ (i : Nat) (q : Payment), (if i = k then f q else q).orderId = q.orderId ∧
      (if i = k then f q else q).createdAt = q.createdAt := by
    intro i q
    split_ifs
    · exact hf q
    · exact ⟨rfl, rfl⟩
  obtain ⟨hrow, hof, hlatest⟩ := latestPayment_eq_some.mp h
  obtain ⟨p, hp⟩ : ∃ p, d.payments.get? id = some p := by
    cases hp : d.payments.get? id with
    | none =>
      rw [hd', Dict.get?_modify_none hp] at hrow
      cases hrow
    | some p => exact ⟨p, rfl⟩
  obtain rfl := Option.some.inj ((hrows hp).symm.trans hrow)
  refine ⟨p, latestPayment_eq_some.mpr ⟨hp, (hkey id p).1.symm.trans hof, fun id' q hq hqof => ?_⟩, rfl⟩
  have hle := hlatest id' _ (hrows hq) ((hkey id' q).1.trans hqof)
  rwa [(hkey id' q).2, (hkey id p).2] at hle

/-! ## What the writes do -/

theorem writeOrderItem_eq_ok {id : Nat} {f : OrderItem → OrderItem} {e e' : Exec Db} {u : Unit} :
    (writeOrderItem id f).run e = (.ok u, e') ↔
      (∀ i, e.view.orderItems.get? id = some i → (f i).Checked) ∧
        e' = { e with view := { e.view with orderItems := e.view.orderItems.modify id f } } := by
  unfold writeOrderItem
  rw [run_bind, run_query, andThen_ok, run_bind_eq_ok]
  simp only [run_raiseIf_eq_ok, run_update, Prod.mk.injEq, Option.mem_def, not_exists, not_and, not_not]
  constructor
  · rintro ⟨_, e₁, ⟨hc, rfl⟩, _, rfl⟩
    exact ⟨hc, rfl⟩
  · rintro ⟨hc, rfl⟩
    exact ⟨(), e, ⟨hc, rfl⟩, trivial, rfl⟩

/-- A line with its share. -/
def OrderItem.withShare (share : Int) (item : OrderItem) : OrderItem :=
  { item with refundedAmount := item.refundedAmount + share }

/-- Shares of distinct lines are added to their rows. -/
theorem writeShares_eq_ok {orderItems : List (Nat × OrderItem)} :
    ∀ {shares : List (Nat × Int)} {e e' : Exec Db} {u : Unit},
      (forEach (writeShare orderItems) shares).run e = (.ok u, e') → (shares.map Prod.fst).Nodup →
      (∀ id item, id ∈ shares.map Prod.fst → rowOf orderItems id = some item → e.view.orderItems.get? id = some item) →
      (∀ share ∈ shares, ∀ item, e.view.orderItems.get? share.1 = some item → (item.withShare share.2).Checked) ∧
        e' = { e with view := { e.view with
          orderItems := e.view.orderItems.adjust fun id => OrderItem.withShare ((rowOf shares id).getD 0) } } := by
  intro shares
  induction shares with
  | nil =>
    intro e e' u h _ _
    cases h
    have hself : e.view.orderItems.adjust (fun id => OrderItem.withShare ((rowOf [] id).getD 0)) = e.view.orderItems := by
      refine Dict.adjust_self fun entry _ => ?_
      show { entry.2 with refundedAmount := entry.2.refundedAmount + 0 } = entry.2
      rw [add_zero]
    rw [hself]
    exact ⟨fun _ h => (nomatch h), rfl⟩
  | cons share shares ih =>
    intro e e' u h hids hheld
    rw [List.map_cons, List.nodup_cons] at hids
    rw [run_forEach_cons, andThen_eq_ok] at h
    obtain ⟨_, e₁, hshare, h⟩ := h
    unfold writeShare at hshare
    rw [run_bind_eq_ok] at hshare
    obtain ⟨item, e₂, hitem, hshare⟩ := hshare
    rw [run_orRaise_eq_ok] at hitem
    obtain ⟨hitem, rfl⟩ := hitem
    obtain ⟨hchecked, rfl⟩ := writeOrderItem_eq_ok.mp hshare
    have hrow : e.view.orderItems.get? share.1 = some item := hheld share.1 item List.mem_cons_self hitem
    have hother : ∀ {id : Nat}, id ∈ shares.map Prod.fst → id ≠ share.1 := fun hid heq => hids.1 (heq ▸ hid)
    obtain ⟨hrest, rfl⟩ := ih h hids.2 fun id other hid hother' => by
      show (e.view.orderItems.modify share.1 _).get? id = some other
      rw [Dict.get?_modify_ne (hother hid)]
      exact hheld id other (List.mem_cons_of_mem _ hid) hother'
    constructor
    · intro s hs other hother'
      rcases List.mem_cons.mp hs with rfl | hs
      · rw [hrow] at hother'
        cases hother'
        exact hchecked item hrow
      · refine hrest s hs other ?_
        show (e.view.orderItems.modify share.1 _).get? s.1 = some other
        rw [Dict.get?_modify_ne (hother (List.mem_map_of_mem hs))]
        exact hother'
    · have htable : (e.view.orderItems.modify share.1 fun row =>
            { row with refundedAmount := item.refundedAmount + share.2 }).adjust
              (fun id => OrderItem.withShare ((rowOf shares id).getD 0)) =
          e.view.orderItems.adjust fun id => OrderItem.withShare ((rowOf (share :: shares) id).getD 0) := by
        rw [Dict.adjust_modify]
        refine Dict.adjust_congr fun id row hget => ?_
        by_cases hid : id = share.1
        · subst hid
          rw [hrow] at hget
          cases hget
          have hnone : rowOf shares share.1 = none := by
            cases hr : rowOf shares share.1 with
            | none => rfl
            | some w => exact absurd (List.mem_map_of_mem (mem_of_rowOf hr)) hids.1
          have hnodup : ((share :: shares).map Prod.fst).Nodup := List.nodup_cons.mpr hids
          have hsome : rowOf (share :: shares) share.1 = some share.2 := rowOf_of_mem hnodup List.mem_cons_self
          rw [if_pos rfl, hnone, hsome]
          show { item with refundedAmount := item.refundedAmount + share.2 + 0 } = _
          rw [add_zero]
          rfl
        · have hskip : rowOf (share :: shares) id = rowOf shares id := by
            unfold rowOf
            rw [List.find?_cons_of_neg]
            simpa using Ne.symm hid
          rw [if_neg hid, hskip]
      exact congrArg (fun items => ({ e with view := { e.view with orderItems := items } } : Exec Db)) htable

/-! ## What a new refund does -/

theorem insertRefund_eq_ok {principal : Principal} {claimId paymentId : Nat} {claim : AfterSale} {request : RefundRequest}
    {requestHash : String} {now : Time} {e e' : Exec Db} {result : Option Nat}
    (h : (insertRefund principal claimId claim paymentId request requestHash now).run e = (.ok result, e')) :
    (result = none ∧ e.view.refundByKey claim.merchantId request.idempotencyKey ≠ none ∧ e'.view = e.view) ∨
      (result = some e.next ∧ e.view.refundByKey claim.merchantId request.idempotencyKey = none ∧
        e' = { e with
          view := { e.view with
            refunds := e.view.refunds.set e.next
              (newRefund principal claimId claim paymentId request requestHash now e.next) }
          next := e.next + 1 }) := by
  unfold insertRefund at h
  rw [run_bind, run_lock, andThen_ok, run_bind, run_newId, andThen_ok] at h
  cases htaken : e.view.refundByKey claim.merchantId request.idempotencyKey with
  | some taken =>
    simp only [htaken] at h
    cases h
    exact .inl ⟨rfl, by simp, rfl⟩
  | none =>
    simp only [htaken] at h
    cases h
    exact .inr ⟨rfl, rfl, rfl⟩

/-- The money and the lines after a new refund. -/
def Db.posted (d : Db) (principal : Principal) (request : RefundRequest) (rows : RefundRows) (split : RefundSplit)
    (requestHash : String) (refundId : Nat) (now : Time) : Db :=
  { d with
    refunds := d.refunds.set refundId
      (newRefund principal rows.claimId rows.claim rows.paymentId request requestHash now refundId)
    payments := d.payments.modify rows.paymentId (rows.payment.refundedBy request.amount)
    afterSales := d.afterSales.modify rows.claimId (rows.claim.refundedBy request.amount now)
    orders := d.orders.modify rows.claim.orderId fun row =>
      rows.order.afterSaleAxis request.amount (rows.order.refundedBy request.amount row)
    orderItems := d.orderItems.adjust fun id => OrderItem.withShare (split.placed id) }

/-- What a new refund was decided on, and what it left. -/
structure RefundPosted (principal : Principal) (request : RefundRequest) (requestHash : String) (now : Time)
    (refundId : Nat) (rows : RefundRows) (split : RefundSplit) (d d' : Db) : Prop where
  locks : RefundLocks request d rows
  caps : validateCaps rows.claim rows.payment rows.orderItems rows.lineItems request.amount = .ok split
  unused : d.refundByKey rows.claim.merchantId request.idempotencyKey = none
  paymentChecked : (rows.payment.refundedBy request.amount rows.payment).Checked
  claimChecked : (rows.claim.refundedBy request.amount now rows.claim).Checked
  orderChecked : (rows.order.refundedBy request.amount rows.order).Checked
  itemsChecked : ∀ share ∈ split.shares, ∀ item, d.orderItems.get? share.1 = some item → (item.withShare share.2).Checked
  effects : ∃ movements inventories outbox,
    Moves returnInOperation now
        (returnRequests principal rows.claimId rows.claim rows.orderItems rows.lineItems split) d
        { d with movements := movements, inventories := inventories } ∧
      (∀ m ∈ outbox, m = refundEvent rows.claim rows.order request refundId now) ∧
      d' = { d.posted principal request rows split requestHash refundId now with
        movements := movements
        inventories := inventories
        outbox := d.outbox ++ outbox }

/-- No claim names a line twice. -/
def Db.ClaimLinesDistinct (d : Db) : Prop := ∀ claimId, ((d.claimLines claimId).map Prod.fst).Nodup

theorem map_fst_lineFigures (orderItems : List (Nat × OrderItem)) (lineItems : List (Nat × Int)) (f : OrderItem → Int) :
    (lineFigures orderItems lineItems f).map Prod.fst = lineItems.map Prod.fst := by
  unfold lineFigures
  rw [List.map_map]
  rfl

theorem rowOf_itemsFor {d : Db} {orderId id : Nat} {item : OrderItem} (h : rowOf (d.itemsFor orderId) id = some item) :
    d.orderItems.get? id = some item ∧ item.orderId = orderId := by
  obtain ⟨hrow, hof⟩ := Dict.mem_select.mp (mem_of_rowOf h)
  exact ⟨hrow, of_decide_eq_true hof⟩

theorem Moves.onStock {op : StockOperation} {now : Time} {requests : List StockRequest} {d d' c : Db}
    (h : Moves op now requests d d') (hm : c.movements = d.movements) (hi : c.inventories = d.inventories)
    (hw : c.warehouses = d.warehouses) :
    ∃ movements inventories, d' = { d with movements := movements, inventories := inventories } ∧
      Moves op now requests c { c with movements := movements, inventories := inventories } := by
  obtain ⟨movements, inventories, rfl, -⟩ := h.frame
  exact ⟨d.movements ++ movements, inventories, rfl, h.transfer hm hi hw⟩

theorem applyRefund_posted {principal : Principal} {request : RefundRequest} {rows : RefundRows} {split : RefundSplit}
    {requestHash : String} {refundId : Nat} {now : Time} {d : Db} {e e' : Exec Db} {u : Unit}
    (h : (applyRefund principal request rows split refundId now).run e = (.ok u, e')) (hlocks : RefundLocks request d rows)
    (hcaps : validateCaps rows.claim rows.payment rows.orderItems rows.lineItems request.amount = .ok split)
    (hunused : d.refundByKey rows.claim.merchantId request.idempotencyKey = none) (hlines : d.ClaimLinesDistinct)
    (hview : e.view = { d with
      refunds := d.refunds.set refundId
        (newRefund principal rows.claimId rows.claim rows.paymentId request requestHash now refundId) }) :
    ∃ d', e' = { e with view := d' } ∧ RefundPosted principal request requestHash now refundId rows split d d' := by
  obtain ⟨committed, view, next⟩ := e
  subst hview
  unfold applyRefund at h
  simp only [run_bind_eq_ok, writePayment_eq_ok, writeClaim_eq_ok, writeOrder_eq_ok, run_raiseIf_eq_ok] at h
  obtain ⟨_, _, ⟨hpayment, rfl⟩, _, _, ⟨hclaim, rfl⟩, _, _, ⟨horder, rfl⟩, _, e₁, hshares, _, _, ⟨-, rfl⟩, _, e₂, hmoves, _, _,
    ⟨-, rfl⟩, henqueue⟩ := h
  obtain ⟨-, hplaces⟩ := validateCaps_eq_ok hcaps
  have hids : (split.shares.map Prod.fst).Nodup := by
    rw [hplaces.ids.nodup_iff, map_fst_lineFigures, hlocks.lineItems]
    exact hlines rows.claimId
  have hheld : ∀ id item, id ∈ split.shares.map Prod.fst → rowOf rows.orderItems id = some item →
      d.orderItems.get? id = some item := by
    intro id item _ hitem
    rw [hlocks.orderItems] at hitem
    exact (rowOf_itemsFor hitem).1
  obtain ⟨hitems, hshared⟩ := writeShares_eq_ok hshares hids hheld
  obtain ⟨d₁, rfl, hmoved⟩ := moveAll_moves hmoves
  have hstock : d.movements = e₁.view.movements ∧ d.inventories = e₁.view.inventories ∧
      d.warehouses = e₁.view.warehouses := by
    rw [hshared]
    exact ⟨rfl, rfl, rfl⟩
  obtain ⟨movements, inventories, hd₁, hreturned⟩ := hmoved.onStock hstock.1 hstock.2.1 hstock.2.2
  obtain ⟨d₂, rfl, hqueued⟩ := enqueue_enqueued henqueue
  obtain ⟨outbox, hd₂, hevent⟩ := hqueued.frame
  rw [hd₁, hshared] at hd₂
  refine ⟨d₂, by rw [hshared], hlocks, hcaps, hunused, hpayment _ (latestPayment_row hlocks.latest).1,
    hclaim _ hlocks.claim, horder _ hlocks.order, hitems, movements, inventories, outbox, hreturned, hevent, ?_⟩
  rw [hd₂]
  unfold Db.posted
  dsimp only
  rw [Dict.modify_modify]
  rfl

/-- A new refund was posted. -/
theorem refundFresh_posted {principal : Principal} {request : RefundRequest} {merchantId : Nat} {requestHash : String}
    {now : Time} {e e' : Exec Db} {outcome : RefundOutcome}
    (h : (refundFresh principal request merchantId requestHash now).run e = (.ok outcome, e'))
    (hunused : e.view.refundByKey merchantId request.idempotencyKey = none) (hlines : e.view.ClaimLinesDistinct) :
    ∃ rows split d', RefundPosted principal request requestHash now e.next rows split e.view d' ∧
      e' = { e with view := d', next := e.next + 1 } ∧
      outcome = {
        refundId := e.next
        refund := newRefund principal rows.claimId rows.claim rows.paymentId request requestHash now e.next
        replayed := false
        split := some split } := by
  unfold refundFresh at h
  simp only [run_bind_eq_ok, run_ofExcept_eq_ok] at h
  obtain ⟨rows, e₁, hlocks, split, _, ⟨hcaps, rfl⟩, taken, e₂, hinsert, h⟩ := h
  obtain ⟨rfl, hfound⟩ := lockRows_eq_ok hlocks
  rcases insertRefund_eq_ok hinsert with ⟨rfl, -, hview⟩ | ⟨rfl, hfree, rfl⟩
  · simp only [run_bind_eq_ok, run_query, Prod.mk.injEq, Except.ok.injEq, run_orRaise_eq_ok] at h
    obtain ⟨_, _, ⟨rfl, rfl⟩, winner, _, ⟨hwinner, -⟩, -⟩ := h
    rw [hview, hunused] at hwinner
    cases hwinner
  · simp only [run_bind_eq_ok] at h
    obtain ⟨_, e₃, happly, h⟩ := h
    obtain ⟨d', rfl, hposted⟩ := applyRefund_posted happly hfound hcaps hfree hlines rfl
    cases h
    exact ⟨rows, split, d', hposted, rfl, rfl⟩

/-- Returns are asked for the claimed lines that got money, on a return. -/
theorem mem_returnRequests {principal : Principal} {claimId : Nat} {claim : AfterSale}
    {orderItems : List (Nat × OrderItem)} {lineItems : List (Nat × Int)} {split : RefundSplit} {request : StockRequest} :
    request ∈ returnRequests principal claimId claim orderItems lineItems split ↔
      claim.type = .returnRefund ∧ ∃ line item, line ∈ lineItems ∧ 0 < split.placed line.1 ∧ 0 < line.2 ∧
        rowOf orderItems line.1 = some item ∧ request = returnRequest principal claimId claim line item := by
  unfold returnRequests movementQuantityFor
  split_ifs with htype
  · simp only [List.mem_filterMap, List.mem_filter, List.mem_insertionSort, decide_eq_true_eq, Option.map_eq_some_iff, htype,
      true_and]
    constructor
    · rintro ⟨line, ⟨hline, hplaced, hpos⟩, item, hitem, rfl⟩
      exact ⟨line, item, hline, hplaced, hpos, hitem, rfl⟩
    · rintro ⟨line, item, hline, hplaced, hpos, hitem, rfl⟩
      exact ⟨line, ⟨hline, hplaced, hpos⟩, item, hitem, rfl⟩
  · simp [htype]

/-! ## What commits -/

section

variable (principal : Principal) (request : RefundRequest) (now : Time)

@[grind .] theorem noCommit_lockedPayment (claim : AfterSale) : (lockedPayment claim).NoCommit := by
  unfold lockedPayment
  grind

@[grind .] theorem noCommit_lockRows (merchantId : Nat) : (lockRows request merchantId).NoCommit := by
  unfold lockRows lockedOrderItems
  grind

@[grind .] theorem noCommit_insertRefund (claimId : Nat) (claim : AfterSale) (paymentId : Nat) (requestHash : String) :
    (insertRefund principal claimId claim paymentId request requestHash now).NoCommit := by
  unfold insertRefund
  grind

@[grind .] theorem noCommit_writeShare (orderItems : List (Nat × OrderItem)) (share : Nat × Int) :
    (writeShare orderItems share).NoCommit := by
  have hwrite : ∀ id f, (writeOrderItem id f).NoCommit := by
    intro id f
    unfold writeOrderItem
    grind
  unfold writeShare
  grind

@[grind .] theorem noCommit_applyRefund (rows : RefundRows) (split : RefundSplit) (refundId : Nat) :
    (applyRefund principal request rows split refundId now).NoCommit := by
  unfold applyRefund
  grind

theorem noCommit_refundFresh (merchantId : Nat) (requestHash : String) :
    (refundFresh principal request merchantId requestHash now).NoCommit := by
  unfold refundFresh
  refine .bind (noCommit_lockRows _ _) fun rows => .bind (noCommit_ofExcept _) fun split => ?_
  refine .bind (noCommit_insertRefund _ _ _ _ _ _ _) fun taken => ?_
  match taken with
  | none => exact .bind (noCommit_query _) fun _ => .bind (noCommit_orRaise _ _) fun _ => noCommit_ofExcept _
  | some refundId => exact .bind (noCommit_applyRefund _ _ _ _ _ _) fun _ => trivial

end

end NovaCommerce
