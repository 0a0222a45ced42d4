import NovaCommerce.Order.Creation

/-!
# Claims

A customer files a claim against lines of a paid order and may withdraw it; the merchant approves or rejects it. No
money moves here.

* `eligibility` : the caps of a claim, from the rows of its order and the units on live claims;
* `applyAfterSale`, `cancelAfterSale`, `approveAfterSale`, `rejectAfterSale` : the four operations;
* `ClaimFiled`, `Answer` : what they did (`applyFresh_filed`, `cancelLockedClaim_answer`, ...).
-/

namespace NovaCommerce

open Sql

/-! ## Requests -/

/-- `MAX_CLAIM_LINES`. -/
def maxClaimLines : Nat := 100

/-- One line of a claim: which order line, how many units. -/
structure ApplyAfterSaleItem where
  orderItemId : Nat
  quantity : Int

/-- An application, as the schema admits it. -/
structure ApplyAfterSaleRequest where
  orderNo : String
  type : AfterSaleType
  items : List ApplyAfterSaleItem
  requestedAmount : Int
  reason : String
  description : Option String := none
  clientRequestId : String
  lines : 0 < items.length ∧ items.length ≤ maxClaimLines := by decide
  quantities : ∀ line ∈ items, 0 < line.quantity ∧ line.quantity ≤ 1000000 := by decide
  amount : 0 < requestedAmount := by decide
  reasonGiven : reason ≠ "" := by decide
  requestGiven : clientRequestId ≠ "" := by decide

/-- `_no_duplicate_lines`: two entries for one line are merged, at the place of the first. -/
def mergeClaimLines (items : List ApplyAfterSaleItem) : Dict Nat Int :=
  items.foldl (fun merged line =>
    merged.set line.orderItemId ((merged.get? line.orderItemId).getD 0 + line.quantity)) Dict.empty

/-- The merged lines in the order of their ids. -/
def ApplyAfterSaleRequest.claimLines (request : ApplyAfterSaleRequest) : List (Nat × Int) :=
  (mergeClaimLines request.items).entries.insertionSort fun a b => a.1 ≤ b.1

structure CancelAfterSaleRequest where
  reason : Option String := none

structure ApproveAfterSaleRequest where
  approvedAmount : Int
  positive : 0 < approvedAmount := by decide

structure RejectAfterSaleRequest where
  rejectReason : String
  given : rejectReason ≠ "" := by decide

/-! ## Numbers and hashes -/

/-- `AFTER_SALE_APPLY_SCOPE`. -/
def afterSaleApplyScope : String := "after-sale:apply"

/-- `after_sale_no_for`. -/
def afterSaleNoFor (claimId : Nat) (createdAt : Time) : String := businessNo "NVAS" createdAt claimId

/-- The text that is hashed for a claim. -/
def claimText (orderNo : String) (type : AfterSaleType) (requestedAmount : Int) (items : List (Nat × Int)) : String :=
  "|".intercalate [
    "order_no=" ++ orderNo,
    "type=" ++ type.value,
    "amount=" ++ toString requestedAmount,
    "items=" ++ ";".intercalate (items.map fun line => toString line.1 ++ ":" ++ toString line.2)]

/-- `request_hash_for_claim`, of lines in the order of their ids. -/
def requestHashForClaim (env : Deployment) (orderNo : String) (type : AfterSaleType) (requestedAmount : Int)
    (items : List (Nat × Int)) : String :=
  env.sha256Hex (claimText orderNo type requestedAmount items)

/-- `datetime.isoformat()` in UTC. -/
def isoformat (t : Time) : String :=
  let (year, month, day) := civil (t / 86400000)
  let seconds := t % 86400000 / 1000
  pad 4 year ++ "-" ++ pad 2 month ++ "-" ++ pad 2 day ++ "T" ++ pad 2 (seconds / 3600) ++ ":" ++
    pad 2 (seconds % 3600 / 60) ++ ":" ++ pad 2 (seconds % 60) ++
    (if t % 1000 = 0 then "" else "." ++ pad 3 (t % 1000) ++ "000") ++ "+00:00"

/-! ## Claim rows -/

/-- `LIVE_CLAIM_STATUSES`. -/
def liveClaimStatuses : List AfterSaleClaimStatus := [.pending, .approved, .completed]

/-- The CHECK constraints of `after_sales`. -/
def AfterSale.Checked (c : AfterSale) : Prop :=
  0 ≤ c.requestedAmount ∧ 0 ≤ c.approvedAmount ∧ 0 ≤ c.refundedAmount ∧
    (c.claimStatus = .rejected → c.rejectReason ≠ none) ∧ (c.completedAt ≠ none → c.processedAt ≠ none)

instance AfterSale.decidableChecked (c : AfterSale) : Decidable c.Checked := by
  unfold AfterSale.Checked
  infer_instance

/-- `UPDATE after_sales` of one row, under the CHECK constraints. -/
def writeClaim (id : Nat) (f : AfterSale → AfterSale) : Tx Unit := do
  let row ← query fun d => d.afterSales.get? id
  raiseIf (∃ c ∈ row, ¬ (f c).Checked) (checkViolation "after_sales")
  update fun d => { d with afterSales := d.afterSales.modify id f }

/-- The claim with a number, of a merchant or a user when one is given. -/
def Db.claimByNo (d : Db) (afterSaleNo : String) (merchantId userId : Option Nat) : Option (Nat × AfterSale) :=
  d.afterSales.find? fun c =>
    decide (c.afterSaleNo = afterSaleNo ∧ (∀ m ∈ merchantId, c.merchantId = m) ∧ ∀ u ∈ userId, c.userId = u)

/-- `list_for_order`, of the claims whose units are spoken for. -/
def Db.liveClaims (d : Db) (orderId : Nat) : List (Nat × AfterSale) :=
  d.afterSales.select fun c => decide (c.orderId = orderId ∧ c.claimStatus ∈ liveClaimStatuses)

/-- The lines of a claim, in the order of the order lines. -/
def Db.claimItems (d : Db) (claimId : Nat) : List (Nat × AfterSaleItem) :=
  (d.afterSaleItems.select fun row => row.afterSaleId = claimId).insertionSort
    fun a b => a.2.orderItemId ≤ b.2.orderItemId

/-- `_live_claimed_quantity`: the units of a line on the live claims of an order. -/
def Db.liveClaimedQuantity (d : Db) (orderId lineId : Nat) : Int :=
  ((d.liveClaims orderId).map fun claim =>
    (((d.claimItems claim.1).filter fun row => row.2.orderItemId = lineId).map fun row => row.2.quantity).sum).sum

/-! ## Eligibility -/

/-- `_DEAD_ORDER_STATUSES`. -/
def deadOrderStatuses : List OrderStatus := [.cancelled, .closed]

/-- `CLAIMABLE_PAYMENT_STATUSES`. -/
def claimablePaymentStatuses : List PaymentStatus := [.paid, .partialRefunded, .refunded]

/-- The units of a line that can still be claimed. -/
def OrderItem.remainingUnits (item : OrderItem) (claimed : Int) : Int := max (item.quantity - claimed) 0

/-- The money of a line that its remaining units carry, rounded down. -/
def OrderItem.claimCap (item : OrderItem) (claimed : Int) : Int :=
  let remainingAmount := max (item.payableAmount - item.refundedAmount) 0
  if 0 < item.remainingUnits claimed ∧ 0 < item.quantity then
    remainingAmount * item.remainingUnits claimed / item.quantity
  else 0

/-- The verdict on one proposed claim, with the figures that produced it, by order line. -/
structure ClaimEligibility where
  amountCap : Int
  claimableQuantity : List (Nat × Int)
  linePayables : List (Nat × Int)
  lineRefunded : List (Nat × Int)

def ClaimEligibility.hasCapacity (e : ClaimEligibility) : Bool :=
  decide (0 < e.amountCap) && e.claimableQuantity.any fun line => decide (0 < line.2)

/-- The caps of a claim on the lines it names. -/
def eligibility (order : Order) (items : List (Nat × OrderItem)) (claimed : Nat → Int) (requested : List (Nat × Int)) :
    Except AppError ClaimEligibility := do
  Raise.raiseIf (order.orderStatus ∈ deadOrderStatuses)
    { kind := .afterSaleNotEligible
      message := "a cancelled or closed order cannot be claimed against"
      context := [("order_no", .str order.orderNo), ("order_status", .str order.orderStatus.value)] }
  Raise.raiseIf (order.paymentStatus ∉ claimablePaymentStatuses)
    { kind := .afterSaleNotEligible
      message := "only a paid order can be claimed against"
      context := [("order_no", .str order.orderNo), ("payment_status", .str order.paymentStatus.value)] }
  Raise.forEach (fun line => Raise.raiseIf (line.1 ∉ items.map Prod.fst)
    { kind := .afterSaleNotEligible
      message := "the claim names a line that is not on this order"
      context := [("order_no", .str order.orderNo), ("order_item_id", .int line.1)] }) requested
  let caps := items.map fun e => (e.1, e.2.claimCap (claimed e.1))
  let named := requested.map Prod.fst
  let claimedCap := (named.dedup.map fun id => (rowOf caps id).getD 0).sum
  let verdict : ClaimEligibility := {
    amountCap := claimedCap
    claimableQuantity := items.map fun e => (e.1, e.2.remainingUnits (claimed e.1))
    linePayables := items.map fun e => (e.1, e.2.payableAmount)
    lineRefunded := items.map fun e => (e.1, e.2.refundedAmount) }
  Raise.raiseIf (verdict.hasCapacity = false)
    { kind := .afterSaleNotEligible
      message := "there is nothing left to claim on the lines this claim names"
      context := [("order_no", .str order.orderNo), ("order_amount_cap", .int (caps.map Prod.snd).sum),
        ("claimed_amount_cap", .int claimedCap),
        ("order_item_ids", .ints ((named.dedup.insertionSort (· ≤ ·)).map Int.ofNat))] }
  return verdict

/-- What was asked for, against the verdict. -/
def checkClaim (requestedAmount : Int) (lines : List (Nat × Int)) (verdict : ClaimEligibility) : Except AppError Unit := do
  Raise.forEach (fun line =>
    let available := (rowOf verdict.claimableQuantity line.1).getD 0
    Raise.raiseIf (available < line.2)
      { kind := .afterSaleNotEligible
        message := "the claim asks for more units than the line can still be claimed for"
        context := [("order_item_id", .int line.1), ("requested", .int line.2), ("claimable", .int available)] }) lines
  Raise.raiseIf (verdict.amountCap < requestedAmount)
    { kind := .afterSaleNotEligible
      message := "the requested amount is above what the order can still be refunded for"
      context := [("requested_amount", .int requestedAmount), ("amount_cap", .int verdict.amountCap)] }

/-! ## Apply -/

/-- The row of a new claim. -/
def newClaim (request : ApplyAfterSaleRequest) (key requestHash : String) (orderId : Nat) (order : Order) (now : Time)
    (id : Nat) : AfterSale where
  merchantId := order.merchantId
  afterSaleNo := afterSaleNoFor id now
  orderId := orderId
  orderNo := order.orderNo
  userId := order.userId
  type := request.type
  requestedAmount := request.requestedAmount
  reason := request.reason
  description := request.description
  idempotencyKey := key
  clientRequestId := request.clientRequestId
  requestHash := requestHash

/-- A claim uses the key of a merchant, or the request id of a user. -/
def Db.claimKeysTaken (d : Db) (merchantId userId : Nat) (key clientRequestId : String) : Bool :=
  (d.afterSales.find? fun c => decide ((c.merchantId = merchantId ∧ c.idempotencyKey = key) ∨
    (c.userId = userId ∧ c.clientRequestId = clientRequestId))).isSome

/-- Insert a claim under its two unique keys. -/
def insertClaim (request : ApplyAfterSaleRequest) (key requestHash : String) (orderId : Nat) (order : Order)
    (now : Time) : Tx Nat := do
  let taken ← lock (fun _ => [RowLock.afterSaleKey order.merchantId key,
      RowLock.afterSaleRequest order.userId request.clientRequestId])
    (fun d => d.claimKeysTaken order.merchantId order.userId key request.clientRequestId)
  let id ← newId
  raiseIf (taken = true) { kind := .integrity, message := "Duplicate entry for key 'after_sales'" }
  update fun d => { d with afterSales := d.afterSales.set id (newClaim request key requestHash orderId order now id) }
  return id

/-- The row of one claimed line. -/
def claimItem (claimId : Nat) (items : List (Nat × OrderItem)) (line : Nat × Int) : Option AfterSaleItem :=
  (rowOf items line.1).map fun source => {
    afterSaleId := claimId
    orderItemId := line.1
    productName := source.productName
    skuName := source.skuName
    quantity := line.2 }

/-- Insert the lines of a claim. -/
def addClaimItems (claimId : Nat) (items : List (Nat × OrderItem)) : List (Nat × Int) → Tx Unit
  | [] => return ()
  | line :: lines => do
    let row ← orRaise (claimItem claimId items line) { kind := .internal, message := "KeyError" }
    let id ← newId
    update fun d => { d with afterSaleItems := d.afterSaleItems.set id row }
    addClaimItems claimId items lines

/-- The columns of a completed application. -/
def IdempotencyRecord.filedBy (record : IdempotencyRecord) (claimId : Nat) (claim : AfterSale) (now : Time) :
    IdempotencyRecord :=
  { record with
    status := .completed
    resourceType := some "after_sale"
    resourceId := some claimId
    responseSnapshot := some [("after_sale_no", .str claim.afterSaleNo), ("order_no", .str claim.orderNo),
      ("requested_amount", .int claim.requestedAmount), ("created_at", .str (isoformat now))] }

/-- Write an accepted claim. -/
def fileClaim (request : ApplyAfterSaleRequest) (key requestHash : String) (orderId : Nat) (order : Order)
    (items : List (Nat × OrderItem)) (recordId : Nat) (now : Time) : Tx (Nat × AfterSale) := do
  let claimId ← insertClaim request key requestHash orderId order now
  let claim := newClaim request key requestHash orderId order now claimId
  addClaimItems claimId items request.claimLines
  update fun d => { d with
    idempotency := d.idempotency.modify recordId fun record => record.filedBy claimId claim now }
  return (claimId, claim)

/-- An application whose key was not used. -/
def applyFresh (principal : Principal) (request : ApplyAfterSaleRequest) (key requestHash : String) (now : Time) :
    Tx (Nat × AfterSale) := do
  match ← getByOrderNoForUpdate request.orderNo (some principal.userId) with
  | none => raise { kind := .orderNotFound, message := "order not found" }
  | some (orderId, order) =>
    let items ← itemsFor orderId
    let claimed ← query fun d => d.liveClaimedQuantity orderId
    let verdict ← ofExcept (eligibility order items claimed request.claimLines)
    ofExcept (checkClaim request.requestedAmount request.claimLines verdict)
    match ← insertInProgress afterSaleApplyScope key requestHash "after_sale" with
    | none =>
      raise { kind := .idempotencyInProgress
              message := "an identical claim is already being filed"
              context := [("idempotency_key", .str key)] }
    | some recordId => fileClaim request key requestHash orderId order items recordId now

/-- `_replayed_claim`: the claim the first attempt filed. -/
def replayedClaim (record : IdempotencyRecord) (requestHash : String) : Tx (Nat × AfterSale) := do
  raiseIf (record.requestHash ≠ requestHash)
    { kind := .idempotencyPayloadMismatch, message := "this key was already used with different claim details" }
  raiseIf (record.status ≠ .completed)
    { kind := .idempotencyInProgress, message := "an identical claim is already being filed" }
  let gone : AppError := { kind := .afterSaleNotFound, message := "the claim for this key no longer exists" }
  let id ← orRaise record.resourceId gone
  let claim ← orRaise (← query fun d => d.afterSales.get? id) gone
  return (id, claim)

/-- File a claim, or answer a retry with the claim it filed. -/
def applyAfterSale (env : Deployment) (principal : Principal) (request : ApplyAfterSaleRequest) (key : String) (now : Time) :
    Tx (Nat × AfterSale) := do
  raiseIf (key = "") { kind := .idempotencyKeyRequired, message := "Idempotency-Key header is required" }
  let requestHash := requestHashForClaim env request.orderNo request.type request.requestedAmount request.claimLines
  match ← query fun d => d.idempotencyAt afterSaleApplyScope key with
  | some (_, record) => replayedClaim record requestHash
  | none => transaction (applyFresh principal request key requestHash now)

/-! ## Cancel, approve, reject -/

/-- `require_permission`. -/
def Principal.requirePermission (p : Principal) (permission : String) : Except AppError Unit :=
  Raise.raiseIf (permission ∉ p.permissions)
    { kind := .permissionDenied, message := "missing required permission: " ++ permission }

/-- `_merchant_filter`. -/
def Principal.merchantFilter (p : Principal) : Except AppError Nat :=
  Raise.orRaise p.merchantId
    { kind := .validation, message := "this staff account is not attached to a merchant" }

/-- `_locked_claim`: the scoped read, then the lock. -/
def lockedClaim (afterSaleNo : String) (merchantId userId : Option Nat) : Tx (Nat × AfterSale) := do
  let missing : AppError := { kind := .afterSaleNotFound, message := "after-sale claim not found" }
  let visible ← orRaise (← query fun d => d.claimByNo afterSaleNo merchantId userId) missing
  let locked ← orRaise (← lock
    (fun d => ((d.claimByNo afterSaleNo none none).map fun e => RowLock.afterSale e.1).toList)
    (fun d => d.claimByNo afterSaleNo none none)) missing
  return identityMap visible locked

def claimStateInvalid (message afterSaleNo : String) (status : AfterSaleClaimStatus) : AppError where
  kind := .afterSaleStateInvalid
  message := message
  context := [("after_sale_no", .str afterSaleNo), ("claim_status", .str status.value)]

/-- The columns of a withdrawn claim. -/
def AfterSale.cancelledBy (reason : Option String) (row : AfterSale) : AfterSale :=
  { row with claimStatus := .cancelled, rejectReason := reason }

def cancelLockedClaim (principal : Principal) (afterSaleNo : String) (request : CancelAfterSaleRequest) :
    Tx (Nat × AfterSale) := do
  let (id, claim) ← lockedClaim afterSaleNo none (some principal.userId)
  raiseIf (claim.claimStatus ≠ .pending)
    (claimStateInvalid "only a pending claim can be cancelled by the customer" afterSaleNo claim.claimStatus)
  writeClaim id (AfterSale.cancelledBy request.reason)
  return (id, claim.cancelledBy request.reason)

/-- The customer withdraws a pending claim. -/
def cancelAfterSale (principal : Principal) (afterSaleNo : String) (request : CancelAfterSaleRequest) :
    Tx (Nat × AfterSale) :=
  transaction (cancelLockedClaim principal afterSaleNo request)

/-- The columns of an approved claim. -/
def AfterSale.approvedBy (approvedAmount : Int) (now : Time) (row : AfterSale) : AfterSale :=
  { row with
    claimStatus := .approved
    approvedAmount := approvedAmount
    processedAt := some now
    rejectReason := none }

def approveLockedClaim (principal : Principal) (afterSaleNo : String) (request : ApproveAfterSaleRequest) (now : Time) :
    Tx (Nat × AfterSale) := do
  ofExcept (principal.requirePermission "after_sale:review")
  let merchantId ← ofExcept principal.merchantFilter
  let (id, claim) ← lockedClaim afterSaleNo (some merchantId) none
  raiseIf (claim.claimStatus ≠ .pending ∧ claim.claimStatus ≠ .approved)
    (claimStateInvalid "only a pending or approved claim can be approved" afterSaleNo claim.claimStatus)
  raiseIf (0 < claim.refundedAmount ∧ request.approvedAmount < claim.refundedAmount)
    { kind := .refundAmountInvalid
      message := "the approved amount cannot be lowered below what has already been refunded"
      context := [("approved_amount", .int request.approvedAmount), ("refunded_amount", .int claim.refundedAmount)] }
  raiseIf (claim.requestedAmount < request.approvedAmount)
    { kind := .refundAmountInvalid
      message := "an approved amount may not exceed the requested amount in V1"
      context := [("approved_amount", .int request.approvedAmount), ("requested_amount", .int claim.requestedAmount)] }
  writeClaim id (AfterSale.approvedBy request.approvedAmount now)
  return (id, claim.approvedBy request.approvedAmount now)

/-- The merchant approves a claim for an amount, or corrects that amount. -/
def approveAfterSale (principal : Principal) (afterSaleNo : String) (request : ApproveAfterSaleRequest) (now : Time) :
    Tx (Nat × AfterSale) :=
  transaction (approveLockedClaim principal afterSaleNo request now)

/-- The columns of a rejected claim. -/
def AfterSale.rejectedBy (reason : String) (now : Time) (row : AfterSale) : AfterSale :=
  { row with claimStatus := .rejected, rejectReason := some (truncate 500 reason), processedAt := some now }

def rejectLockedClaim (principal : Principal) (afterSaleNo : String) (request : RejectAfterSaleRequest) (now : Time) :
    Tx (Nat × AfterSale) := do
  ofExcept (principal.requirePermission "after_sale:review")
  let merchantId ← ofExcept principal.merchantFilter
  let (id, claim) ← lockedClaim afterSaleNo (some merchantId) none
  raiseIf (claim.claimStatus ≠ .pending ∧ claim.claimStatus ≠ .approved)
    (claimStateInvalid "only a pending or approved claim can be rejected" afterSaleNo claim.claimStatus)
  raiseIf (0 < claim.refundedAmount)
    { kind := .afterSaleStateInvalid
      message := "a claim that has already been refunded cannot be rejected"
      context := [("after_sale_no", .str afterSaleNo), ("refunded_amount", .int claim.refundedAmount)] }
  writeClaim id (AfterSale.rejectedBy request.rejectReason now)
  return (id, claim.rejectedBy request.rejectReason now)

/-- The merchant rejects a claim that was not refunded. -/
def rejectAfterSale (principal : Principal) (afterSaleNo : String) (request : RejectAfterSaleRequest) (now : Time) :
    Tx (Nat × AfterSale) :=
  transaction (rejectLockedClaim principal afterSaleNo request now)

/-! ## What an application does -/

/-- The database after a claim was filed, under the id after its record's. -/
def Db.filed (d : Db) (request : ApplyAfterSaleRequest) (key requestHash : String) (orderId : Nat) (order : Order)
    (rows : List AfterSaleItem) (next : Nat) (now : Time) : Db :=
  let claim := newClaim request key requestHash orderId order now (next + 1)
  let record : IdempotencyRecord := { scope := afterSaleApplyScope, idempotencyKey := key, requestHash := requestHash }
  { d with
    idempotency := d.idempotency.set next (record.filedBy (next + 1) claim now)
    afterSales := d.afterSales.set (next + 1) claim
    afterSaleItems := d.afterSaleItems.setFrom (next + 2) rows }

/-- What a claim was filed on. -/
structure ClaimFiled (principal : Principal) (request : ApplyAfterSaleRequest) (key : String) (next : Nat) (d : Db)
    (orderId : Nat) (order : Order) (rows : List AfterSaleItem) : Prop where
  found : d.orderByNo request.orderNo (some principal.userId) = some (orderId, order)
  accepted : ∃ verdict, eligibility order (d.itemsFor orderId) (d.liveClaimedQuantity orderId) request.claimLines =
    .ok verdict ∧ checkClaim request.requestedAmount request.claimLines verdict = .ok ()
  unclaimed : d.idempotencyAt afterSaleApplyScope key = none
  untaken : d.claimKeysTaken order.merchantId order.userId key request.clientRequestId = false
  rows : List.Forall₂ (fun line row => claimItem (next + 1) (d.itemsFor orderId) line = some row) request.claimLines rows

theorem insertClaim_eq_ok {request : ApplyAfterSaleRequest} {key requestHash : String} {orderId id : Nat} {order : Order}
    {now : Time} {e e' : Exec Db}
    (h : (insertClaim request key requestHash orderId order now).run e = (.ok id, e')) :
    id = e.next ∧ e.view.claimKeysTaken order.merchantId order.userId key request.clientRequestId = false ∧
      e' = { e with
        view := { e.view with
          afterSales := e.view.afterSales.set e.next (newClaim request key requestHash orderId order now e.next) }
        next := e.next + 1 } := by
  unfold insertClaim at h
  rw [run_bind, run_lock, andThen_ok, run_bind, run_newId, andThen_ok, run_bind_eq_ok] at h
  obtain ⟨_, e₁, huntaken, h⟩ := h
  rw [run_raiseIf_eq_ok] at huntaken
  obtain ⟨huntaken, rfl⟩ := huntaken
  cases h
  exact ⟨rfl, eq_false_of_ne_true huntaken, rfl⟩

theorem addClaimItems_eq_ok {claimId : Nat} {items : List (Nat × OrderItem)} :
    ∀ {lines : List (Nat × Int)} {e e' : Exec Db} {u : Unit},
      (addClaimItems claimId items lines).run e = (.ok u, e') →
      ∃ rows, List.Forall₂ (fun line row => claimItem claimId items line = some row) lines rows ∧
        e' = { e with
          view := { e.view with afterSaleItems := e.view.afterSaleItems.setFrom e.next rows }
          next := e.next + rows.length } := by
  intro lines
  induction lines with
  | nil =>
    intro e e' u h
    cases h
    exact ⟨[], .nil, rfl⟩
  | cons line lines ih =>
    intro e e' u h
    unfold addClaimItems at h
    rw [run_bind_eq_ok] at h
    obtain ⟨row, e₁, hrow, h⟩ := h
    rw [run_orRaise_eq_ok] at hrow
    obtain ⟨hrow, rfl⟩ := hrow
    rw [run_bind, run_newId, andThen_ok, run_bind, run_update, andThen_ok] at h
    obtain ⟨rows, hrows, rfl⟩ := ih h
    refine ⟨row :: rows, .cons hrow hrows, ?_⟩
    rw [List.length_cons, ← Nat.add_assoc, Nat.add_right_comm]
    rfl

theorem applyFresh_filed {principal : Principal} {request : ApplyAfterSaleRequest} {key requestHash : String}
    {now : Time} {e e' : Exec Db} {result : Nat × AfterSale}
    (h : (applyFresh principal request key requestHash now).run e = (.ok result, e')) :
    ∃ orderId order rows, ClaimFiled principal request key e.next e.view orderId order rows ∧
      result = (e.next + 1, newClaim request key requestHash orderId order now (e.next + 1)) ∧
      e' = { e with
        view := e.view.filed request key requestHash orderId order rows e.next now
        next := e.next + 2 + rows.length } := by
  unfold applyFresh getByOrderNoForUpdate itemsFor at h
  rw [run_bind, run_lock, andThen_ok] at h
  cases horder : e.view.orderByNo request.orderNo (some principal.userId) with
  | none => simp [horder] at h
  | some entry =>
    obtain ⟨orderId, order⟩ := entry
    simp only [horder] at h
    rw [run_bind, run_query, andThen_ok, run_bind, run_query, andThen_ok, run_bind_eq_ok] at h
    obtain ⟨verdict, e₁, hverdict, h⟩ := h
    rw [run_ofExcept_eq_ok] at hverdict
    obtain ⟨hverdict, rfl⟩ := hverdict
    rw [run_bind_eq_ok] at h
    obtain ⟨_, e₂, hchecked, h⟩ := h
    rw [run_ofExcept_eq_ok] at hchecked
    obtain ⟨hchecked, rfl⟩ := hchecked
    rw [run_bind_eq_ok] at h
    obtain ⟨claimed, e₃, hclaim, h⟩ := h
    rcases insertInProgress_eq_ok hclaim with ⟨rfl, rfl⟩ | ⟨rfl, hunclaimed, rfl⟩
    · simp at h
    · dsimp only at h
      unfold fileClaim at h
      rw [run_bind_eq_ok] at h
      obtain ⟨claimId, e₄, hinsert, h⟩ := h
      obtain ⟨rfl, huntaken, rfl⟩ := insertClaim_eq_ok hinsert
      rw [run_bind_eq_ok] at h
      obtain ⟨_, e₅, hitems, h⟩ := h
      obtain ⟨rows, hrows, rfl⟩ := addClaimItems_eq_ok hitems
      cases h
      refine ⟨orderId, order, rows, ⟨horder, ⟨verdict, hverdict, hchecked⟩, hunclaimed, huntaken, hrows⟩, rfl, ?_⟩
      unfold Db.filed
      dsimp only
      rw [Dict.modify_set_self]
      rfl

theorem writeClaim_eq_ok {id : Nat} {f : AfterSale → AfterSale} {e e' : Exec Db} {u : Unit} :
    (writeClaim id f).run e = (.ok u, e') ↔
      (∀ c, e.view.afterSales.get? id = some c → (f c).Checked) ∧
        e' = { e with view := { e.view with afterSales := e.view.afterSales.modify id f } } := by
  unfold writeClaim
  rw [run_bind, run_query, andThen_ok, run_bind_eq_ok]
  simp only [run_raiseIf_eq_ok, run_update, Prod.mk.injEq, Option.mem_def, not_exists, not_and, not_not]
  constructor
  · rintro ⟨_, e₁, ⟨hc, rfl⟩, _, rfl⟩
    exact ⟨hc, rfl⟩
  · rintro ⟨hc, rfl⟩
    exact ⟨(), e, ⟨hc, rfl⟩, trivial, rfl⟩

theorem claimByNo_some {d : Db} {afterSaleNo : String} {merchantId userId : Option Nat} {id : Nat} {c : AfterSale}
    (h : d.claimByNo afterSaleNo merchantId userId = some (id, c)) :
    d.afterSales.get? id = some c ∧ c.afterSaleNo = afterSaleNo ∧ (∀ m ∈ merchantId, c.merchantId = m) ∧
      ∀ u ∈ userId, c.userId = u := by
  obtain ⟨hget, hp⟩ := Dict.find?_some h
  simp only [decide_eq_true_eq] at hp
  exact ⟨hget, hp⟩

/-- A locked claim is one the caller may see, or the one the number names. -/
theorem lockedClaim_eq_ok {afterSaleNo : String} {merchantId userId : Option Nat} {e e' : Exec Db}
    {found : Nat × AfterSale} :
    (lockedClaim afterSaleNo merchantId userId).run e = (.ok found, e') ↔
      ∃ visible locked, e.view.claimByNo afterSaleNo merchantId userId = some visible ∧
        e.view.claimByNo afterSaleNo none none = some locked ∧ found = identityMap visible locked ∧ e = e' := by
  unfold lockedClaim
  simp only [run_bind_eq_ok, run_query, run_lock, run_orRaise_eq_ok, run_pure, Prod.mk.injEq, Except.ok.injEq]
  constructor
  · rintro ⟨_, _, ⟨rfl, rfl⟩, visible, _, ⟨hvisible, rfl⟩, _, _, ⟨rfl, rfl⟩, locked, _, ⟨hlocked, rfl⟩, rfl, rfl⟩
    exact ⟨visible, locked, hvisible, hlocked, rfl, rfl⟩
  · rintro ⟨visible, locked, hvisible, hlocked, rfl, rfl⟩
    exact ⟨_, e, ⟨rfl, rfl⟩, visible, e, ⟨hvisible, rfl⟩, _, e, ⟨rfl, rfl⟩, locked, e, ⟨hlocked, rfl⟩, rfl, rfl⟩

theorem lockedClaim_row {afterSaleNo : String} {merchantId userId : Option Nat} {e e' : Exec Db} {id : Nat}
    {c : AfterSale} (h : (lockedClaim afterSaleNo merchantId userId).run e = (.ok (id, c), e')) :
    e = e' ∧ e.view.afterSales.get? id = some c ∧ c.afterSaleNo = afterSaleNo := by
  obtain ⟨visible, locked, hvisible, hlocked, hfound, rfl⟩ := lockedClaim_eq_ok.mp h
  unfold identityMap at hfound
  split_ifs at hfound
  · subst hfound
    obtain ⟨hget, hno, -⟩ := claimByNo_some hvisible
    exact ⟨rfl, hget, hno⟩
  · subst hfound
    obtain ⟨hget, hno, -⟩ := claimByNo_some hlocked
    exact ⟨rfl, hget, hno⟩

/-- What the parties may answer to a claim. -/
inductive Answer (claim : AfterSale) : AfterSale → Prop where
  | cancelled {reason : Option String} (pending : claim.claimStatus = .pending) : Answer claim (claim.cancelledBy reason)
  | approved {amount : Int} {now : Time} (unanswered : claim.claimStatus = .pending ∨ claim.claimStatus = .approved)
      (positive : 0 < amount) (covers : claim.refundedAmount ≤ 0 ∨ claim.refundedAmount ≤ amount)
      (within : amount ≤ claim.requestedAmount) : Answer claim (claim.approvedBy amount now)
  | rejected {reason : String} {now : Time}
      (unanswered : claim.claimStatus = .pending ∨ claim.claimStatus = .approved)
      (unrefunded : claim.refundedAmount ≤ 0) : Answer claim (claim.rejectedBy reason now)

/-- What an answer to a claim with a number left. -/
def Answered (afterSaleNo : String) (f : AfterSale → AfterSale) (d d' : Db) : Prop :=
  ∃ id claim, d.afterSales.get? id = some claim ∧ claim.afterSaleNo = afterSaleNo ∧ Answer claim (f claim) ∧
    (f claim).Checked ∧ d' = { d with afterSales := d.afterSales.modify id f }

theorem writeClaim_answered {afterSaleNo : String} {id : Nat} {claim : AfterSale} {f : AfterSale → AfterSale}
    {e e' : Exec Db} {u : Unit} (h : (writeClaim id f).run e = (.ok u, e'))
    (hclaim : e.view.afterSales.get? id = some claim) (hno : claim.afterSaleNo = afterSaleNo)
    (hanswer : Answer claim (f claim)) : ∃ d, e' = { e with view := d } ∧ Answered afterSaleNo f e.view d := by
  obtain ⟨hchecked, rfl⟩ := writeClaim_eq_ok.mp h
  exact ⟨_, rfl, id, claim, hclaim, hno, hanswer, hchecked claim hclaim, rfl⟩

theorem cancelLockedClaim_answer {principal : Principal} {afterSaleNo : String} {request : CancelAfterSaleRequest}
    {e e' : Exec Db} {result : Nat × AfterSale}
    (h : (cancelLockedClaim principal afterSaleNo request).run e = (.ok result, e')) :
    ∃ d, e' = { e with view := d } ∧ Answered afterSaleNo (AfterSale.cancelledBy request.reason) e.view d := by
  unfold cancelLockedClaim at h
  rw [run_bind_eq_ok] at h
  obtain ⟨⟨id, claim⟩, e₁, hlocked, h⟩ := h
  obtain ⟨rfl, hclaim, hno⟩ := lockedClaim_row hlocked
  rw [run_bind_eq_ok] at h
  obtain ⟨_, e₂, hpending, h⟩ := h
  rw [run_raiseIf_eq_ok, not_not] at hpending
  obtain ⟨hpending, rfl⟩ := hpending
  rw [run_bind_eq_ok] at h
  obtain ⟨_, e₃, hwrite, h⟩ := h
  cases h
  exact writeClaim_answered hwrite hclaim hno (.cancelled hpending)

/-- A staff account's answer is decided on a locked claim. -/
theorem approveLockedClaim_answer {principal : Principal} {afterSaleNo : String} {request : ApproveAfterSaleRequest}
    {now : Time} {e e' : Exec Db} {result : Nat × AfterSale}
    (h : (approveLockedClaim principal afterSaleNo request now).run e = (.ok result, e')) :
    ∃ d, e' = { e with view := d } ∧ Answered afterSaleNo (AfterSale.approvedBy request.approvedAmount now) e.view d := by
  unfold approveLockedClaim at h
  simp only [run_bind_eq_ok, run_ofExcept_eq_ok, run_raiseIf_eq_ok] at h
  obtain ⟨_, _, ⟨-, rfl⟩, merchantId, _, ⟨-, rfl⟩, ⟨id, claim⟩, e₁, hlocked, _, _, ⟨hopen, rfl⟩, _, _, ⟨hcovers, rfl⟩,
    _, _, ⟨hwithin, rfl⟩, _, e₂, hwrite, h⟩ := h
  obtain ⟨rfl, hclaim, hno⟩ := lockedClaim_row hlocked
  cases h
  dsimp only at hcovers hwithin
  refine writeClaim_answered hwrite hclaim hno (.approved ?_ request.positive ?_ (not_lt.mp hwithin))
  · by_contra hne
    exact hopen (not_or.mp hne)
  · omega

theorem rejectLockedClaim_answer {principal : Principal} {afterSaleNo : String} {request : RejectAfterSaleRequest}
    {now : Time} {e e' : Exec Db} {result : Nat × AfterSale}
    (h : (rejectLockedClaim principal afterSaleNo request now).run e = (.ok result, e')) :
    ∃ d, e' = { e with view := d } ∧ Answered afterSaleNo (AfterSale.rejectedBy request.rejectReason now) e.view d := by
  unfold rejectLockedClaim at h
  simp only [run_bind_eq_ok, run_ofExcept_eq_ok, run_raiseIf_eq_ok] at h
  obtain ⟨_, _, ⟨-, rfl⟩, merchantId, _, ⟨-, rfl⟩, ⟨id, claim⟩, e₁, hlocked, _, _, ⟨hopen, rfl⟩, _, _, ⟨hunrefunded, rfl⟩,
    _, e₂, hwrite, h⟩ := h
  obtain ⟨rfl, hclaim, hno⟩ := lockedClaim_row hlocked
  cases h
  refine writeClaim_answered hwrite hclaim hno (.rejected ?_ (not_lt.mp hunrefunded))
  by_contra hne
  exact hopen (not_or.mp hne)

/-! ## What commits -/

section

variable (principal : Principal) (afterSaleNo : String) (now : Time)

@[grind .] theorem noCommit_lockedClaim (merchantId userId : Option Nat) :
    (lockedClaim afterSaleNo merchantId userId).NoCommit := by
  unfold lockedClaim
  grind

@[grind .] theorem noCommit_writeClaim (id : Nat) (f : AfterSale → AfterSale) : (writeClaim id f).NoCommit := by
  unfold writeClaim
  grind

theorem noCommit_cancelLockedClaim (request : CancelAfterSaleRequest) :
    (cancelLockedClaim principal afterSaleNo request).NoCommit := by
  unfold cancelLockedClaim
  grind

theorem noCommit_approveLockedClaim (request : ApproveAfterSaleRequest) :
    (approveLockedClaim principal afterSaleNo request now).NoCommit := by
  unfold approveLockedClaim
  grind

theorem noCommit_rejectLockedClaim (request : RejectAfterSaleRequest) :
    (rejectLockedClaim principal afterSaleNo request now).NoCommit := by
  unfold rejectLockedClaim
  grind

theorem noCommit_applyFresh (request : ApplyAfterSaleRequest) (key requestHash : String) :
    (applyFresh principal request key requestHash now).NoCommit := by
  have hclaim : (insertInProgress afterSaleApplyScope key requestHash "after_sale").NoCommit := by
    unfold insertInProgress
    grind
  have hitems : ∀ claimId items lines, (addClaimItems claimId items lines).NoCommit := by
    intro claimId items lines
    induction lines with
    | nil => exact noCommit_ret _
    | cons line lines ih =>
      unfold addClaimItems
      grind
  have hfile : ∀ orderId order items recordId,
      (fileClaim request key requestHash orderId order items recordId now).NoCommit := by
    intro orderId order items recordId
    unfold fileClaim insertClaim
    grind
  unfold applyFresh
  refine .bind (noCommit_getByOrderNoForUpdate _ _) fun found => ?_
  cases found with
  | none => trivial
  | some found =>
    obtain ⟨orderId, order⟩ := found
    refine .bind (noCommit_itemsFor _) fun items => .bind (noCommit_query _) fun claimed => ?_
    refine .bind (noCommit_ofExcept _) fun verdict => .bind (noCommit_ofExcept _) fun _ => .bind hclaim fun recordId => ?_
    cases recordId with
    | none => trivial
    | some recordId => exact hfile orderId order items recordId

theorem noCommit_replayedClaim (record : IdempotencyRecord) (requestHash : String) :
    (replayedClaim record requestHash).NoCommit := by
  unfold replayedClaim
  grind

end

end NovaCommerce
