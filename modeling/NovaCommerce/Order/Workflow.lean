import NovaCommerce.Marketing.CouponIssuance
import NovaCommerce.Outbox.Writer
import NovaCommerce.Payment.Providers

/-!
# Creating an order

`createOrder` claims the idempotency key, prices the cart, takes promotion, coupon and stock, writes the
order with its lines, and commits once. A duplicate request id is answered with the order it made.
-/

namespace NovaCommerce

open Sql

/-! ## Requests and keys -/

/-- What a client asks for. -/
structure CreateOrderRequest where
  items : List OrderLineInput
  addressId : Nat
  clientRequestId : String
  idempotencyKey : String
  couponId : Option Nat := none
  remark : Option String := none

/-- The items of a canonical request, by SKU. -/
def canonicalItems (items : List OrderLineInput) : String :=
  let sorted := items.insertionSort fun a b => toLex (a.skuId, a.quantity) ≤ toLex (b.skuId, b.quantity)
  "[" ++ ",".intercalate (sorted.map fun line => s!"[{line.skuId},{line.quantity}]") ++ "]"

/-- `canonical_request_hash`: keys sorted, no whitespace. -/
def canonicalRequestHash (env : Deployment) (userId : Nat) (items : List OrderLineInput) (addressId : Nat)
    (couponId : Option Nat) (remark : Option String) : String :=
  let coupon := match couponId with
    | none => "null"
    | some id => toString id
  env.sha256Hex ("\x7b\"address_id\":" ++ toString addressId ++ ",\"coupon_id\":" ++ coupon ++
    ",\"items\":" ++ canonicalItems items ++ ",\"remark\":" ++ jsonString (remark.getD "") ++
    ",\"user_id\":" ++ toString userId ++ "\x7d")

/-- `order_lock_movement_key`. -/
def orderLockMovementKey (userId : Nat) (clientRequestId : String) (skuId : Nat) : String :=
  s!"order-lock:{userId}:{clientRequestId}:{skuId}"

/-- An order, and whether it was there before. -/
structure CreateOrderResult where
  orderId : Nat
  order : Order
  replayed : Bool

/-! ## The claim -/

/-- `ORDER_CREATE_SCOPE`. -/
def orderCreateScope : String := "order:create"

/-- The record of an idempotency key. -/
def Db.idempotencyAt (d : Db) (scope key : String) : Option (Nat × IdempotencyRecord) :=
  d.idempotency.find? fun r => decide (r.scope = scope ∧ r.idempotencyKey = key)

/-- Claim a key: the new record's id, or `none` when the unique index refuses it. -/
def insertInProgress (scope key requestHash resourceType : String) : Tx (Option Nat) := do
  let existing ← lock (fun _ => [RowLock.idempotencyKey scope key]) (fun d => d.idempotencyAt scope key)
  match existing with
  | some _ => return none
  | none =>
    let id ← newId
    update fun d => { d with
      idempotency := d.idempotency.set id {
        scope := scope
        idempotencyKey := key
        requestHash := requestHash
        resourceType := some resourceType } }
    return some id

def payloadMismatch (key : String) : AppError :=
  { kind := .idempotencyPayloadMismatch
    message := "this Idempotency-Key was already used with a different request body"
    context := [("idempotency_key", .str key)] }

/-- The order a completed claim refers to. -/
def Db.claimedOrder (d : Db) (record : IdempotencyRecord) (userId : Nat) : Option (Nat × Order) :=
  match record.resourceId.bind fun id => (d.orders.get? id).map fun order => (id, order) with
  | some found => some found
  | none =>
    match (record.responseSnapshot.getD []).get "order_no" with
    | .str orderNo => if orderNo = "" then none else d.orderByNo orderNo (some userId)
    | _ => none

/-- Load the order of a completed claim, verifying its owner. -/
def loadReplayedOrder (record : IdempotencyRecord) (userId : Nat) : Tx CreateOrderResult := do
  let (orderId, order) ← orRaise (← query fun d => d.claimedOrder record userId)
    { kind := .internal
      message := "an idempotency record marked COMPLETED refers to an order that cannot be loaded"
      context := [("idempotency_key", .str record.idempotencyKey)] }
  raiseIf (order.userId ≠ userId) (payloadMismatch record.idempotencyKey)
  return { orderId := orderId, order := order, replayed := true }

def IdempotencyStatus.value : IdempotencyStatus → String
  | .inProgress => "IN_PROGRESS"
  | .completed => "COMPLETED"
  | .failed => "FAILED"

/-- Replay the claim that holds a key. -/
def replayClaim (record : Option (Nat × IdempotencyRecord)) (key requestHash : String) (userId : Nat) :
    Tx CreateOrderResult := do
  match record with
  | none =>
    raise { kind := .idempotencyInProgress
            message := "a request with this Idempotency-Key is still in progress"
            context := [("idempotency_key", .str key)] }
  | some (_, record) =>
    raiseIf (record.status ≠ .completed)
      { kind := .idempotencyInProgress
        message := "this Idempotency-Key is not available for reuse yet"
        context := [("idempotency_key", .str key), ("status", .str record.status.value)] }
    raiseIf (record.requestHash ≠ requestHash) (payloadMismatch key)
    loadReplayedOrder record userId

/-! ## The price -/

/-- What the price of an order was decided on. -/
structure PricedOrder where
  lines : List (Pricing.PricedLine AttributeSnapshot)
  merchantId : Nat
  promotion : Option PromotionCandidate
  coupon : Option CouponSelection
  snapshot : Pricing.PriceSnapshot AttributeSnapshot

/-- `validate_coupon_input`: a selected coupon is the one that is applied. -/
def validateCouponInput (couponId : Option Nat) (rule : Option Pricing.CouponRule) : Except AppError Unit :=
  match couponId with
  | none => .ok ()
  | some id =>
    match rule with
    | none =>
      .error { kind := .couponNotFound
               message := "this coupon could not be resolved"
               context := [("coupon_id", .int id)] }
    | some rule =>
      if rule.couponId = id then .ok ()
      else .error { kind := .validation
                    message := "the supplied coupon rule does not match the requested coupon_id"
                    context := [("coupon_id", .int id), ("rule_coupon_id", .int rule.couponId)] }

/-- The coupon a request selects, if it selects one. -/
def selectCoupon (principal : Principal) (request : CreateOrderRequest) (merchantId : Nat) (skuIds : List Nat)
    (now : Time) : Tx (Option CouponSelection) := do
  match request.couponId with
  | none => return none
  | some couponId => return some (← resolveCoupon couponId principal.userId merchantId skuIds now)

/-- Count the promotion a cart was discounted with. -/
def usePromotion (promotion : Option PromotionCandidate) (cart : Pricing.CartPrice AttributeSnapshot) : Tx Unit :=
  match promotion with
  | none => return ()
  | some c => if 0 < cart.promotionDiscountAmount then useQuota c else return ()

/-- Count the promotion of a cart, and freeze its price. -/
def freezePrice (lines : List (Pricing.PricedLine AttributeSnapshot)) (merchantId : Nat)
    (promotion : Option PromotionCandidate) (coupon : Option CouponSelection)
    (cart : Pricing.CartPrice AttributeSnapshot) : Tx PricedOrder := do
  usePromotion promotion cart
  let snapshot ← ofExcept (priced (Pricing.buildPriceSnapshot cart
    (promotion.map fun c => c.rule.promotionId).toList (coupon.map fun s => s.rule.couponId).toList "FREE"))
  return { lines, merchantId, promotion, coupon, snapshot }

/-- Price the lines of a merchant's cart under its promotion and coupon. -/
def priceCart (principal : Principal) (request : CreateOrderRequest) (skuIds : List Nat) (now : Time)
    (lines : List (Pricing.PricedLine AttributeSnapshot)) (merchantId : Nat) : Tx PricedOrder := do
  let promotion ← resolvePromotion merchantId skuIds now lines
  let coupon ← selectCoupon principal request merchantId skuIds now
  ofExcept (validateCouponInput request.couponId (coupon.map CouponSelection.rule))
  let cart ← ofExcept (priced (Pricing.calculateCartPrice lines (promotion.map PromotionCandidate.rule)
    (coupon.map CouponSelection.rule) none))
  if request.couponId.isSome then
    ofExcept (requireApplicableDiscount cart)
  freezePrice lines merchantId promotion coupon cart

/-- The address of a user. -/
def Db.ownedAddress (d : Db) (addressId userId : Nat) : Option UserAddress :=
  (d.addresses.get? addressId).filter fun a => decide (a.userId = userId ∧ a.deletedAt = none)

/-- Price an order from its business inputs. -/
def priceOrder (principal : Principal) (request : CreateOrderRequest) (lines : List OrderLineInput)
    (now : Time) : Tx PricedOrder := do
  let _ ← orRaise (← query fun d => d.ownedAddress request.addressId principal.userId)
    { kind := .addressNotFound, message := "address not found" }
  let (pricedLines, merchantId) ← loadPricedLines lines
  priceCart principal request (lines.map OrderLineInput.skuId) now pricedLines merchantId

/-! ## The rows -/

/-- `FIRST_ITEM_NAME_MAX_LENGTH`. -/
def firstItemNameMaxLength : Nat := 200

/-- Product and SKU name of the first line. -/
def firstItemName (snapshot : Pricing.PriceSnapshot AttributeSnapshot) : String :=
  match snapshot.items with
  | [] => ""
  | item :: _ => truncate firstItemNameMaxLength (strip (item.line.productName ++ " " ++ item.line.skuName))

/-- The row of a new order. -/
def newOrder (env : Deployment) (principal : Principal) (request : CreateOrderRequest) (requestHash : String)
    (p : PricedOrder) (now : Time) (id : Nat) : Order where
  merchantId := p.merchantId
  userId := principal.userId
  orderNo := businessNo env.settings.orderNoPrefix now id
  clientRequestId := request.clientRequestId
  requestHash := requestHash
  originalAmount := p.snapshot.originalAmount
  promotionDiscountAmount := p.snapshot.promotionDiscountAmount
  couponDiscountAmount := p.snapshot.couponDiscountAmount
  shippingAmount := p.snapshot.shippingAmount
  payableAmount := p.snapshot.payableAmount
  couponId := request.couponId
  promotionId := p.snapshot.promotionIds.head?
  addressId := some request.addressId
  remark := request.remark
  itemCount := p.snapshot.itemCount
  firstItemName := firstItemName p.snapshot
  expiresAt := some (now + 60000 * env.settings.orderPaymentTimeoutMinutes)
  updatedAt := now

/-- The order a client made under its request id. -/
def Db.orderByClientRequestId (d : Db) (userId : Nat) (clientRequestId : String) : Option (Nat × Order) :=
  d.orders.find? fun o => decide (o.userId = userId ∧ o.clientRequestId = clientRequestId)

/-- Insert the order; its number carries the id it was given. -/
def insertOrder (env : Deployment) (principal : Principal) (request : CreateOrderRequest) (requestHash : String)
    (p : PricedOrder) (now : Time) : Tx Nat := do
  raiseIf (maxTime < now + 60000 * env.settings.orderPaymentTimeoutMinutes)
    { kind := .overflow, message := "date value out of range" }
  let id ← newId
  let taken ← lock (fun _ => [RowLock.orderRequest principal.userId request.clientRequestId])
    (fun d => (d.orderByClientRequestId principal.userId request.clientRequestId).isSome)
  raiseIf (taken = true)
    { kind := .integrity, message := "Duplicate entry for key 'orders.uq_orders_user_client_request'" }
  let order := newOrder env principal request requestHash p now id
  raiseIf (¬ order.Checked) (checkViolation "orders")
  update fun d => { d with orders := d.orders.set id order }
  return id

/-- The warehouse a merchant operates out of: the active default, or the first active one. -/
def Db.defaultWarehouseOf (d : Db) (merchantId : Nat) : Option Nat :=
  match d.warehouses.find? (fun w => w.active && decide (w.merchantId = merchantId) && w.isDefault) with
  | some (id, _) => some id
  | none => (d.warehouses.find? fun w => w.active && decide (w.merchantId = merchantId)).map Prod.fst

/-- The reservation of an order's lines, in the order of their SKUs. -/
def reserveRequests (principal : Principal) (request : CreateOrderRequest) (lines : List OrderLineInput)
    (orderId warehouseId : Nat) : List StockRequest :=
  (lines.insertionSort fun a b => a.skuId ≤ b.skuId).map fun line => {
    skuId := line.skuId
    quantity := line.quantity
    idempotencyKey := orderLockMovementKey principal.userId request.clientRequestId line.skuId
    warehouseId := some warehouseId
    referenceType := .order
    referenceId := some orderId
    operatorType := principal.movementOperator
    operatorId := some principal.userId }

/-- Reserve every line in one warehouse. -/
def reserveStock (principal : Principal) (request : CreateOrderRequest) (lines : List OrderLineInput)
    (orderId merchantId : Nat) (now : Time) : Tx Nat := do
  let warehouseId ← orRaise (← query fun d => d.defaultWarehouseOf merchantId)
    { kind := .warehouseNotFound, message := "no active warehouse is configured" }
  moveAll reserveOperation (reserveRequests principal request lines orderId warehouseId) now
  return warehouseId

/-- The row of one line, with its shares of the discounts. -/
def newItem (snapshot : Pricing.PriceSnapshot AttributeSnapshot) (orderId warehouseId : Nat)
    (item : Pricing.ItemPrice AttributeSnapshot) : Pricing.Priced OrderItem := do
  let promotion ← snapshot.promotionAllocation item.line.skuId
  let coupon ← snapshot.couponAllocation item.line.skuId
  let payable ← snapshot.itemPayableAmount item.line.skuId
  return {
    orderId := orderId
    warehouseId := warehouseId
    productId := item.line.productId
    skuId := item.line.skuId
    productName := item.line.productName
    skuName := item.line.skuName
    unitPrice := item.line.unitPrice
    quantity := item.line.quantity
    originalAmount := item.originalAmount
    promotionDiscountAmount := promotion
    couponDiscountAmount := coupon
    payableAmount := payable }

/-- Insert the lines of an order. -/
def insertItems (snapshot : Pricing.PriceSnapshot AttributeSnapshot) (orderId warehouseId : Nat) :
    List (Pricing.ItemPrice AttributeSnapshot) → Tx (List OrderItem)
  | [] => return []
  | item :: items => do
    let row ← ofExcept (priced (newItem snapshot orderId warehouseId item))
    raiseIf (¬ row.Checked) (checkViolation "order_items")
    let id ← newId
    update fun d => { d with orderItems := d.orderItems.set id row }
    let rows ← insertItems snapshot orderId warehouseId items
    return row :: rows

/-- `INV-006` and the summary fields. -/
def assertInvariants (order : Order) (items : List OrderItem) : Except AppError Unit := do
  let itemTotal := (items.map OrderItem.payableAmount).sum
  Raise.raiseIf (itemTotal ≠ order.payableAmount)
    { kind := .orderAmountMismatch
      message := "the sum of the order lines does not equal the order payable amount"
      context := [("order_payable_amount", .int order.payableAmount), ("items_payable_total", .int itemTotal)] }
  let unitTotal := (items.map OrderItem.quantity).sum
  Raise.raiseIf (unitTotal ≠ order.itemCount)
    { kind := .orderAmountMismatch
      message := "orders.item_count does not equal the total units on its lines"
      context := [("item_count", .int order.itemCount), ("line_units", .int unitTotal)] }
  Raise.raiseIf (order.firstItemName = "")
    { kind := .orderAmountMismatch
      message := "orders.first_item_name must name the first line"
      context := [("order_no", .str order.orderNo)] }

/-! ## The transaction -/

def orderCreatedReason : String := "order created"

def createdLog (principal : Principal) (orderId : Nat) (order : Order) : OrderStatusLog where
  orderId := orderId
  orderNo := order.orderNo
  fromStatus := none
  toStatus := .pendingPayment
  reason := some orderCreatedReason
  operatorType := principal.logOperatorType
  operatorId := some principal.userId

/-- The columns of a completed claim. -/
def IdempotencyRecord.completedBy (record : IdempotencyRecord) (orderId : Nat) (order : Order) (now : Time) :
    IdempotencyRecord :=
  { record with
    status := .completed
    resourceType := some "ORDER"
    resourceId := some orderId
    responseSnapshot := some [("order_no", .str order.orderNo), ("payable_amount", .int order.payableAmount),
      ("created_at", .str (isoMillis now))] }

/-- The event of a new order. -/
def createdEvent (request : CreateOrderRequest) (orderId : Nat) (order : Order) : OutboxMessage where
  eventType := .orderCreated
  aggregateType := .order
  aggregateId := orderId
  idempotencyKey := request.idempotencyKey
  payload := orderCreatedPayload order.orderNo order.payableAmount order.itemCount
  merchantId := some order.merchantId

/-- The coupon a cart was priced with goes to its order. -/
def lockSelected (coupon : Option CouponSelection) (orderId : Nat) (order : Order) (now : Time) : Tx Unit :=
  match coupon with
  | none => return ()
  | some selection => lockForOrder selection orderId order now

/-- Write a priced order. -/
def writeNewOrder (env : Deployment) (principal : Principal) (request : CreateOrderRequest)
    (lines : List OrderLineInput) (requestHash : String) (claimId : Nat) (p : PricedOrder) (now : Time) :
    Tx CreateOrderResult := do
  let orderId ← insertOrder env principal request requestHash p now
  let order := newOrder env principal request requestHash p now orderId
  lockSelected p.coupon orderId order now
  let warehouseId ← reserveStock principal request lines orderId p.merchantId now
  let items ← insertItems p.snapshot orderId warehouseId p.snapshot.items
  update fun d => { d with statusLogs := d.statusLogs ++ [createdLog principal orderId order] }
  ofExcept (assertInvariants order items)
  update fun d => { d with
    idempotency := d.idempotency.modify claimId fun record => record.completedBy orderId order now }
  enqueue (createdEvent request orderId order)
  return { orderId := orderId, order := order, replayed := false }

/-- The transaction body: claim the key and write the order, or replay what the key made. -/
def createFrom (env : Deployment) (principal : Principal) (request : CreateOrderRequest)
    (lines : List OrderLineInput) (requestHash : String) (now : Time) : Tx CreateOrderResult := do
  match ← insertInProgress orderCreateScope request.idempotencyKey requestHash "ORDER" with
  | none =>
    let record ← query fun d => d.idempotencyAt orderCreateScope request.idempotencyKey
    replayClaim record request.idempotencyKey requestHash principal.userId
  | some claimId =>
    let p ← priceOrder principal request lines now
    writeNewOrder env principal request lines requestHash claimId p now

/-- The second guard: the order a request id already made. -/
def recoverFromClientRequestId (principal : Principal) (request : CreateOrderRequest) (requestHash : String)
    (x : AppError) : Tx CreateOrderResult := do
  match ← query fun d => d.orderByClientRequestId principal.userId request.clientRequestId with
  | none => raise x
  | some (orderId, existing) =>
    raiseIf (existing.requestHash ≠ requestHash)
      { kind := .idempotencyPayloadMismatch
        message := "this client_request_id was already used with a different request body"
        context := [("client_request_id", .str request.clientRequestId)] }
    return { orderId := orderId, order := existing, replayed := true }

/-- Every failure rolls back; a duplicate key is answered with the order it belongs to. -/
def recoverCreate (principal : Principal) (request : CreateOrderRequest) (requestHash : String) (x : AppError) :
    Tx CreateOrderResult := do
  rollbackNow
  if x.kind = .integrity then recoverFromClientRequestId principal request requestHash x
  else raise x

/-- Create the order, or return the one this key already created. -/
def createOrder (env : Deployment) (principal : Principal) (request : CreateOrderRequest) (now : Time) :
    Tx CreateOrderResult := do
  raiseIf (request.idempotencyKey = "")
    { kind := .idempotencyKeyRequired, message := "an Idempotency-Key is required to create an order" }
  let lines ← ofExcept (mergeOrderLines request.items)
  let requestHash := canonicalRequestHash env principal.userId lines request.addressId request.couponId
    request.remark
  (transaction (createFrom env principal request lines requestHash now)).handle
    (recoverCreate principal request requestHash)

end NovaCommerce
