import NovaCommerce.Console.Schema
import NovaCommerce.Fulfillment.Shipping

/-!
# Reading orders, packages and claims

* `customerOrder`, `customerOrders` : the caller's own orders; `adminOrder`, `adminOrders` : the console's, narrowed by
  `merchantFilter`;
* `forOrderNo`, `adminFulfillments` : packages;
* `customerClaim`, `adminClaim` : after-sale claims.
-/

namespace NovaCommerce.Console

/-! ## Queries -/

/-- `get_by_order_no`. -/
def Tables.orderByNo (t : Tables) (orderNo : String) (merchantId userId : Option Nat) : Option (Nat × PlacedOrder) :=
  t.orders.find? fun o => decide (o.orderNo = orderNo ∧ (∀ m ∈ merchantId, o.merchantId = m) ∧ ∀ u ∈ userId, o.userId = u)

/-- `shipments_for`. -/
def Tables.shipmentsFor (t : Tables) (orderId : Nat) : List (Nat × Package) :=
  byId (t.fulfillments.select fun f => decide (f.orderId = orderId))

/-- `list_for_order`. -/
def Tables.listForOrder (t : Tables) (orderId : Nat) : List (Nat × Package) :=
  oldestFirst Package.createdAt (t.fulfillments.select fun f => decide (f.orderId = orderId))

/-- `get_by_after_sale_no`. -/
def Tables.claimByNo (t : Tables) (afterSaleNo : String) (merchantId userId : Option Nat) : Option (Nat × Claim) :=
  t.afterSales.find? fun c =>
    decide (c.afterSaleNo = afterSaleNo ∧ (∀ m ∈ merchantId, c.merchantId = m) ∧ ∀ u ∈ userId, c.userId = u)

/-! ## Filters -/

def orderStatuses : List String :=
  [OrderStatus.pendingPayment, .processing, .completed, .cancelled, .closed].map OrderStatus.value

def paymentStatuses : List String :=
  [PaymentStatus.unpaid, .paying, .paid, .partialRefunded, .refunded].map PaymentStatus.value

def fulfillmentStatuses : List String :=
  [FulfillmentStatus.unfulfilled, .partialShipped, .shipped, .delivered].map FulfillmentStatus.value

/-- `_validate_status_filter`. -/
def validateStatusFilter (value : Option String) (allowed : List String) (field : String) : Except AppError Unit :=
  match value with
  | none => .ok ()
  | some status => Raise.raiseIf (status ∉ allowed)
      { kind := .validation
        message := "unknown " ++ field ++ " filter"
        context := [(field, .str status), ("allowed", .strs allowed)] }

/-- What the console's list of orders is narrowed to. -/
structure OrderFilter where
  orderStatus : Option String := none
  paymentStatus : Option String := none
  fulfillmentStatus : Option String := none
  orderNo : Option String := none

/-- An order passes the filter. -/
def OrderFilter.admits (filter : OrderFilter) (o : PlacedOrder) : Bool :=
  decide ((∀ s ∈ filter.orderStatus, o.orderStatus.value = s) ∧ (∀ s ∈ filter.paymentStatus, o.paymentStatus.value = s) ∧
    (∀ s ∈ filter.fulfillmentStatus, o.fulfillmentStatus.value = s) ∧ ∀ n ∈ filter.orderNo, o.orderNo = n)

/-! ## Orders -/

/-- An order with its packages. -/
structure OrderDetail where
  id : Nat
  order : PlacedOrder
  shipments : List (Nat × Package)

def customerOrder (t : Tables) (principal : Identity.Principal) (orderNo : String) : Except AppError OrderDetail := do
  let (id, order) ← Raise.orRaise (t.orderByNo orderNo none (some principal.userId)) (orderNotFound orderNo)
  return ⟨id, order, t.shipmentsFor id⟩

def customerOrders (t : Tables) (principal : Identity.Principal) (orderStatus : Option String) (page pageSize : Nat) :
    Except AppError (Page PlacedOrder) := do
  validateStatusFilter orderStatus orderStatuses "order_status"
  let filter : OrderFilter := { orderStatus := orderStatus }
  return paginate (newestFirst PlacedOrder.createdAt
    (t.orders.select fun o => decide (o.userId = principal.userId) && filter.admits o)) (pageOffset page pageSize) pageSize

/-- The merchant a console read of orders is narrowed to: every merchant for the widest scope. -/
def merchantFilter (principal : Identity.Principal) : Except AppError (Option Nat) :=
  if principal.dataScope = .all then .ok none
  else match principal.merchantId with
    | none => .error { kind := .permissionDenied, message := "this staff account is not attached to a merchant" }
    | some m => .ok (some m)

def adminOrder (t : Tables) (principal : Identity.Principal) (orderNo : String) : Except AppError OrderDetail := do
  principal.requirePermission "order:read"
  let merchantId ← merchantFilter principal
  let (id, order) ← Raise.orRaise (t.orderByNo orderNo merchantId none) (orderNotFound orderNo)
  return ⟨id, order, t.shipmentsFor id⟩

def adminOrders (t : Tables) (principal : Identity.Principal) (filter : OrderFilter) (page pageSize : Nat) :
    Except AppError (Page PlacedOrder) := do
  principal.requirePermission "order:read"
  validateStatusFilter filter.orderStatus orderStatuses "order_status"
  validateStatusFilter filter.paymentStatus paymentStatuses "payment_status"
  validateStatusFilter filter.fulfillmentStatus fulfillmentStatuses "fulfillment_status"
  Raise.raiseIf (∃ n ∈ filter.orderNo, strip n = "") { kind := .validation, message := "order_no filter must not be blank" }
  let merchantId ← merchantFilter principal
  return paginate (newestFirst PlacedOrder.createdAt
    (t.orders.select fun o => decide (∀ m ∈ merchantId, o.merchantId = m) && filter.admits o)) (pageOffset page pageSize) pageSize

/-! ## Packages -/

def orderMissing : AppError := { kind := .orderNotFound, message := "order not found" }

/-- The packages of an order: the order is found by its number, and its owner is checked afterwards. -/
def forOrderNo (t : Tables) (principal : Identity.Principal) (orderNo : String) : Except AppError (List (Nat × Package)) := do
  let (id, order) ← Raise.orRaise (t.orderByNo orderNo none none) orderMissing
  if principal.isStaff then Raise.raiseIf (∃ m ∈ principal.merchantId, order.merchantId ≠ m) orderMissing
  else Raise.raiseIf (order.userId ≠ principal.userId) orderMissing
  return t.listForOrder id

/-- `FULFILLMENT_READ_PERMISSIONS`. -/
def fulfillmentReadPermissions : List String := ["fulfillment:read", "order:read", "order:admin"]

/-- `_assert_can_read`. -/
def assertCanRead (principal : Identity.Principal) : Except AppError Unit := do
  Raise.raiseIf (principal.isStaff = false)
    { kind := .permissionDenied, message := "the fulfillment queue is a console surface" }
  Raise.raiseIf (¬ ∃ permission ∈ fulfillmentReadPermissions, permission ∈ principal.permissions)
    { kind := .permissionDenied
      message := "missing a required permission"
      context := [("required_any_of", .strs fulfillmentReadPermissions)] }

/-- What the fulfillment queue is narrowed to. -/
structure PackageFilter where
  orderNo : Option String := none
  fulfillmentStatus : Option String := none

def PackageFilter.admits (filter : PackageFilter) (f : Package) : Bool :=
  decide ((∀ s ∈ filter.fulfillmentStatus, f.fulfillmentStatus.value = s) ∧ ∀ n ∈ filter.orderNo, f.orderNo = n)

def adminFulfillments (rt : Runtime) (t : Tables) (principal : Identity.Principal) (filter : PackageFilter)
    (page pageSize : Nat) : Except AppError (Page Package) := do
  assertCanRead principal
  Raise.raiseIf (∃ s ∈ filter.fulfillmentStatus, s ∉ fulfillmentStatuses)
    { kind := .validation
      message := "unknown fulfillment_status " ++ rt.reprText (filter.fulfillmentStatus.getD "")
      context := [("allowed", .strs fulfillmentStatuses)] }
  return paginate (newestFirst Package.createdAt
    (t.fulfillments.select fun f => decide (∀ m ∈ principal.merchantId, f.merchantId = m) && filter.admits f))
    (pageOffset page pageSize) pageSize

/-! ## Claims -/

def claimMissing : AppError := { kind := .afterSaleNotFound, message := "after-sale claim not found" }

def customerClaim (t : Tables) (principal : Identity.Principal) (afterSaleNo : String) : Except AppError (Nat × Claim) :=
  Raise.orRaise (t.claimByNo afterSaleNo none (some principal.userId)) claimMissing

def unattachedStaff : AppError := { kind := .validation, message := "this staff account is not attached to a merchant" }

def adminClaim (t : Tables) (principal : Identity.Principal) (afterSaleNo : String) : Except AppError (Nat × Claim) := do
  principal.requirePermission "after_sale:read"
  let merchantId ← Raise.orRaise principal.merchantId unattachedStaff
  Raise.orRaise (t.claimByNo afterSaleNo (some merchantId) none) claimMissing

end NovaCommerce.Console
