import NovaCommerce.Core
import NovaCommerce.Pricing.ValueObjects

/-!
# The database

One row type per table, with the columns the modelled operations read or write, and `Db`, the
tables together. A table is a `Dict` from the auto-increment id; the append-only tables
(`order_status_logs`, `inventory_movements`, `coupon_usage_records`, `outbox_messages`) are lists in
insertion order. `RowLock` names what a statement can lock: a row, or the value of a unique key that
an insert claims.
-/

namespace NovaCommerce

/-! ## Orders -/

inductive OrderStatus where
  | pendingPayment
  | processing
  | completed
  | cancelled
  | closed
  deriving DecidableEq, Repr

def OrderStatus.value : OrderStatus → String
  | .pendingPayment => "PENDING_PAYMENT"
  | .processing => "PROCESSING"
  | .completed => "COMPLETED"
  | .cancelled => "CANCELLED"
  | .closed => "CLOSED"

inductive PaymentStatus where
  | unpaid
  | paying
  | paid
  | partialRefunded
  | refunded
  deriving DecidableEq, Repr

def PaymentStatus.value : PaymentStatus → String
  | .unpaid => "UNPAID"
  | .paying => "PAYING"
  | .paid => "PAID"
  | .partialRefunded => "PARTIAL_REFUNDED"
  | .refunded => "REFUNDED"

inductive FulfillmentStatus where
  | unfulfilled
  | partialShipped
  | shipped
  | delivered
  deriving DecidableEq, Repr

def FulfillmentStatus.value : FulfillmentStatus → String
  | .unfulfilled => "UNFULFILLED"
  | .partialShipped => "PARTIAL_SHIPPED"
  | .shipped => "SHIPPED"
  | .delivered => "DELIVERED"

inductive AfterSaleStatus where
  | none
  | processing
  | partialRefunded
  | refunded
  deriving DecidableEq, Repr

def AfterSaleStatus.value : AfterSaleStatus → String
  | .none => "NONE"
  | .processing => "PROCESSING"
  | .partialRefunded => "PARTIAL_REFUNDED"
  | .refunded => "REFUNDED"

inductive OperatorType where
  | system
  | customer
  | staff
  | agent
  | mcp
  | worker
  deriving DecidableEq, Repr

structure Order where
  merchantId : Nat
  userId : Nat
  orderNo : String
  clientRequestId : String
  requestHash : String
  orderStatus : OrderStatus := .pendingPayment
  paymentStatus : PaymentStatus := .unpaid
  fulfillmentStatus : FulfillmentStatus := .unfulfilled
  afterSaleStatus : AfterSaleStatus := .none
  originalAmount : Int
  promotionDiscountAmount : Int := 0
  couponDiscountAmount : Int := 0
  shippingAmount : Int := 0
  payableAmount : Int
  paidAmount : Int := 0
  refundedAmount : Int := 0
  couponId : Option Nat := none
  promotionId : Option Nat := none
  addressId : Option Nat := none
  remark : Option String := none
  cancelReason : Option String := none
  itemCount : Int := 0
  firstItemName : String := ""
  expiresAt : Option Time := none
  paidAt : Option Time := none
  completedAt : Option Time := none
  cancelledAt : Option Time := none
  closedAt : Option Time := none
  updatedAt : Time := 0
  version : Nat := 0

structure OrderItem where
  orderId : Nat
  warehouseId : Nat
  productId : Nat
  skuId : Nat
  productName : String
  skuName : String
  unitPrice : Int
  quantity : Int
  originalAmount : Int
  promotionDiscountAmount : Int := 0
  couponDiscountAmount : Int := 0
  payableAmount : Int
  refundedAmount : Int := 0
  afterSaleStatus : AfterSaleStatus := .none

structure OrderStatusLog where
  orderId : Nat
  orderNo : String
  fromStatus : Option OrderStatus
  toStatus : OrderStatus
  reason : Option String
  operatorType : OperatorType
  operatorId : Option Nat
  deriving DecidableEq

/-! ## Payments -/

inductive PaymentRecordStatus where
  | initiated
  | paying
  | success
  | failed
  | closed
  | refunded
  | partialRefunded
  deriving DecidableEq, Repr

def PaymentRecordStatus.value : PaymentRecordStatus → String
  | .initiated => "INITIATED"
  | .paying => "PAYING"
  | .success => "SUCCESS"
  | .failed => "FAILED"
  | .closed => "CLOSED"
  | .refunded => "REFUNDED"
  | .partialRefunded => "PARTIAL_REFUNDED"

inductive CallbackProcessStatus where
  | received
  | processed
  | failed
  | ignored
  deriving DecidableEq, Repr

structure Payment where
  paymentNo : String
  orderId : Nat
  orderNo : String
  merchantId : Nat
  userId : Nat
  channel : String
  amount : Int
  status : PaymentRecordStatus
  externalTransactionNo : Option String := none
  idempotencyKey : String
  clientRequestId : String
  requestHash : String
  paidAmount : Int := 0
  refundedAmount : Int := 0
  expiresAt : Option Time := none
  paidAt : Option Time := none
  closedAt : Option Time := none
  createdAt : Time := 0
  updatedAt : Time := 0

structure PaymentCallback where
  provider : String
  providerEventId : String
  eventType : String
  receivedAt : Time
  paymentNo : Option String := none
  orderNo : Option String := none
  merchantId : Option Nat := none
  payloadSnapshot : Option JsonObject := none
  signatureValid : Bool := false
  processStatus : CallbackProcessStatus := .received
  processError : Option String := none
  processedAt : Option Time := none
  attemptCount : Nat := 1

inductive CompensationStatus where
  | pending
  | processing
  | succeeded
  | reconciliationRequired
  deriving DecidableEq, Repr

structure PaymentCompensationRefund where
  merchantId : Nat
  paymentId : Nat
  orderId : Nat
  callbackId : Option Nat
  amount : Int
  status : CompensationStatus := .pending
  providerRefundNo : Option String := none
  failureReason : Option String := none

/-! ## Inventory -/

inductive MovementType where
  | purchaseIn
  | orderLock
  | orderRelease
  | orderDeduct
  | returnIn
  | manualAdjust
  | damagedOut
  deriving DecidableEq, Repr

inductive ReferenceType where
  | order
  | orderItem
  | afterSale
  | purchaseOrder
  | manual
  | reconciliation
  deriving DecidableEq, Repr

structure Warehouse where
  merchantId : Nat
  active : Bool := true
  isDefault : Bool := false

structure Inventory where
  warehouseId : Nat
  skuId : Nat
  availableQty : Int
  lockedQty : Int := 0
  safetyStock : Int := 0
  totalInQty : Int := 0
  totalOutQty : Int := 0
  version : Nat := 0
  lastMovementAt : Option Time := none

structure InventoryMovement where
  warehouseId : Nat
  skuId : Nat
  movementType : MovementType
  deltaAvailable : Int
  deltaLocked : Int
  beforeAvailable : Int
  afterAvailable : Int
  beforeLocked : Int
  afterLocked : Int
  referenceType : ReferenceType
  referenceId : Option Nat
  operatorType : OperatorType
  operatorId : Option Nat
  idempotencyKey : String
  reason : Option String := none

/-! ## Coupons -/

inductive UserCouponStatus where
  | unused
  | locked
  | used
  | expired
  deriving DecidableEq, Repr

structure UserCoupon where
  merchantId : Nat
  templateId : Nat
  userId : Nat
  status : UserCouponStatus := .unused
  validFrom : Time
  validTo : Time
  orderId : Option Nat := none
  lockedAt : Option Time := none
  usedAt : Option Time := none

inductive CouponAction where
  | lock
  | use
  | release
  deriving DecidableEq, Repr

structure CouponUsageRecord where
  merchantId : Nat
  userCouponId : Nat
  orderId : Nat
  action : CouponAction
  deriving DecidableEq

inductive TemplateStatus where
  | draft
  | active
  | ended
  deriving DecidableEq, Repr

inductive ValidityType where
  | relative
  | absolute
  deriving DecidableEq, Repr

/-- The products a promotion or a coupon is for. -/
structure Scope where
  allProducts : Bool
  productIds : List Nat := []
  categoryIds : List Nat := []
  brandIds : List Nat := []

structure CouponTemplate where
  merchantId : Nat
  couponType : Pricing.CouponType
  status : TemplateStatus := .draft
  faceValueAmount : Option Int := none
  discountBps : Option Int := none
  thresholdAmount : Int := 0
  maxDiscountAmount : Option Int := none
  totalQuota : Int
  issuedCount : Int := 0
  perUserLimit : Int
  validityType : ValidityType
  validDays : Option Nat := none
  validFrom : Option Time := none
  validTo : Option Time := none
  applicableScope : Scope

/-! ## Promotions -/

/-- The keys a promotion's `rule_config` may hold. -/
structure RuleConfig where
  thresholdAmount : Option Int := none
  discountAmount : Option Int := none
  discountBps : Option Int := none
  reductionAmount : Option Int := none
  maxDiscountAmount : Option Int := none

structure Promotion where
  merchantId : Nat
  promotionType : Pricing.PromotionType
  status : TemplateStatus := .draft
  priority : Int := 100
  ruleConfig : RuleConfig
  scope : Scope
  startsAt : Time
  endsAt : Time
  totalQuota : Int
  usedQuota : Int := 0

/-! ## Catalogue and addresses -/

inductive ProductStatus where
  | draft
  | published
  | unpublished
  | archived
  deriving DecidableEq, Repr

def ProductStatus.value : ProductStatus → String
  | .draft => "DRAFT"
  | .published => "PUBLISHED"
  | .unpublished => "UNPUBLISHED"
  | .archived => "ARCHIVED"

inductive SkuStatus where
  | active
  | inactive
  | discontinued
  deriving DecidableEq, Repr

def SkuStatus.value : SkuStatus → String
  | .active => "ACTIVE"
  | .inactive => "INACTIVE"
  | .discontinued => "DISCONTINUED"

inductive ImageRole where
  | primary
  | gallery
  | detail
  deriving DecidableEq, Repr

/-- The attribute values of a SKU, as they were copied onto it. -/
abbrev AttributeSnapshot := List (String × String)

structure Product where
  merchantId : Option Nat
  productNo : String
  name : String
  categoryId : Option Nat := none
  brandId : Option Nat := none
  status : ProductStatus := .draft
  deletedAt : Option Time := none

structure ProductSku where
  productId : Nat
  skuNo : String
  name : String
  priceAmount : Int
  status : SkuStatus := .active
  attributeSnapshot : Option AttributeSnapshot := none
  deletedAt : Option Time := none

structure ProductImage where
  productId : Nat
  objectKey : String
  role : ImageRole := .gallery
  sortOrder : Int := 0

structure UserAddress where
  userId : Nat
  deletedAt : Option Time := none

/-! ## Fulfillment and outbox -/

structure FulfillmentItem where
  orderItemId : Nat
  skuId : Nat
  productName : String
  skuName : String
  quantity : Int

inductive Carrier where
  | sf
  | yto
  | jd
  | zto
  | sto
  | yd
  | ems
  | other
  deriving DecidableEq, Repr

structure Fulfillment where
  fulfillmentNo : String
  orderId : Nat
  orderNo : String
  merchantId : Nat
  warehouseId : Nat
  fulfillmentStatus : FulfillmentStatus := .unfulfilled
  packageCount : Nat := 1
  carrier : Option Carrier := none
  trackingNo : Option String := none
  shippedAt : Option Time := none
  remark : Option String := none
  items : List FulfillmentItem

inductive OutboxEventType where
  | orderCreated
  | paymentSettled
  | refundSucceeded
  deriving DecidableEq, Repr

inductive OutboxAggregateType where
  | order
  | payment
  | refund
  | afterSale
  deriving DecidableEq, Repr

structure OutboxMessage where
  eventType : OutboxEventType
  aggregateType : OutboxAggregateType
  aggregateId : Nat
  idempotencyKey : String
  payload : JsonObject
  merchantId : Option Nat

/-! ## After-sales -/

inductive AfterSaleType where
  | refundOnly
  | returnRefund
  deriving DecidableEq, Repr

def AfterSaleType.value : AfterSaleType → String
  | .refundOnly => "REFUND_ONLY"
  | .returnRefund => "RETURN_REFUND"

inductive AfterSaleClaimStatus where
  | pending
  | approved
  | rejected
  | cancelled
  | completed
  deriving DecidableEq, Repr

def AfterSaleClaimStatus.value : AfterSaleClaimStatus → String
  | .pending => "PENDING"
  | .approved => "APPROVED"
  | .rejected => "REJECTED"
  | .cancelled => "CANCELLED"
  | .completed => "COMPLETED"

structure AfterSale where
  merchantId : Nat
  afterSaleNo : String
  orderId : Nat
  orderNo : String
  userId : Nat
  type : AfterSaleType
  claimStatus : AfterSaleClaimStatus := .pending
  requestedAmount : Int
  approvedAmount : Int := 0
  refundedAmount : Int := 0
  reason : String
  description : Option String := none
  rejectReason : Option String := none
  processedAt : Option Time := none
  completedAt : Option Time := none
  idempotencyKey : String
  clientRequestId : String
  requestHash : String

structure AfterSaleItem where
  afterSaleId : Nat
  orderItemId : Nat
  productName : String
  skuName : String
  quantity : Int

inductive RefundStatus where
  | pending
  | succeeded
  | failed
  deriving DecidableEq, Repr

structure Refund where
  merchantId : Nat
  refundNo : String
  afterSaleId : Nat
  orderId : Nat
  orderNo : String
  paymentId : Option Nat
  userId : Nat
  amount : Int
  status : RefundStatus
  reason : Option String
  operatorType : OperatorType
  operatorId : Option Nat
  idempotencyKey : String
  requestHash : String
  completedAt : Option Time := none

/-! ## Idempotency records -/

inductive IdempotencyStatus where
  | inProgress
  | completed
  | failed
  deriving DecidableEq, Repr

structure IdempotencyRecord where
  scope : String
  idempotencyKey : String
  requestHash : String
  status : IdempotencyStatus := .inProgress
  resourceType : Option String := none
  resourceId : Option Nat := none
  responseSnapshot : Option JsonObject := none

/-! ## All tables -/

structure Db where
  orders : Dict Nat Order := Dict.empty
  orderItems : Dict Nat OrderItem := Dict.empty
  statusLogs : List OrderStatusLog := []
  payments : Dict Nat Payment := Dict.empty
  callbacks : Dict Nat PaymentCallback := Dict.empty
  compensations : Dict Nat PaymentCompensationRefund := Dict.empty
  warehouses : Dict Nat Warehouse := Dict.empty
  inventories : Dict Nat Inventory := Dict.empty
  movements : List InventoryMovement := []
  couponTemplates : Dict Nat CouponTemplate := Dict.empty
  userCoupons : Dict Nat UserCoupon := Dict.empty
  couponUsages : List CouponUsageRecord := []
  promotions : Dict Nat Promotion := Dict.empty
  products : Dict Nat Product := Dict.empty
  productSkus : Dict Nat ProductSku := Dict.empty
  productImages : Dict Nat ProductImage := Dict.empty
  addresses : Dict Nat UserAddress := Dict.empty
  fulfillments : Dict Nat Fulfillment := Dict.empty
  outbox : List OutboxMessage := []
  afterSales : Dict Nat AfterSale := Dict.empty
  afterSaleItems : Dict Nat AfterSaleItem := Dict.empty
  refunds : Dict Nat Refund := Dict.empty
  idempotency : Dict Nat IdempotencyRecord := Dict.empty

/-- What a statement can lock: a row by its id, or the value of a unique key. -/
inductive RowLock where
  | order (id : Nat)
  | orderItem (id : Nat)
  | payment (id : Nat)
  | compensation (id : Nat)
  | fulfillment (id : Nat)
  | inventory (id : Nat)
  | userCoupon (id : Nat)
  | couponTemplate (id : Nat)
  | promotion (id : Nat)
  | afterSale (id : Nat)
  | callbackEvent (provider eventId : String)
  | movementKey (key : String)
  | outboxEvent (eventType : OutboxEventType) (aggregateType : OutboxAggregateType) (aggregateId : Nat)
  | idempotencyKey (scope key : String)
  | orderRequest (userId : Nat) (clientRequestId : String)
  | paymentKey (merchantId : Nat) (key : String)
  | paymentRequest (userId : Nat) (clientRequestId : String)
  | afterSaleKey (merchantId : Nat) (key : String)
  | afterSaleRequest (userId : Nat) (clientRequestId : String)
  | refundKey (merchantId : Nat) (key : String)
  deriving DecidableEq

/-- A program of one database session of the shop. -/
abbrev Tx (α : Type) := Sql Db RowLock AppError α

/-- No row uses the id. -/
structure Db.Fresh (d : Db) (i : Nat) : Prop where
  orders : d.orders.get? i = none
  orderItems : d.orderItems.get? i = none
  payments : d.payments.get? i = none
  callbacks : d.callbacks.get? i = none
  compensations : d.compensations.get? i = none
  fulfillments : d.fulfillments.get? i = none
  userCoupons : d.userCoupons.get? i = none
  afterSales : d.afterSales.get? i = none
  afterSaleItems : d.afterSaleItems.get? i = none
  refunds : d.refunds.get? i = none
  idempotency : d.idempotency.get? i = none

/-- No row uses an id that is still to be drawn. -/
def Db.FreshFrom (d : Db) (next : Nat) : Prop := ∀ i, next ≤ i → d.Fresh i

end NovaCommerce
