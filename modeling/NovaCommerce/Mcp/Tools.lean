import NovaCommerce.Console.Catalogue
import NovaCommerce.Console.Metrics
import NovaCommerce.Console.Promotions
import NovaCommerce.Console.Trade
import NovaCommerce.Mcp.Policy

/-!
# The tools

Each handler calls one service for the caller of the verified token, and shapes the answer. Arguments are what the input
models accept: a date or a draft that does not parse is `none`, or the text of the refusal.

* `Tool.Input`, `Tool.Output` : the arguments and the answer of each tool;
* `skuGet` … `promotionPropose` : the handlers; `handle` : the table of handlers;
* `Failure` : what a handler raises or returns in place of an answer.
-/

namespace NovaCommerce.Mcp

open Console

/-! ## Failures -/

/-- A failure of a handler. The server puts the tool's name in front of what a service raised and of a refusal that was
returned, and leaves a tool error that was raised as it is. -/
structure Failure where
  error : AppError
  named : Bool := true

/-- `_fail`. -/
def toolError (kind : ErrorKind) (message : String) : Failure := { error := { kind := kind, message := message }, named := false }

/-- `error_result`. -/
def errorResult (kind : ErrorKind) (message : String) : Failure := { error := { kind := kind, message := message } }

/-- A call of a service. -/
def service {α : Type} (r : Except AppError α) : Except Failure α := r.mapError fun e => { error := e }

/-! ## Arguments -/

structure ProductSearchInput where
  keyword : Option String := none
  status : Option String := none
  page : Nat := 1
  pageSize : Nat := 20

structure SkuGetInput where
  skuId : Option Nat := none
  skuCode : Option String := none
  productId : Option Nat := none

structure OrderSearchInput extends OrderFilter where
  page : Nat := 1
  pageSize : Nat := 20

structure InventoryGetInput where
  lowStockOnly : Bool := false
  limit : Nat := 50

/-- A window of days, and how it is grouped. -/
structure AnalyticsInput where
  fromDay : Option Int
  toDay : Option Int
  granularity : Option Granularity := some .day

structure AnalyticsSalesInput extends AnalyticsInput where
  metric : String := "sales.gmv"

structure KnowledgeSearchInput where
  query : String
  knowledgeBaseId : Nat
  topK : Nat := 5

structure PromotionPreviewInput where
  draft : Except String PromotionDraft

structure PromotionProposeInput extends PromotionPreviewInput where
  summary : String

/-! ## Answers -/

structure ProductSummaryOut where
  id : Nat
  productNo : String
  name : String
  status : ProductStatus
  minPriceAmount : Int
  maxPriceAmount : Int
  salesCount : Int
  categoryName : Option String

structure SkuOut where
  id : Nat
  skuNo : String
  skuCode : String
  name : String
  productId : Nat
  priceAmount : Int
  marketPriceAmount : Int
  status : SkuStatus
  attributeSnapshot : AttributeSnapshot

structure ProductGetOut extends ProductSummaryOut where
  subtitle : Option String
  description : Option String
  skus : List SkuOut

structure Listed (α : Type) where
  total : Nat
  items : List α

structure OrderSummaryOut where
  id : Nat
  orderNo : String
  orderStatus : OrderStatus
  paymentStatus : PaymentStatus
  fulfillmentStatus : FulfillmentStatus
  payableAmount : Int
  paidAmount : Int
  refundedAmount : Int
  itemCount : Int
  createdAt : Time

structure OrderGetOut extends OrderSummaryOut where
  expiresAt : Option Time
  paidAt : Option Time

structure FulfillmentOut where
  id : Nat
  fulfillmentNo : String
  orderId : Nat
  fulfillmentStatus : FulfillmentStatus
  carrier : Option Carrier
  trackingNo : Option String
  shippedAt : Option Time

structure FulfillmentGetOut where
  orderNo : String
  packages : List FulfillmentOut

structure AfterSaleGetOut where
  id : Nat
  afterSaleNo : String
  orderNo : String
  claimStatus : AfterSaleClaimStatus
  type : AfterSaleType
  requestedAmount : Int
  approvedAmount : Int
  refundedAmount : Int
  reason : String
  createdAt : Time

structure InventoryPositionOut where
  skuId : Nat
  productId : Nat
  skuCode : String
  skuName : String
  warehouseId : Nat
  availableQty : Int
  lockedQty : Int
  safetyStock : Int
  belowSafetyStock : Bool

structure InventoryGetOut where
  totalPositions : Nat
  lowStockOnly : Bool
  positions : List InventoryPositionOut

structure AnalyticsWindowOut (ν : Type) where
  metric : Metric
  fromDay : Int
  toDay : Int
  granularity : Granularity
  total : Option (Number ν)
  series : List (String × Option (Number ν))
  dimensions : List (String × String × String)

structure AnomalyOut (ν : Type) where
  fromDay : Int
  toDay : Int
  granularity : Granularity
  baselineDays : Int
  orderCount : Option (Number ν)
  previousOrderCount : Option (Number ν)
  refundRate : Option (Number ν)
  orderCountChangeRatio : Option ν
  anomalySuspected : Bool

structure KnowledgeSearchOut where
  query : String
  knowledgeBaseId : Nat
  evidence : List Evidence

structure PromotionProposeOut where
  pendingActionId : Nat
  status : String
  riskLevel : String
  actionType : String
  expiresAt : Time

/-- The arguments of a tool. -/
def Tool.Input : Tool → Type
  | .productSearch => ProductSearchInput
  | .productGet => Nat
  | .skuGet => SkuGetInput
  | .orderGet => String
  | .orderSearch => OrderSearchInput
  | .fulfillmentGet => String
  | .afterSaleGet => String
  | .inventoryGet => InventoryGetInput
  | .analyticsSales => AnalyticsSalesInput
  | .analyticsInventory => AnalyticsInput
  | .analyticsProductPerformance => AnalyticsInput
  | .analyticsRefunds => AnalyticsInput
  | .analyticsAnomalies => AnalyticsInput
  | .knowledgeSearch => KnowledgeSearchInput
  | .promotionPreview => PromotionPreviewInput
  | .promotionPropose => PromotionProposeInput

/-- The answer of a tool. -/
def Tool.Output (ν : Type) : Tool → Type
  | .productSearch => Listed ProductSummaryOut
  | .productGet => ProductGetOut
  | .skuGet => SkuOut
  | .orderGet => OrderGetOut
  | .orderSearch => Listed OrderSummaryOut
  | .fulfillmentGet => FulfillmentGetOut
  | .afterSaleGet => AfterSaleGetOut
  | .inventoryGet => InventoryGetOut
  | .analyticsSales => AnalyticsWindowOut ν
  | .analyticsInventory => AnalyticsWindowOut ν
  | .analyticsProductPerformance => AnalyticsWindowOut ν
  | .analyticsRefunds => AnalyticsWindowOut ν
  | .analyticsAnomalies => AnomalyOut ν
  | .knowledgeSearch => KnowledgeSearchOut
  | .promotionPreview => PromotionPreview
  | .promotionPropose => PromotionProposeOut

/-! ## Catalogue -/

def productSummary (p : ProductDetail) : ProductSummaryOut :=
  ⟨p.id, p.product.productNo, p.product.name, p.product.status, p.product.minPrice, p.product.maxPrice,
    p.product.salesCount, p.categoryName⟩

def skuOut (e : Nat × CatalogSku) : SkuOut :=
  ⟨e.1, e.2.skuNo, e.2.skuCode, e.2.name, e.2.productId, e.2.priceAmount, e.2.marketPriceAmount, e.2.status,
    e.2.attributeSnapshot.getD []⟩

def productSearch (t : Tables) (principal : Identity.Principal) (input : ProductSearchInput) :
    Except Failure (Listed ProductSummaryOut) := do
  let page ← service (listProducts t principal input.keyword input.status input.page input.pageSize)
  return ⟨page.total, page.rows.map fun e => productSummary e.2⟩

def productGet (t : Tables) (principal : Identity.Principal) (productId : Nat) : Except Failure ProductGetOut := do
  let p ← service (productDetail t principal productId)
  let sorted := p.skus.insertionSort fun a b =>
    a.2.sortOrder < b.2.sortOrder ∨ (a.2.sortOrder = b.2.sortOrder ∧ a.1 ≤ b.1)
  return { productSummary p with
    subtitle := p.product.subtitle
    description := p.product.description
    skus := sorted.map skuOut }

/-- One SKU, by its id or by the product and the code: both go through the product of the caller's merchant. -/
def skuGet (t : Tables) (principal : Identity.Principal) (input : SkuGetInput) : Except Failure SkuOut := do
  Raise.raiseIf (input.skuId = none ∧ input.skuCode = none) (toolError .validation "provide sku_id or sku_code")
  Raise.raiseIf (input.skuId ≠ none ∧ input.productId ≠ none)
    (toolError .validation "provide either sku_id or (product_id + sku_code), not both")
  match input.productId, input.skuCode, input.skuId with
  | some productId, some code, _ =>
    let product ← service (productDetail t principal productId)
    let found ← Raise.orRaise (product.skus.find? fun e => decide (e.2.skuCode = code))
      (toolError .skuNotFound "no SKU with that code belongs to the product")
    return skuOut found
  | _, _, some skuId =>
    -- the product of the SKU is looked up without a merchant
    let sku ← Raise.orRaise (t.skus.get? skuId) (toolError .skuNotFound "sku not found")
    let product ← service (productDetail t principal sku.productId)
    let found ← Raise.orRaise (product.skus.find? fun e => decide (e.1 = skuId)) (toolError .skuNotFound "sku not found")
    return skuOut found
  | _, _, none => .error (toolError .validation "provide sku_id or sku_code")

/-! ## Orders, packages and claims -/

def orderSummary (id : Nat) (o : PlacedOrder) : OrderSummaryOut :=
  ⟨id, o.orderNo, o.orderStatus, o.paymentStatus, o.fulfillmentStatus, o.payableAmount, o.paidAmount, o.refundedAmount,
    o.itemCount, o.createdAt⟩

def orderGet (t : Tables) (principal : Identity.Principal) (orderNo : String) : Except Failure OrderGetOut := do
  let found ← service (if principal.console then adminOrder t principal orderNo else customerOrder t principal orderNo)
  return { orderSummary found.id found.order with
    expiresAt := found.order.expiresAt
    paidAt := found.order.paidAt }

/-- A filter that was given and is not empty. -/
def given (value : Option String) : Bool := value.any fun s => decide (s ≠ "")

def orderSearch (t : Tables) (principal : Identity.Principal) (input : OrderSearchInput) :
    Except Failure (Listed OrderSummaryOut) := do
  Raise.raiseIf (principal.console = false ∧
      (given input.paymentStatus || given input.fulfillmentStatus || given input.orderNo) = true)
    (toolError .validation "the consumer order list supports only order_status and paging")
  let page ← service (if principal.console then adminOrders t principal input.toOrderFilter input.page input.pageSize
    else customerOrders t principal input.orderStatus input.page input.pageSize)
  return ⟨page.total, page.rows.map fun e => orderSummary e.1 e.2⟩

def fulfillmentOut (e : Nat × Package) : FulfillmentOut :=
  ⟨e.1, e.2.fulfillmentNo, e.2.orderId, e.2.fulfillmentStatus, e.2.carrier, e.2.trackingNo, e.2.shippedAt⟩

def fulfillmentGet (t : Tables) (principal : Identity.Principal) (orderNo : String) : Except Failure FulfillmentGetOut := do
  let rows ← service (forOrderNo t principal orderNo)
  return ⟨orderNo, rows.map fulfillmentOut⟩

def afterSaleGet (rt : Runtime) (t : Tables) (principal : Identity.Principal) (afterSaleNo : String) :
    Except Failure AfterSaleGetOut := do
  let (id, c) ← service (if principal.console then adminClaim t principal afterSaleNo else customerClaim t principal afterSaleNo)
  return ⟨id, c.afterSaleNo, c.orderNo, c.claimStatus, c.type, c.requestedAmount, c.approvedAmount, c.refundedAmount,
    Redaction.redactString rt.text c.reason, c.createdAt⟩

/-! ## Stock -/

def positionOut (t : Tables) (e : Nat × StockPosition) : InventoryPositionOut :=
  let sku := t.skus.get? e.2.skuId
  ⟨e.2.skuId, (sku.map fun s => s.productId).getD 0, (sku.map fun s => s.skuCode).getD "",
    (sku.map fun s => s.name).getD "", e.2.warehouseId, e.2.availableQty, e.2.lockedQty, e.2.safetyStock,
    decide (e.2.availableQty ≤ e.2.safetyStock)⟩

def inventoryGet (t : Tables) (principal : Identity.Principal) (input : InventoryGetInput) : Except Failure InventoryGetOut := do
  let page ← service (listPositions t principal.merchantId input.lowStockOnly input.limit)
  return ⟨page.total, input.lowStockOnly, page.rows.map (positionOut t)⟩

/-! ## Reports -/

section

variable {ν : Type} (num : Arithmetic ν)

/-- `_window` and `_granularity`. -/
def reportWindow (input : AnalyticsInput) : Except Failure (Int × Int × Granularity) := do
  let (fromDay, toDay) ← Raise.orRaise (input.fromDay.bind fun a => input.toDay.map fun b => (a, b))
    (errorResult .validation "from_day and to_day must be YYYY-MM-DD")
  Raise.raiseIf (toDay < fromDay) (errorResult .validation "from_day must not be after to_day")
  let granularity ← Raise.orRaise input.granularity (errorResult .validation "granularity must be day, week or month")
  return (fromDay, toDay, granularity)

/-- `_analytics_call`: what is denied is raised as a tool error. -/
def analyticsCall {α : Type} (r : Except AppError α) : Except Failure α :=
  r.mapError fun e =>
    if e.kind = .permissionDenied ∨ e.kind = .dataScopeViolation then toolError e.kind e.message else { error := e }

/-- `_metric`. -/
def windowMetric (t : Tables) (principal : Identity.Principal) (input : AnalyticsInput) (m : Metric) :
    Except Failure (AnalyticsWindowOut ν) := do
  let (fromDay, toDay, granularity) ← reportWindow input
  let found ← analyticsCall (metric num t principal m fromDay toDay granularity)
  return ⟨found.metric, found.fromDay, found.toDay, found.granularity, found.total, found.series, found.dimensions⟩

def analyticsSales (t : Tables) (principal : Identity.Principal) (input : AnalyticsSalesInput) :
    Except Failure (AnalyticsWindowOut ν) :=
  if input.metric = Metric.salesGmv.value then windowMetric num t principal input.toAnalyticsInput .salesGmv
  else if input.metric = Metric.salesOrderCount.value then windowMetric num t principal input.toAnalyticsInput .salesOrderCount
  else .error (toolError .validation "metric must be sales.gmv or sales.order_count")

/-- `_change_ratio`: nothing without a baseline. -/
def changeRatio (value reference : Option (Number ν)) : Option ν :=
  match reference with
  | some (.int 0) | none => none
  | some baseline => some (num.quotient (num.sub (value.getD (.int 0)) baseline) baseline)

def analyticsAnomalies (t : Tables) (principal : Identity.Principal) (input : AnalyticsInput) :
    Except Failure (AnomalyOut ν) := do
  let (fromDay, toDay, granularity) ← reportWindow input
  let baselineDays := toDay - fromDay + 1
  let previousTo ← service (checkedDay (fromDay - 1))
  let previousFrom ← service (checkedDay (previousTo - (baselineDays - 1)))
  let current ← analyticsCall (metric num t principal .salesOrderCount fromDay toDay granularity)
  let previous ← analyticsCall (metric num t principal .salesOrderCount previousFrom previousTo granularity)
  let refunds ← analyticsCall (metric num t principal .refundRate fromDay toDay granularity)
  let change := changeRatio num current.total previous.total
  return ⟨fromDay, toDay, granularity, baselineDays, current.total, previous.total, refunds.total, change,
    change.any num.atLeastHalf⟩

end

/-! ## Knowledge -/

def knowledgeSearch (rt : Runtime) (t : Tables) (principal : Identity.Principal) (input : KnowledgeSearchInput) :
    Except Failure KnowledgeSearchOut := do
  let evidence ← service (debugRetrieval t principal input.knowledgeBaseId input.query input.topK)
  return ⟨input.query, input.knowledgeBaseId, evidence.map fun e =>
    { e with snippet := Redaction.redactString rt.text e.snippet }⟩

/-! ## Promotions -/

/-- `_draft`. -/
def readDraft (draft : Except String PromotionDraft) : Except Failure PromotionDraft :=
  draft.mapError fun text => toolError .promotionRuleInvalid ("promotion draft is invalid: " ++ text)

def promotionPreview (t : Tables) (principal : Identity.Principal) (input : PromotionPreviewInput) (now : Time) :
    Except Failure PromotionPreview := do
  let draft ← readDraft input.draft
  service (previewPromotion t principal draft now)

/-- What a proposal asks to approve. -/
def proposalPayload (draft : PromotionDraft) (summary : String) : JsonObject := [
  ("promotion", draft.document),
  ("summary", .str summary),
  ("proposed_via", .str "mcp"),
  ("tool_name", .str "nova.promotion.propose")]

/-- The request for approval that a proposal files. -/
def proposalOf (rt : Runtime) (principal : Identity.Principal) (merchantId : Nat) (draft : PromotionDraft) (summary : String)
    (expiresAt : Time) : Proposal where
  merchantId := merchantId
  agentRunId := "mcp:" ++ if principal.sessionId = "" then toString principal.userId else principal.sessionId
  actionType := "PROMOTION_CREATE"
  toolName := "nova.promotion.propose"
  summary := summary
  riskLevel := "HIGH"
  status := "PENDING"
  payload := proposalPayload draft summary
  payloadHash := rt.payloadHash (proposalPayload draft summary)
  requestedBy := principal.userId
  expiresAt := expiresAt

/-- File a request for approval; nothing else is written. -/
def promotionPropose (rt : Runtime) (ttlSeconds : Nat) (t : Tables) (principal : Identity.Principal)
    (input : PromotionProposeInput) (now : Time) : Except Failure (PromotionProposeOut × Tables) := do
  let draft ← readDraft input.draft
  Raise.raiseIf (principal.hasPermission Tool.promotionPropose.spec.permission = false)
    (toolError .permissionDenied "proposing a promotion requires promotion:write")
  let merchantId ← Raise.orRaise principal.merchantId (toolError .mcpWriteNotPermitted
    "a proposal must name the merchant it is for; a token without one cannot propose")
  let action := proposalOf rt principal merchantId draft input.summary (now + ttlSeconds * 1000)
  return (⟨t.next, action.status, action.riskLevel, action.actionType, action.expiresAt⟩,
    { t with pendingActions := t.pendingActions.set t.next action, next := t.next + 1 })

/-! ## The handlers -/

/-- What the handlers run on. -/
structure Platform (ν : Type) where
  runtime : Runtime
  arithmetic : Arithmetic ν
  proposalTtlSeconds : Nat := 900

/-- A read leaves the tables as they are. -/
def reading {α : Type} (t : Tables) (r : Except Failure α) : Except Failure (α × Tables) := r.map fun a => (a, t)

/-- `HANDLERS`. -/
def handle {ν : Type} (platform : Platform ν) (t : Tables) (principal : Identity.Principal) (now : Time) :
    (tool : Tool) → tool.Input → Except Failure (tool.Output ν × Tables)
  | .productSearch, input => reading t (productSearch t principal input)
  | .productGet, input => reading t (productGet t principal input)
  | .skuGet, input => reading t (skuGet t principal input)
  | .orderGet, input => reading t (orderGet t principal input)
  | .orderSearch, input => reading t (orderSearch t principal input)
  | .fulfillmentGet, input => reading t (fulfillmentGet t principal input)
  | .afterSaleGet, input => reading t (afterSaleGet platform.runtime t principal input)
  | .inventoryGet, input => reading t (inventoryGet t principal input)
  | .analyticsSales, input => reading t (analyticsSales platform.arithmetic t principal input)
  | .analyticsInventory, input => reading t (windowMetric platform.arithmetic t principal input .inventoryTurnover)
  | .analyticsProductPerformance, input => reading t (windowMetric platform.arithmetic t principal input .productPerformance)
  | .analyticsRefunds, input => reading t (windowMetric platform.arithmetic t principal input .refundRate)
  | .analyticsAnomalies, input => reading t (analyticsAnomalies platform.arithmetic t principal input)
  | .knowledgeSearch, input => reading t (knowledgeSearch platform.runtime t principal input)
  | .promotionPreview, input => reading t (promotionPreview t principal input now)
  | .promotionPropose, input => promotionPropose platform.runtime platform.proposalTtlSeconds t principal input now

end NovaCommerce.Mcp
