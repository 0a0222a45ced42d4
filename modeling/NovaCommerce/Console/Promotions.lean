import NovaCommerce.Console.Schema
import NovaCommerce.Marketing.PromotionService

/-!
# Previewing a promotion

`previewPromotion` prices a draft against the catalogue and the orders of the last thirty days. It writes nothing, and its
caller must hold the permission to write promotions.
-/

namespace NovaCommerce.Console

open Pricing (PromotionType PricedLine PromotionRule calculateCartPrice)

/-- A promotion that passed its schema, and the document it is dumped to. -/
structure PromotionDraft where
  promotionType : PromotionType
  ruleConfig : RuleConfig
  scope : Scope
  startsAt : Time
  endsAt : Time
  document : Json

/-- `_merchant` of the promotions. -/
def promotionMerchant (principal : Identity.Principal) (write : Bool) : Except AppError Nat := do
  principal.requirePermission (if write then "promotion:write" else "promotion:read")
  Raise.orRaise principal.merchantId
    { kind := .permissionDenied, message := "a promotion requires a merchant-scoped operator" }

/-! ## Scopes -/

def Category.live (c : Category) (merchantId : Nat) : Bool := decide (c.merchantId = some merchantId ∧ c.deletedAt = none)

def Brand.live (b : Brand) (merchantId : Nat) : Bool := decide (b.merchantId = some merchantId ∧ b.deletedAt = none)

/-- `_scope_products`: the products of the merchant that a scope covers. -/
def scopeProducts (t : Tables) (merchantId : Nat) (scope : Scope) : Except AppError (List Nat) := do
  Raise.raiseIf (∃ c ∈ scope.categoryIds, (t.categories.get? c).any (fun row => row.live merchantId) = false)
    { kind := .validation, message := "promotion scope contains a category outside this merchant" }
  Raise.raiseIf (∃ b ∈ scope.brandIds, (t.brands.get? b).any (fun row => row.live merchantId) = false)
    { kind := .validation, message := "promotion scope contains a brand outside this merchant" }
  let products := t.products.select fun p => decide (p.merchantId = some merchantId ∧ p.deletedAt = none)
  Raise.raiseIf (∃ id ∈ scope.productIds, id ∉ products.map Prod.fst)
    { kind := .validation, message := "promotion scope contains a product outside this merchant" }
  return (products.filter fun e => decide (scope.Includes e.1 e.2.toProduct)).map Prod.fst

/-! ## Conflicts -/

/-- A promotion of the merchant that is not over, in a window that meets the draft's. -/
def Campaign.overlaps (c : Campaign) (merchantId : Nat) (draft : PromotionDraft) : Bool :=
  decide (c.merchantId = merchantId ∧ c.status ≠ .ended ∧ c.startsAt < draft.endsAt ∧ draft.startsAt < c.endsAt)

structure PromotionConflict where
  promotionId : Nat
  promotionNo : String
  reason : String

/-- The conflict with one promotion, when both cover a product. -/
def conflictWith (t : Tables) (merchantId : Nat) (productIds : List Nat) (e : Nat × Campaign) :
    Except AppError (Option PromotionConflict) := do
  let existing ← scopeProducts t merchantId e.2.scope
  return if ∃ id ∈ productIds, id ∈ existing then some ⟨e.1, e.2.promotionNo, "OVERLAPPING_WINDOW_AND_SCOPE"⟩ else none

/-! ## Impact -/

def thirtyDays : Nat := 2592000000

/-- The rule that a draft would have on the SKUs of an order. -/
def PromotionDraft.rule (draft : PromotionDraft) (items : List OrderItem) : PromotionRule where
  promotionId := 0
  promotionType := draft.promotionType
  thresholdAmount := draft.ruleConfig.thresholdAmount.getD 0
  discountAmount := draft.ruleConfig.discountAmount.getD 0
  discountBps := draft.ruleConfig.discountBps.getD 0
  reductionAmount := draft.ruleConfig.reductionAmount.getD 0
  maxDiscountAmount := draft.ruleConfig.maxDiscountAmount
  applicableSkuIds := some (items.map OrderItem.skuId).toFinset

def historicalLine (item : OrderItem) : PricedLine AttributeSnapshot :=
  ⟨item.skuId, item.productId, item.productName, item.skuName, none, none, none, item.unitPrice, item.quantity⟩

/-- The lines of the covered products on the merchant's orders of the last thirty days. -/
def Tables.historicalItems (t : Tables) (merchantId : Nat) (productIds : List Nat) (now : Time) : List OrderItem :=
  t.orderItems.values.filter fun i => decide (i.productId ∈ productIds) && (t.orders.get? i.orderId).any fun o =>
    decide (o.merchantId = merchantId ∧ now ≤ o.createdAt + thirtyDays)

structure PromotionImpact where
  affectedSkuCount : Nat
  affectedOrderCount30d : Nat
  estimatedDiscountAmount30d : Int

/-- What a draft would have taken off one order. -/
def discountOf (draft : PromotionDraft) (items : List OrderItem) : Except AppError Int :=
  (priced (calculateCartPrice (items.map historicalLine) (some (draft.rule items)) none none)).map fun cart =>
    cart.promotionDiscountAmount

/-- `_estimate_impact`. -/
def estimateImpact (t : Tables) (draft : PromotionDraft) (merchantId : Nat) (productIds : List Nat) (now : Time) :
    Except AppError PromotionImpact := do
  let historical := t.historicalItems merchantId productIds now
  let orderIds := (historical.map OrderItem.orderId).eraseDups
  let discounts ← orderIds.mapM fun id => discountOf draft (historical.filter fun i => decide (i.orderId = id))
  return {
    affectedSkuCount := (t.skus.select fun s => decide (s.productId ∈ productIds)).length
    affectedOrderCount30d := orderIds.length
    estimatedDiscountAmount30d := discounts.sum }

/-! ## The preview -/

structure PromotionPreview where
  conflicts : List PromotionConflict
  estimatedImpact : PromotionImpact
  warnings : List String

/-- `preview` of the promotions. -/
def previewPromotion (t : Tables) (principal : Identity.Principal) (draft : PromotionDraft) (now : Time) :
    Except AppError PromotionPreview := do
  let merchantId ← promotionMerchant principal true
  let productIds ← scopeProducts t merchantId draft.scope
  let conflicts ← (t.promotions.select fun c => c.overlaps merchantId draft).mapM (conflictWith t merchantId productIds)
  let impact ← estimateImpact t draft merchantId productIds now
  let found := conflicts.filterMap id
  return {
    conflicts := found
    estimatedImpact := impact
    warnings := if found = [] then [] else ["该促销与现有活动在时间和商品范围上重叠"] }

end NovaCommerce.Console
