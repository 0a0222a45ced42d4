import NovaCommerce.Lib.Raise

/-!
# Pricing value objects

The shapes the price authority works on: cart lines, priced items, allocations, rules, the priced
cart and the snapshot. Money is `Int` minor units, rates are `Int` basis points, ids are `Nat`.
`δ` is the type of a line's `sku_snapshot`, which pricing only compares.
-/

namespace NovaCommerce.Pricing

/-- How a promotion computes its discount. -/
inductive PromotionType where
  | directDiscount
  | percentDiscount
  | fullReduction
  deriving DecidableEq, Repr

/-- How a coupon computes its discount. -/
inductive CouponType where
  | fixedAmount
  | percentDiscount
  deriving DecidableEq, Repr

/-- Why a supplied rule produced less than it promised. -/
inductive PricingWarning where
  | promotionScopeNoMatch
  | promotionThresholdNotMet
  | couponScopeNoMatch
  | couponThresholdNotMet
  deriving DecidableEq, Repr

def promotionWarnings : List PricingWarning := [.promotionScopeNoMatch, .promotionThresholdNotMet]

def couponWarnings : List PricingWarning := [.couponScopeNoMatch, .couponThresholdNotMet]

/-- 100% in basis points. -/
def maxDiscountBps : Int := 10000

/-- A value in an error's context. -/
inductive ContextValue where
  | int (value : Int)
  | ints (values : List Int)
  | str (value : String)
  deriving DecidableEq, Repr

/-- A pricing precondition or invariant was violated. -/
structure PricingInvariantError where
  message : String
  context : List (String × ContextValue) := []
  deriving DecidableEq, Repr

/-- One cart line: a snapshot of the SKU, and a quantity. -/
structure PricedLine (δ : Type) where
  skuId : Nat
  productId : Nat
  productName : String
  skuName : String
  imageObjectKey : Option String
  imageUrl : Option String
  skuSnapshot : Option δ
  unitPrice : Int
  quantity : Int
  deriving DecidableEq, Repr

/-- A line and its price times quantity. -/
structure ItemPrice (δ : Type) where
  line : PricedLine δ
  originalAmount : Int
  deriving DecidableEq, Repr

/-- How much of an order-level discount landed on one SKU. -/
structure DiscountAllocation where
  skuId : Nat
  amount : Int
  deriving DecidableEq, Repr

/-- The resolved view of a promotion's rule configuration and scope. -/
structure PromotionRule where
  promotionId : Nat
  promotionType : PromotionType
  thresholdAmount : Int := 0
  discountAmount : Int := 0
  discountBps : Int := 0
  reductionAmount : Int := 0
  maxDiscountAmount : Option Int := none
  applicableSkuIds : Option (Finset Nat) := none
  deriving DecidableEq

/-- The resolved view of a coupon's configuration and scope. -/
structure CouponRule where
  couponId : Nat
  couponType : CouponType
  thresholdAmount : Int := 0
  faceValueAmount : Int := 0
  discountBps : Int := 0
  maxDiscountAmount : Option Int := none
  applicableSkuIds : Option (Finset Nat) := none
  deriving DecidableEq

/-- Whether a scope includes a SKU; `none` means all. -/
def inScope (scope : Option (Finset Nat)) (skuId : Nat) : Bool :=
  match scope with
  | none => true
  | some skus => decide (skuId ∈ skus)

def PromotionRule.covers (rule : PromotionRule) (skuId : Nat) : Bool :=
  inScope rule.applicableSkuIds skuId

def CouponRule.covers (rule : CouponRule) (skuId : Nat) : Bool :=
  inScope rule.applicableSkuIds skuId

/-- A fully priced cart: one allocation entry per item, in cart order, for each discount. -/
structure CartPrice (δ : Type) where
  items : List (ItemPrice δ)
  originalAmount : Int
  promotionDiscountAmount : Int
  couponDiscountAmount : Int
  shippingAmount : Int
  payableAmount : Int
  promotionAllocations : List DiscountAllocation
  couponAllocations : List DiscountAllocation
  warnings : List PricingWarning := []
  deriving DecidableEq

/-- What the order persists. -/
structure PriceSnapshot (δ : Type) where
  items : List (ItemPrice δ)
  originalAmount : Int
  promotionDiscountAmount : Int
  couponDiscountAmount : Int
  shippingAmount : Int
  payableAmount : Int
  promotionAllocations : List DiscountAllocation
  couponAllocations : List DiscountAllocation
  promotionIds : List Nat
  couponIds : List Nat
  shippingPolicy : String
  deriving DecidableEq

variable {δ : Type}

/-- `_amount_for`: the first allocation recorded for a SKU. -/
def amountFor (allocations : List DiscountAllocation) (skuId : Nat) :
    Except PricingInvariantError Int :=
  match allocations.find? (fun a => a.skuId = skuId) with
  | some a => .ok a.amount
  | none => .error { message := "no allocation recorded for this sku", context := [("sku_id", .int skuId)] }

/-- `_item_for`: the item of a SKU. -/
def itemFor (items : List (ItemPrice δ)) (skuId : Nat) :
    Except PricingInvariantError (ItemPrice δ) :=
  match items.find? (fun i => i.line.skuId = skuId) with
  | some i => .ok i
  | none => .error { message := "sku is not part of this priced cart", context := [("sku_id", .int skuId)] }

def CartPrice.promotionAllocation (cart : CartPrice δ) (skuId : Nat) :
    Except PricingInvariantError Int :=
  amountFor cart.promotionAllocations skuId

def CartPrice.couponAllocation (cart : CartPrice δ) (skuId : Nat) :
    Except PricingInvariantError Int :=
  amountFor cart.couponAllocations skuId

def CartPrice.allocatedDiscount (cart : CartPrice δ) (skuId : Nat) :
    Except PricingInvariantError Int := do
  return (← cart.promotionAllocation skuId) + (← cart.couponAllocation skuId)

/-- `order_items.payable_amount` of one SKU: what it cost less what was allocated to it. -/
def CartPrice.itemPayableAmount (cart : CartPrice δ) (skuId : Nat) :
    Except PricingInvariantError Int := do
  let item ← itemFor cart.items skuId
  return item.originalAmount - (← cart.allocatedDiscount skuId)

def PriceSnapshot.promotionAllocation (snapshot : PriceSnapshot δ) (skuId : Nat) :
    Except PricingInvariantError Int :=
  amountFor snapshot.promotionAllocations skuId

def PriceSnapshot.couponAllocation (snapshot : PriceSnapshot δ) (skuId : Nat) :
    Except PricingInvariantError Int :=
  amountFor snapshot.couponAllocations skuId

def PriceSnapshot.allocatedDiscount (snapshot : PriceSnapshot δ) (skuId : Nat) :
    Except PricingInvariantError Int := do
  return (← snapshot.promotionAllocation skuId) + (← snapshot.couponAllocation skuId)

def PriceSnapshot.itemPayableAmount (snapshot : PriceSnapshot δ) (skuId : Nat) :
    Except PricingInvariantError Int := do
  let item ← itemFor snapshot.items skuId
  return item.originalAmount - (← snapshot.allocatedDiscount skuId)

def PriceSnapshot.itemCount (snapshot : PriceSnapshot δ) : Int :=
  (snapshot.items.map fun item => item.line.quantity).sum

/-- Something that can price shipping for a priced cart. -/
structure ShippingPolicy (δ : Type) where
  name : String
  calculate : CartPrice δ → Int

/-- The V1 policy: shipping is free. -/
def freeShippingPolicy (name : String := "FREE") : ShippingPolicy δ where
  name := name
  calculate := fun _ => 0

end NovaCommerce.Pricing
