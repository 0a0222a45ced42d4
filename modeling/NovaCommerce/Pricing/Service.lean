import NovaCommerce.Lib.ProRata
import NovaCommerce.Lib.Dict
import NovaCommerce.Pricing.ValueObjects

/-!
# The price authority

`calculateCartPrice` merges duplicate SKUs, prices every line, applies at most one promotion and
one coupon, and adds shipping; `buildPriceSnapshot` rechecks the priced cart before an order keeps
it. Every check raises `PricingInvariantError`.
-/

namespace NovaCommerce.Pricing

open Raise

variable {δ : Type}

/-- A priced computation. -/
abbrev Priced (α : Type) := Except PricingInvariantError α

/-! ## Exact allocation -/

/-- Split `total` across `weights` in proportion: floors first, then the remainder one unit at a
time from the last positive weight backwards. -/
def allocateProRata (total : Int) (weights : List Int) : Priced (List Int) := do
  raiseIf (total < 0)
    { message := "total must not be negative", context := [("total", .int total)] }
  forEach (fun weight => raiseIf (weight < 0)
    { message := "weights must not be negative", context := [("weights", .ints weights)] }) weights
  if total = 0 then
    return weights.map (fun _ => 0)
  raiseIf (weights = [])
    { message := "cannot allocate a positive total with no weights", context := [("total", .int total)] }
  raiseIf (weights.sum = 0)
    { message := "cannot allocate a positive total when every weight is zero"
      context := [("total", .int total), ("weights", .ints weights)] }
  let (remainder, shares) := ProRata.split total weights
  raiseIf (remainder ≠ 0)
    { message := "remainder could not be distributed"
      context := [("total", .int total), ("undistributed", .int remainder), ("weights", .ints weights)] }
  return shares

/-! ## Input validation -/

/-- A rule's money field is never negative. -/
def coerceAmount (value : Int) (fieldName : String) : Priced Int := do
  raiseIf (value < 0)
    { message := s!"{fieldName} must not be negative"
      context := [("field", .str fieldName), ("value", .int value)] }
  return value

/-- A rate is within 0..10000 basis points. -/
def coerceBps (value : Int) (fieldName : String) : Priced Int := do
  raiseIf (¬ (0 ≤ value ∧ value ≤ maxDiscountBps))
    { message := s!"{fieldName} must be between 0 and {maxDiscountBps} basis points"
      context := [("field", .str fieldName), ("value", .int value)] }
  return value

/-- The optional cap of a rule. -/
def coerceCap : Option Int → Priced (Option Int)
  | none => return none
  | some cap => return some (← coerceAmount cap "max_discount_amount")

/-- Validate one cart line. -/
def normaliseLine (line : PricedLine δ) : Priced (PricedLine δ) := do
  raiseIf (line.quantity ≤ 0)
    { message := "cart line quantity must be positive (contract §14.2)"
      context := [("sku_id", .int line.skuId)] }
  raiseIf (line.unitPrice < 0)
    { message := "cart line unit price must not be negative", context := [("sku_id", .int line.skuId)] }
  return line

def normalisePromotion (rule : PromotionRule) : Priced PromotionRule := do
  let thresholdAmount ← coerceAmount rule.thresholdAmount "threshold_amount"
  let discountAmount ← coerceAmount rule.discountAmount "discount_amount"
  let discountBps ← coerceBps rule.discountBps "discount_bps"
  let reductionAmount ← coerceAmount rule.reductionAmount "reduction_amount"
  let maxDiscountAmount ← coerceCap rule.maxDiscountAmount
  return { rule with thresholdAmount, discountAmount, discountBps, reductionAmount, maxDiscountAmount }

def normaliseCoupon (rule : CouponRule) : Priced CouponRule := do
  let thresholdAmount ← coerceAmount rule.thresholdAmount "threshold_amount"
  let faceValueAmount ← coerceAmount rule.faceValueAmount "face_value_amount"
  let discountBps ← coerceBps rule.discountBps "discount_bps"
  let maxDiscountAmount ← coerceCap rule.maxDiscountAmount
  return { rule with thresholdAmount, faceValueAmount, discountBps, maxDiscountAmount }

/-! ## Merging duplicate SKUs -/

/-- The snapshot fields, in the order they are compared, each with whether two lines agree on it. -/
def snapshotFields [DecidableEq δ] (a b : PricedLine δ) : List (String × Bool) :=
  [("product_id", decide (a.productId = b.productId)),
   ("product_name", decide (a.productName = b.productName)),
   ("sku_name", decide (a.skuName = b.skuName)),
   ("image_object_key", decide (a.imageObjectKey = b.imageObjectKey)),
   ("image_url", decide (a.imageUrl = b.imageUrl)),
   ("sku_snapshot", decide (a.skuSnapshot = b.skuSnapshot)),
   ("unit_price", decide (a.unitPrice = b.unitPrice))]

/-- One step of `_merge_lines`. -/
def mergeLine [DecidableEq δ] (merged : Dict Nat (PricedLine δ)) (raw : PricedLine δ) :
    Priced (Dict Nat (PricedLine δ)) := do
  let line ← normaliseLine raw
  match merged.get? line.skuId with
  | none => return merged.set line.skuId line
  | some existing =>
    forEach (fun field => raiseIf (field.2 = false)
      { message := "duplicate sku lines carry different snapshots"
        context := [("sku_id", .int line.skuId), ("field", .str field.1)] }) (snapshotFields existing line)
    return merged.set line.skuId { existing with quantity := existing.quantity + line.quantity }

/-- Merge duplicate SKUs by summing quantities, keeping first-appearance order. -/
def mergeLines [DecidableEq δ] (lines : List (PricedLine δ)) : Priced (List (PricedLine δ)) := do
  return (← foldSteps mergeLine lines Dict.empty).values

/-! ## Allocation maps -/

/-- One step of `_allocation_map` over the recorded allocations. -/
def recordAllocation (items : List (ItemPrice δ)) (label : String) (mapping : Dict Nat Int)
    (allocation : DiscountAllocation) : Priced (Dict Nat Int) := do
  raiseIf (allocation.amount < 0)
    { message := s!"{label} allocation must not be negative", context := [("sku_id", .int allocation.skuId)] }
  raiseIf (allocation.skuId ∉ items.map (fun item => item.line.skuId))
    { message := s!"{label} allocation refers to a line that is not in the cart"
      context := [("sku_id", .int allocation.skuId)] }
  raiseIf (mapping.get? allocation.skuId ≠ none)
    { message := s!"{label} allocation is recorded twice", context := [("sku_id", .int allocation.skuId)] }
  return mapping.set allocation.skuId allocation.amount

/-- Turn allocations into a map by SKU, checking coverage in both directions. -/
def allocationMap (allocations : List DiscountAllocation) (items : List (ItemPrice δ))
    (label : String) : Priced (Dict Nat Int) := do
  let mapping ← foldSteps (recordAllocation items label) allocations Dict.empty
  forEach (fun item => raiseIf (mapping.get? item.line.skuId = none)
    { message := s!"no {label} allocation recorded for a cart line"
      context := [("sku_id", .int item.line.skuId)] }) items
  return mapping

def zeroAllocations (items : List (ItemPrice δ)) : List DiscountAllocation :=
  items.map (fun item => { skuId := item.line.skuId, amount := 0 })

/-- Pair every item with its share of a discount. -/
def shareOut (items : List (ItemPrice δ)) (shares : List Int) : List DiscountAllocation :=
  List.zipWith (fun item amount => { skuId := item.line.skuId, amount := amount }) items shares

/-- The payable amount of an item under two allocation maps; a missing entry is a `KeyError`,
which the coverage checks of `allocationMap` rule out. -/
def payableUnder (promotionMap couponMap : Dict Nat Int) (item : ItemPrice δ) : Int :=
  item.originalAmount - (promotionMap.get? item.line.skuId).getD 0 - (couponMap.get? item.line.skuId).getD 0

/-- No item may end with a negative payable amount. -/
def checkPayable (promotionMap couponMap : Dict Nat Int) (item : ItemPrice δ) : Priced Unit :=
  raiseIf (payableUnder promotionMap couponMap item < 0)
    { message := "item payable_amount would be negative (PHASE4_DESIGN §11)"
      context := [("sku_id", .int item.line.skuId),
        ("payable", .int (payableUnder promotionMap couponMap item))] }

/-- The cart with its payable amount derived from its components. -/
def CartPrice.withPayable (cart : CartPrice δ) : CartPrice δ :=
  { cart with
    payableAmount := cart.originalAmount - cart.promotionDiscountAmount - cart.couponDiscountAmount
      + cart.shippingAmount }

/-- `_repriced`: check the new components and derive the payable amount from them. -/
def repriced (cart : CartPrice δ) : Priced (CartPrice δ) := do
  let promotionMap ← allocationMap cart.promotionAllocations cart.items "promotion"
  let couponMap ← allocationMap cart.couponAllocations cart.items "coupon"
  forEach (checkPayable promotionMap couponMap) cart.items
  return cart.withPayable

/-! ## Discounts -/

/-- Cap an amount by an optional maximum. -/
def capped (cap : Option Int) (amount : Int) : Int :=
  match cap with
  | none => amount
  | some most => min amount most

/-- The promotion's discount before the eligible-original cap. Only the fields of the rule's own
type are read, so a cap does not apply to a direct discount. -/
def promotionAmount (rule : PromotionRule) (eligible : List (ItemPrice δ)) (eligibleOriginal : Int) :
    Int :=
  match rule.promotionType with
  | .directDiscount => rule.discountAmount * (eligible.map (fun item => item.line.quantity)).sum
  | .percentDiscount =>
    capped rule.maxDiscountAmount (eligibleOriginal * rule.discountBps / maxDiscountBps)
  | .fullReduction => capped rule.maxDiscountAmount rule.reductionAmount

/-- The discount a promotion gives on a cart, and the warning it leaves when it gives none. -/
def promotionDiscount (rule : PromotionRule) (items : List (ItemPrice δ)) :
    Int × List PricingWarning :=
  let eligible := items.filter (fun item => rule.covers item.line.skuId)
  let eligibleOriginal := (eligible.map ItemPrice.originalAmount).sum
  if eligible.isEmpty ∨ eligibleOriginal = 0 then (0, [.promotionScopeNoMatch])
  else if rule.promotionType = .fullReduction ∧ eligibleOriginal < rule.thresholdAmount then
    (0, [.promotionThresholdNotMet])
  else (min (promotionAmount rule eligible eligibleOriginal) eligibleOriginal, [])

/-- Replace the promotion of a cart by a new discount with its warning and its shares. -/
def CartPrice.withPromotion (cart : CartPrice δ) (discount : Int × List PricingWarning)
    (shares : List Int) : CartPrice δ :=
  { cart with
    promotionDiscountAmount := discount.1
    promotionAllocations := shareOut cart.items shares
    warnings := cart.warnings.filter (fun w => w ∉ promotionWarnings) ++ discount.2 }

/-- Apply one promotion, replacing any promotion already on the cart. -/
def applyPromotion (cart : CartPrice δ) (promotion : PromotionRule) : Priced (CartPrice δ) := do
  let rule ← normalisePromotion promotion
  let discount := promotionDiscount rule cart.items
  let weights := cart.items.map
    (fun item => if rule.covers item.line.skuId then item.originalAmount else 0)
  let shares ← allocateProRata discount.1 weights
  repriced (cart.withPromotion discount shares)

/-- The coupon's discount before the remaining-amount cap. -/
def couponAmount (rule : CouponRule) (remainingTotal : Int) : Int :=
  match rule.couponType with
  | .fixedAmount => rule.faceValueAmount
  | .percentDiscount =>
    capped rule.maxDiscountAmount (remainingTotal * rule.discountBps / maxDiscountBps)

/-- What the promotion left of an item's original amount. -/
def remainingAmount (promotionMap : Dict Nat Int) (item : ItemPrice δ) : Int :=
  item.originalAmount - (promotionMap.get? item.line.skuId).getD 0

/-- The discount a coupon gives on what the promotion left, and its warning when it gives none.
The threshold is measured on the eligible original amount. -/
def couponDiscount (rule : CouponRule) (eligible : List (ItemPrice δ))
    (eligibleOriginal remainingTotal : Int) : Int × List PricingWarning :=
  if eligible.isEmpty ∨ remainingTotal = 0 then (0, [.couponScopeNoMatch])
  else if eligibleOriginal < rule.thresholdAmount then (0, [.couponThresholdNotMet])
  else (min (couponAmount rule remainingTotal) remainingTotal, [])

/-- Replace the coupon of a cart by a new discount with its warning and its shares. -/
def CartPrice.withCoupon (cart : CartPrice δ) (discount : Int × List PricingWarning)
    (shares : List Int) : CartPrice δ :=
  { cart with
    couponDiscountAmount := discount.1
    couponAllocations := shareOut cart.items shares
    warnings := cart.warnings.filter (fun w => w ∉ couponWarnings) ++ discount.2 }

/-- Apply one coupon, replacing any coupon already on the cart. -/
def applyCoupon (cart : CartPrice δ) (coupon : CouponRule) : Priced (CartPrice δ) := do
  let rule ← normaliseCoupon coupon
  let eligible := cart.items.filter (fun item => rule.covers item.line.skuId)
  let promotionMap ← allocationMap cart.promotionAllocations cart.items "promotion"
  forEach (fun item => raiseIf (remainingAmount promotionMap item < 0)
    { message := "promotion allocation exceeds the line it was allocated to"
      context := [("sku_id", .int item.line.skuId)] }) eligible
  let eligibleOriginal := (eligible.map ItemPrice.originalAmount).sum
  let remainingTotal := (eligible.map (remainingAmount promotionMap)).sum
  let weights := cart.items.map
    (fun item => if rule.covers item.line.skuId then remainingAmount promotionMap item else 0)
  let discount := couponDiscount rule eligible eligibleOriginal remainingTotal
  let shares ← allocateProRata discount.1 weights
  repriced (cart.withCoupon discount shares)

/-! ## The whole cart -/

/-- Ask the policy what shipping costs; `none` is the V1 free policy. -/
def calculateShipping (cart : CartPrice δ) (policy : Option (ShippingPolicy δ)) : Priced Int := do
  let resolved := policy.getD freeShippingPolicy
  let amount := resolved.calculate cart
  raiseIf (amount < 0)
    { message := "shipping policy returned a negative amount", context := [("policy", .str resolved.name)] }
  return amount

/-- Price one line: unit price times quantity. -/
def calculateItemPrice (line : PricedLine δ) : Priced (ItemPrice δ) := do
  let normalised ← normaliseLine line
  return { line := normalised, originalAmount := normalised.unitPrice * normalised.quantity }

/-- The cart before any discount. -/
def undiscounted (items : List (ItemPrice δ)) : CartPrice δ :=
  let originalAmount := (items.map ItemPrice.originalAmount).sum
  { items := items
    originalAmount := originalAmount
    promotionDiscountAmount := 0
    couponDiscountAmount := 0
    shippingAmount := 0
    payableAmount := originalAmount
    promotionAllocations := zeroAllocations items
    couponAllocations := zeroAllocations items }

/-- An optional discount step of the cart. -/
def applyOptional {ρ : Type} (apply : CartPrice δ → ρ → Priced (CartPrice δ)) (cart : CartPrice δ) :
    Option ρ → Priced (CartPrice δ)
  | none => return cart
  | some rule => apply cart rule

/-- Price a whole cart: the entry point of preview and of create. -/
def calculateCartPrice [DecidableEq δ] (lines : List (PricedLine δ)) (promotion : Option PromotionRule)
    (coupon : Option CouponRule) (shippingPolicy : Option (ShippingPolicy δ)) :
    Priced (CartPrice δ) := do
  let items ← (← mergeLines lines).mapM calculateItemPrice
  let cart ← applyOptional applyPromotion (undiscounted items) promotion
  let cart ← applyOptional applyCoupon cart coupon
  let shippingAmount ← calculateShipping cart shippingPolicy
  if shippingAmount ≠ 0 then
    repriced { cart with shippingAmount := shippingAmount }
  else
    return cart

/-- The fields of a cart that an order keeps. -/
def CartPrice.freeze (cart : CartPrice δ) (promotionIds couponIds : List Nat)
    (shippingPolicy : String) : PriceSnapshot δ where
  items := cart.items
  originalAmount := cart.originalAmount
  promotionDiscountAmount := cart.promotionDiscountAmount
  couponDiscountAmount := cart.couponDiscountAmount
  shippingAmount := cart.shippingAmount
  payableAmount := cart.payableAmount
  promotionAllocations := cart.promotionAllocations
  couponAllocations := cart.couponAllocations
  promotionIds := promotionIds
  couponIds := couponIds
  shippingPolicy := shippingPolicy

/-- Freeze a priced cart into the snapshot the order keeps, checking that the items add up. -/
def buildPriceSnapshot (cart : CartPrice δ) (promotionIds couponIds : List Nat)
    (shippingPolicy : String) : Priced (PriceSnapshot δ) := do
  raiseIf (cart.shippingAmount ≠ 0)
    { message := "a non-zero shipping_amount has no per-item home and would break INV-006"
      context := [("shipping_amount", .int cart.shippingAmount)] }
  let itemOriginal := (cart.items.map ItemPrice.originalAmount).sum
  raiseIf (itemOriginal ≠ cart.originalAmount)
    { message := "cart.original_amount is not the sum of its item amounts"
      context := [("original_amount", .int cart.originalAmount), ("item_total", .int itemOriginal)] }
  let promotionMap ← allocationMap cart.promotionAllocations cart.items "promotion"
  let couponMap ← allocationMap cart.couponAllocations cart.items "coupon"
  raiseIf (promotionMap.values.sum ≠ cart.promotionDiscountAmount)
    { message := "promotion allocations do not sum to the order promotion discount"
      context := [("allocated", .int promotionMap.values.sum), ("order", .int cart.promotionDiscountAmount)] }
  raiseIf (couponMap.values.sum ≠ cart.couponDiscountAmount)
    { message := "coupon allocations do not sum to the order coupon discount"
      context := [("allocated", .int couponMap.values.sum), ("order", .int cart.couponDiscountAmount)] }
  forEach (checkPayable promotionMap couponMap) cart.items
  let itemPayableTotal := (cart.items.map (payableUnder promotionMap couponMap)).sum
  raiseIf (itemPayableTotal ≠ cart.payableAmount)
    { message := "INV-006 violated: sum(item.payable_amount) != order.payable_amount"
      context := [("item_total", .int itemPayableTotal), ("order_total", .int cart.payableAmount)] }
  return cart.freeze promotionIds couponIds shippingPolicy

end NovaCommerce.Pricing
