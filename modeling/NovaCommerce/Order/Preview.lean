import NovaCommerce.Lib.Reads
import NovaCommerce.Marketing.BestPromotion
import NovaCommerce.Order.Creation

/-!
# Previewing an order

`previewOrder` prices a selection without row locks and without writing. It is the price an order is made at
(`previewOrder_charged`) as long as the catalogue, the promotions and the coupons stay as they are.
-/

namespace NovaCommerce

open Sql

/-! ## The preview -/

/-- What a client previews. -/
structure PreviewRequest where
  items : List OrderLineInput
  addressId : Option Nat := none
  couponId : Option Nat := none

/-- `AddressService.get`, when an address is supplied. -/
def checkAddress (principal : Principal) (addressId : Option Nat) : Tx Unit :=
  match addressId with
  | none => return ()
  | some addressId => do
    let _ ← orRaise (← query fun d => d.ownedAddress addressId principal.userId)
      { kind := .addressNotFound, message := "address not found" }

/-- The coupon a preview selects, if it selects one. -/
def previewCoupon (principal : Principal) (couponId : Option Nat) (merchantId : Nat) (skuIds : List Nat) (now : Time) :
    Tx (Option CouponSelection) := do
  match couponId with
  | none => return none
  | some couponId => return some (← (resolveCoupon couponId principal.userId merchantId skuIds now).unlocked)

/-- Price the lines of a merchant's cart, leaving its promotion and its coupon unlocked. -/
def previewCart (principal : Principal) (couponId : Option Nat) (skuIds : List Nat) (now : Time)
    (lines : List (Pricing.PricedLine AttributeSnapshot)) (merchantId : Nat) :
    Tx (Pricing.CartPrice AttributeSnapshot) := do
  let promotion ← (resolvePromotion merchantId skuIds now lines).unlocked
  let coupon ← previewCoupon principal couponId merchantId skuIds now
  ofExcept (validateCouponInput couponId (coupon.map CouponSelection.rule))
  let cart ← ofExcept (priced (Pricing.calculateCartPrice lines (promotion.map PromotionCandidate.rule)
    (coupon.map CouponSelection.rule) none))
  if couponId.isSome then
    ofExcept (requireApplicableDiscount cart)
  return cart

/-- `preview`: price a selection without creating anything. -/
def previewOrder (principal : Principal) (request : PreviewRequest) (now : Time) :
    Tx (Pricing.CartPrice AttributeSnapshot) := do
  let lines ← ofExcept (mergeOrderLines request.items)
  checkAddress principal request.addressId
  let (pricedLines, merchantId) ← loadPricedLines lines
  previewCart principal request.couponId (lines.map OrderLineInput.skuId) now pricedLines merchantId

/-! ## What stays as it is -/

/-- Two databases offer the same at their moments: the catalogue, the addresses, the promotions that are running
and the coupons that can be selected. -/
structure SameOffers (d : Db) (now : Time) (d' : Db) (now' : Time) : Prop where
  productSkus : d'.productSkus = d.productSkus
  products : d'.products = d.products
  productImages : d'.productImages = d.productImages
  addresses : d'.addresses = d.addresses
  promotions : d'.promotions = d.promotions
  couponTemplates : d'.couponTemplates = d.couponTemplates
  userCoupons : d'.userCoupons = d.userCoupons
  running : ∀ id p, d.promotions.get? id = some p → ∀ merchantId, p.Running merchantId now' ↔ p.Running merchantId now
  selectable : ∀ id c, d.userCoupons.get? id = some c → c.refusal now' = c.refusal now

section

variable {now now' : Time} {e e' : Exec Db} (same : SameOffers e.view now e'.view now')

include same

theorem SameOffers.scopeRows (skuIds : List Nat) (merchantId : Nat) :
    e'.view.scopeRows skuIds merchantId = e.view.scopeRows skuIds merchantId := by
  unfold Db.scopeRows
  rw [same.productSkus, same.products]

theorem SameOffers.runningPromotions (merchantId : Nat) :
    e'.view.runningPromotions merchantId now' = e.view.runningPromotions merchantId now := by
  unfold Db.runningPromotions
  rw [same.promotions]
  congr 1
  refine List.filter_congr fun row hrow => ?_
  rw [decide_eq_decide]
  exact same.running row.1 row.2 (Dict.get?_eq_some.mpr hrow) merchantId

theorem SameOffers.loadPricedLines (items : List OrderLineInput) :
    ReadsAlike (loadPricedLines items) (loadPricedLines items) e e' := by
  unfold NovaCommerce.loadPricedLines
  refine .bind (readsAlike_query ?_) fun skus _ => .bind (readsAlike_query ?_) fun products _ =>
    .bind (readsAlike_query ?_) fun images _ => readsAlike_ofExcept _
  · show e'.view.skuRows _ = _
    unfold Db.skuRows
    rw [same.productSkus]
  · show e'.view.productRows _ = _
    unfold Db.productRows
    rw [same.products]
  · show e'.view.primaryImages _ = _
    unfold Db.primaryImages
    rw [same.productImages]

theorem SameOffers.resolvePromotion (merchantId : Nat) (skuIds : List Nat)
    (lines : List (Pricing.PricedLine AttributeSnapshot)) :
    ReadsAlike (resolvePromotion merchantId skuIds now lines) (resolvePromotion merchantId skuIds now' lines) e e' := by
  unfold NovaCommerce.resolvePromotion
  split_ifs
  · exact readsAlike_pure none
  · refine .bind (readsAlike_query (same.scopeRows skuIds merchantId)) fun rows _ => .bind ⟨_, rfl, ?_⟩ fun running _ =>
      .bind (readsAlike_ofExcept _) fun candidates _ => readsAlike_pure _
    rw [run_lock, same.runningPromotions merchantId]

theorem SameOffers.resolveCoupon (couponId userId merchantId : Nat) (skuIds : List Nat) :
    ReadsAlike (resolveCoupon couponId userId merchantId skuIds now) (resolveCoupon couponId userId merchantId skuIds now')
      e e' := by
  unfold NovaCommerce.resolveCoupon
  refine .bind (readsAlike_lock ?_) fun found hfound => .bind (readsAlike_orRaise _ _) fun coupon hcoupon =>
    .bind (readsAlike_query ?_) fun template _ => .bind (readsAlike_orRaise _ _) fun template _ => ?_
  · show e'.view.couponFor _ _ _ = _
    unfold Db.couponFor
    rw [same.userCoupons]
  · show (e'.view.couponTemplates.get? _).filter _ = _
    rw [same.couponTemplates]
  -- the coupon is a row, and rows are refused alike
  have hrow : e.view.userCoupons.get? couponId = some coupon := by
    rw [run_orRaise_eq_ok] at hcoupon
    obtain ⟨hcoupon, -⟩ := hcoupon
    rw [run_lock, Prod.mk.injEq, Except.ok.injEq] at hfound
    rw [← hfound.1] at hcoupon
    exact (Option.filter_eq_some_iff.mp hcoupon).1
  rw [same.selectable couponId coupon hrow]
  cases coupon.refusal now with
  | some refusal => exact .bind (readsAlike_raise refusal) fun _ h => nomatch h
  | none =>
    exact .bind (readsAlike_query (same.scopeRows skuIds merchantId)) fun rows _ => .bind (readsAlike_raiseIf _ _) fun _ _ =>
      readsAlike_pure _

theorem SameOffers.selectCoupon (principal : Principal) (request : CreateOrderRequest) (merchantId : Nat)
    (skuIds : List Nat) : ReadsAlike (previewCoupon principal request.couponId merchantId skuIds now)
      (selectCoupon principal request merchantId skuIds now') e e' := by
  unfold previewCoupon NovaCommerce.selectCoupon
  cases request.couponId with
  | none => exact readsAlike_pure none
  | some couponId =>
    exact .bind (same.resolveCoupon couponId principal.userId merchantId skuIds).unlocked fun _ _ => readsAlike_pure _

/-! ## The price of an order -/

/-- The order was priced at the cart, and its promotion was counted. -/
def FrozenAt (cart : Pricing.CartPrice AttributeSnapshot) (p : PricedOrder) : Prop :=
  ∃ promotionIds couponIds, p.snapshot = cart.freeze promotionIds couponIds "FREE"

/-- Where the preview of a cart raises, so does the pricing of an order for it; otherwise the order is priced at the
previewed cart. -/
theorem SameOffers.priceCart (principal : Principal) (request : CreateOrderRequest) (skuIds : List Nat)
    (lines : List (Pricing.PricedLine AttributeSnapshot)) (merchantId : Nat) :
    Foretells (previewCart principal request.couponId skuIds now lines merchantId)
      (priceCart principal request skuIds now' lines merchantId) e e' fun cart r =>
        ∀ p e₁, r = (.ok p, e₁) → FrozenAt cart p := by
  have hfreeze : ∀ promotion coupon cart, Foretells (pure cart) (freezePrice lines merchantId promotion coupon cart) e e'
      fun cart r => ∀ p e₁, r = (.ok p, e₁) → FrozenAt cart p := by
    intro promotion coupon cart
    refine foretells_pure fun p e₁ h => ?_
    obtain ⟨-, -, -, hsnapshot, -⟩ := freezePrice_eq_ok h
    exact ⟨_, _, hsnapshot⟩
  unfold previewCart NovaCommerce.priceCart
  refine .bind (same.resolvePromotion merchantId skuIds lines).unlocked fun promotion _ =>
    .bind (same.selectCoupon principal request merchantId skuIds) fun coupon _ => .bind (readsAlike_ofExcept _) fun _ _ =>
    .bind (readsAlike_ofExcept _) fun cart _ => ?_
  split_ifs
  · exact .bind (readsAlike_ofExcept _) fun _ _ => hfreeze promotion coupon cart
  · exact hfreeze promotion coupon cart

/-- The same, from the request on: the preview checks the address of the order. -/
theorem SameOffers.priceOrder (principal : Principal) (request : CreateOrderRequest) :
    Foretells (previewOrder principal ⟨request.items, some request.addressId, request.couponId⟩ now)
      (ofExcept (mergeOrderLines request.items) >>= fun lines => priceOrder principal request lines now') e e'
      fun cart r => ∀ p e₁, r = (.ok p, e₁) → FrozenAt cart p := by
  unfold previewOrder NovaCommerce.priceOrder
  refine .bind (readsAlike_ofExcept _) fun lines _ => ?_
  unfold checkAddress
  rw [bind_assoc]
  refine .bind (readsAlike_query ?_) fun address _ => ?_
  · show e'.view.ownedAddress _ _ = _
    unfold Db.ownedAddress
    rw [same.addresses]
  rw [bind_assoc]
  refine .bind (readsAlike_orRaise _ _) fun address _ => ?_
  exact .bind (same.loadPricedLines lines) fun loaded _ =>
    same.priceCart principal request (lines.map OrderLineInput.skuId) loaded.1 loaded.2

end

/-- A preview without an address checks less. -/
theorem previewOrder_withoutAddress {principal : Principal} {items : List OrderLineInput} {addressId : Nat}
    {couponId : Option Nat} {now : Time} {e e' : Exec Db} {cart : Pricing.CartPrice AttributeSnapshot}
    (h : (previewOrder principal ⟨items, some addressId, couponId⟩ now).run e = (.ok cart, e')) :
    (previewOrder principal ⟨items, none, couponId⟩ now).run e = (.ok cart, e') := by
  unfold previewOrder at h ⊢
  rw [run_bind_eq_ok] at h ⊢
  obtain ⟨lines, e₁, hlines, h⟩ := h
  refine ⟨lines, e₁, hlines, ?_⟩
  rw [run_bind_eq_ok] at h ⊢
  obtain ⟨_, e₂, haddress, h⟩ := h
  unfold checkAddress at haddress
  dsimp only at haddress
  rw [run_bind, run_query, andThen_ok, run_bind_eq_ok] at haddress
  obtain ⟨_, e₃, howned, hpure⟩ := haddress
  rw [run_orRaise_eq_ok] at howned
  obtain ⟨-, rfl⟩ := howned
  cases hpure
  exact ⟨(), e₁, rfl, h⟩

/-! ## What a new order is charged -/

/-- What a create answered that wrote an order, and the rows it committed. -/
structure Placed (env : Deployment) (principal : Principal) (request : CreateOrderRequest) (requestHash : String)
    (now : Time) (d : Db) (next : Nat) (p : PricedOrder) (result : CreateOrderResult) (d' : Db) : Prop where
  orderId : result.orderId = next + 1
  order : result.order = newOrder env principal request requestHash p now result.orderId
  orders : d'.orders = d.orders.set result.orderId result.order
  items : ∃ warehouseId rows, d'.orderItems = d.orderItems.setFrom (result.orderId + 1) rows ∧
    List.Forall₂ (fun item row => newItem p.snapshot result.orderId warehouseId item = .ok row) p.snapshot.items rows

theorem writeNewOrder_placed {env : Deployment} {principal : Principal} {request : CreateOrderRequest}
    {lines : List OrderLineInput} {requestHash : String} {p : PricedOrder} {now : Time} {claimId next : Nat} {d : Db}
    {e e' : Exec Db} {result : CreateOrderResult} (priced : PricedFor request lines now d p)
    (hcoupons : e.view.userCoupons = d.userCoupons) (horders : e.view.orders = d.orders)
    (hitems : e.view.orderItems = d.orderItems) (hnext : e.next = next + 1)
    (h : (writeNewOrder env principal request lines requestHash claimId p now).run e = (.ok result, e')) :
    Placed env principal request requestHash now d next p result e'.view := by
  unfold writeNewOrder at h
  rw [run_bind_eq_ok] at h
  obtain ⟨orderId, e₁, horder, h⟩ := h
  obtain ⟨rfl, -, -, -, rfl⟩ := insertOrder_eq_ok horder
  rw [run_bind_eq_ok] at h
  obtain ⟨_, e₂, hcoupon, h⟩ := h
  obtain ⟨c₁, rfl, hlocked⟩ := lockSelected_locked hcoupon priced.couponId fun s hs => by
    show e.view.userCoupons.get? s.id = some s.coupon
    rw [hcoupons]
    exact priced.coupon s hs
  rw [run_bind_eq_ok] at h
  obtain ⟨warehouseId, e₃, hstock, h⟩ := h
  obtain ⟨c₂, rfl, hmoves⟩ := reserveStock_eq_ok hstock
  rw [run_bind_eq_ok] at h
  obtain ⟨rows, e₄, hinserted, h⟩ := h
  obtain ⟨hnew, rfl⟩ := insertItems_eq_ok hinserted
  rw [run_bind, run_update, andThen_ok, run_bind_eq_ok] at h
  obtain ⟨_, e₅, hinvariants, h⟩ := h
  rw [run_ofExcept_eq_ok] at hinvariants
  obtain ⟨-, rfl⟩ := hinvariants
  rw [run_bind, run_update, andThen_ok, run_bind_eq_ok] at h
  obtain ⟨_, e₆, hevent, h⟩ := h
  obtain ⟨d', rfl, hqueued⟩ := enqueue_enqueued hevent
  cases h
  -- the coupon, the stock and the event are in tables of their own
  have hcouponFrame := hlocked.frame
  obtain ⟨movements, inventories, hstockFrame, -⟩ := hmoves.frame
  obtain ⟨outbox, heventFrame, -⟩ := hqueued.frame
  refine ⟨hnext, rfl, ?_, warehouseId, rows, ?_, hnew.imp fun _ _ hrow => hrow.1⟩
  · rw [heventFrame, hstockFrame, hcouponFrame]
    dsimp only
    rw [horders]
  · rw [heventFrame, hstockFrame, hcouponFrame]
    dsimp only
    rw [hitems]

theorem replayClaim_replayed {record : Option (Nat × IdempotencyRecord)} {key requestHash : String} {userId : Nat}
    {e e' : Exec Db} {result : CreateOrderResult}
    (h : (replayClaim record key requestHash userId).run e = (.ok result, e')) : result.replayed = true := by
  unfold replayClaim at h
  match record with
  | none => cases h
  | some (_, record) =>
    dsimp only at h
    rw [run_bind_eq_ok] at h
    obtain ⟨_, e₁, -, h⟩ := h
    rw [run_bind_eq_ok] at h
    obtain ⟨_, e₂, -, h⟩ := h
    unfold loadReplayedOrder at h
    rw [run_bind, run_query, andThen_ok, run_bind_eq_ok] at h
    obtain ⟨found, e₃, -, h⟩ := h
    rw [run_bind_eq_ok] at h
    obtain ⟨_, e₄, -, h⟩ := h
    cases h
    rfl

theorem recoverCreate_replayed {principal : Principal} {request : CreateOrderRequest} {requestHash : String}
    {x : AppError} {e e' : Exec Db} {result : CreateOrderResult}
    (h : (recoverCreate principal request requestHash x).run e = (.ok result, e')) : result.replayed = true := by
  unfold recoverCreate at h
  rw [run_bind, run_rollbackNow, andThen_ok] at h
  split_ifs at h
  · unfold recoverFromClientRequestId at h
    rw [run_bind, run_query, andThen_ok] at h
    split at h
    · cases h
    · rw [run_bind_eq_ok] at h
      obtain ⟨_, e₁, -, h⟩ := h
      cases h
      rfl
  · cases h

/-- A create that wrote an order priced it first, on the tables it found and its own claim. -/
theorem createOrder_placed {env : Deployment} {principal : Principal} {request : CreateOrderRequest} {now : Time}
    {d : Db} {next : Nat} {result : CreateOrderResult} {e' : Exec Db}
    (h : (createOrder env principal request now).run (Exec.start d next) = (.ok result, e'))
    (hnew : result.replayed = false) :
    ∃ lines claims p e₁ e₂, mergeOrderLines request.items = .ok lines ∧ e₁.view = { d with idempotency := claims } ∧
      (priceOrder principal request lines now).run e₁ = (.ok p, e₂) ∧
      Placed env principal request (canonicalRequestHash env principal.userId lines request.addressId request.couponId
        request.remark) now d next p result e'.committed := by
  unfold createOrder at h
  rw [run_bind_eq_ok] at h
  obtain ⟨_, e₀, hkey, h⟩ := h
  rw [run_raiseIf_eq_ok] at hkey
  obtain ⟨-, rfl⟩ := hkey
  rw [run_bind_eq_ok] at h
  obtain ⟨lines, e₀, hlines, h⟩ := h
  rw [run_ofExcept_eq_ok] at hlines
  obtain ⟨hlines, rfl⟩ := hlines
  rw [run_handle] at h
  split at h
  next a e₁ hrun =>
    cases h
    obtain ⟨e₂, hfrom, rfl⟩ := run_transaction_eq_ok.mp hrun
    unfold createFrom at hfrom
    rw [run_bind_eq_ok] at hfrom
    obtain ⟨claim, e₃, hclaim, hfrom⟩ := hfrom
    rcases insertInProgress_eq_ok hclaim with ⟨rfl, rfl⟩ | ⟨rfl, -, rfl⟩
    · dsimp only at hfrom
      rw [run_bind, run_query, andThen_ok] at hfrom
      exact absurd hnew (by rw [replayClaim_replayed hfrom]; decide)
    · dsimp only at hfrom
      rw [run_bind_eq_ok] at hfrom
      obtain ⟨p, e₄, hprice, hwrite⟩ := hfrom
      obtain ⟨hpriced, rfl⟩ := priceOrder_priced hprice (mergeOrderLines_merged hlines)
      have hpriced' : PricedFor request lines now d p :=
        ⟨fun c hc => ⟨(hpriced.promotion c hc).row, (hpriced.promotion c hc).running, (hpriced.promotion c hc).rule⟩,
          hpriced.promotionIds, hpriced.couponId, hpriced.coupon, hpriced.items⟩
      -- only the promotions and the claims were written
      have hquota : ∀ c : Db, (c.quotaUsed p).userCoupons = c.userCoupons ∧ (c.quotaUsed p).orders = c.orders ∧
          (c.quotaUsed p).orderItems = c.orderItems := by
        intro c
        unfold Db.quotaUsed
        cases p.promotion with
        | none => exact ⟨rfl, rfl, rfl⟩
        | some candidate =>
          dsimp only
          split_ifs <;> exact ⟨rfl, rfl, rfl⟩
      obtain ⟨hcoupons, horders, hitems⟩ := hquota { d with
        idempotency := d.idempotency.set next (request.claim (canonicalRequestHash env principal.userId lines
          request.addressId request.couponId request.remark)) }
      exact ⟨lines, _, p, _, _, hlines, rfl, hprice, writeNewOrder_placed hpriced' hcoupons horders hitems rfl hwrite⟩
  next x e₁ hrun =>
    exact absurd hnew (by rw [recoverCreate_replayed h]; decide)

/-! ## The previewed price is the charged price -/

/-- An order is charged what a cart was priced at. -/
structure Order.ChargedAs (order : Order) (cart : Pricing.CartPrice AttributeSnapshot) : Prop where
  originalAmount : order.originalAmount = cart.originalAmount
  promotionDiscountAmount : order.promotionDiscountAmount = cart.promotionDiscountAmount
  couponDiscountAmount : order.couponDiscountAmount = cart.couponDiscountAmount
  shippingAmount : order.shippingAmount = cart.shippingAmount
  payableAmount : order.payableAmount = cart.payableAmount

/-- A line is charged what an item of a cart was priced at, with its shares of the discounts. -/
structure OrderItem.ChargedAs (cart : Pricing.CartPrice AttributeSnapshot) (item : Pricing.ItemPrice AttributeSnapshot)
    (row : OrderItem) : Prop where
  skuId : row.skuId = item.line.skuId
  productId : row.productId = item.line.productId
  productName : row.productName = item.line.productName
  skuName : row.skuName = item.line.skuName
  unitPrice : row.unitPrice = item.line.unitPrice
  quantity : row.quantity = item.line.quantity
  originalAmount : row.originalAmount = item.originalAmount
  promotion : cart.promotionAllocation item.line.skuId = .ok row.promotionDiscountAmount
  coupon : cart.couponAllocation item.line.skuId = .ok row.couponDiscountAmount
  payable : cart.itemPayableAmount item.line.skuId = .ok row.payableAmount

theorem newItem_chargedAs {cart : Pricing.CartPrice AttributeSnapshot} {promotionIds couponIds : List Nat}
    {shippingPolicy : String} {orderId warehouseId : Nat} {item : Pricing.ItemPrice AttributeSnapshot} {row : OrderItem}
    (h : newItem (cart.freeze promotionIds couponIds shippingPolicy) orderId warehouseId item = .ok row) :
    OrderItem.ChargedAs cart item row := by
  unfold newItem at h
  simp only [Raise.bind_eq_ok, Raise.pure_eq_ok] at h
  obtain ⟨promotion, hpromotion, coupon, hcoupon, payable, hpayable, rfl⟩ := h
  exact ⟨rfl, rfl, rfl, rfl, rfl, rfl, rfl, hpromotion, hcoupon, hpayable⟩

/-- A preview of what is ordered, with the address of the order or without one. -/
structure PreviewRequest.Of (preview : PreviewRequest) (request : CreateOrderRequest) : Prop where
  items : preview.items = request.items
  address : ∀ addressId ∈ preview.addressId, addressId = request.addressId
  coupon : preview.couponId = request.couponId

/-- Where an order can be priced, its preview succeeds, and the order is priced at the previewed cart. -/
theorem previewOrder_foretells {principal : Principal} {request : CreateOrderRequest} {preview : PreviewRequest}
    {now now' : Time} {e e' e₁ : Exec Db} {p : PricedOrder} (same : SameOffers e.view now e'.view now')
    (hof : preview.Of request)
    (h : (ofExcept (mergeOrderLines request.items) >>= fun lines => priceOrder principal request lines now').run e' =
      (.ok p, e₁)) : ∃ cart, (previewOrder principal preview now).run e = (.ok cart, e) ∧ FrozenAt cart p := by
  obtain ⟨cart, hcart, hfrozen⟩ := (same.priceOrder principal request).ok h
  obtain ⟨items, addressId, couponId⟩ := preview
  obtain ⟨rfl, haddress, rfl⟩ := hof
  refine ⟨cart, ?_, hfrozen p e₁ rfl⟩
  cases addressId with
  | none => exact previewOrder_withoutAddress hcart
  | some addressId =>
    obtain rfl := haddress addressId rfl
    exact hcart

/-- While the offers stay as they are, a preview succeeds where the order can be priced, the order is charged the
previewed amounts line by line, and where the preview is refused, so is the order. -/
theorem previewOrder_charged (env : Deployment) (principal : Principal) {request : CreateOrderRequest}
    {preview : PreviewRequest} (hof : preview.Of request) {d d' : Db} {now now' : Time} (same : SameOffers d now d' now')
    (next next' : Nat) :
    (∀ p e₁, (ofExcept (mergeOrderLines request.items) >>= fun lines => priceOrder principal request lines now').run
        (Exec.start d' next') = (.ok p, e₁) →
      ∃ cart, (previewOrder principal preview now).run (Exec.start d next) = (.ok cart, Exec.start d next) ∧
        FrozenAt cart p) ∧
    (∀ result e₁, (createOrder env principal request now').run (Exec.start d' next') = (.ok result, e₁) →
      result.replayed = false →
      ∃ cart rows, (previewOrder principal preview now).run (Exec.start d next) = (.ok cart, Exec.start d next) ∧
        e₁.committed.orders.get? result.orderId = some result.order ∧ result.order.ChargedAs cart ∧
        e₁.committed.orderItems = d'.orderItems.setFrom (result.orderId + 1) rows ∧
        List.Forall₂ (OrderItem.ChargedAs cart) cart.items rows) ∧
    (∀ x, preview.addressId = some request.addressId →
      (previewOrder principal preview now).run (Exec.start d next) = (.error x, Exec.start d next) →
      (ofExcept (mergeOrderLines request.items) >>= fun lines => priceOrder principal request lines now').run
        (Exec.start d' next') = (.error x, Exec.start d' next')) := by
  have hsame : SameOffers (Exec.start d next).view now (Exec.start d' next').view now' := same
  refine ⟨fun p e₁ h => previewOrder_foretells hsame hof h, fun result e₁ h hnew => ?_, fun x haddress h => ?_⟩
  · obtain ⟨lines, claims, p, e₂, e₃, hlines, hview, hprice, hplaced⟩ := createOrder_placed h hnew
    -- the claim of the key is in a table no price is read from
    have hsame' : SameOffers (Exec.start d next).view now e₂.view now' := by
      rw [hview]
      exact ⟨same.productSkus, same.products, same.productImages, same.addresses, same.promotions, same.couponTemplates,
        same.userCoupons, same.running, same.selectable⟩
    have hpriced : (ofExcept (mergeOrderLines request.items) >>= fun lines => priceOrder principal request lines now').run
        e₂ = (.ok p, e₃) := by
      rw [run_bind_eq_ok]
      exact ⟨lines, e₂, by rw [run_ofExcept, hlines], hprice⟩
    obtain ⟨cart, hcart, promotionIds, couponIds, hfrozen⟩ := previewOrder_foretells hsame' hof hpriced
    obtain ⟨warehouseId, rows, hitems, hrows⟩ := hplaced.items
    have horder := hplaced.order
    rw [hfrozen] at hrows
    refine ⟨cart, rows, hcart, ?_, ?_, hitems, hrows.imp fun _ _ => newItem_chargedAs⟩
    · rw [hplaced.orders, Dict.get?_set_self]
    · rw [horder]
      refine ⟨?_, ?_, ?_, ?_, ?_⟩ <;> (unfold newOrder; rw [hfrozen]; rfl)
  · obtain ⟨items, addressId, couponId⟩ := preview
    obtain ⟨rfl, -, rfl⟩ := hof
    obtain rfl : addressId = some request.addressId := haddress
    rcases hsame.priceOrder principal request with ⟨y, hy, hy'⟩ | ⟨cart, hcart, -⟩
    · rw [hy] at h
      cases h
      exact hy'
    · rw [hcart] at h
      cases h

/-! Three cups, previewed and ordered while the better of two promotions runs. -/

/-- A shop with the two promotions and the address of a customer. -/
def campaignShop : Db := { campaigns with addresses := Dict.ofList [(1, { userId := 1 })] }

def threeCups : CreateOrderRequest where
  items := [{ skuId := 10, quantity := 3 }]
  addressId := 1
  clientRequestId := "three-cups"
  idempotencyKey := "three-cups"

/-- The default settings, with the digest of the request that is sent. -/
def campaignDeployment : Deployment where
  settings := {}
  upperText := id
  lowerText := id
  isAlnumChar := fun _ => false
  sha256Hex := fun s =>
    if s = "\x7b\"address_id\":1,\"coupon_id\":null,\"items\":[[10,3]],\"remark\":\"\",\"user_id\":1\x7d" then
      "bfe421f997ab04e7ee1eabad79e557a22fe94546a342302388e8ad5db722a73f"
    else ""
  hmacHex := fun _ _ => ""
  jsonLoads := fun _ => none

theorem campaignShop_sameOffers : SameOffers campaignShop 500 campaignShop 600 := by
  have hrunning : ∀ row ∈ campaignShop.promotions.entries, row.2.startsAt ≤ 500 ∧ 600 < row.2.endsAt := by decide
  refine ⟨rfl, rfl, rfl, rfl, rfl, rfl, rfl, fun id p hp merchantId => ?_, fun id c hc => nomatch hc⟩
  obtain ⟨hstart, hend⟩ := hrunning (id, p) (Dict.get?_eq_some.mp hp)
  dsimp only at hstart hend
  unfold Promotion.Running
  constructor
  · rintro ⟨hm, hactive, -, -, hquota⟩
    exact ⟨hm, hactive, hstart, lt_trans (by decide) hend, hquota⟩
  · rintro ⟨hm, hactive, -, -, hquota⟩
    exact ⟨hm, hactive, hstart.trans (by decide), hend, hquota⟩

theorem previewOrder_charged_cups :
    ∃ p cart, ((previewOrder { userId := 1, merchantId := none } ⟨threeCups.items, none, none⟩ 500).run
        (Exec.start campaignShop 100)).1 = .ok cart ∧ FrozenAt cart p ∧ p.snapshot.payableAmount = 2700 := by
  have hvalue : ((((ofExcept (mergeOrderLines threeCups.items) >>= fun lines =>
      priceOrder { userId := 1, merchantId := none } threeCups lines 600).run (Exec.start campaignShop 100)).1.toOption).map
        fun p => p.snapshot.payableAmount) = some 2700 := by decide +kernel
  obtain ⟨p, hp, hpayable⟩ := Option.map_eq_some_iff.mp hvalue
  have hof : PreviewRequest.Of ⟨threeCups.items, none, none⟩ threeCups := ⟨rfl, (fun _ h => nomatch h), rfl⟩
  obtain ⟨hpreview, -, -⟩ := previewOrder_charged campaignDeployment { userId := 1, merchantId := none } hof
    campaignShop_sameOffers 100 100
  obtain ⟨cart, hcart, hfrozen⟩ := hpreview p _ (run_eq_ok_of_toOption hp)
  exact ⟨p, cart, by rw [hcart], hfrozen, hpayable⟩

end NovaCommerce
