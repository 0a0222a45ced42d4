import NovaCommerce.Order.Workflow
import NovaCommerce.Pricing.Lines

/-!
# What creating an order commits

* `PricedFor` : what an order was priced on, read under row locks;
* `ItemsInserted` : the lines that were written, under ids of their own;
* `OrderCreated` : everything a committed create did (`createOrder_leaves`).
-/

namespace NovaCommerce

open Sql

/-! ## The price -/

/-- The rows the price of an order was decided on. -/
structure PricedFor (request : CreateOrderRequest) (lines : List OrderLineInput) (now : Time) (d : Db)
    (p : PricedOrder) : Prop where
  promotion : ∀ c ∈ p.promotion, c.Selected p.merchantId now d
  promotionIds : p.snapshot.promotionIds = (p.promotion.map PromotionCandidate.id).toList
  couponId : p.coupon.map CouponSelection.id = request.couponId
  coupon : ∀ s ∈ p.coupon, d.userCoupons.get? s.id = some s.coupon
  items : p.snapshot.items.map (fun item => (item.line.skuId, item.line.quantity)) =
    lines.map fun line => (line.skuId, line.quantity)

/-- The database after the promotion of an order was counted. -/
def Db.quotaUsed (d : Db) (p : PricedOrder) : Db :=
  match p.promotion with
  | none => d
  | some c =>
    if 0 < p.snapshot.promotionDiscountAmount then { d with
      promotions := d.promotions.modify c.id fun row => { row with usedQuota := c.promotion.usedQuota + 1 } }
    else d

theorem selectCoupon_eq_ok {principal : Principal} {request : CreateOrderRequest} {merchantId : Nat}
    {skuIds : List Nat} {now : Time} {e e' : Exec Db} {s : Option CouponSelection}
    (h : (selectCoupon principal request merchantId skuIds now).run e = (.ok s, e')) :
    e' = e ∧ s.map CouponSelection.id = request.couponId ∧
      ∀ c ∈ s, e.view.userCoupons.get? c.id = some c.coupon := by
  unfold selectCoupon at h
  cases hc : request.couponId with
  | none =>
    simp only [hc] at h
    cases h
    exact ⟨rfl, rfl, fun c hc => nomatch hc⟩
  | some couponId =>
    simp only [hc] at h
    rw [run_bind_eq_ok] at h
    obtain ⟨selection, e₁, hresolve, h⟩ := h
    obtain ⟨rfl, hid, hrow⟩ := resolveCoupon_selected hresolve
    cases h
    refine ⟨rfl, congrArg some hid, fun c hc => ?_⟩
    obtain rfl := Option.some.inj hc
    rw [hid]
    exact hrow

theorem usePromotion_eq_ok {promotion : Option PromotionCandidate} {cart : Pricing.CartPrice AttributeSnapshot}
    {e e' : Exec Db} {u : Unit} (h : (usePromotion promotion cart).run e = (.ok u, e')) (p : PricedOrder)
    (hp : p.promotion = promotion) (hd : p.snapshot.promotionDiscountAmount = cart.promotionDiscountAmount) :
    e' = { e with view := e.view.quotaUsed p } := by
  unfold usePromotion at h
  unfold Db.quotaUsed
  rw [hp, hd]
  cases promotion with
  | none =>
    cases h
    rfl
  | some c =>
    dsimp only at h ⊢
    split_ifs at h ⊢
    · exact useQuota_eq_ok h
    · cases h
      rfl

theorem freezePrice_eq_ok {lines : List (Pricing.PricedLine AttributeSnapshot)} {merchantId : Nat}
    {promotion : Option PromotionCandidate} {coupon : Option CouponSelection}
    {cart : Pricing.CartPrice AttributeSnapshot} {e e' : Exec Db} {p : PricedOrder}
    (h : (freezePrice lines merchantId promotion coupon cart).run e = (.ok p, e')) :
    p.merchantId = merchantId ∧ p.promotion = promotion ∧ p.coupon = coupon ∧
      p.snapshot = cart.freeze (promotion.map fun c => c.rule.promotionId).toList
        (coupon.map fun s => s.rule.couponId).toList "FREE" ∧
      e' = { e with view := e.view.quotaUsed p } := by
  unfold freezePrice at h
  rw [run_bind_eq_ok] at h
  obtain ⟨_, e₁, huse, h⟩ := h
  rw [run_bind_eq_ok] at h
  obtain ⟨snapshot, e₂, hsnapshot, h⟩ := h
  rw [run_ofExcept_eq_ok, priced_eq_ok] at hsnapshot
  obtain ⟨hsnapshot, rfl⟩ := hsnapshot
  cases h
  have hfreeze := Pricing.buildPriceSnapshot_eq_ok hsnapshot
  refine ⟨rfl, rfl, rfl, hfreeze, usePromotion_eq_ok huse _ rfl ?_⟩
  rw [hfreeze]
  rfl

theorem priceCart_priced {principal : Principal} {request : CreateOrderRequest} {skuIds : List Nat} {now : Time}
    {lines : List (Pricing.PricedLine AttributeSnapshot)} {merchantId : Nat} {e e' : Exec Db} {p : PricedOrder}
    (h : (priceCart principal request skuIds now lines merchantId).run e = (.ok p, e'))
    (hn : (lines.map Pricing.PricedLine.skuId).Nodup) {items : List OrderLineInput}
    (hlines : lines.map (fun line => (line.skuId, line.quantity)) =
      items.map fun line => (line.skuId, line.quantity)) :
    PricedFor request items now e.view p ∧ e' = { e with view := e.view.quotaUsed p } := by
  unfold priceCart at h
  rw [run_bind_eq_ok] at h
  obtain ⟨promotion, e₁, hpromotion, h⟩ := h
  obtain ⟨rfl, hselected⟩ := resolvePromotion_selected hpromotion
  rw [run_bind_eq_ok] at h
  obtain ⟨coupon, e₂, hcoupon, h⟩ := h
  obtain ⟨rfl, hcouponId, hcouponRow⟩ := selectCoupon_eq_ok hcoupon
  rw [run_bind_eq_ok] at h
  obtain ⟨_, e₃, hvalidate, h⟩ := h
  rw [run_ofExcept_eq_ok] at hvalidate
  obtain ⟨-, rfl⟩ := hvalidate
  rw [run_bind_eq_ok] at h
  obtain ⟨cart, e₄, hcart, h⟩ := h
  rw [run_ofExcept_eq_ok, priced_eq_ok] at hcart
  obtain ⟨hcart, rfl⟩ := hcart
  have hfrozen : (freezePrice lines merchantId promotion coupon cart).run e₂ = (.ok p, e') := by
    split_ifs at h
    · rw [run_bind_eq_ok] at h
      obtain ⟨_, e₅, happlicable, h⟩ := h
      rw [run_ofExcept_eq_ok] at happlicable
      obtain ⟨-, rfl⟩ := happlicable
      exact h
    · exact h
  obtain ⟨hmerchant, rfl, rfl, hfreeze, he⟩ := freezePrice_eq_ok hfrozen
  subst hmerchant
  refine ⟨⟨hselected, ?_, hcouponId, hcouponRow, ?_⟩, he⟩
  · rw [hfreeze]
    show (p.promotion.map fun c => c.rule.promotionId).toList = (p.promotion.map PromotionCandidate.id).toList
    cases hp : p.promotion with
    | none => rfl
    | some c =>
      obtain ⟨eligible, hrule⟩ := (hselected c hp).rule
      rw [Option.map_some, Option.map_some, hrule]
      rfl
  · rw [hfreeze, ← hlines, ← Pricing.calculateCartPrice_lines hcart hn, List.map_map]
    rfl

/-- Loading the catalogue changes nothing, and pricing only counts the promotion. -/
theorem priceOrder_priced {principal : Principal} {request : CreateOrderRequest} {lines : List OrderLineInput}
    {now : Time} {e e' : Exec Db} {p : PricedOrder}
    (h : (priceOrder principal request lines now).run e = (.ok p, e')) (hlines : MergedLines lines) :
    PricedFor request lines now e.view p ∧ e' = { e with view := e.view.quotaUsed p } := by
  unfold priceOrder at h
  rw [run_bind, run_query, andThen_ok, run_bind_eq_ok] at h
  obtain ⟨_, e₁, haddress, h⟩ := h
  rw [run_orRaise_eq_ok] at haddress
  obtain ⟨-, rfl⟩ := haddress
  rw [run_bind_eq_ok] at h
  obtain ⟨⟨pricedLines, merchantId⟩, e₂, hload, h⟩ := h
  obtain ⟨rfl, hsame⟩ := loadPricedLines_lines hload
  refine priceCart_priced h ?_ hsame
  have hskus := congrArg (List.map Prod.fst) hsame
  rw [List.map_map, List.map_map] at hskus
  show (pricedLines.map Pricing.PricedLine.skuId).Nodup
  exact hskus ▸ hlines.nodup

/-! ## The lines -/

/-- A row of a line, as `newItem` builds it. -/
structure ItemRow (orderId warehouseId : Nat) (item : Pricing.ItemPrice AttributeSnapshot) (row : OrderItem) :
    Prop where
  orderId : row.orderId = orderId
  warehouseId : row.warehouseId = warehouseId
  skuId : row.skuId = item.line.skuId
  quantity : row.quantity = item.line.quantity
  checked : row.Checked

theorem newItem_row {snapshot : Pricing.PriceSnapshot AttributeSnapshot} {orderId warehouseId : Nat}
    {item : Pricing.ItemPrice AttributeSnapshot} {row : OrderItem}
    (h : newItem snapshot orderId warehouseId item = .ok row) (checked : row.Checked) :
    ItemRow orderId warehouseId item row := by
  unfold newItem at h
  simp only [Raise.bind_eq_ok, Raise.pure_eq_ok] at h
  obtain ⟨_, -, _, -, _, -, rfl⟩ := h
  exact ⟨rfl, rfl, rfl, rfl, checked⟩

/-- The lines are inserted as `newItem` builds them, at the ids that are drawn one after the other. -/
theorem insertItems_eq_ok {snapshot : Pricing.PriceSnapshot AttributeSnapshot} {orderId warehouseId : Nat} :
    ∀ {items : List (Pricing.ItemPrice AttributeSnapshot)} {e e' : Exec Db} {rows : List OrderItem},
      (insertItems snapshot orderId warehouseId items).run e = (.ok rows, e') →
      List.Forall₂ (fun item row => newItem snapshot orderId warehouseId item = .ok row ∧ row.Checked) items rows ∧
        e' = { e with
          view := { e.view with orderItems := e.view.orderItems.setFrom e.next rows }
          next := e.next + rows.length } := by
  intro items
  induction items with
  | nil =>
    intro e e' rows h
    cases h
    exact ⟨.nil, rfl⟩
  | cons item items ih =>
    intro e e' rows h
    unfold insertItems at h
    rw [run_bind_eq_ok] at h
    obtain ⟨row, e₁, hrow, h⟩ := h
    rw [run_ofExcept_eq_ok, priced_eq_ok] at hrow
    obtain ⟨hrow, rfl⟩ := hrow
    rw [run_bind_eq_ok] at h
    obtain ⟨_, e₂, hchecked, h⟩ := h
    rw [run_raiseIf_eq_ok, not_not] at hchecked
    obtain ⟨hchecked, rfl⟩ := hchecked
    rw [run_bind, run_newId, andThen_ok, run_bind, run_update, andThen_ok, run_bind_eq_ok] at h
    obtain ⟨rest, e₃, hrest, h⟩ := h
    obtain ⟨hall, rfl⟩ := ih hrest
    cases h
    refine ⟨.cons ⟨hrow, hchecked⟩ hall, ?_⟩
    rw [List.length_cons, ← Nat.add_assoc, Nat.add_right_comm]
    rfl

theorem insertItems_inserted {snapshot : Pricing.PriceSnapshot AttributeSnapshot} {orderId warehouseId : Nat}
    {items : List (Pricing.ItemPrice AttributeSnapshot)} {e e' : Exec Db} {rows : List OrderItem}
    (h : (insertItems snapshot orderId warehouseId items).run e = (.ok rows, e')) :
    List.Forall₂ (ItemRow orderId warehouseId) items rows ∧
      e' = { e with
        view := { e.view with orderItems := e.view.orderItems.setFrom e.next rows }
        next := e.next + rows.length } := by
  obtain ⟨hall, he⟩ := insertItems_eq_ok h
  exact ⟨hall.imp fun _ _ hrow => newItem_row hrow.1 hrow.2, he⟩

/-- The rows of an order name the SKUs and quantities of its merged lines, in one warehouse. -/
structure ItemRows (orderId warehouseId : Nat) (lines : List OrderLineInput) (rows : List OrderItem) : Prop where
  owned : ∀ row ∈ rows, row.orderId = orderId ∧ row.warehouseId = warehouseId
  lines : rows.map (fun row => (row.skuId, row.quantity)) = lines.map fun line => (line.skuId, line.quantity)

theorem ItemRow.rows {orderId warehouseId : Nat} {items : List (Pricing.ItemPrice AttributeSnapshot)}
    {rows : List OrderItem} {lines : List OrderLineInput}
    (h : List.Forall₂ (ItemRow orderId warehouseId) items rows)
    (hlines : items.map (fun item => (item.line.skuId, item.line.quantity)) =
      lines.map fun line => (line.skuId, line.quantity)) : ItemRows orderId warehouseId lines rows := by
  refine ⟨?_, hlines ▸ ?_⟩
  · clear hlines
    induction h with
    | nil => exact fun _ h => nomatch h
    | cons hrow _ ih => exact List.forall_mem_cons.mpr ⟨⟨hrow.orderId, hrow.warehouseId⟩, ih⟩
  · clear hlines
    induction h with
    | nil => rfl
    | cons hrow _ ih => rw [List.map_cons, List.map_cons, ih, hrow.skuId, hrow.quantity]

/-! ## What a create leaves -/

/-- The record of a claimed key. -/
def CreateOrderRequest.claim (request : CreateOrderRequest) (requestHash : String) : IdempotencyRecord where
  scope := orderCreateScope
  idempotencyKey := request.idempotencyKey
  requestHash := requestHash
  resourceType := some "ORDER"

/-- Everything a create that wrote an order did: the claim has the next id, and the order the one after. -/
inductive OrderCreated (env : Deployment) (next : Nat) (d : Db) : Nat → Db → Prop where
  | mk {principal : Principal} {request : CreateOrderRequest} {lines : List OrderLineInput}
      {requestHash : String} {p : PricedOrder} {now : Time} {warehouseId : Nat} {rows : List OrderItem}
      {c₁ c₂ d' : Db} (merged : MergedLines lines)
      (unclaimed : d.idempotencyAt orderCreateScope request.idempotencyKey = none)
      (unordered : d.orderByClientRequestId principal.userId request.clientRequestId = none)
      (window : now + 60000 * env.settings.orderPaymentTimeoutMinutes ≤ maxTime)
      (priced : PricedFor request lines now d p)
      (checked : (newOrder env principal request requestHash p now (next + 1)).Checked)
      (coupon : CouponLocked (next + 1) (newOrder env principal request requestHash p now (next + 1)) d c₁)
      (stock : Moves reserveOperation now (reserveRequests principal request lines (next + 1) warehouseId) d c₂)
      (items : ItemRows (next + 1) warehouseId lines rows)
      (event : Enqueued (createdEvent request (next + 1)
          (newOrder env principal request requestHash p now (next + 1))) { d with
        idempotency := d.idempotency.set next ((request.claim requestHash).completedBy (next + 1)
          (newOrder env principal request requestHash p now (next + 1)) now)
        promotions := (d.quotaUsed p).promotions
        orders := d.orders.set (next + 1) (newOrder env principal request requestHash p now (next + 1))
        userCoupons := c₁.userCoupons
        couponUsages := c₁.couponUsages
        movements := c₂.movements
        inventories := c₂.inventories
        orderItems := d.orderItems.setFrom (next + 2) rows
        statusLogs := d.statusLogs ++ [createdLog principal (next + 1)
          (newOrder env principal request requestHash p now (next + 1))] } d') :
      OrderCreated env next d (next + 2 + rows.length) d'

theorem insertOrder_eq_ok {env : Deployment} {principal : Principal} {request : CreateOrderRequest}
    {requestHash : String} {p : PricedOrder} {now : Time} {e e' : Exec Db} {id : Nat}
    (h : (insertOrder env principal request requestHash p now).run e = (.ok id, e')) :
    id = e.next ∧ now + 60000 * env.settings.orderPaymentTimeoutMinutes ≤ maxTime ∧
      e.view.orderByClientRequestId principal.userId request.clientRequestId = none ∧
      (newOrder env principal request requestHash p now e.next).Checked ∧
      e' = { e with
        view := { e.view with
          orders := e.view.orders.set e.next (newOrder env principal request requestHash p now e.next) }
        next := e.next + 1 } := by
  unfold insertOrder at h
  rw [run_bind_eq_ok] at h
  obtain ⟨_, e₁, hwindow, h⟩ := h
  rw [run_raiseIf_eq_ok, not_lt] at hwindow
  obtain ⟨hwindow, rfl⟩ := hwindow
  rw [run_bind, run_newId, andThen_ok, run_bind, run_lock, andThen_ok, run_bind_eq_ok] at h
  obtain ⟨_, e₂, htaken, h⟩ := h
  rw [run_raiseIf_eq_ok, Bool.not_eq_true, Option.isSome_eq_false_iff, Option.isNone_iff_eq_none] at htaken
  obtain ⟨htaken, rfl⟩ := htaken
  rw [run_bind_eq_ok] at h
  obtain ⟨_, e₃, hchecked, h⟩ := h
  rw [run_raiseIf_eq_ok, not_not] at hchecked
  obtain ⟨hchecked, rfl⟩ := hchecked
  cases h
  exact ⟨rfl, hwindow, htaken, hchecked, rfl⟩

theorem reserveStock_eq_ok {principal : Principal} {request : CreateOrderRequest} {lines : List OrderLineInput}
    {orderId merchantId : Nat} {now : Time} {e e' : Exec Db} {warehouseId : Nat}
    (h : (reserveStock principal request lines orderId merchantId now).run e = (.ok warehouseId, e')) :
    ∃ d, e' = { e with view := d } ∧
      Moves reserveOperation now (reserveRequests principal request lines orderId warehouseId) e.view d := by
  unfold reserveStock at h
  rw [run_bind, run_query, andThen_ok, run_bind_eq_ok] at h
  obtain ⟨w, e₁, hwarehouse, h⟩ := h
  rw [run_orRaise_eq_ok] at hwarehouse
  obtain ⟨-, rfl⟩ := hwarehouse
  rw [run_bind_eq_ok] at h
  obtain ⟨_, e₂, hmoves, h⟩ := h
  cases h
  exact moveAll_moves hmoves

theorem lockSelected_locked {coupon : Option CouponSelection} {orderId : Nat} {order : Order} {now : Time}
    {e e' : Exec Db} {u : Unit} (h : (lockSelected coupon orderId order now).run e = (.ok u, e'))
    (hselected : coupon.map CouponSelection.id = order.couponId)
    (hrow : ∀ s ∈ coupon, e.view.userCoupons.get? s.id = some s.coupon) :
    ∃ d, e' = { e with view := d } ∧ CouponLocked orderId order e.view d := by
  unfold lockSelected at h
  cases coupon with
  | none =>
    cases h
    exact ⟨_, rfl, .without hselected.symm⟩
  | some s => exact lockForOrder_locked h hselected.symm (hrow s rfl)

/-- Writing a priced order, from the claim on. -/
theorem writeNewOrder_created {env : Deployment} {principal : Principal} {request : CreateOrderRequest}
    {lines : List OrderLineInput} {requestHash : String} {p : PricedOrder} {now : Time} {next : Nat} {d : Db}
    {e e' : Exec Db} {result : CreateOrderResult} (merged : MergedLines lines)
    (unclaimed : d.idempotencyAt orderCreateScope request.idempotencyKey = none)
    (priced : PricedFor request lines now d p)
    (hview : e.view = { d with
      idempotency := d.idempotency.set next (request.claim requestHash)
      promotions := (d.quotaUsed p).promotions }) (hnext : e.next = next + 1)
    (h : (writeNewOrder env principal request lines requestHash next p now).run e = (.ok result, e')) :
    OrderCreated env next d e'.next e'.view := by
  unfold writeNewOrder at h
  rw [run_bind_eq_ok] at h
  obtain ⟨orderId, e₁, horder, h⟩ := h
  obtain ⟨rfl, hwindow, hunordered, hchecked, rfl⟩ := insertOrder_eq_ok horder
  rw [run_bind_eq_ok] at h
  obtain ⟨_, e₂, hcoupon, h⟩ := h
  obtain ⟨c₁, rfl, hlocked⟩ := lockSelected_locked hcoupon priced.couponId fun s hs => by
    rw [hview]
    exact priced.coupon s hs
  rw [run_bind_eq_ok] at h
  obtain ⟨warehouseId, e₃, hstock, h⟩ := h
  obtain ⟨c₂, rfl, hmoves⟩ := reserveStock_eq_ok hstock
  rw [run_bind_eq_ok] at h
  obtain ⟨rows, e₄, hitems, h⟩ := h
  obtain ⟨hall, rfl⟩ := insertItems_inserted hitems
  rw [run_bind, run_update, andThen_ok, run_bind_eq_ok] at h
  obtain ⟨_, e₅, hinvariants, h⟩ := h
  rw [run_ofExcept_eq_ok] at hinvariants
  obtain ⟨-, rfl⟩ := hinvariants
  rw [run_bind, run_update, andThen_ok, run_bind_eq_ok] at h
  obtain ⟨_, e₆, hevent, h⟩ := h
  obtain ⟨d', rfl, hqueued⟩ := enqueue_enqueued hevent
  cases h
  obtain ⟨committed, view, drawn⟩ := e
  dsimp only at hview hnext
  subst hview hnext
  -- the coupon and the stock were written over the new order, in tables it is not in
  have hcouponFrame := hlocked.frame
  obtain ⟨movements, inventories, hstockFrame, -⟩ := hmoves.frame
  have hcoupon' := hlocked.transfer (c := d) rfl rfl
  have hstock' := hmoves.transfer (c := d) (by rw [hcouponFrame]) (by rw [hcouponFrame]) (by rw [hcouponFrame])
  have hcount : next + 1 + 1 + rows.length = next + 2 + rows.length := by omega
  dsimp only
  rw [hcount]
  refine .mk merged unclaimed hunordered hwindow priced hchecked hcoupon' hstock' (ItemRow.rows hall priced.items) ?_
  have hmovements : c₁.movements = d.movements := by rw [hcouponFrame]
  rw [hstockFrame, hcouponFrame] at hqueued
  rw [hstockFrame, hmovements]
  dsimp only at hqueued ⊢
  rw [Dict.modify_set_self] at hqueued
  exact hqueued

theorem insertInProgress_eq_ok {scope key requestHash resourceType : String} {e e' : Exec Db} {r : Option Nat}
    (h : (insertInProgress scope key requestHash resourceType).run e = (.ok r, e')) :
    (r = none ∧ e' = e) ∨ (r = some e.next ∧ e.view.idempotencyAt scope key = none ∧ e' = { e with
      view := { e.view with
        idempotency := e.view.idempotency.set e.next {
          scope := scope
          idempotencyKey := key
          requestHash := requestHash
          resourceType := some resourceType } }
      next := e.next + 1 }) := by
  unfold insertInProgress at h
  rw [run_bind, run_lock, andThen_ok] at h
  cases hr : e.view.idempotencyAt scope key with
  | some found =>
    simp only [hr] at h
    cases h
    exact .inl ⟨rfl, rfl⟩
  | none =>
    simp only [hr] at h
    cases h
    exact .inr ⟨rfl, rfl, rfl⟩

theorem replayClaim_eq_ok {record : Option (Nat × IdempotencyRecord)} {key requestHash : String} {userId : Nat}
    {e e' : Exec Db} {result : CreateOrderResult}
    (h : (replayClaim record key requestHash userId).run e = (.ok result, e')) : e' = e := by
  unfold replayClaim at h
  match record with
  | none => cases h
  | some (_, record) =>
    dsimp only at h
    rw [run_bind_eq_ok] at h
    obtain ⟨_, e₁, hstatus, h⟩ := h
    rw [run_raiseIf_eq_ok] at hstatus
    obtain ⟨-, rfl⟩ := hstatus
    rw [run_bind_eq_ok] at h
    obtain ⟨_, e₂, hhash, h⟩ := h
    rw [run_raiseIf_eq_ok] at hhash
    obtain ⟨-, rfl⟩ := hhash
    unfold loadReplayedOrder at h
    rw [run_bind, run_query, andThen_ok, run_bind_eq_ok] at h
    obtain ⟨found, e₃, hfound, h⟩ := h
    rw [run_orRaise_eq_ok] at hfound
    obtain ⟨-, rfl⟩ := hfound
    rw [run_bind_eq_ok] at h
    obtain ⟨_, e₄, howner, h⟩ := h
    rw [run_raiseIf_eq_ok] at howner
    obtain ⟨-, rfl⟩ := howner
    cases h
    rfl

/-- The transaction of a create writes an order, or nothing. -/
theorem createFrom_created {env : Deployment} {principal : Principal} {request : CreateOrderRequest}
    {lines : List OrderLineInput} {requestHash : String} {now : Time} {e e' : Exec Db}
    {result : CreateOrderResult} (merged : MergedLines lines)
    (h : (createFrom env principal request lines requestHash now).run e = (.ok result, e')) :
    e' = e ∨ OrderCreated env e.next e.view e'.next e'.view := by
  unfold createFrom at h
  rw [run_bind_eq_ok] at h
  obtain ⟨claim, e₁, hclaim, h⟩ := h
  rcases insertInProgress_eq_ok hclaim with ⟨rfl, rfl⟩ | ⟨rfl, hunclaimed, rfl⟩
  · dsimp only at h
    rw [run_bind, run_query, andThen_ok] at h
    exact .inl (replayClaim_eq_ok h)
  · dsimp only at h
    rw [run_bind_eq_ok] at h
    obtain ⟨p, e₂, hprice, h⟩ := h
    obtain ⟨hpriced, rfl⟩ := priceOrder_priced hprice merged
    have hpriced' : PricedFor request lines now e.view p :=
      ⟨fun c hc => ⟨(hpriced.promotion c hc).row, (hpriced.promotion c hc).running,
        (hpriced.promotion c hc).rule⟩, hpriced.promotionIds, hpriced.couponId, hpriced.coupon, hpriced.items⟩
    refine .inr (writeNewOrder_created merged hunclaimed hpriced' ?_ rfl h)
    unfold Db.quotaUsed
    cases p.promotion with
    | none => rfl
    | some c =>
      dsimp only
      split_ifs <;> rfl

section

variable (env : Deployment) (principal : Principal) (request : CreateOrderRequest)

@[grind .] theorem noCommit_priceOrder (lines : List OrderLineInput) (now : Time) :
    (priceOrder principal request lines now).NoCommit := by
  have hselect : ∀ merchantId skuIds, (selectCoupon principal request merchantId skuIds now).NoCommit := by
    intro merchantId skuIds
    unfold selectCoupon
    grind
  have huse : ∀ promotion cart, (usePromotion promotion cart).NoCommit := by
    intro promotion cart
    unfold usePromotion
    cases promotion with
    | none => trivial
    | some c =>
      dsimp only
      split_ifs
      · exact noCommit_useQuota c
      · trivial
  have hfreeze : ∀ lines merchantId promotion coupon cart,
      (freezePrice lines merchantId promotion coupon cart).NoCommit := by
    intro lines merchantId promotion coupon cart
    unfold freezePrice
    grind
  have hprice : ∀ skuIds lines merchantId, (priceCart principal request skuIds now lines merchantId).NoCommit := by
    intro skuIds lines merchantId
    unfold priceCart
    grind
  unfold priceOrder
  grind

@[grind .] theorem noCommit_insertItems (snapshot : Pricing.PriceSnapshot AttributeSnapshot)
    (orderId warehouseId : Nat) :
    ∀ items, (insertItems snapshot orderId warehouseId items).NoCommit
  | [] => trivial
  | item :: items => by
    have ih := noCommit_insertItems snapshot orderId warehouseId items
    unfold insertItems
    grind

@[grind .] theorem noCommit_writeNewOrder (lines : List OrderLineInput) (requestHash : String) (claimId : Nat)
    (p : PricedOrder) (now : Time) :
    (writeNewOrder env principal request lines requestHash claimId p now).NoCommit := by
  have hinsert : (insertOrder env principal request requestHash p now).NoCommit := by
    unfold insertOrder
    refine .bind (noCommit_raiseIf _ _) fun _ => .bind noCommit_newId fun _ => .bind (noCommit_lock _ _) fun _ => ?_
    exact .bind (noCommit_raiseIf _ _) fun _ => .bind (noCommit_raiseIf _ _) fun _ => by grind
  have hlock : ∀ orderId order, (lockSelected p.coupon orderId order now).NoCommit := by
    intro orderId order
    unfold lockSelected
    cases p.coupon with
    | none => trivial
    | some s => exact noCommit_lockForOrder s orderId order now
  have hreserve : ∀ orderId, (reserveStock principal request lines orderId p.merchantId now).NoCommit := by
    intro orderId
    unfold reserveStock
    grind
  unfold writeNewOrder
  refine .bind hinsert fun orderId => .bind (hlock _ _) fun _ => .bind (hreserve _) fun warehouseId => ?_
  refine .bind (noCommit_insertItems _ _ _ _) fun items => .bind (noCommit_update _) fun _ => ?_
  exact .bind (noCommit_ofExcept _) fun _ => .bind (noCommit_update _) fun _ => .bind (noCommit_enqueue _) fun _ =>
    noCommit_pure _

@[grind .] theorem noCommit_createFrom (lines : List OrderLineInput) (requestHash : String) (now : Time) :
    (createFrom env principal request lines requestHash now).NoCommit := by
  have hclaim : (insertInProgress orderCreateScope request.idempotencyKey requestHash "ORDER").NoCommit := by
    unfold insertInProgress
    grind
  have hload : ∀ record, (loadReplayedOrder record principal.userId).NoCommit := by
    intro record
    unfold loadReplayedOrder
    grind
  have hreplay : ∀ record, (replayClaim record request.idempotencyKey requestHash principal.userId).NoCommit := by
    intro record
    unfold replayClaim
    match record with
    | none => trivial
    | some (_, record) =>
      exact .bind (noCommit_raiseIf _ _) fun _ => .bind (noCommit_raiseIf _ _) fun _ => hload record
  unfold createFrom
  grind

theorem noCommit_recoverCreate (requestHash : String) (x : AppError) :
    (recoverCreate principal request requestHash x).NoCommit := by
  unfold recoverCreate recoverFromClientRequestId
  grind

end

/-- Wherever a create is lost, it left nothing, or a whole order. -/
theorem createOrder_leaves (env : Deployment) (principal : Principal) (request : CreateOrderRequest) (now : Time)
    (d : Db) (next : Nat) :
    Leaves (createOrder env principal request now) (Exec.start d next) fun next' d' =>
      (next' = next ∧ d' = d) ∨ OrderCreated env next d next' d' := by
  unfold createOrder
  refine leaves_bind (noCommit_raiseIf _ _) fun _ e hkey _ => ?_
  rw [run_raiseIf_eq_ok] at hkey
  obtain ⟨-, rfl⟩ := hkey
  refine leaves_bind (noCommit_ofExcept _) fun lines e hlines _ => ?_
  rw [run_ofExcept_eq_ok] at hlines
  obtain ⟨hlines, rfl⟩ := hlines
  refine leaves_handle (noCommit_createFrom _ _ _ _ _ _) (noCommit_recoverCreate _ _ _) fun result e hrun => ?_
  rcases createFrom_created (mergeOrderLines_merged hlines) hrun with rfl | h
  · exact .inl ⟨rfl, rfl⟩
  · exact .inr h

end NovaCommerce
