import NovaCommerce.Lib.Refusals
import NovaCommerce.Marketing.BestPromotion
import NovaCommerce.Order.Creation

/-!
# Retrying a create under another key

A create whose request id is taken prices its cart before the unique index refuses the order. So the retry finds the
first order exactly where the cart can be priced again (`createOrder_retried_iff`).

* `Db.OnSale` : what the catalogue asks of a cart (`loadPricedLines_onSale`, `loadPricedLines_ok`);
* `priceOrder_without_coupon`, `priceOrder_used_coupon` : when a cart can be priced;
* `raises_priceOrder` : pricing never raises what a duplicate key raises.
-/

namespace NovaCommerce

open Sql

/-! ## Carts that are on sale -/

/-- A SKU of a product is sold: it is active and the product is published, and neither is deleted. -/
def Db.Sells (d : Db) (skuId : Nat) (product : Product) : Prop :=
  ∃ sku, d.productSkus.get? skuId = some sku ∧ sku.deletedAt = none ∧ sku.status = .active ∧
    d.products.get? sku.productId = some product ∧ product.deletedAt = none ∧ product.status = .published

/-- The SKUs of a cart are sold by one merchant. -/
structure Db.OnSale (d : Db) (lines : List OrderLineInput) (merchantId : Nat) : Prop where
  sold : ∀ line ∈ lines, ∃ product, d.Sells line.skuId product ∧ ∀ m ∈ product.merchantId, m = merchantId
  owned : ∃ line ∈ lines, ∃ product, d.Sells line.skuId product ∧ product.merchantId = some merchantId

theorem Db.Sells.unique {d : Db} {skuId : Nat} {p q : Product} (hp : d.Sells skuId p) (hq : d.Sells skuId q) : p = q := by
  obtain ⟨sku, hsku, -, -, hproduct, -⟩ := hp
  obtain ⟨sku', hsku', -, -, hproduct', -⟩ := hq
  rw [hsku] at hsku'
  cases hsku'
  rw [hproduct] at hproduct'
  exact Option.some.inj hproduct'

/-- Selling is a matter of the catalogue. -/
theorem Db.OnSale.transfer {d c : Db} {lines : List OrderLineInput} {merchantId : Nat} (h : d.OnSale lines merchantId)
    (hskus : c.productSkus = d.productSkus) (hproducts : c.products = d.products) : c.OnSale lines merchantId := by
  have hsells : ∀ skuId product, d.Sells skuId product → c.Sells skuId product := by
    intro skuId product h
    unfold Db.Sells at h ⊢
    rw [hskus, hproducts]
    exact h
  refine ⟨fun line hline => ?_, ?_⟩
  · obtain ⟨product, hsold, howner⟩ := h.sold line hline
    exact ⟨product, hsells _ _ hsold, howner⟩
  · obtain ⟨line, hline, product, hsold, howner⟩ := h.owned
    exact ⟨line, hline, product, hsells _ _ hsold, howner⟩

/-- The row of an id among the selected rows of some ids. -/
theorem rowOf_selected {α : Type} {rows : Dict Nat α} {p : α → Bool} {ids : List Nat} {id : Nat} {v : α} :
    rowOf ((rows.select p).filter fun e => decide (e.1 ∈ ids)) id = some v ↔
      rows.get? id = some v ∧ p v = true ∧ id ∈ ids := by
  have hkeys : (((rows.select p).filter fun e => decide (e.1 ∈ ids)).map Prod.fst).Nodup :=
    (rows.nodup.sublist (List.filter_sublist.map _)).sublist (List.filter_sublist.map _)
  constructor
  · intro h
    obtain ⟨hrow, hid⟩ := List.mem_filter.mp (mem_of_rowOf h)
    obtain ⟨hget, hp⟩ := Dict.mem_select.mp hrow
    exact ⟨hget, hp, of_decide_eq_true hid⟩
  · rintro ⟨hget, hp, hid⟩
    exact rowOf_of_mem hkeys (List.mem_filter.mpr ⟨Dict.mem_select.mpr ⟨hget, hp⟩, decide_eq_true hid⟩)

section

variable {d : Db} {items : List OrderLineInput} {images : List (Nat × ProductImage)}

/-- A line is priced from a SKU that is sold, at its price. -/
theorem priceLine_eq_ok {line : OrderLineInput} {r : Pricing.PricedLine AttributeSnapshot × Option Nat}
    (h : priceLine (d.skuRows (items.map OrderLineInput.skuId))
      (d.productRows ((d.skuRows (items.map OrderLineInput.skuId)).map fun e => e.2.productId)) images line = .ok r) :
    ∃ product, d.Sells line.skuId product ∧ r.2 = product.merchantId ∧
      ∃ sku, d.productSkus.get? line.skuId = some sku ∧ r.1.unitPrice = sku.priceAmount := by
  unfold priceLine at h
  simp only [Raise.bind_eq_ok, Raise.orRaise_eq_ok, Raise.raiseIf_eq_ok, not_not] at h
  obtain ⟨sku, hsku, _, hactive, product, hproduct, _, hpublished, h⟩ := h
  cases h
  obtain ⟨hsku, hkept, -⟩ := rowOf_selected.mp hsku
  obtain ⟨hproduct, hpkept, -⟩ := rowOf_selected.mp hproduct
  exact ⟨product, ⟨sku, hsku, Option.isNone_iff_eq_none.mp hkept, hactive, hproduct, Option.isNone_iff_eq_none.mp hpkept,
    hpublished⟩, rfl, sku, hsku, rfl⟩

/-- A SKU of the cart that is sold is priced. -/
theorem priceLine_ok {line : OrderLineInput} (hline : line ∈ items) {product : Product} (h : d.Sells line.skuId product) :
    ∃ r, priceLine (d.skuRows (items.map OrderLineInput.skuId))
      (d.productRows ((d.skuRows (items.map OrderLineInput.skuId)).map fun e => e.2.productId)) images line = .ok r ∧
      r.2 = product.merchantId := by
  obtain ⟨sku, hsku, hkept, hactive, hproduct, hpkept, hpublished⟩ := h
  have hskuRow : rowOf (d.skuRows (items.map OrderLineInput.skuId)) line.skuId = some sku :=
    rowOf_selected.mpr ⟨hsku, by rw [hkept]; rfl, List.mem_map_of_mem hline⟩
  have hproductRow : rowOf (d.productRows ((d.skuRows (items.map OrderLineInput.skuId)).map fun e => e.2.productId))
      sku.productId = some product :=
    rowOf_selected.mpr ⟨hproduct, by rw [hpkept]; rfl, List.mem_map.mpr ⟨_, mem_of_rowOf hskuRow, rfl⟩⟩
  unfold priceLine
  rw [Raise.orRaise_eq_ok.mpr hskuRow, Raise.ok_bind, Raise.raiseIf_neg (not_not.mpr hactive), Raise.ok_bind,
    Raise.orRaise_eq_ok.mpr hproductRow, Raise.ok_bind, Raise.raiseIf_neg (not_not.mpr hpublished), Raise.ok_bind]
  exact ⟨_, rfl, rfl⟩

end

/-- The one merchant of a list. -/
theorem merchantOf_eq_ok {merchants : List Nat} {m : Nat} :
    merchantOf merchants = .ok m ↔ m ∈ merchants ∧ ∀ x ∈ merchants, x = m := by
  unfold merchantOf
  constructor
  · intro h
    split at h
    · cases h
    next merchant hdedup =>
      cases h
      have hmem : ∀ x, x ∈ merchants ↔ x = m := fun x => by rw [← List.mem_dedup, hdedup, List.mem_singleton]
      exact ⟨(hmem m).mpr rfl, fun x hx => (hmem x).mp hx⟩
    · cases h
  · rintro ⟨hm, hall⟩
    have hdedup : merchants.dedup = [m] := by
      have hnodup := List.nodup_dedup merchants
      have hmem : ∀ x, x ∈ merchants.dedup ↔ x ∈ merchants := fun x => List.mem_dedup
      generalize merchants.dedup = names at hnodup hmem
      cases names with
      | nil => exact absurd ((hmem m).mpr hm) List.not_mem_nil
      | cons a rest =>
        have ha := hall a ((hmem a).mp List.mem_cons_self)
        cases rest with
        | nil => rw [ha]
        | cons b rest =>
          have hb := hall b ((hmem b).mp (List.mem_cons_of_mem _ List.mem_cons_self))
          rw [ha, hb] at hnodup
          exact absurd List.mem_cons_self (List.nodup_cons.mp hnodup).1
    rw [hdedup]

/-- A cart that is loaded is on sale, and no line is priced below nothing. -/
theorem loadPricedLines_onSale {items : List OrderLineInput} {lines : List (Pricing.PricedLine AttributeSnapshot)}
    {m : Nat} {e e' : Exec Db} (h : (loadPricedLines items).run e = (.ok (lines, m), e')) :
    e.view.OnSale items m ∧ ∀ line ∈ lines, ∃ id sku, e.view.productSkus.get? id = some sku ∧ line.unitPrice = sku.priceAmount := by
  unfold loadPricedLines at h
  simp only [run_bind, run_query, andThen_ok] at h
  rw [run_ofExcept_eq_ok] at h
  obtain ⟨h, -⟩ := h
  unfold priceLines at h
  simp only [Raise.bind_eq_ok] at h
  obtain ⟨_, -, prices, hprices, merchant, hmerchant, h⟩ := h
  cases h
  obtain ⟨hmem, hall⟩ := merchantOf_eq_ok.mp hmerchant
  refine ⟨⟨fun line hline => ?_, ?_⟩, fun line hline => ?_⟩
  · obtain ⟨r, hr, hrow⟩ := Raise.exists_ok_of_mapM hprices hline
    obtain ⟨product, hsells, howner, -⟩ := priceLine_eq_ok hrow
    refine ⟨product, hsells, fun x hx => hall x (List.mem_filterMap.mpr ⟨r, hr, ?_⟩)⟩
    rw [howner]
    exact hx
  · obtain ⟨r, hr, howner⟩ := List.mem_filterMap.mp hmem
    obtain ⟨line, hline, hrow⟩ := Raise.exists_of_mem_mapM hprices hr
    obtain ⟨product, hsells, hproduct, -⟩ := priceLine_eq_ok hrow
    exact ⟨line, hline, product, hsells, hproduct.symm.trans howner⟩
  · obtain ⟨r, hr, rfl⟩ := List.mem_map.mp hline
    obtain ⟨item, -, hrow⟩ := Raise.exists_of_mem_mapM hprices hr
    obtain ⟨_, -, -, sku, hsku, hprice⟩ := priceLine_eq_ok hrow
    exact ⟨item.skuId, sku, hsku, hprice⟩

/-- A cart that is on sale is loaded. -/
theorem loadPricedLines_ok {items : List OrderLineInput} {m : Nat} {e : Exec Db} (h : e.view.OnSale items m) :
    ∃ lines, (loadPricedLines items).run e = (.ok (lines, m), e) := by
  unfold loadPricedLines
  simp only [run_bind, run_query, andThen_ok]
  set products := e.view.productRows ((e.view.skuRows (items.map OrderLineInput.skuId)).map fun row => row.2.productId)
  set images := e.view.primaryImages ((e.view.skuRows (items.map OrderLineInput.skuId)).map fun row => row.2.productId)
  obtain ⟨prices, hprices⟩ := Raise.mapM_total (f := priceLine (e.view.skuRows (items.map OrderLineInput.skuId)) products images)
    fun line hline => by
      obtain ⟨product, hsells, -⟩ := h.sold line hline
      obtain ⟨r, hr, -⟩ := priceLine_ok hline hsells
      exact ⟨r, hr⟩
  have hmissing : ((items.map OrderLineInput.skuId).filter fun id =>
      (rowOf (e.view.skuRows (items.map OrderLineInput.skuId)) id).isNone) = [] := by
    rw [List.filter_eq_nil_iff]
    intro id hid hnone
    obtain ⟨line, hline, rfl⟩ := List.mem_map.mp hid
    obtain ⟨product, ⟨sku, hsku, hkept, -⟩, -⟩ := h.sold line hline
    rw [show rowOf (e.view.skuRows (items.map OrderLineInput.skuId)) line.skuId = some sku from
      rowOf_selected.mpr ⟨hsku, by rw [hkept]; rfl, hid⟩] at hnone
    cases hnone
  have hmerchant : merchantOf (prices.filterMap Prod.snd) = .ok m := by
    refine merchantOf_eq_ok.mpr ⟨?_, fun x hx => ?_⟩
    · obtain ⟨line, hline, product, hsells, hm⟩ := h.owned
      obtain ⟨r, hr, hrow⟩ := Raise.exists_ok_of_mapM hprices hline
      obtain ⟨product', hsells', hm', -⟩ := priceLine_eq_ok hrow
      refine List.mem_filterMap.mpr ⟨r, hr, ?_⟩
      rw [hm', ← hsells.unique hsells', hm]
    · obtain ⟨r, hr, hx⟩ := List.mem_filterMap.mp hx
      obtain ⟨line, hline, hrow⟩ := Raise.exists_of_mem_mapM hprices hr
      obtain ⟨product, hsells, hm, -⟩ := priceLine_eq_ok hrow
      obtain ⟨product', hsells', howner⟩ := h.sold line hline
      rw [hsells'.unique hsells, ← hm] at howner
      exact howner x hx
  refine ⟨prices.map Prod.fst, ?_⟩
  rw [run_ofExcept]
  unfold priceLines
  rw [hmissing]
  dsimp only
  rw [Raise.raiseIf_neg (not_not.mpr rfl), Raise.ok_bind, hprices, Raise.ok_bind, hmerchant]
  rfl

/-! ## Carts that can be priced -/

section

variable {principal : Principal} {request : CreateOrderRequest} {lines : List OrderLineInput} {now : Time} {e : Exec Db}

/-- A cart that is priced goes to an address of the customer and is on sale. -/
theorem priceOrder_onSale {e' : Exec Db} {p : PricedOrder}
    (h : (priceOrder principal request lines now).run e = (.ok p, e')) :
    (e.view.ownedAddress request.addressId principal.userId).isSome ∧ ∃ m, e.view.OnSale lines m := by
  unfold priceOrder at h
  rw [run_bind, run_query, andThen_ok, run_bind_eq_ok] at h
  obtain ⟨_, e₁, haddress, h⟩ := h
  rw [run_orRaise_eq_ok] at haddress
  obtain ⟨haddress, rfl⟩ := haddress
  rw [run_bind_eq_ok] at h
  obtain ⟨⟨pricedLines, m⟩, e₂, hload, -⟩ := h
  exact ⟨by rw [haddress]; rfl, m, (loadPricedLines_onSale hload).1⟩

/-- The lines of a cart that is on sale can be priced. -/
theorem wellFormed_of_loaded {pricedLines : List (Pricing.PricedLine AttributeSnapshot)} {m : Nat} {e' : Exec Db}
    (merged : MergedLines lines) (hprices : ∀ i sku, e.view.productSkus.get? i = some sku → 0 ≤ sku.priceAmount)
    (h : (loadPricedLines lines).run e = (.ok (pricedLines, m), e')) : Pricing.WellFormedLines pricedLines := by
  obtain ⟨-, hsame⟩ := loadPricedLines_lines h
  have hskus : (pricedLines.map Pricing.PricedLine.skuId).Nodup := by
    have hfst := congrArg (List.map Prod.fst) hsame
    rw [List.map_map, List.map_map] at hfst
    exact hfst ▸ merged.nodup
  refine ⟨fun line hline => ?_, fun line hline => ?_, fun a ha b hb hab => ?_⟩
  · have hmem : (line.skuId, line.quantity) ∈ lines.map fun item => (item.skuId, item.quantity) := by
      rw [← hsame]
      exact List.mem_map_of_mem hline
    obtain ⟨item, hitem, heq⟩ := List.mem_map.mp hmem
    rw [← (Prod.mk.inj heq).2]
    exact merged.positive item hitem
  · obtain ⟨id, sku, hsku, hprice⟩ := (loadPricedLines_onSale h).2 line hline
    rw [hprice]
    exact hprices id sku hsku
  · rw [List.inj_on_of_nodup_map hskus ha hb hab]
    exact ⟨rfl, rfl, rfl, rfl, rfl, rfl, rfl⟩

/-- Without a coupon, the address and the catalogue decide whether a cart can be priced. -/
theorem priceOrder_without_coupon (hcoupon : request.couponId = none) (merged : MergedLines lines)
    (hconfig : ∀ i p, e.view.promotions.get? i = some p → p.ruleConfig.Valid)
    (hprices : ∀ i sku, e.view.productSkus.get? i = some sku → 0 ≤ sku.priceAmount)
    (haddress : (e.view.ownedAddress request.addressId principal.userId).isSome)
    (hsale : ∃ m, e.view.OnSale lines m) : ∃ p e', (priceOrder principal request lines now).run e = (.ok p, e') := by
  obtain ⟨address, haddress⟩ := Option.isSome_iff_exists.mp haddress
  obtain ⟨m, hsale⟩ := hsale
  obtain ⟨pricedLines, hload⟩ := loadPricedLines_ok hsale
  have hwell := wellFormed_of_loaded merged hprices hload
  obtain ⟨promotion, hpromotion, -, hbest, -⟩ :=
    resolvePromotion_best m (lines.map OrderLineInput.skuId) now e hwell hconfig
  obtain ⟨-, hselected⟩ := resolvePromotion_selected hpromotion
  -- its rule is the rule of a valid row, so that the cart is priced and frozen
  have hrule : ∀ rule ∈ promotion.map PromotionCandidate.rule, rule.Admissible := by
    intro rule hrule
    obtain ⟨c, hc, rfl⟩ := Option.map_eq_some_iff.mp hrule
    obtain ⟨eligible, hruleOf⟩ := (hselected c hc).rule
    rw [hruleOf]
    exact (hconfig _ _ (hselected c hc).row).admissible _ _
  have hfree : ∀ s ∈ (none : Option (Pricing.ShippingPolicy AttributeSnapshot)), ∀ cart, s.calculate cart = 0 :=
    fun _ h => nomatch h
  obtain ⟨cart, hcart, hexact⟩ := (Pricing.calculateCartPrice_exact_iff hwell (promotion.map PromotionCandidate.rule)
    none hfree).mpr ⟨hrule, fun _ h => nomatch h⟩
  obtain ⟨snapshot, hsnapshot⟩ := hexact.snapshot (promotion.map fun c => c.rule.promotionId).toList [] "FREE"
  have huse : ∃ e', (usePromotion promotion cart).run e = (.ok (), e') := by
    unfold usePromotion
    cases hp : promotion with
    | none => exact ⟨e, rfl⟩
    | some c =>
      dsimp only
      split_ifs
      · have hquota : c.promotion.usedQuota < c.promotion.totalQuota := (hselected c hp).running.2.2.2.2
        unfold useQuota
        rw [run_bind, run_raiseIf_neg (by omega), andThen_ok, run_update]
        exact ⟨_, rfl⟩
      · exact ⟨e, rfl⟩
  obtain ⟨e', huse⟩ := huse
  have hselect : (selectCoupon principal request m (lines.map OrderLineInput.skuId) now).run e = (.ok none, e) := by
    unfold selectCoupon
    rw [hcoupon]
    rfl
  unfold priceOrder
  rw [run_bind, run_query, andThen_ok, run_bind, run_orRaise_some haddress, andThen_ok, run_bind, hload, andThen_ok]
  dsimp only
  unfold priceCart
  rw [run_bind, hpromotion, andThen_ok, run_bind, hselect, andThen_ok, hcoupon, run_bind, run_ofExcept]
  dsimp only [Option.map_none, validateCouponInput]
  rw [andThen_ok, run_bind, run_ofExcept, priced_eq_ok.mpr hcart, andThen_ok, if_neg (by decide)]
  unfold freezePrice
  rw [run_bind, huse, andThen_ok, run_bind, run_ofExcept]
  dsimp only [Option.map_none, Option.toList_none]
  rw [priced_eq_ok.mpr hsnapshot, andThen_ok]
  exact ⟨_, _, rfl⟩

/-- Only an unused coupon is selected. -/
theorem resolveCoupon_unused {couponId userId merchantId : Nat} {skuIds : List Nat} {e' : Exec Db} {s : CouponSelection}
    (h : (resolveCoupon couponId userId merchantId skuIds now).run e = (.ok s, e')) : s.coupon.status = .unused := by
  unfold resolveCoupon at h
  rw [run_bind, run_lock, andThen_ok, run_bind_eq_ok] at h
  obtain ⟨coupon, e₁, -, h⟩ := h
  rw [run_bind, run_query, andThen_ok, run_bind_eq_ok] at h
  obtain ⟨template, e₂, -, h⟩ := h
  cases hr : coupon.refusal now with
  | some refusal => simp [hr] at h
  | none =>
    simp only [hr] at h
    rw [run_bind, run_query, andThen_ok, run_bind_eq_ok] at h
    obtain ⟨_, e₃, -, h⟩ := h
    cases h
    unfold UserCoupon.refusal at hr
    split at hr
    · cases hr
    · cases hr
    · cases hr
    next hunused => exact hunused

/-- A coupon that is not unused cannot be selected. -/
theorem priceOrder_used_coupon {couponId : Nat} (hcoupon : request.couponId = some couponId)
    (hused : ∀ c, e.view.userCoupons.get? couponId = some c → c.status ≠ .unused) (p : PricedOrder) (e' : Exec Db) :
    (priceOrder principal request lines now).run e ≠ (.ok p, e') := by
  intro h
  unfold priceOrder at h
  rw [run_bind, run_query, andThen_ok, run_bind_eq_ok] at h
  obtain ⟨_, e₁, haddress, h⟩ := h
  rw [run_orRaise_eq_ok] at haddress
  obtain ⟨-, rfl⟩ := haddress
  rw [run_bind_eq_ok] at h
  obtain ⟨⟨pricedLines, m⟩, e₂, hload, h⟩ := h
  obtain ⟨rfl, -⟩ := loadPricedLines_lines hload
  unfold priceCart at h
  rw [run_bind_eq_ok] at h
  obtain ⟨promotion, e₃, hpromotion, h⟩ := h
  obtain ⟨rfl, -⟩ := resolvePromotion_selected hpromotion
  rw [run_bind_eq_ok] at h
  obtain ⟨coupon, e₄, hselect, -⟩ := h
  unfold selectCoupon at hselect
  rw [hcoupon] at hselect
  dsimp only at hselect
  rw [run_bind_eq_ok] at hselect
  obtain ⟨s, e₅, hresolve, -⟩ := hselect
  obtain ⟨-, -, hrow⟩ := resolveCoupon_selected hresolve
  exact hused s.coupon hrow (resolveCoupon_unused hresolve)

end

/-! ## What pricing raises -/

/-- What a duplicate key raises is not raised. -/
abbrev NotIntegrity (x : AppError) : Prop := x.kind ≠ .integrity

theorem notIntegrity_priced {α : Type} {r : Pricing.Priced α} : ∀ x, priced r = .error x → NotIntegrity x := by
  intro x hx
  cases r with
  | ok a => cases hx
  | error y =>
    cases hx
    exact fun h => nomatch h

theorem notIntegrity_priceLines {skus : List (Nat × ProductSku)} {products : List (Nat × Product)}
    {images : List (Nat × ProductImage)} {items : List OrderLineInput} :
    Raise.Only NotIntegrity (priceLines skus products images items) := by
  have hline : ∀ line, Raise.Only NotIntegrity (priceLine skus products images line) := by
    intro line
    unfold priceLine
    exact (Raise.only_orRaise _ (fun h => nomatch h)).bind fun sku _ => (Raise.only_raiseIf _ (fun h => nomatch h)).bind fun _ _ =>
      (Raise.only_orRaise _ (fun h => nomatch h)).bind fun product _ => (Raise.only_raiseIf _ (fun h => nomatch h)).bind fun _ _ =>
      Raise.only_pure _
  have hmerchant : ∀ merchants, Raise.Only NotIntegrity (merchantOf merchants) := by
    intro merchants
    unfold merchantOf
    split
    · exact Raise.only_error (fun h => nomatch h)
    · exact Raise.only_ok _
    · exact Raise.only_error (fun h => nomatch h)
  unfold priceLines
  exact (Raise.only_raiseIf _ (fun h => nomatch h)).bind fun _ _ => (Raise.Only.mapM hline items).bind fun prices _ =>
    (hmerchant _).bind fun merchant _ => Raise.only_pure _

theorem raises_resolveCoupon (couponId userId merchantId : Nat) (skuIds : List Nat) (now : Time) :
    (resolveCoupon couponId userId merchantId skuIds now).Raises NotIntegrity := by
  unfold resolveCoupon
  refine .bind (fun _ => trivial) fun found => .bind (raises_orRaise _ (fun h => nomatch h)) fun coupon =>
    .bind (fun _ => trivial) fun found => .bind (raises_orRaise _ (fun h => nomatch h)) fun template => ?_
  cases hr : coupon.refusal now with
  | some refusal =>
    refine .bind ?_ fun _ => .bind (fun _ => trivial) fun rows => .bind (raises_raiseIf _ (fun h => nomatch h)) fun _ => trivial
    show NotIntegrity refusal
    unfold UserCoupon.refusal at hr
    split at hr
    · cases hr
      exact fun h => nomatch h
    · cases hr
      exact fun h => nomatch h
    · cases hr
      exact fun h => nomatch h
    · split_ifs at hr
      · cases hr
        exact fun h => nomatch h
      · cases hr
        exact fun h => nomatch h
  | none =>
    exact .bind (fun _ => trivial) fun rows => .bind (raises_raiseIf _ (fun h => nomatch h)) fun _ => trivial

/-- Pricing never raises what a duplicate key raises. -/
theorem raises_priceOrder (principal : Principal) (request : CreateOrderRequest) (lines : List OrderLineInput) (now : Time) :
    (priceOrder principal request lines now).Raises NotIntegrity := by
  have hload : (loadPricedLines lines).Raises NotIntegrity := by
    unfold loadPricedLines
    exact .bind (fun _ => trivial) fun _ => .bind (fun _ => trivial) fun _ => .bind (fun _ => trivial) fun _ =>
      raises_ofExcept notIntegrity_priceLines
  have hpromotion : ∀ m skuIds lines, (resolvePromotion m skuIds now lines).Raises NotIntegrity := by
    intro m skuIds lines
    unfold resolvePromotion
    split_ifs
    · trivial
    · exact .bind (fun _ => trivial) fun _ => .bind (fun _ => trivial) fun _ =>
        .bind (raises_ofExcept notIntegrity_priced) fun _ => trivial
  have hcoupon : ∀ m skuIds, (selectCoupon principal request m skuIds now).Raises NotIntegrity := by
    intro m skuIds
    unfold selectCoupon
    cases request.couponId with
    | none => trivial
    | some couponId => exact .bind (raises_resolveCoupon _ _ _ _ _) fun _ => trivial
  have hvalidate : ∀ rule x, validateCouponInput request.couponId rule = .error x → NotIntegrity x := by
    intro rule x hx
    unfold validateCouponInput at hx
    split at hx
    · cases hx
    · split at hx
      · cases hx
        exact fun h => nomatch h
      · split_ifs at hx
        cases hx
        exact fun h => nomatch h
  have happlicable : ∀ cart x, requireApplicableDiscount cart = .error x → NotIntegrity x := by
    intro cart x hx
    unfold requireApplicableDiscount at hx
    split_ifs at hx <;>
    · cases hx
      exact fun h => nomatch h
  have hfreeze : ∀ lines m promotion coupon cart, (freezePrice lines m promotion coupon cart).Raises NotIntegrity := by
    intro lines m promotion coupon cart
    unfold freezePrice
    refine .bind ?_ fun _ => .bind (raises_ofExcept notIntegrity_priced) fun _ => trivial
    unfold usePromotion
    split
    · trivial
    · split_ifs
      · unfold useQuota
        exact .bind (raises_raiseIf _ (fun h => nomatch h)) fun _ => trivial
      · trivial
  have hcart : ∀ skuIds lines m, (priceCart principal request skuIds now lines m).Raises NotIntegrity := by
    intro skuIds lines m
    unfold priceCart
    refine .bind (hpromotion _ _ _) fun promotion => .bind (hcoupon _ _) fun coupon =>
      .bind (raises_ofExcept (hvalidate _)) fun _ => .bind (raises_ofExcept notIntegrity_priced) fun cart => ?_
    split_ifs
    · exact .bind (raises_ofExcept (happlicable cart)) fun _ => hfreeze _ _ _ _ _
    · exact hfreeze _ _ _ _ _
  unfold priceOrder
  exact .bind (fun _ => trivial) fun _ => .bind (raises_orRaise _ (fun h => nomatch h)) fun _ => .bind hload fun _ => hcart _ _ _

/-! ## The retry -/

/-- The create was answered with order `i`, and the database is as it was. -/
def Replays (i : Nat) (o : Order) (d : Db) (r : Except AppError CreateOrderResult × Exec Db) : Prop :=
  r.1 = .ok { orderId := i, order := o, replayed := true } ∧ r.2.committed = d

/-- An order whose request id is taken is refused by its payment window, or else by the unique index. -/
theorem writeNewOrder_taken {env : Deployment} {principal : Principal} {request : CreateOrderRequest}
    {lines : List OrderLineInput} {requestHash : String} {claimId : Nat} {p : PricedOrder} {now : Time} {e : Exec Db}
    (htaken : (e.view.orderByClientRequestId principal.userId request.clientRequestId).isSome) :
    ∃ x e', (writeNewOrder env principal request lines requestHash claimId p now).run e = (.error x, e') ∧
      e'.committed = e.committed ∧
      (x.kind = .integrity ↔ now + 60000 * env.settings.orderPaymentTimeoutMinutes ≤ maxTime) := by
  unfold writeNewOrder
  rw [run_bind]
  unfold insertOrder
  rw [run_bind]
  by_cases hwindow : maxTime < now + 60000 * env.settings.orderPaymentTimeoutMinutes
  · rw [run_raiseIf_pos hwindow]
    exact ⟨_, _, rfl, rfl, (fun h => nomatch h), fun h => absurd hwindow (not_lt.mpr h)⟩
  · rw [run_raiseIf_neg hwindow, andThen_ok, run_bind, run_newId, andThen_ok, run_bind, run_lock, andThen_ok, run_bind,
      run_raiseIf_pos htaken]
    exact ⟨_, _, rfl, rfl, fun _ => not_lt.mp hwindow, fun _ => rfl⟩

/-- A create whose request id made order `i` replays it exactly where it selects no coupon, its address is still the
customer's, its cart is still on sale, and the payment window of another order could still be computed. -/
theorem createOrder_retried_iff {env : Deployment} {principal : Principal} {request : CreateOrderRequest}
    {lines : List OrderLineInput} {now : Time} {d : Db} {next i : Nat} {o : Order} (hkey : request.idempotencyKey ≠ "")
    (hfresh : d.idempotencyAt orderCreateScope request.idempotencyKey = none)
    (hlines : mergeOrderLines request.items = .ok lines)
    (hfound : d.orderByClientRequestId principal.userId request.clientRequestId = some (i, o))
    (hhash : o.requestHash = canonicalRequestHash env principal.userId lines request.addressId request.couponId request.remark)
    (hheld : ∀ couponId ∈ request.couponId, ∀ c, d.userCoupons.get? couponId = some c → c.status ≠ .unused)
    (hconfig : ∀ i p, d.promotions.get? i = some p → p.ruleConfig.Valid)
    (hprices : ∀ i sku, d.productSkus.get? i = some sku → 0 ≤ sku.priceAmount) :
    Replays i o d ((createOrder env principal request now).run (Exec.start d next)) ↔
      request.couponId = none ∧ (d.ownedAddress request.addressId principal.userId).isSome ∧ (∃ m, d.OnSale lines m) ∧
        now + 60000 * env.settings.orderPaymentTimeoutMinutes ≤ maxTime := by
  set requestHash := canonicalRequestHash env principal.userId lines request.addressId request.couponId request.remark
    with hrequestHash
  set e₁ : Exec Db := ⟨d, { d with idempotency := d.idempotency.set next (request.claim requestHash) }, next + 1⟩ with he₁
  have hclaim : (insertInProgress orderCreateScope request.idempotencyKey requestHash "ORDER").run (Exec.start d next) =
      (.ok (some next), e₁) := by
    unfold insertInProgress
    rw [run_bind, run_lock, andThen_ok]
    rw [show (Exec.start d next).view = d from rfl]
    simp only [hfresh]
    rfl
  have hmerged := mergeOrderLines_merged hlines
  unfold createOrder
  rw [run_bind, run_raiseIf_neg hkey, andThen_ok, run_bind, run_ofExcept, hlines, andThen_ok, run_handle, ← hrequestHash]
  unfold createFrom
  rw [transaction_bind, run_bind, hclaim, andThen_ok]
  dsimp only
  rw [transaction_bind, run_bind]
  cases hprice : (priceOrder principal request lines now).run e₁ with
  | mk r e₂ =>
    cases r with
    | error x =>
      have hx := (raises_priceOrder principal request lines now).run hprice
      rw [andThen_error]
      dsimp only
      unfold recoverCreate
      rw [run_bind, run_rollbackNow, andThen_ok, if_neg hx, run_raise]
      constructor
      · rintro ⟨h, -⟩
        cases h
      · rintro ⟨hcoupon, haddress, hsale, -⟩
        obtain ⟨m, hsale⟩ := hsale
        obtain ⟨p, e', hok⟩ := priceOrder_without_coupon (e := e₁) hcoupon hmerged hconfig hprices haddress
          ⟨m, hsale.transfer rfl rfl⟩
        rw [hok] at hprice
        cases hprice
    | ok p =>
      obtain ⟨haddress, hsale⟩ := priceOrder_onSale hprice
      obtain ⟨-, rfl⟩ := priceOrder_priced hprice hmerged
      have hcoupon : request.couponId = none := by
        cases hc : request.couponId with
        | none => rfl
        | some couponId => exact absurd hprice (priceOrder_used_coupon hc (hheld couponId hc) p _)
      have hview : (e₁.view.quotaUsed p).orders = d.orders := by
        unfold Db.quotaUsed
        split
        · rfl
        · split_ifs <;> rfl
      have htaken : ((e₁.view.quotaUsed p).orderByClientRequestId principal.userId request.clientRequestId).isSome := by
        unfold Db.orderByClientRequestId at hfound ⊢
        rw [hview, hfound]
        rfl
      obtain ⟨x, e₂, hwrite, hcommitted, hx⟩ : ∃ x e₂, (writeNewOrder env principal request lines requestHash next p now).run
          { e₁ with view := e₁.view.quotaUsed p } = (.error x, e₂) ∧ e₂.committed = d ∧
          (x.kind = .integrity ↔ now + 60000 * env.settings.orderPaymentTimeoutMinutes ≤ maxTime) := writeNewOrder_taken htaken
      rw [andThen_ok, run_transaction_eq_error.mpr hwrite]
      dsimp only
      unfold recoverCreate
      rw [run_bind, run_rollbackNow, andThen_ok, hcommitted]
      have hsale' : ∃ m, d.OnSale lines m := hsale.imp fun m h => h.transfer rfl rfl
      split_ifs with hkind
      · unfold recoverFromClientRequestId
        rw [run_bind, run_query, andThen_ok]
        dsimp only
        rw [hfound]
        dsimp only
        rw [run_bind, run_raiseIf_neg (not_not.mpr hhash), andThen_ok]
        exact ⟨fun _ => ⟨hcoupon, haddress, hsale', hx.mp hkind⟩, fun _ => ⟨rfl, rfl⟩⟩
      · rw [run_raise]
        constructor
        · rintro ⟨h, -⟩
          cases h
        · rintro ⟨-, -, -, hwindow⟩
          exact absurd (hx.mpr hwindow) hkind

end NovaCommerce
