import NovaCommerce.Pricing.Allocation

/-!
# Exactness of cart pricing

* `Exact cart p c` : the priced carts, with promotion amounts `p` and coupon amounts `c` by SKU;
* `Exact.undiscounted`, `Exact.applyPromotion`, `Exact.applyCoupon` : every pricing step reaches
  one;
* `Exact.snapshot` : the snapshot checks accept one;
* `calculateCartPrice_exact` : pricing with rules the service's own validation accepts is total and
  exact for every well-formed cart.
-/

namespace NovaCommerce.Pricing

open Raise

variable {δ : Type}

/-- A cart whose allocations are the amounts `p` and `c` by SKU, within every item's original
amount, and whose totals are their sums. -/
structure Exact (cart : CartPrice δ) (p c : Nat → Int) : Prop where
  nodup : (cart.items.map ItemPrice.skuId).Nodup
  original : cart.originalAmount = (cart.items.map ItemPrice.originalAmount).sum
  units : ∀ item ∈ cart.items, 0 < item.line.quantity
  promotions : cart.promotionAllocations = allocationsBy cart.items p
  coupons : cart.couponAllocations = allocationsBy cart.items c
  promotionSum : cart.promotionDiscountAmount = (cart.items.map (fun item => p item.skuId)).sum
  couponSum : cart.couponDiscountAmount = (cart.items.map (fun item => c item.skuId)).sum
  promotionNonneg : ∀ item ∈ cart.items, 0 ≤ p item.skuId
  couponNonneg : ∀ item ∈ cart.items, 0 ≤ c item.skuId
  payableNonneg : ∀ item ∈ cart.items, p item.skuId + c item.skuId ≤ item.originalAmount
  shipping : cart.shippingAmount = 0
  payable : cart.payableAmount =
    cart.originalAmount - cart.promotionDiscountAmount - cart.couponDiscountAmount

/-! ## Sums over the items -/

theorem sum_filter_eq_sum_ite {α : Type} (q : α → Bool) (g : α → Int) : ∀ xs : List α,
    ((xs.filter q).map g).sum = (xs.map (fun x => if q x then g x else 0)).sum
  | [] => rfl
  | x :: xs => by
    have ih := sum_filter_eq_sum_ite q g xs
    cases h : q x <;> simp [h, ih]

theorem sum_filter_nonneg {α : Type} {q : α → Bool} {g : α → Int} {xs : List α}
    (h : ∀ x ∈ xs, q x → 0 ≤ g x) : 0 ≤ ((xs.filter q).map g).sum := by
  refine List.sum_nonneg fun v hv => ?_
  obtain ⟨x, hx, rfl⟩ := List.mem_map.mp hv
  exact h x (List.mem_filter.mp hx).1 (List.mem_filter.mp hx).2

/-- The payable amounts of the items add up to the cart's. -/
theorem Exact.payable_eq_sum {cart : CartPrice δ} {p c : Nat → Int} (h : Exact cart p c) :
    (cart.items.map (fun item => item.originalAmount - p item.skuId - c item.skuId)).sum =
      cart.payableAmount := by
  have aux : ∀ xs : List (ItemPrice δ),
      (xs.map (fun item => item.originalAmount - p item.skuId - c item.skuId)).sum =
        (xs.map ItemPrice.originalAmount).sum - (xs.map (fun item => p item.skuId)).sum -
          (xs.map (fun item => c item.skuId)).sum := by
    intro xs
    induction xs with
    | nil => rfl
    | cons x xs ih =>
      simp only [List.map_cons, List.sum_cons, ih]
      ring
  rw [aux, h.payable, h.original, h.promotionSum, h.couponSum]

/-! ## Repricing -/

/-- Both allocation maps of an exact cart, read at its items. -/
theorem Exact.maps {cart : CartPrice δ} {p c : Nat → Int} (h : Exact cart p c) :
    ∃ pm cm, allocationMap cart.promotionAllocations cart.items "promotion" = .ok pm ∧
      allocationMap cart.couponAllocations cart.items "coupon" = .ok cm ∧
      (∀ item ∈ cart.items,
        payableUnder pm cm item = item.originalAmount - p item.skuId - c item.skuId) ∧
      pm.values.sum = cart.promotionDiscountAmount ∧ cm.values.sum = cart.couponDiscountAmount := by
  obtain ⟨pm, hpm, hpget, hpval⟩ :=
    allocationMap_allocationsBy "promotion" h.nodup h.promotionNonneg
  obtain ⟨cm, hcm, hcget, hcval⟩ :=
    allocationMap_allocationsBy "coupon" h.nodup h.couponNonneg
  refine ⟨pm, cm, h.promotions ▸ hpm, h.coupons ▸ hcm, fun item hi => ?_, ?_, ?_⟩
  · have hp := hpget item hi
    have hc := hcget item hi
    rw [ItemPrice.skuId] at hp hc
    rw [payableUnder, hp, hc]
    rfl
  · rw [hpval, h.promotionSum]
  · rw [hcval, h.couponSum]

theorem Exact.checkPayable_ok {cart : CartPrice δ} {p c : Nat → Int} (h : Exact cart p c)
    {pm cm : Dict Nat Int} (hpay : ∀ item ∈ cart.items,
      payableUnder pm cm item = item.originalAmount - p item.skuId - c item.skuId) :
    forEach (checkPayable pm cm) cart.items = .ok () := by
  refine forEach_eq_ok.mpr fun item hi => raiseIf_neg ?_
  rw [hpay item hi]
  have := h.payableNonneg item hi
  omega

/-- Without shipping the derived payable amount is what the discounts leave. -/
theorem withPayable_payable {cart : CartPrice δ} (hs : cart.shippingAmount = 0) :
    cart.withPayable.payableAmount =
      cart.originalAmount - cart.promotionDiscountAmount - cart.couponDiscountAmount := by
  rw [CartPrice.withPayable, hs, add_zero]

/-- A cart that is exact once its payable amount is derived is repriced to that exact cart. -/
theorem Exact.repriced {cart : CartPrice δ} {p c : Nat → Int} (h : Exact cart.withPayable p c) :
    repriced cart = .ok cart.withPayable := by
  obtain ⟨pm, cm, hpm, hcm, hpay, -, -⟩ := h.maps
  have hcheck := h.checkPayable_ok hpay
  exact bind_eq_ok.mpr ⟨pm, hpm, bind_eq_ok.mpr ⟨cm, hcm, bind_eq_ok.mpr ⟨(), hcheck, rfl⟩⟩⟩

/-! ## Admissible rules -/

/-- The promotion rules the service's own validation accepts. -/
structure PromotionRule.Admissible (rule : PromotionRule) : Prop where
  threshold : 0 ≤ rule.thresholdAmount
  discount : 0 ≤ rule.discountAmount
  bps : 0 ≤ rule.discountBps ∧ rule.discountBps ≤ maxDiscountBps
  reduction : 0 ≤ rule.reductionAmount
  cap : ∀ cap ∈ rule.maxDiscountAmount, 0 ≤ cap

/-- The coupon rules the service's own validation accepts. -/
structure CouponRule.Admissible (rule : CouponRule) : Prop where
  threshold : 0 ≤ rule.thresholdAmount
  faceValue : 0 ≤ rule.faceValueAmount
  bps : 0 ≤ rule.discountBps ∧ rule.discountBps ≤ maxDiscountBps
  cap : ∀ cap ∈ rule.maxDiscountAmount, 0 ≤ cap

theorem coerceAmount_eq_ok {value v : Int} {fieldName : String} :
    coerceAmount value fieldName = .ok v ↔ 0 ≤ value ∧ value = v := by
  simp [coerceAmount]

theorem coerceBps_eq_ok {value v : Int} {fieldName : String} :
    coerceBps value fieldName = .ok v ↔ (0 ≤ value ∧ value ≤ maxDiscountBps) ∧ value = v := by
  simp only [coerceBps, bind_eq_ok, raiseIf_eq_ok, not_not, pure_eq_ok, exists_const]

theorem coerceCap_eq_ok {value v : Option Int} :
    coerceCap value = .ok v ↔ (∀ cap ∈ value, 0 ≤ cap) ∧ value = v := by
  cases value with
  | none => simp [coerceCap]
  | some cap => simp [coerceCap, coerceAmount_eq_ok]

/-- Validation accepts exactly the admissible promotion rules, and leaves them as they are. -/
theorem normalisePromotion_eq_ok {rule r : PromotionRule} :
    normalisePromotion rule = .ok r ↔ rule.Admissible ∧ r = rule := by
  constructor
  · intro h
    simp only [normalisePromotion, bind_eq_ok, coerceAmount_eq_ok, coerceBps_eq_ok,
      coerceCap_eq_ok, pure_eq_ok] at h
    obtain ⟨_, ⟨ht, rfl⟩, _, ⟨hd, rfl⟩, _, ⟨hb, rfl⟩, _, ⟨hr, rfl⟩, _, ⟨hc, rfl⟩, rfl⟩ := h
    exact ⟨⟨ht, hd, hb, hr, hc⟩, rfl⟩
  · rintro ⟨⟨ht, hd, hb, hr, hc⟩, rfl⟩
    simp only [normalisePromotion, bind_eq_ok, coerceAmount_eq_ok, coerceBps_eq_ok,
      coerceCap_eq_ok, pure_eq_ok]
    exact ⟨_, ⟨ht, rfl⟩, _, ⟨hd, rfl⟩, _, ⟨hb, rfl⟩, _, ⟨hr, rfl⟩, _, ⟨hc, rfl⟩, rfl⟩

/-- Validation accepts exactly the admissible coupon rules, and leaves them as they are. -/
theorem normaliseCoupon_eq_ok {rule r : CouponRule} :
    normaliseCoupon rule = .ok r ↔ rule.Admissible ∧ r = rule := by
  constructor
  · intro h
    simp only [normaliseCoupon, bind_eq_ok, coerceAmount_eq_ok, coerceBps_eq_ok,
      coerceCap_eq_ok, pure_eq_ok] at h
    obtain ⟨_, ⟨ht, rfl⟩, _, ⟨hf, rfl⟩, _, ⟨hb, rfl⟩, _, ⟨hc, rfl⟩, rfl⟩ := h
    exact ⟨⟨ht, hf, hb, hc⟩, rfl⟩
  · rintro ⟨⟨ht, hf, hb, hc⟩, rfl⟩
    simp only [normaliseCoupon, bind_eq_ok, coerceAmount_eq_ok, coerceBps_eq_ok,
      coerceCap_eq_ok, pure_eq_ok]
    exact ⟨_, ⟨ht, rfl⟩, _, ⟨hf, rfl⟩, _, ⟨hb, rfl⟩, _, ⟨hc, rfl⟩, rfl⟩

/-! ## Discounts stay within what they discount -/

theorem capped_nonneg {cap : Option Int} {amount : Int} (hc : ∀ m ∈ cap, 0 ≤ m) (ha : 0 ≤ amount) :
    0 ≤ capped cap amount := by
  cases cap with
  | none => exact ha
  | some m => exact le_min ha (hc m rfl)

theorem percent_nonneg {amount bps : Int} (ha : 0 ≤ amount) (hb : 0 ≤ bps) :
    0 ≤ amount * bps / maxDiscountBps :=
  Int.ediv_nonneg (Int.mul_nonneg ha hb) (by decide)

theorem promotionAmount_nonneg {rule : PromotionRule} (hr : rule.Admissible)
    (eligible : List (ItemPrice δ)) (hu : ∀ item ∈ eligible, 0 < item.line.quantity)
    {eligibleOriginal : Int} (ho : 0 ≤ eligibleOriginal) :
    0 ≤ promotionAmount rule eligible eligibleOriginal := by
  unfold promotionAmount
  cases rule.promotionType with
  | directDiscount =>
    refine Int.mul_nonneg hr.discount (List.sum_nonneg fun q hq => ?_)
    obtain ⟨item, hi, rfl⟩ := List.mem_map.mp hq
    exact (hu item hi).le
  | percentDiscount => exact capped_nonneg hr.cap (percent_nonneg ho hr.bps.1)
  | fullReduction => exact capped_nonneg hr.cap hr.reduction

/-- A promotion takes no more than the eligible original amount. -/
theorem promotionDiscount_bounds {rule : PromotionRule} (hr : rule.Admissible)
    {items : List (ItemPrice δ)} (hu : ∀ item ∈ items, 0 < item.line.quantity)
    (ho : ∀ item ∈ items, 0 ≤ item.originalAmount) :
    0 ≤ (promotionDiscount rule items).1 ∧ (promotionDiscount rule items).1 ≤
      ((items.filter (fun item => rule.covers item.line.skuId)).map ItemPrice.originalAmount).sum := by
  have hsum := sum_filter_nonneg (q := fun item : ItemPrice δ => rule.covers item.line.skuId)
    (fun x hx _ => ho x hx)
  have hamount := promotionAmount_nonneg hr
    (items.filter (fun item => rule.covers item.line.skuId))
    (fun i hi => hu i (List.mem_filter.mp hi).1) hsum
  simp only [promotionDiscount]
  split_ifs
  · exact ⟨le_refl 0, hsum⟩
  · exact ⟨le_refl 0, hsum⟩
  · exact ⟨le_min hamount hsum, min_le_right _ _⟩

theorem couponAmount_nonneg {rule : CouponRule} (hr : rule.Admissible) {remainingTotal : Int}
    (h : 0 ≤ remainingTotal) : 0 ≤ couponAmount rule remainingTotal := by
  unfold couponAmount
  cases rule.couponType with
  | fixedAmount => exact hr.faceValue
  | percentDiscount => exact capped_nonneg hr.cap (percent_nonneg h hr.bps.1)

/-- A coupon takes no more than what the promotion left. -/
theorem couponDiscount_bounds {rule : CouponRule} (hr : rule.Admissible)
    (eligible : List (ItemPrice δ)) (eligibleOriginal : Int) {remainingTotal : Int}
    (h : 0 ≤ remainingTotal) :
    0 ≤ (couponDiscount rule eligible eligibleOriginal remainingTotal).1 ∧
      (couponDiscount rule eligible eligibleOriginal remainingTotal).1 ≤ remainingTotal := by
  have hamount := couponAmount_nonneg hr h
  simp only [couponDiscount]
  split_ifs
  · exact ⟨le_refl 0, h⟩
  · exact ⟨le_refl 0, h⟩
  · exact ⟨le_min hamount h, min_le_right _ _⟩

/-! ## The pricing steps -/

/-- Items before any discount form an exact cart. -/
theorem Exact.undiscounted {items : List (ItemPrice δ)} (hn : (items.map ItemPrice.skuId).Nodup)
    (hu : ∀ item ∈ items, 0 < item.line.quantity) (ho : ∀ item ∈ items, 0 ≤ item.originalAmount) :
    Exact (undiscounted items) (fun _ => 0) (fun _ => 0) where
  nodup := hn
  original := rfl
  units := hu
  promotions := rfl
  coupons := rfl
  promotionSum := by simp [Pricing.undiscounted]
  couponSum := by simp [Pricing.undiscounted]
  promotionNonneg := by simp
  couponNonneg := by simp
  payableNonneg := by simpa [Pricing.undiscounted] using ho
  shipping := rfl
  payable := by simp [Pricing.undiscounted]

/-- Allocating a discount over the items in scope, with each item's room as its weight: the
shares are amounts by SKU within that room, adding up to the discount. -/
theorem allocate_items {items : List (ItemPrice δ)} (hn : (items.map ItemPrice.skuId).Nodup)
    {covers : ItemPrice δ → Bool} {room : ItemPrice δ → Int} (hroom : ∀ item ∈ items, 0 ≤ room item)
    {discount : Int} (hd : 0 ≤ discount) (hle : discount ≤ ((items.filter covers).map room).sum) :
    ∃ shares f, allocateProRata discount (items.map (fun i => if covers i then room i else 0)) = .ok shares ∧
      shareOut items shares = allocationsBy items f ∧
      (items.map (fun item => f item.skuId)).sum = discount ∧
      ∀ item ∈ items, 0 ≤ f item.skuId ∧ f item.skuId ≤ room item := by
  have hweights : ∀ w ∈ items.map (fun i => if covers i then room i else 0), 0 ≤ w := by
    intro w hw
    obtain ⟨item, hi, rfl⟩ := List.mem_map.mp hw
    split_ifs
    · exact hroom item hi
    · exact le_refl 0
  obtain ⟨shares, hok, hsum, hbounds⟩ :=
    allocateProRata_ok hd hweights (hle.trans (sum_filter_eq_sum_ite covers room items).le)
  have hlen : shares.length = items.length := by simpa using hbounds.length_eq.symm
  obtain ⟨f, rfl, hshare⟩ := shareOut_eq hn hlen
  refine ⟨_, f, hok, hshare, hsum, fun item hi => ?_⟩
  rw [List.forall₂_map_left_iff, List.forall₂_map_right_iff, List.forall₂_same] at hbounds
  obtain ⟨hlo, hhi⟩ := hbounds item hi
  refine ⟨hlo, hhi.trans ?_⟩
  split_ifs
  · exact le_refl _
  · exact hroom item hi

theorem Exact.original_nonneg {cart : CartPrice δ} {p c : Nat → Int} (h : Exact cart p c) :
    ∀ item ∈ cart.items, 0 ≤ item.originalAmount := by
  intro item hi
  have := h.promotionNonneg item hi
  have := h.couponNonneg item hi
  have := h.payableNonneg item hi
  omega

/-- A promotion on a cart without a coupon leaves an exact cart. -/
theorem Exact.applyPromotion {cart : CartPrice δ} {p : Nat → Int} (h : Exact cart p (fun _ => 0))
    {rule : PromotionRule} (hr : rule.Admissible) :
    ∃ next q, applyPromotion cart rule = .ok next ∧ Exact next q (fun _ => 0) := by
  have hbounds := promotionDiscount_bounds hr h.units h.original_nonneg
  obtain ⟨shares, q, hshares, hout, hsum, hq⟩ :=
    allocate_items h.nodup h.original_nonneg hbounds.1 hbounds.2
  have hnext : Exact (cart.withPromotion (promotionDiscount rule cart.items) shares).withPayable
      q (fun _ => 0) :=
    { nodup := h.nodup
      original := h.original
      units := h.units
      promotions := hout
      coupons := h.coupons
      promotionSum := hsum.symm
      couponSum := h.couponSum
      promotionNonneg := fun item hi => (hq item hi).1
      couponNonneg := h.couponNonneg
      payableNonneg := fun item hi => by simpa using (hq item hi).2
      shipping := h.shipping
      payable := withPayable_payable h.shipping }
  refine ⟨_, q, ?_, hnext⟩
  refine bind_eq_ok.mpr ⟨rule, normalisePromotion_eq_ok.mpr ⟨hr, rfl⟩, ?_⟩
  exact bind_eq_ok.mpr ⟨shares, hshares, hnext.repriced⟩

/-- A coupon leaves an exact cart, whatever promotion was applied before. -/
theorem Exact.applyCoupon {cart : CartPrice δ} {p c : Nat → Int} (h : Exact cart p c)
    {rule : CouponRule} (hr : rule.Admissible) :
    ∃ next d, applyCoupon cart rule = .ok next ∧ Exact next p d := by
  obtain ⟨pm, hpm, hpget, -⟩ :=
    allocationMap_allocationsBy "promotion" h.nodup h.promotionNonneg
  rw [← h.promotions] at hpm
  have hremaining : ∀ item ∈ cart.items,
      remainingAmount pm item = item.originalAmount - p item.skuId := by
    intro item hi
    have hget := hpget item hi
    rw [ItemPrice.skuId] at hget
    rw [remainingAmount, hget]
    rfl
  have hroom : ∀ item ∈ cart.items, 0 ≤ remainingAmount pm item := by
    intro item hi
    rw [hremaining item hi]
    have := h.couponNonneg item hi
    have := h.payableNonneg item hi
    omega
  have hcheck : forEach (fun item => raiseIf (remainingAmount pm item < 0)
      ({ message := "promotion allocation exceeds the line it was allocated to"
         context := [("sku_id", .int item.line.skuId)] } : PricingInvariantError))
      (cart.items.filter (fun item => rule.covers item.line.skuId)) = .ok () :=
    forEach_eq_ok.mpr fun item hi => raiseIf_neg (not_lt.mpr (hroom item (List.mem_filter.mp hi).1))
  have hbounds := couponDiscount_bounds hr
    (cart.items.filter (fun item => rule.covers item.line.skuId))
    ((cart.items.filter (fun item => rule.covers item.line.skuId)).map ItemPrice.originalAmount).sum
    (sum_filter_nonneg (q := fun item : ItemPrice δ => rule.covers item.line.skuId)
      (fun x hx _ => hroom x hx))
  obtain ⟨shares, d, hshares, hout, hsum, hd⟩ := allocate_items h.nodup hroom hbounds.1 hbounds.2
  have hnext : Exact (cart.withCoupon (couponDiscount rule
      (cart.items.filter (fun item => rule.covers item.line.skuId))
      ((cart.items.filter (fun item => rule.covers item.line.skuId)).map ItemPrice.originalAmount).sum
      ((cart.items.filter (fun item => rule.covers item.line.skuId)).map (remainingAmount pm)).sum)
      shares).withPayable p d :=
    { nodup := h.nodup
      original := h.original
      units := h.units
      promotions := h.promotions
      coupons := hout
      promotionSum := h.promotionSum
      couponSum := hsum.symm
      promotionNonneg := h.promotionNonneg
      couponNonneg := fun item hi => (hd item hi).1
      payableNonneg := fun item hi => by
        have := (hd item hi).2
        rw [hremaining item hi] at this
        omega
      shipping := h.shipping
      payable := withPayable_payable h.shipping }
  refine ⟨_, d, ?_, hnext⟩
  refine bind_eq_ok.mpr ⟨rule, normaliseCoupon_eq_ok.mpr ⟨hr, rfl⟩, ?_⟩
  refine bind_eq_ok.mpr ⟨pm, hpm, bind_eq_ok.mpr ⟨(), hcheck, ?_⟩⟩
  exact bind_eq_ok.mpr ⟨shares, hshares, hnext.repriced⟩

/-! ## Reading an exact cart -/

/-- What a caller reads off an exactly priced cart: per-item allocations and payable amounts that
are non-negative and add up, and a snapshot that is accepted. -/
structure PricedExactly (cart : CartPrice δ) : Prop where
  promotions : ∃ amounts, cart.items.mapM (fun item => cart.promotionAllocation item.skuId) = .ok amounts ∧
    (∀ a ∈ amounts, 0 ≤ a) ∧ amounts.sum = cart.promotionDiscountAmount
  coupons : ∃ amounts, cart.items.mapM (fun item => cart.couponAllocation item.skuId) = .ok amounts ∧
    (∀ a ∈ amounts, 0 ≤ a) ∧ amounts.sum = cart.couponDiscountAmount
  payables : ∃ amounts, cart.items.mapM (fun item => cart.itemPayableAmount item.skuId) = .ok amounts ∧
    (∀ a ∈ amounts, 0 ≤ a) ∧ amounts.sum = cart.payableAmount
  payable : cart.payableAmount =
    cart.originalAmount - cart.promotionDiscountAmount - cart.couponDiscountAmount
  snapshot : ∀ promotionIds couponIds shippingPolicy,
    ∃ snapshot, buildPriceSnapshot cart promotionIds couponIds shippingPolicy = .ok snapshot

theorem amountFor_allocationsBy {items : List (ItemPrice δ)} {f : Nat → Int} {item : ItemPrice δ}
    (hi : item ∈ items) : amountFor (allocationsBy items f) item.skuId = .ok (f item.skuId) := by
  have hsome : ((allocationsBy items f).find? (fun a => a.skuId = item.skuId)).isSome := by
    rw [List.find?_isSome]
    exact ⟨_, List.mem_map.mpr ⟨item, hi, rfl⟩, by simp⟩
  obtain ⟨a, ha⟩ := Option.isSome_iff_exists.mp hsome
  obtain ⟨other, -, rfl⟩ := List.mem_map.mp (List.mem_of_find?_eq_some ha)
  have hsku : other.skuId = item.skuId := by simpa using List.find?_some ha
  rw [amountFor, ha, ← hsku]

theorem itemFor_eq {items : List (ItemPrice δ)} (hn : (items.map ItemPrice.skuId).Nodup)
    {item : ItemPrice δ} (hi : item ∈ items) : itemFor items item.skuId = .ok item := by
  have hsome : (items.find? (fun i => i.line.skuId = item.skuId)).isSome := by
    rw [List.find?_isSome]
    exact ⟨item, hi, by simp [ItemPrice.skuId]⟩
  obtain ⟨other, ho⟩ := Option.isSome_iff_exists.mp hsome
  have hfound := List.find?_some ho
  have hsku : other.line.skuId = item.skuId := of_decide_eq_true hfound
  have heq : other = item := List.inj_on_of_nodup_map hn (List.mem_of_find?_eq_some ho) hi hsku
  rw [itemFor, ho, heq]

theorem Exact.snapshot {cart : CartPrice δ} {p c : Nat → Int} (h : Exact cart p c)
    (promotionIds couponIds : List Nat) (shippingPolicy : String) :
    buildPriceSnapshot cart promotionIds couponIds shippingPolicy =
      .ok (cart.freeze promotionIds couponIds shippingPolicy) := by
  obtain ⟨pm, cm, hpm, hcm, hpay, hps, hcs⟩ := h.maps
  have hcheck := h.checkPayable_ok hpay
  have htotal : (cart.items.map (payableUnder pm cm)).sum = cart.payableAmount := by
    rw [List.map_congr_left hpay, h.payable_eq_sum]
  rw [buildPriceSnapshot, raiseIf_neg (not_not.mpr h.shipping), ok_bind]
  refine bind_eq_ok.mpr ⟨(), raiseIf_neg (not_not.mpr h.original.symm), ?_⟩
  refine bind_eq_ok.mpr ⟨pm, hpm, bind_eq_ok.mpr ⟨cm, hcm, ?_⟩⟩
  rw [raiseIf_neg (not_not.mpr hps), ok_bind, raiseIf_neg (not_not.mpr hcs), ok_bind, hcheck, ok_bind]
  exact bind_eq_ok.mpr ⟨(), raiseIf_neg (not_not.mpr htotal), rfl⟩

theorem Exact.pricedExactly {cart : CartPrice δ} {p c : Nat → Int} (h : Exact cart p c) :
    PricedExactly cart := by
  have hpromo : ∀ item ∈ cart.items, cart.promotionAllocation item.skuId = .ok (p item.skuId) :=
    fun item hi => by rw [CartPrice.promotionAllocation, h.promotions, amountFor_allocationsBy hi]
  have hcoupon : ∀ item ∈ cart.items, cart.couponAllocation item.skuId = .ok (c item.skuId) :=
    fun item hi => by rw [CartPrice.couponAllocation, h.coupons, amountFor_allocationsBy hi]
  have hpayable : ∀ item ∈ cart.items, cart.itemPayableAmount item.skuId =
      .ok (item.originalAmount - p item.skuId - c item.skuId) := by
    intro item hi
    rw [CartPrice.itemPayableAmount, itemFor_eq h.nodup hi, CartPrice.allocatedDiscount,
      hpromo item hi, hcoupon item hi]
    simp only [ok_bind, pure_bind, pure_eq_ok]
    omega
  refine ⟨⟨_, mapM_eq_map hpromo, ?_, h.promotionSum.symm⟩, ⟨_, mapM_eq_map hcoupon, ?_, h.couponSum.symm⟩,
    ⟨_, mapM_eq_map hpayable, ?_, h.payable_eq_sum⟩, h.payable,
    fun promotionIds couponIds shippingPolicy => ⟨_, h.snapshot promotionIds couponIds shippingPolicy⟩⟩
  · intro a ha
    obtain ⟨item, hi, rfl⟩ := List.mem_map.mp ha
    exact h.promotionNonneg item hi
  · intro a ha
    obtain ⟨item, hi, rfl⟩ := List.mem_map.mp ha
    exact h.couponNonneg item hi
  · intro a ha
    obtain ⟨item, hi, rfl⟩ := List.mem_map.mp ha
    have := h.payableNonneg item hi
    omega

/-! ## Pricing a cart -/

theorem calculateItemPrice_ok {line : PricedLine δ} (hq : 0 < line.quantity) (hp : 0 ≤ line.unitPrice) :
    calculateItemPrice line = .ok { line := line, originalAmount := line.unitPrice * line.quantity } := by
  rw [calculateItemPrice, normaliseLine_ok hq hp]
  rfl

/-- The items of a well-formed cart. -/
theorem mergedItems_ok [DecidableEq δ] {lines : List (PricedLine δ)} (hl : WellFormedLines lines) :
    ∃ merged items, mergeLines lines = .ok merged ∧ merged.mapM calculateItemPrice = .ok items ∧
      Exact (undiscounted items) (fun _ => 0) (fun _ => 0) := by
  obtain ⟨merged, hm, hn, hok⟩ := mergeLines_ok hl
  refine ⟨merged, _, hm, mapM_eq_map fun line hline =>
    calculateItemPrice_ok (hok line hline).1 (hok line hline).2, Exact.undiscounted ?_ ?_ ?_⟩
  · simpa [ItemPrice.skuId, Function.comp_def] using hn
  · intro item hi
    obtain ⟨line, hline, rfl⟩ := List.mem_map.mp hi
    exact (hok line hline).1
  · intro item hi
    obtain ⟨line, hline, rfl⟩ := List.mem_map.mp hi
    exact Int.mul_nonneg (hok line hline).2 (hok line hline).1.le

theorem Exact.applyOptionalPromotion {cart : CartPrice δ} {p : Nat → Int}
    (h : Exact cart p (fun _ => 0)) {promotion : Option PromotionRule}
    (hr : ∀ rule ∈ promotion, rule.Admissible) :
    ∃ next q, applyOptional Pricing.applyPromotion cart promotion = .ok next ∧
      Exact next q (fun _ => 0) := by
  cases promotion with
  | none => exact ⟨cart, p, rfl, h⟩
  | some rule => exact h.applyPromotion (hr rule rfl)

theorem Exact.applyOptionalCoupon {cart : CartPrice δ} {p c : Nat → Int} (h : Exact cart p c)
    {coupon : Option CouponRule} (hr : ∀ rule ∈ coupon, rule.Admissible) :
    ∃ next d, applyOptional Pricing.applyCoupon cart coupon = .ok next ∧ Exact next p d := by
  cases coupon with
  | none => exact ⟨cart, c, rfl, h⟩
  | some rule => exact h.applyCoupon (hr rule rfl)

/-- A cart that prices at all was priced with admissible rules. -/
theorem admissible_of_calculateCartPrice [DecidableEq δ] {lines : List (PricedLine δ)}
    {promotion : Option PromotionRule} {coupon : Option CouponRule} {policy : Option (ShippingPolicy δ)}
    {cart : CartPrice δ} (h : calculateCartPrice lines promotion coupon policy = .ok cart) :
    (∀ rule ∈ promotion, rule.Admissible) ∧ (∀ rule ∈ coupon, rule.Admissible) := by
  obtain ⟨merged, -, h⟩ := bind_eq_ok.mp h
  obtain ⟨items, -, h⟩ := bind_eq_ok.mp h
  obtain ⟨first, hfirst, h⟩ := bind_eq_ok.mp h
  obtain ⟨second, hsecond, -⟩ := bind_eq_ok.mp h
  constructor
  · rintro rule ⟨⟩
    obtain ⟨r, hr, -⟩ := bind_eq_ok.mp hfirst
    exact (normalisePromotion_eq_ok.mp hr).1
  · rintro rule ⟨⟩
    obtain ⟨r, hr, -⟩ := bind_eq_ok.mp hsecond
    exact (normaliseCoupon_eq_ok.mp hr).1

/-- Pricing a well-formed cart with free shipping is total and exact precisely for the rules the
service's own validation accepts; any other rule raises. -/
theorem calculateCartPrice_exact_iff [DecidableEq δ] {lines : List (PricedLine δ)}
    (hl : WellFormedLines lines) (promotion : Option PromotionRule) (coupon : Option CouponRule)
    {policy : Option (ShippingPolicy δ)} (hfree : ∀ s ∈ policy, ∀ cart, s.calculate cart = 0) :
    (∃ cart, calculateCartPrice lines promotion coupon policy = .ok cart ∧ PricedExactly cart) ↔
      (∀ rule ∈ promotion, rule.Admissible) ∧ (∀ rule ∈ coupon, rule.Admissible) := by
  obtain ⟨merged, items, hm, hi, h0⟩ := mergedItems_ok hl
  constructor
  · rintro ⟨cart, hcart, -⟩
    exact admissible_of_calculateCartPrice hcart
  · rintro ⟨hp, hc⟩
    obtain ⟨first, p, hfirst, h1⟩ := h0.applyOptionalPromotion hp
    obtain ⟨second, c, hsecond, h2⟩ := h1.applyOptionalCoupon hc
    have hship : calculateShipping second policy = .ok 0 := by
      cases policy with
      | none => rfl
      | some s => simp [calculateShipping, hfree s rfl]
    refine ⟨second, ?_, h2.pricedExactly⟩
    rw [calculateCartPrice, hm, ok_bind, hi, ok_bind, hfirst, ok_bind, hsecond, ok_bind, hship]
    rfl

/-- Two lines of one SKU and a free one, a capped percentage and a fixed coupon. -/
theorem calculateCartPrice_exact_iff_mixed :
    ∃ cart, calculateCartPrice
        [⟨1, 1, "tea", "100g", none, none, none, 100, 2⟩, ⟨2, 1, "tea", "tin", none, none, none, 0, 1⟩,
          ⟨1, 1, "tea", "100g", none, none, (none : Option Unit), 100, 1⟩]
        (some { promotionId := 1, promotionType := .percentDiscount, discountBps := 1250 })
        (some { couponId := 1, couponType := .fixedAmount, faceValueAmount := 77 })
        (some freeShippingPolicy) = .ok cart ∧ PricedExactly cart := by
  refine (calculateCartPrice_exact_iff ⟨?_, ?_, ?_⟩ _ _ ?_).mpr ⟨?_, ?_⟩
  · simp
  · simp
  · rintro a ha b hb hsku
    simp only [List.mem_cons, List.not_mem_nil, or_false] at ha hb
    rcases ha with rfl | rfl | rfl <;> rcases hb with rfl | rfl | rfl <;>
      first | exact ⟨rfl, rfl, rfl, rfl, rfl, rfl, rfl⟩ | simp at hsku
  · rintro s ⟨⟩ cart
    rfl
  · rintro rule ⟨⟩
    exact ⟨by decide, by decide, by decide, by decide, by simp⟩
  · rintro rule ⟨⟩
    exact ⟨by decide, by decide, by decide, by simp⟩

/-- The value object of a promotion admits a negative discount, which pricing refuses. -/
theorem calculateCartPrice_negative_discount :
    ¬ ∀ (lines : List (PricedLine Unit)) (promotion : Option PromotionRule) (coupon : Option CouponRule),
      lines ≠ [] → WellFormedLines lines →
        ∃ cart, calculateCartPrice lines promotion coupon none = .ok cart ∧ PricedExactly cart := by
  intro h
  have hl : WellFormedLines [(⟨1, 1, "tea", "100g", none, none, none, 100, 1⟩ : PricedLine Unit)] :=
    ⟨by simp, by simp, by
      intro a ha b hb _
      rw [List.mem_singleton.mp ha, List.mem_singleton.mp hb]
      exact ⟨rfl, rfl, rfl, rfl, rfl, rfl, rfl⟩⟩
  obtain ⟨cart, hcart, -⟩ := h _
    (some { promotionId := 1, promotionType := .directDiscount, discountAmount := -1 }) none
    (List.cons_ne_nil _ _) hl
  exact absurd ((admissible_of_calculateCartPrice hcart).1 _ rfl).discount (by decide)

end NovaCommerce.Pricing
