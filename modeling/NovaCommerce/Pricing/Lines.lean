import NovaCommerce.Pricing.Service

/-!
# The lines of a priced cart

A cart whose lines name distinct SKUs is priced line by line: discounts never change its items
(`calculateCartPrice_lines`), and a snapshot keeps them (`buildPriceSnapshot_eq_ok`).
-/

namespace NovaCommerce.Pricing

open Raise

variable {δ : Type}

/-! ## Merging distinct lines -/

theorem normaliseLine_eq_ok {line l : PricedLine δ} (h : normaliseLine line = .ok l) : l = line := by
  unfold normaliseLine at h
  simp only [bind_eq_ok, pure_eq_ok] at h
  obtain ⟨_, -, _, -, rfl⟩ := h
  rfl

/-- Merging adds a new SKU at the end. -/
theorem mergeLine_fresh [DecidableEq δ] {merged d : Dict Nat (PricedLine δ)} {line : PricedLine δ}
    (h : mergeLine merged line = .ok d) (hfresh : merged.get? line.skuId = none) :
    d.entries = merged.entries ++ [(line.skuId, line)] := by
  unfold mergeLine at h
  obtain ⟨l, hl, h⟩ := bind_eq_ok.mp h
  rw [normaliseLine_eq_ok hl, hfresh] at h
  cases h
  exact Dict.entries_set_fresh hfresh line

theorem mergeLines_distinct [DecidableEq δ] {lines merged : List (PricedLine δ)}
    (h : mergeLines lines = .ok merged) (hn : (lines.map PricedLine.skuId).Nodup) : merged = lines := by
  have hfold : ∀ (xs : List (PricedLine δ)) (m d : Dict Nat (PricedLine δ)), foldSteps mergeLine xs m = .ok d →
      (xs.map PricedLine.skuId).Nodup → (∀ x ∈ xs, m.get? x.skuId = none) →
      d.values = m.values ++ xs := by
    intro xs
    induction xs with
    | nil =>
      intro m d h _ _
      cases h
      exact (List.append_nil _).symm
    | cons x xs ih =>
      intro m d h hn hfresh
      obtain ⟨m', hx, h⟩ := bind_eq_ok.mp h
      rw [List.map_cons, List.nodup_cons] at hn
      have hm' := mergeLine_fresh hx (hfresh x List.mem_cons_self)
      have hvalues : m'.values = m.values ++ [x] := by
        rw [Dict.values, hm', List.map_append]
        rfl
      rw [ih m' d h hn.2 ?_, hvalues, List.append_assoc]
      · rfl
      · intro y hy
        have hkey : y.skuId ≠ x.skuId := fun heq => hn.1 (heq ▸ List.mem_map_of_mem (f := PricedLine.skuId) hy)
        have hold := Dict.get?_eq_none.mp (hfresh y (List.mem_cons_of_mem _ hy))
        rw [Dict.get?_eq_none, Dict.keys, hm', List.map_append, List.mem_append, not_or]
        exact ⟨hold, by simpa using hkey⟩
  unfold mergeLines at h
  obtain ⟨d, hd, h⟩ := bind_eq_ok.mp h
  cases h
  exact hfold lines Dict.empty d hd hn fun _ _ => rfl

/-! ## Discounts keep the items -/

theorem repriced_items {cart c : CartPrice δ} (h : repriced cart = .ok c) : c.items = cart.items := by
  unfold repriced at h
  simp only [bind_eq_ok, pure_eq_ok] at h
  obtain ⟨_, -, _, -, _, -, rfl⟩ := h
  rfl

theorem applyPromotion_items {cart c : CartPrice δ} {rule : PromotionRule} (h : applyPromotion cart rule = .ok c) :
    c.items = cart.items := by
  unfold applyPromotion at h
  simp only [bind_eq_ok] at h
  obtain ⟨_, -, _, -, h⟩ := h
  have hitems := repriced_items h
  exact hitems

theorem applyCoupon_items {cart c : CartPrice δ} {rule : CouponRule} (h : applyCoupon cart rule = .ok c) :
    c.items = cart.items := by
  unfold applyCoupon at h
  simp only [bind_eq_ok] at h
  obtain ⟨_, -, _, -, _, -, _, -, h⟩ := h
  have hitems := repriced_items h
  exact hitems

theorem applyOptional_items {ρ : Type} {apply : CartPrice δ → ρ → Priced (CartPrice δ)} {cart c : CartPrice δ}
    {rule : Option ρ} (happly : ∀ cart c rule, apply cart rule = .ok c → c.items = cart.items)
    (h : applyOptional apply cart rule = .ok c) : c.items = cart.items := by
  cases rule with
  | none =>
    cases h
    rfl
  | some rule => exact happly cart c rule h

/-- A cart of distinct SKUs has the lines it was priced from. -/
theorem calculateCartPrice_lines [DecidableEq δ] {lines : List (PricedLine δ)} {promotion : Option PromotionRule}
    {coupon : Option CouponRule} {policy : Option (ShippingPolicy δ)} {cart : CartPrice δ}
    (h : calculateCartPrice lines promotion coupon policy = .ok cart)
    (hn : (lines.map PricedLine.skuId).Nodup) : cart.items.map ItemPrice.line = lines := by
  unfold calculateCartPrice at h
  simp only [bind_eq_ok] at h
  obtain ⟨merged, hmerged, items, hitems, c₁, hpromotion, c₂, hcoupon, shipping, -, h⟩ := h
  have hline : ∀ line (item : ItemPrice δ), calculateItemPrice line = .ok item → item.line = line := by
    intro line item h
    unfold calculateItemPrice at h
    simp only [bind_eq_ok, pure_eq_ok] at h
    obtain ⟨l, hl, rfl⟩ := h
    exact normaliseLine_eq_ok hl
  have hlast : cart.items = c₂.items := by
    split_ifs at h
    · have hitems := repriced_items h
      exact hitems
    · cases h
      rfl
  rw [hlast, applyOptional_items (fun _ _ _ => applyCoupon_items) hcoupon,
    applyOptional_items (fun _ _ _ => applyPromotion_items) hpromotion]
  have hmap := map_eq_map_of_mapM (g := id) hline hitems
  rw [List.map_id, mergeLines_distinct hmerged hn] at hmap
  exact hmap

/-- A snapshot keeps its cart. -/
theorem buildPriceSnapshot_eq_ok {cart : CartPrice δ} {promotionIds couponIds : List Nat}
    {shippingPolicy : String} {snapshot : PriceSnapshot δ}
    (h : buildPriceSnapshot cart promotionIds couponIds shippingPolicy = .ok snapshot) :
    snapshot = cart.freeze promotionIds couponIds shippingPolicy := by
  unfold buildPriceSnapshot at h
  simp only [bind_eq_ok, pure_eq_ok] at h
  obtain ⟨_, -, _, -, _, -, _, -, _, -, _, -, _, -, _, -, rfl⟩ := h
  rfl

end NovaCommerce.Pricing
