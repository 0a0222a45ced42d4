import NovaCommerce.Pricing.Service
import NovaCommerce.Schema

/-!
# The lines of a new order

* `mergeOrderLines` : one line per SKU, in the order they were added;
* `loadPricedLines` : the catalogue snapshots the lines are priced on, and their merchant.
-/

namespace NovaCommerce

open Raise (foldSteps foldSteps_inv bind_eq_ok raiseIf_eq_ok)

/-! ## Merging -/

/-- One requested line. -/
structure OrderLineInput where
  skuId : Nat
  quantity : Int
  deriving DecidableEq, Repr

/-- One step of the merge. -/
def mergeOrderLine (merged : Dict Nat Int) (line : OrderLineInput) : Except AppError (Dict Nat Int) :=
  if line.quantity ≤ 0 then
    .error { kind := .validation
             message := "every order line must have a positive quantity"
             context := [("sku_id", .int line.skuId), ("quantity", .int line.quantity)] }
  else .ok (merged.set line.skuId ((merged.get? line.skuId).getD 0 + line.quantity))

/-- Sum duplicate lines, keeping the order in which SKUs were first seen. -/
def mergeOrderLines (lines : List OrderLineInput) : Except AppError (List OrderLineInput) := do
  let merged ← foldSteps mergeOrderLine lines Dict.empty
  if merged.entries = [] then
    .error { kind := .validation, message := "an order must contain at least one line" }
  else .ok (merged.entries.map fun e => { skuId := e.1, quantity := e.2 })

/-- The merged lines name distinct SKUs, in positive quantities. -/
structure MergedLines (lines : List OrderLineInput) : Prop where
  nodup : (lines.map OrderLineInput.skuId).Nodup
  positive : ∀ line ∈ lines, 0 < line.quantity
  nonempty : lines ≠ []

theorem mergeOrderLine_positive {merged d : Dict Nat Int} {line : OrderLineInput}
    (h : mergeOrderLine merged line = .ok d) (hm : ∀ e ∈ merged.entries, 0 < e.2) :
    ∀ e ∈ d.entries, 0 < e.2 := by
  unfold mergeOrderLine at h
  split_ifs at h with hq
  cases h
  intro e he
  rcases Dict.mem_set.mp he with rfl | ⟨he, -⟩
  · have hold : 0 ≤ (merged.get? line.skuId).getD 0 := by
      cases hg : merged.get? line.skuId with
      | none => exact le_refl 0
      | some q => exact (hm _ (Dict.get?_eq_some.mp hg)).le
    show 0 < (merged.get? line.skuId).getD 0 + line.quantity
    omega
  · exact hm e he

theorem mergeOrderLines_merged {lines merged : List OrderLineInput} (h : mergeOrderLines lines = .ok merged) :
    MergedLines merged := by
  unfold mergeOrderLines at h
  obtain ⟨d, hfold, h⟩ := bind_eq_ok.mp h
  split_ifs at h with hempty
  cases h
  have hpositive : ∀ e ∈ d.entries, 0 < e.2 := by
    refine foldSteps_inv (P := fun m : Dict Nat Int => ∀ e ∈ m.entries, 0 < e.2) ?_ ?_ hfold
    · exact fun m m' line _ hm hstep => mergeOrderLine_positive hstep hm
    · simp [Dict.empty]
  refine ⟨?_, ?_, ?_⟩
  · rw [List.map_map]
    exact d.nodup
  · intro line hline
    obtain ⟨e, he, rfl⟩ := List.mem_map.mp hline
    exact hpositive e he
  · simpa using hempty

/-! ## The catalogue -/

/-- The SKUs of a cart that are not deleted. -/
def Db.skuRows (d : Db) (skuIds : List Nat) : List (Nat × ProductSku) :=
  (d.productSkus.select fun sku => sku.deletedAt.isNone).filter fun e => decide (e.1 ∈ skuIds)

/-- The products of a cart that are not deleted. -/
def Db.productRows (d : Db) (productIds : List Nat) : List (Nat × Product) :=
  (d.products.select fun product => product.deletedAt.isNone).filter fun e => decide (e.1 ∈ productIds)

/-- The primary images of some products, by product, position and id. -/
def Db.primaryImages (d : Db) (productIds : List Nat) : List (Nat × ProductImage) :=
  (d.productImages.select fun image => decide (image.productId ∈ productIds ∧ image.role = .primary)).insertionSort
    fun a b => toLex (a.2.productId, toLex (a.2.sortOrder, a.1)) ≤ toLex (b.2.productId, toLex (b.2.sortOrder, b.1))

/-- The image a product shows: of several primary ones the last. -/
def imageOf (images : List (Nat × ProductImage)) (productId : Nat) : Option String :=
  ((images.filter fun e => decide (e.2.productId = productId)).getLast?).map fun e => e.2.objectKey

/-- The row of an id. -/
def rowOf {α : Type} (rows : List (Nat × α)) (id : Nat) : Option α :=
  (rows.find? fun e => decide (e.1 = id)).map Prod.snd

theorem mem_of_rowOf {α : Type} {rows : List (Nat × α)} {id : Nat} {v : α} (h : rowOf rows id = some v) : (id, v) ∈ rows := by
  obtain ⟨e, he, rfl⟩ := Option.map_eq_some_iff.mp h
  have hid := List.find?_some he
  simp only [decide_eq_true_eq] at hid
  rw [← hid]
  exact List.mem_of_find?_eq_some he

theorem rowOf_of_mem {α : Type} {rows : List (Nat × α)} (hn : (rows.map Prod.fst).Nodup) {id : Nat} {v : α}
    (h : (id, v) ∈ rows) : rowOf rows id = some v := by
  cases hr : rowOf rows id with
  | none =>
    have hnone := List.find?_eq_none.mp (Option.map_eq_none_iff.mp hr) (id, v) h
    simp at hnone
  | some w =>
    have heq := List.inj_on_of_nodup_map hn (mem_of_rowOf hr) h rfl
    cases heq
    rfl

/-- A line with the snapshots of its SKU, and the merchant of its product. -/
def priceLine (skus : List (Nat × ProductSku)) (products : List (Nat × Product))
    (images : List (Nat × ProductImage)) (line : OrderLineInput) :
    Except AppError (Pricing.PricedLine AttributeSnapshot × Option Nat) := do
  let sku ← Raise.orRaise (rowOf skus line.skuId)
    { kind := .skuNotFound, message := "one or more SKUs in this order no longer exist" }
  Raise.raiseIf (sku.status ≠ .active)
    { kind := .skuNotAvailable
      message := s!"SKU {sku.skuNo} is not available for sale"
      context := [("sku_id", .int line.skuId), ("status", .str sku.status.value)] }
  let product ← Raise.orRaise (rowOf products sku.productId)
    { kind := .productNotFound
      message := "the product behind this SKU no longer exists"
      context := [("sku_id", .int line.skuId), ("product_id", .int sku.productId)] }
  Raise.raiseIf (product.status ≠ .published)
    { kind := .productNotPublished
      message := s!"product {product.productNo} is not published"
      context := [("product_id", .int sku.productId), ("status", .str product.status.value)] }
  return ({
    skuId := line.skuId
    productId := sku.productId
    productName := product.name
    skuName := sku.name
    imageObjectKey := imageOf images sku.productId
    imageUrl := none
    skuSnapshot := sku.attributeSnapshot
    unitPrice := sku.priceAmount
    quantity := line.quantity }, product.merchantId)

/-- The one merchant of a cart. -/
def merchantOf (merchants : List Nat) : Except AppError Nat :=
  match merchants.dedup with
  | [] => .error { kind := .validation, message := "the SKUs in this order are not attached to a merchant" }
  | [merchant] => .ok merchant
  | several => .error {
      kind := .validation
      message := "all lines in one order must belong to the same merchant"
      context := [("merchant_ids", .ints ((several.insertionSort (· ≤ ·)).map Int.ofNat))] }

/-- The priced lines of a cart, and its merchant. -/
def priceLines (skus : List (Nat × ProductSku)) (products : List (Nat × Product))
    (images : List (Nat × ProductImage)) (items : List OrderLineInput) :
    Except AppError (List (Pricing.PricedLine AttributeSnapshot) × Nat) := do
  let missing := (items.map OrderLineInput.skuId).filter fun id => (rowOf skus id).isNone
  Raise.raiseIf (missing ≠ [])
    { kind := .skuNotFound
      message := "one or more SKUs in this order no longer exist"
      context := [("sku_ids", .ints (missing.map Int.ofNat))] }
  let prices ← items.mapM (priceLine skus products images)
  let merchant ← merchantOf (prices.filterMap Prod.snd)
  return (prices.map Prod.fst, merchant)

/-- Resolve requested lines to catalogue snapshots, and their merchant. -/
def loadPricedLines (items : List OrderLineInput) : Tx (List (Pricing.PricedLine AttributeSnapshot) × Nat) := do
  let skus ← Sql.query fun d => d.skuRows (items.map OrderLineInput.skuId)
  let productIds := skus.map fun e => e.2.productId
  let products ← Sql.query fun d => d.productRows productIds
  let images ← Sql.query fun d => d.primaryImages productIds
  Sql.ofExcept (priceLines skus products images items)

/-- The priced lines name the SKUs and quantities that were asked for. -/
theorem priceLines_lines {skus : List (Nat × ProductSku)} {products : List (Nat × Product)}
    {images : List (Nat × ProductImage)} {items : List OrderLineInput}
    {lines : List (Pricing.PricedLine AttributeSnapshot)} {merchant : Nat}
    (h : priceLines skus products images items = .ok (lines, merchant)) :
    lines.map (fun line => (line.skuId, line.quantity)) = items.map fun item => (item.skuId, item.quantity) := by
  have hline : ∀ item line merchant, priceLine skus products images item = .ok (line, merchant) →
      (line.skuId, line.quantity) = (item.skuId, item.quantity) := by
    intro item line merchant h
    unfold priceLine at h
    simp only [bind_eq_ok] at h
    obtain ⟨sku, -, _, -, product, -, _, -, h⟩ := h
    cases h
    rfl
  unfold priceLines at h
  simp only [bind_eq_ok] at h
  obtain ⟨_, -, prices, hprices, _, -, h⟩ := h
  cases h
  rw [List.map_map]
  exact Raise.map_eq_map_of_mapM (fun item price hprice => hline item price.1 price.2 hprice) hprices

theorem loadPricedLines_lines {items : List OrderLineInput} {lines : List (Pricing.PricedLine AttributeSnapshot)}
    {merchant : Nat} {e e' : Sql.Exec Db}
    (h : (loadPricedLines items).run e = (.ok (lines, merchant), e')) :
    e' = e ∧ lines.map (fun line => (line.skuId, line.quantity)) =
      items.map fun item => (item.skuId, item.quantity) := by
  unfold loadPricedLines at h
  simp only [Sql.run_bind, Sql.run_query, Sql.andThen_ok] at h
  rw [Sql.run_ofExcept_eq_ok] at h
  exact ⟨h.2.symm, priceLines_lines h.1⟩

@[grind .] theorem noCommit_loadPricedLines (items : List OrderLineInput) :
    (loadPricedLines items).NoCommit := by
  unfold loadPricedLines
  grind

end NovaCommerce
