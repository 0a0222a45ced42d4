import NovaCommerce.Inventory.Moves
import NovaCommerce.Order.Workflow

/-!
# Shown stock and reserved stock

The shop shows what all active warehouses can sell of a SKU; an order is reserved in one of them.

* `publicProductDetail` : the page of a product, with the stock of its SKUs;
* `reserveStock_one_iff` : when the reserve step accepts a single line;
* `shown_orderable_iff` : when it accepts every quantity up to the stock that is shown.
-/

namespace NovaCommerce

open Sql

/-! ## The page of a product -/

/-- A warehouse is active. -/
def Db.ActiveWarehouse (d : Db) (warehouseId : Nat) : Prop := ∃ w ∈ d.warehouses.get? warehouseId, w.active = true

instance Db.decidableActiveWarehouse (d : Db) (warehouseId : Nat) : Decidable (d.ActiveWarehouse warehouseId) := by
  unfold Db.ActiveWarehouse
  infer_instance

/-- `stock_by_sku`: sellable units per SKU, summed over the active warehouses. -/
def Db.stockBySku (d : Db) (skuIds : List Nat) : Dict Nat Int :=
  if skuIds = [] then Dict.empty
  else
    (d.inventories.select fun row => decide (row.skuId ∈ skuIds ∧ d.ActiveWarehouse row.warehouseId)).foldl
      (fun result entry => result.set entry.2.skuId
        ((result.get? entry.2.skuId).getD 0 + max (entry.2.availableQty - entry.2.safetyStock) 0))
      Dict.empty

/-- `active_skus`: the sellable SKUs of a product. -/
def Db.activeSkus (d : Db) (productId : Nat) : List (Nat × ProductSku) :=
  d.productSkus.select fun sku => decide (sku.productId = productId ∧ sku.deletedAt = none ∧ sku.status = .active)

/-- A SKU on the page of its product. -/
structure SkuDetail where
  id : Nat
  productId : Nat
  specs : Option AttributeSnapshot
  priceAmount : Int
  availableStock : Int
  status : SkuStatus

/-- The published product of an id. -/
def Db.publishedProduct (d : Db) (productId : Nat) : Option Product :=
  (d.products.get? productId).filter fun p => decide (p.status = .published ∧ p.deletedAt = none)

/-- `product_detail`: a published product and its SKUs. -/
def publicProductDetail (productId : Nat) : Tx (Product × List SkuDetail) := do
  let product ← orRaise (← query fun d => d.publishedProduct productId)
    { kind := .productNotFound, message := "published product not found" }
  let skus ← query fun d => d.activeSkus productId
  let stock ← query fun d => d.stockBySku (skus.map Prod.fst)
  return (product, skus.map fun sku => {
    id := sku.1
    productId
    specs := sku.2.attributeSnapshot
    priceAmount := sku.2.priceAmount
    availableStock := (stock.get? sku.1).getD 0
    status := sku.2.status })

/-! ## The stock that is shown -/

/-- The positions of a SKU in active warehouses. -/
def Db.activePositions (d : Db) (skuId : Nat) : List (Nat × Inventory) :=
  d.inventories.select fun row => decide (row.skuId = skuId ∧ d.ActiveWarehouse row.warehouseId)

theorem mem_activePositions {d : Db} {skuId : Nat} {entry : Nat × Inventory} :
    entry ∈ d.activePositions skuId ↔
      d.inventories.get? entry.1 = some entry.2 ∧ entry.2.skuId = skuId ∧ d.ActiveWarehouse entry.2.warehouseId := by
  obtain ⟨id, row⟩ := entry
  unfold Db.activePositions
  rw [Dict.mem_select, decide_eq_true_eq]

theorem sellableQty_nonneg (row : Inventory) : 0 ≤ row.sellableQty := le_max_right _ _

/-- What some positions can sell together. -/
def sellableUnits (rows : List (Nat × Inventory)) : Int := (rows.map fun entry => entry.2.sellableQty).sum

theorem sellableUnits_nonneg (rows : List (Nat × Inventory)) : 0 ≤ sellableUnits rows := by
  refine List.sum_nonneg fun x hx => ?_
  obtain ⟨entry, -, rfl⟩ := List.mem_map.mp hx
  exact sellableQty_nonneg entry.2

/-- A position apart from the others. -/
theorem sellableUnits_split {rows : List (Nat × Inventory)} {entry : Nat × Inventory} (h : entry ∈ rows) :
    ∃ rest, rows.Perm (entry :: rest) ∧ sellableUnits rows = entry.2.sellableQty + sellableUnits rest := by
  obtain ⟨before, after, rfl⟩ := List.append_of_mem h
  refine ⟨before ++ after, List.perm_middle, ?_⟩
  unfold sellableUnits
  rw [(List.perm_middle.map _).sum_eq, List.map_cons, List.sum_cons]

theorem get?_foldl_sum (f : Inventory → Int) (skuId : Nat) : ∀ (rows : List (Nat × Inventory))
    (result : Dict Nat Int),
    ((rows.foldl (fun result entry => result.set entry.2.skuId ((result.get? entry.2.skuId).getD 0 + f entry.2))
      result).get?
        skuId).getD 0 =
      (result.get? skuId).getD 0 + ((rows.filter fun entry => decide (entry.2.skuId = skuId)).map fun entry =>
        f entry.2).sum := by
  intro rows
  induction rows with
  | nil => intro result; simp
  | cons entry rows ih =>
    intro result
    rw [List.foldl_cons, ih]
    by_cases hsku : entry.2.skuId = skuId
    · rw [List.filter_cons_of_pos (by simpa using hsku), List.map_cons, List.sum_cons, hsku, Dict.get?_set_self,
        Option.getD_some]
      ring
    · rw [List.filter_cons_of_neg (by simpa using hsku), Dict.get?_set_ne (Ne.symm hsku)]

/-- The stock shown of a SKU is what its positions in active warehouses can sell together. -/
theorem stockBySku_get? (d : Db) {skuIds : List Nat} {skuId : Nat} (h : skuId ∈ skuIds) :
    ((d.stockBySku skuIds).get? skuId).getD 0 = sellableUnits (d.activePositions skuId) := by
  unfold Db.stockBySku
  rw [if_neg (List.ne_nil_of_mem h)]
  have hsum := get?_foldl_sum (fun row => max (row.availableQty - row.safetyStock) 0) skuId
    (d.inventories.select fun row => decide (row.skuId ∈ skuIds ∧ d.ActiveWarehouse row.warehouseId)) Dict.empty
  rw [hsum, Dict.get?_empty, Option.getD_none, zero_add]
  unfold sellableUnits Db.activePositions Dict.select
  rw [List.filter_filter]
  congr 2
  refine List.filter_congr fun entry _ => ?_
  rw [← Bool.decide_and, decide_eq_decide]
  constructor
  · rintro ⟨hsku, -, hactive⟩
    exact ⟨hsku, hactive⟩
  · rintro ⟨hsku, hactive⟩
    exact ⟨hsku, hsku ▸ h, hactive⟩

theorem publicProductDetail_eq_ok {e e' : Exec Db} {productId : Nat} {product : Product} {skus : List SkuDetail}
    (h : (publicProductDetail productId).run e = (.ok (product, skus), e')) :
    e' = e ∧ e.view.publishedProduct productId = some product ∧ ∀ sku ∈ skus,
      sku.availableStock = sellableUnits (e.view.activePositions sku.id) := by
  unfold publicProductDetail at h
  rw [run_bind, run_query, andThen_ok, run_bind_eq_ok] at h
  obtain ⟨found, e₁, hfound, h⟩ := h
  rw [run_orRaise_eq_ok] at hfound
  obtain ⟨hfound, rfl⟩ := hfound
  rw [run_bind, run_query, andThen_ok, run_bind, run_query, andThen_ok, run_pure] at h
  cases h
  refine ⟨rfl, hfound, fun sku hsku => ?_⟩
  obtain ⟨row, hrow, rfl⟩ := List.mem_map.mp hsku
  exact stockBySku_get? _ (List.mem_map_of_mem hrow)

/-! ## The stock that is reserved -/

/-- The CHECK constraints of `inventories`. -/
def Inventory.Checked (row : Inventory) : Prop := 0 ≤ row.availableQty ∧ 0 ≤ row.lockedQty ∧ 0 ≤ row.safetyStock

/-- The unique key of `inventories`. -/
def Db.OnePerPosition (d : Db) : Prop := ∀ i j r r', d.inventories.get? i = some r → d.inventories.get? j = some r' →
  r.warehouseId = r'.warehouseId → r.skuId = r'.skuId → i = j

/-- The warehouse a merchant operates out of is active. -/
theorem defaultWarehouseOf_active {d : Db} {merchantId w : Nat} (h : d.defaultWarehouseOf merchantId = some w) :
    d.ActiveWarehouse w := by
  unfold Db.defaultWarehouseOf at h
  split at h
  next id row hfound =>
    obtain ⟨hget, hp⟩ := Dict.find?_some hfound
    obtain rfl := Option.some.inj h
    simp only [Bool.and_eq_true] at hp
    exact ⟨row, hget, hp.1.1⟩
  next =>
    obtain ⟨⟨id, row⟩, hfound, rfl⟩ := Option.map_eq_some_iff.mp h
    obtain ⟨hget, hp⟩ := Dict.find?_some hfound
    simp only [Bool.and_eq_true] at hp
    exact ⟨row, hget, hp.1⟩

theorem inventoryAt_of_unique {d : Db} (hunique : d.OnePerPosition) {id : Nat} {row : Inventory}
    (hrow : d.inventories.get? id = some row) : d.inventoryAt row.warehouseId row.skuId = some (id, row) := by
  cases hfound : d.inventoryAt row.warehouseId row.skuId with
  | none =>
    have hnone := Dict.find?_none.mp hfound (id, row) (Dict.get?_eq_some.mp hrow)
    simp at hnone
  | some found =>
    obtain ⟨id', row'⟩ := found
    obtain ⟨hrow', hw, hs⟩ := inventoryAt_some hfound
    obtain rfl := hunique _ _ _ _ hrow hrow' hw.symm hs.symm
    rw [hrow] at hrow'
    cases hrow'
    rfl

/-- The reservation of a single line. -/
def lineRequest (principal : Principal) (request : CreateOrderRequest) (line : OrderLineInput)
    (orderId warehouseId : Nat) :
    StockRequest where
  skuId := line.skuId
  quantity := line.quantity
  idempotencyKey := orderLockMovementKey principal.userId request.clientRequestId line.skuId
  warehouseId := some warehouseId
  referenceType := .order
  referenceId := some orderId
  operatorType := principal.movementOperator
  operatorId := some principal.userId

theorem orderLockMovementKey_ne_empty (userId : Nat) (clientRequestId : String) (skuId : Nat) :
    orderLockMovementKey userId clientRequestId skuId ≠ "" := by
  unfold orderLockMovementKey
  simp

section

variable {e : Exec Db} {principal : Principal} {request : CreateOrderRequest} {line : OrderLineInput}
  {orderId merchantId : Nat}
  {now : Time}

theorem run_reserveStock_one : (reserveStock principal request [line] orderId merchantId now).run e =
    match e.view.defaultWarehouseOf merchantId with
    | none => (.error { kind := .warehouseNotFound, message := "no active warehouse is configured" }, e)
    | some w => andThen ((reserve (lineRequest principal request line orderId w) now).run e) fun _ =>
      (pure w : Tx Nat).run := by
  unfold reserveStock
  rw [run_bind, run_query, andThen_ok]
  cases e.view.defaultWarehouseOf merchantId with
  | none => rfl
  | some w =>
    rw [run_bind, run_orRaise_some rfl, andThen_ok, run_bind]
    unfold moveAll reserveRequests
    rw [show [line].insertionSort (fun a b => a.skuId ≤ b.skuId) = [line] from rfl, List.map_singleton,
      run_forEach_cons, run_bind]
    dsimp only
    show andThen (andThen
      (andThen ((moveStock reserveOperation (lineRequest principal request line orderId w) now).run e) _) _) _ =
      andThen ((moveStock reserveOperation (lineRequest principal request line orderId w) now).run e) _
    generalize (moveStock reserveOperation (lineRequest principal request line orderId w) now).run e = outcome
    obtain ⟨r, e₁⟩ := outcome
    cases r with
    | error x => rfl
    | ok v => rfl

/-- The reserve step accepts a single line when the warehouse of the merchant has the units. -/
theorem reserveStock_one_iff
    (hfresh : e.view.movementAt (orderLockMovementKey principal.userId request.clientRequestId line.skuId) = none)
    (hchecked : ∀ id row, e.view.inventories.get? id = some row → row.Checked) (hquantity : 0 < line.quantity) :
    (∃ w e', (reserveStock principal request [line] orderId merchantId now).run e = (.ok w, e')) ↔
      ∃ w id row, e.view.defaultWarehouseOf merchantId = some w ∧ e.view.inventoryAt w line.skuId = some (id, row) ∧
        line.quantity ≤ row.sellableQty := by
  rw [run_reserveStock_one]
  constructor
  · rintro ⟨w, e', h⟩
    cases hw : e.view.defaultWarehouseOf merchantId with
    | none =>
      rw [hw] at h
      cases h
    | some w₀ =>
      rw [hw] at h
      dsimp only at h
      rw [andThen_eq_ok] at h
      obtain ⟨result, e₁, hreserve, -⟩ := h
      obtain ⟨d, -, hmoved⟩ := moveStock_moved hreserve
      cases hmoved with
      | replayed used => exact absurd (hfresh.symm.trans used) (Option.some_ne_none _).symm
      | @applied w' id row unused hwarehouse hat haccepted _ =>
        have hw' : w' = w₀ := by
          unfold Db.warehouseFor lineRequest at hwarehouse
          obtain ⟨_, -, rfl⟩ := Option.map_eq_some_iff.mp hwarehouse
          rfl
        subst hw'
        refine ⟨w', id, row, rfl, hat, ?_⟩
        have hcan : row.canReserve line.quantity = true := by
          by_contra hcannot
          unfold reserveOperation at haccepted
          dsimp only at haccepted
          rw [if_neg (show ¬ row.canReserve (lineRequest principal request line orderId w').quantity =
            true from hcannot)] at haccepted
          cases haccepted
        unfold Inventory.canReserve at hcan
        exact (of_decide_eq_true hcan).2
  · rintro ⟨w, id, row, hw, hat, hunits⟩
    obtain ⟨hrow, hrw, hrs⟩ := inventoryAt_some hat
    obtain ⟨havailable, hlocked, hsafety⟩ := hchecked id row hrow
    obtain ⟨warehouse, hget, -⟩ := defaultWarehouseOf_active hw
    have hbound : line.quantity ≤ row.availableQty := by
      unfold Inventory.sellableQty at hunits
      omega
    have hcan : row.canReserve line.quantity = true := by
      unfold Inventory.canReserve
      exact decide_eq_true ⟨hquantity, hunits⟩
    have hwarehouse : e.view.warehouseFor (some w) = some w := by
      unfold Db.warehouseFor
      dsimp only
      rw [show e.view.warehouses.get? w = some warehouse from hget]
      rfl
    have hvalid : reserveOperation.invalid (lineRequest principal request line orderId w) = none := by
      have hpositive : quantityInvalid (lineRequest principal request line orderId w) = none :=
        if_neg (not_le.mpr hquantity)
      unfold reserveOperation
      dsimp only
      rw [hpositive]
      exact if_neg (orderLockMovementKey_ne_empty _ _ _)
    have haccepted : reserveOperation.refusal row (lineRequest principal request line orderId w) = none := if_pos hcan
    have hmovement : (reserveOperation.movement (lineRequest principal request line orderId w) row).Checked := by
      refine ⟨havailable, hlocked, ?_, ?_⟩
      · show 0 ≤ row.availableQty - line.quantity
        omega
      · show 0 ≤ row.lockedQty + line.quantity
        omega
    obtain ⟨result, hrun⟩ : ∃ result, (reserve (lineRequest principal request line orderId w) now).run e =
        (.ok result,
          { e with view := e.view.moved reserveOperation (lineRequest principal request line orderId w) now id row }) :=
      moveStock_applied hvalid hfresh hwarehouse hat haccepted hmovement
    rw [hw]
    dsimp only
    exact ⟨w, _, by rw [hrun, andThen_ok, run_pure]⟩

end

/-! ## What is shown can be ordered -/

/-- The units of a SKU that active warehouses can sell are all in the one that orders of the merchant are reserved in. -/
def Db.SoldFromDefault (d : Db) (skuId merchantId : Nat) : Prop :=
  ∀ entry ∈ d.activePositions skuId, 0 < entry.2.sellableQty → d.defaultWarehouseOf merchantId =
    some entry.2.warehouseId

/-- The stock shown of a SKU is the stock of the warehouse that its orders are reserved in, when that is where it is. -/
theorem shown_le_iff {d : Db} (hunique : d.OnePerPosition) (skuId merchantId : Nat) :
    (∀ q, 1 ≤ q → q ≤ sellableUnits (d.activePositions skuId) → ∃ w id row, d.defaultWarehouseOf merchantId = some w ∧
      d.inventoryAt w skuId = some (id, row) ∧ q ≤ row.sellableQty) ↔ d.SoldFromDefault skuId merchantId := by
  constructor
  · intro haccepts entry hentry hsellable
    obtain ⟨rest, -, hunits⟩ := sellableUnits_split hentry
    have hrest := sellableUnits_nonneg rest
    obtain ⟨w, id, row, hw, hat, hq⟩ := haccepts _ (by omega) (le_refl _)
    obtain ⟨hrow, hrw, hrs⟩ := inventoryAt_some hat
    have hmem : (id, row) ∈ d.activePositions skuId :=
      mem_activePositions.mpr ⟨hrow, hrs, hrw ▸ defaultWarehouseOf_active hw⟩
    obtain ⟨others, hperm, hothers⟩ := sellableUnits_split hmem
    rcases List.mem_cons.mp (hperm.mem_iff.mp hentry) with hsame | hother
    · subst hsame
      rw [hw]
      exact congrArg some hrw.symm
    · obtain ⟨rest', -, hrest'⟩ := sellableUnits_split hother
      have hnonneg := sellableUnits_nonneg rest'
      dsimp only at hothers
      omega
  · intro hdefault q hq hshown
    obtain ⟨entry, hentry, hsellable⟩ : ∃ entry ∈ d.activePositions skuId, 0 < entry.2.sellableQty := by
      by_contra hnone
      have hzero : sellableUnits (d.activePositions skuId) = 0 := by
        refine List.sum_eq_zero fun x hx => ?_
        obtain ⟨entry, hentry, rfl⟩ := List.mem_map.mp hx
        exact le_antisymm (not_lt.mp fun h => hnone ⟨entry, hentry, h⟩) (sellableQty_nonneg entry.2)
      omega
    have hw := hdefault entry hentry hsellable
    obtain ⟨hrow, hsku, -⟩ := mem_activePositions.mp hentry
    have hat := inventoryAt_of_unique hunique hrow
    rw [hsku] at hat
    refine ⟨_, _, _, hw, hat, le_trans hshown ?_⟩
    -- no other position has headroom: it would be in the same warehouse
    obtain ⟨rest, hperm, hunits⟩ := sellableUnits_split hentry
    have hids : ((d.activePositions skuId).map Prod.fst).Nodup :=
      (List.filter_sublist.map Prod.fst).nodup d.inventories.nodup
    have hnot := (List.nodup_cons.mp ((hperm.map Prod.fst).nodup_iff.mp hids)).1
    have hzero : sellableUnits rest = 0 := by
      refine List.sum_eq_zero fun x hx => ?_
      obtain ⟨other, hother, rfl⟩ := List.mem_map.mp hx
      refine le_antisymm (not_lt.mp fun h => hnot ?_) (sellableQty_nonneg other.2)
      have hmem : other ∈ d.activePositions skuId := hperm.mem_iff.mpr (List.mem_cons_of_mem _ hother)
      have hw' := hdefault other hmem h
      rw [hw, Option.some.injEq] at hw'
      obtain ⟨hrow', hsku', -⟩ := mem_activePositions.mp hmem
      have hid := hunique _ _ _ _ hrow' hrow hw'.symm (hsku'.trans hsku.symm)
      exact List.mem_map.mpr ⟨other, hother, hid⟩
    omega

/-- What the page of a product shows of a SKU can be ordered, in every quantity, when the units are in the warehouse that its orders
are reserved in, and in no other case. -/
theorem shown_orderable_iff {e e₁ e' : Exec Db} {productId merchantId : Nat} {product : Product}
    {skus : List SkuDetail}
    {sku : SkuDetail} (hpage : (publicProductDetail productId).run e = (.ok (product, skus), e₁)) (hsku : sku ∈ skus)
    (hunique : e.view.OnePerPosition) (hchecked : ∀ id row, e.view.inventories.get? id = some row → row.Checked)
    (hwarehouses : e'.view.warehouses = e.view.warehouses) (hinventories : e'.view.inventories = e.view.inventories)
    (principal : Principal) (request : CreateOrderRequest) (orderId : Nat) (now : Time)
    (hfresh : e'.view.movementAt (orderLockMovementKey principal.userId request.clientRequestId sku.id) = none) :
    (∀ q, 1 ≤ q → q ≤ sku.availableStock → ∃ w e₂,
      (reserveStock principal request [{ skuId := sku.id, quantity := q }] orderId merchantId now).run e' =
        (.ok w, e₂)) ↔
      e.view.SoldFromDefault sku.id merchantId := by
  obtain ⟨-, -, hshown⟩ := publicProductDetail_eq_ok hpage
  rw [hshown sku hsku, ← shown_le_iff hunique]
  have hdefault : e'.view.defaultWarehouseOf merchantId = e.view.defaultWarehouseOf merchantId := by
    unfold Db.defaultWarehouseOf
    rw [hwarehouses]
  have hinventoryAt : ∀ w, e'.view.inventoryAt w sku.id = e.view.inventoryAt w sku.id := by
    intro w
    unfold Db.inventoryAt
    rw [hinventories]
  rw [← hinventories] at hchecked
  refine forall_congr' fun q => forall_congr' fun hq => forall_congr' fun _ => ?_
  have haccepts : (∃ w e₂,
    (reserveStock principal request [{ skuId := sku.id, quantity := q }] orderId merchantId now).run e' =
      (.ok w, e₂)) ↔ ∃ w id row, e'.view.defaultWarehouseOf merchantId = some w ∧ e'.view.inventoryAt w sku.id = some
        (id, row) ∧
        q ≤ row.sellableQty := reserveStock_one_iff hfresh hchecked hq
  rw [haccepts, hdefault]
  simp only [hinventoryAt]

/-- A SKU with three units in the default warehouse of its merchant, and `more` units in another one. -/
def cupsInTwoWarehouses (more : Int) : Exec Db := Exec.start {
  warehouses := ((Dict.empty : Dict Nat Warehouse).set 1 { merchantId := 1, isDefault := true }).set 2
    { merchantId := 1 }
  inventories :=
    ((Dict.empty : Dict Nat Inventory).set 7 { warehouseId := 1, skuId := 5, availableQty := 3, totalInQty := 3 }).set 8
      { warehouseId := 2, skuId := 5, availableQty := more, totalInQty := more }
  products := (Dict.empty : Dict Nat Product).set 3
    { merchantId := some 1, productNo := "P3", name := "Cup", status := .published }
  productSkus := (Dict.empty : Dict Nat ProductSku).set 5
    { productId := 3, skuNo := "S5", name := "White", priceAmount := 1999 } } 9

theorem cupsInTwoWarehouses_get? {more : Int} {i : Nat} {r : Inventory}
    (h : (cupsInTwoWarehouses more).view.inventories.get? i = some r) :
    (i = 7 ∧ r = { warehouseId := 1, skuId := 5, availableQty := 3, totalInQty := 3 }) ∨
      (i = 8 ∧ r = { warehouseId := 2, skuId := 5, availableQty := more, totalInQty := more }) := by
  have hmem := Dict.get?_eq_some.mp h
  simp only [cupsInTwoWarehouses, Exec.start, Dict.set, Dict.setEntries, Dict.empty] at hmem
  simpa using hmem

theorem cupsInTwoWarehouses_unique (more : Int) : (cupsInTwoWarehouses more).view.OnePerPosition := by
  intro i j r r' hi hj hw _
  rcases cupsInTwoWarehouses_get? hi with ⟨rfl, rfl⟩ | ⟨rfl, rfl⟩
  · rcases cupsInTwoWarehouses_get? hj with ⟨rfl, rfl⟩ | ⟨rfl, rfl⟩
    · rfl
    · cases hw
  · rcases cupsInTwoWarehouses_get? hj with ⟨rfl, rfl⟩ | ⟨rfl, rfl⟩
    · cases hw
    · rfl

theorem cupsInTwoWarehouses_checked {more : Int} (h : 0 ≤ more) (id : Nat) (row : Inventory)
    (hrow : (cupsInTwoWarehouses more).view.inventories.get? id = some row) : row.Checked := by
  rcases cupsInTwoWarehouses_get? hrow with ⟨-, rfl⟩ | ⟨-, rfl⟩
  · exact ⟨by decide, by decide, by decide⟩
  · exact ⟨h, le_refl 0, le_refl 0⟩

/-- The page of the cup shows the units of both warehouses. -/
theorem cupsInTwoWarehouses_page (more : Int) : ∃ product sku,
    (publicProductDetail 3).run (cupsInTwoWarehouses more) = (.ok (product, [sku]), cupsInTwoWarehouses more) ∧
      sku.id = 5 ∧
      sku.availableStock = 0 + max (3 - 0) 0 + max (more - 0) 0 :=
  ⟨_, _, rfl, rfl, rfl⟩

/-- A customer who orders cups. -/
def cupsBuyer : Principal := { userId := 1, merchantId := none }

def cupsRequest : CreateOrderRequest where
  items := [{ skuId := 5, quantity := 3 }]
  addressId := 1
  clientRequestId := "c1"
  idempotencyKey := "k1"

/-- With no units in the other warehouse, all three cups can be ordered. -/
theorem shown_orderable_default : ∃ product sku,
    (publicProductDetail 3).run (cupsInTwoWarehouses 0) = (.ok (product, [sku]), cupsInTwoWarehouses 0) ∧
      sku.availableStock = 3 ∧
      ∀ q, 1 ≤ q → q ≤ sku.availableStock → ∃ w e₂,
        (reserveStock cupsBuyer cupsRequest [{ skuId := sku.id, quantity := q }] 9 1 0).run (cupsInTwoWarehouses 0) =
          (.ok w, e₂) := by
  obtain ⟨product, sku, hpage, hid, hstock⟩ := cupsInTwoWarehouses_page 0
  refine ⟨product, sku, hpage, hstock, ?_⟩
  refine (shown_orderable_iff hpage List.mem_cons_self (cupsInTwoWarehouses_unique 0)
    (cupsInTwoWarehouses_checked (le_refl 0))
    rfl rfl cupsBuyer cupsRequest 9 0 rfl).mpr ?_
  rintro ⟨id, row⟩ hentry hsellable
  obtain ⟨hrow, -, -⟩ := mem_activePositions.mp hentry
  rcases cupsInTwoWarehouses_get? hrow with ⟨-, hrow⟩ | ⟨-, hrow⟩
  · dsimp only at hrow
    subst hrow
    rfl
  · dsimp only at hrow
    subst hrow
    exact absurd hsellable (by simp [Inventory.sellableQty])

/-- With four units in another warehouse the page shows seven, and seven cannot be ordered. -/
theorem shown_not_orderable : ¬ ∀ {e e₁ e' : Exec Db} {productId merchantId : Nat} {product : Product}
    {skus : List SkuDetail}
    {sku : SkuDetail}, (publicProductDetail productId).run e = (.ok (product, skus), e₁) → sku ∈ skus →
      e.view.OnePerPosition →
    (∀ id row, e.view.inventories.get? id = some row → row.Checked) → e'.view.warehouses = e.view.warehouses →
    e'.view.inventories = e.view.inventories → ∀ (principal : Principal) (request : CreateOrderRequest)
      (orderId : Nat) (now : Time),
    e'.view.movementAt (orderLockMovementKey principal.userId request.clientRequestId sku.id) = none →
    ∀ q, 1 ≤ q → q ≤ sku.availableStock → ∃ w e₂,
      (reserveStock principal request [{ skuId := sku.id, quantity := q }] orderId merchantId now).run e' =
        (.ok w, e₂) := by
  intro hclaim
  obtain ⟨product, sku, hpage, hid, hstock⟩ := cupsInTwoWarehouses_page 4
  have haccepted : ∃ w e₂, (reserveStock cupsBuyer cupsRequest [{ skuId := sku.id, quantity := 7 }] 9 1 0).run
    (cupsInTwoWarehouses 4) =
      (.ok w, e₂) := hclaim hpage List.mem_cons_self (cupsInTwoWarehouses_unique 4)
    (cupsInTwoWarehouses_checked (by decide)) rfl rfl cupsBuyer cupsRequest 9 0 rfl 7 (by decide)
    (by rw [hstock]; decide)
  rw [hid] at haccepted
  obtain ⟨w, id, row, hw, hat, hunits⟩ :=
    (reserveStock_one_iff rfl (cupsInTwoWarehouses_checked (by decide)) (by decide)).mp haccepted
  cases hw
  cases hat
  revert hunits
  decide

end NovaCommerce
