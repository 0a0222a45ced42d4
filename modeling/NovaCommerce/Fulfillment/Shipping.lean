import NovaCommerce.Fulfillment.Service
import NovaCommerce.Order.Service
import NovaCommerce.Payment.Providers

/-!
# Shipping a package

`ship` sends off part of a package: the package keeps what left, and what is held back goes to a new
package in the same transaction.

* `ShipFulfillmentRequest` : a request whose lines are distinct and positive (`validateShip`);
* `computeResidual` : what is left of a package (`computeResidual_eq_ok`);
* `PackageShipped` : what a committed shipment did (`shipPackage_shipped`).
-/

namespace NovaCommerce

open Sql

/-! ## Requests -/

/-- One line of the parcel. -/
structure ShipLineIn where
  orderItemId : Nat
  quantity : Int
  positive : 0 < quantity

/-- A validated ship body. -/
structure ShipFulfillmentRequest where
  carrier : Carrier
  trackingNo : String
  itemQuantities : List ShipLineIn
  distinct : (itemQuantities.map ShipLineIn.orderItemId).Nodup

/-- `MAX_SHIP_LINES`. -/
def maxShipLines : Nat := 100

def shipLine? (line : Nat × Int) : Option ShipLineIn :=
  if h : 0 < line.1 ∧ 0 < line.2 then some ⟨line.1, line.2, h.2⟩ else none

/-- Validate a ship body; its carrier is already one of the vocabulary. -/
def validateShip (carrier : Carrier) (trackingNo : String) (lines : List (Nat × Int)) :
    Except AppError ShipFulfillmentRequest :=
  let invalid : AppError := { kind := .validation, message := "request validation failed" }
  let parsed := lines.filterMap shipLine?
  if lines.length = 0 ∨ maxShipLines < lines.length ∨ parsed.length ≠ lines.length then .error invalid
  else if 64 < trackingNo.length ∨ strip trackingNo = "" then .error invalid
  else if h : (parsed.map ShipLineIn.orderItemId).Nodup then .ok ⟨carrier, strip trackingNo, parsed, h⟩
  else .error invalid

def ShipFulfillmentRequest.requested (request : ShipFulfillmentRequest) : Dict Nat Int :=
  Dict.ofList (request.itemQuantities.map fun line => (line.orderItemId, line.quantity))

/-! ## Packages -/

/-- The lines of a package. -/
def Fulfillment.packageLines (f : Fulfillment) : Dict Nat Int := Dict.ofList (f.items.map FulfillmentItem.line)

/-- Goods have left. -/
def Fulfillment.isShipped (f : Fulfillment) : Bool :=
  decide (f.fulfillmentStatus = .shipped ∨ f.fulfillmentStatus = .delivered)

/-- The units of an order line among some lines. -/
def unitsOf (lines : List (Nat × Int)) (orderItemId : Nat) : Int :=
  ((lines.filter fun e => decide (e.1 = orderItemId)).map Prod.snd).sum

/-- The units of an order line in a package. -/
def Fulfillment.units (f : Fulfillment) (orderItemId : Nat) : Int :=
  unitsOf (f.items.map FulfillmentItem.line) orderItemId

/-- The units of an order line in the packages of an order that satisfy `p`. -/
def Db.unitsIn (d : Db) (p : Fulfillment → Bool) (orderId orderItemId : Nat) : Int :=
  d.fulfillments.total fun _ f => if f.orderId = orderId ∧ p f = true then f.units orderItemId else 0

/-- `shipped_quantities_for_order` of one line. -/
def Db.shippedQuantity (d : Db) (orderId orderItemId : Nat) : Int :=
  d.unitsIn Fulfillment.isShipped orderId orderItemId

/-- The ordered quantities of an order. -/
def Db.orderedQuantities (d : Db) (orderId : Nat) : Dict Nat Int :=
  Dict.ofList ((d.itemsFor orderId).map fun e => (e.1, e.2.quantity))

/-! ## The rules -/

/-- What a package still owes after the requested units. -/
def residualOf (packageLines requested : Dict Nat Int) : List (Nat × Int) :=
  packageLines.entries.filterMap fun e =>
    let remaining := e.2 - (requested.get? e.1).getD 0
    if 0 < remaining then some (e.1, remaining) else none

/-- `compute_residual`. -/
def computeResidual (packageLines requested : Dict Nat Int) : Except AppError (List (Nat × Int)) := do
  Raise.forEach (fun e => match packageLines.get? e.1 with
    | none => .error {
        kind := .validation
        message := s!"order line {e.1} is not part of this package"
        context := [("order_item_id", .int e.1)] }
    | some available => Raise.raiseIf (available < e.2) {
        kind := .validation
        message := s!"cannot ship {e.2} of order line {e.1}: this package carries {available}"
        context := [("order_item_id", .int e.1), ("available", .int available), ("requested", .int e.2)] })
    requested.entries
  return residualOf packageLines requested

/-- The guards of one requested line. -/
def assertQuantity (packageLines ordered : Dict Nat Int) (shipped : Nat → Int) (e : Nat × Int) :
    Except AppError Unit := do
  let packageQuantity ← Raise.orRaise (packageLines.get? e.1)
    { kind := .fulfillmentQuantity
      message := "this package does not carry that order line"
      context := [("order_item_id", .int e.1),
        ("package_lines", .ints ((packageLines.keys.insertionSort (· ≤ ·)).map Int.ofNat))] }
  Raise.raiseIf (packageQuantity < e.2)
    { kind := .fulfillmentQuantity
      message := s!"cannot ship {e.2} of order line {e.1}: this package carries {packageQuantity}"
      context := [("order_item_id", .int e.1), ("package_quantity", .int packageQuantity), ("requested", .int e.2)] }
  let orderedQuantity ← Raise.orRaise (ordered.get? e.1)
    { kind := .fulfillmentQuantity
      message := "that order line does not belong to this order"
      context := [("order_item_id", .int e.1)] }
  let cumulative := shipped e.1 + e.2
  Raise.raiseIf (orderedQuantity < cumulative)
    { kind := .fulfillmentQuantity
      message := s!"shipping {e.2} of order line {e.1} would ship {cumulative} in total, but the order line is {orderedQuantity}"
      context := [("order_item_id", .int e.1), ("ordered_quantity", .int orderedQuantity),
        ("already_shipped", .int (shipped e.1)), ("requested", .int e.2), ("cumulative", .int cumulative)] }

/-- `_assert_quantities_within_bounds`. -/
def assertQuantities (requested packageLines ordered : Dict Nat Int) (shipped : Nat → Int) :
    Except AppError Unit :=
  Raise.forEach (assertQuantity packageLines ordered shipped) requested.entries

/-- The three-way rule, line by line. -/
def fulfillmentAxis (shipped : Nat → Int) : List (Nat × Int) → Bool → FulfillmentStatus
  | [], _ => .shipped
  | (id, orderedQuantity) :: rest, any_ =>
    let any_ := any_ || decide (0 < shipped id)
    if shipped id < orderedQuantity then if any_ then .partialShipped else .unfulfilled
    else fulfillmentAxis shipped rest any_

/-- `compute_fulfillment_status`. -/
def computeFulfillmentStatus (ordered : Dict Nat Int) (shipped : Nat → Int) (current : Option FulfillmentStatus) :
    FulfillmentStatus :=
  if current = some .delivered then .delivered
  else if ordered.entries = [] then .unfulfilled
  else fulfillmentAxis shipped ordered.entries false

/-! ## The transaction -/

/-- `FULFILLMENT_SHIP_PERMISSIONS`. -/
def fulfillmentShipPermissions : List String := ["fulfillment:ship", "order:admin"]

def assertCanShip (principal : Principal) : Except AppError Unit := do
  Raise.raiseIf (principal.isStaff = false)
    { kind := .permissionDenied, message := "shipping is a merchant staff action" }
  Raise.raiseIf (¬ ∃ permission ∈ fulfillmentShipPermissions, permission ∈ principal.permissions)
    { kind := .permissionDenied
      message := "missing a required permission"
      context := [("required_any_of", .strs fulfillmentShipPermissions)] }

def fulfillmentNotFound (id : Nat) : AppError :=
  { kind := .fulfillmentNotFound, message := "fulfillment not found", context := [("fulfillment_id", .int id)] }

/-- Lock a package of the caller's merchant, and its order. -/
def resolveLockedPackage (principal : Principal) (id : Nat) : Tx (Fulfillment × Order) := do
  let f ← orRaise (← lock (fun _ => [RowLock.fulfillment id]) fun d => d.fulfillments.get? id)
    (fulfillmentNotFound id)
  raiseIf (∃ m ∈ principal.merchantId, f.merchantId ≠ m) (fulfillmentNotFound id)
  let order ← orRaise (← getOrderForUpdate f.orderId)
    { kind := .orderNotFound
      message := "the order this package belongs to no longer exists"
      context := [("fulfillment_id", .int id), ("order_id", .int f.orderId)] }
  return (f, order)

/-- What is left in a package that was shipped. -/
def Fulfillment.keptItems (f : Fulfillment) (requested : Dict Nat Int) : List FulfillmentItem :=
  f.items.filterMap fun item => (requested.get? item.orderItemId).map fun quantity =>
    { item with quantity := quantity }

/-- The columns and lines of a shipped package, from the row the session holds. -/
def Fulfillment.shippedWith (held : Fulfillment) (request : ShipFulfillmentRequest) (now : Time)
    (row : Fulfillment) : Fulfillment :=
  { row with
    carrier := some request.carrier
    trackingNo := some request.trackingNo
    shippedAt := some now
    fulfillmentStatus := .shipped
    items := held.keptItems request.requested }

/-- A line of the residual, with its name snapshots. -/
def residualItem (source : List FulfillmentItem) (orderItems : List (Nat × OrderItem)) (e : Nat × Int) :
    Except AppError FulfillmentItem :=
  match source.find? fun item => decide (item.orderItemId = e.1) with
  | some template => .ok { template with quantity := e.2, orderItemId := e.1 }
  | none =>
    match orderItems.find? fun line => decide (line.1 = e.1) with
    | some line => .ok {
        orderItemId := e.1
        skuId := line.2.skuId
        productName := line.2.productName
        skuName := line.2.skuName
        quantity := e.2 }
    | none => .error {
        kind := .validation
        message := "cannot build a residual package for an unknown order line"
        context := [("order_item_id", .int e.1)] }

/-- The package of what was held back. -/
def residualPackage (fulfillmentNo : String) (orderId : Nat) (order : Order) (warehouseId : Nat)
    (items : List FulfillmentItem) : Fulfillment where
  fulfillmentNo := fulfillmentNo
  orderId := orderId
  orderNo := order.orderNo
  merchantId := order.merchantId
  warehouseId := warehouseId
  remark := some "residual of a partial shipment"
  items := items

def createResidual (env : Deployment) (f : Fulfillment) (order : Order) (source : List FulfillmentItem)
    (orderItems : List (Nat × OrderItem)) (residual : List (Nat × Int)) (now : Time) : Tx Unit := do
  if residual = [] then return ()
  else
    let items ← ofExcept (residual.mapM (residualItem source orderItems))
    let id ← newId
    update fun d => { d with
      fulfillments := d.fulfillments.set id (residualPackage (businessNo env.settings.fulfillmentNoPrefix now id)
        f.orderId order f.warehouseId items) }

/-- A shipment on the rows the session holds locked. -/
def shipLocked (env : Deployment) (request : ShipFulfillmentRequest) (now : Time) (id : Nat) (f : Fulfillment)
    (order : Order) : Tx Unit := do
  raiseIf (f.isShipped = true)
    { kind := .fulfillmentAlreadyShipped
      message := "this package has already been shipped"
      context := [("fulfillment_id", .int id), ("fulfillment_no", .str f.fulfillmentNo),
        ("fulfillment_status", .str f.fulfillmentStatus.value)] }
  raiseIf (f.packageLines.entries = [])
    { kind := .fulfillmentQuantity
      message := "this package has no lines to ship"
      context := [("fulfillment_id", .int id)] }
  let orderItems ← itemsFor f.orderId
  let ordered ← query fun d => d.orderedQuantities f.orderId
  let shipped ← query fun d => d.shippedQuantity f.orderId
  ofExcept (assertQuantities request.requested f.packageLines ordered shipped)
  let residual ← ofExcept (computeResidual f.packageLines request.requested)
  update fun d => { d with fulfillments := d.fulfillments.modify id (f.shippedWith request now) }
  raiseIf (f.keptItems request.requested = [])
    { kind := .fulfillmentQuantity
      message := "a shipment must contain at least one line of this package"
      context := [("fulfillment_id", .int id)] }
  createResidual env f order (f.keptItems request.requested) orderItems residual now
  let shipped ← query fun d => d.shippedQuantity f.orderId
  update fun d => { d with
    orders := d.orders.modify f.orderId fun row =>
      { row with fulfillmentStatus := computeFulfillmentStatus ordered shipped (some order.fulfillmentStatus) } }

def shipPackage (env : Deployment) (principal : Principal) (id : Nat) (request : ShipFulfillmentRequest)
    (now : Time) : Tx Unit := do
  ofExcept (assertCanShip principal)
  let (f, order) ← resolveLockedPackage principal id
  shipLocked env request now id f order

/-- Ship part of a package. -/
def ship (env : Deployment) (principal : Principal) (id : Nat) (carrier : Carrier) (trackingNo : String)
    (lines : List (Nat × Int)) (now : Time) : Tx Unit := do
  let request ← ofExcept (validateShip carrier trackingNo lines)
  transaction (shipPackage env principal id request now)

/-! ## What a shipment does -/

/-- The package of what was held back, when something was. -/
inductive ResidualCreated (orderId : Nat) (residual : List (Nat × Int)) (next : Nat) (d : Db) : Nat → Db → Prop where
  | whole (empty : residual = []) : ResidualCreated orderId residual next d next d
  | split {p : Fulfillment} (ofOrder : p.orderId = orderId) (unshipped : p.fulfillmentStatus = .unfulfilled)
      (lines : p.items.map FulfillmentItem.line = residual) (held : residual ≠ []) :
      ResidualCreated orderId residual next d (next + 1) { d with fulfillments := d.fulfillments.set next p }

/-- What a committed shipment did: the package keeps what left, and the rest goes to a new one. -/
inductive PackageShipped (next : Nat) (d : Db) : Nat → Db → Prop where
  | mk {id next' : Nat} {f : Fulfillment} {order : Order} {request : ShipFulfillmentRequest} {now : Time}
      {axis : FulfillmentStatus} {d' : Db} (found : d.fulfillments.get? id = some f)
      (ofOrder : d.orders.get? f.orderId = some order) (unshipped : f.isShipped = false)
      (carried : ∀ e ∈ request.requested.entries, ∃ q, f.packageLines.get? e.1 = some q ∧ e.2 ≤ q)
      (kept : f.keptItems request.requested ≠ [])
      (residual : ResidualCreated f.orderId (residualOf f.packageLines request.requested) next
        { d with fulfillments := d.fulfillments.modify id (f.shippedWith request now) } next' d') :
      PackageShipped next d next' { d' with
        orders := d.orders.modify f.orderId fun row => { row with fulfillmentStatus := axis } }

theorem computeResidual_eq_ok {packageLines requested : Dict Nat Int} {residual : List (Nat × Int)}
    (h : computeResidual packageLines requested = .ok residual) :
    residual = residualOf packageLines requested ∧
      ∀ e ∈ requested.entries, ∃ q, packageLines.get? e.1 = some q ∧ e.2 ≤ q := by
  unfold computeResidual at h
  obtain ⟨_, hchecks, h⟩ := Raise.bind_eq_ok.mp h
  cases h
  refine ⟨rfl, fun e he => ?_⟩
  have hcheck := Raise.forEach_eq_ok.mp hchecks e he
  cases hq : packageLines.get? e.1 with
  | none => simp [hq] at hcheck
  | some q =>
    simp only [hq, Raise.raiseIf_eq_ok, not_lt] at hcheck
    exact ⟨q, rfl, hcheck⟩

theorem residualItem_line {source : List FulfillmentItem} {orderItems : List (Nat × OrderItem)} {e : Nat × Int}
    {item : FulfillmentItem} (h : residualItem source orderItems e = .ok item) : item.line = e := by
  unfold residualItem at h
  split at h
  · cases h
    rfl
  · split at h
    · cases h
      rfl
    · cases h

theorem createResidual_created {env : Deployment} {f : Fulfillment} {order : Order} {source : List FulfillmentItem}
    {orderItems : List (Nat × OrderItem)} {residual : List (Nat × Int)} {now : Time} {e e' : Exec Db} {u : Unit}
    (h : (createResidual env f order source orderItems residual now).run e = (.ok u, e')) :
    ∃ next d, e' = { e with view := d, next := next } ∧
      ResidualCreated f.orderId residual e.next e.view next d := by
  unfold createResidual at h
  split_ifs at h with hempty
  · cases h
    exact ⟨_, _, rfl, .whole hempty⟩
  · rw [run_bind_eq_ok] at h
    obtain ⟨items, e₁, hitems, h⟩ := h
    rw [run_ofExcept_eq_ok] at hitems
    obtain ⟨hitems, rfl⟩ := hitems
    cases h
    refine ⟨_, _, rfl, .split rfl rfl ?_ hempty⟩
    show items.map FulfillmentItem.line = residual
    rw [Raise.map_eq_map_of_mapM (g := id) (fun e item h => residualItem_line h) hitems, List.map_id]

theorem shipLocked_shipped {env : Deployment} {request : ShipFulfillmentRequest} {now : Time} {id : Nat}
    {f : Fulfillment} {order : Order} {e e' : Exec Db} {u : Unit}
    (h : (shipLocked env request now id f order).run e = (.ok u, e'))
    (found : e.view.fulfillments.get? id = some f) (ofOrder : e.view.orders.get? f.orderId = some order) :
    PackageShipped e.next e.view e'.next e'.view := by
  unfold shipLocked itemsFor at h
  rw [run_bind_eq_ok] at h
  obtain ⟨_, e₁, hunshipped, h⟩ := h
  rw [run_raiseIf_eq_ok, Bool.not_eq_true] at hunshipped
  obtain ⟨hunshipped, rfl⟩ := hunshipped
  rw [run_bind_eq_ok] at h
  obtain ⟨_, e₂, hlines, h⟩ := h
  rw [run_raiseIf_eq_ok] at hlines
  obtain ⟨-, rfl⟩ := hlines
  rw [run_bind, run_query, andThen_ok, run_bind, run_query, andThen_ok, run_bind, run_query, andThen_ok,
    run_bind_eq_ok] at h
  obtain ⟨_, e₃, hbounds, h⟩ := h
  rw [run_ofExcept_eq_ok] at hbounds
  obtain ⟨-, rfl⟩ := hbounds
  rw [run_bind_eq_ok] at h
  obtain ⟨residual, e₄, hresidual, h⟩ := h
  rw [run_ofExcept_eq_ok] at hresidual
  obtain ⟨hresidual, rfl⟩ := hresidual
  obtain ⟨rfl, hcarried⟩ := computeResidual_eq_ok hresidual
  rw [run_bind, run_update, andThen_ok, run_bind_eq_ok] at h
  obtain ⟨_, e₅, hkept, h⟩ := h
  rw [run_raiseIf_eq_ok] at hkept
  obtain ⟨hkept, rfl⟩ := hkept
  rw [run_bind_eq_ok] at h
  obtain ⟨_, e₆, hcreate, h⟩ := h
  obtain ⟨next, d, rfl, hcreated⟩ := createResidual_created hcreate
  cases h
  have horders : d.orders = e.view.orders := by
    cases hcreated with
    | whole _ => rfl
    | split _ _ _ _ => rfl
  have hshipped := @PackageShipped.mk e.next e.view id _ f order request now
    (computeFulfillmentStatus (e.view.orderedQuantities f.orderId) (d.shippedQuantity f.orderId)
      (some order.fulfillmentStatus)) d found ofOrder hunshipped hcarried hkept hcreated
  rw [← horders] at hshipped
  exact hshipped

/-- The locked package, with its order. -/
theorem resolveLockedPackage_found {principal : Principal} {id : Nat} {f : Fulfillment} {order : Order} {e e' : Exec Db}
    (h : (resolveLockedPackage principal id).run e = (.ok (f, order), e')) :
    e' = e ∧ e.view.fulfillments.get? id = some f ∧ e.view.orders.get? f.orderId = some order := by
  unfold resolveLockedPackage getOrderForUpdate at h
  rw [run_bind, run_lock, andThen_ok, run_bind_eq_ok] at h
  obtain ⟨f', e₁, hfound, h⟩ := h
  rw [run_orRaise_eq_ok] at hfound
  obtain ⟨hfound, rfl⟩ := hfound
  rw [run_bind_eq_ok] at h
  obtain ⟨_, e₂, hmerchant, h⟩ := h
  rw [run_raiseIf_eq_ok] at hmerchant
  obtain ⟨-, rfl⟩ := hmerchant
  rw [run_bind, run_lock, andThen_ok, run_bind_eq_ok] at h
  obtain ⟨order', e₃, horder, h⟩ := h
  rw [run_orRaise_eq_ok] at horder
  obtain ⟨horder, rfl⟩ := horder
  cases h
  exact ⟨rfl, hfound, horder⟩

/-- A package that is shipped was locked with its order. -/
theorem shipPackage_locked {env : Deployment} {principal : Principal} {id : Nat} {request : ShipFulfillmentRequest}
    {now : Time} {e e' : Exec Db} {u : Unit} (h : (shipPackage env principal id request now).run e = (.ok u, e')) :
    ∃ f order, e.view.fulfillments.get? id = some f ∧ e.view.orders.get? f.orderId = some order ∧
      (shipLocked env request now id f order).run e = (.ok u, e') := by
  unfold shipPackage at h
  rw [run_bind_eq_ok] at h
  obtain ⟨_, e₁, hcan, h⟩ := h
  rw [run_ofExcept_eq_ok] at hcan
  obtain ⟨-, rfl⟩ := hcan
  rw [run_bind_eq_ok] at h
  obtain ⟨⟨f, order⟩, e₂, hresolve, h⟩ := h
  obtain ⟨rfl, hfound, horder⟩ := resolveLockedPackage_found hresolve
  exact ⟨f, order, hfound, horder, h⟩

theorem shipPackage_shipped {env : Deployment} {principal : Principal} {id : Nat}
    {request : ShipFulfillmentRequest} {now : Time} {e e' : Exec Db} {u : Unit}
    (h : (shipPackage env principal id request now).run e = (.ok u, e')) :
    PackageShipped e.next e.view e'.next e'.view := by
  obtain ⟨f, order, hfound, horder, h⟩ := shipPackage_locked h
  exact shipLocked_shipped h hfound horder

theorem noCommit_createResidual (env : Deployment) (f : Fulfillment) (order : Order) (source : List FulfillmentItem)
    (orderItems : List (Nat × OrderItem)) (residual : List (Nat × Int)) (now : Time) :
    (createResidual env f order source orderItems residual now).NoCommit := by
  unfold createResidual
  grind

theorem noCommit_shipLocked (env : Deployment) (request : ShipFulfillmentRequest) (now : Time) (id : Nat)
    (f : Fulfillment) (order : Order) : (shipLocked env request now id f order).NoCommit := by
  unfold shipLocked
  refine .bind (noCommit_raiseIf _ _) fun _ => .bind (noCommit_raiseIf _ _) fun _ => ?_
  refine .bind (noCommit_itemsFor _) fun _ => .bind (noCommit_query _) fun _ => .bind (noCommit_query _) fun _ => ?_
  refine .bind (noCommit_ofExcept _) fun _ => .bind (noCommit_ofExcept _) fun _ => ?_
  refine .bind (noCommit_update _) fun _ => .bind (noCommit_raiseIf _ _) fun _ => ?_
  exact .bind (noCommit_createResidual _ _ _ _ _ _ _) fun _ => .bind (noCommit_query _) fun _ => noCommit_update _

theorem noCommit_shipPackage (env : Deployment) (principal : Principal) (id : Nat)
    (request : ShipFulfillmentRequest) (now : Time) : (shipPackage env principal id request now).NoCommit := by
  unfold shipPackage resolveLockedPackage
  refine .bind (noCommit_ofExcept _) fun _ => .bind ?_ fun _ => noCommit_shipLocked _ _ _ _ _ _
  refine .bind (noCommit_lock _ _) fun _ => .bind (noCommit_orRaise _ _) fun _ => ?_
  exact .bind (noCommit_raiseIf _ _) fun _ => .bind (noCommit_getOrderForUpdate _) fun _ =>
    .bind (noCommit_orRaise _ _) fun _ => noCommit_pure _

/-- Wherever a shipment is lost, it left nothing, or a whole shipment. -/
theorem ship_leaves (env : Deployment) (principal : Principal) (id : Nat) (carrier : Carrier) (trackingNo : String)
    (lines : List (Nat × Int)) (now : Time) (d : Db) (next : Nat) :
    Leaves (ship env principal id carrier trackingNo lines now) (Exec.start d next) fun next' d' =>
      PackageShipped next d next' d' := by
  unfold ship
  refine leaves_bind (noCommit_ofExcept _) fun request e hrequest _ => ?_
  rw [run_ofExcept_eq_ok] at hrequest
  obtain ⟨-, rfl⟩ := hrequest
  exact leaves_transaction (noCommit_shipPackage _ _ _ _ _) fun _ e hrun => shipPackage_shipped hrun

/-- A shipment that succeeds found its package unshipped. -/
theorem ship_found {env : Deployment} {principal : Principal} {id : Nat} {carrier : Carrier} {trackingNo : String}
    {lines : List (Nat × Int)} {now : Time} {e e' : Exec Db} {u : Unit}
    (h : (ship env principal id carrier trackingNo lines now).run e = (.ok u, e')) :
    ∃ f order, e.view.fulfillments.get? id = some f ∧ e.view.orders.get? f.orderId = some order ∧ f.isShipped = false := by
  unfold ship at h
  rw [run_bind_eq_ok] at h
  obtain ⟨request, e₁, hrequest, h⟩ := h
  rw [run_ofExcept_eq_ok] at hrequest
  obtain ⟨-, rfl⟩ := hrequest
  obtain ⟨e₂, hship, -⟩ := run_transaction_eq_ok.mp h
  obtain ⟨f, order, hfound, horder, hlocked⟩ := shipPackage_locked hship
  unfold shipLocked at hlocked
  rw [run_bind_eq_ok] at hlocked
  obtain ⟨_, e₃, hunshipped, -⟩ := hlocked
  rw [run_raiseIf_eq_ok, Bool.not_eq_true] at hunshipped
  exact ⟨f, order, hfound, horder, hunshipped.1⟩

/-! ## Units are conserved -/

theorem unitsOf_cons (e : Nat × Int) (lines : List (Nat × Int)) (j : Nat) :
    unitsOf (e :: lines) j = (if e.1 = j then e.2 else 0) + unitsOf lines j := by
  unfold unitsOf
  by_cases h : e.1 = j <;> simp [h]

theorem unitsOf_absent {lines : List (Nat × Int)} {j : Nat} (h : j ∉ lines.map Prod.fst) : unitsOf lines j = 0 := by
  have hnone : (lines.filter fun e => decide (e.1 = j)) = [] := by
    refine List.filter_eq_nil_iff.mpr fun e he heq => h ?_
    rw [← of_decide_eq_true heq]
    exact List.mem_map_of_mem he
  rw [unitsOf, hnone]
  rfl

theorem unitsOf_of_mem {lines : List (Nat × Int)} (h : (lines.map Prod.fst).Nodup) {j : Nat} {q : Int}
    (hmem : (j, q) ∈ lines) : unitsOf lines j = q := by
  induction lines with
  | nil => cases hmem
  | cons e lines ih =>
    rw [List.map_cons, List.nodup_cons] at h
    rw [unitsOf_cons]
    rcases List.mem_cons.mp hmem with rfl | hmem
    · rw [if_pos rfl, unitsOf_absent h.1, add_zero]
    · have hne : e.1 ≠ j := by
        intro heq
        rw [heq] at h
        exact h.1 (List.mem_map_of_mem (f := Prod.fst) hmem)
      rw [if_neg hne, zero_add, ih h.2 hmem]

theorem unitsOf_nonneg {lines : List (Nat × Int)} (h : ∀ e ∈ lines, 0 ≤ e.2) (j : Nat) : 0 ≤ unitsOf lines j := by
  refine List.sum_nonneg fun q hq => ?_
  obtain ⟨e, he, rfl⟩ := List.mem_map.mp hq
  exact h e (List.mem_of_mem_filter he)

/-- What is shipped and what is held back are the whole package. -/
theorem unitsOf_split {requested : Dict Nat Int} {lines : List (Nat × Int)}
    (h : ∀ e ∈ lines, (requested.get? e.1).getD 0 ≤ e.2) (j : Nat) :
    unitsOf (lines.filterMap fun e => (requested.get? e.1).map fun q => (e.1, q)) j +
      unitsOf (lines.filterMap fun e =>
        let remaining := e.2 - (requested.get? e.1).getD 0
        if 0 < remaining then some (e.1, remaining) else none) j = unitsOf lines j := by
  induction lines with
  | nil => rfl
  | cons e lines ih =>
    have ih := ih fun e' he' => h e' (List.mem_cons_of_mem _ he')
    have hle := h e List.mem_cons_self
    rw [List.filterMap_cons, List.filterMap_cons, unitsOf_cons]
    dsimp only at ih ⊢
    cases hr : requested.get? e.1 with
    | none =>
      simp only [hr, Option.map_none, Option.getD_none, sub_zero] at hle ⊢
      by_cases hpos : 0 < e.2
      · rw [if_pos hpos]
        dsimp only
        rw [unitsOf_cons]
        omega
      · rw [if_neg hpos]
        dsimp only
        have hzero : e.2 = 0 := by omega
        rw [hzero, ite_self]
        omega
    | some q =>
      simp only [hr, Option.map_some, Option.getD_some] at hle ⊢
      rw [unitsOf_cons]
      by_cases hpos : 0 < e.2 - q
      · rw [if_pos hpos]
        dsimp only
        rw [unitsOf_cons]
        split_ifs <;> omega
      · rw [if_neg hpos]
        dsimp only
        have heq : q = e.2 := by omega
        rw [heq]
        omega

/-! ## Packages that hold something -/

/-- A package has lines, one for an order line, in positive quantities. -/
structure Fulfillment.Packed (f : Fulfillment) : Prop where
  nonempty : f.items ≠ []
  positive : ∀ item ∈ f.items, 0 < item.quantity
  distinct : (f.items.map FulfillmentItem.orderItemId).Nodup

theorem line_fst (items : List FulfillmentItem) :
    (items.map FulfillmentItem.line).map Prod.fst = items.map FulfillmentItem.orderItemId := by
  rw [List.map_map]
  rfl

/-- A package whose lines are given. -/
theorem packed_of_lines {f : Fulfillment} {lines : List (Nat × Int)} (h : f.items.map FulfillmentItem.line = lines)
    (nonempty : lines ≠ []) (positive : ∀ e ∈ lines, 0 < e.2) (distinct : (lines.map Prod.fst).Nodup) : f.Packed where
  nonempty hnil := nonempty (by rw [← h, hnil]; rfl)
  positive item hitem := positive item.line (by rw [← h]; exact List.mem_map_of_mem hitem)
  distinct := by
    rw [← line_fst, h]
    exact distinct

theorem Fulfillment.Packed.packageLines {f : Fulfillment} (h : f.Packed) :
    f.packageLines.entries = f.items.map FulfillmentItem.line := by
  refine Dict.entries_ofList ?_
  rw [line_fst]
  exact h.distinct

/-- What is left of a package, line by line. -/
theorem Fulfillment.Packed.residual {f : Fulfillment} (h : f.Packed) (requested : Dict Nat Int) :
    residualOf f.packageLines requested = (f.items.map FulfillmentItem.line).filterMap fun e =>
      let remaining := e.2 - (requested.get? e.1).getD 0
      if 0 < remaining then some (e.1, remaining) else none := by
  unfold residualOf
  rw [h.packageLines]

theorem Fulfillment.Packed.units_nonneg {f : Fulfillment} (h : f.Packed) (j : Nat) : 0 ≤ f.units j := by
  refine unitsOf_nonneg (fun e he => ?_) j
  obtain ⟨item, hitem, rfl⟩ := List.mem_map.mp he
  exact (h.positive item hitem).le

/-- Some line of a package holds a unit. -/
theorem Fulfillment.Packed.units_pos {f : Fulfillment} (h : f.Packed) : ∃ j, 0 < f.units j := by
  obtain ⟨item, hitem⟩ := List.exists_mem_of_ne_nil _ h.nonempty
  refine ⟨item.orderItemId, ?_⟩
  have hdistinct := h.distinct
  rw [← line_fst] at hdistinct
  have hunits := unitsOf_of_mem hdistinct (j := item.orderItemId) (q := item.quantity)
    (List.mem_map_of_mem (f := FulfillmentItem.line) hitem)
  rw [Fulfillment.units, hunits]
  exact h.positive item hitem

theorem requested_positive (request : ShipFulfillmentRequest) : ∀ e ∈ request.requested.entries, 0 < e.2 := by
  intro e he
  obtain ⟨line, -, rfl⟩ := List.mem_map.mp (Dict.mem_of_mem_ofList he)
  exact line.positive

/-- The lines a shipped package keeps. -/
theorem keptItems_lines (f : Fulfillment) (requested : Dict Nat Int) :
    (f.keptItems requested).map FulfillmentItem.line =
      (f.items.map FulfillmentItem.line).filterMap fun e => (requested.get? e.1).map fun q => (e.1, q) := by
  unfold Fulfillment.keptItems
  rw [List.map_filterMap, List.filterMap_map]
  refine List.filterMap_congr fun item _ => ?_
  rw [Option.map_map]
  rfl

/-- What a filter keeps of distinct lines is distinct. -/
theorem filterMap_distinct {lines : List (Nat × Int)} {g : Nat × Int → Option (Nat × Int)}
    (hg : ∀ e e', g e = some e' → e'.1 = e.1) (h : (lines.map Prod.fst).Nodup) :
    ((lines.filterMap g).map Prod.fst).Nodup := by
  have hsub : ((lines.filterMap g).map Prod.fst).Sublist (lines.map Prod.fst) := by
    clear h
    induction lines with
    | nil => exact List.Sublist.refl _
    | cons e lines ih =>
      rw [List.filterMap_cons]
      cases hge : g e with
      | none => exact ih.cons _
      | some e' =>
        rw [List.map_cons, List.map_cons, hg e e' hge]
        exact ih.cons_cons _
  exact h.sublist hsub

/-- A shipment leaves two packages that hold something, with the units of the one it found. -/
theorem Fulfillment.Packed.shipped {f : Fulfillment} (h : f.Packed) {request : ShipFulfillmentRequest} (now : Time)
    (carried : ∀ e ∈ request.requested.entries, ∃ q, f.packageLines.get? e.1 = some q ∧ e.2 ≤ q)
    (kept : f.keptItems request.requested ≠ []) :
    (f.shippedWith request now f).Packed ∧
      (∀ p : Fulfillment, p.items.map FulfillmentItem.line = residualOf f.packageLines request.requested →
        residualOf f.packageLines request.requested ≠ [] → p.Packed) ∧
      ∀ j, (f.shippedWith request now f).units j + unitsOf (residualOf f.packageLines request.requested) j =
        f.units j := by
  have hdistinct : ((f.items.map FulfillmentItem.line).map Prod.fst).Nodup := by
    rw [line_fst]
    exact h.distinct
  have hkept := keptItems_lines f request.requested
  have hlines := h.residual request.requested
  refine ⟨packed_of_lines hkept ?_ ?_ ?_, fun p hp hheld => packed_of_lines hp hheld ?_ ?_, fun j => ?_⟩
  · rw [← hkept]
    simpa using kept
  · intro e he
    obtain ⟨line, -, hline⟩ := List.mem_filterMap.mp he
    obtain ⟨q, hq, rfl⟩ := Option.map_eq_some_iff.mp hline
    exact requested_positive request _ (Dict.get?_eq_some.mp hq)
  · refine filterMap_distinct (fun e e' he => ?_) hdistinct
    obtain ⟨q, -, rfl⟩ := Option.map_eq_some_iff.mp he
    rfl
  · intro e he
    rw [hlines] at he
    obtain ⟨line, -, hline⟩ := List.mem_filterMap.mp he
    dsimp only at hline
    split_ifs at hline with hpos
    cases hline
    exact hpos
  · rw [hlines]
    refine filterMap_distinct (fun e e' he => ?_) hdistinct
    dsimp only at he
    split_ifs at he
    cases he
    rfl
  · show unitsOf ((f.keptItems request.requested).map FulfillmentItem.line) j + _ = _
    rw [hkept, hlines]
    refine unitsOf_split (fun e he => ?_) j
    cases hr : request.requested.get? e.1 with
    | none =>
      obtain ⟨item, hitem, rfl⟩ := List.mem_map.mp he
      exact (h.positive item hitem).le
    | some q =>
      -- the package carries the line once, in at least the requested quantity
      obtain ⟨available, havailable, hle⟩ := carried _ (Dict.get?_eq_some.mp hr)
      have hcarries : f.packageLines.get? e.1 = some e.2 := by
        rw [Dict.get?_eq_some, h.packageLines]
        exact he
      rw [hcarries] at havailable
      cases havailable
      exact hle

end NovaCommerce
