import NovaCommerce.Schema

/-!
# Stock operations

`reserve`, `release`, `deduct` and `returnIn` are one operation, `moveStock`, with the movement type,
the refusal and the change of each. A repeated idempotency key replays; otherwise the inventory row
is locked, checked and changed, and one ledger movement is appended.

* `Moved` : what a successful `moveStock` did to the database (`moveStock_moved`);
* `moveStock_applied` : when it goes through.
-/

namespace NovaCommerce

open Sql

/-! ## The inventory row -/

/-- What a new order may actually take. -/
def Inventory.sellableQty (row : Inventory) : Int := max (row.availableQty - row.safetyStock) 0

def Inventory.canReserve (row : Inventory) (quantity : Int) : Bool :=
  decide (0 < quantity ∧ quantity ≤ row.sellableQty)

/-- `InventoryMovement.build`: the deltas are derived from the row before and after. -/
def InventoryMovement.build (before after : Inventory) (movementType : MovementType)
    (idempotencyKey : String) (referenceType : ReferenceType) (referenceId : Option Nat)
    (operatorType : OperatorType) (operatorId : Option Nat) (reason : Option String) :
    InventoryMovement where
  warehouseId := before.warehouseId
  skuId := before.skuId
  movementType := movementType
  deltaAvailable := after.availableQty - before.availableQty
  deltaLocked := after.lockedQty - before.lockedQty
  beforeAvailable := before.availableQty
  afterAvailable := after.availableQty
  beforeLocked := before.lockedQty
  afterLocked := after.lockedQty
  referenceType := referenceType
  referenceId := referenceId
  operatorType := operatorType
  operatorId := operatorId
  idempotencyKey := idempotencyKey
  reason := reason

/-- The CHECK constraints of `inventory_movements`; the after values are those of `inventories`. -/
def InventoryMovement.Checked (m : InventoryMovement) : Prop :=
  0 ≤ m.beforeAvailable ∧ 0 ≤ m.beforeLocked ∧ 0 ≤ m.afterAvailable ∧ 0 ≤ m.afterLocked

instance InventoryMovement.decidableChecked (m : InventoryMovement) : Decidable m.Checked := by
  unfold InventoryMovement.Checked
  infer_instance

/-! ## One stock operation -/

/-- What the caller of a stock operation asks for. -/
structure StockRequest where
  skuId : Nat
  quantity : Int
  idempotencyKey : String
  warehouseId : Option Nat := none
  referenceType : ReferenceType := .order
  referenceId : Option Nat := none
  operatorType : OperatorType := .system
  operatorId : Option Nat := none
  reason : Option String := none

/-- What distinguishes the stock operations. -/
structure StockOperation where
  movementType : MovementType
  invalid : StockRequest → Option AppError
  missing : StockRequest → Nat → AppError
  refusal : Inventory → StockRequest → Option AppError
  change : Inventory → Int → Inventory

/-- What a stock operation did. -/
structure ReservationResult where
  skuId : Nat
  quantity : Int
  availableAfter : Int
  lockedAfter : Int
  replayed : Bool := false

/-- The ledger movement recorded under a key. -/
def Db.movementAt (d : Db) (key : String) : Option InventoryMovement :=
  d.movements.find? (fun m => m.idempotencyKey = key)

/-- The warehouse V1 operates out of: the active default, or the first active one. -/
def Db.defaultWarehouse (d : Db) : Option Nat :=
  match d.warehouses.find? (fun w => w.active && w.isDefault) with
  | some (id, _) => some id
  | none => (d.warehouses.find? (fun w => w.active)).map Prod.fst

/-- The warehouse a request names, or the default one. -/
def Db.warehouseFor (d : Db) (warehouseId : Option Nat) : Option Nat :=
  match warehouseId with
  | some id => (d.warehouses.get? id).map (fun _ => id)
  | none => d.defaultWarehouse

def resolveWarehouse (warehouseId : Option Nat) : Tx Nat := do
  orRaise (← query fun d => d.warehouseFor warehouseId)
    { kind := .warehouseNotFound, message := "no active warehouse is configured" }

/-- The inventory row of a position. -/
def Db.inventoryAt (d : Db) (warehouseId skuId : Nat) : Option (Nat × Inventory) :=
  d.inventories.find? (fun row => row.warehouseId = warehouseId ∧ row.skuId = skuId)

/-- `SELECT ... FOR UPDATE` of one position. -/
def lockForUpdate (warehouseId skuId : Nat) : Tx (Option (Nat × Inventory)) :=
  lock (fun d => ((d.inventoryAt warehouseId skuId).map (fun e => RowLock.inventory e.1)).toList)
    (fun d => d.inventoryAt warehouseId skuId)

/-- Append one movement; the unique key refuses a second one. -/
def appendMovement (movement : InventoryMovement) : Tx Unit := do
  let taken ← lock (fun _ => [RowLock.movementKey movement.idempotencyKey])
    (fun d => (d.movementAt movement.idempotencyKey).isSome)
  if taken then
    rollbackNow
    raise { kind := .inventoryVersionConflict
            message := "this inventory operation was already applied (duplicate idempotency key)"
            context := [("idempotency_key", .str movement.idempotencyKey)] }
  raiseIf (¬ movement.Checked)
    { kind := .operational, message := "Check constraint 'inventory_movements' is violated." }
  update fun d => { d with movements := d.movements ++ [movement] }

/-- The result of a repeated operation: the position as it is now. -/
def replayedResult (request : StockRequest) (movement : InventoryMovement) (row : Option (Nat × Inventory)) :
    ReservationResult where
  skuId := request.skuId
  quantity := request.quantity
  availableAfter := (row.map (fun e => e.2.availableQty)).getD movement.afterAvailable
  lockedAfter := (row.map (fun e => e.2.lockedQty)).getD movement.afterLocked
  replayed := true

/-- The movement an operation appends. -/
def StockOperation.movement (op : StockOperation) (request : StockRequest) (row : Inventory) :
    InventoryMovement :=
  InventoryMovement.build row (op.change row request.quantity) op.movementType request.idempotencyKey
    request.referenceType request.referenceId request.operatorType request.operatorId request.reason

/-- The columns an operation writes, from the row the session holds. -/
def StockOperation.write (op : StockOperation) (request : StockRequest) (held : Inventory) (now : Time)
    (row : Inventory) : Inventory :=
  let after := op.change held request.quantity
  { row with
    availableQty := after.availableQty
    lockedQty := after.lockedQty
    totalInQty := after.totalInQty
    totalOutQty := after.totalOutQty
    version := held.version + 1
    lastMovementAt := some now }

/-- A stock operation on a locked row. -/
def moveLocked (op : StockOperation) (request : StockRequest) (now : Time) (id : Nat) (row : Inventory) :
    Tx ReservationResult := do
  if let some refusal := op.refusal row request then
    raise refusal
  appendMovement (op.movement request row)
  update fun d => { d with inventories := d.inventories.modify id (op.write request row now) }
  let after := op.change row request.quantity
  return {
    skuId := request.skuId
    quantity := request.quantity
    availableAfter := after.availableQty
    lockedAfter := after.lockedQty }

/-- A stock operation whose key was not used before. -/
def moveFresh (op : StockOperation) (request : StockRequest) (now : Time) : Tx ReservationResult := do
  let warehouse ← resolveWarehouse request.warehouseId
  match ← lockForUpdate warehouse request.skuId with
  | none => raise (op.missing request warehouse)
  | some (id, row) => moveLocked op request now id row

/-- Run one stock operation. -/
def moveStock (op : StockOperation) (request : StockRequest) (now : Time) : Tx ReservationResult := do
  if let some invalid := op.invalid request then
    raise invalid
  match ← query fun d => d.movementAt request.idempotencyKey with
  | some movement =>
    let row ← query fun d => d.inventoryAt movement.warehouseId request.skuId
    return replayedResult request movement row
  | none => moveFresh op request now

/-! ## The four operations -/

def quantityInvalid (request : StockRequest) : Option AppError :=
  if request.quantity ≤ 0 then some { kind := .validation, message := "quantity must be positive" }
  else none

def noStockRecord (request : StockRequest) (_ : Nat) : AppError :=
  { kind := .inventoryNotFound, message := s!"SKU {request.skuId} has no stock record" }

/-- Releasing or deducting more than is locked is refused. -/
def lockedRefusal (verb : String) (row : Inventory) (request : StockRequest) : Option AppError :=
  if row.lockedQty < request.quantity then
    some { kind := .validation
           message := s!"cannot {verb} {request.quantity} of SKU {request.skuId}: only {row.lockedQty} is locked"
           context := [("sku_id", .int request.skuId), ("locked", .int row.lockedQty),
             ("requested", .int request.quantity)] }
  else none

def reserveOperation : StockOperation where
  movementType := .orderLock
  invalid := fun request =>
    match quantityInvalid request with
    | some e => some e
    | none =>
      if request.idempotencyKey = "" then
        some { kind := .validation, message := "an idempotency key is required for every stock movement" }
      else none
  missing := fun request warehouse =>
    { kind := .inventoryNotFound
      message := s!"SKU {request.skuId} has no stock record in warehouse {warehouse}"
      context := [("sku_id", .int request.skuId), ("warehouse_id", .int warehouse)] }
  refusal := fun row request =>
    if row.canReserve request.quantity then none
    else some { kind := .insufficientStock
                message := s!"only {row.sellableQty} of SKU {request.skuId} can be reserved"
                context := [("sku_id", .int request.skuId), ("requested", .int request.quantity),
                  ("available", .int row.availableQty), ("locked", .int row.lockedQty),
                  ("safety_stock", .int row.safetyStock)] }
  change := fun row quantity =>
    { row with availableQty := row.availableQty - quantity, lockedQty := row.lockedQty + quantity }

def releaseOperation : StockOperation where
  movementType := .orderRelease
  invalid := quantityInvalid
  missing := noStockRecord
  refusal := lockedRefusal "release"
  change := fun row quantity =>
    { row with availableQty := row.availableQty + quantity, lockedQty := row.lockedQty - quantity }

def deductOperation : StockOperation where
  movementType := .orderDeduct
  invalid := quantityInvalid
  missing := noStockRecord
  refusal := lockedRefusal "deduct"
  change := fun row quantity =>
    { row with lockedQty := row.lockedQty - quantity, totalOutQty := row.totalOutQty + quantity }

def returnInOperation : StockOperation where
  movementType := .returnIn
  invalid := quantityInvalid
  missing := noStockRecord
  refusal := fun _ _ => none
  change := fun row quantity =>
    { row with availableQty := row.availableQty + quantity, totalInQty := row.totalInQty + quantity }

/-- Move stock from available into locked. -/
def reserve (request : StockRequest) (now : Time) : Tx ReservationResult :=
  moveStock reserveOperation request now

/-- Return reserved stock to available. -/
def release (request : StockRequest) (now : Time) : Tx ReservationResult :=
  moveStock releaseOperation request now

/-- Consume locked stock for good. -/
def deduct (request : StockRequest) (now : Time) : Tx ReservationResult :=
  moveStock deductOperation request now

/-- A returned unit re-enters sellable stock. -/
def returnIn (request : StockRequest) (now : Time) : Tx ReservationResult :=
  moveStock returnInOperation request now

/-! ## What a stock operation does -/

/-- The database after an operation on the row `id`. -/
def Db.moved (d : Db) (op : StockOperation) (request : StockRequest) (now : Time) (id : Nat)
    (row : Inventory) : Db :=
  { d with
    movements := d.movements ++ [op.movement request row]
    inventories := d.inventories.modify id (op.write request row now) }

/-- What a successful operation did: nothing for a used key, one movement for a new one. -/
inductive Moved (op : StockOperation) (now : Time) (request : StockRequest) (d : Db) : Db → Prop where
  | replayed {movement : InventoryMovement}
      (used : d.movementAt request.idempotencyKey = some movement) : Moved op now request d d
  | applied {warehouse id : Nat} {row : Inventory}
      (unused : d.movementAt request.idempotencyKey = none)
      (warehouseFor : d.warehouseFor request.warehouseId = some warehouse)
      (inventoryAt : d.inventoryAt warehouse request.skuId = some (id, row))
      (accepted : op.refusal row request = none)
      (checked : (op.movement request row).Checked) :
      Moved op now request d (d.moved op request now id row)

theorem movement_idempotencyKey (op : StockOperation) (request : StockRequest) (row : Inventory) :
    (op.movement request row).idempotencyKey = request.idempotencyKey := rfl

theorem appendMovement_eq_ok {movement : InventoryMovement} {e e' : Exec Db} {u : Unit} :
    (appendMovement movement).run e = (.ok u, e') ↔
      e.view.movementAt movement.idempotencyKey = none ∧ movement.Checked ∧
        e' = { e with view := { e.view with movements := e.view.movements ++ [movement] } } := by
  unfold appendMovement
  simp only [run_bind_eq_ok, run_lock, Prod.mk.injEq, Except.ok.injEq]
  constructor
  · rintro ⟨taken, e₁, ⟨rfl, rfl⟩, h⟩
    cases hk : e.view.movementAt movement.idempotencyKey with
    | some m => simp [hk] at h
    | none =>
      simp only [hk, Option.isSome_none, Bool.false_eq_true, if_false] at h
      simp only [run_bind_eq_ok, run_raiseIf_eq_ok, not_not, run_update, Prod.mk.injEq, true_and] at h
      obtain ⟨_, _, ⟨hc, rfl⟩, he⟩ := h
      exact ⟨rfl, hc, he.symm⟩
  · rintro ⟨hk, hc, rfl⟩
    refine ⟨_, _, ⟨rfl, rfl⟩, ?_⟩
    simp [hk, run_raiseIf, hc]

theorem moveLocked_eq_ok {op : StockOperation} {request : StockRequest} {now : Time} {id : Nat}
    {row : Inventory} {e e' : Exec Db} {result : ReservationResult}
    (h : (moveLocked op request now id row).run e = (.ok result, e')) :
    op.refusal row request = none ∧ e.view.movementAt request.idempotencyKey = none ∧
      (op.movement request row).Checked ∧ e' = { e with view := e.view.moved op request now id row } := by
  unfold moveLocked at h
  cases hr : op.refusal row request with
  | some refusal => simp [hr] at h
  | none =>
    simp only [hr] at h
    rw [run_bind_eq_ok] at h
    obtain ⟨_, e₁, happend, h⟩ := h
    rw [appendMovement_eq_ok] at happend
    obtain ⟨hunused, hchecked, rfl⟩ := happend
    rw [run_bind_eq_ok] at h
    obtain ⟨_, e₂, hupdate, h⟩ := h
    rw [run_update] at hupdate
    cases hupdate
    rw [run_pure] at h
    cases h
    exact ⟨rfl, hunused, hchecked, rfl⟩

theorem moveFresh_eq_ok {op : StockOperation} {request : StockRequest} {now : Time} {e e' : Exec Db}
    {result : ReservationResult} (h : (moveFresh op request now).run e = (.ok result, e')) :
    ∃ d, e' = { e with view := d } ∧ Moved op now request e.view d := by
  unfold moveFresh resolveWarehouse lockForUpdate at h
  rw [run_bind_eq_ok] at h
  obtain ⟨warehouse, e₁, hwarehouse, h⟩ := h
  rw [run_bind_eq_ok] at hwarehouse
  obtain ⟨found, e₂, hquery, hwarehouse⟩ := hwarehouse
  rw [run_query] at hquery
  cases hquery
  rw [run_orRaise_eq_ok] at hwarehouse
  obtain ⟨hwarehouse, rfl⟩ := hwarehouse
  rw [run_bind, run_lock, andThen_ok] at h
  cases hat : e.view.inventoryAt warehouse request.skuId with
  | none => simp [hat] at h
  | some entry =>
    obtain ⟨id, row⟩ := entry
    simp only [hat] at h
    obtain ⟨haccepted, hunused, hchecked, rfl⟩ := moveLocked_eq_ok h
    exact ⟨_, rfl, .applied hunused hwarehouse hat haccepted hchecked⟩

/-- A stock operation that ends in a value did what `Moved` says, and committed nothing. -/
theorem moveStock_moved {op : StockOperation} {request : StockRequest} {now : Time} {e e' : Exec Db}
    {result : ReservationResult} (h : (moveStock op request now).run e = (.ok result, e')) :
    ∃ d, e' = { e with view := d } ∧ Moved op now request e.view d := by
  unfold moveStock at h
  cases hi : op.invalid request with
  | some invalid => simp [hi] at h
  | none =>
    simp only [hi] at h
    rw [run_bind, run_query, andThen_ok] at h
    cases hm : e.view.movementAt request.idempotencyKey with
    | some movement =>
      simp only [hm] at h
      rw [run_bind, run_query, andThen_ok, run_pure] at h
      cases h
      exact ⟨_, rfl, .replayed hm⟩
    | none =>
      simp only [hm] at h
      exact moveFresh_eq_ok h

/-- A new key on a row that admits the operation goes through. -/
theorem moveStock_applied {op : StockOperation} {request : StockRequest} {now : Time} {e : Exec Db}
    {warehouse id : Nat} {row : Inventory} (hvalid : op.invalid request = none)
    (hunused : e.view.movementAt request.idempotencyKey = none)
    (hwarehouse : e.view.warehouseFor request.warehouseId = some warehouse)
    (hat : e.view.inventoryAt warehouse request.skuId = some (id, row))
    (haccepted : op.refusal row request = none) (hchecked : (op.movement request row).Checked) :
    ∃ result, (moveStock op request now).run e =
      (.ok result, { e with view := e.view.moved op request now id row }) := by
  refine ⟨⟨request.skuId, request.quantity, (op.change row request.quantity).availableQty,
    (op.change row request.quantity).lockedQty, false⟩, ?_⟩
  unfold moveStock moveFresh resolveWarehouse lockForUpdate moveLocked appendMovement
  simp only [hvalid, hunused, hwarehouse, hat, haccepted, run_bind, run_query, andThen_ok,
    run_orRaise_some rfl, run_lock, movement_idempotencyKey, Option.isSome_none, Bool.false_eq_true,
    if_false, run_raiseIf_neg (not_not.mpr hchecked), run_update, run_pure]
  rfl

@[grind .] theorem noCommit_appendMovement (movement : InventoryMovement) :
    (appendMovement movement).NoCommit := by
  unfold appendMovement
  grind

@[grind .] theorem noCommit_moveLocked (op : StockOperation) (request : StockRequest) (now : Time)
    (id : Nat) (row : Inventory) : (moveLocked op request now id row).NoCommit := by
  unfold moveLocked
  grind

@[grind .] theorem noCommit_moveFresh (op : StockOperation) (request : StockRequest) (now : Time) :
    (moveFresh op request now).NoCommit := by
  have hresolve : (resolveWarehouse request.warehouseId).NoCommit := by
    unfold resolveWarehouse
    grind
  unfold moveFresh lockForUpdate
  grind

@[grind .] theorem noCommit_moveStock (op : StockOperation) (request : StockRequest) (now : Time) :
    (moveStock op request now).NoCommit := by
  unfold moveStock
  grind

end NovaCommerce
