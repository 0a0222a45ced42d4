import NovaCommerce.Inventory.Moves

/-!
# The stock ledger

* `adjust` : a console adjustment, under the row's version;
* `verifyLedger` : the reconciliation of one position with its movements;
* `StockCall.Did`, `Posted` : what a stock call does when it goes through (`StockCall.runOn_eq`);
* `Explained` : the movements of a position account for its row. Every call keeps it, so it holds after any
  list of calls (`runCalls_explained`).
-/

namespace NovaCommerce

open Sql

/-! ## Adjustments -/

/-- What a console adjustment asks for. -/
structure AdjustRequest where
  skuId : Nat
  version : Nat
  deltaAvailable : Int
  idempotencyKey : String
  warehouseId : Option Nat := none
  reason : Option String := none
  movementType : MovementType := .manualAdjust
  operatorType : OperatorType := .staff
  operatorId : Option Nat := none

def skuNotStocked (skuId : Nat) : AppError :=
  { kind := .inventoryNotFound, message := s!"SKU {skuId} has no stock record" }

/-- The row after an adjustment, from the row the session holds. -/
def Inventory.adjusted (held : Inventory) (delta : Int) (now : Time) (row : Inventory) : Inventory :=
  { row with
    availableQty := held.availableQty + delta
    version := held.version + 1
    totalInQty := if 0 < delta then held.totalInQty + delta else held.totalInQty
    lastMovementAt := some now }

def AdjustRequest.movement (request : AdjustRequest) (row : Inventory) : InventoryMovement :=
  InventoryMovement.build row { row with availableQty := row.availableQty + request.deltaAvailable }
    request.movementType request.idempotencyKey .manual none request.operatorType request.operatorId
    request.reason

/-- An adjustment of a locked row. -/
def adjustLocked (request : AdjustRequest) (now : Time) (id : Nat) (row : Inventory) : Tx Inventory := do
  raiseIf (row.version ≠ request.version)
    { kind := .inventoryVersionConflict
      message := "inventory changed since it was read; refresh and retry"
      context := [("sku_id", .int request.skuId), ("expected_version", .int request.version),
        ("actual_version", .int row.version), ("current_available", .int row.availableQty),
        ("current_locked", .int row.lockedQty)] }
  raiseIf (row.availableQty + request.deltaAvailable < 0)
    { kind := .validation
      message := s!"adjustment would set available stock to {row.availableQty + request.deltaAvailable}"
      context := [("sku_id", .int request.skuId), ("available", .int row.availableQty)] }
  appendMovement (request.movement row)
  update fun d => { d with
    inventories := d.inventories.modify id (row.adjusted request.deltaAvailable now) }
  return row.adjusted request.deltaAvailable now row

/-- Adjust the available stock of a position under the optimistic lock. -/
def adjust (request : AdjustRequest) (now : Time) : Tx Inventory := do
  raiseIf (request.deltaAvailable = 0) { kind := .validation, message := "an adjustment must change something" }
  match ← query fun d => d.movementAt request.idempotencyKey with
  | some movement =>
    match ← query fun d => d.inventoryAt movement.warehouseId request.skuId with
    | none => raise (skuNotStocked request.skuId)
    | some (_, row) => return row
  | none =>
    let warehouse ← resolveWarehouse request.warehouseId
    match ← lockForUpdate warehouse request.skuId with
    | none => raise (skuNotStocked request.skuId)
    | some (id, row) => adjustLocked request now id row

/-! ## Reconciliation -/

/-- The movements of a position, oldest first. -/
def Db.movementsOf (d : Db) (warehouseId skuId : Nat) : List InventoryMovement :=
  d.movements.filter fun m => decide (m.warehouseId = warehouseId ∧ m.skuId = skuId)

/-- `movement_signature`: the summed deltas of a position. -/
def Db.movementSignature (d : Db) (warehouseId skuId : Nat) : Int × Int :=
  (((d.movementsOf warehouseId skuId).map InventoryMovement.deltaAvailable).sum,
    ((d.movementsOf warehouseId skuId).map InventoryMovement.deltaLocked).sum)

/-- What `verifyLedger` compared. -/
structure LedgerDetail where
  ledgerAvailable : Int
  rowAvailable : Int
  ledgerLocked : Int
  rowLocked : Int

/-- Whether the movements explain the row of a position. -/
def verifyLedger (warehouseId skuId : Nat) : Tx (Bool × LedgerDetail) := do
  match ← query fun d => d.inventoryAt warehouseId skuId with
  | none => raise (skuNotStocked skuId)
  | some (_, row) =>
    let (netAvailable, netLocked) ← query fun d => d.movementSignature warehouseId skuId
    return (decide (netAvailable = row.availableQty ∧ netLocked = row.lockedQty), {
      ledgerAvailable := netAvailable
      rowAvailable := row.availableQty
      ledgerLocked := netLocked
      rowLocked := row.lockedQty })

/-! ## Stock calls -/

/-- A call of the stock service. -/
inductive StockCall where
  | reserve (request : StockRequest)
  | release (request : StockRequest)
  | deduct (request : StockRequest)
  | returnIn (request : StockRequest)
  | adjust (request : AdjustRequest)

def StockCall.body (now : Time) : StockCall → Tx Unit
  | .reserve request => do let _ ← NovaCommerce.reserve request now
  | .release request => do let _ ← NovaCommerce.release request now
  | .deduct request => do let _ ← NovaCommerce.deduct request now
  | .returnIn request => do let _ ← NovaCommerce.returnIn request now
  | .adjust request => do let _ ← NovaCommerce.adjust request now

/-- One call in a transaction of its own. -/
def StockCall.runOn (d : Db) (call : StockCall) (now : Time) : Except AppError Unit × Db :=
  let r := (transaction (call.body now)).run (Exec.start d 0)
  (r.1, r.2.committed)

/-- The database after a list of calls; a refused call is rolled back. -/
def runCalls : List (StockCall × Time) → Db → Db
  | [], d => d
  | (call, now) :: calls, d => runCalls calls (call.runOn d now).2

/-! ## What a call does -/

/-- The database after an adjustment of the row `id`. -/
def Db.adjusted (d : Db) (request : AdjustRequest) (now : Time) (id : Nat) (row : Inventory) : Db :=
  { d with
    movements := d.movements ++ [request.movement row]
    inventories := d.inventories.modify id (row.adjusted request.deltaAvailable now) }

/-- What an adjustment that went through did: nothing for a used key, one movement for a new one. -/
inductive Adjusted (now : Time) (request : AdjustRequest) (d : Db) : Db → Prop where
  | replayed {movement : InventoryMovement}
      (used : d.movementAt request.idempotencyKey = some movement) : Adjusted now request d d
  | applied {warehouse id : Nat} {row : Inventory}
      (unused : d.movementAt request.idempotencyKey = none)
      (warehouseFor : d.warehouseFor request.warehouseId = some warehouse)
      (inventoryAt : d.inventoryAt warehouse request.skuId = some (id, row))
      (version : row.version = request.version)
      (resulting : 0 ≤ row.availableQty + request.deltaAvailable)
      (checked : (request.movement row).Checked) : Adjusted now request d (d.adjusted request now id row)

/-- What a call that went through did. -/
def StockCall.Did (now : Time) (d d' : Db) : StockCall → Prop
  | .reserve request => Moved reserveOperation now request d d'
  | .release request => Moved releaseOperation now request d d'
  | .deduct request => Moved deductOperation now request d d'
  | .returnIn request => Moved returnInOperation now request d d'
  | .adjust request => Adjusted now request d d'

/-- What every call that went through did: nothing for a used key, or one movement that takes the row from its
quantities before to those after. -/
inductive Posted (d : Db) : Db → Prop where
  | replayed : Posted d d
  | applied {id : Nat} {row : Inventory} {m : InventoryMovement} (write : Inventory → Inventory)
      (unused : d.movementAt m.idempotencyKey = none)
      (position : d.inventoryAt m.warehouseId m.skuId = some (id, row))
      (deltas : m.deltaAvailable = m.afterAvailable - m.beforeAvailable ∧
        m.deltaLocked = m.afterLocked - m.beforeLocked)
      (before : m.beforeAvailable = row.availableQty ∧ m.beforeLocked = row.lockedQty)
      (after : m.afterAvailable = (write row).availableQty ∧ m.afterLocked = (write row).lockedQty)
      (kept : ∀ r, (write r).warehouseId = r.warehouseId ∧ (write r).skuId = r.skuId)
      (checked : m.Checked) :
      Posted d { d with
        movements := d.movements ++ [m]
        inventories := d.inventories.modify id write }

theorem Moved.posted {op : StockOperation} {now : Time} {request : StockRequest} {d d' : Db}
    (h : Moved op now request d d') : Posted d d' := by
  cases h with
  | replayed _ => exact .replayed
  | @applied warehouse id row unused hfor hat accepted checked =>
    obtain ⟨-, hw, hs⟩ := inventoryAt_some hat
    rw [← hw, ← hs] at hat
    exact .applied (m := op.movement request row) (op.write request row now) unused hat ⟨rfl, rfl⟩
      ⟨rfl, rfl⟩ ⟨rfl, rfl⟩ (fun _ => ⟨rfl, rfl⟩) checked

theorem Adjusted.posted {now : Time} {request : AdjustRequest} {d d' : Db} (h : Adjusted now request d d') :
    Posted d d' := by
  cases h with
  | replayed _ => exact .replayed
  | @applied warehouse id row unused hfor hat _ _ checked =>
    obtain ⟨-, hw, hs⟩ := inventoryAt_some hat
    rw [← hw, ← hs] at hat
    exact .applied (m := request.movement row) (row.adjusted request.deltaAvailable now) unused hat ⟨rfl, rfl⟩
      ⟨rfl, rfl⟩ ⟨rfl, rfl⟩ (fun _ => ⟨rfl, rfl⟩) checked

/-- A call that goes through is posted, whichever it is. -/
theorem StockCall.Did.posted {call : StockCall} {now : Time} {d d' : Db} (h : call.Did now d d') : Posted d d' := by
  cases call with
  | reserve request => exact Moved.posted h
  | release request => exact Moved.posted h
  | deduct request => exact Moved.posted h
  | returnIn request => exact Moved.posted h
  | adjust request => exact Adjusted.posted h

theorem resolveWarehouse_eq_ok {warehouseId : Option Nat} {warehouse : Nat} {e e' : Exec Db} :
    (resolveWarehouse warehouseId).run e = (.ok warehouse, e') ↔
      e.view.warehouseFor warehouseId = some warehouse ∧ e = e' := by
  unfold resolveWarehouse
  rw [run_bind, run_query, andThen_ok, run_orRaise_eq_ok]

/-- When an adjustment of a locked row goes through, and what it leaves. -/
theorem adjustLocked_eq_ok {request : AdjustRequest} {now : Time} {id : Nat} {row r : Inventory} {e e' : Exec Db} :
    (adjustLocked request now id row).run e = (.ok r, e') ↔
      row.version = request.version ∧ 0 ≤ row.availableQty + request.deltaAvailable ∧
        e.view.movementAt request.idempotencyKey = none ∧ (request.movement row).Checked ∧
        r = row.adjusted request.deltaAvailable now row ∧
        e' = { e with view := e.view.adjusted request now id row } := by
  unfold adjustLocked
  constructor
  · intro h
    rw [run_bind_eq_ok] at h
    obtain ⟨_, e₁, hversion, h⟩ := h
    rw [run_raiseIf_eq_ok, not_not] at hversion
    obtain ⟨hversion, rfl⟩ := hversion
    rw [run_bind_eq_ok] at h
    obtain ⟨_, e₂, hresulting, h⟩ := h
    rw [run_raiseIf_eq_ok, not_lt] at hresulting
    obtain ⟨hresulting, rfl⟩ := hresulting
    rw [run_bind_eq_ok] at h
    obtain ⟨_, e₃, happend, h⟩ := h
    rw [appendMovement_eq_ok] at happend
    obtain ⟨hunused, hchecked, rfl⟩ := happend
    rw [run_bind, run_update, andThen_ok, run_pure] at h
    cases h
    exact ⟨hversion, hresulting, hunused, hchecked, rfl, rfl⟩
  · rintro ⟨hversion, hresulting, hunused, hchecked, rfl, rfl⟩
    have happend := (appendMovement_eq_ok (u := ())).mpr ⟨hunused, hchecked, rfl⟩
    rw [run_bind, run_raiseIf_neg (not_not.mpr hversion), andThen_ok, run_bind,
      run_raiseIf_neg (not_lt.mpr hresulting), andThen_ok, run_bind, happend, andThen_ok, run_bind, run_update,
      andThen_ok, run_pure]
    rfl

theorem adjust_adjusted {request : AdjustRequest} {now : Time} {r : Inventory} {e e' : Exec Db}
    (h : (adjust request now).run e = (.ok r, e')) :
    ∃ d, e' = { e with view := d } ∧ Adjusted now request e.view d := by
  unfold adjust lockForUpdate at h
  rw [run_bind_eq_ok] at h
  obtain ⟨_, e₁, hdelta, h⟩ := h
  rw [run_raiseIf_eq_ok] at hdelta
  obtain ⟨-, rfl⟩ := hdelta
  rw [run_bind, run_query, andThen_ok] at h
  cases hm : e.view.movementAt request.idempotencyKey with
  | some movement =>
    simp only [hm] at h
    rw [run_bind, run_query, andThen_ok] at h
    split at h
    · cases h
    · cases h
      exact ⟨_, rfl, .replayed hm⟩
  | none =>
    simp only [hm] at h
    rw [run_bind_eq_ok] at h
    obtain ⟨warehouse, e₁, hwarehouse, h⟩ := h
    obtain ⟨hfor, rfl⟩ := resolveWarehouse_eq_ok.mp hwarehouse
    rw [run_bind, run_lock, andThen_ok] at h
    cases hat : e.view.inventoryAt warehouse request.skuId with
    | none => simp [hat] at h
    | some entry =>
      obtain ⟨id, row⟩ := entry
      simp only [hat] at h
      obtain ⟨hversion, hresulting, hunused, hchecked, -, rfl⟩ := adjustLocked_eq_ok.mp h
      exact ⟨_, rfl, .applied hunused hfor hat hversion hresulting hchecked⟩

/-- An adjustment with a new key, of a row at the version the client read, goes through. -/
theorem adjust_applied {request : AdjustRequest} {now : Time} {e : Exec Db} {warehouse id : Nat} {row : Inventory}
    (delta : request.deltaAvailable ≠ 0) (unused : e.view.movementAt request.idempotencyKey = none)
    (hwarehouse : e.view.warehouseFor request.warehouseId = some warehouse)
    (hat : e.view.inventoryAt warehouse request.skuId = some (id, row)) (version : row.version = request.version)
    (resulting : 0 ≤ row.availableQty + request.deltaAvailable) (checked : (request.movement row).Checked) :
    (adjust request now).run e =
      (.ok (row.adjusted request.deltaAvailable now row), { e with view := e.view.adjusted request now id row }) := by
  have hlocked : (adjustLocked request now id row).run e = (.ok _, _) :=
    adjustLocked_eq_ok.mpr ⟨version, resulting, unused, checked, rfl, rfl⟩
  have hresolve : (resolveWarehouse request.warehouseId).run e = (.ok warehouse, e) :=
    resolveWarehouse_eq_ok.mpr ⟨hwarehouse, rfl⟩
  unfold adjust lockForUpdate
  rw [run_bind, run_raiseIf_neg delta, andThen_ok, run_bind, run_query, andThen_ok, unused]
  dsimp only
  rw [run_bind, hresolve, andThen_ok, run_bind, run_lock, andThen_ok, hat]
  exact hlocked

theorem StockCall.did {call : StockCall} {now : Time} {e e' : Exec Db} {u : Unit}
    (h : (call.body now).run e = (.ok u, e')) : ∃ d, e' = { e with view := d } ∧ call.Did now e.view d := by
  have hmove : ∀ op request, (do let _ ← moveStock op request now : Tx Unit).run e = (.ok u, e') →
      ∃ d, e' = { e with view := d } ∧ Moved op now request e.view d := by
    intro op request h
    rw [run_bind_eq_ok] at h
    obtain ⟨result, e₁, hmove, h⟩ := h
    cases h
    exact moveStock_moved hmove
  cases call with
  | reserve request => exact hmove reserveOperation request h
  | release request => exact hmove releaseOperation request h
  | deduct request => exact hmove deductOperation request h
  | returnIn request => exact hmove returnInOperation request h
  | adjust request =>
    unfold StockCall.body at h
    rw [run_bind_eq_ok] at h
    obtain ⟨r, e₁, hadjust, h⟩ := h
    cases h
    exact adjust_adjusted hadjust

theorem StockCall.noCommit (call : StockCall) (now : Time) : (call.body now).NoCommit := by
  cases call with
  | reserve request => exact NoCommit.bind (noCommit_moveStock _ _ _) fun _ => trivial
  | release request => exact NoCommit.bind (noCommit_moveStock _ _ _) fun _ => trivial
  | deduct request => exact NoCommit.bind (noCommit_moveStock _ _ _) fun _ => trivial
  | returnIn request => exact NoCommit.bind (noCommit_moveStock _ _ _) fun _ => trivial
  | adjust request =>
    have hlocked : ∀ id row, (adjustLocked request now id row).NoCommit := by
      intro id row
      unfold adjustLocked
      grind
    have hresolve : (resolveWarehouse request.warehouseId).NoCommit := by
      unfold resolveWarehouse
      grind
    have hadjust : (NovaCommerce.adjust request now).NoCommit := by
      unfold NovaCommerce.adjust lockForUpdate
      refine NoCommit.bind (by grind) fun _ => NoCommit.bind (by grind) fun movement => ?_
      cases movement with
      | none => grind
      | some movement => exact NoCommit.bind (by grind) fun row => by cases row <;> grind
    exact NoCommit.bind hadjust fun _ => trivial

/-- A call either goes through, or is refused and leaves nothing. -/
theorem StockCall.runOn_eq (call : StockCall) (d : Db) (now : Time) :
    (∃ d', call.runOn d now = (.ok (), d') ∧ call.Did now d d') ∨ ∃ error, call.runOn d now = (.error error, d) := by
  unfold StockCall.runOn
  have hcommitted := (call.noCommit now).run_committed (Exec.start d 0)
  show (∃ d', (((call.body now >>= fun _ => commitNow).run (Exec.start d 0)).1,
      ((call.body now >>= fun _ => commitNow).run (Exec.start d 0)).2.committed) = (.ok (), d') ∧ call.Did now d d') ∨
    ∃ error, (((call.body now >>= fun _ => commitNow).run (Exec.start d 0)).1,
      ((call.body now >>= fun _ => commitNow).run (Exec.start d 0)).2.committed) = (.error error, d)
  rw [run_bind]
  cases hrun : (call.body now).run (Exec.start d 0) with
  | mk result e' =>
    rw [hrun] at hcommitted
    cases result with
    | error error =>
      refine .inr ⟨error, ?_⟩
      rw [andThen_error, hcommitted]
      rfl
    | ok u =>
      obtain ⟨d', rfl, hdid⟩ := StockCall.did hrun
      exact .inl ⟨d', rfl, hdid⟩

/-- A call whose program goes through leaves what the program left. -/
theorem StockCall.runOn_of_body {call : StockCall} {d d' : Db} {now : Time}
    (h : (call.body now).run (Exec.start d 0) = (.ok (), { Exec.start d 0 with view := d' })) :
    call.runOn d now = (.ok (), d') := by
  have hrun : (transaction (call.body now)).run (Exec.start d 0) =
      (.ok (), { Exec.start d 0 with view := d', committed := d' }) := run_transaction_eq_ok.mpr ⟨_, h, rfl⟩
  unfold StockCall.runOn
  rw [hrun]

/-! ## Movements that explain a row -/

/-- One movement begins where the other ended. -/
def InventoryMovement.Continues (m next : InventoryMovement) : Prop :=
  next.beforeAvailable = m.afterAvailable ∧ next.beforeLocked = m.afterLocked

/-- The movements of a position account for its row. -/
structure Db.Explained (d : Db) (warehouseId skuId : Nat) (row : Inventory) : Prop where
  available : row.availableQty = ((d.movementsOf warehouseId skuId).map InventoryMovement.deltaAvailable).sum
  locked : row.lockedQty = ((d.movementsOf warehouseId skuId).map InventoryMovement.deltaLocked).sum
  availableNonneg : 0 ≤ row.availableQty
  lockedNonneg : 0 ≤ row.lockedQty
  chain : (d.movementsOf warehouseId skuId).IsChain InventoryMovement.Continues
  last : ∀ m ∈ (d.movementsOf warehouseId skuId).getLast?,
    m.afterAvailable = row.availableQty ∧ m.afterLocked = row.lockedQty

/-- The position has a row, and its movements account for it. -/
def Db.Balanced (d : Db) (warehouseId skuId : Nat) : Prop :=
  ∃ id row, d.inventoryAt warehouseId skuId = some (id, row) ∧ d.Explained warehouseId skuId row

/-- A position that starts at zero, without movements. -/
def Db.StartsAtZero (d : Db) (warehouseId skuId : Nat) : Prop :=
  (∃ id row, d.inventoryAt warehouseId skuId = some (id, row) ∧ row.availableQty = 0 ∧ row.lockedQty = 0) ∧
    d.movementsOf warehouseId skuId = []

theorem Db.StartsAtZero.balanced {d : Db} {w s : Nat} (h : d.StartsAtZero w s) : d.Balanced w s := by
  obtain ⟨⟨id, row, hat, ha, hl⟩, hm⟩ := h
  refine ⟨id, row, hat, ?_, ?_, ha.ge, hl.ge, ?_, ?_⟩
  · rw [hm, ha]
    rfl
  · rw [hm, hl]
    rfl
  · rw [hm]
    exact List.isChain_nil
  · rw [hm]
    intro m hm
    cases hm

theorem movementsOf_append (d : Db) (m : InventoryMovement) (inventories : Dict Nat Inventory) (w s : Nat) :
    ({ d with movements := d.movements ++ [m], inventories := inventories } : Db).movementsOf w s =
      if m.warehouseId = w ∧ m.skuId = s then d.movementsOf w s ++ [m] else d.movementsOf w s := by
  unfold Db.movementsOf
  rw [List.filter_append]
  split_ifs with h
  · rw [List.filter_singleton, decide_eq_true h, cond_true]
  · rw [List.filter_singleton, decide_eq_false h, cond_false, List.append_nil]

/-- A movement that continues the chain of a position, up to the row it leaves. -/
theorem Db.Explained.append {d d' : Db} {w s : Nat} {row after : Inventory} {m : InventoryMovement}
    (h : d.Explained w s row) (hd' : d'.movementsOf w s = d.movementsOf w s ++ [m])
    (deltas : m.deltaAvailable = m.afterAvailable - m.beforeAvailable ∧
      m.deltaLocked = m.afterLocked - m.beforeLocked)
    (before : m.beforeAvailable = row.availableQty ∧ m.beforeLocked = row.lockedQty)
    (hafter : m.afterAvailable = after.availableQty ∧ m.afterLocked = after.lockedQty)
    (checked : m.Checked) : d'.Explained w s after where
  available := by
    have hsum := h.available
    rw [hd', List.map_append, List.sum_append, ← hsum, List.map_singleton, List.sum_singleton]
    omega
  locked := by
    have hsum := h.locked
    rw [hd', List.map_append, List.sum_append, ← hsum, List.map_singleton, List.sum_singleton]
    omega
  availableNonneg := by
    rw [← hafter.1]
    exact checked.2.2.1
  lockedNonneg := by
    rw [← hafter.2]
    exact checked.2.2.2
  chain := by
    rw [hd', List.isChain_append]
    refine ⟨h.chain, List.isChain_singleton _, fun x hx y hy => ?_⟩
    obtain ⟨hxa, hxl⟩ := h.last x hx
    rw [List.head?_singleton, Option.mem_some_iff] at hy
    subst hy
    exact ⟨before.1.trans hxa.symm, before.2.trans hxl.symm⟩
  last x hx := by
    rw [hd', List.getLast?_append, List.getLast?_singleton, Option.some_or, Option.mem_some_iff] at hx
    subst hx
    exact hafter

/-- A posted movement keeps every position balanced. -/
theorem Posted.balanced {d d' : Db} (h : Posted d d') {w s : Nat} (hd : d.Balanced w s) : d'.Balanced w s := by
  cases h with
  | replayed => exact hd
  | @applied id row m write unused position deltas before after kept checked =>
    obtain ⟨id', row', hat, hex⟩ := hd
    have hat' : ({ d with
        movements := d.movements ++ [m]
        inventories := d.inventories.modify id write } : Db).inventoryAt w s =
        some (if id' = id then (id', write row') else (id', row')) := by
      have hfind := Dict.find?_modify d.inventories id
        (f := write) (p := fun r => decide (r.warehouseId = w ∧ r.skuId = s))
        (fun r => by rw [(kept r).1, (kept r).2])
      unfold Db.inventoryAt at hat ⊢
      rw [hfind, hat]
      rfl
    by_cases hposition : m.warehouseId = w ∧ m.skuId = s
    · obtain ⟨rfl, rfl⟩ := hposition
      rw [position] at hat
      cases hat
      refine ⟨id, write row, by rw [hat', if_pos rfl], hex.append ?_ deltas before after checked⟩
      rw [movementsOf_append, if_pos ⟨rfl, rfl⟩]
    · have hid : id' ≠ id := by
        rintro rfl
        obtain ⟨hrow, hw, hs⟩ := inventoryAt_some position
        obtain ⟨hrow', hw', hs'⟩ := inventoryAt_some hat
        rw [hrow] at hrow'
        cases hrow'
        exact hposition ⟨hw.symm.trans hw', hs.symm.trans hs'⟩
      rw [if_neg hid] at hat'
      refine ⟨id', row', hat', ?_⟩
      have hsame := movementsOf_append d m (d.inventories.modify id write) w s
      rw [if_neg hposition] at hsame
      obtain ⟨h₁, h₂, h₃, h₄, h₅, h₆⟩ := hex
      rw [← hsame] at h₁ h₂ h₅ h₆
      exact ⟨h₁, h₂, h₃, h₄, h₅, h₆⟩

theorem Posted.movementKeys {d d' : Db} (h : Posted d d') (hd : d.MovementKeys) : d'.MovementKeys := by
  cases h with
  | replayed => exact hd
  | applied write unused position deltas before after kept checked =>
    unfold Db.MovementKeys
    rw [List.map_append, List.map_singleton]
    refine List.nodup_append.mpr ⟨hd, List.nodup_singleton _, fun a ha b hb hab => ?_⟩
    rw [List.mem_singleton.mp hb] at hab
    exact movementAt_eq_none.mp unused (hab ▸ ha)

theorem runCalls_keeps {I : Db → Prop} (hI : ∀ d d', Posted d d' → I d → I d') :
    ∀ {calls : List (StockCall × Time)} {d : Db}, I d → I (runCalls calls d) := by
  intro calls
  induction calls with
  | nil => exact fun h => h
  | cons entry calls ih =>
    intro d hd
    obtain ⟨call, now⟩ := entry
    refine ih ?_
    rcases call.runOn_eq d now with ⟨d', hrun, hdid⟩ | ⟨error, hrun⟩
    · rw [hrun]
      exact hI d d' hdid.posted hd
    · rw [hrun]
      exact hd

/-- The reconciliation of a balanced position finds no discrepancy. -/
theorem Db.Balanced.verified {d : Db} {w s : Nat} (h : d.Balanced w s) (e : Exec Db) (he : e.view = d) :
    ∃ detail, (verifyLedger w s).run e = (.ok (true, detail), e) := by
  obtain ⟨id, row, hat, hex⟩ := h
  refine ⟨⟨(d.movementSignature w s).1, row.availableQty, (d.movementSignature w s).2, row.lockedQty⟩, ?_⟩
  have hequal : decide ((d.movementSignature w s).1 = row.availableQty ∧
      (d.movementSignature w s).2 = row.lockedQty) = true :=
    decide_eq_true ⟨hex.available.symm, hex.locked.symm⟩
  unfold verifyLedger
  rw [run_bind, run_query, andThen_ok, he, hat]
  dsimp only
  rw [run_bind, run_query, andThen_ok, he, run_pure, hequal]

/-- After any list of stock calls, refused and repeated ones included, the movements of a position that
started at zero account for its row. -/
theorem runCalls_explained (d : Db) (w s : Nat) (keys : d.MovementKeys) (start : d.StartsAtZero w s)
    (calls : List (StockCall × Time)) :
    (runCalls calls d).MovementKeys ∧
      (∃ id row, (runCalls calls d).inventoryAt w s = some (id, row) ∧
        (runCalls calls d).Explained w s row) ∧
      (∀ e : Exec Db, e.view = runCalls calls d →
        ∃ detail, (verifyLedger w s).run e = (.ok (true, detail), e)) ∧
      ∀ (call : StockCall) (now : Time) (error : AppError),
        (call.runOn (runCalls calls d) now).1 = .error error →
        (call.runOn (runCalls calls d) now).2 = runCalls calls d := by
  have hbalanced : (runCalls calls d).Balanced w s :=
    runCalls_keeps (fun _ _ h => h.balanced) start.balanced
  refine ⟨runCalls_keeps (fun _ _ h => h.movementKeys) keys, hbalanced,
    fun e he => hbalanced.verified e he, fun call now error h => ?_⟩
  rcases call.runOn_eq (runCalls calls d) now with ⟨d', hrun, -⟩ | ⟨error', hrun⟩
  · rw [hrun] at h
    cases h
  · rw [hrun]

/-- One warehouse with one empty position, and a purchase, a reservation, a repeated one, a refused one, a
deduction and a return on it. -/
theorem runCalls_explained_one_position :
    let d : Db := {
      warehouses := (Dict.empty : Dict Nat Warehouse).set 1 { merchantId := 1, isDefault := true }
      inventories := (Dict.empty : Dict Nat Inventory).set 7 { warehouseId := 1, skuId := 5, availableQty := 0 } }
    let calls : List (StockCall × Time) := [
      (.adjust { skuId := 5, version := 0, deltaAvailable := 10, idempotencyKey := "in" }, 1),
      (.reserve { skuId := 5, quantity := 4, idempotencyKey := "lock" }, 2),
      (.reserve { skuId := 5, quantity := 4, idempotencyKey := "lock" }, 3),
      (.deduct { skuId := 5, quantity := 9, idempotencyKey := "over" }, 4),
      (.deduct { skuId := 5, quantity := 3, idempotencyKey := "deduct" }, 5),
      (.returnIn { skuId := 5, quantity := 1, idempotencyKey := "return" }, 6)]
    (runCalls calls d).MovementKeys ∧ (∃ id row, (runCalls calls d).inventoryAt 1 5 = some (id, row) ∧
      (runCalls calls d).Explained 1 5 row) := by
  intro d calls
  have h := runCalls_explained d 1 5 List.nodup_nil ⟨⟨7, _, rfl, rfl, rfl⟩, rfl⟩ calls
  exact ⟨h.1, h.2.1⟩

end NovaCommerce
