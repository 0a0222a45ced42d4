import NovaCommerce.Inventory.Service

/-!
# Loops of stock operations

* `moveAll` : one operation for every request; `Moves` is what it did (`moveAll_moves`);
* `Moves.frame`, `Moves.movementKeys` : movements are appended, under keys of their own;
* `Moves.lockedAt_ge` : operations that consume locked stock take at most what the requests ask for;
* `deductAll_applied` : a loop of deductions goes through when the locked stock covers it;
* `Moves.fresh` : operations under new keys append one movement each, and move the locked stock by their sum.
-/

namespace NovaCommerce

open Sql

/-! ## A loop of stock operations -/

/-- What a loop of operations did, one request after the other. -/
inductive Moves (op : StockOperation) (now : Time) : List StockRequest → Db → Db → Prop where
  | nil {d : Db} : Moves op now [] d d
  | cons {request : StockRequest} {requests : List StockRequest} {d d₁ d₂ : Db}
      (moved : Moved op now request d d₁) (rest : Moves op now requests d₁ d₂) :
      Moves op now (request :: requests) d d₂

/-- Run an operation for every request. -/
def moveAll (op : StockOperation) (requests : List StockRequest) (now : Time) : Tx Unit :=
  forEach (fun request => do let _ ← moveStock op request now) requests

@[grind .] theorem noCommit_moveAll (op : StockOperation) (requests : List StockRequest) (now : Time) :
    (moveAll op requests now).NoCommit := by
  unfold moveAll
  grind

theorem moveAll_moves {op : StockOperation} {now : Time} :
    ∀ {requests : List StockRequest} {e e' : Exec Db} {u : Unit},
      (moveAll op requests now).run e = (.ok u, e') →
      ∃ d, e' = { e with view := d } ∧ Moves op now requests e.view d := by
  intro requests
  induction requests with
  | nil =>
    intro e e' u h
    cases h
    exact ⟨_, rfl, .nil⟩
  | cons request requests ih =>
    intro e e' u h
    unfold moveAll at h
    rw [run_forEach_cons, run_bind, andThen_eq_ok] at h
    obtain ⟨_, e₁, hone, hrest⟩ := h
    rw [andThen_eq_ok] at hone
    obtain ⟨result, e₂, hmove, hret⟩ := hone
    cases hret
    obtain ⟨d₁, rfl, hmoved⟩ := moveStock_moved hmove
    obtain ⟨d₂, rfl, hmoves⟩ := ih hrest
    exact ⟨d₂, rfl, .cons hmoved hmoves⟩

/-- A loop of operations appends movements and changes inventory rows, and nothing else. -/
theorem Moves.frame {op : StockOperation} {now : Time} {requests : List StockRequest} {d d' : Db}
    (h : Moves op now requests d d') :
    ∃ movements inventories, d' = { d with
      movements := d.movements ++ movements
      inventories := inventories } ∧
      ∀ m ∈ movements, ∃ request ∈ requests, ∃ row, m = op.movement request row := by
  induction h with
  | nil => exact ⟨[], _, by rw [List.append_nil], by simp⟩
  | @cons first rest d d₁ d₂ moved _ ih =>
    obtain ⟨movements, inventories, hd, hm⟩ := ih
    cases moved with
    | replayed _ =>
      refine ⟨movements, inventories, hd, fun m h => ?_⟩
      obtain ⟨request, hr, row, heq⟩ := hm m h
      exact ⟨request, List.mem_cons_of_mem _ hr, row, heq⟩
    | @applied _ _ row _ _ _ _ _ =>
      refine ⟨op.movement first row :: movements, inventories, ?_, fun m h => ?_⟩
      · rw [hd]
        simp [Db.moved]
      · rcases List.mem_cons.mp h with rfl | h
        · exact ⟨_, List.mem_cons_self, row, rfl⟩
        · obtain ⟨request, hr, row, heq⟩ := hm m h
          exact ⟨request, List.mem_cons_of_mem _ hr, row, heq⟩

/-- Stock operations see the stock tables only. -/
theorem Moved.transfer {op : StockOperation} {now : Time} {request : StockRequest} {d d' c : Db}
    (h : Moved op now request d d') (hm : c.movements = d.movements) (hi : c.inventories = d.inventories)
    (hw : c.warehouses = d.warehouses) :
    Moved op now request c { c with movements := d'.movements, inventories := d'.inventories } := by
  have hat : ∀ key, c.movementAt key = d.movementAt key := fun key => by rw [Db.movementAt, hm]; rfl
  cases h with
  | replayed used =>
    rw [← hm, ← hi]
    exact .replayed ((hat _).trans used)
  | @applied w id row unused hfor hrow haccepted hchecked =>
    have hd : ({ c with
        movements := (d.moved op request now id row).movements
        inventories := (d.moved op request now id row).inventories } : Db) =
        c.moved op request now id row := by
      simp only [Db.moved, hm, hi]
    rw [hd]
    refine .applied ((hat _).trans unused) (Eq.trans ?_ hfor) (Eq.trans ?_ hrow) haccepted hchecked
    · unfold Db.warehouseFor Db.defaultWarehouse
      rw [hw]
    · unfold Db.inventoryAt
      rw [hi]

theorem Moves.transfer {op : StockOperation} {now : Time} {requests : List StockRequest} {d d' c : Db}
    (h : Moves op now requests d d') (hm : c.movements = d.movements) (hi : c.inventories = d.inventories)
    (hw : c.warehouses = d.warehouses) :
    Moves op now requests c { c with movements := d'.movements, inventories := d'.inventories } := by
  induction h generalizing c with
  | nil =>
    rw [← hm, ← hi]
    exact .nil
  | @cons first rest d d₁ d₂ moved _ ih =>
    refine .cons (moved.transfer hm hi hw) (ih rfl rfl ?_)
    cases moved with
    | replayed _ => exact hw
    | applied _ _ _ _ _ => exact hw

/-- No two movements share a key. -/
def Db.MovementKeys (d : Db) : Prop := (d.movements.map InventoryMovement.idempotencyKey).Nodup

theorem movementAt_eq_none {d : Db} {key : String} :
    d.movementAt key = none ↔ key ∉ d.movements.map InventoryMovement.idempotencyKey := by
  simp only [Db.movementAt, List.find?_eq_none, decide_eq_true_eq, List.mem_map, not_exists, not_and]

theorem Moved.movementKeys {op : StockOperation} {now : Time} {request : StockRequest} {d d' : Db}
    (h : Moved op now request d d') (hd : d.MovementKeys) : d'.MovementKeys := by
  cases h with
  | replayed _ => exact hd
  | applied unused _ _ _ _ =>
    unfold Db.MovementKeys Db.moved
    rw [List.map_append, List.map_singleton, movement_idempotencyKey]
    exact List.nodup_append.mpr ⟨hd, List.nodup_singleton _, fun a ha b hb hab => by
      rw [List.mem_singleton.mp hb] at hab
      exact movementAt_eq_none.mp unused (hab ▸ ha)⟩

theorem Moves.movementKeys {op : StockOperation} {now : Time} {requests : List StockRequest} {d d' : Db}
    (h : Moves op now requests d d') (hd : d.MovementKeys) : d'.MovementKeys := by
  induction h with
  | nil => exact hd
  | cons moved _ ih => exact ih (moved.movementKeys hd)

/-! ## Locked stock -/

/-- The locked quantity of a position. -/
def Db.lockedAt (d : Db) (warehouseId skuId : Nat) : Int :=
  ((d.inventoryAt warehouseId skuId).map (fun e => e.2.lockedQty)).getD 0

/-- The operation takes its quantity out of the locked stock. -/
def StockOperation.Consumes (op : StockOperation) : Prop :=
  ∀ row quantity, (op.change row quantity).lockedQty = row.lockedQty - quantity

theorem release_consumes : releaseOperation.Consumes := fun _ _ => rfl

theorem deduct_consumes : deductOperation.Consumes := fun _ _ => rfl

/-- What a request asks of a position. -/
def StockRequest.demand (request : StockRequest) (warehouseId skuId : Nat) : Int :=
  if request.warehouseId = some warehouseId ∧ request.skuId = skuId then request.quantity else 0

/-- What the requests ask of a position together. -/
def demandOf (requests : List StockRequest) (warehouseId skuId : Nat) : Int :=
  (requests.map (fun request => request.demand warehouseId skuId)).sum

@[simp] theorem demandOf_nil (w s : Nat) : demandOf [] w s = 0 := rfl

@[simp] theorem demandOf_cons (request : StockRequest) (requests : List StockRequest) (w s : Nat) :
    demandOf (request :: requests) w s = request.demand w s + demandOf requests w s := by
  simp [demandOf]

theorem inventoryAt_some {d : Db} {w s id : Nat} {row : Inventory}
    (h : d.inventoryAt w s = some (id, row)) :
    d.inventories.get? id = some row ∧ row.warehouseId = w ∧ row.skuId = s := by
  obtain ⟨hget, hp⟩ := Dict.find?_some h
  simp only [decide_eq_true_eq] at hp
  exact ⟨hget, hp.1, hp.2⟩

theorem inventoryAt_moved (d : Db) (op : StockOperation) (request : StockRequest) (now : Time) (id : Nat)
    (row : Inventory) (w s : Nat) :
    (d.moved op request now id row).inventoryAt w s =
      (d.inventoryAt w s).map (fun e => if e.1 = id then (e.1, op.write request row now e.2) else e) :=
  Dict.find?_modify d.inventories id fun _ => rfl

theorem warehouseFor_some {d : Db} {w warehouse : Nat} (h : d.warehouseFor (some w) = some warehouse) :
    warehouse = w := by
  simp only [Db.warehouseFor, Option.map_eq_some_iff] at h
  exact h.choose_spec.2.symm

/-- An applied operation takes exactly its quantity from the position it names. -/
theorem lockedAt_moved {op : StockOperation} (hop : op.Consumes) {d : Db} {request : StockRequest}
    {now : Time} {id warehouse : Nat} {row : Inventory} (hwarehouse : request.warehouseId = some warehouse)
    (hat : d.inventoryAt warehouse request.skuId = some (id, row)) (w s : Nat) :
    (d.moved op request now id row).lockedAt w s = d.lockedAt w s - request.demand w s := by
  unfold Db.lockedAt StockRequest.demand
  rw [inventoryAt_moved, hwarehouse]
  obtain ⟨hget, hw, hs⟩ := inventoryAt_some hat
  by_cases hhit : warehouse = w ∧ request.skuId = s
  · obtain ⟨rfl, rfl⟩ := hhit
    simpa [hat, StockOperation.write] using hop row request.quantity
  · cases he : d.inventoryAt w s with
    | none => simp [hhit]
    | some entry =>
      obtain ⟨id', row'⟩ := entry
      obtain ⟨hget', hw', hs'⟩ := inventoryAt_some he
      have hne : id' ≠ id := by
        rintro rfl
        rw [hget] at hget'
        cases hget'
        exact hhit ⟨hw.symm.trans hw', hs.symm.trans hs'⟩
      simp [hne, hhit]

theorem Moved.lockedAt_ge {op : StockOperation} (hop : op.Consumes) {now : Time} {request : StockRequest}
    {d d' : Db} (h : Moved op now request d d') {warehouse : Nat}
    (hwarehouse : request.warehouseId = some warehouse) (hquantity : 0 ≤ request.quantity) (w s : Nat) :
    d.lockedAt w s - request.demand w s ≤ d'.lockedAt w s := by
  cases h with
  | replayed _ =>
    have : 0 ≤ request.demand w s := by
      unfold StockRequest.demand
      split_ifs <;> omega
    omega
  | applied _ hfor hat _ _ =>
    rw [hwarehouse] at hfor
    rw [warehouseFor_some hfor] at hat
    rw [lockedAt_moved hop hwarehouse hat]

/-- A loop of consuming operations leaves at least what its requests do not ask for. -/
theorem Moves.lockedAt_ge {op : StockOperation} (hop : op.Consumes) {now : Time}
    {requests : List StockRequest} {d d' : Db} (h : Moves op now requests d d')
    (hrequests : ∀ request ∈ requests, (∃ w, request.warehouseId = some w) ∧ 0 ≤ request.quantity)
    (w s : Nat) : d.lockedAt w s - demandOf requests w s ≤ d'.lockedAt w s := by
  induction h with
  | nil => simp
  | cons moved _ ih =>
    obtain ⟨⟨warehouse, hw⟩, hq⟩ := hrequests _ List.mem_cons_self
    have h₁ := moved.lockedAt_ge hop hw hq w s
    have h₂ := ih fun request hr => hrequests request (List.mem_cons_of_mem _ hr)
    rw [demandOf_cons]
    omega

/-! ## Deductions that go through -/

/-- A deduction that only the locked quantity can refuse. -/
structure Deductible (d : Db) (request : StockRequest) : Prop where
  positive : 0 < request.quantity
  unused : d.movementAt request.idempotencyKey = none
  position : ∃ w id row, request.warehouseId = some w ∧ d.warehouseFor (some w) = some w ∧
    d.inventoryAt w request.skuId = some (id, row) ∧ 0 ≤ row.availableQty

theorem lockedAt_of_inventoryAt {d : Db} {w s id : Nat} {row : Inventory}
    (h : d.inventoryAt w s = some (id, row)) : d.lockedAt w s = row.lockedQty := by
  rw [Db.lockedAt, h]
  rfl

theorem demand_self {request : StockRequest} {w : Nat} (h : request.warehouseId = some w) :
    request.demand w request.skuId = request.quantity := by
  rw [StockRequest.demand, if_pos ⟨h, rfl⟩]

theorem demandOf_nonneg {requests : List StockRequest} (h : ∀ r ∈ requests, 0 ≤ r.quantity) (w s : Nat) :
    0 ≤ demandOf requests w s := by
  refine List.sum_nonneg fun q hq => ?_
  obtain ⟨r, hr, rfl⟩ := List.mem_map.mp hq
  unfold StockRequest.demand
  split_ifs
  · exact h r hr
  · exact le_refl 0

/-- A deduction leaves the other deductions as they were. -/
theorem Deductible.moved {d : Db} {request other : StockRequest} {now : Time} {id : Nat} {row : Inventory}
    (h : Deductible d other) (hne : other.idempotencyKey ≠ request.idempotencyKey)
    (hget : d.inventories.get? id = some row) :
    Deductible (d.moved deductOperation request now id row) other where
  positive := h.positive
  unused := by
    have hunused := movementAt_eq_none.mp h.unused
    refine movementAt_eq_none.mpr ?_
    simp only [Db.moved, List.map_append, List.map_cons, List.map_nil, List.mem_append,
      List.mem_singleton, not_or, movement_idempotencyKey]
    exact ⟨hunused, hne⟩
  position := by
    obtain ⟨w, id', row', hw, hfor, hat, hnonneg⟩ := h.position
    by_cases hid : id' = id
    · refine ⟨w, id', deductOperation.write request row now row', hw, hfor, ?_, ?_⟩
      · rw [inventoryAt_moved, hat]
        simp [hid]
      · have hrow : row' = row := by
          have hget' := (inventoryAt_some hat).1
          rw [hid, hget] at hget'
          exact (Option.some.inj hget').symm
        rw [← hrow]
        exact hnonneg
    · refine ⟨w, id', row', hw, hfor, ?_, hnonneg⟩
      rw [inventoryAt_moved, hat]
      simp [hid]

/-- Deductions under new keys go through when the locked stock covers them together. -/
theorem deductAll_applied {now : Time} : ∀ {requests : List StockRequest} {e : Exec Db},
    (∀ r ∈ requests, Deductible e.view r) → (requests.map StockRequest.idempotencyKey).Nodup →
    (∀ w s, demandOf requests w s ≤ e.view.lockedAt w s) →
    ∃ d, (moveAll deductOperation requests now).run e = (.ok (), { e with view := d }) := by
  intro requests
  induction requests with
  | nil =>
    intro e _ _ _
    exact ⟨e.view, rfl⟩
  | cons request requests ih =>
    intro e hall hkeys hlocked
    have hthis := hall request List.mem_cons_self
    have hrest : ∀ r ∈ requests, Deductible e.view r := fun r hr => hall r (List.mem_cons_of_mem _ hr)
    obtain ⟨w, id, row, hw, hfor, hat, hnonneg⟩ := hthis.position
    have hpos := hthis.positive
    have hcovered : request.quantity ≤ row.lockedQty := by
      have h₁ := hlocked w request.skuId
      have h₂ := demandOf_nonneg (fun r hr => (hrest r hr).positive.le) w request.skuId
      rw [demandOf_cons, demand_self hw, lockedAt_of_inventoryAt hat] at h₁
      omega
    have hchecked : (deductOperation.movement request row).Checked := by
      refine ⟨hnonneg, ?_, hnonneg, ?_⟩
      · show 0 ≤ row.lockedQty
        omega
      · show 0 ≤ row.lockedQty - request.quantity
        omega
    have hvalid : deductOperation.invalid request = none := if_neg (by omega)
    have haccepted : deductOperation.refusal row request = none := if_neg (by omega)
    obtain ⟨result, hrun⟩ : ∃ result, (moveStock deductOperation request now).run e =
        (.ok result, { e with view := e.view.moved deductOperation request now id row }) :=
      moveStock_applied hvalid hthis.unused (hw ▸ hfor) hat haccepted hchecked
    rw [List.map_cons, List.nodup_cons] at hkeys
    obtain ⟨d, hd⟩ := ih (e := { e with view := e.view.moved deductOperation request now id row })
      (fun r hr => (hrest r hr).moved (fun hk => hkeys.1 (hk ▸ List.mem_map_of_mem hr))
        (inventoryAt_some hat).1) hkeys.2 (fun w' s' => by
          have h := hlocked w' s'
          rw [demandOf_cons] at h
          rw [lockedAt_moved deduct_consumes hw hat]
          omega)
    refine ⟨d, ?_⟩
    unfold moveAll at hd ⊢
    rw [run_forEach_cons, run_bind, hrun, andThen_ok, run_pure, andThen_ok]
    exact hd

/-! ## Operations under new keys -/

/-- The operation moves locked stock by `sign` times its quantity. -/
def StockOperation.Shifts (op : StockOperation) (sign : Int) : Prop :=
  ∀ row quantity, (op.change row quantity).lockedQty = row.lockedQty + sign * quantity

theorem reserve_shifts : reserveOperation.Shifts 1 := fun _ _ => by
  rw [one_mul]
  rfl

theorem release_shifts : releaseOperation.Shifts (-1) := fun _ _ => by
  rw [neg_one_mul]
  rfl

theorem deduct_shifts : deductOperation.Shifts (-1) := fun _ _ => by
  rw [neg_one_mul]
  rfl

/-- The locked stock of a set of positions. -/
def Db.lockedIn (d : Db) (p : Nat → Nat → Bool) : Int :=
  d.inventories.total fun _ row => if p row.warehouseId row.skuId = true then row.lockedQty else 0

/-- What a request asks of a set of positions. -/
def StockRequest.asks (request : StockRequest) (p : Nat → Nat → Bool) : Int :=
  match request.warehouseId with
  | some w => if p w request.skuId = true then request.quantity else 0
  | none => 0

/-- The movement of a request, on a row of the position it names. -/
def StockOperation.Appends (op : StockOperation) (request : StockRequest) (m : InventoryMovement) : Prop :=
  ∃ row, m = op.movement request row ∧ request.warehouseId = some row.warehouseId ∧ request.skuId = row.skuId

theorem lockedIn_moved {op : StockOperation} {sign : Int} (hop : op.Shifts sign) {d : Db} {request : StockRequest}
    {now : Time} {id : Nat} {row : Inventory} (hget : d.inventories.get? id = some row)
    (hw : request.warehouseId = some row.warehouseId) (hs : request.skuId = row.skuId) (p : Nat → Nat → Bool) :
    (d.moved op request now id row).lockedIn p = d.lockedIn p + sign * request.asks p := by
  have hafter : (op.write request row now row).lockedQty = row.lockedQty + sign * request.quantity :=
    hop row request.quantity
  unfold Db.lockedIn StockRequest.asks
  show (d.inventories.modify id (op.write request row now)).total _ = _
  rw [Dict.total_modify hget, hw, hs]
  show _ - _ + (if p row.warehouseId row.skuId = true then (op.write request row now row).lockedQty else 0) = _
  rw [hafter]
  dsimp only
  split_ifs <;> ring

/-- Operations under new keys append one movement each, and move the locked stock by what they ask for. -/
theorem Moves.fresh {op : StockOperation} {sign : Int} (hop : op.Shifts sign) {now : Time}
    {requests : List StockRequest} {d d' : Db} (h : Moves op now requests d d')
    (named : ∀ r ∈ requests, ∃ w, r.warehouseId = some w)
    (unused : ∀ r ∈ requests, d.movementAt r.idempotencyKey = none)
    (distinct : (requests.map StockRequest.idempotencyKey).Nodup) :
    ∃ ms, (∀ m ∈ ms, ∃ r ∈ requests, op.Appends r m) ∧ (∀ r ∈ requests, ∃ m ∈ ms, op.Appends r m) ∧
      d'.movements = d.movements ++ ms ∧
        ∀ p, d'.lockedIn p = d.lockedIn p + sign * (requests.map fun r => r.asks p).sum := by
  induction h with
  | nil => exact ⟨[], (fun _ h => nomatch h), (fun _ h => nomatch h), (List.append_nil _).symm, fun p => by simp⟩
  | @cons request rest d d₁ d₂ moved _ ih =>
    rw [List.map_cons, List.nodup_cons] at distinct
    cases moved with
    | replayed used =>
      rw [unused request List.mem_cons_self] at used
      cases used
    | @applied warehouse id row hunused hfor hat accepted checked =>
      obtain ⟨w, hw⟩ := named request List.mem_cons_self
      rw [hw] at hfor
      obtain ⟨hget, hwarehouse, hsku⟩ := inventoryAt_some hat
      rw [warehouseFor_some hfor] at hwarehouse
      rw [← hwarehouse] at hw
      have hrest : ∀ r ∈ rest, (d.moved op request now id row).movementAt r.idempotencyKey = none := by
        intro r hr
        have hold := movementAt_eq_none.mp (unused r (List.mem_cons_of_mem _ hr))
        refine movementAt_eq_none.mpr ?_
        rw [Db.moved, List.map_append, List.mem_append, not_or]
        refine ⟨hold, fun hkey => distinct.1 ?_⟩
        rw [List.map_singleton, List.mem_singleton, movement_idempotencyKey] at hkey
        rw [← hkey]
        exact List.mem_map_of_mem hr
      obtain ⟨ms, hof, hfor, hmovements, hlocked⟩ :=
        ih (fun r hr => named r (List.mem_cons_of_mem _ hr)) hrest distinct.2
      have happends : op.Appends request (op.movement request row) := ⟨row, rfl, hw, hsku.symm⟩
      refine ⟨op.movement request row :: ms, fun m hm => ?_, fun r hr => ?_, ?_, fun p => ?_⟩
      · rcases List.mem_cons.mp hm with rfl | hm
        · exact ⟨request, List.mem_cons_self, happends⟩
        · obtain ⟨r, hr, h⟩ := hof m hm
          exact ⟨r, List.mem_cons_of_mem _ hr, h⟩
      · rcases List.mem_cons.mp hr with rfl | hr
        · exact ⟨_, List.mem_cons_self, happends⟩
        · obtain ⟨m, hm, h⟩ := hfor r hr
          exact ⟨m, List.mem_cons_of_mem _ hm, h⟩
      · rw [hmovements, Db.moved, List.append_assoc]
        rfl
      · rw [hlocked, lockedIn_moved hop hget hw hsku.symm, List.map_cons, List.sum_cons]
        ring

end NovaCommerce
