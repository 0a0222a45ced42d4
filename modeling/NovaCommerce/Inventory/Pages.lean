import NovaCommerce.Inventory.Replays

/-!
# Ledger pages

`movements_page` asks for the rows up to its page and cuts a page out of them.

* `Db.positionOf`, `Db.movementsFor` : the position of a SKU, and its ledger, the newest movement first;
* `movementsPage` : one page;
* `pages_partition_iff` : when the pages make up the ledger.
-/

namespace NovaCommerce

open Sql

/-! ## Reads -/

/-- `get_by_sku`: the position in the warehouse of the lowest id. -/
def Db.positionOf (d : Db) (skuId : Nat) (warehouseId : Option Nat) : Option (Nat × Inventory) :=
  ((d.inventories.select fun row => decide (row.skuId = skuId ∧ ∀ w ∈ warehouseId, row.warehouseId = w)).insertionSort
    fun a b => a.2.warehouseId ≤ b.2.warehouseId).head?

/-- The ledger of a position, the newest movement first. -/
def Db.ledgerOf (d : Db) (warehouseId skuId : Nat) (movementType : Option MovementType) : List InventoryMovement :=
  (d.movements.filter fun m =>
    decide (m.warehouseId = warehouseId ∧ m.skuId = skuId ∧ ∀ t ∈ movementType, m.movementType = t)).reverse

/-- `movements_for`. -/
def Db.movementsFor (d : Db) (warehouseId skuId : Nat) (movementType : Option MovementType) (limit : Nat) :
    List InventoryMovement := (d.ledgerOf warehouseId skuId movementType).take limit

def positionFor (skuId : Nat) (warehouseId : Option Nat) : Tx (Nat × Inventory) := do
  orRaise (← query fun d => d.positionOf skuId warehouseId)
    { kind := .inventoryNotFound, message := s!"no stock record for SKU {skuId}" }

/-- One page of the ledger of a SKU. -/
def movementsPage (skuId page pageSize : Nat) (movementType : Option MovementType) : Tx (List InventoryMovement) := do
  let (_, inventory) ← positionFor skuId none
  let rows ← query fun d => d.movementsFor inventory.warehouseId skuId movementType (pageSize * page)
  return rows.take pageSize

/-- The last page of a ledger of some length. -/
def lastPage (length pageSize : Nat) : Nat := (length + pageSize - 1) / pageSize

/-! ## The pages -/

/-- Every page is the first one. -/
theorem run_movementsPage {e : Exec Db} {skuId id : Nat} {inventory : Inventory}
    (hposition : e.view.positionOf skuId none = some (id, inventory)) {page : Nat} (hpage : 1 ≤ page) (pageSize : Nat)
    (movementType : Option MovementType) :
    (movementsPage skuId page pageSize movementType).run e =
      (.ok ((e.view.ledgerOf inventory.warehouseId skuId movementType).take pageSize), e) := by
  unfold movementsPage positionFor
  rw [run_bind, run_bind, run_query, andThen_ok, hposition, run_orRaise_some rfl, andThen_ok, run_bind, run_query,
    andThen_ok,
    run_pure]
  unfold Db.movementsFor
  rw [List.take_take, Nat.min_eq_left (Nat.le_mul_of_pos_right pageSize hpage)]

theorem lastPage_le_one {length pageSize : Nat} (hsize : 0 < pageSize) (h : length ≤ pageSize) :
    lastPage length pageSize ≤ 1 := by
  unfold lastPage
  rw [Nat.div_le_iff_le_mul_add_pred hsize]
  omega

theorem two_le_lastPage {length pageSize : Nat} (hsize : 0 < pageSize) (h : pageSize < length) :
    2 ≤ lastPage length pageSize := by
  unfold lastPage
  rw [Nat.le_div_iff_mul_le hsize]
  omega

theorem lastPage_pos {length pageSize : Nat} (hsize : 0 < pageSize) (h : 0 < length) :
    1 ≤ lastPage length pageSize := by
  unfold lastPage
  rw [Nat.le_div_iff_mul_le hsize]
  omega

/-- The first page over and over is the whole list when one page holds it, and repeats its rows otherwise. -/
theorem flatten_firstPage_iff {α : Type} {xs : List α} (hnodup : xs.Nodup) {pageSize : Nat} (hsize : 0 < pageSize) :
    (List.replicate (lastPage xs.length pageSize) (xs.take pageSize)).flatten = xs ↔ xs.length ≤ pageSize := by
  constructor
  · intro hflatten
    by_contra hlong
    have htwo := two_le_lastPage hsize (Nat.lt_of_not_le hlong)
    obtain ⟨k, hk⟩ : ∃ k, lastPage xs.length pageSize = k + 2 := ⟨lastPage xs.length pageSize - 2, by omega⟩
    rw [hk, List.replicate_succ, List.replicate_succ, List.flatten_cons, List.flatten_cons] at hflatten
    rw [← hflatten, List.nodup_append] at hnodup
    obtain ⟨x, hx⟩ : ∃ x, x ∈ xs.take pageSize := by
      refine List.exists_mem_of_length_pos ?_
      rw [List.length_take]
      omega
    exact hnodup.2.2 x hx x (List.mem_append_left _ hx) rfl
  · intro hshort
    rw [List.take_of_length_le hshort]
    rcases Nat.eq_zero_or_pos xs.length with hzero | hpos
    · rw [List.length_eq_zero_iff.mp hzero]
      simp
    · have hone : lastPage xs.length pageSize = 1 :=
        Nat.le_antisymm (lastPage_le_one hsize hshort) (lastPage_pos hsize hpos)
      rw [hone]
      simp

/-- Pages 1 to the last are answered, and they make up the ledger when one page holds it and never otherwise. -/
theorem pages_partition_iff {e : Exec Db} {skuId id : Nat} {inventory : Inventory}
    (hposition : e.view.positionOf skuId none = some (id, inventory))
    (hkeys : e.view.MovementKeys) {pageSize : Nat} (hsize : 0 < pageSize)
    (movementType : Option MovementType) :
    ∃ pages : List (List InventoryMovement),
      List.Forall₂ (fun page rows => (movementsPage skuId page pageSize movementType).run e = (.ok rows, e))
        (List.range' 1 (lastPage (e.view.ledgerOf inventory.warehouseId skuId movementType).length pageSize)) pages ∧
      (pages.flatten = e.view.ledgerOf inventory.warehouseId skuId movementType ↔
        (e.view.ledgerOf inventory.warehouseId skuId movementType).length ≤ pageSize) := by
  have hnodup : (e.view.ledgerOf inventory.warehouseId skuId movementType).Nodup := by
    unfold Db.ledgerOf
    rw [List.nodup_reverse]
    exact List.Nodup.filter _ (List.Nodup.of_map _ hkeys)
  refine ⟨_, ?_, flatten_firstPage_iff hnodup hsize⟩
  have hpages : ∀ n start, 1 ≤ start →
      List.Forall₂ (fun page rows => (movementsPage skuId page pageSize movementType).run e = (.ok rows, e))
        (List.range' start n)
        (List.replicate n ((e.view.ledgerOf inventory.warehouseId skuId movementType).take pageSize)) := by
    intro n
    induction n with
    | zero => exact fun _ _ => .nil
    | succ n ih =>
      intro start hstart
      exact .cons (run_movementsPage hposition hstart pageSize movementType) (ih (start + 1) (by omega))
  exact hpages _ 1 (le_refl 1)

/-- Two reservations in the ledger of a position. -/
def twiceReserved : Exec Db :=
  ((do
    let _ ← reserve { skuId := 5, quantity := 4, idempotencyKey := "order-lock:1:cups:5" } 1
    reserve { skuId := 5, quantity := 2, idempotencyKey := "order-lock:1:mugs:5" } 2).run
      (Exec.start oneStockedPosition 8)).2

theorem twiceReserved_position : ∃ inventory, twiceReserved.view.positionOf 5 none = some (7, inventory) ∧
    (twiceReserved.view.ledgerOf inventory.warehouseId 5 none).map InventoryMovement.idempotencyKey =
      ["order-lock:1:mugs:5", "order-lock:1:cups:5"] := by
  have hsome : (twiceReserved.view.positionOf 5 none).map Prod.fst = some 7 := by decide +kernel
  obtain ⟨⟨id, inventory⟩, hposition, rfl⟩ := Option.map_eq_some_iff.mp hsome
  refine ⟨inventory, hposition, ?_⟩
  have hledger : (twiceReserved.view.positionOf 5 none).map (fun entry =>
      (twiceReserved.view.ledgerOf entry.2.warehouseId 5 none).map InventoryMovement.idempotencyKey) =
      some ["order-lock:1:mugs:5", "order-lock:1:cups:5"] := by decide +kernel
  rw [hposition] at hledger
  exact Option.some.inj hledger

theorem pages_partition_twice : ∃ inventory, twiceReserved.view.positionOf 5 none = some (7, inventory) ∧
    ∃ pages : List (List InventoryMovement),
      List.Forall₂ (fun page rows => (movementsPage 5 page 20 none).run twiceReserved = (.ok rows, twiceReserved))
        (List.range' 1 (lastPage (twiceReserved.view.ledgerOf inventory.warehouseId 5 none).length 20)) pages ∧
      (pages.flatten = twiceReserved.view.ledgerOf inventory.warehouseId 5 none ↔
        (twiceReserved.view.ledgerOf inventory.warehouseId 5 none).length ≤ 20) := by
  obtain ⟨inventory, hposition, -⟩ := twiceReserved_position
  have hkeys : twiceReserved.view.MovementKeys := by
    unfold Db.MovementKeys
    decide +kernel
  exact ⟨inventory, hposition, pages_partition_iff hposition hkeys (by decide) none⟩

/-- With one row a page, the second page shows the first row again. -/
theorem pages_not_partition : ¬ ∀ {e : Exec Db} {skuId id : Nat} {inventory : Inventory},
    e.view.positionOf skuId none = some (id, inventory) → e.view.MovementKeys → ∀ {pageSize : Nat}, 0 < pageSize →
    ∀ movementType : Option MovementType, ∃ pages : List (List InventoryMovement),
      List.Forall₂ (fun page rows => (movementsPage skuId page pageSize movementType).run e = (.ok rows, e))
        (List.range' 1 (lastPage (e.view.ledgerOf inventory.warehouseId skuId movementType).length pageSize)) pages ∧
      pages.flatten = e.view.ledgerOf inventory.warehouseId skuId movementType := by
  intro hclaim
  obtain ⟨inventory, hposition, hledger⟩ := twiceReserved_position
  have hkeys : twiceReserved.view.MovementKeys := by
    unfold Db.MovementKeys
    decide +kernel
  obtain ⟨pages, hpages, hflatten⟩ := hclaim hposition hkeys Nat.one_pos none
  have hlength : (twiceReserved.view.ledgerOf inventory.warehouseId 5 none).length = 2 := by
    simpa using congrArg List.length hledger
  rw [hlength] at hpages
  cases hpages with
  | cons hfirst hrest =>
    cases hrest with
    | cons hsecond hnil =>
      cases hnil
      rw [run_movementsPage hposition (le_refl 1)] at hfirst
      rw [run_movementsPage hposition (by decide)] at hsecond
      cases hfirst
      cases hsecond
      have hmapped := congrArg (List.map InventoryMovement.idempotencyKey) hflatten
      simp only [List.flatten_cons, List.flatten_nil, List.map_append, List.map_take, hledger] at hmapped
      revert hmapped
      decide

end NovaCommerce
