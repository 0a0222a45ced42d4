import NovaCommerce.Console.Metrics
import NovaCommerce.Inventory.Ledger
import NovaCommerce.Lib.Journal

/-!
# Stock in the past

Rows of stock are added, and stock calls run on them, under a clock. The report reads the rows and the movements of a window,
and reconstructs what was on hand at an instant.

* `StockBooks` : the stock with the time each row was inserted; `StockBooks.step`, `StockBooks.run` : what happens to it;
* `StockBooks.journal` : the movements of a position, as a journal of what it holds;
* `reconstructed_step` : a later step leaves what was on hand; `onHand_exact` : so the report finds what the rows held.
-/

namespace NovaCommerce.Console

/-! ## Stock under a clock -/

/-- The columns of a stock row that the stock calls do not read. -/
structure StockColumns where
  merchantId : Option Nat := none
  createdAt : Time := 0

/-- The stock, with those columns by row id, and when each movement was inserted. -/
structure StockBooks where
  db : Db
  columns : Nat → StockColumns
  movedAt : List Time
  next : Nat

/-- A step: a row is added, or a stock call runs. -/
inductive StockStep where
  | add (merchantId : Option Nat) (row : Inventory)
  | call (call : StockCall)

/-- The constraints of `inventories`: one row for each position, and no negative quantity. -/
def Admits (d : Db) (row : Inventory) : Prop :=
  d.inventoryAt row.warehouseId row.skuId = none ∧ 0 ≤ row.availableQty ∧ 0 ≤ row.lockedQty ∧ 0 ≤ row.safetyStock

instance (d : Db) (row : Inventory) : Decidable (Admits d row) := by
  unfold Admits
  cases d.inventoryAt row.warehouseId row.skuId <;> simp only [reduceCtorEq, false_and, true_and] <;> infer_instance

/-- The row is inserted under the next id. -/
def StockBooks.added (b : StockBooks) (merchantId : Option Nat) (row : Inventory) (now : Time) : StockBooks :=
  { b with
    db := { b.db with inventories := b.db.inventories.set b.next row }
    columns := Function.update b.columns b.next ⟨merchantId, now⟩
    next := b.next + 1 }

/-- `InventoryRepository.add`. -/
def StockBooks.add (b : StockBooks) (merchantId : Option Nat) (row : Inventory) (now : Time) : StockBooks :=
  if Admits b.db row then b.added merchantId row now else b

/-- A call in a transaction of its own; the movements it inserts are stamped. -/
def StockBooks.call (b : StockBooks) (call : StockCall) (now : Time) : StockBooks :=
  let db := (call.runOn b.db now).2
  { b with
    db := db
    movedAt := b.movedAt ++ List.replicate (db.movements.length - b.db.movements.length) now }

def StockBooks.step (b : StockBooks) : StockStep × Time → StockBooks
  | (.add merchantId row, now) => b.add merchantId row now
  | (.call call, now) => b.call call now

def StockBooks.run (b : StockBooks) (steps : List (StockStep × Time)) : StockBooks := steps.foldl StockBooks.step b

/-- A shop without stock. -/
def StockBooks.opening (d : Db) : StockBooks where
  db := { d with inventories := Dict.empty, movements := [] }
  columns := fun _ => {}
  movedAt := []
  next := 1

/-! ## What the report reads -/

def StockBooks.position (b : StockBooks) (id : Nat) (row : Inventory) : StockPosition :=
  { row with merchantId := (b.columns id).merchantId, createdAt := (b.columns id).createdAt }

def StockBooks.ledger (b : StockBooks) : List LedgerEntry :=
  List.zipWith (fun m createdAt => { m with createdAt := createdAt }) b.db.movements b.movedAt

/-- The tables, as the report reads them. -/
def StockBooks.tables (b : StockBooks) : Tables where
  positions := {
    entries := b.db.inventories.entries.map fun e => (e.1, b.position e.1 e.2)
    nodup := by
      rw [List.map_map]
      exact b.db.inventories.nodup }
  movements := Dict.empty.setFrom 1 b.ledger

/-- What the rows of a merchant hold, available and locked. -/
def StockBooks.held (b : StockBooks) (merchantId : Nat) : Int :=
  ((b.tables.positions.select fun row => decide (row.merchantId = some merchantId)).map fun e =>
    e.2.availableQty + e.2.lockedQty).sum

/-! ## Positions as journals -/

/-- The movements of a position, each with what it found on hand, and what the row holds now. -/
def StockBooks.journal (b : StockBooks) (row : Inventory) : Journal Int Int where
  entries := (b.ledger.filter fun v => decide (v.warehouseId = row.warehouseId ∧ v.skuId = row.skuId)).map fun v =>
    (v.createdAt, v.beforeAvailable + v.beforeLocked)
  current := row.availableQty + row.lockedQty

/-- What a row of the merchant held at an instant. -/
def StockBooks.rowAt (b : StockBooks) (merchantId : Nat) (t : Int) (id : Nat) (row : Inventory) : Int :=
  if (b.columns id).merchantId = some merchantId then
    if t ≤ (b.columns id).createdAt then 0 else (b.journal row).valueAt t
  else 0

def StockBooks.reconstructed (b : StockBooks) (merchantId : Nat) (t : Int) : Int :=
  b.db.inventories.total (b.rowAt merchantId t)

/-- What holds of the books after every step. -/
structure StockBooks.Sound (b : StockBooks) : Prop where
  stamped : b.movedAt.length = b.db.movements.length
  placed : ∀ id row, b.db.inventories.get? id = some row → b.db.inventoryAt row.warehouseId row.skuId = some (id, row)
  fresh : ∀ id, b.next ≤ id → b.db.inventories.get? id = none

/-- Every row and every movement was inserted at a time with the property. -/
structure StockBooks.Stamped (p : Time → Prop) (b : StockBooks) : Prop where
  rows : ∀ id row, b.db.inventories.get? id = some row → p (b.columns id).createdAt
  movements : ∀ t ∈ b.movedAt, p t

/-! ## One step -/

/-- A movement of the row `id`. -/
def StockBooks.posted (b : StockBooks) (id : Nat) (m : InventoryMovement) (write : Inventory → Inventory) (now : Time) :
    StockBooks :=
  { b with
    db := { b.db with
      movements := b.db.movements ++ [m]
      inventories := b.db.inventories.modify id write }
    movedAt := b.movedAt ++ [now] }

@[simp] theorem added_inventories (b : StockBooks) (merchantId : Option Nat) (row : Inventory) (now : Time) :
    (b.added merchantId row now).db.inventories = b.db.inventories.set b.next row := rfl

@[simp] theorem posted_inventories (b : StockBooks) (id : Nat) (m : InventoryMovement) (write : Inventory → Inventory)
    (now : Time) : (b.posted id m write now).db.inventories = b.db.inventories.modify id write := rfl

/-- What a step does: nothing, a row under the next id, or one movement on the row of its position. -/
inductive StockBooks.Steps (b : StockBooks) (now : Time) : StockBooks → Prop where
  | kept : Steps b now b
  | added (merchantId : Option Nat) (row : Inventory) (free : b.db.inventoryAt row.warehouseId row.skuId = none) :
      Steps b now (b.added merchantId row now)
  | posted {id : Nat} {row : Inventory} {m : InventoryMovement} (write : Inventory → Inventory)
      (position : b.db.inventoryAt m.warehouseId m.skuId = some (id, row))
      (before : m.beforeAvailable = row.availableQty ∧ m.beforeLocked = row.lockedQty)
      (kept : ∀ r, (write r).warehouseId = r.warehouseId ∧ (write r).skuId = r.skuId) :
      Steps b now (b.posted id m write now)

theorem posted_runOn (d : Db) (call : StockCall) (now : Time) : Posted d (call.runOn d now).2 := by
  rcases call.runOn_eq d now with ⟨d', hrun, hdid⟩ | ⟨error, hrun⟩
  · rw [hrun]
    exact hdid.posted
  · rw [hrun]
    exact .replayed

theorem StockBooks.steps (b : StockBooks) (step : StockStep × Time) : b.Steps step.2 (b.step step) := by
  obtain ⟨step, now⟩ := step
  cases step with
  | add merchantId row =>
    show b.Steps now (b.add merchantId row now)
    unfold StockBooks.add
    by_cases hadmits : Admits b.db row
    · rw [if_pos hadmits]
      exact .added merchantId row hadmits.1
    · rw [if_neg hadmits]
      exact .kept
  | call call =>
    have hposted := posted_runOn b.db call now
    show b.Steps now (b.call call now)
    unfold StockBooks.call
    generalize (call.runOn b.db now).2 = d at hposted ⊢
    cases hposted with
    | replayed =>
      dsimp only
      rw [Nat.sub_self, List.replicate_zero, List.append_nil]
      exact .kept
    | @applied id row m write unused position deltas before after kept checked =>
      have hone : (b.db.movements ++ [m]).length - b.db.movements.length = 1 := by
        rw [List.length_append, Nat.add_sub_cancel_left, List.length_singleton]
      dsimp only
      rw [hone]
      exact .posted write position before kept

/-- A row that is written stays at its position. -/
theorem inventoryAt_modify (d : Db) (d' : Db) {id : Nat} {write : Inventory → Inventory}
    (inventories : d'.inventories = d.inventories.modify id write)
    (kept : ∀ r, (write r).warehouseId = r.warehouseId ∧ (write r).skuId = r.skuId) (w s : Nat) :
    d'.inventoryAt w s = (d.inventoryAt w s).map fun e => if e.1 = id then (e.1, write e.2) else e := by
  unfold Db.inventoryAt
  rw [inventories]
  exact Dict.find?_modify d.inventories id fun r => by rw [(kept r).1, (kept r).2]

theorem StockBooks.opening_sound (d : Db) : (StockBooks.opening d).Sound where
  stamped := rfl
  placed _ _ hrow := nomatch hrow
  fresh _ _ := rfl

theorem StockBooks.Steps.sound {b b' : StockBooks} {now : Time} (h : b.Steps now b') (hb : b.Sound) : b'.Sound := by
  cases h with
  | kept => exact hb
  | added merchantId row free =>
    have hnew := hb.fresh b.next (le_refl _)
    refine ⟨hb.stamped, fun id r hr => ?_, fun id hid => ?_⟩
    · show (b.db.inventories.set b.next row).find? _ = _
      rw [Dict.find?_set_fresh hnew]
      by_cases hid : id = b.next
      · rw [added_inventories, hid, Dict.get?_set_self] at hr
        cases hr
        have hnone : b.db.inventories.find? (fun r => decide (r.warehouseId = row.warehouseId ∧ r.skuId = row.skuId)) =
            none := free
        rw [hid, hnone]
        simp
      · rw [added_inventories, Dict.get?_set_ne hid] at hr
        have hsome : b.db.inventories.find? (fun q => decide (q.warehouseId = r.warehouseId ∧ q.skuId = r.skuId)) =
            some (id, r) := hb.placed id r hr
        rw [hsome]
        rfl
    · rw [added_inventories, Dict.get?_set_ne (Nat.ne_of_gt hid)]
      exact hb.fresh id (Nat.le_of_succ_le hid)
  | @posted id row m write position before kept =>
    refine ⟨?_, fun id' r hr => ?_, fun id' hid => ?_⟩
    · show (b.movedAt ++ [now]).length = (b.db.movements ++ [m]).length
      rw [List.length_append, List.length_append, hb.stamped, List.length_singleton, List.length_singleton]
    · rw [posted_inventories, Dict.get?_modify] at hr
      rw [inventoryAt_modify b.db _ rfl kept]
      by_cases hid : id' = id
      · rw [if_pos hid] at hr
        obtain ⟨held, hheld, rfl⟩ := Option.map_eq_some_iff.mp hr
        rw [(kept held).1, (kept held).2, hb.placed id' held hheld, Option.map_some, if_pos hid]
      · rw [if_neg hid] at hr
        rw [hb.placed id' r hr, Option.map_some, if_neg hid]
    · exact Dict.get?_modify_none (hb.fresh id' hid) id write

theorem StockBooks.Steps.stamped {b b' : StockBooks} {now : Time} {p : Time → Prop} (h : b.Steps now b')
    (hb : b.Stamped p) (hnow : p now) : b'.Stamped p := by
  cases h with
  | kept => exact hb
  | added merchantId row free =>
    refine ⟨fun id r hr => ?_, hb.movements⟩
    show p (Function.update b.columns b.next ⟨merchantId, now⟩ id).createdAt
    by_cases hid : id = b.next
    · rw [hid, Function.update_self]
      exact hnow
    · rw [Function.update_of_ne hid]
      exact hb.rows id r ((Dict.get?_set_ne hid row).symm.trans hr)
  | @posted id row m write position before kept =>
    refine ⟨fun id' r hr => ?_, fun t ht => ?_⟩
    · rw [posted_inventories, Dict.get?_modify] at hr
      by_cases hid : id' = id
      · rw [if_pos hid] at hr
        obtain ⟨held, hheld, -⟩ := Option.map_eq_some_iff.mp hr
        exact hb.rows id' held hheld
      · rw [if_neg hid] at hr
        exact hb.rows id' r hr
    · rcases List.mem_append.mp ht with ht | ht
      · exact hb.movements t ht
      · rw [List.mem_singleton.mp ht]
        exact hnow

/-! ## What was on hand -/

theorem StockBooks.Sound.ledger_posted {b : StockBooks} (hb : b.Sound) (id : Nat) (m : InventoryMovement)
    (write : Inventory → Inventory) (now : Time) :
    (b.posted id m write now).ledger = b.ledger ++ [{ m with createdAt := now }] := by
  unfold StockBooks.ledger StockBooks.posted
  rw [List.zipWith_append hb.stamped.symm]
  rfl

/-- A posted movement is a change of the journal of its position. -/
theorem StockBooks.Sound.journal_posted {b : StockBooks} (hb : b.Sound) (id : Nat) {m : InventoryMovement}
    (write : Inventory → Inventory) (now : Time) {row : Inventory}
    (position : m.warehouseId = row.warehouseId ∧ m.skuId = row.skuId)
    (before : m.beforeAvailable = row.availableQty ∧ m.beforeLocked = row.lockedQty)
    (kept : (write row).warehouseId = row.warehouseId ∧ (write row).skuId = row.skuId) :
    (b.posted id m write now).journal (write row) =
      (b.journal row).change now ((write row).availableQty + (write row).lockedQty) := by
  unfold StockBooks.journal Journal.change
  rw [hb.ledger_posted, List.filter_append, kept.1, kept.2, List.filter_singleton, decide_eq_true position, cond_true,
    List.map_append, List.map_singleton, before.1, before.2]

/-- The other journals are as they were. -/
theorem StockBooks.Sound.journal_posted_other {b : StockBooks} (hb : b.Sound) (id : Nat) {m : InventoryMovement}
    (write : Inventory → Inventory) (now : Time) {row : Inventory}
    (position : ¬ (m.warehouseId = row.warehouseId ∧ m.skuId = row.skuId)) :
    (b.posted id m write now).journal row = b.journal row := by
  unfold StockBooks.journal
  rw [hb.ledger_posted, List.filter_append, List.filter_singleton, decide_eq_false position, cond_false, List.append_nil]

theorem rowAt_added_self (b : StockBooks) (owner : Option Nat) (row r : Inventory) {now : Time} (merchantId : Nat) {t : Int}
    (ht : t ≤ now) : (b.added owner row now).rowAt merchantId t b.next r = 0 := by
  have hcolumns : (b.added owner row now).columns b.next = ⟨owner, now⟩ := Function.update_self ..
  unfold StockBooks.rowAt
  rw [hcolumns, if_pos ht, ite_self]

theorem rowAt_added_other (b : StockBooks) (owner : Option Nat) (row r : Inventory) (now : Time) (merchantId : Nat) (t : Int)
    {id : Nat} (hid : id ≠ b.next) : (b.added owner row now).rowAt merchantId t id r = b.rowAt merchantId t id r := by
  have hcolumns : (b.added owner row now).columns id = b.columns id := Function.update_of_ne hid ..
  unfold StockBooks.rowAt
  rw [hcolumns]
  rfl

/-- A step leaves what was on hand at every instant up to it. -/
theorem reconstructed_step {b b' : StockBooks} {now : Time} (h : b.Steps now b') (hb : b.Sound) (merchantId : Nat)
    {t : Int} (ht : t ≤ now) : b'.reconstructed merchantId t = b.reconstructed merchantId t := by
  cases h with
  | kept => rfl
  | added owner row free =>
    have hnew := hb.fresh b.next (le_refl _)
    show (b.db.inventories.set b.next row).total ((b.added owner row now).rowAt merchantId t) = _
    rw [Dict.total_set_fresh hnew, rowAt_added_self b owner row row merchantId ht, add_zero]
    refine Dict.total_congr fun e he => rowAt_added_other b owner row e.2 now merchantId t fun hid => ?_
    rw [← hid, Dict.get?_eq_some.mpr he] at hnew
    cases hnew
  | @posted id row m write position before kept =>
    obtain ⟨hrow, hw, hs⟩ := inventoryAt_some position
    show ((b.db.inventories.entries.map fun e => if e.1 = id then (e.1, write e.2) else e).map fun e =>
      (b.posted id m write now).rowAt merchantId t e.1 e.2).sum = _
    rw [List.map_map]
    refine congrArg List.sum (List.map_congr_left fun e he => ?_)
    have hentry := Dict.get?_eq_some.mpr he
    dsimp only [Function.comp]
    unfold StockBooks.rowAt
    by_cases hid : e.1 = id
    · -- the row of the movement: its journal is changed, not before `t`
      rw [hid, hrow] at hentry
      cases hentry
      rw [if_pos hid, hb.journal_posted id write now ⟨hw.symm, hs.symm⟩ before (kept _), Journal.valueAt_change ht]
      rfl
    · -- no other row is at its position
      have hplaced := hb.placed e.1 e.2 hentry
      have hposition : ¬ (m.warehouseId = e.2.warehouseId ∧ m.skuId = e.2.skuId) := by
        rintro ⟨hwarehouse, hsku⟩
        rw [← hwarehouse, ← hsku, position] at hplaced
        cases hplaced
        exact hid rfl
      rw [if_neg hid, hb.journal_posted_other id write now hposition]
      rfl

theorem StockBooks.Sound.createdAt_ledger {b : StockBooks} (hb : b.Sound) :
    b.ledger.map LedgerEntry.createdAt = b.movedAt := by
  have hzip : ∀ (ms : List InventoryMovement) (ts : List Time), ts.length = ms.length →
      (List.zipWith (fun m t => ({ m with createdAt := t } : LedgerEntry)) ms ts).map LedgerEntry.createdAt = ts := by
    intro ms
    induction ms with
    | nil =>
      intro ts h
      rw [List.eq_nil_of_length_eq_zero h]
      rfl
    | cons m ms ih =>
      intro ts h
      cases ts with
      | nil => rfl
      | cons t ts =>
        rw [List.zipWith_cons_cons, List.map_cons, ih ts (Nat.succ.inj h)]
  exact hzip _ _ hb.stamped

/-- Over books that were written before `t`, what was on hand at `t` is what the rows hold. -/
theorem reconstructed_eq_held {b : StockBooks} (hsound : b.Sound) {t : Int} (hb : b.Stamped fun u => (u : Int) < t)
    (merchantId : Nat) : b.reconstructed merchantId t = b.held merchantId := by
  have hledger : ∀ v ∈ b.ledger, (v.createdAt : Int) < t := by
    intro v hv
    refine hb.movements _ ?_
    rw [← hsound.createdAt_ledger]
    exact List.mem_map_of_mem hv
  have hrow : ∀ e ∈ b.db.inventories.entries, b.rowAt merchantId t e.1 e.2 =
      if decide ((b.position e.1 e.2).merchantId = some merchantId) = true then
        (b.position e.1 e.2).availableQty + (b.position e.1 e.2).lockedQty else 0 := by
    intro e he
    have hcreated := hb.rows e.1 e.2 (Dict.get?_eq_some.mpr he)
    unfold StockBooks.rowAt
    rw [if_neg (not_le.mpr hcreated), Journal.valueAt_eq_current]
    · simp only [decide_eq_true_eq]
      rfl
    · intro entry hentry
      obtain ⟨v, hv, rfl⟩ := List.mem_map.mp hentry
      exact not_le.mpr (hledger v (List.mem_of_mem_filter hv))
  unfold StockBooks.held
  rw [Dict.sum_select b.tables.positions _ fun row => row.availableQty + row.lockedQty]
  unfold StockBooks.reconstructed Dict.total StockBooks.tables
  rw [List.map_map, List.map_congr_left hrow]
  rfl

/-! ## What the report finds -/

/-- The ledger of a window, in the order of its query. -/
theorem oldestFirst_ledger {b : StockBooks} (hb : b.Sound) (hordered : b.movedAt.Pairwise (· ≤ ·)) (p : LedgerEntry → Bool) :
    (oldestFirst LedgerEntry.createdAt (b.tables.movements.select p)).map Prod.snd = b.ledger.filter p := by
  have hentries : b.tables.movements.entries = (b.ledger.zipIdx 1).map Prod.swap := by
    show (Dict.empty.setFrom 1 b.ledger).entries = _
    rw [Dict.entries_setFrom fun _ _ => rfl]
    rfl
  have hsorted : ∀ (vs : List LedgerEntry) (k : Nat), (vs.map LedgerEntry.createdAt).Pairwise (· ≤ ·) →
      ((vs.zipIdx k).map Prod.swap).Pairwise fun a b =>
        a.2.createdAt < b.2.createdAt ∨ (a.2.createdAt = b.2.createdAt ∧ a.1 ≤ b.1) := by
    intro vs
    induction vs with
    | nil => exact fun _ _ => List.Pairwise.nil
    | cons v vs ih =>
      intro k h
      rw [List.map_cons, List.pairwise_cons] at h
      rw [List.zipIdx_cons, List.map_cons, List.pairwise_cons]
      refine ⟨fun e he => ?_, ih (k + 1) h.2⟩
      obtain ⟨⟨w, i⟩, hw, rfl⟩ := List.mem_map.mp he
      have hid := List.le_snd_of_mem_zipIdx hw
      have hle := h.1 w.createdAt (List.mem_map_of_mem (List.fst_mem_of_mem_zipIdx hw))
      rcases lt_or_eq_of_le hle with hlt | heq
      · exact .inl hlt
      · exact .inr ⟨heq, Nat.le_of_succ_le hid⟩
  have hledger := hsorted b.ledger 1 (by rw [hb.createdAt_ledger]; exact hordered)
  unfold oldestFirst Dict.select
  rw [hentries, (hledger.filter _).insertionSort_eq]
  have hsnd : ((b.ledger.zipIdx 1).map Prod.swap).map Prod.snd = b.ledger := by
    rw [List.map_map]
    exact List.zipIdx_map_fst 1 b.ledger
  conv_rhs => rw [← hsnd, List.filter_map]
  rfl

/-- The movements of a position in a window are its journal from there on. -/
theorem valueAt_window {b : StockBooks} (hb : b.Sound) (hordered : b.movedAt.Pairwise (· ≤ ·)) (row : Inventory)
    (q : LedgerEntry → Bool) {start t : Int} (loaded : start ≤ t)
    (hq : ∀ v : LedgerEntry, v.warehouseId = row.warehouseId ∧ v.skuId = row.skuId → (q v = true ↔ start ≤ v.createdAt)) :
    (match (((oldestFirst LedgerEntry.createdAt (b.tables.movements.select q)).filter fun e =>
        decide (e.2.warehouseId = row.warehouseId ∧ e.2.skuId = row.skuId)).map Prod.snd).find?
          fun v => decide (t ≤ v.createdAt) with
      | some v => v.beforeAvailable + v.beforeLocked
      | none => row.availableQty + row.lockedQty) = (b.journal row).valueAt t := by
  have hwindow : ((oldestFirst LedgerEntry.createdAt (b.tables.movements.select q)).filter fun e =>
        decide (e.2.warehouseId = row.warehouseId ∧ e.2.skuId = row.skuId)).map Prod.snd =
      (b.ledger.filter fun v => decide (v.warehouseId = row.warehouseId ∧ v.skuId = row.skuId)).filter fun v =>
        decide (start ≤ v.createdAt) := by
    have hrows := congrArg (List.filter fun v => decide (v.warehouseId = row.warehouseId ∧ v.skuId = row.skuId))
      (oldestFirst_ledger hb hordered q)
    rw [List.filter_map] at hrows
    refine hrows.trans ?_
    rw [List.filter_filter, List.filter_filter]
    refine List.filter_congr fun v _ => ?_
    by_cases hposition : v.warehouseId = row.warehouseId ∧ v.skuId = row.skuId
    · rw [decide_eq_true hposition, Bool.true_and, Bool.and_true, Bool.eq_iff_iff, hq v hposition, decide_eq_true_eq]
    · rw [decide_eq_false hposition, Bool.false_and, Bool.and_false]
  have hfound : ∀ found : Option LedgerEntry, (match found with
      | some v => v.beforeAvailable + v.beforeLocked
      | none => row.availableQty + row.lockedQty) =
      (found.map fun v => v.beforeAvailable + v.beforeLocked).getD (row.availableQty + row.lockedQty) := by
    intro found
    cases found <;> rfl
  rw [hwindow, ← Journal.valueAt_since (b.journal row) loaded]
  unfold Journal.valueAt Journal.since StockBooks.journal
  rw [List.filter_map, List.find?_map, Option.map_map]
  exact hfound _

/-- What the report finds on hand is what the books reconstruct. -/
theorem onHand_positionHistory {b : StockBooks} (hb : b.Sound) (hordered : b.movedAt.Pairwise (· ≤ ·)) (merchantId : Nat)
    {start t : Int} (loaded : start ≤ t) :
    onHand (b.tables.positionHistory merchantId start) t = b.reconstructed merchantId t := by
  unfold onHand Tables.positionHistory
  dsimp only
  rw [List.map_map, List.map_map]
  refine (congrArg List.sum (List.map_congr_left (g := fun e : Nat × StockPosition =>
    if t ≤ e.2.createdAt then 0 else (b.journal e.2.toInventory).valueAt t) fun e he => ?_)).trans ?_
  · dsimp only [Function.comp]
    by_cases hcreated : t ≤ e.2.createdAt
    · rw [if_pos hcreated, if_pos hcreated]
    · rw [if_neg hcreated, if_neg hcreated]
      -- the query names the SKU and the warehouse of every row that it found
      have hrow : e.2 ∈ (b.tables.positions.select fun row => decide (row.merchantId = some merchantId)).map Prod.snd :=
        List.mem_map_of_mem he
      refine valueAt_window hb hordered e.2.toInventory _ loaded fun v hposition => ?_
      rw [decide_eq_true_eq]
      refine ⟨fun hv => hv.2.2, fun hv => ⟨?_, ?_, hv⟩⟩
      · rw [hposition.2]
        exact List.mem_map_of_mem hrow
      · rw [hposition.1]
        exact List.mem_map_of_mem hrow
  · rw [Dict.sum_select b.tables.positions _ fun row => if t ≤ row.createdAt then 0 else (b.journal row.toInventory).valueAt t]
    unfold StockBooks.reconstructed Dict.total StockBooks.tables
    rw [List.map_map]
    refine congrArg List.sum (List.map_congr_left fun e _ => ?_)
    show (if decide ((b.columns e.1).merchantId = some merchantId) = true then _ else 0) = b.rowAt merchantId t e.1 e.2
    simp only [decide_eq_true_eq]
    rfl

/-- The steps at an instant and later come behind the others. -/
theorem filter_append_filter {α : Type} (time : α → Time) (t : Int) : ∀ {steps : List α},
    (steps.map time).Pairwise (· ≤ ·) →
    steps.filter (fun e => decide ((time e : Int) < t)) ++ steps.filter (fun e => decide (t ≤ time e)) = steps := by
  intro steps
  induction steps with
  | nil => exact fun _ => rfl
  | cons e steps ih =>
    intro h
    rw [List.map_cons, List.pairwise_cons] at h
    by_cases ht : (time e : Int) < t
    · rw [List.filter_cons, List.filter_cons, if_pos (decide_eq_true ht), if_neg (by simpa using ht), List.cons_append, ih h.2]
    · have hlater : ∀ x ∈ e :: steps, t ≤ time x := by
        intro x hx
        rcases List.mem_cons.mp hx with rfl | hx
        · exact not_lt.mp ht
        · exact (not_lt.mp ht).trans (Int.ofNat_le.mpr (h.1 (time x) (List.mem_map_of_mem hx)))
      rw [List.filter_eq_nil_iff.mpr (fun x hx => by simpa using hlater x hx),
        List.filter_eq_self.mpr (fun x hx => by simpa using hlater x hx), List.nil_append]

/-! ## Runs -/

theorem run_append (b : StockBooks) (steps later : List (StockStep × Time)) :
    b.run (steps ++ later) = (b.run steps).run later := List.foldl_append

theorem run_sound : ∀ {steps : List (StockStep × Time)} {b : StockBooks}, b.Sound → (b.run steps).Sound := by
  intro steps
  induction steps with
  | nil => exact fun h => h
  | cons step steps ih => exact fun h => ih ((StockBooks.steps _ step).sound h)

theorem run_stamped {p : Time → Prop} : ∀ {steps : List (StockStep × Time)} {b : StockBooks}, b.Stamped p →
    (∀ step ∈ steps, p step.2) → (b.run steps).Stamped p := by
  intro steps
  induction steps with
  | nil => exact fun h _ => h
  | cons step steps ih =>
    intro b h hsteps
    exact ih ((b.steps step).stamped h (hsteps step List.mem_cons_self)) fun later hlater =>
      hsteps later (List.mem_cons_of_mem _ hlater)

/-- The steps from an instant on leave what was on hand there. -/
theorem reconstructed_run {merchantId : Nat} {t : Int} : ∀ {steps : List (StockStep × Time)} {b : StockBooks}, b.Sound →
    (∀ step ∈ steps, t ≤ step.2) → (b.run steps).reconstructed merchantId t = b.reconstructed merchantId t := by
  intro steps
  induction steps with
  | nil => exact fun _ _ => rfl
  | cons step steps ih =>
    intro b hb hsteps
    have hstep := b.steps step
    show ((b.step step).run steps).reconstructed merchantId t = _
    rw [ih (hstep.sound hb) fun later hlater => hsteps later (List.mem_cons_of_mem _ hlater)]
    exact reconstructed_step hstep hb merchantId (hsteps step List.mem_cons_self)

/-- Under a clock, the movements come in the order of their times. -/
theorem run_ordered : ∀ {steps : List (StockStep × Time)} {b : StockBooks}, (steps.map Prod.snd).Pairwise (· ≤ ·) →
    (∀ t ∈ b.movedAt, ∀ step ∈ steps, t ≤ step.2) → b.movedAt.Pairwise (· ≤ ·) → (b.run steps).movedAt.Pairwise (· ≤ ·) := by
  intro steps
  induction steps with
  | nil => exact fun _ _ h => h
  | cons step steps ih =>
    intro b hsteps hbefore hb
    rw [List.map_cons, List.pairwise_cons] at hsteps
    have hnow : ∀ later ∈ steps, step.2 ≤ later.2 := fun later hlater => hsteps.1 _ (List.mem_map_of_mem hlater)
    have hrest : ∀ t ∈ b.movedAt, ∀ later ∈ steps, t ≤ later.2 := fun t ht later hlater =>
      hbefore t ht later (List.mem_cons_of_mem _ hlater)
    have hstep := b.steps step
    show ((b.step step).run steps).movedAt.Pairwise (· ≤ ·)
    generalize b.step step = b' at hstep ⊢
    cases hstep with
    | kept => exact ih hsteps.2 hrest hb
    | added merchantId row free => exact ih hsteps.2 hrest hb
    | posted write position before kept =>
      refine ih hsteps.2 (fun t ht later hlater => ?_) ?_
      · rcases List.mem_append.mp ht with ht | ht
        · exact hrest t ht later hlater
        · rw [List.mem_singleton.mp ht]
          exact hnow later hlater
      · refine List.pairwise_append.mpr ⟨hb, List.pairwise_singleton _ _, fun t ht u hu => ?_⟩
        rw [List.mem_singleton.mp hu]
        exact hbefore t ht step List.mem_cons_self

/-- What the report finds on hand at an instant of its window, over any run of additions and stock calls under a clock, is
what the rows of the merchant held after the steps before that instant. -/
theorem onHand_exact (d : Db) (steps : List (StockStep × Time)) (clock : (steps.map Prod.snd).Pairwise (· ≤ ·))
    (merchantId : Nat) {start t : Int} (loaded : start ≤ t) :
    onHand (((StockBooks.opening d).run steps).tables.positionHistory merchantId start) t =
      ((StockBooks.opening d).run (steps.filter fun step => decide ((step.2 : Int) < t))).held merchantId := by
  have hopening := StockBooks.opening_sound d
  have hbefore : ∀ step ∈ steps.filter (fun step => decide ((step.2 : Int) < t)), (step.2 : Int) < t :=
    fun step hstep => of_decide_eq_true (List.mem_filter.mp hstep).2
  have hafter : ∀ step ∈ steps.filter (fun step => decide (t ≤ step.2)), t ≤ step.2 :=
    fun step hstep => of_decide_eq_true (List.mem_filter.mp hstep).2
  have hstamped : (StockBooks.opening d).Stamped fun u => (u : Int) < t :=
    ⟨(fun _ _ hrow => nomatch hrow), (fun _ ht => nomatch ht)⟩
  have hordered := run_ordered (b := StockBooks.opening d) clock (fun _ ht => nomatch ht) List.Pairwise.nil
  rw [onHand_positionHistory (run_sound hopening) hordered merchantId loaded,
    ← reconstructed_eq_held (run_sound hopening) (run_stamped hstamped hbefore) merchantId]
  have hsound : ((StockBooks.opening d).run (steps.filter fun step => decide ((step.2 : Int) < t))).Sound := run_sound hopening
  have hrest := @reconstructed_run merchantId t _ _ hsound hafter
  rw [← run_append, filter_append_filter Prod.snd t clock] at hrest
  exact hrest

/-- Two positions, the second one added late: a purchase, and a reservation and a deduction in one instant. -/
theorem onHand_exact_two_positions :
    let d : Db := { warehouses := (Dict.empty : Dict Nat Warehouse).set 1 { merchantId := 1, isDefault := true } }
    let steps : List (StockStep × Time) := [
      (.add (some 1) { warehouseId := 1, skuId := 5, availableQty := 2 }, 10),
      (.call (.adjust { skuId := 5, version := 0, deltaAvailable := 10, idempotencyKey := "in" }), 20),
      (.call (.reserve { skuId := 5, quantity := 4, idempotencyKey := "lock" }), 30),
      (.call (.deduct { skuId := 5, quantity := 3, idempotencyKey := "deduct" }), 30),
      (.add (some 1) { warehouseId := 1, skuId := 6, availableQty := 7 }, 40)]
    (steps.map Prod.snd).Pairwise (· ≤ ·) ∧ (20 : Int) ≤ 30 ∧
      onHand (((StockBooks.opening d).run steps).tables.positionHistory 1 20) 30 =
        ((StockBooks.opening d).run (steps.filter fun step => decide ((step.2 : Int) < 30))).held 1 := by
  intro d steps
  have clock : (steps.map Prod.snd).Pairwise (· ≤ ·) := by decide
  exact ⟨clock, by decide, onHand_exact d steps clock 1 (by decide)⟩

end NovaCommerce.Console
