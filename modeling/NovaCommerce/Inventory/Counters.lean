import NovaCommerce.Inventory.Ledger

/-!
# The cumulative counters of a row

`totalInQty - totalOutQty` is what the row holds, as long as every call that moves the stock moves a counter with it.
A deduction, a return and a positive adjustment do; a negative adjustment lowers the available stock alone.

* `Inventory.unexplained` : what the counters claim beyond what the row holds;
* `StockCall.Lowers` : a negative adjustment of the position that the service applies;
* `counters_reconcile_iff` : the counters reconcile in every state of a run exactly when no call of it lowers.
-/

namespace NovaCommerce

open Sql

/-- What the counters of a row claim beyond what it holds. -/
def Inventory.unexplained (row : Inventory) : Int :=
  row.totalInQty - row.totalOutQty - (row.availableQty + row.lockedQty)

/-- The position has a row whose counters account for its quantities. -/
def Db.Reconciled (d : Db) (w s : Nat) : Prop :=
  ∃ id row, d.inventoryAt w s = some (id, row) ∧ row.totalInQty - row.totalOutQty = row.availableQty + row.lockedQty

/-- A row as it is created: no quantities, no counters. -/
def Db.CreatedEmpty (d : Db) (w s : Nat) : Prop :=
  ∃ id row, d.inventoryAt w s = some (id, row) ∧ row.availableQty = 0 ∧ row.lockedQty = 0 ∧ row.totalInQty = 0 ∧
    row.totalOutQty = 0

/-- The call is a negative adjustment of the position: its key is new, it is at the row's version, and the row can
carry it. -/
def StockCall.Lowers (d : Db) (w s : Nat) : StockCall → Prop
  | .adjust request => request.deltaAvailable < 0 ∧ d.movementAt request.idempotencyKey = none ∧
      d.warehouseFor request.warehouseId = some w ∧ request.skuId = s ∧
      ∃ entry ∈ d.inventoryAt w s, entry.2.version = request.version ∧
        0 ≤ entry.2.availableQty + request.deltaAvailable
  | _ => False

/-! ## One call -/

/-- The row of a position, its quantities not negative. -/
def Db.HasRow (d : Db) (w s id : Nat) (row : Inventory) : Prop :=
  d.inventoryAt w s = some (id, row) ∧ 0 ≤ row.availableQty ∧ 0 ≤ row.lockedQty

theorem Db.HasRow.reconciled_iff {d : Db} {w s id : Nat} {row : Inventory} (h : d.HasRow w s id row) :
    d.Reconciled w s ↔ row.unexplained = 0 := by
  unfold Db.Reconciled Inventory.unexplained
  constructor
  · rintro ⟨id', row', hat, heq⟩
    rw [h.1] at hat
    cases hat
    omega
  · intro heq
    refine ⟨id, row, h.1, ?_⟩
    omega

/-- The operation moves a counter with every unit that enters or leaves the row. -/
def StockOperation.Counts (op : StockOperation) : Prop :=
  ∀ row quantity, (op.change row quantity).unexplained = row.unexplained

theorem reserve_counts : reserveOperation.Counts := by
  intro row quantity
  simp only [reserveOperation, Inventory.unexplained]
  omega

theorem release_counts : releaseOperation.Counts := by
  intro row quantity
  simp only [releaseOperation, Inventory.unexplained]
  omega

theorem deduct_counts : deductOperation.Counts := by
  intro row quantity
  simp only [deductOperation, Inventory.unexplained]
  omega

theorem returnIn_counts : returnInOperation.Counts := by
  intro row quantity
  simp only [returnInOperation, Inventory.unexplained]
  omega

/-- A write of one row, seen from a position. -/
theorem HasRow.modified {d : Db} (d' : Db) {w s id : Nat} {row : Inventory} (h : d.HasRow w s id row) {id' : Nat}
    {write : Inventory → Inventory} (hinventories : d'.inventories = d.inventories.modify id' write)
    (hkept : ∀ r, (write r).warehouseId = r.warehouseId ∧ (write r).skuId = r.skuId)
    (hnonneg : id = id' → 0 ≤ (write row).availableQty ∧ 0 ≤ (write row).lockedQty) :
    d'.HasRow w s id (if id = id' then write row else row) := by
  have hat : d'.inventoryAt w s = some (if id = id' then (id, write row) else (id, row)) := by
    have hfind := Dict.find?_modify d.inventories id' (f := write)
      (p := fun r => decide (r.warehouseId = w ∧ r.skuId = s)) (fun r => by rw [(hkept r).1, (hkept r).2])
    have hrow := h.1
    unfold Db.inventoryAt at hrow ⊢
    rw [hinventories, hfind, hrow]
    rfl
  by_cases hid : id = id'
  · rw [if_pos hid] at hat ⊢
    exact ⟨hat, hnonneg hid⟩
  · rw [if_neg hid] at hat ⊢
    exact ⟨hat, h.2⟩

/-- A stock operation that counts leaves what the counters of a position miss. -/
theorem Moved.unexplained {op : StockOperation} (hop : op.Counts) {now : Time} {request : StockRequest} {d d' : Db}
    (h : Moved op now request d d') {w s id : Nat} {row : Inventory} (hrow : d.HasRow w s id row) :
    ∃ row', d'.HasRow w s id row' ∧ row'.unexplained = row.unexplained := by
  cases h with
  | replayed _ => exact ⟨row, hrow, rfl⟩
  | @applied warehouse id' held unused hfor hat accepted checked =>
    have hsame : id = id' → held = row := by
      rintro rfl
      have h₁ := (inventoryAt_some hat).1
      have h₂ := (inventoryAt_some hrow.1).1
      rw [h₁] at h₂
      exact Option.some.inj h₂
    refine ⟨_, HasRow.modified (d.moved op request now id' held) hrow rfl (fun _ => ⟨rfl, rfl⟩)
      fun _ => ⟨checked.2.2.1, checked.2.2.2⟩, ?_⟩
    split_ifs with hid
    · rw [← hsame hid]
      exact hop held request.quantity
    · rfl

/-- An adjustment leaves what the counters of a position miss, unless it is negative: then they miss its units. -/
theorem Adjusted.unexplained {now : Time} {request : AdjustRequest} {d d' : Db} (h : Adjusted now request d d')
    {w s id : Nat} {row : Inventory} (hrow : d.HasRow w s id row) :
    ∃ row', d'.HasRow w s id row' ∧
      ((StockCall.adjust request).Lowers d w s → row'.unexplained = row.unexplained - request.deltaAvailable) ∧
      (¬ (StockCall.adjust request).Lowers d w s → row'.unexplained = row.unexplained) := by
  cases h with
  | @replayed m used =>
    refine ⟨row, hrow, fun hlowers => ?_, fun _ => rfl⟩
    rw [hlowers.2.1] at used
    cases used
  | @applied warehouse id' held unused hfor hat hversion hresulting checked =>
    obtain ⟨hget, hw, hs⟩ := inventoryAt_some hat
    obtain ⟨hget', hw', hs'⟩ := inventoryAt_some hrow.1
    refine ⟨_, HasRow.modified (d.adjusted request now id' held) hrow rfl (fun _ => ⟨rfl, rfl⟩)
      fun hid => ⟨checked.2.2.1, ?_⟩, fun hlowers => ?_, fun hkept => ?_⟩
    · exact hrow.2.2
    · have hid : id = id' := by
        have h₁ := hrow.1
        rw [← hlowers.2.2.2.1, show w = warehouse from Option.some.inj (hlowers.2.2.1.symm.trans hfor), hat] at h₁
        exact (congrArg Prod.fst (Option.some.inj h₁)).symm
      subst hid
      rw [hget] at hget'
      cases hget'
      rw [if_pos rfl]
      simp only [Inventory.unexplained, Inventory.adjusted, if_neg (not_lt.mpr hlowers.1.le)]
      omega
    · split_ifs with hid
      · subst hid
        rw [hget] at hget'
        cases hget'
        have hdelta : ¬ request.deltaAvailable < 0 := by
          intro hneg
          refine hkept ⟨hneg, unused, ?_, hs.symm.trans hs', (id, row), ?_, hversion, hresulting⟩
          · rw [hfor, ← hw, hw']
          · exact hrow.1
        simp only [Inventory.unexplained, Inventory.adjusted]
        split_ifs with hpos
        · omega
        · omega
      · rfl

/-- A call that lowers goes through. -/
theorem StockCall.Lowers.runs {d : Db} {w s id : Nat} {row : Inventory} {request : AdjustRequest}
    (h : (StockCall.adjust request).Lowers d w s) (hrow : d.HasRow w s id row) (now : Time) :
    (StockCall.adjust request).runOn d now = (.ok (), d.adjusted request now id row) := by
  obtain ⟨hneg, unused, hfor, rfl, entry, hentry, hversion, hresulting⟩ := h
  rw [Option.mem_def, hrow.1, Option.some.injEq] at hentry
  subst hentry
  have hchecked : (request.movement row).Checked := ⟨hrow.2.1, hrow.2.2, hresulting, hrow.2.2⟩
  have hrun : (NovaCommerce.adjust request now).run (Exec.start d 0) = _ :=
    adjust_applied hneg.ne unused hfor hrow.1 hversion hresulting hchecked
  apply StockCall.runOn_of_body
  unfold StockCall.body
  rw [run_bind, hrun]
  rfl

/-- The row of a position after a call: the counters miss more exactly when the call lowers. -/
theorem StockCall.runOn_row (call : StockCall) (now : Time) {d : Db} {w s id : Nat} {row : Inventory}
    (hrow : d.HasRow w s id row) :
    ∃ row', (call.runOn d now).2.HasRow w s id row' ∧ (call.Lowers d w s → row.unexplained < row'.unexplained) ∧
      (¬ call.Lowers d w s → row'.unexplained = row.unexplained) := by
  have hcounts : ∀ op request, op.Counts → ∀ d', Moved op now request d d' →
      ∃ row', d'.HasRow w s id row' ∧ (False → row.unexplained < row'.unexplained) ∧
        (¬ False → row'.unexplained = row.unexplained) := by
    intro op request hop d' hmoved
    obtain ⟨row', hrow', heq⟩ := hmoved.unexplained hop hrow
    exact ⟨row', hrow', False.elim, fun _ => heq⟩
  rcases call.runOn_eq d now with ⟨d', hrun, hdid⟩ | ⟨error, hrun⟩
  · rw [hrun]
    cases call with
    | reserve request => exact hcounts _ request reserve_counts d' hdid
    | release request => exact hcounts _ request release_counts d' hdid
    | deduct request => exact hcounts _ request deduct_counts d' hdid
    | returnIn request => exact hcounts _ request returnIn_counts d' hdid
    | adjust request =>
      obtain ⟨row', hrow', hlowers, hkept⟩ := Adjusted.unexplained hdid hrow
      refine ⟨row', hrow', fun h => ?_, hkept⟩
      have hneg := h.1
      rw [hlowers h]
      omega
  · rw [hrun]
    refine ⟨row, hrow, fun h => ?_, fun _ => rfl⟩
    cases call with
    | adjust request =>
      rw [h.runs hrow now] at hrun
      cases hrun
    | _ => exact h.elim

/-! ## Runs -/

/-- From a row whose counters reconcile, they do in every state of a run exactly when no call of it lowers. -/
theorem reconciled_iff_of_row {w s : Nat} : ∀ {calls : List (StockCall × Time)} {d : Db} {id : Nat} {row : Inventory},
    d.HasRow w s id row → row.unexplained = 0 →
    ((∀ done rest, calls = done ++ rest → (runCalls done d).Reconciled w s) ↔
      ∀ done call now rest, calls = done ++ (call, now) :: rest → ¬ call.Lowers (runCalls done d) w s) := by
  intro calls
  induction calls with
  | nil =>
    intro d id row hrow hzero
    constructor
    · intro _ done call now rest h
      cases done <;> cases h
    · intro _ done rest h
      rw [(List.append_eq_nil_iff.mp h.symm).1]
      exact hrow.reconciled_iff.mpr hzero
  | cons entry calls ih =>
    intro d id row hrow hzero
    obtain ⟨call, now⟩ := entry
    obtain ⟨row', hrow', hlowers, hkept⟩ := call.runOn_row now hrow
    constructor
    · intro hreconciled done call' now' rest h
      have hafter := hrow'.reconciled_iff.mp (hreconciled [(call, now)] calls rfl)
      have hfirst : ¬ call.Lowers d w s := by
        intro h
        have hlt := hlowers h
        omega
      cases done with
      | nil =>
        cases h
        exact hfirst
      | cons entry' done =>
        cases h
        refine (ih hrow' hafter).mp (fun done' rest' h' => ?_) done call' now' rest rfl
        exact hreconciled ((call, now) :: done') rest' (by rw [h', List.cons_append])
    · intro hnever done rest h
      have hafter : row'.unexplained = 0 := (hkept (hnever [] call now calls rfl)).trans hzero
      cases done with
      | nil => exact hrow.reconciled_iff.mpr hzero
      | cons entry' done =>
        cases h
        refine (ih hrow' hafter).mpr (fun done' call' now' rest' h' => ?_) done rest rfl
        exact hnever ((call, now) :: done') call' now' rest' (by rw [h', List.cons_append])

/-- On a row created empty the counters account for the quantities in every state of a run exactly when no negative
adjustment of it is applied in the run. -/
theorem counters_reconcile_iff (d : Db) (w s : Nat) (created : d.CreatedEmpty w s) (calls : List (StockCall × Time)) :
    (∀ done rest, calls = done ++ rest → (runCalls done d).Reconciled w s) ↔
      ∀ done call now rest, calls = done ++ (call, now) :: rest → ¬ call.Lowers (runCalls done d) w s := by
  obtain ⟨id, row, hat, ha, hl, hin, hout⟩ := created
  have hrow : d.HasRow w s id row := ⟨hat, ha.ge, hl.ge⟩
  have hzero : row.unexplained = 0 := by
    unfold Inventory.unexplained
    omega
  exact reconciled_iff_of_row hrow hzero

/-- One warehouse with one empty position. -/
def oneEmptyPosition : Db where
  warehouses := (Dict.empty : Dict Nat Warehouse).set 1 { merchantId := 1, isDefault := true }
  inventories := (Dict.empty : Dict Nat Inventory).set 7 { warehouseId := 1, skuId := 5, availableQty := 0 }

/-- A purchase on an empty position. -/
theorem counters_reconcile_purchase :
    (∀ done rest, [(StockCall.adjust { skuId := 5, version := 0, deltaAvailable := 10, idempotencyKey := "in" }, 1)] =
      done ++ rest → (runCalls done oneEmptyPosition).Reconciled 1 5) ↔
    ∀ done call now rest, [(StockCall.adjust { skuId := 5, version := 0, deltaAvailable := 10, idempotencyKey := "in" },
      1)] = done ++ (call, now) :: rest → ¬ call.Lowers (runCalls done oneEmptyPosition) 1 5 :=
  counters_reconcile_iff oneEmptyPosition 1 5 ⟨7, _, rfl, rfl, rfl, rfl, rfl⟩ _

/-- Ten units come in and three are written off: the counters still claim ten. -/
theorem counters_written_off :
    oneEmptyPosition.CreatedEmpty 1 5 ∧
    ¬ (runCalls [(.adjust { skuId := 5, version := 0, deltaAvailable := 10, idempotencyKey := "in" }, 1),
      (.adjust { skuId := 5, version := 1, deltaAvailable := -3, idempotencyKey := "damaged" }, 2)]
      oneEmptyPosition).Reconciled 1 5 := by
  refine ⟨⟨7, _, rfl, rfl, rfl, rfl, rfl⟩, ?_⟩
  rintro ⟨id, row, hat, heq⟩
  have hrow := congrArg (Option.map fun e : Nat × Inventory => decide
    (e.2.totalInQty - e.2.totalOutQty = e.2.availableQty + e.2.lockedQty)) hat
  rw [Option.map_some, decide_eq_true heq] at hrow
  revert hrow
  decide +kernel

end NovaCommerce
