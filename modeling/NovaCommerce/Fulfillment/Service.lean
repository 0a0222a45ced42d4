import NovaCommerce.Order.Repository

/-!
# The fulfillment shell of a paid order
-/

namespace NovaCommerce

open Sql

/-- The unshipped package of an order. -/
def Db.unshippedShellFor (d : Db) (orderId : Nat) : Option (Nat × Fulfillment) :=
  d.fulfillments.find? fun f => decide (f.orderId = orderId ∧ f.fulfillmentStatus = .unfulfilled)

/-- The package of an order: one line per order line, at full quantity. -/
def Fulfillment.shell (fulfillmentNo : String) (orderId : Nat) (order : Order)
    (items : List (Nat × OrderItem)) (warehouseId : Nat) : Fulfillment where
  fulfillmentNo := fulfillmentNo
  orderId := orderId
  orderNo := order.orderNo
  merchantId := order.merchantId
  warehouseId := warehouseId
  items := items.map fun line => {
    orderItemId := line.1
    skuId := line.2.skuId
    productName := line.2.productName
    skuName := line.2.skuName
    quantity := line.2.quantity }

/-- One unshipped package per order; an order that has one keeps it. -/
def createShell (numberPrefix : String) (orderId : Nat) (order : Order) (items : List (Nat × OrderItem))
    (warehouseId : Nat) (now : Time) : Tx Unit := do
  raiseIf (items = [])
    { kind := .validation
      message := "a fulfillment shell needs at least one order line"
      context := [("order_no", .str order.orderNo)] }
  let _ ← getOrderForUpdate orderId
  match ← query fun d => d.unshippedShellFor orderId with
  | some _ => return ()
  | none =>
    let id ← newId
    update fun d => { d with
      fulfillments := d.fulfillments.set id
        (.shell (businessNo numberPrefix now id) orderId order items warehouseId) }

def FulfillmentItem.line (i : FulfillmentItem) : Nat × Int := (i.orderItemId, i.quantity)

/-- What `createShell` did. -/
inductive ShellCreated (orderId : Nat) (items : List (Nat × OrderItem)) (next : Nat) (d : Db) : Nat → Db → Prop where
  | present {id : Nat} {shell : Fulfillment} (found : d.unshippedShellFor orderId = some (id, shell)) :
      ShellCreated orderId items next d next d
  | created {shell : Fulfillment} (absent : d.unshippedShellFor orderId = none)
      (ofOrder : shell.orderId = orderId) (unshipped : shell.fulfillmentStatus = .unfulfilled)
      (lines : shell.items.map FulfillmentItem.line = items.map fun e => (e.1, e.2.quantity)) :
      ShellCreated orderId items next d (next + 1) { d with fulfillments := d.fulfillments.set next shell }

theorem createShell_created {numberPrefix : String} {orderId : Nat} {order : Order}
    {items : List (Nat × OrderItem)} {warehouseId : Nat} {now : Time} {e e' : Exec Db} {u : Unit}
    (h : (createShell numberPrefix orderId order items warehouseId now).run e = (.ok u, e')) :
    ∃ next d, e' = { e with view := d, next := next } ∧ ShellCreated orderId items e.next e.view next d := by
  unfold createShell getOrderForUpdate at h
  rw [run_bind_eq_ok] at h
  obtain ⟨_, e₁, hitems, h⟩ := h
  rw [run_raiseIf_eq_ok] at hitems
  obtain ⟨-, rfl⟩ := hitems
  rw [run_bind, run_lock, andThen_ok, run_bind, run_query, andThen_ok] at h
  cases hs : e.view.unshippedShellFor orderId with
  | some found =>
    simp only [hs, run_pure] at h
    cases h
    exact ⟨_, _, rfl, .present hs⟩
  | none =>
    simp only [hs, run_bind, run_newId, andThen_ok, run_update] at h
    cases h
    refine ⟨_, _, rfl, .created hs rfl rfl ?_⟩
    unfold Fulfillment.shell
    dsimp only
    rw [List.map_map]
    rfl

/-- A package with lines is always created. -/
theorem createShell_ok {numberPrefix : String} {orderId : Nat} {order : Order}
    {items : List (Nat × OrderItem)} {warehouseId : Nat} {now : Time} {e : Exec Db} (h : items ≠ []) :
    ∃ next d, (createShell numberPrefix orderId order items warehouseId now).run e =
      (.ok (), { e with view := d, next := next }) ∧ ShellCreated orderId items e.next e.view next d := by
  have hrun : ∃ e', (createShell numberPrefix orderId order items warehouseId now).run e = (.ok (), e') := by
    unfold createShell getOrderForUpdate
    rw [run_bind, run_raiseIf_neg h, andThen_ok, run_bind, run_lock, andThen_ok, run_bind, run_query,
      andThen_ok]
    cases e.view.unshippedShellFor orderId with
    | some found => exact ⟨_, rfl⟩
    | none => exact ⟨_, rfl⟩
  obtain ⟨e', hrun⟩ := hrun
  obtain ⟨next, d, rfl, hcreated⟩ := createShell_created hrun
  exact ⟨next, d, hrun, hcreated⟩

/-- Only the packages change, by at most one of the order. -/
theorem ShellCreated.frame {orderId next next' : Nat} {items : List (Nat × OrderItem)} {d d' : Db}
    (h : ShellCreated orderId items next d next' d') :
    next ≤ next' ∧ (∀ i, next' ≤ i → d'.fulfillments.get? i = d.fulfillments.get? i) ∧
      d' = { d with fulfillments := d'.fulfillments } := by
  cases h with
  | present _ => exact ⟨le_refl _, fun _ _ => rfl, rfl⟩
  | created _ _ _ _ => exact ⟨Nat.le_succ _, fun i hi => Dict.get?_set_ne (by omega) _, rfl⟩

/-- A package sees the packages only. -/
theorem ShellCreated.transfer {orderId next next' : Nat} {items : List (Nat × OrderItem)} {d d' c : Db}
    (h : ShellCreated orderId items next d next' d') (hc : c.fulfillments = d.fulfillments) :
    ShellCreated orderId items next c next' { c with fulfillments := d'.fulfillments } := by
  have hshell : c.unshippedShellFor orderId = d.unshippedShellFor orderId := by
    unfold Db.unshippedShellFor
    rw [hc]
  cases h with
  | present found =>
    rw [← hc]
    exact .present (hshell.trans found)
  | created absent ofOrder unshipped lines =>
    rw [← hc]
    exact .created (hshell.trans absent) ofOrder unshipped lines

@[grind .] theorem noCommit_createShell (numberPrefix : String) (orderId : Nat) (order : Order)
    (items : List (Nat × OrderItem)) (warehouseId : Nat) (now : Time) :
    (createShell numberPrefix orderId order items warehouseId now).NoCommit := by
  unfold createShell
  grind

end NovaCommerce
