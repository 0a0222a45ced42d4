import NovaCommerce.Order.StateMachine

/-!
# Order rows

Reads, locks and writes of `orders`, `order_items` and `order_status_logs`. An `UPDATE` that changes an
amount is checked against the table's CHECK constraints.
-/

namespace NovaCommerce

open Sql

/-! ## Constraints -/

/-- The CHECK constraints on the amounts of `orders`. -/
def Order.Checked (o : Order) : Prop :=
  o.payableAmount = o.originalAmount - o.promotionDiscountAmount - o.couponDiscountAmount +
      o.shippingAmount ∧
    0 ≤ o.originalAmount ∧ 0 ≤ o.promotionDiscountAmount ∧ 0 ≤ o.couponDiscountAmount ∧
    0 ≤ o.shippingAmount ∧ 0 ≤ o.payableAmount ∧ 0 ≤ o.paidAmount ∧ 0 ≤ o.refundedAmount ∧
    o.refundedAmount ≤ o.paidAmount

instance Order.decidableChecked (o : Order) : Decidable o.Checked := by
  unfold Order.Checked
  infer_instance

/-- The CHECK constraints on the amounts of `order_items`. -/
def OrderItem.Checked (i : OrderItem) : Prop :=
  0 < i.quantity ∧ 0 ≤ i.originalAmount ∧ 0 ≤ i.promotionDiscountAmount ∧ 0 ≤ i.couponDiscountAmount ∧
    0 ≤ i.payableAmount ∧ 0 ≤ i.refundedAmount ∧
    i.payableAmount = i.originalAmount - (i.promotionDiscountAmount + i.couponDiscountAmount) ∧
    i.refundedAmount ≤ i.payableAmount

instance OrderItem.decidableChecked (i : OrderItem) : Decidable i.Checked := by
  unfold OrderItem.Checked
  infer_instance

def checkViolation (table : String) : AppError :=
  { kind := .operational, message := s!"Check constraint '{table}' is violated." }

/-! ## Orders -/

/-- The order with a number, of a user when one is given. -/
def Db.orderByNo (d : Db) (orderNo : String) (userId : Option Nat) : Option (Nat × Order) :=
  d.orders.find? fun o => decide (o.orderNo = orderNo ∧ ∀ u ∈ userId, o.userId = u)

def getByOrderNo (orderNo : String) (userId : Option Nat) : Tx (Option (Nat × Order)) :=
  query fun d => d.orderByNo orderNo userId

def getByOrderNoForUpdate (orderNo : String) (userId : Option Nat) : Tx (Option (Nat × Order)) :=
  lock (fun d => ((d.orderByNo orderNo userId).map (fun e => RowLock.order e.1)).toList)
    (fun d => d.orderByNo orderNo userId)

def getOrderForUpdate (id : Nat) : Tx (Option Order) :=
  lock (fun _ => [RowLock.order id]) (fun d => d.orders.get? id)

/-- `UPDATE orders` of one row, under the CHECK constraints. -/
def writeOrder (id : Nat) (f : Order → Order) : Tx Unit := do
  let row ← query fun d => d.orders.get? id
  raiseIf (∃ o ∈ row, ¬ (f o).Checked) (checkViolation "orders")
  update fun d => { d with orders := d.orders.modify id f }

/-- The lines of an order, oldest first. -/
def Db.itemsFor (d : Db) (orderId : Nat) : List (Nat × OrderItem) :=
  d.orderItems.select fun i => i.orderId = orderId

def itemsFor (orderId : Nat) : Tx (List (Nat × OrderItem)) := query fun d => d.itemsFor orderId

/-- Append one status log; its order number is the order's own. -/
def appendLog (orderId : Nat) (order : Order) (fromStatus toStatus : OrderStatus)
    (operatorType : OperatorType) (operatorId : Option Nat) (reason : Option String) : Tx Unit :=
  update fun d => { d with
    statusLogs := d.statusLogs ++ [{
      orderId := orderId
      orderNo := order.orderNo
      fromStatus := some fromStatus
      toStatus := toStatus
      reason := reason
      operatorType := operatorType
      operatorId := operatorId }] }

theorem orderByNo_some {d : Db} {orderNo : String} {userId : Option Nat} {id : Nat} {o : Order}
    (h : d.orderByNo orderNo userId = some (id, o)) :
    d.orders.get? id = some o ∧ o.orderNo = orderNo ∧ ∀ u ∈ userId, o.userId = u := by
  obtain ⟨hget, hp⟩ := Dict.find?_some h
  simp only [decide_eq_true_eq] at hp
  exact ⟨hget, hp⟩

theorem writeOrder_eq_ok {id : Nat} {f : Order → Order} {e e' : Exec Db} {u : Unit} :
    (writeOrder id f).run e = (.ok u, e') ↔
      (∀ o, e.view.orders.get? id = some o → (f o).Checked) ∧
        e' = { e with view := { e.view with orders := e.view.orders.modify id f } } := by
  unfold writeOrder
  rw [run_bind, run_query, andThen_ok, run_bind_eq_ok]
  simp only [run_raiseIf_eq_ok, run_update, Prod.mk.injEq, Option.mem_def, not_exists, not_and, not_not]
  constructor
  · rintro ⟨_, e₁, ⟨hc, rfl⟩, _, rfl⟩
    exact ⟨hc, rfl⟩
  · rintro ⟨hc, rfl⟩
    exact ⟨(), e, ⟨hc, rfl⟩, trivial, rfl⟩

@[grind .] theorem noCommit_writeOrder (id : Nat) (f : Order → Order) : (writeOrder id f).NoCommit := by
  unfold writeOrder
  grind

@[grind .] theorem noCommit_getByOrderNo (orderNo : String) (userId : Option Nat) :
    (getByOrderNo orderNo userId).NoCommit := noCommit_query _

@[grind .] theorem noCommit_getByOrderNoForUpdate (orderNo : String) (userId : Option Nat) :
    (getByOrderNoForUpdate orderNo userId).NoCommit := noCommit_lock _ _

@[grind .] theorem noCommit_getOrderForUpdate (id : Nat) : (getOrderForUpdate id).NoCommit :=
  noCommit_lock _ _

@[grind .] theorem noCommit_itemsFor (orderId : Nat) : (itemsFor orderId).NoCommit := noCommit_query _

@[grind .] theorem noCommit_appendLog (orderId : Nat) (order : Order) (fromStatus toStatus : OrderStatus)
    (operatorType : OperatorType) (operatorId : Option Nat) (reason : Option String) :
    (appendLog orderId order fromStatus toStatus operatorType operatorId reason).NoCommit :=
  noCommit_update _

end NovaCommerce
