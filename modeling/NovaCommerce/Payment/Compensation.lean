import NovaCommerce.Payment.Repository

/-!
# Compensation refunds

A late payment is refunded in two transactions: `dispatchCompensation` parks the intent before the
provider is called, and `settleCompensation` or `failCompensation` records the provider's answer.
-/

namespace NovaCommerce

open Sql

def getPaymentForUpdate (id : Nat) : Tx (Option Payment) :=
  lock (fun _ => [RowLock.payment id]) (fun d => d.payments.get? id)

/-- What may still be refunded on a payment. -/
def Payment.refundableAmount (p : Payment) : Int := max (p.paidAmount - p.refundedAmount) 0

/-- What the first transaction decided. -/
inductive CompensationStep where
  | replayed
  | refused
  | dispatched (payment : Payment) (amount : Int)

/-- Park an intent, with the reason. -/
def parkCompensation (id : Nat) (reason : String) : Tx Unit :=
  update fun d => { d with
    compensations := d.compensations.modify id fun r =>
      { r with status := .reconciliationRequired, failureReason := some reason } }

/-- A payment that can give an amount back. -/
def Payment.Refundable (p : Payment) (amount : Int) : Prop :=
  (p.status = .success ∨ p.status = .partialRefunded) ∧ amount ≤ p.refundableAmount

instance Payment.decidableRefundable (p : Payment) (amount : Int) : Decidable (p.Refundable amount) := by
  unfold Payment.Refundable
  infer_instance

def dispatchIntent (id : Nat) (intent : PaymentCompensationRefund) : Tx CompensationStep := do
  let payment ← getPaymentForUpdate intent.paymentId
  let order ← getOrderForUpdate intent.orderId
  match payment, order with
  | some payment, some _ =>
    if payment.Refundable intent.amount then
      parkCompensation id "provider dispatch outcome not yet confirmed"
      return .dispatched payment intent.amount
    else
      parkCompensation id "payment is not refundable for the intent amount"
      return .refused
  | _, _ =>
    parkCompensation id "payment or order disappeared"
    return .refused

def prepareDispatch (id : Nat) : Tx CompensationStep := do
  match ← getCompensationRefundForUpdate id with
  | none => raise { kind := .valueError, message := "compensation refund not found" }
  | some intent =>
    if intent.status = .succeeded ∨ intent.status = .reconciliationRequired then return .replayed
    else dispatchIntent id intent

/-- The first transaction of a compensation refund. -/
def dispatchCompensation (id : Nat) : Tx CompensationStep := transaction (prepareDispatch id)

/-- The transaction after a failed dispatch. -/
def failCompensation (id : Nat) (errorType : String) : Tx Unit :=
  transaction (parkCompensation id s!"provider dispatch failed: {errorType}")

/-- The columns of a refunded payment, from the row the session holds. -/
def Payment.compensatedBy (held : Payment) (amount : Int) (row : Payment) : Payment :=
  { row with
    refundedAmount := held.refundedAmount + amount
    status := if held.refundedAmount + amount = held.paidAmount then .refunded else .partialRefunded }

/-- The columns of a refunded order, from the row the session holds. -/
def Order.compensatedBy (held : Order) (amount : Int) (row : Order) : Order :=
  { row with refundedAmount := held.refundedAmount + amount, paymentStatus := .refunded }

def compensateIntent (id : Nat) (intent : PaymentCompensationRefund) (providerRefundNo : String) :
    Tx Unit := do
  let payment ← getPaymentForUpdate intent.paymentId
  let order ← getOrderForUpdate intent.orderId
  match payment, order with
  | some payment, some order =>
    writePayment intent.paymentId (payment.compensatedBy intent.amount)
    writeOrder intent.orderId (order.compensatedBy intent.amount)
    update fun d => { d with
      compensations := d.compensations.modify id fun r =>
        { r with
          status := .succeeded
          providerRefundNo := some providerRefundNo
          failureReason := none } }
  | _, _ => raise { kind := .valueError, message := "compensation payment or order disappeared" }

def recordCompensation (id : Nat) (providerRefundNo : String) : Tx Unit := do
  let intent ← orRaise (← getCompensationRefundForUpdate id)
    { kind := .valueError, message := "compensation refund disappeared" }
  compensateIntent id intent providerRefundNo

/-- The transaction after the provider confirmed a refund. -/
def settleCompensation (id : Nat) (providerRefundNo : String) : Tx Unit :=
  transaction (recordCompensation id providerRefundNo)

/-! ## What they do -/

/-- What the first transaction did; an intent is dispatched once, while it waits. -/
inductive Dispatched (id : Nat) (d : Db) : CompensationStep → Db → Prop where
  | replayed : Dispatched id d .replayed d
  | refused {intent : PaymentCompensationRefund} {reason : String} (found : d.compensations.get? id = some intent)
      (waiting : intent.status ≠ .succeeded ∧ intent.status ≠ .reconciliationRequired) :
      Dispatched id d .refused { d with
        compensations := d.compensations.modify id fun r =>
          { r with status := .reconciliationRequired, failureReason := some reason } }
  | dispatched {intent : PaymentCompensationRefund} {payment : Payment} {reason : String}
      (found : d.compensations.get? id = some intent)
      (waiting : intent.status ≠ .succeeded ∧ intent.status ≠ .reconciliationRequired)
      (ofPayment : d.payments.get? intent.paymentId = some payment)
      (refundable : payment.Refundable intent.amount) :
      Dispatched id d (.dispatched payment intent.amount) { d with
        compensations := d.compensations.modify id fun r =>
          { r with status := .reconciliationRequired, failureReason := some reason } }

theorem prepareDispatch_dispatched {id : Nat} {e e' : Exec Db} {step : CompensationStep}
    (h : (prepareDispatch id).run e = (.ok step, e')) :
    ∃ d, e' = { e with view := d } ∧ Dispatched id e.view step d := by
  unfold prepareDispatch getCompensationRefundForUpdate at h
  rw [run_bind, run_lock, andThen_ok] at h
  cases hi : e.view.compensations.get? id with
  | none => simp [hi] at h
  | some intent =>
    simp only [hi] at h
    split_ifs at h with hdone
    · cases h
      exact ⟨_, rfl, .replayed⟩
    · rw [not_or] at hdone
      unfold dispatchIntent getPaymentForUpdate getOrderForUpdate parkCompensation at h
      rw [run_bind, run_lock, andThen_ok, run_bind, run_lock, andThen_ok] at h
      cases hp : e.view.payments.get? intent.paymentId with
      | none =>
        simp only [hp] at h
        cases h
        exact ⟨_, rfl, .refused hi hdone⟩
      | some payment =>
        cases ho : e.view.orders.get? intent.orderId with
        | none =>
          simp only [hp, ho] at h
          cases h
          exact ⟨_, rfl, .refused hi hdone⟩
        | some order =>
          simp only [hp, ho] at h
          split_ifs at h with hrefundable
          · cases h
            exact ⟨_, rfl, .dispatched hi hdone hp hrefundable⟩
          · cases h
            exact ⟨_, rfl, .refused hi hdone⟩

/-- What recording a provider's refund did. -/
inductive Compensated (id : Nat) (d : Db) : Db → Prop where
  | mk {intent : PaymentCompensationRefund} {payment : Payment} {order : Order} {providerRefundNo : String}
      (found : d.compensations.get? id = some intent)
      (ofPayment : d.payments.get? intent.paymentId = some payment)
      (ofOrder : d.orders.get? intent.orderId = some order)
      (paymentChecked : (payment.compensatedBy intent.amount payment).Checked)
      (orderChecked : (order.compensatedBy intent.amount order).Checked) :
      Compensated id d { d with
        payments := d.payments.modify intent.paymentId (payment.compensatedBy intent.amount)
        orders := d.orders.modify intent.orderId (order.compensatedBy intent.amount)
        compensations := d.compensations.modify id fun r =>
          { r with
            status := .succeeded
            providerRefundNo := some providerRefundNo
            failureReason := none } }

theorem recordCompensation_compensated {id : Nat} {providerRefundNo : String} {e e' : Exec Db} {u : Unit}
    (h : (recordCompensation id providerRefundNo).run e = (.ok u, e')) :
    ∃ d, e' = { e with view := d } ∧ Compensated id e.view d := by
  unfold recordCompensation compensateIntent getCompensationRefundForUpdate getPaymentForUpdate
    getOrderForUpdate at h
  rw [run_bind, run_lock, andThen_ok, run_bind_eq_ok] at h
  obtain ⟨intent, e₁, hintent, h⟩ := h
  rw [run_orRaise_eq_ok] at hintent
  obtain ⟨hintent, rfl⟩ := hintent
  rw [run_bind, run_lock, andThen_ok, run_bind, run_lock, andThen_ok] at h
  cases hp : e.view.payments.get? intent.paymentId with
  | none => simp [hp] at h
  | some payment =>
    cases ho : e.view.orders.get? intent.orderId with
    | none => simp [hp, ho] at h
    | some order =>
      simp only [hp, ho] at h
      rw [run_bind_eq_ok] at h
      obtain ⟨_, e₂, hpayment, h⟩ := h
      rw [writePayment_eq_ok] at hpayment
      obtain ⟨hpc, rfl⟩ := hpayment
      rw [run_bind_eq_ok] at h
      obtain ⟨_, e₃, horder, h⟩ := h
      rw [writeOrder_eq_ok] at horder
      obtain ⟨hoc, rfl⟩ := horder
      rw [run_update] at h
      cases h
      exact ⟨_, rfl, .mk hintent hp ho (hpc _ hp) (hoc _ ho)⟩

@[grind .] theorem noCommit_getPaymentForUpdate (id : Nat) : (getPaymentForUpdate id).NoCommit :=
  noCommit_lock _ _

@[grind .] theorem noCommit_getCompensationRefundForUpdate (id : Nat) :
    (getCompensationRefundForUpdate id).NoCommit := noCommit_lock _ _

@[grind .] theorem noCommit_parkCompensation (id : Nat) (reason : String) :
    (parkCompensation id reason).NoCommit := noCommit_update _

@[grind .] theorem noCommit_prepareDispatch (id : Nat) : (prepareDispatch id).NoCommit := by
  have hintent : ∀ intent, (dispatchIntent id intent).NoCommit := by
    intro intent
    unfold dispatchIntent
    grind
  unfold prepareDispatch
  grind

@[grind .] theorem noCommit_recordCompensation (id : Nat) (providerRefundNo : String) :
    (recordCompensation id providerRefundNo).NoCommit := by
  have hintent : ∀ intent, (compensateIntent id intent providerRefundNo).NoCommit := by
    intro intent
    unfold compensateIntent
    grind
  unfold recordCompensation
  grind

end NovaCommerce
