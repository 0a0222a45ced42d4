import NovaCommerce.Order.Repository

/-!
# Payment rows

Reads, locks and writes of `payments`, `payment_callbacks` and `payment_compensation_refunds`.
-/

namespace NovaCommerce

open Sql

/-- The CHECK constraints on the amounts of `payments`. -/
def Payment.Checked (p : Payment) : Prop :=
  0 < p.amount ∧ 0 ≤ p.paidAmount ∧ 0 ≤ p.refundedAmount ∧ p.refundedAmount ≤ p.paidAmount

instance Payment.decidableChecked (p : Payment) : Decidable p.Checked := by
  unfold Payment.Checked
  infer_instance

/-- `SETTLEABLE_STATUSES`. -/
def settleableStatuses : List PaymentRecordStatus := [.initiated, .paying]

/-- `LATE_PAYMENT_STATUSES`. -/
def latePaymentStatuses : List PaymentRecordStatus := [.closed]

/-! ## Payments -/

/-- `UPDATE payments` of one row, under the CHECK constraints. -/
def writePayment (id : Nat) (f : Payment → Payment) : Tx Unit := do
  let row ← query fun d => d.payments.get? id
  raiseIf (∃ p ∈ row, ¬ (f p).Checked) (checkViolation "payments")
  update fun d => { d with payments := d.payments.modify id f }

/-- The attempts of a user for an order, oldest first. -/
def Db.attemptsFor (d : Db) (orderId userId : Nat) : List (Nat × Payment) :=
  d.payments.select fun p => decide (p.orderId = orderId ∧ p.userId = userId)

def lockAttemptsForOrder (orderId userId : Nat) : Tx (List (Nat × Payment)) :=
  lock (fun d => (d.attemptsFor orderId userId).map fun e => RowLock.payment e.1)
    (fun d => d.attemptsFor orderId userId)

/-- The payment with a number. -/
def Db.paymentByNo (d : Db) (paymentNo : String) : Option (Nat × Payment) :=
  d.payments.find? fun p => decide (p.paymentNo = paymentNo)

/-- Lock a payment with the other attempts of its order. -/
def getByPaymentNoForUpdate (paymentNo : String) : Tx (Option (Nat × Payment)) := do
  match ← query fun d => d.paymentByNo paymentNo with
  | none => return none
  | some (_, candidate) =>
    let attempts ← lockAttemptsForOrder candidate.orderId candidate.userId
    return attempts.find? fun e => decide (e.2.paymentNo = paymentNo)

/-- The columns of a settled payment. -/
def Payment.succeeded (p : Payment) (paidAmount : Int) (externalTransactionNo : Option String)
    (paidAt : Time) : Payment :=
  { p with
    status := .success
    paidAmount := paidAmount
    externalTransactionNo := externalTransactionNo
    paidAt := some paidAt }

def recordSuccess (id : Nat) (paidAmount : Int) (externalTransactionNo : Option String) (paidAt : Time) :
    Tx Unit :=
  writePayment id fun p => p.succeeded paidAmount externalTransactionNo paidAt

/-- An attempt that still waits for its provider. -/
def Payment.Open (p : Payment) : Prop := p.status = .initiated ∨ p.status = .paying

instance Payment.decidableOpen (p : Payment) : Decidable p.Open := by
  unfold Payment.Open
  infer_instance

def Payment.closed (p : Payment) (now : Time) : Payment :=
  { p with status := .closed, closedAt := some now, updatedAt := now }

/-- Close the attempts the session holds that are still open. -/
def closeAttempts (attempts : List (Nat × Payment)) (now : Time) : Tx Unit :=
  update fun d => { d with
    payments := d.payments.adjust fun id p =>
      if ∃ e ∈ attempts, e.1 = id ∧ e.2.Open then p.closed now else p }

/-! ## Compensation refunds -/

/-- The compensation refund of a payment. -/
def Db.compensationOf (d : Db) (paymentId : Nat) : Option (Nat × PaymentCompensationRefund) :=
  d.compensations.find? fun r => decide (r.paymentId = paymentId)

/-- A pending compensation refund of a payment, unless it has one. -/
def ensureCompensationRefund (paymentId : Nat) (payment : Payment) (callbackId : Nat) (amount : Int) :
    Tx Unit := do
  let existing ← lock
    (fun d => ((d.compensationOf paymentId).map fun e => RowLock.compensation e.1).toList)
    (fun d => d.compensationOf paymentId)
  match existing with
  | some _ => return ()
  | none =>
    raiseIf (amount ≤ 0) (checkViolation "payment_compensation_refunds")
    let id ← newId
    update fun d => { d with
      compensations := d.compensations.set id {
        merchantId := payment.merchantId
        paymentId := paymentId
        orderId := payment.orderId
        callbackId := some callbackId
        amount := amount } }

def getCompensationRefundForUpdate (id : Nat) : Tx (Option PaymentCompensationRefund) :=
  lock (fun _ => [RowLock.compensation id]) (fun d => d.compensations.get? id)

/-! ## Callbacks -/

/-- The callback of a provider event. -/
def Db.callbackAt (d : Db) (provider eventId : String) : Option (Nat × PaymentCallback) :=
  d.callbacks.find? fun c => decide (c.provider = provider ∧ c.providerEventId = eventId)

/-- Claim a provider event: the new callback, or `none` when the unique index refuses it. -/
def insertReceived (provider eventId eventType : String) (receivedAt : Time) :
    Tx (Option (Nat × PaymentCallback)) := do
  raiseIf (32 < provider.length)
    { kind := .operational, message := "Data too long for column 'provider' at row 1" }
  let existing ← lock (fun _ => [RowLock.callbackEvent provider eventId])
    (fun d => d.callbackAt provider eventId)
  match existing with
  | some _ => return none
  | none =>
    let id ← newId
    let callback : PaymentCallback := {
      provider := provider
      providerEventId := eventId
      eventType := eventType
      receivedAt := receivedAt }
    update fun d => { d with callbacks := d.callbacks.set id callback }
    return some (id, callback)

/-- Write a callback the session inserted. -/
def writeCallback (id : Nat) (callback : PaymentCallback) : Tx Unit :=
  update fun d => { d with callbacks := d.callbacks.modify id fun _ => callback }

def PaymentCallback.markedProcessed (c : PaymentCallback) (at_ : Time) : PaymentCallback :=
  { c with processStatus := .processed, processedAt := some at_, processError := none }

def PaymentCallback.markedFailed (c : PaymentCallback) (error : String) (at_ : Time) : PaymentCallback :=
  { c with processStatus := .failed, processedAt := some at_, processError := some (truncate 500 error) }

def PaymentCallback.markedIgnored (c : PaymentCallback) (error : String) (at_ : Time) : PaymentCallback :=
  { c with processStatus := .ignored, processedAt := some at_, processError := some (truncate 500 error) }

/-! ## What they do -/

theorem writePayment_eq_ok {id : Nat} {f : Payment → Payment} {e e' : Exec Db} {u : Unit} :
    (writePayment id f).run e = (.ok u, e') ↔
      (∀ p, e.view.payments.get? id = some p → (f p).Checked) ∧
        e' = { e with view := { e.view with payments := e.view.payments.modify id f } } := by
  unfold writePayment
  rw [run_bind, run_query, andThen_ok, run_bind_eq_ok]
  simp only [run_raiseIf_eq_ok, run_update, Prod.mk.injEq, Option.mem_def, not_exists, not_and, not_not]
  constructor
  · rintro ⟨_, e₁, ⟨hc, rfl⟩, _, rfl⟩
    exact ⟨hc, rfl⟩
  · rintro ⟨hc, rfl⟩
    exact ⟨(), e, ⟨hc, rfl⟩, trivial, rfl⟩

theorem mem_attemptsFor {d : Db} {orderId userId id : Nat} {p : Payment} :
    (id, p) ∈ d.attemptsFor orderId userId ↔
      d.payments.get? id = some p ∧ p.orderId = orderId ∧ p.userId = userId := by
  rw [Db.attemptsFor, Dict.mem_select, decide_eq_true_eq]

/-- What a settlement finds under a payment number. -/
def Db.paymentForUpdate (d : Db) (paymentNo : String) : Option (Nat × Payment) :=
  match d.paymentByNo paymentNo with
  | none => none
  | some (_, candidate) =>
    (d.attemptsFor candidate.orderId candidate.userId).find? fun e => decide (e.2.paymentNo = paymentNo)

theorem run_getByPaymentNoForUpdate (paymentNo : String) (e : Exec Db) :
    (getByPaymentNoForUpdate paymentNo).run e = (.ok (e.view.paymentForUpdate paymentNo), e) := by
  unfold getByPaymentNoForUpdate lockAttemptsForOrder Db.paymentForUpdate
  rw [run_bind, run_query, andThen_ok]
  cases e.view.paymentByNo paymentNo with
  | none => rfl
  | some entry => rfl

theorem paymentForUpdate_some {d : Db} {paymentNo : String} {id : Nat} {p : Payment}
    (h : d.paymentForUpdate paymentNo = some (id, p)) :
    d.payments.get? id = some p ∧ p.paymentNo = paymentNo := by
  unfold Db.paymentForUpdate at h
  cases hc : d.paymentByNo paymentNo with
  | none => simp [hc] at h
  | some entry =>
    simp only [hc] at h
    have hp := List.find?_some h
    simp only [decide_eq_true_eq] at hp
    exact ⟨(mem_attemptsFor.mp (List.mem_of_find?_eq_some h)).1, hp⟩

/-- What `ensureCompensationRefund` did. -/
inductive CompensationEnsured (paymentId : Nat) (payment : Payment) (amount : Int) (next : Nat) (d : Db) :
    Nat → Db → Prop where
  | present {id : Nat} {refund : PaymentCompensationRefund}
      (found : d.compensationOf paymentId = some (id, refund)) :
      CompensationEnsured paymentId payment amount next d next d
  | created {refund : PaymentCompensationRefund} (absent : d.compensationOf paymentId = none)
      (positive : 0 < amount) (ofPayment : refund.paymentId = paymentId)
      (ofOrder : refund.orderId = payment.orderId) (ofAmount : refund.amount = amount)
      (pending : refund.status = .pending) :
      CompensationEnsured paymentId payment amount next d (next + 1)
        { d with compensations := d.compensations.set next refund }

theorem ensureCompensationRefund_ensured {paymentId callbackId : Nat} {payment : Payment} {amount : Int}
    {e e' : Exec Db} {u : Unit}
    (h : (ensureCompensationRefund paymentId payment callbackId amount).run e = (.ok u, e')) :
    ∃ next d, e' = { e with view := d, next := next } ∧
      CompensationEnsured paymentId payment amount e.next e.view next d := by
  unfold ensureCompensationRefund at h
  rw [run_bind, run_lock, andThen_ok] at h
  cases hc : e.view.compensationOf paymentId with
  | some found =>
    simp only [hc, run_pure] at h
    cases h
    exact ⟨_, _, rfl, .present hc⟩
  | none =>
    simp only [hc] at h
    rw [run_bind_eq_ok] at h
    obtain ⟨_, e₁, hpos, h⟩ := h
    rw [run_raiseIf_eq_ok] at hpos
    obtain ⟨hpos, rfl⟩ := hpos
    rw [run_bind, run_newId, andThen_ok, run_update] at h
    cases h
    exact ⟨_, _, rfl, .created hc (not_le.mp hpos) rfl rfl rfl rfl⟩

/-- What an insert of a callback found, and did. -/
theorem insertReceived_eq_ok {provider eventId eventType : String} {receivedAt : Time} {e e' : Exec Db}
    {r : Option (Nat × PaymentCallback)} :
    (insertReceived provider eventId eventType receivedAt).run e = (.ok r, e') ↔
      provider.length ≤ 32 ∧
      ((∃ found, e.view.callbackAt provider eventId = some found ∧ r = none ∧ e' = e) ∨
        (e.view.callbackAt provider eventId = none ∧
          r = some (e.next, { provider := provider, providerEventId := eventId, eventType := eventType, receivedAt := receivedAt }) ∧
          e' = { e with
            view := { e.view with callbacks := e.view.callbacks.set e.next { provider := provider, providerEventId := eventId, eventType := eventType, receivedAt := receivedAt } }
            next := e.next + 1 })) := by
  unfold insertReceived
  rw [run_bind_eq_ok]
  simp only [run_raiseIf_eq_ok, not_lt]
  constructor
  · rintro ⟨_, e₁, ⟨hlen, rfl⟩, h⟩
    refine ⟨hlen, ?_⟩
    rw [run_bind, run_lock, andThen_ok] at h
    cases hc : e.view.callbackAt provider eventId with
    | some found =>
      simp only [hc, run_pure] at h
      cases h
      exact .inl ⟨found, rfl, rfl, rfl⟩
    | none =>
      simp only [hc, run_bind, run_newId, andThen_ok, run_update, run_pure] at h
      cases h
      exact .inr ⟨rfl, rfl, rfl⟩
  · rintro ⟨hlen, h⟩
    refine ⟨(), e, ⟨hlen, rfl⟩, ?_⟩
    rw [run_bind, run_lock, andThen_ok]
    rcases h with ⟨found, hc, rfl, rfl⟩ | ⟨hc, rfl, rfl⟩
    · simp only [hc, run_pure]
    · simp only [hc, run_bind, run_newId, andThen_ok, run_update, run_pure]

@[grind .] theorem noCommit_writePayment (id : Nat) (f : Payment → Payment) :
    (writePayment id f).NoCommit := by
  unfold writePayment
  grind

@[grind .] theorem noCommit_closeAttempts (attempts : List (Nat × Payment)) (now : Time) :
    (closeAttempts attempts now).NoCommit := noCommit_update _

@[grind .] theorem noCommit_lockAttemptsForOrder (orderId userId : Nat) :
    (lockAttemptsForOrder orderId userId).NoCommit := noCommit_lock _ _

@[grind .] theorem noCommit_getByPaymentNoForUpdate (paymentNo : String) :
    (getByPaymentNoForUpdate paymentNo).NoCommit := by
  unfold getByPaymentNoForUpdate
  grind

@[grind .] theorem noCommit_recordSuccess (id : Nat) (paidAmount : Int)
    (externalTransactionNo : Option String) (paidAt : Time) :
    (recordSuccess id paidAmount externalTransactionNo paidAt).NoCommit :=
  noCommit_writePayment _ _

@[grind .] theorem noCommit_ensureCompensationRefund (paymentId : Nat) (payment : Payment) (callbackId : Nat)
    (amount : Int) : (ensureCompensationRefund paymentId payment callbackId amount).NoCommit := by
  unfold ensureCompensationRefund
  grind

@[grind .] theorem noCommit_insertReceived (provider eventId eventType : String) (receivedAt : Time) :
    (insertReceived provider eventId eventType receivedAt).NoCommit := by
  unfold insertReceived
  grind

@[grind .] theorem noCommit_writeCallback (id : Nat) (callback : PaymentCallback) :
    (writeCallback id callback).NoCommit := noCommit_update _

end NovaCommerce
