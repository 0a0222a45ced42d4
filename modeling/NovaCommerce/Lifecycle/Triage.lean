import NovaCommerce.Shop.Consistency

/-!
# Refused deliveries

The workflow records a refusal in the row that claims the event, and then rolls back the transaction that
row was inserted in: a refused delivery leaves the database as it was, and no row to triage it by
(`refusal_untraced`).
-/

namespace NovaCommerce

open Sql

/-- A delivery whose signature verifies and that the workflow refuses: it ends in the outcome `x`, which is
answered with the exception `err`. -/
structure Delivery.Refused (env : Deployment) (delivery : Delivery) (t : Instants) (d : Db) (next : Nat)
    (x : CallbackExecution) (err : AppError) : Prop where
  limit : requestLimit delivery = none
  edge : Verified env (delivery.request env) t.edge
  verified : Verified env (delivery.request env) t.verified
  decided : ∃ e, (process env (delivery.request env) t.verified t.now).run (Exec.start d next) = (.ok x, e)
  answered : respond x = .error err

/-- The status a refusal is recorded with. -/
def CallbackExecution.recordedAs (x : CallbackExecution) : CallbackProcessStatus :=
  if x.errorCode = some "PAYMENT_NOT_FOUND" then .ignored else .failed

/-- A row of the delivery's event records the refusal and its filtered payload. -/
def Db.Traces (env : Deployment) (request : CallbackRequest) (x : CallbackExecution) (d : Db) : Prop :=
  ∃ id row, d.callbackAt request.headers.provider request.headers.eventId = some (id, row) ∧
    row.processStatus = x.recordedAs ∧
    row.payloadSnapshot = some (env.filterCallbackPayload request.payload)

/-- The payments, orders, stock and coupons are the same. -/
structure Db.SameTrade (d d' : Db) : Prop where
  payments : d'.payments = d.payments
  orders : d'.orders = d.orders
  orderItems : d'.orderItems = d.orderItems
  inventories : d'.inventories = d.inventories
  movements : d'.movements = d.movements
  userCoupons : d'.userCoupons = d.userCoupons

theorem Delivery.Refused.uncommitted {env : Deployment} {delivery : Delivery} {t : Instants} {d : Db} {next : Nat}
    {x : CallbackExecution} {err : AppError} (h : delivery.Refused env t d next x err) : x.uncommitted = true := by
  obtain ⟨e, hrun⟩ := h.decided
  have hanswered := (returns_process env (delivery.request env) t.now t.verified).run hrun
  by_contra hx
  rw [Bool.not_eq_true] at hx
  obtain ⟨answer, hok⟩ := hanswered hx
  have herr := h.answered
  rw [hok] at herr
  cases herr

/-- An event that has a row already is answered as a duplicate. -/
theorem Delivery.Refused.unclaimed {env : Deployment} {delivery : Delivery} {t : Instants} {d : Db} {next : Nat}
    {x : CallbackExecution} {err : AppError} (h : delivery.Refused env t d next x err) :
    d.Unclaimed (delivery.request env) := by
  obtain ⟨e, hrun⟩ := h.decided
  unfold process at hrun
  rw [run_bind_eq_ok] at hrun
  obtain ⟨claim, e₁, hclaim, hrun⟩ := hrun
  rw [insertReceived_eq_ok] at hclaim
  obtain ⟨-, ⟨found, hfound, rfl, rfl⟩ | ⟨hnone, rfl, rfl⟩⟩ := hclaim
  · have hx : x = duplicateExecution := by
      cases hrun
      rfl
    have herr := h.answered
    rw [hx] at herr
    cases herr
  · exact hnone

/-- A refused delivery ends in its exception and leaves the database it found. -/
theorem Delivery.Refused.run {env : Deployment} {delivery : Delivery} {t : Instants} {d : Db} {next : Nat}
    {x : CallbackExecution} {err : AppError} (h : delivery.Refused env t d next x err) :
    ∃ e, (receiveCallback env delivery t).run (Exec.start d next) = (.error err, e) ∧ e.committed = d := by
  obtain ⟨verdict, hverdict, hvalid⟩ := h.edge
  obtain ⟨e, hrun⟩ := h.decided
  have hcommitted := (noCommit_process env (delivery.request env) t.now t.verified).run_committed (Exec.start d next)
  rw [hrun] at hcommitted
  have hedge : env.verifySignature delivery.headers delivery.rawBody t.edge = .ok verdict := hverdict
  unfold receiveCallback processDelivery execute closeTransaction
  simp only [h.limit, hedge]
  rw [run_bind, run_ofExcept, andThen_ok, if_pos hvalid, bind_assoc, run_bind, hrun, andThen_ok, h.uncommitted,
    if_pos rfl, bind_assoc, run_bind, run_rollbackNow, andThen_ok, run_bind, run_pure, andThen_ok, h.answered,
    run_ofExcept]
  exact ⟨_, rfl, hcommitted⟩

/-- The database a refused delivery leaves has its payments, orders, stock and coupons as they were, and no row
of its event. -/
theorem refusal_untraced (env : Deployment) (delivery : Delivery) (t : Instants) (d : Db) (next : Nat)
    (x : CallbackExecution) (err : AppError) (h : delivery.Refused env t d next x err) :
    ∃ e, (receiveCallback env delivery t).run (Exec.start d next) = (.error err, e) ∧
      d.SameTrade e.committed ∧ ¬ e.committed.Traces env (delivery.request env) x := by
  obtain ⟨e, hrun, rfl⟩ := h.run
  refine ⟨e, hrun, ⟨rfl, rfl, rfl, rfl, rfl, rfl⟩, ?_⟩
  rintro ⟨id, row, hfound, -⟩
  have hnone := h.unclaimed
  rw [Db.Unclaimed, hfound] at hnone
  cases hnone

/-- The notification of a payment that was never made is refused. -/
theorem sampleDelivery_refused : ∃ x err,
    sampleDelivery.Refused sampleProvider sampleInstants sampleShop.db sampleShop.next x err := by
  have hlimit : requestLimit sampleDelivery = none := by decide
  have hverdict : (sampleProvider.verifySignature sampleDelivery.headers sampleDelivery.rawBody
      sampleInstants.edge).toOption.any (·.valid) = true := by decide +kernel
  have hprocess : ((process sampleProvider (sampleDelivery.request sampleProvider) sampleInstants.verified
      sampleInstants.now).run (Exec.start sampleShop.db sampleShop.next)).1.toOption.any
        (fun x => !(respond x).toBool) = true := by decide +kernel
  have hverified : Verified sampleProvider (sampleDelivery.request sampleProvider) sampleInstants.edge := by
    cases hv : sampleProvider.verifySignature sampleDelivery.headers sampleDelivery.rawBody sampleInstants.edge with
    | error err =>
      rw [hv] at hverdict
      cases hverdict
    | ok verdict =>
      rw [hv] at hverdict
      exact ⟨verdict, hv, hverdict⟩
  rcases hrun : (process sampleProvider (sampleDelivery.request sampleProvider) sampleInstants.verified
    sampleInstants.now).run (Exec.start sampleShop.db sampleShop.next) with ⟨answer, e⟩
  rw [hrun] at hprocess
  cases answer with
  | error err => cases hprocess
  | ok x =>
    have herr : (!(respond x).toBool) = true := hprocess
    cases hx : respond x with
    | ok answer =>
      rw [hx] at herr
      cases herr
    | error err => exact ⟨x, err, hlimit, hverified, hverified, ⟨e, hrun⟩, hx⟩

theorem refusal_untraced_sample : ∃ x err e,
    sampleDelivery.Refused sampleProvider sampleInstants sampleShop.db sampleShop.next x err ∧
    (receiveCallback sampleProvider sampleDelivery sampleInstants).run
      (Exec.start sampleShop.db sampleShop.next) = (.error err, e) ∧
    sampleShop.db.SameTrade e.committed ∧
    ¬ e.committed.Traces sampleProvider (sampleDelivery.request sampleProvider) x := by
  obtain ⟨x, err, h⟩ := sampleDelivery_refused
  obtain ⟨e, hrun, hsame, htraces⟩ := refusal_untraced sampleProvider sampleDelivery sampleInstants sampleShop.db
    sampleShop.next x err h
  exact ⟨x, err, e, h, hrun, hsame, htraces⟩

/-- A refused delivery does not always leave a row to triage it by. -/
theorem refusal_not_traced : ¬ ∀ (env : Deployment) (delivery : Delivery) (t : Instants) (s : Shop)
    (x : CallbackExecution) (err : AppError) (e : Exec Db), delivery.Refused env t s.db s.next x err →
    (receiveCallback env delivery t).run (Exec.start s.db s.next) = (.error err, e) →
    s.db.SameTrade e.committed ∧ e.committed.Traces env (delivery.request env) x := by
  intro h
  obtain ⟨x, err, hrefused⟩ := sampleDelivery_refused
  obtain ⟨e, hrun, hsame⟩ := hrefused.run
  obtain ⟨-, id, row, hfound, -⟩ := h _ _ _ sampleShop x err e hrefused hrun
  have hnone := hrefused.unclaimed
  rw [← hsame, Db.Unclaimed, hfound] at hnone
  cases hnone

end NovaCommerce
