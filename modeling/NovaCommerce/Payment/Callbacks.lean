import NovaCommerce.Payment.Settlement

/-!
# The callback endpoint

`receiveCallback` verifies a delivery at the edge, records it when it is refused, and hands it to the
workflow otherwise. `Received` is what it leaves in the database (`receiveCallback_leaves`).
-/

namespace NovaCommerce

open Sql

/-- A delivery as it arrives. -/
structure Delivery where
  headers : CallbackHeaders
  rawBody : List UInt8

/-- When a delivery is verified at the edge, verified again, and processed. -/
structure Instants where
  edge : Time
  verified : Time
  now : Time

/-- `MAX_CALLBACK_BODY_BYTES`. -/
def maxCallbackBodyBytes : Nat := 64 * 1024

/-- `CALLBACK_EVENT_TYPE_PAYMENT_SUCCEEDED`. -/
def paymentSucceededEvent : String := "PAYMENT_SUCCEEDED"

/-- The payload of a body; anything that is no JSON object is empty. -/
def parseBody (env : Deployment) (rawBody : List UInt8) : JsonObject :=
  match env.jsonLoads rawBody with
  | some (.obj fields) => fields
  | _ => []

/-- The event type of a payload; an absent one counts as the settlement event. -/
def eventTypeOf (payload : JsonObject) : String :=
  match payload.text? "event_type" with
  | some value => truncate 32 value
  | none => paymentSucceededEvent

/-- The request the workflow sees. -/
def Delivery.request (env : Deployment) (delivery : Delivery) : CallbackRequest where
  headers := delivery.headers
  eventType := eventTypeOf (parseBody env delivery.rawBody)
  rawBody := delivery.rawBody
  payload := parseBody env delivery.rawBody

/-- Insert the row of a delivery that was refused at the edge. -/
def insertRefused (request : CallbackRequest) (reason : String) (now : Time) : Tx Unit := do
  match ← insertReceived request.headers.provider request.headers.eventId request.eventType now with
  | none => return ()
  | some (id, callback) => writeCallback id (callback.markedFailed s!"invalid signature: {reason}" now)

/-- Record a delivery that was refused at the edge. -/
def recordRefusedSignature (request : CallbackRequest) (reason : String) (now : Time) : Tx Unit :=
  transaction (insertRefused request reason now)

/-! ## The answer -/

/-- The body of a 200 answer. -/
structure CallbackAnswer where
  duplicate : Bool
  paymentId : Option Nat
  status : Option String

/-- The exception of a refusal. -/
def refusalFor (execution : CallbackExecution) : AppError :=
  let context := match execution.detail with
    | some detail => if detail = "" then [] else [("reason", ErrorDetail.str detail)]
    | none => []
  match execution.errorCode with
  | some "PAYMENT_AMOUNT_MISMATCH" =>
    { kind := .paymentAmountMismatch
      message := "the provider reported an amount that does not match the payment", context := context }
  | some "PAYMENT_NOT_FOUND" =>
    { kind := .paymentNotFound
      message := "the callback names a payment this deployment cannot resolve", context := context }
  | some "PAYMENT_STATE_INVALID" =>
    { kind := .paymentStateInvalid
      message := "the payment is not in a state that can be settled", context := context }
  | some "PAYMENT_ALREADY_PAID" =>
    { kind := .paymentCallbackDuplicate
      message := "the order for this callback is no longer payable", context := context }
  | _ =>
    { kind := .paymentStateInvalid
      message := "the callback could not be applied", context := context }

/-- Map an outcome to the answer a provider sees. -/
def respond (execution : CallbackExecution) : Except AppError CallbackAnswer :=
  if execution.replayed ∨ execution.duplicate then
    .ok { duplicate := true, paymentId := execution.paymentId, status := execution.status }
  else if execution.uncommitted then
    .error (refusalFor execution)
  else match execution.paymentId with
    | none => .error { kind := .paymentNotFound, message := "the callback resolved no payment" }
    | some paymentId => .ok { duplicate := false, paymentId := some paymentId, status := execution.status }

/-! ## The endpoint -/

/-- The limits of the request: header lengths and body size. -/
def requestLimit (delivery : Delivery) : Option AppError :=
  if 128 < delivery.headers.eventId.length ∨ 32 < delivery.headers.timestamp.length ∨
      256 < delivery.headers.signature.length then
    some { kind := .validation, message := "request validation failed" }
  else if maxCallbackBodyBytes < delivery.rawBody.length then
    some { kind := .paymentCallbackSignature
           message := "the callback body exceeds the accepted size"
           context := [("bytes", .int delivery.rawBody.length), ("limit", .int maxCallbackBodyBytes)] }
  else none

/-- Answer a delivery that is not valid at the edge. -/
def refuseDelivery (env : Deployment) (delivery : Delivery) (reason : String) (now : Time) :
    Tx CallbackAnswer := do
  recordRefusedSignature (delivery.request env) reason now
  raise { kind := .paymentCallbackSignature
          message := "the callback signature could not be verified"
          context := [("provider", .str delivery.headers.provider),
            ("event_id", .str delivery.headers.eventId), ("reason", .str reason)] }

/-- Answer a delivery that is valid at the edge. -/
def processDelivery (env : Deployment) (delivery : Delivery) (t : Instants) : Tx CallbackAnswer := do
  let execution ← execute env (delivery.request env) t.verified t.now
  ofExcept (respond execution)

/-- Receive a settlement notification from a provider. -/
def receiveCallback (env : Deployment) (delivery : Delivery) (t : Instants) : Tx CallbackAnswer := do
  if let some limit := requestLimit delivery then
    raise limit
  let verdict ← ofExcept (env.verifySignature delivery.headers delivery.rawBody t.edge)
  if verdict.valid then processDelivery env delivery t
  else refuseDelivery env delivery verdict.reason t.now

/-! ## What a delivery leaves -/

/-- The row of a delivery that was refused at the edge. -/
def CallbackRequest.refusedRow (request : CallbackRequest) (reason : String) (now : Time) : PaymentCallback :=
  (request.claim now).markedFailed s!"invalid signature: {reason}" now

/-- What a delivery left. -/
inductive Received (env : Deployment) (delivery : Delivery) (t : Instants) (next : Nat) (d : Db) :
    Nat → Db → Prop where
  | refused (reason : String) (unclaimed : d.Unclaimed (delivery.request env))
      (invalid : ¬ Verified env (delivery.request env) t.edge) :
      Received env delivery t next d (next + 1) { d with
        callbacks := d.callbacks.set next ((delivery.request env).refusedRow reason t.now) }
  | delivered {next' : Nat} {d' : Db} (edge : Verified env (delivery.request env) t.edge)
      (delivered : Delivered env (delivery.request env) t.verified t.now next d next' d') :
      Received env delivery t next d next' d'

@[grind .] theorem noCommit_insertRefused (request : CallbackRequest) (reason : String) (now : Time) :
    (insertRefused request reason now).NoCommit := by
  unfold insertRefused
  grind

theorem insertRefused_received {request : CallbackRequest} {reason : String} {now : Time} {e e' : Exec Db}
    {u : Unit} (h : (insertRefused request reason now).run e = (.ok u, e')) :
    e' = e ∨ (e.view.Unclaimed request ∧ e' = { e with
      view := { e.view with callbacks := e.view.callbacks.set e.next (request.refusedRow reason now) }
      next := e.next + 1 }) := by
  unfold insertRefused writeCallback at h
  rw [run_bind_eq_ok] at h
  obtain ⟨claim, e₁, hclaim, h⟩ := h
  rw [insertReceived_eq_ok] at hclaim
  obtain ⟨-, ⟨found, -, rfl, rfl⟩ | ⟨hnone, rfl, rfl⟩⟩ := hclaim
  · cases h
    exact .inl rfl
  · dsimp only at h
    rw [run_update] at h
    cases h
    refine .inr ⟨hnone, ?_⟩
    rw [Dict.modify_set_self]
    rfl

/-- A delivery leaves nothing, or what `Received` says. -/
theorem receiveCallback_leaves (env : Deployment) (delivery : Delivery) (t : Instants) (d : Db) (next : Nat) :
    Leaves (receiveCallback env delivery t) (Exec.start d next) fun next' d' =>
      (next' = next ∧ d' = d) ∨ Received env delivery t next d next' d' := by
  unfold receiveCallback
  split
  · next limit _ => exact (noCommit_fail limit).leaves _ _
  refine leaves_bind (noCommit_ofExcept _) fun verdict e hverdict _ => ?_
  rw [run_ofExcept_eq_ok] at hverdict
  obtain ⟨hverdict, rfl⟩ := hverdict
  split_ifs with hvalid
  · unfold processDelivery execute
    rw [bind_assoc]
    refine leaves_bind (noCommit_process _ _ _ _) fun x e hrun hcommitted => ?_
    rw [bind_assoc]
    unfold closeTransaction
    split_ifs with hx
    · exact NoCommit.leaves (by grind) _ _
    · refine leaves_commitNow_bind (q := pure x >>= _) (by grind) (.inr ?_)
      rw [Bool.not_eq_true] at hx
      exact .delivered ⟨verdict, hverdict, hvalid⟩ (process_delivered hrun hx).2
  · unfold refuseDelivery recordRefusedSignature
    refine leaves_transaction_bind (noCommit_insertRefused _ _ _) (fun _ => noCommit_raise _) fun _ e hrun => ?_
    rcases insertRefused_received hrun with rfl | ⟨hunclaimed, rfl⟩
    · exact .inl ⟨rfl, rfl⟩
    · refine .inr (.refused _ hunclaimed ?_)
      rintro ⟨verdict', hverdict', hvalid'⟩
      rw [show (delivery.request env).headers = delivery.headers from rfl,
        show (delivery.request env).rawBody = delivery.rawBody from rfl, hverdict] at hverdict'
      cases hverdict'
      exact hvalid hvalid'

/-! ## What a refused delivery leaves -/

/-- An outcome is answered, unless it is not committed. -/
def CallbackExecution.Answered (x : CallbackExecution) : Prop :=
  x.uncommitted = false → ∃ answer, respond x = .ok answer

theorem returns_replay (now : Time) (id : Nat) (callback : PaymentCallback) (paymentId : Nat) (payment : Payment)
    (detail : String) : (replay now id callback paymentId payment detail).Returns CallbackExecution.Answered :=
  .bind fun _ _ => ⟨_, rfl⟩

theorem returns_refuse (id : Nat) (callback : PaymentCallback) (paymentId : Option Nat) (code : String)
    (status : Option String) (detail : String) :
    (refuse id callback paymentId code status detail).Returns CallbackExecution.Answered :=
  .bind fun _ h => nomatch h

theorem returns_settleLate (request : CallbackRequest) (now : Time) (id : Nat) (callback : PaymentCallback)
    (paymentId : Nat) (payment : Payment) (amount : Int) (orderId : Nat) (order : Order) :
    (settleLate request now id callback paymentId payment amount orderId order).Returns
      CallbackExecution.Answered :=
  .bind fun _ => .bind fun _ => .bind fun _ => .bind fun _ _ => ⟨_, rfl⟩

section

variable (env : Deployment) (request : CallbackRequest) (now : Time) (id : Nat) (callback : PaymentCallback)
  (paymentId : Nat) (payment : Payment) (orderId : Nat) (order : Order)

theorem returns_settleOnTime (amount : Int) :
    (settleOnTime env request now id callback paymentId payment amount orderId order).Returns
      CallbackExecution.Answered := by
  refine .bind fun _ => .bind fun _ => .bind fun _ => .bind fun _ => .bind fun items => ?_
  cases items with
  | nil => exact returns_refuse _ _ _ _ _ _
  | cons first rest => exact .bind fun _ => .bind fun _ => .bind fun _ => .bind fun _ _ => ⟨_, rfl⟩

theorem returns_settleOrder (amount : Int) :
    (settleOrder env request now id callback paymentId payment amount orderId order).Returns
      CallbackExecution.Answered := by
  unfold settleOrder refuseState
  split_ifs
  · exact returns_refuse _ _ _ _ _ _
  · exact returns_replay _ _ _ _ _ _
  · exact returns_settleLate _ _ _ _ _ _ _ _ _
  · exact returns_replay _ _ _ _ _ _
  · exact returns_refuse _ _ _ _ _ _
  · exact returns_settleOnTime _ _ _ _ _ _ _ _ _ _

theorem returns_settleLocked (amount : Int) :
    (settleLocked env request now id callback paymentId payment amount orderId order).Returns
      CallbackExecution.Answered := by
  unfold settleLocked
  split_ifs
  · exact .bind fun _ => .bind fun _ => .bind fun _ => returns_settleOrder _ _ _ _ _ _ _ _ _ _
  · exact returns_settleOrder _ _ _ _ _ _ _ _ _ _

theorem returns_processPayment (amount : Option Int) :
    (processPayment env request now id callback paymentId payment amount).Returns CallbackExecution.Answered := by
  unfold processPayment refuseState
  split_ifs
  · exact returns_replay _ _ _ _ _ _
  · exact returns_refuse _ _ _ _ _ _
  · exact returns_refuse _ _ _ _ _ _
  · refine .bind fun found => ?_
    cases found with
    | none => exact returns_refuse _ _ _ _ _ _
    | some found => exact returns_settleLocked _ _ _ _ _ _ _ _ _ _

theorem returns_processVerified :
    (processVerified env request now id callback).Returns CallbackExecution.Answered := by
  refine .bind fun amount => ?_
  dsimp only
  cases resolvePaymentNo request.payload with
  | none => exact returns_refuse _ _ _ _ _ _
  | some paymentNo =>
    refine .bind fun found => ?_
    cases found with
    | none => exact returns_refuse _ _ _ _ _ _
    | some found => exact returns_processPayment _ _ _ _ _ _ _ _

theorem returns_process (verifiedAt : Time) :
    (process env request verifiedAt now).Returns CallbackExecution.Answered := by
  refine .bind fun claim => ?_
  cases claim with
  | none => exact fun _ => ⟨_, rfl⟩
  | some claim =>
    refine .bind fun verdict => ?_
    split_ifs
    · exact returns_processVerified _ _ _ _ _
    · exact fun h => nomatch h

end

/-- A delivery that is answered with an exception leaves nothing but its callback. -/
theorem receiveCallback_refuses (env : Deployment) (delivery : Delivery) (t : Instants) (d : Db) (next : Nat) :
    Refuses (receiveCallback env delivery t) (Exec.start d next) fun d' =>
      d' = { d with callbacks := d'.callbacks } := by
  unfold receiveCallback
  split
  · exact fun x e' h => by cases h; rfl
  refine refuses_bind ((noCommit_ofExcept _).refuses _ |>.mono fun d' h => h ▸ rfl) fun verdict e hverdict => ?_
  rw [run_ofExcept_eq_ok] at hverdict
  obtain ⟨-, rfl⟩ := hverdict
  split_ifs with hvalid
  · unfold processDelivery execute
    rw [bind_assoc]
    refine refuses_bind ((noCommit_process _ _ _ _).refuses _ |>.mono fun d' h => h ▸ rfl) fun x e hrun => ?_
    have hcommitted := (noCommit_process env (delivery.request env) t.now t.verified).run_committed (Exec.start d next)
    rw [hrun] at hcommitted
    have hanswered := (returns_process env (delivery.request env) t.now t.verified).run hrun
    intro y e' hclose
    unfold closeTransaction at hclose
    split_ifs at hclose with hx
    · rw [bind_assoc, run_bind, run_rollbackNow, andThen_ok, run_bind, run_pure, andThen_ok] at hclose
      have hleft := (noCommit_ofExcept _).refuses _ _ _ hclose
      rw [hleft]
      dsimp only
      rw [hcommitted]
      rfl
    · obtain ⟨answer, hok⟩ := hanswered (Bool.not_eq_true _ ▸ hx)
      rw [bind_assoc, run_bind, run_commitNow, andThen_ok, run_bind, run_pure, andThen_ok, hok] at hclose
      cases hclose
  · unfold refuseDelivery recordRefusedSignature
    refine refuses_bind ((refuses_transaction (noCommit_insertRefused _ _ _) _).mono fun d' h => h ▸ rfl)
      fun _ e hrun x e' hraise => ?_
    rw [run_transaction_eq_ok] at hrun
    obtain ⟨e₁, hrun, rfl⟩ := hrun
    cases hraise
    rcases insertRefused_received hrun with rfl | ⟨-, rfl⟩
    · rfl
    · rfl

end NovaCommerce
