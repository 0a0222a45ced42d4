import NovaCommerce.Schema

/-!
# The outbox

`enqueue` appends an event to the caller's transaction, once for an aggregate, and refuses a payload
that names a secret.
-/

namespace NovaCommerce

open Sql

/-! ## Secrets in a payload -/

/-- `_SECRET_KEY_MARKERS`, normalised. -/
def secretKeyMarkers : List String :=
  ["password", "passwd", "pwd", "secret", "token", "apikey", "accesskey", "secretkey", "privatekey",
   "clientsecret", "credential", "authorization", "auth", "cookie", "sessionid", "signature", "sign",
   "salt", "otp", "pin", "cvv", "cardnumber", "refreshtoken", "idtoken", "bearertoken", "jwt"]

/-- `_NORMALISED_ALLOWLIST`. -/
def secretKeyAllowlist : List String :=
  ["authorizationstatus", "authsessionscount", "tokeninput", "tokenoutput", "tokencount", "tokensused",
   "signaturevalid", "signverified"]

/-- The lowercase letters and digits of an ASCII key. -/
def normaliseKey (key : String) : List Char :=
  (key.toList.map Char.toLower).filter fun c => decide (('a' ≤ c ∧ c ≤ 'z') ∨ ('0' ≤ c ∧ c ≤ '9'))

/-- The key names a credential. -/
def isSecretKey (key : String) : Bool :=
  let normalised := normaliseKey key
  !secretKeyAllowlist.any (fun k => k.toList = normalised) &&
    secretKeyMarkers.any fun marker => decide (marker.toList <:+: normalised)

/-- The top-level keys of a payload that still name a credential. -/
def secretKeysOf (payload : JsonObject) : List String :=
  (payload.map Prod.fst).filter isSecretKey

/-! ## Events -/

/-- Shape of `order.created`. -/
def orderCreatedPayload (orderNo : String) (payableAmount itemCount : Int) : JsonObject :=
  [("order_no", .str orderNo), ("payable_amount", .int payableAmount), ("item_count", .int itemCount)]

/-- Shape of `payment.settled`. -/
def paymentSettledPayload (paymentNo orderNo : String) (amount : Int) (provider : String) : JsonObject :=
  [("payment_no", .str paymentNo), ("order_no", .str orderNo), ("amount", .int amount),
    ("provider", .str provider)]

/-- Shape of `refund.succeeded`. -/
def refundSucceededPayload (refundNo : String) (refundId : Nat) (afterSaleNo orderNo : String)
    (amount orderRefundedAmount orderPaidAmount : Int) (paymentStatus afterSaleStatus claimStatus : String) : JsonObject :=
  [("refund_no", .str refundNo), ("refund_id", .int refundId), ("after_sale_no", .str afterSaleNo),
    ("order_no", .str orderNo), ("amount", .int amount), ("order_refunded_amount", .int orderRefundedAmount),
    ("order_paid_amount", .int orderPaidAmount), ("payment_status", .str paymentStatus),
    ("after_sale_status", .str afterSaleStatus), ("claim_status", .str claimStatus)]

theorem secretKeysOf_paymentSettledPayload (paymentNo orderNo : String) (amount : Int) (provider : String) :
    secretKeysOf (paymentSettledPayload paymentNo orderNo amount provider) = [] := by
  show ["payment_no", "order_no", "amount", "provider"].filter isSecretKey = []
  decide

/-- The event queued for an aggregate. -/
def Db.queuedEvent (d : Db) (eventType : OutboxEventType) (aggregateType : OutboxAggregateType)
    (aggregateId : Nat) : Option OutboxMessage :=
  d.outbox.find? fun m => decide (m.eventType = eventType ∧ m.aggregateType = aggregateType ∧
    m.aggregateId = aggregateId)

/-- Queue one event; an aggregate that has it keeps it. -/
def enqueue (message : OutboxMessage) : Tx Unit := do
  raiseIf (secretKeysOf message.payload ≠ [])
    { kind := .valueError, message := "outbox payload would publish sensitive values" }
  let queued ← lock
    (fun _ => [RowLock.outboxEvent message.eventType message.aggregateType message.aggregateId])
    (fun d => d.queuedEvent message.eventType message.aggregateType message.aggregateId)
  if queued.isNone then
    update fun d => { d with outbox := d.outbox ++ [message] }

/-- What `enqueue` did. -/
inductive Enqueued (message : OutboxMessage) (d : Db) : Db → Prop where
  | present {queued : OutboxMessage}
      (found : d.queuedEvent message.eventType message.aggregateType message.aggregateId = some queued) :
      Enqueued message d d
  | appended
      (absent : d.queuedEvent message.eventType message.aggregateType message.aggregateId = none) :
      Enqueued message d { d with outbox := d.outbox ++ [message] }

theorem enqueue_enqueued {message : OutboxMessage} {e e' : Exec Db} {u : Unit}
    (h : (enqueue message).run e = (.ok u, e')) :
    ∃ d, e' = { e with view := d } ∧ Enqueued message e.view d := by
  unfold enqueue at h
  rw [run_bind_eq_ok] at h
  obtain ⟨_, e₁, hclean, h⟩ := h
  rw [run_raiseIf_eq_ok] at hclean
  obtain ⟨-, rfl⟩ := hclean
  rw [run_bind, run_lock, andThen_ok] at h
  cases hq : e.view.queuedEvent message.eventType message.aggregateType message.aggregateId with
  | some queued =>
    simp only [hq, Option.isNone_some, Bool.false_eq_true, if_false, run_pure] at h
    cases h
    exact ⟨_, rfl, .present hq⟩
  | none =>
    simp only [hq, Option.isNone_none, if_true, run_update] at h
    cases h
    exact ⟨_, rfl, .appended hq⟩

theorem enqueue_ok {message : OutboxMessage} {e : Exec Db} (h : secretKeysOf message.payload = []) :
    ∃ d, (enqueue message).run e = (.ok (), { e with view := d }) ∧ Enqueued message e.view d := by
  have hrun : ∃ e', (enqueue message).run e = (.ok (), e') := by
    unfold enqueue
    rw [run_bind, run_raiseIf_neg (not_not.mpr h), andThen_ok, run_bind, run_lock, andThen_ok]
    split_ifs
    · exact ⟨_, rfl⟩
    · exact ⟨_, rfl⟩
  obtain ⟨e', hrun⟩ := hrun
  obtain ⟨d, rfl, hqueued⟩ := enqueue_enqueued hrun
  exact ⟨d, hrun, hqueued⟩

/-- After `enqueue` the aggregate has its event. -/
theorem Enqueued.mem {message : OutboxMessage} {d d' : Db} (h : Enqueued message d d') :
    ∃ m ∈ d'.outbox, m.eventType = message.eventType ∧ m.aggregateType = message.aggregateType ∧
      m.aggregateId = message.aggregateId := by
  cases h with
  | @present queued found =>
    have hp := List.find?_some found
    simp only [decide_eq_true_eq] at hp
    exact ⟨queued, List.mem_of_find?_eq_some found, hp⟩
  | appended _ => exact ⟨message, by simp, rfl, rfl, rfl⟩

/-- Only the outbox changes, by at most the message. -/
theorem Enqueued.frame {message : OutboxMessage} {d d' : Db} (h : Enqueued message d d') :
    ∃ outbox, d' = { d with outbox := d.outbox ++ outbox } ∧ ∀ m ∈ outbox, m = message := by
  cases h with
  | present _ => exact ⟨[], by rw [List.append_nil], by simp⟩
  | appended _ => exact ⟨[message], rfl, by simp⟩

@[grind .] theorem noCommit_enqueue (message : OutboxMessage) : (enqueue message).NoCommit := by
  unfold enqueue
  grind

end NovaCommerce
