import NovaCommerce.Payment.Workflow

/-!
# What a delivery commits

`Delivered` lists what a committed delivery did to the database, with the facts it was decided on
(`execute_delivered`): nothing, one processed callback, a late settlement, or a settlement on time.
-/

namespace NovaCommerce

open Sql

/-! ## Outcomes -/

/-- The instances a delivery holds when it decides on an order. -/
structure Held where
  callbackId : Nat
  callback : PaymentCallback
  paymentId : Nat
  payment : Payment
  orderId : Nat
  order : Order

/-- The database with the delivery's callback marked as processed. -/
def Held.processed (h : Held) (now : Time) (d : Db) : Db :=
  { d with callbacks := d.callbacks.modify h.callbackId fun _ => h.callback.markedProcessed now }

/-- The database with the delivery's payment recorded as successful. -/
def Held.paymentSettled (h : Held) (request : CallbackRequest) (amount : Int) (now : Time) (d : Db) : Db :=
  { d with payments := d.payments.modify h.paymentId fun p =>
      p.succeeded amount (resolveExternalTransactionNo request.payload) now }

/-- The database before the compensation refund of a late payment. -/
def Held.paidLate (h : Held) (request : CallbackRequest) (amount : Int) (now : Time) (d : Db) : Db :=
  { h.paymentSettled request amount now d with
    orders := d.orders.modify h.orderId (h.order.paidLate amount now) }

def settlementLog (orderId : Nat) (order : Order) : OrderStatusLog where
  orderId := orderId
  orderNo := order.orderNo
  fromStatus := some .pendingPayment
  toStatus := .processing
  reason := some orderProcessingReason
  operatorType := .system
  operatorId := none

/-- The database before the coupon and the goods of a payment on time. -/
def Held.paidOnTime (h : Held) (request : CallbackRequest) (amount : Int) (now : Time) (d : Db) : Db :=
  { h.paymentSettled request amount now d with
    orders := d.orders.modify h.orderId (h.order.paidOnTime now)
    statusLogs := d.statusLogs ++ [settlementLog h.orderId h.order] }

/-- The rest of a settlement on time: coupon, stock, package and event. -/
inductive GoodsSettled (request : CallbackRequest) (now : Time) (h : Held) (items : List (Nat × OrderItem))
    (next : Nat) (c : Db) : Nat → Db → Prop where
  | mk {next' : Nat} {d₁ d₂ d₃ d₄ : Db} (coupon : CouponMoved .use h.orderId h.order c d₁)
      (stock : Moves deductOperation now (deductRequests h.order.orderNo items) d₁ d₂)
      (shell : ShellCreated h.orderId items next d₂ next' d₃)
      (event : Enqueued (settledEvent request h.paymentId h.payment h.order) d₃ d₄) :
      GoodsSettled request now h items next c next' (h.processed now d₄)

/-- What a committed decision on an order did. -/
inductive OrderOutcome (request : CallbackRequest) (now : Time) (h : Held) (amount : Int) (next : Nat)
    (c : Db) : Nat → Db → Prop where
  | paid (current : h.payment.status ∈ latePaymentStatuses → h.order.orderStatus = .closed)
      (paid : h.order.paymentStatus = .paid) :
      OrderOutcome request now h amount next c next (h.processed now c)
  | late {next' : Nat} {d : Db} (unpaid : h.order.paymentStatus ≠ .paid)
      (closed : h.order.orderStatus = .closed)
      (checked : ∀ o, c.orders.get? h.orderId = some o → (h.order.paidLate amount now o).Checked)
      (ensured : CompensationEnsured h.paymentId h.payment amount next (h.paidLate request amount now c)
        next' d) :
      OrderOutcome request now h amount next c next' (h.processed now d)
  | processing (current : h.payment.status ∉ latePaymentStatuses)
      (unpaid : h.order.paymentStatus ≠ .paid) (processing : h.order.orderStatus = .processing) :
      OrderOutcome request now h amount next c next (h.processed now c)
  | onTime {next' : Nat} {d : Db} (current : h.payment.status ∉ latePaymentStatuses)
      (unpaid : h.order.paymentStatus ≠ .paid) (pending : h.order.orderStatus = .pendingPayment)
      (items : c.itemsFor h.orderId ≠ [])
      (goods : GoodsSettled request now h (c.itemsFor h.orderId) next (h.paidOnTime request amount now c)
        next' d) :
      OrderOutcome request now h amount next c next' d

/-- The order was due and closed first, or nothing was closed. -/
inductive Closing (orderId : Nat) (now : Time) (o : Order) (d : Db) : Db → Prop where
  | open (open_ : o.Due now → ¬ o.Expired (d.paymentsOf orderId) now) : Closing orderId now o d d
  | closed {d' : Db} (due : o.Due now) (expired : OrderExpired orderId now d d') : Closing orderId now o d d'

/-- The verification a delivery passed. -/
def Verified (env : Deployment) (request : CallbackRequest) (verifiedAt : Time) : Prop :=
  ∃ verdict, env.verifySignature request.headers request.rawBody verifiedAt = .ok verdict ∧
    verdict.valid = true

/-- The payment a delivery names. -/
def Db.Names (d : Db) (request : CallbackRequest) (paymentId : Nat) (p : Payment) : Prop :=
  ∃ no, resolvePaymentNo request.payload = some no ∧ d.paymentForUpdate no = some (paymentId, p)

/-- The delivery reports exactly the payment's amount. -/
def Reports (request : CallbackRequest) (p : Payment) : Prop :=
  parseAmountMinor (request.payload.get "amount") = .ok (some p.amount)

/-- The callback row a delivery claims its event with. -/
def CallbackRequest.claim (request : CallbackRequest) (now : Time) : PaymentCallback where
  provider := request.headers.provider
  providerEventId := request.headers.eventId
  eventType := request.eventType
  receivedAt := now

/-- The callback row of a verified delivery for a payment. -/
def CallbackRequest.callbackFor (request : CallbackRequest) (env : Deployment) (now : Time) (p : Payment) :
    PaymentCallback :=
  { (request.claim now).verified env request.payload with
    merchantId := some p.merchantId
    orderNo := some p.orderNo }

/-- The database after a delivery claimed its event. -/
def Db.claimed (d : Db) (request : CallbackRequest) (now : Time) (next : Nat) : Db :=
  { d with callbacks := d.callbacks.set next (request.claim now) }

/-- No callback row has the delivery's event yet. -/
def Db.Unclaimed (d : Db) (request : CallbackRequest) : Prop :=
  d.callbackAt request.headers.provider request.headers.eventId = none

/-- What a committed delivery did. -/
inductive Delivered (env : Deployment) (request : CallbackRequest) (verifiedAt now : Time) (next : Nat)
    (d : Db) : Nat → Db → Prop where
  | duplicate (claimed : ¬ d.Unclaimed request) : Delivered env request verifiedAt now next d next d
  | replayed {paymentId : Nat} {p : Payment} (unclaimed : d.Unclaimed request)
      (verified : Verified env request verifiedAt) (named : d.Names request paymentId p)
      (settled : p.status = .success) :
      Delivered env request verifiedAt now next d (next + 1) { d with
        callbacks := d.callbacks.set next ((request.callbackFor env now p).markedProcessed now) }
  | decided {paymentId orderId next' : Nat} {p p₁ : Payment} {o o₁ : Order} {c d' : Db}
      (unclaimed : d.Unclaimed request) (verified : Verified env request verifiedAt)
      (named : d.Names request paymentId p)
      (open_ : p.status ∈ settleableStatuses ∨ p.status ∈ latePaymentStatuses)
      (exact_ : Reports request p)
      (ofPayment : d.orderByNo p.orderNo none = some (orderId, o))
      (closing : Closing orderId now o (d.claimed request now next) c)
      (order : c.orders.get? orderId = some o₁) (payment : c.payments.get? paymentId = some p₁)
      (outcome : OrderOutcome request now ⟨next, request.callbackFor env now p, paymentId, p₁, orderId, o₁⟩
        p.amount (next + 1) c next' d') :
      Delivered env request verifiedAt now next d next' d'

/-! ## Stage by stage -/

/-- A replay commits its callback. -/
theorem replay_eq_ok {now : Time} {id paymentId : Nat} {callback : PaymentCallback} {payment : Payment}
    {detail : String} {e e' : Exec Db} {x : CallbackExecution}
    (h : (replay now id callback paymentId payment detail).run e = (.ok x, e')) :
    e' = { e with view := { e.view with
      callbacks := e.view.callbacks.modify id fun _ => callback.markedProcessed now } } := by
  cases h
  rfl

/-- A refusal is not committed. -/
theorem refuse_uncommitted {id : Nat} {callback : PaymentCallback} {paymentId : Option Nat}
    {code detail : String} {status : Option String} {e e' : Exec Db} {x : CallbackExecution}
    (h : (refuse id callback paymentId code status detail).run e = (.ok x, e')) : x.uncommitted = true := by
  cases h
  rfl

theorem settleLate_outcome {request : CallbackRequest} {now : Time} {h : Held} {amount : Int}
    {e e' : Exec Db} {x : CallbackExecution}
    (hrun : (settleLate request now h.callbackId h.callback h.paymentId h.payment amount h.orderId
      h.order).run e = (.ok x, e'))
    (unpaid : h.order.paymentStatus ≠ .paid) (closed : h.order.orderStatus = .closed) :
    e'.committed = e.committed ∧ OrderOutcome request now h amount e.next e.view e'.next e'.view := by
  unfold settleLate recordSuccess writeCallback at hrun
  rw [run_bind_eq_ok] at hrun
  obtain ⟨_, e₁, hpayment, hrun⟩ := hrun
  rw [writePayment_eq_ok] at hpayment
  obtain ⟨-, rfl⟩ := hpayment
  rw [run_bind_eq_ok] at hrun
  obtain ⟨_, e₂, horder, hrun⟩ := hrun
  rw [writeOrder_eq_ok] at horder
  obtain ⟨hchecked, rfl⟩ := horder
  rw [run_bind_eq_ok] at hrun
  obtain ⟨_, e₃, hensure, hrun⟩ := hrun
  obtain ⟨next, d, rfl, hensured⟩ := ensureCompensationRefund_ensured hensure
  cases hrun
  exact ⟨rfl, .late unpaid closed hchecked hensured⟩

theorem settleGoods_settled {env : Deployment} {request : CallbackRequest} {now : Time} {h : Held}
    {items : List (Nat × OrderItem)} {first : OrderItem} {e e' : Exec Db} {x : CallbackExecution} {c : Db}
    (hrun : (settleGoods env request now h.callbackId h.callback h.paymentId h.payment h.orderId h.order
      items first).run e = (.ok x, e'))
    (coupon : CouponMoved .use h.orderId h.order c e.view) :
    e'.committed = e.committed ∧ GoodsSettled request now h items e.next c e'.next e'.view := by
  unfold settleGoods writeCallback at hrun
  rw [run_bind_eq_ok] at hrun
  obtain ⟨_, e₁, hstock, hrun⟩ := hrun
  obtain ⟨d₂, rfl, hmoves⟩ := moveAll_moves hstock
  rw [run_bind_eq_ok] at hrun
  obtain ⟨_, e₂, hshell, hrun⟩ := hrun
  obtain ⟨next, d₃, rfl, hcreated⟩ := createShell_created hshell
  rw [run_bind_eq_ok] at hrun
  obtain ⟨_, e₃, hevent, hrun⟩ := hrun
  obtain ⟨d₄, rfl, hqueued⟩ := enqueue_enqueued hevent
  cases hrun
  exact ⟨rfl, .mk coupon hmoves hcreated hqueued⟩

theorem settleOnTime_outcome {env : Deployment} {request : CallbackRequest} {now : Time} {h : Held}
    {amount : Int} {e e' : Exec Db} {x : CallbackExecution}
    (hrun : (settleOnTime env request now h.callbackId h.callback h.paymentId h.payment amount h.orderId
      h.order).run e = (.ok x, e'))
    (hx : x.uncommitted = false) (current : h.payment.status ∉ latePaymentStatuses)
    (unpaid : h.order.paymentStatus ≠ .paid) (pending : h.order.orderStatus = .pendingPayment) :
    e'.committed = e.committed ∧ OrderOutcome request now h amount e.next e.view e'.next e'.view := by
  unfold settleOnTime recordSuccess appendLog itemsFor at hrun
  rw [run_bind_eq_ok] at hrun
  obtain ⟨_, e₁, hpayment, hrun⟩ := hrun
  rw [writePayment_eq_ok] at hpayment
  obtain ⟨-, rfl⟩ := hpayment
  rw [run_bind_eq_ok] at hrun
  obtain ⟨_, e₂, horder, hrun⟩ := hrun
  rw [writeOrder_eq_ok] at horder
  obtain ⟨-, rfl⟩ := horder
  rw [run_bind, run_update, andThen_ok, run_bind_eq_ok] at hrun
  obtain ⟨_, e₃, hcoupon, hrun⟩ := hrun
  obtain ⟨d₁, rfl, hused⟩ := markUsed_moved hcoupon
  rw [run_bind, run_query, andThen_ok] at hrun
  have hitems : d₁.itemsFor h.orderId = e.view.itemsFor h.orderId := by
    obtain ⟨_, _, hd₁, -⟩ := hused.frame
    exact itemsFor_congr (by rw [hd₁]) _
  cases hi : d₁.itemsFor h.orderId with
  | nil =>
    simp only [hi] at hrun
    rw [refuse_uncommitted hrun] at hx
    cases hx
  | cons first rest =>
    simp only [hi] at hrun
    obtain ⟨hcommitted, hgoods⟩ := settleGoods_settled hrun hused
    rw [← hi, hitems] at hgoods
    refine ⟨hcommitted, .onTime current unpaid pending ?_ hgoods⟩
    rw [← hitems, hi]
    exact List.cons_ne_nil _ _

theorem settleOrder_outcome {env : Deployment} {request : CallbackRequest} {now : Time} {h : Held}
    {amount : Int} {e e' : Exec Db} {x : CallbackExecution}
    (hrun : (settleOrder env request now h.callbackId h.callback h.paymentId h.payment amount h.orderId
      h.order).run e = (.ok x, e')) (hx : x.uncommitted = false) :
    e'.committed = e.committed ∧ OrderOutcome request now h amount e.next e.view e'.next e'.view := by
  unfold settleOrder refuseState at hrun
  split_ifs at hrun with hlate hpaid hclosed hpending hprocessing
  · rw [refuse_uncommitted hrun] at hx
    cases hx
  · rw [replay_eq_ok hrun]
    exact ⟨rfl, .paid (fun hl => not_not.mp fun hc => hlate ⟨hl, hc⟩) hpaid⟩
  · exact settleLate_outcome hrun hpaid hclosed
  · rw [replay_eq_ok hrun]
    exact ⟨rfl, .processing (fun hl => hlate ⟨hl, hclosed⟩) hpaid hprocessing⟩
  · rw [refuse_uncommitted hrun] at hx
    cases hx
  · exact settleOnTime_outcome hrun hx (fun hl => hlate ⟨hl, hclosed⟩) hpaid (not_not.mp hpending)

/-- Closing keeps the rows of orders and payments. -/
theorem OrderExpired.rows {orderId : Nat} {now : Time} {d d' : Db} (h : OrderExpired orderId now d d') :
    (∀ i, (d'.orders.get? i).isSome = (d.orders.get? i).isSome) ∧
      ∀ i, (d'.payments.get? i).isSome = (d.payments.get? i).isSome := by
  obtain ⟨order, -, -, hended⟩ := h
  cases hended with
  | mk coupon stock =>
    refine ⟨fun i => ?_, fun i => ?_⟩
    · simp only [Dict.get?_modify]
      split_ifs <;> simp
    · simp

theorem settleLocked_outcome {env : Deployment} {request : CallbackRequest} {now : Time} {h : Held}
    {amount : Int} {e e' : Exec Db} {x : CallbackExecution}
    (hrun : (settleLocked env request now h.callbackId h.callback h.paymentId h.payment amount h.orderId
      h.order).run e = (.ok x, e')) (hx : x.uncommitted = false)
    (horder : e.view.orders.get? h.orderId = some h.order)
    (hpayment : e.view.payments.get? h.paymentId = some h.payment) :
    ∃ c o₁ p₁, Closing h.orderId now h.order e.view c ∧ c.orders.get? h.orderId = some o₁ ∧
      c.payments.get? h.paymentId = some p₁ ∧ e'.committed = e.committed ∧
      OrderOutcome request now { h with order := o₁, payment := p₁ } amount e.next c e'.next e'.view := by
  unfold settleLocked at hrun
  split_ifs at hrun with hdue
  · rw [run_bind_eq_ok] at hrun
    obtain ⟨b, e₁, hclose, hrun⟩ := hrun
    rw [run_bind, run_query, andThen_ok, run_bind, run_query, andThen_ok] at hrun
    rcases closeExpiredOrder_eq_ok hclose with ⟨-, rfl, hnot⟩ | ⟨-, c, rfl, hexpired⟩
    · rw [horder, hpayment] at hrun
      obtain ⟨hc, ho⟩ := settleOrder_outcome (h := h) hrun hx
      exact ⟨_, _, _, .open fun _ => hnot _ horder, horder, hpayment, hc, ho⟩
    · obtain ⟨hrowsO, hrowsP⟩ := hexpired.rows
      have ho₁ : (c.orders.get? h.orderId).isSome := by rw [hrowsO, horder]; rfl
      have hp₁ : (c.payments.get? h.paymentId).isSome := by rw [hrowsP, hpayment]; rfl
      obtain ⟨o₁, ho₁⟩ := Option.isSome_iff_exists.mp ho₁
      obtain ⟨p₁, hp₁⟩ := Option.isSome_iff_exists.mp hp₁
      simp only [ho₁, hp₁, Option.getD_some] at hrun
      obtain ⟨hc, ho⟩ := settleOrder_outcome (h := { h with order := o₁, payment := p₁ }) hrun hx
      exact ⟨c, o₁, p₁, .closed hdue hexpired, ho₁, hp₁, hc, ho⟩
  · obtain ⟨hc, ho⟩ := settleOrder_outcome (h := h) hrun hx
    exact ⟨_, _, _, .open fun hd => absurd hd hdue, horder, hpayment, hc, ho⟩

/-- Marking a callback that was just claimed. -/
theorem claimed_processed (d : Db) (request : CallbackRequest) (now : Time) (next : Nat)
    (row : PaymentCallback) :
    ({ d.claimed request now next with
      callbacks := (d.claimed request now next).callbacks.modify next fun _ => row } : Db) =
      { d with callbacks := d.callbacks.set next row } := by
  show ({ d with callbacks := (d.callbacks.set next (request.claim now)).modify next fun _ => row } : Db) = _
  rw [Dict.modify_set_self]

/-- What a verified delivery ends with when it is to be committed. -/
theorem processVerified_delivered {env : Deployment} {request : CallbackRequest} {verifiedAt now : Time}
    {d : Db} {next : Nat} {e e' : Exec Db} {x : CallbackExecution}
    (hrun : (processVerified env request now next (request.claim now)).run e = (.ok x, e'))
    (hx : x.uncommitted = false) (hview : e.view = d.claimed request now next) (hnext : e.next = next + 1)
    (unclaimed : d.Unclaimed request) (verified : Verified env request verifiedAt) :
    e'.committed = e.committed ∧ Delivered env request verifiedAt now next d e'.next e'.view := by
  unfold processVerified at hrun
  rw [run_bind_eq_ok] at hrun
  obtain ⟨amount, e₁, hamount, hrun⟩ := hrun
  rw [run_ofExcept_eq_ok] at hamount
  obtain ⟨hamount, rfl⟩ := hamount
  cases hno : resolvePaymentNo request.payload with
  | none =>
    simp only [hno] at hrun
    rw [refuse_uncommitted hrun] at hx
    cases hx
  | some no =>
    simp only [hno] at hrun
    rw [run_bind, run_getByPaymentNoForUpdate, andThen_ok] at hrun
    have hpay : e.view.paymentForUpdate no = d.paymentForUpdate no := by rw [hview]; rfl
    rw [hpay] at hrun
    cases hp : d.paymentForUpdate no with
    | none =>
      simp only [hp] at hrun
      rw [refuse_uncommitted hrun] at hx
      cases hx
    | some entry =>
      obtain ⟨paymentId, p⟩ := entry
      simp only [hp] at hrun
      have named : d.Names request paymentId p := ⟨no, hno, hp⟩
      have hrow : d.payments.get? paymentId = some p := (paymentForUpdate_some hp).1
      unfold processPayment refuseState at hrun
      split_ifs at hrun with hsuccess hstate hmismatch
      · rw [replay_eq_ok hrun, hview]
        refine ⟨rfl, ?_⟩
        show Delivered env request verifiedAt now next d e.next _
        rw [hnext]
        have hd : Delivered env request verifiedAt now next d (next + 1) _ :=
          .replayed unclaimed verified named hsuccess
        rw [← claimed_processed] at hd
        exact hd
      · rw [refuse_uncommitted hrun] at hx
        cases hx
      · rw [refuse_uncommitted hrun] at hx
        cases hx
      · unfold getByOrderNoForUpdate at hrun
        rw [run_bind, run_lock, andThen_ok, hview] at hrun
        have hby : (d.claimed request now next).orderByNo p.orderNo none = d.orderByNo p.orderNo none := rfl
        rw [hby] at hrun
        cases ho : d.orderByNo p.orderNo none with
        | none =>
          simp only [ho] at hrun
          rw [refuse_uncommitted hrun] at hx
          cases hx
        | some entry =>
          obtain ⟨orderId, o⟩ := entry
          simp only [ho] at hrun
          obtain ⟨c, o₁, p₁, hclosing, ho₁, hp₁, hcommitted, houtcome⟩ := settleLocked_outcome
            (h := ⟨next, request.callbackFor env now p, paymentId, p, orderId, o⟩) hrun hx
            (by rw [hview]; exact (orderByNo_some ho).1) (by rw [hview]; exact hrow)
          refine ⟨hcommitted, ?_⟩
          rw [hview] at hclosing
          rw [hnext] at houtcome
          rw [not_and_or, not_not, not_not] at hstate
          rw [not_not] at hmismatch
          rw [hmismatch] at hamount
          exact .decided unclaimed verified named hstate hamount ho hclosing ho₁ hp₁ houtcome

/-- What a delivery ends with when it is to be committed. -/
theorem process_delivered {env : Deployment} {request : CallbackRequest} {verifiedAt now : Time}
    {e e' : Exec Db} {x : CallbackExecution}
    (hrun : (process env request verifiedAt now).run e = (.ok x, e')) (hx : x.uncommitted = false) :
    e'.committed = e.committed ∧ Delivered env request verifiedAt now e.next e.view e'.next e'.view := by
  unfold process at hrun
  rw [run_bind_eq_ok] at hrun
  obtain ⟨claim, e₁, hclaim, hrun⟩ := hrun
  rw [insertReceived_eq_ok] at hclaim
  obtain ⟨-, ⟨found, hfound, rfl, rfl⟩ | ⟨hnone, rfl, rfl⟩⟩ := hclaim
  · cases hrun
    exact ⟨rfl, .duplicate fun h => by rw [Db.Unclaimed, hfound] at h; cases h⟩
  · dsimp only at hrun
    rw [run_bind_eq_ok] at hrun
    obtain ⟨verdict, e₂, hverdict, hrun⟩ := hrun
    rw [run_ofExcept_eq_ok] at hverdict
    obtain ⟨hverdict, rfl⟩ := hverdict
    split_ifs at hrun with hvalid
    · have h := processVerified_delivered hrun hx rfl rfl hnone ⟨verdict, hverdict, hvalid⟩
      exact h
    · cases hrun
      cases hx

end NovaCommerce
