import NovaCommerce.Analytics.Turnover
import NovaCommerce.Lifecycle.Ledgers

/-!
# Compensation refunds are sent once

A worker parks an intent, calls the provider, and records the answer; it can be lost anywhere between. Intents may be
listed any number of times, and by several workers.

* `Untouched` : what a session that is no worker's leaves of intents and of the money of orders (`after_untouched`);
* `Office` : the shop, what the provider was asked for, and the calls that wait for an answer; `Office.follow` : a run;
* `Office.Sent` : what every event keeps (`sent_step`);
* `compensations_sent_once` : over every run the provider is asked at most once for an intent, and what an order was
  refunded is exactly its refunds and the compensations the provider confirmed.
-/

namespace NovaCommerce

open Sql

/-! ## Sessions that are no worker's -/

/-- An order that is not settled was not settled before, and keeps what it was refunded. -/
def Order.KeepsRefunds (o o' : Order) : Prop := ¬ o'.Settled → ¬ o.Settled ∧ o'.refundedAmount = o.refundedAmount

theorem Order.KeepsRefunds.refl (o : Order) : o.KeepsRefunds o := fun h => ⟨h, rfl⟩

theorem Order.KeepsRefunds.trans (o o' o'' : Order) (h : o.KeepsRefunds o') (h' : o'.KeepsRefunds o'') :
    o.KeepsRefunds o'' := by
  intro hnot
  obtain ⟨hmiddle, hsame⟩ := h' hnot
  obtain ⟨hbefore, hsame'⟩ := h hmiddle
  exact ⟨hbefore, hsame.trans hsame'⟩

/-- Intents are left alone, or one is added that waits; orders that are not settled keep what they were refunded. -/
structure Untouched (d d' : Db) : Prop where
  intents : d'.compensations = d.compensations ∨ ∃ k r, d.compensations.get? k = none ∧
    r.status = CompensationStatus.pending ∧ d'.compensations = d.compensations.set k r
  orders : d.orders.Grows Order.KeepsRefunds (fun o => o.refundedAmount = 0) d'.orders

theorem Untouched.same {d d' : Db} (intents : d'.compensations = d.compensations) (orders : d'.orders = d.orders) :
    Untouched d d' := by
  refine ⟨.inl intents, ?_⟩
  rw [orders]
  exact Dict.grows_refl Order.KeepsRefunds.refl _

theorem Untouched.modified {d d' : Db} {i : Nat} {f : Order → Order} (intents : d'.compensations = d.compensations)
    (orders : d'.orders = d.orders.modify i f) (hf : ∀ o, d.orders.get? i = some o → o.KeepsRefunds (f o)) :
    Untouched d d' := by
  refine ⟨.inl intents, ?_⟩
  rw [orders]
  exact Dict.grows_modify Order.KeepsRefunds.refl hf

/-- No row and no intent was made before the last step. -/
theorem Untouched.after {d d₁ d₂ : Db} (intents : d₁.compensations = d.compensations)
    (orders : d.orders.Grows Order.KeepsRefunds (fun _ => False) d₁.orders) (h : Untouched d₁ d₂) : Untouched d d₂ := by
  refine ⟨?_, Dict.Grows.trans Order.KeepsRefunds.trans orders h.orders⟩
  rw [← intents]
  exact h.intents

/-- A pending order that ends, and what else its ending leaves. -/
theorem OrderEnded.untouched {orderId : Nat} {order : Order} {requests : List StockRequest} {now : Time}
    {attempts : List (Nat × Payment)} {write : Order → Order} {log : OrderStatusLog} {d d' : Db}
    (h : OrderEnded orderId order requests now attempts write log d d') (row : d.orders.get? orderId = some order)
    (pending : order.orderStatus = .pendingPayment) (hw : (write order).refundedAmount = order.refundedAmount) :
    d'.compensations = d.compensations ∧ d.orders.Grows Order.KeepsRefunds (fun _ => False) d'.orders := by
  obtain ⟨d₁, d₂, -, -, rfl⟩ := h.parts
  refine ⟨rfl, Dict.grows_modify Order.KeepsRefunds.refl fun o ho _ => ?_⟩
  rw [row] at ho
  cases ho
  exact ⟨not_settled_of_pending pending, hw⟩

theorem Closing.untouched {orderId : Nat} {now : Time} {o : Order} {d c : Db} (h : Closing orderId now o d c) :
    c.compensations = d.compensations ∧ d.orders.Grows Order.KeepsRefunds (fun _ => False) c.orders := by
  cases h with
  | «open» _ => exact ⟨rfl, Dict.grows_refl Order.KeepsRefunds.refl _⟩
  | closed due expired =>
    obtain ⟨order, hrow, ⟨hpending, -⟩, hended⟩ := expired
    exact hended.untouched hrow hpending rfl

theorem OrderOutcome.untouched {request : CallbackRequest} {now : Time} {h : Held} {amount : Int} {next next' : Nat}
    {c d' : Db} (houtcome : OrderOutcome request now h amount next c next' d')
    (fresh : c.compensations.get? next = none) : Untouched c d' := by
  cases houtcome with
  | paid _ _ => exact .same rfl rfl
  | processing _ _ _ => exact .same rfl rfl
  | late unpaid closed checked ensured =>
    have horders : c.orders.Grows Order.KeepsRefunds (fun o => o.refundedAmount = 0)
        (c.orders.modify h.orderId (h.order.paidLate amount now)) :=
      Dict.grows_modify Order.KeepsRefunds.refl fun _ _ hnot => ⟨hnot, rfl⟩
    cases ensured with
    | present _ => exact ⟨.inl rfl, horders⟩
    | @created refund absent positive ofPayment ofOrder ofAmount pending =>
      exact ⟨.inr ⟨next, refund, fresh, pending, rfl⟩, horders⟩
  | onTime current unpaid pending items goods =>
    cases goods with
    | @mk d₁ d₂ d₃ d₄ coupon stock shell event =>
      obtain ⟨userCoupons, couponUsages, hd₁, -⟩ := coupon.frame
      obtain ⟨movements, inventories, hd₂, -⟩ := stock.frame
      obtain ⟨-, -, hd₃⟩ := shell.frame
      obtain ⟨outbox, hd₄, -⟩ := event.frame
      have hd : (h.processed now d₄).orders = c.orders.modify h.orderId (h.order.paidOnTime now) ∧
          (h.processed now d₄).compensations = c.compensations := by
        unfold Held.processed
        rw [hd₄, hd₃, hd₂, hd₁]
        exact ⟨rfl, rfl⟩
      exact .modified hd.2 hd.1 fun _ _ hnot => absurd (.inl rfl) hnot

theorem Received.untouched {env : Deployment} {delivery : Delivery} {t : Instants} {next next' : Nat} {d d' : Db}
    (h : Received env delivery t next d next' d') (hfresh : d.FreshFrom next) : Untouched d d' := by
  cases h with
  | refused _ _ _ => exact .same rfl rfl
  | delivered edge delivered =>
    cases delivered with
    | duplicate _ => exact .same rfl rfl
    | replayed _ _ _ _ => exact .same rfl rfl
    | decided _ _ _ _ _ _ closing _ _ outcome =>
      obtain ⟨hintents, horders⟩ := closing.untouched
      refine .after hintents horders (outcome.untouched ?_)
      rw [hintents]
      exact (hfresh _ (Nat.le_succ _)).compensations

theorem OrderCreated.untouched {env : Deployment} {next next' : Nat} {d d' : Db} (h : OrderCreated env next d next' d')
    (hfresh : d.FreshFrom next) : Untouched d d' := by
  cases h with
  | mk merged unclaimed unordered window priced checked coupon stock items event =>
    obtain ⟨outbox, hd, -⟩ := event.frame
    rw [hd]
    exact ⟨.inl rfl, Dict.grows_set Order.KeepsRefunds.refl (hfresh _ (Nat.le_succ _)).orders rfl⟩

theorem CouponClaimed.untouched {next : Nat} {d d' : Db} (h : CouponClaimed next d d') : Untouched d d' := by
  cases h with
  | mk _ _ _ _ _ _ _ => exact .same rfl rfl

theorem CouponsSwept.untouched {d d' : Db} (h : CouponsSwept d d') : Untouched d d' := by
  cases h with
  | mk _ _ => exact .same rfl rfl

theorem PackageShipped.untouched {next next' : Nat} {d d' : Db} (h : PackageShipped next d next' d') : Untouched d d' := by
  cases h with
  | @mk id next' f order request now axis d' found ofOrder unshipped carried kept residual =>
    obtain ⟨-, -, hframe⟩ := residual.frame
    rw [hframe]
    exact .modified (f := fun row => { row with fulfillmentStatus := axis }) rfl rfl fun _ _ hnot => ⟨hnot, rfl⟩

theorem ReceiptConfirmed.untouched {d d' : Db} (h : ReceiptConfirmed d d') : Untouched d d' := by
  cases h with
  | mk _ _ => exact .modified rfl rfl fun _ _ hnot => absurd (.inr rfl) hnot

theorem AttemptCreated.untouched {next next' : Nat} {d d' : Db} (h : AttemptCreated next d next' d') : Untouched d d' := by
  cases h with
  | replayed => exact .same rfl rfl
  | @created orderId order p now _ _ _ _ _ _ _ _ _ _ _ =>
    refine .modified rfl rfl fun o _ => ?_
    unfold Order.payingBy
    split_ifs
    · exact fun hnot => ⟨hnot, rfl⟩
    · exact .refl o

/-- A session that is no worker's. -/
def Op.Ordinary : Op → Prop
  | .dispatchCompensation _ => False
  | .settleCompensation _ _ => False
  | .failCompensation _ _ => False
  | _ => True

/-- A session that leaves nothing, or what it is said to leave. -/
theorem untouched_of_leaves {α : Type} {p : Tx α} {s : Shop}
    (h : Leaves p (Exec.start s.db s.next) fun _ d => Untouched s.db d) (n : Nat) :
    Untouched s.db (runFor n p (Exec.start s.db s.next)).committed := by
  rcases h n with hlost | ⟨next, -, huntouched⟩
  · rw [hlost]
    exact .same rfl rfl
  · exact huntouched

theorem after_untouched (env : Deployment) {s : Shop} (hfresh : s.db.FreshFrom s.next) {op : Op} (hop : op.Ordinary)
    (n : Nat) : Untouched s.db (s.after env op n).db := by
  cases op with
  | createOrder principal request now =>
    refine untouched_of_leaves ((createOrder_leaves env principal request now s.db s.next).mono fun next d h => ?_) n
    rcases h with ⟨-, rfl⟩ | h
    · exact .same rfl rfl
    · exact h.untouched hfresh
  | claimCoupon principal templateId now =>
    exact untouched_of_leaves (leaves_transaction (noCommit_issueCoupon _ _ _) fun id e h =>
      (issueCoupon_claimed h).2.untouched) n
  | expireCoupons now limit lockedElsewhere =>
    exact untouched_of_leaves (leaves_transaction (noCommit_sweepCoupons _ _ _) fun count e h =>
      (sweepCoupons_swept h).2.untouched) n
  | ship principal id carrier trackingNo lines now =>
    exact untouched_of_leaves ((ship_leaves env principal id carrier trackingNo lines now s.db s.next).mono
      fun next d h => h.untouched) n
  | confirmReceipt principal orderNo now =>
    refine untouched_of_leaves (leaves_transaction (noCommit_confirmReceiptOrder _ _ _) fun _ e h => ?_) n
    obtain ⟨d, rfl, hconfirmed⟩ := confirmReceiptOrder_confirmed h
    exact hconfirmed.untouched
  | createPayment principal request now =>
    exact untouched_of_leaves (leaves_transaction (noCommit_createAttempt _ _ _ _) fun _ e h =>
      (createAttempt_created h).untouched) n
  | cancel principal orderNo reason now =>
    refine untouched_of_leaves (leaves_transaction (noCommit_cancelOrder _ _ _ _) fun _ e h => ?_) n
    obtain ⟨d, rfl, id, order, hby, hpending, hended⟩ := cancelOrder_cancelled h
    obtain ⟨hintents, horders⟩ := hended.untouched (orderByNo_some hby).1 hpending rfl
    exact .after hintents horders (.same rfl rfl)
  | expire orderId now =>
    refine untouched_of_leaves (leaves_transaction (noCommit_closeExpiredOrder _ _) fun _ e h => ?_) n
    rcases closeExpiredOrder_eq_ok h with ⟨-, rfl, -⟩ | ⟨-, d, rfl, order, hrow, ⟨hpending, -⟩, hended⟩
    · exact .same rfl rfl
    · obtain ⟨hintents, horders⟩ := hended.untouched hrow hpending rfl
      exact .after hintents horders (.same rfl rfl)
  | receive delivery t =>
    refine untouched_of_leaves ((receiveCallback_leaves env delivery t s.db s.next).mono fun next d h => ?_) n
    rcases h with ⟨-, rfl⟩ | h
    · exact .same rfl rfl
    · exact h.untouched hfresh
  | dispatchCompensation id => exact hop.elim
  | settleCompensation id providerRefundNo => exact hop.elim
  | failCompensation id errorType => exact hop.elim

/-- After-sales give back money on settled orders only. -/
theorem AfterSaleEffect.untouched {env : Deployment} {next next' : Nat} {d d' : Db} {op : AfterSaleOp}
    (h : AfterSaleEffect env next d op next' d') (hd : d.Accounted) : Untouched d d' := by
  have hanswered : ∀ {afterSaleNo : String} {f : AfterSale → AfterSale}, Answered afterSaleNo f d d' → Untouched d d' := by
    rintro afterSaleNo f ⟨id, c, -, -, -, -, rfl⟩
    exact .same rfl rfl
  cases h with
  | applied _ _ => exact .same rfl rfl
  | cancelled answered => exact hanswered answered
  | approved answered => exact hanswered answered
  | rejected answered => exact hanswered answered
  | @refunded principal request now rows split d' given posted =>
    obtain ⟨o, ho, hsettled⟩ := hd.claims posted.locks.claim
    obtain ⟨movements, inventories, outbox, -, -, rfl⟩ := posted.effects
    refine .modified (i := rows.claim.orderId)
      (f := fun row => rows.order.afterSaleAxis request.amount (rows.order.refundedBy request.amount row)) rfl rfl
      fun o' ho' hnot => absurd ?_ hnot
    rw [ho] at ho'
    cases ho'
    exact hsettled

/-- A session that is no worker's. -/
def Session.Ordinary : Session → Prop
  | .shop op => op.Ordinary
  | .afterSale _ => True

theorem session_untouched {env : Deployment} {s : Shop} (hs : s.Reconciled env) {session : Session}
    (ordinary : session.Ordinary) (n : Nat) : Untouched s.db (s.session env session n).db := by
  cases session with
  | shop op => exact after_untouched env hs.fresh ordinary n
  | afterSale op =>
    show Untouched s.db (s.afterSale env op n).db
    rcases afterSale_effect hs.claimed.linesDistinct op n with ⟨hsame, -⟩ | ⟨next, -, heffect⟩
    · rw [hsame]
      exact .same rfl rfl
    · exact heffect.untouched hs.accounted

/-! ## Workers -/

/-- What the provider's client answers. -/
inductive SenderAnswer where
  | refunded (providerRefundNo : String)
  | failed (errorType : String)

/-- The session that records an answer; a confirmation without a reference is none. -/
def SenderAnswer.op (answer : SenderAnswer) (id : Nat) : Op :=
  match answer with
  | .refunded providerRefundNo =>
    if providerRefundNo = "" then .failCompensation id "ValueError" else .settleCompensation id providerRefundNo
  | .failed errorType => .failCompensation id errorType

/-- What happens to the shop and its workers. -/
inductive Event where
  | session (session : Session) (ordinary : session.Ordinary) (n : Nat)
  /-- A worker is lost behind its first `n` statements, or before it calls the provider. -/
  | lost (id n : Nat)
  /-- A worker takes up an intent, and calls the provider if it may. -/
  | dispatch (id : Nat)
  /-- The provider answers a call that waits; the worker is lost behind `n` statements of its second transaction. -/
  | answer (id : Nat) (answer : SenderAnswer) (n : Nat)

/-- The shop, what the provider was asked for, and the calls that wait for an answer. -/
structure Office where
  shop : Shop
  sent : List (Nat × Int) := []
  waiting : List Nat := []

/-- The call a worker makes after its first transaction. -/
def callsOf (id : Nat) : Except AppError CompensationStep → List (Nat × Int)
  | .ok (.dispatched _ amount) => [(id, amount)]
  | _ => []

/-- The worker's first transaction, and its call. -/
def Office.dispatched (office : Office) (id : Nat) : Office :=
  let (result, e) := (dispatchCompensation id).run (Exec.start office.shop.db office.shop.next)
  let calls := callsOf id result
  { shop := ⟨e.committed, e.next⟩, sent := office.sent ++ calls, waiting := office.waiting ++ calls.map Prod.fst }

def Office.step (env : Deployment) (office : Office) : Event → Office
  | .session session _ n => { office with shop := office.shop.session env session n }
  | .lost id n => { office with shop := office.shop.after env (.dispatchCompensation id) n }
  | .dispatch id => office.dispatched id
  | .answer id answer n =>
    if id ∈ office.waiting then
      { office with shop := office.shop.after env (answer.op id) n, waiting := office.waiting.filter fun j => j ≠ id }
    else office

/-- The shop and its workers, after a list of events. -/
def Office.follow (env : Deployment) : List Event → Office → Office
  | [], office => office
  | event :: events, office => Office.follow env events (office.step env event)

/-! ## What every event keeps -/

/-- What an intent gave back. -/
def PaymentCompensationRefund.given (r : PaymentCompensationRefund) : Int :=
  if r.status = .succeeded then r.amount else 0

/-- What the provider confirmed for the intents of an order. -/
def Db.compensated (d : Db) (orderId : Nat) : Int :=
  d.compensations.totalOf PaymentCompensationRefund.orderId PaymentCompensationRefund.given orderId

/-- The intent is not dispatched any more. -/
def PaymentCompensationRefund.Parked (r : PaymentCompensationRefund) : Prop :=
  r.status = .reconciliationRequired ∨ r.status = .succeeded

/-- What holds of the shop and its workers. -/
structure Office.Sent (env : Deployment) (office : Office) : Prop where
  reconciled : office.shop.Reconciled env
  once : (office.sent.map Prod.fst).Nodup
  parked : ∀ call ∈ office.sent, ∃ r, office.shop.db.compensations.get? call.1 = some r ∧ r.Parked ∧ r.amount = call.2
  waits : ∀ id ∈ office.waiting, ∃ r, office.shop.db.compensations.get? id = some r ∧ r.status = .reconciliationRequired
  called : ∀ id ∈ office.waiting, id ∈ office.sent.map Prod.fst
  confirmed : ∀ id r, office.shop.db.compensations.get? id = some r → r.status = .succeeded → id ∈ office.sent.map Prod.fst
  money : ∀ i o, office.shop.db.orders.get? i = some o → ¬ o.Settled → o.refundedAmount = office.shop.db.compensated i

/-- The intents that an event leaves alone. -/
theorem compensated_grown {d d' : Db} (h : Untouched d d') (i : Nat) : d'.compensated i = d.compensated i := by
  unfold Db.compensated
  rcases h.intents with hsame | ⟨k, r, hfresh, hpending, hset⟩
  · rw [hsame]
  · rw [hset]
    refine Dict.totalOf_set_zero hfresh ?_
    unfold PaymentCompensationRefund.given
    rw [hpending]
    rfl

/-- No intent is there twice, and those that were there stay. -/
theorem Untouched.intent {d d' : Db} (h : Untouched d d') {id : Nat} {r : PaymentCompensationRefund}
    (hr : d.compensations.get? id = some r) : d'.compensations.get? id = some r := by
  rcases h.intents with hsame | ⟨k, r', hfresh, -, hset⟩
  · rw [hsame]
    exact hr
  · rw [hset]
    have hne : id ≠ k := by
      rintro rfl
      rw [hfresh] at hr
      cases hr
    rw [Dict.get?_set_ne hne]
    exact hr

/-- An intent that is not new was there before. -/
theorem Untouched.intent_origin {d d' : Db} (h : Untouched d d') {id : Nat} {r : PaymentCompensationRefund}
    (hr : d'.compensations.get? id = some r) (hdone : r.status = .succeeded) : d.compensations.get? id = some r := by
  rcases h.intents with hsame | ⟨k, r', -, hpending, hset⟩
  · rw [← hsame]
    exact hr
  · rw [hset] at hr
    have hne : id ≠ k := by
      rintro rfl
      rw [Dict.get?_set_self] at hr
      cases hr
      rw [hpending] at hdone
      cases hdone
    rw [Dict.get?_set_ne hne] at hr
    exact hr

/-- Ordinary sessions leave the workers' books as they are. -/
theorem Office.Sent.untouched {env : Deployment} {office : Office} (hp : office.Sent env) {s : Shop} (hs : s.Reconciled env)
    (h : Untouched office.shop.db s.db) : Office.Sent env { office with shop := s } where
  reconciled := hs
  once := hp.once
  parked := by
    intro call hcall
    obtain ⟨r, hr, hparked⟩ := hp.parked call hcall
    exact ⟨r, h.intent hr, hparked⟩
  waits := by
    intro id hid
    obtain ⟨r, hr, hstatus⟩ := hp.waits id hid
    exact ⟨r, h.intent hr, hstatus⟩
  called := hp.called
  confirmed := fun id r hr hdone => hp.confirmed id r (h.intent_origin hr hdone) hdone
  money := by
    intro i o' ho' hnot
    show o'.refundedAmount = s.db.compensated i
    rw [compensated_grown h]
    rcases h.orders.origin i o' ho' with ⟨o, ho, hkeeps⟩ | ⟨hnone, hzero⟩
    · obtain ⟨hbefore, hsame⟩ := hkeeps hnot
      rw [hsame]
      exact hp.money i o ho hbefore
    · -- no intent is about an order that was not there
      rw [hzero]
      symm
      refine Dict.totalOf_eq_zero fun id r hr hof => ?_
      obtain ⟨o, ho, -⟩ := hp.reconciled.intents id r hr
      rw [hof, hnone] at ho
      cases ho

/-- One intent is rewritten, and the calls about it are. -/
theorem Office.Sent.rewritten {env : Deployment} {office : Office} (hp : office.Sent env) {s : Shop} {sent : List (Nat × Int)}
    {waiting : List Nat} (hs : s.Reconciled env) {id : Nat} {r : PaymentCompensationRefund}
    {f : PaymentCompensationRefund → PaymentCompensationRefund} (row : office.shop.db.compensations.get? id = some r)
    (intents : s.db.compensations = office.shop.db.compensations.modify id f) (amount : (f r).amount = r.amount)
    (parked : (f r).Parked) (confirmed : (f r).status = .succeeded → id ∈ sent.map Prod.fst)
    (once : (sent.map Prod.fst).Nodup) (kept : ∀ j ∈ office.sent.map Prod.fst, j ∈ sent.map Prod.fst)
    (calls : ∀ call ∈ sent, call ∈ office.sent ∨ call = (id, r.amount))
    (waits : ∀ j ∈ waiting, (j ∈ office.waiting ∧ j ≠ id) ∨ (j = id ∧ (f r).status = .reconciliationRequired))
    (called : ∀ j ∈ waiting, j ∈ sent.map Prod.fst)
    (money : ∀ i o, s.db.orders.get? i = some o → ¬ o.Settled → o.refundedAmount = s.db.compensated i) :
    Office.Sent env ⟨s, sent, waiting⟩ where
  reconciled := hs
  once := once
  parked := by
    intro call hcall
    show ∃ r', s.db.compensations.get? call.1 = some r' ∧ _
    rw [intents]
    by_cases hid : call.1 = id
    · rw [hid]
      refine ⟨f r, by rw [Dict.get?_modify_self, row]; rfl, parked, ?_⟩
      rw [amount]
      rcases calls call hcall with hold | rfl
      · obtain ⟨r', hr', -, hamount⟩ := hp.parked call hold
        rw [hid, row] at hr'
        cases hr'
        exact hamount
      · rfl
    · rw [Dict.get?_modify_ne hid]
      rcases calls call hcall with hold | rfl
      · exact hp.parked call hold
      · exact absurd rfl hid
  waits := by
    intro j hj
    show ∃ r', s.db.compensations.get? j = some r' ∧ _
    rw [intents]
    rcases waits j hj with ⟨hold, hne⟩ | ⟨rfl, hstatus⟩
    · rw [Dict.get?_modify_ne hne]
      exact hp.waits j hold
    · exact ⟨f r, by rw [Dict.get?_modify_self, row]; rfl, hstatus⟩
  called := called
  confirmed := by
    intro j r' (hr' : s.db.compensations.get? j = some r') hdone
    rw [intents] at hr'
    by_cases hj : j = id
    · subst hj
      rw [Dict.get?_modify_self, row] at hr'
      cases hr'
      exact confirmed hdone
    · rw [Dict.get?_modify_ne hj] at hr'
      exact kept j (hp.confirmed j r' hr' hdone)
  money := money

/-- What an intent that is rewritten gives back. -/
theorem compensated_modify {d : Db} (d' : Db) {id : Nat} {r : PaymentCompensationRefund}
    {f : PaymentCompensationRefund → PaymentCompensationRefund} (row : d.compensations.get? id = some r)
    (intents : d'.compensations = d.compensations.modify id f) (ofOrder : (f r).orderId = r.orderId) (i : Nat) :
    d'.compensated i = d.compensated i + if r.orderId = i then (f r).given - r.given else 0 := by
  unfold Db.compensated
  rw [intents]
  exact Dict.totalOf_modify row ofOrder

/-! ## Dispatching -/

/-- An intent that is parked for the first time was never sent, and waits for no answer. -/
theorem Office.Sent.parks {env : Deployment} {office : Office} (hp : office.Sent env) {s : Shop} (hs : s.Reconciled env) {id : Nat}
    {r : PaymentCompensationRefund} {reason : String} (row : office.shop.db.compensations.get? id = some r)
    (waits : r.status ≠ .succeeded ∧ r.status ≠ .reconciliationRequired) (orders : s.db.orders = office.shop.db.orders)
    (intents : s.db.compensations = office.shop.db.compensations.modify id fun r =>
      { r with status := .reconciliationRequired, failureReason := some reason })
    {calls : List (Nat × Int)} (hcalls : calls = [] ∨ calls = [(id, r.amount)]) :
    Office.Sent env ⟨s, office.sent ++ calls, office.waiting ++ calls.map Prod.fst⟩ := by
  have hnew : id ∉ office.sent.map Prod.fst := by
    intro hmem
    obtain ⟨call, hcall, rfl⟩ := List.mem_map.mp hmem
    obtain ⟨r', hr', hparked, -⟩ := hp.parked call hcall
    rw [row] at hr'
    cases hr'
    rcases hparked with hparked | hparked
    · exact waits.2 hparked
    · exact waits.1 hparked
  have hundone : CompensationStatus.reconciliationRequired ≠ .succeeded := by decide
  refine hp.rewritten hs row intents rfl (.inl rfl) (fun hdone => absurd hdone hundone) ?_ (fun j hj => ?_)
    (fun call hcall => ?_) (fun j hj => ?_) (fun j hj => ?_) fun i o ho hnot => ?_
  · rw [List.map_append]
    rcases hcalls with rfl | rfl
    · rw [List.map_nil, List.append_nil]
      exact hp.once
    · exact List.nodup_append_comm.mp (List.nodup_cons.mpr ⟨hnew, hp.once⟩)
  · rw [List.map_append]
    exact List.mem_append_left _ hj
  · rcases List.mem_append.mp hcall with hold | hcall
    · exact .inl hold
    · rcases hcalls with rfl | rfl
      · cases hcall
      · exact .inr (List.mem_singleton.mp hcall)
  · rcases List.mem_append.mp hj with hold | hj
    · refine .inl ⟨hold, ?_⟩
      rintro rfl
      exact hnew (hp.called j hold)
    · rcases hcalls with rfl | rfl
      · cases hj
      · exact .inr ⟨List.mem_singleton.mp hj, rfl⟩
  · rw [List.map_append]
    rcases List.mem_append.mp hj with hold | hj
    · exact List.mem_append_left _ (hp.called j hold)
    · exact List.mem_append_right _ hj
  · have hgives : s.db.compensated i = office.shop.db.compensated i := by
      rw [compensated_modify _ row intents rfl]
      unfold PaymentCompensationRefund.given
      rw [if_neg waits.1, if_neg hundone, sub_zero, ite_self, add_zero]
    rw [hgives]
    rw [orders] at ho
    exact hp.money i o ho hnot

/-- A worker takes an intent up, and makes the calls it may, or is lost before. -/
theorem Office.Sent.takesUp {env : Deployment} {office : Office} (hp : office.Sent env) {d : Db} {next id : Nat}
    (hs : Shop.Reconciled env ⟨d, next⟩) {step : CompensationStep} (h : Dispatched id office.shop.db step d)
    {calls : List (Nat × Int)} (hcalls : calls = [] ∨ calls = callsOf id (.ok step)) :
    Office.Sent env ⟨⟨d, next⟩, office.sent ++ calls, office.waiting ++ calls.map Prod.fst⟩ := by
  cases h with
  | replayed =>
    have hnone : calls = [] := hcalls.elim (fun h => h) fun h => h
    rw [hnone, List.map_nil, List.append_nil, List.append_nil]
    exact hp.untouched hs (.same rfl rfl)
  | refused found waiting =>
    have hnone : calls = [] := hcalls.elim (fun h => h) fun h => h
    exact hp.parks hs found waiting rfl rfl (.inl hnone)
  | dispatched found waiting ofPayment refundable => exact hp.parks hs found waiting rfl rfl hcalls

/-! ## Answers -/

/-- The calls that still wait, after one was answered. -/
theorem mem_answered {waiting : List Nat} {id j : Nat} (h : j ∈ waiting.filter fun j => j ≠ id) : j ∈ waiting ∧ j ≠ id := by
  obtain ⟨hmem, hne⟩ := List.mem_filter.mp h
  exact ⟨hmem, of_decide_eq_true hne⟩

/-- A worker that is lost with the answer it got. -/
theorem Office.Sent.forgets {env : Deployment} {office : Office} (hp : office.Sent env) {s : Shop} (hs : s.Reconciled env)
    (same : s.db = office.shop.db) (id : Nat) : Office.Sent env ⟨s, office.sent, office.waiting.filter fun j => j ≠ id⟩ := by
  have hsent := hp.untouched hs (.same (by rw [same]) (by rw [same]))
  exact { hsent with
    waits := fun j hj => hsent.waits j (mem_answered hj).1
    called := fun j hj => hsent.called j (mem_answered hj).1 }

/-- An answer that is no confirmation leaves its intent parked. -/
theorem Office.Sent.fails {env : Deployment} {office : Office} (hp : office.Sent env) {d : Db} {next id : Nat} {reason : String}
    (hs : Shop.Reconciled env ⟨d, next⟩) (hid : id ∈ office.waiting) (orders : d.orders = office.shop.db.orders)
    (intents : d.compensations = office.shop.db.compensations.modify id fun r =>
      { r with status := .reconciliationRequired, failureReason := some reason }) :
    Office.Sent env ⟨⟨d, next⟩, office.sent, office.waiting.filter fun j => j ≠ id⟩ := by
  obtain ⟨r, row, hstatus⟩ := hp.waits id hid
  have hundone : CompensationStatus.reconciliationRequired ≠ .succeeded := by decide
  refine hp.rewritten hs row intents rfl (.inl rfl) (fun hdone => absurd hdone hundone) hp.once (fun _ hj => hj)
    (fun _ hcall => .inl hcall) (fun j hj => .inl (mem_answered hj)) (fun j hj => hp.called j (mem_answered hj).1) ?_
  intro i o ho hnot
  have hgives : d.compensated i = office.shop.db.compensated i := by
    rw [compensated_modify _ row intents rfl]
    unfold PaymentCompensationRefund.given
    rw [hstatus, if_neg hundone, sub_zero, ite_self, add_zero]
  show o.refundedAmount = d.compensated i
  rw [hgives]
  rw [orders] at ho
  exact hp.money i o ho hnot

/-- A confirmation is recorded on the intent and its order. -/
theorem Office.Sent.settles {env : Deployment} {office : Office} (hp : office.Sent env) {d : Db} {next id : Nat}
    (hs : Shop.Reconciled env ⟨d, next⟩) (hid : id ∈ office.waiting) (h : Compensated id office.shop.db d) :
    Office.Sent env ⟨⟨d, next⟩, office.sent, office.waiting.filter fun j => j ≠ id⟩ := by
  obtain ⟨r, row, hstatus⟩ := hp.waits id hid
  have hundone : CompensationStatus.reconciliationRequired ≠ .succeeded := by decide
  cases h with
  | @mk intent payment order providerRefundNo found ofPayment ofOrder paymentChecked orderChecked =>
    rw [row] at found
    cases found
    refine hp.rewritten (f := fun r =>
      { r with status := .succeeded, providerRefundNo := some providerRefundNo, failureReason := none })
      hs row rfl rfl (.inr rfl) (fun _ => hp.called id hid) hp.once (fun _ hj => hj)
      (fun _ hcall => .inl hcall) (fun j hj => .inl (mem_answered hj)) (fun j hj => hp.called j (mem_answered hj).1) ?_
    intro i o ho hnot
    obtain ⟨o₀, ho₀, hended⟩ := hp.reconciled.intents id r row
    rw [ofOrder] at ho₀
    cases ho₀
    have hgives := compensated_modify (f := fun r =>
      { r with status := .succeeded, providerRefundNo := some providerRefundNo, failureReason := none })
      { office.shop.db with
        payments := office.shop.db.payments.modify r.paymentId (payment.compensatedBy r.amount)
        orders := office.shop.db.orders.modify r.orderId (order.compensatedBy r.amount)
        compensations := office.shop.db.compensations.modify id fun r =>
          { r with status := .succeeded, providerRefundNo := some providerRefundNo, failureReason := none } } row rfl rfl i
    unfold PaymentCompensationRefund.given at hgives
    rw [hstatus, if_neg hundone, if_pos rfl, sub_zero] at hgives
    refine Eq.trans ?_ hgives.symm
    by_cases hi : r.orderId = i
    · subst hi
      rw [if_pos rfl, ← hp.money _ order ofOrder hended.not_settled]
      have hrow := (Dict.get?_modify_self _ _ _).symm.trans ho
      rw [ofOrder] at hrow
      cases hrow
      rfl
    · rw [if_neg hi, add_zero]
      exact hp.money i o ((Dict.get?_modify_ne (Ne.symm hi) _).symm.trans ho) hnot

/-! ## Every run -/

/-- A worker that is lost before it calls the provider. -/
theorem Office.Sent.lost {env : Deployment} {office : Office} (hp : office.Sent env) (id n : Nat) :
    Office.Sent env { office with shop := office.shop.after env (.dispatchCompensation id) n } := by
  have hs := reconciled_session hp.reconciled (.shop (.dispatchCompensation id)) n
  have hleaves : Leaves (dispatchCompensation id) (Exec.start office.shop.db office.shop.next) fun _ d =>
      ∃ step, Dispatched id office.shop.db step d := leaves_transaction (noCommit_prepareDispatch id) fun step e h => by
    obtain ⟨d, rfl, hdispatched⟩ := prepareDispatch_dispatched h
    exact ⟨step, hdispatched⟩
  rcases hleaves n with hlost | ⟨next, -, step, hdispatched⟩
  · exact hp.untouched hs (.same (congrArg Db.compensations hlost) (congrArg Db.orders hlost))
  · have hsent := hp.takesUp hs hdispatched (.inl rfl)
    rw [List.map_nil, List.append_nil, List.append_nil] at hsent
    exact hsent

theorem Office.Sent.dispatch {env : Deployment} {office : Office} (hp : office.Sent env) (id : Nat) :
    (office.dispatched id).Sent env := by
  obtain ⟨n, hn⟩ := exists_runFor_eq (dispatchCompensation id) (Exec.start office.shop.db office.shop.next)
  have hs := reconciled_session hp.reconciled (.shop (.dispatchCompensation id)) n
  change Shop.Reconciled env ⟨(runFor n (dispatchCompensation id) (Exec.start office.shop.db office.shop.next)).committed,
    (runFor n (dispatchCompensation id) (Exec.start office.shop.db office.shop.next)).next⟩ at hs
  rw [hn] at hs
  unfold Office.dispatched
  cases hrun : (dispatchCompensation id).run (Exec.start office.shop.db office.shop.next) with
  | mk result e =>
    rw [hrun] at hs
    cases result with
    | error x =>
      have hsame := refuses_transaction (noCommit_prepareDispatch id) _ x e hrun
      show Office.Sent env ⟨⟨e.committed, e.next⟩, office.sent ++ [], office.waiting ++ []⟩
      rw [List.append_nil, List.append_nil]
      exact hp.untouched hs (.same (congrArg Db.compensations hsame) (congrArg Db.orders hsame))
    | ok step =>
      obtain ⟨e₁, hprepared, rfl⟩ := run_transaction_eq_ok.mp hrun
      obtain ⟨d, rfl, hdispatched⟩ := prepareDispatch_dispatched hprepared
      exact hp.takesUp hs hdispatched (.inr rfl)

theorem Office.Sent.answer {env : Deployment} {office : Office} (hp : office.Sent env) {id : Nat} (hid : id ∈ office.waiting)
    (answer : SenderAnswer) (n : Nat) :
    Office.Sent env ⟨office.shop.after env (answer.op id) n, office.sent, office.waiting.filter fun j => j ≠ id⟩ := by
  have hfails : ∀ errorType, Office.Sent env ⟨office.shop.after env (.failCompensation id errorType) n, office.sent,
      office.waiting.filter fun j => j ≠ id⟩ := by
    intro errorType
    have hs := reconciled_session hp.reconciled (.shop (.failCompensation id errorType)) n
    have hleaves : Leaves (failCompensation id errorType) (Exec.start office.shop.db office.shop.next) fun _ d =>
        d.orders = office.shop.db.orders ∧ d.compensations = office.shop.db.compensations.modify id fun r =>
          { r with status := .reconciliationRequired, failureReason := some s!"provider dispatch failed: {errorType}" } :=
      leaves_transaction (noCommit_parkCompensation id _) fun _ e h => by
        cases h
        exact ⟨rfl, rfl⟩
    rcases hleaves n with hlost | ⟨next, -, horders, hintents⟩
    · exact hp.forgets hs hlost id
    · exact hp.fails hs hid horders hintents
  cases answer with
  | failed errorType => exact hfails errorType
  | refunded providerRefundNo =>
    unfold SenderAnswer.op
    dsimp only
    split_ifs with hempty
    · exact hfails "ValueError"
    · have hs := reconciled_session hp.reconciled (.shop (.settleCompensation id providerRefundNo)) n
      have hleaves : Leaves (settleCompensation id providerRefundNo) (Exec.start office.shop.db office.shop.next) fun _ d =>
          Compensated id office.shop.db d := leaves_transaction (noCommit_recordCompensation id _) fun _ e h => by
        obtain ⟨d, rfl, hcompensated⟩ := recordCompensation_compensated h
        exact hcompensated
      rcases hleaves n with hlost | ⟨next, -, hcompensated⟩
      · exact hp.forgets hs hlost id
      · exact hp.settles hs hid hcompensated

theorem sent_step {env : Deployment} {office : Office} (hp : office.Sent env) (event : Event) : (office.step env event).Sent env := by
  cases event with
  | session session ordinary n =>
    exact hp.untouched (reconciled_session hp.reconciled session n) (session_untouched hp.reconciled ordinary n)
  | lost id n => exact hp.lost id n
  | dispatch id => exact hp.dispatch id
  | answer id answer n =>
    unfold Office.step
    dsimp only
    split_ifs with hid
    · exact hp.answer hid answer n
    · exact hp

theorem sent_follow {env : Deployment} : ∀ (events : List Event) {office : Office}, office.Sent env →
    (office.follow env events).Sent env := by
  intro events
  induction events with
  | nil => exact fun hp => hp
  | cons event events ih => exact fun hp => ih (sent_step hp event)

/-- The provider was asked at most once for an intent, and money went back once. -/
structure Office.SentOnce (office : Office) : Prop where
  once : (office.sent.map Prod.fst).Nodup
  parked : ∀ call ∈ office.sent, ∃ r, office.shop.db.compensations.get? call.1 = some r ∧ r.Parked ∧ r.amount = call.2
  confirmed : ∀ id r, office.shop.db.compensations.get? id = some r → r.status = .succeeded → (id, r.amount) ∈ office.sent
  money : ∀ i o, office.shop.db.orders.get? i = some o →
    o.refundedAmount = office.shop.db.refundsOfOrder i + office.shop.db.compensated i

theorem Office.Sent.sentOnce {env : Deployment} {office : Office} (hp : office.Sent env) : office.SentOnce where
  once := hp.once
  parked := hp.parked
  confirmed := by
    intro id r hr hdone
    obtain ⟨⟨j, amount⟩, hcall, rfl⟩ := List.mem_map.mp (hp.confirmed id r hr hdone)
    obtain ⟨r', hr', -, hamount⟩ := hp.parked _ hcall
    rw [hr] at hr'
    cases hr'
    rw [hamount]
    exact hcall
  money := by
    intro i o ho
    by_cases hsettled : o.Settled
    · -- intents are about orders that ended
      have hnothing : office.shop.db.compensated i = 0 := by
        refine Dict.totalOf_eq_zero fun id r hr hof => ?_
        obtain ⟨o', ho', hended⟩ := hp.reconciled.intents id r hr
        rw [hof, ho] at ho'
        cases ho'
        exact absurd hsettled hended.not_settled
      rw [hnothing, add_zero]
      exact (hp.reconciled.accounted.settled ho hsettled).2.2.symm
    · have hnothing : office.shop.db.refundsOfOrder i = 0 := hp.reconciled.accounted.unrefunded fun o' ho' => by
        rw [ho] at ho'
        cases ho'
        exact hsettled
      rw [hnothing, zero_add]
      exact hp.money i o ho hsettled

/-- Whatever customers, staff, deliveries and workers do, in any order and lost anywhere, the provider is asked at most once
for an intent, and every order was refunded its refunds and the compensations the provider confirmed. -/
theorem compensations_sent_once (env : Deployment) {s : Shop} (founded : s.Founded) (unrefunded : s.db.refunds = Dict.empty)
    (events : List Event) : (Office.follow env events { shop := s }).SentOnce := by
  have hbegin : Office.Sent env { shop := s } := by
    refine ⟨founded.reconciled unrefunded, List.nodup_nil, List.forall_mem_nil _, List.forall_mem_nil _,
      List.forall_mem_nil _, fun id r hr => ?_, fun i o ho => ?_⟩
    · dsimp only at hr
      rw [founded.compensations] at hr
      cases hr
    · dsimp only at ho
      rw [founded.orders] at ho
      cases ho
  exact (sent_follow events hbegin).sentOnce

/-- Two cups are paid after their order was closed; three workers take the intent up, and the provider confirms it. -/
def lateRefunded : List Event := [
  .session (.shop (.createOrder sampleCustomer sampleCups sampleNoon)) trivial 1000,
  .session (.shop (.createPayment sampleCustomer samplePayment sampleNoon)) trivial 1000,
  .session (.shop (.expire 11 1704117000000)) trivial 1000,
  .session (.shop (.receive lateDelivery lateInstants)) trivial 1000,
  .dispatch 15,
  .dispatch 15,
  .answer 15 (.refunded "RF-1") 1000,
  .dispatch 15]

theorem compensations_sent_once_cups : (Office.follow lateProvider lateRefunded { shop := sampleShop }).sent = [(15, 1000)] ∧
    (Office.follow lateProvider lateRefunded { shop := sampleShop }).SentOnce :=
  ⟨by decide +kernel, compensations_sent_once lateProvider sampleShop_founded rfl lateRefunded⟩

end NovaCommerce
