import NovaCommerce.Shop.Changes

/-!
# Runs of the shop

* `Op` : one session of the shop; `Shop.after env s op n` : the shop after it was lost behind its first
  `n` statements, `Shop.run` : after a list of them;
* `after_changes` : a session leaves a chain of committed changes;
* `run_preserves` : what every change keeps, every run keeps.

A session holds the row locks of what it decides on until it commits, so sessions interleave at their
commits. The provider answers a compensation refund at any time: its two transactions are two sessions.
-/

namespace NovaCommerce

open Sql

/-! ## Sessions -/

/-- A session of the shop. -/
inductive Op where
  | createOrder (principal : Principal) (request : CreateOrderRequest) (now : Time)
  | claimCoupon (principal : Principal) (templateId : Nat) (now : Time)
  | expireCoupons (now : Time) (limit : Nat) (lockedElsewhere : Nat → Bool)
  | createPayment (principal : Principal) (request : PaymentRequest) (now : Time)
  | cancel (principal : Principal) (orderNo : String) (reason : Option String) (now : Time)
  | expire (orderId : Nat) (now : Time)
  | receive (delivery : Delivery) (t : Instants)
  | ship (principal : Principal) (id : Nat) (carrier : Carrier) (trackingNo : String) (lines : List (Nat × Int))
      (now : Time)
  | confirmReceipt (principal : Principal) (orderNo : String) (now : Time)
  | dispatchCompensation (id : Nat)
  | settleCompensation (id : Nat) (providerRefundNo : String)
  | failCompensation (id : Nat) (errorType : String)

/-- The first `n` statements of a session. -/
def Op.lost (env : Deployment) (op : Op) (n : Nat) (e : Exec Db) : Exec Db :=
  match op with
  | .createOrder principal request now => runFor n (NovaCommerce.createOrder env principal request now) e
  | .claimCoupon principal templateId now => runFor n (NovaCommerce.claimCoupon principal templateId now) e
  | .expireCoupons now limit lockedElsewhere => runFor n (expireDueCoupons now limit lockedElsewhere) e
  | .createPayment principal request now => runFor n (NovaCommerce.createPayment env principal request now) e
  | .cancel principal orderNo reason now => runFor n (NovaCommerce.cancel principal orderNo reason now) e
  | .expire orderId now => runFor n (expireOrder orderId now) e
  | .receive delivery t => runFor n (receiveCallback env delivery t) e
  | .ship principal id carrier trackingNo lines now =>
    runFor n (NovaCommerce.ship env principal id carrier trackingNo lines now) e
  | .confirmReceipt principal orderNo now => runFor n (NovaCommerce.confirmReceipt principal orderNo now) e
  | .dispatchCompensation id => runFor n (NovaCommerce.dispatchCompensation id) e
  | .settleCompensation id providerRefundNo =>
    runFor n (NovaCommerce.settleCompensation id providerRefundNo) e
  | .failCompensation id errorType => runFor n (NovaCommerce.failCompensation id errorType) e

/-- The shop after a session was lost behind its first `n` statements. -/
def Shop.after (env : Deployment) (s : Shop) (op : Op) (n : Nat) : Shop :=
  let e := op.lost env n (Exec.start s.db s.next)
  ⟨e.committed, e.next⟩

/-- The shop after a list of sessions. -/
def Shop.run (env : Deployment) : List (Op × Nat) → Shop → Shop
  | [], s => s
  | (op, n) :: ops, s => Shop.run env ops (s.after env op n)

/-- Every session of a list meets a condition on the database it begins on. -/
def Shop.Meets (env : Deployment) (ok : Op → Db → Prop) : List (Op × Nat) → Shop → Prop
  | [], _ => True
  | (op, n) :: ops, s => ok op s.db ∧ Shop.Meets env ok ops (s.after env op n)

/-! ## What a session leaves is a chain of changes -/

/-- What every delivery that settles an order late is decided on. -/
structure PaidLate (env : Deployment) (delivery : Delivery) (t : Instants) (d : Db) (o : Order) : Prop where
  edge : Verified env (delivery.request env) t.edge
  verified : Verified env (delivery.request env) t.verified
  unclaimed : d.Unclaimed (delivery.request env)
  named : ∃ paymentId p, d.Names (delivery.request env) paymentId p ∧
    (p.status ∈ settleableStatuses ∨ p.status ∈ latePaymentStatuses) ∧ Reports (delivery.request env) p ∧
    ∃ orderId, d.orderByNo p.orderNo none = some (orderId, o)
  closed : o.orderStatus = .closed
  unpaid : o.paymentStatus ≠ .paid

/-- No order that was paid before is paid late. -/
def Op.PaysOnce (env : Deployment) (op : Op) (d : Db) : Prop :=
  match op with
  | .receive delivery t => ∀ o, PaidLate env delivery t d o → o.paidAmount = 0
  | _ => True

/-- No order that is being paid is cancelled. -/
def Op.CancelsUnpaying (op : Op) (d : Db) : Prop :=
  match op with
  | .cancel principal orderNo _ _ =>
    ∀ id o, d.orderByNo orderNo (some principal.userId) = some (id, o) → o.paymentStatus ≠ .paying
  | _ => True

/-- A session keeps to its terms. -/
structure Op.Keeps (terms : Terms) (env : Deployment) (op : Op) (d : Db) : Prop where
  paysOnce : terms.paysOnce → op.PaysOnce env d
  cancelsUnpaying : terms.cancelsUnpaying → op.CancelsUnpaying d

/-- Closing a due order before a settlement, on the rows the settlement uses. -/
theorem closing_rows {orderId paymentId : Nat} {now : Time} {o o₁ : Order} {p p₁ : Payment} {d c : Db}
    (h : Closing orderId now o d c) (ho : d.orders.get? orderId = some o)
    (hp : d.payments.get? paymentId = some p) (ho₁ : c.orders.get? orderId = some o₁)
    (hp₁ : c.payments.get? paymentId = some p₁) :
    ((c = d ∧ o₁ = o) ∨ (o₁ = o.closedBy now o ∧ o.paidAmount = 0)) ∧ (p₁ = p ∨ p₁ = p.closed now) := by
  cases h with
  | «open» _ =>
    rw [ho] at ho₁
    rw [hp] at hp₁
    exact ⟨.inl ⟨rfl, (Option.some.inj ho₁).symm⟩, .inl (Option.some.inj hp₁).symm⟩
  | closed due expired =>
    obtain ⟨order, horder, hexpired, hended⟩ := expired
    rw [ho] at horder
    cases horder
    cases hended with
    | mk coupon stock =>
      rw [Dict.get?_modify_self, ho] at ho₁
      rw [Dict.get?_adjust, hp] at hp₁
      refine ⟨.inr ⟨(Option.some.inj ho₁).symm, hexpired.2.2.1⟩, ?_⟩
      have hp₁ := (Option.some.inj hp₁).symm
      split_ifs at hp₁
      · exact .inr hp₁
      · exact .inl hp₁

theorem orderExpired_change {env : Deployment} {terms : Terms} {orderId next : Nat} {now : Time} {d c : Db}
    (h : OrderExpired orderId now d c) : Change env terms ⟨d, next⟩ ⟨c, next⟩ := by
  obtain ⟨order, horder, hexpired, hended⟩ := h
  refine .traded (.ended horder hexpired.1 (fun e he => ?_) (.expired now hexpired.2.2.1) hended)
  obtain ⟨hrow, hof⟩ := Dict.mem_select.mp he
  exact ⟨hrow, of_decide_eq_true hof⟩

theorem closing_changes {env : Deployment} {terms : Terms} {orderId next : Nat} {now : Time} {o : Order} {d c : Db}
    (h : Closing orderId now o d c) : Changes env terms ⟨d, next⟩ ⟨c, next⟩ := by
  cases h with
  | «open» _ => exact .refl
  | closed _ expired => exact .single (orderExpired_change expired)

/-- Marking the delivery's callback. -/
theorem processed_change {env : Deployment} {terms : Terms} {h : Held} {next : Nat} (hid : h.callbackId < next) (now : Time)
    (d : Db) : Change env terms ⟨d, next⟩ ⟨h.processed now d, next⟩ :=
  .booked (.called (s := ⟨d, next⟩) (le_refl _) fun i hi =>
    Dict.get?_modify_ne (by show i ≠ h.callbackId; omega) _)

/-- A decision is a change of the payment tables, and one of the callback. -/
theorem outcome_changes {env : Deployment} {terms : Terms} {request : CallbackRequest} {now : Time} {h : Held} {next next' : Nat}
    {c d' : Db} (hid : h.callbackId < next) (hp : c.payments.get? h.paymentId = some h.payment)
    (ho : c.orders.get? h.orderId = some h.order) (ofOrder : h.payment.orderNo = h.order.orderNo)
    (open_ : h.payment.status ∈ settleableStatuses ∨ h.payment.status ∈ latePaymentStatuses)
    (first : h.order.orderStatus = .closed → h.order.paymentStatus ≠ .paid → terms.paysOnce → h.order.paidAmount = 0)
    (houtcome : OrderOutcome request now h h.payment.amount next c next' d') :
    Changes env terms ⟨c, next⟩ ⟨d', next'⟩ := by
  cases houtcome with
  | paid _ _ => exact .single (processed_change hid now c)
  | processing _ _ _ => exact .single (processed_change hid now c)
  | @late _ d unpaid closed checked ensured =>
    have hlate : Change env terms ⟨c, next⟩ ⟨d, next'⟩ :=
      .booked (.late ⟨hp, ho, ofOrder, open_, unpaid⟩ closed (first closed unpaid) (checked _ ho) ensured)
    have hle := ensured_next ensured
    exact .tail (.single hlate) (processed_change (by omega) now d)
  | onTime current unpaid pending items goods =>
    cases goods with
    | @mk d₁ d₂ d₃ d₄ coupon stock shell event =>
      have htime : Change env terms ⟨c, next⟩ ⟨d₄, next'⟩ :=
        .traded (.settled ⟨hp, ho, ofOrder, open_, unpaid⟩ pending items coupon stock shell event)
      have hle := shell.frame.1
      exact .tail (.single htime) (processed_change (by omega) now d₄)

/-- A delivery leaves a chain of changes. -/
theorem delivered_changes {terms : Terms} {env : Deployment} {delivery : Delivery} {t : Instants}
    {next next' : Nat} {d d' : Db} (edge : Verified env (delivery.request env) t.edge)
    (h : Delivered env (delivery.request env) t.verified t.now next d next' d')
    (hfirst : terms.paysOnce → ∀ o, PaidLate env delivery t d o → o.paidAmount = 0) :
    Changes env terms ⟨d, next⟩ ⟨d', next'⟩ := by
  cases h with
  | duplicate _ => exact .refl
  | replayed _ _ _ _ =>
    exact .single (.booked (.called (s := ⟨d, next⟩) (Nat.le_succ _) fun i hi => Dict.get?_set_ne (by omega) _))
  | @decided paymentId orderId _ p p₁ o o₁ c _ unclaimed verified named open_ exact_ ofPayment closing
      order payment outcome =>
    have hclaim : Change env terms ⟨d, next⟩ ⟨d.claimed (delivery.request env) t.now next, next + 1⟩ :=
      .booked (.called (s := ⟨d, next⟩) (Nat.le_succ _) fun i hi => Dict.get?_set_ne (by omega) _)
    obtain ⟨horow, hono, -⟩ := orderByNo_some ofPayment
    have hprow : d.payments.get? paymentId = some p := by
      obtain ⟨no, -, hno⟩ := named
      exact (paymentForUpdate_some hno).1
    obtain ⟨ho₁, hp₁⟩ := closing_rows closing horow hprow order payment
    have hamount : p₁.amount = p.amount := by rcases hp₁ with rfl | rfl <;> rfl
    have hopen : p₁.status ∈ settleableStatuses ∨ p₁.status ∈ latePaymentStatuses := by
      rcases hp₁ with rfl | rfl
      · exact open_
      · exact .inr (by show PaymentRecordStatus.closed ∈ latePaymentStatuses; decide)
    have hnumbers : p₁.orderNo = o₁.orderNo := by
      have hp : p₁.orderNo = p.orderNo := by rcases hp₁ with rfl | rfl <;> rfl
      have ho : o₁.orderNo = o.orderNo := by
        rcases ho₁ with ⟨-, rfl⟩ | ⟨rfl, -⟩ <;> rfl
      rw [hp, ho, hono]
    refine .trans (.head hclaim (closing_changes closing)) ?_
    rw [← hamount] at outcome
    refine outcome_changes (Nat.lt_succ_self next) payment order hnumbers hopen ?_ outcome
    show o₁.orderStatus = .closed → o₁.paymentStatus ≠ .paid → terms.paysOnce → o₁.paidAmount = 0
    rcases ho₁ with ⟨-, rfl⟩ | ⟨rfl, hzero⟩
    · intro hclosed hunpaid honce
      exact hfirst honce _ ⟨edge, verified, unclaimed, ⟨paymentId, p, named, open_, exact_, orderId, ofPayment⟩,
        hclosed, hunpaid⟩
    · exact fun _ _ _ => hzero

theorem received_changes {terms : Terms} {env : Deployment} {delivery : Delivery} {t : Instants}
    {next next' : Nat} {d d' : Db} (h : Received env delivery t next d next' d')
    (hfirst : terms.paysOnce → ∀ o, PaidLate env delivery t d o → o.paidAmount = 0) :
    Changes env terms ⟨d, next⟩ ⟨d', next'⟩ := by
  cases h with
  | refused _ _ _ =>
    exact .single (.booked (.called (s := ⟨d, next⟩) (Nat.le_succ _) fun i hi => Dict.get?_set_ne (by omega) _))
  | delivered edge delivered => exact delivered_changes edge delivered hfirst

/-- A session that leaves chains of changes. -/
theorem changes_of_leaves {env : Deployment} {terms : Terms} {α : Type} {p : Tx α} {s : Shop}
    (h : Leaves p (Exec.start s.db s.next) fun next d => Changes env terms s ⟨d, next⟩) (n : Nat) :
    Changes env terms s ⟨(runFor n p (Exec.start s.db s.next)).committed,
      (runFor n p (Exec.start s.db s.next)).next⟩ := by
  have hle := le_runFor_next n p (Exec.start s.db s.next)
  rcases h n with hlost | ⟨next, hnext, hchanges⟩
  · rw [hlost]
    exact .single (.booked (.drawn hle))
  · exact .tail hchanges (.booked (.drawn (s := ⟨_, next⟩) hnext))

/-- Wherever a session is lost, it leaves a chain of changes. -/
theorem after_changes {terms : Terms} {env : Deployment} {op : Op} {s : Shop}
    (hok : op.Keeps terms env s.db) (n : Nat) : Changes env terms s (s.after env op n) := by
  cases op with
  | createOrder principal request now =>
    refine changes_of_leaves ((createOrder_leaves env principal request now s.db s.next).mono fun next d h => ?_) n
    rcases h with ⟨rfl, rfl⟩ | h
    · exact .refl
    · exact .single (.traded (.created h))
  | claimCoupon principal templateId now =>
    refine changes_of_leaves (leaves_transaction (noCommit_issueCoupon _ _ _) fun id e h => ?_) n
    obtain ⟨hnext, hclaimed⟩ := issueCoupon_claimed h
    rw [hnext]
    exact .single (.traded (.claimed hclaimed))
  | expireCoupons now limit lockedElsewhere =>
    refine changes_of_leaves (leaves_transaction (noCommit_sweepCoupons _ _ _) fun count e h => ?_) n
    obtain ⟨hnext, hswept⟩ := sweepCoupons_swept h
    rw [hnext]
    exact .single (.traded (.swept hswept))
  | ship principal id carrier trackingNo lines now =>
    refine changes_of_leaves ((ship_leaves env principal id carrier trackingNo lines now s.db s.next).mono
      fun next d h => ?_) n
    exact .single (.shipped h)
  | confirmReceipt principal orderNo now =>
    refine changes_of_leaves (leaves_transaction (noCommit_confirmReceiptOrder _ _ _) fun _ e h => ?_) n
    obtain ⟨d, rfl, hconfirmed⟩ := confirmReceiptOrder_confirmed h
    exact .single (.traded (.confirmed hconfirmed))
  | createPayment principal request now =>
    refine changes_of_leaves (leaves_transaction (noCommit_createAttempt _ _ _ _) fun _ e h => ?_) n
    exact .single (.booked (.attempted (createAttempt_created h)))
  | cancel principal orderNo reason now =>
    refine changes_of_leaves (leaves_transaction (noCommit_cancelOrder _ _ _ _) fun _ e h => ?_) n
    obtain ⟨d, rfl, id, order, hby, hpending, hended⟩ := cancelOrder_cancelled h
    refine .single (.traded (.ended (orderByNo_some hby).1 hpending (fun e he => ?_)
      (.cancelled principal _ now fun hterms => hok.cancelsUnpaying hterms id order hby) hended))
    obtain ⟨hrow, hof, -⟩ := mem_attemptsFor.mp he
    exact ⟨hrow, hof⟩
  | expire orderId now =>
    refine changes_of_leaves (leaves_transaction (noCommit_closeExpiredOrder _ _) fun _ e h => ?_) n
    rcases closeExpiredOrder_eq_ok h with ⟨-, rfl, -⟩ | ⟨-, d, rfl, hexpired⟩
    · exact .refl
    · exact .single (orderExpired_change hexpired)
  | receive delivery t =>
    refine changes_of_leaves ((receiveCallback_leaves env delivery t s.db s.next).mono fun next d h => ?_) n
    rcases h with ⟨rfl, rfl⟩ | h
    · exact .refl
    · exact received_changes h hok.paysOnce
  | dispatchCompensation id =>
    refine changes_of_leaves (leaves_transaction (noCommit_prepareDispatch _) fun step e h => ?_) n
    obtain ⟨d, rfl, hdispatched⟩ := prepareDispatch_dispatched h
    cases hdispatched with
    | replayed => exact .refl
    | refused _ _ => exact .single (.booked .parked)
    | dispatched _ _ _ _ => exact .single (.booked .parked)
  | settleCompensation id providerRefundNo =>
    refine changes_of_leaves (leaves_transaction (noCommit_recordCompensation _ _) fun _ e h => ?_) n
    obtain ⟨d, rfl, hcompensated⟩ := recordCompensation_compensated h
    exact .single (.booked (.compensated hcompensated))
  | failCompensation id errorType =>
    refine changes_of_leaves (leaves_transaction (noCommit_parkCompensation _ _) fun _ e h => ?_) n
    cases h
    exact .single (.booked .parked)

/-- What every change keeps, every run keeps. -/
theorem run_preserves {terms : Terms} {env : Deployment} {I : Shop → Prop}
    (hchange : ∀ s s', Change env terms s s' → I s → I s') :
    ∀ {ops : List (Op × Nat)} {s : Shop}, Shop.Meets env (Op.Keeps terms env) ops s →
      I s → I (s.run env ops) := by
  intro ops
  induction ops with
  | nil => exact fun _ h => h
  | cons step ops ih =>
    intro s hmeets hs
    exact ih hmeets.2 (changes_preserve hchange (after_changes hmeets.1 step.2) hs)

/-- A condition that implies another, met along a run. -/
theorem Shop.Meets.mono {env : Deployment} {ok ok' : Op → Db → Prop} (himp : ∀ op d, ok op d → ok' op d) :
    ∀ {ops : List (Op × Nat)} {s : Shop}, Shop.Meets env ok ops s → Shop.Meets env ok' ops s := by
  intro ops
  induction ops with
  | nil => exact fun _ => trivial
  | cons step ops ih => exact fun h => ⟨himp _ _ h.1, ih h.2⟩

/-- Every run keeps to terms that promise nothing. -/
theorem Shop.meets_nothing (env : Deployment) (ops : List (Op × Nat)) (s : Shop) :
    Shop.Meets env (Op.Keeps {} env) ops s := by
  induction ops generalizing s with
  | nil => trivial
  | cons step ops ih => exact ⟨⟨False.elim, False.elim⟩, ih _⟩

/-- What every change keeps, whatever was promised, every run keeps. -/
theorem run_keeps {env : Deployment} {I : Shop → Prop} (hchange : ∀ s s', Change env {} s s' → I s → I s')
    {s : Shop} (hs : I s) (ops : List (Op × Nat)) : I (s.run env ops) :=
  run_preserves hchange (Shop.meets_nothing env ops s) hs

end NovaCommerce
