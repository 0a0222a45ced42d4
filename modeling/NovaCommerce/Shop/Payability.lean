import NovaCommerce.Shop.Consistency

/-!
# Orders that can be paid

* `Db.Priced` : the amounts of every order agree (`Change.priced`);
* `Db.CanPay` : an attempt for an order can be committed;
* `canPay_iff` : it can for a pending order whose discounts leave something to pay, and for no other.
-/

namespace NovaCommerce

open Sql

/-- The payable amount is what the discounts leave. -/
def Order.Priced (o : Order) : Prop :=
  o.payableAmount = o.originalAmount - o.promotionDiscountAmount - o.couponDiscountAmount + o.shippingAmount

def Db.Priced (d : Db) : Prop := ∀ i o, d.orders.get? i = some o → o.Priced

theorem Order.SamePurchase.priced {o o' : Order} (h : o.SamePurchase o') (ho : o.Priced) : o'.Priced := by
  unfold Order.Priced
  rw [h.payableAmount, h.originalAmount, h.promotionDiscountAmount, h.couponDiscountAmount, h.shippingAmount]
  exact ho

theorem Change.priced {env : Deployment} {terms : Terms} {s s' : Shop} (h : Change env terms s s')
    (hfresh : s.db.FreshFrom s.next) (hd : s.db.Priced) : s'.db.Priced := by
  intro i o' ho'
  rcases (h.orders_grow hfresh).origin i o' ho' with ⟨o, ho, hsame⟩ | ⟨-, hopened⟩
  · exact hsame.priced (hd i o ho)
  · exact hopened.checked.1

/-- An attempt for the order can be committed now, through the channel. -/
def Db.CanPay (env : Deployment) (d : Db) (next orderId : Nat) (channel : String) (now : Time) : Prop :=
  ∃ (principal : Principal) (request : PaymentRequest) (id : Nat) (e : Exec Db) (p : Payment),
    request.channel = channel ∧ (createPayment env principal request now).run (Exec.start d next) = (.ok id, e) ∧
    d.payments.get? id = none ∧ e.committed.payments.get? id = some p ∧ p.orderId = orderId

/-- There is always a request id that no attempt used. -/
theorem exists_unused_key (d : Db) :
    ∃ key ≠ "", ∀ j p, d.payments.get? j = some p → p.idempotencyKey ≠ key ∧ p.clientRequestId ≠ key := by
  obtain ⟨key, hkey⟩ := Infinite.exists_notMem_finset
    ("" :: (d.payments.values.map Payment.idempotencyKey ++ d.payments.values.map Payment.clientRequestId)).toFinset
  rw [List.mem_toFinset, List.mem_cons, not_or, List.mem_append, not_or] at hkey
  refine ⟨key, hkey.1, fun j p hp => ?_⟩
  have hmem : p ∈ d.payments.values := List.mem_map_of_mem (f := Prod.snd) (Dict.get?_eq_some.mp hp)
  exact ⟨fun heq => hkey.2.1 (heq ▸ List.mem_map_of_mem hmem), fun heq => hkey.2.2 (heq ▸ List.mem_map_of_mem hmem)⟩

/-- The row of a positive pending order takes an attempt under an unused key. -/
theorem createPayment_commits {env : Deployment} {d : Db} (next : Nat) {orderId : Nat} {o : Order} {channel key : String}
    (now : Time) (found : d.orderByNo o.orderNo (some o.userId) = some (orderId, o))
    (pending : o.orderStatus = .pendingPayment) (unsettled : o.paymentStatus ∉ settledPaymentStatuses)
    (positive : 0 < o.payableAmount) (window : ∀ t ∈ o.expiresAt, now < t)
    (enabled : channel ∈ env.settings.enabledChannels) (hkey : key ≠ "")
    (unused : ∀ j p, d.payments.get? j = some p → p.idempotencyKey ≠ key ∧ p.clientRequestId ≠ key) :
    ∃ e p, (createPayment env { userId := o.userId, merchantId := none }
        { orderNo := o.orderNo, channel := channel, clientRequestId := key, idempotencyKey := key } now).run
        (Exec.start d next) = (.ok next, e) ∧
      e.committed.payments.get? next = some p ∧ p.orderId = orderId := by
  have hbyKey : d.paymentByIdempotencyKey o.merchantId key = none := by
    refine Dict.find?_none.mpr fun e he => ?_
    rw [decide_eq_true_eq]
    rintro ⟨-, heq⟩
    exact (unused e.1 e.2 (Dict.get?_eq_some.mpr he)).1 heq
  have hbyRequest : d.paymentByClientRequestId o.userId key = none := by
    refine Dict.find?_none.mpr fun e he => ?_
    rw [decide_eq_true_eq]
    rintro ⟨-, heq⟩
    exact (unused e.1 e.2 (Dict.get?_eq_some.mpr he)).2 heq
  have hopen : ¬ ∃ t ∈ o.expiresAt, t ≤ now := by
    rintro ⟨t, ht, hle⟩
    exact absurd (window t ht) (not_lt.mpr hle)
  have hinsert : ∀ hash, ∃ e p, (insertOrReplay env { userId := o.userId, merchantId := none } orderId o
      { orderNo := o.orderNo, channel := channel, clientRequestId := key, idempotencyKey := key } hash now).run
      (Exec.start d next) = (.ok next, e) ∧ e.view.payments.get? next = some p ∧ p.orderId = orderId := by
    intro hash
    unfold insertOrReplay insertAttempt
    rw [run_bind, run_raiseIf_neg (not_not.mpr pending), andThen_ok, run_bind, run_raiseIf_neg unsettled, andThen_ok,
      run_bind, run_lock, andThen_ok, show (Exec.start d next).view = d from rfl, hbyKey, hbyRequest]
    rw [if_neg (by decide), run_bind, run_raiseIf_neg (not_le.mpr positive), andThen_ok, run_bind,
      run_raiseIf_neg hopen, andThen_ok, run_bind, run_newId, andThen_ok, run_bind, run_update, andThen_ok]
    unfold markOrderPaying
    split_ifs
    · exact ⟨_, _, rfl, Dict.get?_set_self _ _ _, rfl⟩
    · exact ⟨_, _, rfl, Dict.get?_set_self _ _ _, rfl⟩
  obtain ⟨e, p, hrun, hp, hof⟩ := hinsert (canonicalPaymentRequestHash env o.userId o.orderNo channel)
  refine ⟨{ e with committed := e.view }, p, ?_, hp, hof⟩
  unfold createPayment
  rw [run_transaction_eq_ok]
  refine ⟨e, ?_, rfl⟩
  unfold createAttempt getByOrderNoForUpdate
  rw [run_bind, run_raiseIf_neg hkey, andThen_ok, run_bind, run_raiseIf_neg (not_not.mpr enabled), andThen_ok,
    run_bind, run_lock, andThen_ok, show (Exec.start d next).view = d from rfl, found]
  exact hrun

/-- A new attempt asks for something. -/
theorem AttemptCreated.positive {next next' id : Nat} {d d' : Db} {p : Payment} {o : Order}
    (h : AttemptCreated next d next' d') (hnew : d.payments.get? id = none) (hp : d'.payments.get? id = some p)
    (ho : d.orders.get? p.orderId = some o) : 0 < o.payableAmount := by
  cases h with
  | replayed =>
    rw [hnew] at hp
    cases hp
  | created locked pending unsettled positive ofOrder orderNo userId amount status paid refunded =>
    by_cases hi : id = next
    · subst hi
      rw [Dict.get?_set_self] at hp
      cases hp
      rw [ofOrder, locked] at ho
      cases ho
      exact positive
    · rw [Dict.get?_set_ne hi, hnew] at hp
      cases hp

theorem Db.CanPay.positive {env : Deployment} {d : Db} {next orderId : Nat} {channel : String} {now : Time}
    (h : d.CanPay env next orderId channel now) {o : Order} (ho : d.orders.get? orderId = some o) :
    0 < o.payableAmount := by
  obtain ⟨principal, request, id, e, p, -, hrun, hnew, hp, rfl⟩ := h
  unfold createPayment at hrun
  rw [run_transaction_eq_ok] at hrun
  obtain ⟨e₁, hrun, rfl⟩ := hrun
  exact (createAttempt_created hrun).positive hnew hp ho

/-- In every state of every run, a payment attempt can be committed for a pending order before it expires,
through any enabled channel, exactly when its discounts leave a part of its price. -/
theorem canPay_iff {env : Deployment} {s : Shop} (h : s.Opening) (ops : List (Op × Nat)) {orderId : Nat} {o : Order}
    (row : (s.run env ops).db.orders.get? orderId = some o) (pending : o.orderStatus = .pendingPayment)
    {now : Time} (window : ∀ t ∈ o.expiresAt, now < t) {channel : String}
    (enabled : channel ∈ env.settings.enabledChannels) :
    (s.run env ops).db.CanPay env (s.run env ops).next orderId channel now ↔
      o.promotionDiscountAmount + o.couponDiscountAmount < o.originalAmount + o.shippingAmount := by
  have hrun : (s.run env ops).Sound env ∧ (s.run env ops).db.Priced := by
    refine run_keeps (I := fun s => s.Sound env ∧ s.db.Priced)
      (fun s s' hchange hs => ⟨hchange.sound hs.1, hchange.priced hs.1.fresh hs.2⟩) ⟨h.sound, fun i o ho => ?_⟩ ops
    rw [h.orders] at ho
    cases ho
  obtain ⟨hsound, hpriced⟩ := hrun
  have hpayable : 0 < o.payableAmount ↔
      o.promotionDiscountAmount + o.couponDiscountAmount < o.originalAmount + o.shippingAmount := by
    have heq : o.payableAmount = _ := hpriced orderId o row
    omega
  rw [← hpayable]
  constructor
  · exact fun hpay => hpay.positive row
  · intro hpositive
    obtain ⟨key, hkey, hunused⟩ := exists_unused_key (s.run env ops).db
    have hfound : (s.run env ops).db.orderByNo o.orderNo (some o.userId) = some (orderId, o) :=
      hsound.consistent.numbered.orderByNo row fun u hu => Option.some.inj hu
    have hunpaid := (hsound.consistent.pending orderId o row pending).1
    have hunsettled : o.paymentStatus ∉ settledPaymentStatuses := by
      rcases hunpaid.status with hs | hs <;> rw [hs] <;> decide
    obtain ⟨e, p, hcreate, hp, hof⟩ := createPayment_commits (s.run env ops).next now hfound pending
      hunsettled hpositive window enabled hkey hunused
    exact ⟨_, _, _, e, p, rfl, hcreate, (hsound.fresh _ (le_refl _)).payments, hp, hof⟩

/-- The customer orders two cups and can pay them. -/
theorem canPay_iff_cups :
    let run := sampleShop.run sampleDeployment [(.createOrder sampleCustomer sampleCups sampleNoon, 1000)]
    ∃ o, run.db.orders.get? 11 = some o ∧ (run.db.CanPay sampleDeployment run.next 11 "MOCK" sampleNoon ↔
      o.promotionDiscountAmount + o.couponDiscountAmount < o.originalAmount + o.shippingAmount) := by
  intro run
  have hrow : (run.db.orders.get? 11).map (fun o => (o.orderStatus, o.expiresAt)) =
      some (.pendingPayment, some (sampleNoon + 900000)) := by decide +kernel
  obtain ⟨o, ho, heq⟩ := Option.map_eq_some_iff.mp hrow
  rw [Prod.mk.injEq] at heq
  refine ⟨o, ho, canPay_iff sampleShop_opening _ ho heq.1 (fun t ht => ?_) (by decide)⟩
  rw [heq.2] at ht
  cases ht
  decide

/-- The customer orders a plate, which the promotion gives away: the order is pending, and cannot be paid. -/
theorem canPay_plate :
    let run := sampleShop.run sampleDeployment [(.createOrder sampleCustomer samplePlate sampleNoon, 1000)]
    (∃ o, run.db.orders.get? 11 = some o ∧ o.orderStatus = .pendingPayment) ∧
      ¬ ∃ channel now, run.db.CanPay sampleDeployment run.next 11 channel now := by
  intro run
  have hrow : (run.db.orders.get? 11).map (fun o => (o.orderStatus, o.payableAmount)) =
      some (.pendingPayment, 0) := by decide +kernel
  obtain ⟨o, ho, heq⟩ := Option.map_eq_some_iff.mp hrow
  rw [Prod.mk.injEq] at heq
  refine ⟨⟨o, ho, heq.1⟩, ?_⟩
  rintro ⟨channel, now, hpay⟩
  have hpositive := hpay.positive ho
  rw [heq.2] at hpositive
  exact absurd hpositive (lt_irrefl 0)

end NovaCommerce
