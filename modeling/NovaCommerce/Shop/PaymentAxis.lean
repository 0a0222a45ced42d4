import NovaCommerce.Shop.Consistency

/-!
# The payment axis of an order

* `Db.PayingOpen` : an order that is being paid has an attempt that is open (`Change.payingOpen`);
* `paying_open` : so it is along every run that cancels no order that is being paid;
* `endings_agree_iff` : cancelling and closing leave the same axis on all other orders only.
-/

namespace NovaCommerce

open Sql

/-- An order that is being paid has an attempt that can still succeed. -/
def Db.PayingOpen (d : Db) : Prop :=
  ∀ i o, d.orders.get? i = some o → o.paymentStatus = .paying →
    ∃ j p, d.payments.get? j = some p ∧ p.orderId = i ∧ p.Open

/-- Orders are being paid that were before, and their open attempts stay open. -/
theorem Db.PayingOpen.kept {d d' : Db} (h : d.PayingOpen)
    (ho : ∀ i o', d'.orders.get? i = some o' → o'.paymentStatus = .paying →
      ∃ o, d.orders.get? i = some o ∧ o.paymentStatus = .paying ∧
        ∀ j p, d.payments.get? j = some p → p.orderId = i → p.Open → d'.payments.get? j = some p) :
    d'.PayingOpen := by
  intro i o' ho' hpaying
  obtain ⟨o, hold, hwas, hkept⟩ := ho i o' ho' hpaying
  obtain ⟨j, p, hp, hof, hopen⟩ := h i o hold hwas
  exact ⟨j, p, hkept j p hp hof hopen, hof, hopen⟩

/-- The order leaves the axis, with attempts of its own. -/
theorem Db.PayingOpen.left {d d' : Db} (h : d.PayingOpen) {orderId : Nat} {order : Order} {f : Order → Order}
    (row : d.orders.get? orderId = some order) (orders : d'.orders = d.orders.modify orderId f)
    (left : (f order).paymentStatus ≠ .paying)
    (others : ∀ j p, d.payments.get? j = some p → p.Open → p.orderId ≠ orderId → d'.payments.get? j = some p) :
    d'.PayingOpen := by
  refine h.kept fun i o' ho' hpaying => ?_
  rw [orders] at ho'
  by_cases hi : i = orderId
  · subst hi
    rw [Dict.get?_modify_self, row] at ho'
    cases ho'
    exact absurd hpaying left
  · rw [Dict.get?_modify_ne hi] at ho'
    refine ⟨o', ho', hpaying, fun j p hp hof hopen => others j p hp hopen ?_⟩
    rw [hof]
    exact hi

/-- The order keeps its place on the axis. -/
theorem Db.PayingOpen.same {d d' : Db} (h : d.PayingOpen) {orderId : Nat} {f : Order → Order}
    (orders : d'.orders = d.orders.modify orderId f) (payments : d'.payments = d.payments)
    (hf : ∀ o, (f o).paymentStatus = o.paymentStatus) : d'.PayingOpen := by
  refine h.kept fun i o' ho' hpaying => ?_
  rw [payments]
  rw [orders, Dict.get?_modify] at ho'
  split_ifs at ho'
  · obtain ⟨o, ho, rfl⟩ := Option.map_eq_some_iff.mp ho'
    rw [hf] at hpaying
    exact ⟨o, ho, hpaying, fun j p hp _ _ => hp⟩
  · exact ⟨o', ho', hpaying, fun j p hp _ _ => hp⟩

/-- A recorded payment is not open. -/
theorem Payment.Recorded.not_open {p : Payment} (h : p.Recorded) : ¬ p.Open := by
  rintro hopen
  unfold Payment.Recorded at h
  rcases hopen with hs | hs <;> simp [hs] at h

/-- A new attempt is open. -/
theorem AttemptCreated.payingOpen {next next' : Nat} {d d' : Db} (h : AttemptCreated next d next' d')
    (hfresh : d.FreshFrom next) (hd : d.PayingOpen) : d'.PayingOpen := by
  cases h with
  | replayed => exact hd
  | @created orderId order p now locked pending unsettled positive ofOrder orderNo userId amount status paid
      refunded =>
    intro i o' ho' hpaying
    by_cases hi : i = orderId
    · subst hi
      exact ⟨next, p, Dict.get?_set_self _ _ _, ofOrder, .inr status⟩
    · rw [Dict.get?_modify_ne hi] at ho'
      obtain ⟨j, q, hq, hof, hopen⟩ := hd i o' ho' hpaying
      refine ⟨j, q, ?_, hof, hopen⟩
      have hj : j ≠ next := by
        rintro rfl
        rw [(hfresh j (le_refl _)).payments] at hq
        cases hq
      dsimp only
      rw [Dict.get?_set_ne hj]
      exact hq

/-- Settling an order takes it off the axis. -/
theorem Settling.payingOpen {env : Deployment} {d d' : Db} {paymentId orderId : Nat} {p : Payment} {o : Order}
    {f : Order → Order} (h : Settling d paymentId p orderId o) (hc : d.Consistent env)
    (hd : d.PayingOpen) (orders : d'.orders = d.orders.modify orderId f)
    (left : (f o).paymentStatus ≠ .paying)
    (others : ∀ j, j ≠ paymentId → d'.payments.get? j = d.payments.get? j) : d'.PayingOpen := by
  refine hd.left h.order orders left fun j q hq _ hof => ?_
  have hj : j ≠ paymentId := by
    rintro rfl
    rw [h.payment] at hq
    cases hq
    exact hof (h.attempt hc).1
  rw [others j hj]
  exact hq

theorem Booking.payingOpen {env : Deployment} {terms : Terms} {s s' : Shop} (h : Booking terms s s')
    (hs : s.Sound env) (hd : s.db.PayingOpen) : s'.db.PayingOpen := by
  cases h with
  | drawn _ => exact hd
  | called _ _ => exact hd
  | attempted created => exact created.payingOpen hs.fresh hd
  | late settling closed first checked ensured =>
    cases ensured with
    | present _ =>
      exact settling.payingOpen hs.consistent hd rfl (fun h => nomatch h) fun j hj => Dict.get?_modify_ne hj _
    | created _ _ _ _ _ _ =>
      exact settling.payingOpen hs.consistent hd rfl (fun h => nomatch h) fun j hj => Dict.get?_modify_ne hj _
  | parked => exact hd
  | compensated compensated =>
    cases compensated with
    | @mk intent payment order providerRefundNo found ofPayment ofOrder paymentChecked orderChecked =>
      obtain ⟨-, p, hp, hof, hrecorded⟩ := hs.consistent.intents _ intent found
      refine hd.left ofOrder rfl (fun h => nomatch h) fun j q hq hopen _ => ?_
      have hj : j ≠ intent.paymentId := by
        rintro rfl
        rw [hp] at hq
        cases hq
        exact hrecorded.not_open hopen
      dsimp only
      rw [Dict.get?_modify_ne hj]
      exact hq

/-- An order that was not being paid ends off the axis. -/
theorem Ending.left {terms : Terms} (hterms : terms.cancelsUnpaying) {orderId : Nat} {order : Order}
    {write : Order → Order} {log : OrderStatusLog} (h : Ending terms orderId order write log) :
    (write order).paymentStatus ≠ .paying := by
  cases h with
  | cancelled principal reason now unpaying => exact unpaying hterms
  | expired now unpaid => exact fun h => nomatch h

theorem Trade.payingOpen {env : Deployment} {terms : Terms} (hterms : terms.cancelsUnpaying) {s s' : Shop}
    (h : Trade env terms s s') (hs : s.Sound env) (hd : s.db.PayingOpen) : s'.db.PayingOpen := by
  cases h with
  | created created =>
    cases created with
    | mk merged unclaimed unordered window priced checked coupon stock items event =>
      obtain ⟨outbox, hframe, -⟩ := event.frame
      dsimp only
      rw [hframe]
      refine hd.kept fun i o' ho' hpaying => ?_
      dsimp only at ho' ⊢
      by_cases hi : i = s.next + 1
      · subst hi
        rw [Dict.get?_set_self] at ho'
        cases ho'
        cases hpaying
      · rw [Dict.get?_set_ne hi] at ho'
        exact ⟨o', ho', hpaying, fun j p hp _ _ => hp⟩
  | claimed claimed =>
    cases claimed with
    | mk _ _ _ _ _ _ _ => exact hd
  | swept swept =>
    cases swept with
    | mk _ _ => exact hd
  | ended row pending held ending ended =>
    obtain ⟨d₁, d₂, -, -, rfl⟩ := ended.parts
    refine hd.left row rfl (ending.left hterms) fun j p hp hopen hof => ?_
    -- only attempts of the order are closed
    dsimp only
    rw [Dict.get?_adjust, hp, Option.map_some, if_neg]
    rintro ⟨e, he, rfl, -⟩
    obtain ⟨hrow, hmine⟩ := held e he
    rw [hp] at hrow
    cases hrow
    exact hof hmine
  | settled settling pending items coupon stock shell event =>
    obtain ⟨c₁, c₂, c₃, outbox, -, -, -, rfl⟩ := settled_parts coupon stock shell event
    exact settling.payingOpen hs.consistent hd rfl (fun h => nomatch h) fun j hj => Dict.get?_modify_ne hj _
  | confirmed confirmed =>
    cases confirmed with
    | mk row processing => exact hd.same rfl rfl fun _ => rfl

theorem PackageShipped.payingOpen {next next' : Nat} {d d' : Db} (h : PackageShipped next d next' d')
    (hd : d.PayingOpen) : d'.PayingOpen := by
  cases h with
  | @mk id next' f order request now axis d' found ofOrder unshipped carried kept residual =>
    obtain ⟨-, -, hframe⟩ := residual.frame
    rw [hframe]
    exact hd.same (f := fun row => { row with fulfillmentStatus := axis }) rfl rfl fun _ => rfl

theorem Change.payingOpen {env : Deployment} {terms : Terms} (hterms : terms.cancelsUnpaying) {s s' : Shop}
    (h : Change env terms s s') (hs : s.Sound env) (hd : s.db.PayingOpen) : s'.db.PayingOpen := by
  cases h with
  | booked booking => exact booking.payingOpen hs hd
  | traded trade => exact trade.payingOpen hterms hs hd
  | shipped shipped => exact shipped.payingOpen hd

/-! ## The two endings -/

/-- The payment axis of an order. -/
def Db.paymentAxis (d : Db) (orderId : Nat) : Option PaymentStatus :=
  (d.orders.get? orderId).map Order.paymentStatus

/-- A cancellation keeps the axis. -/
theorem cancel_paymentAxis {principal : Principal} {orderNo : String} {reason : Option String} {now : Time}
    {d : Db} {next orderId : Nat} {o : Order} {e : Exec Db}
    (found : d.orderByNo orderNo (some principal.userId) = some (orderId, o))
    (h : (cancel principal orderNo reason now).run (Exec.start d next) = (.ok (), e)) :
    e.committed.paymentAxis orderId = some o.paymentStatus := by
  unfold cancel at h
  rw [run_transaction_eq_ok] at h
  obtain ⟨e₁, h, rfl⟩ := h
  obtain ⟨d', rfl, id, order, hby, -, hended⟩ := cancelOrder_cancelled h
  rw [show (Exec.start d next).view = d from rfl, found] at hby
  cases hby
  obtain ⟨d₁, d₂, -, -, rfl⟩ := hended.parts
  unfold Db.paymentAxis
  dsimp only
  rw [Dict.get?_modify_self, show (Exec.start d next).view = d from rfl, (orderByNo_some found).1]
  rfl

/-- Closing an expired order resets the axis. -/
theorem expire_paymentAxis {orderId next : Nat} {now : Time} {d : Db} {e : Exec Db}
    (h : (expireOrder orderId now).run (Exec.start d next) = (.ok true, e)) :
    (∃ o, d.orders.get? orderId = some o ∧ (o.paymentStatus = .unpaid ∨ o.paymentStatus = .paying)) ∧
      e.committed.paymentAxis orderId = some .unpaid := by
  unfold expireOrder at h
  rw [run_transaction_eq_ok] at h
  obtain ⟨e₁, h, rfl⟩ := h
  rcases closeExpiredOrder_eq_ok h with ⟨hfalse, -⟩ | ⟨-, d', rfl, order, horder, hexpired, hended⟩
  · cases hfalse
  · obtain ⟨d₁, d₂, -, -, rfl⟩ := hended.parts
    refine ⟨⟨order, horder, hexpired.2.2.2.1⟩, ?_⟩
    unfold Db.paymentAxis
    dsimp only
    rw [Dict.get?_modify_self, horder]
    rfl

/-- Cancelling and closing an order leave the same axis when nobody was paying it, and only then. -/
theorem endings_agree_iff {principal : Principal} {orderNo : String} {reason : Option String} {now now' : Time}
    {d : Db} {next orderId : Nat} {o : Order} {e₁ e₂ : Exec Db}
    (found : d.orderByNo orderNo (some principal.userId) = some (orderId, o))
    (hcancel : (cancel principal orderNo reason now).run (Exec.start d next) = (.ok (), e₁))
    (hexpire : (expireOrder orderId now').run (Exec.start d next) = (.ok true, e₂)) :
    e₁.committed.paymentAxis orderId = e₂.committed.paymentAxis orderId ↔ o.paymentStatus ≠ .paying := by
  obtain ⟨⟨o', ho', hbefore⟩, hafter⟩ := expire_paymentAxis hexpire
  rw [(orderByNo_some found).1] at ho'
  cases ho'
  rw [cancel_paymentAxis found hcancel, hafter, Option.some.injEq]
  rcases hbefore with hs | hs
  · simp [hs]
  · simp [hs]

/-- In every run that cancels no order that is being paid, an order that is being paid has an attempt that
is open; and from every state the two endings leave the same axis exactly on orders that nobody is paying. -/
theorem paymentAxis_tells {env : Deployment} {s : Shop} (h : s.Opening) (ops : List (Op × Nat)) :
    (Shop.Meets env (fun op d => op.CancelsUnpaying d) ops s →
      ∀ i o, (s.run env ops).db.orders.get? i = some o → o.paymentStatus = .paying →
        ∃ j p, (s.run env ops).db.payments.get? j = some p ∧ p.orderId = i ∧ p.Open) ∧
    ∀ (principal : Principal) (orderNo : String) (reason : Option String) (now now' : Time) (orderId : Nat)
      (o : Order) (e₁ e₂ : Exec Db),
      (s.run env ops).db.orderByNo orderNo (some principal.userId) = some (orderId, o) →
      (cancel principal orderNo reason now).run (Exec.start (s.run env ops).db (s.run env ops).next) =
        (.ok (), e₁) →
      (expireOrder orderId now').run (Exec.start (s.run env ops).db (s.run env ops).next) = (.ok true, e₂) →
      (e₁.committed.paymentAxis orderId = e₂.committed.paymentAxis orderId ↔ o.paymentStatus ≠ .paying) := by
  refine ⟨fun hmeets => ?_, fun _ _ _ _ _ _ _ _ _ found hcancel hexpire => endings_agree_iff found hcancel hexpire⟩
  have hopening : s.Sound env ∧ s.db.PayingOpen := by
    refine ⟨h.sound, fun i o ho => ?_⟩
    rw [h.orders] at ho
    cases ho
  exact (@run_preserves { cancelsUnpaying := True } env (fun s => s.Sound env ∧ s.db.PayingOpen)
    (fun s s' hchange hs => ⟨hchange.sound hs.1, hchange.payingOpen trivial hs.1 hs.2⟩) ops s
    (hmeets.mono fun op d hop => ⟨False.elim, fun _ => hop⟩) hopening).2

/-- Two cups that are being paid for, which the customer then cancels or the shop closes. -/
theorem paymentAxis_tells_begun :
    let run := sampleShop.run sampleDeployment [(.createOrder sampleCustomer sampleCups sampleNoon, 1000),
      (.createPayment sampleCustomer samplePayment sampleNoon, 1000)]
    let cancelled := (cancel sampleCustomer "NV20240101000011" none sampleNoon).run (Exec.start run.db run.next)
    let closed := (expireOrder 11 (sampleNoon + 900000)).run (Exec.start run.db run.next)
    (∀ i o, run.db.orders.get? i = some o → o.paymentStatus = .paying →
      ∃ j p, run.db.payments.get? j = some p ∧ p.orderId = i ∧ p.Open) ∧
    ∃ o, run.db.orders.get? 11 = some o ∧
      (cancelled.2.committed.paymentAxis 11 = closed.2.committed.paymentAxis 11 ↔ o.paymentStatus ≠ .paying) := by
  intro run cancelled closed
  have htells := @paymentAxis_tells sampleDeployment sampleShop sampleShop_opening
    [(.createOrder sampleCustomer sampleCups sampleNoon, 1000),
      (.createPayment sampleCustomer samplePayment sampleNoon, 1000)]
  have hfound : (run.db.orderByNo "NV20240101000011" (some 1)).map Prod.fst = some 11 := by decide +kernel
  have hcancelled : cancelled.1.toOption = some () := by decide +kernel
  have hclosed : closed.1.toOption = some true := by decide +kernel
  obtain ⟨⟨i, o⟩, hfound, rfl⟩ := Option.map_eq_some_iff.mp hfound
  exact ⟨htells.1 ⟨trivial, trivial, trivial⟩, o, (orderByNo_some hfound).1,
    htells.2 _ _ _ _ _ _ _ _ _ hfound (run_eq_ok_of_toOption hcancelled) (run_eq_ok_of_toOption hclosed)⟩

/-- The customer begins to pay for two cups and cancels the order: the order is still being paid, and no
attempt is open. -/
theorem paymentAxis_cancelled :
    let run := sampleShop.run sampleDeployment [(.createOrder sampleCustomer sampleCups sampleNoon, 1000),
      (.createPayment sampleCustomer samplePayment sampleNoon, 1000),
      (.cancel sampleCustomer "NV20240101000011" none sampleNoon, 1000)]
    ¬ ∀ i o, run.db.orders.get? i = some o → o.paymentStatus = .paying →
      ∃ j p, run.db.payments.get? j = some p ∧ p.orderId = i ∧ p.Open := by
  intro run hall
  have hpaying : (run.db.orders.get? 11).map Order.paymentStatus = some .paying := by decide +kernel
  have hclosed : ∀ e ∈ run.db.payments.entries, ¬ e.2.Open := by decide +kernel
  obtain ⟨o, ho, hpaying⟩ := Option.map_eq_some_iff.mp hpaying
  obtain ⟨j, p, hp, -, hopen⟩ := hall 11 o ho hpaying
  exact hclosed (j, p) (Dict.get?_eq_some.mp hp) hopen

end NovaCommerce
