import NovaCommerce.Lib.Totals
import NovaCommerce.Lifecycle.Runs

/-!
# What orders, payments and refunds say of each other

* `Db.ofPayments`, `Db.refundsOfOrder`, `Db.refundsOfClaim` : figures of the attempts and refunds of an order, and of a
  claim, added up;
* `Db.Accounted` : what they say of each other; every change of the shop keeps it (`Change.accounted`).
-/

namespace NovaCommerce

open Sql

/-! ## The ledgers -/

/-- A figure of the attempts of an order, added up. -/
def Db.ofPayments (d : Db) (figure : Payment → Int) (orderId : Nat) : Int :=
  d.payments.totalOf Payment.orderId figure orderId

/-- The refunds of an order. -/
def Db.refundsOfOrder (d : Db) (orderId : Nat) : Int := d.refunds.totalOf Refund.orderId Refund.amount orderId

/-- The refunds of a claim. -/
def Db.refundsOfClaim (d : Db) (claimId : Nat) : Int := d.refunds.totalOf Refund.afterSaleId Refund.amount claimId

/-- What payments, orders and refunds say of each other. -/
structure Db.Accounted (d : Db) : Prop where
  orders : ∀ {i : Nat} {o : Order}, d.orders.get? i = some o →
    o.Checked ∧ d.ofPayments Payment.refundedAmount i = o.refundedAmount
  settled : ∀ {i : Nat} {o : Order}, d.orders.get? i = some o → o.Settled →
    o.paidAmount = o.payableAmount ∧ d.ofPayments Payment.paidAmount i = o.paidAmount ∧
      d.refundsOfOrder i = o.refundedAmount
  payments : ∀ {j : Nat} {p : Payment}, d.payments.get? j = some p → p.Checked
  claims : ∀ {j : Nat} {c : AfterSale}, d.afterSales.get? j = some c →
    ∃ o, d.orders.get? c.orderId = some o ∧ o.Settled
  refunds : ∀ {k : Nat} {r : Refund}, d.refunds.get? k = some r → ∃ o, d.orders.get? r.orderId = some o ∧ o.Settled

/-- Nothing was refunded on an order that is not settled. -/
theorem Db.Accounted.unrefunded {d : Db} (hd : d.Accounted) {i : Nat}
    (hi : ∀ o, d.orders.get? i = some o → ¬ o.Settled) : d.refundsOfOrder i = 0 := by
  refine Dict.totalOf_eq_zero fun k r hr hof => ?_
  obtain ⟨o, ho, hsettled⟩ := hd.refunds hr
  rw [hof] at ho
  exact absurd hsettled (hi o ho)

/-- An order that is not there has no attempts. -/
theorem ofPayments_eq_zero {env : Deployment} {d : Db} (hd : d.Consistent env) {i : Nat} (hi : d.orders.get? i = none)
    (figure : Payment → Int) : d.ofPayments figure i = 0 := by
  refine Dict.totalOf_eq_zero fun j p hp hof => ?_
  obtain ⟨-, o, ho, -⟩ := hd.attempts j p hp
  rw [hof, hi] at ho
  cases ho

/-! ## Orders that keep their money -/

/-- The order keeps its money, as far as it was settled. -/
structure Order.KeepsMoney (o o' : Order) : Prop where
  checked : o.Checked → o'.Checked
  refunded : o'.refundedAmount = o.refundedAmount
  settled : o'.Settled → o.Settled ∧ o'.paidAmount = o.paidAmount ∧ o'.payableAmount = o.payableAmount

theorem Order.KeepsMoney.refl (o : Order) : o.KeepsMoney o := ⟨id, rfl, fun h => ⟨h, rfl, rfl⟩⟩

/-- The attempts of an order come to the same, as far as it was settled. -/
structure Db.SamePayments (d d' : Db) (i : Nat) : Prop where
  refunded : d'.ofPayments Payment.refundedAmount i = d.ofPayments Payment.refundedAmount i
  paid : ∀ o, d.orders.get? i = some o → o.Settled →
    d'.ofPayments Payment.paidAmount i = d.ofPayments Payment.paidAmount i

theorem Db.SamePayments.same {d d' : Db} (h : d'.payments = d.payments) (i : Nat) : d.SamePayments d' i := by
  refine ⟨?_, fun _ _ _ => ?_⟩
  · unfold Db.ofPayments
    rw [h]
  · unfold Db.ofPayments
    rw [h]

/-- A new attempt. -/
theorem Db.SamePayments.attempt {d d' : Db} {k : Nat} {p : Payment} (h : d'.payments = d.payments.set k p)
    (fresh : d.payments.get? k = none) (paid : p.paidAmount = 0) (refunded : p.refundedAmount = 0) (i : Nat) :
    d.SamePayments d' i := by
  refine ⟨?_, fun _ _ _ => ?_⟩
  · unfold Db.ofPayments
    rw [h, Dict.totalOf_set_zero fresh refunded]
  · unfold Db.ofPayments
    rw [h, Dict.totalOf_set_zero fresh paid]

/-- Attempts that are closed. -/
theorem Db.SamePayments.closed {d d' : Db} {now : Time} {attempts : List (Nat × Payment)}
    (h : d'.payments = d.payments.adjust fun id p => if ∃ e ∈ attempts, e.1 = id ∧ e.2.Open then p.closed now else p)
    (i : Nat) : d.SamePayments d' i := by
  refine ⟨?_, fun _ _ _ => ?_⟩
  · unfold Db.ofPayments
    rw [h]
    refine Dict.totalOf_adjust_same fun id p _ => ?_
    split_ifs
    · exact ⟨rfl, rfl⟩
    · exact ⟨rfl, rfl⟩
  · unfold Db.ofPayments
    rw [h]
    refine Dict.totalOf_adjust_same fun id p _ => ?_
    split_ifs
    · exact ⟨rfl, rfl⟩
    · exact ⟨rfl, rfl⟩

/-- An attempt that succeeds, of an order that is not settled. -/
theorem Db.SamePayments.succeeded {d d' : Db} {k : Nat} {p : Payment} {amount : Int} {transactionNo : Option String}
    {now : Time} (h : d'.payments = d.payments.modify k fun row => row.succeeded amount transactionNo now)
    (row : d.payments.get? k = some p) {i : Nat} (hi : ∀ o, d.orders.get? i = some o → o.Settled → p.orderId ≠ i) :
    d.SamePayments d' i := by
  refine ⟨?_, fun o ho hsettled => ?_⟩
  · unfold Db.ofPayments
    rw [h]
    exact Dict.totalOf_modify_same fun _ _ => ⟨rfl, rfl⟩
  · unfold Db.ofPayments
    rw [h, Dict.totalOf_modify row rfl, if_neg (hi o ho hsettled), add_zero]

/-! ## How an order stands after a change -/

/-- The order keeps its money, or has it from the change. -/
inductive Db.Stands (d d' : Db) (i : Nat) (o' : Order) : Prop where
  | kept {o : Order} (row : d.orders.get? i = some o) (keeps : o.KeepsMoney o') (payments : d.SamePayments d' i)
  | moved (checked : o'.Checked) (refunded : d'.ofPayments Payment.refundedAmount i = o'.refundedAmount)
      (settled : o'.Settled → o'.paidAmount = o'.payableAmount ∧ d'.ofPayments Payment.paidAmount i = o'.paidAmount ∧
        d.refundsOfOrder i = o'.refundedAmount)

/-- The orders are the same. -/
theorem stands_same {d d' : Db} (orders : d'.orders = d.orders) (payments : ∀ i, d.SamePayments d' i) {i : Nat}
    {o' : Order} (ho' : d'.orders.get? i = some o') : d.Stands d' i o' := by
  rw [orders] at ho'
  exact .kept ho' (.refl o') (payments i)

/-- One order is rewritten. -/
theorem stands_modify {d d' : Db} {k : Nat} {o : Order} {f : Order → Order} (row : d.orders.get? k = some o)
    (orders : d'.orders = d.orders.modify k f) (payments : ∀ i, i ≠ k → d.SamePayments d' i)
    (stands : d.Stands d' k (f o)) {i : Nat} {o' : Order} (ho' : d'.orders.get? i = some o') : d.Stands d' i o' := by
  rw [orders] at ho'
  by_cases hi : i = k
  · subst hi
    rw [Dict.get?_modify_self, row] at ho'
    cases ho'
    exact stands
  · rw [Dict.get?_modify_ne hi] at ho'
    exact .kept ho' (.refl o') (payments i hi)

/-- One order is rewritten, and keeps its money. -/
theorem stands_modify_kept {d d' : Db} {k : Nat} {o : Order} {f : Order → Order} (row : d.orders.get? k = some o)
    (orders : d'.orders = d.orders.modify k f) (payments : ∀ i, d.SamePayments d' i) (keeps : o.KeepsMoney (f o)) {i : Nat}
    {o' : Order} (ho' : d'.orders.get? i = some o') : d.Stands d' i o' :=
  stands_modify row orders (fun i _ => payments i) (.kept row keeps (payments k)) ho'

/-- The accounts after a change of the shop. -/
theorem Db.Accounted.after {d d' : Db} (hd : d.Accounted)
    (orders : ∀ i o', d'.orders.get? i = some o' → d.Stands d' i o')
    (advance : d.orders.Grows Order.Advances Order.Opened d'.orders)
    (payments : ∀ j p, d'.payments.get? j = some p → p.Checked) (afterSales : d'.afterSales = d.afterSales)
    (refunds : d'.refunds = d.refunds) : d'.Accounted where
  orders := by
    intro i o' ho'
    cases orders i o' ho' with
    | kept row keeps same =>
      obtain ⟨hchecked, hrefunded⟩ := hd.orders row
      exact ⟨keeps.checked hchecked, by rw [same.refunded, hrefunded, keeps.refunded]⟩
    | moved checked refunded _ => exact ⟨checked, refunded⟩
  settled := by
    intro i o' ho' hsettled
    have hrows : d'.refundsOfOrder i = d.refundsOfOrder i := by
      unfold Db.refundsOfOrder
      rw [refunds]
    rw [hrows]
    cases orders i o' ho' with
    | kept row keeps same =>
      obtain ⟨hwas, hpaid, hpayable⟩ := keeps.settled hsettled
      obtain ⟨hfull, htotal, hrefunds⟩ := hd.settled row hwas
      rw [same.paid _ row hwas, hpaid, hpayable, keeps.refunded]
      exact ⟨hfull, htotal, hrefunds⟩
    | moved _ _ settled => exact settled hsettled
  payments := by
    intro j p hp
    exact payments j p hp
  claims := by
    intro j c hc
    rw [afterSales] at hc
    obtain ⟨o, ho, hsettled⟩ := hd.claims hc
    obtain ⟨o', ho', hadvances⟩ := advance.kept _ o ho
    exact ⟨o', ho', hadvances.settled hsettled⟩
  refunds := by
    intro k r hr
    rw [refunds] at hr
    obtain ⟨o, ho, hsettled⟩ := hd.refunds hr
    obtain ⟨o', ho', hadvances⟩ := advance.kept _ o ho
    exact ⟨o', ho', hadvances.settled hsettled⟩

/-- The accounts, when none of their tables is written. -/
theorem Db.Accounted.same {d d' : Db} (hd : d.Accounted) (orders : d'.orders = d.orders) (payments : d'.payments = d.payments)
    (afterSales : d'.afterSales = d.afterSales) (refunds : d'.refunds = d.refunds) : d'.Accounted := by
  refine hd.after (fun _ _ ho' => stands_same orders (.same payments) ho') ?_ (fun j p hp => ?_) afterSales refunds
  · rw [orders]
    exact Dict.grows_refl Order.Advances.refl _
  · rw [payments] at hp
    exact hd.payments hp

/-! ## Attempts -/

/-- An attempt that is booked keeps to its checks when it succeeds at its amount. -/
theorem succeeded_checked {p : Payment} (booked : p.Booked) (open_ : ¬ p.Recorded) (transactionNo : Option String) (now : Time) :
    (p.succeeded p.amount transactionNo now).Checked := by
  obtain ⟨-, hrefunded⟩ := booked.unrecorded open_
  refine ⟨booked.positive, booked.positive.le, ?_, ?_⟩
  · show 0 ≤ p.refundedAmount
    rw [hrefunded]
  · show p.refundedAmount ≤ p.amount
    rw [hrefunded]
    exact booked.positive.le

/-- An attempt as it is inserted. -/
theorem attempt_checked {p : Payment} (positive : 0 < p.amount) (paid : p.paidAmount = 0) (refunded : p.refundedAmount = 0) :
    p.Checked := by
  refine ⟨positive, ?_, ?_, ?_⟩
  · rw [paid]
  · rw [refunded]
  · rw [paid, refunded]

/-- The checks of a row that is rewritten. -/
theorem checked_modify {d d' : Db} (hd : d.Accounted) {k : Nat} {f : Payment → Payment}
    (payments : d'.payments = d.payments.modify k f) (hf : ∀ p, d.payments.get? k = some p → (f p).Checked) {j : Nat}
    {p' : Payment} (hp' : d'.payments.get? j = some p') : p'.Checked := by
  rw [payments] at hp'
  by_cases hj : j = k
  · subst hj
    rw [Dict.get?_modify_self] at hp'
    obtain ⟨p, hp, rfl⟩ := Option.map_eq_some_iff.mp hp'
    exact hf p hp
  · rw [Dict.get?_modify_ne hj] at hp'
    exact hd.payments hp'

/-! ## Bookings -/

/-- An order that is being paid keeps its money. -/
theorem payingBy_keeps (o : Order) (now : Time) : o.KeepsMoney (o.payingBy now o) := by
  unfold Order.payingBy
  split_ifs
  · exact ⟨id, rfl, fun h => ⟨h, rfl, rfl⟩⟩
  · exact .refl o

/-- A booking posts no refund. -/
theorem Booking.refunds {terms : Terms} {s s' : Shop} (h : Booking terms s s') : s'.db.refunds = s.db.refunds := by
  cases h with
  | drawn _ => rfl
  | called _ _ => rfl
  | attempted created =>
    cases created with
    | replayed => rfl
    | created _ _ _ _ _ _ _ _ _ _ _ => rfl
  | late settling closed first checked ensured =>
    cases ensured with
    | present _ => rfl
    | created _ _ _ _ _ _ => rfl
  | parked => rfl
  | compensated compensated =>
    cases compensated with
    | mk _ _ _ _ _ => rfl

/-- The accounts after an order that is closed was paid late. -/
theorem late_accounted {env : Deployment} {s : Shop} (hs : s.Running env) (hd : s.db.Accounted) {paymentId orderId : Nat}
    {p : Payment} {o : Order} {transactionNo : Option String} {now : Time} (settling : Settling s.db paymentId p orderId o)
    (closed : o.orderStatus = .closed) (checked : (o.paidLate p.amount now o).Checked) {d' : Db}
    (payments : d'.payments = s.db.payments.modify paymentId fun row => row.succeeded p.amount transactionNo now)
    (orders : d'.orders = s.db.orders.modify orderId (o.paidLate p.amount now))
    (advance : s.db.orders.Grows Order.Advances Order.Opened d'.orders) (afterSales : d'.afterSales = s.db.afterSales)
    (refunds : d'.refunds = s.db.refunds) : d'.Accounted := by
  obtain ⟨hof, -, hbooked, hopen⟩ := settling.attempt hs.consistent
  have hnot : ¬ o.Settled := Order.Ended.not_settled (.inr closed)
  have hsame : ∀ i, s.db.SamePayments d' i := fun i => .succeeded payments settling.payment fun o' ho' hsettled hi => by
    rw [← hi, hof, settling.order] at ho'
    cases ho'
    exact hnot hsettled
  refine hd.after (fun i o' ho' => ?_) advance (fun j p' hp' => ?_) afterSales refunds
  · exact stands_modify_kept settling.order orders hsame ⟨fun _ => checked, rfl, fun h => absurd h hnot⟩ ho'
  · refine checked_modify hd payments (fun q hq => ?_) hp'
    rw [settling.payment] at hq
    cases hq
    exact succeeded_checked hbooked hopen transactionNo now

theorem Booking.accounted {env : Deployment} {terms : Terms} {s s' : Shop} (h : Booking terms s s') (hs : s.Running env)
    (hd : s.db.Accounted) : s'.db.Accounted := by
  have hchange : Change env terms s s' := .booked h
  have hadvance := hchange.orders_advance hs.fresh
  have hclaims := h.sameClaims.afterSales
  have hrefunds := h.refunds
  cases h with
  | drawn _ => exact hd
  | called _ _ => exact hd.same rfl rfl rfl rfl
  | attempted created =>
    cases created with
    | replayed => exact hd
    | @created orderId order p now locked pending unsettled positive ofOrder orderNo userId amount status paid refunded =>
      have hfresh := (hs.fresh _ (le_refl _)).payments
      refine hd.after (fun i o' ho' => ?_) hadvance (fun j q hq => ?_) hclaims hrefunds
      · exact stands_modify_kept locked rfl (.attempt rfl hfresh paid refunded) (payingBy_keeps order now) ho'
      · by_cases hj : j = s.next
        · subst hj
          obtain rfl := Option.some.inj ((Dict.get?_set_self _ _ _).symm.trans hq)
          exact attempt_checked (by rw [amount]; exact positive) paid refunded
        · exact hd.payments ((Dict.get?_set_ne hj _).symm.trans hq)
  | late settling closed first checked ensured =>
    cases ensured with
    | present _ => exact late_accounted hs hd settling closed checked rfl rfl hadvance hclaims hrefunds
    | created _ _ _ _ _ _ => exact late_accounted hs hd settling closed checked rfl rfl hadvance hclaims hrefunds
  | parked => exact hd.same rfl rfl rfl rfl
  | compensated compensated =>
    cases compensated with
    | @mk intent p o providerRefundNo found ofPayment ofOrder paymentChecked orderChecked =>
      obtain ⟨-, p', hp', hof, -⟩ := hs.consistent.intents _ _ found
      rw [ofPayment] at hp'
      cases hp'
      obtain ⟨o', ho', hended⟩ := hs.intents _ _ found
      rw [ofOrder] at ho'
      cases ho'
      -- the attempt and its order are both given the amount
      have htotal : ∀ (figure : Payment → Int) (i : Nat),
          (s.db.payments.modify intent.paymentId (p.compensatedBy intent.amount)).totalOf Payment.orderId figure i =
            s.db.ofPayments figure i +
              if p.orderId = i then figure (p.compensatedBy intent.amount p) - figure p else 0 :=
        fun figure i => Dict.totalOf_modify ofPayment rfl
      refine hd.after (fun i o' ho' => ?_) hadvance (fun j q hq => ?_) hclaims hrefunds
      · refine stands_modify ofOrder rfl (fun i hi => ⟨?_, fun _ _ _ => ?_⟩) (.moved orderChecked ?_ fun h => ?_) ho'
        · show (s.db.payments.modify intent.paymentId (p.compensatedBy intent.amount)).totalOf _ _ i = _
          rw [htotal, hof, if_neg (Ne.symm hi), add_zero]
        · show (s.db.payments.modify intent.paymentId (p.compensatedBy intent.amount)).totalOf _ _ i = _
          rw [htotal, hof, if_neg (Ne.symm hi), add_zero]
        · show (s.db.payments.modify intent.paymentId (p.compensatedBy intent.amount)).totalOf _ _ intent.orderId =
            o.refundedAmount + intent.amount
          rw [htotal, if_pos hof, (hd.orders ofOrder).2]
          show o.refundedAmount + (p.refundedAmount + intent.amount - p.refundedAmount) = _
          omega
        · exact absurd h hended.not_settled
      · refine checked_modify hd rfl (fun q hq => ?_) hq
        rw [ofPayment] at hq
        cases hq
        exact paymentChecked

/-! ## Trades -/

/-- A trade posts no refund. -/
theorem Trade.refunds {env : Deployment} {terms : Terms} {s s' : Shop} (h : Trade env terms s s') :
    s'.db.refunds = s.db.refunds := by
  cases h with
  | created created =>
    cases created with
    | mk merged unclaimed unordered window priced checked coupon stock items event =>
      obtain ⟨outbox, hd, -⟩ := event.frame
      dsimp only
      rw [hd]
  | claimed claimed =>
    cases claimed with
    | mk _ _ _ _ _ _ _ => rfl
  | swept swept =>
    cases swept with
    | mk _ _ => rfl
  | ended row pending held ending ended =>
    obtain ⟨d₁, d₂, -, -, rfl⟩ := ended.parts
    rfl
  | settled settling pending items coupon stock shell event =>
    obtain ⟨c₁, c₂, c₃, outbox, -, -, -, rfl⟩ := settled_parts coupon stock shell event
    rfl
  | confirmed confirmed =>
    cases confirmed with
    | mk _ _ => rfl

/-- An order that ends unpaid keeps its money. -/
theorem Ending.keepsMoney {terms : Terms} {orderId : Nat} {order : Order} {write : Order → Order} {log : OrderStatusLog}
    (h : Ending terms orderId order write log) (o : Order) : o.KeepsMoney (write o) := by
  have hnot := (h.ended o).not_settled
  cases h with
  | cancelled _ _ _ _ => exact ⟨id, rfl, fun hs => absurd hs hnot⟩
  | expired _ _ => exact ⟨id, rfl, fun hs => absurd hs hnot⟩

/-- A pending order is settled by the only payment that was recorded for it. -/
theorem settled_stands {env : Deployment} {d d' : Db} (hd : d.Consistent env) (hm : d.Accounted) {paymentId orderId : Nat}
    {p : Payment} {o : Order} {transactionNo : Option String} {now : Time} (settling : Settling d paymentId p orderId o)
    (pending : o.orderStatus = .pendingPayment)
    (payments : d'.payments = d.payments.modify paymentId fun row => row.succeeded p.amount transactionNo now) :
    d.Stands d' orderId (o.paidOnTime now o) := by
  obtain ⟨hof, hfor, hbooked, hopen⟩ := settling.attempt hd
  obtain ⟨hunpaid, hnone⟩ := hd.pending _ _ settling.order pending
  obtain ⟨hchecked, hrefunded⟩ := hm.orders settling.order
  have hpaid : d.ofPayments Payment.paidAmount orderId = 0 := Dict.totalOf_eq_zero fun j q hq hj =>
    ((hd.attempts j q hq).1.unrecorded (hnone j q hq hj)).1
  refine .moved ?_ ?_ fun _ => ⟨rfl, ?_, ?_⟩
  · obtain ⟨hsum, horiginal, hpromotion, hcoupon, hshipping, hpayable, -, hnonneg, -⟩ := hchecked
    refine ⟨hsum, horiginal, hpromotion, hcoupon, hshipping, hpayable, hpayable, hnonneg, ?_⟩
    show o.refundedAmount ≤ o.payableAmount
    rw [hunpaid.refunded]
    exact hpayable
  · unfold Db.ofPayments
    rw [payments]
    refine Eq.trans ?_ hrefunded
    exact Dict.totalOf_modify_same fun _ _ => ⟨rfl, rfl⟩
  · unfold Db.ofPayments
    rw [payments, Dict.totalOf_modify settling.payment rfl, if_pos hof]
    change d.ofPayments Payment.paidAmount orderId + (p.amount - p.paidAmount) = o.payableAmount
    rw [hpaid, (hbooked.unrecorded hopen).1, hfor.amount, zero_add, sub_zero]
  · show d.refundsOfOrder orderId = o.refundedAmount
    rw [hunpaid.refunded]
    refine hm.unrefunded fun o' ho' => ?_
    rw [settling.order] at ho'
    cases ho'
    exact not_settled_of_pending pending

/-- The accounts after a new order. -/
theorem created_accounted {env : Deployment} {d d' : Db} (hd : d.Consistent env) (hm : d.Accounted) {orderId : Nat}
    {o : Order} (fresh : d.orders.get? orderId = none) (checked : o.Checked) (pending : o.orderStatus = .pendingPayment)
    (unrefunded : o.refundedAmount = 0) (orders : d'.orders = d.orders.set orderId o) (payments : d'.payments = d.payments)
    (advance : d.orders.Grows Order.Advances Order.Opened d'.orders) (afterSales : d'.afterSales = d.afterSales)
    (refunds : d'.refunds = d.refunds) : d'.Accounted := by
  have hsame := Db.SamePayments.same payments
  refine hm.after (fun i o' ho' => ?_) advance (fun j q hq => ?_) afterSales refunds
  · rw [orders] at ho'
    by_cases hi : i = orderId
    · subst hi
      rw [Dict.get?_set_self] at ho'
      cases ho'
      refine .moved checked ?_ fun h => absurd h (not_settled_of_pending pending)
      rw [(hsame i).refunded, unrefunded]
      exact ofPayments_eq_zero hd fresh _
    · rw [Dict.get?_set_ne hi] at ho'
      exact .kept ho' (.refl o') (hsame i)
  · rw [payments] at hq
    exact hm.payments hq

/-- The accounts after an order ended unpaid. -/
theorem ended_accounted {terms : Terms} {d d' : Db} (hm : d.Accounted) {orderId : Nat} {o : Order} {write : Order → Order}
    {log : OrderStatusLog} {attempts : List (Nat × Payment)} {now : Time} (row : d.orders.get? orderId = some o)
    (ending : Ending terms orderId o write log) (orders : d'.orders = d.orders.modify orderId write)
    (payments : d'.payments = d.payments.adjust fun id p =>
      if ∃ e ∈ attempts, e.1 = id ∧ e.2.Open then p.closed now else p)
    (advance : d.orders.Grows Order.Advances Order.Opened d'.orders) (afterSales : d'.afterSales = d.afterSales)
    (refunds : d'.refunds = d.refunds) : d'.Accounted := by
  refine hm.after (fun i o' ho' => ?_) advance (fun j q hq => ?_) afterSales refunds
  · exact stands_modify_kept row orders (.closed payments) (ending.keepsMoney o) ho'
  · rw [payments, Dict.get?_adjust, Option.map_eq_some_iff] at hq
    obtain ⟨p, hp, rfl⟩ := hq
    have hchecked := hm.payments hp
    split_ifs
    · exact hchecked
    · exact hchecked

/-- The accounts after an order was settled. -/
theorem settled_accounted {env : Deployment} {d d' : Db} (hd : d.Consistent env) (hm : d.Accounted) {paymentId orderId : Nat}
    {p : Payment} {o : Order} {transactionNo : Option String} {now : Time} (settling : Settling d paymentId p orderId o)
    (pending : o.orderStatus = .pendingPayment) (orders : d'.orders = d.orders.modify orderId (o.paidOnTime now))
    (payments : d'.payments = d.payments.modify paymentId fun row => row.succeeded p.amount transactionNo now)
    (advance : d.orders.Grows Order.Advances Order.Opened d'.orders) (afterSales : d'.afterSales = d.afterSales)
    (refunds : d'.refunds = d.refunds) : d'.Accounted := by
  obtain ⟨hof, -, hbooked, hopen⟩ := settling.attempt hd
  refine hm.after (fun i o' ho' => ?_) advance (fun j q hq => ?_) afterSales refunds
  · refine stands_modify settling.order orders (fun i hi => ?_) (settled_stands hd hm settling pending payments) ho'
    exact .succeeded payments settling.payment fun _ _ _ hi' => hi (hi'.symm.trans hof)
  · refine checked_modify hm payments (fun q hq => ?_) hq
    rw [settling.payment] at hq
    cases hq
    exact succeeded_checked hbooked hopen transactionNo now

/-- The accounts after an order was received. -/
theorem confirmed_accounted {d d' : Db} (hm : d.Accounted) {orderId : Nat} {o : Order} {now : Time}
    (row : d.orders.get? orderId = some o) (processing : o.orderStatus = .processing)
    (orders : d'.orders = d.orders.modify orderId (o.completedBy now)) (payments : d'.payments = d.payments)
    (advance : d.orders.Grows Order.Advances Order.Opened d'.orders) (afterSales : d'.afterSales = d.afterSales)
    (refunds : d'.refunds = d.refunds) : d'.Accounted := by
  refine hm.after (fun i o' ho' => ?_) advance (fun j q hq => ?_) afterSales refunds
  · exact stands_modify_kept row orders (.same payments) ⟨id, rfl, fun _ => ⟨.inl processing, rfl, rfl⟩⟩ ho'
  · rw [payments] at hq
    exact hm.payments hq

theorem Trade.accounted {env : Deployment} {terms : Terms} {s s' : Shop} (h : Trade env terms s s') (hs : s.Running env)
    (hd : s.db.Accounted) : s'.db.Accounted := by
  have hchange : Change env terms s s' := .traded h
  have hadvance := hchange.orders_advance hs.fresh
  have hclaims := h.sameClaims.afterSales
  have hrefunds := h.refunds
  cases h with
  | created created =>
    cases created with
    | mk merged unclaimed unordered window priced checked coupon stock items event =>
      obtain ⟨outbox, hd', -⟩ := event.frame
      exact created_accounted hs.consistent hd (hs.fresh _ (Nat.le_succ _)).orders checked rfl rfl (by rw [hd'])
        (by rw [hd']) hadvance hclaims hrefunds
  | claimed claimed =>
    cases claimed with
    | mk _ _ _ _ _ _ _ => exact hd.same rfl rfl rfl rfl
  | swept swept =>
    cases swept with
    | mk _ _ => exact hd.same rfl rfl rfl rfl
  | ended row pending held ending ended =>
    obtain ⟨d₁, d₂, -, -, rfl⟩ := ended.parts
    exact ended_accounted hd row ending rfl rfl hadvance rfl rfl
  | settled settling pending items coupon stock shell event =>
    obtain ⟨c₁, c₂, c₃, outbox, -, -, -, rfl⟩ := settled_parts coupon stock shell event
    exact settled_accounted hs.consistent hd settling pending rfl rfl hadvance rfl rfl
  | confirmed confirmed =>
    cases confirmed with
    | mk row processing => exact confirmed_accounted hd row processing rfl rfl hadvance rfl rfl

/-! ## Shipments -/

/-- The accounts after the fulfillment axis of an order moved. -/
theorem shipped_accounted {d d' : Db} (hm : d.Accounted) {orderId : Nat} {o : Order} (axis : FulfillmentStatus)
    (row : d.orders.get? orderId = some o)
    (orders : d'.orders = d.orders.modify orderId fun row => { row with fulfillmentStatus := axis })
    (payments : d'.payments = d.payments) (advance : d.orders.Grows Order.Advances Order.Opened d'.orders)
    (afterSales : d'.afterSales = d.afterSales) (refunds : d'.refunds = d.refunds) : d'.Accounted := by
  refine hm.after (fun i o' ho' => ?_) advance (fun j q hq => ?_) afterSales refunds
  · exact stands_modify_kept row orders (.same payments) ⟨fun h => h, rfl, fun h => ⟨h, rfl, rfl⟩⟩ ho'
  · rw [payments] at hq
    exact hm.payments hq

theorem PackageShipped.accounted {next next' : Nat} {d d' : Db} (h : PackageShipped next d next' d') (hd : d.Accounted)
    (advance : d.orders.Grows Order.Advances Order.Opened d'.orders) : d'.Accounted := by
  cases h with
  | @mk id next' f order request now axis d' found ofOrder unshipped carried kept residual =>
    obtain ⟨-, -, hframe⟩ := residual.frame
    rw [hframe] at advance ⊢
    exact shipped_accounted hd axis ofOrder rfl rfl advance rfl rfl

/-- A shipment posts no refund. -/
theorem PackageShipped.refunds {next next' : Nat} {d d' : Db} (h : PackageShipped next d next' d') :
    d'.refunds = d.refunds := by
  cases h with
  | mk found ofOrder unshipped carried kept residual =>
    obtain ⟨-, -, hframe⟩ := residual.frame
    rw [hframe]

/-- Every change of the shop keeps the accounts. -/
theorem Change.accounted {env : Deployment} {terms : Terms} {s s' : Shop} (h : Change env terms s s') (hs : s.Running env)
    (hd : s.db.Accounted) : s'.db.Accounted := by
  have hadvance := h.orders_advance hs.fresh
  cases h with
  | booked booking => exact booking.accounted hs hd
  | traded trade => exact trade.accounted hs hd
  | shipped shipped => exact shipped.accounted hd hadvance

end NovaCommerce
