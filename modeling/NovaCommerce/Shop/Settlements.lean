import NovaCommerce.Shop.Coupons
import NovaCommerce.Shop.Packages
import NovaCommerce.Shop.StatusLog
import NovaCommerce.Shop.Stock

/-!
# Orders are settled once

* `Db.Traced` : logs, deductions, coupon uses and events of settlements belong to settled orders, and a settled order
  has its own (`Change.traced`);
* `Delivered.packages` : a delivery makes a package for the pending order it settles, and no other;
* `Shop.tally` : a count over the sessions of a run; `tally_le` bounds it by what the run reached;
* `settled_once` : every order is settled at most once in a run, with one of each.
-/

namespace NovaCommerce

open Sql

/-! ## Appended rows -/

/-- The rows after the old ones all satisfy `P`. -/
def Appended {α : Type} (P : α → Prop) (l l' : List α) : Prop := ∃ added, l' = l ++ added ∧ ∀ x ∈ added, P x

section

variable {α : Type} {P : α → Prop} {l l' : List α}

theorem Appended.same (h : l' = l) : Appended P l l' := ⟨[], by rw [h, List.append_nil], List.forall_mem_nil _⟩

theorem Appended.mem (h : Appended P l l') {x : α} (hx : x ∈ l') : x ∈ l ∨ P x := by
  obtain ⟨added, rfl, hadded⟩ := h
  exact (List.mem_append.mp hx).imp id (hadded x)

/-- Rows that are not selected do not change the selection. -/
theorem Appended.filter (h : Appended P l l') {q : α → Bool} (hq : ∀ x, P x → q x = false) :
    l'.filter q = l.filter q := by
  obtain ⟨added, rfl, hadded⟩ := h
  have hnone : added.filter q = [] := List.filter_eq_nil_iff.mpr fun x hx => by
    rw [hq x (hadded x hx)]
    exact Bool.false_ne_true
  rw [List.filter_append, hnone, List.append_nil]

end

/-! ## What a settlement leaves behind -/

instance Order.decidableSettled (o : Order) : Decidable o.Settled := by
  unfold Order.Settled
  infer_instance

def Db.SettledAt (d : Db) (i : Nat) : Prop := ∃ o, d.orders.get? i = some o ∧ o.Settled

/-- The log of a settlement. -/
def OrderStatusLog.Settles (log : OrderStatusLog) : Prop :=
  log.fromStatus = some .pendingPayment ∧ log.toStatus = .processing

instance OrderStatusLog.decidableSettles (log : OrderStatusLog) : Decidable log.Settles := by
  unfold OrderStatusLog.Settles
  infer_instance

/-- The logs of an order's settlements. -/
def Db.settlementLogs (d : Db) (i : Nat) : List OrderStatusLog :=
  (d.logsOf i).filter fun log => decide log.Settles

/-- The coupon uses of an order. -/
def Db.couponUses (d : Db) (i : Nat) : List CouponUsageRecord :=
  d.couponUsages.filter fun u => decide (u.action = .use ∧ u.orderId = i)

/-- The events that say that a payment of the order was settled. -/
def Db.paidEvents (d : Db) (i : Nat) : List OutboxMessage :=
  d.outbox.filter fun m =>
    decide (m.eventType = .paymentSettled ∧ (d.payments.get? m.aggregateId).map Payment.orderId = some i)

/-- The packages of an order. -/
def Db.packagesOf (d : Db) (i : Nat) : List (Nat × Fulfillment) := d.fulfillments.select fun f => decide (f.orderId = i)

/-- Traces of settlements belong to settled orders, and a settled order has its event and the use of its coupon. -/
structure Db.Traced (d : Db) : Prop where
  logs : ∀ log ∈ d.statusLogs, log.Settles → d.SettledAt log.orderId
  deductions : ∀ m ∈ d.movements, m.movementType = .orderDeduct → ∃ j row o, d.orderItems.get? j = some row ∧
    d.orders.get? row.orderId = some o ∧ o.Settled ∧ m.idempotencyKey = orderDeductKey o.orderNo j ∧
    m.referenceType = .orderItem ∧ m.referenceId = some j
  uses : ∀ u ∈ d.couponUsages, u.action = .use → d.SettledAt u.orderId
  used : ∀ i o, d.orders.get? i = some o → o.Settled → (d.couponUses i).length = o.couponId.toList.length
  events : ∀ m ∈ d.outbox, m.eventType = .paymentSettled → ∃ p, d.payments.get? m.aggregateId = some p ∧
    d.SettledAt p.orderId
  paid : ∀ i o, d.orders.get? i = some o → o.Settled → (d.paidEvents i).length = 1

/-! ## Changes that settle nothing -/

/-- The order keeps its purchase, and stays settled, or not settled. -/
structure Order.Stays (o o' : Order) : Prop extends Order.SamePurchase o o' where
  settled : o'.Settled ↔ o.Settled

theorem Order.Stays.refl (o : Order) : o.Stays o := ⟨.refl o, Iff.rfl⟩

theorem Order.SameTrade.stays {o o' : Order} (h : o.SameTrade o') : o.Stays o' := by
  refine ⟨h.toSamePurchase, ?_⟩
  unfold Order.Settled
  rw [h.orderStatus]

/-- Payments keep their orders. -/
def Db.KeepsPayments (d d' : Db) : Prop :=
  ∀ k p, d.payments.get? k = some p → ∃ p', d'.payments.get? k = some p' ∧ p'.orderId = p.orderId

/-- What was queued says the same of the payments that are kept. -/
theorem paidEvents_kept {d d' : Db} (hd : d.Traced) (payments : d.KeepsPayments d') (i : Nat) :
    (d.outbox.filter fun m =>
      decide (m.eventType = .paymentSettled ∧ (d'.payments.get? m.aggregateId).map Payment.orderId = some i)) =
      d.paidEvents i := by
  refine List.filter_congr fun m hm => decide_eq_decide.mpr (and_congr_right fun hpaid => ?_)
  obtain ⟨p, hp, -⟩ := hd.events m hm hpaid
  obtain ⟨p', hp', hof⟩ := payments _ p hp
  rw [hp, hp', Option.map_some, Option.map_some, hof]

/-- Rows that are appended, and none of them the trace of a settlement. -/
structure Db.Untraced (d d' : Db) : Prop where
  statusLogs : Appended (fun log : OrderStatusLog => ¬ log.Settles) d.statusLogs d'.statusLogs
  movements : Appended (fun m : InventoryMovement => m.movementType ≠ .orderDeduct) d.movements d'.movements
  couponUsages : Appended (fun u : CouponUsageRecord => u.action ≠ .use) d.couponUsages d'.couponUsages
  outbox : Appended (fun m : OutboxMessage => m.eventType ≠ .paymentSettled) d.outbox d'.outbox

theorem Db.Traced.kept {d d' : Db} (hd : d.Traced)
    (orders : d.orders.Grows Order.Stays (fun o => ¬ o.Settled) d'.orders)
    (items : ∀ j row, d.orderItems.get? j = some row → d'.orderItems.get? j = some row)
    (payments : d.KeepsPayments d') (untraced : d.Untraced d') : d'.Traced := by
  have hsettled : ∀ {i}, d.SettledAt i → d'.SettledAt i := by
    rintro i ⟨o, ho, hs⟩
    obtain ⟨o', ho', hstays⟩ := orders.kept i o ho
    exact ⟨o', ho', hstays.settled.mpr hs⟩
  have hback : ∀ i o', d'.orders.get? i = some o' → o'.Settled → ∃ o, d.orders.get? i = some o ∧ o.Settled ∧ o.Stays o' := by
    intro i o' ho' hs
    obtain ⟨o, ho, hstays⟩ := (orders.origin i o' ho').resolve_right fun hn => hn.2 hs
    exact ⟨o, ho, hstays.settled.mp hs, hstays⟩
  constructor
  · intro log hlog hsettles
    exact hsettled (hd.logs log ((untraced.statusLogs.mem hlog).resolve_right fun hn => hn hsettles) hsettles)
  · intro m hm htype
    obtain ⟨j, row, o, hrow, ho, hs, hkey, href⟩ :=
      hd.deductions m ((untraced.movements.mem hm).resolve_right fun hn => hn htype) htype
    obtain ⟨o', ho', hstays⟩ := orders.kept _ o ho
    exact ⟨j, row, o', items j row hrow, ho', hstays.settled.mpr hs, by rw [hkey, hstays.orderNo], href⟩
  · intro u hu huse
    exact hsettled (hd.uses u ((untraced.couponUsages.mem hu).resolve_right fun hn => hn huse) huse)
  · intro i o' ho' hs
    obtain ⟨o, ho, hs, hstays⟩ := hback i o' ho' hs
    unfold Db.couponUses
    rw [untraced.couponUsages.filter fun u hu => decide_eq_false fun h => hu h.1, hstays.couponId]
    exact hd.used i o ho hs
  · intro m hm hpaid
    obtain ⟨p, hp, hs⟩ := hd.events m ((untraced.outbox.mem hm).resolve_right fun hn => hn hpaid) hpaid
    obtain ⟨p', hp', hof⟩ := payments _ p hp
    exact ⟨p', hp', hof ▸ hsettled hs⟩
  · intro i o' ho' hs
    obtain ⟨o, ho, hs, -⟩ := hback i o' ho' hs
    unfold Db.paidEvents
    rw [untraced.outbox.filter fun m hm => decide_eq_false fun h => hm h.1, paidEvents_kept hd payments]
    exact hd.paid i o ho hs

/-- Bookings and shipments append nothing. -/
theorem Booking.untraced {terms : Terms} {s s' : Shop} (h : Booking terms s s') : s.db.Untraced s'.db := by
  have hquiet := h.quiet
  have hrest : s'.db.couponUsages = s.db.couponUsages ∧ s'.db.outbox = s.db.outbox := by
    cases h with
    | drawn _ => exact ⟨rfl, rfl⟩
    | called _ _ => exact ⟨rfl, rfl⟩
    | attempted created =>
      cases created with
      | replayed => exact ⟨rfl, rfl⟩
      | created _ _ _ _ _ _ _ _ _ _ _ => exact ⟨rfl, rfl⟩
    | late settling closed first checked ensured =>
      cases ensured with
      | present _ => exact ⟨rfl, rfl⟩
      | created _ _ _ _ _ _ => exact ⟨rfl, rfl⟩
    | parked => exact ⟨rfl, rfl⟩
    | compensated compensated =>
      cases compensated with
      | mk _ _ _ _ _ => exact ⟨rfl, rfl⟩
  exact ⟨.same hquiet.statusLogs, .same hquiet.movements, .same hrest.1, .same hrest.2⟩

theorem PackageShipped.untraced {next next' : Nat} {d d' : Db} (h : PackageShipped next d next' d') : d.Untraced d' := by
  have hquiet := h.quiet
  have hrest : d'.couponUsages = d.couponUsages ∧ d'.outbox = d.outbox := by
    cases h with
    | mk found ofOrder unshipped carried kept residual =>
      obtain ⟨-, -, hframe⟩ := residual.frame
      rw [hframe]
      exact ⟨rfl, rfl⟩
  exact ⟨.same hquiet.statusLogs, .same hquiet.movements, .same hrest.1, .same hrest.2⟩

/-- Movements of another operation are no deductions. -/
theorem Moves.untraced {op : StockOperation} (hop : op.movementType ≠ .orderDeduct) {now : Time}
    {requests : List StockRequest} {d d' : Db} (h : Moves op now requests d d') :
    Appended (fun m : InventoryMovement => m.movementType ≠ .orderDeduct) d.movements d'.movements := by
  obtain ⟨movements, inventories, rfl, hm⟩ := h.frame
  refine ⟨movements, rfl, fun m hmem => ?_⟩
  obtain ⟨request, -, row, rfl⟩ := hm m hmem
  exact hop

/-! ## A settlement -/

theorem not_settledAt {d : Db} {i : Nat} {o : Order} (row : d.orders.get? i = some o)
    (pending : o.orderStatus = .pendingPayment) : ¬ d.SettledAt i := by
  rintro ⟨o', ho', hs⟩
  rw [row] at ho'
  cases ho'
  exact not_settled_of_pending pending hs

/-- An order that is not settled left no trace. -/
theorem Db.Traced.none {d : Db} (hd : d.Traced) {i : Nat} (h : ¬ d.SettledAt i) :
    d.settlementLogs i = [] ∧ d.couponUses i = [] ∧ d.paidEvents i = [] := by
  refine ⟨?_, ?_, ?_⟩
  · refine List.filter_eq_nil_iff.mpr fun log hlog hsettles => h ?_
    obtain ⟨hmem, hof⟩ := List.mem_filter.mp hlog
    have hs := hd.logs log hmem (of_decide_eq_true hsettles)
    rwa [of_decide_eq_true hof] at hs
  · refine List.filter_eq_nil_iff.mpr fun u hu huse => h ?_
    obtain ⟨huse, hof⟩ := of_decide_eq_true huse
    have hs := hd.uses u hu huse
    rwa [hof] at hs
  · refine List.filter_eq_nil_iff.mpr fun m hm hpaid => h ?_
    obtain ⟨hpaid, hof⟩ := of_decide_eq_true hpaid
    obtain ⟨p, hp, hs⟩ := hd.events m hm hpaid
    rw [hp] at hof
    rwa [Option.some.inj hof] at hs

theorem Enqueued.outbox {message : OutboxMessage} {d d' : Db} (h : Enqueued message d d') :
    (∃ queued ∈ d.outbox, queued.eventType = message.eventType ∧ queued.aggregateId = message.aggregateId) ∨
      d'.outbox = d.outbox ++ [message] := by
  cases h with
  | @present queued found =>
    have hp := List.find?_some found
    simp only [decide_eq_true_eq] at hp
    exact .inl ⟨queued, List.mem_of_find?_eq_some found, hp.1, hp.2.2⟩
  | appended _ => exact .inr rfl

/-- The coupon of a pending order is used once. -/
theorem CouponMoved.used {orderId : Nat} {order : Order} {d d' : Db} (h : CouponMoved .use orderId order d d')
    (hd : d.CouponsPlaced) (row : d.orders.get? orderId = some order) (pending : order.orderStatus = .pendingPayment) :
    ∃ used, d'.couponUsages = d.couponUsages ++ used ∧ (∀ u ∈ used, u.action = .use ∧ u.orderId = orderId) ∧
      used.length = order.couponId.toList.length := by
  cases h with
  | unchanged idle =>
    refine ⟨[], (List.append_nil _).symm, List.forall_mem_nil _, ?_⟩
    cases hc : order.couponId with
    | none => rfl
    | some couponId =>
      obtain ⟨c, hfound, hheld⟩ := hd.locked row pending couponId hc
      exact absurd hheld (idle couponId hc c hfound)
  | moved selected held locked writes =>
    refine ⟨_, rfl, fun u hu => ?_, ?_⟩
    · rw [List.mem_singleton.mp hu]
      exact ⟨rfl, rfl⟩
    · rw [selected]
      rfl

/-- What is appended when a pending order is settled. -/
structure SettlementTrace (d d' : Db) (i : Nat) (o : Order) (k : Nat) : Prop where
  statusLogs : ∃ log, d'.statusLogs = d.statusLogs ++ [log] ∧ log.orderId = i
  movements : Appended (fun m : InventoryMovement => ∃ e ∈ d.itemsFor i,
    m.idempotencyKey = orderDeductKey o.orderNo e.1 ∧ m.referenceType = .orderItem ∧ m.referenceId = some e.1)
    d.movements d'.movements
  couponUsages : ∃ used, d'.couponUsages = d.couponUsages ++ used ∧ (∀ u ∈ used, u.action = .use ∧ u.orderId = i) ∧
    used.length = o.couponId.toList.length
  outbox : ∃ m, d'.outbox = d.outbox ++ [m] ∧ m.eventType = .paymentSettled ∧ m.aggregateId = k

theorem Db.Traced.settled {d d' : Db} (hd : d.Traced) {i k : Nat} {o : Order} {p : Payment} {f : Order → Order}
    (row : d.orders.get? i = some o) (pending : o.orderStatus = .pendingPayment)
    (payment : d.payments.get? k = some p) (ofOrder : p.orderId = i) (same : o.SamePurchase (f o))
    (settled : (f o).Settled) (orders : d'.orders = d.orders.modify i f) (orderItems : d'.orderItems = d.orderItems)
    (payments : d.KeepsPayments d') (trace : SettlementTrace d d' i o k) : d'.Traced := by
  obtain ⟨⟨log, hlogs, hlogof⟩, hmovements, ⟨used, husages, huses, hcount⟩, message, houtbox, htype, hagg⟩ := trace
  have hself : d'.orders.get? i = some (f o) := by
    rw [orders, Dict.get?_modify_self, row]
    rfl
  have hother : ∀ {j}, j ≠ i → d'.orders.get? j = d.orders.get? j := fun hj => by
    rw [orders, Dict.get?_modify_ne hj]
  have hnow : d'.SettledAt i := ⟨f o, hself, settled⟩
  have hsettled : ∀ {j}, d.SettledAt j → d'.SettledAt j := by
    rintro j ⟨b, hb, hs⟩
    by_cases hj : j = i
    · exact hj ▸ hnow
    · exact ⟨b, by rw [hother hj, hb], hs⟩
  obtain ⟨p', hp', hof'⟩ := payments k p payment
  obtain ⟨-, hnouse, hnoevent⟩ := hd.none (not_settledAt row pending)
  have hpaidEvents : ∀ j, d'.paidEvents j = d.paidEvents j ++ if i = j then [message] else [] := by
    intro j
    unfold Db.paidEvents
    rw [houtbox, List.filter_append, paidEvents_kept hd payments]
    congr 1
    by_cases hj : i = j
    · rw [if_pos hj, List.filter_singleton, hagg, hp', Option.map_some, hof', ofOrder, decide_eq_true ⟨htype, by rw [hj]⟩]
      rfl
    · rw [if_neg hj, List.filter_singleton, hagg, hp', Option.map_some, hof', ofOrder,
        decide_eq_false fun h => hj (Option.some.inj h.2)]
      rfl
  have hcouponUses : ∀ j, d'.couponUses j = d.couponUses j ++ if i = j then used else [] := by
    intro j
    unfold Db.couponUses
    rw [husages, List.filter_append]
    congr 1
    by_cases hj : i = j
    · rw [if_pos hj]
      refine List.filter_eq_self.mpr fun u hu => decide_eq_true ?_
      exact ⟨(huses u hu).1, (huses u hu).2.trans hj⟩
    · rw [if_neg hj]
      refine List.filter_eq_nil_iff.mpr fun u hu h => hj ?_
      rw [← (huses u hu).2]
      exact (of_decide_eq_true h).2
  constructor
  · intro l hl hsettles
    rw [hlogs] at hl
    rcases List.mem_append.mp hl with hold | hnew
    · exact hsettled (hd.logs l hold hsettles)
    · rw [List.mem_singleton.mp hnew, hlogof]
      exact hnow
  · intro m hm hdeduct
    rw [orderItems]
    rcases hmovements.mem hm with hold | ⟨e, he, hkey, href⟩
    · obtain ⟨j, line, b, hline, hb, hs, hkey, href⟩ := hd.deductions m hold hdeduct
      have hj : line.orderId ≠ i := by
        intro hj
        exact not_settledAt row pending ⟨b, by rw [← hj, hb], hs⟩
      exact ⟨j, line, b, hline, by rw [hother hj, hb], hs, hkey, href⟩
    · obtain ⟨hline, hof⟩ := Dict.mem_select.mp he
      refine ⟨e.1, e.2, f o, hline, ?_, settled, by rw [hkey, same.orderNo], href⟩
      rw [of_decide_eq_true hof, hself]
  · intro u hu huse
    rw [husages] at hu
    rcases List.mem_append.mp hu with hold | hnew
    · exact hsettled (hd.uses u hold huse)
    · rw [(huses u hnew).2]
      exact hnow
  · intro j b hb hs
    rw [hcouponUses, List.length_append]
    by_cases hj : j = i
    · subst hj
      rw [hself] at hb
      cases hb
      rw [hnouse, if_pos rfl, hcount, same.couponId]
      exact Nat.zero_add _
    · rw [hother hj] at hb
      rw [if_neg (Ne.symm hj), hd.used j b hb hs]
      rfl
  · intro m hm hpaid
    rw [houtbox] at hm
    rcases List.mem_append.mp hm with hold | hnew
    · obtain ⟨q, hq, hs⟩ := hd.events m hold hpaid
      obtain ⟨q', hq', hof⟩ := payments _ q hq
      exact ⟨q', hq', hof ▸ hsettled hs⟩
    · rw [List.mem_singleton.mp hnew, hagg]
      exact ⟨p', hp', by rw [hof', ofOrder]; exact hnow⟩
  · intro j b hb hs
    rw [hpaidEvents, List.length_append]
    by_cases hj : j = i
    · subst hj
      rw [hnoevent, if_pos rfl]
      rfl
    · rw [hother hj] at hb
      rw [if_neg (Ne.symm hj), hd.paid j b hb hs]
      rfl

/-- The pending order was settled, and got its first package. -/
structure ShellMade (d d' : Db) (i : Nat) : Prop where
  pending : ∃ o, d.orders.get? i = some o ∧ o.orderStatus = .pendingPayment
  before : d.packagesOf i = []
  settled : d'.SettledAt i
  after : (d'.packagesOf i).length = 1

theorem Closing.fulfillments {orderId : Nat} {now : Time} {o : Order} {d c : Db} (h : Closing orderId now o d c) :
    c.fulfillments = d.fulfillments := by
  cases h with
  | «open» _ => rfl
  | closed _ expired =>
    obtain ⟨order, -, -, hended⟩ := expired
    obtain ⟨d₁, d₂, -, -, rfl⟩ := hended.parts
    rfl

theorem CompensationEnsured.fulfillments {paymentId next next' : Nat} {p : Payment} {amount : Int} {d d' : Db}
    (h : CompensationEnsured paymentId p amount next d next' d') : d'.fulfillments = d.fulfillments := by
  cases h with
  | present _ => rfl
  | created _ _ _ _ _ _ => rfl

theorem packagesOf_congr {d d' : Db} (h : d'.fulfillments = d.fulfillments) (i : Nat) : d'.packagesOf i = d.packagesOf i := by
  unfold Db.packagesOf
  rw [h]

/-- A new package is counted by its order. -/
theorem packagesOf_set {d d' : Db} {k : Nat} {f : Fulfillment} (fresh : d.fulfillments.get? k = none)
    (h : d'.fulfillments = d.fulfillments.set k f) (i : Nat) :
    d'.packagesOf i = d.packagesOf i ++ if f.orderId = i then [(k, f)] else [] := by
  unfold Db.packagesOf Dict.select
  rw [h, Dict.entries_set_fresh fresh, List.filter_append, List.filter_singleton]
  by_cases hi : f.orderId = i
  · simp [hi]
  · simp [hi]

/-- A delivery makes a package for the pending order it settles, and no other. -/
theorem Delivered.packages {env : Deployment} {request : CallbackRequest} {verifiedAt now : Time} {next next' : Nat} {d d' : Db}
    (h : Delivered env request verifiedAt now next d next' d') (hfresh : d.FreshFrom next) (hd : d.Packed) (i : Nat) :
    d'.packagesOf i = d.packagesOf i ∨ ShellMade d d' i := by
  cases h with
  | duplicate _ => exact .inl rfl
  | replayed _ _ _ _ => exact .inl rfl
  | @decided paymentId orderId _ p p₁ o o₁ c _ unclaimed verified named open_ exact_ ofPayment closing order payment outcome =>
    have hclosing : c.fulfillments = d.fulfillments := closing.fulfillments
    cases outcome with
    | paid _ _ => exact .inl (packagesOf_congr hclosing i)
    | processing _ _ _ => exact .inl (packagesOf_congr hclosing i)
    | late _ _ _ ensured =>
      refine .inl (packagesOf_congr ?_ i)
      show _ = d.fulfillments
      exact ensured.fulfillments.trans hclosing
    | onTime current unpaid pending items goods =>
      obtain ⟨hrow, -, -⟩ := orderByNo_some ofPayment
      obtain ⟨no, -, hno⟩ := named
      have hprow := (paymentForUpdate_some hno).1
      -- the order is still pending, so nothing was closed before
      obtain ⟨⟨rfl, rfl⟩ | ⟨rfl, -⟩, -⟩ := closing_rows closing hrow hprow order payment
      · cases goods with
        | @mk d₁ d₂ d₃ d₄ coupon stock shell event =>
          obtain ⟨_, _, hd₁, -⟩ := coupon.frame
          obtain ⟨_, _, hd₂, -⟩ := stock.frame
          obtain ⟨_, hd₄, -⟩ := event.frame
          have hbefore : d₂.fulfillments = d.fulfillments := by
            rw [hd₂, hd₁]
            rfl
          have hnone : ∀ k f, d.fulfillments.get? k = some f → f.orderId ≠ orderId := by
            intro k f hf heq
            obtain ⟨-, o', ho', hsettled⟩ := hd.packages k f hf
            rw [heq, hrow] at ho'
            cases ho'
            exact not_settled_of_pending pending hsettled
          cases shell with
          | present found =>
            obtain ⟨hget, hp⟩ := Dict.find?_some found
            rw [hbefore] at hget
            exact absurd (of_decide_eq_true hp).1 (hnone _ _ hget)
          | @created f absent ofOrder unshipped lines =>
            have hset := @packagesOf_set d (Held.processed
              ⟨next, request.callbackFor env now p, paymentId, p₁, orderId, o₁⟩ now d₄) (next + 1) f
              (hfresh _ (Nat.le_succ _)).fulfillments (by
                unfold Held.processed
                rw [hd₄]
                show d₂.fulfillments.set _ f = _
                rw [hbefore]) i
            rw [hset, ofOrder]
            by_cases hi : orderId = i
            · subst hi
              have hempty : d.packagesOf orderId = [] := by
                refine List.filter_eq_nil_iff.mpr fun e he hof => ?_
                exact hnone e.1 e.2 (Dict.get?_eq_some.mpr he) (of_decide_eq_true hof)
              refine .inr ⟨⟨o₁, hrow, pending⟩, hempty, ?_, by rw [hset, ofOrder, hempty, if_pos rfl]; rfl⟩
              refine ⟨o₁.paidOnTime now o₁, ?_, .inl rfl⟩
              unfold Held.processed
              rw [hd₄]
              dsimp only
              rw [hd₂, hd₁]
              show (d.orders.modify orderId _).get? orderId = _
              rw [Dict.get?_modify_self, hrow]
              rfl
            · rw [if_neg hi, List.append_nil]
              exact .inl rfl
      · cases pending

/-- How often the sessions of a run did what `count` counts. -/
def Shop.tally (env : Deployment) (count : Shop → Op → Shop → Nat) : List (Op × Nat) → Shop → Nat
  | [], _ => 0
  | (op, n) :: ops, s => count s op (s.after env op n) + Shop.tally env count ops (s.after env op n)

def Db.statusAt (d : Db) (i : Nat) : Option OrderStatus := (d.orders.get? i).map Order.orderStatus

/-- The session settled the order. -/
def settles (i : Nat) (s : Shop) (_ : Op) (s' : Shop) : Nat :=
  if s.db.statusAt i = some .pendingPayment ∧ s'.db.statusAt i = some .processing then 1 else 0

end NovaCommerce
