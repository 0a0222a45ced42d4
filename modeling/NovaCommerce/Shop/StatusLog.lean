import NovaCommerce.Shop.Consistency
import NovaCommerce.Shop.Refusals

/-!
# The status log of an order

* `StatusPath` : a log is a path of the transition table, from a new order to a status;
* `Db.Logged` : every order's log is a path to its status (`Change.logged`);
* `statusLogs_faithful` : so it is after every run, and a refused session adds nothing.
-/

namespace NovaCommerce

open Sql

/-- A path of `ORDER_STATUS_TRANSITIONS`, from a new order to a status. -/
inductive StatusPath : List OrderStatusLog → OrderStatus → Prop where
  | created {log : OrderStatusLog} (first : log.fromStatus = none) (target : log.toStatus = .pendingPayment) :
      StatusPath [log] .pendingPayment
  | moved {logs : List OrderStatusLog} {log : OrderStatusLog} {status : OrderStatus} (path : StatusPath logs status)
      (source : log.fromStatus = some status) (edge : log.toStatus ∈ status.transitions) :
      StatusPath (logs ++ [log]) log.toStatus

/-- The log of an order, oldest first. -/
def Db.logsOf (d : Db) (orderId : Nat) : List OrderStatusLog :=
  d.statusLogs.filter fun log => decide (log.orderId = orderId)

/-- Every log names an order, and an order's log is a path to its status. -/
structure Db.Logged (d : Db) : Prop where
  named : ∀ log ∈ d.statusLogs, ∃ o, d.orders.get? log.orderId = some o
  paths : ∀ i o, d.orders.get? i = some o → StatusPath (d.logsOf i) o.orderStatus

theorem logsOf_append {d d' : Db} {log : OrderStatusLog} (h : d'.statusLogs = d.statusLogs ++ [log]) (i : Nat) :
    d'.logsOf i = if log.orderId = i then d.logsOf i ++ [log] else d.logsOf i := by
  unfold Db.logsOf
  rw [h, List.filter_append]
  split_ifs with hi
  · simp [hi]
  · simp [hi]

/-- Orders that keep their status, with no log written. -/
theorem Db.Logged.quiet {d d' : Db} (hd : d.Logged) (h : d.Quiet d') : d'.Logged where
  named log hlog := by
    rw [h.statusLogs] at hlog
    obtain ⟨o, ho⟩ := hd.named log hlog
    obtain ⟨o', ho', -⟩ := h.orders.kept _ o ho
    exact ⟨o', ho'⟩
  paths i o' ho' := by
    obtain ⟨o, ho, hsame⟩ := (h.orders.origin i o' ho').resolve_right fun hn => hn.2
    have hlogs : d'.logsOf i = d.logsOf i := by
      unfold Db.logsOf
      rw [h.statusLogs]
    rw [hlogs, hsame.orderStatus]
    exact hd.paths i o ho

/-- A transition of one order, with its log. -/
theorem Db.Logged.moved {d d' : Db} (hd : d.Logged) {orderId : Nat} {order : Order} {f : Order → Order}
    (log : OrderStatusLog) (row : d.orders.get? orderId = some order) (named : log.orderId = orderId)
    (source : log.fromStatus = some order.orderStatus) (edge : log.toStatus ∈ order.orderStatus.transitions)
    (target : (f order).orderStatus = log.toStatus) (orders : d'.orders = d.orders.modify orderId f)
    (logs : d'.statusLogs = d.statusLogs ++ [log]) : d'.Logged where
  named log' hlog' := by
    rw [orders, Dict.get?_modify]
    rw [logs, List.mem_append, List.mem_singleton] at hlog'
    rcases hlog' with hold | rfl
    · obtain ⟨o, ho⟩ := hd.named log' hold
      rw [ho]
      split_ifs
      · exact ⟨f o, rfl⟩
      · exact ⟨o, rfl⟩
    · rw [named, if_pos rfl, row]
      exact ⟨f order, rfl⟩
  paths i o' ho' := by
    rw [logsOf_append logs, named]
    rw [orders, Dict.get?_modify] at ho'
    by_cases hi : orderId = i
    · subst hi
      rw [if_pos rfl, row] at ho'
      cases ho'
      rw [if_pos rfl, target]
      exact .moved (hd.paths orderId order row) source edge
    · rw [if_neg (Ne.symm hi)] at ho'
      rw [if_neg hi]
      exact hd.paths i o' ho'

/-- A new order, with its log. -/
theorem Db.Logged.created {d d' : Db} (hd : d.Logged) {orderId : Nat} {order : Order} {log : OrderStatusLog}
    (fresh : d.orders.get? orderId = none) (named : log.orderId = orderId) (source : log.fromStatus = none)
    (target : log.toStatus = .pendingPayment) (status : order.orderStatus = .pendingPayment)
    (orders : d'.orders = d.orders.set orderId order) (logs : d'.statusLogs = d.statusLogs ++ [log]) :
    d'.Logged where
  named log' hlog' := by
    rw [orders]
    rw [logs, List.mem_append, List.mem_singleton] at hlog'
    rcases hlog' with hold | rfl
    · obtain ⟨o, ho⟩ := hd.named log' hold
      have hne : log'.orderId ≠ orderId := by
        rintro heq
        rw [heq, fresh] at ho
        cases ho
      rw [Dict.get?_set_ne hne]
      exact ⟨o, ho⟩
    · rw [named, Dict.get?_set_self]
      exact ⟨order, rfl⟩
  paths i o' ho' := by
    rw [logsOf_append logs, named]
    rw [orders] at ho'
    by_cases hi : orderId = i
    · subst hi
      rw [Dict.get?_set_self] at ho'
      cases ho'
      have hnone : d.logsOf orderId = [] := by
        rw [Db.logsOf, List.filter_eq_nil_iff]
        intro log' hlog' heq
        obtain ⟨o, ho⟩ := hd.named log' hlog'
        rw [of_decide_eq_true heq, fresh] at ho
        cases ho
      rw [if_pos rfl, hnone, List.nil_append, status]
      exact .created source target
    · rw [Dict.get?_set_ne (Ne.symm hi)] at ho'
      rw [if_neg hi]
      exact hd.paths i o' ho'

/-- How an order that ends is logged. -/
theorem Ending.logged {terms : Terms} {orderId : Nat} {order : Order} {write : Order → Order} {log : OrderStatusLog}
    (h : Ending terms orderId order write log) :
    log.orderId = orderId ∧ log.fromStatus = some .pendingPayment ∧
      log.toStatus ∈ OrderStatus.pendingPayment.transitions ∧ (write order).orderStatus = log.toStatus := by
  cases h with
  | cancelled principal reason now unpaying => exact ⟨rfl, rfl, by show OrderStatus.cancelled ∈ _; decide, rfl⟩
  | expired now unpaid => exact ⟨rfl, rfl, by show OrderStatus.closed ∈ _; decide, rfl⟩

theorem Trade.logged {env : Deployment} {terms : Terms} {s s' : Shop} (h : Trade env terms s s')
    (hfresh : s.db.FreshFrom s.next) (hd : s.db.Logged) : s'.db.Logged := by
  cases h with
  | created created =>
    cases created with
    | mk merged unclaimed unordered window priced checked coupon stock items event =>
      obtain ⟨outbox, hframe, -⟩ := event.frame
      dsimp only
      rw [hframe]
      exact hd.created (hfresh (s.next + 1) (Nat.le_succ _)).orders rfl rfl rfl rfl rfl rfl
  | claimed claimed =>
    cases claimed with
    | mk _ _ _ _ _ _ _ => exact ⟨hd.named, hd.paths⟩
  | swept swept =>
    cases swept with
    | mk _ _ => exact ⟨hd.named, hd.paths⟩
  | ended row pending held ending ended =>
    obtain ⟨d₁, d₂, -, -, rfl⟩ := ended.parts
    obtain ⟨hnamed, hsource, hedge, htarget⟩ := ending.logged
    exact hd.moved _ row hnamed (by rw [pending, hsource]) (by rwa [pending]) htarget rfl rfl
  | settled settling pending items coupon stock shell event =>
    obtain ⟨c₁, c₂, c₃, outbox, -, -, -, rfl⟩ := settled_parts coupon stock shell event
    refine hd.moved (settlementLog _ _) settling.order rfl ?_ ?_ rfl rfl rfl
    · rw [pending]
      rfl
    · rw [pending]
      show OrderStatus.processing ∈ _
      decide
  | confirmed confirmed =>
    cases confirmed with
    | @mk principal orderId order now row processing =>
      refine hd.moved (receiptLog principal orderId order) row rfl ?_ ?_ rfl rfl rfl
      · rw [processing]
        rfl
      · rw [processing]
        show OrderStatus.completed ∈ _
        decide

theorem Change.logged {env : Deployment} {terms : Terms} {s s' : Shop} (h : Change env terms s s')
    (hfresh : s.db.FreshFrom s.next) (hd : s.db.Logged) : s'.db.Logged := by
  cases h with
  | booked booking => exact hd.quiet booking.quiet
  | traded trade => exact trade.logged hfresh hd
  | shipped shipped => exact hd.quiet shipped.quiet

/-- After every run an order's log is a path of the transition table from a new order to its status, and
a session that is refused, or finds nothing to close, changes no order and no log. -/
theorem statusLogs_faithful {env : Deployment} {s : Shop} (h : s.Opening) (ops : List (Op × Nat)) :
    (∀ i o, (s.run env ops).db.orders.get? i = some o → StatusPath ((s.run env ops).db.logsOf i) o.orderStatus) ∧
    (∀ (op : Op) x e', op.Refused env (Exec.start (s.run env ops).db (s.run env ops).next) x e' →
      e'.committed.orders = (s.run env ops).db.orders ∧ e'.committed.statusLogs = (s.run env ops).db.statusLogs) ∧
    ∀ orderId now e', (expireOrder orderId now).run (Exec.start (s.run env ops).db (s.run env ops).next) =
      (.ok false, e') → e'.committed = (s.run env ops).db := by
  have hrun : (s.run env ops).db.FreshFrom (s.run env ops).next ∧ (s.run env ops).db.Logged := by
    refine run_keeps (I := fun s => s.db.FreshFrom s.next ∧ s.db.Logged)
      (fun s s' hchange hs => ⟨hchange.fresh hs.1, hchange.logged hs.1 hs.2⟩) ⟨h.fresh, ?_, ?_⟩ ops
    · intro log hlog
      rw [h.statusLogs] at hlog
      cases hlog
    · intro i o ho
      rw [h.orders] at ho
      cases ho
  refine ⟨hrun.2.paths, fun op x e' hrefused => ?_, fun orderId now e' hclosed => ?_⟩
  · rw [refused_leaves hrefused]
    exact ⟨rfl, rfl⟩
  · unfold expireOrder at hclosed
    rw [run_transaction_eq_ok] at hclosed
    obtain ⟨e₁, hclosed, rfl⟩ := hclosed
    rcases closeExpiredOrder_eq_ok hclosed with ⟨-, rfl, -⟩ | ⟨htrue, -⟩
    · rfl
    · cases htrue

/-- An order of the small shop that is cancelled. -/
theorem statusLogs_faithful_cancelled :
    let run := sampleShop.run sampleDeployment [(.createOrder sampleCustomer sampleCups sampleNoon, 1000),
      (.cancel sampleCustomer "NV20240101000011" none sampleNoon, 1000)]
    (∀ i o, run.db.orders.get? i = some o → StatusPath (run.db.logsOf i) o.orderStatus) ∧
    (∀ (op : Op) x e', op.Refused sampleDeployment (Exec.start run.db run.next) x e' →
      e'.committed.orders = run.db.orders ∧ e'.committed.statusLogs = run.db.statusLogs) ∧
    ∀ orderId now e', (expireOrder orderId now).run (Exec.start run.db run.next) = (.ok false, e') →
      e'.committed = run.db :=
  statusLogs_faithful sampleShop_opening _

end NovaCommerce
