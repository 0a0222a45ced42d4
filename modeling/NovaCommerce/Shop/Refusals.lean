import NovaCommerce.Shop.Runs

/-!
# Sessions that are refused

* `Op.Refused` : a session, with no other in between, ends in an exception;
* `refused_leaves` : it leaves the database it found, and the row of a callback that was refused.
-/

namespace NovaCommerce

open Sql

/-- The session ends in the exception `x` and leaves `e'`. -/
def Op.Refused (env : Deployment) (op : Op) (e : Exec Db) (x : AppError) (e' : Exec Db) : Prop :=
  match op with
  | .createOrder principal request now => (NovaCommerce.createOrder env principal request now).run e = (.error x, e')
  | .claimCoupon principal templateId now =>
    (NovaCommerce.claimCoupon principal templateId now).run e = (.error x, e')
  | .expireCoupons now limit lockedElsewhere => (expireDueCoupons now limit lockedElsewhere).run e = (.error x, e')
  | .createPayment principal request now =>
    (NovaCommerce.createPayment env principal request now).run e = (.error x, e')
  | .cancel principal orderNo reason now =>
    (NovaCommerce.cancel principal orderNo reason now).run e = (.error x, e')
  | .expire orderId now => (expireOrder orderId now).run e = (.error x, e')
  | .receive delivery t => (receiveCallback env delivery t).run e = (.error x, e')
  | .ship principal id carrier trackingNo lines now =>
    (NovaCommerce.ship env principal id carrier trackingNo lines now).run e = (.error x, e')
  | .confirmReceipt principal orderNo now =>
    (NovaCommerce.confirmReceipt principal orderNo now).run e = (.error x, e')
  | .dispatchCompensation id => (NovaCommerce.dispatchCompensation id).run e = (.error x, e')
  | .settleCompensation id providerRefundNo =>
    (NovaCommerce.settleCompensation id providerRefundNo).run e = (.error x, e')
  | .failCompensation id errorType => (NovaCommerce.failCompensation id errorType).run e = (.error x, e')

/-- A refused create leaves what it found. -/
theorem createOrder_refuses (env : Deployment) (principal : Principal) (request : CreateOrderRequest) (now : Time)
    (e : Exec Db) : Refuses (createOrder env principal request now) e fun d => d = e.committed := by
  unfold createOrder
  refine refuses_bind ((noCommit_raiseIf _ _).refuses e) fun _ e₁ hkey => ?_
  rw [run_raiseIf_eq_ok] at hkey
  obtain ⟨-, rfl⟩ := hkey
  refine refuses_bind ((noCommit_ofExcept _).refuses _) fun lines e₂ hlines => ?_
  rw [run_ofExcept_eq_ok] at hlines
  obtain ⟨-, rfl⟩ := hlines
  exact refuses_handle (noCommit_createFrom _ _ _ _ _ _) (noCommit_recoverCreate _ _ _) _

/-- A refused shipment leaves what it found. -/
theorem ship_refuses (env : Deployment) (principal : Principal) (id : Nat) (carrier : Carrier) (trackingNo : String)
    (lines : List (Nat × Int)) (now : Time) (e : Exec Db) :
    Refuses (ship env principal id carrier trackingNo lines now) e fun d => d = e.committed := by
  unfold ship
  refine refuses_bind ((noCommit_ofExcept _).refuses e) fun request e₁ hrequest => ?_
  rw [run_ofExcept_eq_ok] at hrequest
  obtain ⟨-, rfl⟩ := hrequest
  exact refuses_transaction (noCommit_shipPackage _ _ _ _ _) _

/-- A refused session leaves the database as it was, but for the callback it refused. -/
theorem refused_leaves {env : Deployment} {op : Op} {d : Db} {next : Nat} {x : AppError} {e' : Exec Db}
    (h : op.Refused env (Exec.start d next) x e') : e'.committed = { d with callbacks := e'.committed.callbacks } := by
  have hsame : ∀ {d' : Db}, d' = d → d' = { d with callbacks := d'.callbacks } := fun h => h ▸ rfl
  cases op with
  | createOrder principal request now => exact hsame (createOrder_refuses _ _ _ _ _ _ _ h)
  | claimCoupon principal templateId now => exact hsame (refuses_transaction (noCommit_issueCoupon _ _ _) _ _ _ h)
  | expireCoupons now limit lockedElsewhere =>
    exact hsame (refuses_transaction (noCommit_sweepCoupons _ _ _) _ _ _ h)
  | createPayment principal request now =>
    exact hsame (refuses_transaction (noCommit_createAttempt _ _ _ _) _ _ _ h)
  | cancel principal orderNo reason now =>
    exact hsame (refuses_transaction (noCommit_cancelOrder _ _ _ _) _ _ _ h)
  | expire orderId now => exact hsame (refuses_transaction (noCommit_closeExpiredOrder _ _) _ _ _ h)
  | receive delivery t => exact receiveCallback_refuses _ _ _ _ _ _ _ h
  | ship principal id carrier trackingNo lines now => exact hsame (ship_refuses _ _ _ _ _ _ _ _ _ _ h)
  | confirmReceipt principal orderNo now =>
    exact hsame (refuses_transaction (noCommit_confirmReceiptOrder _ _ _) _ _ _ h)
  | dispatchCompensation id => exact hsame (refuses_transaction (noCommit_prepareDispatch _) _ _ _ h)
  | settleCompensation id providerRefundNo =>
    exact hsame (refuses_transaction (noCommit_recordCompensation _ _) _ _ _ h)
  | failCompensation id errorType => exact hsame (refuses_transaction (noCommit_parkCompensation _ _) _ _ _ h)

end NovaCommerce
