import NovaCommerce.Order.Repository

/-!
# A coupon over an order's life

An order locks its coupon, uses it when it is paid, and gives it back when it is cancelled or closed.
-/

namespace NovaCommerce

open Sql

/-- The coupon an order selected, when it belongs to the order's buyer and merchant. -/
def Db.couponOf (d : Db) (order : Order) (couponId : Nat) : Option UserCoupon :=
  (d.userCoupons.get? couponId).filter
    fun c => decide (c.merchantId = order.merchantId ∧ c.userId = order.userId)

def couponForUpdate (order : Order) (couponId : Nat) : Tx (Option UserCoupon) :=
  lock (fun _ => [RowLock.userCoupon couponId]) (fun d => d.couponOf order couponId)

/-- Change a coupon and record what happened to it. -/
def writeCoupon (couponId : Nat) (f : UserCoupon → UserCoupon) (orderId : Nat) (order : Order)
    (action : CouponAction) : Tx Unit :=
  update fun d => { d with
    userCoupons := d.userCoupons.modify couponId f
    couponUsages := d.couponUsages ++ [{
      merchantId := order.merchantId
      userCouponId := couponId
      orderId := orderId
      action := action }] }

/-- Use the coupon of a paid order. -/
def markUsed (orderId : Nat) (order : Order) (now : Time) : Tx Unit := do
  match order.couponId with
  | none => return ()
  | some couponId =>
    match ← couponForUpdate order couponId with
    | none => return ()
    | some coupon =>
      if (coupon.status = .unused ∨ coupon.status = .expired) ∧ coupon.orderId = none then
        return ()
      raiseIf (coupon.status ≠ .locked ∨ coupon.orderId ≠ some orderId)
        { kind := .validation, message := "paid order does not hold its selected coupon" }
      writeCoupon couponId (fun c => { c with status := .used, usedAt := some now }) orderId order .use

/-- The coupon order `orderId` holds. -/
def UserCoupon.HeldBy (orderId : Nat) (coupon : UserCoupon) : Prop :=
  coupon.status = .locked ∧ coupon.orderId = some orderId

instance UserCoupon.decidableHeldBy (orderId : Nat) (coupon : UserCoupon) :
    Decidable (coupon.HeldBy orderId) := by
  unfold UserCoupon.HeldBy
  infer_instance

/-- Give the coupon of a cancelled or closed order back. -/
def releaseCoupon (orderId : Nat) (order : Order) (now : Time) : Tx Unit := do
  match order.couponId with
  | none => return ()
  | some couponId =>
    match ← couponForUpdate order couponId with
    | none => raise { kind := .validation, message := "cancelled order does not hold its selected coupon" }
    | some coupon =>
      raiseIf (¬ coupon.HeldBy orderId)
        { kind := .validation, message := "cancelled order does not hold its selected coupon" }
      writeCoupon couponId (fun c => { c with
        status := if coupon.validTo ≤ now then .expired else .unused
        orderId := none
        lockedAt := none }) orderId order .release

/-! ## What the coupon of an order goes through -/

/-- What an action writes to the coupon of an order. -/
def CouponAction.Effect (action : CouponAction) (orderId : Nat) (c c' : UserCoupon) : Prop :=
  match action with
  | .lock => c'.status = .locked ∧ c'.orderId = some orderId
  | .use => c'.status = .used ∧ c'.orderId = c.orderId
  | .release => (c'.status = .unused ∨ c'.status = .expired) ∧ c'.orderId = none

/-- A coupon that an action was done to. -/
structure CouponAction.Writes (action : CouponAction) (orderId : Nat) (c c' : UserCoupon) : Prop where
  merchantId : c'.merchantId = c.merchantId
  templateId : c'.templateId = c.templateId
  userId : c'.userId = c.userId
  effect : action.Effect orderId c c'

/-- `action` was done to the coupon of the order, or the order holds none. -/
inductive CouponMoved (action : CouponAction) (orderId : Nat) (order : Order) (d : Db) : Db → Prop where
  | unchanged (idle : ∀ couponId ∈ order.couponId, ∀ c, d.couponOf order couponId = some c → ¬ c.HeldBy orderId) :
      CouponMoved action orderId order d d
  | moved {couponId : Nat} {coupon : UserCoupon} {f : UserCoupon → UserCoupon}
      (selected : order.couponId = some couponId)
      (held : d.couponOf order couponId = some coupon) (locked : coupon.HeldBy orderId)
      (writes : ∀ c, action.Writes orderId c (f c)) :
      CouponMoved action orderId order d { d with
        userCoupons := d.userCoupons.modify couponId f
        couponUsages := d.couponUsages ++ [{
          merchantId := order.merchantId
          userCouponId := couponId
          orderId := orderId
          action := action }] }

theorem markUsed_moved {orderId : Nat} {order : Order} {now : Time} {e e' : Exec Db} {u : Unit}
    (h : (markUsed orderId order now).run e = (.ok u, e')) :
    ∃ d, e' = { e with view := d } ∧ CouponMoved .use orderId order e.view d := by
  unfold markUsed at h
  cases hc : order.couponId with
  | none =>
    simp only [hc, run_pure] at h
    cases h
    exact ⟨_, rfl, .unchanged (by rw [hc]; exact fun _ h => nomatch h)⟩
  | some couponId =>
    have hselected : ∀ id ∈ order.couponId, id = couponId := fun id hid => by
      rw [hc] at hid
      exact (Option.some.inj hid).symm
    simp only [hc, couponForUpdate, run_bind, run_lock, andThen_ok] at h
    cases hcoupon : e.view.couponOf order couponId with
    | none =>
      simp only [hcoupon, run_pure] at h
      cases h
      refine ⟨_, rfl, .unchanged fun id hid c hfound => ?_⟩
      rw [hselected id hid, hcoupon] at hfound
      cases hfound
    | some coupon =>
      simp only [hcoupon] at h
      split_ifs at h with hidle
      · cases h
        refine ⟨_, rfl, .unchanged fun id hid c hfound hheld => ?_⟩
        rw [hselected id hid, hcoupon] at hfound
        cases hfound
        rw [hheld.2] at hidle
        exact nomatch hidle.2
      · rw [run_bind_eq_ok] at h
        obtain ⟨_, e₁, hheld, h⟩ := h
        rw [run_raiseIf_eq_ok] at hheld
        obtain ⟨hheld, rfl⟩ := hheld
        cases h
        rw [not_or, not_not, not_not] at hheld
        exact ⟨_, rfl, .moved hc hcoupon hheld fun c => ⟨rfl, rfl, rfl, rfl, rfl⟩⟩

theorem releaseCoupon_moved {orderId : Nat} {order : Order} {now : Time} {e e' : Exec Db} {u : Unit}
    (h : (releaseCoupon orderId order now).run e = (.ok u, e')) :
    ∃ d, e' = { e with view := d } ∧ CouponMoved .release orderId order e.view d := by
  unfold releaseCoupon at h
  cases hc : order.couponId with
  | none =>
    simp only [hc, run_pure] at h
    cases h
    exact ⟨_, rfl, .unchanged (by rw [hc]; exact fun _ h => nomatch h)⟩
  | some couponId =>
    simp only [hc, couponForUpdate, run_bind, run_lock, andThen_ok] at h
    cases hcoupon : e.view.couponOf order couponId with
    | none => simp [hcoupon] at h
    | some coupon =>
      simp only [hcoupon] at h
      rw [run_bind_eq_ok] at h
      obtain ⟨_, e₁, hheld, h⟩ := h
      rw [run_raiseIf_eq_ok] at hheld
      obtain ⟨hheld, rfl⟩ := hheld
      cases h
      refine ⟨_, rfl, .moved hc hcoupon (not_not.mp hheld) fun c => ⟨rfl, rfl, rfl, ?_, rfl⟩⟩
      dsimp only
      split_ifs
      · exact .inr rfl
      · exact .inl rfl

/-- A held coupon can be used. -/
theorem markUsed_ok {orderId : Nat} {order : Order} {now : Time} {e : Exec Db}
    (h : ∀ couponId ∈ order.couponId, ∃ c, e.view.couponOf order couponId = some c ∧ c.HeldBy orderId) :
    ∃ d, (markUsed orderId order now).run e = (.ok (), { e with view := d }) ∧
      CouponMoved .use orderId order e.view d := by
  have hrun : ∃ e', (markUsed orderId order now).run e = (.ok (), e') := by
    unfold markUsed
    cases hc : order.couponId with
    | none => exact ⟨e, rfl⟩
    | some couponId =>
      obtain ⟨c, hcoupon, hlocked, horder⟩ := h couponId hc
      simp only [couponForUpdate, run_bind, run_lock, andThen_ok, hcoupon]
      rw [if_neg (by simp [horder]), run_bind, run_raiseIf_neg (by simp [hlocked, horder])]
      exact ⟨_, rfl⟩
  obtain ⟨e', hrun⟩ := hrun
  obtain ⟨d, rfl, hmoved⟩ := markUsed_moved hrun
  exact ⟨d, hrun, hmoved⟩

/-- A held coupon can be given back. -/
theorem releaseCoupon_ok {orderId : Nat} {order : Order} {now : Time} {e : Exec Db}
    (h : ∀ couponId ∈ order.couponId, ∃ c, e.view.couponOf order couponId = some c ∧ c.HeldBy orderId) :
    ∃ d, (releaseCoupon orderId order now).run e = (.ok (), { e with view := d }) ∧
      CouponMoved .release orderId order e.view d := by
  have hrun : ∃ e', (releaseCoupon orderId order now).run e = (.ok (), e') := by
    unfold releaseCoupon
    cases hc : order.couponId with
    | none => exact ⟨e, rfl⟩
    | some couponId =>
      obtain ⟨c, hcoupon, hheld⟩ := h couponId hc
      simp only [couponForUpdate, run_bind, run_lock, andThen_ok, hcoupon]
      rw [run_raiseIf_neg (not_not.mpr hheld)]
      exact ⟨_, rfl⟩
  obtain ⟨e', hrun⟩ := hrun
  obtain ⟨d, rfl, hmoved⟩ := releaseCoupon_moved hrun
  exact ⟨d, hrun, hmoved⟩

/-- A coupon's life sees the coupon tables only. -/
theorem CouponMoved.transfer {action : CouponAction} {orderId : Nat} {order : Order} {d d' c : Db}
    (h : CouponMoved action orderId order d d') (hc : c.userCoupons = d.userCoupons)
    (hu : c.couponUsages = d.couponUsages) :
    CouponMoved action orderId order c { c with
      userCoupons := d'.userCoupons
      couponUsages := d'.couponUsages } := by
  have hof : ∀ couponId, c.couponOf order couponId = d.couponOf order couponId := fun couponId => by
    unfold Db.couponOf
    rw [hc]
  cases h with
  | unchanged idle =>
    rw [← hc, ← hu]
    exact .unchanged fun couponId hselected x hx => idle couponId hselected x (by rw [← hof, hx])
  | @moved couponId coupon f selected held locked writes =>
    rw [← hc, ← hu]
    exact .moved selected ((hof couponId).trans held) locked writes

/-- Only the coupon tables change. -/
theorem CouponMoved.frame {action : CouponAction} {orderId : Nat} {order : Order} {d d' : Db}
    (h : CouponMoved action orderId order d d') :
    ∃ userCoupons couponUsages, d' = { d with
      userCoupons := userCoupons
      couponUsages := d.couponUsages ++ couponUsages } ∧
      ∀ r ∈ couponUsages, r.orderId = orderId ∧ r.action = action := by
  cases h with
  | unchanged _ => exact ⟨_, [], by rw [List.append_nil], by simp⟩
  | moved _ _ _ _ => exact ⟨_, _, rfl, by simp⟩

@[grind .] theorem noCommit_couponForUpdate (order : Order) (couponId : Nat) :
    (couponForUpdate order couponId).NoCommit := noCommit_lock _ _

@[grind .] theorem noCommit_writeCoupon (couponId : Nat) (f : UserCoupon → UserCoupon) (orderId : Nat)
    (order : Order) (action : CouponAction) : (writeCoupon couponId f orderId order action).NoCommit :=
  noCommit_update _

@[grind .] theorem noCommit_markUsed (orderId : Nat) (order : Order) (now : Time) :
    (markUsed orderId order now).NoCommit := by
  unfold markUsed
  grind

@[grind .] theorem noCommit_releaseCoupon (orderId : Nat) (order : Order) (now : Time) :
    (releaseCoupon orderId order now).NoCommit := by
  unfold releaseCoupon
  grind

end NovaCommerce
