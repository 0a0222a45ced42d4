import NovaCommerce.Marketing.PromotionService
import NovaCommerce.Order.Service

/-!
# Coupons before an order holds them

* `claimCoupon` : a customer takes one coupon of a template, under the template's row lock;
* `resolveCoupon` : the rule of the coupon a cart selects, under the coupon's row lock;
* `lockForOrder` : the coupon goes to a new order;
* `expireDueCoupons` : unused coupons past their window expire.
-/

namespace NovaCommerce

open Sql

/-! ## Claiming -/

/-- How many coupons of a template a user has. -/
def Db.ownedCoupons (d : Db) (templateId userId : Nat) : Int :=
  (d.userCoupons.select fun c => decide (c.templateId = templateId ∧ c.userId = userId)).length

/-- The window of a coupon that is claimed now. -/
def CouponTemplate.window (t : CouponTemplate) (now : Time) : Except AppError (Time × Time) :=
  match t.validityType with
  | .relative =>
    match t.validDays with
    | none => .error { kind := .validation, message := "relative coupon template must define valid_days" }
    | some days => .ok (now, now + 86400000 * days)
  | .absolute =>
    match t.validFrom, t.validTo with
    | some starts, some ends =>
      if ends ≤ now then
        .error { kind := .couponExpired, message := "coupon template validity window has ended" }
      else .ok (starts, ends)
    | _, _ =>
      .error { kind := .validation, message := "absolute coupon template must define a validity window" }

/-- A claim on the template row the session holds. -/
def claimFrom (principal : Principal) (templateId : Nat) (t : CouponTemplate) (now : Time) : Tx Nat := do
  raiseIf (t.status ≠ .active) { kind := .couponNotFound, message := "active coupon template not found" }
  raiseIf (t.totalQuota ≤ t.issuedCount)
    { kind := .couponNotApplicable, message := "coupon issuance quota is exhausted" }
  let existing ← query fun d => d.ownedCoupons templateId principal.userId
  raiseIf (t.perUserLimit ≤ existing)
    { kind := .couponNotApplicable, message := "per-user coupon limit is reached" }
  let (starts, ends) ← ofExcept (t.window now)
  raiseIf (ends ≤ starts) (checkViolation "user_coupons")
  let id ← newId
  update fun d => { d with
    couponTemplates := d.couponTemplates.modify templateId fun row =>
      { row with issuedCount := t.issuedCount + 1 }
    userCoupons := d.userCoupons.set id {
      merchantId := t.merchantId
      templateId := templateId
      userId := principal.userId
      validFrom := starts
      validTo := ends } }
  return id

def issueCoupon (principal : Principal) (templateId : Nat) (now : Time) : Tx Nat := do
  raiseIf (principal.isStaff = true)
    { kind := .permissionDenied, message := "coupon claims require a customer account" }
  match ← lock (fun _ => [RowLock.couponTemplate templateId]) (fun d => d.couponTemplates.get? templateId) with
  | none => raise { kind := .couponNotFound, message := "active coupon template not found" }
  | some t => claimFrom principal templateId t now

/-- Issue one coupon under the template row lock, within both quotas. -/
def claimCoupon (principal : Principal) (templateId : Nat) (now : Time) : Tx Nat :=
  transaction (issueCoupon principal templateId now)

/-! ## Expiry -/

/-- The unused coupons whose window has passed, by its end and id. -/
def Db.dueCoupons (d : Db) (now : Time) : List (Nat × UserCoupon) :=
  (d.userCoupons.select fun c => decide (c.status = .unused ∧ c.validTo ≤ now)).insertionSort
    fun a b => toLex (a.2.validTo, a.1) ≤ toLex (b.2.validTo, b.1)

/-- The due coupons a sweep takes; it skips the rows other sessions hold. -/
def Db.sweptCoupons (d : Db) (now : Time) (limit : Nat) (lockedElsewhere : Nat → Bool) : List (Nat × UserCoupon) :=
  ((d.dueCoupons now).filter fun e => !lockedElsewhere e.1).take limit

def sweepCoupons (now : Time) (limit : Nat) (lockedElsewhere : Nat → Bool) : Tx Nat := do
  raiseIf (limit = 0) { kind := .valueError, message := "limit must be positive" }
  let coupons ← lock
    (fun d => (d.sweptCoupons now limit lockedElsewhere).map fun e => RowLock.userCoupon e.1)
    (fun d => d.sweptCoupons now limit lockedElsewhere)
  update fun d => { d with
    userCoupons := d.userCoupons.adjust fun id c =>
      if id ∈ coupons.map Prod.fst then { c with status := .expired } else c }
  return coupons.length

/-- `run_coupon_expiry_cycle`. -/
def expireDueCoupons (now : Time) (limit : Nat) (lockedElsewhere : Nat → Bool) : Tx Nat :=
  transaction (sweepCoupons now limit lockedElsewhere)

/-! ## Selecting and locking -/

/-- A coupon rule needs the cart it applies to. -/
def couponRule (template : CouponTemplate) (couponId : Nat) (eligible : Finset Nat) : Pricing.CouponRule where
  couponId := couponId
  couponType := template.couponType
  thresholdAmount := template.thresholdAmount
  faceValueAmount := template.faceValueAmount.getD 0
  discountBps := template.discountBps.getD 0
  maxDiscountAmount := template.maxDiscountAmount
  applicableSkuIds := some eligible

/-- Why a coupon cannot be selected now. -/
def UserCoupon.refusal (c : UserCoupon) (now : Time) : Option AppError :=
  match c.status with
  | .locked => some { kind := .couponAlreadyLocked, message := "coupon is locked by another order" }
  | .used => some { kind := .couponAlreadyUsed, message := "coupon has already been used" }
  | .expired => some { kind := .couponExpired, message := "coupon has expired" }
  | .unused =>
    if c.validTo ≤ now then some { kind := .couponExpired, message := "coupon has expired" }
    else if now < c.validFrom then
      some { kind := .couponNotApplicable, message := "coupon is not currently valid" }
    else none

/-- The selected coupon with its rule. -/
structure CouponSelection where
  rule : Pricing.CouponRule
  id : Nat
  coupon : UserCoupon

/-- The coupon of a user and merchant. -/
def Db.couponFor (d : Db) (couponId userId merchantId : Nat) : Option UserCoupon :=
  (d.userCoupons.get? couponId).filter fun c => decide (c.userId = userId ∧ c.merchantId = merchantId)

/-- Select the coupon of a cart, under its row lock. -/
def resolveCoupon (couponId userId merchantId : Nat) (skuIds : List Nat) (now : Time) : Tx CouponSelection := do
  let coupon ← orRaise
    (← lock (fun _ => [RowLock.userCoupon couponId]) (fun d => d.couponFor couponId userId merchantId))
    { kind := .couponNotFound, message := "coupon not found for this customer and merchant" }
  let template ← orRaise
    (← query fun d => (d.couponTemplates.get? coupon.templateId).filter fun t =>
      decide (t.merchantId = merchantId))
    { kind := .couponNotFound, message := "coupon template does not belong to this merchant" }
  if let some refusal := coupon.refusal now then
    raise refusal
  let rows ← query fun d => d.scopeRows skuIds merchantId
  let eligible := template.applicableScope.eligible rows
  raiseIf (eligible = ∅)
    { kind := .couponNotApplicable, message := "coupon scope does not include these items" }
  return { rule := couponRule template couponId eligible, id := couponId, coupon := coupon }

/-- `require_applicable_discount`: a selected coupon must reduce the cart. -/
def requireApplicableDiscount (cart : Pricing.CartPrice AttributeSnapshot) : Except AppError Unit :=
  if 0 < cart.couponDiscountAmount then .ok ()
  else if .couponThresholdNotMet ∈ cart.warnings then
    .error { kind := .couponThresholdNotMet, message := "coupon threshold is not met" }
  else .error { kind := .couponNotApplicable, message := "coupon does not discount these items" }

/-- The selected coupon goes to a new order. -/
def lockForOrder (selection : CouponSelection) (orderId : Nat) (order : Order) (now : Time) : Tx Unit := do
  raiseIf (selection.coupon.merchantId ≠ order.merchantId ∨ selection.coupon.userId ≠ order.userId)
    { kind := .couponNotFound, message := "coupon does not belong to this order" }
  raiseIf (selection.coupon.status ≠ .unused ∨ selection.coupon.validTo ≤ now)
    { kind := .couponAlreadyLocked, message := "coupon changed before order creation" }
  writeCoupon selection.id (fun c => { c with
    status := .locked
    orderId := some orderId
    lockedAt := some now }) orderId order .lock

/-! ## What they do -/

/-- What a claim did. -/
inductive CouponClaimed (next : Nat) (d : Db) : Db → Prop where
  | mk {templateId userId : Nat} {t : CouponTemplate} {c : UserCoupon}
      (template : d.couponTemplates.get? templateId = some t) (quota : t.issuedCount < t.totalQuota)
      (limit : d.ownedCoupons templateId userId < t.perUserLimit) (ofTemplate : c.templateId = templateId)
      (ofUser : c.userId = userId) (unused : c.status = .unused) (free : c.orderId = none) :
      CouponClaimed next d { d with
        couponTemplates := d.couponTemplates.modify templateId fun row =>
          { row with issuedCount := t.issuedCount + 1 }
        userCoupons := d.userCoupons.set next c }

theorem issueCoupon_claimed {principal : Principal} {templateId : Nat} {now : Time} {e e' : Exec Db} {id : Nat}
    (h : (issueCoupon principal templateId now).run e = (.ok id, e')) :
    e'.next = e.next + 1 ∧ CouponClaimed e.next e.view e'.view := by
  unfold issueCoupon at h
  rw [run_bind_eq_ok] at h
  obtain ⟨_, e₁, hstaff, h⟩ := h
  rw [run_raiseIf_eq_ok] at hstaff
  obtain ⟨-, rfl⟩ := hstaff
  rw [run_bind, run_lock, andThen_ok] at h
  cases ht : e.view.couponTemplates.get? templateId with
  | none => simp [ht] at h
  | some t =>
    simp only [ht] at h
    unfold claimFrom at h
    rw [run_bind_eq_ok] at h
    obtain ⟨_, e₂, hactive, h⟩ := h
    rw [run_raiseIf_eq_ok] at hactive
    obtain ⟨-, rfl⟩ := hactive
    rw [run_bind_eq_ok] at h
    obtain ⟨_, e₃, hquota, h⟩ := h
    rw [run_raiseIf_eq_ok, not_le] at hquota
    obtain ⟨hquota, rfl⟩ := hquota
    rw [run_bind, run_query, andThen_ok, run_bind_eq_ok] at h
    obtain ⟨_, e₄, hlimit, h⟩ := h
    rw [run_raiseIf_eq_ok, not_le] at hlimit
    obtain ⟨hlimit, rfl⟩ := hlimit
    rw [run_bind_eq_ok] at h
    obtain ⟨window, e₅, hwindow, h⟩ := h
    rw [run_ofExcept_eq_ok] at hwindow
    obtain ⟨-, rfl⟩ := hwindow
    rw [run_bind_eq_ok] at h
    obtain ⟨_, e₆, hchecked, h⟩ := h
    rw [run_raiseIf_eq_ok] at hchecked
    obtain ⟨-, rfl⟩ := hchecked
    rw [run_bind, run_newId, andThen_ok, run_bind, run_update, andThen_ok] at h
    cases h
    exact ⟨rfl, .mk ht hquota hlimit rfl rfl rfl rfl⟩

/-- What a sweep did: it expired unused coupons. -/
inductive CouponsSwept (d : Db) : Db → Prop where
  | mk (swept : List Nat) (unused : ∀ id ∈ swept, ∃ c, d.userCoupons.get? id = some c ∧ c.status = .unused) :
      CouponsSwept d { d with
        userCoupons := d.userCoupons.adjust fun id c =>
          if id ∈ swept then { c with status := .expired } else c }

theorem sweepCoupons_swept {now : Time} {limit : Nat} {lockedElsewhere : Nat → Bool} {e e' : Exec Db} {n : Nat}
    (h : (sweepCoupons now limit lockedElsewhere).run e = (.ok n, e')) :
    e'.next = e.next ∧ CouponsSwept e.view e'.view := by
  unfold sweepCoupons at h
  rw [run_bind_eq_ok] at h
  obtain ⟨_, e₁, hlimit, h⟩ := h
  rw [run_raiseIf_eq_ok] at hlimit
  obtain ⟨-, rfl⟩ := hlimit
  rw [run_bind, run_lock, andThen_ok, run_bind, run_update, andThen_ok] at h
  cases h
  refine ⟨rfl, .mk _ fun id hid => ?_⟩
  obtain ⟨⟨i, c⟩, hmem, rfl⟩ := List.mem_map.mp hid
  have hdue := (List.mem_insertionSort _).mp (List.mem_filter.mp (List.mem_of_mem_take hmem)).1
  rw [Dict.mem_select, decide_eq_true_eq] at hdue
  exact ⟨c, hdue.1, hdue.2.1⟩

theorem resolveCoupon_selected {couponId userId merchantId : Nat} {skuIds : List Nat} {now : Time}
    {e e' : Exec Db} {s : CouponSelection}
    (h : (resolveCoupon couponId userId merchantId skuIds now).run e = (.ok s, e')) :
    e' = e ∧ s.id = couponId ∧ e.view.userCoupons.get? couponId = some s.coupon := by
  unfold resolveCoupon at h
  rw [run_bind, run_lock, andThen_ok, run_bind_eq_ok] at h
  obtain ⟨coupon, e₁, hcoupon, h⟩ := h
  rw [run_orRaise_eq_ok] at hcoupon
  obtain ⟨hcoupon, rfl⟩ := hcoupon
  rw [run_bind, run_query, andThen_ok, run_bind_eq_ok] at h
  obtain ⟨template, e₂, htemplate, h⟩ := h
  rw [run_orRaise_eq_ok] at htemplate
  obtain ⟨-, rfl⟩ := htemplate
  cases hr : coupon.refusal now with
  | some refusal => simp [hr] at h
  | none =>
    simp only [hr] at h
    rw [run_bind, run_query, andThen_ok, run_bind_eq_ok] at h
    obtain ⟨_, e₃, heligible, h⟩ := h
    rw [run_raiseIf_eq_ok] at heligible
    obtain ⟨-, rfl⟩ := heligible
    cases h
    exact ⟨rfl, rfl, (Option.filter_eq_some_iff.mp hcoupon).1⟩

/-- The coupon of a new order is locked to it, or the order selected none. -/
inductive CouponLocked (orderId : Nat) (order : Order) (d : Db) : Db → Prop where
  | without (absent : order.couponId = none) : CouponLocked orderId order d d
  | locked {couponId : Nat} {coupon : UserCoupon} {f : UserCoupon → UserCoupon}
      (selected : order.couponId = some couponId) (found : d.couponOf order couponId = some coupon)
      (unused : coupon.status = .unused) (writes : ∀ c, CouponAction.lock.Writes orderId c (f c)) :
      CouponLocked orderId order d { d with
        userCoupons := d.userCoupons.modify couponId f
        couponUsages := d.couponUsages ++ [{
          merchantId := order.merchantId
          userCouponId := couponId
          orderId := orderId
          action := .lock }] }

theorem lockForOrder_locked {selection : CouponSelection} {orderId : Nat} {order : Order} {now : Time}
    {e e' : Exec Db} {u : Unit} (h : (lockForOrder selection orderId order now).run e = (.ok u, e'))
    (hselected : order.couponId = some selection.id)
    (hrow : e.view.userCoupons.get? selection.id = some selection.coupon) :
    ∃ d, e' = { e with view := d } ∧ CouponLocked orderId order e.view d := by
  unfold lockForOrder writeCoupon at h
  rw [run_bind_eq_ok] at h
  obtain ⟨_, e₁, howner, h⟩ := h
  rw [run_raiseIf_eq_ok, not_or, not_not, not_not] at howner
  obtain ⟨howner, rfl⟩ := howner
  rw [run_bind_eq_ok] at h
  obtain ⟨_, e₂, hunused, h⟩ := h
  rw [run_raiseIf_eq_ok, not_or, not_not] at hunused
  obtain ⟨⟨hunused, -⟩, rfl⟩ := hunused
  cases h
  refine ⟨_, rfl, .locked hselected ?_ hunused fun c => ⟨rfl, rfl, rfl, rfl, rfl⟩⟩
  rw [Db.couponOf, hrow, Option.filter_some, if_pos (decide_eq_true howner)]

/-- A new order's coupon sees the coupon tables only. -/
theorem CouponLocked.transfer {orderId : Nat} {order : Order} {d d' c : Db} (h : CouponLocked orderId order d d')
    (hc : c.userCoupons = d.userCoupons) (hu : c.couponUsages = d.couponUsages) :
    CouponLocked orderId order c { c with
      userCoupons := d'.userCoupons
      couponUsages := d'.couponUsages } := by
  cases h with
  | without absent =>
    rw [← hc, ← hu]
    exact .without absent
  | locked selected found unused writes =>
    rw [← hc, ← hu]
    refine .locked selected (Eq.trans ?_ found) unused writes
    unfold Db.couponOf
    rw [hc]

/-- Only the coupon tables change. -/
theorem CouponLocked.frame {orderId : Nat} {order : Order} {d d' : Db} (h : CouponLocked orderId order d d') :
    d' = { d with userCoupons := d'.userCoupons, couponUsages := d'.couponUsages } := by
  cases h with
  | without _ => rfl
  | locked _ _ _ _ => rfl

@[grind .] theorem noCommit_issueCoupon (principal : Principal) (templateId : Nat) (now : Time) :
    (issueCoupon principal templateId now).NoCommit := by
  have hclaim : ∀ t, (claimFrom principal templateId t now).NoCommit := by
    intro t
    unfold claimFrom
    refine .bind (noCommit_raiseIf _ _) fun _ => .bind (noCommit_raiseIf _ _) fun _ => ?_
    refine .bind (noCommit_query _) fun _ => .bind (noCommit_raiseIf _ _) fun _ => ?_
    refine .bind (noCommit_ofExcept _) fun _ => .bind (noCommit_raiseIf _ _) fun _ => ?_
    exact .bind noCommit_newId fun _ => .bind (noCommit_update _) fun _ => noCommit_pure _
  unfold issueCoupon
  grind

@[grind .] theorem noCommit_sweepCoupons (now : Time) (limit : Nat) (lockedElsewhere : Nat → Bool) :
    (sweepCoupons now limit lockedElsewhere).NoCommit := by
  unfold sweepCoupons
  grind

@[grind .] theorem noCommit_resolveCoupon (couponId userId merchantId : Nat) (skuIds : List Nat) (now : Time) :
    (resolveCoupon couponId userId merchantId skuIds now).NoCommit := by
  unfold resolveCoupon
  refine .bind (noCommit_lock _ _) fun _ => .bind (noCommit_orRaise _ _) fun coupon => ?_
  refine .bind (noCommit_query _) fun _ => .bind (noCommit_orRaise _ _) fun template => ?_
  cases coupon.refusal now with
  | some refusal => exact .bind (noCommit_raise _) fun _ => by grind
  | none => grind

@[grind .] theorem noCommit_lockForOrder (selection : CouponSelection) (orderId : Nat) (order : Order)
    (now : Time) : (lockForOrder selection orderId order now).NoCommit := by
  unfold lockForOrder
  grind

end NovaCommerce
