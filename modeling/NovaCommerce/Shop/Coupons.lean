import NovaCommerce.Shop.OrderRetries

/-!
# Coupons and their orders

* `Order.Holds` : the coupon is locked to a pending order, or a paid one used it;
* `Db.CouponsPlaced` : a live order holds the coupon it selected, and every other coupon is free
  (`Change.couponsPlaced`);
* `Db.CouponsIssued` : templates count the coupons they gave out (`Change.couponsIssued`);
* `coupons_lifecycle` : both after every run, with what they mean for the sessions that move a coupon.
-/

namespace NovaCommerce

open Sql

/-! ## Coupons of live orders -/

/-- No order has the coupon. -/
def UserCoupon.Free (c : UserCoupon) : Prop := (c.status = .unused ∨ c.status = .expired) ∧ c.orderId = none

/-- The order was settled, and its money was taken. -/
def Order.WasPaid (o : Order) : Prop := o.Settled ∧ o.paymentStatus ∈ settledPaymentStatuses

/-- The coupon is locked to the pending order `i`, or used for it since it was paid. -/
def Order.Holds (o : Order) (i : Nat) (c : UserCoupon) : Prop :=
  c.orderId = some i ∧ ((o.orderStatus = .pendingPayment ∧ c.status = .locked) ∨ (o.WasPaid ∧ c.status = .used))

/-- A live order holds the coupon it selected, and a coupon that is not free is held by an order that selected it. -/
structure Db.CouponsPlaced (d : Db) : Prop where
  selected : ∀ i o couponId, d.orders.get? i = some o → o.couponId = some couponId → ¬ o.Ended →
    ∃ c, d.couponOf o couponId = some c ∧ o.Holds i c
  placed : ∀ couponId c, d.userCoupons.get? couponId = some c →
    c.Free ∨ ∃ i o, d.orders.get? i = some o ∧ o.couponId = some couponId ∧ o.Holds i c

theorem UserCoupon.Free.not_held {c : UserCoupon} (h : c.Free) (o : Order) (i : Nat) : ¬ o.Holds i c := by
  intro hholds
  have horder := hholds.1
  rw [h.2] at horder
  cases horder

/-- A coupon that an order holds while it is pending is locked to it. -/
theorem Order.Holds.heldBy {o : Order} {i : Nat} {c : UserCoupon} (h : o.Holds i c)
    (pending : o.orderStatus = .pendingPayment) : c.HeldBy i := by
  rcases h.2 with ⟨-, hlocked⟩ | ⟨⟨hsettled, -⟩, -⟩
  · exact ⟨hlocked, h.1⟩
  · exact absurd hsettled (not_settled_of_pending pending)

theorem couponOf_some {d : Db} {o : Order} {couponId : Nat} {c : UserCoupon} :
    d.couponOf o couponId = some c ↔
      d.userCoupons.get? couponId = some c ∧ c.merchantId = o.merchantId ∧ c.userId = o.userId := by
  unfold Db.couponOf
  rw [Option.filter_eq_some_iff, decide_eq_true_eq]

/-- Orders of one buyer and merchant see the same coupons. -/
theorem Order.SamePurchase.couponOf {o o' : Order} (h : o.SamePurchase o') (d : Db) (couponId : Nat) :
    d.couponOf o' couponId = d.couponOf o couponId := by
  unfold Db.couponOf
  rw [h.merchantId, h.userId]

theorem couponOf_congr {d d' : Db} {o : Order} {couponId : Nat}
    (h : d'.userCoupons.get? couponId = d.userCoupons.get? couponId) : d'.couponOf o couponId = d.couponOf o couponId := by
  unfold Db.couponOf
  rw [h]

/-- A stage of the order that keeps its coupons. -/
theorem Order.SameTrade.holds {o o' : Order} (h : o.SameTrade o') {i : Nat} {c : UserCoupon} (hc : o.Holds i c) :
    o'.Holds i c := by
  unfold Order.Holds Order.WasPaid Order.Settled
  rw [h.orderStatus]
  refine ⟨hc.1, hc.2.imp id ?_⟩
  rintro ⟨⟨hsettled, hpaid⟩, hused⟩
  exact ⟨⟨hsettled, h.settled hpaid⟩, hused⟩

theorem Order.SameTrade.ended {o o' : Order} (h : o.SameTrade o') : o'.Ended ↔ o.Ended := by
  unfold Order.Ended
  rw [h.orderStatus]

/-- An order whose coupons stay with it. -/
structure Order.Retains (o o' : Order) : Prop extends Order.SamePurchase o o' where
  ended : o'.Ended ↔ o.Ended
  holds : ∀ i c, o.Holds i c → o'.Holds i c

theorem Order.Retains.refl (o : Order) : o.Retains o := ⟨.refl o, Iff.rfl, fun _ _ h => h⟩

theorem Order.SameTrade.retains {o o' : Order} (h : o.SameTrade o') : o.Retains o' :=
  ⟨h.toSamePurchase, h.ended, fun _ _ => h.holds⟩

/-- Coupons stay where they are when orders retain them and no coupon row changes. -/
theorem Db.CouponsPlaced.kept {d d' : Db} (hd : d.CouponsPlaced)
    (orders : d.orders.Grows Order.Retains (fun _ => False) d'.orders) (coupons : d'.userCoupons = d.userCoupons) :
    d'.CouponsPlaced where
  selected i o' couponId ho' hselected hlive := by
    obtain ⟨o, ho, hretains⟩ := (orders.origin i o' ho').resolve_right fun hn => hn.2
    rw [hretains.couponId] at hselected
    rw [hretains.ended] at hlive
    obtain ⟨c, hc, hholds⟩ := hd.selected i o couponId ho hselected hlive
    refine ⟨c, ?_, hretains.holds i c hholds⟩
    rw [hretains.couponOf, @couponOf_congr d d' o couponId (by rw [coupons])]
    exact hc
  placed couponId c hc := by
    rw [coupons] at hc
    rcases hd.placed couponId c hc with hfree | ⟨i, o, ho, hselected, hholds⟩
    · exact .inl hfree
    · obtain ⟨o', ho', hretains⟩ := orders.kept i o ho
      exact .inr ⟨i, o', ho', hretains.couponId.trans hselected, hretains.holds i c hholds⟩

/-- A coupon of an order that lives is held by no other. -/
theorem Db.CouponsPlaced.unique {d : Db} (hd : d.CouponsPlaced) {i j couponId : Nat} {a b : Order}
    (ha : d.orders.get? i = some a) (hb : d.orders.get? j = some b) (hsa : a.couponId = some couponId)
    (hsb : b.couponId = some couponId) (hla : ¬ a.Ended) (hlb : ¬ b.Ended) : i = j := by
  obtain ⟨c, hc, hholds⟩ := hd.selected i a couponId ha hsa hla
  obtain ⟨c', hc', hholds'⟩ := hd.selected j b couponId hb hsb hlb
  obtain ⟨hrow, -⟩ := couponOf_some.mp hc
  obtain ⟨hrow', -⟩ := couponOf_some.mp hc'
  rw [hrow] at hrow'
  cases hrow'
  have horder := hholds.1
  rw [hholds'.1] at horder
  exact (Option.some.inj horder).symm

/-- A pending order's coupon is locked to it. -/
theorem Db.CouponsPlaced.locked {d : Db} (hd : d.CouponsPlaced) {i : Nat} {o : Order} (ho : d.orders.get? i = some o)
    (pending : o.orderStatus = .pendingPayment) :
    ∀ couponId ∈ o.couponId, ∃ c, d.couponOf o couponId = some c ∧ c.HeldBy i := by
  intro couponId hselected
  obtain ⟨c, hc, hholds⟩ := hd.selected i o couponId ho hselected (not_ended_of_pending pending)
  exact ⟨c, hc, hholds.heldBy pending⟩

/-- The coupon of a pending order moves with it. -/
theorem Db.CouponsPlaced.moved {d d₁ : Db} (hd : d.CouponsPlaced) {action : CouponAction} {i : Nat} {o : Order}
    (row : d.orders.get? i = some o) (pending : o.orderStatus = .pendingPayment) (coupon : CouponMoved action i o d d₁)
    {f : Order → Order} (same : o.SamePurchase (f o))
    (after : ∀ c c' : UserCoupon, c.HeldBy i → action.Effect i c c' →
      (c'.Free ∧ (f o).Ended) ∨ (f o).Holds i c') {d' : Db}
    (orders : d'.orders = d.orders.modify i f) (coupons : d'.userCoupons = d₁.userCoupons) : d'.CouponsPlaced := by
  have hself : d'.orders.get? i = some (f o) := by
    rw [orders, Dict.get?_modify_self, row]
    rfl
  have hother : ∀ {j : Nat}, j ≠ i → d'.orders.get? j = d.orders.get? j := fun hj => by
    rw [orders, Dict.get?_modify_ne hj]
  have hheld := hd.locked row pending
  cases coupon with
  | unchanged idle =>
    have hnone : o.couponId = none := by
      cases hc : o.couponId with
      | none => rfl
      | some couponId =>
        obtain ⟨c, hfound, hlocked⟩ := hheld couponId hc
        exact absurd hlocked (idle couponId hc c hfound)
    constructor
    · intro j b couponId hb hselected hlive
      by_cases hj : j = i
      · subst hj
        rw [hself] at hb
        cases hb
        rw [same.couponId, hnone] at hselected
        cases hselected
      · rw [hother hj] at hb
        obtain ⟨c, hc, hholds⟩ := hd.selected j b couponId hb hselected hlive
        exact ⟨c, by rw [@couponOf_congr d d' b couponId (by rw [coupons]), hc], hholds⟩
    · intro couponId c hc
      rw [coupons] at hc
      rcases hd.placed couponId c hc with hfree | ⟨j, b, hb, hselected, hholds⟩
      · exact .inl hfree
      · have hj : j ≠ i := by
          rintro rfl
          rw [row] at hb
          cases hb
          rw [hnone] at hselected
          cases hselected
        exact .inr ⟨j, b, by rw [hother hj, hb], hselected, hholds⟩
  | @moved couponId coupon g selected held locked writes =>
    obtain ⟨hrow, hmerchant, huser⟩ := couponOf_some.mp held
    have hcoupon : d'.userCoupons.get? couponId = some (g coupon) := by
      rw [coupons, Dict.get?_modify_self, hrow]
      rfl
    have hcoupons : ∀ {k : Nat}, k ≠ couponId → d'.userCoupons.get? k = d.userCoupons.get? k := fun hk => by
      rw [coupons, Dict.get?_modify_ne hk]
    have hwritten := writes coupon
    -- no other order holds the coupon that moves
    have hapart : ∀ {j : Nat} {b : Order}, j ≠ i → d.orders.get? j = some b → b.couponId = some couponId → b.Ended := by
      intro j b hj hb hselected
      by_contra hlive
      exact hj (hd.unique hb row hselected selected hlive (not_ended_of_pending pending))
    constructor
    · intro j b k hb hselected hlive
      by_cases hj : j = i
      · subst hj
        rw [hself] at hb
        cases hb
        rw [same.couponId, selected] at hselected
        cases hselected
        have hholds := (after coupon _ locked hwritten.effect).resolve_left fun hleft => hlive hleft.2
        refine ⟨g coupon, couponOf_some.mpr ⟨hcoupon, ?_, ?_⟩, hholds⟩
        · rw [hwritten.merchantId, same.merchantId, hmerchant]
        · rw [hwritten.userId, same.userId, huser]
      · rw [hother hj] at hb
        have hk : k ≠ couponId := by
          rintro rfl
          exact hlive (hapart hj hb hselected)
        obtain ⟨c, hc, hholds⟩ := hd.selected j b k hb hselected hlive
        exact ⟨c, by rw [@couponOf_congr d d' b k (hcoupons hk), hc], hholds⟩
    · intro k c hc
      by_cases hk : k = couponId
      · subst hk
        rw [hcoupon] at hc
        cases hc
        rcases after coupon _ locked hwritten.effect with ⟨hfree, -⟩ | hholds
        · exact .inl hfree
        · exact .inr ⟨i, f o, hself, same.couponId.trans selected, hholds⟩
      · rw [hcoupons hk] at hc
        rcases hd.placed k c hc with hfree | ⟨j, b, hb, hselected, hholds⟩
        · exact .inl hfree
        · have hj : j ≠ i := by
            rintro rfl
            rw [row] at hb
            cases hb
            rw [selected] at hselected
            cases hselected
            exact hk rfl
          exact .inr ⟨j, b, by rw [hother hj, hb], hselected, hholds⟩

/-- A new order takes a free coupon, or none. -/
theorem Db.CouponsPlaced.created {d d₁ : Db} (hd : d.CouponsPlaced) {i : Nat} {o : Order}
    (fresh : d.orders.get? i = none) (pending : o.orderStatus = .pendingPayment) (coupon : CouponLocked i o d d₁)
    {d' : Db} (orders : d'.orders = d.orders.set i o) (coupons : d'.userCoupons = d₁.userCoupons) :
    d'.CouponsPlaced := by
  have hself : d'.orders.get? i = some o := by
    rw [orders, Dict.get?_set_self]
  have hother : ∀ {j : Nat}, j ≠ i → d'.orders.get? j = d.orders.get? j := fun hj => by
    rw [orders, Dict.get?_set_ne hj]
  have hold : ∀ {j : Nat} {b : Order}, d.orders.get? j = some b → j ≠ i := by
    rintro j b hb rfl
    rw [fresh] at hb
    cases hb
  cases coupon with
  | without absent =>
    constructor
    · intro j b couponId hb hselected hlive
      by_cases hj : j = i
      · subst hj
        rw [hself] at hb
        cases hb
        rw [absent] at hselected
        cases hselected
      · rw [hother hj] at hb
        obtain ⟨c, hc, hholds⟩ := hd.selected j b couponId hb hselected hlive
        exact ⟨c, by rw [@couponOf_congr d d' b couponId (by rw [coupons]), hc], hholds⟩
    · intro couponId c hc
      rw [coupons] at hc
      rcases hd.placed couponId c hc with hfree | ⟨j, b, hb, hselected, hholds⟩
      · exact .inl hfree
      · exact .inr ⟨j, b, by rw [hother (hold hb), hb], hselected, hholds⟩
  | @locked couponId coupon g selected found unused writes =>
    obtain ⟨hrow, hmerchant, huser⟩ := couponOf_some.mp found
    have hfree : coupon.Free := by
      refine (hd.placed couponId coupon hrow).resolve_right ?_
      rintro ⟨j, b, -, -, -, hstatus⟩
      rcases hstatus with ⟨-, hlocked⟩ | ⟨-, hused⟩
      · rw [unused] at hlocked
        cases hlocked
      · rw [unused] at hused
        cases hused
    have hcoupon : d'.userCoupons.get? couponId = some (g coupon) := by
      rw [coupons, Dict.get?_modify_self, hrow]
      rfl
    have hcoupons : ∀ {k : Nat}, k ≠ couponId → d'.userCoupons.get? k = d.userCoupons.get? k := fun hk => by
      rw [coupons, Dict.get?_modify_ne hk]
    have hwritten := writes coupon
    have hholds : o.Holds i (g coupon) := ⟨hwritten.effect.2, .inl ⟨pending, hwritten.effect.1⟩⟩
    constructor
    · intro j b k hb hselected hlive
      by_cases hj : j = i
      · subst hj
        rw [hself] at hb
        cases hb
        rw [selected] at hselected
        cases hselected
        refine ⟨g coupon, couponOf_some.mpr ⟨hcoupon, ?_, ?_⟩, hholds⟩
        · rw [hwritten.merchantId, hmerchant]
        · rw [hwritten.userId, huser]
      · rw [hother hj] at hb
        obtain ⟨c, hc, hheld⟩ := hd.selected j b k hb hselected hlive
        have hk : k ≠ couponId := by
          rintro rfl
          obtain ⟨hcrow, -⟩ := couponOf_some.mp hc
          rw [hrow] at hcrow
          cases hcrow
          exact hfree.not_held b j hheld
        exact ⟨c, by rw [@couponOf_congr d d' b k (hcoupons hk), hc], hheld⟩
    · intro k c hc
      by_cases hk : k = couponId
      · subst hk
        rw [hcoupon] at hc
        cases hc
        exact .inr ⟨i, o, hself, selected, hholds⟩
      · rw [hcoupons hk] at hc
        rcases hd.placed k c hc with hfree | ⟨j, b, hb, hselected, hheld⟩
        · exact .inl hfree
        · exact .inr ⟨j, b, by rw [hother (hold hb), hb], hselected, hheld⟩

/-- Free coupons come and go without the orders. -/
theorem Db.CouponsPlaced.freed {d d' : Db} (hd : d.CouponsPlaced) (orders : d'.orders = d.orders)
    (kept : ∀ k c, d.userCoupons.get? k = some c → ¬ c.Free → d'.userCoupons.get? k = some c)
    (origin : ∀ k c', d'.userCoupons.get? k = some c' → c'.Free ∨ d.userCoupons.get? k = some c') :
    d'.CouponsPlaced where
  selected i o couponId ho hselected hlive := by
    rw [orders] at ho
    obtain ⟨c, hc, hholds⟩ := hd.selected i o couponId ho hselected hlive
    obtain ⟨hrow, howner⟩ := couponOf_some.mp hc
    exact ⟨c, couponOf_some.mpr ⟨kept couponId c hrow fun hfree => hfree.not_held o i hholds, howner⟩, hholds⟩
  placed k c' hc' := by
    rcases origin k c' hc' with hfree | hc
    · exact .inl hfree
    · rw [orders]
      exact hd.placed k c' hc

theorem Trade.couponsPlaced {env : Deployment} {terms : Terms} {s s' : Shop} (h : Trade env terms s s')
    (hfresh : s.db.FreshFrom s.next) (hd : s.db.CouponsPlaced) : s'.db.CouponsPlaced := by
  cases h with
  | created created =>
    cases created with
    | mk merged unclaimed unordered window priced checked coupon stock items event =>
      obtain ⟨outbox, hframe, -⟩ := event.frame
      dsimp only
      rw [hframe]
      exact hd.created (hfresh _ (Nat.le_succ _)).orders rfl coupon rfl rfl
  | claimed claimed =>
    cases claimed with
    | @mk templateId userId t c template quota limit ofTemplate ofUser unused free =>
      have hnext := (hfresh _ (le_refl _)).userCoupons
      refine hd.freed rfl (fun k c hc _ => ?_) fun k c' hc' => ?_
      · have hk : k ≠ s.next := by
          rintro rfl
          rw [hnext] at hc
          cases hc
        dsimp only
        rw [Dict.get?_set_ne hk, hc]
      · by_cases hk : k = s.next
        · subst hk
          dsimp only at hc'
          rw [Dict.get?_set_self] at hc'
          cases hc'
          exact .inl ⟨.inl unused, free⟩
        · dsimp only at hc'
          rw [Dict.get?_set_ne hk] at hc'
          exact .inr hc'
  | swept swept =>
    cases swept with
    | mk ids unused =>
      have hfree : ∀ k ∈ ids, ∀ c, s.db.userCoupons.get? k = some c → c.Free := by
        intro k hk c hc
        obtain ⟨c', hc', hunused⟩ := unused k hk
        rw [hc] at hc'
        cases hc'
        refine (hd.placed k c hc).resolve_right ?_
        rintro ⟨j, b, -, -, -, hstatus⟩
        rcases hstatus with ⟨-, hlocked⟩ | ⟨-, hused⟩
        · rw [hunused] at hlocked
          cases hlocked
        · rw [hunused] at hused
          cases hused
      refine hd.freed rfl (fun k c hc hnot => ?_) fun k c' hc' => ?_
      · have hk : k ∉ ids := fun hk => hnot (hfree k hk c hc)
        dsimp only
        rw [Dict.get?_adjust, hc, Option.map_some, if_neg hk]
      · dsimp only at hc'
        rw [Dict.get?_adjust] at hc'
        obtain ⟨c, hc, rfl⟩ := Option.map_eq_some_iff.mp hc'
        split_ifs with hk
        · exact .inl ⟨.inr rfl, (hfree k hk c hc).2⟩
        · exact .inr hc
  | ended row pending held ending ended =>
    obtain ⟨d₁, d₂, hcoupon, -, rfl⟩ := ended.parts
    refine hd.moved row pending hcoupon (ending.samePurchase _) (fun c c' _ heffect => .inl ⟨heffect, ending.ended _⟩) rfl rfl
  | settled settling pending items coupon stock shell event =>
    obtain ⟨c₁, c₂, c₃, outbox, hcoupon, -, -, rfl⟩ := settled_parts coupon stock shell event
    refine hd.moved settling.order pending hcoupon ⟨rfl, rfl, rfl, rfl, rfl, rfl, rfl, rfl, rfl, rfl, rfl⟩
      (fun c c' hheld heffect => .inr ?_) rfl rfl
    have hpaid : PaymentStatus.paid ∈ settledPaymentStatuses := by decide
    exact ⟨heffect.2.trans hheld.2, .inr ⟨⟨.inl rfl, hpaid⟩, heffect.1⟩⟩
  | confirmed confirmed =>
    cases confirmed with
    | mk row processing =>
      refine hd.kept (Dict.grows_modify Order.Retains.refl fun b hb => ?_) rfl
      rw [row] at hb
      cases hb
      refine ⟨⟨rfl, rfl, rfl, rfl, rfl, rfl, rfl, rfl, rfl, rfl, rfl⟩, ?_, fun i c hc => ⟨hc.1, .inr ?_⟩⟩
      · unfold Order.Ended
        rw [processing]
        refine iff_of_false ?_ ?_
        · rintro (h | h) <;> cases h
        · rintro (h | h) <;> cases h
      · rcases hc.2 with ⟨hpending, -⟩ | ⟨⟨-, hpaid⟩, hused⟩
        · rw [processing] at hpending
          cases hpending
        · exact ⟨⟨.inr rfl, hpaid⟩, hused⟩

theorem Db.Quiet.couponsPlaced {d d' : Db} (h : d.Quiet d') (hd : d.CouponsPlaced) : d'.CouponsPlaced := by
  refine hd.kept ⟨fun i o ho => ?_, fun i o' ho' => .inl ?_⟩ h.userCoupons
  · obtain ⟨o', ho', hsame⟩ := h.orders.kept i o ho
    exact ⟨o', ho', hsame.retains⟩
  · obtain ⟨o, ho, hsame⟩ := (h.orders.origin i o' ho').resolve_right fun hn => hn.2
    exact ⟨o, ho, hsame.retains⟩

theorem Change.couponsPlaced {env : Deployment} {terms : Terms} {s s' : Shop} (h : Change env terms s s')
    (hfresh : s.db.FreshFrom s.next) (hd : s.db.CouponsPlaced) : s'.db.CouponsPlaced := by
  cases h with
  | booked booking => exact booking.quiet.couponsPlaced hd
  | traded trade => exact trade.couponsPlaced hfresh hd
  | shipped shipped => exact shipped.quiet.couponsPlaced hd

/-! ## Coupons of a template -/

/-- The coupons a template gave out. -/
def Db.issuedCoupons (d : Db) (templateId : Nat) : List (Nat × UserCoupon) :=
  d.userCoupons.select fun c => decide (c.templateId = templateId)

/-- A template counts the coupons it gave out, within its quota and the limit of each user. -/
def Db.CouponsIssued (d : Db) : Prop :=
  ∀ templateId t, d.couponTemplates.get? templateId = some t →
    t.issuedCount = (d.issuedCoupons templateId).length ∧ t.issuedCount ≤ t.totalQuota ∧
    ∀ userId, d.ownedCoupons templateId userId ≤ t.perUserLimit

/-- The coupon stays with its user and template. -/
def UserCoupon.SameGrant (c c' : UserCoupon) : Prop := c'.templateId = c.templateId ∧ c'.userId = c.userId

theorem UserCoupon.SameGrant.refl (c : UserCoupon) : c.SameGrant c := ⟨rfl, rfl⟩

/-- Coupons that are only moved are counted as before. -/
theorem Db.CouponsIssued.kept {d d' : Db} (hd : d.CouponsIssued)
    (coupons : d.userCoupons.Grows UserCoupon.SameGrant (fun _ => False) d'.userCoupons)
    (templates : d'.couponTemplates = d.couponTemplates) : d'.CouponsIssued := by
  intro templateId t ht
  rw [templates] at ht
  obtain ⟨hcount, hquota, hlimit⟩ := hd templateId t ht
  refine ⟨?_, hquota, fun userId => ?_⟩
  · rw [hcount]
    unfold Db.issuedCoupons
    rw [coupons.length_select fun c c' hsame => by rw [hsame.1]]
  · refine le_trans (le_of_eq ?_) (hlimit userId)
    unfold Db.ownedCoupons
    rw [coupons.length_select fun c c' hsame => by rw [hsame.1, hsame.2]]

theorem CouponMoved.grows {action : CouponAction} {orderId : Nat} {order : Order} {d d' : Db}
    (h : CouponMoved action orderId order d d') :
    d.userCoupons.Grows UserCoupon.SameGrant (fun _ => False) d'.userCoupons := by
  cases h with
  | unchanged _ => exact Dict.grows_refl UserCoupon.SameGrant.refl _
  | moved _ _ _ writes =>
    exact Dict.grows_modify UserCoupon.SameGrant.refl fun c _ => ⟨(writes c).templateId, (writes c).userId⟩

theorem CouponLocked.grows {orderId : Nat} {order : Order} {d d' : Db} (h : CouponLocked orderId order d d') :
    d.userCoupons.Grows UserCoupon.SameGrant (fun _ => False) d'.userCoupons := by
  cases h with
  | without _ => exact Dict.grows_refl UserCoupon.SameGrant.refl _
  | locked _ _ _ writes =>
    exact Dict.grows_modify UserCoupon.SameGrant.refl fun c _ => ⟨(writes c).templateId, (writes c).userId⟩

/-- A claim is counted by its template, and fits its quota and its user's limit. -/
theorem CouponClaimed.couponsIssued {next : Nat} {d d' : Db} (h : CouponClaimed next d d')
    (fresh : d.userCoupons.get? next = none) (hd : d.CouponsIssued) : d'.CouponsIssued := by
  cases h with
  | @mk templateId userId t c template quota limit ofTemplate ofUser unused free =>
    have hissued : ∀ q, (((d.userCoupons.set next c).select fun c => decide (c.templateId = q)).length : Int) =
        (d.issuedCoupons q).length + if templateId = q then 1 else 0 := by
      intro q
      unfold Db.issuedCoupons
      rw [Dict.length_select_set fresh, ofTemplate]
      simp only [decide_eq_true_eq]
    have howned : ∀ q u, (((d.userCoupons.set next c).select fun c => decide (c.templateId = q ∧ c.userId = u)).length : Int) =
        d.ownedCoupons q u + if templateId = q ∧ userId = u then 1 else 0 := by
      intro q u
      unfold Db.ownedCoupons
      rw [Dict.length_select_set fresh, ofTemplate, ofUser]
      simp only [decide_eq_true_eq]
    intro q row hrow
    unfold Db.issuedCoupons Db.ownedCoupons
    dsimp only at hrow ⊢
    rw [hissued]
    by_cases hq : q = templateId
    · -- the template whose row the claim holds
      subst hq
      rw [Dict.get?_modify_self, template] at hrow
      cases hrow
      obtain ⟨hcount, -, hlimit⟩ := hd q t template
      dsimp only
      refine ⟨by rw [hcount, if_pos rfl], by omega, fun u => ?_⟩
      rw [howned]
      by_cases hu : userId = u
      · subst hu
        rw [if_pos ⟨rfl, rfl⟩]
        omega
      · rw [if_neg fun h => hu h.2, add_zero]
        exact hlimit u
    · rw [Dict.get?_modify_ne hq] at hrow
      obtain ⟨hcount, hquota, hlimit⟩ := hd q row hrow
      refine ⟨by rw [hcount, if_neg (Ne.symm hq), add_zero], hquota, fun u => ?_⟩
      rw [howned, if_neg fun h => hq h.1.symm, add_zero]
      exact hlimit u

theorem Trade.couponsIssued {env : Deployment} {terms : Terms} {s s' : Shop} (h : Trade env terms s s')
    (hfresh : s.db.FreshFrom s.next) (hd : s.db.CouponsIssued) : s'.db.CouponsIssued := by
  cases h with
  | created created =>
    cases created with
    | mk merged unclaimed unordered window priced checked coupon stock items event =>
      obtain ⟨outbox, hframe, -⟩ := event.frame
      dsimp only
      rw [hframe]
      exact hd.kept coupon.grows rfl
  | claimed claimed => exact claimed.couponsIssued (hfresh _ (le_refl _)).userCoupons hd
  | swept swept =>
    cases swept with
    | mk ids unused =>
      have hswept : s.db.userCoupons.Grows UserCoupon.SameGrant (fun _ => False)
          (s.db.userCoupons.adjust fun id c => if id ∈ ids then { c with status := .expired } else c) := by
        refine Dict.grows_adjust fun k c _ => ?_
        split_ifs
        · exact ⟨rfl, rfl⟩
        · exact UserCoupon.SameGrant.refl c
      exact hd.kept hswept rfl
  | ended row pending held ending ended =>
    obtain ⟨d₁, d₂, hcoupon, -, rfl⟩ := ended.parts
    exact hd.kept hcoupon.grows rfl
  | settled settling pending items coupon stock shell event =>
    obtain ⟨c₁, c₂, c₃, outbox, hcoupon, -, -, rfl⟩ := settled_parts coupon stock shell event
    exact hd.kept hcoupon.grows rfl
  | confirmed confirmed =>
    cases confirmed with
    | mk row processing => exact hd

theorem Db.Quiet.couponsIssued {d d' : Db} (h : d.Quiet d') (hd : d.CouponsIssued) : d'.CouponsIssued := by
  refine hd.kept ?_ h.couponTemplates
  rw [h.userCoupons]
  exact Dict.grows_refl UserCoupon.SameGrant.refl _

theorem Change.couponsIssued {env : Deployment} {terms : Terms} {s s' : Shop} (h : Change env terms s s')
    (hfresh : s.db.FreshFrom s.next) (hd : s.db.CouponsIssued) : s'.db.CouponsIssued := by
  cases h with
  | booked booking => exact booking.quiet.couponsIssued hd
  | traded trade => exact trade.couponsIssued hfresh hd
  | shipped shipped => exact shipped.quiet.couponsIssued hd

/-! ## Every run -/

/-- A sweep leaves the coupons that are not unused. -/
theorem CouponsSwept.locked {d d' : Db} (h : CouponsSwept d d') {couponId : Nat} {c : UserCoupon}
    (hc : d.userCoupons.get? couponId = some c) (hlocked : c.status = .locked) :
    d'.userCoupons.get? couponId = some c := by
  cases h with
  | mk ids unused =>
    have hout : couponId ∉ ids := by
      intro hin
      obtain ⟨c', hc', hunused⟩ := unused couponId hin
      rw [hc] at hc'
      cases hc'
      rw [hlocked] at hunused
      cases hunused
    dsimp only
    rw [Dict.get?_adjust, hc, Option.map_some, if_neg hout]

theorem expireCoupons_locked (env : Deployment) (s : Shop) (now : Time) (limit : Nat) (lockedElsewhere : Nat → Bool)
    (n : Nat) {couponId : Nat} {c : UserCoupon} (hc : s.db.userCoupons.get? couponId = some c)
    (hlocked : c.status = .locked) :
    (s.after env (.expireCoupons now limit lockedElsewhere) n).db.userCoupons.get? couponId = some c := by
  have hleaves : Leaves (expireDueCoupons now limit lockedElsewhere) (Exec.start s.db s.next)
      fun _ d => d.userCoupons.get? couponId = some c :=
    leaves_transaction (noCommit_sweepCoupons _ _ _) fun _ e h => (sweepCoupons_swept h).2.locked hc hlocked
  rcases hleaves n with hlost | ⟨next, -, hsame⟩
  · show (runFor n (expireDueCoupons now limit lockedElsewhere) (Exec.start s.db s.next)).committed.userCoupons.get? _ = _
    rw [hlost]
    exact hc
  · exact hsame

theorem run_coupons {env : Deployment} {s : Shop} (h : s.Opening) (ops : List (Op × Nat)) :
    (s.run env ops).db.CouponsPlaced ∧ (s.run env ops).db.CouponsIssued := by
  have hplaced : s.db.CouponsPlaced := by
    constructor
    · intro i o couponId ho
      rw [h.orders] at ho
      cases ho
    · intro couponId c hc
      rw [h.userCoupons] at hc
      cases hc
  have hissued : s.db.CouponsIssued := by
    intro templateId t ht
    obtain ⟨hcount, hquota, hlimit⟩ := h.templates templateId t ht
    unfold Db.issuedCoupons Db.ownedCoupons
    rw [h.userCoupons, hcount]
    exact ⟨rfl, hquota.le, fun _ => hlimit.le⟩
  exact (run_keeps (I := fun s => s.db.FreshFrom s.next ∧ s.db.CouponsPlaced ∧ s.db.CouponsIssued)
    (fun s s' hchange hs => ⟨hchange.fresh hs.1, hchange.couponsPlaced hs.1 hs.2.1, hchange.couponsIssued hs.1 hs.2.2⟩)
    ⟨h.fresh, hplaced, hissued⟩ ops).2

/-- After every run: the orders that wait for their payment or were paid have their coupons for themselves; a coupon
is used for an order that was paid, and locked to an order that is pending; the coupon of a pending order is locked
to it, and can be used and given back; no sweep changes a locked coupon; and templates gave out what they count,
within their quotas and the limits of their users. -/
theorem coupons_lifecycle {env : Deployment} {s : Shop} (h : s.Opening) (ops : List (Op × Nat)) :
    let d := (s.run env ops).db
    (∀ i j a b couponId, d.orders.get? i = some a → d.orders.get? j = some b → a.couponId = some couponId →
      b.couponId = some couponId → ¬ a.Ended → ¬ b.Ended → i = j) ∧
    (∀ couponId c, d.userCoupons.get? couponId = some c → c.status = .locked ∨ c.status = .used →
      ∃ i o, d.orders.get? i = some o ∧ o.couponId = some couponId ∧ c.orderId = some i ∧
        (c.status = .locked → o.orderStatus = .pendingPayment) ∧ (c.status = .used → o.WasPaid)) ∧
    (∀ i o, d.orders.get? i = some o → o.orderStatus = .pendingPayment →
      (∀ couponId ∈ o.couponId, ∃ c, d.userCoupons.get? couponId = some c ∧ c.status = .locked ∧ c.orderId = some i) ∧
      ∀ now (e : Exec Db), e.view.userCoupons = d.userCoupons →
        (∃ e', (releaseCoupon i o now).run e = (.ok (), e')) ∧ ∃ e', (markUsed i o now).run e = (.ok (), e')) ∧
    (∀ now limit lockedElsewhere n couponId c, d.userCoupons.get? couponId = some c → c.status = .locked →
      ((s.run env ops).after env (.expireCoupons now limit lockedElsewhere) n).db.userCoupons.get? couponId = some c) ∧
    ∀ templateId t, d.couponTemplates.get? templateId = some t →
      t.issuedCount = (d.issuedCoupons templateId).length ∧ t.issuedCount ≤ t.totalQuota ∧
      ∀ userId, d.ownedCoupons templateId userId ≤ t.perUserLimit := by
  intro d
  obtain ⟨hplaced, hissued⟩ : d.CouponsPlaced ∧ d.CouponsIssued := run_coupons h ops
  refine ⟨fun i j a b couponId ha hb hsa hsb hla hlb => hplaced.unique ha hb hsa hsb hla hlb, ?_, ?_, ?_, hissued⟩
  · intro couponId c hc hbusy
    rcases hplaced.placed couponId c hc with hfree | ⟨i, o, ho, hselected, hholds⟩
    · rcases hbusy with hbusy | hbusy <;> rcases hfree.1 with hstatus | hstatus <;> rw [hbusy] at hstatus <;> cases hstatus
    · refine ⟨i, o, ho, hselected, hholds.1, fun hlocked => ?_, fun hused => ?_⟩
      · rcases hholds.2 with ⟨hpending, -⟩ | ⟨-, hused⟩
        · exact hpending
        · rw [hlocked] at hused
          cases hused
      · rcases hholds.2 with ⟨-, hlocked⟩ | ⟨hpaid, -⟩
        · rw [hused] at hlocked
          cases hlocked
        · exact hpaid
  · intro i o ho hpending
    have hlocked := hplaced.locked ho hpending
    refine ⟨fun couponId hselected => ?_, fun now e hview => ?_⟩
    · obtain ⟨c, hc, hheld⟩ := hlocked couponId hselected
      exact ⟨c, (couponOf_some.mp hc).1, hheld⟩
    · have hheld : ∀ couponId ∈ o.couponId, ∃ c, e.view.couponOf o couponId = some c ∧ c.HeldBy i := by
        intro couponId hselected
        rw [couponOf_congr (d := d) (by rw [hview])]
        exact hlocked couponId hselected
      obtain ⟨d₁, hrelease, -⟩ := @releaseCoupon_ok i o now e hheld
      obtain ⟨d₂, huse, -⟩ := @markUsed_ok i o now e hheld
      exact ⟨⟨_, hrelease⟩, ⟨_, huse⟩⟩
  · intro now limit lockedElsewhere n couponId c hc hlocked
    exact expireCoupons_locked env _ now limit lockedElsewhere n hc hlocked

/-- The customer claims the coupon and orders two cups with it: no sweep takes it from the order. -/
theorem coupons_lifecycle_cups :
    let run := couponShop.run couponDeployment
      [(.claimCoupon sampleCustomer 1 sampleNoon, 100), (.createOrder sampleCustomer couponCups sampleNoon, 1000)]
    ∃ c, run.db.userCoupons.get? 10 = some c ∧ c.status = .locked ∧ c.orderId = some 12 ∧
      ∀ now limit lockedElsewhere n,
        (run.after couponDeployment (.expireCoupons now limit lockedElsewhere) n).db.userCoupons.get? 10 = some c := by
  intro run
  have hrow : (run.db.orders.get? 12).map (fun o => (o.orderStatus, o.couponId)) = some (.pendingPayment, some 10) := by
    decide +kernel
  obtain ⟨o, ho, heq⟩ := Option.map_eq_some_iff.mp hrow
  obtain ⟨hpending, hcoupon⟩ := Prod.mk.inj heq
  obtain ⟨-, -, hheld, hswept, -⟩ := coupons_lifecycle couponShop_opening
    [(.claimCoupon sampleCustomer 1 sampleNoon, 100), (.createOrder sampleCustomer couponCups sampleNoon, 1000)]
  obtain ⟨c, hc, hlocked, horder⟩ := (hheld 12 o ho hpending).1 10 hcoupon
  exact ⟨c, hc, hlocked, horder, fun now limit lockedElsewhere n => hswept now limit lockedElsewhere n 10 c hc hlocked⟩

end NovaCommerce
