import NovaCommerce.Order.Preview
import NovaCommerce.Order.Replays
import NovaCommerce.Shop.Consistency

/-!
# Retrying a create in a run of the shop

* `Db.Requested` : request ids name orders, and a pending order holds its coupon;
* `Change.requests_kept`, `Change.catalogue` : no change touches the request of an order or the catalogue;
* `retry_replays_iff` : when a retry under another key returns the order that the first create made.
-/

namespace NovaCommerce

open Sql

/-! ## Requests -/

/-- The order keeps the request it was made by. -/
structure Order.SameRequest (o o' : Order) : Prop where
  userId : o'.userId = o.userId
  clientRequestId : o'.clientRequestId = o.clientRequestId
  requestHash : o'.requestHash = o.requestHash

theorem Order.SameRequest.refl (o : Order) : o.SameRequest o := ⟨rfl, rfl, rfl⟩

theorem Order.SameRequest.trans {a b c : Order} (h : a.SameRequest b) (k : b.SameRequest c) : a.SameRequest c :=
  ⟨k.userId.trans h.userId, k.clientRequestId.trans h.clientRequestId, k.requestHash.trans h.requestHash⟩

/-- Rows that are rewritten under their requests. -/
theorem requests_modify {d : Db} {orderId : Nat} {f : Order → Order} (hf : ∀ o : Order, o.SameRequest (f o)) :
    d.orders.Grows Order.SameRequest (fun _ => False) (d.orders.modify orderId f) :=
  Dict.grows_modify Order.SameRequest.refl fun o _ => hf o

theorem Booking.requests_kept {terms : Terms} {s s' : Shop} (h : Booking terms s s') :
    s.db.orders.Grows Order.SameRequest (fun _ => False) s'.db.orders := by
  cases h with
  | drawn _ => exact Dict.grows_refl Order.SameRequest.refl _
  | called _ _ => exact Dict.grows_refl Order.SameRequest.refl _
  | attempted created =>
    cases created with
    | replayed => exact Dict.grows_refl Order.SameRequest.refl _
    | created _ _ _ _ _ _ _ _ _ _ _ =>
      refine requests_modify fun o => ?_
      unfold Order.payingBy
      split_ifs
      · exact ⟨rfl, rfl, rfl⟩
      · exact Order.SameRequest.refl o
  | late settling closed first checked ensured =>
    cases ensured with
    | present _ => exact requests_modify fun o => ⟨rfl, rfl, rfl⟩
    | created _ _ _ _ _ _ => exact requests_modify fun o => ⟨rfl, rfl, rfl⟩
  | parked => exact Dict.grows_refl Order.SameRequest.refl _
  | compensated compensated =>
    cases compensated with
    | mk _ _ _ _ _ => exact requests_modify fun o => ⟨rfl, rfl, rfl⟩

theorem PackageShipped.requests_kept {next next' : Nat} {d d' : Db} (h : PackageShipped next d next' d') :
    d.orders.Grows Order.SameRequest (fun _ => False) d'.orders := by
  cases h with
  | mk found ofOrder unshipped carried kept residual =>
    have hs : ∀ axis : FulfillmentStatus, ∀ o : Order, o.SameRequest { o with fulfillmentStatus := axis } :=
      fun axis o => ⟨rfl, rfl, rfl⟩
    cases residual with
    | whole _ => exact Dict.grows_modify Order.SameRequest.refl fun o _ => hs _ o
    | split _ _ _ _ => exact Dict.grows_modify Order.SameRequest.refl fun o _ => hs _ o

/-- Orders keep their requests, and a new order is made by a request no order was made by. -/
structure RequestsKept (s : Shop) (d : Db) : Prop where
  kept : ∀ i o, s.db.orders.get? i = some o → ∃ o', d.orders.get? i = some o' ∧ o.SameRequest o'
  origin : ∀ i o', d.orders.get? i = some o' → (∃ o, s.db.orders.get? i = some o ∧ o.SameRequest o') ∨
    (i = s.next + 1 ∧ s.db.orderByClientRequestId o'.userId o'.clientRequestId = none)

theorem RequestsKept.of_grows {s : Shop} {d : Db}
    (h : s.db.orders.Grows Order.SameRequest (fun _ => False) d.orders) : RequestsKept s d :=
  ⟨h.kept, fun i o ho => .inl ((h.origin i o ho).resolve_right fun hn => hn.2)⟩

theorem RequestsKept.of_eq {s : Shop} {d : Db} (h : d.orders = s.db.orders) : RequestsKept s d :=
  .of_grows (by rw [h]; exact Dict.grows_refl Order.SameRequest.refl _)

theorem Trade.requests_kept {env : Deployment} {terms : Terms} {s s' : Shop} (h : Trade env terms s s')
    (hs : s.db.FreshFrom s.next) : RequestsKept s s'.db := by
  cases h with
  | created created =>
    cases created with
    | mk merged unclaimed unordered window priced checked coupon stock items event =>
      obtain ⟨outbox, hd, -⟩ := event.frame
      dsimp only
      rw [hd]
      refine ⟨fun i o ho => ⟨o, ?_, Order.SameRequest.refl o⟩, fun i o ho => ?_⟩
      · have hne : i ≠ s.next + 1 := by
          rintro rfl
          rw [(hs _ (Nat.le_succ _)).orders] at ho
          cases ho
        exact (Dict.get?_set_ne hne _).trans ho
      · dsimp only at ho
        by_cases hi : i = s.next + 1
        · subst hi
          rw [Dict.get?_set_self] at ho
          cases ho
          exact .inr ⟨rfl, unordered⟩
        · rw [Dict.get?_set_ne hi] at ho
          exact .inl ⟨o, ho, Order.SameRequest.refl o⟩
  | claimed claimed =>
    cases claimed with
    | mk _ _ _ _ _ _ _ => exact .of_eq rfl
  | swept swept =>
    cases swept with
    | mk _ _ => exact .of_eq rfl
  | ended row pending held ending ended =>
    obtain ⟨d₁, d₂, -, -, rfl⟩ := ended.parts
    refine .of_grows (requests_modify fun o => ?_)
    cases ending with
    | cancelled _ _ _ _ => exact ⟨rfl, rfl, rfl⟩
    | expired _ _ => exact ⟨rfl, rfl, rfl⟩
  | settled settling pending items coupon stock shell event =>
    obtain ⟨c₁, c₂, c₃, outbox, -, -, -, rfl⟩ := settled_parts coupon stock shell event
    exact .of_grows (requests_modify fun o => ⟨rfl, rfl, rfl⟩)
  | confirmed confirmed =>
    cases confirmed with
    | mk row processing => exact .of_grows (requests_modify fun o => ⟨rfl, rfl, rfl⟩)

/-- No change touches the request of an order. -/
theorem Change.requests_kept {env : Deployment} {terms : Terms} {s s' : Shop} (h : Change env terms s s')
    (hs : s.db.FreshFrom s.next) : RequestsKept s s'.db := by
  cases h with
  | booked booking => exact .of_grows booking.requests_kept
  | traded trade => exact trade.requests_kept hs
  | shipped shipped => exact .of_grows shipped.requests_kept

/-- A request names one order. -/
def Db.RequestsUnique (d : Db) : Prop :=
  ∀ i j a b, d.orders.get? i = some a → d.orders.get? j = some b → a.userId = b.userId →
    a.clientRequestId = b.clientRequestId → i = j

theorem not_ordered {d : Db} {userId : Nat} {clientRequestId : String}
    (h : d.orderByClientRequestId userId clientRequestId = none) {i : Nat} {o : Order} (ho : d.orders.get? i = some o) :
    ¬ (o.userId = userId ∧ o.clientRequestId = clientRequestId) :=
  of_decide_eq_false (Bool.not_eq_true _ ▸ Dict.find?_none.mp h (i, o) (Dict.get?_eq_some.mp ho))

theorem RequestsKept.unique {s : Shop} {d : Db} (h : RequestsKept s d) (hs : s.db.RequestsUnique) : d.RequestsUnique := by
  intro i j a b ha hb huser hrequest
  rcases h.origin i a ha with ⟨a₀, ha₀, hsame⟩ | ⟨rfl, hnone⟩
  · rcases h.origin j b hb with ⟨b₀, hb₀, hsame'⟩ | ⟨-, hnone'⟩
    · rw [hsame.userId, hsame'.userId] at huser
      rw [hsame.clientRequestId, hsame'.clientRequestId] at hrequest
      exact hs i j a₀ b₀ ha₀ hb₀ huser hrequest
    · refine absurd ⟨?_, ?_⟩ (not_ordered hnone' ha₀)
      · rw [← hsame.userId, huser]
      · rw [← hsame.clientRequestId, hrequest]
  · rcases h.origin j b hb with ⟨b₀, hb₀, hsame'⟩ | ⟨rfl, -⟩
    · refine absurd ⟨?_, ?_⟩ (not_ordered hnone hb₀)
      · rw [← hsame'.userId, huser]
      · rw [← hsame'.clientRequestId, hrequest]
    · rfl

/-- The order a request made is found by it. -/
theorem Db.RequestsUnique.find {d : Db} (h : d.RequestsUnique) {i : Nat} {o : Order} (ho : d.orders.get? i = some o) :
    d.orderByClientRequestId o.userId o.clientRequestId = some (i, o) := by
  cases hf : d.orderByClientRequestId o.userId o.clientRequestId with
  | none => exact absurd ⟨rfl, rfl⟩ (not_ordered hf ho)
  | some found =>
    obtain ⟨j, b⟩ := found
    obtain ⟨hb, hsame⟩ := Dict.find?_some hf
    obtain ⟨huser, hrequest⟩ := of_decide_eq_true hsame
    obtain rfl := h i j o b ho hb huser.symm hrequest.symm
    rw [hb] at ho
    cases ho
    rfl

/-! ## The coupons of pending orders -/

/-- A movement of another order's coupon leaves a held coupon alone. -/
theorem CouponMoved.held {action : CouponAction} {orderId i : Nat} {order : Order} {d d' : Db}
    (h : CouponMoved action orderId order d d') (hne : orderId ≠ i) {couponId : Nat} {c : UserCoupon}
    (hc : d.userCoupons.get? couponId = some c) (hheld : c.HeldBy i) : d'.userCoupons.get? couponId = some c := by
  cases h with
  | unchanged _ => exact hc
  | @moved movedId coupon f selected found locked writes =>
    have hid : couponId ≠ movedId := by
      rintro rfl
      have hrow := (Option.filter_eq_some_iff.mp found).1
      rw [hc] at hrow
      cases hrow
      exact hne (Option.some.inj (locked.2.symm.trans hheld.2))
    exact (Dict.get?_modify_ne hid _).trans hc

/-- Taking an unused coupon leaves a held coupon alone. -/
theorem CouponLocked.held {orderId i : Nat} {order : Order} {d d' : Db} (h : CouponLocked orderId order d d')
    {couponId : Nat} {c : UserCoupon} (hc : d.userCoupons.get? couponId = some c) (hheld : c.HeldBy i) :
    d'.userCoupons.get? couponId = some c := by
  cases h with
  | without _ => exact hc
  | @locked lockedId coupon f selected found unused writes =>
    have hid : couponId ≠ lockedId := by
      rintro rfl
      have hrow := (Option.filter_eq_some_iff.mp found).1
      rw [hc] at hrow
      cases hrow
      have hstatus := hheld.1
      rw [unused] at hstatus
      cases hstatus
    exact (Dict.get?_modify_ne hid _).trans hc

/-- The coupon a new order selected is held by it. -/
theorem CouponLocked.holds {orderId : Nat} {order : Order} {d d' : Db} (h : CouponLocked orderId order d d') :
    ∀ couponId ∈ order.couponId, ∃ c, d'.userCoupons.get? couponId = some c ∧ c.HeldBy orderId := by
  intro couponId hselected
  cases h with
  | without absent =>
    rw [absent] at hselected
    cases hselected
  | @locked lockedId coupon f selected found unused writes =>
    obtain rfl : couponId = lockedId := Option.some.inj (hselected.symm.trans selected)
    have hrow := (Option.filter_eq_some_iff.mp found).1
    refine ⟨f coupon, ?_, (writes coupon).effect⟩
    show (d.userCoupons.modify couponId f).get? couponId = _
    rw [Dict.get?_modify_self, hrow]
    rfl

/-- A pending order holds the coupon it selected. -/
def Db.CouponsHeld (d : Db) : Prop :=
  ∀ i o, d.orders.get? i = some o → o.orderStatus = .pendingPayment → ∀ couponId ∈ o.couponId,
    ∃ c, d.userCoupons.get? couponId = some c ∧ c.HeldBy i

/-- Orders that stay pending, with coupons that stay held. -/
theorem Db.CouponsHeld.of_advanced {d d' : Db} (hd : d.CouponsHeld)
    (horders : ∀ i o', d'.orders.get? i = some o' → o'.orderStatus = .pendingPayment →
      ∃ o, d.orders.get? i = some o ∧ o.Advances o' ∧ ∀ couponId c, d.userCoupons.get? couponId = some c → c.HeldBy i →
        ∃ c', d'.userCoupons.get? couponId = some c' ∧ c'.HeldBy i) : d'.CouponsHeld := by
  intro i o' ho' hpending couponId hselected
  obtain ⟨o, ho, hadvances, hcoupons⟩ := horders i o' ho' hpending
  rw [hadvances.couponId] at hselected
  obtain ⟨c, hc, hheld⟩ := hd i o ho (hadvances.pending hpending) couponId hselected
  exact hcoupons couponId c hc hheld

theorem Db.Quiet.couponsHeld {d d' : Db} (h : d.Quiet d') (hd : d.CouponsHeld) : d'.CouponsHeld := by
  refine hd.of_advanced fun i o' ho' _ => ?_
  obtain ⟨o, ho, hsame⟩ := (h.orders.origin i o' ho').resolve_right fun hn => hn.2
  refine ⟨o, ho, hsame.advances, fun couponId c hc hheld => ⟨c, ?_, hheld⟩⟩
  rw [h.userCoupons]
  exact hc

theorem Trade.couponsHeld {env : Deployment} {terms : Terms} {s s' : Shop} (h : Trade env terms s s')
    (hs : s.db.FreshFrom s.next) (hd : s.db.CouponsHeld) : s'.db.CouponsHeld := by
  have hgrows := (Change.traded h : Change env terms s s').orders_advance hs
  cases h with
  | created created =>
    cases created with
    | mk merged unclaimed unordered window priced checked coupon stock items event =>
      obtain ⟨outbox, hframe, -⟩ := event.frame
      dsimp only at hgrows ⊢
      rw [hframe] at hgrows ⊢
      intro i o ho hpending couponId hselected
      dsimp only at ho
      by_cases hi : i = s.next + 1
      · subst hi
        rw [Dict.get?_set_self] at ho
        cases ho
        exact coupon.holds couponId hselected
      · rw [Dict.get?_set_ne hi] at ho
        obtain ⟨c, hc, hheld⟩ := hd i o ho hpending couponId hselected
        exact ⟨c, coupon.held hc hheld, hheld⟩
  | claimed claimed =>
    cases claimed with
    | mk _ _ _ _ _ _ _ =>
      refine hd.of_advanced fun i o ho _ => ⟨o, ho, Order.Advances.refl o, fun couponId c hc hheld => ⟨c, ?_, hheld⟩⟩
      have hne : couponId ≠ s.next := by
        rintro rfl
        rw [(hs _ (le_refl _)).userCoupons] at hc
        cases hc
      exact (Dict.get?_set_ne hne _).trans hc
  | swept swept =>
    cases swept with
    | mk ids unused =>
      refine hd.of_advanced fun i o ho _ => ⟨o, ho, Order.Advances.refl o, fun couponId c hc hheld => ⟨c, ?_, hheld⟩⟩
      dsimp only
      rw [Dict.get?_adjust, hc, Option.map_some]
      split_ifs with hid
      · obtain ⟨c', hc', hunused⟩ := unused couponId hid
        rw [hc] at hc'
        cases hc'
        have hstatus := hheld.1
        rw [hunused] at hstatus
        cases hstatus
      · rfl
  | @ended d orderId order cause now attempts write log row pending held ending ended =>
    obtain ⟨d₁, d₂, hcoupon, -, rfl⟩ := ended.parts
    refine hd.of_advanced fun i o' ho' hpending => ?_
    by_cases hi : orderId = i
    · -- the order itself ended
      subst hi
      dsimp only at ho'
      rw [Dict.get?_modify_self, row] at ho'
      cases ho'
      exact absurd (ending.ended order) (not_ended_of_pending hpending)
    · obtain ⟨o, ho, hadvances⟩ := (hgrows.origin i o' ho').resolve_right fun hn => by
        dsimp only at ho'
        rw [Dict.get?_modify_ne (Ne.symm hi), hn.1] at ho'
        cases ho'
      exact ⟨o, ho, hadvances, fun couponId c hc hheld => ⟨c, hcoupon.held hi hc hheld, hheld⟩⟩
  | @settled next d₁ d₂ d₃ d₄ request paymentId orderId p o externalTransactionNo now settling pending items coupon stock shell event =>
    obtain ⟨c₁, c₂, c₃, outbox, hcoupon, -, -, rfl⟩ := settled_parts coupon stock shell event
    refine hd.of_advanced fun i o' ho' hpending => ?_
    by_cases hi : orderId = i
    · -- the order itself was paid
      subst hi
      dsimp only at ho'
      rw [Dict.get?_modify_self, settling.order] at ho'
      cases ho'
      cases hpending
    · obtain ⟨o, ho, hadvances⟩ := (hgrows.origin i o' ho').resolve_right fun hn => by
        dsimp only at ho'
        rw [Dict.get?_modify_ne (Ne.symm hi), hn.1] at ho'
        cases ho'
      exact ⟨o, ho, hadvances, fun couponId c hc hheld => ⟨c, hcoupon.held hi hc hheld, hheld⟩⟩
  | confirmed confirmed =>
    cases confirmed with
    | mk row processing =>
      refine hd.of_advanced fun i o' ho' _ => ?_
      obtain ⟨o, ho, hadvances⟩ := (hgrows.origin i o' ho').resolve_right fun hn => by
        dsimp only at ho'
        rw [Dict.get?_modify_none hn.1] at ho'
        cases ho'
      exact ⟨o, ho, hadvances, fun couponId c hc hheld => ⟨c, hc, hheld⟩⟩

theorem Change.couponsHeld {env : Deployment} {terms : Terms} {s s' : Shop} (h : Change env terms s s')
    (hs : s.db.FreshFrom s.next) (hd : s.db.CouponsHeld) : s'.db.CouponsHeld := by
  cases h with
  | booked booking => exact booking.quiet.couponsHeld hd
  | traded trade => exact trade.couponsHeld hs hd
  | shipped shipped => exact shipped.quiet.couponsHeld hd

/-! ## The catalogue -/

/-- The addresses and the catalogue are as they were. -/
structure Db.SameCatalogue (d d' : Db) : Prop where
  addresses : d'.addresses = d.addresses
  productSkus : d'.productSkus = d.productSkus
  products : d'.products = d.products

theorem Db.SameCatalogue.refl (d : Db) : d.SameCatalogue d := ⟨rfl, rfl, rfl⟩

theorem Db.SameCatalogue.trans {a b c : Db} (h : a.SameCatalogue b) (k : b.SameCatalogue c) : a.SameCatalogue c :=
  ⟨k.addresses.trans h.addresses, k.productSkus.trans h.productSkus, k.products.trans h.products⟩

theorem PackageShipped.sameCatalogue {next next' : Nat} {d d' : Db} (h : PackageShipped next d next' d') :
    d.SameCatalogue d' := by
  cases h with
  | mk found ofOrder unshipped carried kept residual => cases residual <;> exact ⟨rfl, rfl, rfl⟩

/-- No session of the shop edits the catalogue. -/
theorem Change.sameCatalogue {env : Deployment} {terms : Terms} {s s' : Shop} (h : Change env terms s s') :
    s.db.SameCatalogue s'.db := by
  cases h with
  | booked booking =>
    cases booking with
    | drawn _ => exact .refl _
    | called _ _ => exact ⟨rfl, rfl, rfl⟩
    | attempted created => cases created <;> exact ⟨rfl, rfl, rfl⟩
    | late _ _ _ _ ensured => cases ensured <;> exact ⟨rfl, rfl, rfl⟩
    | parked => exact ⟨rfl, rfl, rfl⟩
    | compensated compensated =>
      cases compensated
      exact ⟨rfl, rfl, rfl⟩
  | traded trade =>
    cases trade with
    | created created =>
      cases created with
      | mk merged unclaimed unordered window priced checked coupon stock items event =>
        obtain ⟨outbox, hd, -⟩ := event.frame
        dsimp only
        rw [hd]
        exact ⟨rfl, rfl, rfl⟩
    | claimed claimed =>
      cases claimed
      exact ⟨rfl, rfl, rfl⟩
    | swept swept =>
      cases swept
      exact ⟨rfl, rfl, rfl⟩
    | ended row pending held ending ended =>
      obtain ⟨d₁, d₂, -, -, rfl⟩ := ended.parts
      exact ⟨rfl, rfl, rfl⟩
    | settled settling pending items coupon stock shell event =>
      obtain ⟨c₁, c₂, c₃, outbox, -, -, -, rfl⟩ := settled_parts coupon stock shell event
      exact ⟨rfl, rfl, rfl⟩
    | confirmed confirmed =>
      cases confirmed
      exact ⟨rfl, rfl, rfl⟩
  | shipped shipped => exact shipped.sameCatalogue

/-! ## Runs -/

/-- Request ids name orders, and pending orders hold their coupons. -/
structure Shop.Requested (s : Shop) : Prop where
  fresh : s.db.FreshFrom s.next
  unique : s.db.RequestsUnique
  held : s.db.CouponsHeld

theorem Change.requested {env : Deployment} {terms : Terms} {s s' : Shop} (h : Change env terms s s')
    (hs : s.Requested) : s'.Requested :=
  ⟨h.fresh hs.fresh, (h.requests_kept hs.fresh).unique hs.unique, h.couponsHeld hs.fresh hs.held⟩

theorem Shop.Opening.requested {s : Shop} (h : s.Opening) : s.Requested where
  fresh := h.fresh
  unique i _ _ _ ha := by
    rw [h.orders] at ha
    cases ha
  held i _ ho := by
    rw [h.orders] at ho
    cases ho

theorem run_requested (env : Deployment) {s : Shop} (hs : s.Requested) (ops : List (Op × Nat)) : (s.run env ops).Requested :=
  run_keeps (fun _ _ h hs => h.requested hs) hs ops

theorem run_sameCatalogue (env : Deployment) (s : Shop) (ops : List (Op × Nat)) : s.db.SameCatalogue (s.run env ops).db :=
  run_keeps (I := fun s' => s.db.SameCatalogue s'.db) (fun _ _ h hs => hs.trans h.sameCatalogue) (.refl _) ops

/-- A run keeps the request and the coupon of an order. -/
theorem run_keeps_request (env : Deployment) {s : Shop} (hs : s.Requested) {i : Nat} {first : Order}
    (hrow : s.db.orders.get? i = some first) (ops : List (Op × Nat)) :
    ∃ o, (s.run env ops).db.orders.get? i = some o ∧ first.SameRequest o ∧ o.couponId = first.couponId := by
  have hkeeps : ∀ s₁ s₂, Change env {} s₁ s₂ →
      (s₁.Requested ∧ ∃ o, s₁.db.orders.get? i = some o ∧ first.SameRequest o ∧ o.couponId = first.couponId) →
      s₂.Requested ∧ ∃ o, s₂.db.orders.get? i = some o ∧ first.SameRequest o ∧ o.couponId = first.couponId := by
    rintro s₁ s₂ h ⟨hs₁, o, ho, hrequest, hcoupon⟩
    obtain ⟨o', ho', hrequest'⟩ := (h.requests_kept hs₁.fresh).kept i o ho
    obtain ⟨o'', ho'', hpurchase⟩ := (h.orders_grow hs₁.fresh).kept i o ho
    rw [ho'] at ho''
    cases ho''
    exact ⟨h.requested hs₁, o', ho', hrequest.trans hrequest', hpurchase.couponId.trans hcoupon⟩
  exact (run_keeps hkeeps ⟨hs, first, hrow, Order.SameRequest.refl first, rfl⟩ ops).2

/-! ## The retry -/

/-- The orders and the coupons are as the sessions of the shop left them; anything else may have been edited. -/
structure Db.SameOrders (d d' : Db) : Prop where
  orders : d'.orders = d.orders
  userCoupons : d'.userCoupons = d.userCoupons

/-- A create committed an order, any sessions followed, and the order is still pending. Then a retry of the create under a
fresh key returns the order, and commits nothing, exactly where it selects no coupon, the address is still the customer's,
the cart is still on sale, and the payment window of another order could still be computed. The address and the cart are
what they were unless they were edited in between. -/
theorem retry_replays_iff {env : Deployment} {s₀ : Shop} (hopening : s₀.Opening) (ops₁ ops₂ : List (Op × Nat))
    {principal : Principal} {request : CreateOrderRequest} {now : Time} {first : CreateOrderResult} {e₁ : Exec Db}
    (hfirst : (createOrder env principal request now).run
      (Exec.start (s₀.run env ops₁).db (s₀.run env ops₁).next) = (.ok first, e₁)) (hnew : first.replayed = false)
    {d : Db} (hd : (Shop.run env ops₂ ⟨e₁.committed, e₁.next⟩).db.SameOrders d) {o : Order}
    (ho : d.orders.get? first.orderId = some o) (hpending : o.orderStatus = .pendingPayment) {key : String} (hkey : key ≠ "")
    (hfresh : d.idempotencyAt orderCreateScope key = none)
    (hconfig : ∀ i p, d.promotions.get? i = some p → p.ruleConfig.Valid)
    (hprices : ∀ i sku, d.productSkus.get? i = some sku → 0 ≤ sku.priceAmount) (now' : Time) (next : Nat) :
    ∃ lines, mergeOrderLines request.items = .ok lines ∧
      (Replays first.orderId o d
          ((createOrder env principal { request with idempotencyKey := key } now').run (Exec.start d next)) ↔
        request.couponId = none ∧ (d.ownedAddress request.addressId principal.userId).isSome ∧ (∃ m, d.OnSale lines m) ∧
          now' + 60000 * env.settings.orderPaymentTimeoutMinutes ≤ maxTime) ∧
      ((Shop.run env ops₂ ⟨e₁.committed, e₁.next⟩).db.SameCatalogue d →
        (d.ownedAddress request.addressId principal.userId).isSome ∧ ∃ m, d.OnSale lines m) := by
  obtain ⟨lines, claims, p, e₂, e₃, hlines, hview, hprice, hplaced⟩ := createOrder_placed hfirst hnew
  -- the first create is a session of the run
  obtain ⟨n, hn⟩ := exists_runFor_eq (createOrder env principal request now)
    (Exec.start (s₀.run env ops₁).db (s₀.run env ops₁).next)
  rw [hfirst] at hn
  have hafter : (s₀.run env ops₁).run env [(.createOrder principal request now, n)] = ⟨e₁.committed, e₁.next⟩ := by
    show Shop.mk (runFor n (createOrder env principal request now) _).committed
      (runFor n (createOrder env principal request now) _).next = _
    rw [hn]
  have hs₁ : Shop.Requested ⟨e₁.committed, e₁.next⟩ := by
    rw [← hafter]
    exact run_requested env (run_requested env hopening.requested ops₁) _
  have hrow : e₁.committed.orders.get? first.orderId = some first.order := by rw [hplaced.orders, Dict.get?_set_self]
  obtain ⟨o₂, ho₂, hsame, hcoupon⟩ := run_keeps_request env hs₁ hrow ops₂
  have hs₂ := run_requested env hs₁ ops₂
  obtain rfl : o₂ = o := by
    rw [hd.orders, ho₂] at ho
    exact Option.some.inj ho
  have hfound : d.orderByClientRequestId principal.userId request.clientRequestId = some (first.orderId, o₂) := by
    have hby := hs₂.unique.find ho₂
    rw [hsame.userId, hsame.clientRequestId, hplaced.order] at hby
    unfold Db.orderByClientRequestId at hby ⊢
    rw [hd.orders]
    exact hby
  have hhash : o₂.requestHash = canonicalRequestHash env principal.userId lines request.addressId request.couponId
      request.remark := by
    rw [hsame.requestHash, hplaced.order]
    rfl
  have hheld : ∀ couponId ∈ request.couponId, ∀ c, d.userCoupons.get? couponId = some c → c.status ≠ .unused := by
    intro couponId hselected c hc hunused
    have hof : couponId ∈ o₂.couponId := by
      rw [hcoupon, hplaced.order]
      exact hselected
    obtain ⟨c', hc', hheld⟩ := hs₂.held first.orderId o₂ ho₂ hpending couponId hof
    rw [hd.userCoupons, hc'] at hc
    cases hc
    rw [hheld.1] at hunused
    cases hunused
  have hretried : Replays first.orderId o₂ d
        ((createOrder env principal { request with idempotencyKey := key } now').run (Exec.start d next)) ↔
      request.couponId = none ∧ (d.ownedAddress request.addressId principal.userId).isSome ∧ (∃ m, d.OnSale lines m) ∧
        now' + 60000 * env.settings.orderPaymentTimeoutMinutes ≤ maxTime :=
    createOrder_retried_iff hkey hfresh hlines hfound hhash hheld hconfig hprices
  refine ⟨lines, hlines, hretried, fun hkept => ?_⟩
  -- what the first create was priced from is still there
  obtain ⟨haddress, m, hsale⟩ := priceOrder_onSale hprice
  have hcatalogue : (s₀.run env ops₁).db.SameCatalogue d := by
    have hcreate := run_sameCatalogue env (s₀.run env ops₁) [(.createOrder principal request now, n)]
    rw [hafter] at hcreate
    exact (hcreate.trans (run_sameCatalogue env _ ops₂)).trans hkept
  rw [hview] at haddress hsale
  refine ⟨?_, m, hsale.transfer hcatalogue.productSkus hcatalogue.products⟩
  unfold Db.ownedAddress at haddress ⊢
  rw [hcatalogue.addresses]
  exact haddress

/-! A retry without a coupon, and one with a coupon. -/

/-- The shop with a coupon of 1.00 off that a customer can claim. -/
def couponShop : Shop where
  db := { sampleShop.db with
    promotions := Dict.empty
    couponTemplates := Dict.ofList [(1, {
      merchantId := 1
      couponType := .fixedAmount
      status := .active
      faceValueAmount := some 100
      totalQuota := 5
      perUserLimit := 1
      validityType := .relative
      validDays := some 7
      applicableScope := { allProducts := true } })] }
  next := 10

/-- The deployment that orders the cups with and without the coupon. -/
def couponDeployment : Deployment where
  settings := {}
  upperText := id
  lowerText := id
  isAlnumChar := fun _ => false
  sha256Hex := fun s => (((
    "\x7b\"address_id\":1,\"coupon_id\":10,\"items\":[[1,2]],\"remark\":\"\",\"user_id\":1\x7d",
    "aa6397ae4626dac3051eca7f520a8de303d44e86ae30e18fba62c71ac5de59d4") :: sampleDigests).lookup s).getD ""
  hmacHex := fun _ _ => ""
  jsonLoads := fun _ => none

/-- The customer claims the coupon. -/
def couponClaimed : Shop := couponShop.run couponDeployment [(.claimCoupon sampleCustomer 1 sampleNoon, 100)]

/-- The two cups, with the coupon. -/
def couponCups : CreateOrderRequest := { sampleCups with couponId := some 10 }

/-- What the customer is answered to an order, and the shop afterwards. -/
def orderedIn (s : Shop) (request : CreateOrderRequest) : Except AppError CreateOrderResult × Exec Db :=
  (createOrder couponDeployment sampleCustomer request sampleNoon).run (Exec.start s.db s.next)

theorem couponShop_opening : couponShop.Opening where
  fresh _ _ := ⟨rfl, rfl, rfl, rfl, rfl, rfl, rfl, rfl, rfl, rfl, rfl⟩
  orders := rfl
  orderItems := rfl
  statusLogs := rfl
  payments := rfl
  compensations := rfl
  fulfillments := rfl
  userCoupons := rfl
  unlocked i row h := by
    have hrows : ∀ e ∈ couponShop.db.inventories.entries, e.2.lockedQty = 0 := by decide
    exact hrows (i, row) (Dict.get?_eq_some.mp h)
  keys := List.nodup_nil
  ownKeys _ h := nomatch h
  templates i t h := by
    have hrows : ∀ e ∈ couponShop.db.couponTemplates.entries, e.2.issuedCount = 0 ∧ 0 < e.2.totalQuota ∧ 0 < e.2.perUserLimit := by
      decide
    exact hrows (i, t) (Dict.get?_eq_some.mp h)
  promotions i p h := by
    have hrows : couponShop.db.promotions.get? i = none := rfl
    rw [hrows] at h
    cases h

theorem retry_replays_iff_cups : ∃ first o, (orderedIn couponShop sampleCups).1 = .ok first ∧
    Replays first.orderId o (orderedIn couponShop sampleCups).2.committed
      ((createOrder couponDeployment sampleCustomer { sampleCups with idempotencyKey := "cups-again" } sampleNoon).run
        (Exec.start (orderedIn couponShop sampleCups).2.committed 100)) := by
  have hanswer : ((orderedIn couponShop sampleCups).1.toOption.map fun r => (r.orderId, r.replayed)) = some (11, false) := by
    decide +kernel
  obtain ⟨first, hfirst, heq⟩ := Option.map_eq_some_iff.mp hanswer
  obtain ⟨hid, hnew⟩ := Prod.mk.inj heq
  have hrow : ((orderedIn couponShop sampleCups).2.committed.orders.get? 11).map Order.orderStatus = some .pendingPayment := by
    decide +kernel
  obtain ⟨o, ho, hpending⟩ := Option.map_eq_some_iff.mp hrow
  rw [← hid] at ho
  have hfresh : (orderedIn couponShop sampleCups).2.committed.idempotencyAt orderCreateScope "cups-again" = none := by
    decide +kernel
  have hconfig : ∀ i p, (orderedIn couponShop sampleCups).2.committed.promotions.get? i = some p → p.ruleConfig.Valid := by
    have hnone : (orderedIn couponShop sampleCups).2.committed.promotions.entries = [] := by decide +kernel
    intro i p hp
    have hmem := Dict.get?_eq_some.mp hp
    rw [hnone] at hmem
    cases hmem
  have hprices : ∀ i sku, (orderedIn couponShop sampleCups).2.committed.productSkus.get? i = some sku → 0 ≤ sku.priceAmount := by
    have hrows : ∀ e ∈ (orderedIn couponShop sampleCups).2.committed.productSkus.entries, 0 ≤ e.2.priceAmount := by decide +kernel
    exact fun i sku hsku => hrows (i, sku) (Dict.get?_eq_some.mp hsku)
  obtain ⟨lines, hlines, hiff, hkept⟩ := retry_replays_iff couponShop_opening [] [] (run_eq_ok_of_toOption hfirst) hnew
    ⟨rfl, rfl⟩ ho hpending (by decide) hfresh hconfig hprices sampleNoon 100
  obtain ⟨haddress, hsale⟩ := hkept (.refl _)
  exact ⟨first, o, by rw [run_eq_ok_of_toOption hfirst], hiff.mpr ⟨rfl, haddress, hsale, by decide⟩⟩

/-- The order with the coupon was committed and waits for its payment; its retry is refused, for the coupon it holds. -/
theorem retry_with_coupon_refused :
    ((orderedIn couponClaimed couponCups).1.toOption.map fun r => (r.orderId, r.replayed)) = some (12, false) ∧
    ((orderedIn couponClaimed couponCups).2.committed.orders.get? 12).map Order.orderStatus = some .pendingPayment ∧
    (match ((createOrder couponDeployment sampleCustomer { couponCups with idempotencyKey := "cups-again" } sampleNoon).run
        (Exec.start (orderedIn couponClaimed couponCups).2.committed 100)).1 with
      | .ok _ => none
      | .error x => some x.kind) = some .couponAlreadyLocked := by
  decide +kernel

end NovaCommerce
