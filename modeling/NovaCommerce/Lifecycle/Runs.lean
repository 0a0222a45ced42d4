import NovaCommerce.AfterSales.Returns
import NovaCommerce.Shop.Packages

/-!
# The shop and its after-sales

* `Session` : a session of the shop or of its after-sales; `Shop.live env sessions s` : the shop after a list of them;
* `Db.SameClaims` : what a change of the shop leaves of the claims (`Change.sameClaims`);
* `Db.SameGoods` : what after-sales leave of orders and goods (`AfterSaleEffect.sameGoods`);
* `Shop.Running` : what both keep (`Change.running`, `AfterSaleEffect.running`);
* `LifeKeeps` : a condition that every change and every effect keep, every life of the shop keeps (`LifeKeeps.run`).
-/

namespace NovaCommerce

open Sql

/-! ## Sessions -/

/-- A session of the shop, or of its after-sales. -/
inductive Session where
  | shop (op : Op)
  | afterSale (op : AfterSaleOp)

/-- The shop after a session was lost behind its first `n` statements. -/
def Shop.session (env : Deployment) (s : Shop) : Session → Nat → Shop
  | .shop op, n => s.after env op n
  | .afterSale op, n => s.afterSale env op n

/-- The shop after a list of sessions. -/
def Shop.live (env : Deployment) : List (Session × Nat) → Shop → Shop
  | [], s => s
  | (session, n) :: sessions, s => Shop.live env sessions (s.session env session n)

/-- The after-sales of a list of sessions meet a condition on the database they begin on. -/
def Shop.LivesBy (env : Deployment) (ok : AfterSaleOp → Db → Prop) : List (Session × Nat) → Shop → Prop
  | [], _ => True
  | (session, n) :: sessions, s =>
    (∀ op, session = .afterSale op → ok op s.db) ∧ Shop.LivesBy env ok sessions (s.session env session n)

/-! ## What a change leaves of the claims -/

/-- The claims are as they were, and nothing came back to stock. -/
structure Db.SameClaims (d d' : Db) : Prop where
  afterSales : d'.afterSales = d.afterSales
  afterSaleItems : d'.afterSaleItems = d.afterSaleItems
  movements : ∃ ms, d'.movements = d.movements ++ ms ∧ ∀ m ∈ ms, m.movementType ≠ .returnIn
  keys : d.MovementKeys → d'.MovementKeys

theorem Db.SameClaims.still {d d' : Db} (afterSales : d'.afterSales = d.afterSales)
    (afterSaleItems : d'.afterSaleItems = d.afterSaleItems) (movements : d'.movements = d.movements) : d.SameClaims d' where
  afterSales := afterSales
  afterSaleItems := afterSaleItems
  movements := ⟨[], by rw [movements, List.append_nil], fun _ h => nomatch h⟩
  keys h := by
    unfold Db.MovementKeys
    rw [movements]
    exact h

/-- Stock moves, but nothing comes back. -/
theorem Moves.sameClaims {op : StockOperation} (hop : op.movementType ≠ .returnIn) {now : Time}
    {requests : List StockRequest} {d c d' : Db} (h : Moves op now requests d c)
    (afterSales : d'.afterSales = d.afterSales) (afterSaleItems : d'.afterSaleItems = d.afterSaleItems)
    (movements : d'.movements = c.movements) : d.SameClaims d' where
  afterSales := afterSales
  afterSaleItems := afterSaleItems
  movements := by
    obtain ⟨ms, inventories, hc, hms⟩ := h.frame
    refine ⟨ms, by rw [movements, hc], fun m hm => ?_⟩
    obtain ⟨request, -, row, rfl⟩ := hms m hm
    exact hop
  keys hk := by
    unfold Db.MovementKeys
    rw [movements]
    exact h.movementKeys hk

theorem Booking.sameClaims {terms : Terms} {s s' : Shop} (h : Booking terms s s') : s.db.SameClaims s'.db := by
  cases h with
  | drawn _ => exact .still rfl rfl rfl
  | called _ _ => exact .still rfl rfl rfl
  | attempted created =>
    cases created with
    | replayed => exact .still rfl rfl rfl
    | created _ _ _ _ _ _ _ _ _ _ _ => exact .still rfl rfl rfl
  | late settling closed first checked ensured =>
    cases ensured with
    | present _ => exact .still rfl rfl rfl
    | created _ _ _ _ _ _ => exact .still rfl rfl rfl
  | parked => exact .still rfl rfl rfl
  | compensated compensated =>
    cases compensated with
    | mk _ _ _ _ _ => exact .still rfl rfl rfl

theorem Trade.sameClaims {env : Deployment} {terms : Terms} {s s' : Shop} (h : Trade env terms s s') :
    s.db.SameClaims s'.db := by
  cases h with
  | created created =>
    cases created with
    | mk merged unclaimed unordered window priced checked coupon stock items event =>
      obtain ⟨outbox, hd, -⟩ := event.frame
      exact stock.sameClaims (by decide) (by rw [hd]) (by rw [hd]) (by rw [hd])
  | claimed claimed =>
    cases claimed with
    | mk _ _ _ _ _ _ _ => exact .still rfl rfl rfl
  | swept swept =>
    cases swept with
    | mk _ _ => exact .still rfl rfl rfl
  | ended row pending held ending ended =>
    obtain ⟨d₁, d₂, -, stock, rfl⟩ := ended.parts
    exact stock.sameClaims (by decide) rfl rfl rfl
  | settled settling pending items coupon stock shell event =>
    obtain ⟨c₁, c₂, c₃, outbox, -, hstock, -, rfl⟩ := settled_parts coupon stock shell event
    exact hstock.sameClaims (by decide) rfl rfl rfl
  | confirmed confirmed =>
    cases confirmed with
    | mk _ _ => exact .still rfl rfl rfl

theorem PackageShipped.sameClaims {next next' : Nat} {d d' : Db} (h : PackageShipped next d next' d') : d.SameClaims d' := by
  cases h with
  | mk found ofOrder unshipped carried kept residual =>
    obtain ⟨-, -, hframe⟩ := residual.frame
    rw [hframe]
    exact .still rfl rfl rfl

theorem Change.sameClaims {env : Deployment} {terms : Terms} {s s' : Shop} (h : Change env terms s s') :
    s.db.SameClaims s'.db := by
  cases h with
  | booked booking => exact booking.sameClaims
  | traded trade => exact trade.sameClaims
  | shipped shipped => exact shipped.sameClaims

/-- Lines are never rewritten by a change of the shop, so claims stay well formed. -/
theorem Change.claimed {env : Deployment} {terms : Terms} {s s' : Shop} (h : Change env terms s s')
    (hfresh : s.db.FreshFrom s.next) (hd : s.db.Claimed) : s'.db.Claimed := by
  have hsame := h.sameClaims
  refine ⟨fun {id c} hc => ?_, fun {i row} hrow => ?_, fun {i j row row'} hi hj => ?_, fun {id c} hc => ?_⟩
  · rw [hsame.afterSales] at hc
    exact hd.numbered hc
  · rw [hsame.afterSaleItems] at hrow
    obtain ⟨hpos, c, item, hc, hitem, hof⟩ := hd.items hrow
    obtain ⟨_, hitem', rfl⟩ := (h.itemsChanged hfresh).grow.kept _ item hitem
    exact ⟨hpos, c, item, by rw [hsame.afterSales]; exact hc, hitem', hof⟩
  · rw [hsame.afterSaleItems] at hi hj
    exact hd.distinct hi hj
  · rw [hsame.afterSales] at hc
    exact hd.refunded hc

/-! ## What after-sales leave of orders and goods -/

/-- The line is of the same order, and asks for the same. -/
structure OrderItem.SameLine (i i' : OrderItem) : Prop where
  orderId : i'.orderId = i.orderId
  skuId : i'.skuId = i.skuId
  quantity : i'.quantity = i.quantity

/-- The order is where it was in its life, and money that was paid for it stays paid. -/
structure Order.SamePaid (o o' : Order) : Prop extends Order.SamePurchase o o' where
  orderStatus : o'.orderStatus = o.orderStatus
  paidAmount : o'.paidAmount = o.paidAmount

/-- Orders stay where they were, and packages and refund intents are as they were. -/
structure Db.SameGoods (d d' : Db) : Prop where
  orders : d.orders.Grows Order.SamePaid (fun _ => False) d'.orders
  orderItems : d.orderItems.Grows OrderItem.SameLine (fun _ => False) d'.orderItems
  fulfillments : d'.fulfillments = d.fulfillments
  compensations : d'.compensations = d.compensations

theorem Order.SamePaid.refl (o : Order) : o.SamePaid o := ⟨Order.SamePurchase.refl o, rfl, rfl⟩

theorem OrderItem.SameLine.refl (i : OrderItem) : i.SameLine i := ⟨rfl, rfl, rfl⟩

theorem Db.SameGoods.still {d d' : Db} (orders : d'.orders = d.orders) (orderItems : d'.orderItems = d.orderItems)
    (fulfillments : d'.fulfillments = d.fulfillments) (compensations : d'.compensations = d.compensations) :
    d.SameGoods d' where
  orders := orders ▸ Dict.grows_refl Order.SamePaid.refl _
  orderItems := orderItems ▸ Dict.grows_refl OrderItem.SameLine.refl _
  fulfillments := fulfillments
  compensations := compensations

theorem Answered.sameGoods {afterSaleNo : String} {f : AfterSale → AfterSale} {d d' : Db}
    (h : Answered afterSaleNo f d d') : d.SameGoods d' := by
  obtain ⟨id, c, -, -, -, -, rfl⟩ := h
  exact .still rfl rfl rfl rfl

theorem RefundPosted.sameGoods {principal : Principal} {request : RefundRequest} {requestHash : String} {now : Time}
    {refundId : Nat} {rows : RefundRows} {split : RefundSplit} {d d' : Db}
    (h : RefundPosted principal request requestHash now refundId rows split d d') : d.SameGoods d' := by
  obtain ⟨movements, inventories, outbox, -, -, rfl⟩ := h.effects
  have horders : d.orders.Grows Order.SamePaid (fun _ => False) (d.orders.modify rows.claim.orderId fun row =>
      rows.order.afterSaleAxis request.amount (rows.order.refundedBy request.amount row)) :=
    Dict.grows_modify Order.SamePaid.refl fun o _ =>
      ⟨⟨rfl, rfl, rfl, rfl, rfl, rfl, rfl, rfl, rfl, rfl, rfl⟩, rfl, rfl⟩
  have hitems : d.orderItems.Grows OrderItem.SameLine (fun _ => False)
      (d.orderItems.adjust fun id => OrderItem.withShare (split.placed id)) :=
    Dict.grows_adjust fun k i _ => ⟨rfl, rfl, rfl⟩
  exact ⟨horders, hitems, rfl, rfl⟩

theorem AfterSaleEffect.sameGoods {env : Deployment} {next next' : Nat} {d d' : Db} {op : AfterSaleOp}
    (h : AfterSaleEffect env next d op next' d') : d.SameGoods d' := by
  cases h with
  | applied _ _ => exact .still rfl rfl rfl rfl
  | cancelled answered => exact answered.sameGoods
  | approved answered => exact answered.sameGoods
  | rejected answered => exact answered.sameGoods
  | refunded _ posted => exact posted.sameGoods

theorem Db.SameGoods.orderedQuantity {d d' : Db} (h : d.SameGoods d') (i j : Nat) :
    d'.orderedQuantity i j = d.orderedQuantity i j := by
  unfold Db.orderedQuantity
  cases hj : d.orderItems.get? j with
  | some item =>
    obtain ⟨item', hitem', hsame⟩ := h.orderItems.kept j item hj
    rw [hitem']
    dsimp only
    rw [hsame.orderId, hsame.quantity]
  | none =>
    cases hj' : d'.orderItems.get? j with
    | none => rfl
    | some item' =>
      obtain ⟨item, hitem, -⟩ := (h.orderItems.origin j item' hj').resolve_right fun hn => hn.2
      rw [hj] at hitem
      cases hitem

theorem Db.SameGoods.itemized {d d' : Db} (h : d.SameGoods d') (hd : d.Itemized) : d'.Itemized := by
  have horigin : ∀ {j i'}, d'.orderItems.get? j = some i' → ∃ i, d.orderItems.get? j = some i ∧ i.SameLine i' :=
    fun hi => (h.orderItems.origin _ _ hi).resolve_right fun hn => hn.2
  refine ⟨fun j i' hi' => ?_, fun j i' hi' => ?_, fun j k a' b' ha' hb' horder hsku => ?_⟩
  · obtain ⟨i, hi, hsame⟩ := horigin hi'
    obtain ⟨o, ho⟩ := hd.owned j i hi
    obtain ⟨o', ho', -⟩ := h.orders.kept _ o ho
    exact ⟨o', by rw [hsame.orderId]; exact ho'⟩
  · obtain ⟨i, hi, hsame⟩ := horigin hi'
    rw [hsame.quantity]
    exact hd.positive j i hi
  · obtain ⟨a, ha, hsamea⟩ := horigin ha'
    obtain ⟨b, hb, hsameb⟩ := horigin hb'
    rw [hsamea.orderId, hsameb.orderId] at horder
    rw [hsamea.skuId, hsameb.skuId] at hsku
    exact hd.distinct j k a b ha hb horder hsku

/-- The order stays settled. -/
theorem Order.SamePaid.settled {o o' : Order} (h : o.SamePaid o') : o'.Settled ↔ o.Settled := by
  unfold Order.Settled
  rw [h.orderStatus]

theorem Order.SamePaid.ended {o o' : Order} (h : o.SamePaid o') : o'.Ended ↔ o.Ended := by
  unfold Order.Ended
  rw [h.orderStatus]

theorem Db.SameGoods.packed {d d' : Db} (h : d.SameGoods d') (hd : d.Packed) : d'.Packed := by
  refine ⟨fun k f hf => ?_, fun i o' ho' hsettled j => ?_, ?_⟩
  · rw [h.fulfillments] at hf
    obtain ⟨hpacked, o, ho, hsettled⟩ := hd.packages k f hf
    obtain ⟨o', ho', hsame⟩ := h.orders.kept _ o ho
    exact ⟨hpacked, o', ho', hsame.settled.mpr hsettled⟩
  · obtain ⟨o, ho, hsame⟩ := (h.orders.origin i o' ho').resolve_right fun hn => hn.2
    rw [h.orderedQuantity, ← hd.whole i o ho (hsame.settled.mp hsettled) j]
    unfold Db.packedQuantity Db.unitsIn
    rw [h.fulfillments]
  · rw [h.fulfillments]
    exact hd.unshipped

/-! ## Payments of claimed orders -/

/-- A payment that was refunded stays recorded. -/
theorem Payment.refundedBy_recorded {p : Payment} (h : p.Recorded) (amount : Int) : (p.refundedBy amount p).Recorded := by
  unfold Payment.Recorded Payment.refundedBy
  dsimp only
  split_ifs with hall hsome
  · exact .inr (.inr rfl)
  · exact .inr (.inl rfl)
  · exact h

theorem recorded_of_refundable {p : Payment} (h : p.status ∈ refundablePaymentStatuses) : p.Recorded := by
  unfold Payment.Recorded
  unfold refundablePaymentStatuses at h
  simpa using h

/-- Rows that are only answered let the others be. -/
theorem RefundPosted.evolves {env : Deployment} {principal : Principal} {request : RefundRequest} {requestHash : String}
    {now : Time} {refundId : Nat} {rows : RefundRows} {split : RefundSplit} {d d' : Db} (hd : d.Consistent env)
    (h : RefundPosted principal request requestHash now refundId rows split d d') : d.Evolves d' := by
  obtain ⟨hrow, hof⟩ := latestPayment_row h.locks.latest
  have hrecorded := recorded_of_refundable h.locks.settled
  have hdone : rows.order.orderStatus ≠ .pendingPayment := fun hpending =>
    (hd.pending _ _ h.locks.order hpending).2 _ _ hrow hof hrecorded
  obtain ⟨movements, inventories, outbox, -, -, rfl⟩ := h.effects
  have horders : d.orders.Grows Order.Evolves Order.Unpaid (d.orders.modify rows.claim.orderId fun row =>
      rows.order.afterSaleAxis request.amount (rows.order.refundedBy request.amount row)) := by
    refine Dict.grows_modify Order.Evolves.refl fun o ho => ?_
    rw [h.locks.order] at ho
    cases ho
    exact ⟨rfl, rfl, rfl, fun hp => absurd hp hdone⟩
  have hpayments : d.payments.Grows Payment.Evolves (fun p => p.Booked ∧ ¬ p.Recorded ∧
      ∃ o, d.orders.get? p.orderId = some o ∧ p.AttemptFor o)
      (d.payments.modify rows.paymentId (rows.payment.refundedBy request.amount)) := by
    refine Dict.grows_modify Payment.Evolves.refl fun p hp => ?_
    rw [hrow] at hp
    cases hp
    have hstays := Payment.refundedBy_recorded hrecorded request.amount
    exact ⟨rfl, rfl, rfl, rfl, rfl, fun hb => ⟨hb.positive, fun _ => hb.recorded hrecorded, fun hn => absurd hstays hn⟩,
      fun _ => hstays⟩
  refine ⟨horders, hpayments, fun i p p' hp hp' hn hr => ?_, Dict.grows_refl PaymentCompensationRefund.Evolves.refl _⟩
  by_cases hi : i = rows.paymentId
  · subst hi
    rw [hrow] at hp
    cases hp
    exact absurd hrecorded hn
  · have hsame : p' = p := Option.some.inj (hp'.symm.trans ((Dict.get?_modify_ne hi _).trans hp))
    rw [hsame] at hr
    exact absurd hr hn

theorem AfterSaleEffect.evolves {env : Deployment} {next next' : Nat} {d d' : Db} {op : AfterSaleOp}
    (hd : d.Consistent env) (h : AfterSaleEffect env next d op next' d') : d.Evolves d' := by
  have hanswered : ∀ {afterSaleNo : String} {f : AfterSale → AfterSale}, Answered afterSaleNo f d d' → d.Evolves d' := by
    rintro afterSaleNo f ⟨id, c, -, -, -, -, rfl⟩
    exact .same rfl rfl rfl
  cases h with
  | applied _ _ => exact .same rfl rfl rfl
  | cancelled answered => exact hanswered answered
  | approved answered => exact hanswered answered
  | rejected answered => exact hanswered answered
  | refunded _ posted => exact posted.evolves hd

theorem Db.SameGoods.numbered {env : Deployment} {d d' : Db} (h : d.SameGoods d') (hd : d.Numbered env) :
    d'.Numbered env := by
  refine hd.of_kept fun i o' ho' => ?_
  obtain ⟨o, ho, hsame⟩ := (h.orders.origin i o' ho').resolve_right fun hn => hn.2
  exact ⟨o, ho, hsame.orderNo⟩

/-! ## Refund intents -/

/-- Refund intents are about orders that ended. -/
def Db.IntentsEnded (d : Db) : Prop :=
  ∀ i r, d.compensations.get? i = some r → ∃ o, d.orders.get? r.orderId = some o ∧ o.Ended

/-- Intents that are about the same orders, or are new. -/
theorem Db.IntentsEnded.kept {d d' : Db} (hd : d.IntentsEnded)
    (orders : d.orders.Grows Order.Advances Order.Opened d'.orders)
    (intents : d.compensations.Grows PaymentCompensationRefund.Evolves
      (fun r => ∃ o, d.orders.get? r.orderId = some o ∧ o.Ended) d'.compensations) : d'.IntentsEnded := by
  intro i r' hr'
  have hold : ∃ o, d.orders.get? r'.orderId = some o ∧ o.Ended := by
    rcases intents.origin i r' hr' with ⟨r, hr, hsame⟩ | ⟨-, hnew⟩
    · rw [hsame.orderId]
      exact hd i r hr
    · exact hnew
  obtain ⟨o, ho, hended⟩ := hold
  obtain ⟨o', ho', hadvances⟩ := orders.kept _ o ho
  exact ⟨o', ho', hadvances.ended hended⟩

theorem Db.IntentsEnded.same {d d' : Db} (hd : d.IntentsEnded)
    (orders : d.orders.Grows Order.Advances Order.Opened d'.orders) (intents : d'.compensations = d.compensations) :
    d'.IntentsEnded := by
  refine hd.kept orders ?_
  rw [intents]
  exact Dict.grows_refl PaymentCompensationRefund.Evolves.refl _

theorem Booking.intentsEnded {env : Deployment} {terms : Terms} {s s' : Shop} (h : Booking terms s s')
    (hs : s.Sound env) (hd : s.db.IntentsEnded) : s'.db.IntentsEnded := by
  have hchange : Change env terms s s' := .booked h
  have horders := hchange.orders_advance hs.fresh
  cases h with
  | drawn _ => exact hd.same horders rfl
  | called _ _ => exact hd.same horders rfl
  | attempted created =>
    cases created with
    | replayed => exact hd.same horders rfl
    | created _ _ _ _ _ _ _ _ _ _ _ => exact hd.same horders rfl
  | late settling closed first checked ensured =>
    cases ensured with
    | present _ => exact hd.same horders rfl
    | @created refund absent positive ofPayment ofOrder ofAmount pending =>
      -- the intent is about the order of its payment, which is the closed one
      have hof := ofOrder.trans (settling.attempt hs.consistent).1
      have hended : ∃ o, s.db.orders.get? refund.orderId = some o ∧ o.Ended :=
        ⟨_, by rw [hof]; exact settling.order, .inr closed⟩
      exact hd.kept horders (Dict.grows_set PaymentCompensationRefund.Evolves.refl
        (hs.fresh _ (le_refl _)).compensations hended)
  | parked =>
    refine hd.kept horders ?_
    dsimp only
    exact Dict.grows_modify PaymentCompensationRefund.Evolves.refl fun _ _ => ⟨rfl, rfl, rfl⟩
  | compensated compensated =>
    cases compensated with
    | mk found ofPayment ofOrder paymentChecked orderChecked =>
      refine hd.kept horders ?_
      dsimp only
      exact Dict.grows_modify PaymentCompensationRefund.Evolves.refl fun _ _ => ⟨rfl, rfl, rfl⟩

theorem Trade.compensations {env : Deployment} {terms : Terms} {s s' : Shop} (h : Trade env terms s s') :
    s'.db.compensations = s.db.compensations := by
  cases h with
  | created created =>
    cases created with
    | mk merged unclaimed unordered window priced checked coupon stock items event =>
      obtain ⟨outbox, hd, -⟩ := event.frame
      dsimp only
      rw [hd]
  | claimed claimed =>
    cases claimed with
    | mk _ _ _ _ _ _ _ => rfl
  | swept swept =>
    cases swept with
    | mk _ _ => rfl
  | ended row pending held ending ended =>
    obtain ⟨d₁, d₂, -, -, rfl⟩ := ended.parts
    rfl
  | settled settling pending items coupon stock shell event =>
    obtain ⟨c₁, c₂, c₃, outbox, -, -, -, rfl⟩ := settled_parts coupon stock shell event
    rfl
  | confirmed confirmed =>
    cases confirmed with
    | mk _ _ => rfl

theorem PackageShipped.compensations {next next' : Nat} {d d' : Db} (h : PackageShipped next d next' d') :
    d'.compensations = d.compensations := by
  cases h with
  | mk found ofOrder unshipped carried kept residual =>
    obtain ⟨-, -, hframe⟩ := residual.frame
    rw [hframe]

theorem Change.intentsEnded {env : Deployment} {terms : Terms} {s s' : Shop} (h : Change env terms s s')
    (hs : s.Sound env) (hd : s.db.IntentsEnded) : s'.db.IntentsEnded := by
  have horders := h.orders_advance hs.fresh
  cases h with
  | booked booking => exact booking.intentsEnded hs hd
  | traded trade => exact hd.same horders trade.compensations
  | shipped shipped => exact hd.same horders shipped.compensations

theorem Db.SameGoods.intentsEnded {d d' : Db} (h : d.SameGoods d') (hd : d.IntentsEnded) : d'.IntentsEnded := by
  intro i r hr
  rw [h.compensations] at hr
  obtain ⟨o, ho, hended⟩ := hd i r hr
  obtain ⟨o', ho', hsame⟩ := h.orders.kept _ o ho
  exact ⟨o', ho', hsame.ended.mpr hended⟩

/-! ## What every session keeps -/

/-- What holds of a shop and its after-sales. -/
structure Shop.Running (env : Deployment) (s : Shop) : Prop extends s.Sound env where
  itemized : s.db.Itemized
  packed : s.db.Packed
  intents : s.db.IntentsEnded
  claimed : s.db.Claimed

theorem Change.running {env : Deployment} {terms : Terms} {s s' : Shop} (h : Change env terms s s')
    (hs : s.Running env) : s'.Running env where
  toSound := h.sound hs.toSound
  itemized := h.itemized hs.fresh hs.itemized
  packed := h.packed hs.fresh hs.itemized hs.packed
  intents := h.intentsEnded hs.toSound hs.intents
  claimed := h.claimed hs.fresh hs.claimed

theorem AfterSaleEffect.running {env : Deployment} {s : Shop} {op : AfterSaleOp} {next : Nat} {d : Db}
    (h : AfterSaleEffect env s.next s.db op next d) (hs : s.Running env) : Shop.Running env ⟨d, next⟩ where
  fresh := h.fresh hs.fresh
  consistent := hs.consistent.evolves (h.evolves hs.consistent) (h.sameGoods.numbered hs.consistent.numbered)
  itemized := h.sameGoods.itemized hs.itemized
  packed := h.sameGoods.packed hs.packed
  intents := h.sameGoods.intentsEnded hs.intents
  claimed := hs.claimed.effect hs.fresh h

/-- A shop that takes its first orders, and whose customers filed no claim yet. -/
structure Shop.Founded (s : Shop) : Prop extends s.Opening where
  afterSales : s.db.afterSales = Dict.empty
  afterSaleItems : s.db.afterSaleItems = Dict.empty
  unreturned : ∀ m ∈ s.db.movements, m.movementType ≠ .returnIn

theorem Shop.Founded.running {env : Deployment} {s : Shop} (h : s.Founded) : s.Running env where
  toSound := h.toOpening.sound
  itemized := h.toOpening.itemized
  packed := h.toOpening.packed
  intents i r hr := by
    rw [h.compensations] at hr
    cases hr
  claimed := by
    refine ⟨fun hc => ?_, fun hrow => ?_, fun hrow => ?_, fun hc => ?_⟩
    · rw [h.afterSales] at hc
      cases hc
    · rw [h.afterSaleItems] at hrow
      cases hrow
    · rw [h.afterSaleItems] at hrow
      cases hrow
    · rw [h.afterSales] at hc
      cases hc

/-- A condition on the shop that every change keeps, and every effect of after-sales that meet another. -/
structure LifeKeeps (env : Deployment) (ok : AfterSaleOp → Db → Prop) (I : Shop → Prop) : Prop where
  distinct : ∀ {s : Shop}, I s → s.db.ClaimLinesDistinct
  change : ∀ {s s' : Shop}, I s → Change env {} s s' → I s'
  effect : ∀ {s : Shop} {op : AfterSaleOp} {next : Nat} {d : Db}, I s → ok op s.db →
    AfterSaleEffect env s.next s.db op next d → I ⟨d, next⟩

/-- Drawing an id is a change of the shop, so after-sales keep what a life keeps. -/
theorem LifeKeeps.afterSales {env : Deployment} {ok : AfterSaleOp → Db → Prop} {I : Shop → Prop} (h : LifeKeeps env ok I) :
    AfterSaleKeeps env ok I where
  distinct := h.distinct
  drawn hs hle := h.change hs (.booked (.drawn hle))
  effect := h.effect

theorem LifeKeeps.step {env : Deployment} {ok : AfterSaleOp → Db → Prop} {I : Shop → Prop} (h : LifeKeeps env ok I)
    {s : Shop} (hs : I s) (session : Session) (hok : ∀ op, session = .afterSale op → ok op s.db) (n : Nat) :
    I (s.session env session n) := by
  cases session with
  | shop op =>
    have hchanges : Changes env {} s (s.after env op n) := after_changes ⟨False.elim, False.elim⟩ n
    exact changes_preserve (fun _ _ hchange hs => h.change hs hchange) hchanges hs
  | afterSale op => exact h.afterSales.step hs op (hok op rfl) n

/-- What every change and every effect keep, a life of the shop keeps. -/
theorem LifeKeeps.run {env : Deployment} {ok : AfterSaleOp → Db → Prop} {I : Shop → Prop} (h : LifeKeeps env ok I) :
    ∀ {sessions : List (Session × Nat)} {s : Shop}, I s → Shop.LivesBy env ok sessions s → I (s.live env sessions) := by
  intro sessions
  induction sessions with
  | nil => exact fun hs _ => hs
  | cons step sessions ih => exact fun hs hmeets => ih (h.step hs step.1 hmeets.1 step.2) hmeets.2

/-! ## Two lives of the small shop -/

/-- SHA-256 of the texts that are hashed in the lives below. -/
def lifeDigests : List (String × String) := sampleDigests ++ [
  ("order_no=NV20240101000011|type=RETURN_REFUND|amount=1000|items=12:2",
    "e1340e04c2ae79ba321281553059786a1c731ca22293f7b379986a23281d69f8"),
  ("order_no=NV20240101000011|type=RETURN_REFUND|amount=500|items=12:1",
    "8f15428c2607b55493ec87b642bc9c12cfdbf13b7f8c1d4f461d3660c9a0bd41"),
  ("after_sale_no=NVAS20240101000017|amount=1000|reason=|key=refund",
    "a1d19b4ceef4b902f48b8e47acd7a55cd2f8079d0c7395cba3be9380b353cdc0"),
  ("after_sale_no=NVAS20240101000018|amount=500|reason=|key=refund",
    "b6601dbf6718e51e014ed00df578ec3edbf846f68f9c488db531576bf5c16965")]

/-- The provider's deployment, with the digests of these lives. -/
def lifeDeployment : Deployment :=
  { sampleProvider with sha256Hex := fun s => (lifeDigests.lookup s).getD "" }

theorem cupsBack_lines : 0 < [(⟨12, 2⟩ : ApplyAfterSaleItem)].length ∧ [(⟨12, 2⟩ : ApplyAfterSaleItem)].length ≤ maxClaimLines := by
  decide

theorem cupsBack_quantities : ∀ line ∈ [(⟨12, 2⟩ : ApplyAfterSaleItem)], 0 < line.quantity ∧ line.quantity ≤ 1000000 := by decide

/-- The customer returns both cups. -/
def cupsBack : ApplyAfterSaleRequest where
  orderNo := "NV20240101000011"
  type := .returnRefund
  items := [⟨12, 2⟩]
  requestedAmount := 1000
  reason := "unwanted"
  clientRequestId := "return"
  lines := cupsBack_lines
  quantities := cupsBack_quantities
  amount := sampleAmount_pos
  reasonGiven := sampleReturn.reasonGiven
  requestGiven := sampleReturn.requestGiven

/-- The customer returns one cup. -/
def cupBack : ApplyAfterSaleRequest :=
  { cupsBack with items := [⟨12, 1⟩], requestedAmount := 500, lines := by decide, quantities := by decide, amount := sampleHalf_pos }

/-- Noon, on the clock of after-sales. -/
def lifeNoon : Moment := { time := sampleNoon }

/-- The customer pays two cups, and gets everything back before they are shipped. -/
def returnedUnshipped : List (Session × Nat) :=
  samplePaid.map (fun step => (.shop step.1, step.2)) ++ [
    (.afterSale (.applyAfterSale sampleCustomer cupsBack "return" lifeNoon), 1000),
    (.afterSale (.approveAfterSale sampleReviewer "NVAS20240101000017"
      { approvedAmount := 1000, positive := sampleAmount_pos } lifeNoon), 1000),
    (.afterSale (.executeRefund sampleReviewer
      { afterSaleNo := "NVAS20240101000017", amount := 1000, idempotencyKey := "refund" } lifeNoon), 1000)]

/-- One of the two cups is shipped and comes back, before the other is shipped. -/
def returnedShipped : List (Session × Nat) :=
  samplePaid.map (fun step => (.shop step.1, step.2)) ++ [
    (.shop sampleParcel, 1000),
    (.afterSale (.applyAfterSale sampleCustomer cupBack "return" lifeNoon), 1000),
    (.afterSale (.approveAfterSale sampleReviewer "NVAS20240101000018"
      { approvedAmount := 500, positive := sampleHalf_pos } lifeNoon), 1000),
    (.afterSale (.executeRefund sampleReviewer
      { afterSaleNo := "NVAS20240101000018", amount := 500, idempotencyKey := "refund" } lifeNoon), 1000)]

/-- The warehouse of the small shop. -/
def lifePacker : Principal :=
  { userId := 2, merchantId := some 1, isStaff := true, permissions := ["fulfillment:ship"] }

theorem sampleShop_founded : sampleShop.Founded where
  toOpening := sampleShop_opening
  afterSales := rfl
  afterSaleItems := rfl
  unreturned _ h := nomatch h

end NovaCommerce
