import NovaCommerce.Fulfillment.Shipping
import NovaCommerce.Order.Creation
import NovaCommerce.Payment.Callbacks
import NovaCommerce.Payment.Compensation
import NovaCommerce.Payment.Service

/-!
# Committed changes of the shop

* `Booking` : a change of attempts, callbacks and money; it leaves orders and goods where they are
  (`Booking.quiet`);
* `Trade` : a change of orders, coupons, promotions and goods;
* `Change` : any of them, and a shipment.
-/

namespace NovaCommerce

open Sql

/-- The committed database, and the next auto-increment id. -/
structure Shop where
  db : Db
  next : Nat

/-- What the sessions of a run are promised to keep to. -/
structure Terms where
  /-- An order that was paid is not paid late. -/
  paysOnce : Prop := False
  /-- An order that is being paid is not cancelled. -/
  cancelsUnpaying : Prop := False

/-! ## Bookings -/

/-- A payment that a delivery can still settle, with its order. -/
structure Settling (d : Db) (paymentId : Nat) (p : Payment) (orderId : Nat) (o : Order) : Prop where
  payment : d.payments.get? paymentId = some p
  order : d.orders.get? orderId = some o
  ofOrder : p.orderNo = o.orderNo
  open_ : p.status ∈ settleableStatuses ∨ p.status ∈ latePaymentStatuses
  unpaid : o.paymentStatus ≠ .paid

/-- A change of attempts, callbacks and money. -/
inductive Booking (terms : Terms) : Shop → Shop → Prop where
  | drawn {s : Shop} {next : Nat} (le : s.next ≤ next) : Booking terms s { s with next := next }
  | called {s : Shop} {next : Nat} {callbacks : Dict Nat PaymentCallback} (le : s.next ≤ next)
      (fresh : ∀ i, next ≤ i → callbacks.get? i = s.db.callbacks.get? i) :
      Booking terms s ⟨{ s.db with callbacks := callbacks }, next⟩
  | attempted {s : Shop} {next : Nat} {d : Db} (created : AttemptCreated s.next s.db next d) :
      Booking terms s ⟨d, next⟩
  | late {s : Shop} {next : Nat} {d : Db} {paymentId orderId : Nat} {p : Payment} {o : Order}
      {externalTransactionNo : Option String} {now : Time} (settling : Settling s.db paymentId p orderId o)
      (closed : o.orderStatus = .closed) (first : terms.paysOnce → o.paidAmount = 0)
      (checked : (o.paidLate p.amount now o).Checked)
      (ensured : CompensationEnsured paymentId p p.amount s.next { s.db with
        payments := s.db.payments.modify paymentId fun row => row.succeeded p.amount externalTransactionNo now
        orders := s.db.orders.modify orderId (o.paidLate p.amount now) } next d) :
      Booking terms s ⟨d, next⟩
  | parked {s : Shop} {id : Nat} {reason : String} : Booking terms s { s with
      db := { s.db with
        compensations := s.db.compensations.modify id fun r =>
          { r with status := .reconciliationRequired, failureReason := some reason } } }
  | compensated {s : Shop} {id : Nat} {d : Db} (compensated : Compensated id s.db d) :
      Booking terms s ⟨d, s.next⟩

/-! ## Trades -/

/-- How a pending order ends unpaid. -/
inductive Ending (terms : Terms) (orderId : Nat) (order : Order) : (Order → Order) → OrderStatusLog → Prop where
  | cancelled (principal : Principal) (reason : String) (now : Time)
      (unpaying : terms.cancelsUnpaying → order.paymentStatus ≠ .paying) :
      Ending terms orderId order (order.cancelledBy reason now) (cancelLog principal orderId order reason)
  | expired (now : Time) (unpaid : order.paidAmount = 0) :
      Ending terms orderId order (order.closedBy now) (expiryLog orderId order)

/-- A change of orders, coupons, promotions and goods. -/
inductive Trade (env : Deployment) (terms : Terms) : Shop → Shop → Prop where
  | created {s : Shop} {next : Nat} {d : Db} (created : OrderCreated env s.next s.db next d) :
      Trade env terms s ⟨d, next⟩
  | claimed {s : Shop} {d : Db} (claimed : CouponClaimed s.next s.db d) : Trade env terms s ⟨d, s.next + 1⟩
  | swept {s : Shop} {d : Db} (swept : CouponsSwept s.db d) : Trade env terms s ⟨d, s.next⟩
  | ended {s : Shop} {d : Db} {orderId : Nat} {order : Order} {cause : ReleaseCause} {now : Time}
      {attempts : List (Nat × Payment)} {write : Order → Order} {log : OrderStatusLog}
      (row : s.db.orders.get? orderId = some order) (pending : order.orderStatus = .pendingPayment)
      (held : ∀ e ∈ attempts, s.db.payments.get? e.1 = some e.2 ∧ e.2.orderId = orderId)
      (ending : Ending terms orderId order write log)
      (ended : OrderEnded orderId order
        (releaseRequests orderId order.orderNo (s.db.itemsFor orderId) cause) now attempts write log s.db d) :
      Trade env terms s ⟨d, s.next⟩
  | settled {s : Shop} {next : Nat} {d₁ d₂ d₃ d₄ : Db} {request : CallbackRequest} {paymentId orderId : Nat}
      {p : Payment} {o : Order} {externalTransactionNo : Option String} {now : Time}
      (settling : Settling s.db paymentId p orderId o) (pending : o.orderStatus = .pendingPayment)
      (items : s.db.itemsFor orderId ≠ [])
      (coupon : CouponMoved .use orderId o { s.db with
        payments := s.db.payments.modify paymentId fun row => row.succeeded p.amount externalTransactionNo now
        orders := s.db.orders.modify orderId (o.paidOnTime now)
        statusLogs := s.db.statusLogs ++ [settlementLog orderId o] } d₁)
      (stock : Moves deductOperation now (deductRequests o.orderNo (s.db.itemsFor orderId)) d₁ d₂)
      (shell : ShellCreated orderId (s.db.itemsFor orderId) s.next d₂ next d₃)
      (event : Enqueued (settledEvent request paymentId p o) d₃ d₄) : Trade env terms s ⟨d₄, next⟩
  | confirmed {s : Shop} {d : Db} (confirmed : ReceiptConfirmed s.db d) : Trade env terms s ⟨d, s.next⟩

/-- One committed change. -/
inductive Change (env : Deployment) (terms : Terms) (s s' : Shop) : Prop where
  | booked (booking : Booking terms s s')
  | traded (trade : Trade env terms s s')
  | shipped (shipped : PackageShipped s.next s.db s'.next s'.db)

/-- A chain of changes. -/
abbrev Changes (env : Deployment) (terms : Terms) : Shop → Shop → Prop := Relation.ReflTransGen (Change env terms)

/-- What every change keeps, a chain keeps. -/
theorem changes_preserve {env : Deployment} {terms : Terms} {I : Shop → Prop}
    (hchange : ∀ s s', Change env terms s s' → I s → I s') {s s' : Shop} (h : Changes env terms s s') (hs : I s) :
    I s' := by
  induction h with
  | refl => exact hs
  | tail _ hlast ih => exact hchange _ _ hlast ih

/-! ## Frames -/

/-- What settling an order writes, with its coupon, its stock and its package. -/
theorem settled_parts {request : CallbackRequest} {now : Time} {paymentId orderId next next' : Nat} {p : Payment}
    {o : Order} {requests : List StockRequest} {items : List (Nat × OrderItem)} {d d₁ d₂ d₃ d₄ : Db}
    {pay : Payment → Payment}
    (coupon : CouponMoved .use orderId o { d with
      payments := d.payments.modify paymentId pay
      orders := d.orders.modify orderId (o.paidOnTime now)
      statusLogs := d.statusLogs ++ [settlementLog orderId o] } d₁)
    (stock : Moves deductOperation now requests d₁ d₂) (shell : ShellCreated orderId items next d₂ next' d₃)
    (event : Enqueued (settledEvent request paymentId p o) d₃ d₄) :
    ∃ c₁ c₂ c₃ outbox, CouponMoved .use orderId o d c₁ ∧ Moves deductOperation now requests d c₂ ∧
      ShellCreated orderId items next d next' c₃ ∧ d₄ = { d with
        payments := d.payments.modify paymentId pay
        orders := d.orders.modify orderId (o.paidOnTime now)
        statusLogs := d.statusLogs ++ [settlementLog orderId o]
        userCoupons := c₁.userCoupons
        couponUsages := c₁.couponUsages
        movements := c₂.movements
        inventories := c₂.inventories
        fulfillments := c₃.fulfillments
        outbox := d.outbox ++ outbox } := by
  obtain ⟨userCoupons, couponUsages, hd₁, -⟩ := coupon.frame
  obtain ⟨movements, inventories, hd₂, -⟩ := stock.frame
  obtain ⟨-, -, hd₃⟩ := shell.frame
  obtain ⟨outbox, hd₄, -⟩ := event.frame
  refine ⟨_, _, _, outbox, coupon.transfer (c := d) rfl rfl,
    stock.transfer (c := d) (by rw [hd₁]) (by rw [hd₁]) (by rw [hd₁]),
    shell.transfer (c := d) (by rw [hd₂, hd₁]), ?_⟩
  rw [hd₄, hd₃, hd₂, hd₁]

/-- The order keeps what it was made with. -/
structure Order.SamePurchase (o o' : Order) : Prop where
  userId : o'.userId = o.userId
  merchantId : o'.merchantId = o.merchantId
  orderNo : o'.orderNo = o.orderNo
  clientRequestId : o'.clientRequestId = o.clientRequestId
  couponId : o'.couponId = o.couponId
  promotionId : o'.promotionId = o.promotionId
  originalAmount : o'.originalAmount = o.originalAmount
  promotionDiscountAmount : o'.promotionDiscountAmount = o.promotionDiscountAmount
  couponDiscountAmount : o'.couponDiscountAmount = o.couponDiscountAmount
  shippingAmount : o'.shippingAmount = o.shippingAmount
  payableAmount : o'.payableAmount = o.payableAmount

/-- The order keeps its purchase, and its place in its life. -/
structure Order.SameTrade (o o' : Order) : Prop extends Order.SamePurchase o o' where
  orderStatus : o'.orderStatus = o.orderStatus
  settled : o.paymentStatus ∈ settledPaymentStatuses → o'.paymentStatus ∈ settledPaymentStatuses

/-- Orders keep their trade, and the tables of goods, coupons and promotions are as they were. -/
structure Db.Quiet (d d' : Db) : Prop where
  orders : d.orders.Grows Order.SameTrade (fun _ => False) d'.orders
  orderItems : d'.orderItems = d.orderItems
  statusLogs : d'.statusLogs = d.statusLogs
  warehouses : d'.warehouses = d.warehouses
  inventories : d'.inventories = d.inventories
  movements : d'.movements = d.movements
  couponTemplates : d'.couponTemplates = d.couponTemplates
  userCoupons : d'.userCoupons = d.userCoupons
  promotions : d'.promotions = d.promotions

theorem Order.SamePurchase.refl (o : Order) : o.SamePurchase o :=
  ⟨rfl, rfl, rfl, rfl, rfl, rfl, rfl, rfl, rfl, rfl, rfl⟩

theorem Order.SameTrade.refl (o : Order) : o.SameTrade o := ⟨Order.SamePurchase.refl o, rfl, id⟩

theorem Db.Quiet.of_orders {d d' : Db} (h : d.orders.Grows Order.SameTrade (fun _ => False) d'.orders)
    (heq : d' = { d with
      orders := d'.orders
      payments := d'.payments
      callbacks := d'.callbacks
      compensations := d'.compensations
      fulfillments := d'.fulfillments }) : d.Quiet d' := by
  constructor
  · exact h
  all_goals rw [heq]

/-- A row that keeps its trade. -/
theorem grows_sameTrade {d : Db} {orderId : Nat} {f : Order → Order}
    (hf : ∀ o, d.orders.get? orderId = some o → o.SameTrade (f o)) :
    d.orders.Grows Order.SameTrade (fun _ => False) (d.orders.modify orderId f) :=
  Dict.grows_modify Order.SameTrade.refl hf

/-- A booking leaves orders and goods where they are. -/
theorem Booking.quiet {terms : Terms} {s s' : Shop} (h : Booking terms s s') : s.db.Quiet s'.db := by
  cases h with
  | drawn _ => exact .of_orders (Dict.grows_refl Order.SameTrade.refl _) rfl
  | called _ _ => exact .of_orders (Dict.grows_refl Order.SameTrade.refl _) rfl
  | attempted created =>
    cases created with
    | replayed => exact .of_orders (Dict.grows_refl Order.SameTrade.refl _) rfl
    | created locked _ unsettled _ _ _ _ _ _ _ _ =>
      refine .of_orders (grows_sameTrade fun o ho => ?_) rfl
      rw [locked] at ho
      cases ho
      unfold Order.payingBy
      split_ifs with hunpaid
      · exact ⟨⟨rfl, rfl, rfl, rfl, rfl, rfl, rfl, rfl, rfl, rfl, rfl⟩, rfl, fun h => absurd h unsettled⟩
      · exact Order.SameTrade.refl _
  | late settling closed first checked ensured =>
    have hpaid : PaymentStatus.paid ∈ settledPaymentStatuses := by decide
    cases ensured with
    | present _ =>
      exact .of_orders (grows_sameTrade fun o _ => ⟨⟨rfl, rfl, rfl, rfl, rfl, rfl, rfl, rfl, rfl, rfl, rfl⟩, rfl, fun _ => hpaid⟩) rfl
    | created _ _ _ _ _ _ =>
      exact .of_orders (grows_sameTrade fun o _ => ⟨⟨rfl, rfl, rfl, rfl, rfl, rfl, rfl, rfl, rfl, rfl, rfl⟩, rfl, fun _ => hpaid⟩) rfl
  | parked => exact .of_orders (Dict.grows_refl Order.SameTrade.refl _) rfl
  | compensated compensated =>
    cases compensated with
    | mk found ofPayment ofOrder paymentChecked orderChecked =>
      have hrefunded : PaymentStatus.refunded ∈ settledPaymentStatuses := by decide
      exact .of_orders (grows_sameTrade fun o _ => ⟨⟨rfl, rfl, rfl, rfl, rfl, rfl, rfl, rfl, rfl, rfl, rfl⟩, rfl, fun _ => hrefunded⟩) rfl

/-- A shipment leaves orders and stock where they are. -/
theorem PackageShipped.quiet {next next' : Nat} {d d' : Db} (h : PackageShipped next d next' d') : d.Quiet d' := by
  cases h with
  | mk found ofOrder unshipped carried kept residual =>
    have hs : ∀ axis : FulfillmentStatus, ∀ o : Order, o.SameTrade { o with fulfillmentStatus := axis } :=
      fun axis o => ⟨⟨rfl, rfl, rfl, rfl, rfl, rfl, rfl, rfl, rfl, rfl, rfl⟩, rfl, id⟩
    cases residual with
    | whole _ => exact .of_orders (grows_sameTrade fun o _ => hs _ o) rfl
    | split _ _ _ _ => exact .of_orders (grows_sameTrade fun o _ => hs _ o) rfl

/-! ## Ids -/

theorem ensured_next {paymentId next next' : Nat} {p : Payment} {amount : Int} {d d' : Db}
    (h : CompensationEnsured paymentId p amount next d next' d') : next ≤ next' := by
  cases h with
  | present _ => exact le_refl _
  | created _ _ _ _ _ _ => exact Nat.le_succ _

theorem Booking.fresh {terms : Terms} {s s' : Shop} (h : Booking terms s s') (hs : s.db.FreshFrom s.next) :
    s'.db.FreshFrom s'.next := by
  intro i hi
  cases h with
  | drawn le => exact hs i (le.trans hi)
  | called le fresh =>
    have hold := hs i (le.trans hi)
    exact { hold with callbacks := by rw [fresh i hi]; exact hold.callbacks }
  | attempted created =>
    cases created with
    | replayed => exact hs i hi
    | created _ _ _ _ _ _ _ _ _ _ _ =>
      dsimp only at hi
      have hold := hs i (by omega)
      exact { hold with
        orders := Dict.get?_modify_none hold.orders _ _
        payments := by
          dsimp only
          rw [Dict.get?_set_ne (by omega)]
          exact hold.payments }
  | late settling closed first checked ensured =>
    cases ensured with
    | present _ =>
      have hold := hs i hi
      exact { hold with
        orders := Dict.get?_modify_none hold.orders _ _
        payments := Dict.get?_modify_none hold.payments _ _ }
    | created _ _ _ _ _ _ =>
      dsimp only at hi
      have hold := hs i (by omega)
      exact { hold with
        orders := Dict.get?_modify_none hold.orders _ _
        payments := Dict.get?_modify_none hold.payments _ _
        compensations := by
          dsimp only
          rw [Dict.get?_set_ne (by omega)]
          exact hold.compensations }
  | parked =>
    have hold := hs i hi
    exact { hold with compensations := Dict.get?_modify_none hold.compensations _ _ }
  | compensated compensated =>
    have hold := hs i hi
    cases compensated with
    | mk found ofPayment ofOrder paymentChecked orderChecked =>
      exact { hold with
        orders := Dict.get?_modify_none hold.orders _ _
        payments := Dict.get?_modify_none hold.payments _ _
        compensations := Dict.get?_modify_none hold.compensations _ _ }

/-- A coupon that moves keeps its id. -/
theorem CouponMoved.userCoupons_none {action : CouponAction} {orderId i : Nat} {order : Order} {d d' : Db}
    (h : CouponMoved action orderId order d d') (hi : d.userCoupons.get? i = none) :
    d'.userCoupons.get? i = none := by
  cases h with
  | unchanged _ => exact hi
  | moved _ _ _ _ => exact Dict.get?_modify_none hi _ _

theorem CouponLocked.userCoupons_none {orderId i : Nat} {order : Order} {d d' : Db}
    (h : CouponLocked orderId order d d') (hi : d.userCoupons.get? i = none) : d'.userCoupons.get? i = none := by
  cases h with
  | without _ => exact hi
  | locked _ _ _ _ => exact Dict.get?_modify_none hi _ _

theorem ResidualCreated.frame {orderId next next' : Nat} {residual : List (Nat × Int)} {d d' : Db}
    (h : ResidualCreated orderId residual next d next' d') :
    next ≤ next' ∧ (∀ i, next' ≤ i → d'.fulfillments.get? i = d.fulfillments.get? i) ∧
      d' = { d with fulfillments := d'.fulfillments } := by
  cases h with
  | whole _ => exact ⟨le_refl _, fun _ _ => rfl, rfl⟩
  | split _ _ _ _ => exact ⟨Nat.le_succ _, fun i hi => Dict.get?_set_ne (by omega) _, rfl⟩

/-- What ending an order writes, with its coupon and its stock. -/
theorem OrderEnded.parts {orderId : Nat} {order : Order} {requests : List StockRequest} {now : Time}
    {attempts : List (Nat × Payment)} {write : Order → Order} {log : OrderStatusLog} {d d' : Db}
    (h : OrderEnded orderId order requests now attempts write log d d') :
    ∃ d₁ d₂, CouponMoved .release orderId order d d₁ ∧ Moves releaseOperation now requests d d₂ ∧ d' = { d with
      payments := d.payments.adjust fun id p =>
        if ∃ e ∈ attempts, e.1 = id ∧ e.2.Open then p.closed now else p
      orders := d.orders.modify orderId write
      statusLogs := d.statusLogs ++ [log]
      userCoupons := d₁.userCoupons
      couponUsages := d₁.couponUsages
      movements := d₂.movements
      inventories := d₂.inventories } := by
  cases h with
  | @mk d₁ d₂ coupon stock =>
    obtain ⟨userCoupons, couponUsages, hd₁, -⟩ := coupon.frame
    obtain ⟨movements, inventories, hd₂, -⟩ := stock.frame
    have hstock := stock.transfer (c := d) (by rw [hd₁]) (by rw [hd₁]) (by rw [hd₁])
    refine ⟨d₁, _, coupon, hstock, ?_⟩
    rw [hd₂, hd₁]

theorem Trade.fresh {env : Deployment} {terms : Terms} {s s' : Shop} (h : Trade env terms s s') (hs : s.db.FreshFrom s.next) :
    s'.db.FreshFrom s'.next := by
  intro i hi
  cases h with
  | created created =>
    cases created with
    | mk merged unclaimed unordered window priced checked coupon stock items event =>
      dsimp only at hi
      obtain ⟨outbox, hd, -⟩ := event.frame
      have hold := hs i (by omega)
      dsimp only
      rw [hd]
      exact { hold with
        orders := by
          dsimp only
          rw [Dict.get?_set_ne (by omega)]
          exact hold.orders
        orderItems := by
          dsimp only
          rw [Dict.get?_setFrom_ge hi]
          exact hold.orderItems
        userCoupons := coupon.userCoupons_none hold.userCoupons
        idempotency := by
          dsimp only
          rw [Dict.get?_set_ne (by omega)]
          exact hold.idempotency }
  | claimed claimed =>
    cases claimed with
    | mk template quota limit ofTemplate ofUser unused free =>
      dsimp only at hi
      have hold := hs i (by omega)
      exact { hold with
        userCoupons := by
          dsimp only
          rw [Dict.get?_set_ne (by omega)]
          exact hold.userCoupons }
  | swept swept =>
    cases swept with
    | mk ids unused =>
      have hold := hs i hi
      exact { hold with
        userCoupons := by
          dsimp only
          rw [Dict.get?_adjust, hold.userCoupons]
          rfl }
  | ended row pending held ending ended =>
    obtain ⟨d₁, d₂, hcoupon, -, rfl⟩ := ended.parts
    have hold := hs i hi
    exact { hold with
      orders := Dict.get?_modify_none hold.orders _ _
      payments := by
        dsimp only
        rw [Dict.get?_adjust, hold.payments]
        rfl
      userCoupons := hcoupon.userCoupons_none hold.userCoupons }
  | settled settling pending items coupon stock shell event =>
    obtain ⟨c₁, c₂, c₃, outbox, hcoupon, -, hshell, rfl⟩ := settled_parts coupon stock shell event
    obtain ⟨hle, hkeep, -⟩ := hshell.frame
    have hold := hs i (hle.trans hi)
    exact { hold with
      orders := Dict.get?_modify_none hold.orders _ _
      payments := Dict.get?_modify_none hold.payments _ _
      userCoupons := hcoupon.userCoupons_none hold.userCoupons
      fulfillments := by
        dsimp only
        rw [hkeep i hi]
        exact hold.fulfillments }
  | confirmed confirmed =>
    cases confirmed with
    | mk row processing =>
      have hold := hs i hi
      exact { hold with orders := Dict.get?_modify_none hold.orders _ _ }

theorem PackageShipped.fresh {next next' : Nat} {d d' : Db} (h : PackageShipped next d next' d')
    (hd : d.FreshFrom next) : d'.FreshFrom next' := by
  intro i hi
  cases h with
  | mk found ofOrder unshipped carried kept residual =>
    obtain ⟨hle, hkeep, hframe⟩ := residual.frame
    have hold := hd i (hle.trans hi)
    rw [hframe]
    exact { hold with
      orders := Dict.get?_modify_none hold.orders _ _
      fulfillments := by
        dsimp only
        rw [hkeep i hi]
        exact Dict.get?_modify_none hold.fulfillments _ _ }

/-- No change uses an id that is still to be drawn. -/
theorem Change.fresh {env : Deployment} {terms : Terms} {s s' : Shop} (h : Change env terms s s')
    (hs : s.db.FreshFrom s.next) : s'.db.FreshFrom s'.next := by
  cases h with
  | booked booking => exact booking.fresh hs
  | traded trade => exact trade.fresh hs
  | shipped shipped => exact shipped.fresh hs

/-! ## Stages -/

/-- The order was paid while it was pending. -/
def Order.Settled (o : Order) : Prop := o.orderStatus = .processing ∨ o.orderStatus = .completed

/-- The order ended unpaid. -/
def Order.Ended (o : Order) : Prop := o.orderStatus = .cancelled ∨ o.orderStatus = .closed

theorem Order.stage (o : Order) : o.orderStatus = .pendingPayment ∨ o.Settled ∨ o.Ended := by
  unfold Order.Settled Order.Ended
  cases o.orderStatus <;> simp

theorem not_settled_of_pending {o : Order} (h : o.orderStatus = .pendingPayment) : ¬ o.Settled := by
  unfold Order.Settled
  rw [h]
  rintro (h | h) <;> cases h

theorem not_ended_of_pending {o : Order} (h : o.orderStatus = .pendingPayment) : ¬ o.Ended := by
  unfold Order.Ended
  rw [h]
  rintro (h | h) <;> cases h

theorem Order.Ended.not_settled {o : Order} (h : o.Ended) : ¬ o.Settled := by
  unfold Order.Settled
  rcases h with h | h <;> rw [h] <;> rintro (h | h) <;> cases h

theorem Ending.ended {terms : Terms} {orderId : Nat} {order : Order} {write : Order → Order} {log : OrderStatusLog}
    (h : Ending terms orderId order write log) (o : Order) : (write o).Ended := by
  cases h with
  | cancelled _ _ _ _ => exact .inl rfl
  | expired _ _ => exact .inr rfl

/-! ## Purchases -/

/-- A new order is pending, and its amounts agree. -/
structure Order.Opened (o : Order) : Prop where
  pending : o.orderStatus = .pendingPayment
  unpaid : o.paymentStatus = .unpaid
  checked : o.Checked

theorem Ending.samePurchase {terms : Terms} {orderId : Nat} {order : Order} {write : Order → Order}
    {log : OrderStatusLog} (h : Ending terms orderId order write log) (o : Order) : o.SamePurchase (write o) := by
  cases h with
  | cancelled _ _ _ _ => exact ⟨rfl, rfl, rfl, rfl, rfl, rfl, rfl, rfl, rfl, rfl, rfl⟩
  | expired _ _ => exact ⟨rfl, rfl, rfl, rfl, rfl, rfl, rfl, rfl, rfl, rfl, rfl⟩

theorem Trade.orders_grow {env : Deployment} {terms : Terms} {s s' : Shop} (h : Trade env terms s s')
    (hs : s.db.FreshFrom s.next) : s.db.orders.Grows Order.SamePurchase Order.Opened s'.db.orders := by
  cases h with
  | created created =>
    cases created with
    | mk merged unclaimed unordered window priced checked coupon stock items event =>
      obtain ⟨outbox, hd, -⟩ := event.frame
      dsimp only
      rw [hd]
      exact Dict.grows_set Order.SamePurchase.refl (hs _ (Nat.le_succ _)).orders ⟨rfl, rfl, checked⟩
  | claimed claimed =>
    cases claimed with
    | mk _ _ _ _ _ _ _ => exact Dict.grows_refl Order.SamePurchase.refl _
  | swept swept =>
    cases swept with
    | mk _ _ => exact Dict.grows_refl Order.SamePurchase.refl _
  | ended row pending held ending ended =>
    obtain ⟨d₁, d₂, -, -, rfl⟩ := ended.parts
    exact Dict.grows_modify Order.SamePurchase.refl fun o _ => ending.samePurchase o
  | settled settling pending items coupon stock shell event =>
    obtain ⟨c₁, c₂, c₃, outbox, -, -, -, rfl⟩ := settled_parts coupon stock shell event
    exact Dict.grows_modify Order.SamePurchase.refl fun o _ => ⟨rfl, rfl, rfl, rfl, rfl, rfl, rfl, rfl, rfl, rfl, rfl⟩
  | confirmed confirmed =>
    cases confirmed with
    | mk row processing =>
      exact Dict.grows_modify Order.SamePurchase.refl fun o _ =>
        ⟨rfl, rfl, rfl, rfl, rfl, rfl, rfl, rfl, rfl, rfl, rfl⟩

/-- Orders keep their purchases. -/
theorem Db.Quiet.orders_grow {d d' : Db} (h : d.Quiet d') : d.orders.Grows Order.SamePurchase Order.Opened d'.orders where
  kept i o ho := by
    obtain ⟨o', ho', hsame⟩ := h.orders.kept i o ho
    exact ⟨o', ho', hsame.toSamePurchase⟩
  origin i o' ho' := by
    obtain ⟨o, ho, hsame⟩ := (h.orders.origin i o' ho').resolve_right fun hn => hn.2
    exact .inl ⟨o, ho, hsame.toSamePurchase⟩

/-- No change touches what an order was made with. -/
theorem Change.orders_grow {env : Deployment} {terms : Terms} {s s' : Shop} (h : Change env terms s s')
    (hs : s.db.FreshFrom s.next) : s.db.orders.Grows Order.SamePurchase Order.Opened s'.db.orders := by
  cases h with
  | booked booking => exact booking.quiet.orders_grow
  | traded trade => exact trade.orders_grow hs
  | shipped shipped => exact shipped.quiet.orders_grow

/-- The order keeps its purchase, and never goes back. -/
structure Order.Advances (o o' : Order) : Prop extends Order.SamePurchase o o' where
  settled : o.Settled → o'.Settled
  ended : o.Ended → o'.Ended
  pending : o'.orderStatus = .pendingPayment → o.orderStatus = .pendingPayment

theorem Order.Advances.refl (o : Order) : o.Advances o := ⟨Order.SamePurchase.refl o, id, id, id⟩

theorem Order.SameTrade.advances {o o' : Order} (h : o.SameTrade o') : o.Advances o' := by
  refine ⟨h.toSamePurchase, fun hs => ?_, fun he => ?_, fun hp => ?_⟩
  · unfold Order.Settled
    rw [h.orderStatus]
    exact hs
  · unfold Order.Ended
    rw [h.orderStatus]
    exact he
  · rw [← h.orderStatus]
    exact hp

/-- A pending order that is not pending afterwards. -/
theorem advances_of_pending {o o' : Order} (h : o.orderStatus = .pendingPayment) (hsame : o.SamePurchase o') :
    o.Advances o' :=
  ⟨hsame, fun hs => absurd hs (not_settled_of_pending h), fun he => absurd he (not_ended_of_pending h), fun _ => h⟩

/-- An order row that advances. -/
theorem grows_advances {d : Db} {orderId : Nat} {o : Order} {f : Order → Order} (row : d.orders.get? orderId = some o)
    (hf : o.Advances (f o)) : d.orders.Grows Order.Advances Order.Opened (d.orders.modify orderId f) := by
  refine Dict.grows_modify Order.Advances.refl fun o' ho' => ?_
  rw [row] at ho'
  cases ho'
  exact hf

/-- No order goes back. -/
theorem Change.orders_advance {env : Deployment} {terms : Terms} {s s' : Shop} (h : Change env terms s s')
    (hs : s.db.FreshFrom s.next) : s.db.orders.Grows Order.Advances Order.Opened s'.db.orders := by
  have hquiet : ∀ {d d' : Db}, d.Quiet d' → d.orders.Grows Order.Advances Order.Opened d'.orders := by
    intro d d' hq
    refine ⟨fun i o ho => ?_, fun i o' ho' => ?_⟩
    · obtain ⟨o', ho', hsame⟩ := hq.orders.kept i o ho
      exact ⟨o', ho', hsame.advances⟩
    · obtain ⟨o, ho, hsame⟩ := (hq.orders.origin i o' ho').resolve_right fun hn => hn.2
      exact .inl ⟨o, ho, hsame.advances⟩
  cases h with
  | booked booking => exact hquiet booking.quiet
  | shipped shipped => exact hquiet shipped.quiet
  | traded trade =>
    cases trade with
    | created created =>
      cases created with
      | mk merged unclaimed unordered window priced checked coupon stock items event =>
        obtain ⟨outbox, hd, -⟩ := event.frame
        dsimp only
        rw [hd]
        exact Dict.grows_set Order.Advances.refl (hs _ (Nat.le_succ _)).orders ⟨rfl, rfl, checked⟩
    | claimed claimed =>
      cases claimed with
      | mk _ _ _ _ _ _ _ => exact Dict.grows_refl Order.Advances.refl _
    | swept swept =>
      cases swept with
      | mk _ _ => exact Dict.grows_refl Order.Advances.refl _
    | ended row pending held ending ended =>
      obtain ⟨d₁, d₂, -, -, rfl⟩ := ended.parts
      exact grows_advances row (advances_of_pending pending (ending.samePurchase _))
    | settled settling pending items coupon stock shell event =>
      obtain ⟨c₁, c₂, c₃, outbox, -, -, -, rfl⟩ := settled_parts coupon stock shell event
      exact grows_advances settling.order
        (advances_of_pending pending ⟨rfl, rfl, rfl, rfl, rfl, rfl, rfl, rfl, rfl, rfl, rfl⟩)
    | confirmed confirmed =>
      cases confirmed with
      | mk row processing =>
        refine grows_advances row ⟨⟨rfl, rfl, rfl, rfl, rfl, rfl, rfl, rfl, rfl, rfl, rfl⟩, fun _ => .inr rfl, fun he => ?_,
          fun h => nomatch h⟩
        rcases he with he | he <;> rw [processing] at he <;> cases he

end NovaCommerce
