import NovaCommerce.Shop.Runs

/-!
# What the tables say of each other

* `Shop.Opening` : a shop before its first order (`sampleShop`, `samplePaid`);
* `Db.Numbered` : order numbers name their rows (`Change.numbered`);
* `Db.Consistent` : attempts belong to their orders, a pending order was paid nothing, and refunds are
  intended for recorded payments only (`Change.consistent`).
-/

namespace NovaCommerce

open Sql

/-! ## The start -/

/-- What the order workflows' stock keys begin with. -/
def orderKeyPrefix : List Char := "order-".toList

/-- A shop before its first order: a catalogue with stock, coupon templates and promotions. -/
structure Shop.Opening (s : Shop) : Prop where
  fresh : s.db.FreshFrom s.next
  orders : s.db.orders = Dict.empty
  orderItems : s.db.orderItems = Dict.empty
  statusLogs : s.db.statusLogs = []
  payments : s.db.payments = Dict.empty
  compensations : s.db.compensations = Dict.empty
  fulfillments : s.db.fulfillments = Dict.empty
  userCoupons : s.db.userCoupons = Dict.empty
  unlocked : ∀ i row, s.db.inventories.get? i = some row → row.lockedQty = 0
  keys : s.db.MovementKeys
  ownKeys : ∀ m ∈ s.db.movements, ¬ orderKeyPrefix <+: m.idempotencyKey.toList
  templates : ∀ i t, s.db.couponTemplates.get? i = some t → t.issuedCount = 0 ∧ 0 < t.totalQuota ∧ 0 < t.perUserLimit
  promotions : ∀ i p, s.db.promotions.get? i = some p → p.usedQuota = 0 ∧ 0 ≤ p.totalQuota

/-! ## A small shop -/

/-- SHA-256 of the requests that are sent to the small shop. -/
def sampleDigests : List (String × String) := [
  ("\x7b\"address_id\":1,\"coupon_id\":null,\"items\":[[1,2]],\"remark\":\"\",\"user_id\":1\x7d",
    "85538a3d2b8627fff813b63bdfff4ce647b2168b25a3dfe775a4759c849005ad"),
  ("\x7b\"address_id\":1,\"coupon_id\":null,\"items\":[[2,1]],\"remark\":\"\",\"user_id\":1\x7d",
    "8073db330b43de772e93ae9440d178ad856b3a815b9b0a88e8bd51f495f48bab"),
  ("\x7b\"channel\":\"MOCK\",\"order_no\":\"NV20240101000011\",\"user_id\":1\x7d",
    "06a5589544aa14dda36ec9049964976b2cbc81f63d444fb8dfd72267aafe473a")]

/-- The default settings, with the digests of the requests that are sent. -/
def sampleDeployment : Deployment where
  settings := {}
  upperText := id
  lowerText := id
  isAlnumChar := fun _ => false
  sha256Hex := fun s => (sampleDigests.lookup s).getD ""
  hmacHex := fun _ _ => ""
  jsonLoads := fun _ => none

/-- A cup and a plate in one warehouse, and a promotion that gives plates away. -/
def sampleShop : Shop where
  db := {
    warehouses := Dict.ofList [(1, { merchantId := 1, isDefault := true })]
    inventories := Dict.ofList [(1, { warehouseId := 1, skuId := 1, availableQty := 10 }),
      (2, { warehouseId := 1, skuId := 2, availableQty := 10 })]
    promotions := Dict.ofList [(1, {
      merchantId := 1
      promotionType := .percentDiscount
      status := .active
      ruleConfig := { discountBps := some 10000 }
      scope := { allProducts := false, productIds := [2] }
      startsAt := 1704067200000
      endsAt := 1735689600000
      totalQuota := 5 })]
    products := Dict.ofList [
      (1, { merchantId := some 1, productNo := "P1", name := "Cup", status := .published }),
      (2, { merchantId := some 1, productNo := "P2", name := "Plate", status := .published })]
    productSkus := Dict.ofList [(1, { productId := 1, skuNo := "S1", name := "Cup", priceAmount := 500 }),
      (2, { productId := 2, skuNo := "S2", name := "Plate", priceAmount := 700 })]
    addresses := Dict.ofList [(1, { userId := 1 })] }
  next := 10

def sampleCustomer : Principal := { userId := 1, merchantId := none }

/-- The customer orders two cups. -/
def sampleCups : CreateOrderRequest where
  items := [{ skuId := 1, quantity := 2 }]
  addressId := 1
  clientRequestId := "cups"
  idempotencyKey := "cups"

/-- The customer orders a plate. -/
def samplePlate : CreateOrderRequest where
  items := [{ skuId := 2, quantity := 1 }]
  addressId := 1
  clientRequestId := "plate"
  idempotencyKey := "plate"

/-- The customer begins to pay the first order of the small shop. -/
def samplePayment : PaymentRequest where
  orderNo := "NV20240101000011"
  channel := "MOCK"
  clientRequestId := "pay"
  idempotencyKey := "pay"

/-- Noon of the day the orders are made on. -/
def sampleNoon : Time := 1704110400000

/-- What the provider sends when the first payment of the small shop succeeded. -/
def sampleBody : List UInt8 :=
  "\x7b\"payment_no\":\"NVPAY20240101000013\",\"amount\":1000,\"transaction_no\":\"T1\"\x7d".toList.map
    fun c => c.toNat.toUInt8

/-- The notification a minute after noon. -/
def sampleDelivery : Delivery where
  headers := {
    provider := "MOCK"
    eventId := "evt-1"
    timestamp := "1704110460"
    signature := "fe3a2c0cf51abef17de38c6b3759f2c632eaf32bf7d46363df2b5768de59c7d1" }
  rawBody := sampleBody

/-- The deployment that receives the notification. -/
def sampleProvider : Deployment where
  settings := {}
  upperText := id
  lowerText := id
  isAlnumChar := fun _ => false
  sha256Hex := sampleDeployment.sha256Hex
  hmacHex := fun key message =>
    if key = utf8 "dev-mock-callback-secret" ∧ message = signedMessage "1704110460" sampleBody then
      "fe3a2c0cf51abef17de38c6b3759f2c632eaf32bf7d46363df2b5768de59c7d1"
    else ""
  jsonLoads := fun body =>
    if body = sampleBody then
      some (.obj [("payment_no", .str "NVPAY20240101000013"), ("amount", .int 1000), ("transaction_no", .str "T1")])
    else none

/-- It is verified and processed at once. -/
def sampleInstants : Instants where
  edge := 1704110460000
  verified := 1704110460000
  now := 1704110460000

/-- The customer orders two cups and pays them. -/
def samplePaid : List (Op × Nat) := [
  (.createOrder sampleCustomer sampleCups sampleNoon, 1000),
  (.createPayment sampleCustomer samplePayment sampleNoon, 1000),
  (.receive sampleDelivery sampleInstants, 1000)]

theorem sampleShop_opening : sampleShop.Opening where
  fresh _ _ := ⟨rfl, rfl, rfl, rfl, rfl, rfl, rfl, rfl, rfl, rfl, rfl⟩
  orders := rfl
  orderItems := rfl
  statusLogs := rfl
  payments := rfl
  compensations := rfl
  fulfillments := rfl
  userCoupons := rfl
  unlocked i row h := by
    have hrows : ∀ e ∈ sampleShop.db.inventories.entries, e.2.lockedQty = 0 := by decide
    exact hrows (i, row) (Dict.get?_eq_some.mp h)
  keys := List.nodup_nil
  ownKeys _ h := nomatch h
  templates _ _ h := nomatch h
  promotions i p h := by
    have hrows : ∀ e ∈ sampleShop.db.promotions.entries, e.2.usedQuota = 0 ∧ 0 ≤ e.2.totalQuota := by decide
    exact hrows (i, p) (Dict.get?_eq_some.mp h)

/-! ## Order numbers -/

/-- Every order carries the number of its row. -/
def Db.Numbered (env : Deployment) (d : Db) : Prop :=
  ∀ i o, d.orders.get? i = some o → ∃ t ≤ maxTime, o.orderNo = businessNo env.settings.orderNoPrefix t i

/-- Numbers name orders. -/
theorem Db.Numbered.unique {env : Deployment} {d : Db} (h : d.Numbered env) {i j : Nat} {a b : Order}
    (ha : d.orders.get? i = some a) (hb : d.orders.get? j = some b) (hab : a.orderNo = b.orderNo) : i = j := by
  obtain ⟨s, hs, hna⟩ := h i a ha
  obtain ⟨t, ht, hnb⟩ := h j b hb
  rw [hna, hnb] at hab
  exact businessNo_injective hs ht hab

/-- The order a number finds. -/
theorem Db.Numbered.orderByNo {env : Deployment} {d : Db} (h : d.Numbered env) {i : Nat} {o : Order}
    {userId : Option Nat} (ho : d.orders.get? i = some o) (hu : ∀ u ∈ userId, o.userId = u) :
    d.orderByNo o.orderNo userId = some (i, o) := by
  cases hf : d.orderByNo o.orderNo userId with
  | none =>
    refine absurd (decide_eq_true ?_) (Dict.find?_none.mp hf (i, o) (Dict.get?_eq_some.mp ho))
    exact ⟨rfl, hu⟩
  | some found =>
    obtain ⟨j, b⟩ := found
    obtain ⟨hb, hno, -⟩ := orderByNo_some hf
    obtain rfl := h.unique hb ho hno
    rw [hb] at ho
    cases ho
    rfl

/-- Orders that keep their numbers. -/
theorem Db.Numbered.of_kept {env : Deployment} {d d' : Db} (h : d.Numbered env)
    (hk : ∀ i o', d'.orders.get? i = some o' → ∃ o, d.orders.get? i = some o ∧ o'.orderNo = o.orderNo) :
    d'.Numbered env := by
  intro i o' ho'
  obtain ⟨o, ho, hno⟩ := hk i o' ho'
  rw [hno]
  exact h i o ho

/-- A row that is rewritten under its number. -/
theorem orderNo_kept_modify {d : Db} {orderId i : Nat} {f : Order → Order}
    {o' : Order} (h : (d.orders.modify orderId f).get? i = some o') (hf : ∀ o, (f o).orderNo = o.orderNo) :
    ∃ o, d.orders.get? i = some o ∧ o'.orderNo = o.orderNo := by
  rw [Dict.get?_modify] at h
  split_ifs at h
  · obtain ⟨o, ho, rfl⟩ := Option.map_eq_some_iff.mp h
    exact ⟨o, ho, hf o⟩
  · exact ⟨o', h, rfl⟩

theorem Ending.orderNo {terms : Terms} {orderId : Nat} {order : Order} {write : Order → Order} {log : OrderStatusLog}
    (h : Ending terms orderId order write log) (o : Order) : (write o).orderNo = o.orderNo := by
  cases h with
  | cancelled _ _ _ _ => rfl
  | expired _ _ => rfl

theorem Trade.numbered {env : Deployment} {terms : Terms} {s s' : Shop} (h : Trade env terms s s') (hs : s.db.Numbered env) :
    s'.db.Numbered env := by
  cases h with
  | created created =>
    cases created with
    | mk merged unclaimed unordered window priced checked coupon stock items event =>
      obtain ⟨outbox, hd, -⟩ := event.frame
      dsimp only
      rw [hd]
      intro i o ho
      dsimp only at ho
      by_cases hi : i = s.next + 1
      · subst hi
        rw [Dict.get?_set_self] at ho
        cases ho
        exact ⟨_, (Nat.le_add_right _ _).trans window, rfl⟩
      · rw [Dict.get?_set_ne hi] at ho
        exact hs i o ho
  | claimed claimed =>
    cases claimed with
    | mk _ _ _ _ _ _ _ => exact hs
  | swept swept =>
    cases swept with
    | mk _ _ => exact hs
  | ended row pending held ending ended =>
    obtain ⟨d₁, d₂, -, -, rfl⟩ := ended.parts
    exact hs.of_kept fun i o' ho' => orderNo_kept_modify ho' ending.orderNo
  | settled settling pending items coupon stock shell event =>
    obtain ⟨c₁, c₂, c₃, outbox, -, -, -, rfl⟩ := settled_parts coupon stock shell event
    exact hs.of_kept fun i o' ho' => orderNo_kept_modify ho' fun _ => rfl
  | confirmed confirmed =>
    cases confirmed with
    | mk row processing => exact hs.of_kept fun i o' ho' => orderNo_kept_modify ho' fun _ => rfl

theorem Db.Quiet.numbered {env : Deployment} {d d' : Db} (h : d.Quiet d') (hd : d.Numbered env) :
    d'.Numbered env := by
  refine hd.of_kept fun i o' ho' => ?_
  obtain ⟨o, ho, hsame⟩ := (h.orders.origin i o' ho').resolve_right fun hn => hn.2
  exact ⟨o, ho, hsame.orderNo⟩

theorem Change.numbered {env : Deployment} {terms : Terms} {s s' : Shop} (h : Change env terms s s')
    (hs : s.db.Numbered env) : s'.db.Numbered env := by
  cases h with
  | booked booking => exact booking.quiet.numbered hs
  | traded trade => exact trade.numbered hs
  | shipped shipped => exact shipped.quiet.numbered hs

/-! ## Payments and orders -/

/-- A payment that was recorded as successful, refunded or not. -/
def Payment.Recorded (p : Payment) : Prop :=
  p.status = .success ∨ p.status = .partialRefunded ∨ p.status = .refunded

instance Payment.decidableRecorded (p : Payment) : Decidable p.Recorded := by
  unfold Payment.Recorded
  infer_instance

/-- The amounts of an attempt. -/
structure Payment.Booked (p : Payment) : Prop where
  positive : 0 < p.amount
  recorded : p.Recorded → p.paidAmount = p.amount
  unrecorded : ¬ p.Recorded → p.paidAmount = 0 ∧ p.refundedAmount = 0

/-- An attempt is made for an order, at its payable amount. -/
structure Payment.AttemptFor (p : Payment) (o : Order) : Prop where
  orderNo : p.orderNo = o.orderNo
  userId : p.userId = o.userId
  amount : p.amount = o.payableAmount

/-- An order nobody paid yet. -/
structure Order.Unpaid (o : Order) : Prop where
  paid : o.paidAmount = 0
  refunded : o.refundedAmount = 0
  status : o.paymentStatus = .unpaid ∨ o.paymentStatus = .paying

structure Db.Consistent (env : Deployment) (d : Db) : Prop where
  numbered : d.Numbered env
  attempts : ∀ i p, d.payments.get? i = some p →
    p.Booked ∧ ∃ o, d.orders.get? p.orderId = some o ∧ p.AttemptFor o
  pending : ∀ i o, d.orders.get? i = some o → o.orderStatus = .pendingPayment →
    o.Unpaid ∧ ∀ j p, d.payments.get? j = some p → p.orderId = i → ¬ p.Recorded
  intents : ∀ i r, d.compensations.get? i = some r →
    0 < r.amount ∧ ∃ p, d.payments.get? r.paymentId = some p ∧ p.orderId = r.orderId ∧ p.Recorded

/-! ## How rows change -/

/-- An order keeps what identifies it, and never becomes pending. -/
structure Order.Evolves (o o' : Order) : Prop where
  orderNo : o'.orderNo = o.orderNo
  userId : o'.userId = o.userId
  payable : o'.payableAmount = o.payableAmount
  pending : o'.orderStatus = .pendingPayment → o.orderStatus = .pendingPayment ∧ (o.Unpaid → o'.Unpaid)

/-- A payment keeps what identifies it, and stays recorded. -/
structure Payment.Evolves (p p' : Payment) : Prop where
  paymentNo : p'.paymentNo = p.paymentNo
  orderId : p'.orderId = p.orderId
  orderNo : p'.orderNo = p.orderNo
  userId : p'.userId = p.userId
  amount : p'.amount = p.amount
  booked : p.Booked → p'.Booked
  recorded : p.Recorded → p'.Recorded

/-- An intent keeps what it is about. -/
structure PaymentCompensationRefund.Evolves (r r' : PaymentCompensationRefund) : Prop where
  paymentId : r'.paymentId = r.paymentId
  orderId : r'.orderId = r.orderId
  amount : r'.amount = r.amount

/-- What a change does to orders, payments and refund intents. -/
structure Db.Evolves (d d' : Db) : Prop where
  orders : d.orders.Grows Order.Evolves (fun o => o.Unpaid) d'.orders
  payments : d.payments.Grows Payment.Evolves (fun p => p.Booked ∧ ¬ p.Recorded ∧
    ∃ o, d.orders.get? p.orderId = some o ∧ p.AttemptFor o) d'.payments
  settled : ∀ i p p', d.payments.get? i = some p → d'.payments.get? i = some p' → ¬ p.Recorded →
    p'.Recorded → ∀ o', d'.orders.get? p.orderId = some o' → o'.orderStatus ≠ .pendingPayment
  intents : d.compensations.Grows PaymentCompensationRefund.Evolves (fun r => 0 < r.amount ∧
    ∃ p, d'.payments.get? r.paymentId = some p ∧ p.orderId = r.orderId ∧ p.Recorded) d'.compensations

theorem Order.Evolves.refl (o : Order) : o.Evolves o := ⟨rfl, rfl, rfl, fun h => ⟨h, id⟩⟩

theorem Payment.Evolves.refl (p : Payment) : p.Evolves p := ⟨rfl, rfl, rfl, rfl, rfl, id, id⟩

theorem PaymentCompensationRefund.Evolves.refl (r : PaymentCompensationRefund) : r.Evolves r :=
  ⟨rfl, rfl, rfl⟩

theorem Db.Consistent.evolves {env : Deployment} {d d' : Db} (h : d.Consistent env) (he : d.Evolves d')
    (hn : d'.Numbered env) : d'.Consistent env where
  numbered := hn
  attempts i p hp := by
    rcases he.payments.origin i p hp with ⟨q, hq, hqp⟩ | ⟨-, hbooked, -, o, ho, hfor⟩
    · obtain ⟨hbooked, o, ho, hfor⟩ := h.attempts i q hq
      obtain ⟨o', ho', heo⟩ := he.orders.kept _ o ho
      refine ⟨hqp.booked hbooked, o', ?_, ?_, ?_, ?_⟩
      · rw [hqp.orderId, ho']
      · rw [hqp.orderNo, heo.orderNo, hfor.orderNo]
      · rw [hqp.userId, heo.userId, hfor.userId]
      · rw [hqp.amount, heo.payable, hfor.amount]
    · obtain ⟨o', ho', heo⟩ := he.orders.kept _ o ho
      refine ⟨hbooked, o', ho', ?_, ?_, ?_⟩
      · rw [heo.orderNo, hfor.orderNo]
      · rw [heo.userId, hfor.userId]
      · rw [heo.payable, hfor.amount]
  pending i o' ho' hpending := by
    rcases he.orders.origin i o' ho' with ⟨o, ho, heo⟩ | ⟨hnone, hunpaid⟩
    · obtain ⟨hwas, hunpaid⟩ := heo.pending hpending
      obtain ⟨hold, hnone⟩ := h.pending i o ho hwas
      refine ⟨hunpaid hold, fun j p' hp' hj hrecorded => ?_⟩
      rcases he.payments.origin j p' hp' with ⟨p, hp, hpp⟩ | ⟨-, -, hnew, -⟩
      · have hj : p.orderId = i := by rw [← hpp.orderId, hj]
        refine he.settled j p p' hp hp' (hnone j p hp hj) hrecorded o' ?_ hpending
        rw [hj, ho']
      · exact hnew hrecorded
    · -- a new order has no attempts yet
      refine ⟨hunpaid, fun j p' hp' hj _ => ?_⟩
      rcases he.payments.origin j p' hp' with ⟨p, hp, hpp⟩ | ⟨-, -, -, o, ho, -⟩
      · obtain ⟨-, o, ho, -⟩ := h.attempts j p hp
        rw [← hpp.orderId, hj, hnone] at ho
        cases ho
      · rw [hj, hnone] at ho
        cases ho
  intents i r' hr' := by
    rcases he.intents.origin i r' hr' with ⟨r, hr, her⟩ | ⟨-, hnew⟩
    · obtain ⟨hpos, p, hp, hpo, hrecorded⟩ := h.intents i r hr
      obtain ⟨p', hp', hep⟩ := he.payments.kept _ p hp
      refine ⟨?_, p', ?_, ?_, hep.recorded hrecorded⟩
      · rw [her.amount]
        exact hpos
      · rw [her.paymentId, hp']
      · rw [hep.orderId, hpo, her.orderId]
    · exact hnew

/-! ## Changes let the rows evolve -/

theorem Db.Evolves.same {d d' : Db} (ho : d'.orders = d.orders) (hp : d'.payments = d.payments)
    (hc : d'.compensations = d.compensations) : d.Evolves d' where
  orders := ho ▸ Dict.grows_refl Order.Evolves.refl _
  payments := hp ▸ Dict.grows_refl Payment.Evolves.refl _
  settled i p p' h h' hnot hrecorded := by
    rw [hp, h] at h'
    cases h'
    exact absurd hrecorded hnot
  intents := hc ▸ Dict.grows_refl PaymentCompensationRefund.Evolves.refl _

/-- An open payment is not recorded. -/
theorem not_recorded_of_open {p : Payment}
    (h : p.status ∈ settleableStatuses ∨ p.status ∈ latePaymentStatuses) : ¬ p.Recorded := by
  unfold Payment.Recorded
  cases hs : p.status <;> simp_all [settleableStatuses, latePaymentStatuses]

/-- A payment that is settled is an unrecorded attempt for the order it is settled on. -/
theorem Settling.attempt {env : Deployment} {d : Db} {paymentId orderId : Nat} {p : Payment} {o : Order}
    (h : Settling d paymentId p orderId o) (hd : d.Consistent env) :
    p.orderId = orderId ∧ p.AttemptFor o ∧ p.Booked ∧ ¬ p.Recorded := by
  obtain ⟨hbooked, o', ho', hfor⟩ := hd.attempts paymentId p h.payment
  have hid : p.orderId = orderId :=
    hd.numbered.unique ho' h.order (by rw [← hfor.orderNo, h.ofOrder])
  rw [hid, h.order] at ho'
  cases ho'
  exact ⟨hid, hfor, hbooked, not_recorded_of_open h.open_⟩

/-- A payment that is recorded at its amount. -/
theorem Payment.succeeded_evolves {p : Payment} (hn : ¬ p.Recorded) (externalTransactionNo : Option String)
    (now : Time) : p.Evolves (p.succeeded p.amount externalTransactionNo now) where
  paymentNo := rfl
  orderId := rfl
  orderNo := rfl
  userId := rfl
  amount := rfl
  booked h := ⟨h.positive, fun _ => rfl, fun hnot => absurd (.inl rfl) hnot⟩
  recorded h := absurd h hn

/-- Recording a payment of an order that is not pending afterwards. -/
theorem settle_evolves {env : Deployment} {d d' : Db} {paymentId orderId : Nat} {p : Payment} {o : Order}
    {externalTransactionNo : Option String} {now : Time} {f : Order → Order} (hd : d.Consistent env)
    (h : Settling d paymentId p orderId o) (hf : o.Evolves (f o)) (hdone : (f o).orderStatus ≠ .pendingPayment)
    (ho : d'.orders = d.orders.modify orderId f)
    (hp : d'.payments = d.payments.modify paymentId fun row => row.succeeded p.amount externalTransactionNo now)
    (hc : d.compensations.Grows PaymentCompensationRefund.Evolves (fun r => 0 < r.amount ∧
      ∃ p, d'.payments.get? r.paymentId = some p ∧ p.orderId = r.orderId ∧ p.Recorded) d'.compensations) :
    d.Evolves d' where
  orders := by
    rw [ho]
    refine Dict.grows_modify Order.Evolves.refl fun o' ho' => ?_
    rw [h.order] at ho'
    cases ho'
    exact hf
  payments := by
    rw [hp]
    refine Dict.grows_modify Payment.Evolves.refl fun p' hp' => ?_
    rw [h.payment] at hp'
    cases hp'
    exact Payment.succeeded_evolves (h.attempt hd).2.2.2 _ _
  settled i q q' hq hq' hnot hrecorded o' ho' := by
    by_cases hi : i = paymentId
    · subst hi
      rw [h.payment] at hq
      cases hq
      rw [(h.attempt hd).1, ho, Dict.get?_modify_self, h.order] at ho'
      cases ho'
      exact hdone
    · rw [hp, Dict.get?_modify_ne hi, hq] at hq'
      cases hq'
      exact absurd hrecorded hnot
  intents := hc

/-- Ending a pending order. -/
theorem Ending.evolves {terms : Terms} {orderId : Nat} {order : Order} {write : Order → Order} {log : OrderStatusLog}
    (h : Ending terms orderId order write log) :
    order.Evolves (write order) ∧ (write order).orderStatus ≠ .pendingPayment := by
  cases h with
  | cancelled principal reason now unpaying => exact ⟨⟨rfl, rfl, rfl, fun h => nomatch h⟩, fun h => nomatch h⟩
  | expired now unpaid => exact ⟨⟨rfl, rfl, rfl, fun h => nomatch h⟩, fun h => nomatch h⟩

/-- Closing an attempt that is still open. -/
theorem Payment.closed_evolves {p : Payment} (hopen : p.Open) (now : Time) :
    p.Evolves (p.closed now) ∧ ¬ (p.closed now).Recorded := by
  have hn : ¬ (p.closed now).Recorded := by
    unfold Payment.Recorded
    simp [Payment.closed]
  have hp : ¬ p.Recorded := by
    unfold Payment.Recorded
    rcases hopen with h | h <;> simp [h]
  refine ⟨⟨rfl, rfl, rfl, rfl, rfl, fun h => ⟨h.positive, fun hr => absurd hr hn, fun _ => ?_⟩,
    fun h => absurd h hp⟩, hn⟩
  exact h.unrecorded hp

theorem ended_evolves {terms : Terms} {d d' : Db} {orderId : Nat} {order : Order} {requests : List StockRequest} {now : Time}
    {attempts : List (Nat × Payment)} {write : Order → Order} {log : OrderStatusLog}
    (row : d.orders.get? orderId = some order) (held : ∀ e ∈ attempts, d.payments.get? e.1 = some e.2)
    (ending : Ending terms orderId order write log)
    (ended : OrderEnded orderId order requests now attempts write log d d') : d.Evolves d' := by
  obtain ⟨userCoupons, couponUsages, movements, inventories, rfl, -, -⟩ := ended.frame
  have hopen : ∀ i p, d.payments.get? i = some p → (∃ e ∈ attempts, e.1 = i ∧ e.2.Open) → p.Open := by
    rintro i p hp ⟨e, he, rfl, hopen⟩
    rw [held e he] at hp
    cases hp
    exact hopen
  refine ⟨Dict.grows_modify Order.Evolves.refl fun o ho => ?_, ?_,
    fun i p p' hp hp' hn hr => ?_, Dict.grows_refl PaymentCompensationRefund.Evolves.refl _⟩
  · rw [row] at ho
    cases ho
    exact ending.evolves.1
  · dsimp only
    refine Dict.grows_adjust fun i p hp => ?_
    split_ifs with hclose
    · exact (Payment.closed_evolves (hopen i p hp hclose) now).1
    · exact Payment.Evolves.refl p
  · rw [Dict.get?_adjust, hp] at hp'
    obtain rfl := Option.some.inj hp'
    split_ifs at hr with hclose
    · exact absurd hr (Payment.closed_evolves (hopen i p hp hclose) now).2
    · exact absurd hr hn

theorem created_evolves {next next' : Nat} {d d' : Db} (h : AttemptCreated next d next' d')
    (hfresh : d.FreshFrom next) : d.Evolves d' := by
  cases h with
  | replayed => exact .same rfl rfl rfl
  | @created orderId order p now locked pending unsettled positive ofOrder orderNo userId amount status
      paid refunded =>
    have hnot : ¬ p.Recorded := by
      unfold Payment.Recorded
      simp [status]
    have hpayments := (hfresh next (le_refl _)).payments
    have hbooked : p.Booked := ⟨by rw [amount]; exact positive, fun hr => absurd hr hnot, fun _ => ⟨paid, refunded⟩⟩
    refine ⟨Dict.grows_modify Order.Evolves.refl fun o ho => ?_,
      Dict.grows_set Payment.Evolves.refl hpayments
        ⟨hbooked, hnot, order, by rw [ofOrder, locked], orderNo, userId, amount⟩,
      fun i q q' hq hq' hn hr => ?_, Dict.grows_refl PaymentCompensationRefund.Evolves.refl _⟩
    · rw [locked] at ho
      cases ho
      unfold Order.payingBy
      split_ifs with hunpaid
      · exact ⟨rfl, rfl, rfl, fun _ => ⟨pending, fun hu => ⟨hu.paid, hu.refunded, .inr rfl⟩⟩⟩
      · exact Order.Evolves.refl _
    · have hi : i ≠ next := by
        rintro rfl
        rw [hpayments] at hq
        cases hq
      rw [Dict.get?_set_ne hi, hq] at hq'
      cases hq'
      exact absurd hr hn

theorem late_evolves {env : Deployment} {d d' : Db} {paymentId orderId next next' : Nat} {p : Payment} {o : Order}
    {externalTransactionNo : Option String} {now : Time} (hd : d.Consistent env) (hfresh : d.FreshFrom next)
    (h : Settling d paymentId p orderId o) (closed : o.orderStatus = .closed)
    (ensured : CompensationEnsured paymentId p p.amount next { d with
      payments := d.payments.modify paymentId fun row => row.succeeded p.amount externalTransactionNo now
      orders := d.orders.modify orderId (o.paidLate p.amount now) } next' d') : d.Evolves d' := by
  have hdone : (o.paidLate p.amount now o).orderStatus ≠ .pendingPayment := by
    show o.orderStatus ≠ .pendingPayment
    rw [closed]
    decide
  have hf : o.Evolves (o.paidLate p.amount now o) := ⟨rfl, rfl, rfl, fun hp => absurd hp hdone⟩
  cases ensured with
  | present found =>
    exact settle_evolves hd h hf hdone rfl rfl (Dict.grows_refl PaymentCompensationRefund.Evolves.refl _)
  | created absent positive ofPayment ofOrder ofAmount pending =>
    refine settle_evolves hd h hf hdone rfl rfl
      (Dict.grows_set PaymentCompensationRefund.Evolves.refl (hfresh next (le_refl _)).compensations
        ⟨by rw [ofAmount]; exact positive, p.succeeded p.amount externalTransactionNo now, ?_, ofOrder.symm, .inl rfl⟩)
    rw [ofPayment, Dict.get?_modify_self, h.payment]
    rfl

/-- A refund keeps a recorded payment recorded. -/
theorem Payment.compensatedBy_recorded (p : Payment) (amount : Int) : (p.compensatedBy amount p).Recorded := by
  unfold Payment.Recorded Payment.compensatedBy
  dsimp only
  split_ifs <;> simp

theorem compensated_evolves {env : Deployment} {id : Nat} {d d' : Db} (hd : d.Consistent env) (h : Compensated id d d') :
    d.Evolves d' := by
  cases h with
  | @mk intent payment order providerRefundNo found ofPayment ofOrder paymentChecked orderChecked =>
    obtain ⟨-, p, hp, hpo, hrecorded⟩ := hd.intents id intent found
    rw [ofPayment] at hp
    cases hp
    have hdone : order.orderStatus ≠ .pendingPayment := fun hpending =>
      (hd.pending _ _ ofOrder hpending).2 _ _ ofPayment hpo hrecorded
    refine ⟨Dict.grows_modify Order.Evolves.refl fun o ho => ?_,
      Dict.grows_modify Payment.Evolves.refl fun p hp => ?_, fun i p p' hp hp' hn hr => ?_, ?_⟩
    · rw [ofOrder] at ho
      cases ho
      exact ⟨rfl, rfl, rfl, fun h => absurd h hdone⟩
    · rw [ofPayment] at hp
      cases hp
      exact ⟨rfl, rfl, rfl, rfl, rfl, fun hb => ⟨hb.positive, fun _ => hb.recorded hrecorded,
        fun hn => absurd (Payment.compensatedBy_recorded _ _) hn⟩, fun _ => Payment.compensatedBy_recorded _ _⟩
    · by_cases hi : i = intent.paymentId
      · subst hi
        rw [ofPayment] at hp
        cases hp
        exact absurd hrecorded hn
      · rw [Dict.get?_modify_ne hi, hp] at hp'
        cases hp'
        exact absurd hr hn
    · dsimp only
      exact Dict.grows_modify PaymentCompensationRefund.Evolves.refl fun r _ => ⟨rfl, rfl, rfl⟩

theorem Booking.evolves {env : Deployment} {terms : Terms} {s s' : Shop} (h : Booking terms s s')
    (hd : s.db.Consistent env) (hfresh : s.db.FreshFrom s.next) : s.db.Evolves s'.db := by
  cases h with
  | drawn _ => exact .same rfl rfl rfl
  | called _ _ => exact .same rfl rfl rfl
  | attempted created => exact created_evolves created hfresh
  | late settling closed first checked ensured => exact late_evolves hd hfresh settling closed ensured
  | parked =>
    have hsame : s.db.Evolves s.db := .same rfl rfl rfl
    refine ⟨hsame.orders, hsame.payments, hsame.settled, ?_⟩
    dsimp only
    exact Dict.grows_modify PaymentCompensationRefund.Evolves.refl fun r _ => ⟨rfl, rfl, rfl⟩
  | compensated compensated => exact compensated_evolves hd compensated

theorem Trade.evolves {env : Deployment} {terms : Terms} {s s' : Shop} (h : Trade env terms s s') (hd : s.db.Consistent env)
    (hfresh : s.db.FreshFrom s.next) : s.db.Evolves s'.db := by
  have hsame : s.db.Evolves s.db := .same rfl rfl rfl
  cases h with
  | created created =>
    cases created with
    | mk merged unclaimed unordered window priced checked coupon stock items event =>
      obtain ⟨outbox, hframe, -⟩ := event.frame
      dsimp only
      rw [hframe]
      refine ⟨?_, hsame.payments, fun i p p' hp hp' hn hr => ?_, hsame.intents⟩
      · dsimp only
        exact Dict.grows_set Order.Evolves.refl (hfresh _ (Nat.le_succ _)).orders ⟨rfl, rfl, .inl rfl⟩
      · rw [hp] at hp'
        cases hp'
        exact absurd hr hn
  | claimed claimed =>
    cases claimed with
    | mk _ _ _ _ _ _ _ => exact .same rfl rfl rfl
  | swept swept =>
    cases swept with
    | mk _ _ => exact .same rfl rfl rfl
  | ended row pending held ending ended => exact ended_evolves row (fun e he => (held e he).1) ending ended
  | settled settling pending items coupon stock shell event =>
    obtain ⟨c₁, c₂, c₃, outbox, -, -, -, rfl⟩ := settled_parts coupon stock shell event
    refine settle_evolves hd settling ⟨rfl, rfl, rfl, fun h => ?_⟩ (fun h => ?_) rfl rfl
      (Dict.grows_refl PaymentCompensationRefund.Evolves.refl _)
    · cases h
    · cases h
  | confirmed confirmed =>
    cases confirmed with
    | mk row processing =>
      refine ⟨?_, hsame.payments, fun i p p' hp hp' hn hr => ?_, hsame.intents⟩
      · dsimp only
        exact Dict.grows_modify Order.Evolves.refl fun o _ => ⟨rfl, rfl, rfl, fun h => nomatch h⟩
      · rw [hp] at hp'
        cases hp'
        exact absurd hr hn

/-- A shipment is not a payment. -/
theorem PackageShipped.evolves {next next' : Nat} {d d' : Db} (h : PackageShipped next d next' d') :
    d.Evolves d' := by
  have hsame : d.Evolves d := .same rfl rfl rfl
  cases h with
  | mk found ofOrder unshipped carried kept residual =>
    obtain ⟨-, -, hframe⟩ := residual.frame
    rw [hframe]
    refine ⟨?_, hsame.payments, fun i p p' hp hp' hn hr => ?_, hsame.intents⟩
    · dsimp only
      exact Dict.grows_modify Order.Evolves.refl fun o _ => ⟨rfl, rfl, rfl, fun h => ⟨h, fun hu => ⟨hu.1, hu.2, hu.3⟩⟩⟩
    · rw [hp] at hp'
      cases hp'
      exact absurd hr hn

theorem Change.evolves {env : Deployment} {terms : Terms} {s s' : Shop} (h : Change env terms s s')
    (hd : s.db.Consistent env) (hfresh : s.db.FreshFrom s.next) : s.db.Evolves s'.db := by
  cases h with
  | booked booking => exact booking.evolves hd hfresh
  | traded trade => exact trade.evolves hd hfresh
  | shipped shipped => exact shipped.evolves

/-! ## The invariant of every run -/

/-- What holds of the tables after every change. -/
structure Shop.Sound (env : Deployment) (s : Shop) : Prop where
  fresh : s.db.FreshFrom s.next
  consistent : s.db.Consistent env

theorem Change.sound {env : Deployment} {terms : Terms} {s s' : Shop} (h : Change env terms s s')
    (hs : s.Sound env) : s'.Sound env where
  fresh := h.fresh hs.fresh
  consistent := hs.consistent.evolves (h.evolves hs.consistent hs.fresh) (h.numbered hs.consistent.numbered)

theorem Shop.Opening.sound {env : Deployment} {s : Shop} (h : s.Opening) : s.Sound env where
  fresh := h.fresh
  consistent := by
    constructor
    · intro i o ho
      rw [h.orders] at ho
      cases ho
    · intro i p hp
      rw [h.payments] at hp
      cases hp
    · intro i o ho
      rw [h.orders] at ho
      cases ho
    · intro i r hr
      rw [h.compensations] at hr
      cases hr

end NovaCommerce
