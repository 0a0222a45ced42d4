import NovaCommerce.Lib.Totals
import NovaCommerce.Lifecycle.Runs

/-!
# Order lines over the life of a shop

* `Itemizes` : what a session does to orders and lines: nothing, or one order with lines that make up its payable
  amount (`after_itemizes`);
* `Db.ofLines` : a figure of an order's lines, added up; a session keeps it (`Itemizes.kept`), or makes it
  (`Itemizes.made`).
-/

namespace NovaCommerce

open Sql

/-- A line as an order is made with it. -/
structure OrderItem.New (orderId : Nat) (item : OrderItem) : Prop where
  ofOrder : item.orderId = orderId
  unrefunded : item.refundedAmount = 0
  checked : item.Checked

/-- A session leaves the lines alone and makes no order, or makes one order with its lines. -/
inductive Itemizes (d d' : Db) : Prop where
  | leaves (orders : ∀ i, d.orders.get? i = none → d'.orders.get? i = none) (orderItems : d'.orderItems = d.orderItems)
  | makes {orderId next : Nat} {order : Order} {rows : List OrderItem} (freshOrder : d.orders.get? orderId = none)
      (freshItems : ∀ j, next ≤ j → d.orderItems.get? j = none) (orders : d'.orders = d.orders.set orderId order)
      (orderItems : d'.orderItems = d.orderItems.setFrom next rows) (new : ∀ row ∈ rows, row.New orderId)
      (payable : (rows.map OrderItem.payableAmount).sum = order.payableAmount)

theorem Itemizes.same {d d' : Db} (orders : d'.orders = d.orders) (orderItems : d'.orderItems = d.orderItems) :
    Itemizes d d' := by
  refine .leaves (fun i hi => ?_) orderItems
  rw [orders]
  exact hi

theorem Itemizes.modified {d d' : Db} {i : Nat} {f : Order → Order} (orders : d'.orders = d.orders.modify i f)
    (orderItems : d'.orderItems = d.orderItems) : Itemizes d d' := by
  refine .leaves (fun j hj => ?_) orderItems
  rw [orders]
  exact Dict.get?_modify_none hj i f

/-- Nothing was made before the last step. -/
theorem Itemizes.after {d d₁ d₂ : Db} (orders : ∀ i, d.orders.get? i = none → d₁.orders.get? i = none)
    (orderItems : d₁.orderItems = d.orderItems) (orders₂ : ∀ i, d₁.orders.get? i = none → d₂.orders.get? i = none)
    (orderItems₂ : d₂.orderItems = d₁.orderItems) : Itemizes d d₂ :=
  .leaves (fun i hi => orders₂ i (orders i hi)) (orderItems₂.trans orderItems)

/-! ## Figures of an order's lines -/

/-- A figure of the lines of an order, added up. -/
def Db.ofLines (d : Db) (figure : OrderItem → Int) (orderId : Nat) : Int :=
  d.orderItems.totalOf OrderItem.orderId figure orderId

/-- Every line belongs to an order. -/
def Db.LinesOwned (d : Db) : Prop := ∀ j item, d.orderItems.get? j = some item → ∃ o, d.orders.get? item.orderId = some o

/-- Nothing is added up for an order that is not there. -/
theorem Db.LinesOwned.ofLines_eq_zero {d : Db} (h : d.LinesOwned) {i : Nat} (hi : d.orders.get? i = none)
    (figure : OrderItem → Int) : d.ofLines figure i = 0 := by
  refine Dict.totalOf_eq_zero fun j item hitem hof => ?_
  obtain ⟨o, ho⟩ := h j item hitem
  rw [hof, hi] at ho
  cases ho

/-- The lines of a new order, among the others. -/
theorem ofLines_setFrom {d d' : Db} {orderId next : Nat} {rows : List OrderItem}
    (freshItems : ∀ j, next ≤ j → d.orderItems.get? j = none) (orderItems : d'.orderItems = d.orderItems.setFrom next rows)
    (new : ∀ row ∈ rows, row.New orderId) (figure : OrderItem → Int) (i : Nat) :
    d'.ofLines figure i = d.ofLines figure i + if i = orderId then (rows.map figure).sum else 0 := by
  unfold Db.ofLines
  rw [orderItems]
  exact Dict.totalOf_setFrom freshItems (fun row hrow => (new row hrow).ofOrder) figure i

/-- What is added up for an order stays. -/
theorem Itemizes.kept {d d' : Db} (h : Itemizes d d') {i : Nat} {o : Order} (ho : d.orders.get? i = some o)
    (figure : OrderItem → Int) : d'.ofLines figure i = d.ofLines figure i := by
  cases h with
  | leaves orders orderItems =>
    unfold Db.ofLines
    rw [orderItems]
  | @makes orderId next order rows freshOrder freshItems orders orderItems new payable =>
    have hi : i ≠ orderId := by
      rintro rfl
      rw [freshOrder] at ho
      cases ho
    rw [ofLines_setFrom freshItems orderItems new, if_neg hi, add_zero]

/-- What is added up for an order that is made. -/
theorem Itemizes.made {d d' : Db} (h : Itemizes d d') (owned : d.LinesOwned) {i : Nat} {o : Order}
    (hnone : d.orders.get? i = none) (ho : d'.orders.get? i = some o) :
    ∃ rows : List OrderItem, (∀ row ∈ rows, row.New i) ∧ (rows.map OrderItem.payableAmount).sum = o.payableAmount ∧
      ∀ figure : OrderItem → Int, d'.ofLines figure i = (rows.map figure).sum := by
  cases h with
  | leaves orders orderItems =>
    rw [orders i hnone] at ho
    cases ho
  | @makes orderId next order rows freshOrder freshItems orders orderItems new payable =>
    have hi : i = orderId := by
      by_contra hne
      rw [orders, Dict.get?_set_ne hne, hnone] at ho
      cases ho
    subst hi
    rw [orders, Dict.get?_set_self] at ho
    cases ho
    refine ⟨rows, new, payable, fun figure => ?_⟩
    rw [ofLines_setFrom freshItems orderItems new, owned.ofLines_eq_zero freshOrder, if_pos rfl, zero_add]

/-- Where a line comes from. -/
theorem Itemizes.line {d d' : Db} (h : Itemizes d d') {j : Nat} {item : OrderItem} (hitem : d'.orderItems.get? j = some item) :
    d.orderItems.get? j = some item ∨ ∃ orderId, item.New orderId := by
  cases h with
  | leaves orders orderItems =>
    rw [orderItems] at hitem
    exact .inl hitem
  | @makes orderId next order rows freshOrder freshItems orders orderItems new payable =>
    rcases inserted_origin orderItems hitem with hold | ⟨n, -, hn⟩
    · exact .inl hold
    · exact .inr ⟨orderId, new item (List.mem_of_getElem? hn)⟩

/-! ## A new order -/

theorem newItem_new {snapshot : Pricing.PriceSnapshot AttributeSnapshot} {orderId warehouseId : Nat}
    {item : Pricing.ItemPrice AttributeSnapshot} {row : OrderItem}
    (h : newItem snapshot orderId warehouseId item = .ok row) (checked : row.Checked) : row.New orderId := by
  unfold newItem at h
  simp only [Raise.bind_eq_ok, Raise.pure_eq_ok] at h
  obtain ⟨_, -, _, -, _, -, rfl⟩ := h
  exact ⟨rfl, rfl, checked⟩

theorem insertItems_new {snapshot : Pricing.PriceSnapshot AttributeSnapshot} {orderId warehouseId : Nat}
    {items : List (Pricing.ItemPrice AttributeSnapshot)} {e e' : Exec Db} {rows : List OrderItem}
    (h : (insertItems snapshot orderId warehouseId items).run e = (.ok rows, e')) :
    (∀ row ∈ rows, row.New orderId) ∧
      e' = { e with
        view := { e.view with orderItems := e.view.orderItems.setFrom e.next rows }
        next := e.next + rows.length } := by
  obtain ⟨hall, he⟩ := insertItems_eq_ok h
  refine ⟨?_, he⟩
  clear h he
  induction hall with
  | nil => exact List.forall_mem_nil _
  | cons hrow _ ih => exact List.forall_mem_cons.mpr ⟨newItem_new hrow.1 hrow.2, ih⟩

/-- `INV-006`: the lines of an order make up its payable amount. -/
theorem assertInvariants_payable {order : Order} {items : List OrderItem} (h : assertInvariants order items = .ok ()) :
    (items.map OrderItem.payableAmount).sum = order.payableAmount := by
  unfold assertInvariants at h
  simp only [Raise.bind_eq_ok, Raise.raiseIf_eq_ok, not_not] at h
  obtain ⟨_, hpayable, -⟩ := h
  exact hpayable

/-- Writing a priced order, from the claim on. -/
theorem writeNewOrder_itemizes {env : Deployment} {principal : Principal} {request : CreateOrderRequest}
    {lines : List OrderLineInput} {requestHash : String} {claimId : Nat} {p : PricedOrder} {now : Time} {d : Db}
    {e e' : Exec Db} {result : CreateOrderResult} (priced : PricedFor request lines now d p) (horders : e.view.orders = d.orders)
    (hitems : e.view.orderItems = d.orderItems) (hcoupons : e.view.userCoupons = d.userCoupons)
    (hfresh : ∀ i, e.next ≤ i → d.Fresh i)
    (h : (writeNewOrder env principal request lines requestHash claimId p now).run e = (.ok result, e')) :
    Itemizes d e'.view := by
  unfold writeNewOrder at h
  rw [run_bind_eq_ok] at h
  obtain ⟨orderId, e₁, horder, h⟩ := h
  obtain ⟨rfl, -, -, -, rfl⟩ := insertOrder_eq_ok horder
  rw [run_bind_eq_ok] at h
  obtain ⟨_, e₂, hcoupon, h⟩ := h
  obtain ⟨c₁, rfl, hlocked⟩ := lockSelected_locked hcoupon priced.couponId fun s hs => by
    show e.view.userCoupons.get? s.id = some s.coupon
    rw [hcoupons]
    exact priced.coupon s hs
  rw [run_bind_eq_ok] at h
  obtain ⟨warehouseId, e₃, hstock, h⟩ := h
  obtain ⟨c₂, rfl, hmoves⟩ := reserveStock_eq_ok hstock
  rw [run_bind_eq_ok] at h
  obtain ⟨rows, e₄, hrows, h⟩ := h
  obtain ⟨hnew, rfl⟩ := insertItems_new hrows
  rw [run_bind, run_update, andThen_ok, run_bind_eq_ok] at h
  obtain ⟨_, e₅, hinvariants, h⟩ := h
  rw [run_ofExcept_eq_ok] at hinvariants
  obtain ⟨hinvariants, rfl⟩ := hinvariants
  rw [run_bind, run_update, andThen_ok, run_bind_eq_ok] at h
  obtain ⟨_, e₆, hevent, h⟩ := h
  obtain ⟨d', rfl, hqueued⟩ := enqueue_enqueued hevent
  cases h
  obtain ⟨outbox, hd', -⟩ := hqueued.frame
  have hcouponFrame := hlocked.frame
  obtain ⟨movements, inventories, hstockFrame, -⟩ := hmoves.frame
  dsimp only at hd' hcouponFrame hstockFrame ⊢
  refine .makes (hfresh e.next (le_refl _)).orders (fun j hj => (hfresh j (Nat.le_of_succ_le hj)).orderItems) ?_ ?_ hnew
    (assertInvariants_payable hinvariants)
  · rw [hd', hstockFrame, hcouponFrame]
    dsimp only
    rw [horders]
  · rw [hd', hstockFrame, hcouponFrame]
    dsimp only
    rw [hitems]

theorem createFrom_itemizes {env : Deployment} {principal : Principal} {request : CreateOrderRequest}
    {lines : List OrderLineInput} {requestHash : String} {now : Time} {e e' : Exec Db}
    {result : CreateOrderResult} (merged : MergedLines lines) (hfresh : e.view.FreshFrom e.next)
    (h : (createFrom env principal request lines requestHash now).run e = (.ok result, e')) :
    Itemizes e.view e'.view := by
  unfold createFrom at h
  rw [run_bind_eq_ok] at h
  obtain ⟨claim, e₁, hclaim, h⟩ := h
  rcases insertInProgress_eq_ok hclaim with ⟨rfl, rfl⟩ | ⟨rfl, -, rfl⟩
  · dsimp only at h
    rw [run_bind, run_query, andThen_ok] at h
    rw [replayClaim_eq_ok h]
    exact .same rfl rfl
  · dsimp only at h
    rw [run_bind_eq_ok] at h
    obtain ⟨p, e₂, hprice, h⟩ := h
    obtain ⟨hpriced, rfl⟩ := priceOrder_priced hprice merged
    have hpriced' : PricedFor request lines now e.view p :=
      ⟨fun c hc => ⟨(hpriced.promotion c hc).row, (hpriced.promotion c hc).running,
        (hpriced.promotion c hc).rule⟩, hpriced.promotionIds, hpriced.couponId, hpriced.coupon, hpriced.items⟩
    have hquota : ∀ d : Db, (d.quotaUsed p).orders = d.orders ∧ (d.quotaUsed p).orderItems = d.orderItems ∧
        (d.quotaUsed p).userCoupons = d.userCoupons := by
      intro d
      unfold Db.quotaUsed
      cases p.promotion with
      | none => exact ⟨rfl, rfl, rfl⟩
      | some c =>
        dsimp only
        split_ifs
        · exact ⟨rfl, rfl, rfl⟩
        · exact ⟨rfl, rfl, rfl⟩
    obtain ⟨horders, hitems, hcoupons⟩ := hquota { e.view with idempotency := e.view.idempotency.set e.next {
        scope := orderCreateScope
        idempotencyKey := request.idempotencyKey
        requestHash := requestHash
        resourceType := some "ORDER" } }
    exact writeNewOrder_itemizes hpriced' horders hitems hcoupons (fun i hi => hfresh i (Nat.le_of_succ_le hi)) h

/-- Wherever a create is lost, it made no order, or one with its lines. -/
theorem createOrder_itemizes (env : Deployment) (principal : Principal) (request : CreateOrderRequest) (now : Time) {d : Db}
    {next : Nat} (hfresh : d.FreshFrom next) :
    Leaves (createOrder env principal request now) (Exec.start d next) fun _ d' => Itemizes d d' := by
  unfold createOrder
  refine leaves_bind (noCommit_raiseIf _ _) fun _ e hkey _ => ?_
  rw [run_raiseIf_eq_ok] at hkey
  obtain ⟨-, rfl⟩ := hkey
  refine leaves_bind (noCommit_ofExcept _) fun lines e hlines _ => ?_
  rw [run_ofExcept_eq_ok] at hlines
  obtain ⟨hlines, rfl⟩ := hlines
  refine leaves_handle (noCommit_createFrom _ _ _ _ _ _) (noCommit_recoverCreate _ _ _) fun result e hrun => ?_
  exact createFrom_itemizes (mergeOrderLines_merged hlines) hfresh hrun

/-! ## The other sessions -/

theorem OrderEnded.itemizes {orderId : Nat} {order : Order} {requests : List StockRequest} {now : Time}
    {attempts : List (Nat × Payment)} {write : Order → Order} {log : OrderStatusLog} {d d' : Db}
    (h : OrderEnded orderId order requests now attempts write log d d') :
    (∀ i, d.orders.get? i = none → d'.orders.get? i = none) ∧ d'.orderItems = d.orderItems := by
  obtain ⟨d₁, d₂, -, -, rfl⟩ := h.parts
  exact ⟨fun i hi => Dict.get?_modify_none hi orderId write, rfl⟩

theorem Closing.itemizes {orderId : Nat} {now : Time} {o : Order} {d c : Db} (h : Closing orderId now o d c) :
    (∀ i, d.orders.get? i = none → c.orders.get? i = none) ∧ c.orderItems = d.orderItems := by
  cases h with
  | «open» _ => exact ⟨fun _ => id, rfl⟩
  | closed due expired =>
    obtain ⟨order, -, -, hended⟩ := expired
    exact hended.itemizes

theorem OrderOutcome.itemizes {request : CallbackRequest} {now : Time} {h : Held} {amount : Int} {next next' : Nat}
    {c d' : Db} (houtcome : OrderOutcome request now h amount next c next' d') :
    (∀ i, c.orders.get? i = none → d'.orders.get? i = none) ∧ d'.orderItems = c.orderItems := by
  cases houtcome with
  | paid _ _ => exact ⟨fun _ => id, rfl⟩
  | processing _ _ _ => exact ⟨fun _ => id, rfl⟩
  | late unpaid closed checked ensured =>
    cases ensured with
    | present _ => exact ⟨fun i hi => Dict.get?_modify_none hi _ _, rfl⟩
    | created _ _ _ _ _ _ => exact ⟨fun i hi => Dict.get?_modify_none hi _ _, rfl⟩
  | onTime current unpaid pending items goods =>
    cases goods with
    | @mk d₁ d₂ d₃ d₄ coupon stock shell event =>
      obtain ⟨userCoupons, couponUsages, hd₁, -⟩ := coupon.frame
      obtain ⟨movements, inventories, hd₂, -⟩ := stock.frame
      obtain ⟨-, -, hd₃⟩ := shell.frame
      obtain ⟨outbox, hd₄, -⟩ := event.frame
      have hd : (h.processed now d₄).orders = c.orders.modify h.orderId (h.order.paidOnTime now) ∧
          (h.processed now d₄).orderItems = c.orderItems := by
        unfold Held.processed
        rw [hd₄, hd₃, hd₂, hd₁]
        exact ⟨rfl, rfl⟩
      rw [hd.1]
      exact ⟨fun i hi => Dict.get?_modify_none hi _ _, hd.2⟩

theorem Received.itemizes {env : Deployment} {delivery : Delivery} {t : Instants} {next next' : Nat} {d d' : Db}
    (h : Received env delivery t next d next' d') : Itemizes d d' := by
  cases h with
  | refused _ _ _ => exact .same rfl rfl
  | delivered edge delivered =>
    cases delivered with
    | duplicate _ => exact .same rfl rfl
    | replayed _ _ _ _ => exact .same rfl rfl
    | decided _ _ _ _ _ _ closing _ _ outcome =>
      obtain ⟨hclosed, hclosedItems⟩ := closing.itemizes
      obtain ⟨hdecided, hdecidedItems⟩ := outcome.itemizes
      exact .after hclosed hclosedItems hdecided hdecidedItems

/-- A session whose effect itemizes. -/
theorem itemizes_of_leaves {α : Type} {p : Tx α} {s : Shop}
    (h : Leaves p (Exec.start s.db s.next) fun _ d => Itemizes s.db d) (n : Nat) :
    Itemizes s.db (runFor n p (Exec.start s.db s.next)).committed := by
  rcases h n with hlost | ⟨next, -, hitemizes⟩
  · rw [hlost]
    exact .same rfl rfl
  · exact hitemizes

theorem CouponClaimed.itemizes {next : Nat} {d d' : Db} (h : CouponClaimed next d d') : Itemizes d d' := by
  cases h with
  | mk _ _ _ _ _ _ _ => exact .same rfl rfl

theorem CouponsSwept.itemizes {d d' : Db} (h : CouponsSwept d d') : Itemizes d d' := by
  cases h with
  | mk _ _ => exact .same rfl rfl

theorem PackageShipped.itemizes {next next' : Nat} {d d' : Db} (h : PackageShipped next d next' d') : Itemizes d d' := by
  cases h with
  | @mk id next' f order request now axis d' found ofOrder unshipped carried kept residual =>
    obtain ⟨-, -, hframe⟩ := residual.frame
    rw [hframe]
    exact .modified (f := fun row => { row with fulfillmentStatus := axis }) rfl rfl

theorem ReceiptConfirmed.itemizes {d d' : Db} (h : ReceiptConfirmed d d') : Itemizes d d' := by
  cases h with
  | mk _ _ => exact .modified rfl rfl

theorem AttemptCreated.itemizes {next next' : Nat} {d d' : Db} (h : AttemptCreated next d next' d') : Itemizes d d' := by
  cases h with
  | replayed => exact .same rfl rfl
  | created _ _ _ _ _ _ _ _ _ _ _ => exact .modified rfl rfl

theorem Dispatched.itemizes {id : Nat} {step : CompensationStep} {d d' : Db} (h : Dispatched id d step d') :
    Itemizes d d' := by
  cases h with
  | replayed => exact .same rfl rfl
  | refused _ _ => exact .same rfl rfl
  | dispatched _ _ _ _ => exact .same rfl rfl

theorem Compensated.itemizes {id : Nat} {d d' : Db} (h : Compensated id d d') : Itemizes d d' := by
  cases h with
  | mk _ _ _ _ _ => exact .modified rfl rfl

/-- Wherever a session of the shop is lost, it left the lines alone, or made one order with its lines. -/
theorem after_itemizes (env : Deployment) {s : Shop} (hfresh : s.db.FreshFrom s.next) (op : Op) (n : Nat) :
    Itemizes s.db (s.after env op n).db := by
  cases op with
  | createOrder principal request now => exact itemizes_of_leaves (createOrder_itemizes env principal request now hfresh) n
  | claimCoupon principal templateId now =>
    exact itemizes_of_leaves (leaves_transaction (noCommit_issueCoupon _ _ _) fun id e h => (issueCoupon_claimed h).2.itemizes) n
  | expireCoupons now limit lockedElsewhere =>
    exact itemizes_of_leaves (leaves_transaction (noCommit_sweepCoupons _ _ _) fun count e h =>
      (sweepCoupons_swept h).2.itemizes) n
  | ship principal id carrier trackingNo lines now =>
    exact itemizes_of_leaves ((ship_leaves env principal id carrier trackingNo lines now s.db s.next).mono
      fun next d h => h.itemizes) n
  | confirmReceipt principal orderNo now =>
    refine itemizes_of_leaves (leaves_transaction (noCommit_confirmReceiptOrder _ _ _) fun _ e h => ?_) n
    obtain ⟨d, rfl, hconfirmed⟩ := confirmReceiptOrder_confirmed h
    exact hconfirmed.itemizes
  | createPayment principal request now =>
    exact itemizes_of_leaves (leaves_transaction (noCommit_createAttempt _ _ _ _) fun _ e h =>
      (createAttempt_created h).itemizes) n
  | cancel principal orderNo reason now =>
    refine itemizes_of_leaves (leaves_transaction (noCommit_cancelOrder _ _ _ _) fun _ e h => ?_) n
    obtain ⟨d, rfl, id, order, -, -, hended⟩ := cancelOrder_cancelled h
    obtain ⟨horders, hitems⟩ := hended.itemizes
    exact .leaves horders hitems
  | expire orderId now =>
    refine itemizes_of_leaves (leaves_transaction (noCommit_closeExpiredOrder _ _) fun _ e h => ?_) n
    rcases closeExpiredOrder_eq_ok h with ⟨-, rfl, -⟩ | ⟨-, d, rfl, order, -, -, hended⟩
    · exact .same rfl rfl
    · obtain ⟨horders, hitems⟩ := hended.itemizes
      exact .leaves horders hitems
  | receive delivery t =>
    refine itemizes_of_leaves ((receiveCallback_leaves env delivery t s.db s.next).mono fun next d h => ?_) n
    rcases h with ⟨-, rfl⟩ | h
    · exact .same rfl rfl
    · exact h.itemizes
  | dispatchCompensation id =>
    refine itemizes_of_leaves (leaves_transaction (noCommit_prepareDispatch _) fun step e h => ?_) n
    obtain ⟨d, rfl, hdispatched⟩ := prepareDispatch_dispatched h
    exact hdispatched.itemizes
  | settleCompensation id providerRefundNo =>
    refine itemizes_of_leaves (leaves_transaction (noCommit_recordCompensation _ _) fun _ e h => ?_) n
    obtain ⟨d, rfl, hcompensated⟩ := recordCompensation_compensated h
    exact hcompensated.itemizes
  | failCompensation id errorType =>
    refine itemizes_of_leaves (leaves_transaction (noCommit_parkCompensation _ _) fun _ e h => ?_) n
    cases h
    exact .same rfl rfl

end NovaCommerce
