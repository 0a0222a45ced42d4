import NovaCommerce.Lifecycle.Runs

/-!
# Goods and the money held for them

* `Db.GoodsPaid` : the order of a package that did not leave still holds money (`Change.goodsPaid`); a refund keeps that
  when it pays nothing back in full before the goods have left (`AfterSaleOp.PaysBackShipped`);
* `ship_paid` : so a shipment finds its order paid, over every life of the shop whose refunds are of this kind.
-/

namespace NovaCommerce

open Sql

/-- The console's `paidStates`: money of the order is still held. -/
def paidStates : List PaymentStatus := [.paid, .partialRefunded]

/-- The order of every package that did not leave holds money. -/
def Db.GoodsPaid (d : Db) : Prop :=
  ∀ k f, d.fulfillments.get? k = some f → f.isShipped = false →
    ∃ o, d.orders.get? f.orderId = some o ∧ o.paymentStatus ∈ paidStates

/-! ## Settled orders -/

/-- Bookings are about orders that are pending, or ended. -/
theorem Booking.settled_kept {env : Deployment} {terms : Terms} {s s' : Shop} (h : Booking terms s s') (hs : s.Running env)
    {i : Nat} {o : Order} (ho : s.db.orders.get? i = some o) (hsettled : o.Settled) : s'.db.orders.get? i = some o := by
  have hother : ∀ {j : Nat} {o' : Order} {f : Order → Order}, s.db.orders.get? j = some o' → ¬ o'.Settled →
      (s.db.orders.modify j f).get? i = some o := by
    intro j o' f ho' hnot
    have hij : i ≠ j := by
      rintro rfl
      rw [ho] at ho'
      cases ho'
      exact hnot hsettled
    rw [Dict.get?_modify_ne hij]
    exact ho
  cases h with
  | drawn _ => exact ho
  | called _ _ => exact ho
  | attempted created =>
    cases created with
    | replayed => exact ho
    | created locked pending _ _ _ _ _ _ _ _ _ => exact hother locked (not_settled_of_pending pending)
  | late settling closed first checked ensured =>
    have hnot := Order.Ended.not_settled (.inr closed)
    cases ensured with
    | present _ => exact hother settling.order hnot
    | created _ _ _ _ _ _ => exact hother settling.order hnot
  | parked => exact ho
  | compensated compensated =>
    cases compensated with
    | mk found ofPayment ofOrder paymentChecked orderChecked =>
      obtain ⟨o', ho', hended⟩ := hs.intents _ _ found
      exact hother ho' hended.not_settled

/-- A shipment moves no payment axis. -/
theorem PackageShipped.axis {next next' : Nat} {d d' : Db} (h : PackageShipped next d next' d') {i : Nat} {o : Order}
    (ho : d.orders.get? i = some o) : ∃ o', d'.orders.get? i = some o' ∧ o'.paymentStatus = o.paymentStatus := by
  cases h with
  | @mk id next' f order request now axis d' found ofOrder unshipped carried kept residual =>
    by_cases hi : i = f.orderId
    · subst hi
      refine ⟨{ o with fulfillmentStatus := axis }, ?_, rfl⟩
      rw [Dict.get?_modify_self, ho]
      rfl
    · exact ⟨o, (Dict.get?_modify_ne hi _).trans ho, rfl⟩

/-- No change of the shop moves the payment axis of a settled order. -/
theorem Change.settled_axis {env : Deployment} {terms : Terms} {s s' : Shop} (h : Change env terms s s')
    (hs : s.Running env) {i : Nat} {o : Order} (ho : s.db.orders.get? i = some o) (hsettled : o.Settled) :
    ∃ o', s'.db.orders.get? i = some o' ∧ o'.paymentStatus = o.paymentStatus := by
  have hkept : ∀ {j : Nat} {f : Order → Order},
      (∀ o', s.db.orders.get? j = some o' → o'.Settled → (f o').paymentStatus = o'.paymentStatus) →
      ∃ o', (s.db.orders.modify j f).get? i = some o' ∧ o'.paymentStatus = o.paymentStatus := by
    intro j f hf
    by_cases hij : i = j
    · subst hij
      refine ⟨f o, ?_, hf o ho hsettled⟩
      rw [Dict.get?_modify_self, ho]
      rfl
    · refine ⟨o, ?_, rfl⟩
      rw [Dict.get?_modify_ne hij]
      exact ho
  have hpending : ∀ {j : Nat} {o' : Order} {f : Order → Order}, s.db.orders.get? j = some o' →
      o'.orderStatus = .pendingPayment →
      ∃ o', (s.db.orders.modify j f).get? i = some o' ∧ o'.paymentStatus = o.paymentStatus := by
    intro j o' f ho' hpending
    refine hkept fun o'' ho'' hs'' => ?_
    rw [ho'] at ho''
    cases ho''
    exact absurd hs'' (not_settled_of_pending hpending)
  cases h with
  | booked booking => exact ⟨o, booking.settled_kept hs ho hsettled, rfl⟩
  | shipped shipped => exact shipped.axis ho
  | traded trade =>
    cases trade with
    | created created =>
      cases created with
      | mk merged unclaimed unordered window priced checked coupon stock items event =>
        obtain ⟨outbox, hd, -⟩ := event.frame
        dsimp only
        rw [hd]
        have hi : i ≠ s.next + 1 := by
          rintro rfl
          rw [(hs.fresh _ (Nat.le_succ _)).orders] at ho
          cases ho
        exact ⟨o, (Dict.get?_set_ne hi _).trans ho, rfl⟩
    | claimed claimed =>
      cases claimed with
      | mk _ _ _ _ _ _ _ => exact ⟨o, ho, rfl⟩
    | swept swept =>
      cases swept with
      | mk _ _ => exact ⟨o, ho, rfl⟩
    | ended row pending held ending ended =>
      obtain ⟨d₁, d₂, -, -, rfl⟩ := ended.parts
      exact hpending row pending
    | settled settling pending items coupon stock shell event =>
      obtain ⟨c₁, c₂, c₃, outbox, -, -, -, rfl⟩ := settled_parts coupon stock shell event
      exact hpending settling.order pending
    | confirmed confirmed =>
      cases confirmed with
      | mk row processing => exact hkept fun _ _ _ => rfl

/-! ## Packages that did not leave -/

/-- What a shipment holds back was held before. -/
theorem PackageShipped.unshipped_origin {next next' : Nat} {d d' : Db} (h : PackageShipped next d next' d') {k : Nat}
    {f : Fulfillment} (hf : d'.fulfillments.get? k = some f) (hopen : f.isShipped = false) :
    ∃ k' f', d.fulfillments.get? k' = some f' ∧ f'.isShipped = false ∧ f'.orderId = f.orderId := by
  cases h with
  | mk found ofOrder unshipped carried kept residual =>
    rcases residual_origin found residual hf with ⟨-, hold⟩ | ⟨-, rfl⟩ | ⟨-, hof, -⟩
    · exact ⟨k, f, hold, hopen, rfl⟩
    · cases hopen
    · exact ⟨_, _, found, unshipped, hof.symm⟩

/-- Where a package that did not leave comes from: one that did not leave before, or a settlement. -/
theorem Change.unshipped_origin {env : Deployment} {terms : Terms} {s s' : Shop} (h : Change env terms s s')
    {k : Nat} {f : Fulfillment} (hf : s'.db.fulfillments.get? k = some f) (hopen : f.isShipped = false) :
    (∃ k' f', s.db.fulfillments.get? k' = some f' ∧ f'.isShipped = false ∧ f'.orderId = f.orderId) ∨
      ∃ o, s'.db.orders.get? f.orderId = some o ∧ o.paymentStatus = .paid := by
  cases h with
  | booked booking =>
    rw [booking.fulfillments] at hf
    exact .inl ⟨k, f, hf, hopen, rfl⟩
  | shipped shipped => exact .inl (shipped.unshipped_origin hf hopen)
  | traded trade =>
    cases trade with
    | created created =>
      cases created with
      | mk merged unclaimed unordered window priced checked coupon stock items event =>
        obtain ⟨outbox, hd, -⟩ := event.frame
        dsimp only at hf
        rw [hd] at hf
        exact .inl ⟨k, f, hf, hopen, rfl⟩
    | claimed claimed =>
      cases claimed with
      | mk _ _ _ _ _ _ _ => exact .inl ⟨k, f, hf, hopen, rfl⟩
    | swept swept =>
      cases swept with
      | mk _ _ => exact .inl ⟨k, f, hf, hopen, rfl⟩
    | ended row pending held ending ended =>
      obtain ⟨d₁, d₂, -, -, rfl⟩ := ended.parts
      exact .inl ⟨k, f, hf, hopen, rfl⟩
    | @settled _ d₁ d₂ d₃ d₄ request paymentId orderId p o externalTransactionNo now settling pending items coupon stock
        shell event =>
      obtain ⟨c₁, c₂, c₃, outbox, -, -, hshell, rfl⟩ := settled_parts coupon stock shell event
      cases hshell with
      | present _ => exact .inl ⟨k, f, hf, hopen, rfl⟩
      | @created shell absent ofOrder unshipped lines =>
        by_cases hk : k = s.next
        · subst hk
          obtain rfl := Option.some.inj ((Dict.get?_set_self _ _ _).symm.trans hf)
          refine .inr ⟨o.paidOnTime now o, ?_, rfl⟩
          rw [ofOrder]
          exact (Dict.get?_modify_self _ _ _).trans (congrArg (Option.map _) settling.order)
        · exact .inl ⟨k, f, (Dict.get?_set_ne hk _).symm.trans hf, hopen, rfl⟩
    | confirmed confirmed =>
      cases confirmed with
      | mk row processing => exact .inl ⟨k, f, hf, hopen, rfl⟩

theorem Change.goodsPaid {env : Deployment} {terms : Terms} {s s' : Shop} (h : Change env terms s s')
    (hs : s.Running env) (hd : s.db.GoodsPaid) : s'.db.GoodsPaid := by
  intro k f hf hopen
  rcases h.unshipped_origin hf hopen with ⟨k', f', hf', hopen', hof⟩ | ⟨o, ho, hpaid⟩
  · obtain ⟨o, ho, hheld⟩ := hd k' f' hf' hopen'
    obtain ⟨-, o₁, ho₁, hsettled⟩ := hs.packed.packages k' f' hf'
    rw [ho] at ho₁
    cases ho₁
    obtain ⟨o', ho', haxis⟩ := h.settled_axis hs ho hsettled
    rw [hof] at ho'
    exact ⟨o', ho', by rw [haxis]; exact hheld⟩
  · exact ⟨o, ho, by rw [hpaid]; decide⟩

/-! ## Refunds -/

/-- A refund of an approved claim pays back the last of what its order paid only when the goods have left. -/
def AfterSaleOp.PaysBackShipped (op : AfterSaleOp) (d : Db) : Prop :=
  match op with
  | .executeRefund _ request _ => ∀ claimId c o, d.afterSales.get? claimId = some c → c.afterSaleNo = request.afterSaleNo →
      c.claimStatus = .approved → d.orders.get? c.orderId = some o → o.refundedAmount + request.amount = o.paidAmount →
        ∀ k f, d.fulfillments.get? k = some f → f.orderId = c.orderId → f.isShipped = true
  | _ => True

/-- An order that did not get everything back is not refunded. -/
theorem refundedBy_paid {o : Order} {amount : Int} (h : o.refundedAmount + amount ≠ o.paidAmount)
    (hchecked : (o.refundedBy amount o).Checked) (row : Order) : (o.refundedBy amount row).paymentStatus ∈ paidStates := by
  obtain ⟨-, -, -, -, -, -, -, -, hle⟩ := hchecked
  have hle : o.refundedAmount + amount ≤ o.paidAmount := hle
  have hless : ¬ (0 < o.paidAmount ∧ o.paidAmount ≤ o.refundedAmount + amount) := by omega
  show (refundAxisStatus o.paidAmount (o.refundedAmount + amount)).paymentAxis ∈ paidStates
  unfold refundAxisStatus
  rw [if_neg hless]
  decide

theorem RefundPosted.goodsPaid {principal : Principal} {request : RefundRequest} {requestHash : String} {now : Moment}
    {refundId : Nat} {rows : RefundRows} {split : RefundSplit} {d d' : Db}
    (h : RefundPosted principal request requestHash now.time refundId rows split d d')
    (hok : (AfterSaleOp.executeRefund principal request now).PaysBackShipped d) (hd : d.GoodsPaid) : d'.GoodsPaid := by
  obtain ⟨movements, inventories, outbox, -, -, rfl⟩ := h.effects
  intro k f (hf : d.fulfillments.get? k = some f) hopen
  obtain ⟨o, ho, hheld⟩ := hd k f hf hopen
  by_cases hof : f.orderId = rows.claim.orderId
  · have hless : rows.order.refundedAmount + request.amount ≠ rows.order.paidAmount := by
      intro hall
      have hgone := hok rows.claimId rows.claim rows.order h.locks.claim h.locks.number h.locks.approved h.locks.order
        hall k f hf hof
      rw [hopen] at hgone
      cases hgone
    refine ⟨rows.order.afterSaleAxis request.amount (rows.order.refundedBy request.amount rows.order), ?_,
      refundedBy_paid hless h.orderChecked rows.order⟩
    rw [hof]
    show (d.orders.modify rows.claim.orderId _).get? rows.claim.orderId = _
    rw [Dict.get?_modify_self, h.locks.order]
    rfl
  · exact ⟨o, (Dict.get?_modify_ne hof _).trans ho, hheld⟩

theorem AfterSaleEffect.goodsPaid {env : Deployment} {next next' : Nat} {d d' : Db} {op : AfterSaleOp}
    (h : AfterSaleEffect env next d op next' d') (hok : op.PaysBackShipped d) (hd : d.GoodsPaid) : d'.GoodsPaid := by
  have hanswered : ∀ {afterSaleNo : String} {f : AfterSale → AfterSale}, Answered afterSaleNo f d d' → d'.GoodsPaid := by
    rintro afterSaleNo f ⟨id, c, -, -, -, -, rfl⟩
    exact hd
  cases h with
  | applied _ _ => exact hd
  | cancelled answered => exact hanswered answered
  | approved answered => exact hanswered answered
  | rejected answered => exact hanswered answered
  | refunded _ posted => exact posted.goodsPaid hok hd

/-! ## Every life of the shop -/

theorem goodsPaid_keeps (env : Deployment) :
    LifeKeeps env AfterSaleOp.PaysBackShipped fun s => s.Running env ∧ s.db.GoodsPaid where
  distinct h := h.1.claimed.linesDistinct
  change h hchange := ⟨hchange.running h.1, hchange.goodsPaid h.1 h.2⟩
  effect h hok heffect := ⟨heffect.running h.1, heffect.goodsPaid hok h.2⟩

/-- Over every life of the shop in which no refund pays an order back in full before its goods have left, a shipment
succeeds only when its order holds money. -/
theorem ship_paid {env : Deployment} {s : Shop} (founded : s.Founded) {sessions : List (Session × Nat)}
    (lives : Shop.LivesBy env AfterSaleOp.PaysBackShipped sessions s) {principal : Principal} {id : Nat}
    {carrier : Carrier} {trackingNo : String} {lines : List (Nat × Int)} {now : Time} {e : Exec Db}
    (succeeds : (ship env principal id carrier trackingNo lines now).run
      (Exec.start (s.live env sessions).db (s.live env sessions).next) = (.ok (), e)) :
    ∃ f o, (s.live env sessions).db.fulfillments.get? id = some f ∧
      (s.live env sessions).db.orders.get? f.orderId = some o ∧ o.paymentStatus ∈ paidStates := by
  have hnone : s.db.GoodsPaid := by
    intro k f hf
    rw [founded.fulfillments] at hf
    cases hf
  obtain ⟨-, hpaid⟩ := (goodsPaid_keeps env).run ⟨founded.running, hnone⟩ lives
  obtain ⟨f, -, hf, -, hopen⟩ := ship_found succeeds
  obtain ⟨o, ho, hheld⟩ := hpaid id f hf hopen
  exact ⟨f, o, hf, ho, hheld⟩

/-- A shipment that the small shop accepts. -/
theorem ship_accepted {d : Db} {next id : Nat} {lines : List (Nat × Int)}
    (h : ((ship lifeDeployment lifePacker id .sf "SF2" lines sampleNoon).run (Exec.start d next)).1.toBool = true) :
    ∃ e, (ship lifeDeployment lifePacker id .sf "SF2" lines sampleNoon).run (Exec.start d next) = (.ok (), e) := by
  rcases hrun : (ship lifeDeployment lifePacker id .sf "SF2" lines sampleNoon).run (Exec.start d next) with ⟨x | u, e⟩
  · rw [hrun] at h
    cases h
  · exact ⟨e, rfl⟩

/-- The other cup is shipped while half of the money is held. -/
theorem ship_paid_cup :
    ∃ e, (ship lifeDeployment lifePacker 16 .sf "SF2" [(12, 1)] sampleNoon).run
      (Exec.start (sampleShop.live lifeDeployment returnedShipped).db (sampleShop.live lifeDeployment returnedShipped).next) =
        (.ok (), e) ∧
      ∃ f o, (sampleShop.live lifeDeployment returnedShipped).db.fulfillments.get? 16 = some f ∧
        (sampleShop.live lifeDeployment returnedShipped).db.orders.get? f.orderId = some o ∧
        o.paymentStatus ∈ paidStates := by
  have haccepted : ((ship lifeDeployment lifePacker 16 .sf "SF2" [(12, 1)] sampleNoon).run
      (Exec.start (sampleShop.live lifeDeployment returnedShipped).db
        (sampleShop.live lifeDeployment returnedShipped).next)).1.toBool = true := by decide +kernel
  obtain ⟨e, he⟩ := ship_accepted haccepted
  have hless : ∀ e ∈ (sampleShop.live lifeDeployment (returnedShipped.take 6)).db.orders.entries,
      e.2.refundedAmount + 500 ≠ e.2.paidAmount := by decide +kernel
  refine ⟨e, he, ship_paid sampleShop_founded ?_ he⟩
  refine ⟨(fun _ h => nomatch h), (fun _ h => nomatch h), (fun _ h => nomatch h), (fun _ h => nomatch h),
    fun _ h => ?_, fun _ h => ?_, fun _ h => ?_, trivial⟩
  · cases h
    trivial
  · cases h
    trivial
  · cases h
    intro claimId c o _ _ _ ho hall
    exact absurd hall (hless (c.orderId, o) (Dict.get?_eq_some.mp ho))

/-- Two cups are shipped after all their money went back. -/
theorem ship_unpaid :
    ¬ ∀ (env : Deployment) (s : Shop), s.Founded → ∀ (sessions : List (Session × Nat)) (principal : Principal) (id : Nat)
      (carrier : Carrier) (trackingNo : String) (lines : List (Nat × Int)) (now : Time) (e : Exec Db),
      (ship env principal id carrier trackingNo lines now).run
        (Exec.start (s.live env sessions).db (s.live env sessions).next) = (.ok (), e) →
      ∃ f o, (s.live env sessions).db.fulfillments.get? id = some f ∧
        (s.live env sessions).db.orders.get? f.orderId = some o ∧ o.paymentStatus ∈ paidStates := by
  intro h
  have hfound : (((sampleShop.live lifeDeployment returnedUnshipped).db.fulfillments.get? 15).bind fun f =>
      ((sampleShop.live lifeDeployment returnedUnshipped).db.orders.get? f.orderId).map fun o =>
        decide (o.paymentStatus ∈ paidStates)) = some false ∧
      ((ship lifeDeployment lifePacker 15 .sf "SF2" [(12, 2)] sampleNoon).run
        (Exec.start (sampleShop.live lifeDeployment returnedUnshipped).db
          (sampleShop.live lifeDeployment returnedUnshipped).next)).1.toBool = true := by decide +kernel
  obtain ⟨hunpaid, haccepted⟩ := hfound
  obtain ⟨e, he⟩ := ship_accepted haccepted
  obtain ⟨f, o, hf, ho, hpaid⟩ := h lifeDeployment sampleShop sampleShop_founded returnedUnshipped lifePacker 15 .sf "SF2"
    [(12, 2)] sampleNoon e he
  obtain ⟨f', hf', hrest⟩ := Option.bind_eq_some_iff.mp hunpaid
  obtain ⟨o', ho', hnot⟩ := Option.map_eq_some_iff.mp hrest
  rw [hf] at hf'
  cases hf'
  rw [ho] at ho'
  cases ho'
  exact of_decide_eq_false hnot hpaid

end NovaCommerce
