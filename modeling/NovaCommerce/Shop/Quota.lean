import NovaCommerce.Shop.Consistency

/-!
# Promotion quotas

* `Db.promoted` : the orders a promotion gave a discount to, whatever became of them;
* `Db.Counted` : a promotion's used quota is their number (`Change.counted`);
* `usedQuota_counts` : so it is after every run, and no ending gives a unit back.
-/

namespace NovaCommerce

open Sql

/-- The order got a discount from the promotion. -/
def Order.PromotedBy (o : Order) (promotionId : Nat) : Prop :=
  o.promotionId = some promotionId ∧ 0 < o.promotionDiscountAmount

instance Order.decidablePromotedBy (o : Order) (promotionId : Nat) : Decidable (o.PromotedBy promotionId) := by
  unfold Order.PromotedBy
  infer_instance

/-- The orders that got a discount from a promotion. -/
def Db.promoted (d : Db) (promotionId : Nat) : List (Nat × Order) :=
  d.orders.select fun o => decide (o.PromotedBy promotionId)

/-- A promotion's used quota is the number of the orders it discounted, and within its total. -/
def Db.Counted (d : Db) : Prop :=
  ∀ q p, d.promotions.get? q = some p → p.usedQuota = (d.promoted q).length ∧ p.usedQuota ≤ p.totalQuota

theorem Order.SamePurchase.promotedBy {o o' : Order} (h : o.SamePurchase o') (q : Nat) :
    o'.PromotedBy q ↔ o.PromotedBy q := by
  unfold Order.PromotedBy
  rw [h.promotionId, h.promotionDiscountAmount]

/-- Orders that keep their purchases keep their promotions. -/
theorem Db.Counted.kept {d d' : Db} (hd : d.Counted)
    (orders : d.orders.Grows Order.SamePurchase (fun _ => False) d'.orders)
    (promotions : d'.promotions = d.promotions) : d'.Counted := by
  intro q p hp
  rw [promotions] at hp
  obtain ⟨hcount, hcap⟩ := hd q p hp
  refine ⟨?_, hcap⟩
  rw [hcount]
  unfold Db.promoted
  rw [orders.length_select fun o o' hsame => decide_eq_decide.mpr (hsame.promotedBy q)]

/-- A new order is counted by the promotion that discounted it. -/
theorem Db.Counted.created {d : Db} (hd : d.Counted) {request : CreateOrderRequest} {lines : List OrderLineInput}
    {now : Time} {p : PricedOrder} (priced : PricedFor request lines now d p) {orderId : Nat} {o : Order}
    (fresh : d.orders.get? orderId = none) (promotionId : o.promotionId = p.snapshot.promotionIds.head?)
    (discount : o.promotionDiscountAmount = p.snapshot.promotionDiscountAmount) {d' : Db}
    (orders : d'.orders = d.orders.set orderId o) (promotions : d'.promotions = (d.quotaUsed p).promotions) :
    d'.Counted := by
  have hcount : ∀ q, ((d'.promoted q).length : Int) = (d.promoted q).length + if o.PromotedBy q then 1 else 0 := by
    intro q
    unfold Db.promoted
    rw [orders, Dict.length_select_set fresh]
    simp only [decide_eq_true_eq]
  have hid : o.promotionId = p.promotion.map PromotionCandidate.id := by
    rw [promotionId, priced.promotionIds]
    cases p.promotion <;> rfl
  intro q row hrow
  rw [promotions] at hrow
  unfold Db.quotaUsed at hrow
  have hnone : ¬ o.PromotedBy q → d.promotions.get? q = some row →
      row.usedQuota = (d'.promoted q).length ∧ row.usedQuota ≤ row.totalQuota := by
    intro hnot hold
    rw [hcount, if_neg hnot, add_zero]
    exact hd q row hold
  cases hp : p.promotion with
  | none =>
    rw [hp] at hid hrow
    refine hnone (fun h => ?_) hrow
    have hq := h.1
    rw [hid] at hq
    cases hq
  | some c =>
    rw [hp] at hid hrow
    dsimp only at hrow
    have hselected := priced.promotion c hp
    split_ifs at hrow with hpositive
    · by_cases hq : q = c.id
      · -- the promotion of this order, counted from the row that was locked
        subst hq
        rw [Dict.get?_modify_self, hselected.row] at hrow
        cases hrow
        obtain ⟨hused, -⟩ := hd c.id c.promotion hselected.row
        have hroom := hselected.running.2.2.2.2
        have hby : o.PromotedBy c.id := ⟨hid, by rw [discount]; exact hpositive⟩
        dsimp only
        rw [hcount, if_pos hby, ← hused]
        exact ⟨rfl, hroom⟩
      · rw [Dict.get?_modify_ne hq] at hrow
        refine hnone (fun h => ?_) hrow
        have hby := h.1
        rw [hid] at hby
        exact hq (Option.some.inj hby).symm
    · refine hnone (fun h => ?_) hrow
      have hby := h.2
      rw [discount] at hby
      exact hpositive hby

/-- An order that is rewritten keeps its promotion. -/
theorem grows_purchase {d : Db} {orderId : Nat} {f : Order → Order} (hf : ∀ o : Order, o.SamePurchase (f o)) :
    d.orders.Grows Order.SamePurchase (fun _ => False) (d.orders.modify orderId f) :=
  Dict.grows_modify Order.SamePurchase.refl fun o _ => hf o

theorem Trade.counted {env : Deployment} {terms : Terms} {s s' : Shop} (h : Trade env terms s s')
    (hfresh : s.db.FreshFrom s.next) (hd : s.db.Counted) : s'.db.Counted := by
  cases h with
  | created created =>
    cases created with
    | mk merged unclaimed unordered window priced checked coupon stock items event =>
      obtain ⟨outbox, hframe, -⟩ := event.frame
      dsimp only
      rw [hframe]
      exact hd.created priced (hfresh _ (Nat.le_succ _)).orders rfl rfl rfl rfl
  | claimed claimed =>
    cases claimed with
    | mk _ _ _ _ _ _ _ => exact hd
  | swept swept =>
    cases swept with
    | mk _ _ => exact hd
  | ended row pending held ending ended =>
    obtain ⟨d₁, d₂, -, -, rfl⟩ := ended.parts
    exact hd.kept (grows_purchase ending.samePurchase) rfl
  | settled settling pending items coupon stock shell event =>
    obtain ⟨c₁, c₂, c₃, outbox, -, -, -, rfl⟩ := settled_parts coupon stock shell event
    exact hd.kept (grows_purchase fun _ => ⟨rfl, rfl, rfl, rfl, rfl, rfl, rfl, rfl, rfl, rfl, rfl⟩) rfl
  | confirmed confirmed =>
    cases confirmed with
    | mk row processing =>
      exact hd.kept (grows_purchase fun _ => ⟨rfl, rfl, rfl, rfl, rfl, rfl, rfl, rfl, rfl, rfl, rfl⟩) rfl

theorem Db.Quiet.counted {d d' : Db} (h : d.Quiet d') (hd : d.Counted) : d'.Counted := by
  refine hd.kept ⟨fun i o ho => ?_, fun i o' ho' => .inl ?_⟩ h.promotions
  · obtain ⟨o', ho', hsame⟩ := h.orders.kept i o ho
    exact ⟨o', ho', hsame.toSamePurchase⟩
  · obtain ⟨o, ho, hsame⟩ := (h.orders.origin i o' ho').resolve_right fun hn => hn.2
    exact ⟨o, ho, hsame.toSamePurchase⟩

theorem Change.counted {env : Deployment} {terms : Terms} {s s' : Shop} (h : Change env terms s s')
    (hfresh : s.db.FreshFrom s.next) (hd : s.db.Counted) : s'.db.Counted := by
  cases h with
  | booked booking => exact booking.quiet.counted hd
  | traded trade => exact trade.counted hfresh hd
  | shipped shipped => exact shipped.quiet.counted hd

/-- Ending an order leaves every promotion as it is. -/
theorem OrderEnded.promotions {orderId : Nat} {order : Order} {requests : List StockRequest} {now : Time}
    {attempts : List (Nat × Payment)} {write : Order → Order} {log : OrderStatusLog} {d d' : Db}
    (h : OrderEnded orderId order requests now attempts write log d d') : d'.promotions = d.promotions := by
  obtain ⟨d₁, d₂, -, -, rfl⟩ := h.parts
  rfl

theorem cancel_promotions (env : Deployment) (s : Shop) (principal : Principal) (orderNo : String)
    (reason : Option String) (now : Time) (n : Nat) :
    (s.after env (.cancel principal orderNo reason now) n).db.promotions = s.db.promotions := by
  have hleaves : Leaves (cancel principal orderNo reason now) (Exec.start s.db s.next)
      fun _ d => d.promotions = s.db.promotions := by
    refine leaves_transaction (noCommit_cancelOrder _ _ _ _) fun _ e h => ?_
    obtain ⟨d, rfl, id, order, -, -, hended⟩ := cancelOrder_cancelled h
    exact hended.promotions
  rcases hleaves n with hlost | ⟨next, -, hsame⟩
  · show (runFor n (cancel principal orderNo reason now) (Exec.start s.db s.next)).committed.promotions = _
    rw [hlost]
    rfl
  · exact hsame

theorem expire_promotions (env : Deployment) (s : Shop) (orderId : Nat) (now : Time) (n : Nat) :
    (s.after env (.expire orderId now) n).db.promotions = s.db.promotions := by
  have hleaves : Leaves (expireOrder orderId now) (Exec.start s.db s.next)
      fun _ d => d.promotions = s.db.promotions := by
    refine leaves_transaction (noCommit_closeExpiredOrder _ _) fun _ e h => ?_
    rcases closeExpiredOrder_eq_ok h with ⟨-, rfl, -⟩ | ⟨-, d, rfl, order, -, -, hended⟩
    · rfl
    · exact hended.promotions
  rcases hleaves n with hlost | ⟨next, -, hsame⟩
  · show (runFor n (expireOrder orderId now) (Exec.start s.db s.next)).committed.promotions = _
    rw [hlost]
    rfl
  · exact hsame

/-- After every run a promotion's used quota is the number of all orders it gave a discount to, and at most
its total; cancelling or closing an order gives no unit back. -/
theorem usedQuota_counts {env : Deployment} {s : Shop} (h : s.Opening) (ops : List (Op × Nat)) :
    (∀ q p, (s.run env ops).db.promotions.get? q = some p →
      p.usedQuota = ((s.run env ops).db.promoted q).length ∧ p.usedQuota ≤ p.totalQuota) ∧
    (∀ principal orderNo reason now n,
      ((s.run env ops).after env (.cancel principal orderNo reason now) n).db.promotions =
        (s.run env ops).db.promotions) ∧
    ∀ orderId now n, ((s.run env ops).after env (.expire orderId now) n).db.promotions =
      (s.run env ops).db.promotions := by
  have hopening : s.db.Counted := by
    intro q p hp
    obtain ⟨hused, htotal⟩ := h.promotions q p hp
    unfold Db.promoted
    rw [h.orders, hused]
    exact ⟨rfl, htotal⟩
  refine ⟨?_, fun _ _ _ _ _ => cancel_promotions _ _ _ _ _ _ _, fun _ _ _ => expire_promotions _ _ _ _ _⟩
  exact (run_keeps (I := fun s => s.db.FreshFrom s.next ∧ s.db.Counted)
    (fun s s' hchange hs => ⟨hchange.fresh hs.1, hchange.counted hs.1 hs.2⟩) ⟨h.fresh, hopening⟩ ops).2

/-- The plate of the small shop. -/
theorem usedQuota_counts_plate :
    let run := sampleShop.run sampleDeployment [(.createOrder sampleCustomer samplePlate sampleNoon, 1000)]
    (∀ q p, run.db.promotions.get? q = some p →
      p.usedQuota = (run.db.promoted q).length ∧ p.usedQuota ≤ p.totalQuota) ∧
    (∀ principal orderNo reason now n,
      (run.after sampleDeployment (.cancel principal orderNo reason now) n).db.promotions = run.db.promotions) ∧
    ∀ orderId now n, (run.after sampleDeployment (.expire orderId now) n).db.promotions = run.db.promotions :=
  usedQuota_counts sampleShop_opening _

/-- The customer orders a plate and cancels the order: its unit of the promotion stays used. -/
theorem usedQuota_cancelled :
    let run := sampleShop.run sampleDeployment [(.createOrder sampleCustomer samplePlate sampleNoon, 1000),
      (.cancel sampleCustomer "NV20240101000011" none sampleNoon, 1000)]
    ¬ ∀ q p, run.db.promotions.get? q = some p → p.usedQuota =
      (run.db.orders.select fun o =>
        decide (o.PromotedBy q ∧ o.orderStatus ≠ .cancelled ∧ o.orderStatus ≠ .closed)).length := by
  intro run hall
  have hused : (run.db.promotions.get? 1).map Promotion.usedQuota = some 1 := by decide +kernel
  have hlive : (run.db.orders.select fun o =>
      decide (o.PromotedBy 1 ∧ o.orderStatus ≠ .cancelled ∧ o.orderStatus ≠ .closed)).length = 0 := by decide +kernel
  obtain ⟨p, hp, hused⟩ := Option.map_eq_some_iff.mp hused
  have hclaimed := hall 1 p hp
  rw [hused, hlive] at hclaimed
  cases hclaimed

end NovaCommerce
