import NovaCommerce.AfterSales.PartialRefunds
import NovaCommerce.AfterSales.Payouts
import NovaCommerce.Lifecycle.Accounts
import NovaCommerce.Lifecycle.Lines

/-!
# The ledgers of a shop agree

A refund is written down five times: as a row, on its payment, on its order, on its claim, and line by line.

* `Refunded` : an amount that is added to all five (`RefundPosted.refundedAll`);
* `AfterSaleEffect.accounted`, `Db.Claimants`, `Db.Lined` : what after-sales keep, and what claims and lines say;
* `Shop.Reconciled` : every session keeps it (`reconciled_session`);
* `ledgers_agree` : over every life of the shop, the ledgers agree, and keep to what was paid, asked and approved.
-/

namespace NovaCommerce

open Sql

/-! ## A refund -/

/-- An amount is added to the ledgers of an order, a claim and their refunds. -/
structure Refunded (d d' : Db) (orderId claimId : Nat) (amount : Int) : Prop where
  payments : ∀ i, d'.ofPayments Payment.refundedAmount i =
    d.ofPayments Payment.refundedAmount i + if orderId = i then amount else 0
  paid : ∀ i, d'.ofPayments Payment.paidAmount i = d.ofPayments Payment.paidAmount i
  refunds : ∀ i, d'.refundsOfOrder i = d.refundsOfOrder i + if orderId = i then amount else 0
  claims : ∀ j, d'.refundsOfClaim j = d.refundsOfClaim j + if claimId = j then amount else 0
  lines : ∀ i, d'.ofLines OrderItem.refundedAmount i =
    d.ofLines OrderItem.refundedAmount i + if orderId = i then amount else 0
  payable : ∀ i, d'.ofLines OrderItem.payableAmount i = d.ofLines OrderItem.payableAmount i

section

variable {principal : Principal} {request : RefundRequest} {requestHash : String} {now : Time} {refundId : Nat}
  {rows : RefundRows} {split : RefundSplit} {d d' : Db}

/-- A refund pays out what it was asked for. -/
theorem RefundPosted.positive (h : RefundPosted principal request requestHash now refundId rows split d d') :
    0 < request.amount := by
  obtain ⟨hwithin, -⟩ := validateCaps_eq_ok h.caps
  exact hwithin.positive

/-- The lines of the claim take the whole amount. -/
theorem RefundPosted.linesTake (h : RefundPosted principal request requestHash now refundId rows split d d')
    (hd : d.Claimed) : ((d.lineIds rows.claimId).map split.placed).sum = request.amount := by
  obtain ⟨-, hplaces⟩ := validateCaps_eq_ok h.caps
  have hsum := hplaces.sum_placed (by
    rw [map_fst_lineFigures, h.locks.lineItems]
    exact hd.linesDistinct rows.claimId)
  rw [map_fst_lineFigures, h.locks.lineItems] at hsum
  exact hsum

/-- A refund is added to all five ledgers. -/
theorem RefundPosted.refundedAll (h : RefundPosted principal request requestHash now refundId rows split d d')
    (hd : d.Claimed) (fresh : d.refunds.get? refundId = none) :
    Refunded d d' rows.claim.orderId rows.claimId request.amount := by
  obtain ⟨hrow, hof⟩ := latestPayment_row h.locks.latest
  have hlines := h.linesTake hd
  have hitems := h.orderItems
  have hfigure : ∀ (figure : OrderItem → Int) (share : Nat → Int), (∀ id ∉ d.lineIds rows.claimId, share id = 0) →
      (∀ id item, figure (item.withShare (split.placed id)) = figure item + share id) → ∀ i,
      d'.ofLines figure i = d.ofLines figure i +
        if rows.claim.orderId = i then ((d.lineIds rows.claimId).map share).sum else 0 := by
    intro figure share helse hshare i
    unfold Db.ofLines
    rw [hitems]
    by_cases hi : rows.claim.orderId = i
    · rw [if_pos hi]
      refine Dict.totalOf_adjust_shares (hd.linesDistinct rows.claimId) (fun id hid => ?_) helse fun id item _ => ?_
      · obtain ⟨item, hitem, hofItem⟩ := hd.line h.locks.claim hid
        exact ⟨item, hitem, hofItem.trans hi⟩
      · exact ⟨rfl, hshare id item⟩
    · -- no line of the claim is a line of another order
      rw [if_neg hi, add_zero]
      unfold Dict.totalOf
      rw [Dict.total_adjust]
      refine Dict.total_congr fun e he => ?_
      by_cases hgroup : e.2.orderId = i
      · have hout : e.1 ∉ d.lineIds rows.claimId := by
          intro hid
          obtain ⟨item, hitem, hofItem⟩ := hd.line h.locks.claim hid
          rw [Dict.get?_eq_some.mpr he] at hitem
          cases hitem
          exact hi (hofItem.symm.trans hgroup)
        have hsame : figure (e.2.withShare (split.placed e.1)) = figure e.2 := by
          rw [hshare, helse _ hout, add_zero]
        rw [if_pos hgroup]
        exact (if_pos hgroup).trans hsame
      · rw [if_neg hgroup]
        exact if_neg hgroup
  obtain ⟨movements, inventories, outbox, -, -, rfl⟩ := h.effects
  refine ⟨fun i => ?_, fun i => ?_, fun i => ?_, fun j => ?_, fun i => ?_, fun i => ?_⟩
  · have htotal := @Dict.totalOf_modify _ _ _ _ _ d.payments Payment.orderId Payment.refundedAmount i _ _ hrow
      (rows.payment.refundedBy request.amount) rfl
    refine htotal.trans ?_
    rw [hof]
    show _ + (if _ then rows.payment.refundedAmount + request.amount - rows.payment.refundedAmount else 0) = _
    rw [add_sub_cancel_left]
    rfl
  · exact Dict.totalOf_modify_same fun _ _ => ⟨rfl, rfl⟩
  · exact Dict.totalOf_set_fresh fresh _
  · exact Dict.totalOf_set_fresh fresh _
  · rw [hfigure OrderItem.refundedAmount split.placed (fun id hid => h.placed_elsewhere hid) (fun _ _ => rfl) i, hlines]
  · rw [hfigure OrderItem.payableAmount (fun _ => 0) (fun _ _ => rfl) (fun _ _ => (add_zero _).symm) i]
    simp

end

/-! ## What after-sales keep -/

/-- A claim is filed on an order that was settled. -/
theorem ClaimFiled.settled {env : Deployment} {principal : Principal} {request : ApplyAfterSaleRequest} {key : String}
    {next : Nat} {d : Db} {orderId : Nat} {order : Order} {rows : List AfterSaleItem} (hd : d.Consistent env)
    (h : ClaimFiled principal request key next d orderId order rows) :
    d.orders.get? orderId = some order ∧ order.Settled := by
  obtain ⟨hrow, -⟩ := orderByNo_some h.found
  obtain ⟨verdict, hverdict, -⟩ := h.accepted
  unfold eligibility at hverdict
  simp only [Raise.bind_eq_ok, Raise.raiseIf_eq_ok, not_not] at hverdict
  obtain ⟨_, hdead, _, hpaid, -⟩ := hverdict
  refine ⟨hrow, ?_⟩
  rcases order.stage with hpending | hsettled | hended
  · obtain ⟨⟨-, -, hstatus⟩, -⟩ := hd.pending _ _ hrow hpending
    rcases hstatus with hstatus | hstatus
    · rw [hstatus] at hpaid
      exact absurd hpaid (by decide)
    · rw [hstatus] at hpaid
      exact absurd hpaid (by decide)
  · exact hsettled
  · refine absurd ?_ hdead
    rcases hended with hended | hended
    · rw [hended]
      decide
    · rw [hended]
      decide

/-- The accounts after a claim was answered. -/
theorem Db.Accounted.answered {d d' : Db} (hd : d.Accounted) {afterSaleNo : String} {f : AfterSale → AfterSale}
    (h : Answered afterSaleNo f d d') : d'.Accounted := by
  obtain ⟨id, c, hc, -, hanswer, -, rfl⟩ := h
  refine ⟨hd.orders, hd.settled, hd.payments, fun {j c'} hc' => ?_, hd.refunds⟩
  by_cases hj : j = id
  · subst hj
    obtain rfl : f c = c' := by
      rw [Dict.get?_modify_self, hc] at hc'
      exact Option.some.inj hc'
    rw [hanswer.follows.orderId]
    exact hd.claims hc
  · exact hd.claims ((Dict.get?_modify_ne hj f).symm.trans hc')

/-- The accounts after a refund. -/
theorem RefundPosted.accounted {principal : Principal} {request : RefundRequest} {requestHash : String} {now : Time}
    {refundId : Nat} {rows : RefundRows} {split : RefundSplit} {d d' : Db}
    (h : RefundPosted principal request requestHash now refundId rows split d d') (hclaimed : d.Claimed)
    (fresh : d.refunds.get? refundId = none) (hd : d.Accounted) : d'.Accounted := by
  have hmoves := h.refundedAll hclaimed fresh
  obtain ⟨hrow, -⟩ := latestPayment_row h.locks.latest
  obtain ⟨o, ho, hsettled⟩ := hd.claims h.locks.claim
  rw [h.locks.order] at ho
  cases ho
  have horders : ∀ i o', d'.orders.get? i = some o' → (i = rows.claim.orderId ∧
      o' = rows.order.afterSaleAxis request.amount (rows.order.refundedBy request.amount rows.order)) ∨
        (rows.claim.orderId ≠ i ∧ d.orders.get? i = some o') := by
    obtain ⟨movements, inventories, outbox, -, -, rfl⟩ := h.effects
    intro i o' ho'
    by_cases hi : i = rows.claim.orderId
    · subst hi
      refine .inl ⟨rfl, ?_⟩
      replace ho' := (Dict.get?_modify_self _ _ _).symm.trans ho'
      rw [h.locks.order] at ho'
      exact (Option.some.inj ho').symm
    · exact .inr ⟨Ne.symm hi, (Dict.get?_modify_ne hi _).symm.trans ho'⟩
  have hkept : ∀ {i : Nat}, (∃ o, d.orders.get? i = some o ∧ o.Settled) → ∃ o, d'.orders.get? i = some o ∧ o.Settled := by
    obtain ⟨movements, inventories, outbox, -, -, rfl⟩ := h.effects
    rintro i ⟨o, ho, hs⟩
    by_cases hi : i = rows.claim.orderId
    · subst hi
      refine ⟨rows.order.afterSaleAxis request.amount (rows.order.refundedBy request.amount rows.order), ?_, hsettled⟩
      exact (Dict.get?_modify_self _ _ _).trans (congrArg (Option.map _) h.locks.order)
    · exact ⟨o, (Dict.get?_modify_ne hi _).trans ho, hs⟩
  refine ⟨fun {i o'} ho' => ?_, fun {i o'} ho' hs => ?_, fun {j p} hp => ?_, fun {j c} hc => ?_, fun {k r} hr => ?_⟩
  · rw [hmoves.payments i]
    rcases horders i o' ho' with ⟨rfl, rfl⟩ | ⟨hi, hold⟩
    · refine ⟨h.orderChecked, ?_⟩
      rw [if_pos rfl, (hd.orders h.locks.order).2]
      rfl
    · rw [if_neg hi, add_zero]
      exact hd.orders hold
  · rw [hmoves.paid i, hmoves.refunds i]
    rcases horders i o' ho' with ⟨rfl, rfl⟩ | ⟨hi, hold⟩
    · obtain ⟨hfull, hpaid, hrefunds⟩ := hd.settled h.locks.order hsettled
      refine ⟨hfull, hpaid, ?_⟩
      rw [if_pos rfl, hrefunds]
      rfl
    · rw [if_neg hi, add_zero]
      exact hd.settled hold hs
  · obtain ⟨movements, inventories, outbox, -, -, rfl⟩ := h.effects
    refine checked_modify hd rfl (fun q hq => ?_) hp
    rw [hrow] at hq
    cases hq
    exact h.paymentChecked
  · refine hkept ?_
    obtain ⟨movements, inventories, outbox, -, -, rfl⟩ := h.effects
    by_cases hj : j = rows.claimId
    · subst hj
      obtain rfl : rows.claim.refundedBy request.amount now rows.claim = c := by
        replace hc := (Dict.get?_modify_self _ _ _).symm.trans hc
        rw [h.locks.claim] at hc
        exact Option.some.inj hc
      rw [(refundedBy_follows h.positive h.locks.approved now).orderId]
      exact ⟨_, h.locks.order, hsettled⟩
    · exact hd.claims ((Dict.get?_modify_ne hj _).symm.trans hc)
  · refine hkept ?_
    obtain ⟨movements, inventories, outbox, -, -, rfl⟩ := h.effects
    by_cases hk : k = refundId
    · subst hk
      obtain rfl := Option.some.inj ((Dict.get?_set_self _ _ _).symm.trans hr)
      exact ⟨_, h.locks.order, hsettled⟩
    · exact hd.refunds ((Dict.get?_set_ne hk _).symm.trans hr)

/-- Every effect of after-sales keeps the accounts. -/
theorem AfterSaleEffect.accounted {env : Deployment} {s : Shop} {op : AfterSaleOp} {next : Nat} {d : Db}
    (h : AfterSaleEffect env s.next s.db op next d) (hs : s.Running env) (hd : s.db.Accounted) : d.Accounted := by
  cases h with
  | @applied principal request key now orderId order rows given filed =>
    have hsettled := filed.settled hs.consistent
    refine ⟨hd.orders, hd.settled, hd.payments, fun {j c} hc => ?_, hd.refunds⟩
    by_cases hj : j = s.next + 1
    · subst hj
      obtain rfl := Option.some.inj ((Dict.get?_set_self _ _ _).symm.trans hc)
      exact ⟨order, hsettled⟩
    · exact hd.claims ((Dict.get?_set_ne hj _).symm.trans hc)
  | cancelled answered => exact hd.answered answered
  | approved answered => exact hd.answered answered
  | rejected answered => exact hd.answered answered
  | refunded _ posted => exact posted.accounted hs.claimed (hs.fresh _ (le_refl _)).refunds hd

/-! ## Claims and their refunds -/

/-- What a claim was paid is within what was approved, and asked for. -/
structure AfterSale.Within (c : AfterSale) : Prop where
  nonneg : 0 ≤ c.refundedAmount
  approved : c.refundedAmount ≤ c.approvedAmount
  requested : c.approvedAmount ≤ c.requestedAmount

theorem Answer.within {c c' : AfterSale} (h : Answer c c') (hc : c.Within) :
    c'.Within ∧ c'.refundedAmount = c.refundedAmount := by
  cases h with
  | cancelled _ => exact ⟨⟨hc.nonneg, hc.approved, hc.requested⟩, rfl⟩
  | @approved amount now _ positive covers within =>
    refine ⟨⟨hc.nonneg, ?_, within⟩, rfl⟩
    show c.refundedAmount ≤ amount
    omega
  | rejected _ _ => exact ⟨⟨hc.nonneg, hc.approved, hc.requested⟩, rfl⟩

/-- What claims and their refunds say of each other. -/
structure Db.Claimants (d : Db) : Prop where
  claims : ∀ {j : Nat} {c : AfterSale}, d.afterSales.get? j = some c → c.Within ∧ d.refundsOfClaim j = c.refundedAmount
  refunds : ∀ {k : Nat} {r : Refund}, d.refunds.get? k = some r → ∃ c, d.afterSales.get? r.afterSaleId = some c

theorem Db.Claimants.same {d d' : Db} (hd : d.Claimants) (afterSales : d'.afterSales = d.afterSales)
    (refunds : d'.refunds = d.refunds) : d'.Claimants := by
  refine ⟨fun {j c} hc => ?_, fun {k r} hr => ?_⟩
  · unfold Db.refundsOfClaim
    rw [refunds]
    rw [afterSales] at hc
    exact hd.claims hc
  · rw [afterSales]
    rw [refunds] at hr
    exact hd.refunds hr

/-- One claim is rewritten, and given what its refunds are given. -/
theorem Db.Claimants.modified {d d' : Db} (hd : d.Claimants) {k : Nat} {c : AfterSale} {f : AfterSale → AfterSale}
    (row : d.afterSales.get? k = some c) (afterSales : d'.afterSales = d.afterSales.modify k f)
    (within : (f c).Within ∧ d'.refundsOfClaim k = (f c).refundedAmount)
    (others : ∀ j, j ≠ k → d'.refundsOfClaim j = d.refundsOfClaim j)
    (refunds : ∀ i r, d'.refunds.get? i = some r → ∃ c, d.afterSales.get? r.afterSaleId = some c) : d'.Claimants := by
  refine ⟨fun {j c'} hc' => ?_, fun {i r} hr => ?_⟩
  · rw [afterSales] at hc'
    by_cases hj : j = k
    · subst hj
      obtain rfl : f c = c' := by
        rw [Dict.get?_modify_self, row] at hc'
        exact Option.some.inj hc'
      exact within
    · rw [others j hj]
      exact hd.claims ((Dict.get?_modify_ne hj f).symm.trans hc')
  · obtain ⟨c', hc'⟩ := refunds i r hr
    rw [afterSales, Dict.get?_modify]
    split_ifs
    · exact ⟨f c', congrArg (Option.map f) hc'⟩
    · exact ⟨c', hc'⟩

theorem Db.Claimants.answered {d d' : Db} (hd : d.Claimants) {afterSaleNo : String} {f : AfterSale → AfterSale}
    (h : Answered afterSaleNo f d d') : d'.Claimants := by
  obtain ⟨id, c, hc, -, hanswer, -, rfl⟩ := h
  obtain ⟨hwithin, hrefunds⟩ := hd.claims hc
  obtain ⟨hstays, hsame⟩ := hanswer.within hwithin
  refine hd.modified hc rfl ⟨hstays, ?_⟩ (fun _ _ => rfl) fun i r hr => hd.refunds hr
  rw [hsame]
  exact hrefunds

/-- Every effect of after-sales keeps claims and refunds in step. -/
theorem AfterSaleEffect.claimants {env : Deployment} {s : Shop} {op : AfterSaleOp} {next : Nat} {d : Db}
    (h : AfterSaleEffect env s.next s.db op next d) (hs : s.Running env) (hd : s.db.Claimants) : d.Claimants := by
  cases h with
  | @applied principal request key now orderId order rows given filed =>
    have hnone := (hs.fresh (s.next + 1) (Nat.le_succ _)).afterSales
    refine ⟨fun {j c} hc => ?_, fun {k r} hr => ?_⟩
    · by_cases hj : j = s.next + 1
      · subst hj
        obtain rfl := Option.some.inj ((Dict.get?_set_self _ _ _).symm.trans hc)
        refine ⟨⟨le_refl 0, le_refl 0, request.amount.le⟩, ?_⟩
        -- no refund is about a claim that was not filed yet
        refine Dict.totalOf_eq_zero fun k r hr hof => ?_
        obtain ⟨c, hc⟩ := hd.refunds hr
        rw [hof, hnone] at hc
        cases hc
      · exact hd.claims ((Dict.get?_set_ne hj _).symm.trans hc)
    · obtain ⟨c, hc⟩ := hd.refunds hr
      have hne : r.afterSaleId ≠ s.next + 1 := by
        intro heq
        rw [heq, hnone] at hc
        cases hc
      exact ⟨c, (Dict.get?_set_ne hne _).trans hc⟩
  | cancelled answered => exact hd.answered answered
  | approved answered => exact hd.answered answered
  | rejected answered => exact hd.answered answered
  | @refunded principal request now rows split d' given posted =>
    have hmoves := posted.refundedAll hs.claimed (hs.fresh _ (le_refl _)).refunds
    obtain ⟨hcaps, -⟩ := validateCaps_eq_ok posted.caps
    obtain ⟨hwithin, hrefunds⟩ := hd.claims posted.locks.claim
    obtain ⟨hrefunded, -⟩ := refundedBy_claim rows.claim request.amount now.time rows.claim
    have hfigures : (rows.claim.refundedBy request.amount now.time rows.claim).approvedAmount = rows.claim.approvedAmount ∧
        (rows.claim.refundedBy request.amount now.time rows.claim).requestedAmount = rows.claim.requestedAmount := by
      unfold AfterSale.refundedBy
      dsimp only
      split_ifs
      · exact ⟨rfl, rfl⟩
      · exact ⟨rfl, rfl⟩
    obtain ⟨movements, inventories, outbox, -, -, rfl⟩ := posted.effects
    refine hd.modified posted.locks.claim rfl ⟨⟨?_, ?_, ?_⟩, ?_⟩ (fun j hj => ?_) fun i r hr => ?_
    · rw [hrefunded]
      have hnonneg := hwithin.nonneg
      have hpositive := hcaps.positive
      omega
    · rw [hrefunded, hfigures.1]
      exact hcaps.approved
    · rw [hfigures.1, hfigures.2]
      exact hwithin.requested
    · rw [hmoves.claims, if_pos rfl, hrefunds, hrefunded]
    · rw [hmoves.claims, if_neg (Ne.symm hj), add_zero]
    · by_cases hi : i = s.next
      · subst hi
        obtain rfl := Option.some.inj ((Dict.get?_set_self _ _ _).symm.trans hr)
        exact ⟨rows.claim, posted.locks.claim⟩
      · exact hd.refunds ((Dict.get?_set_ne hi _).symm.trans hr)

/-- No change of the shop posts a refund. -/
theorem Change.refunds {env : Deployment} {terms : Terms} {s s' : Shop} (h : Change env terms s s') :
    s'.db.refunds = s.db.refunds := by
  cases h with
  | booked booking => exact booking.refunds
  | traded trade => exact trade.refunds
  | shipped shipped => exact shipped.refunds

theorem Change.claimants {env : Deployment} {terms : Terms} {s s' : Shop} (h : Change env terms s s')
    (hd : s.db.Claimants) : s'.db.Claimants := hd.same h.sameClaims.afterSales h.refunds

/-! ## Lines -/

/-- What the lines of orders say. -/
structure Db.Lined (d : Db) : Prop where
  owned : d.LinesOwned
  checked : d.LinesChecked
  orders : ∀ {i : Nat} {o : Order}, d.orders.get? i = some o →
    d.ofLines OrderItem.payableAmount i = o.payableAmount ∧ d.ofLines OrderItem.refundedAmount i = d.refundsOfOrder i

/-- Orders stay, and keep what they have to pay. -/
def Db.KeepsPayable (d d' : Db) : Prop :=
  ∀ i o, d.orders.get? i = some o → ∃ o', d'.orders.get? i = some o' ∧ o'.payableAmount = o.payableAmount

/-- The lines, after a session that itemizes and posts no refund. -/
theorem Db.Lined.itemizes {d d' : Db} (hd : d.Lined) (hm : d.Accounted) (h : Itemizes d d') (payable : d.KeepsPayable d')
    (refunds : d'.refunds = d.refunds) : d'.Lined := by
  have hrefunds : ∀ i, d'.refundsOfOrder i = d.refundsOfOrder i := by
    intro i
    unfold Db.refundsOfOrder
    rw [refunds]
  refine ⟨fun j item hitem => ?_, fun j item hitem => ?_, fun {i o'} ho' => ?_⟩
  · cases h with
    | leaves orders orderItems =>
      rw [orderItems] at hitem
      obtain ⟨o, ho⟩ := hd.owned j item hitem
      obtain ⟨o', ho', -⟩ := payable _ o ho
      exact ⟨o', ho'⟩
    | @makes orderId next order rows freshOrder freshItems orders orderItems new payableSum =>
      rcases inserted_origin orderItems hitem with hold | ⟨n, -, hn⟩
      · obtain ⟨o, ho⟩ := hd.owned j item hold
        obtain ⟨o', ho', -⟩ := payable _ o ho
        exact ⟨o', ho'⟩
      · rw [(new item (List.mem_of_getElem? hn)).ofOrder, orders]
        exact ⟨order, Dict.get?_set_self _ _ _⟩
  · rcases h.line hitem with hold | ⟨orderId, hnew⟩
    · exact hd.checked j item hold
    · exact hnew.checked
  · rw [hrefunds]
    cases ho : d.orders.get? i with
    | some o =>
      obtain ⟨o'', ho'', hsame⟩ := payable i o ho
      rw [ho'] at ho''
      cases ho''
      rw [h.kept ho, h.kept ho, hsame]
      exact hd.orders ho
    | none =>
      obtain ⟨rows, hnew, hsum, hfigures⟩ := h.made hd.owned ho ho'
      have hnothing : (rows.map OrderItem.refundedAmount).sum = 0 := by
        refine List.sum_eq_zero fun x hx => ?_
        obtain ⟨row, hrow, rfl⟩ := List.mem_map.mp hx
        exact (hnew row hrow).unrefunded
      rw [hfigures, hfigures, hsum, hnothing]
      refine ⟨rfl, (hm.unrefunded fun o hrow => ?_).symm⟩
      rw [ho] at hrow
      cases hrow

/-- Every effect of after-sales keeps the lines in step. -/
theorem AfterSaleEffect.lined {env : Deployment} {s : Shop} {op : AfterSaleOp} {next : Nat} {d : Db}
    (h : AfterSaleEffect env s.next s.db op next d) (hs : s.Running env) (hd : s.db.Lined) : d.Lined := by
  have hanswered : ∀ {afterSaleNo : String} {f : AfterSale → AfterSale}, Answered afterSaleNo f s.db d → d.Lined := by
    rintro afterSaleNo f ⟨id, c, -, -, -, -, rfl⟩
    exact ⟨hd.owned, hd.checked, hd.orders⟩
  cases h with
  | applied given filed => exact ⟨hd.owned, hd.checked, hd.orders⟩
  | cancelled answered => exact hanswered answered
  | approved answered => exact hanswered answered
  | rejected answered => exact hanswered answered
  | @refunded principal request now rows split d' given posted =>
    have hmoves := posted.refundedAll hs.claimed (hs.fresh _ (le_refl _)).refunds
    have hgoods := posted.sameGoods
    refine ⟨fun j item' hitem' => ?_, posted.linesChecked hs.claimed hd.checked, fun {i o'} ho' => ?_⟩
    · obtain ⟨item, hitem, rfl⟩ := posted.orderItem_origin hitem'
      obtain ⟨o, ho⟩ := hd.owned j item hitem
      obtain ⟨o', ho', -⟩ := hgoods.orders.kept _ o ho
      exact ⟨o', ho'⟩
    · obtain ⟨o, ho, hsame⟩ := (hgoods.orders.origin i o' ho').resolve_right fun hn => hn.2
      obtain ⟨hpayable, hrefunded⟩ := hd.orders ho
      rw [hmoves.payable, hmoves.lines, hmoves.refunds, hsame.payableAmount, hpayable, hrefunded]
      exact ⟨rfl, rfl⟩

/-! ## Every session -/

/-- The ledgers of the shop agree. -/
structure Shop.Reconciled (env : Deployment) (s : Shop) : Prop extends s.Running env where
  accounted : s.db.Accounted
  claimants : s.db.Claimants
  lined : s.db.Lined

theorem Shop.Founded.reconciled {env : Deployment} {s : Shop} (h : s.Founded) (refunds : s.db.refunds = Dict.empty) :
    s.Reconciled env where
  toRunning := h.running
  accounted := by
    refine ⟨fun ho => ?_, fun ho => ?_, fun hp => ?_, fun hc => ?_, fun hr => ?_⟩
    · rw [h.orders] at ho
      cases ho
    · rw [h.orders] at ho
      cases ho
    · rw [h.payments] at hp
      cases hp
    · rw [h.afterSales] at hc
      cases hc
    · rw [refunds] at hr
      cases hr
  claimants := by
    refine ⟨fun hc => ?_, fun hr => ?_⟩
    · rw [h.afterSales] at hc
      cases hc
    · rw [refunds] at hr
      cases hr
  lined := by
    refine ⟨fun j item hitem => ?_, fun j item hitem => ?_, fun ho => ?_⟩
    · rw [h.orderItems] at hitem
      cases hitem
    · rw [h.orderItems] at hitem
      cases hitem
    · rw [h.orders] at ho
      cases ho

/-- What the changes of a session keep of the shop it begins on. -/
structure Shop.Kept (env : Deployment) (d : Db) (s : Shop) : Prop extends s.Running env where
  accounted : s.db.Accounted
  claimants : s.db.Claimants
  payable : d.KeepsPayable s.db
  refunds : s.db.refunds = d.refunds

theorem Change.kept {env : Deployment} {terms : Terms} {d : Db} {s s' : Shop} (h : Change env terms s s')
    (hs : s.Kept env d) : s'.Kept env d where
  toRunning := h.running hs.toRunning
  accounted := h.accounted hs.toRunning hs.accounted
  claimants := h.claimants hs.claimants
  payable i o ho := by
    obtain ⟨o', ho', hpayable⟩ := hs.payable i o ho
    obtain ⟨o'', ho'', hsame⟩ := (h.orders_grow hs.fresh).kept i o' ho'
    exact ⟨o'', ho'', hsame.payableAmount.trans hpayable⟩
  refunds := h.refunds.trans hs.refunds

/-- Every session leaves the ledgers in agreement. -/
theorem reconciled_session {env : Deployment} {s : Shop} (hs : s.Reconciled env) (session : Session) (n : Nat) :
    (s.session env session n).Reconciled env := by
  cases session with
  | shop op =>
    have hbegin : s.Kept env s.db := ⟨hs.toRunning, hs.accounted, hs.claimants, fun i o ho => ⟨o, ho, rfl⟩, rfl⟩
    have hchanges : Changes env {} s (s.after env op n) := after_changes ⟨False.elim, False.elim⟩ n
    have hkept := changes_preserve (fun _ _ hchange hs => hchange.kept hs) hchanges hbegin
    exact ⟨hkept.toRunning, hkept.accounted, hkept.claimants,
      hs.lined.itemizes hs.accounted (after_itemizes env hs.fresh op n) hkept.payable hkept.refunds⟩
  | afterSale op =>
    have hdrawn : ∀ {s : Shop} {next : Nat}, s.Running env → s.next ≤ next → Shop.Running env ⟨s.db, next⟩ :=
      fun hs hle => @Change.running env {} _ _ (.booked (.drawn hle)) hs
    rcases afterSale_effect hs.claimed.linesDistinct op n with ⟨hsame, hle⟩ | ⟨next, hle, heffect⟩
    · have hrunning := hdrawn hs.toRunning hle
      rw [← hsame] at hrunning
      refine ⟨hrunning, ?_, ?_, ?_⟩
      · show (s.afterSale env op n).db.Accounted
        rw [hsame]
        exact hs.accounted
      · show (s.afterSale env op n).db.Claimants
        rw [hsame]
        exact hs.claimants
      · show (s.afterSale env op n).db.Lined
        rw [hsame]
        exact hs.lined
    · exact ⟨hdrawn (heffect.running hs.toRunning) hle, heffect.accounted hs.toRunning hs.accounted,
        heffect.claimants hs.toRunning hs.claimants, heffect.lined hs.toRunning hs.lined⟩

end NovaCommerce
