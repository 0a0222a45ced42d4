import NovaCommerce.AfterSales.Claims
import NovaCommerce.Shop.Consistency

/-!
# The attempt a refund is decided on

A settlement records its success on the attempt that the provider names; a refund takes the newest attempt of the order.

* `RefundAsked` : an approved claim of a merchant, as the locks of a refund find it;
* `refund_selects_iff` : a refund is decided on a settled attempt exactly when no attempt of its order is newer;
* `refund_refused` : behind a newer attempt that was not settled, every refund is refused.
-/

namespace NovaCommerce

open Sql

/-- An approved claim that a merchant asks to refund. -/
structure RefundAsked (request : RefundRequest) (merchantId : Nat) (d : Db) (claimId : Nat) (c : AfterSale) (o : Order) :
    Prop where
  visible : d.claimByNo request.afterSaleNo (some merchantId) none = some (claimId, c)
  locked : d.claimByNo request.afterSaleNo none none = some (claimId, c)
  approved : c.claimStatus = .approved
  order : d.orders.get? c.orderId = some o

theorem RefundAsked.lockedClaim {request : RefundRequest} {merchantId : Nat} {e : Exec Db} {claimId : Nat} {c : AfterSale}
    {o : Order} (h : RefundAsked request merchantId e.view claimId c o) :
    (NovaCommerce.lockedClaim request.afterSaleNo (some merchantId) none).run e = (.ok (claimId, c), e) := by
  refine lockedClaim_eq_ok.mpr ⟨(claimId, c), (claimId, c), h.visible, h.locked, ?_, rfl⟩
  exact (if_pos rfl).symm

/-- The locks of a refund hold the latest attempt of the order, when it was settled. -/
theorem lockRows_selects_iff {request : RefundRequest} {merchantId : Nat} {e : Exec Db} {claimId : Nat} {c : AfterSale}
    {o : Order} (asked : RefundAsked request merchantId e.view claimId c o) {paymentId : Nat} {p : Payment} :
    (∃ rows, (lockRows request merchantId).run e = (.ok rows, e) ∧ rows.paymentId = paymentId ∧ rows.payment = p) ↔
      e.view.latestPayment c.orderId = some (paymentId, p) ∧ p.status ∈ refundablePaymentStatuses := by
  have hclaim := asked.lockedClaim
  constructor
  · rintro ⟨rows, hrun, rfl, rfl⟩
    unfold lockRows at hrun
    rw [run_bind_eq_ok] at hrun
    obtain ⟨found, e₁, hfound, hrun⟩ := hrun
    rw [hclaim] at hfound
    cases hfound
    dsimp only at hrun
    rw [run_bind_eq_ok] at hrun
    obtain ⟨_, e₂, happroved, hrun⟩ := hrun
    rw [run_raiseIf_eq_ok] at happroved
    obtain ⟨-, rfl⟩ := happroved
    rw [run_bind_eq_ok] at hrun
    obtain ⟨⟨id, q⟩, e₃, hpayment, hrun⟩ := hrun
    obtain ⟨locked, hlatest, -, hsettled, rfl⟩ := lockedPayment_eq_ok.mp hpayment
    simp only [run_bind_eq_ok, run_pure, Prod.mk.injEq, Except.ok.injEq] at hrun
    obtain ⟨_, _, -, _, _, -, _, _, -, _, _, -, rfl, -⟩ := hrun
    exact ⟨hlatest, hsettled⟩
  · rintro ⟨hlatest, hsettled⟩
    obtain ⟨hrow, -⟩ := latestPayment_row hlatest
    have hpayment : (lockedPayment c).run e = (.ok (paymentId, p), e) :=
      lockedPayment_eq_ok.mpr ⟨p, hlatest, hrow, hsettled, rfl⟩
    have happroved : ¬ c.claimStatus ∉ executableClaimStatuses := not_not.mpr (List.mem_singleton.mpr asked.approved)
    refine ⟨⟨claimId, c, paymentId, p, o, e.view.itemsFor c.orderId, e.view.claimLines claimId⟩, ?_, rfl, rfl⟩
    unfold lockRows getOrderForUpdate lockedOrderItems
    rw [run_bind, hclaim, andThen_ok]
    dsimp only
    rw [run_bind, run_raiseIf_neg happroved, andThen_ok, run_bind, hpayment, andThen_ok]
    dsimp only
    rw [run_bind, run_lock, andThen_ok, run_bind, run_orRaise_some asked.order, andThen_ok, run_bind, run_lock, andThen_ok,
      run_bind, run_query, andThen_ok]
    rfl

/-- A refund is decided on the attempt that was settled exactly when no other attempt of the order is newer. -/
theorem refund_selects_iff {request : RefundRequest} {merchantId : Nat} {e : Exec Db} {claimId : Nat} {c : AfterSale}
    {o : Order} (asked : RefundAsked request merchantId e.view claimId c o) {paymentId : Nat} {p : Payment}
    (payment : e.view.payments.get? paymentId = some p) (ofOrder : p.orderId = c.orderId)
    (settled : p.status ∈ refundablePaymentStatuses) :
    (∃ rows, (lockRows request merchantId).run e = (.ok rows, e) ∧ rows.paymentId = paymentId ∧ rows.payment = p) ↔
      ∀ otherId other, e.view.payments.get? otherId = some other → other.orderId = c.orderId →
        toLex (other.createdAt, otherId) ≤ toLex (p.createdAt, paymentId) := by
  rw [lockRows_selects_iff asked, latestPayment_eq_some]
  constructor
  · rintro ⟨⟨-, -, hnewest⟩, -⟩
    exact hnewest
  · intro hnewest
    exact ⟨⟨payment, ofOrder, hnewest⟩, settled⟩

/-- What a refund is refused with behind an attempt that was not settled. -/
def neverSettled (c : AfterSale) (p : Payment) : AppError where
  kind := .afterSaleNotEligible
  message := "the payment for this order was never successfully settled"
  context := [("order_no", .str c.orderNo), ("payment_status", .str p.status.value)]

/-- Behind a latest attempt that was not settled, every refund of the claim is refused, whatever was captured before. -/
theorem refund_refused {request : RefundRequest} {merchantId : Nat} {e : Exec Db} {claimId : Nat} {c : AfterSale}
    {o : Order} (asked : RefundAsked request merchantId e.view claimId c o) {paymentId : Nat} {p : Payment}
    (latest : e.view.latestPayment c.orderId = some (paymentId, p)) (unsettled : p.status ∉ refundablePaymentStatuses)
    (principal : Principal) (requestHash : String) (now : Time) :
    (refundFresh principal request merchantId requestHash now).run e = (.error (neverSettled c p), e) := by
  have happroved : ¬ c.claimStatus ∉ executableClaimStatuses := not_not.mpr (List.mem_singleton.mpr asked.approved)
  obtain ⟨hrow, -⟩ := latestPayment_row latest
  have hheld : identityMap (paymentId, p) (paymentId, p) = (paymentId, p) := if_pos rfl
  have hpayment : (lockedPayment c).run e = (.error (neverSettled c p), e) := by
    unfold lockedPayment
    rw [run_bind, run_query, andThen_ok, run_bind, run_orRaise_some latest, andThen_ok, run_bind, run_lock, andThen_ok,
      run_bind, run_orRaise_some hrow, andThen_ok, run_bind, hheld, run_raiseIf_pos unsettled, andThen_error]
    rfl
  have hlocks : (lockRows request merchantId).run e = (.error (neverSettled c p), e) := by
    unfold lockRows
    rw [run_bind, asked.lockedClaim, andThen_ok]
    dsimp only
    rw [run_bind, run_raiseIf_neg happroved, andThen_ok, run_bind, hpayment, andThen_error]
  unfold refundFresh
  rw [run_bind, hlocks, andThen_error]

/-! ## A paid order with two attempts -/

/-- The customer presses the button twice. -/
def sampleSecondPayment : PaymentRequest where
  orderNo := "NV20240101000011"
  channel := "MOCK"
  clientRequestId := "pay again"
  idempotencyKey := "pay again"

/-- The customer orders two cups, begins to pay them twice and pays the first attempt. -/
def samplePaidOnce : List (Op × Nat) := [
  (.createOrder sampleCustomer sampleCups sampleNoon, 1000),
  (.createPayment sampleCustomer samplePayment sampleNoon, 1000),
  (.createPayment sampleCustomer sampleSecondPayment sampleNoon, 1000),
  (.receive sampleDelivery sampleInstants, 1000)]

/-- The customer wants the money of both cups back. -/
def sampleCupsClaim : ApplyAfterSaleRequest where
  orderNo := "NV20240101000011"
  type := .refundOnly
  items := [⟨12, 2⟩]
  requestedAmount := 1000
  reason := "broken"
  clientRequestId := "cups back"
  amount := sampleAmount_pos
  reasonGiven := sampleReason_given

/-- The deployment of the small shop, with the digest of that claim. -/
def sampleRefunder : Deployment :=
  { sampleProvider with
    sha256Hex := fun text =>
      if text = "order_no=NV20240101000011|type=REFUND_ONLY|amount=1000|items=12:2" then
        "6c81dc30b215822fa0cc116aaa1f48757032034fb48777169934a2006875d32a"
      else sampleProvider.sha256Hex text }

def sampleAfternoon : Moment := { time := 1704121200000 }

/-- The claim is filed and approved in full. -/
def sampleApprovedRun (afterSaleNo : String) : List (AfterSaleOp × Nat) := [
  (.applyAfterSale sampleBuyer sampleCupsClaim "cups back" sampleAfternoon, 1000),
  (.approveAfterSale sampleReviewer afterSaleNo { approvedAmount := 1000, positive := sampleAmount_pos } sampleAfternoon, 1000)]

/-- The refund of such a claim. -/
def sampleCupsRefund (afterSaleNo : String) : RefundRequest :=
  { afterSaleNo := afterSaleNo, amount := 1000, idempotencyKey := "refund" }

/-- What a refund of an approved claim finds, next to an attempt that was settled. -/
structure SettledBeside (request : RefundRequest) (d : Db) (claimId paymentId : Nat) (ok : Nat → Payment → Bool)
    (c : AfterSale) (o : Order) (p : Payment) (latestId : Nat) (latest : Payment) : Prop where
  asked : RefundAsked request 1 d claimId c o
  payment : d.payments.get? paymentId = some p
  ofOrder : p.orderId = c.orderId
  settled : p.status ∈ refundablePaymentStatuses
  newest : d.latestPayment c.orderId = some (latestId, latest)
  checked : ok latestId latest = true

theorem settledBeside_of (orderId : Nat) {request : RefundRequest} {d : Db} {claimId paymentId : Nat} {ok : Nat → Payment → Bool}
    (h : ((d.claimByNo request.afterSaleNo (some 1) none).bind fun found =>
      (d.claimByNo request.afterSaleNo none none).bind fun locked => (d.orders.get? orderId).bind fun _ =>
      (d.payments.get? paymentId).bind fun p => (d.latestPayment orderId).map fun latest =>
        decide (found.1 = claimId ∧ locked.1 = claimId ∧ found.2.claimStatus = .approved ∧ found.2.orderId = orderId ∧
          p.orderId = orderId ∧ p.status ∈ refundablePaymentStatuses ∧ ok latest.1 latest.2 = true)) = some true) :
    ∃ c o p latestId latest, SettledBeside request d claimId paymentId ok c o p latestId latest := by
  obtain ⟨⟨id, c⟩, hvisible, h⟩ := Option.bind_eq_some_iff.mp h
  obtain ⟨⟨id', c'⟩, hlocked, h⟩ := Option.bind_eq_some_iff.mp h
  obtain ⟨o, ho, h⟩ := Option.bind_eq_some_iff.mp h
  obtain ⟨p, hp, h⟩ := Option.bind_eq_some_iff.mp h
  obtain ⟨⟨latestId, latest⟩, hlatest, h⟩ := Option.map_eq_some_iff.mp h
  obtain ⟨rfl, rfl, happroved, rfl, hof, hsettled, hchecked⟩ := of_decide_eq_true h
  have hrow := (claimByNo_some hvisible).1
  have hrow' := (claimByNo_some hlocked).1
  rw [hrow] at hrow'
  cases hrow'
  exact ⟨c, o, p, latestId, latest, ⟨hvisible, hlocked, happroved, ho⟩, hp, hof, hsettled, hlatest, hchecked⟩

/-- With one attempt, it is the one. -/
theorem refund_selects_single :
    ∃ rows, (lockRows (sampleCupsRefund "NVAS20240101000017") 1).run (Exec.start
      ((sampleShop.run sampleRefunder samplePaid).runAfterSales sampleRefunder
        (sampleApprovedRun "NVAS20240101000017")).db 1000) =
      (.ok rows, Exec.start ((sampleShop.run sampleRefunder samplePaid).runAfterSales sampleRefunder
        (sampleApprovedRun "NVAS20240101000017")).db 1000) ∧ rows.paymentId = 13 := by
  obtain ⟨c, o, p, latestId, latest, h⟩ : ∃ c o p latestId latest, SettledBeside (sampleCupsRefund "NVAS20240101000017")
      ((sampleShop.run sampleRefunder samplePaid).runAfterSales sampleRefunder
        (sampleApprovedRun "NVAS20240101000017")).db 17 13 (fun id _ => decide (id = 13)) c o p latestId latest :=
    settledBeside_of 11 (by decide +kernel)
  generalize ((sampleShop.run sampleRefunder samplePaid).runAfterSales sampleRefunder
    (sampleApprovedRun "NVAS20240101000017")).db = d at h ⊢
  have hid : latestId = 13 := of_decide_eq_true h.checked
  have hlatest := h.newest
  rw [hid] at hlatest
  obtain rfl := Option.some.inj (h.payment.symm.trans (latestPayment_row hlatest).1)
  obtain ⟨rows, hrun, hpayment, -⟩ := (refund_selects_iff (e := Exec.start d 1000) h.asked h.payment h.ofOrder h.settled).mpr
    (latestPayment_eq_some.mp hlatest).2.2
  exact ⟨rows, hrun, hpayment⟩

/-- After two attempts of which the first was paid, no refund is decided on it. -/
theorem refund_selects_other :
    ¬ ∀ (env : Deployment) (s : Shop), s.Opening → ∀ (ops : List (Op × Nat)) (steps : List (AfterSaleOp × Nat)),
      ∀ request merchantId claimId c o,
        RefundAsked request merchantId ((s.run env ops).runAfterSales env steps).db claimId c o →
        ∀ paymentId p, ((s.run env ops).runAfterSales env steps).db.payments.get? paymentId = some p →
          p.orderId = c.orderId → p.status ∈ refundablePaymentStatuses → ∀ next,
          ∃ rows e', (lockRows request merchantId).run
            (Exec.start ((s.run env ops).runAfterSales env steps).db next) = (.ok rows, e') ∧ rows.paymentId = paymentId := by
  intro h
  have hselects := h sampleRefunder sampleShop sampleShop_opening samplePaidOnce (sampleApprovedRun "NVAS20240101000018")
    (sampleCupsRefund "NVAS20240101000018") 1 18
  obtain ⟨c, o, p, latestId, latest, hfound⟩ : ∃ c o p latestId latest, SettledBeside (sampleCupsRefund "NVAS20240101000018")
      ((sampleShop.run sampleRefunder samplePaidOnce).runAfterSales sampleRefunder
        (sampleApprovedRun "NVAS20240101000018")).db 18 13
      (fun _ latest => decide (latest.status ∉ refundablePaymentStatuses)) c o p latestId latest :=
    settledBeside_of 11 (by decide +kernel)
  generalize ((sampleShop.run sampleRefunder samplePaidOnce).runAfterSales sampleRefunder
    (sampleApprovedRun "NVAS20240101000018")).db = d at hselects hfound
  obtain ⟨rows, e', hrun, -⟩ := hselects c o hfound.asked 13 p hfound.payment hfound.ofOrder hfound.settled 1000
  obtain ⟨rfl, -⟩ := lockRows_eq_ok hrun
  obtain ⟨hselected, hrefundable⟩ := (lockRows_selects_iff (e := Exec.start d 1000) hfound.asked).mp ⟨rows, hrun, rfl, rfl⟩
  have hsame : latest = rows.payment := congrArg Prod.snd (Option.some.inj (hfound.newest.symm.trans hselected))
  have hunsettled := of_decide_eq_true hfound.checked
  rw [hsame] at hunsettled
  exact hunsettled hrefundable

end NovaCommerce
