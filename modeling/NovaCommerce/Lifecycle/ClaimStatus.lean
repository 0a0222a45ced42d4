import NovaCommerce.Lifecycle.Runs

/-!
# The status of a claim and its money

A refund moves the refunded amount and completes the claim when that reaches the approved one. An approval moves the approved amount and
always leaves the claim approved.

* `Db.StatusFollows` : the claims that are completed are those whose approved amount went back;
* `AfterSaleOp.LeavesOpen` : an approval does not stop at what already went back;
* `status_follows_money` : lives of such sessions keep it.
-/

namespace NovaCommerce

open Sql

/-- A claim is completed exactly when its approved amount went back, and is something. -/
def AfterSale.StatusFollows (c : AfterSale) : Prop :=
  c.claimStatus = .completed ↔ c.refundedAmount = c.approvedAmount ∧ 0 < c.refundedAmount

instance AfterSale.decidableStatusFollows (c : AfterSale) : Decidable c.StatusFollows := by
  unfold AfterSale.StatusFollows
  infer_instance

def Db.StatusFollows (d : Db) : Prop := ∀ (id : Nat) (c : AfterSale), d.afterSales.get? id = some c → c.StatusFollows

/-- An approval of a claim does not stop at what was already refunded on it. -/
def AfterSaleOp.LeavesOpen (op : AfterSaleOp) (d : Db) : Prop :=
  match op with
  | .approveAfterSale _ afterSaleNo request now => ∀ id c, d.afterSales.get? id = some c → c.afterSaleNo = afterSaleNo →
      Answer c (c.approvedBy request.approvedAmount now.time) → request.approvedAmount ≠ c.refundedAmount
  | _ => True

/-! ## One claim -/

/-- A claim that was not answered has nothing to its credit. -/
theorem statusFollows_unrefunded {c : AfterSale} (hopen : c.claimStatus ≠ .completed) (hnothing : c.refundedAmount ≤ 0) :
    c.StatusFollows := by
  refine iff_of_false hopen ?_
  rintro ⟨-, hpos⟩
  omega

/-- An answer keeps a claim in step, unless it approves just what went back. -/
theorem Answer.statusFollows {c c' : AfterSale} (h : Answer c c') (hpaid : 0 < c.refundedAmount → c.claimStatus = .approved ∨ c.claimStatus = .completed)
    (hopen : c'.claimStatus = .approved → c'.approvedAmount ≠ c'.refundedAmount) : c'.StatusFollows := by
  cases h with
  | cancelled pending =>
    refine statusFollows_unrefunded nofun ?_
    show c.refundedAmount ≤ 0
    by_contra hpos
    rcases hpaid (by omega) with h | h
    · rw [pending] at h
      cases h
    · rw [pending] at h
      cases h
  | approved _ _ _ _ => exact iff_of_false nofun fun h => hopen rfl h.1.symm
  | rejected _ unrefunded => exact statusFollows_unrefunded nofun unrefunded

/-- A refund keeps its claim in step. -/
theorem refundedBy_statusFollows {c : AfterSale} {amount : Int} (hpos : 0 < amount) (hnonneg : 0 ≤ c.refundedAmount)
    (happroved : c.claimStatus = .approved) (hle : c.refundedAmount + amount ≤ c.approvedAmount) (now : Time) :
    (c.refundedBy amount now c).StatusFollows := by
  unfold AfterSale.refundedBy
  dsimp only
  split_ifs with hdone
  · exact iff_of_true rfl ⟨show c.refundedAmount + amount = c.approvedAmount by omega, show 0 < c.refundedAmount + amount by omega⟩
  · refine iff_of_false ?_ ?_
    · show c.claimStatus ≠ .completed
      rw [happroved]
      nofun
    · rintro ⟨hall, -⟩
      have hall : c.refundedAmount + amount = c.approvedAmount := hall
      exact hdone ⟨by omega, hall.ge⟩

/-! ## Lives -/

theorem Db.StatusFollows.modified {d : Db} (hd : d.StatusFollows) {k : Nat} {c : AfterSale} {f : AfterSale → AfterSale}
    (hc : d.afterSales.get? k = some c) (hf : (f c).StatusFollows) :
    ({ d with afterSales := d.afterSales.modify k f } : Db).StatusFollows := by
  intro id c' (hrow : (d.afterSales.modify k f).get? id = some c')
  by_cases hid : id = k
  · subst hid
    rw [Dict.get?_modify_self, hc] at hrow
    cases hrow
    exact hf
  · rw [Dict.get?_modify_ne hid] at hrow
    exact hd id c' hrow

theorem AfterSaleEffect.statusFollows {env : Deployment} {next next' : Nat} {d d' : Db} {op : AfterSaleOp}
    (h : AfterSaleEffect env next d op next' d') (hclaimed : d.Claimed) (hopen : op.LeavesOpen d) (hd : d.StatusFollows) :
    d'.StatusFollows := by
  cases h with
  | applied _ _ =>
    intro id c hrow
    by_cases hid : id = next + 1
    · subst hid
      obtain rfl := Option.some.inj ((Dict.get?_set_self _ _ _).symm.trans hrow)
      exact statusFollows_unrefunded nofun le_rfl
    · exact hd id c ((Dict.get?_set_ne hid _).symm.trans hrow)
  | cancelled answered =>
    obtain ⟨id, c, hc, -, hanswer, -, rfl⟩ := answered
    exact hd.modified hc (hanswer.statusFollows (hclaimed.refunded hc).2 nofun)
  | rejected answered =>
    obtain ⟨id, c, hc, -, hanswer, -, rfl⟩ := answered
    exact hd.modified hc (hanswer.statusFollows (hclaimed.refunded hc).2 nofun)
  | approved answered =>
    obtain ⟨id, c, hc, hno, hanswer, -, rfl⟩ := answered
    exact hd.modified hc (hanswer.statusFollows (hclaimed.refunded hc).2 fun _ => hopen id c hc hno hanswer)
  | @refunded _ request now rows split _ _ posted =>
    obtain ⟨hwithin, -⟩ := validateCaps_eq_ok posted.caps
    have hpaid := refundedBy_statusFollows hwithin.positive (hclaimed.refunded posted.locks.claim).1 posted.locks.approved
      hwithin.approved now.time
    obtain ⟨movements, inventories, outbox, -, -, rfl⟩ := posted.effects
    exact hd.modified posted.locks.claim hpaid

/-- What such lives keep. -/
structure Shop.InStep (env : Deployment) (s : Shop) : Prop extends s.Running env where
  statusFollows : s.db.StatusFollows

theorem inStep_keeps (env : Deployment) : LifeKeeps env AfterSaleOp.LeavesOpen (Shop.InStep env) where
  distinct h := h.claimed.linesDistinct
  change h hchange := by
    refine ⟨hchange.running h.toRunning, fun id c hc => ?_⟩
    rw [hchange.sameClaims.afterSales] at hc
    exact h.statusFollows id c hc
  effect h hopen heffect := ⟨heffect.running h.toRunning, heffect.statusFollows h.claimed hopen h.statusFollows⟩

/-- In a life whose approvals never stop at what already went back, every claim is completed exactly when its approved amount went
back. -/
theorem status_follows_money {env : Deployment} {s : Shop} (hs : s.Founded) {sessions : List (Session × Nat)}
    (h : s.LivesBy env AfterSaleOp.LeavesOpen sessions) : (s.live env sessions).db.StatusFollows := by
  have hbegin : s.InStep env := by
    refine ⟨hs.running, fun id c hc => ?_⟩
    rw [hs.afterSales] at hc
    cases hc
  exact ((inStep_keeps env).run hbegin h).statusFollows

/-! ## Half of the money -/

/-- The provider's deployment, with the digest of a refund of half the money. -/
def halvesDeployment : Deployment :=
  { lifeDeployment with sha256Hex := fun s => ((lifeDigests ++ [
    ("after_sale_no=NVAS20240101000017|amount=500|reason=|key=refund",
      "ee3b99835bb16b3b117d030cd6918e202ec25aa1c7c3c3d06d2169ec4dcb5102")]).lookup s).getD "" }

/-- Two cups come back: everything is approved, and half of it is refunded. -/
def halfRefunded : List (Session × Nat) :=
  samplePaid.map (fun step => (.shop step.1, step.2)) ++ [
    (.afterSale (.applyAfterSale sampleCustomer cupsBack "return" lifeNoon), 1000),
    (.afterSale (.approveAfterSale sampleReviewer "NVAS20240101000017"
      { approvedAmount := 1000, positive := sampleAmount_pos } lifeNoon), 1000),
    (.afterSale (.executeRefund sampleReviewer
      { afterSaleNo := "NVAS20240101000017", amount := 500, idempotencyKey := "refund" } lifeNoon), 1000)]

theorem status_follows_half : (sampleShop.live halvesDeployment halfRefunded).db.StatusFollows := by
  have hunrefunded : ∀ e ∈ (sampleShop.live halvesDeployment (halfRefunded.take 4)).db.afterSales.entries,
      (1000 : Int) ≠ e.2.refundedAmount := by decide +kernel
  refine status_follows_money sampleShop_founded ?_
  refine ⟨(fun _ h => nomatch h), (fun _ h => nomatch h), (fun _ h => nomatch h),
    fun _ h => ?_, fun _ h => ?_, fun _ h => ?_, trivial⟩
  · cases h
    trivial
  · cases h
    intro id c hc _ _
    exact hunrefunded (id, c) (Dict.get?_eq_some.mp hc)
  · cases h
    trivial

/-- The reviewer lowers the approval to the half that went back, and the claim stays approved. -/
theorem status_stays_approved : ¬ ∀ (env : Deployment) (s : Shop), s.Founded → ∀ sessions : List (Session × Nat),
    (s.live env sessions).db.StatusFollows := by
  intro h
  have hlowered : ((sampleShop.live halvesDeployment (halfRefunded ++ [(.afterSale (.approveAfterSale sampleReviewer
      "NVAS20240101000017" { approvedAmount := 500 } lifeNoon), 1000)])).db.afterSales.get? 17).map
        (fun c => decide c.StatusFollows) = some false := by decide +kernel
  obtain ⟨c, hc, hnot⟩ := Option.map_eq_some_iff.mp hlowered
  exact of_decide_eq_false hnot (h halvesDeployment sampleShop sampleShop_founded _ 17 c hc)

end NovaCommerce
