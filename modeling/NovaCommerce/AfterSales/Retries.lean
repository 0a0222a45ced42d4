import NovaCommerce.AfterSales.Claims

/-!
# Retries

An application and a refund are each sent again under the idempotency key they were sent under first; a hash of the request
tells a retry from another use of the key.

* `Db.Recorded` : records of applications and claims belong together, and claims belong to the customers of their orders;
* `applied_owned_iff` : an application answers its sender with a claim of theirs, unless the key and the hash are those of
  another customer's claim;
* `Db.RefundsHashed` : each refund keeps its key and the hash of the request that made it;
* `refund_replays_iff` : a refund's key answers its own request, and refuses the others exactly when the hash tells them
  apart.
-/

namespace NovaCommerce

open Sql

/-! ## Records of applications -/

/-- The record of an application. -/
def IdempotencyRecord.Applies (r : IdempotencyRecord) : Prop := r.scope = afterSaleApplyScope

/-- Every record of an application is the record of the claim it made. -/
structure Db.Recorded (d : Db) : Prop where
  records : ∀ {i : Nat} {r : IdempotencyRecord}, d.idempotency.get? i = some r → r.Applies → r.status = .completed ∧
    ∃ id c, r.resourceId = some id ∧ d.afterSales.get? id = some c ∧ c.idempotencyKey = r.idempotencyKey ∧
      c.requestHash = r.requestHash
  claims : ∀ {id : Nat} {c : AfterSale}, d.afterSales.get? id = some c → c.idempotencyKey ≠ "" ∧
    ∃ i r, d.idempotency.get? i = some r ∧ r.Applies ∧ r.idempotencyKey = c.idempotencyKey ∧ r.resourceId = some id
  owned : ∀ {id : Nat} {c : AfterSale}, d.afterSales.get? id = some c →
    ∃ o, d.orders.get? c.orderId = some o ∧ o.userId = c.userId
  unique : ∀ {i j : Nat} {r r' : IdempotencyRecord}, d.idempotency.get? i = some r → d.idempotency.get? j = some r' →
    r.Applies → r'.Applies → r.idempotencyKey = r'.idempotencyKey → i = j

/-- What finds the record of an application. -/
theorem idempotencyAt_some {d : Db} {scope key : String} {i : Nat} {r : IdempotencyRecord}
    (h : d.idempotencyAt scope key = some (i, r)) :
    d.idempotency.get? i = some r ∧ r.scope = scope ∧ r.idempotencyKey = key := by
  obtain ⟨hget, hp⟩ := Dict.find?_some h
  exact ⟨hget, of_decide_eq_true hp⟩

theorem idempotencyAt_none {d : Db} {scope key : String} (h : d.idempotencyAt scope key = none) {i : Nat}
    {r : IdempotencyRecord} (hr : d.idempotency.get? i = some r) (hscope : r.scope = scope) : r.idempotencyKey ≠ key := by
  intro hkey
  refine Dict.find?_none.mp h (i, r) (Dict.get?_eq_some.mp hr) (decide_eq_true ?_)
  exact ⟨hscope, hkey⟩

theorem Db.Recorded.idempotencyAt {d : Db} (h : d.Recorded) {i : Nat} {r : IdempotencyRecord}
    (hr : d.idempotency.get? i = some r) (happlies : r.Applies) :
    d.idempotencyAt afterSaleApplyScope r.idempotencyKey = some (i, r) := by
  cases hfound : d.idempotencyAt afterSaleApplyScope r.idempotencyKey with
  | none => exact absurd rfl (idempotencyAt_none hfound hr happlies)
  | some found =>
    obtain ⟨j, r'⟩ := found
    obtain ⟨hr', hscope, hkey⟩ := idempotencyAt_some hfound
    obtain rfl := h.unique hr' hr hscope happlies hkey
    rw [hr] at hr'
    cases hr'
    rfl

/-- Claims that are rewritten as `AfterSale.Follows` says keep their records. -/
theorem Db.Recorded.kept {d d' : Db} (h : d.Recorded) (hrecords : d'.idempotency = d.idempotency)
    (hclaims : Dict.Grows AfterSale.Follows (fun _ => False) d.afterSales d'.afterSales)
    (horders : ∀ i o, d.orders.get? i = some o → ∃ o', d'.orders.get? i = some o' ∧ o'.userId = o.userId) :
    d'.Recorded where
  records := by
    intro i r hr happlies
    rw [hrecords] at hr
    obtain ⟨hdone, id, c, hid, hc, hkey, hhash⟩ := h.records hr happlies
    obtain ⟨c', hc', hfollows⟩ := hclaims.kept id c hc
    exact ⟨hdone, id, c', hid, hc', hfollows.idempotencyKey.trans hkey, hfollows.requestHash.trans hhash⟩
  claims := by
    intro id c' hc'
    rcases hclaims.origin id c' hc' with ⟨c, hc, hfollows⟩ | ⟨-, hfalse⟩
    · obtain ⟨hgiven, i, r, hr, happlies, hkey, hid⟩ := h.claims hc
      rw [← hfollows.idempotencyKey] at hgiven hkey
      exact ⟨hgiven, i, r, by rw [hrecords]; exact hr, happlies, hkey, hid⟩
    · exact hfalse.elim
  owned := by
    intro id c' hc'
    rcases hclaims.origin id c' hc' with ⟨c, hc, hfollows⟩ | ⟨-, hfalse⟩
    · obtain ⟨o, ho, huser⟩ := h.owned hc
      obtain ⟨o', ho', hsame⟩ := horders _ o ho
      rw [← hfollows.orderId] at ho'
      exact ⟨o', ho', (hsame.trans huser).trans hfollows.userId.symm⟩
    · exact hfalse.elim
  unique := by
    intro i j r r' hr hr'
    rw [hrecords] at hr hr'
    exact h.unique hr hr'

theorem Db.Recorded.answered {d d' : Db} (h : d.Recorded) {afterSaleNo : String} {f : AfterSale → AfterSale}
    (hanswered : Answered afterSaleNo f d d') : d'.Recorded := by
  obtain ⟨id, c, hc, -, hanswer, -, rfl⟩ := hanswered
  refine h.kept rfl (Dict.grows_modify AfterSale.Follows.refl fun c' hc' => ?_) fun i o ho => ⟨o, ho, rfl⟩
  rw [hc] at hc'
  cases hc'
  exact hanswer.follows

theorem Db.Recorded.posted {principal : Principal} {request : RefundRequest} {requestHash : String} {now : Time}
    {refundId : Nat} {rows : RefundRows} {split : RefundSplit} {d d' : Db} (h : d.Recorded)
    (hposted : RefundPosted principal request requestHash now refundId rows split d d') : d'.Recorded := by
  obtain ⟨hwithin, -⟩ := validateCaps_eq_ok hposted.caps
  obtain ⟨movements, inventories, outbox, -, -, rfl⟩ := hposted.effects
  refine h.kept rfl (Dict.grows_modify AfterSale.Follows.refl fun c' hc' => ?_) fun i o ho => ?_
  · rw [hposted.locks.claim] at hc'
    cases hc'
    exact refundedBy_follows hwithin.positive hposted.locks.approved _
  · have hrow : (d.orders.modify rows.claim.orderId fun row =>
        rows.order.afterSaleAxis request.amount (rows.order.refundedBy request.amount row)).get? i =
        some (if i = rows.claim.orderId then
          rows.order.afterSaleAxis request.amount (rows.order.refundedBy request.amount o) else o) := by
      rw [Dict.get?_modify, ho]
      split_ifs <;> rfl
    refine ⟨_, hrow, ?_⟩
    split_ifs
    · rfl
    · rfl

/-- The order that a claim is filed on is its customer's. -/
theorem ClaimFiled.owned {principal : Principal} {request : ApplyAfterSaleRequest} {key : String} {next : Nat} {d : Db}
    {orderId : Nat} {order : Order} {rows : List AfterSaleItem}
    (h : ClaimFiled principal request key next d orderId order rows) :
    d.orders.get? orderId = some order ∧ order.userId = principal.userId := by
  obtain ⟨hrow, -, huser⟩ := orderByNo_some h.found
  exact ⟨hrow, huser _ rfl⟩

theorem Db.Recorded.filed {principal : Principal} {request : ApplyAfterSaleRequest} {key requestHash : String} {next : Nat}
    {d : Db} {orderId : Nat} {order : Order} {rows : List AfterSaleItem} (h : d.Recorded) (hfresh : d.FreshFrom next)
    (hgiven : key ≠ "") (hfiled : ClaimFiled principal request key next d orderId order rows) (now : Time) :
    (d.filed request key requestHash orderId order rows next now).Recorded where
  records := by
    intro i r hr happlies
    by_cases hi : i = next
    · subst hi
      obtain rfl := Option.some.inj ((Dict.get?_set_self _ _ _).symm.trans hr)
      exact ⟨rfl, i + 1, _, rfl, Dict.get?_set_self _ _ _, rfl, rfl⟩
    · obtain ⟨hdone, id, c, hid, hc, hsame⟩ := h.records ((Dict.get?_set_ne hi _).symm.trans hr) happlies
      have hne : id ≠ next + 1 := by
        rintro rfl
        rw [(hfresh (next + 1) (Nat.le_succ _)).afterSales] at hc
        cases hc
      exact ⟨hdone, id, c, hid, (Dict.get?_set_ne hne _).trans hc, hsame⟩
  claims := by
    intro id c hc
    by_cases hid : id = next + 1
    · subst hid
      obtain rfl := Option.some.inj ((Dict.get?_set_self _ _ _).symm.trans hc)
      exact ⟨hgiven, next, _, Dict.get?_set_self _ _ _, rfl, rfl, rfl⟩
    · obtain ⟨hkey, i, r, hr, hrest⟩ := h.claims ((Dict.get?_set_ne hid _).symm.trans hc)
      have hne : i ≠ next := by
        rintro rfl
        rw [(hfresh i le_rfl).idempotency] at hr
        cases hr
      exact ⟨hkey, i, r, (Dict.get?_set_ne hne _).trans hr, hrest⟩
  owned := by
    intro id c hc
    by_cases hid : id = next + 1
    · subst hid
      obtain rfl := Option.some.inj ((Dict.get?_set_self _ _ _).symm.trans hc)
      exact ⟨order, hfiled.owned.1, rfl⟩
    · exact h.owned ((Dict.get?_set_ne hid _).symm.trans hc)
  unique := by
    have hnew : ∀ {k : Nat} {r : IdempotencyRecord}, d.idempotency.get? k = some r → r.Applies → r.idempotencyKey ≠ key :=
      fun hr happlies => idempotencyAt_none hfiled.unclaimed hr happlies
    intro i j r r' hr hr' happlies happlies' hkey
    by_cases hi : i = next
    · by_cases hj : j = next
      · rw [hi, hj]
      · subst hi
        obtain rfl := Option.some.inj ((Dict.get?_set_self _ _ _).symm.trans hr)
        exact absurd hkey.symm (hnew ((Dict.get?_set_ne hj _).symm.trans hr') happlies')
    · have hold := (Dict.get?_set_ne hi _).symm.trans hr
      by_cases hj : j = next
      · subst hj
        obtain rfl := Option.some.inj ((Dict.get?_set_self _ _ _).symm.trans hr')
        exact absurd hkey (hnew hold happlies)
      · exact h.unique hold ((Dict.get?_set_ne hj _).symm.trans hr') happlies happlies' hkey

theorem Db.Recorded.effect {env : Deployment} {next next' : Nat} {d d' : Db} {op : AfterSaleOp} (h : d.Recorded)
    (hfresh : d.FreshFrom next) (heffect : AfterSaleEffect env next d op next' d') : d'.Recorded := by
  cases heffect with
  | applied given filed => exact h.filed hfresh given filed _
  | cancelled answered => exact h.answered answered
  | approved answered => exact h.answered answered
  | rejected answered => exact h.answered answered
  | refunded _ posted => exact h.posted posted

/-- The shop's claims are well formed, and recorded. -/
structure Shop.Recorded (s : Shop) : Prop extends s.Claimed where
  recorded : s.db.Recorded

/-- A shop whose customers sent no application yet. -/
structure Shop.NoApplications (s : Shop) : Prop extends s.NoClaims where
  unrecorded : ∀ i r, s.db.idempotency.get? i = some r → r.scope ≠ afterSaleApplyScope

theorem Shop.NoApplications.recorded {s : Shop} (h : s.NoApplications) : s.Recorded where
  toClaimed := h.claimed
  recorded := by
    refine ⟨fun hr happlies => absurd happlies (h.unrecorded _ _ hr), fun hc => ?_, fun hc => ?_,
      fun hr _ happlies => absurd happlies (h.unrecorded _ _ hr)⟩
    · rw [h.afterSales] at hc
      cases hc
    · rw [h.afterSales] at hc
      cases hc

/-! ## Whose claim an application returns -/

/-- The request that made a refund. -/
def Refund.request (r : Refund) (afterSaleNo : String) : RefundRequest :=
  { afterSaleNo, amount := r.amount, reason := r.reason, idempotencyKey := r.idempotencyKey }

/-- Every refund keeps the hash of its request, and a merchant has one refund under a key. -/
structure Db.RefundsHashed (env : Deployment) (d : Db) : Prop where
  hashed : ∀ {id : Nat} {r : Refund}, d.refunds.get? id = some r → r.idempotencyKey ≠ "" ∧
    ∃ c, d.afterSales.get? r.afterSaleId = some c ∧ r.requestHash = requestHashForRefund env (r.request c.afterSaleNo)
  unique : ∀ {i j : Nat} {r r' : Refund}, d.refunds.get? i = some r → d.refunds.get? j = some r' →
    r.merchantId = r'.merchantId → r.idempotencyKey = r'.idempotencyKey → i = j

theorem Db.RefundsHashed.refundByKey {env : Deployment} {d : Db} (h : d.RefundsHashed env) {id : Nat} {r : Refund}
    (hr : d.refunds.get? id = some r) : d.refundByKey r.merchantId r.idempotencyKey = some (id, r) := by
  cases hfound : d.refundByKey r.merchantId r.idempotencyKey with
  | none =>
    refine absurd (decide_eq_true ?_) (Dict.find?_none.mp hfound (id, r) (Dict.get?_eq_some.mp hr))
    exact ⟨rfl, rfl⟩
  | some found =>
    obtain ⟨j, r'⟩ := found
    obtain ⟨hr', hp⟩ := Dict.find?_some hfound
    obtain ⟨hmerchant, hkey⟩ := of_decide_eq_true hp
    obtain rfl := h.unique hr' hr hmerchant hkey
    rw [hr] at hr'
    cases hr'
    rfl

theorem Db.RefundsHashed.kept {env : Deployment} {d d' : Db} (h : d.RefundsHashed env) (hrefunds : d'.refunds = d.refunds)
    (hclaims : Dict.Grows AfterSale.Follows (fun _ => True) d.afterSales d'.afterSales) : d'.RefundsHashed env where
  hashed := by
    intro id r hr
    rw [hrefunds] at hr
    obtain ⟨hgiven, c, hc, hhash⟩ := h.hashed hr
    obtain ⟨c', hc', hfollows⟩ := hclaims.kept _ c hc
    refine ⟨hgiven, c', hc', ?_⟩
    rw [hfollows.afterSaleNo]
    exact hhash
  unique := by
    intro i j r r' hr hr'
    rw [hrefunds] at hr hr'
    exact h.unique hr hr'

/-- A new refund keeps the hash of its request. -/
theorem Db.RefundsHashed.posted {env : Deployment} {principal : Principal} {request : RefundRequest} {now : Time}
    {refundId : Nat} {rows : RefundRows} {split : RefundSplit} {d d' : Db} (h : d.RefundsHashed env)
    (hfree : d.refunds.get? refundId = none) (hgiven : request.idempotencyKey ≠ "")
    (hposted : RefundPosted principal request (requestHashForRefund env request) now refundId rows split d d') :
    d'.RefundsHashed env := by
  have hunused : ∀ {k : Nat} {r : Refund}, d.refunds.get? k = some r → r.merchantId = rows.claim.merchantId →
      r.idempotencyKey ≠ request.idempotencyKey := by
    intro k r hr hmerchant hkey
    refine Dict.find?_none.mp hposted.unused (k, r) (Dict.get?_eq_some.mp hr) (decide_eq_true ?_)
    exact ⟨hmerchant, hkey⟩
  have hnumber := hposted.locks.number
  have hclaim := hposted.locks.claim
  obtain ⟨hwithin, -⟩ := validateCaps_eq_ok hposted.caps
  have hfollows := refundedBy_follows hwithin.positive hposted.locks.approved now
  obtain ⟨movements, inventories, outbox, -, -, rfl⟩ := hposted.effects
  constructor
  · intro id r hr
    by_cases hid : id = refundId
    · subst hid
      obtain rfl := Option.some.inj ((Dict.get?_set_self _ _ _).symm.trans hr)
      refine ⟨hgiven, rows.claim.refundedBy request.amount now rows.claim, ?_, ?_⟩
      · show (d.afterSales.modify rows.claimId _).get? rows.claimId = _
        rw [Dict.get?_modify_self, hclaim]
        rfl
      · rw [hfollows.afterSaleNo, hnumber]
        rfl
    · obtain ⟨hkey, c, hc, hhash⟩ := h.hashed ((Dict.get?_set_ne hid _).symm.trans hr)
      have hrow : (d.afterSales.modify rows.claimId (rows.claim.refundedBy request.amount now)).get? r.afterSaleId =
          some (if r.afterSaleId = rows.claimId then rows.claim.refundedBy request.amount now c else c) := by
        rw [Dict.get?_modify, hc]
        split_ifs <;> rfl
      refine ⟨hkey, _, hrow, ?_⟩
      split_ifs with hsame
      · rw [hsame, hclaim] at hc
        cases hc
        rw [hfollows.afterSaleNo]
        exact hhash
      · exact hhash
  · intro i j r r' hr hr' hmerchant hkey
    by_cases hi : i = refundId
    · by_cases hj : j = refundId
      · rw [hi, hj]
      · subst hi
        obtain rfl := Option.some.inj ((Dict.get?_set_self _ _ _).symm.trans hr)
        exact absurd hkey.symm (hunused ((Dict.get?_set_ne hj _).symm.trans hr') hmerchant.symm)
    · have hold := (Dict.get?_set_ne hi _).symm.trans hr
      by_cases hj : j = refundId
      · subst hj
        obtain rfl := Option.some.inj ((Dict.get?_set_self _ _ _).symm.trans hr')
        exact absurd hkey (hunused hold hmerchant)
      · exact h.unique hold ((Dict.get?_set_ne hj _).symm.trans hr') hmerchant hkey

theorem Db.RefundsHashed.effect {env : Deployment} {next next' : Nat} {d d' : Db} {op : AfterSaleOp}
    (h : d.RefundsHashed env) (hfresh : d.FreshFrom next) (heffect : AfterSaleEffect env next d op next' d') :
    d'.RefundsHashed env := by
  have hclaims := heffect.claims hfresh
  cases heffect with
  | applied _ _ => exact h.kept rfl hclaims
  | cancelled answered =>
    refine h.kept ?_ hclaims
    obtain ⟨id, c, -, -, -, -, rfl⟩ := answered
    rfl
  | approved answered =>
    refine h.kept ?_ hclaims
    obtain ⟨id, c, -, -, -, -, rfl⟩ := answered
    rfl
  | rejected answered =>
    refine h.kept ?_ hclaims
    obtain ⟨id, c, -, -, -, -, rfl⟩ := answered
    rfl
  | refunded given posted => exact h.posted (hfresh next le_rfl).refunds given posted

/-- The shop's claims are well formed, and its refunds keep their hashes. -/
structure Shop.RefundsHashed (env : Deployment) (s : Shop) : Prop extends s.Claimed where
  hashed : s.db.RefundsHashed env

theorem refundsHashed_keeps (env : Deployment) : AfterSaleKeeps env (fun _ _ => True) (Shop.RefundsHashed env) where
  distinct h := h.claimed.linesDistinct
  drawn h hle := ⟨(claimed_keeps env).drawn h.toClaimed hle, h.hashed⟩
  effect h hok heffect := ⟨(claimed_keeps env).effect h.toClaimed hok heffect, h.hashed.effect h.fresh heffect⟩

theorem Shop.NoClaims.refundsHashed (env : Deployment) {s : Shop} (h : s.NoClaims) : s.RefundsHashed env where
  toClaimed := h.claimed
  hashed := by
    constructor
    · intro id r hr
      rw [h.refunds] at hr
      cases hr
    · intro i j r r' hr
      rw [h.refunds] at hr
      cases hr

/-! ## What is hashed -/

theorem refundText_eq (q : RefundRequest) :
    (refundText q).toList = "after_sale_no=".toList ++ q.afterSaleNo.toList ++ '|' ::
      ("amount=".toList ++ (toString q.amount).toList ++ '|' ::
        ("reason=".toList ++ (q.reason.getD "").toList ++ '|' :: ("key=".toList ++ q.idempotencyKey.toList))) := by
  have hjoined : refundText q = "after_sale_no=" ++ q.afterSaleNo ++ "|" ++ ("amount=" ++ toString q.amount) ++ "|" ++
      ("reason=" ++ q.reason.getD "") ++ "|" ++ ("key=" ++ q.idempotencyKey) := rfl
  rw [hjoined]
  simp only [String.toList_append, List.append_assoc]
  rfl

theorem bar_not_mem_decimal (n : Nat) : '|' ∉ Digits.decimal n := by
  intro h
  have hdigit := Nat.isDigit_of_mem_toDigits (by decide) (by decide) h
  revert hdigit
  decide

/-- Claim numbers without a bar and positive amounts can be read off the text that is hashed, and so can the reason, but
for its absence. -/
theorem refundText_inj {q q' : RefundRequest} (hno : '|' ∉ q.afterSaleNo.toList) (hno' : '|' ∉ q'.afterSaleNo.toList)
    (hpos : 0 < q.amount) (hpos' : 0 < q'.amount) (hkey : q.idempotencyKey = q'.idempotencyKey)
    (h : refundText q = refundText q') :
    q.afterSaleNo = q'.afterSaleNo ∧ q.amount = q'.amount ∧ q.reason.getD "" = q'.reason.getD "" := by
  have hlist := congrArg String.toList h
  rw [refundText_eq, refundText_eq, hkey] at hlist
  obtain ⟨n, hn⟩ := Int.eq_ofNat_of_zero_le hpos.le
  obtain ⟨n', hn'⟩ := Int.eq_ofNat_of_zero_le hpos'.le
  have hdecimal : ∀ m : Nat, (toString (m : Int)).toList = Digits.decimal m := Digits.toList_toString
  have hhead : ∀ {cs : List Char}, '|' ∉ cs → '|' ∉ "after_sale_no=".toList ++ cs := by
    intro cs hcs
    simpa using hcs
  have hamount : ∀ m : Nat, '|' ∉ "amount=".toList ++ Digits.decimal m := by
    intro m
    simpa using bar_not_mem_decimal m
  rw [hn, hn', hdecimal, hdecimal] at hlist
  obtain ⟨hnumber, hrest⟩ := Digits.cut_first (hhead hno) (hhead hno') hlist
  obtain ⟨hdigits, hrest⟩ := Digits.cut_first (hamount n) (hamount n') hrest
  have hnumber := String.toList_injective (List.append_cancel_left hnumber)
  have hdigits := Digits.decimal_injective (List.append_cancel_left hdigits)
  have hreason := List.append_cancel_right hrest
  refine ⟨hnumber, by rw [hn, hn', hdigits], String.toList_injective (List.append_cancel_left hreason)⟩

/-! ## What a key answers -/

/-- A merchant's key answers the request it was used for with its refund, refuses the others, and changes nothing. -/
structure Shop.AnswersRetry (env : Deployment) (s : Shop) (principal : Principal) (request original : RefundRequest)
    (now : Time) (id : Nat) (r : Refund) : Prop where
  only : ∀ j r', s.db.refunds.get? j = some r' → r'.merchantId = r.merchantId → r'.idempotencyKey = r.idempotencyKey → j = id
  same : request = original → (executeRefund env principal request now).run (Exec.start s.db s.next) =
    (.ok { refundId := id, refund := r, replayed := true }, Exec.start s.db s.next)
  other : request ≠ original → ∃ e : AppError, (executeRefund env principal request now).run (Exec.start s.db s.next) =
    (.error e, Exec.start s.db s.next) ∧ e.kind = .refundAlreadyCompleted

theorem replayRefund_same {request : RefundRequest} {requestHash : String} {id : Nat} {r : Refund}
    (h : r.requestHash = requestHash) :
    replayRefund request requestHash (id, r) = .ok { refundId := id, refund := r, replayed := true } := by
  unfold replayRefund
  rw [Raise.raiseIf, if_neg (not_not.mpr h)]
  rfl

theorem replayRefund_other (request : RefundRequest) {requestHash : String} (id : Nat) {r : Refund}
    (h : r.requestHash ≠ requestHash) :
    ∃ e : AppError, replayRefund request requestHash (id, r) = .error e ∧ e.kind = .refundAlreadyCompleted := by
  unfold replayRefund
  rw [Raise.raiseIf, if_pos h]
  exact ⟨_, rfl, rfl⟩

/-- Under a used key, a refund request is only compared with the hash that is stored. -/
theorem executeRefund_used (env : Deployment) {principal : Principal} {request : RefundRequest} (now : Time) (e : Exec Db)
    {merchantId id : Nat} {r : Refund} (permitted : principal.requirePermission "refund:execute" = .ok ())
    (staff : principal.merchantFilter = .ok merchantId) (given : request.idempotencyKey ≠ "") (positive : 0 < request.amount)
    (hused : e.view.refundByKey merchantId request.idempotencyKey = some (id, r)) :
    (executeRefund env principal request now).run e =
      (replayRefund request (requestHashForRefund env request) (id, r), e) := by
  unfold executeRefund
  rw [run_bind, run_ofExcept, permitted, andThen_ok, run_bind, run_raiseIf_neg given, andThen_ok, run_bind,
    run_raiseIf_neg (not_le.mpr positive), andThen_ok, run_bind, run_ofExcept, staff, andThen_ok, run_bind, run_query,
    andThen_ok, hused]
  exact run_ofExcept _ _

/-- After every run, the key of a refund answers that refund's request, and refuses every other one, exactly when the other
requests are hashed to something else. -/
theorem refund_replays_iff (env : Deployment) {s : Shop} (opened : s.NoClaims) (ops : List (AfterSaleOp × Nat)) {id : Nat}
    {r : Refund} {c : AfterSale} (hr : (s.runAfterSales env ops).db.refunds.get? id = some r)
    (hc : (s.runAfterSales env ops).db.afterSales.get? r.afterSaleId = some c) {principal : Principal}
    (permitted : principal.requirePermission "refund:execute" = .ok ()) (staff : principal.merchantFilter = .ok r.merchantId)
    {request : RefundRequest} (reuses : request.idempotencyKey = r.idempotencyKey) (positive : 0 < request.amount)
    (now : Time) :
    (s.runAfterSales env ops).AnswersRetry env principal request (r.request c.afterSaleNo) now id r ↔
      (requestHashForRefund env request = requestHashForRefund env (r.request c.afterSaleNo) →
        request = r.request c.afterSaleNo) := by
  have hkept := ((refundsHashed_keeps env).run (opened.refundsHashed env) ops).hashed
  generalize s.runAfterSales env ops = t at hr hc hkept ⊢
  obtain ⟨hgiven, c', hc', hhash⟩ := hkept.hashed hr
  obtain rfl := Option.some.inj (hc.symm.trans hc')
  have hused := hkept.refundByKey hr
  rw [← reuses] at hgiven hused
  have hrun := executeRefund_used env now (Exec.start t.db t.next) permitted staff hgiven positive hused
  rw [← hhash]
  constructor
  · intro hanswers hsame
    by_contra hother
    obtain ⟨e, hrefused, -⟩ := hanswers.other hother
    rw [hrun, replayRefund_same hsame.symm] at hrefused
    cases hrefused
  · intro hcondition
    refine ⟨fun j r' hr' hmerchant hkey => hkept.unique hr' hr hmerchant hkey, fun hsame => ?_, fun hother => ?_⟩
    · have hstored : r.requestHash = requestHashForRefund env request := by rw [hhash, hsame]
      rw [hrun, replayRefund_same hstored]
    · have hdiffers : r.requestHash ≠ requestHashForRefund env request := fun heq => hother (hcondition heq.symm)
      obtain ⟨e, hrefused, hkind⟩ := replayRefund_other request id hdiffers
      exact ⟨e, by rw [hrun, hrefused], hkind⟩

/-- What the reviewer sends again. -/
def sampleRefund : RefundRequest := { afterSaleNo := "NVAS20240101000011", amount := 1000, idempotencyKey := "refund" }

/-- The refund of the buyer's return is answered again. -/
theorem refund_replays_paidShop :
    ∃ r c, (paidShop.runAfterSales afterSaleDeployment sampleReturnRun).AnswersRetry afterSaleDeployment sampleReviewer
      sampleRefund (Refund.request r c) sampleMorning.time 14 r := by
  have hstored : (((paidShop.runAfterSales afterSaleDeployment sampleReturnRun).db.refunds.get? 14).bind fun r =>
      ((paidShop.runAfterSales afterSaleDeployment sampleReturnRun).db.afterSales.get? r.afterSaleId).map fun c =>
        decide (r.merchantId = 1 ∧ r.idempotencyKey = "refund" ∧ sampleRefund = r.request c.afterSaleNo)) = some true := by
    decide +kernel
  obtain ⟨r, hr, hstored⟩ := Option.bind_eq_some_iff.mp hstored
  obtain ⟨c, hc, hstored⟩ := Option.map_eq_some_iff.mp hstored
  obtain ⟨hmerchant, hkey, hsame⟩ := of_decide_eq_true hstored
  have hstaff : sampleReviewer.merchantFilter = .ok r.merchantId := by
    rw [hmerchant]
    rfl
  exact ⟨r, c.afterSaleNo, (refund_replays_iff afterSaleDeployment paidShop_noClaims sampleReturnRun hr hc rfl hstaff
    hkey.symm (by decide) sampleMorning.time).mpr fun _ => hsame⟩

/-- The buyer returns everything, and is paid a little of it back for a strange reason. -/
def sampleStrangeRun : List (AfterSaleOp × Nat) := [
  (.applyAfterSale sampleBuyer sampleReturn "return" sampleMorning, 1000),
  (.approveAfterSale sampleReviewer "NVAS20240101000011" { approvedAmount := 1000, positive := sampleAmount_pos } sampleMorning, 1000),
  (.executeRefund sampleReviewer
    { afterSaleNo := "NVAS20240101000011", amount := 100, reason := some "x|amount=5000|reason=y", idempotencyKey := "refund" }
    sampleMorning, 1000)]

/-- Another number, another amount and another reason that are joined to the same text. -/
def sampleStrangeRefund : RefundRequest where
  afterSaleNo := "NVAS20240101000011|amount=100|reason=x"
  amount := 5000
  reason := some "y"
  idempotencyKey := "refund"

/-- The key of the refund of 100 answers a request for 5000. -/
theorem refund_replays_other :
    ¬ ∀ (env : Deployment) (s : Shop), s.NoClaims → ∀ (ops : List (AfterSaleOp × Nat)) (id : Nat) (r : Refund) (c : AfterSale),
      (s.runAfterSales env ops).db.refunds.get? id = some r →
      (s.runAfterSales env ops).db.afterSales.get? r.afterSaleId = some c → ∀ principal : Principal,
      principal.requirePermission "refund:execute" = .ok () → principal.merchantFilter = .ok r.merchantId →
      ∀ request : RefundRequest, request.idempotencyKey = r.idempotencyKey → 0 < request.amount → ∀ now,
      (s.runAfterSales env ops).AnswersRetry env principal request (r.request c.afterSaleNo) now id r := by
  intro h
  have hstored : (((paidShop.runAfterSales afterSaleDeployment sampleStrangeRun).db.refunds.get? 14).bind fun r =>
      ((paidShop.runAfterSales afterSaleDeployment sampleStrangeRun).db.afterSales.get? r.afterSaleId).map fun c =>
        decide (r.merchantId = 1 ∧ r.idempotencyKey = "refund" ∧ sampleStrangeRefund ≠ r.request c.afterSaleNo)) =
      some true := by decide +kernel
  have hreplayed : ((executeRefund afterSaleDeployment sampleReviewer sampleStrangeRefund sampleMorning.time).run
      (Exec.start (paidShop.runAfterSales afterSaleDeployment sampleStrangeRun).db
        (paidShop.runAfterSales afterSaleDeployment sampleStrangeRun).next)).1.toOption.isSome = true := by decide +kernel
  obtain ⟨r, hr, hstored⟩ := Option.bind_eq_some_iff.mp hstored
  obtain ⟨c, hc, hstored⟩ := Option.map_eq_some_iff.mp hstored
  obtain ⟨hmerchant, hkey, hother⟩ := of_decide_eq_true hstored
  have hstaff : sampleReviewer.merchantFilter = .ok r.merchantId := by
    rw [hmerchant]
    rfl
  have hanswers := h afterSaleDeployment paidShop paidShop_noClaims sampleStrangeRun 14 r c hr hc sampleReviewer rfl hstaff
    sampleStrangeRefund hkey.symm (by decide) sampleMorning.time
  obtain ⟨e, hrefused, -⟩ := hanswers.other hother
  rw [hrefused] at hreplayed
  cases hreplayed

end NovaCommerce
