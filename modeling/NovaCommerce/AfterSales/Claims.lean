import NovaCommerce.AfterSales.Runs

/-!
# Claims of a run

* `ClaimFiled.row` : what every line of a filed claim keeps to;
* `Db.Claimed` : claims and their lines are well formed, and no refunded claim is withdrawn; every effect keeps it
  (`Claimed.effect`);
* `AfterSaleKeeps` : a condition that every effect keeps, every run keeps (`AfterSaleKeeps.run`);
* `Shop.NoClaims` : a shop that had no claim yet; its runs keep `Shop.Claimed`.
-/

namespace NovaCommerce

open Sql

/-! ## The lines of an application -/

theorem claimLines_perm (request : ApplyAfterSaleRequest) :
    request.claimLines.Perm (mergeClaimLines request.items).entries := List.perm_insertionSort _ _

theorem claimLines_nodup (request : ApplyAfterSaleRequest) : (request.claimLines.map Prod.fst).Nodup := by
  rw [((claimLines_perm request).map Prod.fst).nodup_iff]
  exact (mergeClaimLines request.items).nodup

/-- Merged quantities are positive. -/
theorem claimLines_positive (request : ApplyAfterSaleRequest) : ∀ line ∈ request.claimLines, 0 < line.2 := by
  have hmerged : ∀ (items : List ApplyAfterSaleItem) (merged : Dict Nat Int), (∀ line ∈ items, 0 < line.quantity) →
      (∀ e ∈ merged.entries, 0 < e.2) → ∀ e ∈ (items.foldl (fun merged line =>
        merged.set line.orderItemId ((merged.get? line.orderItemId).getD 0 + line.quantity)) merged).entries, 0 < e.2 := by
    intro items
    induction items with
    | nil => exact fun _ _ h => h
    | cons line items ih =>
      intro merged hitems hpos
      refine ih _ (fun l hl => hitems l (List.mem_cons_of_mem _ hl)) fun e he => ?_
      have hline := hitems line List.mem_cons_self
      rcases Dict.mem_set.mp he with rfl | ⟨hold, -⟩
      · cases hq : merged.get? line.orderItemId with
        | none =>
          show 0 < (none : Option Int).getD 0 + line.quantity
          simpa using hline
        | some q =>
          have hq' := hpos _ (Dict.get?_eq_some.mp hq)
          show 0 < (some q).getD 0 + line.quantity
          simp only [Option.getD_some]
          omega
      · exact hpos e hold
  intro line hline
  have hentries := (claimLines_perm request).mem_iff.mp hline
  exact hmerged request.items Dict.empty (fun l hl => (request.quantities l hl).1) (fun e he => nomatch he) line hentries

theorem rowOf_map {α β : Type} (rows : List (Nat × α)) (f : Nat → α → β) (id : Nat) :
    rowOf (rows.map fun e => (e.1, f e.1 e.2)) id = (rowOf rows id).map (f id) := by
  induction rows with
  | nil => rfl
  | cons e rows ih =>
    unfold rowOf at ih ⊢
    rw [List.map_cons]
    by_cases h : e.1 = id
    · rw [List.find?_cons_of_pos (by simpa using h), List.find?_cons_of_pos (by simpa using h)]
      subst h
      rfl
    · rw [List.find?_cons_of_neg (by simpa using h), List.find?_cons_of_neg (by simpa using h)]
      exact ih

/-- What an accepted claim asks of a line is still there to be claimed. -/
theorem checkClaim_units {order : Order} {items : List (Nat × OrderItem)} {claimed : Nat → Int}
    {lines : List (Nat × Int)} {amount : Int} {verdict : ClaimEligibility}
    (he : eligibility order items claimed lines = .ok verdict) (hc : checkClaim amount lines verdict = .ok ())
    {line : Nat × Int} (hline : line ∈ lines) {item : OrderItem} (hitem : rowOf items line.1 = some item) :
    line.2 ≤ item.remainingUnits (claimed line.1) := by
  unfold eligibility at he
  simp only [Raise.bind_eq_ok, Raise.raiseIf_eq_ok] at he
  obtain ⟨_, -, _, -, _, -, _, -, he⟩ := he
  cases he
  unfold checkClaim at hc
  simp only [Raise.bind_eq_ok] at hc
  obtain ⟨_, hunits, -⟩ := hc
  have hle := not_lt.mp (Raise.raiseIf_eq_ok.mp (Raise.forEach_eq_ok.mp hunits line hline))
  rw [rowOf_map items (fun id item => item.remainingUnits (claimed id)), hitem] at hle
  exact hle

/-- What a line of a filed claim says, and what it was checked against. -/
structure FiledRow (d : Db) (claimId orderId : Nat) (row : AfterSaleItem) : Prop where
  claim : row.afterSaleId = claimId
  positive : 0 < row.quantity
  line : ∃ item, d.orderItems.get? row.orderItemId = some item ∧ item.orderId = orderId ∧
    d.liveClaimedQuantity orderId row.orderItemId + row.quantity ≤ item.quantity

theorem ClaimFiled.row {principal : Principal} {request : ApplyAfterSaleRequest} {key : String} {next : Nat} {d : Db}
    {orderId : Nat} {order : Order} {rows : List AfterSaleItem}
    (h : ClaimFiled principal request key next d orderId order rows) {row : AfterSaleItem} (hrow : row ∈ rows) :
    FiledRow d (next + 1) orderId row := by
  obtain ⟨n, hn, rfl⟩ := List.mem_iff_getElem.mp hrow
  have hlength : n < request.claimLines.length := by
    rw [h.rows.length_eq]
    exact hn
  have hmade := h.rows.get hlength hn
  have hline : request.claimLines.get ⟨n, hlength⟩ ∈ request.claimLines := List.get_mem _ _
  generalize request.claimLines.get ⟨n, hlength⟩ = line at hmade hline
  obtain ⟨item, hitem, heq⟩ := Option.map_eq_some_iff.mp hmade
  have hrow : rows[n] = _ := heq.symm
  rw [hrow]
  obtain ⟨verdict, hverdict, hchecked⟩ := h.accepted
  have hpos := claimLines_positive request line hline
  have hle := checkClaim_units hverdict hchecked hline hitem
  obtain ⟨hget, hof⟩ := rowOf_itemsFor hitem
  refine ⟨rfl, hpos, item, hget, hof, ?_⟩
  show d.liveClaimedQuantity orderId line.1 + line.2 ≤ item.quantity
  unfold OrderItem.remainingUnits at hle
  omega

/-- The lines of the rows, in their order. -/
theorem ClaimFiled.map_orderItemId {principal : Principal} {request : ApplyAfterSaleRequest} {key : String} {next : Nat}
    {d : Db} {orderId : Nat} {order : Order} {rows : List AfterSaleItem}
    (h : ClaimFiled principal request key next d orderId order rows) :
    rows.map AfterSaleItem.orderItemId = request.claimLines.map Prod.fst := by
  have hrows := h.rows
  clear h
  generalize request.claimLines = lines at hrows ⊢
  induction hrows with
  | nil => rfl
  | cons hmade _ ih =>
    obtain ⟨item, -, rfl⟩ := Option.map_eq_some_iff.mp hmade
    rw [List.map_cons, List.map_cons, ih]

/-! ## Runs -/

/-- Every session of a list meets a condition on the database it begins on. -/
def Shop.MeetsAfterSales (env : Deployment) (ok : AfterSaleOp → Db → Prop) : List (AfterSaleOp × Nat) → Shop → Prop
  | [], _ => True
  | (op, n) :: ops, s => ok op s.db ∧ Shop.MeetsAfterSales env ok ops (s.afterSale env op n)

/-- A condition on the shop that every effect keeps, of sessions that meet another. -/
structure AfterSaleKeeps (env : Deployment) (ok : AfterSaleOp → Db → Prop) (I : Shop → Prop) : Prop where
  distinct : ∀ {s : Shop}, I s → s.db.ClaimLinesDistinct
  drawn : ∀ {s : Shop} {next : Nat}, I s → s.next ≤ next → I ⟨s.db, next⟩
  effect : ∀ {s : Shop} {op : AfterSaleOp} {next : Nat} {d : Db}, I s → ok op s.db →
    AfterSaleEffect env s.next s.db op next d → I ⟨d, next⟩

theorem AfterSaleKeeps.step {env : Deployment} {ok : AfterSaleOp → Db → Prop} {I : Shop → Prop}
    (h : AfterSaleKeeps env ok I) {s : Shop} (hs : I s) (op : AfterSaleOp) (hok : ok op s.db) (n : Nat) :
    I (s.afterSale env op n) := by
  rcases afterSale_effect (h.distinct hs) op n with ⟨hsame, hle⟩ | ⟨next, hle, heffect⟩
  · have hdrawn := h.drawn hs hle
    rwa [← hsame] at hdrawn
  · exact h.drawn (h.effect hs hok heffect) hle

theorem AfterSaleKeeps.runMeeting {env : Deployment} {ok : AfterSaleOp → Db → Prop} {I : Shop → Prop}
    (h : AfterSaleKeeps env ok I) : ∀ {ops : List (AfterSaleOp × Nat)} {s : Shop}, I s →
      Shop.MeetsAfterSales env ok ops s → I (s.runAfterSales env ops) := by
  intro ops
  induction ops with
  | nil => exact fun hs _ => hs
  | cons step ops ih => exact fun hs hmeets => ih (h.step hs step.1 hmeets.1 step.2) hmeets.2

/-- What every effect keeps, every run keeps. -/
theorem AfterSaleKeeps.run {env : Deployment} {I : Shop → Prop} (h : AfterSaleKeeps env (fun _ _ => True) I)
    {s : Shop} (hs : I s) (ops : List (AfterSaleOp × Nat)) : I (s.runAfterSales env ops) := by
  induction ops generalizing s with
  | nil => exact hs
  | cons step ops ih => exact ih (h.step hs step.1 trivial step.2)

/-! ## Claims and their lines -/

/-- Claims and their lines are well formed. -/
structure Db.Claimed (d : Db) : Prop where
  numbered : ∀ {id : Nat} {c : AfterSale}, d.afterSales.get? id = some c →
    ∃ t, t ≤ maxTime ∧ c.afterSaleNo = afterSaleNoFor id t
  items : ∀ {i : Nat} {row : AfterSaleItem}, d.afterSaleItems.get? i = some row → 0 < row.quantity ∧
    ∃ c item, d.afterSales.get? row.afterSaleId = some c ∧ d.orderItems.get? row.orderItemId = some item ∧
      item.orderId = c.orderId
  distinct : ∀ {i j : Nat} {row row' : AfterSaleItem}, d.afterSaleItems.get? i = some row →
    d.afterSaleItems.get? j = some row' → row.afterSaleId = row'.afterSaleId → row.orderItemId = row'.orderItemId → i = j
  refunded : ∀ {id : Nat} {c : AfterSale}, d.afterSales.get? id = some c → 0 ≤ c.refundedAmount ∧
    (0 < c.refundedAmount → c.claimStatus = .approved ∨ c.claimStatus = .completed)

/-- A claim number names one claim. -/
theorem Db.Claimed.number_inj {d : Db} (h : d.Claimed) {i j : Nat} {c c' : AfterSale} (hc : d.afterSales.get? i = some c)
    (hc' : d.afterSales.get? j = some c') (hno : c.afterSaleNo = c'.afterSaleNo) : i = j := by
  obtain ⟨s, hs, hi⟩ := h.numbered hc
  obtain ⟨t, ht, hj⟩ := h.numbered hc'
  rw [hi, hj] at hno
  exact businessNo_injective hs ht hno

theorem claimItems_perm (d : Db) (claimId : Nat) :
    (d.claimItems claimId).Perm (d.afterSaleItems.select fun row => row.afterSaleId = claimId) :=
  List.perm_insertionSort _ _

theorem mem_claimItems {d : Db} {claimId i : Nat} {row : AfterSaleItem} :
    (i, row) ∈ d.claimItems claimId ↔ d.afterSaleItems.get? i = some row ∧ row.afterSaleId = claimId := by
  rw [(claimItems_perm d claimId).mem_iff, Dict.mem_select, decide_eq_true_eq]

theorem Db.Claimed.linesDistinct {d : Db} (h : d.Claimed) : d.ClaimLinesDistinct := by
  intro claimId
  unfold Db.claimLines
  rw [List.map_map]
  have hkeys : ((d.claimItems claimId).map Prod.fst).Nodup := by
    rw [((claimItems_perm d claimId).map Prod.fst).nodup_iff]
    exact d.afterSaleItems.nodup.sublist (List.filter_sublist.map Prod.fst)
  refine List.Nodup.map_on ?_ (List.Nodup.of_map Prod.fst hkeys)
  rintro ⟨i, row⟩ hi ⟨j, row'⟩ hj hline
  obtain ⟨hrow, hclaim⟩ := mem_claimItems.mp hi
  obtain ⟨hrow', hclaim'⟩ := mem_claimItems.mp hj
  obtain rfl := h.distinct hrow hrow' (hclaim.trans hclaim'.symm) hline
  rw [hrow] at hrow'
  cases hrow'
  rfl

/-! ## What keeps the claims -/

/-- Filing a claim keeps them. -/
theorem Db.Claimed.filed {principal : Principal} {request : ApplyAfterSaleRequest} {key requestHash : String} {next : Nat}
    {d : Db} {orderId : Nat} {order : Order} {rows : List AfterSaleItem} (hd : d.Claimed) (hfresh : d.FreshFrom next)
    (h : ClaimFiled principal request key next d orderId order rows) (now : Moment) :
    (d.filed request key requestHash orderId order rows next now.time).Claimed where
  numbered := by
    intro id c hc
    by_cases hid : id = next + 1
    · subst hid
      obtain rfl := Option.some.inj ((Dict.get?_set_self _ _ _).symm.trans hc)
      exact ⟨now.time, now.le, rfl⟩
    · exact hd.numbered ((Dict.get?_set_ne hid _).symm.trans hc)
  items := by
    intro i row hrow
    rcases Dict.get?_setFrom_origin hrow with ⟨-, hold⟩ | ⟨n, -, hn⟩
    · obtain ⟨hpos, c, item, hc, hitem, hof⟩ := hd.items hold
      refine ⟨hpos, c, item, ?_, hitem, hof⟩
      have hne : row.afterSaleId ≠ next + 1 := by
        intro heq
        rw [heq, (hfresh (next + 1) (Nat.le_succ _)).afterSales] at hc
        cases hc
      exact (Dict.get?_set_ne hne _).trans hc
    · obtain ⟨hclaim, hpos, item, hitem, hof, -⟩ := h.row (List.mem_of_getElem? hn)
      refine ⟨hpos, newClaim request key requestHash orderId order now.time (next + 1), item, ?_, hitem, hof⟩
      rw [hclaim]
      exact Dict.get?_set_self _ _ _
  distinct := by
    intro i j row row' hi hj hclaim hline
    have hnew : ∀ {k : Nat} {r : AfterSaleItem}, d.afterSaleItems.get? k = some r → r.afterSaleId ≠ next + 1 := by
      intro k r hr heq
      obtain ⟨-, c, item, hc, -⟩ := hd.items hr
      rw [heq, (hfresh (next + 1) (Nat.le_succ _)).afterSales] at hc
      cases hc
    rcases Dict.get?_setFrom_origin hi with ⟨-, hold⟩ | ⟨n, rfl, hn⟩
    · rcases Dict.get?_setFrom_origin hj with ⟨-, hold'⟩ | ⟨m, rfl, hm⟩
      · exact hd.distinct hold hold' hclaim hline
      · exact absurd (hclaim.trans (h.row (List.mem_of_getElem? hm)).claim) (hnew hold)
    · rcases Dict.get?_setFrom_origin hj with ⟨-, hold'⟩ | ⟨m, rfl, hm⟩
      · exact absurd (hclaim.symm.trans (h.row (List.mem_of_getElem? hn)).claim) (hnew hold')
      · have hnodup : (rows.map AfterSaleItem.orderItemId).Nodup := by
          rw [h.map_orderItemId]
          exact claimLines_nodup request
        have hlt : n < (rows.map AfterSaleItem.orderItemId).length := by
          rw [List.length_map]
          exact (List.getElem?_eq_some_iff.mp hn).1
        have hsame : (rows.map AfterSaleItem.orderItemId)[n]? = (rows.map AfterSaleItem.orderItemId)[m]? := by
          rw [List.getElem?_map, List.getElem?_map, hn, hm]
          exact congrArg some hline
        rw [(List.getElem?_inj hlt hnodup).mp hsame]
  refunded := by
    intro id c hc
    by_cases hid : id = next + 1
    · subst hid
      obtain rfl := Option.some.inj ((Dict.get?_set_self _ _ _).symm.trans hc)
      exact ⟨le_refl 0, fun h => absurd h (lt_irrefl 0)⟩
    · exact hd.refunded ((Dict.get?_set_ne hid _).symm.trans hc)

/-- What an answer leaves of a claim. -/
theorem Answer.refunded {c c' : AfterSale} (h : Answer c c') (hc : 0 ≤ c.refundedAmount ∧
    (0 < c.refundedAmount → c.claimStatus = .approved ∨ c.claimStatus = .completed)) :
    0 ≤ c'.refundedAmount ∧ (0 < c'.refundedAmount → c'.claimStatus = .approved ∨ c'.claimStatus = .completed) := by
  refine ⟨?_, fun hpos => ?_⟩
  · cases h with
    | cancelled _ => exact hc.1
    | approved _ _ _ _ => exact hc.1
    | rejected _ _ => exact hc.1
  · cases h with
    | cancelled pending =>
      have hstatus := hc.2 hpos
      rw [pending] at hstatus
      rcases hstatus with h | h <;> cases h
    | approved _ _ _ _ => exact .inl rfl
    | rejected _ unrefunded =>
      have hpos : 0 < c.refundedAmount := hpos
      omega

/-- What becomes of a claim. -/
structure AfterSale.Follows (c c' : AfterSale) : Prop where
  merchantId : c'.merchantId = c.merchantId
  afterSaleNo : c'.afterSaleNo = c.afterSaleNo
  orderId : c'.orderId = c.orderId
  userId : c'.userId = c.userId
  type : c'.type = c.type
  idempotencyKey : c'.idempotencyKey = c.idempotencyKey
  requestHash : c'.requestHash = c.requestHash
  refundedAmount : c.refundedAmount ≤ c'.refundedAmount
  live : c'.claimStatus ∈ liveClaimStatuses → c.claimStatus ∈ liveClaimStatuses

theorem AfterSale.Follows.refl (c : AfterSale) : c.Follows c := ⟨rfl, rfl, rfl, rfl, rfl, rfl, rfl, le_refl _, id⟩

theorem Answer.follows {c c' : AfterSale} (h : Answer c c') : c.Follows c' := by
  cases h with
  | cancelled pending =>
    refine ⟨rfl, rfl, rfl, rfl, rfl, rfl, rfl, le_refl _, fun _ => ?_⟩
    rw [pending]
    decide
  | approved unanswered _ _ _ =>
    refine ⟨rfl, rfl, rfl, rfl, rfl, rfl, rfl, le_refl _, fun _ => ?_⟩
    rcases unanswered with h | h
    · rw [h]
      decide
    · rw [h]
      decide
  | rejected _ _ =>
    refine ⟨rfl, rfl, rfl, rfl, rfl, rfl, rfl, le_refl _, fun h => ?_⟩
    have hdead : AfterSaleClaimStatus.rejected ∉ liveClaimStatuses := by decide
    exact absurd h hdead

/-- What a refund leaves of its claim. -/
theorem refundedBy_claim (held : AfterSale) (amount : Int) (now : Time) (row : AfterSale) :
    (held.refundedBy amount now row).refundedAmount = held.refundedAmount + amount ∧
      ((held.refundedBy amount now row).claimStatus = row.claimStatus ∨
        (held.refundedBy amount now row).claimStatus = .completed) := by
  unfold AfterSale.refundedBy
  dsimp only
  split_ifs
  · exact ⟨rfl, .inr rfl⟩
  · exact ⟨rfl, .inl rfl⟩

theorem refundedBy_follows {c : AfterSale} {amount : Int} (hpos : 0 < amount) (happroved : c.claimStatus = .approved)
    (now : Time) : c.Follows (c.refundedBy amount now c) := by
  have hlive : c.claimStatus ∈ liveClaimStatuses := by
    rw [happroved]
    decide
  unfold AfterSale.refundedBy
  dsimp only
  split_ifs
  · exact ⟨rfl, rfl, rfl, rfl, rfl, rfl, rfl, show c.refundedAmount ≤ c.refundedAmount + amount by omega, fun _ => hlive⟩
  · exact ⟨rfl, rfl, rfl, rfl, rfl, rfl, rfl, show c.refundedAmount ≤ c.refundedAmount + amount by omega, fun _ => hlive⟩

/-- Rewriting one claim keeps them. -/
theorem Db.Claimed.modified {d : Db} (hd : d.Claimed) {id : Nat} {c : AfterSale} {f : AfterSale → AfterSale}
    (hc : d.afterSales.get? id = some c) (hsame : c.Follows (f c))
    (hrefunded : 0 ≤ (f c).refundedAmount ∧
      (0 < (f c).refundedAmount → (f c).claimStatus = .approved ∨ (f c).claimStatus = .completed)) :
    ({ d with afterSales := d.afterSales.modify id f } : Db).Claimed where
  numbered := by
    intro i c' hc'
    by_cases hi : i = id
    · subst hi
      obtain rfl : f c = c' := by
        rw [Dict.get?_modify_self, hc] at hc'
        exact Option.some.inj hc'
      obtain ⟨t, ht, hno⟩ := hd.numbered hc
      exact ⟨t, ht, hsame.afterSaleNo.trans hno⟩
    · exact hd.numbered ((Dict.get?_modify_ne hi f).symm.trans hc')
  items := by
    intro i row hrow
    obtain ⟨hpos, c', item, hc', hitem, hof⟩ := hd.items hrow
    by_cases hi : row.afterSaleId = id
    · rw [hi, hc] at hc'
      cases hc'
      refine ⟨hpos, f c, item, ?_, hitem, hof.trans hsame.orderId.symm⟩
      rw [hi, Dict.get?_modify_self, hc]
      rfl
    · exact ⟨hpos, c', item, (Dict.get?_modify_ne hi f).trans hc', hitem, hof⟩
  distinct := hd.distinct
  refunded := by
    intro i c' hc'
    by_cases hi : i = id
    · subst hi
      obtain rfl : f c = c' := by
        rw [Dict.get?_modify_self, hc] at hc'
        exact Option.some.inj hc'
      exact hrefunded
    · exact hd.refunded ((Dict.get?_modify_ne hi f).symm.trans hc')

theorem Db.Claimed.answered {d d' : Db} (hd : d.Claimed) {afterSaleNo : String} {f : AfterSale → AfterSale}
    (h : Answered afterSaleNo f d d') : d'.Claimed := by
  obtain ⟨id, c, hc, -, hanswer, -, rfl⟩ := h
  exact hd.modified hc hanswer.follows (hanswer.refunded (hd.refunded hc))

theorem Db.Claimed.posted {principal : Principal} {request : RefundRequest} {requestHash : String} {now : Time}
    {refundId : Nat} {rows : RefundRows} {split : RefundSplit} {d d' : Db} (hd : d.Claimed)
    (h : RefundPosted principal request requestHash now refundId rows split d d') : d'.Claimed := by
  obtain ⟨hwithin, -⟩ := validateCaps_eq_ok h.caps
  obtain ⟨hrefunded, hstatus⟩ := refundedBy_claim rows.claim request.amount now rows.claim
  have hclaim := hd.refunded h.locks.claim
  have hpositive := hwithin.positive
  have hfollows := refundedBy_follows hpositive h.locks.approved now
  have hmodified := hd.modified h.locks.claim hfollows (by
    rw [h.locks.approved] at hstatus
    exact ⟨by omega, fun _ => hstatus⟩)
  obtain ⟨movements, inventories, outbox, -, -, rfl⟩ := h.effects
  refine ⟨hmodified.numbered, fun {i row} hrow => ?_, hmodified.distinct, hmodified.refunded⟩
  obtain ⟨hpos, c, item, hc, hitem, hof⟩ := hmodified.items hrow
  refine ⟨hpos, c, item.withShare (split.placed row.orderItemId), hc, ?_, hof⟩
  show (d.orderItems.adjust _).get? _ = _
  rw [Dict.get?_adjust]
  exact congrArg (Option.map _) hitem

theorem Db.Claimed.effect {env : Deployment} {next next' : Nat} {d d' : Db} {op : AfterSaleOp} (hd : d.Claimed)
    (hfresh : d.FreshFrom next) (h : AfterSaleEffect env next d op next' d') : d'.Claimed := by
  cases h with
  | applied _ filed => exact hd.filed hfresh filed _
  | cancelled answered => exact hd.answered answered
  | approved answered => exact hd.answered answered
  | rejected answered => exact hd.answered answered
  | refunded _ posted => exact hd.posted posted

/-- No claim goes, and claims change as `AfterSale.Follows` says. -/
theorem AfterSaleEffect.claims {env : Deployment} {next next' : Nat} {d d' : Db} {op : AfterSaleOp}
    (h : AfterSaleEffect env next d op next' d') (hfresh : d.FreshFrom next) :
    Dict.Grows AfterSale.Follows (fun _ => True) d.afterSales d'.afterSales := by
  have hanswered : ∀ {afterSaleNo : String} {f : AfterSale → AfterSale}, Answered afterSaleNo f d d' →
      Dict.Grows AfterSale.Follows (fun _ => True) d.afterSales d'.afterSales := by
    rintro afterSaleNo f ⟨id, c, hc, -, hanswer, -, rfl⟩
    refine Dict.grows_modify AfterSale.Follows.refl fun c' hc' => ?_
    rw [hc] at hc'
    cases hc'
    exact hanswer.follows
  cases h with
  | applied _ filed => exact Dict.grows_set AfterSale.Follows.refl (hfresh (next + 1) (Nat.le_succ _)).afterSales trivial
  | cancelled answered => exact hanswered answered
  | approved answered => exact hanswered answered
  | rejected answered => exact hanswered answered
  | refunded _ posted =>
    obtain ⟨hwithin, -⟩ := validateCaps_eq_ok posted.caps
    obtain ⟨movements, inventories, outbox, -, -, rfl⟩ := posted.effects
    refine Dict.grows_modify AfterSale.Follows.refl fun c' hc' => ?_
    rw [posted.locks.claim] at hc'
    cases hc'
    exact refundedBy_follows hwithin.positive posted.locks.approved _

/-- Claimed lines stay. -/
theorem AfterSaleEffect.items {env : Deployment} {next next' : Nat} {d d' : Db} {op : AfterSaleOp}
    (h : AfterSaleEffect env next d op next' d') (hfresh : d.FreshFrom next) {i : Nat} {row : AfterSaleItem}
    (hrow : d.afterSaleItems.get? i = some row) : d'.afterSaleItems.get? i = some row := by
  cases h with
  | applied _ filed =>
    have hlt : i < next + 2 := by
      by_contra hge
      rw [(hfresh i (by omega)).afterSaleItems] at hrow
      cases hrow
    exact (Dict.get?_setFrom_lt hlt).trans hrow
  | cancelled answered =>
    obtain ⟨id, c, -, -, -, -, rfl⟩ := answered
    exact hrow
  | approved answered =>
    obtain ⟨id, c, -, -, -, -, rfl⟩ := answered
    exact hrow
  | rejected answered =>
    obtain ⟨id, c, -, -, -, -, rfl⟩ := answered
    exact hrow
  | refunded _ posted =>
    obtain ⟨movements, inventories, outbox, -, -, rfl⟩ := posted.effects
    exact hrow

/-! ## Ids -/

/-- No effect uses an id that is still to be drawn. -/
theorem AfterSaleEffect.fresh {env : Deployment} {next next' : Nat} {d d' : Db} {op : AfterSaleOp}
    (h : AfterSaleEffect env next d op next' d') (hfresh : d.FreshFrom next) : d'.FreshFrom next' := by
  cases h with
  | @applied principal request key now orderId order rows given filed =>
    intro i hi
    have hfree := hfresh i (by omega)
    exact { hfree with
      afterSales := (Dict.get?_set_ne (by omega) _).trans hfree.afterSales
      afterSaleItems := (Dict.get?_setFrom_ge hi).trans hfree.afterSaleItems
      idempotency := (Dict.get?_set_ne (by omega) _).trans hfree.idempotency }
  | cancelled answered =>
    obtain ⟨id, c, -, -, -, -, rfl⟩ := answered
    exact fun i hi => { hfresh i hi with afterSales := Dict.get?_modify_none (hfresh i hi).afterSales _ _ }
  | approved answered =>
    obtain ⟨id, c, -, -, -, -, rfl⟩ := answered
    exact fun i hi => { hfresh i hi with afterSales := Dict.get?_modify_none (hfresh i hi).afterSales _ _ }
  | rejected answered =>
    obtain ⟨id, c, -, -, -, -, rfl⟩ := answered
    exact fun i hi => { hfresh i hi with afterSales := Dict.get?_modify_none (hfresh i hi).afterSales _ _ }
  | refunded _ posted =>
    obtain ⟨movements, inventories, outbox, -, -, rfl⟩ := posted.effects
    intro i hi
    have hfree := hfresh i (by omega)
    exact { hfree with
      refunds := (Dict.get?_set_ne (by omega) _).trans hfree.refunds
      payments := Dict.get?_modify_none hfree.payments _ _
      afterSales := Dict.get?_modify_none hfree.afterSales _ _
      orders := Dict.get?_modify_none hfree.orders _ _
      orderItems := by
        show (d.orderItems.adjust _).get? i = none
        rw [Dict.get?_adjust, hfree.orderItems]
        rfl }

/-- The shop's claims are well formed, and its ids are drawn in order. -/
structure Shop.Claimed (s : Shop) : Prop where
  fresh : s.db.FreshFrom s.next
  claimed : s.db.Claimed

theorem claimed_keeps (env : Deployment) : AfterSaleKeeps env (fun _ _ => True) Shop.Claimed where
  distinct h := h.claimed.linesDistinct
  drawn h hle := ⟨fun i hi => h.fresh i (hle.trans hi), h.claimed⟩
  effect h _ heffect := ⟨heffect.fresh h.fresh, h.claimed.effect h.fresh heffect⟩

/-- A shop whose customers filed no claim yet. -/
structure Shop.NoClaims (s : Shop) : Prop where
  fresh : s.db.FreshFrom s.next
  afterSales : s.db.afterSales = Dict.empty
  afterSaleItems : s.db.afterSaleItems = Dict.empty
  refunds : s.db.refunds = Dict.empty

theorem Shop.NoClaims.claimed {s : Shop} (h : s.NoClaims) : s.Claimed where
  fresh := h.fresh
  claimed := by
    refine ⟨fun hc => ?_, fun hrow => ?_, fun hrow => ?_, fun hc => ?_⟩
    · rw [h.afterSales] at hc
      cases hc
    · rw [h.afterSaleItems] at hrow
      cases hrow
    · rw [h.afterSaleItems] at hrow
      cases hrow
    · rw [h.afterSales] at hc
      cases hc

/-! ## A paid order -/

/-- An order of two cups and a plate that a promotion gave away, paid and delivered. -/
def paidShop : Shop where
  db := {
    orders := Dict.ofList [(1, {
      merchantId := 1
      userId := 1
      orderNo := "NV20240101000001"
      clientRequestId := "cups and a plate"
      requestHash := ""
      orderStatus := .completed
      paymentStatus := .paid
      originalAmount := 1700
      promotionDiscountAmount := 700
      payableAmount := 1000
      paidAmount := 1000 })]
    orderItems := Dict.ofList [
      (2, { orderId := 1, warehouseId := 1, productId := 1, skuId := 1, productName := "Cup", skuName := "Cup",
            unitPrice := 500, quantity := 2, originalAmount := 1000, payableAmount := 1000 }),
      (3, { orderId := 1, warehouseId := 1, productId := 2, skuId := 2, productName := "Plate", skuName := "Plate",
            unitPrice := 700, quantity := 1, originalAmount := 700, promotionDiscountAmount := 700, payableAmount := 0 })]
    payments := Dict.ofList [(4, {
      paymentNo := "NVPAY20240101000004"
      orderId := 1
      orderNo := "NV20240101000001"
      merchantId := 1
      userId := 1
      channel := "MOCK"
      amount := 1000
      status := .success
      idempotencyKey := "pay"
      clientRequestId := "pay"
      requestHash := ""
      paidAmount := 1000 })]
    warehouses := Dict.ofList [(1, { merchantId := 1, isDefault := true })]
    inventories := Dict.ofList [(1, { warehouseId := 1, skuId := 1, availableQty := 8, totalInQty := 10, totalOutQty := 2 }),
      (2, { warehouseId := 1, skuId := 2, availableQty := 9, totalInQty := 10, totalOutQty := 1 })] }
  next := 10

def sampleBuyer : Principal := { userId := 1, merchantId := none }

def sampleReviewer : Principal where
  userId := 2
  merchantId := some 1
  isStaff := true
  permissions := ["after_sale:review", "refund:execute"]

/-- New Year's morning. -/
def sampleMorning : Moment := { time := 1704096000000 }

theorem sampleAmount_pos : (0 : Int) < 1000 := by decide

theorem sampleHalf_pos : (0 : Int) < 500 := by decide

theorem sampleReason_given : "broken" ≠ "" := by decide

/-- The buyer returns everything. -/
def sampleReturn : ApplyAfterSaleRequest where
  orderNo := "NV20240101000001"
  type := .returnRefund
  items := [⟨2, 2⟩, ⟨3, 1⟩]
  requestedAmount := 1000
  reason := "unwanted"
  clientRequestId := "return"

/-- SHA-256 of the texts that are hashed in the runs below. -/
def afterSaleDigests : List (String × String) := [
  ("order_no=NV20240101000001|type=RETURN_REFUND|amount=1000|items=2:2;3:1",
    "65d19580764348290119243d1f70900d0f5216699b01cba58f1ecccb17c48bf9"),
  ("order_no=NV20240101000001|type=REFUND_ONLY|amount=1000|items=2:1",
    "eab04968cdb4bc6f3d20d056b048bee8da979e40ec1305d2ac2cf516a99f0abc"),
  ("order_no=NV20240101000001|type=REFUND_ONLY|amount=500|items=2:1",
    "2c14d9f3d92416fedd76ad42c39ea3e9e009ce0175ea894401c71d49880eb917"),
  ("after_sale_no=NVAS20240101000011|amount=1000|reason=|key=refund",
    "8a66a48a51619fcf35bec6284e55bcd8694e2b2443593359ee297af67b28ea4b"),
  ("after_sale_no=NVAS20240101000011|amount=100|reason=x|amount=5000|reason=y|key=refund",
    "85aaef41634164ecc518fe038426d0df3d1133193784517b134fd1319b784a64")]

/-- The default settings, with the digests of the requests that are sent. -/
def afterSaleDeployment : Deployment where
  settings := {}
  upperText := id
  lowerText := id
  isAlnumChar := fun _ => false
  sha256Hex := fun s => (afterSaleDigests.lookup s).getD ""
  hmacHex := fun _ _ => ""
  jsonLoads := fun _ => none

theorem paidShop_noClaims : paidShop.NoClaims where
  fresh i hi := by
    have hi : 10 ≤ i := hi
    have horders : i ∉ paidShop.db.orders.keys := by
      show i ∉ [1]
      simp
      omega
    have hitems : i ∉ paidShop.db.orderItems.keys := by
      show i ∉ [2, 3]
      simp
      omega
    have hpayments : i ∉ paidShop.db.payments.keys := by
      show i ∉ [4]
      simp
      omega
    exact ⟨Dict.get?_eq_none.mpr horders, Dict.get?_eq_none.mpr hitems, Dict.get?_eq_none.mpr hpayments, rfl, rfl, rfl, rfl,
      rfl, rfl, rfl, rfl⟩
  afterSales := rfl
  afterSaleItems := rfl
  refunds := rfl

/-- The buyer returns everything, and is paid back at once. -/
def sampleReturnRun : List (AfterSaleOp × Nat) := [
  (.applyAfterSale sampleBuyer sampleReturn "return" sampleMorning, 1000),
  (.approveAfterSale sampleReviewer "NVAS20240101000011" { approvedAmount := 1000 } sampleMorning, 1000),
  (.executeRefund sampleReviewer { afterSaleNo := "NVAS20240101000011", amount := 1000, idempotencyKey := "refund" }
    sampleMorning, 1000)]

end NovaCommerce
