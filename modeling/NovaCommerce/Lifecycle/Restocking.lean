import NovaCommerce.Lifecycle.Runs

/-!
# Units that come back, and units that are still to leave

* `creditedUnits_appended` : the units of a line that came back grow by what new movements return;
* `Db.RestocksShipped` : of every line at most what has left came back; every change of the shop keeps that
  (`Change.restocksShipped`), and a refund that pays only for units that have left (`AfterSaleOp.PaysForShipped`);
* `restocked_or_unshipped` : so no unit is both restocked and still to be shipped, over every life of the shop whose
  refunds are of this kind.
-/

namespace NovaCommerce

open Sql

/-! ## Units that came back -/

/-- Every movement that returns goods returns a claimed line. -/
def Db.AllCredited (d : Db) : Prop := d.Credited fun m => m.movementType = .returnIn

/-- The movement returns units of the line. -/
def Db.restocks (d : Db) (lineId : Nat) (m : InventoryMovement) : Bool :=
  d.afterSales.values.any fun c => decide (m.Credits c lineId)

theorem restocks_iff {d : Db} {lineId : Nat} {m : InventoryMovement} :
    d.restocks lineId m = true ↔ ∃ id c, d.afterSales.get? id = some c ∧ m.Credits c lineId := by
  unfold Db.restocks
  rw [List.any_eq_true]
  constructor
  · rintro ⟨c, hc, hcredits⟩
    obtain ⟨⟨id, c'⟩, he, rfl⟩ := List.mem_map.mp hc
    exact ⟨id, c', Dict.get?_eq_some.mpr he, of_decide_eq_true hcredits⟩
  · rintro ⟨id, c, hc, hcredits⟩
    exact ⟨c, List.mem_map_of_mem (f := Prod.snd) (Dict.get?_eq_some.mp hc), decide_eq_true hcredits⟩

/-- Claims keep their numbers, so a movement returns what it returned. -/
theorem restocks_kept {d d' : Db} (hc : d.AllCredited)
    (hclaims : Dict.Grows AfterSale.Follows (fun _ => True) d.afterSales d'.afterSales) {m : InventoryMovement}
    (hm : m ∈ d.movements) (lineId : Nat) : d'.restocks lineId m = d.restocks lineId m := by
  rw [Bool.eq_iff_iff, restocks_iff, restocks_iff]
  constructor
  · rintro ⟨id, c', -, htype, hkey⟩
    obtain ⟨i, row, -, hreturn⟩ := hc m hm htype
    obtain ⟨c, hclaim, -, -, hkey'⟩ := hreturn.claim
    obtain ⟨-, hline⟩ := returnInKey_inj (hkey'.symm.trans hkey)
    exact ⟨row.afterSaleId, c, hclaim, htype, by rw [hkey', hline]⟩
  · rintro ⟨id, c, hclaim, htype, hkey⟩
    obtain ⟨c', hclaim', hfollows⟩ := hclaims.kept id c hclaim
    exact ⟨id, c', hclaim', htype, by rw [hkey, hfollows.afterSaleNo]⟩

/-- Units that came back grow by what the new movements return. -/
theorem creditedUnits_appended {d d' : Db} (hc : d.AllCredited)
    (hclaims : Dict.Grows AfterSale.Follows (fun _ => True) d.afterSales d'.afterSales) {ms : List InventoryMovement}
    (hms : d'.movements = d.movements ++ ms) (lineId : Nat) :
    d'.creditedUnits lineId =
      d.creditedUnits lineId + ((ms.filter (d'.restocks lineId)).map InventoryMovement.deltaAvailable).sum := by
  have hold : d.movements.filter (d'.restocks lineId) = d.movements.filter (d.restocks lineId) :=
    List.filter_congr fun m hm => restocks_kept hc hclaims hm lineId
  show ((d'.movements.filter (d'.restocks lineId)).map InventoryMovement.deltaAvailable).sum = _
  rw [hms, List.filter_append, List.map_append, List.sum_append, hold]
  rfl

/-- Movements that return nothing. -/
theorem creditedUnits_same {d d' : Db} (hc : d.AllCredited)
    (hclaims : Dict.Grows AfterSale.Follows (fun _ => True) d.afterSales d'.afterSales) {ms : List InventoryMovement}
    (hms : d'.movements = d.movements ++ ms) (hnone : ∀ m ∈ ms, m.movementType ≠ .returnIn) (lineId : Nat) :
    d'.creditedUnits lineId = d.creditedUnits lineId := by
  have hempty : ms.filter (d'.restocks lineId) = [] := by
    refine List.filter_eq_nil_iff.mpr fun m hm hrestocks => ?_
    obtain ⟨-, c, -, htype, -⟩ := restocks_iff.mp hrestocks
    exact hnone m hm htype
  rw [creditedUnits_appended hc hclaims hms, hempty]
  simp

theorem Db.SameClaims.allCredited {d d' : Db} (h : d.SameClaims d') (hc : d.AllCredited) : d'.AllCredited := by
  obtain ⟨ms, hmovements, hms⟩ := h.movements
  intro m hm htype
  rw [hmovements, List.mem_append] at hm
  rcases hm with hold | hnew
  · obtain ⟨i, row, hrow, hreturn⟩ := hc m hold htype
    refine ⟨i, row, by rw [h.afterSaleItems]; exact hrow, ⟨hreturn.movementType, hreturn.units, hreturn.reference, ?_⟩⟩
    rw [h.afterSales]
    exact hreturn.claim
  · exact absurd htype (hms m hnew)

theorem Db.SameClaims.creditedUnits {d d' : Db} (h : d.SameClaims d') (hc : d.AllCredited) (lineId : Nat) :
    d'.creditedUnits lineId = d.creditedUnits lineId := by
  obtain ⟨ms, hmovements, hms⟩ := h.movements
  refine creditedUnits_same hc ?_ hmovements hms lineId
  rw [h.afterSales]
  exact Dict.grows_refl AfterSale.Follows.refl _

/-- Nothing came back of a line that is not there. -/
theorem creditedUnits_none {d : Db} (hd : d.Claimed) (hc : d.AllCredited) {lineId : Nat}
    (hnone : d.orderItems.get? lineId = none) : d.creditedUnits lineId = 0 := by
  have hempty : d.movements.filter (d.restocks lineId) = [] := by
    refine List.filter_eq_nil_iff.mpr fun m hm hrestocks => ?_
    obtain ⟨-, c, -, htype, hkey⟩ := restocks_iff.mp hrestocks
    obtain ⟨i, row, hrow, hreturn⟩ := hc m hm htype
    obtain ⟨c', -, -, -, hkey'⟩ := hreturn.claim
    obtain ⟨-, hline⟩ := returnInKey_inj (hkey'.symm.trans hkey)
    obtain ⟨-, -, item, -, hitem, -⟩ := hd.items hrow
    rw [hline, hnone] at hitem
    cases hitem
  show ((d.movements.filter (d.restocks lineId)).map InventoryMovement.deltaAvailable).sum = 0
  rw [hempty]
  rfl

/-! ## Units that have left -/

theorem shippedQuantity_nonneg {d : Db} (hd : d.Packed) (i j : Nat) : 0 ≤ d.shippedQuantity i j := by
  unfold Db.shippedQuantity Db.unitsIn
  refine Dict.total_nonneg fun e he => ?_
  have hunits := (hd.packages e.1 e.2 (Dict.get?_eq_some.mpr he)).1.units_nonneg j
  split_ifs
  · exact hunits
  · exact le_refl 0

theorem shippedQuantity_same {d d' : Db} (h : d'.fulfillments = d.fulfillments) (i j : Nat) :
    d'.shippedQuantity i j = d.shippedQuantity i j := by
  unfold Db.shippedQuantity Db.unitsIn
  rw [h]

/-- A new package that did not leave ships nothing. -/
theorem shippedQuantity_set {d : Db} {id : Nat} (fresh : d.fulfillments.get? id = none) {f : Fulfillment}
    (hopen : f.fulfillmentStatus = .unfulfilled) (i j : Nat) :
    ({ d with fulfillments := d.fulfillments.set id f } : Db).shippedQuantity i j = d.shippedQuantity i j := by
  have hnot : f.isShipped = false := by
    unfold Fulfillment.isShipped
    rw [hopen]
    rfl
  unfold Db.shippedQuantity Db.unitsIn
  dsimp only
  rw [Dict.total_set_fresh fresh, hnot]
  simp

/-- What leaves stays away. -/
theorem PackageShipped.shipped_le {next next' : Nat} {d d' : Db} (h : PackageShipped next d next' d')
    (hfresh : d.FreshFrom next) (hd : d.Packed) (i j : Nat) : d.shippedQuantity i j ≤ d'.shippedQuantity i j := by
  cases h with
  | @mk id _ f order request now axis c found ofOrder unshipped carried kept residual =>
    obtain ⟨hf, -⟩ := hd.packages id f found
    obtain ⟨hshipped, -, -⟩ := hf.shipped now carried kept
    have hunits := hshipped.units_nonneg j
    have hmodified : d.shippedQuantity i j ≤
        ({ d with fulfillments := d.fulfillments.modify id (f.shippedWith request now) } : Db).shippedQuantity i j := by
      unfold Db.shippedQuantity Db.unitsIn
      dsimp only
      rw [Dict.total_modify found, unshipped]
      simp only [Bool.false_eq_true, and_false, if_false, sub_zero]
      split_ifs
      · omega
      · omega
    have hresidual : c.shippedQuantity i j =
        ({ d with fulfillments := d.fulfillments.modify id (f.shippedWith request now) } : Db).shippedQuantity i j := by
      cases residual with
      | whole _ => rfl
      | split _ unshipped _ _ =>
        exact shippedQuantity_set (Dict.get?_modify_none (hfresh next (le_refl _)).fulfillments _ _) unshipped i j
    have hframe : ∀ orders, ({ c with orders := orders } : Db).shippedQuantity i j = c.shippedQuantity i j :=
      fun orders => shippedQuantity_same rfl i j
    rw [hframe, hresidual]
    exact hmodified

theorem Trade.shipped_eq {env : Deployment} {terms : Terms} {s s' : Shop} (h : Trade env terms s s')
    (hfresh : s.db.FreshFrom s.next) (i j : Nat) : s'.db.shippedQuantity i j = s.db.shippedQuantity i j := by
  cases h with
  | created created =>
    cases created with
    | mk merged unclaimed unordered window priced checked coupon stock items event =>
      obtain ⟨outbox, hd, -⟩ := event.frame
      exact shippedQuantity_same (by rw [hd]) i j
  | claimed claimed =>
    cases claimed with
    | mk _ _ _ _ _ _ _ => rfl
  | swept swept =>
    cases swept with
    | mk _ _ => rfl
  | ended row pending held ending ended =>
    obtain ⟨d₁, d₂, -, -, rfl⟩ := ended.parts
    rfl
  | settled settling pending items coupon stock shell event =>
    obtain ⟨c₁, c₂, c₃, outbox, -, -, hshell, rfl⟩ := settled_parts coupon stock shell event
    cases hshell with
    | present _ => exact shippedQuantity_same rfl i j
    | created absent ofOrder unshipped lines =>
      exact shippedQuantity_set (hfresh _ (le_refl _)).fulfillments unshipped i j
  | confirmed confirmed =>
    cases confirmed with
    | mk _ _ => rfl

theorem Change.shipped_le {env : Deployment} {terms : Terms} {s s' : Shop} (h : Change env terms s s')
    (hs : s.Running env) (i j : Nat) : s.db.shippedQuantity i j ≤ s'.db.shippedQuantity i j := by
  cases h with
  | booked booking => exact (shippedQuantity_same booking.fulfillments i j).ge
  | traded trade => exact (trade.shipped_eq hs.fresh i j).ge
  | shipped shipped => exact shipped.shipped_le hs.fresh hs.packed i j

/-! ## Returns of what has left -/

/-- Of every line at most what has left came back. -/
def Db.RestocksShipped (d : Db) : Prop :=
  ∀ lineId item, d.orderItems.get? lineId = some item → d.creditedUnits lineId ≤ d.shippedQuantity item.orderId lineId

theorem Change.restocksShipped {env : Deployment} {terms : Terms} {s s' : Shop} (h : Change env terms s s')
    (hs : s.Running env) (hc : s.db.AllCredited) (hd : s.db.RestocksShipped) : s'.db.RestocksShipped := by
  intro lineId item hitem
  have hcredited := h.sameClaims.creditedUnits hc lineId
  rcases (h.itemsChanged hs.fresh).grow.origin lineId item hitem with ⟨item₀, hold, hsame⟩ | ⟨hnew, -⟩
  · rw [hsame] at hold
    have hle := hd lineId item hold
    have hshipped := h.shipped_le hs item.orderId lineId
    omega
  · -- nothing came back of a line that is new
    rw [hcredited, creditedUnits_none hs.claimed hc hnew]
    exact shippedQuantity_nonneg (h.running hs).packed _ _

/-- A refund of an approved return pays for units that have left: of every line that it places money on for the first
time, the units that came back and the units of the claim are together at most what was shipped. -/
def AfterSaleOp.PaysForShipped (op : AfterSaleOp) (d : Db) : Prop :=
  match op with
  | .executeRefund _ request _ => ∀ rows split, RefundLocks request d rows →
      validateCaps rows.claim rows.payment rows.orderItems rows.lineItems request.amount = .ok split →
      rows.claim.type = .returnRefund → ∀ line ∈ rows.lineItems, 0 < split.placed line.1 →
        ¬ d.Returned rows.claim.afterSaleNo line.1 →
          d.creditedUnits line.1 + line.2 ≤ d.shippedQuantity rows.claim.orderId line.1
  | _ => True

/-- Movements under one key, where no two share a key. -/
theorem length_le_one_of_key {ms : List InventoryMovement} {key : String}
    (hkeys : (ms.map InventoryMovement.idempotencyKey).Nodup) (hkey : ∀ m ∈ ms, m.idempotencyKey = key) :
    ms = [] ∨ ∃ m, ms = [m] := by
  match ms with
  | [] => exact .inl rfl
  | [m] => exact .inr ⟨m, rfl⟩
  | m :: m' :: rest =>
    have hsame : m.idempotencyKey = m'.idempotencyKey :=
      (hkey m List.mem_cons_self).trans (hkey m' (List.mem_cons_of_mem _ List.mem_cons_self)).symm
    rw [List.map_cons, List.map_cons, List.nodup_cons, hsame] at hkeys
    exact absurd List.mem_cons_self hkeys.1

/-- A refund returns a line once at most, with the units of its claim. -/
theorem RefundPosted.creditedUnits {principal : Principal} {request : RefundRequest} {requestHash : String} {now : Time}
    {refundId : Nat} {rows : RefundRows} {split : RefundSplit} {d d' : Db}
    (h : RefundPosted principal request requestHash now refundId rows split d d') (hd : d.Claimed) (hc : d.AllCredited)
    (hclaims : Dict.Grows AfterSale.Follows (fun _ => True) d.afterSales d'.afterSales) (hkeys : d'.MovementKeys)
    (lineId : Nat) :
    d'.creditedUnits lineId = d.creditedUnits lineId ∨ ∃ quantity, (lineId, quantity) ∈ rows.lineItems ∧
      rows.claim.type = .returnRefund ∧ 0 < split.placed lineId ∧ ¬ d.Returned rows.claim.afterSaleNo lineId ∧
      d'.creditedUnits lineId = d.creditedUnits lineId + quantity := by
  obtain ⟨ms, hmovements, hms⟩ := h.movements hd
  obtain ⟨c', hclaim', hfollows⟩ := hclaims.kept _ _ h.locks.claim
  have hsum := creditedUnits_appended hc hclaims hmovements lineId
  have hreturned : ∀ m ∈ ms, d'.restocks lineId m = true → m.idempotencyKey =
      returnInMovementKey rows.claim.afterSaleNo lineId ∧ rows.claim.type = .returnRefund ∧ 0 < split.placed lineId ∧
      (lineId, m.deltaAvailable) ∈ rows.lineItems := by
    intro m hm hrestocks
    obtain ⟨i, row, hrow, hof, hplaced, hreturn⟩ := hms m hm
    obtain ⟨-, c, -, -, hkey⟩ := restocks_iff.mp hrestocks
    obtain ⟨c'', hclaim'', htype, -, hkey'⟩ := hreturn.claim
    rw [hof, hclaim'] at hclaim''
    cases hclaim''
    obtain ⟨-, hline⟩ := returnInKey_inj (hkey'.symm.trans hkey)
    rw [hline] at hkey' hplaced
    refine ⟨by rw [hkey', hfollows.afterSaleNo], hfollows.type.symm.trans htype, hplaced, ?_⟩
    rw [h.locks.lineItems, hreturn.units, ← hline]
    exact mem_claimLines.mpr ⟨i, row, hrow, hof, rfl⟩
  have hnew : ((ms.filter (d'.restocks lineId)).map InventoryMovement.idempotencyKey).Nodup := by
    unfold Db.MovementKeys at hkeys
    rw [hmovements, List.map_append] at hkeys
    exact (List.nodup_append.mp hkeys).2.1.sublist (List.filter_sublist.map _)
  rcases length_le_one_of_key hnew (fun m hm => (hreturned m (List.mem_filter.mp hm).1 (List.mem_filter.mp hm).2).1) with
    hnil | ⟨m, hone⟩
  · rw [hnil] at hsum
    exact .inl (by simpa using hsum)
  · have hmem : m ∈ ms.filter (d'.restocks lineId) := by rw [hone]; exact List.mem_singleton_self m
    obtain ⟨hm, hrestocks⟩ := List.mem_filter.mp hmem
    obtain ⟨hkey, htype, hplaced, hline⟩ := hreturned m hm hrestocks
    refine .inr ⟨m.deltaAvailable, hline, htype, hplaced, ?_, ?_⟩
    · rintro ⟨m', hm', -, hkey'⟩
      unfold Db.MovementKeys at hkeys
      rw [hmovements, List.map_append] at hkeys
      exact (List.nodup_append.mp hkeys).2.2 _ (List.mem_map_of_mem hm') _ (List.mem_map_of_mem hm)
        (hkey'.trans hkey.symm)
    · rw [hsum, hone]
      simp

theorem AfterSaleEffect.restocksShipped {env : Deployment} {s : Shop} {op : AfterSaleOp} {next : Nat} {d : Db}
    (h : AfterSaleEffect env s.next s.db op next d) (hok : op.PaysForShipped s.db) (hs : s.Running env)
    (hc : s.db.AllCredited) (hk : s.db.MovementKeys) (hd : s.db.RestocksShipped) : d.RestocksShipped := by
  have hclaims := h.claims hs.fresh
  have hkeys := movementKeys_effect h hk
  intro lineId item' hitem'
  obtain ⟨item, hitem, hline⟩ := (h.sameGoods.orderItems.origin lineId item' hitem').resolve_right fun hn => hn.2
  rw [hline.orderId, shippedQuantity_same h.sameGoods.fulfillments]
  have hsame : d.movements = s.db.movements → d.creditedUnits lineId ≤ s.db.shippedQuantity item.orderId lineId := by
    intro hmovements
    have heq : d.movements = s.db.movements ++ [] := by rw [hmovements, List.append_nil]
    rw [creditedUnits_same hc hclaims heq (fun _ hm => nomatch hm)]
    exact hd lineId item hitem
  cases h with
  | applied _ _ => exact hsame rfl
  | cancelled answered =>
    obtain ⟨id, c, -, -, -, -, rfl⟩ := answered
    exact hsame rfl
  | approved answered =>
    obtain ⟨id, c, -, -, -, -, rfl⟩ := answered
    exact hsame rfl
  | rejected answered =>
    obtain ⟨id, c, -, -, -, -, rfl⟩ := answered
    exact hsame rfl
  | @refunded principal request now rows split _ given posted =>
    rcases posted.creditedUnits hs.claimed hc hclaims hkeys lineId with heq | ⟨quantity, hmem, htype, hplaced, hnot, heq⟩
    · rw [heq]
      exact hd lineId item hitem
    · have hle := hok rows split posted.locks posted.caps htype _ hmem hplaced hnot
      obtain ⟨i, row, hrow, hof, hpair⟩ : ∃ i row, s.db.afterSaleItems.get? i = some row ∧ row.afterSaleId = rows.claimId ∧
          (lineId, quantity) = (row.orderItemId, row.quantity) := by
        rw [posted.locks.lineItems] at hmem
        exact mem_claimLines.mp hmem
      obtain ⟨rfl, rfl⟩ := Prod.mk.inj hpair
      obtain ⟨-, c, item'', hclaim, hitem'', horder⟩ := hs.claimed.items hrow
      rw [hof, posted.locks.claim] at hclaim
      cases hclaim
      rw [hitem] at hitem''
      cases hitem''
      rw [heq, horder]
      exact hle

/-! ## Every life of the shop -/

/-- What holds of units over a life of the shop. -/
structure Shop.Restocking (env : Deployment) (s : Shop) : Prop extends s.Running env where
  keys : s.db.MovementKeys
  credited : s.db.AllCredited
  restocks : s.db.RestocksShipped

theorem restocking_keeps (env : Deployment) : LifeKeeps env AfterSaleOp.PaysForShipped (Shop.Restocking env) where
  distinct h := h.claimed.linesDistinct
  change h hchange := ⟨hchange.running h.toRunning, hchange.sameClaims.keys h.keys, hchange.sameClaims.allCredited h.credited,
    hchange.restocksShipped h.toRunning h.credited h.restocks⟩
  effect h hok heffect := ⟨heffect.running h.toRunning, movementKeys_effect heffect h.keys,
    credited_effect h.claimed h.fresh heffect h.credited,
    heffect.restocksShipped hok h.toRunning h.credited h.keys h.restocks⟩

theorem Shop.Founded.restocking {env : Deployment} {s : Shop} (h : s.Founded) : s.Restocking env where
  toRunning := h.running
  keys := h.keys
  credited m hm htype := absurd htype (h.unreturned m hm)
  restocks lineId item hitem := by
    rw [h.orderItems] at hitem
    cases hitem

/-- What is not shipped is still to leave, or its order has no packages yet. -/
theorem openQuantity_le {d : Db} (itemized : d.Itemized) (hd : d.Packed) {lineId : Nat} {item : OrderItem}
    (hitem : d.orderItems.get? lineId = some item) :
    d.shippedQuantity item.orderId lineId + d.openQuantity item.orderId lineId ≤ item.quantity := by
  rw [← packedQuantity_eq]
  obtain ⟨o, ho⟩ := itemized.owned lineId item hitem
  by_cases hsettled : o.Settled
  · rw [hd.whole _ o ho hsettled lineId]
    unfold Db.orderedQuantity
    rw [hitem]
    dsimp only
    rw [if_pos rfl]
  · have hnone : ∀ k f, d.fulfillments.get? k = some f → f.orderId ≠ item.orderId := by
      intro k f hf hof
      obtain ⟨-, o', ho', hs⟩ := hd.packages k f hf
      rw [hof, ho] at ho'
      cases ho'
      exact hsettled hs
    rw [packedQuantity_none hnone]
    exact (itemized.positive lineId item hitem).le

/-- Over every life of the shop whose refunds pay for returns only of units that have left, what came back of a line and
what is still to leave of it are together at most what was ordered. -/
theorem restocked_or_unshipped {env : Deployment} {s : Shop} (founded : s.Founded) {sessions : List (Session × Nat)}
    (lives : Shop.LivesBy env AfterSaleOp.PaysForShipped sessions s) :
    let d := (s.live env sessions).db
    ∀ lineId item, d.orderItems.get? lineId = some item →
      d.creditedUnits lineId + d.openQuantity item.orderId lineId ≤ item.quantity := by
  intro d lineId item hitem
  have hrun := (restocking_keeps env).run founded.restocking lives
  have hcredited := hrun.restocks lineId item hitem
  have hopen := openQuantity_le hrun.itemized hrun.packed hitem
  exact (add_le_add_left hcredited _).trans hopen

/-- The cup that left comes back while the other is still to leave. -/
theorem restocked_or_unshipped_cup :
    let d := (sampleShop.live lifeDeployment returnedShipped).db
    ∀ lineId item, d.orderItems.get? lineId = some item →
      d.creditedUnits lineId + d.openQuantity item.orderId lineId ≤ item.quantity := by
  have hleft : ∀ e ∈ (sampleShop.live lifeDeployment (returnedShipped.take 6)).db.afterSales.entries,
      ∀ line ∈ (sampleShop.live lifeDeployment (returnedShipped.take 6)).db.claimLines e.1,
        (sampleShop.live lifeDeployment (returnedShipped.take 6)).db.creditedUnits line.1 + line.2 ≤
          (sampleShop.live lifeDeployment (returnedShipped.take 6)).db.shippedQuantity e.2.orderId line.1 := by
    decide +kernel
  refine restocked_or_unshipped sampleShop_founded ?_
  refine ⟨(fun _ h => nomatch h), (fun _ h => nomatch h), (fun _ h => nomatch h), (fun _ h => nomatch h),
    fun _ h => ?_, fun _ h => ?_, fun _ h => ?_, trivial⟩
  · cases h
    trivial
  · cases h
    trivial
  · cases h
    intro rows split locks _ _ line hline _ _
    rw [locks.lineItems] at hline
    exact hleft (rows.claimId, rows.claim) (Dict.get?_eq_some.mp locks.claim) line hline

/-- Two cups come back to stock while both are still to be shipped. -/
theorem restocked_unshipped :
    ¬ ∀ (env : Deployment) (s : Shop), s.Founded → ∀ (sessions : List (Session × Nat)) (lineId : Nat) (item : OrderItem),
      (s.live env sessions).db.orderItems.get? lineId = some item →
        (s.live env sessions).db.creditedUnits lineId + (s.live env sessions).db.openQuantity item.orderId lineId ≤
          item.quantity := by
  intro h
  have hline : ((sampleShop.live lifeDeployment returnedUnshipped).db.orderItems.get? 12).map (fun item =>
      decide ((sampleShop.live lifeDeployment returnedUnshipped).db.creditedUnits 12 +
        (sampleShop.live lifeDeployment returnedUnshipped).db.openQuantity item.orderId 12 ≤ item.quantity)) =
      some false := by decide +kernel
  obtain ⟨item, hitem, hnot⟩ := Option.map_eq_some_iff.mp hline
  exact of_decide_eq_false hnot (h lifeDeployment sampleShop sampleShop_founded returnedUnshipped 12 item hitem)

end NovaCommerce
