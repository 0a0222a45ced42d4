import NovaCommerce.Shop.Stock

/-!
# Units sold

The turnover report counts the units on the lines of the orders that were paid in its window.

* `Db.items` : `_items`, the lines of a window; `soldByBucket` : their units, bucket by bucket; `Db.unitsSold` : the units
  of the whole window;
* `Db.PaidFor` : an order with a payment time was settled, or is closed (`Change.paidFor`);
* `unitsSold_eq` : over every run, the units sold are those the ledger deducted for the orders of the window, and those
  of closed orders that were paid late in it.
-/

namespace NovaCommerce

open Sql

/-! ## The report -/

/-- How the report groups days. -/
inductive Granularity where
  | day
  | week
  | month
  deriving DecidableEq

/-- `date.isoformat()` of a day since 1970. -/
def dateText (day : Nat) : String :=
  let (year, month, dayOfMonth) := civil day
  pad 4 year ++ "-" ++ pad 2 month ++ "-" ++ pad 2 dayOfMonth

/-- `_bucket`: a week is named by its Monday, and the first day of 1970 was a Thursday. -/
def bucket (day : Nat) : Granularity → String
  | .month =>
    let (year, month, _) := civil day
    pad 4 year ++ "-" ++ pad 2 month
  | .week => dateText (day - (day + 3) % 7)
  | .day => dateText day

example : bucket 19723 .week = "2024-01-01" ∧ bucket 19729 .week = "2024-01-01" ∧ bucket 19729 .month = "2024-01" := by decide

/-- The order was paid in the window, to the merchant. -/
def Order.paidWithin (o : Order) (merchantId : Nat) (start stop : Time) : Bool :=
  decide (o.merchantId = merchantId) && o.paidAt.any fun t => decide (start ≤ t ∧ t < stop)

/-- A row of `_items`. -/
structure ReportItem where
  paidDay : Nat
  payableAmount : Int
  quantity : Int
  skuId : Nat
  skuName : String

/-- The row of a line, when its order was paid in the window. -/
def Db.reportItem (d : Db) (merchantId : Nat) (start stop : Time) (i : OrderItem) : Option ReportItem :=
  (d.orders.get? i.orderId).bind fun o =>
    if o.paidWithin merchantId start stop then
      o.paidAt.map fun paidAt => ⟨paidAt / 86400000, i.payableAmount, i.quantity, i.skuId, i.skuName⟩
    else none

/-- `_items`: the lines of the orders that were paid in the window. -/
def Db.items (d : Db) (merchantId : Nat) (start stop : Time) : List ReportItem :=
  d.orderItems.values.filterMap (d.reportItem merchantId start stop)

/-- The units of the lines, by the bucket of the day their order was paid on. -/
def soldByBucket (granularity : Granularity) (items : List ReportItem) : Dict String Int :=
  items.foldl (fun sold item =>
    let key := bucket item.paidDay granularity
    sold.set key ((sold.get? key).getD 0 + item.quantity)) Dict.empty

/-- The units that the turnover of the whole window counts. -/
def Db.unitsSold (d : Db) (merchantId : Nat) (start stop : Time) (granularity : Granularity) : Int :=
  (soldByBucket granularity (d.items merchantId start stop)).values.sum

/-! ## Sums by key -/

/-- However the days are grouped, every unit is counted once. -/
theorem soldByBucket_sum (granularity : Granularity) (items : List ReportItem) :
    (soldByBucket granularity items).values.sum = (items.map ReportItem.quantity).sum := by
  have hfold : ∀ (items : List ReportItem) (sold : Dict String Int),
      (items.foldl (fun sold item => sold.set (bucket item.paidDay granularity)
        ((sold.get? (bucket item.paidDay granularity)).getD 0 + item.quantity)) sold).values.sum =
        sold.values.sum + (items.map ReportItem.quantity).sum := by
    intro items
    induction items with
    | nil =>
      intro sold
      simp
    | cons item items ih =>
      intro sold
      rw [List.foldl_cons, ih, Dict.sum_values_set, List.map_cons, List.sum_cons, add_assoc]
  unfold soldByBucket
  rw [hfold]
  simp

/-- The units on a line, when its order satisfies a condition. -/
def Db.unitsWhere (d : Db) (p : Order → Bool) : Int :=
  d.orderItems.total fun _ i => if (d.orders.get? i.orderId).any p = true then i.quantity else 0

theorem reportItem_quantity (d : Db) (merchantId : Nat) (start stop : Time) (i : OrderItem) :
    ((d.reportItem merchantId start stop i).map ReportItem.quantity).getD 0 =
      if (d.orders.get? i.orderId).any (fun o => o.paidWithin merchantId start stop) = true then i.quantity else 0 := by
  unfold Db.reportItem
  cases ho : d.orders.get? i.orderId with
  | none => rfl
  | some o =>
    by_cases hw : o.paidWithin merchantId start stop = true
    · cases hp : o.paidAt with
      | none =>
        unfold Order.paidWithin at hw
        simp [hp] at hw
      | some t => simp [hw, hp]
    · simp [hw]

/-- The units sold are those on the lines of the orders paid in the window. -/
theorem unitsSold_lines (d : Db) (merchantId : Nat) (start stop : Time) (granularity : Granularity) :
    d.unitsSold merchantId start stop granularity = d.unitsWhere fun o => o.paidWithin merchantId start stop := by
  have hrows : ∀ is : List OrderItem, ((is.filterMap (d.reportItem merchantId start stop)).map ReportItem.quantity).sum =
      (is.map fun i => ((d.reportItem merchantId start stop i).map ReportItem.quantity).getD 0).sum := by
    intro is
    induction is with
    | nil => rfl
    | cons i is ih =>
      rw [List.map_cons, List.sum_cons, ← ih]
      cases hrow : d.reportItem merchantId start stop i with
      | none =>
        rw [List.filterMap_cons_none hrow]
        simp
      | some row =>
        rw [List.filterMap_cons_some hrow]
        simp
  unfold Db.unitsSold Db.items
  rw [soldByBucket_sum, hrows]
  unfold Db.unitsWhere Dict.total Dict.values
  rw [List.map_map]
  exact congrArg List.sum (List.map_congr_left fun e _ => reportItem_quantity d merchantId start stop e.2)

/-! ## Orders with a payment time -/

/-- An order with a payment time was settled, or is closed. -/
def Db.PaidFor (d : Db) : Prop :=
  ∀ i o, d.orders.get? i = some o → o.paidAt ≠ none → o.Settled ∨ o.orderStatus = .closed

/-- One order that is rewritten. -/
theorem Db.PaidFor.modified {d d' : Db} (hd : d.PaidFor) {id : Nat} {f : Order → Order}
    (orders : d'.orders = d.orders.modify id f)
    (hf : ∀ o, d.orders.get? id = some o → (f o).paidAt ≠ none → (f o).Settled ∨ (f o).orderStatus = .closed) :
    d'.PaidFor := by
  intro i o' ho' hpaid
  rw [orders, Dict.get?_modify] at ho'
  split_ifs at ho' with hi
  · subst hi
    obtain ⟨o, ho, rfl⟩ := Option.map_eq_some_iff.mp ho'
    exact hf o ho hpaid
  · exact hd i o' ho' hpaid

/-- An order that keeps its payment time and its status. -/
theorem Db.PaidFor.kept {d d' : Db} (hd : d.PaidFor) {id : Nat} {f : Order → Order}
    (orders : d'.orders = d.orders.modify id f)
    (hf : ∀ o, (f o).paidAt = o.paidAt ∧ (f o).orderStatus = o.orderStatus) : d'.PaidFor := by
  refine hd.modified orders fun o ho hpaid => ?_
  rw [(hf o).1] at hpaid
  unfold Order.Settled
  rw [(hf o).2]
  exact hd id o ho hpaid

/-- A pending order has no payment time. -/
theorem Db.PaidFor.unpaid {d : Db} (hd : d.PaidFor) {id : Nat} {o : Order} (ho : d.orders.get? id = some o)
    (pending : o.orderStatus = .pendingPayment) : o.paidAt = none := by
  by_contra hpaid
  rcases hd id o ho hpaid with hsettled | hclosed
  · exact not_settled_of_pending pending hsettled
  · rw [pending] at hclosed
    cases hclosed

theorem Booking.paidFor {terms : Terms} {s s' : Shop} (h : Booking terms s s') (hd : s.db.PaidFor) : s'.db.PaidFor := by
  cases h with
  | drawn _ => exact hd
  | called _ _ => exact hd
  | attempted created =>
    cases created with
    | replayed => exact hd
    | created _ _ _ _ _ _ _ _ _ _ _ =>
      refine hd.kept rfl fun o => ?_
      unfold Order.payingBy
      split_ifs
      · exact ⟨rfl, rfl⟩
      · exact ⟨rfl, rfl⟩
  | late settling closed first checked ensured =>
    cases ensured with
    | present _ =>
      refine hd.modified rfl fun o ho _ => .inr ?_
      rw [settling.order] at ho
      cases ho
      exact closed
    | created _ _ _ _ _ _ =>
      refine hd.modified rfl fun o ho _ => .inr ?_
      rw [settling.order] at ho
      cases ho
      exact closed
  | parked => exact hd
  | compensated compensated =>
    cases compensated with
    | mk _ _ _ _ _ => exact hd.kept rfl fun o => ⟨rfl, rfl⟩

theorem Trade.paidFor {env : Deployment} {terms : Terms} {s s' : Shop} (h : Trade env terms s s') (hd : s.db.PaidFor) :
    s'.db.PaidFor := by
  cases h with
  | created created =>
    cases created with
    | mk merged unclaimed unordered window priced checked coupon stock items event =>
      obtain ⟨outbox, hframe, -⟩ := event.frame
      dsimp only
      rw [hframe]
      intro i o ho hpaid
      dsimp only at ho
      by_cases hi : i = s.next + 1
      · subst hi
        rw [Dict.get?_set_self] at ho
        cases ho
        exact absurd rfl hpaid
      · rw [Dict.get?_set_ne hi] at ho
        exact hd i o ho hpaid
  | claimed claimed =>
    cases claimed with
    | mk _ _ _ _ _ _ _ => exact hd
  | swept swept =>
    cases swept with
    | mk _ _ => exact hd
  | ended row pending held ending ended =>
    obtain ⟨d₁, d₂, -, -, rfl⟩ := ended.parts
    refine hd.modified rfl fun o ho hpaid => ?_
    rw [row] at ho
    cases ho
    have hunpaid := hd.unpaid row pending
    cases ending with
    | cancelled _ _ _ _ => exact absurd hunpaid hpaid
    | expired _ _ => exact absurd hunpaid hpaid
  | settled settling pending items coupon stock shell event =>
    obtain ⟨c₁, c₂, c₃, outbox, -, -, -, rfl⟩ := settled_parts coupon stock shell event
    exact hd.modified rfl fun o ho _ => .inl (.inl rfl)
  | confirmed confirmed =>
    cases confirmed with
    | mk row processing => exact hd.modified rfl fun o ho _ => .inl (.inr rfl)

theorem PackageShipped.paidFor {next next' : Nat} {d d' : Db} (h : PackageShipped next d next' d') (hd : d.PaidFor) :
    d'.PaidFor := by
  cases h with
  | @mk id next' f order request now axis c found ofOrder unshipped carried kept residual =>
    have horders : ({ c with orders := d.orders.modify f.orderId fun row => { row with fulfillmentStatus := axis } } : Db).orders =
        d.orders.modify f.orderId fun row => { row with fulfillmentStatus := axis } := rfl
    exact hd.kept horders fun o => ⟨rfl, rfl⟩

theorem Change.paidFor {env : Deployment} {terms : Terms} {s s' : Shop} (h : Change env terms s s') (hd : s.db.PaidFor) :
    s'.db.PaidFor := by
  cases h with
  | booked booking => exact booking.paidFor hd
  | traded trade => exact trade.paidFor hd
  | shipped shipped => exact shipped.paidFor hd

/-! ## The ledger -/

/-- The movements that deduct a line of an order. -/
def Db.deductions (d : Db) (o : Order) (lineId : Nat) : List InventoryMovement :=
  d.movements.filter fun m => decide (m.movementType = .orderDeduct ∧ m.idempotencyKey = orderDeductKey o.orderNo lineId)

/-- The units that the ledger deducted for the orders paid in the window. -/
def Db.unitsDeducted (d : Db) (merchantId : Nat) (start stop : Time) : Int :=
  d.orderItems.total fun lineId i => match d.orders.get? i.orderId with
    | some o =>
      if o.paidWithin merchantId start stop then ((d.deductions o lineId).map fun m => -m.deltaLocked).sum else 0
    | none => 0

/-- A line is deducted when its order is settled, with all its units. -/
theorem deductions_sum {env : Deployment} {start : List InventoryMovement} {d : Db} (hd : d.Stocked start)
    (numbered : d.Numbered env) {lineId : Nat} {i : OrderItem} {o : Order} (hi : d.orderItems.get? lineId = some i)
    (ho : d.orders.get? i.orderId = some o) :
    (o.Settled → ((d.deductions o lineId).map fun m => -m.deltaLocked).sum = i.quantity) ∧
      (¬ o.Settled → ((d.deductions o lineId).map fun m => -m.deltaLocked).sum = 0) := by
  constructor
  · intro hsettled
    obtain ⟨m, hm, hdeducts⟩ := hd.deducted lineId i o hi ho hsettled
    have hone : d.deductions o lineId = [m] := by
      unfold Db.deductions
      rw [← filter_key hd.keys hm, hdeducts.idempotencyKey]
      refine List.filter_congr fun m' hm' => decide_eq_decide.mpr ⟨fun h => h.2, fun hkey => ⟨?_, hkey⟩⟩
      have hsame : m' = m := List.inj_on_of_nodup_map hd.keys hm' hm (hkey.trans hdeducts.idempotencyKey.symm)
      rw [hsame]
      exact hdeducts.movementType
    rw [hone, List.map_singleton, List.sum_singleton, hdeducts.deltaLocked, neg_neg]
  · intro hnot
    have hnone : d.deductions o lineId = [] := by
      refine List.filter_eq_nil_iff.mpr fun m hm hkey => hnot ?_
      exact deduct_settled hd numbered ho hm (of_decide_eq_true hkey).2
    rw [hnone]
    rfl

/-- The order is closed, and was paid in the window. -/
def Order.paidLateWithin (o : Order) (merchantId : Nat) (start stop : Time) : Bool :=
  decide (o.orderStatus = .closed) && o.paidWithin merchantId start stop

theorem unitsSold_split {env : Deployment} {before : List InventoryMovement} {d : Db} (hd : d.Stocked before)
    (numbered : d.Numbered env) (hpaid : d.PaidFor) (merchantId : Nat) (start stop : Time) (granularity : Granularity) :
    d.unitsSold merchantId start stop granularity =
      d.unitsDeducted merchantId start stop + d.unitsWhere fun o => o.paidLateWithin merchantId start stop := by
  rw [unitsSold_lines]
  unfold Db.unitsWhere Db.unitsDeducted
  rw [← Dict.total_add]
  refine Dict.total_congr fun e he => ?_
  have hi := Dict.get?_eq_some.mpr he
  cases ho : d.orders.get? e.2.orderId with
  | none => rfl
  | some o =>
    obtain ⟨hsettled, hnot⟩ := deductions_sum hd numbered hi ho
    unfold Order.paidLateWithin
    by_cases hw : o.paidWithin merchantId start stop = true
    · have hpaidAt : o.paidAt ≠ none := by
        intro hp
        unfold Order.paidWithin at hw
        rw [hp] at hw
        simp at hw
      rcases hpaid _ o ho hpaidAt with hs | hclosed
      · have hopen : o.orderStatus ≠ .closed := by
          rcases hs with h | h <;> rw [h] <;> decide
        simp [hw, hsettled hs, hopen]
      · have hunsettled : ¬ o.Settled := Order.Ended.not_settled (.inr hclosed)
        simp [hw, hnot hunsettled, hclosed]
    · simp [hw]

/-- After every run, in every window, the units the report counts as sold are those the ledger deducted for the orders
paid in the window, and those on the lines of closed orders that were paid late in it. -/
theorem unitsSold_eq {env : Deployment} {s : Shop} (h : s.Opening) (ops : List (Op × Nat)) (merchantId : Nat)
    (start stop : Time) (granularity : Granularity) :
    let d := (s.run env ops).db
    d.unitsSold merchantId start stop granularity =
      d.unitsDeducted merchantId start stop + d.unitsWhere fun o => o.paidLateWithin merchantId start stop := by
  have hnone : s.db.PaidFor := by
    intro i o ho
    rw [h.orders] at ho
    cases ho
  have hopening : s.Sound env ∧ s.db.Itemized ∧ s.db.Stocked s.db.movements ∧ s.db.PaidFor :=
    ⟨h.sound, h.itemized, h.stocked, hnone⟩
  obtain ⟨hsound, -, hstocked, hpaid⟩ := @run_keeps env
    (fun s' => s'.Sound env ∧ s'.db.Itemized ∧ s'.db.Stocked s.db.movements ∧ s'.db.PaidFor)
    (fun s₁ s₂ hchange hs => ⟨hchange.sound hs.1, hchange.itemized hs.1.fresh hs.2.1,
      hchange.stocked hs.1.fresh hs.1.consistent.numbered hs.2.1 hs.2.2.1, hchange.paidFor hs.2.2.2⟩) s hopening ops
  exact unitsSold_split hstocked hsound.consistent.numbered hpaid merchantId start stop granularity

/-! ## A late payment -/

/-- The notification of the first payment of the small shop, two hours after noon. -/
def lateDelivery : Delivery where
  headers := {
    provider := "MOCK"
    eventId := "evt-1"
    timestamp := "1704117600"
    signature := "a6d7e4a68ec599c33d2ef3f6591814cc613c0c97b261dc24958998bd378640ec" }
  rawBody := sampleBody

/-- The deployment that receives it. -/
def lateProvider : Deployment :=
  { sampleProvider with
    hmacHex := fun key message =>
      if key = utf8 "dev-mock-callback-secret" ∧ message = signedMessage "1704117600" sampleBody then
        "a6d7e4a68ec599c33d2ef3f6591814cc613c0c97b261dc24958998bd378640ec"
      else "" }

/-- Two o'clock. -/
def lateInstants : Instants where
  edge := 1704117600000
  verified := 1704117600000
  now := 1704117600000

/-- The customer orders two cups and pays them after the order was closed. -/
def latePaid : List (Op × Nat) := [
  (.createOrder sampleCustomer sampleCups sampleNoon, 1000),
  (.createPayment sampleCustomer samplePayment sampleNoon, 1000),
  (.expire 11 1704117000000, 1000),
  (.receive lateDelivery lateInstants, 1000)]

/-- On New Year's Day the report counts the two cups that were paid late. -/
theorem unitsSold_eq_cups :
    let d := (sampleShop.run lateProvider latePaid).db
    d.unitsSold 1 1704067200000 1704153600000 .week =
      d.unitsDeducted 1 1704067200000 1704153600000 +
        d.unitsWhere fun o => o.paidLateWithin 1 1704067200000 1704153600000 :=
  unitsSold_eq sampleShop_opening latePaid 1 1704067200000 1704153600000 .week

/-- Nothing was deducted for them. -/
theorem unitsSold_late :
    ¬ ∀ (env : Deployment) (s : Shop), s.Opening → ∀ (ops : List (Op × Nat)) (merchantId : Nat) (start stop : Time)
      (granularity : Granularity), (s.run env ops).db.unitsSold merchantId start stop granularity =
        (s.run env ops).db.unitsDeducted merchantId start stop := by
  intro h
  have hlate : (sampleShop.run lateProvider latePaid).db.unitsSold 1 1704067200000 1704153600000 .week ≠
      (sampleShop.run lateProvider latePaid).db.unitsDeducted 1 1704067200000 1704153600000 := by decide +kernel
  exact hlate (h lateProvider sampleShop sampleShop_opening latePaid 1 1704067200000 1704153600000 .week)

end NovaCommerce
