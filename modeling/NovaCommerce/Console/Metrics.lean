import NovaCommerce.Analytics.Turnover
import NovaCommerce.Console.Schema

/-!
# Metrics

`metric` computes one of five projections of the committed rows over a window of days, and compares it with the window before.
Days count from 1970; floats and decimals are `Arithmetic`.

* `Tables.paid`, `Tables.reportItems`, `Tables.refundsPaid`, `Tables.positionHistory` : what is read;
* `onHand`, `turnover` : the stock at an instant, reconstructed from the ledger;
* `metric` : the document of a report.
-/

namespace NovaCommerce.Console

/-! ## Numbers -/

/-- An integer, or a float. -/
inductive Number (ν : Type) where
  | int (n : Int)
  | float (x : ν)

/-- The arithmetic on floats and decimals. -/
structure Arithmetic (ν : Type) where
  nonpositive : ν → Bool
  quotient : Number ν → Number ν → ν
  sub : Number ν → Number ν → Number ν
  mean : List (Number ν) → ν
  round : ν → Int
  atLeastHalf : ν → Bool

variable {ν : Type} (num : Arithmetic ν)

/-- `_ratio`: rounded to six digits, and nothing over a denominator that is not positive. -/
def ratio (numerator denominator : Number ν) : Option ν :=
  let positive := match denominator with
    | .int n => decide (0 < n)
    | .float x => !num.nonpositive x
  if positive then some (num.quotient numerator denominator) else none

/-! ## Days -/

/-- `date.min` and `date.max`. -/
def minDay : Int := -719162

def maxDay : Int := 2932896

/-- A day that a `date` can hold. -/
def checkedDay (day : Int) : Except AppError Int := do
  Raise.raiseIf (day < minDay ∨ maxDay < day) { kind := .overflow, message := "date value out of range" }
  return day

def atStart (day : Int) : Int := day * 86400000

/-- A window of time: its start, and the first instant after it. -/
structure Window where
  start : Int
  stop : Int

def Window.holds (w : Window) (t : Time) : Bool := decide (w.start ≤ t ∧ (t : Int) < w.stop)

def dayOf (t : Time) : Nat := t / 86400000

def isLeap (year : Nat) : Bool := decide (year % 4 = 0 ∧ (year % 100 ≠ 0 ∨ year % 400 = 0))

def daysInMonth (year month : Nat) : Nat :=
  if month = 2 then if isLeap year then 29 else 28
  else if month ∈ [4, 6, 9, 11] then 30 else 31

/-- The first day of a bucket, and the first day after it. -/
def bucketDays (day : Nat) : Granularity → Int × Int
  | .month =>
    let (year, month, dayOfMonth) := civil day
    let first : Int := day - dayOfMonth + 1
    (first, first + daysInMonth year month)
  | .week =>
    let monday : Int := (day : Int) - ((day + 3) % 7 : Nat)
    (monday, monday + 7)
  | .day => (day, day + 1)

example : bucketDays 19782 .month = (19782 - 28, 19783) ∧ bucketDays 19729 .week = (19723, 19730) := by decide

/-! ## What is read -/

/-- `_paid`: the day and the amount of each paid order of the window. -/
def Tables.paid (t : Tables) (merchantId : Nat) (w : Window) : List (Nat × Int) :=
  (t.orders.select fun o => decide (o.merchantId = merchantId ∧ 0 < o.paidAmount) && o.paidAt.any w.holds).filterMap
    fun e => e.2.paidAt.map fun paidAt => (dayOf paidAt, e.2.paidAmount)

/-- The row of a line, when its order was paid in the window. -/
def Tables.reportItem (t : Tables) (merchantId : Nat) (w : Window) (i : OrderItem) : Option ReportItem :=
  ((t.orders.get? i.orderId).filter fun o => decide (o.merchantId = merchantId)).bind fun o =>
    (o.paidAt.filter w.holds).map fun paidAt => ⟨dayOf paidAt, i.payableAmount, i.quantity, i.skuId, i.skuName⟩

/-- `_items`. -/
def Tables.reportItems (t : Tables) (merchantId : Nat) (w : Window) : List ReportItem :=
  t.orderItems.values.filterMap (t.reportItem merchantId w)

/-- `_refunds`: the day and the amount of each refund that succeeded in the window. -/
def Tables.refundsPaid (t : Tables) (merchantId : Nat) (w : Window) : List (Nat × Int) :=
  (t.refunds.select fun r => decide (r.merchantId = merchantId ∧ r.status = .succeeded)).filterMap fun e =>
    (e.2.completedAt.filter w.holds).map fun completedAt => (dayOf completedAt, e.2.amount)

/-- `_inventory_positions`: the positions of the merchant, each with its movements from `start` on. -/
def Tables.positionHistory (t : Tables) (merchantId : Nat) (start : Int) : List (StockPosition × List LedgerEntry) :=
  let positions := (t.positions.select fun row => decide (row.merchantId = some merchantId)).map Prod.snd
  let movements := oldestFirst LedgerEntry.createdAt (t.movements.select fun v => decide (
    v.skuId ∈ positions.map (fun row => row.skuId) ∧ v.warehouseId ∈ positions.map (fun row => row.warehouseId) ∧
      start ≤ v.createdAt))
  positions.map fun row => (row, (movements.filter fun e =>
    decide (e.2.warehouseId = row.warehouseId ∧ e.2.skuId = row.skuId)).map Prod.snd)

/-- `_on_hand`: what a position holds is what its next movement found, or what it holds now. -/
def onHand (positions : List (StockPosition × List LedgerEntry)) (instant : Int) : Int :=
  (positions.map fun e =>
    if instant ≤ e.1.createdAt then 0
    else match e.2.find? fun v => decide (instant ≤ v.createdAt) with
      | some v => v.beforeAvailable + v.beforeLocked
      | none => e.1.availableQty + e.1.lockedQty).sum

/-! ## Projections -/

/-- Amounts, summed by bucket. -/
def tally (granularity : Granularity) (rows : List (Nat × Int)) : Dict String Int :=
  rows.foldl (fun d row =>
    let key := bucket row.1 granularity
    d.set key ((d.get? key).getD 0 + row.2)) Dict.empty

/-- What a projection found: its value by bucket, its total, the total of the window before, and its dimensions. -/
structure Projection (ν : Type) where
  values : List (String × Option (Number ν))
  total : Option (Number ν)
  previous : Option (Number ν)
  dimensions : List (String × String × String) := []

/-- The sum of some amounts, when there are any. -/
def totalOf (amounts : List Int) : Option (Number ν) := if amounts = [] then none else some (.int amounts.sum)

/-- `_turnover`: twice the units sold over what was on hand at both ends. -/
def turnover (t : Tables) (merchantId : Nat) (w : Window) (granularity : Granularity) :
    List (String × Option (Number ν)) × Option (Number ν) :=
  let items := t.reportItems merchantId w
  let sold := soldByBucket granularity items
  if sold.entries = [] then ([], none)
  else
    let positions := t.positionHistory merchantId w.start
    let rate := fun (units start stop : Int) =>
      (ratio num (.int (units * 2)) (.int (onHand positions start + onHand positions stop))).map Number.float
    let result := sold.entries.map fun e =>
      let days := ((items.find? fun i => decide (bucket i.paidDay granularity = e.1)).map fun i =>
        bucketDays i.paidDay granularity).getD (0, 0)
      (e.1, rate e.2 (max (atStart days.1) w.start) (min (atStart days.2) w.stop))
    (result, rate sold.values.sum w.start w.stop)

/-- The first of the entries with the largest amount, and among those the smallest SKU. -/
def topSku : List ((Nat × String) × Int) → Option (Nat × String)
  | [] => none
  | e :: es =>
    let best := es.foldl (fun best e =>
      if best.2 < e.2 ∨ (best.2 = e.2 ∧ e.1.1 < best.1.1) then e else best) e
    some best.1

/-- The amounts of the lines, by SKU. -/
def bySku (items : List ReportItem) : Dict (Nat × String) Int :=
  items.foldl (fun d i => d.set (i.skuId, i.skuName) ((d.get? (i.skuId, i.skuName)).getD 0 + i.payableAmount)) Dict.empty

inductive Metric where
  | salesGmv
  | salesOrderCount
  | inventoryTurnover
  | productPerformance
  | refundRate
  deriving DecidableEq, Repr

def Metric.value : Metric → String
  | .salesGmv => "sales.gmv"
  | .salesOrderCount => "sales.order_count"
  | .inventoryTurnover => "inventory.turnover"
  | .productPerformance => "product.performance"
  | .refundRate => "refund.rate"

/-- `METRIC_UNITS`. -/
def Metric.unit : Metric → String
  | .salesGmv => "minor_currency"
  | .salesOrderCount => "count"
  | .inventoryTurnover => "ratio"
  | .productPerformance => "minor_currency"
  | .refundRate => "ratio"

/-- The entries of a tally as numbers. -/
def asNumbers (d : Dict String Int) : List (String × Option (Number ν)) := d.entries.map fun e => (e.1, some (.int e.2))

/-- One of the five projections, over a window and the window before. -/
def project (t : Tables) (merchantId : Nat) (w before : Window) (granularity : Granularity) : Metric → Projection ν
  | .salesGmv =>
    let paid := t.paid merchantId w
    { values := asNumbers (tally granularity paid)
      total := totalOf (paid.map Prod.snd)
      previous := totalOf ((t.paid merchantId before).map Prod.snd) }
  | .salesOrderCount =>
    let paid := (t.paid merchantId w).map fun e => (e.1, (1 : Int))
    { values := asNumbers (tally granularity paid)
      total := totalOf (paid.map Prod.snd)
      previous := totalOf ((t.paid merchantId before).map fun _ => 1) }
  | .productPerformance =>
    let items := t.reportItems merchantId w
    { values := asNumbers (tally granularity (items.map fun i => (i.paidDay, i.payableAmount)))
      total := totalOf (items.map ReportItem.payableAmount)
      previous := totalOf ((t.reportItems merchantId before).map ReportItem.payableAmount)
      dimensions := ((topSku (bySku items).entries).map fun top =>
        ("sku_id", "Top SKU", top.2 ++ " (#" ++ toString top.1 ++ ")")).toList }
  | .refundRate =>
    let refunds := t.refundsPaid merchantId w
    let paid := t.paid merchantId w
    let previousRefunds := t.refundsPaid merchantId before
    let previousPaid := t.paid merchantId before
    let refunded := tally granularity refunds
    let collected := tally granularity paid
    let keys := refunded.keys ++ collected.keys.filter fun key => decide (key ∉ refunded.keys)
    let rate := fun (refunds paid : List (Nat × Int)) => if refunds = [] ∧ paid = [] then none else
      (ratio num (.int (refunds.map Prod.snd).sum) (.int (paid.map Prod.snd).sum)).map Number.float
    { values := keys.map fun key => (key, (ratio num (.int ((refunded.get? key).getD 0))
        (.int ((collected.get? key).getD 0))).map Number.float)
      total := rate refunds paid
      previous := rate previousRefunds previousPaid
      dimensions := [
        ("refunded_amount", "Refunded minor units", toString refunded.values.sum),
        ("collected_amount", "Collected minor units", toString collected.values.sum)] }
  | .inventoryTurnover =>
    let (values, total) := turnover num t merchantId w granularity
    { values := values
      total := total
      previous := (turnover num t merchantId before granularity).2 }

/-! ## The report -/

/-- The document of a report. -/
structure MetricDocument (ν : Type) where
  metric : Metric
  fromDay : Int
  toDay : Int
  granularity : Granularity
  series : List (String × Option (Number ν))
  total : Option (Number ν)
  average : Option (Number ν)
  changeRatio : Option ν
  dimensions : List (String × String × String)

/-- The mean of the values; an amount of money is rounded. -/
def Metric.average (metric : Metric) (values : List (Number ν)) : Option (Number ν) :=
  if values = [] then none
  else if metric.unit = "minor_currency" then some (.int (num.round (num.mean values)))
  else some (.float (num.mean values))

/-- `_merchant` of the reports: the permission, and staff of a merchant. -/
def reportMerchant (principal : Identity.Principal) : Except AppError Nat := do
  principal.requirePermission "analytics:read"
  match principal.isStaff, principal.merchantId with
  | true, some m => return m
  | _, _ => .error { kind := .permissionDenied, message := "merchant staff account required" }

def metric (t : Tables) (principal : Identity.Principal) (metric : Metric) (fromDay toDay : Int) (granularity : Granularity) :
    Except AppError (MetricDocument ν) := do
  let merchantId ← reportMerchant principal
  Raise.raiseIf (toDay < fromDay ∨ 365 < toDay - fromDay)
    { kind := .validation, message := "analytics date range must contain 1 to 366 days" }
  let nextDay ← checkedDay (toDay + 1)
  let previousDay ← checkedDay (fromDay - (nextDay - fromDay))
  let found := project num t merchantId ⟨atStart fromDay, atStart nextDay⟩ ⟨atStart previousDay, atStart fromDay⟩ granularity
    metric
  return {
    metric := metric
    fromDay := fromDay
    toDay := toDay
    granularity := granularity
    series := found.values.insertionSort fun a b => a.1 ≤ b.1
    total := found.total
    average := metric.average num (found.values.filterMap Prod.snd)
    changeRatio := found.total.bind fun total => found.previous.bind fun previous =>
      ratio num (num.sub total previous) previous
    dimensions := found.dimensions }

end NovaCommerce.Console
