import NovaCommerce.Shop.Consistency

/-!
# Order lines

* `ItemsChanged` : a change leaves the lines as they are, or makes an order with its lines
  (`Change.itemsChanged`);
* `Db.Itemized` : every line belongs to an order, in a positive quantity, and an order has one line for a SKU
  (`Change.itemized`);
* `Db.orderedQuantity` : what an order asks for on a line; it never changes (`orderedQuantity_kept`).
-/

namespace NovaCommerce

open Sql

/-! ## The lines of a new order -/

theorem ItemRows.skuIds {orderId warehouseId : Nat} {lines : List OrderLineInput} {rows : List OrderItem}
    (h : ItemRows orderId warehouseId lines rows) :
    rows.map OrderItem.skuId = lines.map OrderLineInput.skuId := by
  have hfst := congrArg (List.map Prod.fst) h.lines
  rw [List.map_map, List.map_map] at hfst
  exact hfst

theorem ItemRows.positive {orderId warehouseId : Nat} {lines : List OrderLineInput} {rows : List OrderItem}
    (h : ItemRows orderId warehouseId lines rows) (merged : MergedLines lines) : ∀ row ∈ rows, 0 < row.quantity := by
  intro row hrow
  have hmem : (row.skuId, row.quantity) ∈ rows.map fun row => (row.skuId, row.quantity) := List.mem_map_of_mem hrow
  rw [h.lines] at hmem
  obtain ⟨line, hline, heq⟩ := List.mem_map.mp hmem
  rw [← (Prod.mk.inj heq).2]
  exact merged.positive line hline

/-- Two rows of one SKU are one row. -/
theorem ItemRows.unique {orderId warehouseId n m : Nat} {lines : List OrderLineInput} {rows : List OrderItem}
    {a b : OrderItem} (h : ItemRows orderId warehouseId lines rows) (merged : MergedLines lines)
    (ha : rows[n]? = some a) (hb : rows[m]? = some b) (hab : a.skuId = b.skuId) : n = m := by
  have hskus : (rows.map OrderItem.skuId).Nodup := by
    rw [h.skuIds]
    exact merged.nodup
  have hn : (rows.map OrderItem.skuId)[n]? = some a.skuId := by rw [List.getElem?_map, ha]; rfl
  have hm : (rows.map OrderItem.skuId)[m]? = some b.skuId := by rw [List.getElem?_map, hb]; rfl
  have hlt := (List.getElem?_eq_some_iff.mp hn).choose
  refine (List.getElem?_inj hlt hskus).mp ?_
  rw [hn, hm, hab]

/-! ## What a change does to lines -/

/-- A change leaves the lines alone, or makes one order with its lines. -/
inductive ItemsChanged (d d' : Db) : Prop where
  | same (orderItems : d'.orderItems = d.orderItems)
  | made {orderId warehouseId next : Nat} {lines : List OrderLineInput} {rows : List OrderItem} {order : Order}
      (merged : MergedLines lines) (items : ItemRows orderId warehouseId lines rows)
      (freshOrder : d.orders.get? orderId = none) (freshItems : ∀ j, next ≤ j → d.orderItems.get? j = none)
      (orders : d'.orders = d.orders.set orderId order)
      (orderItems : d'.orderItems = d.orderItems.setFrom next rows)

theorem Change.itemsChanged {env : Deployment} {terms : Terms} {s s' : Shop} (h : Change env terms s s')
    (hs : s.db.FreshFrom s.next) : ItemsChanged s.db s'.db := by
  cases h with
  | booked booking => exact .same booking.quiet.orderItems
  | shipped shipped => exact .same shipped.quiet.orderItems
  | traded trade =>
    cases trade with
    | created created =>
      cases created with
      | mk merged unclaimed unordered window priced checked coupon stock items event =>
        obtain ⟨outbox, hframe, -⟩ := event.frame
        dsimp only
        rw [hframe]
        have hitems : ∀ j, s.next + 2 ≤ j → s.db.orderItems.get? j = none := fun j hj => (hs j (by omega)).orderItems
        exact .made merged items (hs _ (Nat.le_succ _)).orders hitems rfl rfl
    | claimed claimed =>
      cases claimed with
      | mk _ _ _ _ _ _ _ => exact .same rfl
    | swept swept =>
      cases swept with
      | mk _ _ => exact .same rfl
    | ended row pending held ending ended =>
      obtain ⟨d₁, d₂, -, -, rfl⟩ := ended.parts
      exact .same rfl
    | settled settling pending items coupon stock shell event =>
      obtain ⟨c₁, c₂, c₃, outbox, -, -, -, rfl⟩ := settled_parts coupon stock shell event
      exact .same rfl
    | confirmed confirmed =>
      cases confirmed with
      | mk row processing => exact .same rfl

/-- A line of the new table is an old one, or a row that was written. -/
theorem inserted_origin {d d' : Db} {next : Nat} {rows : List OrderItem}
    (orderItems : d'.orderItems = d.orderItems.setFrom next rows) {j : Nat} {i : OrderItem}
    (hi : d'.orderItems.get? j = some i) :
    d.orderItems.get? j = some i ∨ ∃ n, j = next + n ∧ rows[n]? = some i := by
  rw [orderItems] at hi
  rcases Dict.get?_setFrom_origin hi with ⟨-, hold⟩ | hnew
  · exact .inl hold
  · exact .inr hnew

/-- Lines are never rewritten, and new ones belong to orders that were not there. -/
theorem ItemsChanged.grow {d d' : Db} (h : ItemsChanged d d') :
    d.orderItems.Grows Eq (fun i => d.orders.get? i.orderId = none) d'.orderItems := by
  cases h with
  | same orderItems =>
    rw [orderItems]
    exact Dict.grows_refl (fun _ => rfl) _
  | @made orderId _ next _ rows _ merged items freshOrder freshItems orders orderItems =>
    constructor
    · intro j i hi
      have hj : j < next := by
        by_contra hge
        rw [freshItems j (not_lt.mp hge)] at hi
        cases hi
      refine ⟨i, ?_, rfl⟩
      rw [orderItems, Dict.get?_setFrom_lt hj, hi]
    · intro j i hi
      rcases inserted_origin orderItems hi with hi | ⟨n, rfl, hn⟩
      · exact .inl ⟨i, hi, rfl⟩
      · refine .inr ⟨freshItems _ (Nat.le_add_right _ _), ?_⟩
        rw [(items.owned i (List.mem_of_getElem? hn)).1, freshOrder]

/-! ## The lines of an order -/

/-- What the lines of orders say of themselves. -/
structure Db.Itemized (d : Db) : Prop where
  owned : ∀ j i, d.orderItems.get? j = some i → ∃ o, d.orders.get? i.orderId = some o
  positive : ∀ j i, d.orderItems.get? j = some i → 0 < i.quantity
  distinct : ∀ j k a b, d.orderItems.get? j = some a → d.orderItems.get? k = some b → a.orderId = b.orderId →
    a.skuId = b.skuId → j = k

theorem ItemsChanged.itemized {d d' : Db} (h : ItemsChanged d d') (hd : d.Itemized)
    (kept : ∀ i o, d.orders.get? i = some o → ∃ o', d'.orders.get? i = some o') : d'.Itemized := by
  cases h with
  | same orderItems =>
    constructor
    · intro j i hi
      rw [orderItems] at hi
      obtain ⟨o, ho⟩ := hd.owned j i hi
      exact kept _ o ho
    · rw [orderItems]
      exact hd.positive
    · rw [orderItems]
      exact hd.distinct
  | @made orderId _ next _ rows order merged items freshOrder freshItems orders orderItems =>
    have hold : ∀ j i, d.orderItems.get? j = some i → i.orderId ≠ orderId := by
      intro j i hi heq
      obtain ⟨o, ho⟩ := hd.owned j i hi
      rw [heq, freshOrder] at ho
      cases ho
    have hnew : ∀ {n : Nat} {i : OrderItem}, rows[n]? = some i → i.orderId = orderId := fun hn =>
      (items.owned _ (List.mem_of_getElem? hn)).1
    refine ⟨fun j i hi => ?_, fun j i hi => ?_, fun j k a b ha hb horder hsku => ?_⟩
    · rcases inserted_origin orderItems hi with hi | ⟨n, -, hn⟩
      · obtain ⟨o, ho⟩ := hd.owned j i hi
        exact kept _ o ho
      · rw [orders, hnew hn, Dict.get?_set_self]
        exact ⟨order, rfl⟩
    · rcases inserted_origin orderItems hi with hi | ⟨n, -, hn⟩
      · exact hd.positive j i hi
      · exact items.positive merged i (List.mem_of_getElem? hn)
    · rcases inserted_origin orderItems ha with ha | ⟨n, rfl, hn⟩ <;>
        rcases inserted_origin orderItems hb with hb | ⟨m, rfl, hm⟩
      · exact hd.distinct j k a b ha hb horder hsku
      · exact absurd (horder.trans (hnew hm)) (hold j a ha)
      · exact absurd (horder.symm.trans (hnew hn)) (hold k b hb)
      · rw [items.unique merged hn hm hsku]

theorem Change.itemized {env : Deployment} {terms : Terms} {s s' : Shop} (h : Change env terms s s')
    (hs : s.db.FreshFrom s.next) (hd : s.db.Itemized) : s'.db.Itemized := by
  refine (h.itemsChanged hs).itemized hd fun i o ho => ?_
  obtain ⟨o', ho', -⟩ := (h.orders_grow hs).kept i o ho
  exact ⟨o', ho'⟩

theorem Shop.Opening.itemized {s : Shop} (h : s.Opening) : s.db.Itemized := by
  have hnone : ∀ {j i}, s.db.orderItems.get? j = some i → False := by
    intro j i hi
    rw [h.orderItems] at hi
    cases hi
  exact ⟨fun _ _ hi => (hnone hi).elim, fun _ _ hi => (hnone hi).elim, fun _ _ _ _ ha => (hnone ha).elim⟩

/-- What an order asks for on a line. -/
def Db.orderedQuantity (d : Db) (orderId orderItemId : Nat) : Int :=
  match d.orderItems.get? orderItemId with
  | some i => if i.orderId = orderId then i.quantity else 0
  | none => 0

/-- No change moves what an order asks for. -/
theorem orderedQuantity_kept {d d' : Db} (h : ItemsChanged d d') {orderId : Nat} {o : Order}
    (ho : d.orders.get? orderId = some o) (j : Nat) : d'.orderedQuantity orderId j = d.orderedQuantity orderId j := by
  unfold Db.orderedQuantity
  cases hi : d.orderItems.get? j with
  | some i =>
    obtain ⟨_, hi', rfl⟩ := h.grow.kept j i hi
    rw [hi']
  | none =>
    cases hi' : d'.orderItems.get? j with
    | none => rfl
    | some i =>
      rcases h.grow.origin j i hi' with ⟨_, hold, -⟩ | ⟨-, hfresh⟩
      · rw [hi] at hold
        cases hold
      · refine if_neg fun heq => ?_
        rw [heq, ho] at hfresh
        cases hfresh

end NovaCommerce
