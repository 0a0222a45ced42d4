import NovaCommerce.Shop.Items

/-!
# Packages

* `Db.Packed` : packages hold something and belong to settled orders, an order's packages hold together what it
  asks for, and at most one of them is unshipped (`Change.packed`);
* `packages_conserve` : so it is after every run.
-/

namespace NovaCommerce

open Sql

/-- The order stays settled, or not settled. -/
def Order.SameSettled (o o' : Order) : Prop := o'.Settled ↔ o.Settled

/-- The units of an order line in all packages of an order. -/
def Db.packedQuantity (d : Db) (orderId orderItemId : Nat) : Int := d.unitsIn (fun _ => true) orderId orderItemId

structure Db.Packed (d : Db) : Prop where
  packages : ∀ k f, d.fulfillments.get? k = some f →
    f.Packed ∧ ∃ o, d.orders.get? f.orderId = some o ∧ o.Settled
  whole : ∀ i o, d.orders.get? i = some o → o.Settled → ∀ j, d.packedQuantity i j = d.orderedQuantity i j
  unshipped : ∀ k k' f f', d.fulfillments.get? k = some f → d.fulfillments.get? k' = some f' →
    f.orderId = f'.orderId → f.isShipped = false → f'.isShipped = false → k = k'

/-! ## Sums over packages -/

theorem packedQuantity_modify {d : Db} {id : Nat} {f : Fulfillment} (found : d.fulfillments.get? id = some f)
    (write : Fulfillment → Fulfillment) (hwrite : (write f).orderId = f.orderId) (i j : Nat) :
    ({ d with fulfillments := d.fulfillments.modify id write } : Db).packedQuantity i j =
      d.packedQuantity i j + if f.orderId = i then (write f).units j - f.units j else 0 := by
  unfold Db.packedQuantity Db.unitsIn
  dsimp only
  rw [Dict.total_modify found, hwrite]
  simp only [and_true]
  split_ifs <;> omega

theorem packedQuantity_set {d : Db} {id : Nat} (fresh : d.fulfillments.get? id = none) (f : Fulfillment) (i j : Nat) :
    ({ d with fulfillments := d.fulfillments.set id f } : Db).packedQuantity i j =
      d.packedQuantity i j + if f.orderId = i then f.units j else 0 := by
  unfold Db.packedQuantity Db.unitsIn
  dsimp only
  rw [Dict.total_set_fresh fresh]
  simp only [and_true]

/-- An order without packages. -/
theorem packedQuantity_none {d : Db} {i : Nat} (h : ∀ k f, d.fulfillments.get? k = some f → f.orderId ≠ i) (j : Nat) :
    d.packedQuantity i j = 0 := by
  unfold Db.packedQuantity Db.unitsIn
  refine Dict.total_eq_zero fun e he => if_neg fun hi => ?_
  exact h e.1 e.2 (Dict.get?_eq_some.mpr he) hi.1

/-- The units of an order line that did not leave yet. -/
def Db.openQuantity (d : Db) (orderId orderItemId : Nat) : Int :=
  d.unitsIn (fun f => !f.isShipped) orderId orderItemId

theorem packedQuantity_eq (d : Db) (i j : Nat) : d.packedQuantity i j = d.shippedQuantity i j + d.openQuantity i j := by
  unfold Db.packedQuantity Db.shippedQuantity Db.openQuantity Db.unitsIn
  rw [← Dict.total_add]
  refine Dict.total_congr fun e _ => ?_
  by_cases hi : e.2.orderId = i
  · cases hs : e.2.isShipped <;> simp [hi, hs]
  · simp [hi]

theorem openQuantity_nonneg {d : Db} (hd : d.Packed) (i j : Nat) : 0 ≤ d.openQuantity i j := by
  unfold Db.openQuantity Db.unitsIn
  refine Dict.total_nonneg fun e he => ?_
  have hunits := (hd.packages e.1 e.2 (Dict.get?_eq_some.mpr he)).1.units_nonneg j
  split_ifs
  · exact hunits
  · exact le_refl 0

/-- A package that did not leave holds its units back. -/
theorem openQuantity_ge {d : Db} (hd : d.Packed) {k : Nat} {f : Fulfillment} (hf : d.fulfillments.get? k = some f)
    (hopen : f.isShipped = false) (j : Nat) : f.units j ≤ d.openQuantity f.orderId j := by
  have hle := Dict.le_total (g := fun _ (g : Fulfillment) =>
    if g.orderId = f.orderId ∧ (!g.isShipped) = true then g.units j else 0) (fun e he => ?_) hf
  · rw [if_pos ⟨rfl, by rw [hopen]; rfl⟩] at hle
    exact hle
  · have hunits := (hd.packages e.1 e.2 (Dict.get?_eq_some.mpr he)).1.units_nonneg j
    split_ifs
    · exact hunits
    · exact le_refl 0

/-! ## Every change keeps the packages -/

/-- What is left of a whole order is what it asks for. -/
theorem unitsOf_items (d : Db) (i j : Nat) :
    unitsOf ((d.itemsFor i).map fun e => (e.1, e.2.quantity)) j = d.orderedQuantity i j := by
  have hdistinct : (((d.itemsFor i).map fun e => (e.1, e.2.quantity)).map Prod.fst).Nodup := by
    rw [List.map_map]
    exact d.orderItems.nodup.sublist (List.filter_sublist.map _)
  unfold Db.orderedQuantity
  by_cases hmem : ∃ item, (j, item) ∈ d.itemsFor i
  · obtain ⟨item, hmem⟩ := hmem
    obtain ⟨hget, howned⟩ := Dict.mem_select.mp hmem
    rw [hget]
    dsimp only
    rw [if_pos (of_decide_eq_true howned)]
    exact unitsOf_of_mem hdistinct (List.mem_map_of_mem (f := fun e : Nat × OrderItem => (e.1, e.2.quantity)) hmem)
  · rw [unitsOf_absent]
    · cases hget : d.orderItems.get? j with
      | none => rfl
      | some item =>
        refine (if_neg fun howned => hmem ⟨item, ?_⟩).symm
        exact Dict.mem_select.mpr ⟨hget, decide_eq_true howned⟩
    · intro hj
      rw [List.map_map] at hj
      obtain ⟨⟨j', item⟩, hitem, rfl⟩ := List.mem_map.mp hj
      exact hmem ⟨item, hitem⟩

/-- Packages that are left where they are. -/
theorem Db.Packed.kept {d d' : Db} (hd : d.Packed) (items : ItemsChanged d d')
    (orders : d.orders.Grows Order.SameSettled (fun o => ¬ o.Settled) d'.orders)
    (fulfillments : d'.fulfillments = d.fulfillments) : d'.Packed := by
  refine ⟨fun k f hf => ?_, fun i o' ho' hsettled j => ?_, ?_⟩
  · rw [fulfillments] at hf
    obtain ⟨hpacked, o, ho, hsettled⟩ := hd.packages k f hf
    obtain ⟨o', ho', hiff⟩ := orders.kept _ o ho
    exact ⟨hpacked, o', ho', hiff.mpr hsettled⟩
  · rcases orders.origin i o' ho' with ⟨o, ho, hiff⟩ | ⟨-, hnot⟩
    · rw [orderedQuantity_kept items ho, ← hd.whole i o ho (hiff.mp hsettled) j]
      unfold Db.packedQuantity Db.unitsIn
      rw [fulfillments]
    · exact absurd hsettled hnot
  · rw [fulfillments]
    exact hd.unshipped

/-- A row that keeps its place. -/
theorem grows_settled {d : Db} {orderId : Nat} {o : Order} {f : Order → Order} (row : d.orders.get? orderId = some o)
    (hf : (f o).Settled ↔ o.Settled) :
    d.orders.Grows Order.SameSettled (fun o => ¬ o.Settled) (d.orders.modify orderId f) := by
  refine Dict.grows_modify (fun _ => show Order.SameSettled _ _ from Iff.rfl) fun o' ho' => ?_
  rw [row] at ho'
  cases ho'
  exact hf

theorem Db.Quiet.packed {d d' : Db} (h : d.Quiet d') (fulfillments : d'.fulfillments = d.fulfillments)
    (hd : d.Packed) : d'.Packed := by
  refine hd.kept (.same h.orderItems) ⟨fun i o ho => ?_, fun i o' ho' => ?_⟩ fulfillments
  · obtain ⟨o', ho', hsame⟩ := h.orders.kept i o ho
    refine ⟨o', ho', ?_⟩
    unfold Order.SameSettled Order.Settled
    rw [hsame.orderStatus]
  · obtain ⟨o, ho, hsame⟩ := (h.orders.origin i o' ho').resolve_right fun hn => hn.2
    refine .inl ⟨o, ho, ?_⟩
    unfold Order.SameSettled Order.Settled
    rw [hsame.orderStatus]

/-- The shell of an order that is settled holds all it asks for. -/
theorem Db.Packed.shell {d : Db} (hd : d.Packed) {orderId next next' : Nat} {o : Order} {d' c : Db}
    (row : d.orders.get? orderId = some o) (pending : o.orderStatus = .pendingPayment) (itemized : d.Itemized)
    (items : d.itemsFor orderId ≠ []) (shell : ShellCreated orderId (d.itemsFor orderId) next d next' c)
    (fresh : d.fulfillments.get? next = none) {write : Order → Order} (hwrite : (write o).Settled)
    (orders : d'.orders = d.orders.modify orderId write) (orderItems : d'.orderItems = d.orderItems)
    (fulfillments : d'.fulfillments = c.fulfillments) : d'.Packed := by
  have hnone : ∀ k f, d.fulfillments.get? k = some f → f.orderId ≠ orderId := by
    intro k f hf heq
    obtain ⟨-, o', ho', hsettled⟩ := hd.packages k f hf
    rw [heq, row] at ho'
    cases ho'
    exact not_settled_of_pending pending hsettled
  have hself : d'.orders.get? orderId = some (write o) := by
    rw [orders, Dict.get?_modify_self, row]
    rfl
  have hothers : ∀ i, i ≠ orderId → d'.orders.get? i = d.orders.get? i := by
    intro i hi
    rw [orders, Dict.get?_modify_ne hi]
  have hordered : ∀ i j, d'.orderedQuantity i j = d.orderedQuantity i j := by
    intro i j
    unfold Db.orderedQuantity
    rw [orderItems]
  cases shell with
  | present found =>
    -- a pending order has no package
    obtain ⟨hget, hp⟩ := Dict.find?_some found
    exact absurd (of_decide_eq_true hp).1 (hnone _ _ hget)
  | @created f absent ofOrder unshipped lines =>
    have hpacked : f.Packed := by
      refine packed_of_lines lines (by simpa using items) (fun e he => ?_) ?_
      · obtain ⟨item, hitem, rfl⟩ := List.mem_map.mp he
        exact itemized.positive item.1 item.2 (Dict.mem_select.mp hitem).1
      · rw [List.map_map]
        exact d.orderItems.nodup.sublist (List.filter_sublist.map _)
    have hquantity : ∀ i j, d'.packedQuantity i j = d.packedQuantity i j + if f.orderId = i then f.units j else 0 := by
      intro i j
      rw [← packedQuantity_set fresh]
      unfold Db.packedQuantity Db.unitsIn
      rw [fulfillments]
    refine ⟨fun k g hg => ?_, fun i o' ho' hsettled j => ?_, fun k k' g g' hg hg' horder hopen hopen' => ?_⟩
    · rw [fulfillments] at hg
      by_cases hk : k = next
      · subst hk
        rw [Dict.get?_set_self] at hg
        cases hg
        rw [ofOrder]
        exact ⟨hpacked, _, hself, hwrite⟩
      · rw [Dict.get?_set_ne hk] at hg
        obtain ⟨hpacked, o', ho', hsettled⟩ := hd.packages k g hg
        refine ⟨hpacked, o', ?_, hsettled⟩
        rw [hothers _ (hnone k g hg), ho']
    · rw [hquantity, hordered, ofOrder]
      by_cases hi : i = orderId
      · subst hi
        rw [if_pos rfl, packedQuantity_none hnone, zero_add, Fulfillment.units, lines, unitsOf_items]
      · rw [hothers i hi] at ho'
        rw [if_neg (Ne.symm hi), add_zero]
        exact hd.whole i o' ho' hsettled j
    · rw [fulfillments] at hg hg'
      by_cases hk : k = next <;> by_cases hk' : k' = next
      · rw [hk, hk']
      · subst hk
        rw [Dict.get?_set_self] at hg
        rw [Dict.get?_set_ne hk'] at hg'
        cases hg
        exact absurd (horder.symm.trans ofOrder) (hnone k' g' hg')
      · subst hk'
        rw [Dict.get?_set_self] at hg'
        rw [Dict.get?_set_ne hk] at hg
        cases hg'
        exact absurd (horder.trans ofOrder) (hnone k g hg)
      · rw [Dict.get?_set_ne hk] at hg
        rw [Dict.get?_set_ne hk'] at hg'
        exact hd.unshipped k k' g g' hg hg' horder hopen hopen'

/-- The packages after a shipment: old ones, the one that left, and what was held back. -/
theorem residual_origin {f : Fulfillment} {id next next' k : Nat} {request : ShipFulfillmentRequest} {now : Time}
    {residual : List (Nat × Int)} {d c : Db} {g : Fulfillment} (found : d.fulfillments.get? id = some f)
    (hresidual : ResidualCreated f.orderId residual next
      { d with fulfillments := d.fulfillments.modify id (f.shippedWith request now) } next' c)
    (hg : c.fulfillments.get? k = some g) :
    (k ≠ id ∧ d.fulfillments.get? k = some g) ∨ (k = id ∧ g = f.shippedWith request now f) ∨
      (k = next ∧ g.orderId = f.orderId ∧ g.items.map FulfillmentItem.line = residual ∧ residual ≠ []) := by
  have hmodified : (d.fulfillments.modify id (f.shippedWith request now)).get? k = some g →
      (k ≠ id ∧ d.fulfillments.get? k = some g) ∨ (k = id ∧ g = f.shippedWith request now f) := by
    intro h
    by_cases hk : k = id
    · subst hk
      rw [Dict.get?_modify_self, found] at h
      exact .inr ⟨rfl, (Option.some.inj h).symm⟩
    · rw [Dict.get?_modify_ne hk] at h
      exact .inl ⟨hk, h⟩
  cases hresidual with
  | whole empty =>
    rcases hmodified hg with h | h
    · exact .inl h
    · exact .inr (.inl h)
  | split ofOrder unshipped lines held =>
    dsimp only at hg
    by_cases hk : k = next
    · subst hk
      rw [Dict.get?_set_self] at hg
      cases hg
      exact .inr (.inr ⟨rfl, ofOrder, lines, held⟩)
    · rw [Dict.get?_set_ne hk] at hg
      rcases hmodified hg with h | h
      · exact .inl h
      · exact .inr (.inl h)

/-- A shipment moves units from one package to two. -/
theorem residual_quantity {f : Fulfillment} {id next next' : Nat} {request : ShipFulfillmentRequest} {now : Time}
    {residual : List (Nat × Int)} {d c : Db} (found : d.fulfillments.get? id = some f)
    (fresh : d.fulfillments.get? next = none)
    (hunits : ∀ j, (f.shippedWith request now f).units j + unitsOf residual j = f.units j)
    (hresidual : ResidualCreated f.orderId residual next
      { d with fulfillments := d.fulfillments.modify id (f.shippedWith request now) } next' c) (i j : Nat) :
    c.packedQuantity i j = d.packedQuantity i j := by
  have hmodified := packedQuantity_modify found (f.shippedWith request now) rfl i j
  have hunits := hunits j
  cases hresidual with
  | whole empty =>
    have hzero : unitsOf residual j = 0 := by
      rw [empty]
      rfl
    rw [hmodified]
    split_ifs <;> omega
  | @split p ofOrder unshipped lines held =>
    have hp : p.units j = unitsOf residual j := by
      unfold Fulfillment.units
      rw [lines]
    have hset := packedQuantity_set (d := { d with
      fulfillments := d.fulfillments.modify id (f.shippedWith request now) }) (Dict.get?_modify_none fresh _ _) p i j
    rw [hmodified, ofOrder] at hset
    rw [hset]
    split_ifs <;> omega

theorem PackageShipped.packed {next next' : Nat} {d d' : Db} (h : PackageShipped next d next' d')
    (hfresh : d.FreshFrom next) (hd : d.Packed) : d'.Packed := by
  have hitems : ItemsChanged d d' := .same h.quiet.orderItems
  cases h with
  | @mk id _ f order request now axis c found ofOrder unshipped carried kept residual =>
    obtain ⟨hf, o, ho, hsettled⟩ := hd.packages id f found
    rw [ofOrder] at ho
    cases ho
    obtain ⟨hshipped, hresidual, hunits⟩ := hf.shipped now carried kept
    have hquantity := residual_quantity found (hfresh next (le_refl _)).fulfillments hunits residual
    have hpackages := fun k g hg => residual_origin (k := k) (g := g) found residual hg
    have horders : d.orders.Grows Order.SameSettled (fun o => ¬ o.Settled)
        (d.orders.modify f.orderId fun row => { row with fulfillmentStatus := axis }) :=
      grows_settled ofOrder Iff.rfl
    have hkeeps : ∀ i o, d.orders.get? i = some o → o.Settled →
        ∃ o', (d.orders.modify f.orderId fun row => { row with fulfillmentStatus := axis }).get? i = some o' ∧
          o'.Settled := by
      intro i o ho hsettled
      obtain ⟨o', ho', hsame⟩ := horders.kept i o ho
      exact ⟨o', ho', hsame.mpr hsettled⟩
    -- of the packages of this order that are still open, only the residual is left
    have hopen : ∀ k g, c.fulfillments.get? k = some g → g.isShipped = false → g.orderId = f.orderId → k = next := by
      intro k g hg hopen horder
      rcases hpackages k g hg with ⟨hk, hold⟩ | ⟨-, rfl⟩ | ⟨hk, -⟩
      · exact absurd (hd.unshipped k id g f hold found horder hopen unshipped) hk
      · cases hopen
      · exact hk
    refine ⟨fun k g hg => ?_, fun i o' ho' hsettled' j => ?_, fun k k' g g' hg hg' horder hu hu' => ?_⟩
    · rcases hpackages k g hg with ⟨-, hold⟩ | ⟨-, rfl⟩ | ⟨-, hof, hlines, hheld⟩
      · obtain ⟨hpacked, o, ho, hs⟩ := hd.packages k g hold
        exact ⟨hpacked, hkeeps _ o ho hs⟩
      · exact ⟨hshipped, hkeeps _ order ofOrder hsettled⟩
      · rw [hof]
        exact ⟨hresidual g hlines hheld, hkeeps _ order ofOrder hsettled⟩
    · rcases horders.origin i o' ho' with ⟨o, ho, hsame⟩ | ⟨-, hnot⟩
      · rw [orderedQuantity_kept hitems ho, ← hd.whole i o ho (hsame.mp hsettled') j]
        exact hquantity i j
      · exact absurd hsettled' hnot
    · rcases hpackages k g hg with ⟨hk, hold⟩ | ⟨-, rfl⟩ | ⟨hk, hof, -⟩
      · rcases hpackages k' g' hg' with ⟨hk', hold'⟩ | ⟨-, rfl⟩ | ⟨-, hof', -⟩
        · exact hd.unshipped k k' g g' hold hold' horder hu hu'
        · cases hu'
        · exact absurd (hd.unshipped k id g f hold found (horder.trans hof') hu unshipped) hk
      · cases hu
      · rw [hk, hopen k' g' hg' hu' (horder.symm.trans hof)]

theorem Trade.packed {env : Deployment} {terms : Terms} {s s' : Shop} (h : Trade env terms s s')
    (hfresh : s.db.FreshFrom s.next) (itemized : s.db.Itemized) (hd : s.db.Packed) : s'.db.Packed := by
  have hitems := (Change.traded h).itemsChanged hfresh
  cases h with
  | created created =>
    cases created with
    | mk merged unclaimed unordered window priced checked coupon stock items event =>
      obtain ⟨outbox, hframe, -⟩ := event.frame
      dsimp only at hitems ⊢
      rw [hframe] at hitems ⊢
      refine hd.kept hitems (Dict.grows_set (fun _ => show Order.SameSettled _ _ from Iff.rfl)
        (hfresh _ (Nat.le_succ _)).orders ?_) rfl
      rintro (h | h) <;> cases h
  | claimed claimed =>
    cases claimed with
    | mk _ _ _ _ _ _ _ =>
      exact hd.kept hitems (Dict.grows_refl (fun _ => show Order.SameSettled _ _ from Iff.rfl) _) rfl
  | swept swept =>
    cases swept with
    | mk _ _ => exact hd.kept hitems (Dict.grows_refl (fun _ => show Order.SameSettled _ _ from Iff.rfl) _) rfl
  | ended row pending held ending ended =>
    obtain ⟨d₁, d₂, -, -, rfl⟩ := ended.parts
    exact hd.kept hitems (grows_settled row (iff_of_false (ending.ended _).not_settled (not_settled_of_pending pending))) rfl
  | settled settling pending items coupon stock shell event =>
    obtain ⟨c₁, c₂, c₃, outbox, -, -, hshell, rfl⟩ := settled_parts coupon stock shell event
    exact hd.shell settling.order pending itemized items hshell (hfresh _ (le_refl _)).fulfillments (.inl rfl) rfl rfl rfl
  | confirmed confirmed =>
    cases confirmed with
    | mk row processing => exact hd.kept hitems (grows_settled row ⟨fun _ => .inl processing, fun _ => .inr rfl⟩) rfl

/-- Bookings leave packages where they are. -/
theorem Booking.fulfillments {terms : Terms} {s s' : Shop} (h : Booking terms s s') :
    s'.db.fulfillments = s.db.fulfillments := by
  cases h with
  | drawn _ => rfl
  | called _ _ => rfl
  | attempted created =>
    cases created with
    | replayed => rfl
    | created _ _ _ _ _ _ _ _ _ _ _ => rfl
  | late settling closed first checked ensured =>
    cases ensured with
    | present _ => rfl
    | created _ _ _ _ _ _ => rfl
  | parked => rfl
  | compensated compensated =>
    cases compensated with
    | mk _ _ _ _ _ => rfl

theorem Booking.packed {terms : Terms} {s s' : Shop} (h : Booking terms s s') (hd : s.db.Packed) : s'.db.Packed :=
  h.quiet.packed h.fulfillments hd

theorem Change.packed {env : Deployment} {terms : Terms} {s s' : Shop} (h : Change env terms s s')
    (hfresh : s.db.FreshFrom s.next) (itemized : s.db.Itemized) (hd : s.db.Packed) : s'.db.Packed := by
  cases h with
  | booked booking => exact booking.packed hd
  | traded trade => exact trade.packed hfresh itemized hd
  | shipped shipped => exact shipped.packed hfresh hd

theorem Shop.Opening.packed {s : Shop} (h : s.Opening) : s.db.Packed := by
  have hnone : ∀ {k f}, s.db.fulfillments.get? k = some f → False := by
    intro k f hf
    rw [h.fulfillments] at hf
    cases hf
  refine ⟨fun k f hf => (hnone hf).elim, fun i o ho => ?_, fun k _ f _ hf => (hnone hf).elim⟩
  rw [h.orders] at ho
  cases ho

/-! ## Every run -/

/-- Nothing is left to ship of an order exactly when all it asks for has left. -/
theorem Db.Packed.shipped_iff {d : Db} (hd : d.Packed) {i : Nat} {o : Order} (ho : d.orders.get? i = some o)
    (hsettled : o.Settled) : (∀ j, d.shippedQuantity i j = d.orderedQuantity i j) ↔
      ∀ k f, d.fulfillments.get? k = some f → f.orderId = i → f.isShipped = true := by
  constructor
  · intro hall k f hf hof
    by_contra hopen
    rw [Bool.not_eq_true] at hopen
    obtain ⟨j, hj⟩ := (hd.packages k f hf).1.units_pos
    -- the units of an unshipped package are missing in the sum over the shipped ones
    have hwhole := hd.whole i o ho hsettled j
    have hmissing := openQuantity_ge hd hf hopen j
    rw [packedQuantity_eq, hall j, hof] at *
    omega
  · intro hall j
    have hnone : d.openQuantity i j = 0 := by
      unfold Db.openQuantity Db.unitsIn
      refine Dict.total_eq_zero fun e he => if_neg ?_
      rintro ⟨hof, hopen⟩
      dsimp only at hopen
      rw [hall e.1 e.2 (Dict.get?_eq_some.mpr he) hof] at hopen
      cases hopen
    rw [← hd.whole i o ho hsettled j, packedQuantity_eq, hnone, add_zero]

/-- After every run the packages of a settled order hold together what it asks for, line by line, and at most that
has left; no package is empty or holds less than one unit of a line; and an order has at most one package that
did not leave, and none exactly when everything has left. -/
theorem packages_conserve {env : Deployment} {s : Shop} (h : s.Opening) (ops : List (Op × Nat)) :
    let d := (s.run env ops).db
    (∀ k f, d.fulfillments.get? k = some f → f.Packed ∧ ∃ o, d.orders.get? f.orderId = some o ∧ o.Settled) ∧
    (∀ i o, d.orders.get? i = some o → o.Settled → ∀ j,
      d.packedQuantity i j = d.orderedQuantity i j ∧ d.shippedQuantity i j ≤ d.orderedQuantity i j) ∧
    (∀ k k' f f', d.fulfillments.get? k = some f → d.fulfillments.get? k' = some f' → f.orderId = f'.orderId →
      f.isShipped = false → f'.isShipped = false → k = k') ∧
    ∀ i o, d.orders.get? i = some o → o.Settled → ((∀ j, d.shippedQuantity i j = d.orderedQuantity i j) ↔
      ∀ k f, d.fulfillments.get? k = some f → f.orderId = i → f.isShipped = true) := by
  have hrun := run_keeps (I := fun s => s.db.FreshFrom s.next ∧ s.db.Itemized ∧ s.db.Packed)
    (fun s s' (hchange : Change env {} s s') hs => ⟨hchange.fresh hs.1, hchange.itemized hs.1 hs.2.1, hchange.packed hs.1 hs.2.1 hs.2.2⟩)
    ⟨h.fresh, h.itemized, h.packed⟩ ops
  obtain ⟨-, -, hpacked⟩ := hrun
  refine ⟨hpacked.packages, fun i o ho hsettled j => ⟨hpacked.whole i o ho hsettled j, ?_⟩, hpacked.unshipped,
    fun i o ho hsettled => hpacked.shipped_iff ho hsettled⟩
  have hopen := openQuantity_nonneg hpacked i j
  rw [← hpacked.whole i o ho hsettled j, packedQuantity_eq]
  omega

/-- A parcel with one of the two cups. -/
def sampleParcel : Op :=
  .ship { userId := 2, merchantId := some 1, isStaff := true, permissions := ["fulfillment:ship"] } 15 .sf "SF1"
    [(12, 1)] sampleNoon

/-- The two cups of the small shop, in two packages. -/
theorem packages_conserve_cups :
    let d := (sampleShop.run sampleProvider (samplePaid ++ [(sampleParcel, 1000)])).db
    d.fulfillments.keys = [15, 16] ∧
    (∀ k f, d.fulfillments.get? k = some f → f.Packed ∧ ∃ o, d.orders.get? f.orderId = some o ∧ o.Settled) ∧
    (∀ i o, d.orders.get? i = some o → o.Settled → ∀ j,
      d.packedQuantity i j = d.orderedQuantity i j ∧ d.shippedQuantity i j ≤ d.orderedQuantity i j) ∧
    (∀ k k' f f', d.fulfillments.get? k = some f → d.fulfillments.get? k' = some f' → f.orderId = f'.orderId →
      f.isShipped = false → f'.isShipped = false → k = k') ∧
    ∀ i o, d.orders.get? i = some o → o.Settled → ((∀ j, d.shippedQuantity i j = d.orderedQuantity i j) ↔
      ∀ k f, d.fulfillments.get? k = some f → f.orderId = i → f.isShipped = true) :=
  ⟨by decide +kernel, packages_conserve sampleShop_opening _⟩

end NovaCommerce
