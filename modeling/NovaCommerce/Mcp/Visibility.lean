import NovaCommerce.Mcp.Callable

/-!
# Orders and their packages

The order tool narrows its query to the caller. The fulfillment tool loads the first order of the number, of any
merchant, and checks its owner by rules of its own.

* `seesOrder`, `seesPackages` : the two rules;
* `VisibleTogether` : both tools answer for the same order, or both say that there is none;
* `visibleTogether_iff` : when they do.
-/

namespace NovaCommerce.Mcp

open Console

/-! ## The two rules -/

/-- The rows of the order tool: the caller's own, or for the console those of the caller's merchant, unless the scope is
the widest. -/
def seesOrder (principal : Identity.Principal) (o : PlacedOrder) : Bool :=
  if principal.console then decide (principal.dataScope = .all ∨ principal.merchantId = some o.merchantId)
  else decide (o.userId = principal.userId)

/-- The owners that the fulfillment tool accepts. -/
def seesPackages (principal : Identity.Principal) (o : PlacedOrder) : Bool :=
  if principal.isStaff then decide (∀ m ∈ principal.merchantId, o.merchantId = m)
  else decide (o.userId = principal.userId)

/-- The first order of the number that the order tool may show. -/
def shownOrder (t : Tables) (principal : Identity.Principal) (orderNo : String) : Option (Nat × PlacedOrder) :=
  t.orders.find? fun o => decide (o.orderNo = orderNo) && seesOrder principal o

/-- The first order of the number, of any merchant. -/
def firstOrder (t : Tables) (orderNo : String) : Option (Nat × PlacedOrder) :=
  t.orders.find? fun o => decide (o.orderNo = orderNo)

/-! ## The two tools -/

/-- Not found. -/
def Missing {α : Type} (answer : Except Failure α) : Prop :=
  ∃ f : Failure, answer = .error f ∧ f.error.kind = .orderNotFound

theorem orderGet_eq (t : Tables) {principal : Identity.Principal} (orderNo : String)
    (hread : "order:read" ∈ principal.permissions) (hserves : Tool.orderGet.Serves principal) :
    orderGet t principal orderNo = match shownOrder t principal orderNo with
      | some (id, o) => .ok { orderSummary id o with expiresAt := o.expiresAt, paidAt := o.paidAt }
      | none => .error { error := orderNotFound orderNo } := by
  -- whichever service answers, its query has the rows of `seesOrder`
  have hanswer : ∀ {merchantId userId : Option Nat},
      (∀ o : PlacedOrder, seesOrder principal o = decide ((∀ m ∈ merchantId, o.merchantId = m) ∧
        ∀ u ∈ userId, o.userId = u)) →
      t.orderByNo orderNo merchantId userId = shownOrder t principal orderNo := by
    intro merchantId userId hsees
    unfold Tables.orderByNo shownOrder
    refine congrArg t.orders.find? (funext fun o => ?_)
    rw [hsees, Bool.decide_and]
  unfold orderGet
  by_cases hconsole : principal.console = true
  · have hrow : ∀ o : PlacedOrder, seesOrder principal o =
        decide (principal.dataScope = .all ∨ principal.merchantId = some o.merchantId) := fun o => if_pos hconsole
    obtain ⟨merchantId, hfilter, hsees⟩ : ∃ merchantId, merchantFilter principal = .ok merchantId ∧
        ∀ o : PlacedOrder, seesOrder principal o = decide ((∀ m ∈ merchantId, o.merchantId = m) ∧
          ∀ u ∈ (none : Option Nat), o.userId = u) := by
      unfold merchantFilter
      by_cases hall : principal.dataScope = .all
      · rw [if_pos hall]
        exact ⟨none, rfl, fun o => by simp [hrow, hall]⟩
      · rw [if_neg hall]
        cases hmerchant : principal.merchantId with
        | none => exact absurd hmerchant ((hserves hconsole).resolve_left hall)
        | some m => exact ⟨some m, rfl, fun o => by simp [hrow, hall, hmerchant, eq_comm]⟩
    rw [if_pos hconsole]
    unfold adminOrder
    rw [requirePermission_ok hread, hfilter, Raise.ok_bind, Raise.ok_bind, hanswer hsees]
    cases shownOrder t principal orderNo <;> rfl
  · have hsees : ∀ o : PlacedOrder, seesOrder principal o = decide ((∀ m ∈ (none : Option Nat), o.merchantId = m) ∧
        ∀ u ∈ some principal.userId, o.userId = u) := by
      intro o
      unfold seesOrder
      rw [if_neg hconsole]
      simp
    rw [if_neg hconsole]
    unfold customerOrder
    rw [hanswer hsees]
    cases shownOrder t principal orderNo <;> rfl

/-- A caller that the service does not serve is refused before any order is read. -/
theorem orderGet_refuses (t : Tables) {principal : Identity.Principal} (orderNo : String)
    (hread : "order:read" ∈ principal.permissions) (hserves : ¬Tool.orderGet.Serves principal) :
    Raise.Fails (fun f : Failure => f.error.RefusesCaller) (orderGet t principal orderNo) := by
  obtain ⟨hconsole, hmerchant⟩ := Classical.not_imp.mp hserves
  unfold orderGet
  rw [if_pos hconsole]
  refine Raise.Fails.bind (fails_service ?_) _
  exact Raise.Fails.after (requirePermission_ok hread) ((merchantFilter_fails hmerchant).bind _)

theorem fulfillmentGet_eq (t : Tables) (principal : Identity.Principal) (orderNo : String) :
    fulfillmentGet t principal orderNo = match firstOrder t orderNo with
      | some (id, o) =>
        if seesPackages principal o then .ok ⟨orderNo, (t.listForOrder id).map fulfillmentOut⟩
        else .error { error := orderMissing }
      | none => .error { error := orderMissing } := by
  have hfirst : t.orderByNo orderNo none none = firstOrder t orderNo := by
    unfold Tables.orderByNo firstOrder
    refine congrArg t.orders.find? (funext fun o => ?_)
    simp
  unfold fulfillmentGet forOrderNo
  rw [hfirst]
  cases firstOrder t orderNo with
  | none => rfl
  | some e =>
    obtain ⟨id, o⟩ := e
    rw [Raise.orRaise]
    dsimp only
    rw [Raise.ok_bind]
    unfold seesPackages
    by_cases hstaff : principal.isStaff = true
    · rw [if_pos hstaff, if_pos hstaff]
      by_cases hmerchant : ∀ m ∈ principal.merchantId, o.merchantId = m
      · have hraise : ¬∃ m ∈ principal.merchantId, o.merchantId ≠ m := by
          rintro ⟨m, hm, hne⟩
          exact hne (hmerchant m hm)
        rw [Raise.raiseIf_neg hraise, if_pos (decide_eq_true hmerchant)]
        rfl
      · have hraise : ∃ m ∈ principal.merchantId, o.merchantId ≠ m := by
          push Not at hmerchant
          exact hmerchant
        rw [Raise.raiseIf_pos hraise, if_neg fun htrue => hmerchant (of_decide_eq_true htrue)]
        rfl
    · rw [if_neg hstaff, if_neg hstaff]
      by_cases howner : o.userId = principal.userId
      · rw [Raise.raiseIf_neg (not_not_intro howner), if_pos (decide_eq_true howner)]
        rfl
      · rw [Raise.raiseIf_pos howner, if_neg fun htrue => howner (of_decide_eq_true htrue)]
        rfl

/-! ## Agreement -/

/-- The order tool returns an order and the fulfillment tool the packages of that order, or both say that there is
none. -/
def VisibleTogether (t : Tables) (principal : Identity.Principal) (orderNo : String) : Prop :=
  (∃ order packages, orderGet t principal orderNo = .ok order ∧ fulfillmentGet t principal orderNo = .ok packages ∧
    packages.packages = (t.listForOrder order.id).map fulfillmentOut) ∨
  (Missing (orderGet t principal orderNo) ∧ Missing (fulfillmentGet t principal orderNo))

/-- The order rule shows an order of the number, and it is the first one and the package rule accepts it (or the package
rule accepts the first one and neither has packages); or it shows none, and the package rule refuses the first one. -/
def RulesAgree (t : Tables) (principal : Identity.Principal) (orderNo : String) : Prop :=
  match firstOrder t orderNo, shownOrder t principal orderNo with
  | none, _ => True
  | some first, none => seesPackages principal first.2 = false
  | some first, some shown => seesPackages principal first.2 = true ∧
    (first.1 = shown.1 ∨ (t.listForOrder first.1 = [] ∧ t.listForOrder shown.1 = []))

theorem shownOrder_none {t : Tables} {principal : Identity.Principal} {orderNo : String}
    (hfirst : firstOrder t orderNo = none) : shownOrder t principal orderNo = none := by
  unfold firstOrder at hfirst
  unfold shownOrder
  rw [Dict.find?_none] at hfirst ⊢
  intro e he htrue
  rw [Bool.and_eq_true] at htrue
  exact hfirst e he htrue.1

/-- The packages that the tools return name their order. -/
theorem listForOrder_orderId {t : Tables} {id : Nat} {e : Nat × Package} (h : e ∈ t.listForOrder id) :
    e.2.orderId = id := by
  unfold Tables.listForOrder oldestFirst at h
  rw [List.mem_insertionSort, Dict.mem_select] at h
  exact of_decide_eq_true h.2

/-- So two orders have the same packages only if they have none. -/
theorem listForOrder_eq_iff {t : Tables} {id id' : Nat} (h : id ≠ id') :
    (t.listForOrder id).map fulfillmentOut = (t.listForOrder id').map fulfillmentOut ↔
      t.listForOrder id = [] ∧ t.listForOrder id' = [] := by
  constructor
  · intro heq
    have hnil : t.listForOrder id = [] := by
      rw [List.eq_nil_iff_forall_not_mem]
      intro e he
      have hmem : fulfillmentOut e ∈ (t.listForOrder id').map fulfillmentOut := by
        rw [← heq]
        exact List.mem_map_of_mem he
      obtain ⟨e', he', hout⟩ := List.mem_map.mp hmem
      have hid : e'.2.orderId = e.2.orderId := congrArg FulfillmentOut.orderId hout
      rw [listForOrder_orderId he, listForOrder_orderId he'] at hid
      exact h hid.symm
    rw [hnil, List.map_nil, eq_comm, List.map_eq_nil_iff] at heq
    exact ⟨hnil, heq⟩
  · rintro ⟨hnil, hnil'⟩
    rw [hnil, hnil']

theorem not_missing_ok {α : Type} (answer : α) : ¬Missing (.ok answer : Except Failure α) := by
  rintro ⟨f, hf, -⟩
  cases hf

/-- Where no two orders have the number, the two rules have to agree on the order that has it. -/
theorem rulesAgree_iff_of_unique {t : Tables} {principal : Identity.Principal} {orderNo : String}
    (hunique : ∀ e ∈ t.orders.entries, ∀ e' ∈ t.orders.entries, e.2.orderNo = orderNo → e'.2.orderNo = orderNo →
      e = e') :
    RulesAgree t principal orderNo ↔ ∀ e ∈ t.orders.entries, e.2.orderNo = orderNo →
      seesOrder principal e.2 = seesPackages principal e.2 := by
  unfold RulesAgree
  cases hfirst : firstOrder t orderNo with
  | none =>
    refine iff_of_true trivial fun e he hnumber => ?_
    exact absurd (decide_eq_true hnumber) (Dict.find?_none.mp hfirst e he)
  | some first =>
    have hmem : first ∈ t.orders.entries := List.mem_of_find?_eq_some hfirst
    have hnumber : first.2.orderNo = orderNo := of_decide_eq_true (Dict.find?_some hfirst).2
    have honly : (∀ e ∈ t.orders.entries, e.2.orderNo = orderNo →
        seesOrder principal e.2 = seesPackages principal e.2) ↔ seesOrder principal first.2 = seesPackages principal first.2 := by
      constructor
      · exact fun hall => hall first hmem hnumber
      · intro hsame e he hother
        rw [hunique e he first hmem hother hnumber]
        exact hsame
    rw [honly]
    cases hshown : shownOrder t principal orderNo with
    | none =>
      have hhidden : seesOrder principal first.2 = false := by
        have hnone := Dict.find?_none.mp hshown first hmem
        rw [decide_eq_true hnumber, Bool.true_and, Bool.not_eq_true] at hnone
        exact hnone
      rw [hhidden]
      exact eq_comm
    | some shown =>
      have hfound := (Dict.find?_some hshown).2
      rw [Bool.and_eq_true] at hfound
      have hsame : shown = first :=
        hunique shown (List.mem_of_find?_eq_some hshown) first hmem (of_decide_eq_true hfound.1) hnumber
      rw [hsame] at hfound ⊢
      rw [hfound.2]
      exact ⟨fun h => h.1.symm, fun h => ⟨h.symm, .inl rfl⟩⟩

theorem visibleTogether_iff (t : Tables) (principal : Identity.Principal) (orderNo : String)
    (hread : ∀ tool ∈ [Tool.orderGet, .fulfillmentGet], tool.spec.permission ∈ principal.permissions) :
    VisibleTogether t principal orderNo ↔ Tool.orderGet.Serves principal ∧ RulesAgree t principal orderNo := by
  have horder : "order:read" ∈ principal.permissions := hread .orderGet List.mem_cons_self
  by_cases hserves : Tool.orderGet.Serves principal
  · rw [and_iff_right hserves]
    unfold VisibleTogether RulesAgree
    rw [orderGet_eq t orderNo horder hserves, fulfillmentGet_eq]
    cases hfirst : firstOrder t orderNo with
    | none =>
      rw [shownOrder_none hfirst]
      exact iff_of_true (.inr ⟨⟨_, rfl, rfl⟩, _, rfl, rfl⟩) trivial
    | some first =>
      cases shownOrder t principal orderNo with
      | none =>
        dsimp only
        cases seesPackages principal first.2 with
        | false => exact iff_of_true (.inr ⟨⟨_, rfl, rfl⟩, { error := orderMissing }, rfl, rfl⟩) rfl
        | true =>
          refine iff_of_false ?_ fun h => nomatch h
          rintro (⟨_, _, hok, -⟩ | ⟨-, hmissing⟩)
          · cases hok
          · exact not_missing_ok _ hmissing
      | some shown =>
        dsimp only
        cases seesPackages principal first.2 with
        | false =>
          refine iff_of_false ?_ fun h => nomatch h.1
          rintro (⟨_, _, -, hok, -⟩ | ⟨hmissing, -⟩)
          · cases hok
          · exact not_missing_ok _ hmissing
        | true =>
          rw [if_pos rfl, and_iff_right rfl]
          have hsame : (t.listForOrder first.1).map fulfillmentOut = (t.listForOrder shown.1).map fulfillmentOut ↔
              first.1 = shown.1 ∨ (t.listForOrder first.1 = [] ∧ t.listForOrder shown.1 = []) := by
            by_cases hid : first.1 = shown.1
            · rw [hid]
              exact iff_of_true rfl (.inl rfl)
            · rw [listForOrder_eq_iff hid, or_iff_right hid]
          rw [← hsame]
          constructor
          · rintro (⟨_, _, horderOk, hpackagesOk, hpackages⟩ | ⟨hmissing, -⟩)
            · cases horderOk
              cases hpackagesOk
              exact hpackages
            · exact absurd hmissing (not_missing_ok _)
          · exact fun hpackages => .inl ⟨_, _, rfl, rfl, hpackages⟩
  · refine iff_of_false ?_ fun h => hserves h.1
    obtain ⟨f, hf, hrefuses⟩ := orderGet_refuses t orderNo horder hserves
    unfold VisibleTogether
    rw [hf]
    rintro (⟨_, _, hok, -⟩ | ⟨⟨g, hg, hkind⟩, -⟩)
    · cases hok
    · cases hg
      simp [AppError.RefusesCaller, hkind] at hrefuses

/-- One order with a package that was shipped. -/
def oneShipment : Tables where
  orders := Dict.empty.set 1 {
    merchantId := 1, userId := 7, orderNo := "NO1", clientRequestId := "r1", requestHash := "h1"
    orderStatus := .processing, paymentStatus := .paid, fulfillmentStatus := .shipped
    originalAmount := 3000, payableAmount := 3000, paidAmount := 3000, itemCount := 1, createdAt := 1 }
  fulfillments := Dict.empty.set 2 {
    fulfillmentNo := "F1", orderId := 1, orderNo := "NO1", merchantId := 1, warehouseId := 1
    fulfillmentStatus := .shipped, trackingNo := some "SF1001", shippedAt := some 2, items := [], createdAt := 2 }
  next := 3

/-- The buyer of the order, with both read permissions. -/
def buyer : Identity.Principal where
  userId := 7
  userType := .consumer
  merchantId := none
  roles := ["CUSTOMER"]
  permissions := ["order:read", "fulfillment:read"]
  dataScope := .self
  sessionId := "s1"
  isStaff := false

theorem visibleTogether_iff_buyer : VisibleTogether oneShipment buyer "NO1" ↔
    Tool.orderGet.Serves buyer ∧ RulesAgree oneShipment buyer "NO1" :=
  visibleTogether_iff oneShipment buyer "NO1" (by decide)

/-- A member of staff whose token names no merchant. -/
def unattachedClerk : Identity.Principal where
  userId := 9
  userType := .staff
  merchantId := none
  roles := ["CUSTOMER_SERVICE"]
  permissions := ["order:read", "fulfillment:read"]
  dataScope := .merchant
  sessionId := "s2"
  isStaff := true

/-- The clerk is refused the order, and is shown its packages. -/
theorem clerk_sees_packages : (∃ f : Failure, orderGet oneShipment unattachedClerk "NO1" = .error f ∧
      f.error.kind = .permissionDenied) ∧
    (∃ packages, fulfillmentGet oneShipment unattachedClerk "NO1" = .ok packages ∧
      packages.packages.map FulfillmentOut.trackingNo = [some "SF1001"]) ∧
    ¬VisibleTogether oneShipment unattachedClerk "NO1" := by
  refine ⟨⟨_, rfl, rfl⟩, ⟨_, rfl, rfl⟩, ?_⟩
  rintro (⟨_, _, hok, -⟩ | ⟨-, ⟨_, hmissing, -⟩⟩)
  · cases hok
  · cases hmissing

end NovaCommerce.Mcp
