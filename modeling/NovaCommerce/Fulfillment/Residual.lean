import NovaCommerce.Fulfillment.Shipping

/-!
# What a shipment leaves behind

* `validateShip_units` : a ship body asks for each line once, in the quantity that the request then holds;
* `assertQuantities_carried` : what the quantity guards let through is carried by the package;
* `unitsOf_residualOf` : the residual, line by line;
* `computeResidual_splits` : request and residual are the package, and nothing else.
-/

namespace NovaCommerce

variable {packageLines requested ordered : Dict Nat Int} {shipped : Nat → Int}

/-! ## Requests -/

theorem shipLine?_eq_some {line : Nat × Int} {l : ShipLineIn} (h : shipLine? line = some l) :
    line = (l.orderItemId, l.quantity) := by
  unfold shipLine? at h
  split_ifs at h
  cases h
  rfl

/-- Lines that all pass their schema are kept as they are. -/
theorem shipLines_eq : ∀ {lines : List (Nat × Int)}, (lines.filterMap shipLine?).length = lines.length →
    (lines.filterMap shipLine?).map (fun l => (l.orderItemId, l.quantity)) = lines
  | [], _ => rfl
  | line :: lines, h => by
    cases hl : shipLine? line with
    | none =>
      rw [List.filterMap_cons_none hl, List.length_cons] at h
      have hle := List.length_filterMap_le shipLine? lines
      omega
    | some l =>
      rw [List.filterMap_cons_some hl, List.length_cons, List.length_cons, Nat.add_right_cancel_iff] at h
      rw [List.filterMap_cons_some hl, List.map_cons, shipLines_eq h, ← shipLine?_eq_some hl]

/-- The request holds the units that the body asks for: a line that is named twice is refused. -/
theorem validateShip_units {carrier : Carrier} {trackingNo : String} {lines : List (Nat × Int)} {request : ShipFulfillmentRequest}
    (h : validateShip carrier trackingNo lines = .ok request) (id : Nat) :
    unitsOf lines id = (request.requested.get? id).getD 0 := by
  unfold validateShip at h
  dsimp only at h
  split_ifs at h with hshape htracking hdistinct
  cases h
  have hlength : (lines.filterMap shipLine?).length = lines.length := by
    push Not at hshape
    exact hshape.2.2
  have hlines := shipLines_eq hlength
  have hnodup : (lines.map Prod.fst).Nodup := by
    rw [← hlines, List.map_map]
    exact hdistinct
  have hentries : (Dict.ofList lines).entries = lines := Dict.entries_ofList hnodup
  unfold ShipFulfillmentRequest.requested
  dsimp only
  rw [hlines]
  cases hget : (Dict.ofList lines).get? id with
  | none =>
    have habsent := Dict.get?_eq_none.mp hget
    unfold Dict.keys at habsent
    rw [hentries] at habsent
    exact unitsOf_absent habsent
  | some q =>
    have hmem := Dict.get?_eq_some.mp hget
    rw [hentries] at hmem
    exact unitsOf_of_mem hnodup hmem

/-! ## The guards -/

/-- What the guards let through is carried by the package. -/
theorem assertQuantities_carried (h : assertQuantities requested packageLines ordered shipped = .ok ()) :
    ∀ e ∈ requested.entries, ∃ q, packageLines.get? e.1 = some q ∧ e.2 ≤ q := by
  intro e he
  have hchecks := Raise.forEach_eq_ok.mp h e he
  unfold assertQuantity at hchecks
  obtain ⟨q, hq, hchecks⟩ := Raise.bind_eq_ok.mp hchecks
  obtain ⟨_, hle, -⟩ := Raise.bind_eq_ok.mp hchecks
  rw [Raise.orRaise_eq_ok] at hq
  rw [Raise.raiseIf_eq_ok, not_lt] at hle
  exact ⟨q, hq, hle⟩

/-- A request that the package carries passes the checks of `compute_residual` as well. -/
theorem computeResidual_of_carried (h : ∀ e ∈ requested.entries, ∃ q, packageLines.get? e.1 = some q ∧ e.2 ≤ q) :
    computeResidual packageLines requested = .ok (residualOf packageLines requested) := by
  unfold computeResidual
  refine Raise.bind_eq_ok.mpr ⟨(), Raise.forEach_eq_ok.mpr fun e he => ?_, rfl⟩
  obtain ⟨q, hq, hle⟩ := h e he
  rw [hq]
  exact Raise.raiseIf_neg (not_lt.mpr hle)

/-! ## The residual -/

/-- What is left of one line. -/
def remainingLine (requested : Dict Nat Int) (e : Nat × Int) : Option (Nat × Int) :=
  let remaining := e.2 - (requested.get? e.1).getD 0
  if 0 < remaining then some (e.1, remaining) else none

theorem residualOf_eq (packageLines requested : Dict Nat Int) :
    residualOf packageLines requested = packageLines.entries.filterMap (remainingLine requested) :=
  rfl

theorem remainingLine_eq_some {e e' : Nat × Int} (h : remainingLine requested e = some e') :
    e' = (e.1, e.2 - (requested.get? e.1).getD 0) ∧ 0 < e'.2 := by
  unfold remainingLine at h
  dsimp only at h
  split_ifs at h with hpos
  cases h
  exact ⟨rfl, hpos⟩

/-- A line of the residual is a line of the package, with units left. -/
theorem mem_residualOf {e : Nat × Int} (h : e ∈ residualOf packageLines requested) :
    0 < e.2 ∧ packageLines.get? e.1 ≠ none := by
  rw [residualOf_eq] at h
  obtain ⟨line, hline, hleft⟩ := List.mem_filterMap.mp h
  obtain ⟨rfl, hpos⟩ := remainingLine_eq_some hleft
  have hcarried : packageLines.get? line.1 = some line.2 := Dict.get?_eq_some.mpr hline
  refine ⟨hpos, ?_⟩
  rw [hcarried]
  exact Option.some_ne_none line.2

theorem nodup_residualOf (packageLines requested : Dict Nat Int) :
    ((residualOf packageLines requested).map Prod.fst).Nodup := by
  rw [residualOf_eq]
  refine filterMap_distinct (fun e e' h => ?_) packageLines.nodup
  rw [(remainingLine_eq_some h).1]

/-- The units of the residual on a line of the package. -/
theorem unitsOf_residualOf {id : Nat} {q : Int} (h : packageLines.get? id = some q)
    (hle : (requested.get? id).getD 0 ≤ q) : unitsOf (residualOf packageLines requested) id = q - (requested.get? id).getD 0 := by
  have hline : (id, q) ∈ packageLines.entries := Dict.get?_eq_some.mp h
  by_cases hpos : 0 < q - (requested.get? id).getD 0
  · have hleft : remainingLine requested (id, q) = some (id, q - (requested.get? id).getD 0) := if_pos hpos
    apply unitsOf_of_mem (nodup_residualOf packageLines requested)
    rw [residualOf_eq]
    exact List.mem_filterMap.mpr ⟨(id, q), hline, hleft⟩
  · have habsent : id ∉ (residualOf packageLines requested).map Prod.fst := by
      intro hid
      obtain ⟨e, he, rfl⟩ := List.mem_map.mp hid
      rw [residualOf_eq] at he
      obtain ⟨line, hmem, hleft⟩ := List.mem_filterMap.mp he
      obtain ⟨rfl, hleftpos⟩ := remainingLine_eq_some hleft
      have hsame : packageLines.get? line.1 = some line.2 := Dict.get?_eq_some.mpr hmem
      rw [h] at hsame
      cases hsame
      exact hpos hleftpos
    rw [unitsOf_absent habsent]
    omega

/-- A package whose lines hold units is split by an accepted request: on every line the request and the residual are the units
of the package. The residual holds units on lines of the package only, and it is empty when all of the package was asked for. -/
theorem computeResidual_splits (packageLines requested ordered : Dict Nat Int) (shipped : Nat → Int)
    (positive : ∀ e ∈ packageLines.entries, 0 < e.2)
    (accepted : assertQuantities requested packageLines ordered shipped = .ok ()) :
    ∃ residual, computeResidual packageLines requested = .ok residual ∧ (residual.map Prod.fst).Nodup ∧
      (∀ id, (requested.get? id).getD 0 + unitsOf residual id = (packageLines.get? id).getD 0) ∧
      (∀ e ∈ residual, 0 < e.2 ∧ packageLines.get? e.1 ≠ none) ∧
      (residual = [] ↔ ∀ id, requested.get? id = packageLines.get? id) := by
  have hcarried := assertQuantities_carried accepted
  have hpositive : ∀ {id q}, packageLines.get? id = some q → 0 < q := fun hq => positive _ (Dict.get?_eq_some.mp hq)
  have hle : ∀ {id q}, packageLines.get? id = some q → (requested.get? id).getD 0 ≤ q := by
    intro id q hq
    cases hr : requested.get? id with
    | none => exact (hpositive hq).le
    | some r =>
      obtain ⟨q', hq', hrq⟩ := hcarried (id, r) (Dict.get?_eq_some.mp hr)
      rw [hq] at hq'
      cases hq'
      exact hrq
  have habsent : ∀ {id}, packageLines.get? id = none → requested.get? id = none := by
    intro id hnone
    by_contra hsome
    obtain ⟨r, hr⟩ := Option.ne_none_iff_exists'.mp hsome
    obtain ⟨q, hq, -⟩ := hcarried (id, r) (Dict.get?_eq_some.mp hr)
    rw [hnone] at hq
    cases hq
  have hunits : ∀ id, (requested.get? id).getD 0 + unitsOf (residualOf packageLines requested) id = (packageLines.get? id).getD 0 := by
    intro id
    cases hq : packageLines.get? id with
    | none =>
      have hnothing : id ∉ (residualOf packageLines requested).map Prod.fst := by
        intro hid
        obtain ⟨e, he, rfl⟩ := List.mem_map.mp hid
        exact (mem_residualOf he).2 hq
      rw [habsent hq, unitsOf_absent hnothing]
      rfl
    | some q =>
      rw [unitsOf_residualOf hq (hle hq), Option.getD_some]
      omega
  refine ⟨residualOf packageLines requested, computeResidual_of_carried hcarried, nodup_residualOf _ _, hunits,
    fun e he => mem_residualOf he, ?_⟩
  constructor
  · intro hempty id
    have hid := hunits id
    rw [hempty] at hid
    have hnil : unitsOf [] id = 0 := rfl
    rw [hnil, add_zero] at hid
    cases hq : packageLines.get? id with
    | none => exact habsent hq
    | some q =>
      have hpos := hpositive hq
      rw [hq, Option.getD_some] at hid
      cases hr : requested.get? id with
      | none =>
        rw [hr, Option.getD_none] at hid
        omega
      | some r =>
        rw [hr, Option.getD_some] at hid
        rw [hid]
  · intro hwhole
    rw [residualOf_eq]
    refine List.filterMap_eq_nil_iff.mpr fun e he => ?_
    have hrequested : requested.get? e.1 = some e.2 := by
      rw [hwhole e.1]
      exact Dict.get?_eq_some.mpr he
    unfold remainingLine
    dsimp only
    rw [hrequested, Option.getD_some, sub_self]
    exact if_neg (lt_irrefl 0)

/-- Three cups and a plate, of which two cups are sent. -/
theorem computeResidual_splits_cups :
    ∃ residual, computeResidual (Dict.ofList [(1, 3), (2, 1)]) (Dict.ofList [(1, 2)]) = .ok residual ∧
      (residual.map Prod.fst).Nodup ∧
      (∀ id, ((Dict.ofList [(1, (2 : Int))]).get? id).getD 0 + unitsOf residual id =
        ((Dict.ofList [(1, (3 : Int)), (2, 1)]).get? id).getD 0) ∧
      (∀ e ∈ residual, 0 < e.2 ∧ (Dict.ofList [(1, (3 : Int)), (2, 1)]).get? e.1 ≠ none) ∧
      (residual = [] ↔ ∀ id, (Dict.ofList [(1, (2 : Int))]).get? id = (Dict.ofList [(1, (3 : Int)), (2, 1)]).get? id) :=
  computeResidual_splits (Dict.ofList [(1, 3), (2, 1)]) (Dict.ofList [(1, 2)]) (Dict.ofList [(1, 3), (2, 1)]) (fun _ => 0)
    (by decide) (by decide)

example : computeResidual (Dict.ofList [(1, 3), (2, 1)]) (Dict.ofList [(1, 2)]) = .ok [(1, 1), (2, 1)] := by decide

end NovaCommerce
