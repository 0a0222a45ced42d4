import NovaCommerce.Pricing.Service

/-!
# Allocations of a cart

* `allocateProRata_ok` : for non-negative weights that can carry the total, the allocation goes
  through, sums to the total and stays within the weights;
* `allocationsBy items f` : the allocations that give each item the amount `f` of its SKU;
  `allocationMap_allocationsBy` reads them back, `shareOut_eq` brings every share list to this form;
* `mergeLines_ok` : merging well-formed lines goes through and leaves distinct SKUs.
-/

namespace NovaCommerce.Pricing

open Raise

variable {δ : Type}

/-! ## The pro-rata allocation -/

theorem nonnegative_ok {weights : List Int} (hw : ∀ w ∈ weights, 0 ≤ w) {x : PricingInvariantError} :
    forEach (fun weight => raiseIf (weight < 0) x) weights = .ok () :=
  forEach_eq_ok.mpr fun w hwm => raiseIf_neg (not_lt.mpr (hw w hwm))

/-- Weights of which one is positive share out a non-negative total. -/
theorem allocateProRata_eq {total : Int} {weights : List Int} (ht : 0 ≤ total) (hw : ∀ w ∈ weights, 0 ≤ w)
    (hs : 0 < weights.sum) : allocateProRata total weights = .ok (ProRata.split total weights).2 := by
  rw [allocateProRata, raiseIf_neg (not_lt.mpr ht), nonnegative_ok hw]
  simp only [ok_bind]
  by_cases hz : total = 0
  · subst hz
    rw [if_pos rfl, ProRata.split_zero]
    rfl
  · have hne : weights ≠ [] := by
      rintro rfl
      exact lt_irrefl 0 hs
    rw [if_neg hz, raiseIf_neg hne, raiseIf_neg hs.ne']
    simp only [ok_bind]
    rw [raiseIf_neg (not_not.mpr (ProRata.split_left total hs hw))]
    rfl

/-- Non-negative weights that can carry a non-negative total are split exactly, each share within
its weight. -/
theorem allocateProRata_ok {total : Int} {weights : List Int} (ht : 0 ≤ total)
    (hw : ∀ w ∈ weights, 0 ≤ w) (hle : total ≤ weights.sum) :
    ∃ shares, allocateProRata total weights = .ok shares ∧ shares.sum = total ∧
      List.Forall₂ (fun w t => 0 ≤ t ∧ t ≤ w) weights shares := by
  by_cases hs : 0 < weights.sum
  · have hnn := ProRata.split_nonneg ht hw
    have hcap := ProRata.split_le_weight hs hw hle
    rw [List.forall₂_iff_zip] at hnn hcap
    refine ⟨_, allocateProRata_eq ht hw hs, ProRata.split_sum total hs hw, ?_⟩
    exact List.forall₂_iff_zip.mpr ⟨hnn.1, fun hm => ⟨hnn.2 hm, hcap.2 hm⟩⟩
  · -- nothing is shared out
    obtain rfl : total = 0 := by omega
    refine ⟨weights.map fun _ => 0, ?_, by simp, ?_⟩
    · rw [allocateProRata, raiseIf_neg (lt_irrefl 0), nonnegative_ok hw]
      rfl
    · rw [List.forall₂_map_right_iff]
      exact List.forall₂_same.mpr fun w hwm => ⟨le_refl 0, hw w hwm⟩

/-! ## Allocations by SKU -/

/-- The SKU of an item. -/
def ItemPrice.skuId (item : ItemPrice δ) : Nat := item.line.skuId

/-- Every item with the amount of its SKU. -/
def allocationsBy (items : List (ItemPrice δ)) (f : Nat → Int) : List DiscountAllocation :=
  items.map (fun item => { skuId := item.skuId, amount := f item.skuId })

@[simp] theorem allocationsBy_amounts (items : List (ItemPrice δ)) (f : Nat → Int) :
    (allocationsBy items f).map DiscountAllocation.amount = items.map (fun item => f item.skuId) := by
  simp [allocationsBy, Function.comp_def]

theorem zeroAllocations_eq (items : List (ItemPrice δ)) :
    zeroAllocations items = allocationsBy items (fun _ => 0) := rfl

/-- Reading a list of values by the key of its position. -/
theorem exists_map_eq_of_nodup {α β : Type} (key : α → Nat) (default : β) :
    ∀ {xs : List α} {ys : List β}, (xs.map key).Nodup → ys.length = xs.length →
      ∃ f : Nat → β, ys = xs.map (fun x => f (key x))
  | [], [], _, _ => ⟨fun _ => default, rfl⟩
  | x :: xs, y :: ys, hn, hl => by
    rw [List.map_cons, List.nodup_cons] at hn
    obtain ⟨f, hf⟩ := exists_map_eq_of_nodup key default hn.2 (by simpa using hl)
    refine ⟨Function.update f (key x) y, ?_⟩
    have hrest : xs.map (fun a => Function.update f (key x) y (key a)) = xs.map (fun a => f (key a)) := by
      refine List.map_congr_left fun a ha => ?_
      rw [Function.update_of_ne]
      exact fun h => hn.1 (h ▸ List.mem_map_of_mem ha)
    rw [List.map_cons, Function.update_self, hrest, hf]

/-- Shares handed to the items of a cart with distinct SKUs are amounts by SKU. -/
theorem shareOut_eq {items : List (ItemPrice δ)} {shares : List Int}
    (hn : (items.map ItemPrice.skuId).Nodup) (hl : shares.length = items.length) :
    ∃ f : Nat → Int, shares = items.map (fun item => f item.skuId) ∧
      shareOut items shares = allocationsBy items f := by
  obtain ⟨f, rfl⟩ := exists_map_eq_of_nodup ItemPrice.skuId (0 : Int) hn hl
  refine ⟨f, rfl, ?_⟩
  simp [shareOut, allocationsBy, List.zipWith_map_right, List.zipWith_self, ItemPrice.skuId]

/-- Recording the allocations of the remaining items on top of those already read. -/
theorem foldSteps_recordAllocation (items : List (ItemPrice δ)) (f : Nat → Int) (label : String) :
    ∀ (rest : List (ItemPrice δ)) (d : Dict Nat Int), (∀ item ∈ rest, item ∈ items) →
      (∀ item ∈ rest, 0 ≤ f item.skuId) →
      (d.entries.map Prod.fst ++ rest.map ItemPrice.skuId).Nodup →
      ∃ m, foldSteps (recordAllocation items label) (allocationsBy rest f) d = .ok m ∧
        m.entries = d.entries ++ rest.map (fun item => (item.skuId, f item.skuId))
  | [], d, _, _, _ => ⟨d, rfl, by simp⟩
  | item :: rest, d, hmem, hnn, hn => by
    have hkey : d.get? item.skuId = none := by
      rw [Dict.get?_eq_none]
      intro hk
      rw [List.nodup_append] at hn
      exact hn.2.2 _ hk _ (by simp) rfl
    have hskus : item.skuId ∈ items.map (fun item => item.line.skuId) :=
      List.mem_map_of_mem (f := ItemPrice.skuId) (hmem item List.mem_cons_self)
    have hstep : recordAllocation items label d { skuId := item.skuId, amount := f item.skuId } =
        .ok (d.set item.skuId (f item.skuId)) := by
      rw [recordAllocation, raiseIf_neg (not_lt.mpr (hnn item List.mem_cons_self)),
        raiseIf_neg (not_not.mpr hskus), raiseIf_neg (not_not.mpr hkey)]
      rfl
    have hentries := Dict.entries_set_fresh hkey (f item.skuId)
    obtain ⟨m, hm, hme⟩ := foldSteps_recordAllocation items f label rest
      (d.set item.skuId (f item.skuId))
      (fun i hi => hmem i (List.mem_cons_of_mem _ hi))
      (fun i hi => hnn i (List.mem_cons_of_mem _ hi))
      (by rw [hentries]; simpa using hn)
    refine ⟨m, ?_, by rw [hme, hentries]; simp⟩
    rw [allocationsBy, List.map_cons, foldSteps, hstep]
    exact hm

/-- Non-negative amounts by SKU are read back as the map they are. -/
theorem allocationMap_allocationsBy (label : String) {items : List (ItemPrice δ)} {f : Nat → Int}
    (hn : (items.map ItemPrice.skuId).Nodup) (hf : ∀ item ∈ items, 0 ≤ f item.skuId) :
    ∃ m, allocationMap (allocationsBy items f) items label = .ok m ∧
      (∀ item ∈ items, m.get? item.skuId = some (f item.skuId)) ∧
      m.values = items.map (fun item => f item.skuId) := by
  obtain ⟨m, hm, hme⟩ := foldSteps_recordAllocation items f label items Dict.empty
    (fun i hi => hi) hf (by simpa [Dict.empty] using hn)
  have hget : ∀ item ∈ items, m.get? item.skuId = some (f item.skuId) := by
    intro item hi
    rw [Dict.get?_eq_some, hme]
    exact List.mem_append_right _ (List.mem_map.mpr ⟨item, hi, rfl⟩)
  refine ⟨m, ?_, hget, ?_⟩
  · have hcover : forEach (fun item : ItemPrice δ => raiseIf (m.get? item.line.skuId = none)
        ({ message := s!"no {label} allocation recorded for a cart line"
           context := [("sku_id", .int item.line.skuId)] } : PricingInvariantError)) items = .ok () := by
      refine forEach_eq_ok.mpr fun item hi => raiseIf_neg ?_
      rw [← ItemPrice.skuId, hget item hi]
      simp
    rw [allocationMap, hm]
    simp only [ok_bind, hcover]
    rfl
  · rw [Dict.values, hme]
    simp [Dict.empty, Function.comp_def]

/-! ## Merging lines -/

/-- Two lines agree on every snapshot field. -/
structure SameSnapshot (a b : PricedLine δ) : Prop where
  productId : a.productId = b.productId
  productName : a.productName = b.productName
  skuName : a.skuName = b.skuName
  imageObjectKey : a.imageObjectKey = b.imageObjectKey
  imageUrl : a.imageUrl = b.imageUrl
  skuSnapshot : a.skuSnapshot = b.skuSnapshot
  unitPrice : a.unitPrice = b.unitPrice

theorem SameSnapshot.trans {a b c : PricedLine δ} (h : SameSnapshot a b) (k : SameSnapshot b c) :
    SameSnapshot a c :=
  ⟨h.1.trans k.1, h.2.trans k.2, h.3.trans k.3, h.4.trans k.4, h.5.trans k.5, h.6.trans k.6,
    h.7.trans k.7⟩

theorem SameSnapshot.symm {a b : PricedLine δ} (h : SameSnapshot a b) : SameSnapshot b a :=
  ⟨h.1.symm, h.2.symm, h.3.symm, h.4.symm, h.5.symm, h.6.symm, h.7.symm⟩

/-- The lines a cart may be priced from: positive quantities, non-negative unit prices, and one
snapshot per SKU. -/
structure WellFormedLines (lines : List (PricedLine δ)) : Prop where
  quantity : ∀ line ∈ lines, 0 < line.quantity
  unitPrice : ∀ line ∈ lines, 0 ≤ line.unitPrice
  snapshot : ∀ a ∈ lines, ∀ b ∈ lines, a.skuId = b.skuId → SameSnapshot a b

theorem normaliseLine_ok {line : PricedLine δ} (hq : 0 < line.quantity) (hp : 0 ≤ line.unitPrice) :
    normaliseLine line = .ok line := by
  rw [normaliseLine, raiseIf_neg (not_le.mpr hq), raiseIf_neg (not_lt.mpr hp)]
  rfl

theorem snapshotFields_agree [DecidableEq δ] {a b : PricedLine δ} (h : SameSnapshot a b) :
    ∀ field ∈ snapshotFields a b, field.2 = true := by
  simp [snapshotFields, h.productId, h.productName, h.skuName, h.imageObjectKey, h.imageUrl,
    h.skuSnapshot, h.unitPrice]

/-- What a merged line keeps: its key, a positive quantity, a non-negative price, and the snapshot
of one of the lines merged into it. -/
def MergedFrom (lines : List (PricedLine δ)) (entry : Nat × PricedLine δ) : Prop :=
  entry.2.skuId = entry.1 ∧ 0 < entry.2.quantity ∧ 0 ≤ entry.2.unitPrice ∧
    ∃ source ∈ lines, source.skuId = entry.1 ∧ SameSnapshot source entry.2

/-- Merging one more well-formed line goes through. -/
theorem mergeLine_ok [DecidableEq δ] {lines : List (PricedLine δ)} (hl : WellFormedLines lines)
    {merged : Dict Nat (PricedLine δ)} (hm : ∀ e ∈ merged.entries, MergedFrom lines e)
    {line : PricedLine δ} (hline : line ∈ lines) :
    ∃ next, mergeLine merged line = .ok next ∧ ∀ e ∈ next.entries, MergedFrom lines e := by
  have hq := hl.quantity line hline
  have hp := hl.unitPrice line hline
  have hself : SameSnapshot line line := hl.snapshot line hline line hline rfl
  rw [mergeLine, normaliseLine_ok hq hp, ok_bind]
  cases hget : merged.get? line.skuId with
  | none =>
    refine ⟨_, rfl, fun e he => ?_⟩
    obtain rfl | ⟨he, -⟩ := Dict.mem_set.mp he
    · exact ⟨rfl, hq, hp, line, hline, rfl, hself⟩
    · exact hm e he
  | some existing =>
    obtain ⟨hkey, hpos, hprice, source, hsource, hsku, hsnap⟩ := hm _ (Dict.get?_eq_some.mp hget)
    have hagree : SameSnapshot existing line :=
      hsnap.symm.trans (hl.snapshot source hsource line hline hsku)
    have hfields := snapshotFields_agree hagree
    refine ⟨merged.set line.skuId { existing with quantity := existing.quantity + line.quantity }, ?_,
      fun e he => ?_⟩
    · refine bind_eq_ok.mpr ⟨(), forEach_eq_ok.mpr fun field hf => raiseIf_neg ?_, rfl⟩
      simp [hfields field hf]
    · obtain rfl | ⟨he, -⟩ := Dict.mem_set.mp he
      · exact ⟨hkey, add_pos hpos hq, hprice, source, hsource, hsku,
          ⟨hsnap.1, hsnap.2, hsnap.3, hsnap.4, hsnap.5, hsnap.6, hsnap.7⟩⟩
      · exact hm e he

/-- Merging well-formed lines goes through: distinct SKUs, positive quantities, non-negative
prices. -/
theorem mergeLines_ok [DecidableEq δ] {lines : List (PricedLine δ)} (hl : WellFormedLines lines) :
    ∃ merged, mergeLines lines = .ok merged ∧ (merged.map PricedLine.skuId).Nodup ∧
      ∀ line ∈ merged, 0 < line.quantity ∧ 0 ≤ line.unitPrice := by
  obtain ⟨d, hd, hinv⟩ := foldSteps_total
    (fun d : Dict Nat (PricedLine δ) => ∀ e ∈ d.entries, MergedFrom lines e) lines
    (fun _ _ hx hm => mergeLine_ok hl hm hx)
    (show ∀ e ∈ (Dict.empty : Dict Nat (PricedLine δ)).entries, MergedFrom lines e by simp [Dict.empty])
  refine ⟨d.values, by rw [mergeLines, hd]; rfl, ?_, ?_⟩
  · have hkeys : d.values.map PricedLine.skuId = d.keys := by
      rw [Dict.values, Dict.keys, List.map_map]
      exact List.map_congr_left fun e he => (hinv e he).1
    rw [hkeys]
    exact d.nodup
  · intro line hline
    obtain ⟨e, he, rfl⟩ := List.mem_map.mp hline
    exact ⟨(hinv e he).2.1, (hinv e he).2.2.1⟩

end NovaCommerce.Pricing
