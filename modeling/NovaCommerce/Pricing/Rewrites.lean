import NovaCommerce.Pricing.Exact
import NovaCommerce.Pricing.Lines

/-!
# Carts written in another way

* `Rewrite`, `Rewritten` : lines are permuted, split and merged;
* `SameCart` : what a rewriting keeps; `mergeLines_merged` : what merging makes of it (`mergeLines_sameCart`);
* `applyPromotion_totals`, `applyCoupon_totals` : the totals of a discount step;
* `calculateCartPrice_rewritten` : the totals of a rewritten cart.
-/

namespace NovaCommerce.Pricing

open Raise

variable {δ : Type}

/-! ## Rewriting lines -/

/-- One way to write the same cart: its lines in another order, or one of them in parts. -/
inductive Rewrite : List (PricedLine δ) → List (PricedLine δ) → Prop where
  | permuted {lines lines' : List (PricedLine δ)} (h : lines.Perm lines') : Rewrite lines lines'
  | split {before after : List (PricedLine δ)} {line : PricedLine δ} {parts : List Int} (nonempty : parts ≠ [])
      (positive : ∀ q ∈ parts, 0 < q) (whole : parts.sum = line.quantity) :
      Rewrite (before ++ line :: after) (before ++ (parts.map fun q => { line with quantity := q }) ++ after)

/-- Lines are permuted, split and merged, any number of times. -/
def Rewritten (lines lines' : List (PricedLine δ)) : Prop := Relation.EqvGen Rewrite lines lines'

/-- The units of a SKU. -/
def unitsOf (lines : List (PricedLine δ)) (skuId : Nat) : Int :=
  (lines.map fun line => if line.skuId = skuId then line.quantity else 0).sum

/-- The SKUs in the order they first occur. -/
def firstOccurrences (lines : List (PricedLine δ)) : List Nat := (lines.map PricedLine.skuId).eraseDups

/-- Two lines of one SKU that agree on every snapshot field. -/
def Alike (a b : PricedLine δ) : Prop := a.skuId = b.skuId ∧ SameSnapshot a b

/-- The same SKUs with the same snapshots and units. -/
structure SameCart (lines lines' : List (PricedLine δ)) : Prop where
  forth : ∀ a ∈ lines, ∃ b ∈ lines', Alike a b
  back : ∀ b ∈ lines', ∃ a ∈ lines, Alike a b
  positive : (∀ a ∈ lines, 0 < a.quantity) ↔ ∀ b ∈ lines', 0 < b.quantity
  units : ∀ skuId, unitsOf lines skuId = unitsOf lines' skuId

theorem Alike.symm {a b : PricedLine δ} (h : Alike a b) : Alike b a := ⟨h.1.symm, h.2.symm⟩

theorem Alike.trans {a b c : PricedLine δ} (h : Alike a b) (k : Alike b c) : Alike a c := ⟨h.1.trans k.1, h.2.trans k.2⟩

theorem alike_refl (a : PricedLine δ) : Alike a a := ⟨rfl, ⟨rfl, rfl, rfl, rfl, rfl, rfl, rfl⟩⟩

theorem sameCart_refl (lines : List (PricedLine δ)) : SameCart lines lines where
  forth a ha := ⟨a, ha, alike_refl a⟩
  back b hb := ⟨b, hb, alike_refl b⟩
  positive := .rfl
  units _ := rfl

theorem SameCart.symm {lines lines' : List (PricedLine δ)} (h : SameCart lines lines') : SameCart lines' lines where
  forth b hb := (h.back b hb).imp fun _ ⟨ha, hab⟩ => ⟨ha, hab.symm⟩
  back a ha := (h.forth a ha).imp fun _ ⟨hb, hab⟩ => ⟨hb, hab.symm⟩
  positive := h.positive.symm
  units skuId := (h.units skuId).symm

theorem SameCart.trans {lines lines₁ lines₂ : List (PricedLine δ)} (h : SameCart lines lines₁) (h' : SameCart lines₁ lines₂) :
    SameCart lines lines₂ where
  forth a ha := by
    obtain ⟨b, hb, hab⟩ := h.forth a ha
    obtain ⟨c, hc, hbc⟩ := h'.forth b hb
    exact ⟨c, hc, hab.trans hbc⟩
  back c hc := by
    obtain ⟨b, hb, hbc⟩ := h'.back c hc
    obtain ⟨a, ha, hab⟩ := h.back b hb
    exact ⟨a, ha, hab.trans hbc⟩
  positive := h.positive.trans h'.positive
  units skuId := (h.units skuId).trans (h'.units skuId)

theorem unitsOf_append (xs ys : List (PricedLine δ)) (skuId : Nat) : unitsOf (xs ++ ys) skuId = unitsOf xs skuId + unitsOf ys skuId := by
  simp only [unitsOf, List.map_append, List.sum_append]

theorem unitsOf_cons (line : PricedLine δ) (xs : List (PricedLine δ)) (skuId : Nat) :
    unitsOf (line :: xs) skuId = (if line.skuId = skuId then line.quantity else 0) + unitsOf xs skuId := by
  simp only [unitsOf, List.map_cons, List.sum_cons]

theorem unitsOf_parts (line : PricedLine δ) (parts : List Int) (skuId : Nat) :
    unitsOf (parts.map fun q => { line with quantity := q }) skuId = if line.skuId = skuId then parts.sum else 0 := by
  simp only [unitsOf, List.map_map, Function.comp_def]
  split_ifs
  · rw [List.map_id']
  · simp

theorem Rewrite.sameCart {lines lines' : List (PricedLine δ)} (h : Rewrite lines lines') : SameCart lines lines' := by
  cases h with
  | permuted h =>
    exact ⟨fun a ha => ⟨a, h.mem_iff.mp ha, alike_refl a⟩, fun b hb => ⟨b, h.mem_iff.mpr hb, alike_refl b⟩,
      forall_congr' fun _ => imp_congr_left h.mem_iff, fun skuId => (h.map _).sum_eq⟩
  | @split before after line parts nonempty positive whole =>
    obtain ⟨q, hq⟩ := List.exists_mem_of_ne_nil parts nonempty
    have hline : 0 < line.quantity := whole ▸ List.sum_pos parts positive nonempty
    constructor
    · intro a ha
      rcases List.mem_append.mp ha with ha | ha
      · exact ⟨a, List.mem_append_left _ (List.mem_append_left _ ha), alike_refl a⟩
      · rcases List.mem_cons.mp ha with rfl | ha
        · refine ⟨_, List.mem_append_left _ (List.mem_append_right _ (List.mem_map_of_mem hq)), ?_⟩
          exact ⟨rfl, ⟨rfl, rfl, rfl, rfl, rfl, rfl, rfl⟩⟩
        · exact ⟨a, List.mem_append_right _ ha, alike_refl a⟩
    · intro b hb
      rcases List.mem_append.mp hb with hb | hb
      · rcases List.mem_append.mp hb with hb | hb
        · exact ⟨b, List.mem_append_left _ hb, alike_refl b⟩
        · obtain ⟨q, -, rfl⟩ := List.mem_map.mp hb
          exact ⟨line, List.mem_append_right _ List.mem_cons_self, rfl, ⟨rfl, rfl, rfl, rfl, rfl, rfl, rfl⟩⟩
      · exact ⟨b, List.mem_append_right _ (List.mem_cons_of_mem _ hb), alike_refl b⟩
    · simp only [List.forall_mem_append, List.forall_mem_cons, List.forall_mem_map]
      exact ⟨fun ⟨hb, _, ha⟩ => ⟨⟨hb, positive⟩, ha⟩, fun ⟨⟨hb, _⟩, ha⟩ => ⟨hb, hline, ha⟩⟩
    · intro skuId
      rw [unitsOf_append, unitsOf_cons, unitsOf_append, unitsOf_append, unitsOf_parts, whole]
      omega

theorem Rewritten.sameCart {lines lines' : List (PricedLine δ)} (h : Rewritten lines lines') : SameCart lines lines' := by
  induction h with
  | rel _ _ h => exact h.sameCart
  | refl lines => exact sameCart_refl lines
  | symm _ _ _ ih => exact ih.symm
  | trans _ _ _ _ _ ih ih' => exact ih.trans ih'

/-- A cart that can be priced can be priced however it is written. -/
theorem SameCart.wellFormed {lines lines' : List (PricedLine δ)} (h : SameCart lines lines') (hl : WellFormedLines lines) :
    WellFormedLines lines' where
  quantity := h.positive.mp hl.quantity
  unitPrice b hb := by
    obtain ⟨a, ha, hab⟩ := h.back b hb
    rw [← hab.2.unitPrice]
    exact hl.unitPrice a ha
  snapshot b hb b' hb' hsku := by
    obtain ⟨a, ha, hab⟩ := h.back b hb
    obtain ⟨a', ha', hab'⟩ := h.back b' hb'
    have haa' := hl.snapshot a ha a' ha' (hab.1.trans (hsku.trans hab'.1.symm))
    exact hab.2.symm.trans (haa'.trans hab'.2)

/-! ## Merging -/

theorem normaliseLine_valid {line l : PricedLine δ} (h : normaliseLine line = .ok l) :
    l = line ∧ 0 < line.quantity ∧ 0 ≤ line.unitPrice := by
  unfold normaliseLine at h
  simp only [bind_eq_ok, pure_eq_ok, raiseIf_eq_ok] at h
  obtain ⟨_, hq, _, hp, rfl⟩ := h
  exact ⟨rfl, not_le.mp hq, not_lt.mp hp⟩

theorem sameSnapshot_of_fields [DecidableEq δ] {a b : PricedLine δ} (h : ∀ field ∈ snapshotFields a b, ¬ field.2 = false) :
    SameSnapshot a b := by
  simp only [snapshotFields, List.forall_mem_cons, Bool.not_eq_false, decide_eq_true_eq] at h
  obtain ⟨h₁, h₂, h₃, h₄, h₅, h₆, h₇, -⟩ := h
  exact ⟨h₁, h₂, h₃, h₄, h₅, h₆, h₇⟩

/-- The merged lines after a part of the cart. -/
structure MergedSoFar (lines : List (PricedLine δ)) (merged : Dict Nat (PricedLine δ)) : Prop where
  valid : ∀ line ∈ lines, 0 < line.quantity ∧ 0 ≤ line.unitPrice
  keys : merged.keys = firstOccurrences lines
  key : ∀ e ∈ merged.entries, e.2.skuId = e.1
  units : ∀ e ∈ merged.entries, e.2.quantity = unitsOf lines e.1
  source : ∀ e ∈ merged.entries, ∃ line ∈ lines, line.skuId = e.1
  snapshot : ∀ e ∈ merged.entries, ∀ line ∈ lines, line.skuId = e.1 → SameSnapshot line e.2

theorem firstOccurrences_concat (lines : List (PricedLine δ)) (line : PricedLine δ) :
    firstOccurrences (lines ++ [line]) =
      if line.skuId ∈ firstOccurrences lines then firstOccurrences lines else firstOccurrences lines ++ [line.skuId] := by
  unfold firstOccurrences
  rw [List.map_append, List.eraseDups_append]
  simp only [List.mem_eraseDups, List.map_cons, List.map_nil, List.removeAll, List.filter_cons, List.filter_nil,
    List.elem_eq_contains, Bool.not_eq_true']
  by_cases h : line.skuId ∈ lines.map PricedLine.skuId
  · rw [if_pos h]
    simp [List.mem_map.mp h]
  · rw [if_neg h]
    have hnone : ¬ ∃ a ∈ lines, a.skuId = line.skuId := fun ha => h (List.mem_map.mpr ha)
    simp [hnone, List.eraseDups_cons]

theorem unitsOf_absent {lines : List (PricedLine δ)} {skuId : Nat} (h : ∀ line ∈ lines, line.skuId ≠ skuId) :
    unitsOf lines skuId = 0 := by
  unfold unitsOf
  refine List.sum_eq_zero fun q hq => ?_
  obtain ⟨line, hline, rfl⟩ := List.mem_map.mp hq
  exact if_neg (h line hline)

theorem mem_firstOccurrences {lines : List (PricedLine δ)} {skuId : Nat} :
    skuId ∈ firstOccurrences lines ↔ ∃ line ∈ lines, line.skuId = skuId := by
  unfold firstOccurrences
  rw [List.mem_eraseDups, List.mem_map]

/-- Merging one more line. -/
theorem MergedSoFar.step [DecidableEq δ] {lines : List (PricedLine δ)} {merged next : Dict Nat (PricedLine δ)}
    {line : PricedLine δ} (h : MergedSoFar lines merged) (hstep : mergeLine merged line = .ok next) :
    MergedSoFar (lines ++ [line]) next := by
  unfold mergeLine at hstep
  obtain ⟨l, hl, hmerge⟩ := bind_eq_ok.mp hstep
  obtain ⟨rfl, hq, hp⟩ := normaliseLine_valid hl
  have hvalid : ∀ a ∈ lines ++ [l], 0 < a.quantity ∧ 0 ≤ a.unitPrice := by
    simpa only [List.forall_mem_append, List.forall_mem_singleton] using ⟨h.valid, hq, hp⟩
  have hunits (skuId : Nat) : unitsOf (lines ++ [l]) skuId =
      unitsOf lines skuId + if l.skuId = skuId then l.quantity else 0 := by
    rw [unitsOf_append, unitsOf_cons]
    simp [unitsOf]
  cases hget : merged.get? l.skuId with
  | none =>
    rw [hget] at hmerge
    cases hmerge
    have hfresh : l.skuId ∉ firstOccurrences lines := by
      rw [← h.keys]
      exact Dict.get?_eq_none.mp hget
    have hother : ∀ a ∈ lines, a.skuId ≠ l.skuId := fun a ha heq => hfresh (mem_firstOccurrences.mpr ⟨a, ha, heq⟩)
    have hentries := Dict.entries_set_fresh hget l
    refine ⟨hvalid, ?_, ?_, ?_, ?_, ?_⟩
    · rw [firstOccurrences_concat, if_neg hfresh, ← h.keys, Dict.keys, hentries, List.map_append]
      rfl
    all_goals
      rw [hentries]
      simp only [List.forall_mem_append, List.forall_mem_singleton]
    · exact ⟨h.key, trivial⟩
    · refine ⟨fun e he => ?_, ?_⟩
      · obtain ⟨a, ha, hsku⟩ := h.source e he
        have hne : ¬ l.skuId = e.1 := fun heq => hother a ha (hsku.trans heq.symm)
        rw [hunits, if_neg hne, h.units e he, add_zero]
      · rw [hunits, unitsOf_absent hother, if_pos rfl, zero_add]
    · refine ⟨fun e he => ?_, ⟨l, List.mem_append_right _ List.mem_cons_self, rfl⟩⟩
      obtain ⟨a, ha, hsku⟩ := h.source e he
      exact ⟨a, List.mem_append_left _ ha, hsku⟩
    · refine ⟨fun e he => ⟨h.snapshot e he, fun heq => ?_⟩, fun a ha heq => absurd heq (hother a ha), fun _ => (alike_refl l).2⟩
      obtain ⟨a, ha, hsku⟩ := h.source e he
      exact absurd (hsku.trans heq.symm) (hother a ha)
  | some existing =>
    rw [hget] at hmerge
    obtain ⟨_, hfields, hmerge⟩ := bind_eq_ok.mp hmerge
    cases hmerge
    have hsame : SameSnapshot existing l :=
      sameSnapshot_of_fields fun field hfield => raiseIf_eq_ok.mp (forEach_eq_ok.mp hfields field hfield)
    have hentry := Dict.get?_eq_some.mp hget
    have hknown : l.skuId ∈ firstOccurrences lines := by
      rw [← h.keys]
      exact Dict.mem_keys_iff.mpr ⟨existing, hget⟩
    have hupdated : SameSnapshot existing { existing with quantity := existing.quantity + l.quantity } :=
      ⟨rfl, rfl, rfl, rfl, rfl, rfl, rfl⟩
    refine ⟨hvalid, ?_, ?_, ?_, ?_, ?_⟩
    · rw [firstOccurrences_concat, if_pos hknown, ← h.keys]
      exact (Dict.map_fst_setEntries _ _ _).trans (if_pos (Dict.mem_keys_iff.mpr ⟨existing, hget⟩))
    · intro e he
      rcases Dict.mem_set.mp he with rfl | ⟨he, -⟩
      · exact h.key (l.skuId, existing) hentry
      · exact h.key e he
    · intro e he
      rcases Dict.mem_set.mp he with rfl | ⟨he, hne⟩
      · rw [hunits, if_pos rfl]
        exact congrArg (· + l.quantity) (h.units _ hentry)
      · rw [hunits, if_neg fun heq => hne heq.symm, h.units e he, add_zero]
    · intro e he
      rcases Dict.mem_set.mp he with rfl | ⟨he, -⟩
      · exact ⟨l, List.mem_append_right _ List.mem_cons_self, rfl⟩
      · obtain ⟨a, ha, hsku⟩ := h.source e he
        exact ⟨a, List.mem_append_left _ ha, hsku⟩
    · intro e he a ha hsku
      rcases Dict.mem_set.mp he with rfl | ⟨he, hne⟩
      · rcases List.mem_append.mp ha with ha | ha
        · exact (h.snapshot _ hentry a ha hsku).trans hupdated
        · obtain rfl := List.mem_singleton.mp ha
          exact hsame.symm.trans hupdated
      · rcases List.mem_append.mp ha with ha | ha
        · exact h.snapshot e he a ha hsku
        · obtain rfl := List.mem_singleton.mp ha
          exact absurd hsku.symm hne

theorem mergedSoFar_fold [DecidableEq δ] {rest : List (PricedLine δ)} : ∀ {lines : List (PricedLine δ)}
    {merged next : Dict Nat (PricedLine δ)}, MergedSoFar lines merged → foldSteps mergeLine rest merged = .ok next →
      MergedSoFar (lines ++ rest) next := by
  induction rest with
  | nil =>
    intro lines merged next h hfold
    cases hfold
    rwa [List.append_nil]
  | cons line rest ih =>
    intro lines merged next h hfold
    obtain ⟨mid, hstep, hfold⟩ := bind_eq_ok.mp hfold
    have hrest := ih (h.step hstep) hfold
    rwa [List.append_assoc] at hrest

/-- The merged lines of a cart: one for each SKU in the order of first occurrences, with all its units. -/
structure Merged (lines merged : List (PricedLine δ)) : Prop where
  nodup : (merged.map PricedLine.skuId).Nodup
  order : merged.map PricedLine.skuId = firstOccurrences lines
  units : ∀ m ∈ merged, m.quantity = unitsOf lines m.skuId
  snapshot : ∀ m ∈ merged, ∃ line ∈ lines, Alike line m

theorem mergeLines_merged [DecidableEq δ] {lines merged : List (PricedLine δ)} (h : mergeLines lines = .ok merged) :
    WellFormedLines lines ∧ Merged lines merged := by
  obtain ⟨d, hd, heq⟩ := bind_eq_ok.mp h
  cases heq
  have hstart : MergedSoFar [] (Dict.empty : Dict Nat (PricedLine δ)) := by
    constructor <;> simp [Dict.empty, firstOccurrences, Dict.keys]
  have hdone : MergedSoFar lines d := mergedSoFar_fold hstart hd
  have hentry : ∀ line ∈ lines, ∃ e ∈ d.entries, e.1 = line.skuId := by
    intro line hline
    have hkey : line.skuId ∈ d.keys := by
      rw [hdone.keys]
      exact mem_firstOccurrences.mpr ⟨line, hline, rfl⟩
    exact List.mem_map.mp hkey
  constructor
  · refine ⟨fun line hline => (hdone.valid line hline).1, fun line hline => (hdone.valid line hline).2, ?_⟩
    intro a ha b hb hsku
    obtain ⟨e, he, hkey⟩ := hentry a ha
    exact (hdone.snapshot e he a ha hkey.symm).trans (hdone.snapshot e he b hb (hsku.symm.trans hkey.symm)).symm
  · have horder : d.values.map PricedLine.skuId = d.keys := by
      rw [Dict.values, Dict.keys, List.map_map]
      exact List.map_congr_left fun e he => hdone.key e he
    constructor
    · rw [horder]
      exact d.nodup
    · rw [horder, hdone.keys]
    · intro m hm
      obtain ⟨e, he, rfl⟩ := List.mem_map.mp hm
      rw [hdone.units e he, hdone.key e he]
    · intro m hm
      obtain ⟨e, he, rfl⟩ := List.mem_map.mp hm
      obtain ⟨line, hline, hsku⟩ := hdone.source e he
      exact ⟨line, hline, hsku.trans (hdone.key e he).symm, hdone.snapshot e he line hline hsku⟩

/-- A SKU of the same cart is merged to the same line. -/
theorem Merged.unique {lines lines' merged merged' : List (PricedLine δ)} (hl : WellFormedLines lines) (h : Merged lines merged)
    (h' : Merged lines' merged') (hsame : SameCart lines lines') {m m' : PricedLine δ} (hm : m ∈ merged) (hm' : m' ∈ merged')
    (hsku : m'.skuId = m.skuId) : m' = m := by
  obtain ⟨a, ha, ham⟩ := h.snapshot m hm
  obtain ⟨b', hb', hbm'⟩ := h'.snapshot m' hm'
  obtain ⟨b, hb, hbb'⟩ := hsame.back b' hb'
  have hab := hl.snapshot a ha b hb (ham.1.trans (hsku.symm.trans (hbb'.1.trans hbm'.1).symm))
  have hsnap : SameSnapshot m m' := ham.2.symm.trans (hab.trans (hbb'.2.trans hbm'.2))
  have hquantity : m'.quantity = m.quantity := by rw [h'.units m' hm', h.units m hm, hsku, hsame.units]
  obtain ⟨h₁, h₂, h₃, h₄, h₅, h₆, h₇⟩ := hsnap
  obtain ⟨_, _, _, _, _, _, _, _, _⟩ := m
  obtain ⟨_, _, _, _, _, _, _, _, _⟩ := m'
  simp only at hsku hquantity h₁ h₂ h₃ h₄ h₅ h₆ h₇
  subst hsku hquantity h₁ h₂ h₃ h₄ h₅ h₆ h₇
  rfl

/-- The same cart is merged to the same lines. -/
theorem Merged.perm {lines lines' merged merged' : List (PricedLine δ)} (hl : WellFormedLines lines) (h : Merged lines merged)
    (h' : Merged lines' merged') (hsame : SameCart lines lines') : merged'.Perm merged := by
  have hfound {xs ys ms ns : List (PricedLine δ)} (hx : Merged xs ms) (hy : Merged ys ns) (hxy : SameCart xs ys) :
      ∀ m ∈ ms, ∃ n ∈ ns, n.skuId = m.skuId := by
    intro m hm
    obtain ⟨a, ha, ham⟩ := hx.snapshot m hm
    obtain ⟨b, hb, hab⟩ := hxy.forth a ha
    have hmem : m.skuId ∈ ns.map PricedLine.skuId := by
      rw [hy.order]
      exact mem_firstOccurrences.mpr ⟨b, hb, hab.1.symm.trans ham.1⟩
    exact List.mem_map.mp hmem
  refine (List.perm_ext_iff_of_nodup h'.nodup.of_map h.nodup.of_map).mpr fun m => ?_
  constructor
  · intro hm
    obtain ⟨n, hn, hsku⟩ := hfound h' h hsame.symm m hm
    exact (h.unique hl h' hsame hn hm hsku.symm).symm ▸ hn
  · intro hm
    obtain ⟨n, hn, hsku⟩ := hfound h h' hsame m hm
    exact h.unique hl h' hsame hm hn hsku ▸ hn

/-- In the same order of first occurrences it is the same list. -/
theorem Merged.eq {lines lines' merged merged' : List (PricedLine δ)} (hl : WellFormedLines lines) (h : Merged lines merged)
    (h' : Merged lines' merged') (hsame : SameCart lines lines') (horder : firstOccurrences lines' = firstOccurrences lines) :
    merged' = merged := by
  have hskus : merged'.map PricedLine.skuId = merged.map PricedLine.skuId := by rw [h.order, h'.order, horder]
  have hlen : merged'.length = merged.length := by
    rw [← List.length_map, hskus, List.length_map]
  refine List.ext_getElem hlen fun i hi hi' => ?_
  refine h.unique hl h' hsame (List.getElem_mem hi') (List.getElem_mem hi) ?_
  have hat := congrArg (fun xs => xs[i]?) hskus
  simpa [List.getElem?_eq_getElem hi, List.getElem?_eq_getElem hi'] using hat

/-! ## The totals of a discount step -/

/-- A merged line with its price. -/
def itemOf (line : PricedLine δ) : ItemPrice δ := { line := line, originalAmount := line.unitPrice * line.quantity }

/-- What a promotion gives on the items of a cart. -/
def promotionTotal (promotion : Option PromotionRule) (items : List (ItemPrice δ)) : Int :=
  promotion.elim 0 fun rule => (promotionDiscount rule items).1

/-- What a coupon gives on the items of a cart, of which the promotion took `taken` from the ones in its scope. -/
def couponTotal (coupon : Option CouponRule) (items : List (ItemPrice δ)) (taken : Int) : Int :=
  coupon.elim 0 fun rule =>
    let eligible := items.filter fun item => rule.covers item.line.skuId
    let eligibleOriginal := (eligible.map ItemPrice.originalAmount).sum
    (couponDiscount rule eligible eligibleOriginal (eligibleOriginal - taken)).1

/-- The promotion of the items in the scope of a coupon. -/
def takenIn (coupon : Option CouponRule) (items : List (ItemPrice δ)) (p : Nat → Int) : Int :=
  coupon.elim 0 fun rule => ((items.filter fun item => rule.covers item.line.skuId).map fun item => p item.skuId).sum

theorem promotionDiscount_perm (rule : PromotionRule) {items items' : List (ItemPrice δ)} (h : items'.Perm items) :
    promotionDiscount rule items' = promotionDiscount rule items := by
  have heligible := h.filter fun item => rule.covers item.line.skuId
  have horiginal := (heligible.map ItemPrice.originalAmount).sum_eq
  have hunits := (heligible.map fun item => item.line.quantity).sum_eq
  have hempty := heligible.isEmpty_eq
  simp only [promotionDiscount, promotionAmount, horiginal, hunits, hempty]

theorem couponTotal_perm (coupon : Option CouponRule) {items items' : List (ItemPrice δ)} (h : items'.Perm items) (taken : Int) :
    couponTotal coupon items' taken = couponTotal coupon items taken := by
  cases coupon with
  | none => rfl
  | some rule =>
    have heligible := h.filter fun item => rule.covers item.line.skuId
    have horiginal := (heligible.map ItemPrice.originalAmount).sum_eq
    have hempty := heligible.isEmpty_eq
    simp only [couponTotal, Option.elim_some, couponDiscount, horiginal, hempty]

theorem repriced_eq {cart c : CartPrice δ} (h : repriced cart = .ok c) : c = cart.withPayable := by
  unfold repriced at h
  simp only [bind_eq_ok, pure_eq_ok] at h
  obtain ⟨_, -, _, -, _, -, rfl⟩ := h
  rfl

/-- Shares that an allocation hands to the items are bounded by the weights. -/
theorem shares_bounded {items : List (ItemPrice δ)} {weight : ItemPrice δ → Int} {discount : Int} {shares : List Int} {f : Nat → Int}
    (hn : 0 ≤ discount) (hw : ∀ item ∈ items, 0 ≤ weight item) (hle : discount ≤ (items.map weight).sum)
    (h : allocateProRata discount (items.map weight) = .ok shares) (hf : shareOut items shares = allocationsBy items f) :
    ∀ item ∈ items, 0 ≤ f item.skuId ∧ f item.skuId ≤ weight item := by
  obtain ⟨shares', hok, -, hbounds⟩ := allocateProRata_ok hn (List.forall_mem_map.mpr hw) hle
  obtain rfl := Except.ok.inj (h.symm.trans hok)
  have hlen : shares.length = items.length := by simpa using hbounds.length_eq.symm
  have hamounts : (shareOut items shares).map DiscountAllocation.amount = shares := by
    unfold shareOut
    rw [List.map_zipWith]
    exact (List.map_uncurry_zip_eq_zipWith (f := fun _ amount => amount)).symm.trans (List.map_snd_zip hlen.le)
  have hshares : shares = items.map fun item => f item.skuId := by rw [← hamounts, hf, allocationsBy_amounts]
  rw [hshares, List.forall₂_map_left_iff, List.forall₂_map_right_iff, List.forall₂_same] at hbounds
  exact hbounds

/-- A promotion on an undiscounted cart: its total, and nothing for the items that are not in its scope. -/
theorem applyPromotion_totals {items : List (ItemPrice δ)} (h : Exact (undiscounted items) (fun _ => 0) fun _ => 0)
    {promotion : Option PromotionRule} {first : CartPrice δ}
    (hfirst : applyOptional applyPromotion (undiscounted items) promotion = .ok first) :
    ∃ q, Exact first q (fun _ => 0) ∧ first.items = items ∧ first.promotionDiscountAmount = promotionTotal promotion items ∧
      first.couponDiscountAmount = 0 ∧
      ∀ item ∈ items, (∀ rule ∈ promotion, rule.covers item.skuId = false) → q item.skuId = 0 := by
  cases promotion with
  | none =>
    cases hfirst
    exact ⟨fun _ => 0, h, rfl, rfl, rfl, fun _ _ _ => rfl⟩
  | some rule =>
    have happly : applyPromotion (undiscounted items) rule = .ok first := hfirst
    unfold applyPromotion at happly
    obtain ⟨r, hrule, hallocate⟩ := bind_eq_ok.mp happly
    obtain ⟨hadmissible, rfl⟩ := normalisePromotion_eq_ok.mp hrule
    obtain ⟨next, q, hnext, hexact⟩ := h.applyPromotion hadmissible
    obtain rfl := Except.ok.inj (hnext.symm.trans hfirst)
    obtain ⟨shares, hshares, hpriced⟩ := bind_eq_ok.mp hallocate
    have heq := repriced_eq hpriced
    have hitems : next.items = items := by
      rw [heq]
      rfl
    have hpromotions : shareOut items shares = allocationsBy items q := by
      have halloc := hexact.promotions
      rw [hitems] at halloc
      rw [← halloc, heq]
      rfl
    have hbounds := promotionDiscount_bounds hadmissible h.units h.original_nonneg
    have hle : (promotionDiscount r items).1 ≤
        (items.map fun item => if r.covers item.line.skuId then item.originalAmount else 0).sum := by
      rw [← sum_filter_eq_sum_ite]
      exact hbounds.2
    have hshare := shares_bounded hbounds.1 (fun item hi => by
      split_ifs
      · exact h.original_nonneg item hi
      · exact le_rfl) hle hshares hpromotions
    refine ⟨q, hexact, hitems, by rw [heq]; rfl, by rw [heq]; rfl, fun item hi hout => ?_⟩
    obtain ⟨hlo, hhi⟩ := hshare item hi
    have hcovers : r.covers item.line.skuId = false := hout r rfl
    rw [hcovers] at hhi
    exact le_antisymm hhi hlo

/-- A coupon on a cart with a promotion: its total depends on what the promotion took in its scope. -/
theorem applyCoupon_totals {first cart : CartPrice δ} {q : Nat → Int} (h : Exact first q fun _ => 0) (hfree : first.couponDiscountAmount = 0)
    {coupon : Option CouponRule} (hcart : applyOptional applyCoupon first coupon = .ok cart) :
    (∃ c, Exact cart q c) ∧ cart.items = first.items ∧ cart.originalAmount = first.originalAmount ∧
      cart.promotionDiscountAmount = first.promotionDiscountAmount ∧
      cart.couponDiscountAmount = couponTotal coupon first.items (takenIn coupon first.items q) := by
  cases coupon with
  | none =>
    cases hcart
    exact ⟨⟨fun _ => 0, h⟩, rfl, rfl, rfl, hfree⟩
  | some rule =>
    have happly : applyCoupon first rule = .ok cart := hcart
    unfold applyCoupon at happly
    obtain ⟨r, hrule, hread⟩ := bind_eq_ok.mp happly
    obtain ⟨hadmissible, rfl⟩ := normaliseCoupon_eq_ok.mp hrule
    obtain ⟨next, c, hnext, hexact⟩ := h.applyCoupon hadmissible
    obtain rfl := Except.ok.inj (hnext.symm.trans hcart)
    obtain ⟨pm, hpm, hcheck⟩ := bind_eq_ok.mp hread
    obtain ⟨_, -, hallocate⟩ := bind_eq_ok.mp hcheck
    obtain ⟨shares, -, hpriced⟩ := bind_eq_ok.mp hallocate
    have heq := repriced_eq hpriced
    obtain ⟨pm', hpm', hpget, -⟩ := allocationMap_allocationsBy "promotion" h.nodup h.promotionNonneg
    rw [← h.promotions] at hpm'
    obtain rfl := Except.ok.inj (hpm.symm.trans hpm')
    have hremaining : ((first.items.filter fun item => r.covers item.line.skuId).map (remainingAmount pm)).sum =
        ((first.items.filter fun item => r.covers item.line.skuId).map ItemPrice.originalAmount).sum -
          ((first.items.filter fun item => r.covers item.line.skuId).map fun item => q item.skuId).sum := by
      rw [eq_sub_iff_add_eq, ← List.sum_map_add]
      refine congrArg List.sum (List.map_congr_left fun item hi => ?_)
      have hget := hpget item (List.mem_filter.mp hi).1
      rw [ItemPrice.skuId] at hget
      rw [remainingAmount, hget]
      exact sub_add_cancel _ _
    refine ⟨⟨c, hexact⟩, by rw [heq]; rfl, by rw [heq]; rfl, by rw [heq]; rfl, ?_⟩
    rw [heq]
    show (couponDiscount r _ _ _).1 = _
    rw [hremaining]
    rfl

/-! ## The whole cart -/

/-- Pricing a cart, step by step. -/
theorem calculateCartPrice_steps [DecidableEq δ] {lines : List (PricedLine δ)} {promotion : Option PromotionRule}
    {coupon : Option CouponRule} {cart : CartPrice δ} (h : calculateCartPrice lines promotion coupon none = .ok cart) :
    ∃ merged first, WellFormedLines lines ∧ Merged lines merged ∧
      Exact (undiscounted (merged.map itemOf)) (fun _ => 0) (fun _ => 0) ∧
      applyOptional applyPromotion (undiscounted (merged.map itemOf)) promotion = .ok first ∧
      applyOptional applyCoupon first coupon = .ok cart := by
  unfold calculateCartPrice at h
  obtain ⟨merged, hmerged, h⟩ := bind_eq_ok.mp h
  obtain ⟨items, hitems, h⟩ := bind_eq_ok.mp h
  obtain ⟨first, hfirst, h⟩ := bind_eq_ok.mp h
  obtain ⟨second, hsecond, h⟩ := bind_eq_ok.mp h
  have hship : calculateShipping second none = .ok 0 := rfl
  rw [hship, ok_bind] at h
  cases h
  obtain ⟨hl, hm⟩ := mergeLines_merged hmerged
  obtain ⟨merged', items', hmerged', hitems', hexact⟩ := mergedItems_ok hl
  obtain rfl := Except.ok.inj (hmerged.symm.trans hmerged')
  obtain rfl := Except.ok.inj (hitems.symm.trans hitems')
  have hmap : items = merged.map itemOf := by
    have hitem : ∀ line (item : ItemPrice δ), calculateItemPrice line = .ok item → item = itemOf line := by
      intro line item hi
      obtain ⟨l, hl, hi⟩ := bind_eq_ok.mp hi
      cases hi
      rw [normaliseLine_eq_ok hl]
      rfl
    have heq := map_eq_map_of_mapM (k := id) (g := itemOf) hitem hitems
    rwa [List.map_id] at heq
  subst hmap
  exact ⟨merged, first, hl, hm, hexact, hfirst, hsecond⟩

/-- On the SKUs of a cart the promotion lies within the scope of the coupon, or outside of it. -/
def ScopesNested (promotion : Option PromotionRule) (coupon : Option CouponRule) (lines : List (PricedLine δ)) : Prop :=
  ∀ p ∈ promotion, ∀ c ∈ coupon,
    (∀ line ∈ lines, p.covers line.skuId = true → c.covers line.skuId = true) ∨
      ∀ line ∈ lines, p.covers line.skuId = true → c.covers line.skuId = false

/-- The amount of the items that a scope covers. -/
def eligibleAmount (covers : Nat → Bool) (items : List (ItemPrice δ)) : Int :=
  ((items.filter fun item => covers item.line.skuId).map ItemPrice.originalAmount).sum

/-- What a promotion takes in the scope of a coupon is all of it, when it lies within, and nothing, when it lies outside. -/
theorem takenIn_nested {items : List (ItemPrice δ)} {promotion : Option PromotionRule} {q : Nat → Int}
    (hzero : ∀ item ∈ items, (∀ rule ∈ promotion, rule.covers item.skuId = false) → q item.skuId = 0) (rule : CouponRule) :
    ((∀ p ∈ promotion, ∀ item ∈ items, p.covers item.skuId = true → rule.covers item.skuId = true) →
      takenIn (some rule) items q = (items.map fun item => q item.skuId).sum) ∧
    ((∀ p ∈ promotion, ∀ item ∈ items, p.covers item.skuId = true → rule.covers item.skuId = false) →
      takenIn (some rule) items q = 0) := by
  have hfilter : takenIn (some rule) items q = (items.map fun item => if rule.covers item.skuId then q item.skuId else 0).sum :=
    sum_filter_eq_sum_ite (fun item : ItemPrice δ => rule.covers item.skuId) (fun item => q item.skuId) items
  rw [hfilter]
  constructor
  · intro hwithin
    refine congrArg List.sum (List.map_congr_left fun item hi => ?_)
    split_ifs with hc
    · rfl
    · refine (hzero item hi fun p hp => ?_).symm
      by_contra hcovers
      exact hc (hwithin p hp item hi (Bool.eq_true_of_not_eq_false hcovers))
  · intro houtside
    refine List.sum_eq_zero fun x hx => ?_
    obtain ⟨item, hi, rfl⟩ := List.mem_map.mp hx
    split_ifs with hc
    · refine hzero item hi fun p hp => ?_
      by_contra hcovers
      have hnot := houtside p hp item hi (Bool.eq_true_of_not_eq_false hcovers)
      rw [hc] at hnot
      cases hnot
    · rfl

/-- Two listings of the items whose promotions add up to the same, each within its scope. -/
theorem takenIn_perm {items items' : List (ItemPrice δ)} (hperm : items'.Perm items) {promotion : Option PromotionRule}
    {coupon : Option CouponRule} {q q' : Nat → Int}
    (hzero : ∀ item ∈ items, (∀ rule ∈ promotion, rule.covers item.skuId = false) → q item.skuId = 0)
    (hzero' : ∀ item ∈ items', (∀ rule ∈ promotion, rule.covers item.skuId = false) → q' item.skuId = 0)
    (hsum : (items'.map fun item => q' item.skuId).sum = (items.map fun item => q item.skuId).sum)
    (hnested : ∀ p ∈ promotion, ∀ c ∈ coupon,
      (∀ item ∈ items, p.covers item.skuId = true → c.covers item.skuId = true) ∨
        ∀ item ∈ items, p.covers item.skuId = true → c.covers item.skuId = false) :
    takenIn coupon items' q' = takenIn coupon items q := by
  cases coupon with
  | none => rfl
  | some rule =>
    obtain ⟨hall, hnothing⟩ := takenIn_nested hzero rule
    obtain ⟨hall', hnothing'⟩ := takenIn_nested hzero' rule
    cases promotion with
    | none => exact (hnothing' fun _ h => nomatch h).trans (hnothing fun _ h => nomatch h).symm
    | some p =>
      rcases hnested p rfl rule rfl with hwithin | houtside
      · have hin : ∀ p' ∈ some p, ∀ item ∈ items, p'.covers item.skuId = true → rule.covers item.skuId = true := by
          rintro p' ⟨⟩
          exact hwithin
        exact (hall' fun p' hp item hi => hin p' hp item (hperm.mem_iff.mp hi)).trans (hsum.trans (hall hin).symm)
      · have hout : ∀ p' ∈ some p, ∀ item ∈ items, p'.covers item.skuId = true → rule.covers item.skuId = false := by
          rintro p' ⟨⟩
          exact houtside
        exact (hnothing' fun p' hp item hi => hout p' hp item (hperm.mem_iff.mp hi)).trans (hnothing hout).symm

theorem discounts_bounded {items : List (ItemPrice δ)} {promotion : Option PromotionRule} {coupon : Option CouponRule}
    {first cart : CartPrice δ} (hexact : Exact (undiscounted items) (fun _ => 0) fun _ => 0)
    (hfirst : applyOptional applyPromotion (undiscounted items) promotion = .ok first)
    (hcart : applyOptional applyCoupon first coupon = .ok cart) :
    (∀ rule ∈ promotion, cart.promotionDiscountAmount ≤ eligibleAmount rule.covers cart.items) ∧
      ∀ rule ∈ coupon, cart.couponDiscountAmount ≤ eligibleAmount rule.covers cart.items := by
  obtain ⟨q, hq, hitems, hpromotion, hfree, -⟩ := applyPromotion_totals hexact hfirst
  obtain ⟨⟨c, hc⟩, hitems', -, hpromotion', hcoupon⟩ := applyCoupon_totals hq hfree hcart
  rw [hitems', hitems, hpromotion', hpromotion, hcoupon, hitems]
  constructor
  · rintro rule ⟨⟩
    obtain ⟨r, hr, -⟩ := bind_eq_ok.mp hfirst
    obtain ⟨hadmissible, -⟩ := normalisePromotion_eq_ok.mp hr
    exact (promotionDiscount_bounds hadmissible hexact.units hexact.original_nonneg).2
  · rintro rule ⟨⟩
    obtain ⟨r, hr, -⟩ := bind_eq_ok.mp hcart
    obtain ⟨hadmissible, -⟩ := normaliseCoupon_eq_ok.mp hr
    have htaken : 0 ≤ takenIn (some rule) items q ∧ takenIn (some rule) items q ≤ eligibleAmount rule.covers items := by
      constructor
      · refine List.sum_nonneg fun x hx => ?_
        obtain ⟨item, hi, rfl⟩ := List.mem_map.mp hx
        exact hq.promotionNonneg item (hitems ▸ (List.mem_filter.mp hi).1)
      · refine List.sum_le_sum fun item hi => ?_
        have hpayable := hq.payableNonneg item (hitems ▸ (List.mem_filter.mp hi).1)
        omega
    have hbounds := couponDiscount_bounds hadmissible (items.filter fun item => rule.covers item.line.skuId)
      (eligibleAmount rule.covers items) (sub_nonneg.mpr htaken.2)
    exact hbounds.2.trans (by omega)

/-- However a cart is written, its original amount and its promotion discount are the same; so are its coupon discount and its
payable amount when the scopes are nested, and every figure when the SKUs occur in the same order. No discount is more than its
scope. -/
theorem calculateCartPrice_rewritten [DecidableEq δ] {lines lines' : List (PricedLine δ)} (h : Rewritten lines lines')
    {promotion : Option PromotionRule} {coupon : Option CouponRule} {cart : CartPrice δ}
    (hcart : calculateCartPrice lines promotion coupon none = .ok cart) :
    (∃ cart', calculateCartPrice lines' promotion coupon none = .ok cart' ∧ cart'.originalAmount = cart.originalAmount ∧
      cart'.promotionDiscountAmount = cart.promotionDiscountAmount ∧
      (ScopesNested promotion coupon lines →
        cart'.couponDiscountAmount = cart.couponDiscountAmount ∧ cart'.payableAmount = cart.payableAmount) ∧
      (firstOccurrences lines' = firstOccurrences lines → cart' = cart)) ∧
    (∀ rule ∈ promotion, cart.promotionDiscountAmount ≤ eligibleAmount rule.covers cart.items) ∧
    ∀ rule ∈ coupon, cart.couponDiscountAmount ≤ eligibleAmount rule.covers cart.items := by
  have hsame := h.sameCart
  have hrules := admissible_of_calculateCartPrice hcart
  obtain ⟨merged, first, hl, hm, hexact, hfirst, hsecond⟩ := calculateCartPrice_steps hcart
  refine ⟨?_, discounts_bounded hexact hfirst hsecond⟩
  have hnofee : ∀ s ∈ (none : Option (ShippingPolicy δ)), ∀ cart, s.calculate cart = 0 := fun _ h => nomatch h
  obtain ⟨cart', hcart', -⟩ := (calculateCartPrice_exact_iff (hsame.wellFormed hl) promotion coupon hnofee).mpr hrules
  obtain ⟨merged', first', hl', hm', hexact', hfirst', hsecond'⟩ := calculateCartPrice_steps hcart'
  have hperm : (merged'.map itemOf).Perm (merged.map itemOf) := (hm.perm hl hm' hsame).map itemOf
  obtain ⟨q, hq, hitems, hpromotion, hfree, hzero⟩ := applyPromotion_totals hexact hfirst
  obtain ⟨⟨c, hc⟩, -, horiginal, hkept, hcoupon⟩ := applyCoupon_totals hq hfree hsecond
  obtain ⟨q', hq', hitems', hpromotion', hfree', hzero'⟩ := applyPromotion_totals hexact' hfirst'
  obtain ⟨⟨c', hc'⟩, -, horiginal', hkept', hcoupon'⟩ := applyCoupon_totals hq' hfree' hsecond'
  have htotal : promotionTotal promotion (merged'.map itemOf) = promotionTotal promotion (merged.map itemOf) := by
    cases promotion with
    | none => rfl
    | some rule => exact congrArg Prod.fst (promotionDiscount_perm rule hperm)
  have horiginals : cart'.originalAmount = cart.originalAmount := by
    rw [horiginal, horiginal', hq.original, hq'.original, hitems, hitems', (hperm.map _).sum_eq]
  have hpromotions : cart'.promotionDiscountAmount = cart.promotionDiscountAmount := by
    rw [hkept, hkept', hpromotion, hpromotion', htotal]
  have hskus : ∀ item ∈ merged.map itemOf, ∃ line ∈ lines, line.skuId = item.skuId := by
    intro item hi
    obtain ⟨m, hmem, rfl⟩ := List.mem_map.mp hi
    obtain ⟨line, hline, halike⟩ := hm.snapshot m hmem
    exact ⟨line, hline, halike.1⟩
  refine ⟨cart', hcart', horiginals, hpromotions, fun hnested => ?_, fun horder => ?_⟩
  · have htaken : takenIn coupon first'.items q' = takenIn coupon first.items q := by
      rw [hitems, hitems']
      refine takenIn_perm hperm hzero hzero' ?_ fun p hp c hc => ?_
      · have hsum := hq.promotionSum
        have hsum' := hq'.promotionSum
        rw [hitems] at hsum
        rw [hitems'] at hsum'
        rw [← hsum, ← hsum', hpromotion, hpromotion', htotal]
      · refine (hnested p hp c hc).imp (fun h item hi => ?_) fun h item hi => ?_
        all_goals
          obtain ⟨line, hline, hsku⟩ := hskus item hi
          rw [← hsku]
          exact h line hline
    have hcoupons : cart'.couponDiscountAmount = cart.couponDiscountAmount := by
      rw [hcoupon, hcoupon', htaken, hitems, hitems', couponTotal_perm coupon hperm]
    exact ⟨hcoupons, by rw [hc.payable, hc'.payable, horiginals, hpromotions, hcoupons]⟩
  · have hmerged := hm.eq hl hm' hsame horder
    subst hmerged
    obtain rfl := Except.ok.inj (hfirst.symm.trans hfirst')
    exact Except.ok.inj (hsecond'.symm.trans hsecond)

/-- A line of a cart without a snapshot. -/
def plainLine (skuId : Nat) (unitPrice quantity : Int) : PricedLine Unit :=
  ⟨skuId, skuId, "tea", "tin", none, none, none, unitPrice, quantity⟩

/-- An eighth off everything, and a coupon of 0.77 on everything. -/
def eighthOff : PromotionRule := { promotionId := 1, promotionType := .percentDiscount, discountBps := 1250 }

def smallCoupon : CouponRule := { couponId := 1, couponType := .fixedAmount, faceValueAmount := 77 }

/-- Three tins in two lines around a cup. -/
theorem calculateCartPrice_rewritten_sample : ∃ cart cart',
    calculateCartPrice [plainLine 1 100 3, plainLine 2 250 1] (some eighthOff) (some smallCoupon) none = .ok cart ∧
    calculateCartPrice [plainLine 1 100 1, plainLine 2 250 1, plainLine 1 100 2] (some eighthOff) (some smallCoupon) none = .ok cart' ∧
    cart.payableAmount = 405 ∧ cart' = cart := by
  have hsplit : Rewrite ([] ++ plainLine 1 100 3 :: [plainLine 2 250 1])
      ([] ++ ([1, 2].map fun q => { plainLine 1 100 3 with quantity := q }) ++ [plainLine 2 250 1]) :=
    .split (by decide) (by decide) rfl
  have hswap : Rewrite [plainLine 1 100 1, plainLine 1 100 2, plainLine 2 250 1]
      [plainLine 1 100 1, plainLine 2 250 1, plainLine 1 100 2] := .permuted (.cons _ (.swap _ _ _))
  have hvalue : CartPrice.payableAmount <$>
      calculateCartPrice [plainLine 1 100 3, plainLine 2 250 1] (some eighthOff) (some smallCoupon) none = .ok 405 := by decide
  obtain ⟨cart, hcart, hpayable⟩ := map_eq_ok.mp hvalue
  obtain ⟨⟨cart', hcart', -, -, -, hsame⟩, -⟩ := calculateCartPrice_rewritten (.trans _ _ _ (.rel _ _ hsplit) (.rel _ _ hswap)) hcart
  exact ⟨cart, cart', hcart, hcart', hpayable, hsame (by decide)⟩

/-- Half of the price, and a coupon for the first SKU. -/
def halfPrice : PromotionRule := { promotionId := 1, promotionType := .percentDiscount, discountBps := 5000 }

def firstSkuCoupon : CouponRule := { couponId := 1, couponType := .fixedAmount, faceValueAmount := 1, applicableSkuIds := some {1} }

/-- The unit of the remainder goes to the last line, so that the order decides whether the coupon finds something left. -/
theorem calculateCartPrice_permuted : ¬ ∀ (lines lines' : List (PricedLine Unit)) (promotion : Option PromotionRule)
    (coupon : Option CouponRule) (cart cart' : CartPrice Unit), lines.Perm lines' →
    calculateCartPrice lines promotion coupon none = .ok cart → calculateCartPrice lines' promotion coupon none = .ok cart' →
    cart'.couponDiscountAmount = cart.couponDiscountAmount ∧ cart'.payableAmount = cart.payableAmount := by
  intro h
  have hvalue : CartPrice.couponDiscountAmount <$>
      calculateCartPrice [plainLine 1 1 1, plainLine 2 1 1] (some halfPrice) (some firstSkuCoupon) none = .ok 1 := by decide
  have hvalue' : CartPrice.couponDiscountAmount <$>
      calculateCartPrice [plainLine 2 1 1, plainLine 1 1 1] (some halfPrice) (some firstSkuCoupon) none = .ok 0 := by decide
  obtain ⟨cart, hcart, hcoupon⟩ := map_eq_ok.mp hvalue
  obtain ⟨cart', hcart', hcoupon'⟩ := map_eq_ok.mp hvalue'
  obtain ⟨hsame, -⟩ := h _ _ _ _ cart cart' (.swap _ _ _) hcart hcart'
  rw [hcoupon, hcoupon'] at hsame
  exact absurd hsame (by decide)

end NovaCommerce.Pricing
