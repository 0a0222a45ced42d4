import NovaCommerce.Marketing.PromotionService
import NovaCommerce.Pricing.Exact

/-!
# The best promotion

* `PromotionCandidate.rank`, `strongest_eq_argmax` : the selection takes the candidate of the highest rank;
* `Db.Candidate` : a running promotion whose scope holds a SKU of the cart; `Db.Best` : the one that beats all others;
* `resolvePromotion_best` : the selected promotion is the best, whatever order the promotions are read in.
-/

namespace NovaCommerce

open Sql

variable {d : Db} {merchantId : Nat} {skuIds : List Nat} {now : Time} {lines : List (Pricing.PricedLine AttributeSnapshot)}

/-! ## Ranks -/

/-- What `max` compares: the discount, then the priority, then the age. -/
def PromotionCandidate.rank (c : PromotionCandidate) : Int ×ₗ Int ×ₗ Int :=
  toLex (c.discount, toLex (c.promotion.priority, -(c.id : Int)))

theorem strongest_eq_argmax (cs : List PromotionCandidate) : strongest cs = cs.argmax PromotionCandidate.rank := by
  have hfold : ∀ (xs : List PromotionCandidate) (best : PromotionCandidate),
      xs.foldl (List.argAux fun b c => c.rank < b.rank) (some best) =
        some (xs.foldl (fun best c => if best.Weaker c then c else best) best) := by
    intro xs
    induction xs with
    | nil => exact fun best => rfl
    | cons x xs ih =>
      intro best
      rw [List.foldl_cons, List.foldl_cons, ← ih]
      congr 1
      show (if best.rank < x.rank then some x else some best) = _
      split_ifs with h h' h'
      · rfl
      · exact absurd h h'
      · exact absurd h' h
      · rfl
  cases cs with
  | nil => rfl
  | cons c cs => exact (hfold cs c).symm

/-- A rank is beaten by a higher discount, then by a higher priority, then by an older promotion. -/
theorem rank_lt_iff {a b : PromotionCandidate} : a.rank < b.rank ↔ a.discount < b.discount ∨
    a.discount = b.discount ∧ (a.promotion.priority < b.promotion.priority ∨
      a.promotion.priority = b.promotion.priority ∧ b.id < a.id) := by
  unfold PromotionCandidate.rank
  rw [Prod.Lex.toLex_lt_toLex, Prod.Lex.toLex_lt_toLex]
  simp only [neg_lt_neg_iff, Nat.cast_lt]

theorem rank_id {a b : PromotionCandidate} (h : a.rank = b.rank) : a.id = b.id := by
  have hage := congrArg (fun r => (ofLex (ofLex r).2).2) h
  exact Int.ofNat_inj.mp (neg_injective hage)

/-- Candidates that differ by their ids have one argmax, in whatever order they are listed. -/
theorem argmax_eq_of_mem_iff {cs cs' : List PromotionCandidate} (hmem : ∀ c, c ∈ cs' ↔ c ∈ cs)
    (hid : ∀ a ∈ cs, ∀ b ∈ cs, a.id = b.id → a = b) :
    cs'.argmax PromotionCandidate.rank = cs.argmax PromotionCandidate.rank := by
  rcases hbest : cs.argmax PromotionCandidate.rank with _ | c
  · have hnil := List.argmax_eq_none.mp hbest
    subst hnil
    rw [List.argmax_eq_none]
    exact List.eq_nil_iff_forall_not_mem.mpr fun c hc => List.not_mem_nil ((hmem c).mp hc)
  · have hc := List.argmax_mem hbest
    rcases hbest' : cs'.argmax PromotionCandidate.rank with _ | c'
    · rw [List.argmax_eq_none.mp hbest'] at hmem
      exact absurd ((hmem c).mpr hc) List.not_mem_nil
    · have hc' := List.argmax_mem hbest'
      have hle := List.le_of_mem_argmax ((hmem c').mp hc') hbest
      have hge := List.le_of_mem_argmax ((hmem c).mpr hc) hbest'
      rw [hid c' ((hmem c').mp hc') c hc (rank_id (le_antisymm hle hge))]

/-! ## Candidates -/

/-- A running promotion with a SKU of the cart in its scope. -/
def Db.Candidate (d : Db) (merchantId : Nat) (skuIds : List Nat) (now : Time) (id : Nat) (promotion : Promotion) : Prop :=
  d.promotions.get? id = some promotion ∧ promotion.Running merchantId now ∧
    promotion.scope.eligible (d.scopeRows skuIds merchantId) ≠ ∅

/-- The discount a promotion gives on the cart. -/
def discountOn (lines : List (Pricing.PricedLine AttributeSnapshot)) (rule : Pricing.PromotionRule) : Pricing.Priced Int :=
  Pricing.CartPrice.promotionDiscountAmount <$> Pricing.calculateCartPrice lines (some rule) none none

/-- The rule of a promotion on the cart. -/
def Db.ruleOf (d : Db) (merchantId : Nat) (skuIds : List Nat) (id : Nat) (promotion : Promotion) : Pricing.PromotionRule :=
  promotionRule id promotion (promotion.scope.eligible (d.scopeRows skuIds merchantId))

/-- A candidate with the discount it gives, which no other candidate beats. -/
structure Db.Best (d : Db) (merchantId : Nat) (skuIds : List Nat) (now : Time)
    (lines : List (Pricing.PricedLine AttributeSnapshot)) (c : PromotionCandidate) : Prop where
  candidate : d.Candidate merchantId skuIds now c.id c.promotion
  rule : c.rule = d.ruleOf merchantId skuIds c.id c.promotion
  discount : discountOn lines c.rule = .ok c.discount
  best : ∀ id promotion, d.Candidate merchantId skuIds now id promotion →
    ∃ discount, discountOn lines (d.ruleOf merchantId skuIds id promotion) = .ok discount ∧
      (id = c.id ∨ discount < c.discount ∨ discount = c.discount ∧ (promotion.priority < c.promotion.priority ∨
        promotion.priority = c.promotion.priority ∧ c.id < id))

theorem promotionCandidate_some {rows : List (Nat × Nat × Product)} {e : Nat × Promotion} {c : PromotionCandidate} :
    promotionCandidate lines rows e = .ok (some c) ↔ e.2.scope.eligible rows ≠ ∅ ∧
      c.id = e.1 ∧ c.promotion = e.2 ∧ c.rule = promotionRule e.1 e.2 (e.2.scope.eligible rows) ∧
      discountOn lines c.rule = .ok c.discount := by
  unfold promotionCandidate discountOn
  dsimp only
  split_ifs with hempty
  · simp [hempty]
  · rw [Raise.bind_eq_ok]
    constructor
    · rintro ⟨cart, hcart, heq⟩
      cases heq
      exact ⟨hempty, rfl, rfl, rfl, Raise.map_eq_ok.mpr ⟨cart, hcart, rfl⟩⟩
    · rintro ⟨-, hid, hpromotion, hrule, hdiscount⟩
      obtain ⟨cart, hcart, heq⟩ := Raise.map_eq_ok.mp hdiscount
      rw [hrule] at hcart
      refine ⟨cart, hcart, ?_⟩
      obtain ⟨discount, rule, id, promotion⟩ := c
      cases hid
      cases hpromotion
      cases hrule
      cases heq
      rfl

/-- The priced candidates of a listing are those its rows give. -/
theorem mem_candidates {rows : List (Nat × Nat × Product)} {listing : List (Nat × Promotion)}
    {candidates : List (Option PromotionCandidate)} (h : listing.mapM (promotionCandidate lines rows) = .ok candidates)
    {c : PromotionCandidate} :
    c ∈ candidates.filterMap id ↔ ∃ e ∈ listing, promotionCandidate lines rows e = .ok (some c) := by
  constructor
  · intro hc
    obtain ⟨o, ho, hoc⟩ := List.mem_filterMap.mp hc
    obtain ⟨e, he, heo⟩ := Raise.exists_of_mem_mapM h ho
    exact ⟨e, he, heo.trans (congrArg Except.ok hoc)⟩
  · rintro ⟨e, he, hec⟩
    obtain ⟨o, ho, heo⟩ := Raise.exists_ok_of_mapM h he
    rw [hec] at heo
    exact List.mem_filterMap.mpr ⟨o, ho, (Except.ok.inj heo).symm⟩

theorem mem_runningPromotions {e : Nat × Promotion} :
    e ∈ d.runningPromotions merchantId now ↔ d.promotions.get? e.1 = some e.2 ∧ e.2.Running merchantId now := by
  unfold Db.runningPromotions
  rw [List.mem_insertionSort, Dict.mem_select, decide_eq_true_eq]

/-- The strongest of the priced candidates of a listing of all running promotions is the best. -/
theorem strongest_best {listing : List (Nat × Promotion)} {candidates : List (Option PromotionCandidate)}
    (hlisting : ∀ e, e ∈ listing ↔ e ∈ d.runningPromotions merchantId now)
    (h : listing.mapM (promotionCandidate lines (d.scopeRows skuIds merchantId)) = .ok candidates) :
    (strongest (candidates.filterMap id) = none ↔ ∀ i p, ¬ d.Candidate merchantId skuIds now i p) ∧
      ∀ c ∈ strongest (candidates.filterMap id), d.Best merchantId skuIds now lines c := by
  -- a candidate of the table is a priced one of the listing
  have hpriced : ∀ i p, d.Candidate merchantId skuIds now i p →
      ∃ c ∈ candidates.filterMap id, c.id = i ∧ c.promotion = p ∧ c.rule = d.ruleOf merchantId skuIds i p ∧
        discountOn lines c.rule = .ok c.discount := by
    rintro i p ⟨hrow, hrunning, heligible⟩
    have hmem : (i, p) ∈ listing := (hlisting (i, p)).mpr (mem_runningPromotions.mpr ⟨hrow, hrunning⟩)
    obtain ⟨o, -, ho⟩ := Raise.exists_ok_of_mapM h hmem
    rcases o with _ | c
    · unfold promotionCandidate at ho
      dsimp only at ho
      rw [if_neg heligible] at ho
      obtain ⟨cart, -, heq⟩ := Raise.bind_eq_ok.mp ho
      cases heq
    · obtain ⟨-, hid, hpromotion, hrule, hdiscount⟩ := promotionCandidate_some.mp ho
      exact ⟨c, (mem_candidates h).mpr ⟨(i, p), hmem, ho⟩, hid, hpromotion, hrule, hdiscount⟩
  have hcandidate : ∀ c ∈ candidates.filterMap id, d.Candidate merchantId skuIds now c.id c.promotion ∧
      c.rule = d.ruleOf merchantId skuIds c.id c.promotion ∧ discountOn lines c.rule = .ok c.discount := by
    intro c hc
    obtain ⟨⟨i, p⟩, he, hec⟩ := (mem_candidates h).mp hc
    obtain ⟨heligible, hid, hpromotion, hrule, hdiscount⟩ := promotionCandidate_some.mp hec
    obtain ⟨hrow, hrunning⟩ := mem_runningPromotions.mp ((hlisting (i, p)).mp he)
    rw [hid, hpromotion]
    exact ⟨⟨hrow, hrunning, heligible⟩, hrule, hdiscount⟩
  rw [strongest_eq_argmax]
  constructor
  · rw [List.argmax_eq_none]
    constructor
    · intro hnil i p hip
      obtain ⟨c, hc, -⟩ := hpriced i p hip
      rw [hnil] at hc
      exact List.not_mem_nil hc
    · intro hnone
      exact List.eq_nil_iff_forall_not_mem.mpr fun c hc => hnone c.id c.promotion (hcandidate c hc).1
  · intro c hc
    obtain ⟨hof, hrule, hdiscount⟩ := hcandidate c (List.argmax_mem hc)
    refine ⟨hof, hrule, hdiscount, fun i p hip => ?_⟩
    obtain ⟨other, hother, rfl, rfl, hrule', hdiscount'⟩ := hpriced i p hip
    refine ⟨other.discount, hrule' ▸ hdiscount', ?_⟩
    rcases (List.le_of_mem_argmax hother hc).lt_or_eq with hlt | heq
    · exact .inr (rank_lt_iff.mp hlt)
    · exact .inl (rank_id heq)

/-- Two priced candidates of one promotion are the same. -/
theorem candidates_determined {listing : List (Nat × Promotion)} {candidates : List (Option PromotionCandidate)}
    (hlisting : ∀ e, e ∈ listing ↔ e ∈ d.runningPromotions merchantId now)
    {rows : List (Nat × Nat × Product)} (h : listing.mapM (promotionCandidate lines rows) = .ok candidates) :
    ∀ a ∈ candidates.filterMap id, ∀ b ∈ candidates.filterMap id, a.id = b.id → a = b := by
  intro a ha b hb hid
  obtain ⟨e, he, hea⟩ := (mem_candidates h).mp ha
  obtain ⟨e', he', heb⟩ := (mem_candidates h).mp hb
  obtain ⟨-, hida, -⟩ := promotionCandidate_some.mp hea
  obtain ⟨-, hidb, -⟩ := promotionCandidate_some.mp heb
  have hkey : e.1 = e'.1 := hida.symm.trans (hid.trans hidb)
  have hrow := (mem_runningPromotions.mp ((hlisting e).mp he)).1
  have hrow' := (mem_runningPromotions.mp ((hlisting e').mp he')).1
  have hsame : e = e' := Prod.ext hkey (Option.some.inj (hrow.symm.trans (hkey ▸ hrow')))
  rw [hsame, heb] at hea
  exact (Option.some.inj (Except.ok.inj hea)).symm

/-! ## Valid configurations -/

/-- What a promotion is created with: every given value is positive, and a rate is at most the whole. -/
structure RuleConfig.Valid (config : RuleConfig) : Prop where
  threshold : ∀ v ∈ config.thresholdAmount, 0 < v
  discount : ∀ v ∈ config.discountAmount, 0 < v
  bps : ∀ v ∈ config.discountBps, 0 < v ∧ v ≤ Pricing.maxDiscountBps
  reduction : ∀ v ∈ config.reductionAmount, 0 < v
  cap : ∀ v ∈ config.maxDiscountAmount, 0 < v

theorem getD_nonneg {v : Option Int} (h : ∀ x ∈ v, 0 < x) : 0 ≤ v.getD 0 := by
  cases v with
  | none => exact le_rfl
  | some x => exact (h x rfl).le

theorem RuleConfig.Valid.admissible {promotion : Promotion} (h : promotion.ruleConfig.Valid) (id : Nat)
    (eligible : Finset Nat) : (promotionRule id promotion eligible).Admissible where
  threshold := getD_nonneg h.threshold
  discount := getD_nonneg h.discount
  bps := by
    refine ⟨getD_nonneg fun v hv => (h.bps v hv).1, ?_⟩
    show promotion.ruleConfig.discountBps.getD 0 ≤ _
    cases hbps : promotion.ruleConfig.discountBps with
    | none => decide
    | some v => exact (h.bps v hbps).2
  reduction := getD_nonneg h.reduction
  cap := fun v hv => (h.cap v hv).le

theorem promotionCandidate_total {rows : List (Nat × Nat × Product)} {e : Nat × Promotion}
    (hlines : Pricing.WellFormedLines lines) (hconfig : e.2.ruleConfig.Valid) :
    ∃ o, promotionCandidate lines rows e = .ok o := by
  unfold promotionCandidate
  dsimp only
  split_ifs
  · exact ⟨none, rfl⟩
  · have hfree : ∀ s ∈ (none : Option (Pricing.ShippingPolicy AttributeSnapshot)), ∀ cart, s.calculate cart = 0 :=
      fun _ h => nomatch h
    obtain ⟨cart, hcart, -⟩ := (Pricing.calculateCartPrice_exact_iff hlines
      (some (promotionRule e.1 e.2 (e.2.scope.eligible rows))) none hfree).mpr
      ⟨fun rule h => Option.some.inj h ▸ hconfig.admissible e.1 _, fun _ h => nomatch h⟩
    exact ⟨_, Raise.bind_eq_ok.mpr ⟨cart, hcart, rfl⟩⟩

/-! ## The selection -/

/-- The selection, once the rows are read. -/
theorem resolvePromotion_eq_ok {r : Option PromotionCandidate} {e e' : Exec Db} :
    (resolvePromotion merchantId skuIds now lines).run e = (.ok r, e') ↔ e' = e ∧ ∃ candidates,
      (e.view.runningPromotions merchantId now).mapM (promotionCandidate lines (e.view.scopeRows skuIds merchantId)) =
        .ok candidates ∧ strongest (candidates.filterMap id) = r := by
  unfold resolvePromotion
  by_cases hskus : skuIds = []
  · rw [if_pos hskus]
    -- no SKU is in any scope, so that every promotion is passed over
    have hrows : e.view.scopeRows skuIds merchantId = [] := by
      unfold Db.scopeRows
      simp [hskus]
    have hmap : (e.view.runningPromotions merchantId now).mapM (promotionCandidate lines (e.view.scopeRows skuIds merchantId)) =
        .ok ((e.view.runningPromotions merchantId now).map fun _ => none) :=
      Raise.mapM_eq_map fun x _ => by
        rw [hrows]
        rfl
    have hnil : ((e.view.runningPromotions merchantId now).map fun _ => (none : Option PromotionCandidate)).filterMap id = [] := by
      simp
    rw [hmap]
    constructor
    · intro h
      cases h
      exact ⟨rfl, _, rfl, by rw [hnil]; rfl⟩
    · rintro ⟨rfl, candidates, hc, rfl⟩
      cases hc
      rw [hnil]
      rfl
  · rw [if_neg hskus]
    simp only [run_bind, run_query, run_lock, andThen_ok]
    rw [← run_bind, run_bind_eq_ok]
    constructor
    · rintro ⟨candidates, e₁, hcs, h⟩
      rw [run_ofExcept_eq_ok, priced_eq_ok] at hcs
      obtain ⟨hcs, rfl⟩ := hcs
      cases h
      exact ⟨rfl, candidates, hcs, rfl⟩
    · rintro ⟨rfl, candidates, hcs, rfl⟩
      refine ⟨candidates, e', ?_, rfl⟩
      rw [run_ofExcept_eq_ok, priced_eq_ok]
      exact ⟨hcs, rfl⟩

/-- With valid configurations a promotion is selected. It is the best candidate, there is none exactly when there is no candidate,
and the order in which the running promotions are listed does not matter. -/
theorem resolvePromotion_best (merchantId : Nat) (skuIds : List Nat) (now : Time) (e : Exec Db) (hlines : Pricing.WellFormedLines lines)
    (hconfig : ∀ i p, e.view.promotions.get? i = some p → p.ruleConfig.Valid) :
    ∃ r, (resolvePromotion merchantId skuIds now lines).run e = (.ok r, e) ∧
      (r = none ↔ ∀ i p, ¬ e.view.Candidate merchantId skuIds now i p) ∧
      (∀ c ∈ r, e.view.Best merchantId skuIds now lines c) ∧
      ∀ listing : List (Nat × Promotion), listing.Perm (e.view.runningPromotions merchantId now) → ∃ candidates,
        listing.mapM (promotionCandidate lines (e.view.scopeRows skuIds merchantId)) = .ok candidates ∧
          strongest (candidates.filterMap id) = r := by
  have htotal : ∀ row ∈ e.view.runningPromotions merchantId now,
      ∃ o, promotionCandidate lines (e.view.scopeRows skuIds merchantId) row = .ok o := fun row hrow =>
    promotionCandidate_total hlines (hconfig row.1 row.2 (mem_runningPromotions.mp hrow).1)
  obtain ⟨candidates, hcandidates⟩ := Raise.mapM_total htotal
  have hbest := strongest_best (fun _ => .rfl) hcandidates
  refine ⟨strongest (candidates.filterMap id), resolvePromotion_eq_ok.mpr ⟨rfl, candidates, hcandidates, rfl⟩, hbest.1, hbest.2,
    fun listing hperm => ?_⟩
  obtain ⟨listed, hlisted⟩ : ∃ listed, listing.mapM (promotionCandidate lines (e.view.scopeRows skuIds merchantId)) = .ok listed :=
    Raise.mapM_total fun row hrow => htotal row (hperm.mem_iff.mp hrow)
  refine ⟨listed, hlisted, ?_⟩
  rw [strongest_eq_argmax, strongest_eq_argmax]
  refine argmax_eq_of_mem_iff (fun c => ?_) (candidates_determined (fun _ => .rfl) hcandidates)
  rw [mem_candidates hlisted, mem_candidates hcandidates]
  exact exists_congr fun row => and_congr_left' hperm.mem_iff

/-! ## A cart with two promotions -/

/-- Three cups at 10.00 each. -/
def cupLines : List (Pricing.PricedLine AttributeSnapshot) := [⟨10, 5, "Cup", "White", none, none, none, 1000, 3⟩]

/-- 0.50 off each unit, or a tenth off with a lower priority. -/
def campaigns : Db where
  products := Dict.ofList [(5, { merchantId := some 1, productNo := "P5", name := "Cup", status := .published })]
  productSkus := Dict.ofList [(10, { productId := 5, skuNo := "S10", name := "White", priceAmount := 1000 })]
  promotions := Dict.ofList [
    (1, { merchantId := 1, promotionType := .directDiscount, status := .active, priority := 900,
          ruleConfig := { discountAmount := some 50 }, scope := { allProducts := true }, startsAt := 100, endsAt := 900,
          totalQuota := 10 }),
    (2, { merchantId := 1, promotionType := .percentDiscount, status := .active,
          ruleConfig := { discountBps := some 1000 }, scope := { allProducts := false, productIds := [5] }, startsAt := 100,
          endsAt := 900, totalQuota := 10 })]

theorem campaigns_valid : ∀ i p, campaigns.promotions.get? i = some p → p.ruleConfig.Valid := by
  intro i p h
  have hmem := Dict.mem_of_mem_ofList (Dict.get?_eq_some.mp h)
  simp only [List.mem_cons, List.not_mem_nil, or_false, Prod.mk.injEq] at hmem
  rcases hmem with ⟨-, rfl⟩ | ⟨-, rfl⟩ <;> constructor <;> simp [Pricing.maxDiscountBps]

theorem cupLines_wellFormed : Pricing.WellFormedLines cupLines := by
  refine ⟨by decide, by decide, fun a ha b hb _ => ?_⟩
  rw [List.mem_singleton.mp ha, List.mem_singleton.mp hb]
  exact ⟨rfl, rfl, rfl, rfl, rfl, rfl, rfl⟩

/-- The tenth wins over the higher priority. -/
theorem resolvePromotion_best_campaigns : ∃ c, campaigns.Best 1 [10] 500 cupLines c ∧ c.id = 2 ∧ c.discount = 300 := by
  obtain ⟨r, hrun, -, hbest, -⟩ := resolvePromotion_best 1 [10] 500
    (Exec.start campaigns 100) cupLines_wellFormed campaigns_valid
  have hvalue : (match ((resolvePromotion 1 [10] 500 cupLines).run (Exec.start campaigns 100)).1 with
      | .ok r => r.map fun c => decide (c.id = 2 ∧ c.discount = 300)
      | .error _ => none) = some true := by decide +kernel
  rw [hrun] at hvalue
  obtain ⟨c, rfl, hc⟩ := Option.map_eq_some_iff.mp hvalue
  exact ⟨c, hbest c rfl, of_decide_eq_true hc⟩

end NovaCommerce
