import NovaCommerce.Order.Lines
import NovaCommerce.Order.Repository

/-!
# Selecting a promotion

`resolvePromotion` prices the cart under every active promotion that covers it and takes the best one;
`useQuota` counts its use. Both happen under the promotion's row lock.
-/

namespace NovaCommerce

open Sql

/-! ## Pricing in a session -/

def contextDetail : Pricing.ContextValue → ErrorDetail
  | .int value => .int value
  | .ints values => .ints values
  | .str value => .str value

/-- A pricing computation; what it refuses is an internal error of the shop. -/
def priced {α : Type} (r : Pricing.Priced α) : Except AppError α :=
  r.mapError fun x =>
    { kind := .pricingInvariant
      message := x.message
      context := x.context.map fun e => (e.1, contextDetail e.2) }

theorem priced_eq_ok {α : Type} {r : Pricing.Priced α} {a : α} : priced r = .ok a ↔ r = .ok a := by
  cases r <;> simp [priced, Except.mapError]

/-! ## Eligible SKUs -/

/-- A scope includes a product. -/
def Scope.Includes (scope : Scope) (productId : Nat) (product : Product) : Prop :=
  scope.allProducts = true ∨ productId ∈ scope.productIds ∨ (∃ c ∈ product.categoryId, c ∈ scope.categoryIds) ∨
    ∃ b ∈ product.brandId, b ∈ scope.brandIds

instance Scope.decidableIncludes (scope : Scope) (productId : Nat) (product : Product) :
    Decidable (scope.Includes productId product) := by
  unfold Scope.Includes
  infer_instance

/-- The SKUs of a cart with the products of the merchant they belong to. -/
def Db.scopeRows (d : Db) (skuIds : List Nat) (merchantId : Nat) : List (Nat × Nat × Product) :=
  (d.productSkus.entries.filter fun e => decide (e.1 ∈ skuIds)).filterMap fun e =>
    ((d.products.get? e.2.productId).filter fun p => decide (p.merchantId = some merchantId)).map
      fun p => (e.1, e.2.productId, p)

/-- The SKUs of a cart a scope includes. -/
def Scope.eligible (scope : Scope) (rows : List (Nat × Nat × Product)) : Finset Nat :=
  ((rows.filter fun row => decide (scope.Includes row.2.1 row.2.2)).map Prod.fst).toFinset

/-! ## The best promotion -/

/-- `promotion_rule`. -/
def promotionRule (id : Nat) (promotion : Promotion) (eligible : Finset Nat) : Pricing.PromotionRule where
  promotionId := id
  promotionType := promotion.promotionType
  thresholdAmount := promotion.ruleConfig.thresholdAmount.getD 0
  discountAmount := promotion.ruleConfig.discountAmount.getD 0
  discountBps := promotion.ruleConfig.discountBps.getD 0
  reductionAmount := promotion.ruleConfig.reductionAmount.getD 0
  maxDiscountAmount := promotion.ruleConfig.maxDiscountAmount
  applicableSkuIds := some eligible

/-- A promotion that is running and not used up. -/
def Promotion.Running (p : Promotion) (merchantId : Nat) (now : Time) : Prop :=
  p.merchantId = merchantId ∧ p.status = .active ∧ p.startsAt ≤ now ∧ now < p.endsAt ∧
    p.usedQuota < p.totalQuota

instance Promotion.decidableRunning (p : Promotion) (merchantId : Nat) (now : Time) :
    Decidable (p.Running merchantId now) := by
  unfold Promotion.Running
  infer_instance

/-- The running promotions of a merchant, by priority and id. -/
def Db.runningPromotions (d : Db) (merchantId : Nat) (now : Time) : List (Nat × Promotion) :=
  (d.promotions.select fun p => decide (p.Running merchantId now)).insertionSort
    fun a b => toLex (-a.2.priority, a.1) ≤ toLex (-b.2.priority, b.1)

/-- A promotion with its rule and the discount it gives on the cart. -/
structure PromotionCandidate where
  discount : Int
  rule : Pricing.PromotionRule
  id : Nat
  promotion : Promotion

/-- The candidate a promotion is, when it covers a line of the cart. -/
def promotionCandidate (lines : List (Pricing.PricedLine AttributeSnapshot)) (rows : List (Nat × Nat × Product))
    (e : Nat × Promotion) : Pricing.Priced (Option PromotionCandidate) := do
  let eligible := e.2.scope.eligible rows
  if eligible = ∅ then return none
  else
    let rule := promotionRule e.1 e.2 eligible
    let cart ← Pricing.calculateCartPrice lines (some rule) none none
    return some { discount := cart.promotionDiscountAmount, rule := rule, id := e.1, promotion := e.2 }

/-- Compare candidates by discount, then priority, then age. -/
def PromotionCandidate.Weaker (a b : PromotionCandidate) : Prop :=
  toLex (a.discount, toLex (a.promotion.priority, -(a.id : Int))) <
    toLex (b.discount, toLex (b.promotion.priority, -(b.id : Int)))

instance PromotionCandidate.decidableWeaker (a b : PromotionCandidate) : Decidable (a.Weaker b) := by
  unfold PromotionCandidate.Weaker
  infer_instance

/-- `max`: the first of the strongest candidates. -/
def strongest : List PromotionCandidate → Option PromotionCandidate
  | [] => none
  | c :: cs => some (cs.foldl (fun best c => if best.Weaker c then c else best) c)

/-- Select the promotion of a cart, under the row locks of all that are running. -/
def resolvePromotion (merchantId : Nat) (skuIds : List Nat) (now : Time)
    (lines : List (Pricing.PricedLine AttributeSnapshot)) : Tx (Option PromotionCandidate) := do
  if skuIds = [] then return none
  else
    let rows ← query fun d => d.scopeRows skuIds merchantId
    let running ← lock (fun d => (d.runningPromotions merchantId now).map fun e => RowLock.promotion e.1)
      (fun d => d.runningPromotions merchantId now)
    let candidates ← ofExcept (priced (running.mapM (promotionCandidate lines rows)))
    return strongest (candidates.filterMap id)

/-- Count one use of a promotion, from the row the session holds. -/
def useQuota (c : PromotionCandidate) : Tx Unit := do
  raiseIf (c.promotion.totalQuota < c.promotion.usedQuota + 1) (checkViolation "promotions")
  update fun d => { d with
    promotions := d.promotions.modify c.id fun row => { row with usedQuota := c.promotion.usedQuota + 1 } }

/-! ## What a selection says -/

/-- The selected promotion is a running row, and its rule is the row's. -/
structure PromotionCandidate.Selected (c : PromotionCandidate) (merchantId : Nat) (now : Time) (d : Db) :
    Prop where
  row : d.promotions.get? c.id = some c.promotion
  running : c.promotion.Running merchantId now
  rule : ∃ eligible, c.rule = promotionRule c.id c.promotion eligible

theorem strongest_mem {cs : List PromotionCandidate} {c : PromotionCandidate} (h : strongest cs = some c) :
    c ∈ cs := by
  cases cs with
  | nil => cases h
  | cons b cs =>
    cases h
    have hfold : ∀ (xs : List PromotionCandidate) (best : PromotionCandidate),
        xs.foldl (fun best c => if best.Weaker c then c else best) best ∈ best :: xs := by
      intro xs
      induction xs with
      | nil => exact fun best => List.mem_cons_self
      | cons x xs ih =>
        intro best
        rw [List.foldl_cons]
        split_ifs
        · exact List.mem_cons_of_mem _ (ih x)
        · rcases List.mem_cons.mp (ih best) with heq | hmem
          · rw [heq]
            exact List.mem_cons_self
          · exact List.mem_cons_of_mem _ (List.mem_cons_of_mem _ hmem)
    exact hfold cs b

theorem promotionCandidate_eq_ok {lines : List (Pricing.PricedLine AttributeSnapshot)}
    {rows : List (Nat × Nat × Product)} {e : Nat × Promotion} {c : PromotionCandidate}
    (h : promotionCandidate lines rows e = .ok (some c)) :
    c.id = e.1 ∧ c.promotion = e.2 ∧ ∃ eligible, c.rule = promotionRule e.1 e.2 eligible := by
  unfold promotionCandidate at h
  dsimp only at h
  split_ifs at h with hempty
  · cases h
  · obtain ⟨cart, -, heq⟩ := Raise.bind_eq_ok.mp h
    cases heq
    exact ⟨rfl, rfl, _, rfl⟩

theorem resolvePromotion_selected {merchantId : Nat} {skuIds : List Nat} {now : Time}
    {lines : List (Pricing.PricedLine AttributeSnapshot)} {e e' : Exec Db} {r : Option PromotionCandidate}
    (h : (resolvePromotion merchantId skuIds now lines).run e = (.ok r, e')) :
    e' = e ∧ ∀ c ∈ r, c.Selected merchantId now e.view := by
  unfold resolvePromotion at h
  split_ifs at h with hskus
  · cases h
    exact ⟨rfl, fun c hc => nomatch hc⟩
  · simp only [run_bind, run_query, run_lock, andThen_ok] at h
    rw [← run_bind, run_bind_eq_ok] at h
    obtain ⟨cs, e₁, hcs, h⟩ := h
    rw [run_ofExcept_eq_ok, priced_eq_ok] at hcs
    obtain ⟨hcs, rfl⟩ := hcs
    cases h
    refine ⟨rfl, fun c hc => ?_⟩
    obtain ⟨o, ho, hoc⟩ := List.mem_filterMap.mp (strongest_mem hc)
    obtain ⟨row, hrow, hcandidate⟩ := Raise.exists_of_mem_mapM hcs ho
    rw [show o = some c from hoc] at hcandidate
    obtain ⟨hid, hpromotion, hrule⟩ := promotionCandidate_eq_ok hcandidate
    obtain ⟨id, promotion⟩ := row
    have hmem := (List.mem_insertionSort _).mp hrow
    rw [Dict.mem_select, decide_eq_true_eq] at hmem
    subst hid hpromotion
    exact ⟨hmem.1, hmem.2, hrule⟩

theorem useQuota_eq_ok {c : PromotionCandidate} {e e' : Exec Db} {u : Unit}
    (h : (useQuota c).run e = (.ok u, e')) : e' = { e with view := { e.view with
      promotions := e.view.promotions.modify c.id fun row =>
        { row with usedQuota := c.promotion.usedQuota + 1 } } } := by
  unfold useQuota at h
  rw [run_bind_eq_ok] at h
  obtain ⟨_, e₁, hquota, h⟩ := h
  rw [run_raiseIf_eq_ok] at hquota
  obtain ⟨-, rfl⟩ := hquota
  cases h
  rfl

@[grind .] theorem noCommit_resolvePromotion (merchantId : Nat) (skuIds : List Nat) (now : Time)
    (lines : List (Pricing.PricedLine AttributeSnapshot)) :
    (resolvePromotion merchantId skuIds now lines).NoCommit := by
  unfold resolvePromotion
  grind

@[grind .] theorem noCommit_useQuota (c : PromotionCandidate) : (useQuota c).NoCommit := by
  unfold useQuota
  grind

end NovaCommerce
