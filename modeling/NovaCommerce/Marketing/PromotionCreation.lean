import NovaCommerce.Lib.Interleaving
import NovaCommerce.Marketing.PreviewTokens

/-!
# Creating promotions from previews

Sessions preview and create side by side, statement by statement. A create shows the token of a preview; the digest of the token is
unique within the merchant, so a second create of the same token fails on the key and reads the first one's promotion.

* `preview`, `create` : the programs; `Call`, `session` : what a session asks for, and everything else that commits;
* `Books.Accounted`, `Books.OncePerToken` : each promotion was previewed as it stands, and is the only one of its token;
* `booksDiscipline` : promotions stay, and a token whose key is locked gets none from the others;
* `safe_session` : every session keeps both, `wp_create_existing` : what a create answers when the promotion is there;
* `promotions_created_once` : what that means for every run.
-/

namespace NovaCommerce.Previews

open Sql
open Console (promotionMerchant scopeProducts)

/-! ## Rows -/

structure PromotionRow extends Console.Campaign where
  previewTokenHash : String
  name : String
  description : Option String
  stackable : Bool

structure PromotionProduct where
  merchantId : Nat
  promotionId : Nat
  productId : Nat

/-- The tables, the promotions with all their columns, and what the secret has signed so far. -/
structure Books where
  tables : Console.Tables := {}
  promotions : Dict Nat PromotionRow := Dict.empty
  promotionProducts : List PromotionProduct := []
  signings : List Signing := []

/-- What the console reads. -/
def Books.view (d : Books) : Console.Tables :=
  { d.tables with promotions := d.promotions.mapValues PromotionRow.toCampaign }

/-- A key that an insert locks. -/
inductive Key where
  | number (merchantId : Nat) (promotionNo : String)
  | token (merchantId : Nat) (previewTokenHash : String)
  deriving DecidableEq

abbrev Work := Sql Books Key AppError

/-- The promotion of a token. -/
def PromotionRow.Of (row : PromotionRow) (merchantId : Nat) (digest : String) : Prop :=
  row.merchantId = merchantId ∧ row.previewTokenHash = digest

instance (row : PromotionRow) (merchantId : Nat) (digest : String) : Decidable (row.Of merchantId digest) := by
  unfold PromotionRow.Of
  infer_instance

/-! ## Previews -/

/-- `model_dump` of a draft. -/
def PromotionDraft.document (draft : PromotionDraft) : Json :=
  let int (n : Option Int) : Json := n.elim .null .int
  let ids (ns : List Nat) : Json := .arr (ns.map fun n => .int n)
  let c := draft.ruleConfig
  .obj [
    ("name", .str draft.name),
    ("description", draft.description.elim .null .str),
    ("promotion_type", .str (promotionTypeValue draft.promotionType)),
    ("priority", .int draft.priority),
    ("stackable", .bool draft.stackable),
    ("rule_config", .obj (match draft.promotionType with
      | .directDiscount => [("discount_amount", int c.discountAmount)]
      | .percentDiscount => [("discount_bps", int c.discountBps), ("max_discount_amount", int c.maxDiscountAmount)]
      | .fullReduction => [("threshold_amount", int c.thresholdAmount), ("reduction_amount", int c.reductionAmount),
          ("max_discount_amount", int c.maxDiscountAmount)])),
    ("scope", .obj [("all_products", .bool draft.scope.allProducts), ("product_ids", ids draft.scope.productIds),
      ("category_ids", ids draft.scope.categoryIds), ("brand_ids", ids draft.scope.brandIds)]),
    ("starts_at", .str draft.startsAt.isoformat),
    ("ends_at", .str draft.endsAt.isoformat),
    ("total_quota", .int draft.totalQuota)]

/-- The draft as the console prices it. -/
def PromotionDraft.asConsole (draft : PromotionDraft) : Console.PromotionDraft where
  promotionType := draft.promotionType
  ruleConfig := draft.ruleConfig
  scope := draft.scope
  startsAt := draft.startsAt.instant
  endsAt := draft.endsAt.instant
  document := draft.document

def sign (s : Signing) : Work Unit := update fun d => { d with signings := d.signings ++ [s] }

/-- A read that is made only where there is something to look for. -/
def readFor {γ : Type} (ids : List Nat) (g : Books → Dict Nat γ) : Work (Dict Nat γ) :=
  if ids = [] then pure Dict.empty else query g

/-- `_scope_products`: its reads of the catalogue, each a statement of its own. -/
def readScope (scope : Scope) : Work Console.Tables := do
  let categories ← readFor scope.categoryIds fun d => d.tables.categories
  let brands ← readFor scope.brandIds fun d => d.tables.brands
  let products ← query fun d => d.tables.products
  return { categories := categories, brands := brands, products := products }

/-- `preview` of the promotions. Nothing of it is stored: what is committed is that the secret signed. -/
def preview (env : Signer) (principal : Identity.Principal) (draft : PromotionDraft) (now : Time) (nonce : String) :
    Work (String × Console.PromotionPreview) := do
  let merchantId ← ofExcept (promotionMerchant principal true)
  let tables ← query Books.view
  let answered ← ofExcept (Console.previewPromotion tables principal draft.asConsole now)
  sign (.preview merchantId (.promotion draft) now nonce)
  commitNow
  return (issuePreviewToken env (.promotion draft) merchantId now nonce, answered)

/-- `_merchant` of the coupons, to write. -/
def couponMerchant (principal : Identity.Principal) : Except AppError Nat := do
  principal.requirePermission "coupon:write"
  Raise.orRaise principal.merchantId
    { kind := .permissionDenied, message := "a coupon template requires a merchant-scoped operator" }

/-- `preview` of the coupons, up to its token. -/
def previewCoupon (env : Signer) (principal : Identity.Principal) (draft : CouponDraft) (now : Time) (nonce : String) :
    Work String := do
  let merchantId ← ofExcept (couponMerchant principal)
  let seen ← readScope { draft.applicableScope with brandIds := [] }
  let _ ← ofExcept (scopeProducts seen merchantId { draft.applicableScope with brandIds := [] })
  sign (.preview merchantId (.coupon draft) now nonce)
  commitNow
  return issuePreviewToken env (.coupon draft) merchantId now nonce

/-! ## Creates -/

structure PromotionCreate where
  draft : PromotionDraft
  previewToken : PyStr

def integrityError : AppError := { kind := .integrity, message := "IntegrityError" }

/-- The row that a create inserts, under the number it has until its id is known. -/
def draftedRow (merchantId : Nat) (digest : String) (draft : PromotionDraft) : PromotionRow where
  merchantId := merchantId
  promotionNo := truncate 32 digest
  previewTokenHash := digest
  name := draft.name
  description := draft.description
  promotionType := draft.promotionType
  status := .draft
  priority := draft.priority
  stackable := draft.stackable
  ruleConfig := draft.ruleConfig
  scope := draft.scope
  startsAt := draft.startsAt.instant
  endsAt := draft.endsAt.instant
  totalQuota := draft.totalQuota
  usedQuota := 0

/-- The body of the `try`: the row, its number, its products, and the commit. -/
def insertPromotion (merchantId : Nat) (digest : String) (draft : PromotionDraft) (now : Time) : Work (Nat × PromotionRow) := do
  let id ← newId
  let row := draftedRow merchantId digest draft
  let clash ← lock (fun _ => [.number merchantId row.promotionNo, .token merchantId digest]) fun d =>
    d.promotions.find? fun p => decide (p.merchantId = merchantId ∧ p.promotionNo = row.promotionNo ∨ p.Of merchantId digest)
  raiseIf (clash.isSome = true) integrityError
  update fun d => { d with promotions := d.promotions.set id row }
  let number := businessNo "NVP" now id
  let taken ← lock (fun _ => [.number merchantId number]) fun d =>
    d.promotions.find? fun p => decide (p.merchantId = merchantId ∧ p.promotionNo = number)
  raiseIf (taken.isSome = true) integrityError
  update fun d => { d with promotions := d.promotions.modify id fun p => { p with promotionNo := number } }
  raiseIf (¬ draft.scope.productIds.Nodup) integrityError
  update fun d => { d with
    promotionProducts := d.promotionProducts ++ draft.scope.productIds.map fun productId => ⟨merchantId, id, productId⟩ }
  commitNow
  return (id, { row with promotionNo := number })

/-- `except IntegrityError`: the promotion that has the token already. -/
def recoverExisting (merchantId : Nat) (digest : String) (x : AppError) : Work (Nat × PromotionRow) :=
  if x.kind = .integrity then do
    rollbackNow
    let existing ← query fun d => d.promotions.find? fun p => decide (p.Of merchantId digest)
    orRaise existing x
  else raise x

/-- `create` behind its checks of the caller and the token. -/
def createVerified (merchantId : Nat) (digest : String) (draft : PromotionDraft) (now : Time) : Work (Nat × PromotionRow) := do
  let seen ← readScope draft.scope
  let _ ← ofExcept (scopeProducts seen merchantId draft.scope)
  (insertPromotion merchantId digest draft now).handle (recoverExisting merchantId digest)

/-- `create` of the promotions. -/
def create (env : Signer) (principal : Identity.Principal) (payload : PromotionCreate) (now : Time) : Work (Nat × PromotionRow) := do
  let merchantId ← ofExcept (promotionMerchant principal true)
  let digest ← ofExcept (verifyPreviewToken env payload.previewToken (.promotion payload.draft) merchantId now)
  createVerified merchantId digest payload.draft now

/-! ## Sessions -/

/-- A promotion stays as it was created: a publication, an end, and the quota that orders use are all that happens to it. -/
def PromotionRow.Stays (row row' : PromotionRow) : Prop :=
  row' = { row with status := row'.status, usedQuota := row'.usedQuota }

/-- Whatever else commits: it creates no promotion, and signs nothing. -/
structure Edit where
  apply : Books → Books
  promotions : ∀ d, Dict.Grows PromotionRow.Stays (fun _ => False) d.promotions (apply d).promotions
  signings : ∀ d, (apply d).signings = d.signings

/-- What a session asks for. -/
inductive Call where
  | preview (principal : Identity.Principal) (draft : PromotionDraft) (now : Time) (nonce : String)
  | previewCoupon (principal : Identity.Principal) (draft : CouponDraft) (now : Time) (nonce : String)
  | access (header payload : String)
  | create (principal : Identity.Principal) (payload : PromotionCreate) (now : Time)
  | edit (e : Edit)

inductive Reply where
  | token (text : String)
  | promotion (id : Nat) (row : PromotionRow)
  | done

def Call.program (env : Signer) : Call → Work Reply
  | .preview principal draft now nonce => do
    let (token, _) ← Previews.preview env principal draft now nonce
    return .token token
  | .previewCoupon principal draft now nonce => do
    let token ← Previews.previewCoupon env principal draft now nonce
    return .token token
  | .access header payload => do
    sign (.access header payload)
    commitNow
    return .done
  | .create principal payload now => do
    let (id, row) ← Previews.create env principal payload now
    return .promotion id row
  | .edit e => do
    update e.apply
    commitNow
    return .done

/-- A session: its call, and what it answers. -/
def session (env : Signer) (call : Call) : Work (Except AppError Reply) := answer (call.program env)

/-! ## What holds of the books -/

theorem PromotionRow.stays_refl (row : PromotionRow) : row.Stays row := rfl

theorem PromotionRow.Stays.trans {a b c : PromotionRow} (hab : a.Stays b) (hbc : b.Stays c) : a.Stays c := by
  unfold PromotionRow.Stays at hab hbc ⊢
  rw [hab] at hbc
  exact hbc

theorem PromotionRow.Stays.of_iff {row row' : PromotionRow} (h : row.Stays row') (merchantId : Nat) (digest : String) :
    row'.Of merchantId digest ↔ row.Of merchantId digest := by
  unfold PromotionRow.Stays at h
  rw [h]
  exact Iff.rfl

/-- The row is what the draft is inserted as, up to its number, its status and the quota used. -/
def PromotionRow.Offers (row : PromotionRow) (draft : PromotionDraft) : Prop :=
  ({ draftedRow row.merchantId row.previewTokenHash draft with promotionNo := row.promotionNo } : PromotionRow).Stays row

/-- A create of the history made the row of the draft it was called with, showing the token that a preview of its merchant issued
for a draft with the same canonical form, and the token had not expired. -/
structure PromotionRow.Accounted (env : Signer) (calls : Nat → Call) (signings : List Signing) (row : PromotionRow) : Prop where
  created : ∃ i principal payload now previewed issuedAt nonce, calls i = .create principal payload now ∧
    promotionMerchant principal true = .ok row.merchantId ∧
    Signing.preview row.merchantId (.promotion previewed) issuedAt nonce ∈ signings ∧
    previewed.canonical = payload.draft.canonical ∧ now / 1000 < (issuedAt + previewTtl) / 1000 ∧
    payload.previewToken = py (issuePreviewToken env (.promotion previewed) row.merchantId issuedAt nonce) ∧
    row.previewTokenHash = env.sha256Hex (issuePreviewToken env (.promotion previewed) row.merchantId issuedAt nonce) ∧
    row.Offers payload.draft

/-- Every promotion is accounted for, and a merchant has one for each token. -/
structure Books.Sound (env : Signer) (calls : Nat → Call) (d : Books) : Prop where
  accounted : ∀ i row, d.promotions.get? i = some row → row.Accounted env calls d.signings
  once : ∀ i j row row', d.promotions.get? i = some row → d.promotions.get? j = some row' →
    row'.Of row.merchantId row.previewTokenHash → i = j

/-- The merchant has no promotion of the token. -/
def Books.Free (d : Books) (merchantId : Nat) (digest : String) : Prop :=
  ∀ i row, d.promotions.get? i = some row → ¬ row.Of merchantId digest

theorem free_of_find? {d : Books} {merchantId : Nat} {digest number : String}
    (h : ¬ (d.promotions.find? fun p => decide (p.merchantId = merchantId ∧ p.promotionNo = number ∨ p.Of merchantId digest)).isSome = true) :
    d.Free merchantId digest := by
  intro i row hrow hof
  rw [Bool.not_eq_true, Option.isSome_eq_false_iff, Option.isNone_iff_eq_none] at h
  have hnone := Dict.find?_none.mp h (i, row) (Dict.get?_eq_some.mp hrow)
  exact hnone (decide_eq_true (.inr hof))

section

variable {env : Signer} {calls : Nat → Call}

theorem PromotionRow.Accounted.stays {signings signings' : List Signing} {row row' : PromotionRow}
    (h : row.Accounted env calls signings) (hstays : row.Stays row') (hgrown : ∀ s ∈ signings, s ∈ signings') :
    row'.Accounted env calls signings' := by
  obtain ⟨i, principal, payload, now, previewed, issuedAt, nonce, hcall, hmerchant, hmem, hcanonical, hexpires, htoken, hdigest,
    hoffers⟩ := h.created
  have hmerchant' : row'.merchantId = row.merchantId := by
    unfold PromotionRow.Stays at hstays
    rw [hstays]
  have hdigest' : row'.previewTokenHash = row.previewTokenHash := by
    unfold PromotionRow.Stays at hstays
    rw [hstays]
  have hnumber' : row'.promotionNo = row.promotionNo := by
    unfold PromotionRow.Stays at hstays
    rw [hstays]
  refine ⟨i, principal, payload, now, previewed, issuedAt, nonce, hcall, ?_, ?_, hcanonical, hexpires, ?_, ?_, ?_⟩
  · rw [hmerchant', hmerchant]
  · rw [hmerchant']
    exact hgrown _ hmem
  · rw [hmerchant', htoken]
  · rw [hmerchant', hdigest', hdigest]
  · unfold PromotionRow.Offers
    rw [hmerchant', hdigest', hnumber']
    exact PromotionRow.Stays.trans hoffers hstays

/-! ## What a session may rely on -/

/-- Meanwhile promotions stay, signatures are not taken back, a free token whose key is locked stays free, and an id that was drawn
is not used by others. -/
structure Books.Lasts (h : Lock Key → Prop) (d d' : Books) : Prop where
  kept : ∀ i row, d.promotions.get? i = some row → ∃ row', d'.promotions.get? i = some row' ∧ row.Stays row'
  signed : ∀ s ∈ d.signings, s ∈ d'.signings
  free : ∀ merchantId digest, h (.row (.token merchantId digest)) → d.Free merchantId digest → d'.Free merchantId digest
  absent : ∀ i, h (.id i) → d.promotions.get? i = none → d'.promotions.get? i = none

def booksDiscipline : Discipline Books Key where
  rely := Books.Lasts
  fresh i d := d.promotions.get? i = none
  rely_refl _ _ := ⟨fun _ row h => ⟨row, h, row.stays_refl⟩, fun _ h => h, fun _ _ _ h => h, fun _ _ h => h⟩
  rely_trans hab hbc := {
    kept := fun i row hrow => by
      obtain ⟨row', hrow', hstays⟩ := hab.kept i row hrow
      obtain ⟨row'', hrow'', hstays'⟩ := hbc.kept i row' hrow'
      exact ⟨row'', hrow'', hstays.trans hstays'⟩
    signed := fun s hs => hbc.signed s (hab.signed s hs)
    free := fun m digest hl hfree => hbc.free m digest hl (hab.free m digest hl hfree)
    absent := fun i hl hnone => hbc.absent i hl (hab.absent i hl hnone) }
  rely_mono himp hab :=
    ⟨hab.kept, hab.signed, fun m digest hl => hab.free m digest (himp _ hl), fun i hl => hab.absent i (himp _ hl)⟩

/-- A change that creates no promotion. -/
theorem publishes_kept {h : Lock Key → Prop} {d d' : Books} (hd : d.Sound env calls)
    (hgrows : Dict.Grows PromotionRow.Stays (fun _ => False) d.promotions d'.promotions) (hsigned : ∀ s ∈ d.signings, s ∈ d'.signings) :
    booksDiscipline.Publishes (Books.Sound env calls) h d d' := by
  have horigin : ∀ i row', d'.promotions.get? i = some row' → ∃ row, d.promotions.get? i = some row ∧ row.Stays row' :=
    fun i row' hrow' => (hgrows.origin i row' hrow').resolve_right fun hnew => hnew.2
  have habsent : ∀ i, d.promotions.get? i = none → d'.promotions.get? i = none := by
    intro i hnone
    by_contra hsome
    obtain ⟨row', hrow'⟩ := Option.ne_none_iff_exists'.mp hsome
    obtain ⟨row, hrow, -⟩ := horigin i row' hrow'
    rw [hnone] at hrow
    cases hrow
  refine ⟨⟨fun i row' hrow' => ?_, fun i j row row' hrow hrow' hof => ?_⟩, fun h' hdisjoint => ?_, fun i hl hnone => habsent i hnone⟩
  · obtain ⟨row, hrow, hstays⟩ := horigin i row' hrow'
    exact (hd.accounted i row hrow).stays hstays hsigned
  · obtain ⟨a, ha, hstays⟩ := horigin i row hrow
    obtain ⟨b, hb, hstays'⟩ := horigin j row' hrow'
    have hof' := (hstays'.of_iff _ _).mp hof
    have hself := (hstays.of_iff row.merchantId row.previewTokenHash).mp ⟨rfl, rfl⟩
    refine hd.once i j a b ha hb ?_
    rw [hself.1, hself.2]
    exact hof'
  · refine ⟨hgrows.kept, hsigned, fun m digest hl hfree i row' hrow' hof => ?_, fun i hl hnone => habsent i hnone⟩
    obtain ⟨row, hrow, hstays⟩ := horigin i row' hrow'
    exact hfree i row hrow ((hstays.of_iff m digest).mp hof)

/-- A promotion that is new, with an id of its own, under a token whose key is locked and free. -/
theorem publishes_inserted {h : Lock Key → Prop} {d d' : Books} (hd : d.Sound env calls) {i : Nat} {row : PromotionRow}
    (hid : h (.id i)) (hkey : h (.row (.token row.merchantId row.previewTokenHash))) (hnone : d.promotions.get? i = none)
    (hfree : d.Free row.merchantId row.previewTokenHash) (hrow : row.Accounted env calls d.signings)
    (hset : d'.promotions = d.promotions.set i row) (hsigned : d'.signings = d.signings) :
    booksDiscipline.Publishes (Books.Sound env calls) h d d' := by
  have hcases : ∀ j r, d'.promotions.get? j = some r → (j = i ∧ r = row) ∨ (j ≠ i ∧ d.promotions.get? j = some r) := by
    intro j r hr
    rw [hset] at hr
    by_cases hj : j = i
    · rw [hj, Dict.get?_set_self] at hr
      exact .inl ⟨hj, (Option.some.inj hr).symm⟩
    · rw [Dict.get?_set_ne hj] at hr
      exact .inr ⟨hj, hr⟩
  have hother : ∀ j, j ≠ i → d'.promotions.get? j = d.promotions.get? j := by
    intro j hj
    rw [hset, Dict.get?_set_ne hj]
  refine ⟨⟨fun j r hr => ?_, fun j k r r' hr hr' hof => ?_⟩, fun h' hdisjoint => ?_, fun j hl hnone => ?_⟩
  · rw [hsigned]
    rcases hcases j r hr with ⟨-, rfl⟩ | ⟨-, hr⟩
    · exact hrow
    · exact hd.accounted j r hr
  · rcases hcases j r hr with ⟨rfl, rfl⟩ | ⟨-, hold⟩
    · rcases hcases k r' hr' with ⟨rfl, -⟩ | ⟨-, hold'⟩
      · rfl
      · exact absurd hof (hfree k r' hold')
    · rcases hcases k r' hr' with ⟨-, rfl⟩ | ⟨-, hold'⟩
      · exact absurd ⟨hof.1.symm, hof.2.symm⟩ (hfree j r hold)
      · exact hd.once j k r r' hold hold' hof
  · refine ⟨fun j r hr => ?_, fun s hs => hsigned ▸ hs, fun m digest hl hfree' j r hr hof => ?_, fun j hl hnone => ?_⟩
    · have hj : j ≠ i := by
        rintro rfl
        rw [hnone] at hr
        cases hr
      exact ⟨r, (hother j hj).trans hr, r.stays_refl⟩
    · rcases hcases j r hr with ⟨-, rfl⟩ | ⟨-, hold⟩
      · obtain ⟨rfl, rfl⟩ := hof
        exact hdisjoint _ hl hkey
      · exact hfree' j r hold hof
    · have hj : j ≠ i := fun heq => hdisjoint _ hl (heq ▸ hid)
      exact (hother j hj).trans hnone
  · have hj : j ≠ i := fun heq => hl (heq ▸ hid)
    exact (hother j hj).trans hnone

/-! ## Safe sessions -/

variable (env calls) in
/-- What is asked of the statements of a session: the token that its create shows is not forged, and the database that it runs on
meets `R`. -/
def Admitted (R : Nat → Books → Prop) (i : Nat) : Admits Books Key AppError (Except AppError Reply) := fun _ _ _ d =>
  (∀ principal payload now, calls i = .create principal payload now → Unforged env d.signings payload.previewToken) ∧ R i d

/-- What the check of a scope reads, from the databases that its statements run on. -/
def seenOf (scope : Scope) (d₁ d₂ d₃ : Books) : Console.Tables where
  categories := if scope.categoryIds = [] then Dict.empty else d₁.tables.categories
  brands := if scope.brandIds = [] then Dict.empty else d₂.tables.brands
  products := d₃.tables.products

variable {R : Nat → Books → Prop} {i : Nat} {Q : Except AppError Reply → (Lock Key → Prop) → (Books → Books) → Books → Prop}
  {h : Lock Key → Prop} {base : Books}

theorem wp_readFor {γ : Type} (ids : List Nat) (g : Books → Dict Nat γ) {f : Dict Nat γ → Work Reply}
    (hnext : ∀ d, base.Lasts h d → (ids ≠ [] → R i d) →
      booksDiscipline.Wp (Books.Sound env calls) (Admitted env calls R i) Q (answer (f (if ids = [] then Dict.empty else g d))) h id d) :
    booksDiscipline.Wp (Books.Sound env calls) (Admitted env calls R i) Q (answer (readFor ids g >>= f)) h id base := by
  unfold readFor
  by_cases hids : ids = []
  · have hread := hnext base (booksDiscipline.rely_refl h base) fun hnot => absurd hids hnot
    rw [if_pos hids] at hread ⊢
    exact hread
  · rw [if_neg hids]
    refine Discipline.wp_answer_query fun d hlasts _ hok => ?_
    have hread := hnext d hlasts fun _ => hok.2
    rw [if_neg hids] at hread
    exact hread

theorem wp_readScope (scope : Scope) {f : Console.Tables → Work Reply}
    (hnext : ∀ d₁ d₂ d₃, (scope.categoryIds ≠ [] → R i d₁) → (scope.brandIds ≠ [] → R i d₂) → base.Lasts h d₃ →
      d₃.Sound env calls → Admitted env calls R i (.ret (.ok .done)) h id d₃ →
      booksDiscipline.Wp (Books.Sound env calls) (Admitted env calls R i) Q (answer (f (seenOf scope d₁ d₂ d₃))) h id d₃) :
    booksDiscipline.Wp (Books.Sound env calls) (Admitted env calls R i) Q (answer (readScope scope >>= f)) h id base := by
  unfold readScope
  rw [bind_assoc]
  refine wp_readFor _ _ fun d₁ hlasts₁ hR₁ => ?_
  rw [bind_assoc]
  refine wp_readFor _ _ fun d₂ hlasts₂ hR₂ => ?_
  rw [bind_assoc]
  refine Discipline.wp_answer_query fun d₃ hlasts₃ hd₃ hok => ?_
  exact hnext d₁ d₂ d₃ hR₁ hR₂
    (booksDiscipline.rely_trans hlasts₁ (booksDiscipline.rely_trans hlasts₂ hlasts₃)) hd₃ hok

/-- What a create reads behind a duplicate key. -/
def readExisting (merchantId : Nat) (digest : String) : Work (Nat × PromotionRow) := do
  rollbackNow
  let existing ← query fun d => d.promotions.find? fun p => decide (p.Of merchantId digest)
  orRaise existing integrityError

/-- The `try` with its handler, statement by statement. -/
theorem insertPromotion_handle (merchantId : Nat) (digest : String) (draft : PromotionDraft) (now : Time) :
    (insertPromotion merchantId digest draft now).handle (recoverExisting merchantId digest) = (do
      let id ← newId
      let row := draftedRow merchantId digest draft
      let clash ← lock (fun _ => [.number merchantId row.promotionNo, .token merchantId digest]) fun d =>
        d.promotions.find? fun p => decide (p.merchantId = merchantId ∧ p.promotionNo = row.promotionNo ∨ p.Of merchantId digest)
      if clash.isSome = true then readExisting merchantId digest else do
      update fun d => { d with promotions := d.promotions.set id row }
      let taken ← lock (fun _ => [.number merchantId (businessNo "NVP" now id)]) fun d =>
        d.promotions.find? fun p => decide (p.merchantId = merchantId ∧ p.promotionNo = businessNo "NVP" now id)
      if taken.isSome = true then readExisting merchantId digest else do
      update fun d => { d with
        promotions := d.promotions.modify id fun p => { p with promotionNo := businessNo "NVP" now id } }
      if ¬ draft.scope.productIds.Nodup then readExisting merchantId digest else do
      update fun d => { d with
        promotionProducts := d.promotionProducts ++ draft.scope.productIds.map fun productId => ⟨merchantId, id, productId⟩ }
      commitNow
      return (id, { row with promotionNo := businessNo "NVP" now id })) := by
  unfold insertPromotion
  simp only [handle_newId_bind, handle_lock_bind, handle_update_bind, handle_raiseIf_bind, handle_commitNow_bind, handle_pure]
  rfl

theorem wp_readExisting {merchantId : Nat} {digest : String} {f : Nat × PromotionRow → Work Reply} {pending : Books → Books}
    (hfound : ∀ d e, base.Lasts (fun _ => False) d → d.Sound env calls →
      d.promotions.find? (fun p => decide (p.Of merchantId digest)) = some e →
      booksDiscipline.Wp (Books.Sound env calls) (Admitted env calls R i) Q (answer (f e)) (fun _ => False) id d)
    (hmissing : ∀ d, base.Lasts (fun _ => False) d → d.promotions.find? (fun p => decide (p.Of merchantId digest)) = none →
      Q (.error integrityError) (fun _ => False) id d) :
    booksDiscipline.Wp (Books.Sound env calls) (Admitted env calls R i) Q (answer (readExisting merchantId digest >>= f)) h pending
      base := by
  unfold readExisting
  rw [bind_assoc]
  refine Discipline.wp_answer_rollbackNow ?_
  rw [bind_assoc]
  refine Discipline.wp_answer_query fun d hlasts hd _ => ?_
  dsimp only [id]
  cases hfind : d.promotions.find? fun p => decide (p.Of merchantId digest) with
  | none => exact hmissing d hlasts hfind
  | some e => exact hfound d e hlasts hd hfind

/-- A create commits its promotion where the token is free, and reads the promotion of the token where it is not. -/
theorem wp_insertPromotion {merchantId : Nat} {digest : String} {draft : PromotionDraft} {now : Time} {f : Nat × PromotionRow → Work Reply}
    (haccounted : ∀ d number, base.Lasts h d →
      ({ draftedRow merchantId digest draft with promotionNo := number } : PromotionRow).Accounted env calls d.signings)
    (hcreated : ∀ d d' e, base.Lasts h d → d.Free merchantId digest →
      booksDiscipline.Wp (Books.Sound env calls) (Admitted env calls R i) Q (answer (f e)) (fun _ => False) id d')
    (hfound : ∀ d e, base.Lasts (fun _ => False) d → d.Sound env calls →
      d.promotions.find? (fun p => decide (p.Of merchantId digest)) = some e →
      booksDiscipline.Wp (Books.Sound env calls) (Admitted env calls R i) Q (answer (f e)) (fun _ => False) id d)
    (hmissing : ∀ d, base.Lasts (fun _ => False) d → d.promotions.find? (fun p => decide (p.Of merchantId digest)) = none →
      Q (.error integrityError) (fun _ => False) id d) :
    booksDiscipline.Wp (Books.Sound env calls) (Admitted env calls R i) Q
      (answer ((insertPromotion merchantId digest draft now).handle (recoverExisting merchantId digest) >>= f)) h id base := by
  have hread : ∀ {h' : Lock Key → Prop} {pending : Books → Books} {d : Books}, base.Lasts h d →
      booksDiscipline.Wp (Books.Sound env calls) (Admitted env calls R i) Q (answer (readExisting merchantId digest >>= f)) h' pending d := by
    intro h' pending d hlasts
    have hlasts' : base.Lasts (fun _ => False) d := booksDiscipline.rely_mono (fun _ hl => hl.elim) hlasts
    exact wp_readExisting (fun d' e hd' => hfound d' e (booksDiscipline.rely_trans hlasts' hd'))
      (fun d' hd' => hmissing d' (booksDiscipline.rely_trans hlasts' hd'))
  rw [insertPromotion_handle, bind_assoc]
  refine Discipline.wp_answer_newId fun d₁ promotionId hlasts₁ _ hfresh => ?_
  dsimp only
  rw [bind_assoc]
  refine Discipline.wp_answer_lock fun d₂ hlasts₂ _ _ => ?_
  have hlasts₂' : base.Lasts h d₂ := booksDiscipline.rely_trans hlasts₁ (booksDiscipline.rely_mono (fun _ hl => .inl hl) hlasts₂)
  have hnone₂ := hlasts₂.absent promotionId (.inr rfl) hfresh
  split
  · exact hread hlasts₂'
  rename_i hclash
  have hfree₂ : d₂.Free merchantId digest := free_of_find? hclash
  rw [bind_assoc]
  refine Discipline.wp_answer_update ?_
  rw [bind_assoc]
  refine Discipline.wp_answer_lock fun d₃ hlasts₃ _ _ => ?_
  have hkey : Lock.row (.token merchantId digest) ∈
      [Key.number merchantId (draftedRow merchantId digest draft).promotionNo, Key.token merchantId digest].map Lock.row :=
    List.mem_cons_of_mem _ List.mem_cons_self
  have hlasts₃' : base.Lasts h d₃ :=
    booksDiscipline.rely_trans hlasts₂' (booksDiscipline.rely_mono (fun _ hl => .inl (.inl hl)) hlasts₃)
  have hnone₃ := hlasts₃.absent promotionId (.inl (.inr rfl)) hnone₂
  have hfree₃ := hlasts₃.free merchantId digest (.inr hkey) hfree₂
  split
  · exact hread hlasts₃'
  rw [bind_assoc]
  refine Discipline.wp_answer_update ?_
  split
  · exact hread hlasts₃'
  rw [bind_assoc]
  refine Discipline.wp_answer_update ?_
  rw [bind_assoc]
  refine Discipline.wp_answer_commitNow (fun d₄ hlasts₄ hd₄ _ => ?_) fun d₄ hlasts₄ _ => ?_
  · have hlasts₄' : base.Lasts h d₄ :=
      booksDiscipline.rely_trans hlasts₃' (booksDiscipline.rely_mono (fun _ hl => .inl (.inl (.inl hl))) hlasts₄)
    refine publishes_inserted hd₄ (.inl (.inl (.inr rfl))) (.inl (.inr hkey)) (hlasts₄.absent promotionId (.inl (.inl (.inr rfl))) hnone₃)
      (hlasts₄.free merchantId digest (.inl (.inr hkey)) hfree₃) (haccounted d₄ (businessNo "NVP" now promotionId) hlasts₄') ?_ rfl
    exact Dict.modify_set_self d₄.promotions promotionId (draftedRow merchantId digest draft)
      fun p => { p with promotionNo := businessNo "NVP" now promotionId }
  · have hlasts₄' : base.Lasts h d₄ :=
      booksDiscipline.rely_trans hlasts₃' (booksDiscipline.rely_mono (fun _ hl => .inl (.inl (.inl hl))) hlasts₄)
    exact hcreated d₄ _ _ hlasts₄' (hlasts₄.free merchantId digest (.inl (.inr hkey)) hfree₃)

/-- A verified create makes promotions that are accounted for. -/
theorem accounted_of_verify (hlaws : env.Lawful) {principal : Identity.Principal} {payload : PromotionCreate} {now : Time}
    (hcall : calls i = .create principal payload now) {merchantId : Nat} {digest : String}
    (hmerchant : promotionMerchant principal true = .ok merchantId)
    (hverify : verifyPreviewToken env payload.previewToken (.promotion payload.draft) merchantId now = .ok digest) {d : Books}
    (hunforged : Unforged env d.signings payload.previewToken) (number : String) :
    ({ draftedRow merchantId digest payload.draft with promotionNo := number } : PromotionRow).Accounted env calls d.signings := by
  obtain ⟨previewed, issuedAt, nonce, hmem, htoken, hcanonical, hexpires⟩ := (issued_of_verify hlaws hunforged hverify).signing
  obtain ⟨-, text, htext, rfl⟩ := verify_eq_ok hverify
  have htext' : text = issuePreviewToken env previewed merchantId issuedAt nonce := py_injective (htext.symm.trans htoken)
  cases previewed with
  | coupon coupon => exact absurd hcanonical.symm (canonical_promotion_ne_coupon payload.draft coupon)
  | promotion previewed =>
    refine ⟨i, principal, payload, now, previewed, issuedAt, nonce, hcall, hmerchant, hmem, hcanonical, hexpires, htoken, ?_, rfl⟩
    exact congrArg env.sha256Hex htext'

/-- What a verified create may end in. -/
theorem wp_createVerified (hlaws : env.Lawful) {principal : Identity.Principal} {payload : PromotionCreate} {now : Time}
    (hcall : calls i = .create principal payload now) {merchantId : Nat} {digest : String}
    (hmerchant : promotionMerchant principal true = .ok merchantId)
    (hverify : verifyPreviewToken env payload.previewToken (.promotion payload.draft) merchantId now = .ok digest)
    {f : Nat × PromotionRow → Work Reply}
    (hrefused : ∀ d₁ d₂ d₃ x, (payload.draft.scope.categoryIds ≠ [] → R i d₁) → (payload.draft.scope.brandIds ≠ [] → R i d₂) → R i d₃ →
      base.Lasts h d₃ → scopeProducts (seenOf payload.draft.scope d₁ d₂ d₃) merchantId payload.draft.scope = .error x →
      Q (.error x) (fun _ => False) id d₃)
    (hcreated : ∀ d d' e, base.Lasts h d → d.Free merchantId digest →
      booksDiscipline.Wp (Books.Sound env calls) (Admitted env calls R i) Q (answer (f e)) (fun _ => False) id d')
    (hfound : ∀ d₁ d₂ d₃ d e ids, (payload.draft.scope.categoryIds ≠ [] → R i d₁) → (payload.draft.scope.brandIds ≠ [] → R i d₂) →
      R i d₃ → scopeProducts (seenOf payload.draft.scope d₁ d₂ d₃) merchantId payload.draft.scope = .ok ids →
      base.Lasts (fun _ => False) d → d.Sound env calls → d.promotions.find? (fun p => decide (p.Of merchantId digest)) = some e →
      booksDiscipline.Wp (Books.Sound env calls) (Admitted env calls R i) Q (answer (f e)) (fun _ => False) id d)
    (hmissing : ∀ d, base.Lasts (fun _ => False) d → d.promotions.find? (fun p => decide (p.Of merchantId digest)) = none →
      Q (.error integrityError) (fun _ => False) id d) :
    booksDiscipline.Wp (Books.Sound env calls) (Admitted env calls R i) Q
      (answer (createVerified merchantId digest payload.draft now >>= f)) h id base := by
  unfold createVerified
  rw [bind_assoc]
  refine wp_readScope _ fun d₁ d₂ d₃ hR₁ hR₂ hlasts _ hok => ?_
  rw [bind_assoc]
  refine Discipline.wp_answer_ofExcept (fun x hx => ?_) fun ids hids => ?_
  · exact hrefused d₁ d₂ d₃ x hR₁ hR₂ hok.2 hlasts hx
  have hlasts' : base.Lasts (fun _ => False) d₃ := booksDiscipline.rely_mono (fun _ hl => hl.elim) hlasts
  refine wp_insertPromotion (fun d number hd => ?_) (fun d d' e hd => ?_) (fun d e hd => ?_) (fun d hd => ?_)
  · have haccounted := accounted_of_verify hlaws hcall hmerchant hverify (hok.1 principal payload now hcall) number
    exact haccounted.stays (PromotionRow.stays_refl _) hd.signed
  · exact hcreated d d' e (booksDiscipline.rely_trans hlasts hd)
  · exact hfound d₁ d₂ d₃ d e ids hR₁ hR₂ hok.2 hids (booksDiscipline.rely_trans hlasts' hd)
  · exact hmissing d (booksDiscipline.rely_trans hlasts' hd)

/-- A change that creates no promotion, its commit, and what is answered. -/
theorem wp_kept (hQ : ∀ r h pending d, Q r h pending d) {change : Books → Books}
    (hgrows : ∀ d, Dict.Grows PromotionRow.Stays (fun _ => False) d.promotions (change d).promotions)
    (hsigned : ∀ d, ∀ s ∈ d.signings, s ∈ (change d).signings) (reply : Reply) :
    booksDiscipline.Wp (Books.Sound env calls) (Admitted env calls R i) Q
      (answer (update change >>= fun _ => commitNow >>= fun _ => pure reply)) h id base := by
  refine Discipline.wp_answer_update ?_
  refine Discipline.wp_answer_commitNow (fun d _ hd _ => ?_) fun _ _ _ => hQ _ _ _ _
  exact publishes_kept hd (hgrows d) (hsigned d)

theorem wp_sign (hQ : ∀ r h pending d, Q r h pending d) (s : Signing) (reply : Reply) :
    booksDiscipline.Wp (Books.Sound env calls) (Admitted env calls R i) Q
      (answer (sign s >>= fun _ => commitNow >>= fun _ => pure reply)) h id base := by
  unfold sign
  refine wp_kept hQ (fun d => ?_) (fun _ _ hs => List.mem_append_left _ hs) reply
  exact Dict.grows_refl PromotionRow.stays_refl d.promotions

/-- Every session keeps the books sound, whatever the others commit in between. -/
theorem safe_session (hlaws : env.Lawful) (hQ : ∀ r h pending d, Q r h pending d) :
    booksDiscipline.Wp (Books.Sound env calls) (Admitted env calls R i) Q (session env (calls i)) h id base := by
  unfold session
  cases hcall : calls i with
  | preview principal draft now nonce =>
    show booksDiscipline.Wp _ _ _ (answer (preview env principal draft now nonce >>= _)) h id base
    unfold preview
    rw [bind_assoc]
    refine Discipline.wp_answer_ofExcept (fun _ _ => hQ _ _ _ _) fun merchantId _ => ?_
    rw [bind_assoc]
    refine Discipline.wp_answer_query fun d _ _ _ => ?_
    rw [bind_assoc]
    refine Discipline.wp_answer_ofExcept (fun _ _ => hQ _ _ _ _) fun answered _ => ?_
    exact wp_sign hQ _ _
  | previewCoupon principal draft now nonce =>
    show booksDiscipline.Wp _ _ _ (answer (previewCoupon env principal draft now nonce >>= _)) h id base
    unfold previewCoupon
    rw [bind_assoc]
    refine Discipline.wp_answer_ofExcept (fun _ _ => hQ _ _ _ _) fun merchantId _ => ?_
    rw [bind_assoc]
    refine wp_readScope _ fun _ _ _ _ _ _ _ _ => ?_
    rw [bind_assoc]
    refine Discipline.wp_answer_ofExcept (fun _ _ => hQ _ _ _ _) fun _ _ => ?_
    exact wp_sign hQ _ _
  | access header payload => exact wp_sign hQ _ _
  | create principal payload now =>
    show booksDiscipline.Wp _ _ _ (answer (create env principal payload now >>= _)) h id base
    unfold create
    rw [bind_assoc]
    refine Discipline.wp_answer_ofExcept (fun _ _ => hQ _ _ _ _) fun merchantId hmerchant => ?_
    rw [bind_assoc]
    refine Discipline.wp_answer_ofExcept (fun _ _ => hQ _ _ _ _) fun digest hdigest => ?_
    exact wp_createVerified hlaws hcall hmerchant hdigest (fun _ _ _ _ _ _ _ _ _ => hQ _ _ _ _) (fun _ _ _ _ _ => hQ _ _ _ _)
      (fun _ _ _ _ _ _ _ _ _ _ _ _ _ => hQ _ _ _ _) fun _ _ _ => hQ _ _ _ _
  | edit e => exact wp_kept hQ e.promotions (fun d _ hs => (e.signings d).symm ▸ hs) .done

/-- What a create answers when the promotion of its token is there: the promotion, unless its scope is refused. -/
def Answered (merchantId : Nat) (scope : Scope) (promotionId : Nat) (row : PromotionRow) (seen : Console.Tables)
    (r : Except AppError Reply) : Prop :=
  match scopeProducts seen merchantId scope with
  | .ok _ => ∃ row', r = .ok (.promotion promotionId row') ∧ row.Stays row'
  | .error x => r = .error x

/-- What a create answers when the promotion of its token is there. -/
theorem wp_create_existing (hlaws : env.Lawful) {principal : Identity.Principal} {payload : PromotionCreate} {now : Time}
    (hcall : calls i = .create principal payload now) {merchantId : Nat} {digest : String}
    (hmerchant : promotionMerchant principal true = .ok merchantId)
    (hverify : verifyPreviewToken env payload.previewToken (.promotion payload.draft) merchantId now = .ok digest) {promotionId : Nat}
    {row : PromotionRow} (hrow : base.promotions.get? promotionId = some row) (hof : row.Of merchantId digest) :
    booksDiscipline.Wp (Books.Sound env calls) (Admitted env calls R i)
      (fun r _ _ _ => ∃ d₁ d₂ d₃, (payload.draft.scope.categoryIds ≠ [] → R i d₁) ∧ (payload.draft.scope.brandIds ≠ [] → R i d₂) ∧
        R i d₃ ∧ Answered merchantId payload.draft.scope promotionId row (seenOf payload.draft.scope d₁ d₂ d₃) r)
      (session env (calls i)) h id base := by
  unfold session
  rw [hcall]
  show booksDiscipline.Wp _ _ _ (answer (create env principal payload now >>= _)) h id base
  unfold create
  rw [hmerchant, bind_assoc]
  show booksDiscipline.Wp _ _ _ (answer ((ofExcept (verifyPreviewToken env payload.previewToken (.promotion payload.draft)
    merchantId now) >>= fun digest => createVerified merchantId digest payload.draft now) >>= _)) h id base
  rw [hverify, bind_assoc]
  -- the promotion is there on whatever database the create runs on
  have hkept : ∀ {d : Books} {h' : Lock Key → Prop}, base.Lasts h' d → ∃ row', d.promotions.get? promotionId = some row' ∧ row.Stays row' ∧
      row'.Of merchantId digest := by
    intro d h' hlasts
    obtain ⟨row', hrow', hstays⟩ := hlasts.kept promotionId row hrow
    exact ⟨row', hrow', hstays, (hstays.of_iff merchantId digest).mpr hof⟩
  refine wp_createVerified hlaws hcall hmerchant hverify (fun d₁ d₂ d₃ x hR₁ hR₂ hR₃ _ hx => ?_) (fun d _ _ hlasts hfree => ?_)
    (fun d₁ d₂ d₃ d e ids hR₁ hR₂ hR₃ hids hlasts hd hfind => ?_) (fun d hlasts hfind => ?_)
  · refine ⟨d₁, d₂, d₃, hR₁, hR₂, hR₃, ?_⟩
    unfold Answered
    rw [hx]
  · obtain ⟨row', hrow', -, hof'⟩ := hkept hlasts
    exact absurd hof' (hfree promotionId row' hrow')
  · obtain ⟨row', hrow', hstays, hof'⟩ := hkept hlasts
    obtain ⟨foundId, found⟩ := e
    obtain ⟨hmem, hfound⟩ := Dict.find?_some hfind
    have hfoundOf := of_decide_eq_true hfound
    have hsame : promotionId = foundId := by
      refine hd.once _ _ _ _ hrow' (hmem) ?_
      rw [hof'.1, hof'.2]
      exact hfoundOf
    subst hsame
    rw [hmem] at hrow'
    cases hrow'
    refine ⟨d₁, d₂, d₃, hR₁, hR₂, hR₃, ?_⟩
    unfold Answered
    rw [hids]
    exact ⟨row', rfl, hstays⟩
  · obtain ⟨row', hrow', -, hof'⟩ := hkept hlasts
    exact absurd (decide_eq_true hof') (Dict.find?_none.mp hfind _ (Dict.get?_eq_some.mp hrow'))

/-- In every run a promotion is created as it was previewed, and once for a token. A create that comes to its promotion answers it
exactly when its scope passes on the catalogue it read, from databases that meet whatever the databases of its statements meet. And
every string is accepted or answered by the preview error. -/
theorem promotions_created_once (hlaws : env.Lawful) (calls : Nat → Call) (R : Nat → Books → Prop) {d₀ : Books}
    (hstart : d₀.promotions = Dict.empty) (next : Nat) {s : Sys Books Key AppError (Except AppError Reply)}
    (h : Reaches (Admitted env calls R) (Sys.init d₀ next fun i => session env (calls i)) s) :
    (∀ promotionId row, s.committed.promotions.get? promotionId = some row → row.Accounted env calls s.committed.signings) ∧
    (∀ promotionId promotionId' row row', s.committed.promotions.get? promotionId = some row →
      s.committed.promotions.get? promotionId' = some row' → row.previewTokenHash = row'.previewTokenHash → promotionId = promotionId') ∧
    (∀ i principal payload now merchantId digest promotionId row, calls i = .create principal payload now →
      promotionMerchant principal true = .ok merchantId →
      verifyPreviewToken env payload.previewToken (.promotion payload.draft) merchantId now = .ok digest →
      s.committed.promotions.get? promotionId = some row → row.Of merchantId digest →
      s.sessions i = { prog := session env (calls i), pending := id } →
      ∀ t r, Reaches (Admitted env calls R) s t → (t.sessions i).prog = .ret r →
        ∃ d₁ d₂ d₃, (payload.draft.scope.categoryIds ≠ [] → R i d₁) ∧ (payload.draft.scope.brandIds ≠ [] → R i d₂) ∧ R i d₃ ∧
          ((∃ row', r = .ok (.promotion promotionId row') ∧ row.Stays row') ↔
            ∃ ids, scopeProducts (seenOf payload.draft.scope d₁ d₂ d₃) merchantId payload.draft.scope = .ok ids)) ∧
    ∀ token draft merchantId now, Unforged env s.committed.signings token →
      (∃ digest, verifyPreviewToken env token draft merchantId now = .ok digest) ∨
        verifyPreviewToken env token draft merchantId now =
          .error { kind := .promotionPreviewRequired, message := "preview this exact offer before creating it" } := by
  have hinit : booksDiscipline.Inv (Books.Sound env calls) (Admitted env calls R) (fun _ _ _ => True)
      (Sys.init d₀ next fun i => session env (calls i)) := by
    refine Discipline.Inv.init ⟨fun i row hrow => ?_, fun i j row row' hrow => ?_⟩ (fun i _ => ?_) fun i => ?_
    · rw [hstart] at hrow
      cases hrow
    · rw [hstart] at hrow
      cases hrow
    · show d₀.promotions.get? i = none
      rw [hstart]
      rfl
    · exact safe_session hlaws fun _ _ _ _ _ _ _ => trivial
  have hinv := hinit.reaches h
  refine ⟨hinv.good.accounted, fun a b row row' hrow hrow' hdigest => ?_, ?_, fun token draft merchantId now hunforged => ?_⟩
  · -- one digest is one token, which is of one merchant
    obtain ⟨-, -, -, -, previewed, issuedAt, nonce, -, -, -, -, -, -, hhash, -⟩ := (hinv.good.accounted a row hrow).created
    obtain ⟨-, -, -, -, previewed', issuedAt', nonce', -, -, -, -, -, -, hhash', -⟩ := (hinv.good.accounted b row' hrow').created
    have htoken := hlaws.sha256 (hhash.symm.trans (hdigest.trans hhash'))
    exact hinv.good.once a b row row' hrow hrow' ⟨(merchant_of_issue hlaws htoken).symm, hdigest.symm⟩
  · intro i principal payload now merchantId digest promotionId row hcall hmerchant hverify hrow hof hsession t r ht hr
    let Outcome (r : Except AppError Reply) : Prop := ∃ d₁ d₂ d₃, (payload.draft.scope.categoryIds ≠ [] → R i d₁) ∧
      (payload.draft.scope.brandIds ≠ [] → R i d₂) ∧ R i d₃ ∧
      Answered merchantId payload.draft.scope promotionId row (seenOf payload.draft.scope d₁ d₂ d₃) r
    have hthere : booksDiscipline.Inv (Books.Sound env calls) (Admitted env calls R) (fun j r _ => j = i → Outcome r) s := by
      refine ⟨hinv.good, hinv.fresh, hinv.drawn, fun j => ?_⟩
      by_cases hj : j = i
      · subst hj
        refine ⟨s.committed, booksDiscipline.rely_refl _ _, ?_⟩
        rw [hsession]
        refine Discipline.Wp.mono (fun _ _ _ _ ho => ho) (fun r _ _ _ hout _ _ _ _ => hout) _
          (wp_create_existing hlaws hcall hmerchant hverify hrow hof)
      · obtain ⟨base, hrely, hsafe⟩ := hinv.sound j
        exact ⟨base, hrely, Discipline.Wp.mono (fun _ _ _ _ ho => ho) (fun _ _ _ _ _ _ _ _ heq => absurd heq hj) _ hsafe⟩
    have hend := hthere.reaches ht
    obtain ⟨base, hrely, hsafe⟩ := hend.sound i
    rw [hr] at hsafe
    obtain ⟨d₁, d₂, d₃, hR₁, hR₂, hR₃, hanswered⟩ :=
      hsafe t.committed (booksDiscipline.rely_mono (fun _ hl => hl.elim) hrely) hend.good rfl
    refine ⟨d₁, d₂, d₃, hR₁, hR₂, hR₃, ?_⟩
    unfold Answered at hanswered
    cases hscope : scopeProducts (seenOf payload.draft.scope d₁ d₂ d₃) merchantId payload.draft.scope with
    | ok ids =>
      rw [hscope] at hanswered
      exact ⟨fun _ => ⟨ids, rfl⟩, fun _ => hanswered⟩
    | error x =>
      rw [hscope] at hanswered
      dsimp only at hanswered
      constructor
      · rintro ⟨row', hrow', -⟩
        rw [hanswered] at hrow'
        cases hrow'
      · rintro ⟨ids, hids⟩
        cases hids
  · exact verify_total hlaws hunforged draft merchantId now

end

/-! ## A retry -/

def cupsWeek : PromotionDraft where
  name := "Cups week"
  promotionType := .directDiscount
  ruleConfig := { discountAmount := some 500 }
  scope := { allProducts := false, productIds := [7] }
  startsAt := { instant := 1772323200000, isoformat := "2026-03-01T00:00:00Z" }
  endsAt := { instant := 1772928000000, isoformat := "2026-03-08T00:00:00Z" }
  totalQuota := 100

def cupsHash : String := "b49d044e2fe4ff3757bf698268ea51bc784c44965518ce82ad904c23a25b5a7c"

def cupsClaims : Claims where
  merchantId := 1
  payloadHash := cupsHash
  expiresAt := 1772000900
  nonce := "5f0c3b1a9d2e4c7f8a6b0d1e2f3a4b5c"

def cupsSignature : String := "32c258e850034df0003f8e23b4dba9e620ee05066d5e1f6dd089241fec608e09"

def cupsToken : String := cupsClaims.body ++ "." ++ cupsSignature

def cupsDigest : String := "d9b55d88452453ededff29aa78f7263a4682b45262c5f5f983aa0b79d2fbe3d8"

/-- The signature of the body. -/
def sampleHmac (_secret message : String) : String := if message = cupsClaims.body then cupsSignature else ""

theorem sampleHmac_cups (secret : String) : sampleHmac secret cupsClaims.body = cupsSignature := if_pos rfl

/-- The signature of the body, and the digests of the two texts that are hashed. -/
noncomputable def sampleSigner : Signer where
  secret := "preview-secret-of-the-shop-0123456789"
  hmacHex := sampleHmac
  sha256Hex := (Equiv.swap cupsWeek.canonical cupsHash).trans (Equiv.swap cupsToken cupsDigest)
  jsonLoads := loadsClaims

theorem sampleSigner_lawful : sampleSigner.Lawful where
  sha256 := Equiv.injective _
  hmacAscii secret message c hc := by
    have hsignature : cupsSignature.toList.all
        fun d => decide (d.toNat < 128) := by decide
    unfold sampleSigner at hc
    simp only [sampleHmac] at hc
    split_ifs at hc
    · exact of_decide_eq_true (List.all_eq_true.mp hsignature c hc)
    · cases hc
  loads := loadsClaims_text

theorem cupsToken_ne_canonical : cupsToken ≠ cupsWeek.canonical := by
  have hcanonical : ∃ rest, cupsWeek.canonical.toList = '\x7b' :: (jsonString "description").toList ++ ':' :: rest := by
    unfold PromotionDraft.canonical
    exact jsonObject_cons _ _ _
  obtain ⟨rest, hrest⟩ := hcanonical
  intro h
  have hlist := congrArg String.toList h
  unfold cupsToken at hlist
  rw [hrest, String.toList_append, String.toList_append, cupsClaims.body_toList] at hlist
  have hdigits := Base64.strip_encode_digits (utf8 cupsClaims.text)
  generalize Base64.strip (Base64.encode (utf8 cupsClaims.text)) = body at hlist hdigits
  cases body with
  | nil => simp at hlist
  | cons c body =>
    obtain ⟨n, hn, rfl⟩ := hdigits c List.mem_cons_self
    have hdigit : Base64.digit n = '\x7b' := (List.cons.inj hlist).1
    have hbrace : ∀ n : Fin 64, Base64.digit n ≠ '\x7b' := by decide +kernel
    exact hbrace ⟨n, hn⟩ hdigit

theorem cupsToken_ne_hash : cupsToken ≠ cupsHash := by
  have hplain : '.' ∉ cupsHash.toList := by decide
  intro h
  rw [← h] at hplain
  unfold cupsToken at hplain
  simp at hplain

theorem sampleSigner_sha256 (s : String) :
    sampleSigner.sha256Hex s = Equiv.swap cupsToken cupsDigest (Equiv.swap cupsWeek.canonical cupsHash s) := rfl

theorem sampleSigner_hmac : sampleSigner.hmacHex = sampleHmac := by rw [sampleSigner]

theorem sampleSigner_canonical : sampleSigner.sha256Hex cupsWeek.canonical = cupsHash := by
  rw [sampleSigner_sha256, Equiv.swap_apply_left, Equiv.swap_apply_of_ne_of_ne cupsToken_ne_hash.symm (by decide)]

theorem sampleSigner_token : sampleSigner.sha256Hex cupsToken = cupsDigest := by
  rw [sampleSigner_sha256, Equiv.swap_apply_of_ne_of_ne cupsToken_ne_canonical cupsToken_ne_hash, Equiv.swap_apply_left]

def cupsPreviewed : Time := 1772000000000

/-- The token that the preview answered. -/
theorem cupsToken_issued : issuePreviewToken sampleSigner (.promotion cupsWeek) 1 cupsPreviewed "5f0c3b1a9d2e4c7f8a6b0d1e2f3a4b5c" =
    cupsToken := by
  have hclaims : previewClaims sampleSigner (.promotion cupsWeek) 1 cupsPreviewed "5f0c3b1a9d2e4c7f8a6b0d1e2f3a4b5c" = cupsClaims := by
    unfold previewClaims PreviewDraft.canonical
    dsimp only
    rw [sampleSigner_canonical]
    rfl
  unfold issuePreviewToken signed cupsToken
  rw [hclaims, sampleSigner_hmac, sampleHmac_cups]

/-- An operator of merchant 1. -/
def cupsOperator : Identity.Principal where
  userId := 5
  userType := .staff
  merchantId := some 1
  roles := []
  permissions := ["promotion:write"]
  dataScope := .merchant
  sessionId := "s-5"
  isStaff := true

def cupsCreate : PromotionCreate where
  draft := cupsWeek
  previewToken := py cupsToken

theorem cupsCreate_previewToken : cupsCreate.previewToken = py cupsToken := by rw [cupsCreate]

theorem cupsCreate_draft : cupsCreate.draft = cupsWeek := by rw [cupsCreate]

theorem cupsCreate_verified {now : Time} (h : now / 1000 < 1772000900) :
    verifyPreviewToken sampleSigner cupsCreate.previewToken (.promotion cupsCreate.draft) 1 now = .ok cupsDigest := by
  have hexpires : now / 1000 < (cupsPreviewed + previewTtl) / 1000 := h
  have hverify := verify_issued sampleSigner_lawful (Eq.refl (PreviewDraft.promotion cupsWeek).canonical) 1 hexpires
    "5f0c3b1a9d2e4c7f8a6b0d1e2f3a4b5c"
  rw [cupsToken_issued, sampleSigner_token] at hverify
  rw [cupsCreate_previewToken, cupsCreate_draft]
  exact hverify

/-- The one product of the shop is taken out of the catalogue. -/
def withdrawCups : Edit where
  apply d := { d with
    tables := { d.tables with products := d.tables.products.modify 7 fun p => { p with deletedAt := some 1772000090000 } } }
  promotions d := Dict.grows_refl PromotionRow.stays_refl d.promotions
  signings _ := rfl

/-- A preview, its create, the end of the product, and the create once more. -/
def cupsCalls : Nat → Call
  | 0 => .preview cupsOperator cupsWeek cupsPreviewed "5f0c3b1a9d2e4c7f8a6b0d1e2f3a4b5c"
  | 1 => .create cupsOperator cupsCreate (cupsPreviewed + 60000)
  | 2 => .edit withdrawCups
  | 3 => .create cupsOperator cupsCreate (cupsPreviewed + 120000)
  | _ => .access "" ""

def cupsShelf : Books where
  tables := { products := Dict.ofList [(7, { merchantId := some 1, productNo := "P7", name := "Cups" })] }

/-- The sessions, their tokens verified. -/
noncomputable def cupsSessions : Nat → Work (Except AppError Reply)
  | 1 => answer (createVerified 1 cupsDigest cupsWeek (cupsPreviewed + 60000) >>= fun e => pure (.promotion e.1 e.2))
  | 3 => answer (createVerified 1 cupsDigest cupsWeek (cupsPreviewed + 120000) >>= fun e => pure (.promotion e.1 e.2))
  | i => session sampleSigner (cupsCalls i)

theorem cupsSessions_eq : (fun i => session sampleSigner (cupsCalls i)) = cupsSessions := by
  have hcreate : ∀ now : Time, now / 1000 < 1772000900 → session sampleSigner (.create cupsOperator cupsCreate now) =
      answer (createVerified 1 cupsDigest cupsWeek now >>= fun e => pure (.promotion e.1 e.2)) := by
    intro now hnow
    unfold session
    show answer (create sampleSigner cupsOperator cupsCreate now >>= _) = _
    unfold create
    have hmerchant : promotionMerchant cupsOperator true = .ok 1 := by decide
    rw [hmerchant]
    show answer ((ofExcept (Except.ok 1) >>= fun merchantId =>
      ofExcept (verifyPreviewToken sampleSigner cupsCreate.previewToken (.promotion cupsCreate.draft) merchantId now) >>= fun digest =>
        createVerified merchantId digest cupsCreate.draft now) >>= _) = _
    rw [ofExcept_ok_bind, cupsCreate_verified hnow, ofExcept_ok_bind, cupsCreate_draft]
  funext i
  match i with
  | 0 => rfl
  | 1 => exact hcreate _ (by decide)
  | 2 => rfl
  | 3 => exact hcreate _ (by decide)
  | _ + 4 => rfl

def cupsSigning : Signing := .preview 1 (.promotion cupsWeek) cupsPreviewed "5f0c3b1a9d2e4c7f8a6b0d1e2f3a4b5c"

/-- A create runs when the preview has been signed. -/
def cupsCheck (i : Nat) (_ : Work (Except AppError Reply)) (_ : Books → Books) (d : Books) : Bool :=
  decide (i = 0 ∨ i = 2 ∨ cupsSigning ∈ d.signings)

theorem cupsCheck_admits (i : Nat) (p : Work (Except AppError Reply)) (h : Lock Key → Prop) (pending : Books → Books) (d : Books)
    (hcheck : cupsCheck i p pending d = true) : Admitted sampleSigner cupsCalls (fun _ _ => True) i p h pending d := by
  refine ⟨fun principal payload now hcall => ?_, trivial⟩
  have htoken : payload.previewToken = py cupsToken := by
    match i with
    | 0 => cases hcall
    | 1 =>
      obtain ⟨-, rfl, -⟩ := Call.create.inj hcall
      exact cupsCreate_previewToken
    | 2 => cases hcall
    | 3 =>
      obtain ⟨-, rfl, -⟩ := Call.create.inj hcall
      exact cupsCreate_previewToken
    | _ + 4 => cases hcall
  rcases of_decide_eq_true hcheck with rfl | rfl | hmem
  · cases hcall
  · cases hcall
  · rw [htoken, ← cupsToken_issued]
    exact unforged_issued hmem

/-- The exception that a session has ended in. -/
def refusal? : Work (Except AppError Reply) → Option AppError
  | .ret (.error x) => some x
  | _ => none

theorem refusal?_eq_some {p : Work (Except AppError Reply)} {x : AppError} (h : refusal? p = some x) : p = .ret (.error x) := by
  unfold refusal? at h
  split at h
  · cases h
    rfl
  · cases h

/-- The run up to the second create, and its answer. -/
theorem cupsRun : ∃ s t row,
    Reaches (Admitted sampleSigner cupsCalls fun _ _ => True)
      (Sys.init cupsShelf 8 fun i => session sampleSigner (cupsCalls i)) s ∧
    s.committed.promotions.get? 8 = some row ∧ row.Of 1 cupsDigest ∧
    s.sessions 3 = { prog := session sampleSigner (cupsCalls 3), pending := id } ∧
    Reaches (Admitted sampleSigner cupsCalls fun _ _ => True) s t ∧
    (t.sessions 3).prog =
      .ret (.error { kind := .validation, message := "promotion scope contains a product outside this merchant" }) := by
  have hrun : ((Sys.init cupsShelf 8 cupsSessions).execChecked cupsCheck
      (List.replicate 3 0 ++ List.replicate 8 1 ++ List.replicate 2 2)).bind (fun s =>
        (s.committed.promotions.get? 8).bind fun row => (s.execChecked cupsCheck [3, 3]).map fun t =>
          decide (row.Of 1 cupsDigest ∧ refusal? (t.sessions 3).prog =
            some { kind := .validation, message := "promotion scope contains a product outside this merchant" })) = some true := by
    decide +kernel
  obtain ⟨s, hs, hrun⟩ := Option.bind_eq_some_iff.mp hrun
  obtain ⟨row, hrow, hrun⟩ := Option.bind_eq_some_iff.mp hrun
  obtain ⟨t, ht, hfacts⟩ := Option.map_eq_some_iff.mp hrun
  obtain ⟨hof, hrefused⟩ := of_decide_eq_true hfacts
  have hidle := Sys.execChecked_other (show 3 ∉ List.replicate 3 0 ++ List.replicate 8 1 ++ List.replicate 2 2 by decide) hs
  rw [← cupsSessions_eq] at hs hidle
  exact ⟨s, t, row, Reaches.refl.execChecked cupsCheck_admits hs, hrow, hof, hidle, Reaches.refl.execChecked cupsCheck_admits ht,
    refusal?_eq_some hrefused⟩

theorem promotions_created_once_cups : ∃ s t : Sys Books Key AppError (Except AppError Reply), ∃ row r,
    s.committed.promotions.get? 8 = some row ∧ row.Accounted sampleSigner cupsCalls s.committed.signings ∧
    (∀ promotionId row', s.committed.promotions.get? promotionId = some row' → row.previewTokenHash = row'.previewTokenHash →
      8 = promotionId) ∧
    (t.sessions 3).prog = .ret r ∧
    ∃ d₁ d₂ d₃, (∃ row', r = .ok (.promotion 8 row') ∧ row.Stays row') ↔
      ∃ ids, scopeProducts (seenOf cupsCreate.draft.scope d₁ d₂ d₃) 1 cupsCreate.draft.scope = .ok ids := by
  obtain ⟨s, t, row, hreached, hrow, hof, hidle, hlater, hended⟩ := cupsRun
  obtain ⟨haccounted, honce, hretried, -⟩ :=
    promotions_created_once sampleSigner_lawful cupsCalls (fun _ _ => True) (Eq.refl cupsShelf.promotions) 8 hreached
  have hmerchant : promotionMerchant cupsOperator true = .ok 1 := by decide
  obtain ⟨d₁, d₂, d₃, -, -, -, hiff⟩ := hretried 3 cupsOperator cupsCreate _ 1 cupsDigest 8 row rfl hmerchant
    (cupsCreate_verified (by decide)) hrow hof hidle t _ hlater hended
  exact ⟨s, t, row, _, hrow, haccounted 8 row hrow, fun id row' => honce 8 id row row' hrow, hended, d₁, d₂, d₃, hiff⟩

/-- A create with a valid token whose promotion exists is refused, because a product of its scope is gone. -/
theorem retry_refused : sampleSigner.Lawful ∧ promotionMerchant cupsOperator true = .ok 1 ∧
    verifyPreviewToken sampleSigner cupsCreate.previewToken (.promotion cupsCreate.draft) 1 (cupsPreviewed + 120000) = .ok cupsDigest ∧
    ¬ ∀ s t promotionId row r,
      Reaches (Admitted sampleSigner cupsCalls fun _ _ => True)
        (Sys.init cupsShelf 8 fun i => session sampleSigner (cupsCalls i)) s →
      s.committed.promotions.get? promotionId = some row → row.Of 1 cupsDigest →
      s.sessions 3 = { prog := session sampleSigner (.create cupsOperator cupsCreate (cupsPreviewed + 120000)), pending := id } →
      Reaches (Admitted sampleSigner cupsCalls fun _ _ => True) s t → (t.sessions 3).prog = .ret r →
      ∃ row', r = .ok (.promotion promotionId row') ∧ row.Stays row' := by
  refine ⟨sampleSigner_lawful, by decide, cupsCreate_verified (by decide), fun hclaim => ?_⟩
  obtain ⟨s, t, row, hreached, hrow, hof, hidle, hlater, hended⟩ := cupsRun
  obtain ⟨row', hanswer, -⟩ := hclaim s t 8 row _ hreached hrow hof hidle hlater hended
  cases hanswer

end NovaCommerce.Previews
