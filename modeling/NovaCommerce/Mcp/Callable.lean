import NovaCommerce.Lib.Refusals
import NovaCommerce.Mcp.Server

/-!
# A listed tool, and the service behind it

* `AppError.RefusesCaller` : a refusal for a missing permission, a missing merchant or the data scope;
* `Tool.Serves` : what the service behind a tool asks of a caller beyond what the registry asks;
* `serves_only` and `not_serves_fails` : it is what the handlers ask, tool by tool;
* `callable_iff` : a listed tool is callable exactly when its service serves its caller.
-/

namespace NovaCommerce

/-- A refusal of the caller: for a missing permission, a missing merchant, or the data scope. -/
def AppError.RefusesCaller (e : AppError) : Prop :=
  e.kind = .permissionDenied ∨ e.kind = .dataScopeViolation ∨ e.kind = .mcpWriteNotPermitted ∨
    (e.kind = .validation ∧ e.message = Console.unattachedStaff.message)

instance AppError.decidableRefusesCaller (e : AppError) : Decidable e.RefusesCaller := by
  unfold AppError.RefusesCaller
  infer_instance

namespace Mcp

open Console Raise

/-- A failure that is not a refusal of the caller. -/
abbrev Mild (e : AppError) : Prop := ¬ e.RefusesCaller

/-- A failure of another kind is no refusal of the caller. -/
theorem mild_of_kind {e : AppError} (h : e.kind ∉ [.permissionDenied, .dataScopeViolation, .mcpWriteNotPermitted, .validation]) :
    Mild e := by
  rintro (hk | hk | hk | ⟨hk, -⟩) <;> simp [hk] at h

/-- What the service behind a tool asks of a caller that the registry admitted. -/
def Tool.Serves (principal : Identity.Principal) : Tool → Prop
  | .productSearch => principal.isStaff = true ∧ principal.merchantId ≠ none
  | .productGet => principal.isStaff = true ∧ principal.merchantId ≠ none
  | .skuGet => principal.isStaff = true ∧ principal.merchantId ≠ none
  | .orderGet => principal.console = true → principal.dataScope = .all ∨ principal.merchantId ≠ none
  | .orderSearch => principal.console = true → principal.dataScope = .all ∨ principal.merchantId ≠ none
  | .fulfillmentGet => True
  | .afterSaleGet => principal.console = true → principal.merchantId ≠ none
  | .inventoryGet => principal.merchantId ≠ none
  | .analyticsSales => principal.isStaff = true ∧ principal.merchantId ≠ none
  | .analyticsInventory => principal.isStaff = true ∧ principal.merchantId ≠ none
  | .analyticsProductPerformance => principal.isStaff = true ∧ principal.merchantId ≠ none
  | .analyticsRefunds => principal.isStaff = true ∧ principal.merchantId ≠ none
  | .analyticsAnomalies => principal.isStaff = true ∧ principal.merchantId ≠ none
  | .knowledgeSearch => principal.merchantId ≠ none
  | .promotionPreview => "promotion:write" ∈ principal.permissions ∧ principal.merchantId ≠ none
  | .promotionPropose => principal.merchantId ≠ none

/-! ## The checks of the services -/

section checks

variable {principal : Identity.Principal} {permission : String}

theorem requirePermission_ok (h : permission ∈ principal.permissions) : principal.requirePermission permission = .ok () := by
  apply raiseIf_neg
  simp [Identity.Principal.hasPermission, h]

theorem requirePermission_fails (h : permission ∉ principal.permissions) :
    Fails AppError.RefusesCaller (principal.requirePermission permission) := by
  refine ⟨_, raiseIf_pos ?_, .inl rfl⟩
  simp [Identity.Principal.hasPermission, h]

theorem catalogueMerchant_ok (h : principal.isStaff = true ∧ principal.merchantId ≠ none) :
    ∃ m, catalogueMerchant principal = .ok m := by
  obtain ⟨m, hm⟩ := Option.ne_none_iff_exists'.mp h.2
  exact ⟨m, by simp [catalogueMerchant, h.1, hm]⟩

theorem catalogueMerchant_fails (h : ¬ (principal.isStaff = true ∧ principal.merchantId ≠ none)) :
    Fails AppError.RefusesCaller (catalogueMerchant principal) := by
  unfold catalogueMerchant
  split
  · rename_i hs hm
    exact absurd ⟨hs, by simp [hm]⟩ h
  · exact fails_error (.inl rfl)

theorem reportMerchant_ok (hp : "analytics:read" ∈ principal.permissions)
    (h : principal.isStaff = true ∧ principal.merchantId ≠ none) : ∃ m, reportMerchant principal = .ok m := by
  obtain ⟨m, hm⟩ := Option.ne_none_iff_exists'.mp h.2
  refine ⟨m, ?_⟩
  unfold reportMerchant
  rw [requirePermission_ok hp, ok_bind, h.1, hm]
  rfl

theorem reportMerchant_fails (hp : "analytics:read" ∈ principal.permissions)
    (h : ¬ (principal.isStaff = true ∧ principal.merchantId ≠ none)) :
    Fails AppError.RefusesCaller (reportMerchant principal) := by
  refine Fails.after (requirePermission_ok hp) ?_
  split
  · rename_i hs hm
    exact absurd ⟨hs, by simp [hm]⟩ h
  · exact fails_error (.inl rfl)

theorem merchantFilter_ok (h : principal.dataScope = .all ∨ principal.merchantId ≠ none) :
    ∃ m, merchantFilter principal = .ok m := by
  unfold merchantFilter
  split_ifs with hs
  · exact ⟨none, rfl⟩
  · obtain ⟨m, hm⟩ := Option.ne_none_iff_exists'.mp (h.resolve_left hs)
    rw [hm]
    exact ⟨some m, rfl⟩

theorem merchantFilter_fails (h : ¬ (principal.dataScope = .all ∨ principal.merchantId ≠ none)) :
    Fails AppError.RefusesCaller (merchantFilter principal) := by
  push Not at h
  unfold merchantFilter
  rw [if_neg h.1, h.2]
  exact fails_error (.inl rfl)

end checks

/-! ## A caller that is served -/

/-- Another message than the one for staff without a merchant. -/
theorem mild_of_message {e : AppError} (hk : e.kind = .validation) (hm : e.message ≠ unattachedStaff.message) : Mild e := by
  rintro (h | h | h | ⟨-, h⟩)
  · simp [hk] at h
  · simp [hk] at h
  · simp [hk] at h
  · exact hm h

/-- A failure of a handler that is not a refusal of the caller. -/
abbrev MildFailure (f : Failure) : Prop := Mild f.error

theorem mild_toolError {message : String} (h : message ≠ unattachedStaff.message) :
    MildFailure (toolError .validation message) :=
  mild_of_message rfl h

theorem mild_errorResult {message : String} (h : message ≠ unattachedStaff.message) :
    MildFailure (errorResult .validation message) :=
  mild_of_message rfl h

theorem only_service {α : Type} {r : Except AppError α} (h : Only Mild r) : Only MildFailure (service r) :=
  h.mapError fun _ hx => hx

section served

variable {t : Tables} {principal : Identity.Principal}

theorem listProducts_only (hp : "product:read" ∈ principal.permissions)
    (h : principal.isStaff = true ∧ principal.merchantId ≠ none) (keyword status : Option String) (page pageSize : Nat) :
    Only Mild (listProducts t principal keyword status page pageSize) := by
  obtain ⟨m, hm⟩ := catalogueMerchant_ok h
  refine (only_of_ok (requirePermission_ok hp)).bind fun _ _ => ?_
  exact (only_of_ok hm).bind fun _ _ => only_pure _

theorem productDetail_only (hp : "product:read" ∈ principal.permissions)
    (h : principal.isStaff = true ∧ principal.merchantId ≠ none) (productId : Nat) :
    Only Mild (productDetail t principal productId) := by
  obtain ⟨m, hm⟩ := catalogueMerchant_ok h
  refine (only_of_ok (requirePermission_ok hp)).bind fun _ _ => ?_
  refine (only_of_ok hm).bind fun _ _ => ?_
  exact (only_orRaise _ (mild_of_kind (by simp))).bind fun _ _ => only_pure _

theorem skuGet_only (hp : "product:read" ∈ principal.permissions)
    (h : principal.isStaff = true ∧ principal.merchantId ≠ none) (input : SkuGetInput) :
    Only MildFailure (skuGet t principal input) := by
  have hmissing : ∀ message : String, MildFailure (toolError .skuNotFound message) := fun _ => mild_of_kind (by simp [toolError])
  refine (only_raiseIf _ (mild_toolError (by decide))).bind fun _ _ => ?_
  refine (only_raiseIf _ (mild_toolError (by decide))).bind fun _ _ => ?_
  split
  · refine (only_service (productDetail_only hp h _)).bind fun _ _ => ?_
    exact (only_orRaise _ (hmissing _)).bind fun _ _ => only_pure _
  · refine (only_orRaise _ (hmissing _)).bind fun _ _ => ?_
    refine (only_service (productDetail_only hp h _)).bind fun _ _ => ?_
    exact (only_orRaise _ (hmissing _)).bind fun _ _ => only_pure _
  · exact only_error (mild_toolError (by decide))

theorem customerOrder_only (orderNo : String) : Only Mild (customerOrder t principal orderNo) :=
  (only_orRaise _ (mild_of_kind (by simp [orderNotFound]))).bind fun _ _ => only_pure _

theorem adminOrder_only (hp : "order:read" ∈ principal.permissions)
    (h : principal.dataScope = .all ∨ principal.merchantId ≠ none) (orderNo : String) :
    Only Mild (adminOrder t principal orderNo) := by
  obtain ⟨m, hm⟩ := merchantFilter_ok h
  refine (only_of_ok (requirePermission_ok hp)).bind fun _ _ => ?_
  refine (only_of_ok hm).bind fun _ _ => ?_
  exact (only_orRaise _ (mild_of_kind (by simp [orderNotFound]))).bind fun _ _ => only_pure _

theorem validateStatusFilter_only (value : Option String) (allowed : List String) {field : String}
    (hfield : "unknown " ++ field ++ " filter" ≠ unattachedStaff.message) :
    Only Mild (validateStatusFilter value allowed field) := by
  unfold validateStatusFilter
  cases value with
  | none => exact only_ok ()
  | some status => exact only_raiseIf _ (mild_of_message rfl hfield)

theorem customerOrders_only (orderStatus : Option String) (page pageSize : Nat) :
    Only Mild (customerOrders t principal orderStatus page pageSize) :=
  (validateStatusFilter_only _ _ (by decide)).bind fun _ _ => only_pure _

theorem adminOrders_only (hp : "order:read" ∈ principal.permissions)
    (h : principal.dataScope = .all ∨ principal.merchantId ≠ none) (filter : OrderFilter) (page pageSize : Nat) :
    Only Mild (adminOrders t principal filter page pageSize) := by
  obtain ⟨m, hm⟩ := merchantFilter_ok h
  refine (only_of_ok (requirePermission_ok hp)).bind fun _ _ => ?_
  refine (validateStatusFilter_only _ _ (by decide)).bind fun _ _ => ?_
  refine (validateStatusFilter_only _ _ (by decide)).bind fun _ _ => ?_
  refine (validateStatusFilter_only _ _ (by decide)).bind fun _ _ => ?_
  refine (only_raiseIf _ (mild_of_message rfl (by decide))).bind fun _ _ => ?_
  exact (only_of_ok hm).bind fun _ _ => only_pure _

theorem orderSearch_only (hp : "order:read" ∈ principal.permissions) (h : Tool.orderSearch.Serves principal)
    (input : OrderSearchInput) : Only MildFailure (orderSearch t principal input) := by
  refine (only_raiseIf _ (mild_toolError (by decide))).bind fun _ _ => ?_
  refine (only_service ?_).bind fun _ _ => only_pure _
  split_ifs with hc
  · exact adminOrders_only hp (h hc) _ _ _
  · exact customerOrders_only _ _ _

theorem forOrderNo_only (orderNo : String) : Only Mild (forOrderNo t principal orderNo) := by
  have hmissing : Mild orderMissing := mild_of_kind (by simp [orderMissing])
  refine (only_orRaise _ hmissing).bind fun _ _ => ?_
  dsimp only
  split_ifs
  · exact (only_raiseIf _ hmissing).bind fun _ _ => only_pure _
  · exact (only_raiseIf _ hmissing).bind fun _ _ => only_pure _

theorem afterSaleGet_only (rt : Runtime) (hp : "after_sale:read" ∈ principal.permissions)
    (h : Tool.afterSaleGet.Serves principal) (afterSaleNo : String) :
    Only MildFailure (afterSaleGet rt t principal afterSaleNo) := by
  have hmissing : Mild claimMissing := mild_of_kind (by simp [claimMissing])
  refine (only_service ?_).bind fun _ _ => only_pure _
  split_ifs with hc
  · obtain ⟨m, hm⟩ := Option.ne_none_iff_exists'.mp (h hc)
    refine (only_of_ok (requirePermission_ok hp)).bind fun _ _ => ?_
    refine (only_of_ok (orRaise_eq_ok.mpr hm)).bind fun _ _ => ?_
    exact only_orRaise _ hmissing
  · exact only_orRaise _ hmissing

theorem inventoryGet_only (h : principal.merchantId ≠ none) (input : InventoryGetInput) :
    Only MildFailure (inventoryGet t principal input) := by
  obtain ⟨m, hm⟩ := Option.ne_none_iff_exists'.mp h
  refine (only_service ?_).bind fun _ _ => only_pure _
  exact (only_of_ok (orRaise_eq_ok.mpr hm)).bind fun _ _ => only_pure _

theorem knowledgeSearch_only (rt : Runtime) (hp : "knowledge:read" ∈ principal.permissions)
    (hs : Identity.DataScope.merchant.rank ≤ principal.dataScope.rank) (h : principal.merchantId ≠ none)
    (input : KnowledgeSearchInput) : Only MildFailure (knowledgeSearch rt t principal input) := by
  obtain ⟨m, hm⟩ := Option.ne_none_iff_exists'.mp h
  have hwide : ¬ (principal.dataScope ≠ .merchant ∧ principal.dataScope ≠ .all) := by
    generalize principal.dataScope = scope at hs
    cases scope <;> simp [Identity.DataScope.rank] at hs ⊢
  refine (only_service ?_).bind fun _ _ => only_pure _
  refine Only.bind ?_ fun _ _ => (only_raiseIf _ (mild_of_kind (by simp))).bind fun _ _ => only_pure _
  refine (only_of_ok (requirePermission_ok hp)).bind fun _ _ => ?_
  rw [hm]
  exact (only_of_ok (raiseIf_neg hwide)).bind fun _ _ => only_pure m

end served

section reports

variable {ν : Type} {num : Arithmetic ν} {t : Tables} {principal : Identity.Principal}

theorem only_analyticsCall {α : Type} {r : Except AppError α} (h : Only Mild r) : Only MildFailure (analyticsCall r) := by
  refine h.mapError fun x hx => ?_
  split_ifs with hk
  · rcases hk with hk | hk
    · exact absurd (.inl hk) hx
    · exact absurd (.inr (.inl hk)) hx
  · exact hx

theorem checkedDay_only (day : Int) : Only Mild (checkedDay day) :=
  (only_raiseIf _ (mild_of_kind (by simp))).bind fun _ _ => only_pure _

theorem metric_only (hp : "analytics:read" ∈ principal.permissions)
    (h : principal.isStaff = true ∧ principal.merchantId ≠ none) (m : Metric) (fromDay toDay : Int) (g : Granularity) :
    Only Mild (metric num t principal m fromDay toDay g) := by
  obtain ⟨merchantId, hm⟩ := reportMerchant_ok hp h
  refine (only_of_ok hm).bind fun _ _ => ?_
  refine (only_raiseIf _ (mild_of_message rfl (by decide))).bind fun _ _ => ?_
  exact (checkedDay_only _).bind fun _ _ => (checkedDay_only _).bind fun _ _ => only_pure _

theorem reportWindow_only (input : AnalyticsInput) : Only MildFailure (reportWindow input) := by
  refine (only_orRaise _ (mild_errorResult (by decide))).bind fun _ _ => ?_
  refine (only_raiseIf _ (mild_errorResult (by decide))).bind fun _ _ => ?_
  exact (only_orRaise _ (mild_errorResult (by decide))).bind fun _ _ => only_pure _

theorem windowMetric_only (hp : "analytics:read" ∈ principal.permissions)
    (h : principal.isStaff = true ∧ principal.merchantId ≠ none) (input : AnalyticsInput) (m : Metric) :
    Only MildFailure (windowMetric num t principal input m) := by
  refine (reportWindow_only input).bind fun _ _ => ?_
  exact (only_analyticsCall (metric_only hp h _ _ _ _)).bind fun _ _ => only_pure _

theorem analyticsSales_only (hp : "analytics:read" ∈ principal.permissions)
    (h : principal.isStaff = true ∧ principal.merchantId ≠ none) (input : AnalyticsSalesInput) :
    Only MildFailure (analyticsSales num t principal input) := by
  unfold analyticsSales
  split_ifs
  · exact windowMetric_only hp h _ _
  · exact windowMetric_only hp h _ _
  · exact only_error (mild_toolError (by decide))

theorem analyticsAnomalies_only (hp : "analytics:read" ∈ principal.permissions)
    (h : principal.isStaff = true ∧ principal.merchantId ≠ none) (input : AnalyticsInput) :
    Only MildFailure (analyticsAnomalies num t principal input) := by
  have hcall : ∀ m fromDay toDay g, Only MildFailure (analyticsCall (metric num t principal m fromDay toDay g)) :=
    fun _ _ _ _ => only_analyticsCall (metric_only hp h _ _ _ _)
  refine (reportWindow_only input).bind fun _ _ => ?_
  refine (only_service (checkedDay_only _)).bind fun _ _ => ?_
  refine (only_service (checkedDay_only _)).bind fun _ _ => ?_
  exact (hcall _ _ _ _).bind fun _ _ => (hcall _ _ _ _).bind fun _ _ => (hcall _ _ _ _).bind fun _ _ => only_pure _

end reports

section promotions

variable {t : Tables} {principal : Identity.Principal}

theorem scopeProducts_only (merchantId : Nat) (scope : Scope) : Only Mild (scopeProducts t merchantId scope) := by
  refine (only_raiseIf _ (mild_of_message rfl (by decide))).bind fun _ _ => ?_
  refine (only_raiseIf _ (mild_of_message rfl (by decide))).bind fun _ _ => ?_
  exact (only_raiseIf _ (mild_of_message rfl (by decide))).bind fun _ _ => only_pure _

theorem discountOf_only (draft : PromotionDraft) (items : List OrderItem) : Only Mild (discountOf draft items) := by
  have hpriced : ∀ {α : Type} (r : Pricing.Priced α), Only Mild (priced r) := by
    intro α r
    have hany : Only (fun _ => True) r := fun _ _ => trivial
    exact hany.mapError fun _ _ => mild_of_kind (by simp)
  exact (hpriced _).map _

theorem estimateImpact_only (draft : PromotionDraft) (merchantId : Nat) (productIds : List Nat) (now : Time) :
    Only Mild (estimateImpact t draft merchantId productIds now) :=
  (Only.mapM (fun _ => discountOf_only draft _) _).bind fun _ _ => only_pure _

theorem previewPromotion_only (hp : "promotion:write" ∈ principal.permissions) (h : principal.merchantId ≠ none)
    (draft : PromotionDraft) (now : Time) : Only Mild (previewPromotion t principal draft now) := by
  obtain ⟨m, hm⟩ := Option.ne_none_iff_exists'.mp h
  have hmerchant : promotionMerchant principal true = .ok m := by
    unfold promotionMerchant
    rw [if_pos rfl, requirePermission_ok hp, ok_bind, orRaise_eq_ok]
    exact hm
  have hconflict : ∀ productIds e, Only Mild (conflictWith t m productIds e) :=
    fun _ _ => (scopeProducts_only _ _).bind fun _ _ => only_pure _
  unfold previewPromotion
  rw [hmerchant, ok_bind]
  refine (scopeProducts_only _ _).bind fun _ _ => ?_
  refine (Only.mapM (hconflict _) _).bind fun _ _ => ?_
  exact (estimateImpact_only _ _ _ _).bind fun _ _ => only_pure _

theorem readDraft_only (draft : Except String PromotionDraft) : Only MildFailure (readDraft draft) := by
  have hany : Only (fun _ => True) draft := fun _ _ => trivial
  exact hany.mapError fun _ _ => mild_of_kind (by simp [toolError])

theorem promotionPropose_only (rt : Runtime) (ttlSeconds : Nat) (hp : "promotion:write" ∈ principal.permissions)
    (h : principal.merchantId ≠ none) (input : PromotionProposeInput) (now : Time) :
    Only MildFailure (promotionPropose rt ttlSeconds t principal input now) := by
  obtain ⟨m, hm⟩ := Option.ne_none_iff_exists'.mp h
  have hheld : ¬ principal.hasPermission Tool.promotionPropose.spec.permission = false := by
    simp [Identity.Principal.hasPermission, Tool.spec, hp]
  refine (readDraft_only _).bind fun _ _ => ?_
  refine (only_of_ok (raiseIf_neg hheld)).bind fun _ _ => ?_
  exact (only_of_ok (orRaise_eq_ok.mpr hm)).bind fun _ _ => only_pure _

end promotions

variable {ν : Type} {platform : Platform ν} {principal : Identity.Principal} {tokenScopes : List String} {writeScope : String}

/-- A caller that the service serves is never refused. -/
theorem serves_only {tool : Tool} (hadmits : Admits tool principal tokenScopes writeScope) (h : tool.Serves principal)
    (t : Tables) (now : Time) (input : tool.Input) : Only MildFailure (handle platform t principal now tool input) := by
  obtain ⟨hp, hs⟩ := hadmits.keys
  cases tool with
  | productSearch => exact ((only_service (listProducts_only hp h _ _ _ _)).bind fun _ _ => only_pure _).map _
  | productGet => exact ((only_service (productDetail_only hp h _)).bind fun _ _ => only_pure _).map _
  | skuGet => exact (skuGet_only hp h _).map _
  | orderGet =>
    refine ((only_service ?_).bind fun _ _ => only_pure _).map _
    split_ifs with hc
    · exact adminOrder_only hp (h hc) _
    · exact customerOrder_only _
  | orderSearch => exact (orderSearch_only hp h _).map _
  | fulfillmentGet => exact ((only_service (forOrderNo_only _)).bind fun _ _ => only_pure _).map _
  | afterSaleGet => exact (afterSaleGet_only _ hp h _).map _
  | inventoryGet => exact (inventoryGet_only h _).map _
  | analyticsSales => exact (analyticsSales_only hp h _).map _
  | analyticsInventory => exact (windowMetric_only hp h _ _).map _
  | analyticsProductPerformance => exact (windowMetric_only hp h _ _).map _
  | analyticsRefunds => exact (windowMetric_only hp h _ _).map _
  | analyticsAnomalies => exact (analyticsAnomalies_only hp h _).map _
  | knowledgeSearch => exact (knowledgeSearch_only _ hp hs h _).map _
  | promotionPreview =>
    exact ((readDraft_only _).bind fun _ _ => only_service (previewPromotion_only h.1 h.2 _ _)).map _
  | promotionPropose => exact promotionPropose_only _ _ hp h _ _

/-! ## A caller that is not served -/

theorem fails_service {α : Type} {r : Except AppError α} (h : Fails AppError.RefusesCaller r) :
    Fails (fun f : Failure => f.error.RefusesCaller) (service r) :=
  h.mapError fun _ hx => hx

theorem metric_fails {num : Arithmetic ν} {t : Tables} {m : Metric} {fromDay toDay : Int} {g : Granularity}
    (h : Fails AppError.RefusesCaller (reportMerchant principal)) :
    Fails (fun f : Failure => f.error.RefusesCaller) (analyticsCall (metric num t principal m fromDay toDay g)) := by
  have hfails : Fails AppError.RefusesCaller (metric num t principal m fromDay toDay g) := h.bind _
  refine hfails.mapError fun x hx => ?_
  split_ifs
  · exact hx.imp_right fun hx => hx.imp_right fun hx => hx.imp_right fun hx => hx
  · exact hx

/-- A window that the reports accept. -/
def sampleWindow : AnalyticsInput where
  fromDay := some 0
  toDay := some 0

theorem windowMetric_fails {num : Arithmetic ν} {t : Tables} {m : Metric}
    (h : Fails AppError.RefusesCaller (reportMerchant principal)) :
    Fails (fun f : Failure => f.error.RefusesCaller) (windowMetric num t principal sampleWindow m) :=
  Fails.after (a := (0, 0, Granularity.day)) rfl ((metric_fails h).bind _)

/-- A draft that covers every product. -/
def sampleDraft : PromotionDraft where
  promotionType := .directDiscount
  ruleConfig := {}
  scope := { allProducts := true }
  startsAt := 0
  endsAt := 1
  document := .null

/-- A caller that the registry admits and the service does not serve is refused, whatever the tables hold. -/
theorem not_serves_fails {tool : Tool} (hadmits : Admits tool principal tokenScopes writeScope) (h : ¬ tool.Serves principal)
    (t : Tables) (now : Time) :
    ∃ input, Fails (fun f : Failure => f.error.RefusesCaller) (handle platform t principal now tool input) := by
  obtain ⟨hp, hs⟩ := hadmits.keys
  cases tool with
  | productSearch =>
    refine ⟨{}, Fails.map (Fails.bind (fails_service ?_) _) _⟩
    exact Fails.after (requirePermission_ok hp) ((catalogueMerchant_fails h).bind _)
  | productGet =>
    refine ⟨(0 : Nat), Fails.map (Fails.bind (fails_service ?_) _) _⟩
    exact Fails.after (requirePermission_ok hp) ((catalogueMerchant_fails h).bind _)
  | skuGet =>
    refine ⟨{ skuCode := some "", productId := some 0 }, Fails.map ?_ _⟩
    refine Fails.bind (fails_service ?_) _
    exact Fails.after (requirePermission_ok hp) ((catalogueMerchant_fails h).bind _)
  | orderGet =>
    obtain ⟨hc, hm⟩ := Classical.not_imp.mp h
    refine ⟨"", Fails.map (Fails.bind (fails_service ?_) _) _⟩
    rw [if_pos hc]
    exact Fails.after (requirePermission_ok hp) ((merchantFilter_fails hm).bind _)
  | orderSearch =>
    obtain ⟨hc, hm⟩ := Classical.not_imp.mp h
    refine ⟨{}, Fails.map ?_ _⟩
    refine Fails.after (raiseIf_neg fun hguard => by simp [hc] at hguard) (Fails.bind (fails_service ?_) _)
    rw [if_pos hc]
    exact Fails.after (requirePermission_ok hp) ((merchantFilter_fails hm).bind _)
  | fulfillmentGet => exact absurd trivial h
  | afterSaleGet =>
    obtain ⟨hc, hm⟩ := Classical.not_imp.mp h
    refine ⟨"", Fails.map (Fails.bind (fails_service ?_) _) _⟩
    rw [if_pos hc]
    refine Fails.after (requirePermission_ok hp) (Fails.bind ?_ _)
    rw [not_not.mp hm]
    exact fails_error (.inr (.inr (.inr ⟨rfl, rfl⟩)))
  | inventoryGet =>
    refine ⟨{}, Fails.map (Fails.bind (fails_service (Fails.bind ?_ _)) _) _⟩
    rw [not_not.mp h]
    exact fails_error (.inl rfl)
  | analyticsSales => exact ⟨{ toAnalyticsInput := sampleWindow }, (windowMetric_fails (reportMerchant_fails hp h)).map _⟩
  | analyticsInventory => exact ⟨sampleWindow, (windowMetric_fails (reportMerchant_fails hp h)).map _⟩
  | analyticsProductPerformance => exact ⟨sampleWindow, (windowMetric_fails (reportMerchant_fails hp h)).map _⟩
  | analyticsRefunds => exact ⟨sampleWindow, (windowMetric_fails (reportMerchant_fails hp h)).map _⟩
  | analyticsAnomalies =>
    refine ⟨sampleWindow, Fails.map ?_ _⟩
    refine Fails.after (a := (0, 0, Granularity.day)) rfl ?_
    refine Fails.after (a := (-1 : Int)) rfl (Fails.after (a := (-1 : Int)) rfl ?_)
    exact (metric_fails (reportMerchant_fails hp h)).bind _
  | knowledgeSearch =>
    refine ⟨⟨"", 0, 5⟩, Fails.map (Fails.bind (fails_service (Fails.bind ?_ _)) _) _⟩
    refine Fails.after (requirePermission_ok hp) ?_
    rw [not_not.mp h]
    exact fails_error (.inl rfl)
  | promotionPreview =>
    refine ⟨⟨.ok sampleDraft⟩, Fails.map ?_ _⟩
    refine Fails.after (a := sampleDraft) rfl (fails_service (Fails.bind ?_ _))
    by_cases hw : "promotion:write" ∈ principal.permissions
    · have hm : principal.merchantId = none := by
        by_contra hm
        exact h ⟨hw, hm⟩
      refine Fails.after (requirePermission_ok hw) ?_
      rw [hm]
      exact fails_error (.inl rfl)
    · exact Fails.bind (requirePermission_fails hw) _
  | promotionPropose =>
    have hheld : ¬ principal.hasPermission Tool.promotionPropose.spec.permission = false := by
      simp [Identity.Principal.hasPermission, hp]
    refine ⟨{ draft := .ok sampleDraft, summary := "" }, ?_⟩
    refine Fails.after (a := sampleDraft) rfl (Fails.after (raiseIf_neg hheld) (Fails.bind ?_ _))
    rw [not_not.mp h]
    exact fails_error (.inr (.inr (.inl rfl)))

/-! ## Listed and callable -/

/-- A tool is callable where it is listed: where it is admitted its service never refuses the caller, and where it is denied
no path of the server runs its handler. -/
def Callable (server : Server ν) (principal : Identity.Principal) (tokenScopes : List String) (tool : Tool) : Prop :=
  (Admits tool principal tokenScopes server.writeScope → ∀ t now input,
    ¬ Fails (fun f : Failure => f.error.RefusesCaller) (handle server.platform t principal now tool input)) ∧
  (¬ Admits tool principal tokenScopes server.writeScope → ∀ path name arguments t now,
    tool ∉ (server.request path name (some ⟨some principal, tokenScopes⟩) arguments t now).ran)

/-- A tool is callable where it is listed exactly when its service serves the callers it is listed for. -/
theorem callable_iff (server : Server ν) (principal : Identity.Principal) (tokenScopes : List String) (tool : Tool) :
    Callable server principal tokenScopes tool ↔
      (Admits tool principal tokenScopes server.writeScope → tool.Serves principal) := by
  constructor
  · intro h hadmits
    by_contra hserves
    obtain ⟨input, hfails⟩ : ∃ input, Fails (fun f : Failure => f.error.RefusesCaller)
        (handle server.platform {} principal 0 tool input) := not_serves_fails hadmits hserves {} 0
    exact h.1 hadmits {} 0 input hfails
  · intro h
    refine ⟨?_, ?_⟩
    · intro hadmits t now input
      exact (serves_only hadmits (h hadmits) t now input).not_fails
    · intro hdenied path name arguments t now hran
      exact hdenied (request_ran hran)

/-! A member of staff who may read promotions is listed the preview, and refused by the service that makes it. -/

def asRat : Number ℚ → ℚ
  | .int n => n
  | .float x => x

def exactArithmetic : Arithmetic ℚ where
  nonpositive x := decide (x ≤ 0)
  quotient a b := asRat a / asRat b
  sub a b := .float (asRat a - asRat b)
  mean values := (values.map asRat).sum / values.length
  round := Rat.floor
  atLeastHalf x := decide (1 / 2 ≤ |x|)

def sampleServer : Server ℚ where
  platform := {
    runtime := {
      reprText := fun text => "'" ++ text ++ "'"
      text := { lowerText := String.toLower, sub := fun _ _ value => value }
      payloadHash := fun _ => "" }
    arithmetic := exactArithmetic }
  validate
    | .promotionPreview, _ => .ok ⟨.ok sampleDraft⟩
    | _, _ => .error "Field required"
  parse _ arguments := .ok arguments

/-- Staff of merchant 31 who may read promotions. -/
def promotionReader : Identity.Principal where
  userId := 7
  userType := .staff
  merchantId := some 31
  roles := []
  permissions := ["promotion:read"]
  dataScope := .merchant
  sessionId := "s7"
  isStaff := true

theorem preview_not_callable : ¬ Callable sampleServer promotionReader ["promotion:read"] .promotionPreview := by
  intro h
  have hadmits : Admits .promotionPreview promotionReader ["promotion:read"] sampleServer.writeScope := by
    unfold Admits
    decide
  apply h.1 hadmits {} 0 ⟨.ok sampleDraft⟩
  exact ⟨_, rfl, by decide⟩

end Mcp

end NovaCommerce
