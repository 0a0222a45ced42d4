import NovaCommerce.Console.Schema

/-!
# Who may call a tool

The registry of the sixteen tools, and the rule that decides whether a token's scopes and its subject open one.

* `Tool.spec` : the row of a tool; `toolSpecs` : the registry in its order;
* `authorizeTool` : the first denial, in a fixed order; `authorizedToolNames` : the tools that are listed.
-/

namespace NovaCommerce.Mcp

open Identity (DataScope)

/-! ## The registry -/

inductive Tool where
  | productSearch
  | productGet
  | skuGet
  | orderGet
  | orderSearch
  | fulfillmentGet
  | afterSaleGet
  | inventoryGet
  | analyticsSales
  | analyticsInventory
  | analyticsProductPerformance
  | analyticsRefunds
  | analyticsAnomalies
  | knowledgeSearch
  | promotionPreview
  | promotionPropose
  deriving DecidableEq, Repr

/-- One tool, and the keys that open it. -/
structure ToolSpec where
  name : String
  scope : String
  permission : String
  minDataScope : DataScope
  readOnly : Bool := true

def Tool.spec : Tool → ToolSpec
  | .productSearch => ⟨"nova.product.search", "catalog:read", "product:read", .merchant, true⟩
  | .productGet => ⟨"nova.product.get", "catalog:read", "product:read", .merchant, true⟩
  | .skuGet => ⟨"nova.sku.get", "catalog:read", "product:read", .merchant, true⟩
  | .orderGet => ⟨"nova.order.get", "orders:read", "order:read", .self, true⟩
  | .orderSearch => ⟨"nova.order.search", "orders:read", "order:read", .self, true⟩
  | .fulfillmentGet => ⟨"nova.fulfillment.get", "fulfillment:read", "fulfillment:read", .self, true⟩
  | .afterSaleGet => ⟨"nova.after_sale.get", "after_sale:read", "after_sale:read", .merchant, true⟩
  | .inventoryGet => ⟨"nova.inventory.get", "inventory:read", "inventory:read", .merchant, true⟩
  | .analyticsSales => ⟨"nova.analytics.sales", "analytics:read", "analytics:read", .merchant, true⟩
  | .analyticsInventory => ⟨"nova.analytics.inventory", "analytics:read", "analytics:read", .merchant, true⟩
  | .analyticsProductPerformance =>
    ⟨"nova.analytics.product_performance", "analytics:read", "analytics:read", .merchant, true⟩
  | .analyticsRefunds => ⟨"nova.analytics.refunds", "analytics:read", "analytics:read", .merchant, true⟩
  | .analyticsAnomalies => ⟨"nova.analytics.anomalies", "analytics:read", "analytics:read", .merchant, true⟩
  | .knowledgeSearch => ⟨"nova.knowledge.search", "knowledge:read", "knowledge:read", .merchant, true⟩
  | .promotionPreview => ⟨"nova.promotion.preview", "promotion:read", "promotion:read", .merchant, true⟩
  | .promotionPropose => ⟨"nova.promotion.propose", "promotion:propose", "promotion:write", .merchant, false⟩

/-- The order of `TOOL_SPECS`. -/
def tools : List Tool := [
  .productSearch, .productGet, .skuGet, .orderGet, .orderSearch, .fulfillmentGet, .afterSaleGet, .inventoryGet,
  .analyticsSales, .analyticsInventory, .analyticsProductPerformance, .analyticsRefunds, .analyticsAnomalies,
  .knowledgeSearch, .promotionPreview, .promotionPropose]

/-- `TOOL_SPECS_BY_NAME.get(name)`, and the handler registered under the name. -/
def toolNamed? (name : String) : Option Tool := tools.find? fun tool => decide (tool.spec.name = name)

theorem mem_tools (tool : Tool) : tool ∈ tools := by
  cases tool <;> decide

/-- Every tool is found under its name. -/
theorem toolNamed?_spec (tool : Tool) : toolNamed? tool.spec.name = some tool := by
  cases tool <;> decide

/-! ## Denials -/

/-- Why a tool is not authorised. -/
structure Denial where
  toolName : String
  reason : String
  code : ErrorKind
  deriving DecidableEq, Repr

/-- Its own scope, and the write scope when it writes. -/
def ToolSpec.requiredScopes (spec : ToolSpec) (writeScope : String) : List String :=
  if spec.readOnly = true ∨ writeScope = spec.scope then [spec.scope] else [spec.scope, writeScope]

def scopeDenial (spec : ToolSpec) (tokenScopes : List String) (writeScope : String) : Option Denial :=
  let missing := ((spec.requiredScopes writeScope).filter fun scope => decide (scope ∉ tokenScopes)).insertionSort (· ≤ ·)
  if missing = [] then none
  else some ⟨spec.name, "token is missing required scope(s): " ++ ", ".intercalate missing, .mcpTokenInsufficientScope⟩

def rbacDenial (spec : ToolSpec) (principal : Identity.Principal) : Option Denial :=
  if principal.hasPermission spec.permission then none
  else some ⟨spec.name, "principal lacks the required permission " ++ spec.permission, .permissionDenied⟩

def dataScopeDenial (spec : ToolSpec) (principal : Identity.Principal) : Option Denial :=
  if principal.dataScope.covers spec.minDataScope then none
  else some ⟨spec.name, "data scope " ++ principal.dataScope.value ++ " does not cover the required " ++
    spec.minDataScope.value ++ " for this tool", .dataScopeViolation⟩

/-- The first denial, in the order existence, scope, permission, data scope. -/
def authorizeTool (toolName : String) (principal : Identity.Principal) (tokenScopes : List String) (writeScope : String) :
    Option Denial :=
  match toolNamed? toolName with
  | none => some ⟨toolName, "tool is not exposed by this server", .mcpToolNotExposed⟩
  | some tool =>
    (scopeDenial tool.spec tokenScopes writeScope).or
      ((rbacDenial tool.spec principal).or (dataScopeDenial tool.spec principal))

/-- What a caller may see. -/
def authorizedToolNames (principal : Identity.Principal) (tokenScopes : List String) (writeScope : String) : List String :=
  (tools.map fun tool => tool.spec.name).filter fun name =>
    decide (authorizeTool name principal tokenScopes writeScope = none)

/-- A tool is admitted. -/
def Admits (tool : Tool) (principal : Identity.Principal) (tokenScopes : List String) (writeScope : String) : Prop :=
  authorizeTool tool.spec.name principal tokenScopes writeScope = none

/-- An admitted tool is opened by the permission and the data scope of its caller. -/
theorem Admits.keys {tool : Tool} {principal : Identity.Principal} {tokenScopes : List String} {writeScope : String}
    (h : Admits tool principal tokenScopes writeScope) :
    tool.spec.permission ∈ principal.permissions ∧ tool.spec.minDataScope.rank ≤ principal.dataScope.rank := by
  unfold Admits authorizeTool at h
  rw [toolNamed?_spec] at h
  dsimp only at h
  rw [Option.or_eq_none_iff, Option.or_eq_none_iff] at h
  obtain ⟨-, hrbac, hscope⟩ := h
  constructor
  · by_contra hp
    simp [rbacDenial, Identity.Principal.hasPermission, hp] at hrbac
  · by_contra hs
    simp [dataScopeDenial, Identity.DataScope.covers, hs] at hscope

/-- What is listed is what is admitted. -/
theorem mem_authorizedToolNames {tool : Tool} {principal : Identity.Principal} {tokenScopes : List String}
    {writeScope : String} :
    tool.spec.name ∈ authorizedToolNames principal tokenScopes writeScope ↔ Admits tool principal tokenScopes writeScope := by
  unfold authorizedToolNames Admits
  rw [List.mem_filter, decide_eq_true_iff]
  exact and_iff_right (List.mem_map_of_mem (mem_tools tool))

end NovaCommerce.Mcp
