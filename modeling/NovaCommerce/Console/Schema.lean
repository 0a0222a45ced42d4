import NovaCommerce.Core.Redaction
import NovaCommerce.Identity.Security
import NovaCommerce.Schema

/-!
# The tables behind the console and the tools

The rows of the shop with the time they were inserted, the catalogue and the stock with their owners, the knowledge bases, and
the approval requests: each with the columns that the console's reads and the tools return.

* `Tables` : the tables together;
* `newestFirst`, `oldestFirst` : the orders of a listing; `Page`, `paginate` : one page of it;
* `Runtime` : what the language and the platform provide.
-/

namespace NovaCommerce.Console

/-! ## Rows -/

structure PlacedOrder extends Order where
  createdAt : Time

structure Package extends Fulfillment where
  createdAt : Time

structure Claim extends AfterSale where
  createdAt : Time

structure Category where
  merchantId : Option Nat
  name : String
  deletedAt : Option Time := none

structure Brand where
  merchantId : Option Nat
  deletedAt : Option Time := none

/-- A product with its display columns. -/
structure CatalogProduct extends Product where
  subtitle : Option String := none
  description : Option String := none
  minPrice : Int := 0
  maxPrice : Int := 0
  salesCount : Int := 0
  createdAt : Time := 0

/-- A SKU with its owner and its public columns. -/
structure CatalogSku extends ProductSku where
  merchantId : Option Nat
  skuCode : String
  marketPriceAmount : Int := 0
  sortOrder : Int := 0

/-- A stock position with its owner. -/
structure StockPosition extends Inventory where
  merchantId : Option Nat
  createdAt : Time := 0

structure LedgerEntry extends InventoryMovement where
  createdAt : Time

structure Campaign extends Promotion where
  promotionNo : String

structure KnowledgeBase where
  merchantId : Nat
  name : String

inductive DocumentStatus where
  | uploaded
  | processing
  | ready
  | failed
  | archived
  deriving DecidableEq, Repr

structure KnowledgeDocument where
  merchantId : Nat
  knowledgeBaseId : Nat
  fileName : String
  status : DocumentStatus := .uploaded

structure KnowledgeChunk where
  documentId : Nat
  text : String

/-- A request for approval, as a tool files it. -/
structure Proposal where
  merchantId : Nat
  agentRunId : String
  actionType : String
  toolName : String
  summary : String
  riskLevel : String
  status : String
  payload : JsonObject
  payloadHash : String
  requestedBy : Nat
  expiresAt : Time

/-! ## All tables -/

structure Tables where
  orders : Dict Nat PlacedOrder := Dict.empty
  orderItems : Dict Nat OrderItem := Dict.empty
  fulfillments : Dict Nat Package := Dict.empty
  afterSales : Dict Nat Claim := Dict.empty
  refunds : Dict Nat Refund := Dict.empty
  categories : Dict Nat Category := Dict.empty
  brands : Dict Nat Brand := Dict.empty
  products : Dict Nat CatalogProduct := Dict.empty
  skus : Dict Nat CatalogSku := Dict.empty
  positions : Dict Nat StockPosition := Dict.empty
  movements : Dict Nat LedgerEntry := Dict.empty
  promotions : Dict Nat Campaign := Dict.empty
  knowledgeBases : Dict Nat KnowledgeBase := Dict.empty
  documents : Dict Nat KnowledgeDocument := Dict.empty
  chunks : Dict Nat KnowledgeChunk := Dict.empty
  pendingActions : Dict Nat Proposal := Dict.empty
  next : Nat := 1

/-! ## Listings -/

variable {α : Type}

/-- `ORDER BY created_at DESC, id DESC`. -/
def newestFirst (created : α → Time) (rows : List (Nat × α)) : List (Nat × α) :=
  rows.insertionSort fun a b => created b.2 < created a.2 ∨ (created b.2 = created a.2 ∧ b.1 ≤ a.1)

/-- `ORDER BY created_at ASC, id ASC`. -/
def oldestFirst (created : α → Time) (rows : List (Nat × α)) : List (Nat × α) :=
  rows.insertionSort fun a b => created a.2 < created b.2 ∨ (created a.2 = created b.2 ∧ a.1 ≤ b.1)

/-- `ORDER BY id ASC`. -/
def byId (rows : List (Nat × α)) : List (Nat × α) := rows.insertionSort fun a b => a.1 ≤ b.1

/-- The rows of one page, and how many there are on all pages. -/
structure Page (α : Type) where
  rows : List (Nat × α)
  total : Nat

/-- `LIMIT` and `OFFSET` over a sorted listing. -/
def paginate (rows : List (Nat × α)) (offset limit : Nat) : Page α where
  rows := (rows.drop offset).take limit
  total := rows.length

/-- The offset of a page, counted from one. -/
def pageOffset (page pageSize : Nat) : Nat := (page - 1) * pageSize

/-- Functions of the language and the platform that the reads and the tools use as they are. -/
structure Runtime where
  reprText : String → String
  text : Redaction.Runtime
  payloadHash : JsonObject → String

end NovaCommerce.Console

/-! ## Callers -/

namespace NovaCommerce.Identity

/-- `covers`: at least as broad. -/
def DataScope.covers (scope other : DataScope) : Bool := decide (other.rank ≤ scope.rank)

def Principal.hasPermission (p : Principal) (permission : String) : Bool := decide (permission ∈ p.permissions)

def Principal.requirePermission (p : Principal) (permission : String) : Except AppError Unit :=
  Raise.raiseIf (p.hasPermission permission = false)
    { kind := .permissionDenied, message := "missing required permission: " ++ permission }

/-- A member of staff whose scope is not their own rows. -/
def Principal.console (p : Principal) : Bool := p.isStaff && decide (p.dataScope ≠ .self)

end NovaCommerce.Identity
