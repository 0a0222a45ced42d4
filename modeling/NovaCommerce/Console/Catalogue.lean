import NovaCommerce.Console.Schema

/-!
# Reading the catalogue, the stock and the knowledge bases

* `listProducts`, `productDetail` : the products of the caller's merchant;
* `listPositions` : the stock of one merchant;
* `debugRetrieval` : the evidence of one knowledge base.
-/

namespace NovaCommerce.Console

/-! ## Products -/

/-- `_merchant` of the catalogue. -/
def catalogueMerchant (principal : Identity.Principal) : Except AppError Nat :=
  match principal.isStaff, principal.merchantId with
  | true, some m => .ok m
  | _, _ => .error { kind := .permissionDenied, message := "merchant staff account required" }

/-- A product with its category and its SKUs. -/
structure ProductDetail where
  id : Nat
  product : CatalogProduct
  categoryName : Option String
  skus : List (Nat × CatalogSku)

/-- The rows that are loaded with a product. -/
def Tables.productDetail (t : Tables) (e : Nat × CatalogProduct) : ProductDetail where
  id := e.1
  product := e.2
  categoryName := (e.2.categoryId.bind t.categories.get?).map Category.name
  skus := t.skus.select fun s => decide (s.productId = e.1)

/-- `name LIKE '%keyword%'`, for a keyword that is not blank. -/
def nameContains (keyword : Option String) (name : String) : Bool :=
  match keyword with
  | none => true
  | some text => decide (text = "" ∨ (strip text).toList <:+: name.toList)

/-- `list_admin` of the catalogue. -/
def listProducts (t : Tables) (principal : Identity.Principal) (keyword status : Option String) (page pageSize : Nat) :
    Except AppError (Page ProductDetail) := do
  principal.requirePermission "product:read"
  let merchantId ← catalogueMerchant principal
  let found := t.products.select fun p => decide (p.merchantId = some merchantId ∧ p.deletedAt = none ∧
    ∀ s ∈ status, s = "" ∨ p.status.value = s) && nameContains keyword p.name
  let listed := paginate (newestFirst CatalogProduct.createdAt found) (pageOffset page pageSize) pageSize
  return ⟨listed.rows.map fun e => (e.1, t.productDetail e), listed.total⟩

/-- `_owned`. -/
def Tables.ownedProduct (t : Tables) (merchantId productId : Nat) : Option CatalogProduct :=
  (t.products.get? productId).filter fun p => decide (p.merchantId = some merchantId ∧ p.deletedAt = none)

/-- `detail` of the catalogue. -/
def productDetail (t : Tables) (principal : Identity.Principal) (productId : Nat) : Except AppError ProductDetail := do
  principal.requirePermission "product:read"
  let merchantId ← catalogueMerchant principal
  let product ← Raise.orRaise (t.ownedProduct merchantId productId) { kind := .productNotFound, message := "product not found" }
  return t.productDetail (productId, product)

/-! ## Stock -/

/-- `ORDER BY available_qty ASC, id DESC`. -/
def scarcestFirst (rows : List (Nat × StockPosition)) : List (Nat × StockPosition) :=
  rows.insertionSort fun a b =>
    a.2.availableQty < b.2.availableQty ∨ (a.2.availableQty = b.2.availableQty ∧ b.1 ≤ a.1)

def listPositions (t : Tables) (merchantId : Option Nat) (lowStockOnly : Bool) (limit : Nat) :
    Except AppError (Page StockPosition) := do
  let m ← Raise.orRaise merchantId
    { kind := .permissionDenied, message := "inventory reads require an explicit merchant scope" }
  return paginate (scarcestFirst (t.positions.select fun row => decide (row.merchantId = some m ∧
    (lowStockOnly = true → row.availableQty ≤ row.safetyStock)))) 0 limit

/-! ## Knowledge -/

/-- `_merchant` of the knowledge bases. -/
def knowledgeMerchant (principal : Identity.Principal) (permission : String) : Except AppError Nat := do
  principal.requirePermission permission
  match principal.merchantId with
  | some m =>
    Raise.raiseIf (principal.dataScope ≠ .merchant ∧ principal.dataScope ≠ .all)
      { kind := .permissionDenied, message := "knowledge access requires merchant scope" }
    return m
  | none => .error { kind := .permissionDenied, message := "knowledge access requires merchant scope" }

/-- `search_chunks`: the chunks of the base's documents that are ready and contain the query. -/
def Tables.searchChunks (t : Tables) (baseId merchantId : Nat) (text : String) (limit : Nat) :
    List (Nat × KnowledgeChunk × Nat × KnowledgeDocument) :=
  ((byId t.chunks.entries).filterMap fun c =>
    ((t.documents.get? c.2.documentId).filter fun d => decide (d.knowledgeBaseId = baseId ∧ d.merchantId = merchantId ∧
      d.status = .ready ∧ text.toList <:+: c.2.text.toList)).map fun d => (c.1, c.2, c.2.documentId, d)).take limit

/-- One piece of evidence. -/
structure Evidence where
  index : Nat
  docId : Nat
  docName : String
  chunkId : Nat
  snippet : String

/-- `debug_retrieval`: the evidence, numbered from one. -/
def debugRetrieval (t : Tables) (principal : Identity.Principal) (baseId : Nat) (text : String) (topK : Nat) :
    Except AppError (List Evidence) := do
  let merchantId ← knowledgeMerchant principal "knowledge:read"
  Raise.raiseIf ((t.knowledgeBases.get? baseId).all (fun b => decide (b.merchantId ≠ merchantId)) = true)
    { kind := .knowledgeBaseNotFound, message := "knowledge base not found" }
  return (t.searchChunks baseId merchantId text topK).zipIdx.map fun e =>
    ⟨e.2 + 1, e.1.2.2.1, e.1.2.2.2.fileName, e.1.1, e.1.2.1.text⟩

end NovaCommerce.Console
