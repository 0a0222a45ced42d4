import NovaCommerce.Console.Promotions
import NovaCommerce.Lib.Base64
import NovaCommerce.Order.RequestHash
import NovaCommerce.Payment.Signatures

/-!
# Preview tokens

A preview answers with a token: the claims about the draft, and their signature under the server's secret. A create shows it again.

* `PreviewDraft.canonical` : the canonical form of a draft;
* `issuePreviewToken`, `verifyPreviewToken` : over the strings that a request can hold, lone surrogates included;
* `Unforged` : a signature that the secret never made is not presented;
* `issued_of_verify` : what is accepted was issued, for this merchant and this canonical form, and has not expired;
* `verify_issued`, `verify_total` : what was issued is accepted, and nothing is answered but acceptance or the preview error.
-/

namespace NovaCommerce.Previews

open Pricing (PromotionType CouponType)

/-! ## Python strings -/

/-- A code point of a string: a Unicode scalar value, or half of a surrogate pair. -/
inductive PyChar where
  | scalar (c : Char)
  | surrogate (n : Fin 2048)
  deriving DecidableEq

abbrev PyStr := List PyChar

/-- A text as a string. -/
def py (s : String) : PyStr := s.toList.map .scalar

def PyChar.scalar? : PyChar → Option Char
  | .scalar c => some c
  | .surrogate _ => none

def PyChar.isAscii : PyChar → Bool
  | .scalar c => decide (c.toNat < 128)
  | .surrogate _ => false

/-- `str.encode`, as the text whose bytes it is; `none` for the error that a lone surrogate raises. -/
def encodable (s : PyStr) : Option String := (s.mapM PyChar.scalar?).map String.ofList

/-- `s.split(".", 1)` in two parts. -/
def splitDot : PyStr → Option (PyStr × PyStr)
  | [] => none
  | c :: cs => if c = .scalar '.' then some ([], cs) else (splitDot cs).map fun parts => (c :: parts.1, parts.2)

/-- The exceptions of the language, by what a handler can tell apart. -/
inductive PyError where
  | valueError
  | keyError
  | typeError
  | other
  deriving DecidableEq

/-- `hmac.compare_digest` of two strings. -/
def compareDigest (a b : PyStr) : Except PyError Bool :=
  if a.all PyChar.isAscii && b.all PyChar.isAscii then .ok (decide (a = b)) else .error .typeError

/-- `base64.urlsafe_b64decode`. -/
def urlsafeB64decode (s : String) : Except PyError (List UInt8) :=
  if s.toList.all fun c => decide (c.toNat < 128) then Raise.orRaise (Base64.decode? s.toList) .valueError
  else .error .valueError

/-- `claims[key]`. -/
def item (claims : Json) (key : String) : Except PyError Json :=
  match claims with
  | .obj fields => Raise.orRaise ((fields.find? fun field => field.1 = key).map Prod.snd) .keyError
  | _ => .error .typeError

/-- `==` with an integer. -/
def equalsInt (value : Json) (n : Int) : Bool :=
  match value with
  | .int m => decide (m = n)
  | .bool b => decide ((if b then 1 else 0) = n)
  | .float (.finite num shift) => decide (num = n * 2 ^ shift)
  | _ => false

/-- `==` with a string. -/
def equalsText (value : Json) (text : String) : Bool :=
  match value with
  | .str s => decide (s = text)
  | _ => false

/-- `<=` with an integer. -/
def atMost (value : Json) (n : Int) : Except PyError Bool :=
  match value with
  | .int m => .ok (decide (m ≤ n))
  | .bool b => .ok (decide ((if b then 1 else 0) ≤ n))
  | .float (.finite num shift) => .ok (decide (num ≤ n * 2 ^ shift))
  | .float (.infinity negative) => .ok negative
  | .float .nan => .ok false
  | _ => .error .typeError

/-! ## Drafts -/

/-- `json.dumps` of an object, its members in key order. -/
def jsonObject (members : List (String × String)) : String :=
  "\x7b" ++ ",".intercalate (members.map fun m => jsonString m.1 ++ ":" ++ m.2) ++ "\x7d"

def jsonIds (ids : List Nat) : String := "[" ++ ",".intercalate (ids.map toString) ++ "]"

def jsonBool (b : Bool) : String := if b then "true" else "false"

def jsonOption {α : Type} (text : α → String) : Option α → String
  | none => "null"
  | some a => text a

/-- A time with its zone: the instant, and the ISO text it is dumped to. -/
structure ZonedTime where
  instant : Time
  isoformat : String
  deriving DecidableEq

deriving instance DecidableEq for Scope, RuleConfig

structure PromotionDraft where
  name : String
  description : Option String := none
  promotionType : PromotionType
  priority : Int := 100
  stackable : Bool := false
  ruleConfig : RuleConfig
  scope : Scope
  startsAt : ZonedTime
  endsAt : ZonedTime
  totalQuota : Int
  deriving DecidableEq

structure CouponDraft where
  name : String
  couponType : CouponType
  faceValueAmount : Option Int := none
  discountBps : Option Int := none
  thresholdAmount : Int := 0
  maxDiscountAmount : Option Int := none
  totalQuota : Int
  perUserLimit : Int
  validityType : ValidityType
  validDays : Option Nat := none
  validFrom : Option ZonedTime := none
  validTo : Option ZonedTime := none
  applicableScope : Scope
  deriving DecidableEq

inductive PreviewDraft where
  | promotion (draft : PromotionDraft)
  | coupon (draft : CouponDraft)
  deriving DecidableEq

def promotionTypeValue : PromotionType → String
  | .directDiscount => "DIRECT_DISCOUNT"
  | .percentDiscount => "PERCENT_DISCOUNT"
  | .fullReduction => "FULL_REDUCTION"

def couponTypeValue : CouponType → String
  | .fixedAmount => "FIXED_AMOUNT"
  | .percentDiscount => "PERCENT_DISCOUNT"

def validityTypeValue : ValidityType → String
  | .relative => "RELATIVE"
  | .absolute => "ABSOLUTE"

/-- The `rule_config` of a draft: the keys that its type has. -/
def PromotionDraft.ruleConfigText (draft : PromotionDraft) : String :=
  let c := draft.ruleConfig
  jsonObject (match draft.promotionType with
    | .directDiscount => [("discount_amount", jsonOption toString c.discountAmount)]
    | .percentDiscount => [
        ("discount_bps", jsonOption toString c.discountBps),
        ("max_discount_amount", jsonOption toString c.maxDiscountAmount)]
    | .fullReduction => [
        ("max_discount_amount", jsonOption toString c.maxDiscountAmount),
        ("reduction_amount", jsonOption toString c.reductionAmount),
        ("threshold_amount", jsonOption toString c.thresholdAmount)])

def PromotionDraft.canonical (draft : PromotionDraft) : String := jsonObject [
  ("description", jsonOption jsonString draft.description),
  ("ends_at", jsonString draft.endsAt.isoformat),
  ("name", jsonString draft.name),
  ("priority", toString draft.priority),
  ("promotion_type", jsonString (promotionTypeValue draft.promotionType)),
  ("rule_config", draft.ruleConfigText),
  ("scope", jsonObject [
    ("all_products", jsonBool draft.scope.allProducts),
    ("brand_ids", jsonIds draft.scope.brandIds),
    ("category_ids", jsonIds draft.scope.categoryIds),
    ("product_ids", jsonIds draft.scope.productIds)]),
  ("stackable", jsonBool draft.stackable),
  ("starts_at", jsonString draft.startsAt.isoformat),
  ("total_quota", toString draft.totalQuota)]

def CouponDraft.canonical (draft : CouponDraft) : String := jsonObject [
  ("applicable_scope", jsonObject [
    ("all_products", jsonBool draft.applicableScope.allProducts),
    ("category_ids", jsonIds draft.applicableScope.categoryIds),
    ("product_ids", jsonIds draft.applicableScope.productIds)]),
  ("coupon_type", jsonString (couponTypeValue draft.couponType)),
  ("discount_bps", jsonOption toString draft.discountBps),
  ("face_value_amount", jsonOption toString draft.faceValueAmount),
  ("max_discount_amount", jsonOption toString draft.maxDiscountAmount),
  ("name", jsonString draft.name),
  ("per_user_limit", toString draft.perUserLimit),
  ("threshold_amount", toString draft.thresholdAmount),
  ("total_quota", toString draft.totalQuota),
  ("valid_days", jsonOption toString draft.validDays),
  ("valid_from", jsonOption (fun t => jsonString t.isoformat) draft.validFrom),
  ("valid_to", jsonOption (fun t => jsonString t.isoformat) draft.validTo),
  ("validity_type", jsonString (validityTypeValue draft.validityType))]

/-- `_canonical`. -/
def PreviewDraft.canonical : PreviewDraft → String
  | .promotion draft => draft.canonical
  | .coupon draft => draft.canonical

/-! ## Tokens -/

/-- `PREVIEW_TTL`. -/
def previewTtl : Nat := 900000

/-- The secret, and the functions of the platform that tokens rest on. -/
structure Signer where
  secret : String
  hmacHex : String → String → String
  sha256Hex : String → String
  jsonLoads : List UInt8 → Except PyError Json

structure Claims where
  merchantId : Nat
  payloadHash : String
  expiresAt : Nat
  nonce : String

/-- `json.dumps` of the claims. -/
def Claims.text (c : Claims) : String := jsonObject [
  ("expires_at", toString c.expiresAt),
  ("merchant_id", toString c.merchantId),
  ("nonce", jsonString c.nonce),
  ("payload_hash", jsonString c.payloadHash)]

def Claims.json (c : Claims) : Json := .obj [
  ("expires_at", .int c.expiresAt),
  ("merchant_id", .int c.merchantId),
  ("nonce", .str c.nonce),
  ("payload_hash", .str c.payloadHash)]

/-- The claims in Base64, without padding. -/
def Claims.body (c : Claims) : String := String.ofList (Base64.strip (Base64.encode (utf8 c.text)))

section

variable (env : Signer)

def previewClaims (draft : PreviewDraft) (merchantId : Nat) (now : Time) (nonce : String) : Claims where
  merchantId := merchantId
  payloadHash := env.sha256Hex draft.canonical
  expiresAt := (now + previewTtl) / 1000
  nonce := nonce

/-- A body with its signature. -/
def signed (body : String) : String := body ++ "." ++ env.hmacHex env.secret body

def issuePreviewToken (draft : PreviewDraft) (merchantId : Nat) (now : Time) (nonce : String) : String :=
  signed env (previewClaims env draft merchantId now nonce).body

/-- The comparison of the claims, in the order of its operands. -/
def checkClaims (claims : Json) (draft : PreviewDraft) (merchantId : Nat) (now : Time) : Except PyError Unit := do
  let merchant ← item claims "merchant_id"
  Raise.raiseIf (equalsInt merchant merchantId = false) .valueError
  let payloadHash ← item claims "payload_hash"
  Raise.raiseIf (equalsText payloadHash (env.sha256Hex draft.canonical) = false) .valueError
  let expiresAt ← item claims "expires_at"
  let expired ← atMost expiresAt (now / 1000 : Nat)
  Raise.raiseIf (expired = true) .valueError

/-- The body of the `try`. -/
def readToken (token : PyStr) (draft : PreviewDraft) (merchantId : Nat) (now : Time) : Except PyError Unit := do
  let (body, signature) ← Raise.orRaise (splitDot token) .valueError
  let text ← Raise.orRaise (encodable body) .valueError
  let same ← compareDigest signature (py (env.hmacHex env.secret text))
  Raise.raiseIf (same = false) .valueError
  let bytes ← urlsafeB64decode (String.ofList (Base64.repad text.toList))
  let claims ← env.jsonLoads bytes
  checkClaims env claims draft merchantId now

def verifyPreviewToken (token : PyStr) (draft : PreviewDraft) (merchantId : Nat) (now : Time) : Except AppError String :=
  match readToken env token draft merchantId now with
  | .error .other => .error { kind := .internal, message := "" }
  | .error _ => .error { kind := .promotionPreviewRequired, message := "preview this exact offer before creating it" }
  | .ok () => match encodable token with
    | none => .error { kind := .valueError, message := "surrogates not allowed" }
    | some text => .ok (env.sha256Hex text)

/-- What the platform's functions are relied on for. -/
structure Signer.Lawful : Prop where
  sha256 : Function.Injective env.sha256Hex
  hmacAscii : ∀ secret message, ∀ c ∈ (env.hmacHex secret message).toList, c.toNat < 128
  loads : ∀ c : Claims, env.jsonLoads (utf8 c.text) = .ok c.json

end

/-! ## Strings that are texts -/

theorem encodable_py (s : String) : encodable (py s) = some s := by
  unfold encodable py
  have hscalars : ∀ cs : List Char, (cs.map PyChar.scalar).mapM PyChar.scalar? = some cs := by
    intro cs
    induction cs with
    | nil => rfl
    | cons c cs ih =>
      rw [List.map_cons, List.mapM_cons, ih]
      rfl
  rw [hscalars, Option.map_some, String.ofList_toList]

theorem eq_py_of_encodable {s : PyStr} {text : String} (h : encodable s = some text) : s = py text := by
  unfold encodable at h
  obtain ⟨cs, hcs, rfl⟩ := Option.map_eq_some_iff.mp h
  unfold py
  rw [String.toList_ofList]
  clear h
  induction s generalizing cs with
  | nil =>
    cases hcs
    rfl
  | cons c s ih =>
    rw [List.mapM_cons] at hcs
    obtain ⟨d, hd, hcs⟩ := Option.bind_eq_some_iff.mp hcs
    obtain ⟨ds, hds, heq⟩ := Option.bind_eq_some_iff.mp hcs
    cases heq
    cases c with
    | surrogate n => cases hd
    | scalar c =>
      cases hd
      rw [ih ds hds]
      rfl

theorem py_append (s t : String) : py (s ++ t) = py s ++ py t := by
  unfold py
  rw [String.toList_append, List.map_append]

theorem py_injective : Function.Injective py := by
  intro s t h
  have hscalar : Function.Injective PyChar.scalar := fun a b hab => PyChar.scalar.inj hab
  exact String.toList_injective (List.map_injective_iff.mpr hscalar h)

theorem dot_mem_py {s : String} : PyChar.scalar '.' ∈ py s ↔ '.' ∈ s.toList := by
  unfold py
  rw [List.mem_map]
  constructor
  · rintro ⟨c, hc, heq⟩
    cases heq
    exact hc
  · intro hdot
    exact ⟨'.', hdot, rfl⟩

theorem isAscii_py {s : String} (h : ∀ c ∈ s.toList, c.toNat < 128) : (py s).all PyChar.isAscii = true := by
  apply List.all_eq_true.mpr
  intro c hc
  obtain ⟨d, hd, rfl⟩ := List.mem_map.mp hc
  exact decide_eq_true (h d hd)

theorem splitDot_append {body rest : PyStr} (h : PyChar.scalar '.' ∉ body) :
    splitDot (body ++ .scalar '.' :: rest) = some (body, rest) := by
  induction body with
  | nil => exact if_pos rfl
  | cons c body ih =>
    rw [List.mem_cons, not_or] at h
    rw [List.cons_append, splitDot, if_neg (Ne.symm h.1), ih h.2]
    rfl

theorem splitDot_some {token body rest : PyStr} (h : splitDot token = some (body, rest)) :
    token = body ++ .scalar '.' :: rest ∧ PyChar.scalar '.' ∉ body := by
  induction token generalizing body with
  | nil => cases h
  | cons c token ih =>
    unfold splitDot at h
    split_ifs at h with hc
    · cases h
      exact ⟨by rw [hc]; rfl, List.not_mem_nil⟩
    · obtain ⟨⟨body', rest'⟩, hsplit, heq⟩ := Option.map_eq_some_iff.mp h
      cases heq
      obtain ⟨rfl, hdot⟩ := ih hsplit
      exact ⟨rfl, List.not_mem_cons_of_ne_of_not_mem (Ne.symm hc) hdot⟩

/-! ## Bodies -/

theorem Claims.body_toList (c : Claims) : c.body.toList = Base64.strip (Base64.encode (utf8 c.text)) := by
  unfold Claims.body
  rw [String.toList_ofList]

theorem Claims.body_plain (c : Claims) : '.' ∉ c.body.toList := by
  rw [c.body_toList]
  intro hdot
  obtain ⟨n, hn, heq⟩ := Base64.strip_encode_digits _ _ hdot
  exact Base64.digit_ne_dot hn heq.symm

/-- A body is decoded to the claims it was made of. -/
theorem urlsafeB64decode_body (c : Claims) : urlsafeB64decode (String.ofList (Base64.repad c.body.toList)) = .ok (utf8 c.text) := by
  have hascii : ∀ d ∈ Base64.repad c.body.toList, d.toNat < 128 := by
    intro d hd
    rcases List.mem_append.mp hd with hd | hd
    · rw [c.body_toList] at hd
      obtain ⟨n, hn, rfl⟩ := Base64.strip_encode_digits _ _ hd
      exact Base64.digit_ascii hn
    · rw [List.eq_of_mem_replicate hd]
      decide
  unfold urlsafeB64decode
  rw [String.toList_ofList, if_pos (List.all_eq_true.mpr fun d hd => decide_eq_true (hascii d hd)), c.body_toList,
    Base64.decode?_repad]
  rfl

section

variable {env : Signer}

theorem py_signed (body : String) : py (signed env body) = py body ++ .scalar '.' :: py (env.hmacHex env.secret body) := by
  unfold signed
  rw [py_append, py_append, List.append_assoc]
  rfl

theorem signed_injective {body body' : String} (h : '.' ∉ body.toList) (h' : '.' ∉ body'.toList)
    (heq : signed env body = signed env body') : body = body' := by
  have hpy := congrArg py heq
  rw [py_signed, py_signed] at hpy
  exact py_injective (Digits.cut_first (fun hdot => h (dot_mem_py.mp hdot)) (fun hdot => h' (dot_mem_py.mp hdot)) hpy).1

/-- What passes the `try` is a body with its own signature, and claims that pass the comparison. -/
theorem readToken_eq_ok {token : PyStr} {draft : PreviewDraft} {merchantId : Nat} {now : Time}
    (h : readToken env token draft merchantId now = .ok ()) :
    ∃ body bytes claims, '.' ∉ body.toList ∧ token = py (signed env body) ∧
      urlsafeB64decode (String.ofList (Base64.repad body.toList)) = .ok bytes ∧ env.jsonLoads bytes = .ok claims ∧
      checkClaims env claims draft merchantId now = .ok () := by
  unfold readToken at h
  obtain ⟨⟨body, signature⟩, hsplit, h⟩ := Raise.bind_eq_ok.mp h
  obtain ⟨text, htext, h⟩ := Raise.bind_eq_ok.mp h
  obtain ⟨same, hsame, h⟩ := Raise.bind_eq_ok.mp h
  obtain ⟨⟨⟩, hraise, h⟩ := Raise.bind_eq_ok.mp h
  obtain ⟨bytes, hbytes, h⟩ := Raise.bind_eq_ok.mp h
  obtain ⟨claims, hclaims, hcheck⟩ := Raise.bind_eq_ok.mp h
  obtain ⟨htoken, hdot⟩ := splitDot_some (Raise.orRaise_eq_ok.mp hsplit)
  have hbody := eq_py_of_encodable (Raise.orRaise_eq_ok.mp htext)
  have hsignature : signature = py (env.hmacHex env.secret text) := by
    unfold compareDigest at hsame
    split_ifs at hsame
    cases hsame
    exact of_decide_eq_true (Bool.eq_true_of_not_eq_false (Raise.raiseIf_eq_ok.mp hraise))
  rw [hbody] at hdot htoken
  refine ⟨text, bytes, claims, fun h => hdot (dot_mem_py.mpr h), ?_, hbytes, hclaims, hcheck⟩
  rw [py_signed, htoken, hsignature]

/-- A body with its own signature comes to the decoding of the body. -/
theorem readToken_signed (hlaws : env.Lawful) {body : String} (hdot : '.' ∉ body.toList) (draft : PreviewDraft) (merchantId : Nat)
    (now : Time) :
    readToken env (py (signed env body)) draft merchantId now =
      (urlsafeB64decode (String.ofList (Base64.repad body.toList)) >>= fun bytes =>
        env.jsonLoads bytes >>= fun claims => checkClaims env claims draft merchantId now) := by
  have hascii := isAscii_py (hlaws.hmacAscii env.secret body)
  have hsame : compareDigest (py (env.hmacHex env.secret body)) (py (env.hmacHex env.secret body)) = .ok true := by
    unfold compareDigest
    rw [hascii, Bool.and_self, if_pos rfl, decide_eq_true rfl]
  unfold readToken
  rw [py_signed, splitDot_append fun h => hdot (dot_mem_py.mp h)]
  show (Raise.orRaise (encodable (py body)) _ >>= _) = _
  rw [encodable_py]
  show (compareDigest (py (env.hmacHex env.secret body)) (py (env.hmacHex env.secret body)) >>= _) = _
  rw [hsame, Raise.ok_bind, Raise.raiseIf_neg (by decide), Raise.ok_bind]

/-- The comparison of claims that were issued. -/
theorem checkClaims_json (c : Claims) (draft : PreviewDraft) (merchantId : Nat) (now : Time) :
    checkClaims env c.json draft merchantId now =
      if c.merchantId = merchantId ∧ c.payloadHash = env.sha256Hex draft.canonical ∧ now / 1000 < c.expiresAt then .ok ()
      else .error .valueError := by
  have hmerchant : item c.json "merchant_id" = .ok (.int c.merchantId) := rfl
  have hpayload : item c.json "payload_hash" = .ok (.str c.payloadHash) := rfl
  have hexpires : item c.json "expires_at" = .ok (.int c.expiresAt) := rfl
  unfold checkClaims
  rw [hmerchant, hpayload, hexpires]
  simp only [Raise.ok_bind, equalsInt, equalsText, atMost, decide_eq_false_iff_not, decide_eq_true_eq, Nat.cast_inj, Nat.cast_le]
  by_cases hm : c.merchantId = merchantId
  · by_cases hp : c.payloadHash = env.sha256Hex draft.canonical
    · by_cases he : c.expiresAt ≤ now / 1000
      · rw [Raise.raiseIf_neg (not_not.mpr hm), Raise.raiseIf_neg (not_not.mpr hp), Raise.raiseIf_pos he,
          if_neg fun h => absurd h.2.2 (not_lt.mpr he)]
        rfl
      · rw [Raise.raiseIf_neg (not_not.mpr hm), Raise.raiseIf_neg (not_not.mpr hp), Raise.raiseIf_neg he,
          if_pos ⟨hm, hp, not_le.mp he⟩]
        rfl
    · rw [Raise.raiseIf_neg (not_not.mpr hm), Raise.raiseIf_pos hp, if_neg fun h => hp h.2.1]
      rfl
  · rw [Raise.raiseIf_pos hm, if_neg fun h => hm h.1]
    rfl

/-- A signed body of claims is judged by the claims. -/
theorem readToken_claims (hlaws : env.Lawful) (c : Claims) (draft : PreviewDraft) (merchantId : Nat) (now : Time) :
    readToken env (py (signed env c.body)) draft merchantId now =
      if c.merchantId = merchantId ∧ c.payloadHash = env.sha256Hex draft.canonical ∧ now / 1000 < c.expiresAt then .ok ()
      else .error .valueError := by
  rw [readToken_signed hlaws c.body_plain, urlsafeB64decode_body, Raise.ok_bind, hlaws.loads, Raise.ok_bind, checkClaims_json]

theorem Claims.eq_of_body (hlaws : env.Lawful) {c c' : Claims} (h : c.body = c'.body) : c = c' := by
  have hbytes := urlsafeB64decode_body c
  rw [h, urlsafeB64decode_body c'] at hbytes
  have hjson := hlaws.loads c'
  rw [Except.ok.inj hbytes, hlaws.loads c] at hjson
  have hobject := Except.ok.inj hjson
  obtain ⟨merchantId, payloadHash, expiresAt, nonce⟩ := c
  obtain ⟨merchantId', payloadHash', expiresAt', nonce'⟩ := c'
  simp only [Claims.json, Json.obj.injEq, List.cons.injEq, Prod.mk.injEq, Json.int.injEq, Json.str.injEq, Nat.cast_inj, true_and,
    and_true] at hobject
  obtain ⟨rfl, rfl, rfl, rfl⟩ := hobject
  rfl

/-! ## Unforged tokens -/

/-- What the secret signs: the body of a preview's claims, or the header and the payload of an access token. -/
inductive Signing where
  | preview (merchantId : Nat) (draft : PreviewDraft) (now : Time) (nonce : String)
  | access (header payload : String)
  deriving DecidableEq

variable (env) in
def Signing.message : Signing → String
  | .preview merchantId draft now nonce => (previewClaims env draft merchantId now nonce).body
  | .access header payload => header ++ "." ++ payload

variable (env) in
/-- A token whose signature is that of its body has a body that was signed. -/
def Unforged (signings : List Signing) (token : PyStr) : Prop :=
  ∀ body text, splitDot token = some (body, py (env.hmacHex env.secret text)) → encodable body = some text →
    ∃ s ∈ signings, s.message env = text

/-- What was issued is not forged. -/
theorem unforged_issued {signings : List Signing} {merchantId : Nat} {draft : PreviewDraft} {now : Time} {nonce : String}
    (h : Signing.preview merchantId draft now nonce ∈ signings) :
    Unforged env signings (py (issuePreviewToken env draft merchantId now nonce)) := by
  intro body text hsplit htext
  unfold issuePreviewToken at hsplit
  rw [py_signed, splitDot_append fun h => Claims.body_plain _ (dot_mem_py.mp h)] at hsplit
  have hbody := congrArg Prod.fst (Option.some.inj hsplit)
  dsimp only at hbody
  rw [← hbody, encodable_py] at htext
  exact ⟨_, h, Option.some.inj htext⟩

/-- The token of a draft of this merchant, which was previewed and has not expired. -/
structure Issued (env : Signer) (signings : List Signing) (token : PyStr) (draft : PreviewDraft) (merchantId : Nat) (now : Time) :
    Prop where
  signing : ∃ previewed issuedAt nonce, Signing.preview merchantId previewed issuedAt nonce ∈ signings ∧
    token = py (issuePreviewToken env previewed merchantId issuedAt nonce) ∧ previewed.canonical = draft.canonical ∧
    now / 1000 < (issuedAt + previewTtl) / 1000

theorem Issued.later {signings signings' : List Signing} {token : PyStr} {draft : PreviewDraft} {merchantId : Nat} {now : Time}
    (h : Issued env signings token draft merchantId now) (hgrown : ∀ s ∈ signings, s ∈ signings') :
    Issued env signings' token draft merchantId now := by
  obtain ⟨previewed, issuedAt, nonce, hmem, hrest⟩ := h.signing
  exact ⟨previewed, issuedAt, nonce, hgrown _ hmem, hrest⟩

/-- A body without a dot that was signed is that of a preview. -/
theorem preview_of_message {s : Signing} {body : String} (h : s.message env = body) (hdot : '.' ∉ body.toList) :
    ∃ merchantId draft now nonce, s = .preview merchantId draft now nonce ∧
      body = (previewClaims env draft merchantId now nonce).body := by
  cases s with
  | preview merchantId draft now nonce => exact ⟨merchantId, draft, now, nonce, rfl, h.symm⟩
  | access header payload =>
    refine absurd ?_ hdot
    rw [← h, Signing.message, String.toList_append, String.toList_append]
    simp

/-- An unforged token that is a body with its signature was made of claims. -/
theorem claims_of_unforged {signings : List Signing} {body : String} (hdot : '.' ∉ body.toList)
    (h : Unforged env signings (py (signed env body))) :
    ∃ merchantId draft now nonce, Signing.preview merchantId draft now nonce ∈ signings ∧
      body = (previewClaims env draft merchantId now nonce).body := by
  have hsplit : splitDot (py (signed env body)) = some (py body, py (env.hmacHex env.secret body)) := by
    rw [py_signed, splitDot_append fun h => hdot (dot_mem_py.mp h)]
  obtain ⟨s, hs, hmessage⟩ := h _ _ hsplit (encodable_py body)
  obtain ⟨merchantId, draft, now, nonce, rfl, hbody⟩ := preview_of_message hmessage hdot
  exact ⟨merchantId, draft, now, nonce, hs, hbody⟩

theorem verify_eq_ok {token : PyStr} {draft : PreviewDraft} {merchantId : Nat} {now : Time} {digest : String}
    (h : verifyPreviewToken env token draft merchantId now = .ok digest) :
    readToken env token draft merchantId now = .ok () ∧ ∃ text, token = py text ∧ digest = env.sha256Hex text := by
  unfold verifyPreviewToken at h
  split at h
  · cases h
  · cases h
  · split at h
    · cases h
    · rename_i hread _ text htext
      exact ⟨hread, text, eq_py_of_encodable htext, (Except.ok.inj h).symm⟩

theorem verify_of_read {token : PyStr} {draft : PreviewDraft} {merchantId : Nat} {now : Time} {text : String}
    (hread : readToken env token draft merchantId now = .ok ()) (htext : token = py text) :
    verifyPreviewToken env token draft merchantId now = .ok (env.sha256Hex text) := by
  have hencoded : encodable token = some text := by rw [htext, encodable_py]
  unfold verifyPreviewToken
  rw [hread]
  dsimp only
  rw [hencoded]

/-- What is accepted was issued by a preview, for this merchant and for a draft with this canonical form, and has not expired. -/
theorem issued_of_verify (hlaws : env.Lawful) {signings : List Signing} {token : PyStr} {draft : PreviewDraft} {merchantId : Nat}
    {now : Time} {digest : String} (hunforged : Unforged env signings token)
    (h : verifyPreviewToken env token draft merchantId now = .ok digest) : Issued env signings token draft merchantId now := by
  have hread := (verify_eq_ok h).1
  obtain ⟨body, -, -, hdot, rfl, -⟩ := readToken_eq_ok hread
  obtain ⟨m, previewed, issuedAt, nonce, hmem, rfl⟩ := claims_of_unforged hdot hunforged
  rw [readToken_claims hlaws] at hread
  split_ifs at hread with hclaims
  obtain ⟨rfl, hpayload, hexpires⟩ := hclaims
  exact ⟨previewed, issuedAt, nonce, hmem, rfl, hlaws.sha256 hpayload, hexpires⟩

/-- What was issued is accepted, until it expires. -/
theorem verify_issued (hlaws : env.Lawful) {previewed draft : PreviewDraft} (hcanonical : previewed.canonical = draft.canonical)
    (merchantId : Nat) {issuedAt now : Time} (hexpires : now / 1000 < (issuedAt + previewTtl) / 1000) (nonce : String) :
    verifyPreviewToken env (py (issuePreviewToken env previewed merchantId issuedAt nonce)) draft merchantId now =
      .ok (env.sha256Hex (issuePreviewToken env previewed merchantId issuedAt nonce)) := by
  have hread : readToken env (py (issuePreviewToken env previewed merchantId issuedAt nonce)) draft merchantId now = .ok () := by
    unfold issuePreviewToken
    rw [readToken_claims hlaws, if_pos ⟨rfl, congrArg env.sha256Hex hcanonical, hexpires⟩]
  exact verify_of_read hread rfl

/-- What the `try` raises of an unforged token is caught. -/
theorem readToken_caught (hlaws : env.Lawful) {signings : List Signing} {token : PyStr} (hunforged : Unforged env signings token)
    (draft : PreviewDraft) (merchantId : Nat) (now : Time) : readToken env token draft merchantId now ≠ .error .other := by
  intro hother
  have hread := hother
  unfold readToken at hread
  cases hsplit : splitDot token with
  | none =>
    rw [hsplit] at hread
    cases hread
  | some parts =>
    obtain ⟨body, signature⟩ := parts
    obtain ⟨htoken, hdot⟩ := splitDot_some hsplit
    rw [hsplit] at hread
    cases htext : encodable body with
    | none =>
      simp only [Raise.orRaise, Raise.ok_bind, htext] at hread
      cases hread
    | some text =>
      simp only [Raise.orRaise, Raise.ok_bind, htext] at hread
      unfold compareDigest at hread
      split_ifs at hread
      · by_cases hsame : signature = py (env.hmacHex env.secret text)
        · -- the signature is right, so the body was made of claims
          have hsigned : token = py (signed env text) := by
            rw [py_signed, htoken, hsame, eq_py_of_encodable htext]
          have hplain : '.' ∉ text.toList := by
            rw [eq_py_of_encodable htext] at hdot
            exact fun h => hdot (dot_mem_py.mpr h)
          rw [hsigned] at hunforged hother
          obtain ⟨m, previewed, issuedAt, nonce, -, rfl⟩ := claims_of_unforged hplain hunforged
          rw [readToken_claims hlaws] at hother
          split_ifs at hother
          cases hother
        · rw [decide_eq_false hsame] at hread
          cases hread
      · cases hread

/-- Whatever the string is, it is accepted or the preview is asked for. -/
theorem verify_total (hlaws : env.Lawful) {signings : List Signing} {token : PyStr} (hunforged : Unforged env signings token)
    (draft : PreviewDraft) (merchantId : Nat) (now : Time) :
    (∃ digest, verifyPreviewToken env token draft merchantId now = .ok digest) ∨
      verifyPreviewToken env token draft merchantId now =
        .error { kind := .promotionPreviewRequired, message := "preview this exact offer before creating it" } := by
  have hcaught := readToken_caught hlaws hunforged draft merchantId now
  unfold verifyPreviewToken
  split
  · rename_i hother
    exact absurd hother hcaught
  · exact .inr rfl
  · rename_i hread
    obtain ⟨body, -, -, -, htoken, -⟩ := readToken_eq_ok hread
    have hencoded : encodable token = some (signed env body) := by rw [htoken, encodable_py]
    rw [hencoded]
    exact .inl ⟨_, rfl⟩

/-- One token is of one merchant. -/
theorem merchant_of_issue (hlaws : env.Lawful) {draft draft' : PreviewDraft} {merchantId merchantId' : Nat} {now now' : Time}
    {nonce nonce' : String} (h : issuePreviewToken env draft merchantId now nonce = issuePreviewToken env draft' merchantId' now' nonce') :
    merchantId = merchantId' := by
  have hbody := signed_injective (Claims.body_plain _) (Claims.body_plain _) h
  exact congrArg Claims.merchantId (Claims.eq_of_body hlaws hbody)

end

/-! ## A parser of claims -/

theorem Claims.text_toList (c : Claims) : c.text.toList = "\x7b\"expires_at\":".toList ++ (Digits.decimal c.expiresAt ++
    (",\"merchant_id\":".toList ++ (Digits.decimal c.merchantId ++ (",\"nonce\":\"".toList ++ (textCode c.nonce ++
      (",\"payload_hash\":\"".toList ++ (textCode c.payloadHash ++ ['\x7d']))))))) := by
  have hvalue : ∀ text : String, (jsonString text).toList = '"' :: textCode text := by
    intro text
    unfold jsonString
    rw [String.toList_ofList]
    rfl
  have hexpires : (jsonString "expires_at").toList = "\"expires_at\"".toList := by decide +kernel
  have hmerchant : (jsonString "merchant_id").toList = "\"merchant_id\"".toList := by decide +kernel
  have hnonce : (jsonString "nonce").toList = "\"nonce\"".toList := by decide +kernel
  have hpayload : (jsonString "payload_hash").toList = "\"payload_hash\"".toList := by decide +kernel
  unfold Claims.text jsonObject
  rw [String.toList_append, String.toList_append, String.toList_intercalate]
  simp [List.intercalate, hexpires, hmerchant, hnonce, hpayload, hvalue]

/-- The text of claims can be taken apart. -/
theorem Claims.text_injective : Function.Injective Claims.text := by
  intro c c' h
  have hlist := congrArg String.toList h
  rw [c.text_toList, c'.text_toList] at hlist
  obtain ⟨hexpires, h₁⟩ := Codes.cuts_decimal (Codes.endsDigits_append (by decide) _) (Codes.endsDigits_append (by decide) _)
    (List.append_cancel_left hlist)
  obtain ⟨hmerchant, h₂⟩ := Codes.cuts_decimal (Codes.endsDigits_append (by decide) _) (Codes.endsDigits_append (by decide) _)
    (List.append_cancel_left h₁)
  obtain ⟨hnonce, h₃⟩ := cuts_textCode trivial trivial (List.append_cancel_left h₂)
  obtain ⟨hpayload, -⟩ := cuts_textCode trivial trivial (List.append_cancel_left h₃)
  cases c
  cases c'
  dsimp only at hexpires hmerchant hnonce hpayload
  rw [hexpires, hmerchant, hnonce, hpayload]

open Classical in
/-- A parser that reads the texts of claims, and refuses all others. -/
noncomputable def loadsClaims (bytes : List UInt8) : Except PyError Json :=
  if h : ∃ c : Claims, utf8 c.text = bytes then .ok h.choose.json else .error .valueError

theorem loadsClaims_text (c : Claims) : loadsClaims (utf8 c.text) = .ok c.json := by
  have hexists : ∃ c' : Claims, utf8 c'.text = utf8 c.text := ⟨c, rfl⟩
  unfold loadsClaims
  rw [dif_pos hexists, Claims.text_injective (utf8_injective hexists.choose_spec)]

/-! ## Promotions and coupons -/

/-- The text of an object begins with its first key. -/
theorem jsonObject_cons (key value : String) (members : List (String × String)) :
    ∃ rest, (jsonObject ((key, value) :: members)).toList = '\x7b' :: (jsonString key).toList ++ ':' :: rest := by
  have hfirst : ∃ rest, (",".intercalate ((jsonString key ++ ":" ++ value) :: members.map fun m => jsonString m.1 ++ ":" ++ m.2)).toList =
      (jsonString key).toList ++ ':' :: rest := by
    rw [String.toList_intercalate]
    cases members with
    | nil => exact ⟨value.toList, by simp⟩
    | cons m members => exact ⟨_, by simp [List.intercalate]; rfl⟩
  obtain ⟨rest, hrest⟩ := hfirst
  refine ⟨rest ++ ['\x7d'], ?_⟩
  unfold jsonObject
  rw [String.toList_append, String.toList_append, List.map_cons, hrest]
  simp

/-- The canonical form of a promotion is none of a coupon. -/
theorem canonical_promotion_ne_coupon (draft : PromotionDraft) (coupon : CouponDraft) : draft.canonical ≠ coupon.canonical := by
  have hpromotion : ∃ rest, draft.canonical.toList = '\x7b' :: (jsonString "description").toList ++ ':' :: rest := by
    unfold PromotionDraft.canonical
    exact jsonObject_cons _ _ _
  have hcoupon : ∃ rest, coupon.canonical.toList = '\x7b' :: (jsonString "applicable_scope").toList ++ ':' :: rest := by
    unfold CouponDraft.canonical
    exact jsonObject_cons _ _ _
  have hdescription : (jsonString "description").toList = '"' :: 'd' :: "escription\"".toList := by decide +kernel
  have hscope : (jsonString "applicable_scope").toList = '"' :: 'a' :: "pplicable_scope\"".toList := by decide +kernel
  rw [hdescription] at hpromotion
  rw [hscope] at hcoupon
  obtain ⟨rest, hpromotion⟩ := hpromotion
  obtain ⟨rest', hcoupon⟩ := hcoupon
  intro h
  rw [h, hcoupon] at hpromotion
  simp at hpromotion

end NovaCommerce.Previews
