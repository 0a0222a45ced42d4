import NovaCommerce.Identity.Schema
import NovaCommerce.Lib.Refusals

/-!
# Bearer tokens

What the verifier makes of the claims of a token whose signature, issuer, audience and expiry are in order.

* `pyStr`, `pyInt` : `str` and `int` of a decoded value;
* `tokenResource`, `extractScopes`, `buildPrincipal` : how the claims are read;
* `verifyClaims`, `verifyToken` : the token that is accepted, `none` for one that is not;
* `verifyClaims_raises_iff` : an infinite merchant is the one claim that gets past the handlers;
* `Permuted` : claims whose lists are in another order. Only the audience is read by its position (`grant_permuted_iff`).
-/

namespace NovaCommerce.Mcp

open Identity (DataScope UserType)

/-! ## Values of the interpreter -/

/-- How the interpreter writes a string literal and a float. -/
structure PyRuntime where
  reprText : String → String
  reprFloat : JsonFloat → String

mutual

/-- `repr` of a decoded value. -/
def pyRepr (py : PyRuntime) : Json → String
  | .null => "None"
  | .bool value => if value then "True" else "False"
  | .int value => toString value
  | .float value => py.reprFloat value
  | .str value => py.reprText value
  | .arr items => "[" ++ ", ".intercalate (pyReprItems py items) ++ "]"
  | .obj fields => "\x7b" ++ ", ".intercalate (pyReprFields py fields) ++ "\x7d"

def pyReprItems (py : PyRuntime) : List Json → List String
  | [] => []
  | item :: items => pyRepr py item :: pyReprItems py items

def pyReprFields (py : PyRuntime) : List (String × Json) → List String
  | [] => []
  | (name, value) :: fields => (py.reprText name ++ ": " ++ pyRepr py value) :: pyReprFields py fields

end

/-- `str` of a decoded value. -/
def pyStr (py : PyRuntime) : Json → String
  | .str value => value
  | value => pyRepr py value

@[simp] theorem pyStr_str (py : PyRuntime) (value : String) : pyStr py (.str value) = value := rfl

/-- `bool` of a decoded value. -/
def truthy : Json → Bool
  | .null => false
  | .bool value => value
  | .int value => decide (value ≠ 0)
  | .float (.finite num _) => decide (num ≠ 0)
  | .float _ => true
  | .str value => decide (value ≠ "")
  | .arr items => !items.isEmpty
  | .obj fields => !fields.isEmpty

/-- `int` of a decoded value. -/
def pyInt : Json → Except ErrorKind Int
  | .bool value => .ok (if value then 1 else 0)
  | .int value => .ok value
  | .float (.finite num shift) => .ok (num.tdiv (2 ^ shift))
  | .float (.infinity _) => .error .overflow
  | .float .nan => .error .valueError
  | .str value =>
    match pyInt? value with
    | some n => .ok n
    | none => .error .valueError
  | .null | .arr _ | .obj _ => .error .typeError

/-- A claim, when it is there. -/
def claim? (claims : JsonObject) (name : String) : Option Json :=
    (claims.find? fun field => field.1 = name).map Prod.snd

/-- `claims.get(name, default)`. -/
def claimOr (claims : JsonObject) (name : String) (default : Json) : Json := (claim? claims name).getD default

theorem get_eq (claims : JsonObject) (name : String) : claims.get name = (claim? claims name).getD .null := rfl

/-! ## Scopes and resource -/

/-- `value.replace(",", " ").split()`. -/
def words (value : String) : List String :=
  (((value.toList.map fun c => if c = ',' then ' ' else c).splitOnP isSpace).filter fun word =>
    !word.isEmpty).map String.ofList

/-- `_as_scope_set`. -/
def asScopeSet (py : PyRuntime) : Json → List String
  | .str value => words value
  | .arr items => (items.map (pyStr py)).filter fun item => decide (strip item ≠ "")
  | _ => []

/-- `_SCOPE_CLAIMS`. -/
def scopeClaims : List String := ["scope", "scp"]

/-- `extract_scopes`: the scopes of all claims that carry some, each once. -/
def extractScopes (py : PyRuntime) (claims : JsonObject) : List String :=
  (scopeClaims.flatMap fun name => asScopeSet py (claims.get name)).dedup

/-- `_RESOURCE_CLAIMS`. -/
def resourceClaims : List String := ["resource", "aud"]

/-- The resource that a claim names: a text, or the first entry of a list. -/
def namedResource (py : PyRuntime) : Json → Option String
  | .str value => if value = "" then none else some value
  | .arr (item :: _) => some (pyStr py item)
  | _ => none

/-- `_token_resource`: by the first claim that names one. -/
def tokenResource (py : PyRuntime) (claims : JsonObject) : Option String :=
  resourceClaims.findSome? fun name => namedResource py (claims.get name)

/-- `value.rstrip("/")`. -/
def rstripSlash (value : String) : String := String.ofList (value.toList.reverse.dropWhile fun c => c = '/').reverse

/-! ## Principals -/

/-- Why claims describe no principal: an `InvalidTokenClaimsError`, or what no handler knows. -/
inductive ClaimsError where
  | invalid (message : String)
  | uncaught (kind : ErrorKind)
  deriving DecidableEq, Repr

/-- The caller that a token speaks of. -/
structure TokenPrincipal where
  userId : Int
  userType : UserType
  merchantId : Option Int
  roles : List String
  permissions : List String
  dataScope : DataScope
  sessionId : String
  isStaff : Bool
  deriving DecidableEq, Repr

def decodeSubject (py : PyRuntime) (subject : Json) : Except ClaimsError Int :=
  match subject with
  | .null => .error (.invalid "token carries no subject claim")
  | subject =>
    if strip (pyStr py subject) = "" then .error (.invalid "token carries no subject claim")
    else match pyInt? (pyStr py subject) with
      | some userId => .ok userId
      | none => .error (.invalid ("token subject " ++ pyRepr py subject ++ " is not a numeric user id"))

/-- `int(raw_merchant)`; a `TypeError` or a `ValueError` is handled. -/
def decodeMerchant (raw : Json) : Except ClaimsError (Option Int) :=
  match raw with
  | .null => .ok none
  | raw =>
    match pyInt raw with
    | .ok merchantId => .ok (some merchantId)
    | .error kind =>
      if kind = .typeError ∨ kind = .valueError then .error (.invalid "token merchant_id claim is malformed")
      else .error (.uncaught kind)

def parseUserType? (raw : String) : Option UserType := [UserType.consumer, .staff].find? fun userType =>
    userType.value = raw

def decodeUserType (py : PyRuntime) (raw : Json) : Except ClaimsError UserType :=
  match parseUserType? (pyStr py raw) with
  | some userType => .ok userType
  | none => .error (.invalid ("token user_type " ++ py.reprText (pyStr py raw) ++ " is not a known user type"))

/-- A claim that is a list, or absent. -/
def decodeList (name : String) (raw : Json) : Except ClaimsError (List Json) :=
  if truthy raw = false then .ok []
  else match raw with
    | .arr items => .ok items
    | _ => .error (.invalid ("token " ++ name ++ " claim is malformed"))

/-- `_decode_data_scope`. -/
def decodeDataScope (py : PyRuntime) (raw : Json) : Except ClaimsError DataScope :=
  match raw with
  | .null => .error (.invalid "token carries no data_scope claim")
  | raw =>
    match DataScope.parse? (pyStr py raw) with
    | some scope => .ok scope
    | none => .error (.invalid ("token data_scope " ++ pyRepr py raw ++ " is not a known scope"))

/-- `build_principal`. -/
def buildPrincipal (py : PyRuntime) (claims : JsonObject) : Except ClaimsError TokenPrincipal := do
  let userId ← decodeSubject py (claims.get "sub")
  let merchantId ← decodeMerchant (claims.get "merchant_id")
  let userType ← decodeUserType py (claimOr claims "user_type" (.str UserType.consumer.value))
  let roles ← decodeList "roles" (claims.get "roles")
  let permissions ← decodeList "permissions" (claims.get "permissions")
  let dataScope ← decodeDataScope py (claims.get "data_scope")
  return {
    userId
    userType
    merchantId
    roles := roles.map (pyStr py)
    permissions := (permissions.map (pyStr py)).dedup
    dataScope
    sessionId := pyStr py (claimOr claims "sid" (.str ""))
    isStaff := decide (userType = .staff) }

/-! ## Verification -/

/-- The settings that the verifier reads. -/
structure McpSettings where
  resourceServerUrl : String := "http://127.0.0.1:8020/mcp"
  requiredScopes : List String := ["nova.read"]
  hasKeyMaterial : Bool := true

/-- `_resource_server_url`, the configured audience. -/
def McpSettings.audience (settings : McpSettings) : String := rstripSlash settings.resourceServerUrl

/-- An accepted token, as `AccessToken` holds it. -/
structure VerifiedToken where
  token : String
  clientId : String
  scopes : List String
  expiresAt : Option Int
  resource : String
  subject : String
  issuer : Json
  principal : TokenPrincipal

/-- `int(expires_at)`, when there is one. -/
def decodeExpiry (raw : Json) : Except ErrorKind (Option Int) :=
  match raw with
  | .null => .ok none
  | raw => (pyInt raw).map some

/-- The part of `verify_token` behind the signature: `none` for a token that is rejected. -/
def verifyClaims (py : PyRuntime) (settings : McpSettings) (token : String) (claims : JsonObject) :
    Except ErrorKind (Option VerifiedToken) :=
  match tokenResource py claims with
  | none => .ok none
  | some resource =>
    if rstripSlash resource ≠ settings.audience then .ok none
    else if ∃ scope ∈ settings.requiredScopes, scope ∉ extractScopes py claims then .ok none
    else match buildPrincipal py claims with
      | .error (.invalid _) => .ok none
      | .error (.uncaught kind) => .error kind
      | .ok principal => do
        let expiresAt ← decodeExpiry (claims.get "exp")
        return some {
          token
          clientId := if principal.sessionId = "" then toString principal.userId else principal.sessionId
          scopes := (extractScopes py claims).insertionSort fun a b => a ≤ b
          expiresAt
          resource
          subject := pyStr py (claims.get "sub")
          issuer := claims.get "iss"
          principal }

/-- `verify_token`; `decode` is what the JWT library makes of a token with the configured key, issuer and audience. -/
def verifyToken (py : PyRuntime) (settings : McpSettings) (decode : String → Option JsonObject) (token : String) :
    Except ErrorKind (Option VerifiedToken) :=
  if strip token = "" then .ok none
  else if settings.hasKeyMaterial = false then .ok none
  else match decode token with
    | none => .ok none
    | some claims => verifyClaims py settings token claims

/-! ## What is raised -/

/-- A handled refusal. -/
def ClaimsError.Handled (x : ClaimsError) : Prop := ∃ message, x = .invalid message

theorem only_decodeSubject (py : PyRuntime) (subject : Json) : Raise.Only ClaimsError.Handled
    (decodeSubject py subject) := by
  unfold decodeSubject
  split
  · exact Raise.only_error ⟨_, rfl⟩
  · split_ifs
    · exact Raise.only_error ⟨_, rfl⟩
    · split
      · exact Raise.only_ok _
      · exact Raise.only_error ⟨_, rfl⟩

theorem only_decodeUserType (py : PyRuntime) (raw : Json) : Raise.Only ClaimsError.Handled
    (decodeUserType py raw) := by
  unfold decodeUserType
  split
  · exact Raise.only_ok _
  · exact Raise.only_error ⟨_, rfl⟩

theorem only_decodeList (name : String) (raw : Json) : Raise.Only ClaimsError.Handled (decodeList name raw) := by
  unfold decodeList
  split_ifs
  · exact Raise.only_ok _
  · split
    · exact Raise.only_ok _
    · exact Raise.only_error ⟨_, rfl⟩

theorem only_decodeDataScope (py : PyRuntime) (raw : Json) : Raise.Only ClaimsError.Handled
    (decodeDataScope py raw) := by
  unfold decodeDataScope
  split
  · exact Raise.only_error ⟨_, rfl⟩
  · split
    · exact Raise.only_ok _
    · exact Raise.only_error ⟨_, rfl⟩

/-- `int` overflows on an infinity, and only there. -/
theorem pyInt_overflow {raw : Json} : pyInt raw = .error .overflow ↔ ∃ negative,
    raw = .float (.infinity negative) := by
  constructor
  · intro h
    unfold pyInt at h
    split at h
    case h_4 negative => exact ⟨negative, rfl⟩
    case h_6 => split at h <;> cases h
    all_goals cases h
  · rintro ⟨negative, rfl⟩
    rfl

/-- Whatever else `int` raises is handled. -/
theorem only_pyInt (raw : Json) : Raise.Only (fun kind => kind = .overflow ∨ kind = .typeError ∨ kind = .valueError)
    (pyInt raw) := by
  unfold pyInt
  split
  case h_6 =>
    split
    · exact Raise.only_ok _
    · exact Raise.only_error (.inr (.inr rfl))
  case h_4 => exact Raise.only_error (.inl rfl)
  case h_5 => exact Raise.only_error (.inr (.inr rfl))
  all_goals first | exact Raise.only_ok _ | exact Raise.only_error (.inr (.inl rfl))

theorem decodeMerchant_uncaught {raw : Json} {kind : ErrorKind} :
    decodeMerchant raw = .error (.uncaught kind) ↔ kind = .overflow ∧ ∃ negative,
      raw = .float (.infinity negative) := by
  constructor
  · intro h
    unfold decodeMerchant at h
    split at h
    · cases h
    · cases hint : pyInt raw with
      | ok merchantId =>
        rw [hint] at h
        cases h
      | error kind' =>
        rw [hint] at h
        dsimp only at h
        split_ifs at h with hcaught
        · cases h
        · cases h
          rcases only_pyInt raw _ hint with rfl | hkind
          · exact ⟨rfl, pyInt_overflow.mp hint⟩
          · exact absurd hkind hcaught
  · rintro ⟨rfl, negative, rfl⟩
    rfl

/-- Claims get past the handlers exactly by an infinite merchant behind a readable subject. -/
theorem buildPrincipal_uncaught {py : PyRuntime} {claims : JsonObject} {kind : ErrorKind} :
    buildPrincipal py claims = .error (.uncaught kind) ↔
      (∃ userId, decodeSubject py (claims.get "sub") = .ok userId) ∧
      kind = .overflow ∧ ∃ negative, claims.get "merchant_id" = .float (.infinity negative) := by
  rw [← decodeMerchant_uncaught]
  unfold buildPrincipal
  cases hsubject : decodeSubject py (claims.get "sub") with
  | error x =>
    obtain ⟨message, rfl⟩ := only_decodeSubject py _ x hsubject
    constructor
    · intro h
      cases h
    · rintro ⟨⟨userId, h⟩, -⟩
      cases h
  | ok userId =>
    cases hmerchant : decodeMerchant (claims.get "merchant_id") with
    | error x =>
      constructor
      · intro h
        cases h
        exact ⟨⟨userId, rfl⟩, rfl⟩
      · rintro ⟨-, h⟩
        cases h
        rfl
    | ok merchantId =>
      refine iff_of_false (fun h => ?_) fun h => nomatch h.2
      -- what is read behind the merchant is refused by an error that is handled
      have hrest : Raise.Only ClaimsError.Handled (do
          let userType ← decodeUserType py (claimOr claims "user_type" (.str UserType.consumer.value))
          let roles ← decodeList "roles" (claims.get "roles")
          let permissions ← decodeList "permissions" (claims.get "permissions")
          let dataScope ← decodeDataScope py (claims.get "data_scope")
          return {
            userId
            userType
            merchantId
            roles := roles.map (pyStr py)
            permissions := (permissions.map (pyStr py)).dedup
            dataScope
            sessionId := pyStr py (claimOr claims "sid" (.str ""))
            isStaff := decide (userType = .staff) } : Except ClaimsError TokenPrincipal) :=
        (only_decodeUserType py _).bind fun _ _ => (only_decodeList "roles" _).bind fun _ _ =>
          (only_decodeList "permissions" _).bind fun _ _ => (only_decodeDataScope py _).bind fun _ _ =>
            Raise.only_pure _
      obtain ⟨message, hmessage⟩ := hrest _ h
      cases hmessage

theorem decodeSubject_ok {py : PyRuntime} {subject : Json} :
    (∃ userId, decodeSubject py subject = .ok userId) ↔
      strip (pyStr py subject) ≠ "" ∧ ∃ userId, pyInt? (pyStr py subject) = some userId := by
  unfold decodeSubject
  split
  · refine iff_of_false (fun ⟨_, h⟩ => nomatch h) ?_
    rintro ⟨-, userId, h⟩
    have hnone : pyInt? "None" = none := by decide
    exact absurd (hnone.symm.trans h) (nomatch ·)
  · split_ifs with hblank
    · exact iff_of_false (fun ⟨_, h⟩ => nomatch h) fun h => h.1 hblank
    · cases hint : pyInt? (pyStr py subject) with
      | none =>
        refine iff_of_false (fun ⟨_, h⟩ => nomatch h) ?_
        rintro ⟨-, userId, h⟩
        cases h
      | some userId => exact iff_of_true ⟨userId, rfl⟩ ⟨hblank, userId, rfl⟩

/-! ## What is accepted -/

/-- The resource that the token names is this server. -/
def Addressed (py : PyRuntime) (settings : McpSettings) (claims : JsonObject) : Prop :=
  ∃ resource, tokenResource py claims = some resource ∧ rstripSlash resource = settings.audience

/-- The token carries every base scope. -/
def Scoped (py : PyRuntime) (settings : McpSettings) (claims : JsonObject) : Prop :=
  ∀ scope ∈ settings.requiredScopes, scope ∈ extractScopes py claims

section

variable (py : PyRuntime) (settings : McpSettings) (token : String) {claims : JsonObject}

theorem verifyClaims_rejected (h : ¬ (Addressed py settings claims ∧ Scoped py settings claims)) :
    verifyClaims py settings token claims = .ok none := by
  unfold verifyClaims
  cases hresource : tokenResource py claims with
  | none => rfl
  | some resource =>
    dsimp only
    split_ifs with hother hmissing
    · rfl
    · rfl
    · refine absurd ⟨⟨resource, hresource, not_not.mp hother⟩, fun scope hscope => ?_⟩ h
      by_contra hnot
      exact hmissing ⟨scope, hscope, hnot⟩

/-- An addressed and scoped token is decided by its principal. -/
theorem verifyClaims_read {n : Option Int} (hexp : decodeExpiry (claims.get "exp") = .ok n)
    (ha : Addressed py settings claims)
    (hs : Scoped py settings claims) :
    (∀ message, buildPrincipal py claims = .error (.invalid message) → verifyClaims py settings token claims =
      .ok none) ∧
    (∀ kind, buildPrincipal py claims = .error (.uncaught kind) → verifyClaims py settings token claims =
      .error kind) ∧
    ∀ principal, buildPrincipal py claims = .ok principal → ∃ accepted, verifyClaims py settings token claims = .ok
      (some accepted) ∧
      accepted.principal = principal ∧ accepted.scopes = (extractScopes py claims).insertionSort fun a b =>
        a ≤ b := by
  obtain ⟨resource, hresource, hthis⟩ := ha
  have hscoped : ¬ ∃ scope ∈ settings.requiredScopes, scope ∉ extractScopes py claims := by
    rintro ⟨scope, hscope, hnot⟩
    exact hnot (hs scope hscope)
  unfold verifyClaims
  rw [hresource]
  dsimp only
  rw [if_neg (not_not.mpr hthis), if_neg hscoped]
  refine ⟨fun message h => ?_, fun kind h => ?_, fun principal h => ?_⟩
  · rw [h]
  · rw [h]
  · rw [h, hexp]
    exact ⟨_, rfl, rfl, rfl⟩

/-- When a token raises. -/
theorem verifyClaims_raises_iff {n : Option Int} (hexp : decodeExpiry (claims.get "exp") = .ok n) :
    (∃ kind, verifyClaims py settings token claims = .error kind) ↔
      Addressed py settings claims ∧ Scoped py settings claims ∧
        (strip (pyStr py (claims.get "sub")) ≠ "" ∧ ∃ userId, pyInt? (pyStr py (claims.get "sub")) = some userId) ∧
        ∃ negative, claims.get "merchant_id" = .float (.infinity negative) := by
  rw [← decodeSubject_ok]
  by_cases hread : Addressed py settings claims ∧ Scoped py settings claims
  · obtain ⟨ha, hs⟩ := hread
    obtain ⟨hinvalid, huncaught, haccepted⟩ := verifyClaims_read py settings token hexp ha hs
    constructor
    · rintro ⟨kind, h⟩
      cases hprincipal : buildPrincipal py claims with
      | ok principal =>
        obtain ⟨accepted, hok, -⟩ := haccepted principal hprincipal
        rw [hok] at h
        cases h
      | error x =>
        cases x with
        | invalid message =>
          rw [hinvalid message hprincipal] at h
          cases h
        | uncaught kind' =>
          obtain ⟨hsubject, -, hmerchant⟩ := buildPrincipal_uncaught.mp hprincipal
          exact ⟨ha, hs, hsubject, hmerchant⟩
    · rintro ⟨-, -, hsubject, hmerchant⟩
      exact ⟨.overflow, huncaught .overflow (buildPrincipal_uncaught.mpr ⟨hsubject, rfl, hmerchant⟩)⟩
  · rw [verifyClaims_rejected py settings token hread]
    refine iff_of_false (fun ⟨_, h⟩ => nomatch h) fun h => hread ⟨h.1, h.2.1⟩

end

/-! ## Lists in another order -/

/-- The claims that list audiences or scopes. -/
def listClaims : List String := ["aud", "scope", "scp"]

/-- The same claims, with audiences and scopes listed in another order. -/
def Permuted (claims claims' : JsonObject) : Prop :=
  ∀ name, claim? claims' name = claim? claims name ∨ (name ∈ listClaims ∧ ∃ items items',
    claim? claims name = some (.arr items) ∧ claim? claims' name = some (.arr items') ∧ items'.Perm items)

/-- What a token allows: its principal and its scopes, when it is accepted. -/
def grant : Except ErrorKind (Option VerifiedToken) → Option (TokenPrincipal × List String)
  | .ok (some accepted) => some (accepted.principal, accepted.scopes)
  | _ => none

theorem Permuted.claim?_eq {claims claims' : JsonObject} (h : Permuted claims claims') {name : String}
    (hname : name ∉ listClaims) :
    claim? claims' name = claim? claims name := (h name).resolve_right fun hlist => hname hlist.1

theorem Permuted.get_eq {claims claims' : JsonObject} (h : Permuted claims claims') {name : String}
    (hname : name ∉ listClaims) :
    claims'.get name = claims.get name := by
  rw [Mcp.get_eq, Mcp.get_eq, h.claim?_eq hname]

theorem Permuted.principal {claims claims' : JsonObject} (h : Permuted claims claims') (py : PyRuntime) :
    buildPrincipal py claims' = buildPrincipal py claims := by
  unfold buildPrincipal claimOr
  rw [h.get_eq (show "sub" ∉ listClaims by decide), h.get_eq (show "merchant_id" ∉ listClaims by decide),
    h.claim?_eq (show "user_type" ∉ listClaims by decide), h.get_eq (show "roles" ∉ listClaims by decide),
    h.get_eq (show "permissions" ∉ listClaims by decide), h.get_eq (show "data_scope" ∉ listClaims by decide),
    h.claim?_eq (show "sid" ∉ listClaims by decide)]

/-- Scopes are read as a set. -/
theorem Permuted.scopes {claims claims' : JsonObject} (h : Permuted claims claims') (py : PyRuntime) :
    (extractScopes py claims').Perm (extractScopes py claims) := by
  have hmem : ∀ (name scope : String), scope ∈ asScopeSet py (claims'.get name) ↔ scope ∈ asScopeSet py
    (claims.get name) := by
    intro name scope
    rw [Mcp.get_eq, Mcp.get_eq]
    rcases h name with heq | ⟨-, items, items', hitems, hitems', hperm⟩
    · rw [heq]
    · rw [hitems, hitems']
      exact ((hperm.map (pyStr py)).filter _).mem_iff
  unfold extractScopes
  refine (List.perm_ext_iff_of_nodup (List.nodup_dedup _) (List.nodup_dedup _)).mpr fun scope => ?_
  simp only [List.mem_dedup, List.mem_flatMap, hmem]

/-- Sorted, they are the same list. -/
theorem Permuted.sorted {claims claims' : JsonObject} (h : Permuted claims claims') (py : PyRuntime) :
    (extractScopes py claims').insertionSort (fun a b => a ≤ b) = (extractScopes py claims).insertionSort fun a b =>
      a ≤ b :=
  (((List.perm_insertionSort _ _).trans (h.scopes py)).trans (List.perm_insertionSort _ _).symm).eq_of_pairwise'
    (List.pairwise_insertionSort _ _) (List.pairwise_insertionSort _ _)

/-- When only scopes are listed in another order, nothing changes. -/
theorem verifyClaims_scopes (py : PyRuntime) (settings : McpSettings) (token : String) {claims claims' : JsonObject}
    (h : Permuted claims claims') (haud : claim? claims' "aud" = claim? claims "aud") :
    verifyClaims py settings token claims' = verifyClaims py settings token claims := by
  have hresource : tokenResource py claims' = tokenResource py claims := by
    unfold tokenResource resourceClaims
    simp only [List.findSome?_cons, List.findSome?_nil, h.get_eq (show "resource" ∉ listClaims by decide),
      Mcp.get_eq _ "aud", haud]
  have hmissing : (∃ scope ∈ settings.requiredScopes, scope ∉ extractScopes py claims') ↔
      ∃ scope ∈ settings.requiredScopes, scope ∉ extractScopes py claims := by
    simp only [(h.scopes py).mem_iff]
  unfold verifyClaims
  rw [hresource, h.principal py, h.sorted py, h.get_eq (show "exp" ∉ listClaims by decide),
    h.get_eq (show "sub" ∉ listClaims by decide), h.get_eq (show "iss" ∉ listClaims by decide)]
  simp only [hmissing]

/-- The claims with another list of audiences. -/
def withAudience (claims : JsonObject) (items : List Json) : JsonObject :=
  claims.map fun field => if field.1 = "aud" then (field.1, .arr items) else field

theorem claim?_withAudience (claims : JsonObject) (items : List Json) (name : String) :
    claim? (withAudience claims items) name = if name = "aud" then (claim? claims name).map fun _ =>
      .arr items else claim? claims name := by
  unfold claim? withAudience
  induction claims with
  | nil => split_ifs <;> rfl
  | cons field claims ih =>
    by_cases hfield : field.1 = "aud"
    · by_cases hname : name = "aud"
      · subst hname
        simp [hfield]
      · have hne : ¬ field.1 = name := fun heq => hname (heq.symm.trans hfield)
        have hne' : ¬ "aud" = name := fun heq => hname heq.symm
        simp only [hname, if_false] at ih ⊢
        rw [List.map_cons, List.find?_cons_of_neg (by simpa [hfield] using hne'),
          List.find?_cons_of_neg (by simpa using hne)]
        exact ih
    · by_cases hname : field.1 = name
      · subst hname
        simp [hfield]
      · rw [List.map_cons, if_neg hfield, List.find?_cons_of_neg (by simpa using hname),
          List.find?_cons_of_neg (by simpa using hname)]
        exact ih

theorem permuted_withAudience {claims : JsonObject} {items items' : List Json}
    (haud : claim? claims "aud" = some (.arr items))
    (hperm : items'.Perm items) : Permuted claims (withAudience claims items') := by
  intro name
  rw [claim?_withAudience]
  split_ifs with hname
  · subst hname
    refine .inr ⟨by decide, items, items', haud, ?_, hperm⟩
    rw [haud]
    rfl
  · exact .inl rfl

/-- What the JWT library checked: the audience is the configured one, or a list of texts that has it. -/
def AudienceChecked (settings : McpSettings) (claims : JsonObject) : Prop :=
  claims.get "aud" = .str settings.audience ∨ ∃ items, claims.get "aud" = .arr items ∧
    (∀ item ∈ items, ∃ audience, item = .str audience) ∧
    .str settings.audience ∈ items

theorem rstripSlash_audience (settings : McpSettings) : rstripSlash settings.audience = settings.audience := by
  unfold McpSettings.audience rstripSlash
  rw [String.toList_ofList, List.reverse_reverse, List.dropWhile_idempotent]

theorem claim?_of_get {claims : JsonObject} {name : String} {items : List Json} (h : claims.get name = .arr items) :
    claim? claims name = some (.arr items) := by
  rw [Mcp.get_eq] at h
  cases hclaim : claim? claims name with
  | none =>
    rw [hclaim] at h
    cases h
  | some value =>
    rw [hclaim] at h
    exact congrArg some h

theorem exists_perm_cons {α : Type} {a : α} {l : List α} (h : a ∈ l) : ∃ rest, (a :: rest).Perm l := by
  obtain ⟨before, after, rfl⟩ := List.append_of_mem h
  exact ⟨before ++ after, List.perm_middle.symm⟩

theorem tokenResource_of_named {py : PyRuntime} {claims : JsonObject} {resource : String}
    (h : namedResource py (claims.get "resource") = some resource) : tokenResource py claims = some resource := by
  unfold tokenResource resourceClaims
  rw [List.findSome?_cons, h]

theorem tokenResource_of_unnamed {py : PyRuntime} {claims : JsonObject}
    (h : namedResource py (claims.get "resource") = none) :
    tokenResource py claims = namedResource py (claims.get "aud") := by
  unfold tokenResource resourceClaims
  rw [List.findSome?_cons, h, List.findSome?_cons, List.findSome?_nil]
  cases namedResource py (claims.get "aud") <;> rfl

section

variable (py : PyRuntime) (settings : McpSettings) (token : String) {claims claims' : JsonObject}

theorem Permuted.scoped (h : Permuted claims claims') : Scoped py settings claims' ↔ Scoped py settings claims := by
  unfold Scoped
  simp only [(h.scopes py).mem_iff]

/-- Without a resource of its own, a token is addressed by the first of its audiences. -/
theorem addressed_first {item : Json} {items : List Json}
    (hresource : namedResource py (claims.get "resource") = none)
    (haud : claims.get "aud" = .arr (item :: items)) : Addressed py settings claims ↔ rstripSlash (pyStr py item) =
      settings.audience := by
  unfold Addressed
  rw [tokenResource_of_unnamed hresource, haud]
  constructor
  · rintro ⟨resource, heq, hthis⟩
    cases heq
    exact hthis
  · exact fun hthis => ⟨_, rfl, hthis⟩

/-- A token whose audiences are all this server is addressed in every order. -/
theorem Permuted.addressed (h : Permuted claims claims') (checked : AudienceChecked settings claims)
    (hall : namedResource py (claims.get "resource") = none → ∀ items, claims.get "aud" = .arr items →
      ∀ audience, .str audience ∈ items → rstripSlash audience = settings.audience) :
    Addressed py settings claims' ↔ Addressed py settings claims := by
  have hresource' := h.get_eq (show "resource" ∉ listClaims by decide)
  cases hresource : namedResource py (claims.get "resource") with
  | some resource =>
    unfold Addressed
    rw [tokenResource_of_named hresource, tokenResource_of_named (hresource' ▸ hresource)]
  | none =>
    rcases h "aud" with heq | ⟨-, items, items', hitems, hitems', hperm⟩
    · have haud : claims'.get "aud" = claims.get "aud" := by rw [Mcp.get_eq, Mcp.get_eq, heq]
      unfold Addressed
      rw [tokenResource_of_unnamed hresource, tokenResource_of_unnamed (hresource' ▸ hresource), haud]
    · have haud : claims.get "aud" = .arr items := by rw [Mcp.get_eq, hitems, Option.getD_some]
      have haud' : claims'.get "aud" = .arr items' := by rw [Mcp.get_eq, hitems', Option.getD_some]
      have htexts : (∀ item ∈ items, ∃ audience, item = .str audience) ∧ .str settings.audience ∈ items := by
        rcases checked with htext | ⟨_, hlist, hchecked⟩
        · rw [htext] at haud
          cases haud
        · rw [haud] at hlist
          cases hlist
          exact hchecked
      have hfirst : ∀ {claims'' : JsonObject} {items'' : List Json}, items''.Perm items →
          namedResource py (claims''.get "resource") = none → claims''.get "aud" = .arr items'' →
            Addressed py settings claims'' := by
        intro claims'' items'' hperm'' hresource'' haud''
        cases items'' with
        | nil => exact absurd (hperm''.mem_iff.mpr htexts.2) List.not_mem_nil
        | cons item rest =>
          have hitem : item ∈ items := hperm''.mem_iff.mp List.mem_cons_self
          obtain ⟨audience, rfl⟩ := htexts.1 item hitem
          have haddressed := addressed_first py settings hresource'' haud''
          rw [pyStr_str] at haddressed
          exact haddressed.mpr (hall hresource items haud audience hitem)
      exact iff_of_true (hfirst hperm (hresource' ▸ hresource) haud') (hfirst (.refl _) hresource haud)

theorem grant_of_rejected (h : ¬ (Addressed py settings claims ∧ Scoped py settings claims)) :
    grant (verifyClaims py settings token claims) = none := by
  rw [verifyClaims_rejected py settings token h]
  rfl

/-- What an addressed and scoped token allows depends on its principal. -/
theorem grant_of_read {n : Option Int} (hexp : decodeExpiry (claims.get "exp") = .ok n)
    (ha : Addressed py settings claims)
    (hs : Scoped py settings claims) : grant (verifyClaims py settings token claims) =
      (buildPrincipal py claims).toOption.map
      fun principal => (principal, (extractScopes py claims).insertionSort fun a b => a ≤ b) := by
  obtain ⟨hinvalid, huncaught, haccepted⟩ := verifyClaims_read py settings token hexp ha hs
  cases hprincipal : buildPrincipal py claims with
  | ok principal =>
    obtain ⟨accepted, hok, rfl, hscopes⟩ := haccepted principal hprincipal
    rw [hok]
    show some (accepted.principal, accepted.scopes) = _
    rw [hscopes]
    rfl
  | error x =>
    cases x with
    | invalid message =>
      rw [hinvalid message hprincipal]
      rfl
    | uncaught kind =>
      rw [huncaught kind hprincipal]
      rfl

/-- Claims that describe no principal allow nothing. -/
theorem grant_unusable {n : Option Int} (hexp : decodeExpiry (claims.get "exp") = .ok n)
    (hnone : ¬ ∃ principal, buildPrincipal py claims = .ok principal) :
      grant (verifyClaims py settings token claims) = none := by
  by_cases hread : Addressed py settings claims ∧ Scoped py settings claims
  · rw [grant_of_read py settings token hexp hread.1 hread.2]
    cases hbuilt : buildPrincipal py claims with
    | ok principal => exact absurd ⟨principal, hbuilt⟩ hnone
    | error x => rfl
  · exact grant_of_rejected py settings token hread

/-- A usable token allows something exactly if it is addressed. -/
theorem grant_ne_none_iff {n : Option Int} (hexp : decodeExpiry (claims.get "exp") = .ok n)
    (hs : Scoped py settings claims)
    {principal : TokenPrincipal} (hprincipal : buildPrincipal py claims = .ok principal) :
    grant (verifyClaims py settings token claims) ≠ none ↔ Addressed py settings claims := by
  constructor
  · intro hgrant
    by_contra hnot
    exact hgrant (grant_of_rejected py settings token fun h => hnot h.1)
  · intro ha
    rw [grant_of_read py settings token hexp ha hs, hprincipal]
    exact Option.some_ne_none _

/-- When a token allows the same whatever the order of its lists is. -/
theorem grant_permuted_iff {n : Option Int} (hexp : decodeExpiry (claims.get "exp") = .ok n)
    (checked : AudienceChecked settings claims) :
    (∀ claims', Permuted claims claims' →
        grant (verifyClaims py settings token claims') = grant (verifyClaims py settings token claims)) ↔
      (Scoped py settings claims → (∃ principal, buildPrincipal py claims = .ok principal) →
        namedResource py (claims.get "resource") = none → ∀ items, claims.get "aud" = .arr items →
        ∀ audience, .str audience ∈ items → rstripSlash audience = settings.audience) := by
  have hexp' : ∀ {claims'}, Permuted claims claims' → decodeExpiry (claims'.get "exp") = .ok n := by
    intro claims' h
    rw [h.get_eq (show "exp" ∉ listClaims by decide)]
    exact hexp
  constructor
  · rintro hsame hs ⟨principal, hprincipal⟩ hresource items haud
    -- with an audience in front, the token is accepted exactly if this is the audience of the server
    have hfront : ∀ audience, .str audience ∈ items →
        (grant (verifyClaims py settings token claims) ≠ none ↔ rstripSlash audience = settings.audience) := by
      intro audience hmem
      obtain ⟨rest, hperm⟩ := exists_perm_cons hmem
      have hpermuted := permuted_withAudience (claim?_of_get haud) hperm
      have hnamed : namedResource py ((withAudience claims (.str audience :: rest)).get "resource") = none := by
        rw [hpermuted.get_eq (show "resource" ∉ listClaims by decide)]
        exact hresource
      have hlist : (withAudience claims (.str audience :: rest)).get "aud" = .arr (.str audience :: rest) := by
        rw [Mcp.get_eq, claim?_withAudience, if_pos rfl, claim?_of_get haud, Option.map_some, Option.getD_some]
      have haddressed := addressed_first py settings hnamed hlist
      rw [pyStr_str] at haddressed
      rw [← hsame _ hpermuted, ← haddressed]
      exact grant_ne_none_iff py settings token (hexp' hpermuted) ((hpermuted.scoped py settings).mpr hs)
        ((hpermuted.principal py).trans hprincipal)
    have hown : .str settings.audience ∈ items := by
      rcases checked with htext | ⟨_, hlist, -, hown⟩
      · rw [htext] at haud
        cases haud
      · rw [haud] at hlist
        cases hlist
        exact hown
    have haccepted := (hfront settings.audience hown).mpr (rstripSlash_audience settings)
    exact fun audience hmem => (hfront audience hmem).mp haccepted
  · intro hcondition claims' hpermuted
    have hscoped := hpermuted.scoped py settings
    by_cases hs : Scoped py settings claims
    · by_cases hprincipal : ∃ principal, buildPrincipal py claims = .ok principal
      · have haddressed := hpermuted.addressed py settings checked (hcondition hs hprincipal)
        by_cases ha : Addressed py settings claims
        · rw [grant_of_read py settings token hexp ha hs,
            grant_of_read py settings token (hexp' hpermuted) (haddressed.mpr ha) (hscoped.mpr hs),
              hpermuted.principal py,
            hpermuted.sorted py]
        · rw [grant_of_rejected py settings token fun h => ha h.1,
            grant_of_rejected py settings token fun h => ha (haddressed.mp h.1)]
      · rw [grant_unusable py settings token hexp hprincipal,
          grant_unusable py settings token (hexp' hpermuted) (hpermuted.principal py ▸ hprincipal)]
    · rw [grant_of_rejected py settings token fun h => hs h.2,
        grant_of_rejected py settings token fun h => hs (hscoped.mp h.2)]

theorem verifyToken_decoded {decode : String → Option JsonObject} (given : strip token ≠ "")
    (keyed : settings.hasKeyMaterial = true)
    (decoded : decode token = some claims) : verifyToken py settings decode token =
      verifyClaims py settings token claims := by
  unfold verifyToken
  rw [if_neg given, keyed, if_neg (show ¬ true = false by decide), decoded]

/-- A token that the JWT library accepts yields a token or nothing unless its merchant is infinite; and it allows the same in every order
of its lists unless its audiences are read by position and differ. -/
theorem verifyToken_total_and_unordered {decode : String → Option JsonObject} (given : strip token ≠ "")
    (keyed : settings.hasKeyMaterial = true) (decoded : decode token = some claims) {n : Option Int}
    (hexp : decodeExpiry (claims.get "exp") = .ok n) (checked : AudienceChecked settings claims) :
    ((∃ outcome, verifyToken py settings decode token = .ok outcome) ↔
      ¬ (Addressed py settings claims ∧ Scoped py settings claims ∧
        (strip (pyStr py (claims.get "sub")) ≠ "" ∧ ∃ userId, pyInt? (pyStr py (claims.get "sub")) = some userId) ∧
        ∃ negative, claims.get "merchant_id" = .float (.infinity negative))) ∧
    ((∀ claims' decode', Permuted claims claims' → decode' token = some claims' →
        grant (verifyToken py settings decode' token) = grant (verifyToken py settings decode token)) ↔
      (Scoped py settings claims → (∃ principal, buildPrincipal py claims = .ok principal) →
        namedResource py (claims.get "resource") = none → ∀ items, claims.get "aud" = .arr items →
        ∀ audience, .str audience ∈ items → rstripSlash audience = settings.audience)) ∧
    ∀ claims' decode', Permuted claims claims' → claim? claims' "aud" = claim? claims "aud" →
      decode' token = some claims' →
      verifyToken py settings decode' token = verifyToken py settings decode token := by
  rw [verifyToken_decoded py settings token given keyed decoded]
  refine ⟨?_, ?_, fun claims' decode' hpermuted haud decoded' => ?_⟩
  · rw [← verifyClaims_raises_iff py settings token hexp]
    cases verifyClaims py settings token claims with
    | ok outcome => exact iff_of_true ⟨outcome, rfl⟩ fun ⟨_, h⟩ => nomatch h
    | error kind => exact iff_of_false (fun ⟨_, h⟩ => nomatch h) fun h => h ⟨kind, rfl⟩
  · rw [← grant_permuted_iff py settings token hexp checked]
    constructor
    · intro h claims' hpermuted
      rw [← h claims' (fun _ => some claims') hpermuted rfl, verifyToken_decoded py settings token given keyed rfl]
    · intro h claims' decode' hpermuted decoded'
      rw [verifyToken_decoded py settings token given keyed decoded', h claims' hpermuted]
  · rw [verifyToken_decoded py settings token given keyed decoded',
      verifyClaims_scopes py settings token hpermuted haud]

end

/-! ## Samples -/

/-- The interpreter, on texts without quotes and on floats without a fraction. -/
def samplePython : PyRuntime where
  reprText text := "'" ++ text ++ "'"
  reprFloat
    | .finite num shift => toString (num / 2 ^ shift) ++ ".0"
    | .infinity negative => if negative then "-inf" else "inf"
    | .nan => "nan"

/-- The claims of a member of the staff, for some audiences and a merchant. -/
def staffClaims (audiences : List String) (merchant : Json) : JsonObject := [
  ("iss", .str "http://127.0.0.1:18080/realms/nova"),
  ("aud", .arr (audiences.map .str)),
  ("exp", .int 1767229200),
  ("sub", .str "7"),
  ("scope", .str "nova.read catalog:read"),
  ("user_type", .str "STAFF"),
  ("merchant_id", merchant),
  ("roles", .arr [.str "OPERATOR"]),
  ("permissions", .arr [.str "product:read"]),
  ("data_scope", .str "MERCHANT"),
  ("sid", .str "7-Rk3vXw9TqLm2YcNs7ZbHd0KfJpUe5GaX")]

theorem staffClaims_checked (audiences : List String) (merchant : Json)
    (h : "http://127.0.0.1:8020/mcp" ∈ audiences) :
    AudienceChecked {} (staffClaims audiences merchant) := by
  refine .inr ⟨audiences.map .str, rfl, fun item hitem => ?_, ?_⟩
  · obtain ⟨audience, -, rfl⟩ := List.mem_map.mp hitem
    exact ⟨audience, rfl⟩
  · exact List.mem_map.mpr ⟨_, h, by rfl⟩

/-- Both audiences are this server: the token is accepted, in the other order too. -/
theorem verifyToken_same_server : (∃ outcome, verifyToken samplePython {}
      (fun _ => some (staffClaims ["http://127.0.0.1:8020/mcp", "http://127.0.0.1:8020/mcp/"] (.int 1)))
        "eyJhbGciOiJIUzI1NiJ9" =
        .ok outcome) ∧
    grant (verifyToken samplePython {}
      (fun _ => some (withAudience (staffClaims ["http://127.0.0.1:8020/mcp", "http://127.0.0.1:8020/mcp/"] (.int 1))
        [.str "http://127.0.0.1:8020/mcp/", .str "http://127.0.0.1:8020/mcp"])) "eyJhbGciOiJIUzI1NiJ9") =
    grant (verifyToken samplePython {}
      (fun _ => some (staffClaims ["http://127.0.0.1:8020/mcp", "http://127.0.0.1:8020/mcp/"] (.int 1)))
        "eyJhbGciOiJIUzI1NiJ9") := by
  obtain ⟨htotal, hunordered, -⟩ := @verifyToken_total_and_unordered samplePython {} "eyJhbGciOiJIUzI1NiJ9"
    (staffClaims ["http://127.0.0.1:8020/mcp", "http://127.0.0.1:8020/mcp/"] (.int 1))
    (fun _ => some (staffClaims ["http://127.0.0.1:8020/mcp", "http://127.0.0.1:8020/mcp/"] (.int 1)))
    (by decide) rfl rfl (some 1767229200) rfl (staffClaims_checked _ _ List.mem_cons_self)
  refine ⟨htotal.mpr ?_, hunordered.mpr ?_ _ _ (permuted_withAudience rfl (.swap _ _ _)) rfl⟩
  · rintro ⟨-, -, -, negative, hmerchant⟩
    exact absurd (show Json.int 1 = .float (.infinity negative) from hmerchant) (nomatch ·)
  · intro _ _ _ items haud audience hmem
    obtain rfl : [Json.str "http://127.0.0.1:8020/mcp", .str "http://127.0.0.1:8020/mcp/"] = items :=
      Json.arr.inj (show Json.arr [.str "http://127.0.0.1:8020/mcp", .str "http://127.0.0.1:8020/mcp/"] =
        .arr items from haud)
    rcases List.mem_cons.mp hmem with heq | hmem
    · cases heq
      decide
    · cases List.mem_singleton.mp hmem
      decide

/-- An infinite merchant raises; and of two audiences the one that is not this server decides when it comes first. -/
theorem verifyToken_not_total_nor_unordered :
    (AudienceChecked {} (staffClaims ["http://127.0.0.1:8020/mcp"] (.float (.infinity false))) ∧
      verifyToken samplePython {}
        (fun _ => some (staffClaims ["http://127.0.0.1:8020/mcp"] (.float (.infinity false))))
        "eyJhbGciOiJIUzI1NiJ9" = .error .overflow) ∧
    AudienceChecked {} (staffClaims ["http://127.0.0.1:8020/mcp", "nova-commerce-api"] (.int 1)) ∧
    Permuted (staffClaims ["http://127.0.0.1:8020/mcp", "nova-commerce-api"] (.int 1))
      (staffClaims ["nova-commerce-api", "http://127.0.0.1:8020/mcp"] (.int 1)) ∧
    grant (verifyToken samplePython {}
      (fun _ => some (staffClaims ["http://127.0.0.1:8020/mcp", "nova-commerce-api"] (.int 1)))
        "eyJhbGciOiJIUzI1NiJ9") ≠ none ∧
    grant (verifyToken samplePython {}
      (fun _ => some (staffClaims ["nova-commerce-api", "http://127.0.0.1:8020/mcp"] (.int 1)))
        "eyJhbGciOiJIUzI1NiJ9") = none := by
  have hswapped : Permuted (staffClaims ["http://127.0.0.1:8020/mcp", "nova-commerce-api"] (.int 1))
      (withAudience (staffClaims ["http://127.0.0.1:8020/mcp", "nova-commerce-api"] (.int 1))
        [.str "nova-commerce-api", .str "http://127.0.0.1:8020/mcp"]) := permuted_withAudience rfl (.swap _ _ _)
  refine ⟨⟨staffClaims_checked _ _ List.mem_cons_self, ?_⟩, staffClaims_checked _ _ List.mem_cons_self, hswapped,
    by decide +kernel,
    by decide +kernel⟩
  rfl

end NovaCommerce.Mcp
