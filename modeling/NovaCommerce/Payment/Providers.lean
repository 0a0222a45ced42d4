import NovaCommerce.Core

/-!
# The provider boundary

* `verifySignatureAt` : who sent a callback, and when; `verifySignature` : with the secret of its provider;
* `filterCallbackPayload` : what of it may be stored;
* `parseAmountMinor` : the amount it reports.

`Deployment` carries the settings, and the functions of the runtime whose tables and ciphers stay
outside: case and character classes beyond ASCII, SHA-256 and its HMAC, and the JSON decoder.
-/

namespace NovaCommerce

/-- The settings of a deployment. -/
structure Settings where
  callbackSecret : String := "dev-mock-callback-secret"
  providerSecrets : List (String × String) := []
  callbackMaxSkewSeconds : Int := 300
  enabledChannels : List String := ["MOCK", "ALIPAY", "WECHAT"]
  orderNoPrefix : String := "NV"
  orderPaymentTimeoutMinutes : Nat := 15
  paymentNoPrefix : String := "NVPAY"
  fulfillmentNoPrefix : String := "NVF"

/-- Settings, and the runtime functions the callbacks use. -/
structure Deployment where
  settings : Settings
  upperText : String → String
  lowerText : String → String
  isAlnumChar : Char → Bool
  sha256Hex : String → String
  hmacHex : List UInt8 → List UInt8 → String
  jsonLoads : List UInt8 → Option Json

namespace Deployment

variable (env : Deployment)

/-- `str.isascii`. -/
def isAscii (s : String) : Bool := s.toList.all fun c => decide (c.toNat < 128)

/-- `str.upper`. -/
def upper (s : String) : String :=
  if isAscii s then String.ofList (s.toList.map Char.toUpper) else env.upperText s

/-- `str.lower`. -/
def lower (s : String) : String :=
  if isAscii s then String.ofList (s.toList.map Char.toLower) else env.lowerText s

/-- `str.isalnum` of one character. -/
def isAlnum (c : Char) : Bool := if c.toNat < 128 then c.isAlphanum else env.isAlnumChar c

end Deployment

/-! ## The stored payload -/

/-- `SENSITIVE_KEYS`. -/
def sensitiveKeys : List String :=
  ["password", "passwd", "secret", "token", "authorization", "auth", "apikey", "sign", "signature",
   "privatekey", "cardno", "pan", "cvv", "cvv2", "cvc", "idcard", "bankaccount", "phone", "email", "key"]

def payloadRedacted : String := "***REDACTED***"

/-- `MAX_DEPTH`. -/
def maxDepth : Nat := 8

namespace Deployment

variable (env : Deployment)

/-- A key names a secret or a cardholder datum. -/
def isSensitiveKey (key : String) : Bool :=
  sensitiveKeys.any fun k => k.toList = (env.lower key).toList.filter env.isAlnum

/-- Replace every sensitive value, at every depth, with `depth` levels left. -/
def filterJson : Nat → Json → Json
  | 0, _ => .str payloadRedacted
  | depth + 1, .obj fields => .obj (fields.map fun field =>
      (field.1, if env.isSensitiveKey field.1 then .str payloadRedacted else filterJson depth field.2))
  | depth + 1, .arr items => .arr (items.map (filterJson depth))
  | _ + 1, value => value

def filterCallbackPayload (payload : JsonObject) : JsonObject :=
  payload.map fun field =>
    (field.1, if env.isSensitiveKey field.1 then .str payloadRedacted else env.filterJson maxDepth field.2)

/-- What the snapshot shows under a key that is not sensitive. -/
theorem filterCallbackPayload_get {key : String} (h : env.isSensitiveKey key = false)
    (payload : JsonObject) :
    JsonObject.get (env.filterCallbackPayload payload) key = env.filterJson maxDepth (payload.get key) := by
  have aux : ∀ fields : JsonObject,
      JsonObject.get (env.filterCallbackPayload fields) key = env.filterJson maxDepth (JsonObject.get fields key) := by
    intro fields
    induction fields with
    | nil => rfl
    | cons field fields ih =>
      by_cases hk : field.1 = key
      · simp [JsonObject.get, filterCallbackPayload, hk, h]
      · simpa [JsonObject.get, filterCallbackPayload, hk] using ih
  exact aux payload

end Deployment

/-! ## Signatures -/

/-- `str.encode`. -/
def utf8 (s : String) : List UInt8 := s.toList.flatMap String.utf8EncodeChar

/-- The provider headers of a callback. -/
structure CallbackHeaders where
  provider : String
  eventId : String
  timestamp : String
  signature : String

/-- A header is absent or blank. -/
def CallbackHeaders.Incomplete (headers : CallbackHeaders) : Prop :=
  strip headers.provider = "" ∨ strip headers.eventId = "" ∨ strip headers.timestamp = "" ∨ strip headers.signature = ""

instance CallbackHeaders.decidableIncomplete (headers : CallbackHeaders) : Decidable headers.Incomplete := by
  unfold CallbackHeaders.Incomplete
  infer_instance

/-- What is signed: the timestamp, a dot, and the body. -/
def signedMessage (timestamp : String) (rawBody : List UInt8) : List UInt8 := utf8 (timestamp ++ ".") ++ rawBody

/-- The least integer that rounds to no float. -/
def floatLimit : Nat := 2 ^ 1024 - 2 ^ 970

/-- `int(abs(current - timestamp))`: the timestamp is converted to a float first. -/
def skewSeconds (now : ℚ) (timestamp : Int) : Except AppError Int :=
  if floatLimit ≤ timestamp.natAbs then .error { kind := .overflow, message := "int too large to convert to float" }
  else .ok ⌊|now - timestamp|⌋

/-- The outcome of a verification. -/
structure SignatureVerdict where
  valid : Bool
  reason : String

namespace Deployment

variable (env : Deployment)

/-- The secret of a provider: its own when one is configured, the shared one otherwise. -/
def callbackSecretFor (provider : String) : Option String :=
  if provider = "" then none
  else
    let secret := match env.settings.providerSecrets.find? fun e => e.1 = env.upper provider with
      | some override => override.2
      | none => env.settings.callbackSecret
    if secret = "" then none else some secret

/-- `sign_body`. -/
def signBody (secret timestamp : String) (rawBody : List UInt8) : String :=
  env.hmacHex (utf8 secret) (signedMessage timestamp rawBody)

/-- `hmac.compare_digest` of the expected and the received signature. -/
def verifyDigest (secret : String) (headers : CallbackHeaders) (rawBody : List UInt8) :
    Except AppError SignatureVerdict :=
  let expected := env.signBody secret headers.timestamp rawBody
  if isAscii expected ∧ isAscii (strip headers.signature) then
    if expected = strip headers.signature then .ok { valid := true, reason := "OK" }
    else .ok { valid := false, reason := "SIGNATURE_MISMATCH" }
  else .error {
    kind := .typeError
    message := "comparing strings with non-ASCII characters is not supported" }

/-- `verify_signature`. -/
def verifySignatureAt (secret : Option String) (maxSkewSeconds : Int) (headers : CallbackHeaders) (rawBody : List UInt8)
    (now : ℚ) : Except AppError SignatureVerdict :=
  match secret.filter fun secret => decide (secret ≠ "") with
  | none => .ok { valid := false, reason := "MISSING_SECRET" }
  | some secret =>
    if headers.Incomplete then .ok { valid := false, reason := "MISSING_HEADER" }
    else match pyInt? headers.timestamp with
      | none => .ok { valid := false, reason := "TIMESTAMP_NOT_NUMERIC" }
      | some timestamp =>
        match skewSeconds now timestamp with
        | .error x => .error x
        | .ok skew =>
          if maxSkewSeconds < skew then .ok { valid := false, reason := "TIMESTAMP_STALE" }
          else env.verifyDigest secret headers rawBody

/-- Verify a callback with the secret of its provider, at a reading of the clock. -/
def verifySignature (headers : CallbackHeaders) (rawBody : List UInt8) (now : Time) :
    Except AppError SignatureVerdict :=
  env.verifySignatureAt (env.callbackSecretFor headers.provider) env.settings.callbackMaxSkewSeconds headers rawBody
    ((now : ℚ) / 1000)

/-- A callback carries the signature of a secret. -/
def SignedWith (secret : String) (headers : CallbackHeaders) (rawBody : List UInt8) : Prop :=
  env.signBody secret headers.timestamp rawBody = strip headers.signature

theorem verifyDigest_valid {secret : String} {headers : CallbackHeaders} {rawBody : List UInt8}
    {verdict : SignatureVerdict} (h : env.verifyDigest secret headers rawBody = .ok verdict)
    (hv : verdict.valid = true) : env.SignedWith secret headers rawBody := by
  unfold verifyDigest at h
  dsimp only at h
  split_ifs at h with hascii hdigest
  · exact hdigest
  · cases h
    cases hv

/-- A valid callback is signed with the secret of the provider it names. -/
theorem verifySignature_valid {headers : CallbackHeaders} {rawBody : List UInt8} {now : Time}
    {verdict : SignatureVerdict} (h : env.verifySignature headers rawBody now = .ok verdict)
    (hv : verdict.valid = true) :
    ∃ secret, env.callbackSecretFor headers.provider = some secret ∧
      env.SignedWith secret headers rawBody := by
  unfold verifySignature verifySignatureAt at h
  split at h
  · cases h
    cases hv
  next secret hs =>
    split at h
    · cases h
      cases hv
    split at h
    · cases h
      cases hv
    split at h
    · cases h
    split at h
    · cases h
      cases hv
    exact ⟨secret, (Option.filter_eq_some_iff.mp hs).1, env.verifyDigest_valid h hv⟩

end Deployment

/-! ## Amounts -/

/-- A finite decimal, `coefficient * 10 ^ exponent`, or a special value. -/
inductive PyDecimal where
  | finite (coefficient : Int) (exponent : Int)
  | infinity
  | quietNan
  | signalingNan

/-- Digits before and after the point. -/
def readCoefficient (cs : List Char) : Option (Int × Int × List Char) :=
  let whole := cs.takeWhile fun c => (digitValue? c).isSome
  let rest := cs.dropWhile fun c => (digitValue? c).isSome
  let (fraction, rest) := match rest with
    | '.' :: tail =>
      (tail.takeWhile fun c => (digitValue? c).isSome, tail.dropWhile fun c => (digitValue? c).isSome)
    | _ => ([], rest)
  let digits := whole ++ fraction
  if digits = [] then none
  else
    let value := digits.foldl (fun acc c => 10 * acc + ((digitValue? c).getD 0 : Int)) 0
    some (value, -(fraction.length : Int), rest)

/-- An optional exponent, and nothing after it. -/
def readExponent (cs : List Char) : Option Int :=
  let natural (ds : List Char) : Option Int :=
    if ds ≠ [] ∧ ds.all (fun c => (digitValue? c).isSome) then
      some (ds.foldl (fun acc c => 10 * acc + ((digitValue? c).getD 0 : Int)) 0)
    else none
  match cs with
  | [] => some 0
  | c :: cs =>
    if c = 'e' ∨ c = 'E' then
      match cs with
      | '-' :: ds => (natural ds).map fun n => -n
      | '+' :: ds => natural ds
      | ds => natural ds
    else none

/-- `decimal.MAX_EMAX`. -/
def maxEmax : Int := 999999999999999999

/-- `decimal.MIN_ETINY`. -/
def minEtiny : Int := -1999999999999999997

/-- The finite decimals there are: the leading digit is at `MAX_EMAX` at most, the last at `MIN_ETINY` at least. -/
def PyDecimal.Fits (coefficient exponent : Int) : Prop :=
  exponent + ((Digits.decimal coefficient.natAbs).length - 1 : Int) ≤ maxEmax ∧ minEtiny ≤ exponent

instance PyDecimal.decidableFits (coefficient exponent : Int) : Decidable (PyDecimal.Fits coefficient exponent) := by
  unfold PyDecimal.Fits
  infer_instance

/-- An optional sign: whether it is a minus, and what follows it. -/
def readSign : List Char → Bool × List Char
  | '-' :: rest => (true, rest)
  | '+' :: rest => (false, rest)
  | rest => (false, rest)

/-- An infinity, or a NaN with the digits of its payload, in any case. -/
def specialDecimal (cs : List Char) : Option PyDecimal :=
  let word := cs.map Char.toLower
  let letters := word.takeWhile Char.isAlpha
  let payload := (word.dropWhile Char.isAlpha).all fun c => (digitValue? c).isSome
  if word = "inf".toList ∨ word = "infinity".toList then some .infinity
  else if letters = "nan".toList ∧ payload then some .quietNan
  else if letters = "snan".toList ∧ payload then some .signalingNan
  else none

/-- A coefficient with its exponent, and nothing after it. -/
def readNumeral (cs : List Char) : Option (Int × Int) := do
  let (value, fractionExponent, rest) ← readCoefficient cs
  let exponent ← readExponent rest
  some (value, exponent + fractionExponent)

/-- `Decimal(s)` of a stripped string, `none` for an `InvalidOperation`. -/
def pyDecimal? (s : String) : Option PyDecimal :=
  let (negative, cs) := readSign (s.toList.filter fun c => decide (c ≠ '_'))
  match specialDecimal cs with
  | some special => some special
  | none =>
    match readNumeral cs with
    | none => none
    | some (value, exponent) =>
      if PyDecimal.Fits value exponent then some (.finite (if negative then -value else value) exponent) else none

/-- An integral decimal as an integer. -/
def decimalToInt : PyDecimal → Except AppError (Option Int)
  | .finite c e =>
    if 0 ≤ e then .ok (some (c * 10 ^ e.natAbs))
    else if c % 10 ^ e.natAbs = 0 then .ok (some (c / 10 ^ e.natAbs))
    else .ok none
  | .infinity => .error { kind := .overflow, message := "cannot convert Infinity to integer" }
  | .quietNan => .ok none
  | .signalingNan => .error { kind := .invalidOperation, message := "[<class 'decimal.InvalidOperation'>]" }

/-- An integral float as an integer. -/
def floatToInt : JsonFloat → Except AppError (Option Int)
  | .finite num shift => if num % 2 ^ shift = 0 then .ok (some (num / 2 ^ shift)) else .ok none
  | .infinity _ => .error { kind := .overflow, message := "cannot convert float infinity to integer" }
  | .nan => .error { kind := .valueError, message := "cannot convert float NaN to integer" }

/-- A provider amount in minor units, `none` when it is none. -/
def parseAmountMinor : Json → Except AppError (Option Int)
  | .int value => .ok (some value)
  | .str value =>
    if strip value = "" then .ok none
    else match pyDecimal? (strip value) with
      | none => .ok none
      | some d => decimalToInt d
  | .float value => floatToInt value
  | .null => .ok none
  | .bool _ => .ok none
  | .arr _ => .ok none
  | .obj _ => .ok none

/-- The snapshot keeps the amount readable. -/
theorem parseAmountMinor_filterJson (env : Deployment) (depth : Nat) (value : Json) :
    parseAmountMinor (env.filterJson (depth + 1) value) = parseAmountMinor value := by
  cases value <;> rfl

example : parseAmountMinor (.str " 1_000.00 ") = .ok (some 1000) := by rfl

end NovaCommerce
