import NovaCommerce.Identity.Schema

/-!
# Passwords and tokens

Argon2, SHA-256, the signing of access tokens and the random draws are parameters: `Deployment` holds the functions,
`Draws` what a request draws.

* `hashPassword`, `verifyPassword`, `guardLoginAllowed` : what a login is checked against;
* `hashRefreshToken` : what is kept of a refresh token;
* `createAccessToken` : the claims of an access token, and their signed form.
-/

namespace NovaCommerce.Identity

/-- The settings of the identity module. -/
structure Settings where
  jwtSecretKey : String := ""
  jwtIssuer : String := "nova-commerce"
  jwtAudience : String := "nova-commerce-api"
  accessTokenTtlSeconds : Nat := 900
  refreshTokenTtlSeconds : Nat := 1209600
  loginMaxFailures : Nat := 5
  loginLockoutSeconds : Nat := 900

/-- Settings, and the runtime functions that the identity module uses. -/
structure Deployment where
  settings : Settings
  lowerText : String → String
  sha256Hex : String → String
  argonHash : String → String → String
  argonVerify : String → String → Bool
  argonNeedsRehash : String → Bool
  jwtEncode : JsonObject → String → String

/-- What one request draws at random. -/
structure Draws where
  refreshToken : String
  jti : String
  accessJti : String := ""
  salt : String := ""
  deriving DecidableEq

/-! ## Passwords -/

def minPasswordLength : Nat := 10

def maxPasswordLength : Nat := 128

/-- `_COMMON_PASSWORDS`. -/
def commonPasswords : List String := [
  "password", "password1", "password123", "12345678", "123456789", "qwertyuiop", "letmein123", "admin12345", "welcome123",
  "iloveyou123", "nova1234", "nova"]

def validatePasswordStrength (env : Deployment) (password : String) : Except AppError Unit := do
  Raise.raiseIf (password.length < minPasswordLength)
    { kind := .validation, message := "password must be at least 10 characters" }
  Raise.raiseIf (maxPasswordLength < password.length)
    { kind := .validation, message := "password must be at most 128 characters" }
  Raise.raiseIf (env.lowerText password ∈ commonPasswords) { kind := .validation, message := "password is too common" }
  Raise.raiseIf (password.toList.dedup.length < 4)
    { kind := .validation, message := "password must contain at least 4 distinct characters" }

def hashPassword (env : Deployment) (draws : Draws) (password : String) : Except AppError String := do
  validatePasswordStrength env password
  return env.argonHash draws.salt password

/-- A mismatch and a malformed hash are one failure. -/
def verifyPassword (env : Deployment) (password passwordHash : String) : Bool :=
  if password = "" ∨ passwordHash = "" then false else env.argonVerify passwordHash password

/-- Account state and brute force, before a password is verified. -/
def guardLoginAllowed (env : Deployment) (status : UserStatus) (failedAttempts : Nat) : Except AppError Unit := do
  Raise.raiseIf (status = .disabled) { kind := .accountDisabled, message := "account is disabled" }
  Raise.raiseIf (status = .inactive) { kind := .accountDisabled, message := "account is not active" }
  Raise.raiseIf (env.settings.loginMaxFailures ≤ failedAttempts ∨ status = .locked)
    { kind := .accountLocked
      message := "too many failed attempts; try again in " ++ toString env.settings.loginLockoutSeconds ++ " seconds" }

/-! ## Tokens -/

/-- The pepper, a zero byte and the token, hashed. -/
def hashRefreshToken (env : Deployment) (token : String) : String :=
  env.sha256Hex (env.settings.jwtSecretKey ++ String.singleton (Char.ofNat 0) ++ token)

/-- A resolved, authenticated caller. -/
structure Principal where
  userId : Nat
  userType : UserType
  merchantId : Option Nat
  roles : List String
  permissions : List String
  dataScope : DataScope
  sessionId : String
  isStaff : Bool

/-- The payload of an access token. -/
structure AccessTokenClaims where
  subject : Nat
  jti : String
  issuedAt : Time
  expiresAt : Time
  sessionId : String
  roles : List String
  permissions : List String
  dataScope : String
  merchantId : Option Nat
  userType : String

/-- What is signed. -/
def AccessTokenClaims.payload (env : Deployment) (claims : AccessTokenClaims) : JsonObject := [
  ("sub", .str (toString claims.subject)),
  ("jti", .str claims.jti),
  ("sid", .str claims.sessionId),
  ("iss", .str env.settings.jwtIssuer),
  ("aud", .str env.settings.jwtAudience),
  ("iat", .int (claims.issuedAt / 1000 : Nat)),
  ("nbf", .int (claims.issuedAt / 1000 : Nat)),
  ("exp", .int (claims.expiresAt / 1000 : Nat)),
  ("typ", .str "access"),
  ("roles", .arr (claims.roles.map .str)),
  ("permissions", .arr ((claims.permissions.insertionSort (· ≤ ·)).map .str)),
  ("data_scope", .str claims.dataScope),
  ("merchant_id", (claims.merchantId.map fun id => Json.int id).getD .null),
  ("user_type", .str claims.userType)]

/-- The claims of a principal in a session, and their signed form. -/
def createAccessToken (env : Deployment) (draws : Draws) (principal : Principal) (sessionId : String) (now : Time) :
    String × AccessTokenClaims :=
  let claims : AccessTokenClaims := {
    subject := principal.userId
    jti := draws.accessJti
    issuedAt := now
    expiresAt := now + env.settings.accessTokenTtlSeconds * 1000
    sessionId := sessionId
    roles := principal.roles
    permissions := principal.permissions
    dataScope := principal.dataScope.value
    merchantId := principal.merchantId
    userType := principal.userType.value }
  (env.jwtEncode (claims.payload env) env.settings.jwtSecretKey, claims)

end NovaCommerce.Identity
