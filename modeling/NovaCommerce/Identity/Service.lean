import NovaCommerce.Identity.Repository

/-!
# Login, rotation and logout

A login opens a session; a rotation revokes the session of the presented refresh token and opens its successor; a token
whose session was revoked is a double submit within the grace window, and a reuse outside it.

* `login`, `rotate`, `logout` : the three operations; a request that ends without a commit is rolled back;
* `buildPrincipal` : the caller that access tokens speak of;
* `reissueFromChain`, `handleReuse` : what becomes of a revoked token.
-/

namespace NovaCommerce.Identity

open Sql

/-! ## Principals -/

/-- `resolve_data_scope`: the override, else the widest scope of a role. -/
def resolveDataScope (roles : List String) (roleScopes : List (String × String)) (override : Option String) : DataScope :=
  match override with
  | some raw => if raw = "" then widest else (DataScope.parse? raw).getD .none
  | none => widest
where
  widest : DataScope :=
    roles.foldl (fun widest code =>
      match (roleScopes.lookup code).bind DataScope.parse? with
      | some candidate => if widest.rank < candidate.rank then candidate else widest
      | none => widest) .none

/-- `_build_principal`: a later role of a code hides the scope of an earlier one. -/
def buildPrincipal (userId : Nat) (user : User) (roles : List Role) (sessionId : String) : Principal :=
  let roleCodes := roles.map Role.code
  let roleScopes := (roles.map fun role => (role.code, role.dataScope)).reverse
  let override :=
    match user.dataScopeOverride with
    | some raw => if raw = "" then consumerFloor roleCodes else some raw
    | none => consumerFloor roleCodes
  { userId
    userType := user.userType
    merchantId := user.merchantId
    roles := roleCodes
    permissions := (roles.flatMap Role.permissions).dedup
    dataScope := resolveDataScope roleCodes roleScopes override
    sessionId
    isStaff := user.isStaff }
where
  consumerFloor (roleCodes : List String) : Option String :=
    if roleCodes = [] ∧ user.isStaff = false then some DataScope.self.value else none

/-! ## Sessions -/

/-- `REUSE_GRACE_SECONDS`. -/
def reuseGraceSeconds : Nat := 20

/-- Who sends a request. -/
structure Client where
  clientIp : Option String := none
  userAgent : Option String := none
  deriving DecidableEq

/-- A new session, and the secrets that go with it. -/
structure IssuedSession where
  id : Nat
  session : AuthSession
  accessToken : String
  accessClaims : AccessTokenClaims
  refreshToken : String
  refreshExpiresAt : Time
  userId : Nat
  user : User

/-- `(user_agent or "")[:512] or None`. -/
def cutUserAgent (userAgent : Option String) : Option String :=
  let cut := truncate 512 (userAgent.getD "")
  if cut = "" then none else some cut

/-- `_new_session`. -/
def newSession (env : Deployment) (userId : Nat) (draws : Draws) (now : Time) (client : Client) (loginSource : String)
    (rotatedFrom : Option Nat) : AuthSession :=
  let jti := truncate 32 draws.jti
  { userId
    sessionId := toString userId ++ "-" ++ jti
    refreshTokenHash := hashRefreshToken env draws.refreshToken
    jti
    issuedAt := now
    expiresAt := now + env.settings.refreshTokenTtlSeconds * 1000
    rotatedFrom
    clientIp := client.clientIp
    userAgent := cutUserAgent client.userAgent
    loginSource
    lastUsedAt := some now
    createdAt := now }

/-- Insert a new session, and sign its access token. -/
def issue (env : Deployment) (principal : Principal) (user : User) (draws : Draws) (session : AuthSession) (now : Time) :
    Tx IssuedSession := do
  let id ← insertSession session
  let (accessToken, accessClaims) := createAccessToken env draws principal session.sessionId now
  return {
    id
    session
    accessToken
    accessClaims
    refreshToken := draws.refreshToken
    refreshExpiresAt := session.expiresAt
    userId := principal.userId
    user }

/-! ## Login -/

def invalidCredentials : AppError := { kind := .invalidCredentials, message := "username or password is incorrect" }

/-- The password was verified: rehash it, reset the counters, open the session. -/
def openSession (env : Deployment) (userId : Nat) (user : User) (password : String) (client : Client) (draws : Draws)
    (now : Time) : Tx IssuedSession := do
  let user ← rehash
  writeUser userId (user.succeededBy now)
  let user := user.succeededBy now user
  let roles ← query fun d => d.rolesOf userId
  let principal := buildPrincipal userId user roles "pending"
  issue env principal user draws (newSession env userId draws now client "API" none) now
where
  rehash : Tx User :=
    if env.argonNeedsRehash user.passwordHash = true then do
      let hash ← ofExcept (hashPassword env draws password)
      writeUser userId (User.withPassword hash now)
      return user.withPassword hash now
    else return user

/-- Authenticate and open a session. -/
def login (env : Deployment) (identifier password : String) (client : Client) (draws : Draws) (now : Time) :
    Tx IssuedSession := do
  raiseIf (strip identifier = "" ∨ password = "") invalidCredentials
  match ← findByIdentifier env (strip identifier) with
  | none => raise invalidCredentials
  | some (userId, user) =>
    ofExcept (guardLoginAllowed env user.status user.failedLoginAttempts)
    raiseIf (∃ t ∈ user.lockedUntil, now < t) { kind := .accountLocked, message := "account is temporarily locked" }
    if verifyPassword env password user.passwordHash = true then
      raiseIf (user.deletedAt ≠ none) { kind := .accountDisabled, message := "account is disabled" }
      transaction (openSession env userId user password client draws now)
    else
      writeUser userId (user.failedBy env now)
      raise invalidCredentials

/-! ## Rotation -/

def accountDisabled : AppError := { kind := .accountDisabled, message := "account is disabled" }

/-- Revoke the presented session, and open its successor. -/
def rotateLive (env : Deployment) (id : Nat) (held : AuthSession) (client : Client) (draws : Draws) (now : Time) :
    Tx IssuedSession := do
  if held.expiresAt ≤ now then
    revoke id held .expired now
    raise { kind := .tokenInvalid, message := "refresh token has expired" }
  else
    match ← query fun d => d.withAuthorization held.userId with
    | none =>
      revoke id held .adminRevoked now
      raise accountDisabled
    | some (user, roles) =>
      if user.deletedAt ≠ none then
        revoke id held .adminRevoked now
        raise accountDisabled
      else if user.status = .disabled ∨ user.status = .inactive then
        revoke id held .accountLocked now
        raise { kind := .accountDisabled, message := "account is not active" }
      else if user.status = .locked ∧ ∀ t ∈ user.lockedUntil, now < t then
        revoke id held .accountLocked now
        raise { kind := .authentication, message := "account is temporarily locked" }
      else
        revoke id held .rotated now
        let principal := buildPrincipal held.userId user roles held.sessionId
        let userAgent := if client.userAgent.getD "" = "" then held.userAgent else client.userAgent
        issue env principal user draws
          (newSession env held.userId draws now { client with userAgent } "REFRESH" (some id)) now

/-- `_family_is_rotation_only`: every revoked member was revoked by a rotation. -/
def familyIsRotationOnly (id : Nat) (held : AuthSession) : Tx Bool := do
  let ids ← familySessionIds id held
  let revoked ← query fun d =>
    (ids.filterMap fun id => d.sessions.get? id).filter fun s => decide ¬ s.Live
  return revoked.all fun s => decide (s.revokedReason = some .rotated)

/-- The live successors of a session, the newest first. -/
def Db.liveSuccessors (d : Db) (id : Nat) : List (Nat × AuthSession) :=
  (d.sessions.select fun s => decide (s.rotatedFrom = some id ∧ s.Live)).insertionSort fun a b => b.1 ≤ a.1

/-- `_family_tip`: down the chain while there is a live successor. -/
def familyTip : Nat → Nat × AuthSession → Tx (Nat × AuthSession)
  | 0, current => return current
  | depth + 1, current => do
    match ← query fun d => d.liveSuccessors current.1 with
    | [] => return current
    | successor :: _ => familyTip depth successor

/-- `_reissue_from_chain`: a successor of the tip of the family, which nobody commits. -/
def reissueFromChain (env : Deployment) (id : Nat) (held : AuthSession) (client : Client) (draws : Draws) (now : Time) :
    Tx IssuedSession := do
  let (tipId, tip) ← familyTip maxRotationChainDepth (id, held)
  if tipId ≠ id then touch tipId now
  match ← query fun d => d.withAuthorization tip.userId with
  | none => raise accountDisabled
  | some (user, roles) =>
    raiseIf (user.deletedAt ≠ none) accountDisabled
    let principal := buildPrincipal tip.userId user roles tip.sessionId
    issue env principal user draws
      (newSession env tip.userId draws now { client with userAgent := tip.userAgent } "REFRESH" (some tipId)) now

/-- A revoked token is presented: a double submit within the grace window, a reuse outside it. -/
def handleReuse (env : Deployment) (id : Nat) (held : AuthSession) (client : Client) (draws : Draws) (now : Time) :
    Tx IssuedSession := do
  let rotated ← if held.revokedReason = some .rotated then familyIsRotationOnly id held else pure false
  if rotated = true ∧ ∃ t ∈ held.revokedAt, now ≤ t + reuseGraceSeconds * 1000 then
    reissueFromChain env id held client draws now
  else
    let count ← revokeFamily id held .reuseDetected now
    raise { kind := .refreshTokenReuse
            message := "refresh token reuse detected; all sessions in this family have been revoked"
            context := [("revoked_sessions", .int count)] }

/-- Exchange a refresh token for a new pair. -/
def rotate (env : Deployment) (presented : String) (client : Client) (draws : Draws) (now : Time) : Tx IssuedSession := do
  raiseIf (presented = "") { kind := .tokenInvalid, message := "refresh token is missing" }
  match ← getByRefreshHash (hashRefreshToken env presented) with
  | none => raise { kind := .tokenInvalid, message := "refresh token is invalid" }
  | some (id, held) =>
    if held.revokedAt ≠ none then handleReuse env id held client draws now
    else transaction (rotateLive env id held client draws now)

/-! ## Logout -/

/-- Revoke the session behind a token, and its family: how many were live. -/
def endFamily (id : Nat) (held : AuthSession) (now : Time) : Tx Nat := do
  revoke id held .logout now
  let count ← revokeFamily id held .logout now
  return count + if held.Live then 1 else 0

/-- Log out. A token that names no session is logged out already. -/
def logout (env : Deployment) (refreshToken : String) (now : Time) : Tx Nat := do
  if refreshToken = "" then return 0
  else
    match ← getByRefreshHash (hashRefreshToken env refreshToken) with
    | none => return 0
    | some (id, held) => transaction (endFamily id held now)

end NovaCommerce.Identity
