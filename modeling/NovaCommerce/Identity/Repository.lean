import NovaCommerce.Identity.Security

/-!
# Accounts and sessions: reads and writes

* `findByIdentifier`, `withAuthorization` : the account behind a login, and its roles;
* `getByRefreshHash`, `insertSession`, `revoke` : one session;
* `rotationChain`, `familySessionIds`, `revokeFamily` : the sessions that `rotated_from` links.

A write takes the locks that its statement takes; no statement takes them earlier.
-/

namespace NovaCommerce.Identity

open Sql

/-! ## Accounts -/

def Db.userByUsername (env : Deployment) (d : Db) (username : String) : Option (Nat × User) :=
  d.users.find? fun u => env.lowerText u.username = env.lowerText (strip username)

def Db.userByEmail (env : Deployment) (d : Db) (email : String) : Option (Nat × User) :=
  d.users.find? fun u => decide (∃ e ∈ u.email, env.lowerText e = env.lowerText (strip email))

def Db.userByPhone (d : Db) (phone : String) : Option (Nat × User) :=
  d.users.find? fun u => u.phone = some phone

/-- The account of a login identifier: by username, by email, or by phone. -/
def findByIdentifier (env : Deployment) (identifier : String) : Tx (Option (Nat × User)) := do
  let cleaned := strip identifier
  if cleaned = "" then return none
  else
    match ← query fun d => d.userByUsername env cleaned with
    | some found => return some found
    | none =>
      match ← query fun d => d.userByEmail env cleaned with
      | some found => return some found
      | none => query fun d => d.userByPhone cleaned

/-- The roles that a user was given. -/
def Db.rolesOf (d : Db) (userId : Nat) : List Role :=
  (d.userRoles.select fun link => link.userId = userId).filterMap fun link => d.roles.get? link.2.roleId

/-- `get_with_authorization`: the account and its roles. -/
def Db.withAuthorization (d : Db) (userId : Nat) : Option (User × List Role) :=
  (d.users.get? userId).map fun user => (user, d.rolesOf userId)

/-- `UPDATE users` of one row. -/
def writeUser (id : Nat) (f : User → User) : Tx Unit := do
  let _ ← lock (fun _ => [RowLock.user id]) fun d => d.users.get? id
  update fun d => { d with users := d.users.modify id f }

/-- `register_failed_login`, from the row the session holds. -/
def User.failedBy (held : User) (env : Deployment) (now : Time) (row : User) : User :=
  let failed := held.failedLoginAttempts + 1
  if env.settings.loginMaxFailures ≤ failed then
    { row with
      failedLoginAttempts := failed
      lockedUntil := some (now + env.settings.loginLockoutSeconds * 1000)
      status := .locked }
  else { row with failedLoginAttempts := failed }

/-- `register_successful_login`: a column that the held row already has is not written. -/
def User.succeededBy (held : User) (now : Time) (row : User) : User :=
  { row with
    failedLoginAttempts := if held.failedLoginAttempts = 0 then row.failedLoginAttempts else 0
    lockedUntil := if held.lockedUntil = none then row.lockedUntil else none
    status := if held.status = .locked then .active else row.status
    lastLoginAt := some now }

/-- `update_password`. -/
def User.withPassword (passwordHash : String) (now : Time) (row : User) : User :=
  { row with passwordHash := passwordHash, passwordChangedAt := some now }

/-! ## Sessions -/

/-- The session of a refresh token. -/
def Db.sessionByRefreshHash (d : Db) (hash : String) : Option (Nat × AuthSession) :=
  d.sessions.find? fun s => s.refreshTokenHash = hash

def getByRefreshHash (hash : String) : Tx (Option (Nat × AuthSession)) := query fun d => d.sessionByRefreshHash hash

def sessionViolation : AppError := { kind := .operational, message := "Check constraint 'auth_sessions' is violated." }

/-- `UPDATE auth_sessions` of one row, under its CHECK constraint. -/
def writeSession (id : Nat) (f : AuthSession → AuthSession) : Tx Unit := do
  let row ← lock (fun _ => [RowLock.session id]) fun d => d.sessions.get? id
  raiseIf (∃ s ∈ row, ¬ (f s).Checked) sessionViolation
  update fun d => { d with sessions := d.sessions.modify id f }

/-- Revoke a session, when the held row says that it is live. -/
def revoke (id : Nat) (held : AuthSession) (reason : SessionRevokeReason) (when_ : Time) : Tx Unit :=
  if held.revokedAt = none then writeSession id (AuthSession.revokedBy reason when_) else return ()

def touch (id : Nat) (when_ : Time) : Tx Unit := writeSession id fun row => { row with lastUsedAt := some when_ }

/-- One of the three unique keys of a session is used. -/
def Db.sessionKeysTaken (d : Db) (s : AuthSession) : Bool :=
  (d.sessions.find? fun row => decide (row.sessionId = s.sessionId ∨ row.refreshTokenHash = s.refreshTokenHash ∨
    row.jti = s.jti)).isSome

/-- Insert a session under its unique keys. -/
def insertSession (s : AuthSession) : Tx Nat := do
  let taken ← lock (fun _ => [RowLock.sessionId s.sessionId, RowLock.refreshTokenHash s.refreshTokenHash, RowLock.jti s.jti])
    fun d => d.sessionKeysTaken s
  let id ← newId
  raiseIf (taken = true) { kind := .integrity, message := "Duplicate entry for key 'auth_sessions'" }
  update fun d => { d with sessions := d.sessions.set id s }
  return id

/-! ## Families -/

/-- `MAX_ROTATION_CHAIN_DEPTH`, the depth of every walk. -/
def maxRotationChainDepth : Nat := 50

/-- Up the `rotated_from` links, to a session that has none, is gone, or was passed before. -/
def climb : Nat → List Nat → AuthSession → Tx (List Nat)
  | 0, chain, _ => return chain
  | depth + 1, chain, current => do
    match current.rotatedFrom with
    | none => return chain
    | some parentId =>
      match ← query fun d => d.sessions.get? parentId with
      | none => return chain
      | some parent => if parentId ∈ chain then return chain else climb depth (chain ++ [parentId]) parent

/-- `rotation_chain`: the session and its predecessors. -/
def rotationChain (id : Nat) (s : AuthSession) : Tx (List Nat) := climb maxRotationChainDepth [id] s

/-- The successors of any of the sessions. -/
def Db.successorsOf (d : Db) (ids : List Nat) : List Nat :=
  (d.sessions.select fun s => decide (∃ p ∈ s.rotatedFrom, p ∈ ids)).map Prod.fst

/-- Down the links, one generation a statement. -/
def descend : Nat → List Nat → List Nat → Tx (List Nat)
  | 0, ids, _ => return ids
  | depth + 1, ids, frontier =>
    if frontier = [] then return ids
    else do
      let rows ← query fun d => d.successorsOf frontier
      let fresh := rows.filter fun id => decide (id ∉ ids)
      descend depth (ids ++ fresh) fresh

/-- `family_session_ids`: the chain up, and everything below it. -/
def familySessionIds (id : Nat) (s : AuthSession) : Tx (List Nat) := do
  let chain ← rotationChain id s
  descend maxRotationChainDepth chain chain

/-- The live sessions among some ids. -/
def Db.liveAmong (d : Db) (ids : List Nat) : List (Nat × AuthSession) :=
  (ids.filterMap fun id => (d.sessions.get? id).map fun s => (id, s)).filter fun e => decide e.2.Live

/-- `UPDATE auth_sessions` of the live sessions among some ids: how many there were. -/
def revokeLive (ids : List Nat) (reason : SessionRevokeReason) (now : Time) : Tx Nat := do
  let live ← lock (fun d => (d.liveAmong ids).map fun e => RowLock.session e.1) fun d => d.liveAmong ids
  raiseIf (∃ e ∈ live, ¬ (e.2.revokedBy reason now).Checked) sessionViolation
  update fun d => { d with
    sessions := d.sessions.adjust fun id s => if id ∈ ids ∧ s.Live then s.revokedBy reason now else s }
  return live.length

/-- `revoke_family`. -/
def revokeFamily (id : Nat) (s : AuthSession) (reason : SessionRevokeReason) (now : Time) : Tx Nat := do
  let ids ← familySessionIds id s
  revokeLive ids reason now

/-! ## What they read -/

/-- The chain that `climb` walks, on one database. -/
def Db.climb (d : Db) : Nat → List Nat → AuthSession → List Nat
  | 0, chain, _ => chain
  | depth + 1, chain, current =>
    match current.rotatedFrom with
    | none => chain
    | some parentId =>
      match d.sessions.get? parentId with
      | none => chain
      | some parent => if parentId ∈ chain then chain else d.climb depth (chain ++ [parentId]) parent

/-- What `descend` adds to some ids, on one database. -/
def Db.descend (d : Db) : Nat → List Nat → List Nat → List Nat
  | 0, ids, _ => ids
  | depth + 1, ids, frontier =>
    if frontier = [] then ids
    else
      let fresh := (d.successorsOf frontier).filter fun id => decide (id ∉ ids)
      d.descend depth (ids ++ fresh) fresh

/-- The family of a session, as far as the walks reach. -/
def Db.familyIds (d : Db) (id : Nat) (s : AuthSession) : List Nat :=
  let chain := d.climb maxRotationChainDepth [id] s
  d.descend maxRotationChainDepth chain chain

theorem run_climb (e : Exec Db) : ∀ (depth : Nat) (chain : List Nat) (current : AuthSession),
    (climb depth chain current).run e = (.ok (e.view.climb depth chain current), e) := by
  intro depth
  induction depth with
  | zero => exact fun _ _ => rfl
  | succ depth ih =>
    intro chain current
    unfold climb Db.climb
    cases current.rotatedFrom with
    | none => rfl
    | some parentId =>
      dsimp only
      rw [run_bind, run_query, andThen_ok]
      cases e.view.sessions.get? parentId with
      | none => rfl
      | some parent =>
        dsimp only
        split_ifs
        · rfl
        · exact ih _ _

theorem run_descend (e : Exec Db) : ∀ (depth : Nat) (ids frontier : List Nat),
    (descend depth ids frontier).run e = (.ok (e.view.descend depth ids frontier), e) := by
  intro depth
  induction depth with
  | zero => exact fun _ _ => rfl
  | succ depth ih =>
    intro ids frontier
    unfold descend Db.descend
    split_ifs
    · rfl
    · rw [run_bind, run_query, andThen_ok]
      exact ih _ _

theorem run_familySessionIds (id : Nat) (s : AuthSession) (e : Exec Db) :
    (familySessionIds id s).run e = (.ok (e.view.familyIds id s), e) := by
  unfold familySessionIds rotationChain
  rw [run_bind, run_climb, andThen_ok, run_descend]
  rfl

/-! ## What they write -/

theorem run_writeUser (id : Nat) (f : User → User) (e : Exec Db) :
    (writeUser id f).run e = (.ok (), { e with view := { e.view with users := e.view.users.modify id f } }) := by
  unfold writeUser
  rw [run_bind, run_lock, andThen_ok, run_update]

theorem writeSession_eq_ok {id : Nat} {f : AuthSession → AuthSession} {e e' : Exec Db} {u : Unit} :
    (writeSession id f).run e = (.ok u, e') ↔
      (∀ s, e.view.sessions.get? id = some s → (f s).Checked) ∧
        e' = { e with view := { e.view with sessions := e.view.sessions.modify id f } } := by
  unfold writeSession
  rw [run_bind, run_lock, andThen_ok, run_bind_eq_ok]
  simp only [run_raiseIf_eq_ok, run_update, Prod.mk.injEq, Option.mem_def, not_exists, not_and, not_not]
  constructor
  · rintro ⟨_, e₁, ⟨hc, rfl⟩, _, rfl⟩
    exact ⟨hc, rfl⟩
  · rintro ⟨hc, rfl⟩
    exact ⟨(), e, ⟨hc, rfl⟩, trivial, rfl⟩

theorem insertSession_eq_ok {s : AuthSession} {e e' : Exec Db} {id : Nat} :
    (insertSession s).run e = (.ok id, e') ↔
      e.view.sessionKeysTaken s = false ∧ id = e.next ∧
        e' = { e with view := { e.view with sessions := e.view.sessions.set e.next s }, next := e.next + 1 } := by
  unfold insertSession
  rw [run_bind, run_lock, andThen_ok, run_bind, run_newId, andThen_ok, run_bind_eq_ok]
  simp only [run_raiseIf_eq_ok, Bool.not_eq_true]
  constructor
  · rintro ⟨_, e₁, ⟨hfree, rfl⟩, h⟩
    cases h
    exact ⟨hfree, rfl, rfl⟩
  · rintro ⟨hfree, rfl, rfl⟩
    exact ⟨(), _, ⟨hfree, rfl⟩, rfl⟩

theorem sessionByRefreshHash_some {d : Db} {hash : String} {id : Nat} {s : AuthSession}
    (h : d.sessionByRefreshHash hash = some (id, s)) : d.sessions.get? id = some s ∧ s.refreshTokenHash = hash := by
  obtain ⟨hget, hp⟩ := Dict.find?_some h
  exact ⟨hget, of_decide_eq_true hp⟩

theorem not_sessionKeysTaken {d : Db} {s : AuthSession} (h : d.sessionKeysTaken s = false) {i : Nat} {row : AuthSession}
    (hrow : d.sessions.get? i = some row) :
    row.sessionId ≠ s.sessionId ∧ row.refreshTokenHash ≠ s.refreshTokenHash ∧ row.jti ≠ s.jti := by
  have hnone : d.sessions.find? (fun row => decide (row.sessionId = s.sessionId ∨
      row.refreshTokenHash = s.refreshTokenHash ∨ row.jti = s.jti)) = none := by
    rw [Db.sessionKeysTaken, Option.isSome_eq_false_iff, Option.isNone_iff_eq_none] at h
    exact h
  have hnot := Dict.find?_none.mp hnone (i, row) (Dict.get?_eq_some.mp hrow)
  rw [decide_eq_true_eq, not_or, not_or] at hnot
  exact hnot

/-! ## What commits -/

section

variable (env : Deployment)

@[grind .] theorem noCommit_findByIdentifier (identifier : String) : (findByIdentifier env identifier).NoCommit := by
  unfold findByIdentifier
  grind

@[grind .] theorem noCommit_writeUser (id : Nat) (f : User → User) : (writeUser id f).NoCommit := by
  unfold writeUser
  grind

@[grind .] theorem noCommit_getByRefreshHash (hash : String) : (getByRefreshHash hash).NoCommit := noCommit_query _

@[grind .] theorem noCommit_writeSession (id : Nat) (f : AuthSession → AuthSession) : (writeSession id f).NoCommit := by
  unfold writeSession
  grind

@[grind .] theorem noCommit_revoke (id : Nat) (held : AuthSession) (reason : SessionRevokeReason) (when_ : Time) :
    (revoke id held reason when_).NoCommit := by
  unfold revoke
  grind

@[grind .] theorem noCommit_touch (id : Nat) (when_ : Time) : (touch id when_).NoCommit := noCommit_writeSession _ _

@[grind .] theorem noCommit_insertSession (s : AuthSession) : (insertSession s).NoCommit := by
  unfold insertSession
  grind

theorem noCommit_climb : ∀ (depth : Nat) (chain : List Nat) (current : AuthSession), (climb depth chain current).NoCommit := by
  intro depth
  induction depth with
  | zero => exact fun _ _ => noCommit_pure _
  | succ depth ih =>
    intro chain current
    unfold climb
    grind

theorem noCommit_descend : ∀ (depth : Nat) (ids frontier : List Nat), (descend depth ids frontier).NoCommit := by
  intro depth
  induction depth with
  | zero => exact fun _ _ => noCommit_pure _
  | succ depth ih =>
    intro ids frontier
    unfold descend
    split_ifs
    · exact noCommit_pure _
    · exact .bind (noCommit_query _) fun rows => ih _ _

@[grind .] theorem noCommit_familySessionIds (id : Nat) (s : AuthSession) : (familySessionIds id s).NoCommit :=
  .bind (noCommit_climb _ _ _) fun _ => noCommit_descend _ _ _

@[grind .] theorem noCommit_revokeLive (ids : List Nat) (reason : SessionRevokeReason) (now : Time) :
    (revokeLive ids reason now).NoCommit := by
  unfold revokeLive
  grind

@[grind .] theorem noCommit_revokeFamily (id : Nat) (s : AuthSession) (reason : SessionRevokeReason) (now : Time) :
    (revokeFamily id s reason now).NoCommit := .bind (noCommit_familySessionIds _ _) fun _ => noCommit_revokeLive _ _ _

end

end NovaCommerce.Identity
