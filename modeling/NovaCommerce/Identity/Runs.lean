import NovaCommerce.Identity.Service

/-!
# Runs of the identity module

* `Request` : one request over HTTP, a session of its own; `Site.after env s request n` : the site after it was lost behind
  its first `n` statements, `Site.run` : after a list of them;
* `Effect` : what a request commits when it commits (`request_effect`);
* `AuthSession.Follows` : what becomes of a session (`Effect.sessions`, `run_sessions`);
* `Site.Sound` : ids are drawn in order, and a refresh token names one session; every run keeps it (`sound_run`).
-/

namespace NovaCommerce.Identity

open Sql

/-! ## Requests -/

/-- A request. The database session behind it is closed when it ends, whatever was not committed is rolled back. -/
inductive Request where
  | login (identifier password : String) (client : Client) (draws : Draws) (now : Time)
  | rotate (presented : String) (client : Client) (draws : Draws) (now : Time)
  | logout (refreshToken : String) (now : Time)

/-- The first `n` statements of a request. -/
def Request.lost (env : Deployment) (request : Request) (n : Nat) (e : Exec Db) : Exec Db :=
  match request with
  | .login identifier password client draws now => runFor n (Identity.login env identifier password client draws now) e
  | .rotate presented client draws now => runFor n (Identity.rotate env presented client draws now) e
  | .logout refreshToken now => runFor n (Identity.logout env refreshToken now) e

/-- The committed database, and the next id to be drawn. -/
structure Site where
  db : Db
  next : Nat

/-- The site after a request was lost behind its first `n` statements. -/
def Site.after (env : Deployment) (s : Site) (request : Request) (n : Nat) : Site :=
  let e := request.lost env n (Exec.start s.db s.next)
  ⟨e.committed, e.next⟩

/-- A request to its end. -/
def Request.ended (env : Deployment) (request : Request) (e : Exec Db) : Exec Db :=
  match request with
  | .login identifier password client draws now => ((Identity.login env identifier password client draws now).run e).2
  | .rotate presented client draws now => ((Identity.rotate env presented client draws now).run e).2
  | .logout refreshToken now => ((Identity.logout env refreshToken now).run e).2

/-- The site after a request has ended. -/
def Site.ended (env : Deployment) (s : Site) (request : Request) : Site :=
  let e := request.ended env (Exec.start s.db s.next)
  ⟨e.committed, e.next⟩

/-- The site after a list of requests. -/
def Site.run (env : Deployment) : List (Request × Nat) → Site → Site
  | [], s => s
  | (request, n) :: requests, s => Site.run env requests (s.after env request n)

/-! ## What a request commits -/

/-- The account after its password was rehashed, when it had to be. -/
def User.rehashed (held : User) (env : Deployment) (draws : Draws) (password : String) (now : Time) (row : User) : User :=
  if env.argonNeedsRehash held.passwordHash = true then row.withPassword (env.argonHash draws.salt password) now else row

/-- The account after a login. -/
def User.loggedIn (held : User) (env : Deployment) (draws : Draws) (password : String) (now : Time) (row : User) : User :=
  (held.rehashed env draws password now held).succeededBy now (held.rehashed env draws password now row)

/-- The database after a session was revoked, when the held row says that it was live. -/
def Db.revoked (d : Db) (id : Nat) (held : AuthSession) (reason : SessionRevokeReason) (now : Time) : Db :=
  if held.revokedAt = none then { d with sessions := d.sessions.modify id (AuthSession.revokedBy reason now) } else d

theorem revoked_live (d : Db) (id : Nat) {held : AuthSession} (h : held.Live) (reason : SessionRevokeReason) (now : Time) :
    d.revoked id held reason now = { d with sessions := d.sessions.modify id (AuthSession.revokedBy reason now) } := if_pos h

/-- The database after the live sessions of a family were revoked. -/
def Db.familyRevoked (d : Db) (id : Nat) (held : AuthSession) (reason : SessionRevokeReason) (now : Time) : Db :=
  { d with
    sessions := d.sessions.adjust fun i s => if i ∈ d.familyIds id held ∧ s.Live then s.revokedBy reason now else s }

/-- The successor of a session that is rotated. -/
def successor (env : Deployment) (id : Nat) (held : AuthSession) (client : Client) (draws : Draws) (now : Time) : AuthSession :=
  newSession env held.userId draws now
    { client with userAgent := if client.userAgent.getD "" = "" then held.userAgent else client.userAgent } "REFRESH" (some id)

/-- What a login that opens a session was decided on. -/
structure Admitted (env : Deployment) (d : Db) (userId : Nat) (user : User) (password : String) (now : Time) : Prop where
  account : d.users.get? userId = some user
  allowed : guardLoginAllowed env user.status user.failedLoginAttempts = .ok ()
  unlocked : ∀ t ∈ user.lockedUntil, t ≤ now
  verified : verifyPassword env password user.passwordHash = true
  undeleted : user.deletedAt = none

/-- What a rotation was decided on. -/
structure Rotatable (d : Db) (held : AuthSession) (now : Time) : Prop where
  live : held.Live
  unexpired : now < held.expiresAt
  account : ∃ user roles, d.withAuthorization held.userId = some (user, roles) ∧ user.deletedAt = none ∧
    user.status ≠ .disabled ∧ user.status ≠ .inactive ∧ (user.status = .locked → ∃ t ∈ user.lockedUntil, t ≤ now)

/-- What a request commits when it commits. -/
inductive Effect (env : Deployment) (next : Nat) (d : Db) : Request → Nat → Db → Prop where
  | loggedIn {identifier password : String} {client : Client} {draws : Draws} {now : Time} {userId : Nat} {user : User}
      (admitted : Admitted env d userId user password now)
      (free : d.sessionKeysTaken (newSession env userId draws now client "API" none) = false) :
      Effect env next d (.login identifier password client draws now) (next + 1) { d with
        users := d.users.modify userId (user.loggedIn env draws password now)
        sessions := d.sessions.set next (newSession env userId draws now client "API" none) }
  | rotated {presented : String} {client : Client} {draws : Draws} {now : Time} {id : Nat} {held : AuthSession}
      (found : d.sessionByRefreshHash (hashRefreshToken env presented) = some (id, held)) (rotatable : Rotatable d held now)
      (checked : (held.revokedBy .rotated now).Checked)
      (free : (d.revoked id held .rotated now).sessionKeysTaken (successor env id held client draws now) = false) :
      Effect env next d (.rotate presented client draws now) (next + 1) { d with
        sessions := (d.sessions.modify id (AuthSession.revokedBy .rotated now)).set next
          (successor env id held client draws now) }
  | loggedOut {refreshToken : String} {now : Time} {id : Nat} {held : AuthSession}
      (found : d.sessionByRefreshHash (hashRefreshToken env refreshToken) = some (id, held)) :
      Effect env next d (.logout refreshToken now) next
        ((d.revoked id held .logout now).familyRevoked id held .logout now)

/-! ## What the operations do -/

theorem revoke_eq_ok {id : Nat} {held : AuthSession} {reason : SessionRevokeReason} {now : Time} {e e' : Exec Db} {u : Unit}
    (h : (revoke id held reason now).run e = (.ok u, e')) : e' = { e with view := e.view.revoked id held reason now } := by
  unfold revoke at h
  unfold Db.revoked
  split_ifs at h ⊢ with hlive
  · exact (writeSession_eq_ok.mp h).2
  · cases h
    rfl

theorem revokeFamily_eq_ok {id : Nat} {held : AuthSession} {reason : SessionRevokeReason} {now : Time} {e e' : Exec Db}
    {count : Nat} (h : (revokeFamily id held reason now).run e = (.ok count, e')) :
    e' = { e with view := e.view.familyRevoked id held reason now } := by
  unfold revokeFamily revokeLive at h
  rw [run_bind, run_familySessionIds, andThen_ok, run_bind, run_lock, andThen_ok, run_bind_eq_ok] at h
  obtain ⟨_, e₁, hchecked, h⟩ := h
  rw [run_raiseIf_eq_ok] at hchecked
  obtain ⟨-, rfl⟩ := hchecked
  cases h
  rfl

/-- What is issued is inserted. -/
structure Issued (env : Deployment) (draws : Draws) (session : AuthSession) (e e' : Exec Db) (issued : IssuedSession) :
    Prop where
  free : e.view.sessionKeysTaken session = false
  id : issued.id = e.next
  row : issued.session = session
  refreshToken : issued.refreshToken = draws.refreshToken
  expiry : issued.refreshExpiresAt = session.expiresAt
  state : e' = { e with view := { e.view with sessions := e.view.sessions.set e.next session }, next := e.next + 1 }

theorem issue_eq_ok {env : Deployment} {principal : Principal} {user : User} {draws : Draws} {session : AuthSession} {now : Time}
    {e e' : Exec Db} {issued : IssuedSession} (h : (issue env principal user draws session now).run e = (.ok issued, e')) :
    Issued env draws session e e' issued := by
  unfold issue at h
  rw [run_bind_eq_ok] at h
  obtain ⟨id, e₁, hinsert, h⟩ := h
  obtain ⟨hfree, rfl, rfl⟩ := insertSession_eq_ok.mp hinsert
  cases h
  exact ⟨hfree, rfl, rfl, rfl, rfl, rfl⟩

theorem rehash_eq_ok {env : Deployment} {userId : Nat} {user user' : User} {password : String} {draws : Draws} {now : Time}
    {e e' : Exec Db} (h : (openSession.rehash env userId user password draws now).run e = (.ok user', e')) :
    user' = user.rehashed env draws password now user ∧
      e' = { e with view := { e.view with users := e.view.users.modify userId (user.rehashed env draws password now) } } := by
  unfold openSession.rehash at h
  split_ifs at h with hneeds
  · rw [run_bind_eq_ok] at h
    obtain ⟨hash, e₁, hhash, h⟩ := h
    rw [run_ofExcept_eq_ok] at hhash
    obtain ⟨hhash, rfl⟩ := hhash
    unfold hashPassword at hhash
    rw [Raise.bind_eq_ok] at hhash
    obtain ⟨_, -, hhash⟩ := hhash
    cases hhash
    rw [run_bind, run_writeUser, andThen_ok] at h
    cases h
    have hf : user.rehashed env draws password now = User.withPassword (env.argonHash draws.salt password) now := by
      funext row
      exact if_pos hneeds
    rw [hf]
    exact ⟨rfl, rfl⟩
  · cases h
    have hf : user.rehashed env draws password now = id := by
      funext row
      exact if_neg hneeds
    rw [hf, Dict.modify_id]
    exact ⟨rfl, rfl⟩

/-- What a login that verified the password did. -/
theorem openSession_eq_ok {env : Deployment} {userId : Nat} {user : User} {password : String} {client : Client} {draws : Draws}
    {now : Time} {e e' : Exec Db} {issued : IssuedSession}
    (h : (openSession env userId user password client draws now).run e = (.ok issued, e')) :
    Issued env draws (newSession env userId draws now client "API" none)
      { e with view := { e.view with users := e.view.users.modify userId (user.loggedIn env draws password now) } } e' issued := by
  unfold openSession at h
  rw [run_bind_eq_ok] at h
  obtain ⟨user', e₁, hrehash, h⟩ := h
  obtain ⟨rfl, rfl⟩ := rehash_eq_ok hrehash
  rw [run_bind, run_writeUser, andThen_ok] at h
  dsimp only at h
  rw [run_bind, run_query, andThen_ok, Dict.modify_modify] at h
  exact issue_eq_ok h

/-- What a rotation of a live session did. -/
theorem rotateLive_eq_ok {env : Deployment} {id : Nat} {held : AuthSession} {client : Client} {draws : Draws} {now : Time}
    {e e' : Exec Db} {issued : IssuedSession} (hrow : e.view.sessions.get? id = some held) (hlive : held.Live)
    (h : (rotateLive env id held client draws now).run e = (.ok issued, e')) :
    Rotatable e.view held now ∧ (held.revokedBy .rotated now).Checked ∧
      Issued env draws (successor env id held client draws now)
        { e with view := e.view.revoked id held .rotated now } e' issued := by
  have hraise : ∀ {reason : SessionRevokeReason} {x : AppError},
      ((revoke id held reason now >>= fun _ => (raise x : Tx IssuedSession)).run e ≠ (.ok issued, e')) := by
    intro reason x hx
    rw [run_bind_eq_ok] at hx
    obtain ⟨_, e₁, -, hx⟩ := hx
    cases hx
  unfold rotateLive at h
  by_cases hexpired : held.expiresAt ≤ now
  · rw [if_pos hexpired] at h
    exact absurd h hraise
  rw [if_neg hexpired, run_bind, run_query, andThen_ok] at h
  cases haccount : e.view.withAuthorization held.userId with
  | none =>
    rw [haccount] at h
    exact absurd h hraise
  | some found =>
    obtain ⟨user, roles⟩ := found
    rw [haccount] at h
    dsimp only at h
    by_cases hdeleted : user.deletedAt ≠ none
    · rw [if_pos hdeleted] at h
      exact absurd h hraise
    rw [if_neg hdeleted] at h
    by_cases hdisabled : user.status = .disabled ∨ user.status = .inactive
    · rw [if_pos hdisabled] at h
      exact absurd h hraise
    rw [if_neg hdisabled] at h
    by_cases hlocked : user.status = .locked ∧ ∀ t ∈ user.lockedUntil, now < t
    · rw [if_pos hlocked] at h
      exact absurd h hraise
    rw [if_neg hlocked, run_bind_eq_ok] at h
    obtain ⟨_, e₁, hrevoke, h⟩ := h
    have hnone : held.revokedAt = none := hlive
    have hchecked : (held.revokedBy .rotated now).Checked := by
      unfold revoke at hrevoke
      rw [if_pos hnone] at hrevoke
      exact (writeSession_eq_ok.mp hrevoke).1 held hrow
    have hissued : Issued env draws (successor env id held client draws now) e₁ e' issued := issue_eq_ok h
    rw [revoke_eq_ok hrevoke] at hissued
    refine ⟨⟨hlive, not_le.mp hexpired, user, roles, haccount, not_not.mp hdeleted, ?_, ?_, ?_⟩, hchecked, hissued⟩
    · exact fun hstatus => hdisabled (.inl hstatus)
    · exact fun hstatus => hdisabled (.inr hstatus)
    · intro hstatus
      by_contra hnever
      refine hlocked ⟨hstatus, fun t ht => ?_⟩
      by_contra hle
      exact hnever ⟨t, ht, not_lt.mp hle⟩

/-- The tip of a family, on one database. -/
def Db.tip (d : Db) : Nat → Nat × AuthSession → Nat × AuthSession
  | 0, current => current
  | depth + 1, current =>
    match d.liveSuccessors current.1 with
    | [] => current
    | successor :: _ => d.tip depth successor

theorem run_familyTip (e : Exec Db) : ∀ (depth : Nat) (current : Nat × AuthSession),
    (familyTip depth current).run e = (.ok (e.view.tip depth current), e) := by
  intro depth
  induction depth with
  | zero => exact fun _ => rfl
  | succ depth ih =>
    intro current
    unfold familyTip Db.tip
    rw [run_bind, run_query, andThen_ok]
    cases e.view.liveSuccessors current.1 with
    | nil => rfl
    | cons successor rest => exact ih successor

/-- The database after the tip of a family was touched, when it is not the presented session. -/
def Db.touched (d : Db) (id tipId : Nat) (now : Time) : Db :=
  if tipId ≠ id then { d with sessions := d.sessions.modify tipId fun row => { row with lastUsedAt := some now } } else d

theorem withAuthorization_touched (d : Db) (id tipId : Nat) (now : Time) (userId : Nat) :
    (d.touched id tipId now).withAuthorization userId = d.withAuthorization userId := by
  unfold Db.touched
  split_ifs <;> rfl

/-- What a double submit gets: a successor of the tip. -/
structure Reissued (env : Deployment) (id : Nat) (client : Client) (draws : Draws) (now : Time) (tip : Nat × AuthSession)
    (e e' : Exec Db) (issued : IssuedSession) : Prop where
  account : ∃ user roles, e.view.withAuthorization tip.2.userId = some (user, roles) ∧ user.deletedAt = none
  issued : Issued env draws
    (newSession env tip.2.userId draws now { client with userAgent := tip.2.userAgent } "REFRESH" (some tip.1))
    { e with view := e.view.touched id tip.1 now } e' issued

/-- The successor is issued to the account of the tip. -/
theorem reissueFromTip_eq_ok {env : Deployment} {id tipId : Nat} {tip : AuthSession} {client : Client} {draws : Draws}
    {now : Time} {e e' : Exec Db} {issued : IssuedSession}
    (hrun : (do
      match ← query fun d => d.withAuthorization tip.userId with
      | none => raise accountDisabled
      | some (user, roles) =>
        raiseIf (user.deletedAt ≠ none) accountDisabled
        let principal := buildPrincipal tip.userId user roles tip.sessionId
        issue env principal user draws
          (newSession env tip.userId draws now { client with userAgent := tip.userAgent } "REFRESH" (some tipId)) now
      : Tx IssuedSession).run { e with view := e.view.touched id tipId now } = (.ok issued, e')) :
    Reissued env id client draws now (tipId, tip) e e' issued := by
  rw [run_bind, run_query, andThen_ok] at hrun
  dsimp only at hrun
  rw [withAuthorization_touched] at hrun
  cases haccount : e.view.withAuthorization tip.userId with
  | none =>
    rw [haccount] at hrun
    cases hrun
  | some found =>
    obtain ⟨user, roles⟩ := found
    rw [haccount] at hrun
    dsimp only at hrun
    rw [run_bind_eq_ok] at hrun
    obtain ⟨_, e₁, hundeleted, hrun⟩ := hrun
    rw [run_raiseIf_eq_ok, not_not] at hundeleted
    obtain ⟨hundeleted, rfl⟩ := hundeleted
    exact ⟨⟨user, roles, haccount, hundeleted⟩, issue_eq_ok hrun⟩

theorem reissueFromChain_eq_ok {env : Deployment} {id : Nat} {held : AuthSession} {client : Client} {draws : Draws} {now : Time}
    {e e' : Exec Db} {issued : IssuedSession}
    (h : (reissueFromChain env id held client draws now).run e = (.ok issued, e')) :
    Reissued env id client draws now (e.view.tip maxRotationChainDepth (id, held)) e e' issued := by
  unfold reissueFromChain at h
  rw [run_bind, run_familyTip, andThen_ok] at h
  generalize e.view.tip maxRotationChainDepth (id, held) = tip at h ⊢
  obtain ⟨tipId, tip⟩ := tip
  dsimp only at h
  by_cases hother : tipId ≠ id
  · rw [if_pos hother, run_bind_eq_ok] at h
    obtain ⟨_, e₁, hwrite, h⟩ := h
    obtain ⟨-, rfl⟩ := writeSession_eq_ok.mp hwrite
    refine reissueFromTip_eq_ok ?_
    unfold Db.touched
    rw [if_pos hother]
    exact h
  · rw [if_neg hother] at h
    refine reissueFromTip_eq_ok ?_
    unfold Db.touched
    rw [if_neg hother]
    exact h

/-! ## What commits -/

section

variable (env : Deployment) (client : Client) (draws : Draws) (now : Time)

@[grind .] theorem noCommit_issue (principal : Principal) (user : User) (session : AuthSession) :
    (issue env principal user draws session now).NoCommit := by
  unfold issue
  grind

theorem noCommit_openSession (userId : Nat) (user : User) (password : String) :
    (openSession env userId user password client draws now).NoCommit := by
  have hrehash : (openSession.rehash env userId user password draws now).NoCommit := by
    unfold openSession.rehash
    grind
  unfold openSession
  grind

theorem noCommit_rotateLive (id : Nat) (held : AuthSession) : (rotateLive env id held client draws now).NoCommit := by
  unfold rotateLive
  grind

theorem noCommit_familyTip : ∀ (depth : Nat) (current : Nat × AuthSession), (familyTip depth current).NoCommit := by
  intro depth
  induction depth with
  | zero => exact fun _ => noCommit_pure _
  | succ depth ih =>
    intro current
    unfold familyTip
    grind

/-- Nothing that is presented after its revocation is committed, whatever becomes of it. -/
theorem noCommit_handleReuse (id : Nat) (held : AuthSession) : (handleReuse env id held client draws now).NoCommit := by
  have hrotation : (familyIsRotationOnly id held).NoCommit := by
    unfold familyIsRotationOnly
    grind
  have htip := noCommit_familyTip maxRotationChainDepth (id, held)
  have hreissue : (reissueFromChain env id held client draws now).NoCommit := by
    unfold reissueFromChain
    grind
  unfold handleReuse
  dsimp only
  split_ifs
  · refine .bind hrotation fun rotated => ?_
    split_ifs
    · exact hreissue
    · exact .bind (noCommit_revokeFamily _ _ _ _) fun _ => noCommit_raise _
  · refine .bind (noCommit_pure _) fun rotated => ?_
    split_ifs
    · exact hreissue
    · exact .bind (noCommit_revokeFamily _ _ _ _) fun _ => noCommit_raise _

theorem noCommit_endFamily (id : Nat) (held : AuthSession) : (endFamily id held now).NoCommit := by
  unfold endFamily
  grind

end

theorem findByIdentifier_eq_ok {env : Deployment} {identifier : String} {e e' : Exec Db} {found : Option (Nat × User)}
    (h : (findByIdentifier env identifier).run e = (.ok found, e')) :
    e = e' ∧ ∀ id user, found = some (id, user) → e.view.users.get? id = some user := by
  unfold findByIdentifier at h
  dsimp only at h
  by_cases hblank : strip identifier = ""
  · rw [if_pos hblank] at h
    cases h
    exact ⟨rfl, fun _ _ hnone => nomatch hnone⟩
  rw [if_neg hblank, run_bind, run_query, andThen_ok] at h
  cases husername : e.view.userByUsername env (strip identifier) with
  | some entry =>
    rw [husername] at h
    cases h
    refine ⟨rfl, fun id user hfound => ?_⟩
    cases hfound
    exact (Dict.find?_some husername).1
  | none =>
    rw [husername] at h
    dsimp only at h
    rw [run_bind, run_query, andThen_ok] at h
    cases hemail : e.view.userByEmail env (strip identifier) with
    | some entry =>
      rw [hemail] at h
      cases h
      refine ⟨rfl, fun id user hfound => ?_⟩
      cases hfound
      exact (Dict.find?_some hemail).1
    | none =>
      rw [hemail] at h
      dsimp only at h
      rw [run_query] at h
      cases h
      exact ⟨rfl, fun id user hfound => (Dict.find?_some hfound).1⟩

/-- What a login that returned a session was decided on, and what it committed. -/
theorem login_eq_ok {env : Deployment} {identifier password : String} {client : Client} {draws : Draws} {now : Time}
    {e e' : Exec Db} {issued : IssuedSession}
    (h : (login env identifier password client draws now).run e = (.ok issued, e')) :
    ∃ userId user e₁, Admitted env e.view userId user password now ∧
      Issued env draws (newSession env userId draws now client "API" none)
        { e with view := { e.view with users := e.view.users.modify userId (user.loggedIn env draws password now) } } e₁ issued ∧
      e' = { e₁ with committed := e₁.view } := by
  unfold login at h
  rw [run_bind_eq_ok] at h
  obtain ⟨_, e₁, hgiven, h⟩ := h
  rw [run_raiseIf_eq_ok] at hgiven
  obtain ⟨-, rfl⟩ := hgiven
  rw [run_bind_eq_ok] at h
  obtain ⟨found, e₂, hfound, h⟩ := h
  obtain ⟨rfl, haccount⟩ := findByIdentifier_eq_ok hfound
  cases found with
  | none => cases h
  | some entry =>
    obtain ⟨userId, user⟩ := entry
    have hrow := haccount userId user rfl
    dsimp only at h
    rw [run_bind_eq_ok] at h
    obtain ⟨_, e₃, hallowed, h⟩ := h
    rw [run_ofExcept_eq_ok] at hallowed
    obtain ⟨hallowed, rfl⟩ := hallowed
    rw [run_bind_eq_ok] at h
    obtain ⟨_, e₄, hunlocked, h⟩ := h
    rw [run_raiseIf_eq_ok] at hunlocked
    obtain ⟨hunlocked, rfl⟩ := hunlocked
    by_cases hverified : verifyPassword env password user.passwordHash = true
    · rw [if_pos hverified, run_bind_eq_ok] at h
      obtain ⟨_, e₅, hundeleted, h⟩ := h
      rw [run_raiseIf_eq_ok, not_not] at hundeleted
      obtain ⟨hundeleted, rfl⟩ := hundeleted
      obtain ⟨e₁, hrun, rfl⟩ := run_transaction_eq_ok.mp h
      refine ⟨userId, user, e₁, ⟨hrow, hallowed, fun t ht => ?_, hverified, hundeleted⟩, openSession_eq_ok hrun, rfl⟩
      by_contra hlocked
      exact hunlocked ⟨t, ht, not_le.mp hlocked⟩
    · rw [if_neg hverified, run_bind_eq_ok] at h
      obtain ⟨_, e₅, -, h⟩ := h
      cases h

theorem lastCommit_login (env : Deployment) (identifier password : String) (client : Client) (draws : Draws) (now : Time) :
    (login env identifier password client draws now).LastCommit := by
  unfold login
  generalize strip identifier = cleaned
  refine LastCommit.bind (noCommit_raiseIf _ _) fun _ => ?_
  refine LastCommit.bind (noCommit_findByIdentifier env cleaned) fun found => ?_
  cases found with
  | none => exact (noCommit_raise _).lastCommit
  | some entry =>
    obtain ⟨userId, user⟩ := entry
    refine LastCommit.bind (noCommit_ofExcept _) fun _ => ?_
    refine LastCommit.bind (noCommit_raiseIf _ _) fun _ => ?_
    by_cases hverified : verifyPassword env password user.passwordHash = true
    · rw [if_pos hverified]
      refine LastCommit.bind (noCommit_raiseIf _ _) fun _ => ?_
      exact lastCommit_transaction (noCommit_openSession _ _ _ _ _ _ _)
    · rw [if_neg hverified]
      exact (NoCommit.bind (noCommit_writeUser _ _) fun _ => noCommit_raise _).lastCommit

theorem login_leaves (env : Deployment) (identifier password : String) (client : Client) (draws : Draws) (now : Time) (d : Db)
    (next : Nat) : Leaves (login env identifier password client draws now) (Exec.start d next)
      fun next' d' => Effect env next d (.login identifier password client draws now) next' d' := by
  refine (lastCommit_login env identifier password client draws now).leaves fun issued e' h => .inr ?_
  obtain ⟨userId, user, e₁, hadmitted, hissued, rfl⟩ := login_eq_ok h
  rw [hissued.state]
  exact .loggedIn hadmitted hissued.free

/-- What a rotation that returned a session did. -/
theorem rotate_eq_ok {env : Deployment} {presented : String} {client : Client} {draws : Draws} {now : Time} {e e' : Exec Db}
    {issued : IssuedSession} (h : (rotate env presented client draws now).run e = (.ok issued, e')) :
    ∃ id held, e.view.sessionByRefreshHash (hashRefreshToken env presented) = some (id, held) ∧
      ((∃ e₁, Rotatable e.view held now ∧ (held.revokedBy .rotated now).Checked ∧
          Issued env draws (successor env id held client draws now)
            { e with view := e.view.revoked id held .rotated now } e₁ issued ∧ e' = { e₁ with committed := e₁.view }) ∨
        (¬ held.Live ∧ (handleReuse env id held client draws now).run e = (.ok issued, e'))) := by
  unfold rotate getByRefreshHash at h
  rw [run_bind_eq_ok] at h
  obtain ⟨_, e₁, hgiven, h⟩ := h
  rw [run_raiseIf_eq_ok] at hgiven
  obtain ⟨-, rfl⟩ := hgiven
  rw [run_bind, run_query, andThen_ok] at h
  cases hrow : e.view.sessionByRefreshHash (hashRefreshToken env presented) with
  | none =>
    rw [hrow] at h
    cases h
  | some entry =>
    obtain ⟨id, held⟩ := entry
    rw [hrow] at h
    dsimp only at h
    refine ⟨id, held, rfl, ?_⟩
    by_cases hrevoked : held.revokedAt ≠ none
    · rw [if_pos hrevoked] at h
      exact .inr ⟨hrevoked, h⟩
    · rw [if_neg hrevoked] at h
      obtain ⟨e₁, hrun, rfl⟩ := run_transaction_eq_ok.mp h
      obtain ⟨hrotatable, hchecked, hissued⟩ :=
        rotateLive_eq_ok (sessionByRefreshHash_some hrow).1 (not_not.mp hrevoked) hrun
      exact .inl ⟨e₁, hrotatable, hchecked, hissued, rfl⟩

theorem lastCommit_rotate (env : Deployment) (presented : String) (client : Client) (draws : Draws) (now : Time) :
    (rotate env presented client draws now).LastCommit := by
  unfold rotate
  refine LastCommit.bind (noCommit_raiseIf _ _) fun _ => ?_
  refine LastCommit.bind (noCommit_getByRefreshHash _) fun found => ?_
  cases found with
  | none => exact (noCommit_raise _).lastCommit
  | some entry =>
    dsimp only
    split_ifs
    · exact (noCommit_handleReuse _ _ _ _ _ _).lastCommit
    · exact lastCommit_transaction (noCommit_rotateLive _ _ _ _ _ _)

theorem rotate_leaves (env : Deployment) (presented : String) (client : Client) (draws : Draws) (now : Time) (d : Db)
    (next : Nat) : Leaves (rotate env presented client draws now) (Exec.start d next)
      fun next' d' => Effect env next d (.rotate presented client draws now) next' d' := by
  refine (lastCommit_rotate env presented client draws now).leaves fun issued e' h => ?_
  obtain ⟨id, held, hfound, ⟨e₁, hrotatable, hchecked, hissued, rfl⟩ | ⟨-, hreuse⟩⟩ := rotate_eq_ok h
  · refine .inr ?_
    have hfree := hissued.free
    rw [hissued.state]
    dsimp only [Exec.start]
    rw [revoked_live d id hrotatable.live]
    exact .rotated hfound hrotatable hchecked hfree
  · have hc := (noCommit_handleReuse env client draws now id held).run_committed (Exec.start d next)
    rw [hreuse] at hc
    exact .inl hc

theorem lastCommit_logout (env : Deployment) (refreshToken : String) (now : Time) :
    (logout env refreshToken now).LastCommit := by
  unfold logout
  split_ifs
  · exact (noCommit_pure _).lastCommit
  refine LastCommit.bind (noCommit_getByRefreshHash _) fun found => ?_
  cases found with
  | none => exact (noCommit_pure _).lastCommit
  | some entry => exact lastCommit_transaction (noCommit_endFamily _ _ _)

/-- What a logout committed. -/
theorem logout_eq_ok {env : Deployment} {refreshToken : String} {now : Time} {e e' : Exec Db} {count : Nat}
    (h : (logout env refreshToken now).run e = (.ok count, e')) :
    e' = e ∨ ∃ id held, e.view.sessionByRefreshHash (hashRefreshToken env refreshToken) = some (id, held) ∧
      e' = { e with
        view := (e.view.revoked id held .logout now).familyRevoked id held .logout now
        committed := (e.view.revoked id held .logout now).familyRevoked id held .logout now } := by
  unfold logout getByRefreshHash at h
  by_cases hblank : refreshToken = ""
  · rw [if_pos hblank] at h
    cases h
    exact .inl rfl
  rw [if_neg hblank, run_bind, run_query, andThen_ok] at h
  cases hrow : e.view.sessionByRefreshHash (hashRefreshToken env refreshToken) with
  | none =>
    rw [hrow] at h
    cases h
    exact .inl rfl
  | some entry =>
    obtain ⟨id, held⟩ := entry
    rw [hrow] at h
    obtain ⟨e₁, hrun, rfl⟩ := run_transaction_eq_ok.mp h
    unfold endFamily at hrun
    rw [run_bind_eq_ok] at hrun
    obtain ⟨_, e₂, hrevoke, hrun⟩ := hrun
    rw [run_bind_eq_ok] at hrun
    obtain ⟨family, e₃, hfamily, hrun⟩ := hrun
    rw [revoke_eq_ok hrevoke] at hfamily
    rw [revokeFamily_eq_ok hfamily] at hrun
    cases hrun
    exact .inr ⟨id, held, rfl, rfl⟩

theorem logout_leaves (env : Deployment) (refreshToken : String) (now : Time) (d : Db) (next : Nat) :
    Leaves (logout env refreshToken now) (Exec.start d next)
      fun next' d' => Effect env next d (.logout refreshToken now) next' d' := by
  refine (lastCommit_logout env refreshToken now).leaves fun count e' h => ?_
  rcases logout_eq_ok h with rfl | ⟨id, held, hfound, rfl⟩
  · exact .inl rfl
  · exact .inr (.loggedOut hfound)

/-- A request is lost without a trace, or commits its effect. -/
theorem request_effect (env : Deployment) (s : Site) (request : Request) (n : Nat) :
    ((s.after env request n).db = s.db ∧ s.next ≤ (s.after env request n).next) ∨
      ∃ next, next ≤ (s.after env request n).next ∧ Effect env s.next s.db request next (s.after env request n).db := by
  cases request with
  | login identifier password client draws now =>
    exact (login_leaves env identifier password client draws now s.db s.next n).imp
      (fun h => ⟨h, le_runFor_next n _ (Exec.start s.db s.next)⟩) id
  | rotate presented client draws now =>
    exact (rotate_leaves env presented client draws now s.db s.next n).imp
      (fun h => ⟨h, le_runFor_next n _ (Exec.start s.db s.next)⟩) id
  | logout refreshToken now =>
    exact (logout_leaves env refreshToken now s.db s.next n).imp
      (fun h => ⟨h, le_runFor_next n _ (Exec.start s.db s.next)⟩) id

/-- A request that ended was lost behind its last statement. -/
theorem exists_after_eq (env : Deployment) (s : Site) (request : Request) : ∃ n, s.after env request n = s.ended env request := by
  have hend : ∃ n, request.lost env n (Exec.start s.db s.next) = request.ended env (Exec.start s.db s.next) := by
    cases request with
    | login identifier password client draws now => exact exists_runFor_eq _ _
    | rotate presented client draws now => exact exists_runFor_eq _ _
    | logout refreshToken now => exact exists_runFor_eq _ _
  obtain ⟨n, hn⟩ := hend
  refine ⟨n, ?_⟩
  unfold Site.after Site.ended
  rw [hn]

/-! ## What becomes of a session -/

/-- A session is revoked once and for all, and a request that commits revokes it by a rotation or a logout. -/
structure AuthSession.Follows (s s' : AuthSession) : Prop where
  userId : s'.userId = s.userId
  sessionId : s'.sessionId = s.sessionId
  refreshTokenHash : s'.refreshTokenHash = s.refreshTokenHash
  jti : s'.jti = s.jti
  issuedAt : s'.issuedAt = s.issuedAt
  expiresAt : s'.expiresAt = s.expiresAt
  rotatedFrom : s'.rotatedFrom = s.rotatedFrom
  createdAt : s'.createdAt = s.createdAt
  revoked : ¬ s.Live → s'.revokedAt = s.revokedAt ∧ s'.revokedReason = s.revokedReason
  ended : s.Live → s'.Live ∨ s'.revokedReason = some .rotated ∨ s'.revokedReason = some .logout

theorem follows_refl (s : AuthSession) : s.Follows s where
  userId := rfl
  sessionId := rfl
  refreshTokenHash := rfl
  jti := rfl
  issuedAt := rfl
  expiresAt := rfl
  rotatedFrom := rfl
  createdAt := rfl
  revoked _ := ⟨rfl, rfl⟩
  ended := .inl

/-- A revoked session stays revoked. -/
theorem AuthSession.Follows.not_live {s s' : AuthSession} (h : s.Follows s') (hs : ¬ s.Live) : ¬ s'.Live := by
  unfold AuthSession.Live at hs ⊢
  rw [(h.revoked hs).1]
  exact hs

theorem AuthSession.Follows.trans {s t u : AuthSession} (h : s.Follows t) (h' : t.Follows u) : s.Follows u where
  userId := h'.userId.trans h.userId
  sessionId := h'.sessionId.trans h.sessionId
  refreshTokenHash := h'.refreshTokenHash.trans h.refreshTokenHash
  jti := h'.jti.trans h.jti
  issuedAt := h'.issuedAt.trans h.issuedAt
  expiresAt := h'.expiresAt.trans h.expiresAt
  rotatedFrom := h'.rotatedFrom.trans h.rotatedFrom
  createdAt := h'.createdAt.trans h.createdAt
  revoked hs := by
    have hstep := h'.revoked (h.not_live hs)
    have hfirst := h.revoked hs
    exact ⟨hstep.1.trans hfirst.1, hstep.2.trans hfirst.2⟩
  ended hs := by
    by_cases ht : t.Live
    · exact h'.ended ht
    · have hreason := (h.ended hs).resolve_left ht
      rw [(h'.revoked ht).2]
      exact .inr hreason

theorem follows_revokedBy {s : AuthSession} (hlive : s.Live) {reason : SessionRevokeReason}
    (hreason : reason = .rotated ∨ reason = .logout) (now : Time) : s.Follows (s.revokedBy reason now) where
  userId := rfl
  sessionId := rfl
  refreshTokenHash := rfl
  jti := rfl
  issuedAt := rfl
  expiresAt := rfl
  rotatedFrom := rfl
  createdAt := rfl
  revoked hs := absurd hlive hs
  ended _ := .inr (hreason.imp (congrArg some) (congrArg some))

/-- A session is opened live, by a login or from a live session of the same account. -/
def AuthSession.OpensFrom (d : Db) (s : AuthSession) : Prop :=
  s.Live ∧ ∀ p ∈ s.rotatedFrom, ∃ row, d.sessions.get? p = some row ∧ row.Live ∧ row.userId = s.userId

theorem grows_revoked {d : Db} {id : Nat} {held : AuthSession} (hrow : d.sessions.get? id = some held)
    (reason : SessionRevokeReason) (hreason : reason = .rotated ∨ reason = .logout) (now : Time) :
    Dict.Grows AuthSession.Follows (fun _ => False) d.sessions (d.revoked id held reason now).sessions := by
  unfold Db.revoked
  split_ifs with hlive
  · show Dict.Grows _ _ d.sessions (d.sessions.modify id (AuthSession.revokedBy reason now))
    refine Dict.grows_modify follows_refl fun row hget => ?_
    rw [hrow] at hget
    cases hget
    exact follows_revokedBy hlive hreason now
  · exact Dict.grows_refl follows_refl _

theorem grows_familyRevoked (d : Db) (id : Nat) (held : AuthSession) (reason : SessionRevokeReason)
    (hreason : reason = .rotated ∨ reason = .logout) (now : Time) :
    Dict.Grows AuthSession.Follows (fun _ => False) d.sessions (d.familyRevoked id held reason now).sessions := by
  show Dict.Grows _ _ d.sessions
    (d.sessions.adjust fun i s => if i ∈ d.familyIds id held ∧ s.Live then s.revokedBy reason now else s)
  apply Dict.grows_adjust
  intro i row _
  split_ifs with hmember
  · exact follows_revokedBy hmember.2 hreason now
  · exact follows_refl row

/-- What a request does to the sessions. -/
theorem Effect.sessions {env : Deployment} {next next' : Nat} {d d' : Db} {request : Request}
    (h : Effect env next d request next' d') (hfresh : d.FreshFrom next) :
    Dict.Grows AuthSession.Follows (AuthSession.OpensFrom d) d.sessions d'.sessions := by
  cases h with
  | loggedIn admitted free => exact Dict.grows_set follows_refl (hfresh next le_rfl) ⟨rfl, fun p hp => nomatch hp⟩
  | rotated found rotatable checked free =>
    rename_i presented client draws now id held
    have hrow := (sessionByRefreshHash_some found).1
    have hrevoked := grows_revoked hrow .rotated (.inl rfl) now
    rw [revoked_live d id rotatable.live] at hrevoked
    refine hrevoked.trans (fun _ _ _ h h' => h.trans h')
      (Dict.grows_set follows_refl (Dict.get?_modify_none (hfresh next le_rfl) _ _) ⟨rfl, fun p hp => ?_⟩)
    cases hp
    exact ⟨held, hrow, rotatable.live, rfl⟩
  | loggedOut found =>
    rename_i token now id held
    have hrow := (sessionByRefreshHash_some found).1
    have hrevoked := grows_revoked hrow .logout (.inr rfl) now
    have hfamily := grows_familyRevoked (d.revoked id held .logout now) id held .logout (.inr rfl) now
    exact (hrevoked.trans (fun _ _ _ h h' => h.trans h') hfamily).trans (fun _ _ _ h h' => h.trans h')
      (Dict.grows_refl follows_refl _)

/-! ## What every run keeps -/

/-- A refresh token names one session. -/
def Db.Named (d : Db) : Prop :=
  ∀ i j u v, d.sessions.get? i = some u → d.sessions.get? j = some v → u.refreshTokenHash = v.refreshTokenHash → i = j

/-- The token of a session names it. -/
theorem Db.Named.sessionByRefreshHash {d : Db} (hd : d.Named) {id : Nat} {row : AuthSession}
    (hrow : d.sessions.get? id = some row) : d.sessionByRefreshHash row.refreshTokenHash = some (id, row) := by
  cases hfind : d.sessionByRefreshHash row.refreshTokenHash with
  | none =>
    have hnot := Dict.find?_none.mp hfind (id, row) (Dict.get?_eq_some.mp hrow)
    exact absurd (decide_eq_true rfl) hnot
  | some entry =>
    obtain ⟨j, other⟩ := entry
    obtain ⟨hget, hhash⟩ := sessionByRefreshHash_some hfind
    obtain rfl : j = id := hd j id other row hget hrow hhash
    rw [hrow] at hget
    cases hget
    rfl

theorem Db.Named.of_grows {d d' : Db} (hd : d.Named)
    (h : Dict.Grows AuthSession.Follows (fun _ => False) d.sessions d'.sessions) : d'.Named := by
  intro i j u v hi hj hhash
  obtain ⟨u₀, hu₀, hu⟩ := (h.origin i u hi).resolve_right fun hnew => hnew.2
  obtain ⟨v₀, hv₀, hv⟩ := (h.origin j v hj).resolve_right fun hnew => hnew.2
  rw [hu.refreshTokenHash, hv.refreshTokenHash] at hhash
  exact hd i j u₀ v₀ hu₀ hv₀ hhash

theorem Db.Named.set {d : Db} (hd : d.Named) {s : AuthSession} (hfree : d.sessionKeysTaken s = false) (id : Nat) :
    Db.Named { d with sessions := d.sessions.set id s } := by
  intro i j u v hi hj hhash
  dsimp only at hi hj
  by_cases hid : i = id
  · by_cases hjd : j = id
    · exact hid.trans hjd.symm
    · subst hid
      rw [Dict.get?_set_self] at hi
      rw [Dict.get?_set_ne hjd] at hj
      cases hi
      exact absurd hhash.symm (not_sessionKeysTaken hfree hj).2.1
  · rw [Dict.get?_set_ne hid] at hi
    by_cases hjd : j = id
    · subst hjd
      rw [Dict.get?_set_self] at hj
      cases hj
      exact absurd hhash (not_sessionKeysTaken hfree hi).2.1
    · rw [Dict.get?_set_ne hjd] at hj
      exact hd i j u v hi hj hhash

/-- Ids are drawn in order, and a refresh token names one session. -/
structure Site.Sound (s : Site) : Prop where
  fresh : s.db.FreshFrom s.next
  named : s.db.Named

theorem Db.FreshFrom.mono {d : Db} {n m : Nat} (h : d.FreshFrom n) (hnm : n ≤ m) : d.FreshFrom m :=
  fun i hi => h i (hnm.trans hi)

theorem Db.FreshFrom.of_grows {d d' : Db} {n : Nat} (hd : d.FreshFrom n)
    (h : Dict.Grows AuthSession.Follows (fun _ => False) d.sessions d'.sessions) : d'.FreshFrom n := by
  intro i hi
  by_contra hsome
  obtain ⟨row, hrow⟩ := Option.ne_none_iff_exists'.mp hsome
  obtain ⟨old, hold, -⟩ := (h.origin i row hrow).resolve_right fun hnew => hnew.2
  rw [hd i hi] at hold
  cases hold

theorem Db.FreshFrom.set {d : Db} {n : Nat} (hd : d.FreshFrom n) (s : AuthSession) :
    Db.FreshFrom { d with sessions := d.sessions.set n s } (n + 1) := by
  intro i hi
  have hne : i ≠ n := by omega
  show (d.sessions.set n s).get? i = none
  rw [Dict.get?_set_ne hne]
  exact hd i (by omega)

/-- A commit keeps a site sound. -/
theorem Effect.sound {env : Deployment} {next next' : Nat} {d d' : Db} {request : Request}
    (h : Effect env next d request next' d') (hd : Site.Sound ⟨d, next⟩) : Site.Sound ⟨d', next'⟩ := by
  have hfresh : d.FreshFrom next := hd.fresh
  have hnamed : d.Named := hd.named
  cases h with
  | loggedIn admitted free => exact ⟨Db.FreshFrom.set hfresh _, hnamed.set free next⟩
  | rotated found rotatable checked free =>
    rename_i presented client draws now id held
    have hgrows := grows_revoked (sessionByRefreshHash_some found).1 .rotated (.inl rfl) now
    rw [revoked_live d id rotatable.live] at hgrows free
    exact ⟨Db.FreshFrom.set (Db.FreshFrom.of_grows hfresh hgrows) _, (hnamed.of_grows hgrows).set free next⟩
  | loggedOut found =>
    rename_i token now id held
    have hrevoked := grows_revoked (sessionByRefreshHash_some found).1 .logout (.inr rfl) now
    have hfamily := grows_familyRevoked (d.revoked id held .logout now) id held .logout (.inr rfl) now
    exact ⟨Db.FreshFrom.of_grows (Db.FreshFrom.of_grows hfresh hrevoked) hfamily, (hnamed.of_grows hrevoked).of_grows hfamily⟩

theorem sound_after (env : Deployment) {s : Site} (hs : s.Sound) (request : Request) (n : Nat) :
    (s.after env request n).Sound := by
  rcases request_effect env s request n with ⟨hdb, hnext⟩ | ⟨next, hle, heffect⟩
  · refine ⟨?_, ?_⟩
    · rw [hdb]
      exact Db.FreshFrom.mono hs.fresh hnext
    · rw [hdb]
      exact hs.named
  · have hsound := heffect.sound hs
    exact ⟨Db.FreshFrom.mono hsound.fresh hle, hsound.named⟩

theorem sound_run (env : Deployment) : ∀ (requests : List (Request × Nat)) {s : Site}, s.Sound → (s.run env requests).Sound
  | [], _, hs => hs
  | (request, n) :: requests, _, hs => sound_run env requests (sound_after env hs request n)

theorem sound_ended (env : Deployment) {s : Site} (hs : s.Sound) (request : Request) : (s.ended env request).Sound := by
  obtain ⟨n, hn⟩ := exists_after_eq env s request
  rw [← hn]
  exact sound_after env hs request n

/-- What one request does to the sessions of a site. -/
theorem after_sessions (env : Deployment) {s : Site} (hs : s.Sound) (request : Request) (n : Nat) :
    Dict.Grows AuthSession.Follows (AuthSession.OpensFrom s.db) s.db.sessions (s.after env request n).db.sessions := by
  rcases request_effect env s request n with ⟨hdb, -⟩ | ⟨next, -, heffect⟩
  · rw [hdb]
    exact Dict.grows_refl follows_refl _
  · exact heffect.sessions hs.fresh

/-- A session stays, and follows itself. -/
theorem run_follows (env : Deployment) : ∀ (requests : List (Request × Nat)) {s : Site}, s.Sound → ∀ {id : Nat} {row : AuthSession},
    s.db.sessions.get? id = some row → ∃ row', (s.run env requests).db.sessions.get? id = some row' ∧ row.Follows row' := by
  intro requests
  induction requests with
  | nil => exact fun _ _ row hrow => ⟨row, hrow, follows_refl row⟩
  | cons entry requests ih =>
    intro s hs id row hrow
    obtain ⟨row₁, hrow₁, hfirst⟩ := (after_sessions env hs entry.1 entry.2).kept id row hrow
    obtain ⟨row', hrow', hrest⟩ := ih (sound_after env hs entry.1 entry.2) hrow₁
    exact ⟨row', hrow', hfirst.trans hrest⟩

/-! ## A sample site -/

def samplePasswordHash : String :=
  "$argon2id$v=19$m=65536,t=3,p=2$N1FtMnZYYzlMcFpyNFRkSw$tXFUo8pqyeLhAk/oCKAnI76RrtImwWoTPZsg0boni08"

def sampleSecret : String := "wq3Tz8Vn1LkYpR6sXc0BhJd5MfUa2EoG"

/-- The refresh tokens of the samples. -/
def sampleFirstToken : String := "k0ZrVb8yQm3XwTt5LhNcE1sJfUa7DgPo2iRvKxYq9WnMzBe4HlCjSu6TpAdGfOw-"

def sampleSecondToken : String := "Zc4LmR9vTq1YxNs7KbWd0HfJpUe3GaXo8iVtCrQy5EnMzBk2SlPjDu6TwAhIgOf_"

def sampleThirdToken : String := "p7TnXw2KcVz5RqLm0YsHdBe9JfUa4GoNx1iQtCvWy8EkMrSb3ZlPjDu6HhAgIdTF"

/-- What the sample requests draw: a refresh token, the id of a session, the id of an access token. -/
def sampleFirstDraws : Draws where
  refreshToken := sampleFirstToken
  jti := "Rk3vXw9TqLm2YcNs7ZbHd0KfJpUe5GaX"
  accessJti := "3rJk9XvQm2LwTz7NcYb0Hg"

def sampleSecondDraws : Draws where
  refreshToken := sampleSecondToken
  jti := "Vt8LnQ4xWc1RzKm6YbSd9HfTpJe0GuEa"
  accessJti := "8pWn4RtKc6VxLs1ZqYdBfA"

def sampleThirdDraws : Draws where
  refreshToken := sampleThirdToken
  jti := "Bq5ZsMw7TcXn2LvRk9YdHf3JpUe8GaWo"
  accessJti := "1mQz7HvXw5TkRc9NsLbYeg"

/-- The hashes of the refresh tokens, by what is hashed. -/
def sampleDigests : List (String × String) := [
  (sampleSecret ++ String.singleton (Char.ofNat 0) ++ sampleFirstToken,
    "18c72429b106bb9eef72227fbd39faeb4c51c8e29c85467a24b3c414dc51b2d7"),
  (sampleSecret ++ String.singleton (Char.ofNat 0) ++ sampleSecondToken,
    "02e4616a13431c7fc92bda7aac9d7c38098156d8419047a423493289465834e6"),
  (sampleSecret ++ String.singleton (Char.ofNat 0) ++ sampleThirdToken,
    "251c3d06746b76638efb02cf75a1001705f4b4cb8977c04e5d85a466cade0e90")]

/-- The signed access tokens, by their `jti`. -/
def sampleAccessTokens : List (String × String) := [
  ("3rJk9XvQm2LwTz7NcYb0Hg",
    "eyJhbGciOiJIUzI1NiIsInR5cCI6IkpXVCJ9.eyJzdWIiOiIxIiwianRpIjoiM3JKazlYdlFtMkx3VHo3TmNZYjBIZyIsInNpZCI6IjE" ++
      "tUmszdlh3OVRxTG0yWWNOczdaYkhkMEtmSnBVZTVHYVgiLCJpc3MiOiJub3ZhLWNvbW1lcmNlIiwiYXVkIjoibm92YS1jb21tZXJjZS1" ++
      "hcGkiLCJpYXQiOjE3NjcyMjU2MDAsIm5iZiI6MTc2NzIyNTYwMCwiZXhwIjoxNzY3MjI2NTAwLCJ0eXAiOiJhY2Nlc3MiLCJyb2xlcyI" ++
      "6W10sInBlcm1pc3Npb25zIjpbXSwiZGF0YV9zY29wZSI6IlNFTEYiLCJtZXJjaGFudF9pZCI6bnVsbCwidXNlcl90eXBlIjoiQ09OU1V" ++
      "NRVIifQ.3bkcSwODCf1f3IRugbcIN23rNkBNCXkK_J2KJvIHmKE"),
  ("8pWn4RtKc6VxLs1ZqYdBfA",
    "eyJhbGciOiJIUzI1NiIsInR5cCI6IkpXVCJ9.eyJzdWIiOiIxIiwianRpIjoiOHBXbjRSdEtjNlZ4THMxWnFZZEJmQSIsInNpZCI6IjE" ++
      "tVnQ4TG5RNHhXYzFSekttNlliU2Q5SGZUcEplMEd1RWEiLCJpc3MiOiJub3ZhLWNvbW1lcmNlIiwiYXVkIjoibm92YS1jb21tZXJjZS1" ++
      "hcGkiLCJpYXQiOjE3NjcyMjkyMDAsIm5iZiI6MTc2NzIyOTIwMCwiZXhwIjoxNzY3MjMwMTAwLCJ0eXAiOiJhY2Nlc3MiLCJyb2xlcyI" ++
      "6W10sInBlcm1pc3Npb25zIjpbXSwiZGF0YV9zY29wZSI6IlNFTEYiLCJtZXJjaGFudF9pZCI6bnVsbCwidXNlcl90eXBlIjoiQ09OU1V" ++
      "NRVIifQ.8kH-TvNI8zoMcVSiamKATl5USwqRt9Jx7YXhnPDETBs"),
  ("1mQz7HvXw5TkRc9NsLbYeg",
    "eyJhbGciOiJIUzI1NiIsInR5cCI6IkpXVCJ9.eyJzdWIiOiIxIiwianRpIjoiMW1RejdIdlh3NVRrUmM5TnNMYlllZyIsInNpZCI6IjE" ++
      "tQnE1WnNNdzdUY1huMkx2Ums5WWRIZjNKcFVlOEdhV28iLCJpc3MiOiJub3ZhLWNvbW1lcmNlIiwiYXVkIjoibm92YS1jb21tZXJjZS1" ++
      "hcGkiLCJpYXQiOjE3NjcyMjkyMDUsIm5iZiI6MTc2NzIyOTIwNSwiZXhwIjoxNzY3MjMwMTA1LCJ0eXAiOiJhY2Nlc3MiLCJyb2xlcyI" ++
      "6W10sInBlcm1pc3Npb25zIjpbXSwiZGF0YV9zY29wZSI6IlNFTEYiLCJtZXJjaGFudF9pZCI6bnVsbCwidXNlcl90eXBlIjoiQ09OU1V" ++
      "NRVIifQ.fvwzbn7NCLqxO4RkWn-Zh0lWIIPCdO2nRx_gAe_OhcU")]

def sampleDeployment : Deployment where
  settings := { jwtSecretKey := sampleSecret }
  lowerText := String.toLower
  sha256Hex := fun text => (sampleDigests.lookup text).getD ""
  argonHash := fun _ _ => samplePasswordHash
  argonVerify := fun passwordHash password => decide (passwordHash = samplePasswordHash ∧ password = "Linden-Harbour-42")
  argonNeedsRehash := fun passwordHash => decide (passwordHash ≠ samplePasswordHash)
  jwtEncode := fun payload _ =>
    match payload.lookup "jti" with
    | some (.str jti) => (sampleAccessTokens.lookup jti).getD ""
    | _ => ""

def sampleUser : User where
  username := "ada"
  passwordHash := samplePasswordHash

/-- One customer who never logged in. -/
def sampleSite : Site where
  db := { users := Dict.empty.set 1 sampleUser }
  next := 2

theorem sampleSite_sound : sampleSite.Sound where
  fresh _ _ := rfl
  named _ _ _ _ hi _ _ := nomatch hi

def sampleClient : Client where
  clientIp := some "203.0.113.7"
  userAgent := some "Mozilla/5.0"

def sampleMorning : Time := 1767225600000

/-- A login, and the rotation of its token an hour later. -/
def sampleRotation : List (Request × Nat) := [
  (.login "ada" "Linden-Harbour-42" sampleClient sampleFirstDraws sampleMorning, 100),
  (.rotate sampleFirstToken sampleClient sampleSecondDraws (sampleMorning + 3600000), 100)]

end NovaCommerce.Identity
