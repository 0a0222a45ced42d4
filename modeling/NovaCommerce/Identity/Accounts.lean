import NovaCommerce.Identity.Durability

/-!
# Accounts that may not log in

* `Event` : a request, or a change of accounts by somebody else; `Site.happen` : the site after a list of them;
* `Db.Linked` : a rotation stays with the account, so the tip of a family belongs to the owner of every member;
* `User.MayLogIn` : the account may be issued a session. A login checks all of it, the rotation of a live session all but a lock that the
  status does not show, and a double submit only the deletion (`issued_allowed_iff`).
-/

namespace NovaCommerce.Identity

open Sql

/-! ## Histories with account changes -/

/-- A request that is lost behind some of its statements, or a change of the accounts. -/
inductive Event where
  | request (request : Request) (n : Nat)
  | accounts (change : Dict Nat User → Dict Nat User)

/-- The site after an event. -/
def Site.event (env : Deployment) (s : Site) : Event → Site
  | .request request n => s.after env request n
  | .accounts change => { s with db := { s.db with users := change s.db.users } }

/-- The site after a list of events. -/
def Site.happen (env : Deployment) (events : List Event) (s : Site) : Site := events.foldl (Site.event env) s

/-- Every session that was rotated from another is of the same account. -/
def Db.Linked (d : Db) : Prop :=
  ∀ i s p, d.sessions.get? i = some s → s.rotatedFrom = some p → ∃ parent, d.sessions.get? p = some parent ∧ parent.userId = s.userId

theorem Db.Linked.of_grows {d d' : Db} (hd : d.Linked)
    (h : Dict.Grows AuthSession.Follows (AuthSession.OpensFrom d) d.sessions d'.sessions) : d'.Linked := by
  have hkept : ∀ p parent, d.sessions.get? p = some parent → ∃ parent', d'.sessions.get? p = some parent' ∧ parent'.userId = parent.userId := by
    intro p parent hparent
    obtain ⟨parent', hparent', hfollows⟩ := h.kept p parent hparent
    exact ⟨parent', hparent', hfollows.userId⟩
  intro i s p hi hp
  rcases h.origin i s hi with ⟨old, hold, hfollows⟩ | ⟨-, -, hopens⟩
  · rw [hfollows.rotatedFrom] at hp
    obtain ⟨parent, hparent, howner⟩ := hd i old p hold hp
    obtain ⟨parent', hparent', hsame⟩ := hkept p parent hparent
    exact ⟨parent', hparent', by rw [hsame, howner, hfollows.userId]⟩
  · obtain ⟨parent, hparent, -, howner⟩ := hopens p hp
    obtain ⟨parent', hparent', hsame⟩ := hkept p parent hparent
    exact ⟨parent', hparent', by rw [hsame, howner]⟩

/-- What every history keeps. -/
structure Site.Kept (s : Site) : Prop where
  sound : s.Sound
  linked : s.db.Linked

theorem kept_event (env : Deployment) {s : Site} (hs : s.Kept) (event : Event) : (s.event env event).Kept := by
  cases event with
  | request request n => exact ⟨sound_after env hs.sound request n, hs.linked.of_grows (after_sessions env hs.sound request n)⟩
  | accounts change => exact ⟨⟨hs.sound.fresh, hs.sound.named⟩, hs.linked⟩

theorem kept_happen (env : Deployment) : ∀ (events : List Event) {s : Site}, s.Kept → (s.happen env events).Kept
  | [], _, hs => hs
  | event :: events, _, hs => kept_happen env events (kept_event env hs event)

/-! ## The owner of a family -/

theorem liveSuccessors_mem {d : Db} {id : Nat} {successor : Nat × AuthSession} (h : successor ∈ d.liveSuccessors id) :
    d.sessions.get? successor.1 = some successor.2 ∧ successor.2.rotatedFrom = some id ∧ successor.2.Live := by
  obtain ⟨i, s⟩ := successor
  have hmem := (List.mem_insertionSort _).mp h
  obtain ⟨hget, hp⟩ := Dict.mem_select.mp hmem
  exact ⟨hget, of_decide_eq_true hp⟩

/-- The tip of a family is one of its sessions, of the same account. -/
theorem tip_owner {d : Db} (hd : d.Linked) : ∀ (depth : Nat) (current : Nat × AuthSession),
    d.sessions.get? current.1 = some current.2 →
      d.sessions.get? (d.tip depth current).1 = some (d.tip depth current).2 ∧ (d.tip depth current).2.userId = current.2.userId := by
  intro depth
  induction depth with
  | zero => exact fun current hget => ⟨hget, rfl⟩
  | succ depth ih =>
    intro current hget
    unfold Db.tip
    cases hsuccessors : d.liveSuccessors current.1 with
    | nil => exact ⟨hget, rfl⟩
    | cons successor rest =>
      have hmem : successor ∈ d.liveSuccessors current.1 := hsuccessors ▸ List.mem_cons_self
      obtain ⟨hrow, hfrom, -⟩ := liveSuccessors_mem hmem
      obtain ⟨parent, hparent, howner⟩ := hd successor.1 successor.2 current.1 hrow hfrom
      rw [hget] at hparent
      cases hparent
      obtain ⟨htip, hsame⟩ := ih successor hrow
      exact ⟨htip, hsame.trans howner.symm⟩

/-! ## Issuing a session -/

/-- The account may be issued a session. -/
structure User.MayLogIn (u : User) (now : Time) : Prop where
  undeleted : u.deletedAt = none
  notDisabled : u.status ≠ .disabled
  notInactive : u.status ≠ .inactive
  unlocked : u.status = .locked → ∃ t ∈ u.lockedUntil, t ≤ now
  expired : ∀ t ∈ u.lockedUntil, t ≤ now

theorem guardLoginAllowed_eq_ok {env : Deployment} {status : UserStatus} {failedAttempts : Nat} {u : Unit} :
    guardLoginAllowed env status failedAttempts = .ok u ↔
      status ≠ .disabled ∧ status ≠ .inactive ∧ failedAttempts < env.settings.loginMaxFailures ∧ status ≠ .locked := by
  unfold guardLoginAllowed
  simp only [Raise.bind_eq_ok, Raise.raiseIf_eq_ok, not_or, not_le]
  constructor
  · rintro ⟨_, hdisabled, _, hinactive, hfailed, hlocked⟩
    exact ⟨hdisabled, hinactive, hfailed, hlocked⟩
  · rintro ⟨hdisabled, hinactive, hfailed, hlocked⟩
    exact ⟨(), hdisabled, (), hinactive, hfailed, hlocked⟩

theorem Admitted.mayLogIn {env : Deployment} {d : Db} {userId : Nat} {user : User} {password : String} {now : Time}
    (h : Admitted env d userId user password now) : user.MayLogIn now := by
  obtain ⟨hdisabled, hinactive, -, hlocked⟩ := guardLoginAllowed_eq_ok.mp h.allowed
  exact ⟨h.undeleted, hdisabled, hinactive, fun hstatus => absurd hstatus hlocked, h.unlocked⟩

/-- When a request is made. -/
def Request.now : Request → Time
  | .login _ _ _ _ now => now
  | .rotate _ _ _ now => now
  | .logout _ now => now

/-- What a rotation does not check of the owner of the presented session: a lock that has not expired, and where the session was revoked
already, the status. -/
def Request.OwnerInOrder (env : Deployment) (d : Db) : Request → Prop
  | .rotate presented _ _ now => ∀ id held user, d.sessionByRefreshHash (hashRefreshToken env presented) = some (id, held) →
      d.users.get? held.userId = some user →
      (∀ t ∈ user.lockedUntil, t ≤ now) ∧
        (held.Live ∨ user.status = .active ∨ (user.status = .locked ∧ user.lockedUntil ≠ none))
  | _ => True

theorem withAuthorization_eq_some {d : Db} {userId : Nat} {user : User} {roles : List Role}
    (h : d.withAuthorization userId = some (user, roles)) : d.users.get? userId = some user := by
  obtain ⟨row, hrow, heq⟩ := Option.map_eq_some_iff.mp h
  cases heq
  exact hrow

/-- A session is issued to an account that may log in, exactly when the owner of the presented session is in order. -/
theorem issued_allowed_iff (env : Deployment) {s : Site} (hs : s.Kept) (history : List Event) (request : Request)
    {issued : IssuedSession}
    (h : request.issued env (Exec.start (s.happen env history).db (s.happen env history).next) = some issued) :
    (∃ user, (s.happen env history).db.users.get? issued.session.userId = some user ∧ user.MayLogIn request.now) ↔
      request.OwnerInOrder env (s.happen env history).db := by
  have hlinked := (kept_happen env history hs).linked
  generalize s.happen env history = t at h hlinked ⊢
  cases request with
  | login identifier password client draws now =>
    have hrun := run_eq_ok_of_toOption h
    obtain ⟨userId, user, e₁, hadmitted, hissued, -⟩ := login_eq_ok hrun
    refine ⟨fun _ => trivial, fun _ => ⟨user, ?_, hadmitted.mayLogIn⟩⟩
    rw [hissued.row]
    exact hadmitted.account
  | rotate presented client draws now =>
    have hrun := run_eq_ok_of_toOption h
    obtain ⟨id, held, hfound, ⟨e₁, hrotatable, -, hissued, -⟩ | ⟨hrevoked, hreuse⟩⟩ := rotate_eq_ok hrun
    all_goals have hfound : t.db.sessionByRefreshHash (hashRefreshToken env presented) = some (id, held) := hfound
    · obtain ⟨user, roles, haccount, hundeleted, hdisabled, hinactive, hlocked⟩ := hrotatable.account
      have hrow : t.db.users.get? held.userId = some user := withAuthorization_eq_some haccount
      have howner : issued.session.userId = held.userId := by
        rw [hissued.row]
        rfl
      rw [howner]
      constructor
      · rintro ⟨user', hrow', hmay⟩ id' held' user'' hfound' hrow''
        rw [hfound] at hfound'
        cases hfound'
        rw [hrow'] at hrow''
        cases hrow''
        exact ⟨hmay.expired, .inl hrotatable.live⟩
      · intro horder
        obtain ⟨hexpired, -⟩ := horder id held user hfound hrow
        exact ⟨user, hrow, hundeleted, hdisabled, hinactive, hlocked, hexpired⟩
    · have htolerated : (Exec.start t.db t.next).view.Tolerated id held now := by
        by_contra hnot
        rw [run_handleReuse_refused hnot, andThen_eq_ok] at hreuse
        obtain ⟨_, _, -, hreuse⟩ := hreuse
        cases hreuse
      rw [run_handleReuse_tolerated htolerated] at hreuse
      have hreissued := reissueFromChain_eq_ok hreuse
      have htip := (tip_owner hlinked maxRotationChainDepth (id, held) (sessionByRefreshHash_some hfound).1).2
      obtain ⟨user, roles, haccount, hundeleted⟩ := hreissued.account
      have hrow : t.db.users.get? held.userId = some user := by
        rw [← htip]
        exact withAuthorization_eq_some haccount
      have howner : issued.session.userId = held.userId := by
        rw [hreissued.issued.row]
        exact htip
      rw [howner]
      constructor
      · rintro ⟨user', hrow', hmay⟩ id' held' user'' hfound' hrow''
        rw [hfound] at hfound'
        cases hfound'
        rw [hrow'] at hrow''
        cases hrow''
        refine ⟨hmay.expired, .inr ?_⟩
        cases hstatus : user'.status with
        | active => exact .inl rfl
        | locked =>
          obtain ⟨t, ht, -⟩ := hmay.unlocked hstatus
          exact .inr ⟨rfl, Option.ne_none_iff_exists'.mpr ⟨t, ht⟩⟩
        | disabled => exact absurd hstatus hmay.notDisabled
        | inactive => exact absurd hstatus hmay.notInactive
      · intro horder
        obtain ⟨hexpired, hstatus⟩ := horder id held user hfound hrow
        refine ⟨user, hrow, hundeleted, ?_, ?_, ?_, hexpired⟩
        · intro hdisabled
          rw [hdisabled] at hstatus
          simp [hrevoked] at hstatus
        · intro hinactive
          rw [hinactive] at hstatus
          simp [hrevoked] at hstatus
        · intro hlocked
          rw [hlocked] at hstatus
          obtain ⟨t, ht⟩ : ∃ t, user.lockedUntil = some t := by
            rw [← Option.ne_none_iff_exists']
            simpa [hrevoked] using hstatus
          exact ⟨t, ht, hexpired t ht⟩
  | logout refreshToken now => cases h

theorem sampleSite_kept : sampleSite.Kept where
  sound := sampleSite_sound
  linked _ _ _ hi _ := nomatch hi

/-- The sample, after which the account is disabled. -/
def sampleDisabling : List Event :=
  (sampleRotation.map fun entry => .request entry.1 entry.2) ++
    [.accounts fun users => users.modify 1 fun user => { user with status := .disabled }]

/-- The double submit of the sample. -/
def sampleDoubleSubmit : Request := .rotate sampleFirstToken sampleClient sampleThirdDraws (sampleMorning + 3605000)

theorem sampleDisabling_reissued : ∃ issued user,
    sampleDoubleSubmit.issued sampleDeployment (Exec.start (sampleSite.happen sampleDeployment sampleDisabling).db
      (sampleSite.happen sampleDeployment sampleDisabling).next) = some issued ∧
    (sampleSite.happen sampleDeployment sampleDisabling).db.users.get? issued.session.userId = some user ∧
    user.status = .disabled := by
  have hrun : (sampleDoubleSubmit.issued sampleDeployment (Exec.start (sampleSite.happen sampleDeployment sampleDisabling).db
      (sampleSite.happen sampleDeployment sampleDisabling).next)).bind (fun issued =>
        ((sampleSite.happen sampleDeployment sampleDisabling).db.users.get? issued.session.userId).map fun user =>
          decide (user.status = .disabled)) = some true := by
    decide +kernel
  obtain ⟨issued, hissued, hrun⟩ := Option.bind_eq_some_iff.mp hrun
  obtain ⟨user, huser, hstatus⟩ := Option.map_eq_some_iff.mp hrun
  exact ⟨issued, user, hissued, huser, of_decide_eq_true hstatus⟩

theorem issued_allowed_sample : ∃ issued,
    sampleDoubleSubmit.issued sampleDeployment (Exec.start (sampleSite.happen sampleDeployment sampleDisabling).db
      (sampleSite.happen sampleDeployment sampleDisabling).next) = some issued ∧
    ((∃ user, (sampleSite.happen sampleDeployment sampleDisabling).db.users.get? issued.session.userId = some user ∧
        user.MayLogIn sampleDoubleSubmit.now) ↔
      sampleDoubleSubmit.OwnerInOrder sampleDeployment (sampleSite.happen sampleDeployment sampleDisabling).db) := by
  obtain ⟨issued, _, hissued, -⟩ := sampleDisabling_reissued
  exact ⟨issued, hissued, issued_allowed_iff sampleDeployment sampleSite_kept sampleDisabling sampleDoubleSubmit hissued⟩

/-- The double submit is issued a session for the disabled account. -/
theorem reissue_not_allowed : sampleSite.Kept ∧ ∃ issued,
    sampleDoubleSubmit.issued sampleDeployment (Exec.start (sampleSite.happen sampleDeployment sampleDisabling).db
      (sampleSite.happen sampleDeployment sampleDisabling).next) = some issued ∧
    ¬ ∃ user, (sampleSite.happen sampleDeployment sampleDisabling).db.users.get? issued.session.userId = some user ∧
        user.MayLogIn sampleDoubleSubmit.now := by
  obtain ⟨issued, user, hissued, huser, hstatus⟩ := sampleDisabling_reissued
  refine ⟨sampleSite_kept, issued, hissued, ?_⟩
  rintro ⟨user', huser', hmay⟩
  rw [huser] at huser'
  cases huser'
  exact hmay.notDisabled hstatus

end NovaCommerce.Identity
