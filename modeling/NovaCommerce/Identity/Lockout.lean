import NovaCommerce.Identity.Accounts
import NovaCommerce.Lib.Interleaving

/-!
# Failed logins

* `run_login` : what a login on an account does, guard, lock, password and failed counter;
* `Attempt` : a login; `Attempt.answered` : as a request of its own, which is rolled back where it raises;
* `lockout_never_locks` : over any interleaving of attempts, wrong passwords that were answered do not lock the account;
* `Site.counted` : as if the failed counters were committed. A lock is then permanent (`lock_never_ends`).
-/

namespace NovaCommerce.Identity

open Sql

/-! ## A login on an account -/

/-- The account of an identifier, on one database. -/
def Db.byIdentifier (env : Deployment) (d : Db) (identifier : String) : Option (Nat × User) :=
  let cleaned := strip identifier
  if cleaned = "" then none
  else (d.userByUsername env cleaned).or ((d.userByEmail env cleaned).or (d.userByPhone cleaned))

theorem run_findByIdentifier (env : Deployment) (identifier : String) (e : Exec Db) :
    (findByIdentifier env identifier).run e = (.ok (e.view.byIdentifier env identifier), e) := by
  unfold findByIdentifier Db.byIdentifier
  generalize strip identifier = cleaned
  dsimp only
  split_ifs
  · rfl
  rw [run_bind, run_query, andThen_ok]
  cases e.view.userByUsername env cleaned with
  | some found => rfl
  | none =>
    dsimp only
    rw [run_bind, run_query, andThen_ok]
    cases e.view.userByEmail env cleaned with
    | some found => rfl
    | none => rfl

theorem byIdentifier_blank (env : Deployment) (d : Db) : d.byIdentifier env "" = none := by
  unfold Db.byIdentifier
  exact if_pos (by decide)

theorem byIdentifier_some {env : Deployment} {d : Db} {identifier : String} {id : Nat} {user : User}
    (h : d.byIdentifier env identifier = some (id, user)) : d.users.get? id = some user := by
  have hrun := run_findByIdentifier env identifier (Exec.start d 0)
  exact (findByIdentifier_eq_ok hrun).2 id user h

/-- A password may be tried: the account is neither blocked nor locked. -/
structure User.Open (env : Deployment) (u : User) (now : Time) : Prop where
  allowed : guardLoginAllowed env u.status u.failedLoginAttempts = .ok ()
  unlocked : ∀ t ∈ u.lockedUntil, t ≤ now

theorem User.Open.later {env : Deployment} {u : User} {now later : Time} (h : u.Open env now) (hle : now ≤ later) : u.Open env later :=
  ⟨h.allowed, fun t ht => (h.unlocked t ht).trans hle⟩

/-- An attempt to log in. -/
structure Attempt where
  identifier : String
  password : String
  client : Client
  draws : Draws
  now : Time
  deriving DecidableEq

def Attempt.login (env : Deployment) (a : Attempt) : Tx IssuedSession :=
  Identity.login env a.identifier a.password a.client a.draws a.now

/-- The attempt is made on an account. -/
structure Attempt.On (env : Deployment) (a : Attempt) (d : Db) (userId : Nat) (user : User) : Prop where
  given : a.password ≠ ""
  account : d.byIdentifier env (strip a.identifier) = some (userId, user)

theorem Attempt.On.not_blank {env : Deployment} {a : Attempt} {d : Db} {userId : Nat} {user : User} (h : a.On env d userId user) :
    ¬ (strip a.identifier = "" ∨ a.password = "") := by
  rintro (hblank | hblank)
  · have haccount := h.account
    rw [hblank] at haccount
    rw [byIdentifier_blank] at haccount
    cases haccount
  · exact h.given hblank

/-- What a login on an account runs. -/
theorem run_login {env : Deployment} {a : Attempt} {e : Exec Db} {userId : Nat} {user : User} (hon : a.On env e.view userId user) :
    (a.login env).run e = (do
      ofExcept (guardLoginAllowed env user.status user.failedLoginAttempts)
      raiseIf (∃ t ∈ user.lockedUntil, a.now < t) { kind := .accountLocked, message := "account is temporarily locked" }
      if verifyPassword env a.password user.passwordHash = true then
        raiseIf (user.deletedAt ≠ none) { kind := .accountDisabled, message := "account is disabled" }
        transaction (openSession env userId user a.password a.client a.draws a.now)
      else
        writeUser userId (user.failedBy env a.now)
        raise invalidCredentials : Tx IssuedSession).run e := by
  unfold Attempt.login login
  rw [run_bind, run_raiseIf_neg hon.not_blank, andThen_ok, run_bind, run_findByIdentifier, andThen_ok, hon.account]

/-- On an open account the password decides. -/
theorem run_login_open {env : Deployment} {a : Attempt} {e : Exec Db} {userId : Nat} {user : User}
    (hon : a.On env e.view userId user) (hopen : user.Open env a.now) :
    (a.login env).run e =
      if verifyPassword env a.password user.passwordHash = true then
        (raiseIf (user.deletedAt ≠ none) { kind := .accountDisabled, message := "account is disabled" } >>= fun _ =>
          transaction (openSession env userId user a.password a.client a.draws a.now)).run e
      else (.error invalidCredentials,
        { e with view := { e.view with users := e.view.users.modify userId (user.failedBy env a.now) } }) := by
  have hunlocked : ¬ ∃ t ∈ user.lockedUntil, a.now < t := by
    rintro ⟨t, ht, hlt⟩
    exact absurd (hopen.unlocked t ht) (not_le.mpr hlt)
  rw [run_login hon, run_bind, run_ofExcept, hopen.allowed, andThen_ok, run_bind, run_raiseIf_neg hunlocked, andThen_ok]
  split_ifs with hverified
  · rfl
  · rw [run_bind, run_writeUser, andThen_ok]
    rfl

theorem guardLoginAllowed_error {env : Deployment} {status : UserStatus} {failedAttempts : Nat} {x : AppError}
    (h : guardLoginAllowed env status failedAttempts = .error x) : x.kind = .accountDisabled ∨ x.kind = .accountLocked := by
  unfold guardLoginAllowed Raise.raiseIf at h
  split_ifs at h <;> cases h <;> simp

/-- An account that is not open refuses before the password is verified. -/
theorem run_login_closed {env : Deployment} {a : Attempt} {e : Exec Db} {userId : Nat} {user : User}
    (hon : a.On env e.view userId user) (hclosed : ¬ user.Open env a.now) :
    ∃ x, (a.login env).run e = (.error x, e) ∧ (x.kind = .accountDisabled ∨ x.kind = .accountLocked) := by
  rw [run_login hon, run_bind, run_ofExcept]
  cases hguard : guardLoginAllowed env user.status user.failedLoginAttempts with
  | error x =>
    exact ⟨x, rfl, guardLoginAllowed_error hguard⟩
  | ok u =>
    have hlocked : ∃ t ∈ user.lockedUntil, a.now < t := by
      by_contra hnone
      refine hclosed ⟨hguard, fun t ht => ?_⟩
      by_contra hlt
      exact hnone ⟨t, ht, not_le.mp hlt⟩
    refine ⟨{ kind := .accountLocked, message := "account is temporarily locked" }, ?_, .inr rfl⟩
    rw [andThen_ok, run_bind, run_raiseIf_pos hlocked, andThen_error]

theorem run_login_nobody {env : Deployment} {a : Attempt} {e : Exec Db} (h : ∀ userId user, ¬ a.On env e.view userId user) :
    (a.login env).run e = (.error invalidCredentials, e) := by
  unfold Attempt.login login
  by_cases hblank : strip a.identifier = "" ∨ a.password = ""
  · rw [run_bind, run_raiseIf_pos hblank, andThen_error]
  rw [run_bind, run_raiseIf_neg hblank, andThen_ok, run_bind, run_findByIdentifier, andThen_ok]
  cases haccount : e.view.byIdentifier env (strip a.identifier) with
  | none => rfl
  | some found => exact absurd ⟨fun hpassword => hblank (.inr hpassword), haccount⟩ (h found.1 found.2)

theorem hashPassword_error {env : Deployment} {draws : Draws} {password : String} {x : AppError}
    (h : hashPassword env draws password = .error x) : x ≠ invalidCredentials := by
  unfold hashPassword validatePasswordStrength Raise.raiseIf at h
  split_ifs at h <;> cases h <;> decide

/-- Once the password was verified, nothing that goes wrong is answered as a wrong password. -/
theorem openSession_error {env : Deployment} {userId : Nat} {user : User} {password : String} {client : Client} {draws : Draws}
    {now : Time} {e e' : Exec Db} {x : AppError}
    (h : (openSession env userId user password client draws now).run e = (.error x, e')) : x ≠ invalidCredentials := by
  unfold openSession at h
  rw [run_bind_eq_error] at h
  rcases h with h | ⟨user', e₁, -, h⟩
  · unfold openSession.rehash at h
    split_ifs at h
    · rw [run_bind_eq_error] at h
      rcases h with h | ⟨hash, e₁, -, h⟩
      · rw [run_ofExcept] at h
        exact hashPassword_error (congrArg Prod.fst h)
      · rw [run_bind, run_writeUser, andThen_ok] at h
        cases h
    · cases h
  · rw [run_bind, run_writeUser, andThen_ok, run_bind, run_query, andThen_ok] at h
    unfold issue at h
    rw [run_bind_eq_error] at h
    rcases h with h | ⟨_, _, -, h⟩
    · unfold insertSession at h
      rw [run_bind, run_lock, andThen_ok, run_bind, run_newId, andThen_ok, run_bind_eq_error] at h
      rcases h with h | ⟨_, _, -, h⟩
      · unfold raiseIf at h
        split_ifs at h <;> cases h
        decide
      · cases h
    · cases h

/-! ## A lock that is committed -/

/-- The site after an attempt, as if a wrong password were committed. -/
def Site.counted (env : Deployment) (s : Site) (a : Attempt) : Site :=
  match (a.login env).run (Exec.start s.db s.next) with
  | (.ok _, e) => ⟨e.committed, e.next⟩
  | (.error x, e) => ⟨if x = invalidCredentials then e.view else e.committed, e.next⟩

/-- The site after a list of attempts. -/
def Site.attempted (env : Deployment) (s : Site) (attempts : List Attempt) : Site := attempts.foldl (Site.counted env) s

/-- What an attempt does to the accounts. -/
theorem counted_users (env : Deployment) (s : Site) (a : Attempt) : (s.counted env a).db.users = s.db.users ∨
    ∃ userId user, a.On env s.db userId user ∧ user.Open env a.now ∧
      ((s.counted env a).db.users = s.db.users.modify userId (user.failedBy env a.now) ∨
        (s.counted env a).db.users = s.db.users.modify userId (user.loggedIn env a.draws a.password a.now)) := by
  by_cases hon : ∃ userId user, a.On env s.db userId user
  · obtain ⟨userId, user, hon⟩ := hon
    by_cases hopen : user.Open env a.now
    · have hrun := run_login_open (e := Exec.start s.db s.next) hon hopen
      by_cases hverified : verifyPassword env a.password user.passwordHash = true
      · rw [if_pos hverified] at hrun
        unfold Site.counted
        rw [hrun]
        by_cases hdeleted : user.deletedAt ≠ none
        · rw [run_bind, run_raiseIf_pos hdeleted, andThen_error]
          exact .inl rfl
        rw [run_bind, run_raiseIf_neg hdeleted, andThen_ok]
        have hc := (noCommit_openSession env a.client a.draws a.now userId user a.password).run_committed (Exec.start s.db s.next)
        rcases hsession : (openSession env userId user a.password a.client a.draws a.now).run (Exec.start s.db s.next) with
          ⟨issued | x, e₁⟩
        · have hx := openSession_error hsession
          rw [run_transaction_eq_error.mpr hsession]
          dsimp only
          rw [if_neg hx]
          rw [hsession] at hc
          exact .inl (congrArg Db.users hc)
        · rw [run_transaction_eq_ok.mpr ⟨e₁, hsession, rfl⟩]
          refine .inr ⟨userId, user, hon, hopen, .inr ?_⟩
          have hissued := openSession_eq_ok hsession
          rw [hissued.state]
          rfl
      · rw [if_neg hverified] at hrun
        refine .inr ⟨userId, user, hon, hopen, .inl ?_⟩
        unfold Site.counted
        rw [hrun]
        dsimp only
        rw [if_pos rfl]
        rfl
    · obtain ⟨x, hrun, -⟩ := run_login_closed (e := Exec.start s.db s.next) hon hopen
      refine .inl ?_
      unfold Site.counted
      rw [hrun]
      dsimp only
      split_ifs <;> rfl
  · have hrun := run_login_nobody (a := a) (e := Exec.start s.db s.next) fun userId user h => hon ⟨userId, user, h⟩
    refine .inl ?_
    unfold Site.counted
    rw [hrun]
    dsimp only
    rw [if_pos rfl]
    rfl

/-- A lock that has an end shows in the status. -/
def Db.LocksShown (d : Db) : Prop :=
  ∀ userId user, d.users.get? userId = some user → user.lockedUntil ≠ none → user.status = .locked

theorem locksShown_modify {d : Db} (hd : d.LocksShown) {userId : Nat} {user : User} (hrow : d.users.get? userId = some user) {f : User → User}
    (hf : (f user).lockedUntil ≠ none → (f user).status = .locked) {d' : Db} (hd' : d'.users = d.users.modify userId f) : d'.LocksShown := by
  intro i row hi hlocked
  rw [hd', Dict.get?_modify] at hi
  split_ifs at hi with heq
  · subst heq
    rw [hrow] at hi
    cases hi
    exact hf hlocked
  · exact hd i row hi hlocked

theorem locksShown_counted (env : Deployment) {s : Site} (hs : s.db.LocksShown) (a : Attempt) : (s.counted env a).db.LocksShown := by
  rcases counted_users env s a with hsame | ⟨userId, user, hon, hopen, hfailed | hlogged⟩
  · intro i row hi
    rw [hsame] at hi
    exact hs i row hi
  · refine locksShown_modify hs (byIdentifier_some hon.account) ?_ hfailed
    unfold User.failedBy
    dsimp only
    split_ifs
    · exact fun _ => rfl
    · exact hs userId user (byIdentifier_some hon.account)
  · refine locksShown_modify hs (byIdentifier_some hon.account) ?_ hlogged
    intro hlocked
    exfalso
    apply hlocked
    unfold User.loggedIn User.succeededBy
    dsimp only
    split_ifs with hnone
    · exact hnone
    · rfl

theorem locksShown_attempted (env : Deployment) (attempts : List Attempt) {s : Site} (hs : s.db.LocksShown) :
    (s.attempted env attempts).db.LocksShown := by
  unfold Site.attempted
  induction attempts generalizing s with
  | nil => exact hs
  | cons a attempts ih =>
    rw [List.foldl_cons]
    exact ih (locksShown_counted env hs a)

/-- What a lock that has ended means for an attempt: the right password opens the account again, a wrong one starts a new count. -/
structure Site.Unlocks (env : Deployment) (s : Site) (a : Attempt) (userId : Nat) (user : User) : Prop where
  correct : verifyPassword env a.password user.passwordHash = true →
    ∃ issued e, (a.login env).run (Exec.start s.db s.next) = (.ok issued, e) ∧ ∃ after, e.committed.users.get? userId = some after ∧
      after.status = .active ∧ after.failedLoginAttempts = 0 ∧ after.lockedUntil = none
  wrong : verifyPassword env a.password user.passwordHash = false →
    (∃ e, (a.login env).run (Exec.start s.db s.next) = (.error invalidCredentials, e)) ∧
      ∃ after, (s.counted env a).db.users.get? userId = some after ∧ after.failedLoginAttempts = 1 ∧
        (1 < env.settings.loginMaxFailures → after.lockedUntil = none)

/-- A lock never ends: past its time, no attempt is treated as on an account that is not locked. -/
theorem lock_never_ends (env : Deployment) {s : Site} (unlocked : ∀ userId user, s.db.users.get? userId = some user → user.lockedUntil = none)
    (attempts : List Attempt) (a : Attempt) {userId : Nat} {user : User} (hon : a.On env (s.attempted env attempts).db userId user)
    {until_ : Time} (locked : user.lockedUntil = some until_) (_past : until_ < a.now) :
    ¬ (s.attempted env attempts).Unlocks env a userId user := by
  intro hunlocks
  have hshown : (s.attempted env attempts).db.LocksShown :=
    locksShown_attempted env attempts fun userId user hrow hlocked => absurd (unlocked userId user hrow) hlocked
  have hstatus := hshown userId user (byIdentifier_some hon.account) (by rw [locked]; exact Option.some_ne_none _)
  have hclosed : ¬ user.Open env a.now := fun hopen => (guardLoginAllowed_eq_ok.mp hopen.allowed).2.2.2 hstatus
  obtain ⟨x, hrun, hkind⟩ :=
    run_login_closed (e := Exec.start (s.attempted env attempts).db (s.attempted env attempts).next) hon hclosed
  cases hverified : verifyPassword env a.password user.passwordHash with
  | true =>
    obtain ⟨issued, e, hok, -⟩ := hunlocks.correct hverified
    rw [hrun] at hok
    cases hok
  | false =>
    obtain ⟨⟨e, herror⟩, -⟩ := hunlocks.wrong hverified
    rw [hrun] at herror
    cases herror
    rcases hkind with hkind | hkind <;> cases hkind

/-- A wrong password, `n` seconds into the sample morning. -/
def sampleWrong (n : Nat) : Attempt where
  identifier := "ada"
  password := "Linden-Harbour-24"
  client := sampleClient
  draws := sampleFirstDraws
  now := sampleMorning + n * 1000

/-- The right password, an hour later. -/
def sampleRight : Attempt where
  identifier := "ada"
  password := "Linden-Harbour-42"
  client := sampleClient
  draws := sampleFirstDraws
  now := sampleMorning + 3600000

/-- Five wrong passwords lock the account of the sample for a quarter of an hour. -/
theorem sampleWrong_locks : ∃ user, sampleRight.On sampleDeployment
      (sampleSite.attempted sampleDeployment ((List.range 5).map sampleWrong)).db 1 user ∧
    user.lockedUntil = some (sampleMorning + 904000) ∧
    verifyPassword sampleDeployment sampleRight.password user.passwordHash = true ∧
    ((sampleRight.login sampleDeployment).run (Exec.start
      (sampleSite.attempted sampleDeployment ((List.range 5).map sampleWrong)).db
      (sampleSite.attempted sampleDeployment ((List.range 5).map sampleWrong)).next)).1.toOption.isNone = true := by
  have hrun : (((sampleSite.attempted sampleDeployment ((List.range 5).map sampleWrong)).db.byIdentifier sampleDeployment
      (strip sampleRight.identifier)).map fun found => decide (found.1 = 1 ∧
        found.2.lockedUntil = some (sampleMorning + 904000) ∧
        verifyPassword sampleDeployment sampleRight.password found.2.passwordHash = true ∧
        ((sampleRight.login sampleDeployment).run (Exec.start
          (sampleSite.attempted sampleDeployment ((List.range 5).map sampleWrong)).db
          (sampleSite.attempted sampleDeployment ((List.range 5).map sampleWrong)).next)).1.toOption.isNone = true)) =
      some true := by
    decide +kernel
  obtain ⟨⟨userId, user⟩, hfound, hfacts⟩ := Option.map_eq_some_iff.mp hrun
  obtain ⟨rfl, hlocked, hverified, hrefused⟩ := of_decide_eq_true hfacts
  exact ⟨user, ⟨by decide, hfound⟩, hlocked, hverified, hrefused⟩

theorem lock_never_ends_sample : ∃ user,
    ¬ (sampleSite.attempted sampleDeployment ((List.range 5).map sampleWrong)).Unlocks sampleDeployment sampleRight 1 user := by
  obtain ⟨user, hon, hlocked, -⟩ := sampleWrong_locks
  refine ⟨user, lock_never_ends sampleDeployment (fun userId row hrow => ?_) _ sampleRight hon hlocked (by decide)⟩
  by_cases hid : userId = 1
  · subst hid
    cases hrow
    rfl
  · have hnone : sampleSite.db.users.get? userId = none := Dict.get?_set_ne hid _
    rw [hnone] at hrow
    cases hrow

/-- An hour after its lock ended, the right password of the sample account is refused. -/
theorem sampleRight_refused : ∃ user, sampleRight.On sampleDeployment
      (sampleSite.attempted sampleDeployment ((List.range 5).map sampleWrong)).db 1 user ∧
    (∃ t, user.lockedUntil = some t ∧ t < sampleRight.now) ∧
    ¬ (sampleSite.attempted sampleDeployment ((List.range 5).map sampleWrong)).Unlocks sampleDeployment sampleRight 1 user := by
  obtain ⟨user, hon, hlocked, hverified, hrefused⟩ := sampleWrong_locks
  refine ⟨user, hon, ⟨_, hlocked, by decide⟩, fun hunlocks => ?_⟩
  obtain ⟨issued, e, hok, -⟩ := hunlocks.correct hverified
  rw [hok] at hrefused
  cases hrefused

/-! ## Attempts side by side -/

/-- An attempt as a request of its own. -/
def Attempt.answered (env : Deployment) (a : Attempt) : Sql Db RowLock AppError (Except AppError IssuedSession) :=
  answer (a.login env)

/-- Identifiers name the same accounts, and an account that was open stays open. -/
structure Db.AccountsKept (env : Deployment) (d d' : Db) : Prop where
  username : ∀ x, (d'.userByUsername env x).map Prod.fst = (d.userByUsername env x).map Prod.fst
  email : ∀ x, (d'.userByEmail env x).map Prod.fst = (d.userByEmail env x).map Prod.fst
  phone : ∀ x, (d'.userByPhone x).map Prod.fst = (d.userByPhone x).map Prod.fst
  opened : ∀ userId user now, d.users.get? userId = some user → user.Open env now →
    ∃ user', d'.users.get? userId = some user' ∧ user'.Open env now

theorem accountsKept_refl (env : Deployment) (d : Db) : Db.AccountsKept env d d where
  username _ := rfl
  email _ := rfl
  phone _ := rfl
  opened _ user _ hrow hopen := ⟨user, hrow, hopen⟩

theorem Db.AccountsKept.trans {env : Deployment} {a b c : Db} (h : a.AccountsKept env b) (h' : b.AccountsKept env c) :
    a.AccountsKept env c where
  username x := (h'.username x).trans (h.username x)
  email x := (h'.email x).trans (h.email x)
  phone x := (h'.phone x).trans (h.phone x)
  opened userId user now hrow hopen := by
    obtain ⟨user', hrow', hopen'⟩ := h.opened userId user now hrow hopen
    exact h'.opened userId user' now hrow' hopen'

theorem Db.AccountsKept.byIdentifier {env : Deployment} {d d' : Db} (h : d.AccountsKept env d') (identifier : String) :
    (d'.byIdentifier env identifier).map Prod.fst = (d.byIdentifier env identifier).map Prod.fst := by
  unfold Db.byIdentifier
  dsimp only
  split_ifs
  · rfl
  · rw [Option.map_or, Option.map_or, Option.map_or, Option.map_or, h.username, h.email, h.phone]

/-- What the other attempts do meanwhile. -/
def accountDiscipline (env : Deployment) : Discipline Db RowLock where
  rely _ := Db.AccountsKept env
  fresh _ _ := True
  rely_refl _ d := accountsKept_refl env d
  rely_trans h h' := h.trans h'
  rely_mono _ h := h

/-- A change that closes no account. -/
def Mild (env : Deployment) (f : Db → Db) : Prop := ∀ d : Db, d.AccountsKept env (f d)

theorem mild_id (env : Deployment) : Mild env id := accountsKept_refl env

theorem Mild.comp {env : Deployment} {f g : Db → Db} (hf : Mild env f) (hg : Mild env g) : Mild env (f ∘ g) :=
  fun d => (hg d).trans (hf (g d))

theorem mild_users {env : Deployment} (userId : Nat) {f : User → User}
    (hname : ∀ u : User, (f u).username = u.username ∧ (f u).email = u.email ∧ (f u).phone = u.phone)
    (hopen : ∀ (u : User) now, u.Open env now → (f u).Open env now) :
    Mild env fun d => { d with users := d.users.modify userId f } := by
  have hfst : ∀ found : Option (Nat × User), (found.map fun e => if e.1 = userId then (e.1, f e.2) else e).map Prod.fst =
      found.map Prod.fst := by
    intro found
    cases found with
    | none => rfl
    | some e => by_cases he : e.1 = userId <;> simp [he]
  refine fun d => ⟨fun x => ?_, fun x => ?_, fun x => ?_, fun i user now hrow ho => ?_⟩
  · unfold Db.userByUsername
    rw [Dict.find?_modify _ _ fun u => by rw [(hname u).1], hfst]
  · unfold Db.userByEmail
    rw [Dict.find?_modify _ _ fun u => by rw [(hname u).2.1], hfst]
  · unfold Db.userByPhone
    rw [Dict.find?_modify _ _ fun u => by rw [(hname u).2.2], hfst]
  · dsimp only
    rw [Dict.get?_modify, hrow]
    split_ifs
    · exact ⟨f user, rfl, hopen user now ho⟩
    · exact ⟨user, rfl, ho⟩

theorem mild_sessions (env : Deployment) (g : Db → Dict Nat AuthSession) : Mild env fun d => { d with sessions := g d } :=
  fun _ => ⟨fun _ => rfl, fun _ => rfl, fun _ => rfl, fun _ user _ hrow ho => ⟨user, hrow, ho⟩⟩

theorem User.Open.succeededBy {env : Deployment} {row : User} {t : Time} (h : row.Open env t) (held : User) (now : Time) :
    (held.succeededBy now row).Open env t := by
  obtain ⟨hdisabled, hinactive, hfailed, hlocked⟩ := guardLoginAllowed_eq_ok.mp h.allowed
  refine ⟨guardLoginAllowed_eq_ok.mpr ?_, fun u hu => ?_⟩
  · unfold User.succeededBy
    dsimp only
    refine ⟨?_, ?_, ?_, ?_⟩ <;> split_ifs
    · exact UserStatus.noConfusion
    · exact hdisabled
    · exact UserStatus.noConfusion
    · exact hinactive
    · exact hfailed
    · exact Nat.zero_lt_of_lt hfailed
    · exact UserStatus.noConfusion
    · exact hlocked
  · unfold User.succeededBy at hu
    dsimp only at hu
    split_ifs at hu
    · exact h.unlocked u hu
    · cases hu

theorem User.Open.withPassword {env : Deployment} {row : User} {t : Time} (h : row.Open env t) (hash : String) (now : Time) :
    (row.withPassword hash now).Open env t :=
  ⟨h.allowed, h.unlocked⟩

theorem within_writeUser {env : Deployment} {E : AppError → Prop} (userId : Nat) {f : User → User}
    (hname : ∀ u : User, (f u).username = u.username ∧ (f u).email = u.email ∧ (f u).phone = u.phone)
    (hopen : ∀ (u : User) now, u.Open env now → (f u).Open env now) : (writeUser userId f).Within (Mild env) E :=
  .bind (within_lock _ _) fun _ => within_update (mild_users userId hname hopen)

/-- A login whose password was verified closes no account, and never answers that the password is wrong. -/
theorem within_openSession (env : Deployment) (userId : Nat) (user : User) (password : String) (client : Client) (draws : Draws)
    (now : Time) : (openSession env userId user password client draws now).Within (Mild env) (· ≠ invalidCredentials) := by
  have hrehash : (openSession.rehash env userId user password draws now).Within (Mild env) (· ≠ invalidCredentials) := by
    unfold openSession.rehash
    split_ifs
    · refine .bind (within_ofExcept fun x hx => hashPassword_error hx) fun hash => ?_
      refine .bind (within_writeUser userId (fun u => ⟨rfl, rfl, rfl⟩) fun u t hu => hu.withPassword hash now) fun _ => ?_
      exact within_pure _
    · exact within_pure _
  have hinsert : ∀ s : AuthSession, (insertSession s).Within (Mild env) (· ≠ invalidCredentials) := by
    intro s
    unfold insertSession
    refine .bind (within_lock _ _) fun taken => .bind within_newId fun id => .bind (within_raiseIf _ (by decide)) fun _ => ?_
    exact .bind (within_update (mild_sessions env _)) fun _ => within_pure _
  unfold openSession
  refine .bind hrehash fun user' => ?_
  refine .bind (within_writeUser userId (fun u => ⟨rfl, rfl, rfl⟩) fun u t hu => hu.succeededBy user' now) fun _ => ?_
  refine .bind (within_query _) fun roles => ?_
  exact .bind (hinsert _) fun id => within_pure _

/-- An answer that the password is wrong says that the account was open. -/
def AnswerSound (env : Deployment) (a : Attempt) (answered : Except AppError IssuedSession) (d : Db) : Prop :=
  answered = .error invalidCredentials → a.password ≠ "" →
    ∀ userId, (d.byIdentifier env (strip a.identifier)).map Prod.fst = some userId →
      ∃ user, d.users.get? userId = some user ∧ user.Open env a.now

theorem wp_findByIdentifier {env : Deployment} {ok : Admits Db RowLock AppError (Except AppError (Option (Nat × User)))}
    {Q : Except AppError (Option (Nat × User)) → (Lock RowLock → Prop) → (Db → Db) → Db → Prop} {identifier : String} {base : Db}
    (hQ : ∀ d found, (found : Option (Nat × User)).map Prod.fst = (d.byIdentifier env identifier).map Prod.fst →
      (∀ userId user, found = some (userId, user) → d.users.get? userId = some user) → Q (.ok found) (fun _ => False) id d) :
    (accountDiscipline env).Wp (fun _ => True) ok Q (answer (findByIdentifier env identifier)) (fun _ => False) id base := by
  unfold Db.byIdentifier at hQ
  unfold findByIdentifier
  generalize strip identifier = cleaned at hQ ⊢
  dsimp only at hQ ⊢
  by_cases hblank : cleaned = ""
  · rw [if_pos hblank]
    refine hQ base none ?_ fun _ _ h => nomatch h
    rw [if_pos hblank]
  simp only [if_neg hblank, Option.map_or] at hQ ⊢
  refine Discipline.wp_answer_query fun d₁ _ _ _ => ?_
  rw [id_eq]
  cases huser : d₁.userByUsername env cleaned with
  | some found =>
    refine hQ d₁ (some found) ?_ fun userId user hfound => ?_
    · rw [huser]
      rfl
    · cases hfound
      exact (Dict.find?_some huser).1
  | none =>
    refine Discipline.wp_answer_query fun d₂ hkept₂ _ _ => ?_
    have huser₂ := hkept₂.username cleaned
    rw [huser] at huser₂
    rw [id_eq]
    cases hemail : d₂.userByEmail env cleaned with
    | some found =>
      refine hQ d₂ (some found) ?_ fun userId user hfound => ?_
      · rw [huser₂, hemail]
        rfl
      · cases hfound
        exact (Dict.find?_some hemail).1
    | none =>
      intro d₃ hkept₃ _ _
      have huser₃ := (hkept₃.username cleaned).trans huser₂
      have hemail₃ := hkept₃.email cleaned
      rw [hemail] at hemail₃
      refine hQ d₃ (d₃.userByPhone cleaned) ?_ fun userId user hfound => (Dict.find?_some hfound).1
      rw [huser₃, hemail₃]
      rfl

section

attribute [local irreducible] Discipline.Wp

/-- An attempt among others answers soundly. -/
theorem safe_answered (env : Deployment) (a : Attempt) (d : Db) :
    (accountDiscipline env).Safe (fun _ => True) (fun _ _ _ _ => True) (AnswerSound env a) (a.answered env) (fun _ => False) id d := by
  -- any other answer promises nothing
  have hother : ∀ {x : AppError} {base : Db}, x ≠ invalidCredentials →
      ∀ d, (accountDiscipline env).rely (fun _ => False) base d → True → AnswerSound env a (.error x) d :=
    fun hx _ _ _ hwrong => absurd (Except.error.inj hwrong) hx
  unfold Discipline.Safe Attempt.answered
  unfold Attempt.login login
  refine Discipline.wp_answer_raiseIf (fun hblank => ?_) fun hblank => ?_
  · intro d₁ _ _ _ hgiven userId haccount
    rcases hblank with hblank | hblank
    · rw [hblank, byIdentifier_blank] at haccount
      cases haccount
    · exact absurd hblank hgiven
  rw [Discipline.wp_answer_bind, Discipline.wp_bind]
  refine wp_findByIdentifier fun d₁ found hsame hrow => ?_
  cases found with
  | none =>
    refine Discipline.wp_answer_raise ?_
    intro d₂ hkept _ _ _ userId haccount
    rw [Db.AccountsKept.byIdentifier hkept, ← hsame] at haccount
    cases haccount
  | some entry =>
    obtain ⟨userId, user⟩ := entry
    have huser := hrow userId user rfl
    refine Discipline.wp_answer_ofExcept (fun x hguard => hother ?_) fun u hguard => ?_
    · rintro rfl
      rcases guardLoginAllowed_error hguard with hkind | hkind <;> cases hkind
    refine Discipline.wp_answer_raiseIf (fun _ => hother (by decide)) fun hunlocked => ?_
    have hopen : user.Open env a.now := ⟨hguard, fun t ht => by_contra fun hlt => hunlocked ⟨t, ht, not_le.mp hlt⟩⟩
    by_cases hverified : verifyPassword env a.password user.passwordHash = true
    · rw [if_pos hverified]
      refine Discipline.wp_answer_raiseIf (fun _ => hother (by decide)) fun _ => ?_
      refine Discipline.wp_answer_transaction (mild_id env) (fun _ _ => Mild.comp) ?_ ?_ ?_ (within_openSession _ _ _ _ _ _ _) (mild_id env)
      · exact fun f h d hf _ => ⟨trivial, fun _ _ => hf d, fun _ _ _ => trivial⟩
      · exact fun issued d₂ _ _ _ hwrong => nomatch hwrong
      · exact fun x base hx => hother hx
    · rw [if_neg hverified]
      unfold writeUser
      refine Discipline.wp_answer_lock fun d₂ hkept₂ _ _ => ?_
      refine Discipline.wp_answer_update ?_
      refine Discipline.wp_answer_raise ?_
      intro d₃ hkept₃ _ _ _ userId' haccount
      have hkept : d₁.AccountsKept env d₃ := Db.AccountsKept.trans hkept₂ hkept₃
      rw [hkept.byIdentifier, ← hsame] at haccount
      cases haccount
      exact hkept.opened userId user a.now huser hopen

end

/-- The attempt is refused, whatever the verification of its password would say. -/
def Attempt.Refused (env : Deployment) (a : Attempt) (d : Db) (next : Nat) : Prop :=
  ∃ x, x ≠ invalidCredentials ∧
    ∀ verify : String → String → Bool, ((a.login { env with argonVerify := verify }).run (Exec.start d next)).1 = .error x

/-- However many wrong passwords were answered, the next attempt on the account is not refused before its password is verified. -/
theorem lockout_never_locks (env : Deployment) (configured : 0 < env.settings.loginMaxFailures) {d : Db} {next : Nat}
    (attempts : Nat → Attempt) {t : Sys Db RowLock AppError (Except AppError IssuedSession)}
    (reached : Reaches (fun _ _ _ _ _ => True) (Sys.init d next fun i => (attempts i).answered env) t) {userId : Nat} {user : User}
    {wrong : Finset Nat} (enough : env.settings.loginMaxFailures ≤ wrong.card)
    (answered : ∀ i ∈ wrong, (attempts i).password ≠ "" ∧
      (t.committed.byIdentifier env (strip (attempts i).identifier)).map Prod.fst = some userId ∧
      (t.sessions i).prog = .ret (.error invalidCredentials))
    {a : Attempt} (hon : a.On env t.committed userId user) (later : ∀ i ∈ wrong, (attempts i).now ≤ a.now) :
    ¬ a.Refused env t.committed t.next := by
  rintro ⟨x, hx, hrefused⟩
  obtain ⟨i, hi⟩ : wrong.Nonempty := Finset.card_pos.mp (configured.trans_le enough)
  obtain ⟨hgiven, haccount, hprog⟩ := answered i hi
  have hsound : AnswerSound env (attempts i) (.error invalidCredentials) t.committed :=
    Discipline.reaches_post (P := accountDiscipline env) trivial (fun _ _ => trivial) (fun j => safe_answered env (attempts j) d)
      reached hprog
  obtain ⟨user', hrow, hopen⟩ := hsound rfl hgiven userId haccount
  rw [byIdentifier_some hon.account] at hrow
  cases hrow
  have hon' : a.On { env with argonVerify := fun _ _ => false } t.committed userId user := ⟨hon.given, hon.account⟩
  have hopen' : user.Open { env with argonVerify := fun _ _ => false } a.now := ⟨hopen.allowed, (hopen.later (later i hi)).unlocked⟩
  have hrun := run_login_open (e := Exec.start t.committed t.next) hon' hopen'
  have hwrong : ¬ verifyPassword { env with argonVerify := fun _ _ => false } a.password user.passwordHash = true := by
    unfold verifyPassword
    simp
  rw [if_neg hwrong] at hrun
  have hrefused := hrefused fun _ _ => false
  rw [hrun] at hrefused
  exact hx (Except.error.inj hrefused).symm

/-- The right password, six seconds after the fifth wrong one. -/
def sampleSoon : Attempt := { sampleRight with now := sampleMorning + 10000 }

/-- Five wrong passwords are answered, and the sixth attempt finds the account open. -/
theorem sampleWrong_answered : ∃ t, Reaches (fun _ _ _ _ _ => True)
      (Sys.init sampleSite.db sampleSite.next fun i => (sampleWrong i).answered sampleDeployment) t ∧
    (∀ i ∈ Finset.range 5, (sampleWrong i).password ≠ "" ∧
      (t.committed.byIdentifier sampleDeployment (strip (sampleWrong i).identifier)).map Prod.fst = some 1 ∧
      (t.sessions i).prog = .ret (.error invalidCredentials)) ∧
    (∃ user, sampleSoon.On sampleDeployment t.committed 1 user) ∧
    ((sampleSoon.login sampleDeployment).run (Exec.start t.committed t.next)).1.toOption.isSome = true := by
  have hrun : (((Sys.init sampleSite.db sampleSite.next fun i => (sampleWrong i).answered sampleDeployment).exec
      ((List.range 5).flatMap fun i => List.replicate 4 (.run i))).map fun t => decide (
        (∀ i ∈ List.range 5, (t.committed.byIdentifier sampleDeployment (strip (sampleWrong i).identifier)).map Prod.fst = some 1 ∧
          ((t.sessions i).prog.ended?.elim false fun r => match r with
            | .error x => decide (x = invalidCredentials)
            | .ok _ => false) = true) ∧
        (t.committed.byIdentifier sampleDeployment (strip sampleSoon.identifier)).map Prod.fst = some 1 ∧
        ((sampleSoon.login sampleDeployment).run (Exec.start t.committed t.next)).1.toOption.isSome = true)) = some true := by
    decide +kernel
  obtain ⟨t, hexec, hfacts⟩ := Option.map_eq_some_iff.mp hrun
  obtain ⟨hwrong, hsoon, hopen⟩ := of_decide_eq_true hfacts
  refine ⟨t, Reaches.refl.exec hexec, fun i hi => ?_, ?_, hopen⟩
  · obtain ⟨haccount, hended⟩ := hwrong i (List.mem_range.mpr (Finset.mem_range.mp hi))
    refine ⟨(show "Linden-Harbour-24" ≠ "" by decide), haccount, ?_⟩
    cases hprog : (t.sessions i).prog.ended? with
    | none =>
      rw [hprog] at hended
      cases hended
    | some r =>
      rw [hprog] at hended
      cases r with
      | ok issued => cases hended
      | error x =>
        obtain rfl := of_decide_eq_true hended
        exact ended?_eq_some.mp hprog
  · obtain ⟨⟨userId, user⟩, hfound, rfl⟩ := Option.map_eq_some_iff.mp hsoon
    exact ⟨user, by decide, hfound⟩

theorem lockout_never_locks_sample : ∃ t : Sys Db RowLock AppError (Except AppError IssuedSession),
    ¬ sampleSoon.Refused sampleDeployment t.committed t.next := by
  obtain ⟨t, hreached, hanswered, ⟨user, hon⟩, -⟩ := sampleWrong_answered
  refine ⟨t, lockout_never_locks sampleDeployment (by decide) sampleWrong hreached (by decide) hanswered hon fun i hi => ?_⟩
  have hlt := Finset.mem_range.mp hi
  exact Nat.add_le_add_left (show i * 1000 ≤ 10000 by omega) sampleMorning

/-- Five wrong passwords were answered, and six seconds later the sample account is not locked. -/
theorem sampleWrong_not_locked : ∃ t, Reaches (fun _ _ _ _ _ => True)
      (Sys.init sampleSite.db sampleSite.next fun i => (sampleWrong i).answered sampleDeployment) t ∧
    (∀ i ∈ Finset.range 5, (t.sessions i).prog = .ret (.error invalidCredentials)) ∧
    ¬ sampleSoon.Refused sampleDeployment t.committed t.next := by
  obtain ⟨t, hreached, hanswered, -, hopen⟩ := sampleWrong_answered
  refine ⟨t, hreached, fun i hi => (hanswered i hi).2.2, ?_⟩
  rintro ⟨x, -, hrefused⟩
  have hrun := hrefused sampleDeployment.argonVerify
  rw [show ({ sampleDeployment with argonVerify := sampleDeployment.argonVerify } : Deployment) = sampleDeployment from rfl] at hrun
  rw [hrun] at hopen
  cases hopen

end NovaCommerce.Identity
