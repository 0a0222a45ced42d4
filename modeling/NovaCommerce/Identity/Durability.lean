import NovaCommerce.Identity.Runs
import Mathlib.Logic.Relation

/-!
# What outlives a request

* `Db.Family` : the sessions that `rotated_from` links, in both directions (`familyIds_family`);
* `Site.FamilyOver` : nothing of a family is live, and nothing of it is rotated any more. A reuse that is detected leaves that
  exactly where it found it (`reuse_durable_iff`), though its own view has the family revoked (`reuse_refused`);
* `Site.Keeps` : an issued session is committed and is found by its token; it is, unless the presented token was revoked
  (`issued_kept_iff`).
-/

namespace NovaCommerce.Identity

open Sql

/-! ## Families -/

/-- The second session was opened from the first by a rotation. -/
def Db.RotatedInto (d : Db) (i j : Nat) : Prop := ∃ s, d.sessions.get? j = some s ∧ s.rotatedFrom = some i

/-- The sessions that rotations link. -/
def Db.Family (d : Db) : Nat → Nat → Prop := Relation.EqvGen d.RotatedInto

theorem climb_family {d : Db} {root : Nat} : ∀ (depth : Nat) (chain : List Nat) (id : Nat) (s : AuthSession),
    d.sessions.get? id = some s → d.Family root id → (∀ i ∈ chain, d.Family root i) → ∀ i ∈ d.climb depth chain s, d.Family root i := by
  intro depth
  induction depth with
  | zero => exact fun _ _ _ _ _ hchain => hchain
  | succ depth ih =>
    intro chain id s hget hid hchain
    unfold Db.climb
    cases hparent : s.rotatedFrom with
    | none => exact hchain
    | some parentId =>
      dsimp only
      cases hrow : d.sessions.get? parentId with
      | none => exact hchain
      | some parent =>
        dsimp only
        split_ifs with hseen
        · exact hchain
        have hup : d.Family root parentId := hid.trans _ _ _ (.symm _ _ (.rel _ _ ⟨s, hget, hparent⟩))
        refine ih (chain ++ [parentId]) parentId parent hrow hup fun i hi => ?_
        rcases List.mem_append.mp hi with hi | hi
        · exact hchain i hi
        · rw [List.mem_singleton] at hi
          exact hi ▸ hup

theorem descend_family {d : Db} {root : Nat} : ∀ (depth : Nat) (ids frontier : List Nat),
    (∀ i ∈ ids, d.Family root i) → (∀ i ∈ frontier, d.Family root i) → ∀ i ∈ d.descend depth ids frontier, d.Family root i := by
  intro depth
  induction depth with
  | zero => exact fun _ _ hids _ => hids
  | succ depth ih =>
    intro ids frontier hids hfrontier
    unfold Db.descend
    split_ifs
    · exact hids
    have hfresh : ∀ i ∈ (d.successorsOf frontier).filter fun id => decide (id ∉ ids), d.Family root i := by
      intro i hi
      have hsuccessor := (List.mem_filter.mp hi).1
      obtain ⟨⟨j, s⟩, hs, rfl⟩ := List.mem_map.mp hsuccessor
      obtain ⟨hget, hp⟩ := Dict.mem_select.mp hs
      obtain ⟨p, hp, hmem⟩ := of_decide_eq_true hp
      exact (hfrontier p hmem).trans _ _ _ (.rel _ _ ⟨s, hget, hp⟩)
    refine ih _ _ (fun i hi => ?_) hfresh
    rcases List.mem_append.mp hi with hi | hi
    · exact hids i hi
    · exact hfresh i hi

/-- The walks stay within the family. -/
theorem familyIds_family {d : Db} {id : Nat} {s : AuthSession} (hrow : d.sessions.get? id = some s) :
    ∀ i ∈ d.familyIds id s, d.Family id i := by
  have hself : d.Family id id := .refl _
  have hchain : ∀ i ∈ d.climb maxRotationChainDepth [id] s, d.Family id i :=
    climb_family _ [id] id s hrow hself fun i hi => by
      rw [List.mem_singleton] at hi
      exact hi ▸ hself
  exact descend_family _ _ _ hchain hchain

/-! ## A token that is presented again -/

/-- The family was only ever rotated, on one database. -/
def Db.rotationOnly (d : Db) (id : Nat) (held : AuthSession) : Bool :=
  (((d.familyIds id held).filterMap fun id => d.sessions.get? id).filter fun s => decide ¬ s.Live).all
    fun s => decide (s.revokedReason = some .rotated)

theorem run_familyIsRotationOnly (id : Nat) (held : AuthSession) (e : Exec Db) :
    (familyIsRotationOnly id held).run e = (.ok (e.view.rotationOnly id held), e) := by
  unfold familyIsRotationOnly
  rw [run_bind, run_familySessionIds, andThen_ok, run_bind, run_query, andThen_ok]
  rfl

/-- A double submit: the token was rotated within the grace window, in a family that was only rotated. -/
structure Db.Tolerated (d : Db) (id : Nat) (held : AuthSession) (now : Time) : Prop where
  rotated : held.revokedReason = some .rotated
  family : d.rotationOnly id held = true
  recent : ∃ t ∈ held.revokedAt, now ≤ t + reuseGraceSeconds * 1000

theorem run_handleReuse_tolerated {env : Deployment} {id : Nat} {held : AuthSession} {client : Client} {draws : Draws} {now : Time}
    {e : Exec Db} (h : e.view.Tolerated id held now) :
    (handleReuse env id held client draws now).run e = (reissueFromChain env id held client draws now).run e := by
  unfold handleReuse
  dsimp only
  rw [if_pos h.rotated, run_bind, run_familyIsRotationOnly, andThen_ok, if_pos ⟨h.family, h.recent⟩]

theorem run_handleReuse_refused {env : Deployment} {id : Nat} {held : AuthSession} {client : Client} {draws : Draws} {now : Time}
    {e : Exec Db} (h : ¬ e.view.Tolerated id held now) :
    (handleReuse env id held client draws now).run e =
      andThen ((revokeFamily id held .reuseDetected now).run e) fun count e' =>
        (.error { kind := .refreshTokenReuse
                  message := "refresh token reuse detected; all sessions in this family have been revoked"
                  context := [("revoked_sessions", .int count)] }, e') := by
  unfold handleReuse
  dsimp only
  by_cases hrotated : held.revokedReason = some .rotated
  · have hnot : ¬ (e.view.rotationOnly id held = true ∧ ∃ t ∈ held.revokedAt, now ≤ t + reuseGraceSeconds * 1000) :=
      fun hboth => h ⟨hrotated, hboth.1, hboth.2⟩
    rw [if_pos hrotated, run_bind, run_familyIsRotationOnly, andThen_ok, if_neg hnot, run_bind]
    rfl
  · have hnot : ¬ (false = true ∧ ∃ t ∈ held.revokedAt, now ≤ t + reuseGraceSeconds * 1000) := fun hboth => nomatch hboth.1
    rw [if_neg hrotated, run_bind, run_pure, andThen_ok, if_neg hnot, run_bind]
    rfl

/-- The token was rotated, longer ago than the grace window. -/
structure AuthSession.Reused (held : AuthSession) (now : Time) : Prop where
  rotated : held.revokedReason = some .rotated
  outside : ∃ t ∈ held.revokedAt, t + reuseGraceSeconds * 1000 < now

theorem AuthSession.Reused.not_live {held : AuthSession} {now : Time} (h : held.Reused now) : ¬ held.Live := by
  obtain ⟨t, ht, -⟩ := h.outside
  intro hlive
  unfold AuthSession.Live at hlive
  rw [hlive] at ht
  cases ht

theorem AuthSession.Reused.not_tolerated {held : AuthSession} {now : Time} (h : held.Reused now) (d : Db) (id : Nat) :
    ¬ d.Tolerated id held now := by
  rintro ⟨-, -, t, ht, hrecent⟩
  obtain ⟨t', ht', houtside⟩ := h.outside
  rw [Option.mem_def] at ht ht'
  rw [ht] at ht'
  cases ht'
  exact absurd houtside (not_lt.mpr hrecent)

/-- A family is revoked when the clock did not run backwards. -/
theorem run_revokeFamily (id : Nat) (held : AuthSession) (reason : SessionRevokeReason) {now : Time} {e : Exec Db}
    (clock : ∀ i row, e.view.sessions.get? i = some row → row.createdAt ≤ now) :
    ∃ count, (revokeFamily id held reason now).run e = (.ok count, { e with view := e.view.familyRevoked id held reason now }) := by
  have hchecked : ¬ ∃ entry ∈ e.view.liveAmong (e.view.familyIds id held), ¬ (entry.2.revokedBy reason now).Checked := by
    rintro ⟨⟨i, row⟩, hmem, hunchecked⟩
    obtain ⟨j, -, hj⟩ := List.mem_filterMap.mp (List.mem_filter.mp hmem).1
    obtain ⟨row', hrow, heq⟩ := Option.map_eq_some_iff.mp hj
    cases heq
    refine hunchecked fun t ht => ?_
    cases ht
    exact clock i row hrow
  unfold revokeFamily revokeLive
  rw [run_bind, run_familySessionIds, andThen_ok, run_bind, run_lock, andThen_ok, run_bind, run_raiseIf_neg hchecked, andThen_ok]
  exact ⟨_, rfl⟩

theorem run_rotate_revoked {env : Deployment} {presented : String} {client : Client} {draws : Draws} {now : Time} {e : Exec Db}
    {id : Nat} {held : AuthSession} (hgiven : presented ≠ "")
    (found : e.view.sessionByRefreshHash (hashRefreshToken env presented) = some (id, held)) (hrevoked : ¬ held.Live) :
    (rotate env presented client draws now).run e = (handleReuse env id held client draws now).run e := by
  unfold rotate getByRefreshHash
  rw [run_bind, run_raiseIf_neg hgiven, andThen_ok, run_bind, run_query, andThen_ok, found]
  dsimp only
  have hnot : held.revokedAt ≠ none := hrevoked
  rw [if_pos hnot]

/-- A reuse is refused. In the view of its own request the family is revoked, as far as the walks reach; nothing is committed. -/
theorem reuse_refused {env : Deployment} {presented : String} {client : Client} {draws : Draws} {now : Time} {e : Exec Db} {id : Nat}
    {held : AuthSession} (hgiven : presented ≠ "")
    (found : e.view.sessionByRefreshHash (hashRefreshToken env presented) = some (id, held)) (reused : held.Reused now)
    (clock : ∀ i row, e.view.sessions.get? i = some row → row.createdAt ≤ now) :
    ∃ x, x.kind = .refreshTokenReuse ∧ (rotate env presented client draws now).run e =
      (.error x, { e with view := e.view.familyRevoked id held .reuseDetected now }) := by
  obtain ⟨count, hfamily⟩ := run_revokeFamily id held .reuseDetected clock
  refine ⟨?_, ?_, ?_⟩
  rotate_left 2
  · rw [run_rotate_revoked hgiven found reused.not_live, run_handleReuse_refused (reused.not_tolerated _ _), hfamily, andThen_ok]
  · rfl

/-! ## Reuse detection -/

/-- The family of a session is over: none of its sessions is live, and whatever happens later, a request that presents the token of one
of them commits nothing. -/
structure Site.FamilyOver (env : Deployment) (s : Site) (id : Nat) : Prop where
  dead : ∀ j row, s.db.Family id j → s.db.sessions.get? j = some row → ¬ row.Live
  final : ∀ j row, s.db.Family id j → s.db.sessions.get? j = some row →
    ∀ (later : List (Request × Nat)) (presented : String), hashRefreshToken env presented = row.refreshTokenHash →
      ∀ (client : Client) (draws : Draws) (now : Time) (n : Nat),
        ((s.run env later).after env (.rotate presented client draws now) n).db = (s.run env later).db

/-- A request that presents the token of a revoked session commits nothing. -/
theorem after_rotate_revoked {env : Deployment} {s : Site} {presented : String} {id : Nat} {held : AuthSession}
    (found : s.db.sessionByRefreshHash (hashRefreshToken env presented) = some (id, held)) (hrevoked : ¬ held.Live)
    (client : Client) (draws : Draws) (now : Time) (n : Nat) : (s.after env (.rotate presented client draws now) n).db = s.db := by
  rcases request_effect env s (.rotate presented client draws now) n with ⟨hdb, -⟩ | ⟨next, -, heffect⟩
  · exact hdb
  · generalize (s.after env (.rotate presented client draws now) n).db = d at heffect ⊢
    cases heffect with
    | rotated found' rotatable checked free =>
      rw [found] at found'
      cases found'
      exact absurd rotatable.live hrevoked

/-- A family is over where none of its sessions is live. -/
theorem familyOver_iff (env : Deployment) {s : Site} (hs : s.Sound) (id : Nat) :
    s.FamilyOver env id ↔ ∀ j row, s.db.Family id j → s.db.sessions.get? j = some row → ¬ row.Live := by
  refine ⟨fun h => h.dead, fun hdead => ⟨hdead, ?_⟩⟩
  intro j row hj hrow later presented hhash client draws now n
  obtain ⟨row', hrow', hfollows⟩ := run_follows env later hs hrow
  have hfound := (sound_run env later hs).named.sessionByRefreshHash hrow'
  rw [hfollows.refreshTokenHash, ← hhash] at hfound
  exact after_rotate_revoked hfound (hfollows.not_live (hdead j row hj hrow)) client draws now n

/-- After a reuse was detected, the family is over exactly where no session of it was live before. -/
theorem reuse_durable_iff (env : Deployment) {s : Site} (hs : s.Sound) (history : List (Request × Nat)) {presented : String}
    {client : Client} {draws : Draws} {now : Time} {id : Nat} {held : AuthSession}
    (found : (s.run env history).db.sessionByRefreshHash (hashRefreshToken env presented) = some (id, held))
    (reused : held.Reused now) :
    ((s.run env history).ended env (.rotate presented client draws now)).FamilyOver env id ↔
      ∀ j row, (s.run env history).db.Family id j → (s.run env history).db.sessions.get? j = some row → ¬ row.Live := by
  have hsound := sound_run env history hs
  obtain ⟨n, hn⟩ := exists_after_eq env (s.run env history) (.rotate presented client draws now)
  have hdb := after_rotate_revoked found reused.not_live client draws now n
  rw [familyOver_iff env (sound_ended env hsound _) id, ← hn, hdb]

/-- The two sessions that the sample leaves. -/
theorem sampleRotation_sessions : ∃ first second,
    (sampleSite.run sampleDeployment sampleRotation).db.sessions.get? 2 = some first ∧
    (sampleSite.run sampleDeployment sampleRotation).db.sessions.get? 3 = some second ∧
    hashRefreshToken sampleDeployment sampleFirstToken = first.refreshTokenHash ∧
    (first.revokedReason = some .rotated ∧ first.revokedAt = some (sampleMorning + 3600000)) ∧
    second.Live ∧ second.rotatedFrom = some 2 := by
  have hrun : ((sampleSite.run sampleDeployment sampleRotation).db.sessions.get? 2).bind (fun first =>
      ((sampleSite.run sampleDeployment sampleRotation).db.sessions.get? 3).map fun second =>
        decide (hashRefreshToken sampleDeployment sampleFirstToken = first.refreshTokenHash ∧
          (first.revokedReason = some .rotated ∧ first.revokedAt = some (sampleMorning + 3600000)) ∧
          second.Live ∧ second.rotatedFrom = some 2)) = some true := by
    decide +kernel
  obtain ⟨first, hfirst, hrun⟩ := Option.bind_eq_some_iff.mp hrun
  obtain ⟨second, hsecond, hfacts⟩ := Option.map_eq_some_iff.mp hrun
  exact ⟨first, second, hfirst, hsecond, of_decide_eq_true hfacts⟩

/-- A minute after its rotation, the first token of the sample is a reuse. -/
theorem sampleRotation_reused : ∃ held, (sampleSite.run sampleDeployment sampleRotation).db.sessionByRefreshHash
      (hashRefreshToken sampleDeployment sampleFirstToken) = some (2, held) ∧ held.Reused (sampleMorning + 3660000) := by
  obtain ⟨first, second, hfirst, -, hhash, ⟨hreason, hat⟩, -⟩ := sampleRotation_sessions
  have hsound := sound_run sampleDeployment sampleRotation sampleSite_sound
  refine ⟨first, ?_, hreason, _, hat, by decide⟩
  rw [hhash]
  exact hsound.named.sessionByRefreshHash hfirst

theorem reuse_durable_sample : ∃ held,
    (sampleSite.run sampleDeployment sampleRotation).db.sessionByRefreshHash
      (hashRefreshToken sampleDeployment sampleFirstToken) = some (2, held) ∧
    (((sampleSite.run sampleDeployment sampleRotation).ended sampleDeployment
        (.rotate sampleFirstToken sampleClient sampleThirdDraws (sampleMorning + 3660000))).FamilyOver sampleDeployment 2 ↔
      ∀ j row, (sampleSite.run sampleDeployment sampleRotation).db.Family 2 j →
        (sampleSite.run sampleDeployment sampleRotation).db.sessions.get? j = some row → ¬ row.Live) := by
  obtain ⟨held, hfound, hreused⟩ := sampleRotation_reused
  exact ⟨held, hfound, reuse_durable_iff sampleDeployment sampleSite_sound sampleRotation hfound hreused⟩

/-- The first token is presented a minute after its rotation, and its successor stays live. -/
theorem reuse_not_durable : sampleSite.Sound ∧
    (∃ held, (sampleSite.run sampleDeployment sampleRotation).db.sessionByRefreshHash
      (hashRefreshToken sampleDeployment sampleFirstToken) = some (2, held) ∧ held.Reused (sampleMorning + 3660000)) ∧
    ¬ ((sampleSite.run sampleDeployment sampleRotation).ended sampleDeployment
        (.rotate sampleFirstToken sampleClient sampleThirdDraws (sampleMorning + 3660000))).FamilyOver sampleDeployment 2 := by
  refine ⟨sampleSite_sound, sampleRotation_reused, fun hover => ?_⟩
  obtain ⟨first, second, -, hsecond, -, -, hlive, hfrom⟩ := sampleRotation_sessions
  obtain ⟨held, hfound, hreused⟩ := sampleRotation_reused
  obtain ⟨n, hn⟩ := exists_after_eq sampleDeployment (sampleSite.run sampleDeployment sampleRotation)
    (.rotate sampleFirstToken sampleClient sampleThirdDraws (sampleMorning + 3660000))
  have hdb := after_rotate_revoked hfound hreused.not_live sampleClient sampleThirdDraws (sampleMorning + 3660000) n
  rw [hn] at hdb
  have hdead := hover.dead 3 second
  rw [hdb] at hdead
  exact hdead (.rel _ _ ⟨second, hsecond, hfrom⟩) hsecond hlive

/-! ## Issued sessions -/

/-- What a request hands out when it has ended. -/
def Request.issued (env : Deployment) (request : Request) (e : Exec Db) : Option IssuedSession :=
  match request with
  | .login identifier password client draws now => ((Identity.login env identifier password client draws now).run e).1.toOption
  | .rotate presented client draws now => ((Identity.rotate env presented client draws now).run e).1.toOption
  | .logout _ _ => none

/-- The request presents the token of a session that was revoked. -/
def Request.PresentsRevoked (env : Deployment) (d : Db) : Request → Prop
  | .rotate presented _ _ _ => ∃ id held, d.sessionByRefreshHash (hashRefreshToken env presented) = some (id, held) ∧ ¬ held.Live
  | _ => False

/-- An issued session is committed, and whatever is requested later, its token finds it: with the expiry that the client was told, and
live until a rotation or a logout revoked it. -/
structure Site.Keeps (env : Deployment) (s : Site) (issued : IssuedSession) : Prop where
  committed : s.db.sessions.get? issued.id = some issued.session
  live : issued.session.Live
  found : ∀ later : List (Request × Nat), ∃ row,
    (s.run env later).db.sessionByRefreshHash (hashRefreshToken env issued.refreshToken) = some (issued.id, row) ∧
      row.expiresAt = issued.refreshExpiresAt ∧ (row.Live ∨ row.revokedReason = some .rotated ∨ row.revokedReason = some .logout)

/-- A committed session is kept. -/
theorem keeps_of_committed (env : Deployment) {s : Site} (hs : s.Sound) {issued : IssuedSession}
    (hrow : s.db.sessions.get? issued.id = some issued.session) (hlive : issued.session.Live)
    (hhash : issued.session.refreshTokenHash = hashRefreshToken env issued.refreshToken)
    (hexpiry : issued.refreshExpiresAt = issued.session.expiresAt) : s.Keeps env issued where
  committed := hrow
  live := hlive
  found later := by
    obtain ⟨row, hrow', hfollows⟩ := run_follows env later hs hrow
    have hfound := (sound_run env later hs).named.sessionByRefreshHash hrow'
    rw [hfollows.refreshTokenHash, hhash] at hfound
    exact ⟨row, hfound, hfollows.expiresAt.trans hexpiry.symm, hfollows.ended hlive⟩

/-- What was issued and committed is kept. -/
theorem Issued.keeps {env : Deployment} {draws : Draws} {session : AuthSession} {e e' : Exec Db} {issued : IssuedSession}
    (h : Issued env draws session e e' issued) (hlive : session.Live)
    (hhash : session.refreshTokenHash = hashRefreshToken env draws.refreshToken) {s : Site} (hs : s.Sound) (hdb : s.db = e'.view) :
    s.Keeps env issued := by
  refine keeps_of_committed env hs ?_ ?_ ?_ ?_
  · rw [hdb, h.state, h.id, h.row]
    exact Dict.get?_set_self _ _ _
  · rw [h.row]
    exact hlive
  · rw [h.row, h.refreshToken, hhash]
  · rw [h.row, h.expiry]

/-- A double submit is issued a session that nobody committed. -/
theorem handleReuse_next_le {env : Deployment} {id : Nat} {held : AuthSession} {client : Client} {draws : Draws} {now : Time}
    {e e' : Exec Db} {issued : IssuedSession} (h : (handleReuse env id held client draws now).run e = (.ok issued, e')) :
    e.next ≤ issued.id := by
  by_cases htolerated : e.view.Tolerated id held now
  · rw [run_handleReuse_tolerated htolerated] at h
    rw [(reissueFromChain_eq_ok h).issued.id]
  · rw [run_handleReuse_refused htolerated, andThen_eq_ok] at h
    obtain ⟨_, _, -, h⟩ := h
    cases h

/-- What a request issues is kept, exactly when it did not present the token of a revoked session. -/
theorem issued_kept_iff (env : Deployment) {s : Site} (hs : s.Sound) (history : List (Request × Nat)) (request : Request)
    {issued : IssuedSession}
    (h : request.issued env (Exec.start (s.run env history).db (s.run env history).next) = some issued) :
    ((s.run env history).ended env request).Keeps env issued ↔ ¬ request.PresentsRevoked env (s.run env history).db := by
  have hsound := sound_run env history hs
  generalize s.run env history = t at h hsound ⊢
  have hended := sound_ended env hsound request
  cases request with
  | login identifier password client draws now =>
    have hrun := run_eq_ok_of_toOption h
    obtain ⟨userId, user, e₁, -, hissued, hend⟩ := login_eq_ok hrun
    have hdb : (t.ended env (.login identifier password client draws now)).db = e₁.view := by
      unfold Site.ended Request.ended
      dsimp only
      rw [hrun, hend]
    exact ⟨fun _ => id, fun _ => hissued.keeps rfl rfl hended hdb⟩
  | rotate presented client draws now =>
    have hrun := run_eq_ok_of_toOption h
    obtain ⟨id, held, hfound, ⟨e₁, hrotatable, hchecked, hissued, hend⟩ | ⟨hrevoked, hreuse⟩⟩ := rotate_eq_ok hrun
    · have hdb : (t.ended env (.rotate presented client draws now)).db = e₁.view := by
        unfold Site.ended Request.ended
        dsimp only
        rw [hrun, hend]
      refine ⟨fun _ => ?_, fun _ => hissued.keeps rfl rfl hended hdb⟩
      rintro ⟨id', held', hfound', hrevoked⟩
      have hsame : (id, held) = (id', held') := Option.some.inj (hfound.symm.trans hfound')
      cases hsame
      exact hrevoked hrotatable.live
    · refine ⟨fun hkeeps => ?_, fun hnot => absurd ⟨id, held, hfound, hrevoked⟩ hnot⟩
      obtain ⟨n, hn⟩ := exists_after_eq env t (.rotate presented client draws now)
      have hdb := after_rotate_revoked hfound hrevoked client draws now n
      have hnone := hsound.fresh issued.id (handleReuse_next_le hreuse)
      have hrow := hkeeps.committed
      rw [← hn, hdb, hnone] at hrow
      cases hrow
  | logout refreshToken now => cases h

/-- Five seconds after its rotation, the first token of the sample is a double submit, which is issued a session. -/
theorem sampleRotation_reissued : ∃ issued,
    (Request.rotate sampleFirstToken sampleClient sampleThirdDraws (sampleMorning + 3605000)).issued sampleDeployment
      (Exec.start (sampleSite.run sampleDeployment sampleRotation).db (sampleSite.run sampleDeployment sampleRotation).next) =
        some issued ∧
    (sampleSite.run sampleDeployment sampleRotation).next ≤ issued.id ∧
    ((sampleSite.run sampleDeployment sampleRotation).ended sampleDeployment
      (.rotate sampleFirstToken sampleClient sampleThirdDraws (sampleMorning + 3605000))).db.sessions.get? issued.id = none := by
  have hrun : (((Request.rotate sampleFirstToken sampleClient sampleThirdDraws (sampleMorning + 3605000)).issued sampleDeployment
      (Exec.start (sampleSite.run sampleDeployment sampleRotation).db (sampleSite.run sampleDeployment sampleRotation).next)).map
      fun issued => decide ((sampleSite.run sampleDeployment sampleRotation).next ≤ issued.id ∧
        ((sampleSite.run sampleDeployment sampleRotation).ended sampleDeployment
          (.rotate sampleFirstToken sampleClient sampleThirdDraws (sampleMorning + 3605000))).db.sessions.get? issued.id = none)) =
      some true := by
    decide +kernel
  obtain ⟨issued, hissued, hfacts⟩ := Option.map_eq_some_iff.mp hrun
  exact ⟨issued, hissued, of_decide_eq_true hfacts⟩

theorem issued_kept_sample : ∃ issued,
    (Request.rotate sampleFirstToken sampleClient sampleThirdDraws (sampleMorning + 3605000)).issued sampleDeployment
      (Exec.start (sampleSite.run sampleDeployment sampleRotation).db (sampleSite.run sampleDeployment sampleRotation).next) =
        some issued ∧
    (((sampleSite.run sampleDeployment sampleRotation).ended sampleDeployment
        (.rotate sampleFirstToken sampleClient sampleThirdDraws (sampleMorning + 3605000))).Keeps sampleDeployment issued ↔
      ¬ (Request.rotate sampleFirstToken sampleClient sampleThirdDraws (sampleMorning + 3605000)).PresentsRevoked sampleDeployment
        (sampleSite.run sampleDeployment sampleRotation).db) := by
  obtain ⟨issued, hissued, -⟩ := sampleRotation_reissued
  exact ⟨issued, hissued, issued_kept_iff sampleDeployment sampleSite_sound sampleRotation _ hissued⟩

/-- The session that a double submit was issued is gone when its request has ended. -/
theorem reissue_not_kept : sampleSite.Sound ∧ ∃ issued,
    (Request.rotate sampleFirstToken sampleClient sampleThirdDraws (sampleMorning + 3605000)).issued sampleDeployment
      (Exec.start (sampleSite.run sampleDeployment sampleRotation).db (sampleSite.run sampleDeployment sampleRotation).next) =
        some issued ∧
    ¬ ((sampleSite.run sampleDeployment sampleRotation).ended sampleDeployment
        (.rotate sampleFirstToken sampleClient sampleThirdDraws (sampleMorning + 3605000))).Keeps sampleDeployment issued := by
  obtain ⟨issued, hissued, -, hnone⟩ := sampleRotation_reissued
  refine ⟨sampleSite_sound, issued, hissued, fun hkeeps => ?_⟩
  have hrow := hkeeps.committed
  rw [hnone] at hrow
  cases hrow

end NovaCommerce.Identity
