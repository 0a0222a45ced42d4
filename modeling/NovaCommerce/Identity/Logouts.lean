import NovaCommerce.Identity.Rotations

/-!
# Logouts among rotations

* `Db.Dead` : no session of a family is live; no request changes that, alone (`preserved_dead`) or while others run;
* `Covers` : the logout finds its token, and its UPDATE names every live session of the family;
* `safe_logout` : such a logout leaves a dead family;
* `Db.Below` : how far the walks reach (`below_familyIds`);
* `logout_final` : after such a logout nothing of the family is rotated any more, as long as the session that it revoked is within
  the reach of the walk, or the grace window is over.
-/

namespace NovaCommerce.Identity

open Sql

/-! ## Dead families -/

/-- No session of the family is live. -/
def Db.Dead (d : Db) (root : Nat) : Prop := ∀ j, ¬ d.LiveIn root j

theorem preserved_rooted : Preserved Db.Rooted where
  rooted _ := id
  rests _ _ hd := hd.rests
  opened d d' i s hd hnone hfirst hset := by
    refine hd.set hnone (fun p hp => ?_) hset
    rw [hfirst] at hp
    cases hp
  succeeded d d' p i s t now hd hnone hrow hlive hfrom hset := by
    have hrests := rests_modify d p fun s => stays_revokedBy s .rotated now
    refine (hd.rests hrests).set (hrests.absent hnone) (fun q hq => ?_) hset
    rw [hfrom] at hq
    cases hq
    obtain ⟨t', ht', -⟩ := hrests.kept p t hrow
    exact ne_of_eq_of_ne ht' (Option.some_ne_none t')

/-- A dead family stays dead. -/
theorem preserved_dead (root : Nat) : Preserved fun d => d.Rooted ∧ d.sessions.get? root ≠ none ∧ d.Dead root where
  rooted _ hd := hd.1
  rests d d' hd hrests := by
    obtain ⟨hrooted, hroot, hdead⟩ := hd
    refine ⟨hrooted.rests hrests, ?_, fun j hj => hdead j (liveIn_rests hrests hj)⟩
    obtain ⟨s, hs⟩ := Option.ne_none_iff_exists'.mp hroot
    obtain ⟨s', hs', -⟩ := hrests.kept root s hs
    rw [hs']
    exact Option.some_ne_none s'
  opened d d' i s hd hnone hfirst hset := by
    obtain ⟨hrooted, hroot, hdead⟩ := hd
    refine ⟨preserved_rooted.opened d d' i s hrooted hnone hfirst hset, ?_, fun j hj => ?_⟩
    · have hne : root ≠ i := fun heq => hroot (heq ▸ hnone)
      rw [hset, Dict.get?_set_ne hne]
      exact hroot
    · exact hdead j (liveIn_opened hrooted hnone hfirst hset hroot hj)
  succeeded d d' p i s t now hd hnone hrow hlive hfrom hset := by
    obtain ⟨hrooted, hroot, hdead⟩ := hd
    have hpresent : d.sessions.get? p ≠ none := ne_of_eq_of_ne hrow (Option.some_ne_none t)
    refine ⟨preserved_rooted.succeeded d d' p i s t now hrooted hnone hrow hlive hfrom hset, ?_, fun j hj => ?_⟩
    · have hne : root ≠ i := fun heq => hroot (heq ▸ hnone)
      obtain ⟨u, hu⟩ := Option.ne_none_iff_exists'.mp hroot
      have hrests := rests_modify d p fun s => stays_revokedBy s .rotated now
      obtain ⟨u', hu', -⟩ := hrests.kept root u hu
      rw [hset, Dict.get?_set_ne hne]
      exact ne_of_eq_of_ne hu' (Option.some_ne_none u')
    · rcases liveIn_succeeded hrooted hnone hpresent hfrom hset hroot hj with ⟨-, hfamily⟩ | hold
      · exact hdead p ⟨t, hfamily, hrow, hlive⟩
      · exact hdead j hold

theorem Db.Lasts.dead {h : Lock RowLock → Prop} {d d' : Db} (hlasts : d.Lasts h d') {root : Nat} (hroot : d.sessions.get? root ≠ none)
    (hdead : d.Dead root) : d'.Dead root :=
  fun j hj => hdead j (hlasts.locked root hroot (fun k hk => absurd hk (hdead k)) j hj)

/-! ## A logout and its overlapping requests -/

/-- The logout finds the session `id` behind its token; and an UPDATE of it that is not the one of that session names every live session
of the family. -/
def Covers (id : Nat) (hash : String) : Admits Db RowLock AppError (Except AppError (Option IssuedSession))
  | .read _, _, _, d => (d.sessionByRefreshHash hash).map Prod.fst = some id
  | .acquire rows _, _, pending, d => .session id ∈ rows (pending d) ∨ ∀ j, (pending d).LiveIn id j → .session j ∈ rows (pending d)
  | _, _, _, _ => True

theorem mem_liveAmong {d : Db} {ids : List Nat} {j : Nat} (h : RowLock.session j ∈ (d.liveAmong ids).map fun e => RowLock.session e.1) :
    j ∈ ids ∧ ∃ s, d.sessions.get? j = some s ∧ s.Live := by
  obtain ⟨⟨k, s⟩, hmem, heq⟩ := List.mem_map.mp h
  cases heq
  obtain ⟨hmem, hlive⟩ := List.mem_filter.mp hmem
  obtain ⟨k, hk, hs⟩ := List.mem_filterMap.mp hmem
  obtain ⟨s', hs', heq⟩ := Option.map_eq_some_iff.mp hs
  cases heq
  exact ⟨hk, s, hs', of_decide_eq_true hlive⟩

/-- The session behind the token is revoked in the logout's view, under its lock when that was a change. -/
structure OwnRevoked (root : Nat) (h : Lock RowLock → Prop) (pending : Db → Db) (base : Db) : Prop where
  rests : ∀ d : Db, d.Rests (pending d)
  others : ∀ (d : Db) j, j ≠ root → (pending d).sessions.get? j = d.sessions.get? j
  revoked : ∀ d s, base.Lasts h d → (pending d).sessions.get? root = some s → ¬ s.Live
  held : ∀ d, base.Lasts h d → d.LiveIn root root → h (.row (.session root))
  present : base.sessions.get? root ≠ none

theorem OwnRevoked.later {root : Nat} {h : Lock RowLock → Prop} {pending : Db → Db} {base d : Db} (ho : OwnRevoked root h pending base)
    (hlasts : base.Lasts h d) : OwnRevoked root h pending d where
  rests := ho.rests
  others := ho.others
  revoked d' s hlasts' := ho.revoked d' s (hlasts.trans hlasts')
  held d' hlasts' := ho.held d' (hlasts.trans hlasts')
  present := hlasts.present ho.present

/-- In the logout's view only the session behind the token differs. -/
theorem OwnRevoked.liveIn {root : Nat} {h : Lock RowLock → Prop} {pending : Db → Db} {base : Db} (ho : OwnRevoked root h pending base)
    {d : Db} {j : Nat} (hj : j ≠ root) (hlive : d.LiveIn root j) : (pending d).LiveIn root j := by
  obtain ⟨s, hfamily, hs, hlive⟩ := hlive
  exact ⟨s, (family_rests (ho.rests d) root j).mpr hfamily, (ho.others d j hj).trans hs, hlive⟩

section

variable {root : Nat} {ok : Admits Db RowLock AppError (Except AppError Nat)}
  {Q : Except AppError Nat → (Lock RowLock → Prop) → (Db → Db) → Db → Prop}
  (hcovers : ∀ rows k h pending d, ok (.acquire rows k) h pending d →
    .session root ∈ rows (pending d) ∨ ∀ j, (pending d).LiveIn root j → .session j ∈ rows (pending d))
  (herror : ∀ x h pending d, Q (.error x) h pending d)
  (hdead : ∀ n d, d.sessions.get? root ≠ none → d.Dead root → Q (.ok n) (fun _ => False) id d)

include hcovers herror hdead

/-- The UPDATE of the family locks its live sessions, so that nobody rotates one of them before the commit. -/
theorem wp_revokeFamily (held : AuthSession) (now : Time) (n : Nat) {h : Lock RowLock → Prop} {pending : Db → Db} {base : Db}
    (ho : OwnRevoked root h pending base) : familyDiscipline.Wp Db.Rooted ok Q
      (answer (transaction (revokeFamily root held .logout now >>= fun count => pure (count + n)))) h pending base := by
  unfold revokeFamily revokeLive
  simp only [bind_assoc, transaction_bind]
  refine Discipline.wp_answer_reads (readsOnly_familySessionIds root held) (fun _ _ => herror _ _ _ _) fun ids d₁ hlasts₁ => ?_
  have ho₁ := ho.later hlasts₁
  refine Discipline.wp_answer_lock fun d₂ hlasts₂ _ hok => ?_
  have ho₂ := ho₁.later hlasts₂
  have hnamed : ∀ j, d₂.LiveIn root j → j ≠ root → .session j ∈ ((pending d₂).liveAmong ids).map fun e => RowLock.session e.1 := by
    intro j hlive hj
    rcases hcovers _ _ _ _ _ hok with hself | hall
    · obtain ⟨-, s, hs, hslive⟩ := mem_liveAmong hself
      exact absurd hslive (ho₂.revoked d₂ s (familyDiscipline.rely_refl h d₂) hs)
    · exact hall j (ho₂.liveIn hj hlive)
  refine Discipline.wp_answer_raiseIf (fun _ => herror _ _ _ _) fun _ => ?_
  refine Discipline.wp_answer_update ?_
  have hrests : ∀ d : Db, d.Rests _ := fun d => (ho₂.rests d).trans (rests_revokeLive (pending d) ids .logout now)
  refine Discipline.wp_answer_commit (fun d₃ _ hd₃ _ => publishes_rests preserved_rooted hd₃ (hrests d₃)) fun d₃ hlasts₃ _ _ => ?_
  have hlasts₃' : d₂.Lasts h d₃ := familyDiscipline.rely_mono (fun l hl => .inl hl) hlasts₃
  have ho₃ := ho₂.later hlasts₃'
  refine hdead _ _ ?_ fun j hlive => ?_
  · obtain ⟨s, hs⟩ := Option.ne_none_iff_exists'.mp ho₃.present
    obtain ⟨s', hs', -⟩ := (hrests d₃).kept root s hs
    exact ne_of_eq_of_ne hs' (Option.some_ne_none s')
  · have hview := liveIn_rests (rests_revokeLive (pending d₃) ids .logout now) hlive
    by_cases hj : j = root
    · subst hj
      obtain ⟨s, -, hs, hslive⟩ := hview
      exact ho₃.revoked d₃ s (familyDiscipline.rely_refl h d₃) hs hslive
    · have hlive₂ : d₂.LiveIn root j := by
        refine hlasts₃.locked root ho₂.present (fun k hk => ?_) j (liveIn_rests (ho₃.rests d₃) hview)
        by_cases hk' : k = root
        · subst hk'
          exact .inl (ho₂.held d₂ (familyDiscipline.rely_refl h d₂) hk)
        · exact .inr (List.mem_map.mpr ⟨_, hnamed k hk hk', rfl⟩)
      obtain ⟨hids, -⟩ := mem_liveAmong (hnamed j hlive₂ hj)
      obtain ⟨s', -, hs', hslive⟩ := hlive
      dsimp only [Function.comp_apply] at hs'
      rw [Dict.get?_adjust] at hs'
      obtain ⟨s, hs, rfl⟩ := Option.map_eq_some_iff.mp hs'
      split_ifs at hslive with hrevoked
      · exact not_live_revokedBy s .logout now hslive
      · exact hrevoked ⟨hids, hslive⟩

variable (root) in
/-- A logout that finds its token and covers the family leaves it dead. -/
theorem wp_logout_covers (env : Deployment) {token : String} (given : token ≠ "")
    (hfound : ∀ k h pending d, ok (.read k) h pending d → (d.sessionByRefreshHash (hashRefreshToken env token)).map Prod.fst = some root)
    (now : Time) (base : Db) : familyDiscipline.Wp Db.Rooted ok Q (answer (logout env token now)) (fun _ => False) id base := by
  unfold logout
  rw [if_neg given]
  refine Discipline.wp_answer_query fun d₀ hlasts₀ _ hok => ?_
  have hroot := hfound _ _ _ _ hok
  rw [id_eq]
  cases hentry : d₀.sessionByRefreshHash (hashRefreshToken env token) with
  | none =>
    rw [hentry] at hroot
    cases hroot
  | some entry =>
    obtain ⟨i, held⟩ := entry
    rw [hentry] at hroot
    obtain rfl : i = root := Option.some.inj hroot
    have hrow := (sessionByRefreshHash_some hentry).1
    have hpresent : d₀.sessions.get? i ≠ none := ne_of_eq_of_ne hrow (Option.some_ne_none held)
    dsimp only
    unfold endFamily
    rw [transaction_bind]
    by_cases hlive : held.revokedAt = none
    · unfold revoke writeSession
      rw [if_pos hlive]
      simp only [bind_assoc]
      refine Discipline.wp_answer_lock fun d₁ hlasts₁ _ _ => ?_
      refine Discipline.wp_answer_raiseIf (fun _ => herror _ _ _ _) fun _ => ?_
      refine Discipline.wp_answer_update ?_
      refine wp_revokeFamily hcovers herror hdead held now _ ⟨fun d => rests_modify d i fun s => stays_revokedBy s .logout now, ?_, ?_, ?_,
        Db.Lasts.present hlasts₁ hpresent⟩
      · exact fun d j hj => Dict.get?_modify_ne hj _
      · intro d s _ hs
        dsimp only [Function.comp_apply] at hs
        rw [Dict.get?_modify_self] at hs
        obtain ⟨t, -, rfl⟩ := Option.map_eq_some_iff.mp hs
        exact not_live_revokedBy t .logout now
      · exact fun _ _ _ => .inr (List.mem_singleton.mpr rfl)
    · unfold revoke
      rw [if_neg hlive]
      have hdead₀ : ∀ d s, d₀.Lasts (fun _ => False) d → d.sessions.get? i = some s → ¬ s.Live := by
        intro d s hlasts hs
        obtain ⟨s', hs', hstays⟩ := hlasts.kept i held hrow
        rw [hs] at hs'
        cases hs'
        exact hstays.revoked hlive
      refine wp_revokeFamily hcovers herror hdead held now _ ⟨fun d => rests_refl d, fun _ _ _ => rfl, hdead₀, ?_, hpresent⟩
      rintro d hlasts ⟨s, -, hs, hslive⟩
      exact absurd hslive (hdead₀ d s hlasts hs)

end

/-! ## What comes later -/

/-- The second session is `n` rotations below the first. -/
def Db.Below (d : Db) : Nat → Nat → Nat → Prop
  | 0, i, j => i = j
  | n + 1, i, j => ∃ k, d.RotatedInto i k ∧ d.Below n k j

theorem mem_successorsOf {d : Db} {ids : List Nat} {i j : Nat} (hi : i ∈ ids) (h : d.RotatedInto i j) : j ∈ d.successorsOf ids := by
  obtain ⟨s, hs, hfrom⟩ := h
  have hp : decide (∃ p ∈ s.rotatedFrom, p ∈ ids) = true := decide_eq_true ⟨i, hfrom, hi⟩
  exact List.mem_map.mpr ⟨(j, s), Dict.mem_select.mpr ⟨hs, hp⟩, rfl⟩

theorem subset_descend (d : Db) : ∀ (depth : Nat) (ids frontier : List Nat), ids ⊆ d.descend depth ids frontier := by
  intro depth
  induction depth with
  | zero => exact fun _ _ => List.Subset.refl _
  | succ depth ih =>
    intro ids frontier
    unfold Db.descend
    split_ifs
    · exact List.Subset.refl _
    · exact List.Subset.trans (List.subset_append_left _ _) (ih _ _)

/-- A walk down reaches as many generations as it is deep: the successors of every id behind its frontier are among its ids. -/
theorem mem_descend (d : Db) : ∀ (depth : Nat) (ids frontier : List Nat),
    (∀ i ∈ ids, i ∉ frontier → ∀ j, d.RotatedInto i j → j ∈ ids) →
    ∀ n ≤ depth, ∀ i ∈ ids, ∀ j, d.Below n i j → j ∈ d.descend depth ids frontier := by
  intro depth
  induction depth with
  | zero =>
    intro ids frontier _ n hn i hi j hbelow
    obtain rfl : n = 0 := by omega
    obtain rfl : i = j := hbelow
    exact hi
  | succ depth ih =>
    intro ids frontier hclosed n hn i hi j hbelow
    cases n with
    | zero =>
      obtain rfl : i = j := hbelow
      exact subset_descend d _ _ _ hi
    | succ n =>
      obtain ⟨k, hinto, hbelow⟩ := hbelow
      unfold Db.descend
      split_ifs with hempty
      · -- nothing was new in the last generation, so the ids are closed
        have hall : ∀ (m i : Nat), i ∈ ids → ∀ j, d.Below m i j → j ∈ ids := by
          intro m
          induction m with
          | zero => rintro i hi j rfl; exact hi
          | succ m ihm =>
            rintro i hi j ⟨k, hinto, hbelow⟩
            exact ihm k (hclosed i hi (by rw [hempty]; exact List.not_mem_nil) k hinto) j hbelow
        exact hall n k (hclosed i hi (by rw [hempty]; exact List.not_mem_nil) k hinto) j hbelow
      · have hnext : ∀ a ∈ ids, ∀ b, d.RotatedInto a b → b ∈ ids ++ (d.successorsOf frontier).filter fun id => decide (id ∉ ids) := by
          intro a ha b hab
          by_cases hb : b ∈ ids
          · exact List.mem_append_left _ hb
          · have hfrontier : a ∈ frontier := by_contra fun hnot => hb (hclosed a ha hnot b hab)
            exact List.mem_append_right _ (List.mem_filter.mpr ⟨mem_successorsOf hfrontier hab, decide_eq_true hb⟩)
        refine ih _ _ (fun a ha hnot b hab => ?_) n (by omega) k (hnext i hi k hinto) j hbelow
        exact hnext a ((List.mem_append.mp ha).resolve_right hnot) b hab

theorem subset_climb (d : Db) : ∀ (depth : Nat) (chain : List Nat) (current : AuthSession), chain ⊆ d.climb depth chain current := by
  intro depth
  induction depth with
  | zero => exact fun _ _ => List.Subset.refl _
  | succ depth ih =>
    intro chain current
    unfold Db.climb
    cases current.rotatedFrom with
    | none => exact List.Subset.refl _
    | some parentId =>
      dsimp only
      cases d.sessions.get? parentId with
      | none => exact List.Subset.refl _
      | some parent =>
        dsimp only
        split_ifs
        · exact List.Subset.refl _
        · exact List.Subset.trans (List.subset_append_left _ _) (ih _ _)

/-- The family, as the walks see it, holds whatever is at most fifty rotations below a session. -/
theorem below_familyIds {d : Db} {id j n : Nat} (held : AuthSession) (hn : n ≤ maxRotationChainDepth) (hbelow : d.Below n id j) :
    j ∈ d.familyIds id held := by
  have hself : id ∈ d.climb maxRotationChainDepth [id] held := subset_climb d _ _ _ (List.mem_singleton.mpr rfl)
  exact mem_descend d _ _ _ (fun i hi hnot => absurd hi hnot) n hn id hself j hbelow

/-- Within the reach of the walk, a session was revoked by something else than a rotation. -/
def Db.SeenEnded (d : Db) (id : Nat) : Prop :=
  ∃ n ≤ maxRotationChainDepth, ∃ j s, d.Below n id j ∧ d.sessions.get? j = some s ∧ ¬ s.Live ∧ s.revokedReason ≠ some .rotated

theorem Db.SeenEnded.not_rotationOnly {d : Db} {id : Nat} (h : d.SeenEnded id) (held : AuthSession) : d.rotationOnly id held ≠ true := by
  obtain ⟨n, hn, j, s, hbelow, hs, hrevoked, hreason⟩ := h
  intro honly
  have hmem : s ∈ (d.familyIds id held).filterMap fun id => d.sessions.get? id :=
    List.mem_filterMap.mpr ⟨j, below_familyIds held hn hbelow, hs⟩
  have hall := List.all_eq_true.mp honly s (List.mem_filter.mpr ⟨hmem, decide_eq_true hrevoked⟩)
  exact hreason (of_decide_eq_true hall)

/-- The token of a revoked session yields nothing, unless it is a double submit. -/
theorem issued_revoked {env : Deployment} {s : Site} {presented : String} {id : Nat} {held : AuthSession}
    (found : s.db.sessionByRefreshHash (hashRefreshToken env presented) = some (id, held)) (hrevoked : ¬ held.Live) {now : Time}
    (hnot : ¬ s.db.Tolerated id held now) (client : Client) (draws : Draws) :
    (Request.rotate presented client draws now).issued env (Exec.start s.db s.next) = none := by
  cases hissued : (Request.rotate presented client draws now).issued env (Exec.start s.db s.next) with
  | none => rfl
  | some issued =>
    have hrun := run_eq_ok_of_toOption hissued
    obtain ⟨id', held', hfound, ⟨-, hrotatable, -⟩ | ⟨-, hreuse⟩⟩ := rotate_eq_ok hrun
    · rw [show (Exec.start s.db s.next).view = s.db from rfl] at hfound
      rw [found] at hfound
      cases hfound
      exact absurd hrotatable.live hrevoked
    · rw [show (Exec.start s.db s.next).view = s.db from rfl] at hfound
      rw [found] at hfound
      cases hfound
      rw [run_handleReuse_refused hnot, andThen_eq_ok] at hreuse
      obtain ⟨_, _, -, hreuse⟩ := hreuse
      cases hreuse

/-- What overlaps a logout (session 0): rotations that commit from live sessions, and a logout that covers the family. -/
def LogoutAdmits (root : Nat) (hash : String) (i : Nat) : Admits Db RowLock AppError (Except AppError (Option IssuedSession)) :=
  fun p h pending d => RotatesLive p h pending d ∧ (i = 0 → Covers root hash p h pending d)

section

attribute [local irreducible] Discipline.Wp

theorem safe_logout (env : Deployment) (root : Nat) {token : String} (given : token ≠ "") (now : Time) (d : Db) :
    familyDiscipline.Safe Db.Rooted (LogoutAdmits root (hashRefreshToken env token) 0)
      (fun r d => r = .ok none → d.sessions.get? root ≠ none ∧ d.Dead root) ((Request.logout token now).answered env)
      (fun _ => False) id d := by
  unfold Discipline.Safe Request.answered
  refine Discipline.wp_answer_map (p := logout env token now) (g := fun _ => none) ?_
  refine wp_logout_covers root ?_ ?_ ?_ env given ?_ now d
  · exact fun rows k h pending d hok => hok.2 rfl
  · exact fun x h pending d d' _ _ hr => nomatch hr
  · intro n d hroot hdead d' hlasts _ _
    exact ⟨Db.Lasts.present hlasts hroot, Db.Lasts.dead hlasts hroot hdead⟩
  · exact fun k h pending d hok => hok.2 rfl

end

/-- Once a logout has ended, its family is dead; and however it goes on, the token of a session of it yields nothing, where the walk
sees how it ended or the grace window is over. -/
theorem logout_final (env : Deployment) {d : Db} {next : Nat} (rooted : d.Rooted) (fresh : d.FreshFrom next) (requests : Nat → Request)
    {token : String} {now : Time} (given : token ≠ "") (hlogout : requests 0 = .logout token now) {root : Nat}
    {t : Sys Db RowLock AppError (Except AppError (Option IssuedSession))}
    (reached : Reaches (LogoutAdmits root (hashRefreshToken env token)) (Sys.init d next fun i => (requests i).answered env) t)
    (ended : (t.sessions 0).prog = .ret (.ok none)) :
    t.committed.Dead root ∧ ∀ (later : List (Request × Nat)) (presented : String) (id : Nat) (held : AuthSession) (now' : Time),
      (Site.run env later ⟨t.committed, t.next⟩).db.sessionByRefreshHash (hashRefreshToken env presented) = some (id, held) →
      (Site.run env later ⟨t.committed, t.next⟩).db.Family root id →
      (Site.run env later ⟨t.committed, t.next⟩).db.SeenEnded id ∨ (∀ at_ ∈ held.revokedAt, at_ + reuseGraceSeconds * 1000 < now') →
      ∀ (client : Client) (draws : Draws), (Request.rotate presented client draws now').issued env
        (Exec.start (Site.run env later ⟨t.committed, t.next⟩).db (Site.run env later ⟨t.committed, t.next⟩).next) = none := by
  have hsafe : ∀ i, familyDiscipline.Safe Db.Rooted (LogoutAdmits root (hashRefreshToken env token) i)
      (fun r d => i = 0 → r = .ok none → d.sessions.get? root ≠ none ∧ d.Dead root) ((requests i).answered env) (fun _ => False) id d := by
    intro i
    by_cases hi : i = 0
    · subst hi
      rw [hlogout]
      refine Discipline.Wp.mono (fun _ _ _ _ => id) (fun r h pending base hpost d' hlasts hd' _ => ?_) _
        (safe_logout env root given now d)
      exact hpost d' hlasts hd'
    · exact safe_request preserved_rooted env (fun _ _ _ _ hok => hok.1) (fun _ _ h => absurd h hi) (requests i) d
  have hrooted : t.committed.Rooted := Discipline.reaches_good (P := familyDiscipline) rooted fresh hsafe reached
  have hfresh : t.committed.FreshFrom t.next := Discipline.reaches_fresh (P := familyDiscipline) rooted fresh hsafe reached
  obtain ⟨hroot, hdead⟩ := Discipline.reaches_post (P := familyDiscipline) rooted fresh hsafe reached ended rfl rfl
  refine ⟨hdead, fun later presented id held now' found hfamily hseen client draws => ?_⟩
  obtain ⟨⟨-, -, hdead'⟩, -⟩ := run_preserves (preserved_dead root) env later (s := ⟨t.committed, t.next⟩) ⟨hrooted, hroot, hdead⟩ hfresh
  have hrevoked : ¬ held.Live := fun hlive => hdead' id ⟨held, hfamily, (sessionByRefreshHash_some found).1, hlive⟩
  refine issued_revoked found hrevoked ?_ client draws
  rintro ⟨-, honly, at_, hat, hrecent⟩
  rcases hseen with hended | hover
  · exact hended.not_rotationOnly held honly
  · exact absurd hrecent (not_le.mpr (hover at_ hat))

/-! ## Samples -/

/-- A logout with the first token of the sample, and a rotation of the second a second later. -/
def sampleLogout : Nat → Request
  | 0 => .logout sampleFirstToken (sampleMorning + 3604000)
  | _ => .rotate sampleSecondToken sampleClient sampleThirdDraws (sampleMorning + 3605000)

/-- What the sample logout is checked for: its UPDATEs name every session that is live. -/
def sampleCovers (p : Tx (Except AppError (Option IssuedSession))) (pending : Db → Db) (d : Db) : Bool :=
  match p with
  | .read _ => decide ((d.sessionByRefreshHash (hashRefreshToken sampleDeployment sampleFirstToken)).map Prod.fst = some 2)
  | .acquire rows _ => decide (∀ e ∈ (pending d).sessions.entries, e.2.Live → RowLock.session e.1 ∈ rows (pending d))
  | _ => true

theorem sampleCovers_sound {p : Tx (Except AppError (Option IssuedSession))} {h : Lock RowLock → Prop} {pending : Db → Db} {d : Db}
    (hp : sampleCovers p pending d = true) : Covers 2 (hashRefreshToken sampleDeployment sampleFirstToken) p h pending d := by
  cases p with
  | read k =>
    have hfound := of_decide_eq_true hp
    exact hfound
  | acquire rows k =>
    have hall := of_decide_eq_true hp
    refine .inr fun j hlive => ?_
    obtain ⟨s, -, hs, hlive⟩ := hlive
    exact hall (j, s) (Dict.get?_eq_some.mp hs) hlive
  | _ => trivial

/-- The logout has ended, as far as a run can tell. -/
def loggedOut? (p : Tx (Except AppError (Option IssuedSession))) : Bool :=
  match p with
  | .ret (.ok none) => true
  | _ => false

theorem loggedOut?_eq_true {p : Tx (Except AppError (Option IssuedSession))} (h : loggedOut? p = true) : p = .ret (.ok none) := by
  unfold loggedOut? at h
  split at h
  · rfl
  · cases h

theorem sampleRotation_rooted : (sampleSite.run sampleDeployment sampleRotation).db.Rooted ∧
    (sampleSite.run sampleDeployment sampleRotation).db.FreshFrom (sampleSite.run sampleDeployment sampleRotation).next := by
  refine run_preserves preserved_rooted sampleDeployment sampleRotation ?_ sampleSite_sound.fresh
  rintro p i ⟨s, hs, -⟩
  cases hs

/-- A logout that ran alone: within the grace window, the token that it presented yields nothing any more. -/
theorem logout_final_sample : ∃ t : Sys Db RowLock AppError (Except AppError (Option IssuedSession)), t.committed.Dead 2 ∧
    (Request.rotate sampleFirstToken sampleClient sampleThirdDraws (sampleMorning + 3605000)).issued sampleDeployment
      (Exec.start t.committed t.next) = none := by
  have hrun : (((Sys.init (sampleSite.run sampleDeployment sampleRotation).db (sampleSite.run sampleDeployment sampleRotation).next
      fun i => (sampleLogout i).answered sampleDeployment).execChecked (fun _ p pending d =>
        decide (RotatesLive p (fun _ => False) pending d) && sampleCovers p pending d) (List.replicate 6 0)).bind fun t =>
      (t.committed.sessionByRefreshHash (hashRefreshToken sampleDeployment sampleFirstToken)).bind fun first =>
        (t.committed.sessions.get? 3).map fun second => decide (first.1 = 2 ∧
          second.rotatedFrom = some 2 ∧ ¬ second.Live ∧ second.revokedReason ≠ some .rotated ∧
          loggedOut? (t.sessions 0).prog = true)) = some true := by
    decide +kernel
  obtain ⟨t, hexec, hrun⟩ := Option.bind_eq_some_iff.mp hrun
  obtain ⟨⟨id, first⟩, hfirst, hrun⟩ := Option.bind_eq_some_iff.mp hrun
  obtain ⟨second, hsecond, hfacts⟩ := Option.map_eq_some_iff.mp hrun
  obtain ⟨hid, hfrom, hrevoked, hreason, hended⟩ := of_decide_eq_true hfacts
  obtain rfl : id = 2 := hid
  have hreached : Reaches (LogoutAdmits 2 (hashRefreshToken sampleDeployment sampleFirstToken)) _ t :=
    Reaches.refl.execChecked (fun i p h pending d hp => by
      obtain ⟨hlive, hcovers⟩ := Bool.and_eq_true_iff.mp hp
      exact ⟨(of_decide_eq_true hlive).held, fun _ => sampleCovers_sound hcovers⟩) hexec
  obtain ⟨hdead, hlater⟩ := logout_final sampleDeployment sampleRotation_rooted.1 sampleRotation_rooted.2 sampleLogout (by decide) rfl
    hreached (loggedOut?_eq_true hended)
  refine ⟨t, hdead, hlater [] sampleFirstToken 2 first _ hfirst (.refl _) (.inl ?_) sampleClient sampleThirdDraws⟩
  exact ⟨1, by decide, 3, second, ⟨3, ⟨second, hsecond, hfrom⟩, rfl⟩, hsecond, hrevoked, hreason⟩

/-- The rotation commits between the last read of the logout and its UPDATE: the successor stays live. -/
theorem logout_not_final : (sampleSite.run sampleDeployment sampleRotation).db.Rooted ∧
    ∃ t, Reaches (fun _ _ _ _ _ => True) (Sys.init (sampleSite.run sampleDeployment sampleRotation).db
        (sampleSite.run sampleDeployment sampleRotation).next fun i => (sampleLogout i).answered sampleDeployment) t ∧
      (t.sessions 0).prog = .ret (.ok none) ∧ (∃ r, (t.sessions 1).prog = .ret r) ∧ ¬ t.committed.Dead 2 := by
  refine ⟨sampleRotation_rooted.1, ?_⟩
  have hrun : (((Sys.init (sampleSite.run sampleDeployment sampleRotation).db (sampleSite.run sampleDeployment sampleRotation).next
      fun i => (sampleLogout i).answered sampleDeployment).exec
        (List.map .run (List.replicate 3 0 ++ List.replicate 8 1 ++ List.replicate 3 0))).bind fun t =>
      (t.committed.sessions.get? 3).bind fun second => (t.committed.sessions.get? 4).map fun third =>
        decide (second.rotatedFrom = some 2 ∧ third.rotatedFrom = some 3 ∧ third.Live ∧
          loggedOut? (t.sessions 0).prog = true ∧ (t.sessions 1).prog.ended?.isSome = true)) = some true := by
    decide +kernel
  obtain ⟨t, hexec, hrun⟩ := Option.bind_eq_some_iff.mp hrun
  obtain ⟨second, hsecond, hrun⟩ := Option.bind_eq_some_iff.mp hrun
  obtain ⟨third, hthird, hfacts⟩ := Option.map_eq_some_iff.mp hrun
  obtain ⟨hsecondFrom, hthirdFrom, hlive, hended, hrotated⟩ := of_decide_eq_true hfacts
  refine ⟨t, Reaches.refl.exec hexec, loggedOut?_eq_true hended, ?_, fun hdead => ?_⟩
  · obtain ⟨r, hr⟩ := Option.isSome_iff_exists.mp hrotated
    exact ⟨r, ended?_eq_some.mp hr⟩
  · refine hdead 4 ⟨third, ?_, hthird, hlive⟩
    exact .trans _ _ _ (.rel _ _ ⟨second, hsecond, hsecondFrom⟩) (.rel _ _ ⟨third, hthird, hthirdFrom⟩)

end NovaCommerce.Identity
