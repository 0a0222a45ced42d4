import NovaCommerce.Identity.Durability
import NovaCommerce.Lib.Chain
import NovaCommerce.Lib.Interleaving

/-!
# Families under interleaved requests

* `Db.Rests`, `family_rests` : changes that link no session; `family_opened`, `family_succeeded` : one new session;
* `Db.LiveIn` : the live sessions of a family;
* `familyDiscipline` : what a request may rely on. A family whose live sessions it has locked gets no further one;
* `Preserved` : an invariant of the links that every commit keeps, when a rotation finds its session live;
* `safe_request` : every request keeps such an invariant, whatever is committed in between.
-/

namespace NovaCommerce.Identity

open Sql

/-! ## Links -/

/-- A session keeps its predecessor, and is revoked once and for all. -/
structure AuthSession.Stays (s s' : AuthSession) : Prop where
  rotatedFrom : s'.rotatedFrom = s.rotatedFrom
  revoked : ¬ s.Live → ¬ s'.Live

theorem stays_refl (s : AuthSession) : s.Stays s := ⟨rfl, id⟩

theorem AuthSession.Stays.trans {s t u : AuthSession} (h : s.Stays t) (h' : t.Stays u) : s.Stays u :=
  ⟨h'.rotatedFrom.trans h.rotatedFrom, fun hs => h'.revoked (h.revoked hs)⟩

theorem stays_revokedBy (s : AuthSession) (reason : SessionRevokeReason) (now : Time) : s.Stays (s.revokedBy reason now) :=
  ⟨rfl, fun _ => Option.some_ne_none now⟩

theorem not_live_revokedBy (s : AuthSession) (reason : SessionRevokeReason) (now : Time) : ¬ (s.revokedBy reason now).Live :=
  Option.some_ne_none now

/-- The sessions stay, and there is no other. -/
def Db.Rests (d d' : Db) : Prop := Dict.Grows AuthSession.Stays (fun _ => False) d.sessions d'.sessions

theorem rests_refl (d : Db) : d.Rests d := Dict.grows_refl stays_refl d.sessions

theorem Db.Rests.trans {a b c : Db} (h : a.Rests b) (h' : b.Rests c) : a.Rests c :=
  Dict.Grows.trans (fun _ _ _ h h' => h.trans h') h h'

theorem Db.Rests.row {d d' : Db} (h : d.Rests d') {i : Nat} {s' : AuthSession} (hrow : d'.sessions.get? i = some s') :
    ∃ s, d.sessions.get? i = some s ∧ s.Stays s' :=
  (h.origin i s' hrow).resolve_right fun hnew => hnew.2

theorem Db.Rests.absent {d d' : Db} (h : d.Rests d') {i : Nat} (hnone : d.sessions.get? i = none) : d'.sessions.get? i = none := by
  by_contra hsome
  obtain ⟨s', hs'⟩ := Option.ne_none_iff_exists'.mp hsome
  obtain ⟨s, hs, -⟩ := h.row hs'
  rw [hnone] at hs
  cases hs

theorem rests_modify (d : Db) (id : Nat) {f : AuthSession → AuthSession} (hf : ∀ s : AuthSession, s.Stays (f s)) :
    d.Rests { d with sessions := d.sessions.modify id f } :=
  Dict.grows_modify stays_refl fun s _ => hf s

theorem rests_revoked (d : Db) (id : Nat) (held : AuthSession) (reason : SessionRevokeReason) (now : Time) :
    d.Rests (d.revoked id held reason now) := by
  unfold Db.revoked
  split_ifs
  · exact rests_modify d id fun s => stays_revokedBy s reason now
  · exact rests_refl d

theorem rests_adjust (d : Db) {f : Nat → AuthSession → AuthSession} (hf : ∀ i (s : AuthSession), s.Stays (f i s)) :
    d.Rests { d with sessions := d.sessions.adjust f } :=
  Dict.grows_adjust fun i s _ => hf i s

theorem rests_revokeLive (d : Db) (ids : List Nat) (reason : SessionRevokeReason) (now : Time) :
    d.Rests { d with sessions := d.sessions.adjust fun id s => if id ∈ ids ∧ s.Live then s.revokedBy reason now else s } := by
  refine rests_adjust d fun i s => ?_
  split_ifs
  · exact stays_revokedBy s reason now
  · exact stays_refl s

/-- Every predecessor is there. -/
def Db.Rooted (d : Db) : Prop := ∀ p i, d.RotatedInto p i → d.sessions.get? p ≠ none

theorem rotatedInto_rests {d d' : Db} (h : d.Rests d') (p i : Nat) : d'.RotatedInto p i ↔ d.RotatedInto p i := by
  constructor
  · rintro ⟨s', hs', hp⟩
    obtain ⟨s, hs, hstays⟩ := h.row hs'
    exact ⟨s, hs, hstays.rotatedFrom.symm.trans hp⟩
  · rintro ⟨s, hs, hp⟩
    obtain ⟨s', hs', hstays⟩ := h.kept i s hs
    exact ⟨s', hs', hstays.rotatedFrom.trans hp⟩

theorem rotatedInto_set {d d' : Db} {i : Nat} {s : AuthSession} (hnone : d.sessions.get? i = none)
    (hset : d'.sessions = d.sessions.set i s) (p j : Nat) :
    d'.RotatedInto p j ↔ d.RotatedInto p j ∨ (j = i ∧ s.rotatedFrom = some p) := by
  unfold Db.RotatedInto
  rw [hset]
  by_cases hj : j = i
  · subst hj
    rw [Dict.get?_set_self, hnone]
    simp
  · rw [Dict.get?_set_ne hj]
    simp [hj]

theorem Db.Rooted.rests {d d' : Db} (hd : d.Rooted) (h : d.Rests d') : d'.Rooted := by
  intro p i hinto
  obtain ⟨t, ht⟩ := Option.ne_none_iff_exists'.mp (hd p i ((rotatedInto_rests h p i).mp hinto))
  obtain ⟨t', ht', -⟩ := h.kept p t ht
  rw [ht']
  exact Option.some_ne_none t'

theorem Db.Rooted.set {d d' : Db} (hd : d.Rooted) {i : Nat} {s : AuthSession} (hnone : d.sessions.get? i = none)
    (hparent : ∀ p, s.rotatedFrom = some p → d.sessions.get? p ≠ none) (hset : d'.sessions = d.sessions.set i s) : d'.Rooted := by
  have hkept : ∀ p, d.sessions.get? p ≠ none → d'.sessions.get? p ≠ none := by
    intro p hp
    have hne : p ≠ i := fun heq => hp (heq ▸ hnone)
    rw [hset, Dict.get?_set_ne hne]
    exact hp
  intro p j hinto
  rcases (rotatedInto_set hnone hset p j).mp hinto with hold | ⟨-, hp⟩
  · exact hkept p (hd p j hold)
  · exact hkept p (hparent p hp)

theorem Db.Rooted.unlinked {d : Db} (hd : d.Rooted) {i : Nat} (hnone : d.sessions.get? i = none) (j : Nat) :
    ¬ d.RotatedInto i j ∧ ¬ d.RotatedInto j i := by
  refine ⟨fun hinto => hd i j hinto hnone, ?_⟩
  rintro ⟨s, hs, -⟩
  rw [hnone] at hs
  cases hs

/-! ## Families -/

theorem family_rests {d d' : Db} (h : d.Rests d') (i j : Nat) : d'.Family i j ↔ d.Family i j := by
  have heq : d'.RotatedInto = d.RotatedInto := by
    ext p i
    exact rotatedInto_rests h p i
  unfold Db.Family
  rw [heq]

/-- A session without a predecessor joins no family. -/
theorem family_opened {d d' : Db} {i : Nat} {s : AuthSession} (hnone : d.sessions.get? i = none) (hfirst : s.rotatedFrom = none)
    (hset : d'.sessions = d.sessions.set i s) (a b : Nat) : d'.Family a b ↔ d.Family a b := by
  have heq : d'.RotatedInto = d.RotatedInto := by
    ext p j
    rw [rotatedInto_set hnone hset, hfirst]
    simp
  unfold Db.Family
  rw [heq]

/-- A successor joins the family of its predecessor. -/
theorem family_succeeded {d d' : Db} (hd : d.Rooted) {p i : Nat} {s : AuthSession} (hnone : d.sessions.get? i = none)
    (hrow : d.sessions.get? p ≠ none) (hfrom : s.rotatedFrom = some p) (hset : d'.sessions = d.sessions.set i s) {a b : Nat}
    (hab : d'.Family a b) : d.Family (if a = i then p else a) (if b = i then p else b) := by
  have hne : p ≠ i := fun heq => hrow (heq ▸ hnone)
  refine Chain.eqvGen_fold (fun x y hinto => ?_) hne hab
  rcases (rotatedInto_set hnone hset x y).mp hinto with hold | ⟨hy, hx⟩
  · refine .inl ⟨hold, ?_, ?_⟩
    · rintro rfl
      exact (hd.unlinked hnone y).1 hold
    · rintro rfl
      exact (hd.unlinked hnone x).2 hold
  · rw [hfrom] at hx
    exact .inr ⟨(Option.some.inj hx).symm, hy⟩

/-- A live session of a family. -/
def Db.LiveIn (d : Db) (root j : Nat) : Prop := ∃ s, d.Family root j ∧ d.sessions.get? j = some s ∧ s.Live

theorem liveIn_rests {d d' : Db} (h : d.Rests d') {root j : Nat} (hlive : d'.LiveIn root j) : d.LiveIn root j := by
  obtain ⟨s', hfamily, hs', hlive⟩ := hlive
  obtain ⟨s, hs, hstays⟩ := h.row hs'
  exact ⟨s, (family_rests h root j).mp hfamily, hs, by_contra fun hnot => hstays.revoked hnot hlive⟩

theorem liveIn_opened {d d' : Db} (hd : d.Rooted) {i : Nat} {s : AuthSession} (hnone : d.sessions.get? i = none)
    (hfirst : s.rotatedFrom = none) (hset : d'.sessions = d.sessions.set i s) {root j : Nat} (hroot : d.sessions.get? root ≠ none)
    (hlive : d'.LiveIn root j) : d.LiveIn root j := by
  obtain ⟨s', hfamily, hs', hlive⟩ := hlive
  rw [family_opened hnone hfirst hset] at hfamily
  have hne : j ≠ i := by
    rintro rfl
    have heq := (Chain.eqvGen_isolated (fun x => (hd.unlinked hnone x).1) (fun x => (hd.unlinked hnone x).2) hfamily).mpr rfl
    exact hroot (heq ▸ hnone)
  rw [hset, Dict.get?_set_ne hne] at hs'
  exact ⟨s', hfamily, hs', hlive⟩

/-- After a rotation, the live sessions of a family are old ones, or the successor of a session of the family. -/
theorem liveIn_succeeded {d d' : Db} (hd : d.Rooted) {p i : Nat} {s : AuthSession} (hnone : d.sessions.get? i = none)
    (hrow : d.sessions.get? p ≠ none) (hfrom : s.rotatedFrom = some p) {now : Time}
    (hset : d'.sessions = (d.sessions.modify p (AuthSession.revokedBy .rotated now)).set i s) {root j : Nat}
    (hroot : d.sessions.get? root ≠ none) (hlive : d'.LiveIn root j) : (j = i ∧ d.Family root p) ∨ d.LiveIn root j := by
  obtain ⟨s', hfamily, hs', hlive⟩ := hlive
  have hrests := rests_modify d p fun s => stays_revokedBy s .rotated now
  have hnone' := hrests.absent hnone
  have hrow' : (d.sessions.modify p (AuthSession.revokedBy .rotated now)).get? p ≠ none := by
    obtain ⟨t, ht⟩ := Option.ne_none_iff_exists'.mp hrow
    obtain ⟨t', ht', -⟩ := hrests.kept p t ht
    exact ne_of_eq_of_ne ht' (Option.some_ne_none t')
  have hfamily' := family_succeeded (hd.rests hrests) hnone' hrow' hfrom hset hfamily
  have hne : root ≠ i := fun heq => hroot (heq ▸ hnone)
  rw [if_neg hne, family_rests hrests] at hfamily'
  by_cases hj : j = i
  · rw [if_pos hj] at hfamily'
    exact .inl ⟨hj, hfamily'⟩
  · rw [if_neg hj] at hfamily'
    rw [hset, Dict.get?_set_ne hj, Dict.get?_modify] at hs'
    split_ifs at hs' with hjp
    · obtain ⟨t, -, rfl⟩ := Option.map_eq_some_iff.mp hs'
      exact absurd hlive (not_live_revokedBy t .rotated now)
    · exact .inr ⟨s', hfamily', hs', hlive⟩

/-! ## What a request may rely on -/

/-- Meanwhile sessions stay, an id that was drawn is not used by others, and a family whose live sessions are all locked gets no
further one. -/
structure Db.Lasts (h : Lock RowLock → Prop) (d d' : Db) : Prop where
  kept : ∀ i s, d.sessions.get? i = some s → ∃ s', d'.sessions.get? i = some s' ∧ s.Stays s'
  absent : ∀ i, h (.id i) → d.sessions.get? i = none → d'.sessions.get? i = none
  locked : ∀ root, d.sessions.get? root ≠ none → (∀ j, d.LiveIn root j → h (.row (.session j))) →
    ∀ j, d'.LiveIn root j → d.LiveIn root j

theorem Db.Lasts.present {h : Lock RowLock → Prop} {d d' : Db} (hlasts : d.Lasts h d') {i : Nat} (hi : d.sessions.get? i ≠ none) :
    d'.sessions.get? i ≠ none := by
  obtain ⟨s, hs⟩ := Option.ne_none_iff_exists'.mp hi
  obtain ⟨s', hs', -⟩ := hlasts.kept i s hs
  rw [hs']
  exact Option.some_ne_none s'

theorem Db.Lasts.trans {h : Lock RowLock → Prop} {a b c : Db} (hab : a.Lasts h b) (hbc : b.Lasts h c) : a.Lasts h c where
  kept i s hs := by
    obtain ⟨s', hs', hstays⟩ := hab.kept i s hs
    obtain ⟨s'', hs'', hstays'⟩ := hbc.kept i s' hs'
    exact ⟨s'', hs'', hstays.trans hstays'⟩
  absent i hi hnone := hbc.absent i hi (hab.absent i hi hnone)
  locked root hroot hheld j hlive := by
    have hfirst := hab.locked root hroot hheld
    exact hfirst j (hbc.locked root (hab.present hroot) (fun k hk => hheld k (hfirst k hk)) j hlive)

def familyDiscipline : Discipline Db RowLock where
  rely := fun h d d' => d.Lasts h d'
  fresh i d := d.sessions.get? i = none
  rely_refl _ _ := ⟨fun _ s hs => ⟨s, hs, stays_refl s⟩, fun _ _ => id, fun _ _ _ _ => id⟩
  rely_trans hab hbc := hab.trans hbc
  rely_mono hle hlasts := ⟨hlasts.kept, fun i hi => hlasts.absent i (hle _ hi),
    fun root hroot hheld => hlasts.locked root hroot fun j hj => hle _ (hheld j hj)⟩

/-- An invariant of the links that every commit keeps, when a rotation finds its session live. -/
structure Preserved (J : Db → Prop) : Prop where
  rooted : ∀ d, J d → d.Rooted
  rests : ∀ d d', J d → d.Rests d' → J d'
  opened : ∀ d d' i (s : AuthSession), J d → d.sessions.get? i = none → s.rotatedFrom = none → d'.sessions = d.sessions.set i s → J d'
  succeeded : ∀ d d' p i (s t : AuthSession) now, J d → d.sessions.get? i = none → d.sessions.get? p = some t → t.Live →
    s.rotatedFrom = some p → d'.sessions = (d.sessions.modify p (AuthSession.revokedBy .rotated now)).set i s → J d'

section

variable {J : Db → Prop} (hJ : Preserved J) {h : Lock RowLock → Prop} {d d' : Db}

include hJ

theorem publishes_rests (hd : J d) (hrests : d.Rests d') : familyDiscipline.Publishes J h d d' where
  good := hJ.rests d d' hd hrests
  rely _ _ := ⟨hrests.kept, fun _ _ => hrests.absent, fun _ _ _ _ => liveIn_rests hrests⟩
  fresh _ _ := hrests.absent

theorem publishes_opened (hd : J d) {i : Nat} {s : AuthSession} (hdrawn : h (.id i)) (hnone : d.sessions.get? i = none)
    (hfirst : s.rotatedFrom = none) (hset : d'.sessions = d.sessions.set i s) : familyDiscipline.Publishes J h d d' where
  good := hJ.opened d d' i s hd hnone hfirst hset
  rely h' hdisjoint := by
    refine ⟨fun j t ht => ?_, fun j hj hjnone => ?_, fun root hroot _ j => ?_⟩
    · have hne : j ≠ i := by
        rintro rfl
        rw [hnone] at ht
        cases ht
      exact ⟨t, by rw [hset, Dict.get?_set_ne hne, ht], stays_refl t⟩
    · have hne : j ≠ i := fun heq => hdisjoint _ hj (heq ▸ hdrawn)
      rw [hset, Dict.get?_set_ne hne]
      exact hjnone
    · exact liveIn_opened (hJ.rooted d hd) hnone hfirst hset hroot
  fresh j hj hjnone := by
    have hne : j ≠ i := fun heq => hj (heq ▸ hdrawn)
    show d'.sessions.get? j = none
    rw [hset, Dict.get?_set_ne hne]
    exact hjnone

/-- Whoever holds the locks of all live sessions of a family keeps the others from rotating one of them. -/
theorem publishes_succeeded (hd : J d) {p i : Nat} {s t : AuthSession} {now : Time} (hdrawn : h (.id i)) (hlocked : h (.row (.session p)))
    (hnone : d.sessions.get? i = none) (hrow : d.sessions.get? p = some t) (hlive : t.Live) (hfrom : s.rotatedFrom = some p)
    (hset : d'.sessions = (d.sessions.modify p (AuthSession.revokedBy .rotated now)).set i s) :
    familyDiscipline.Publishes J h d d' where
  good := hJ.succeeded d d' p i s t now hd hnone hrow hlive hfrom hset
  rely h' hdisjoint := by
    have hrests := rests_modify d p fun s => stays_revokedBy s .rotated now
    refine ⟨fun j u hu => ?_, fun j hj hjnone => ?_, fun root hroot hheld j hj => ?_⟩
    · have hne : j ≠ i := by
        rintro rfl
        rw [hnone] at hu
        cases hu
      obtain ⟨u', hu', hstays⟩ := hrests.kept j u hu
      exact ⟨u', by rw [hset, Dict.get?_set_ne hne]; exact hu', hstays⟩
    · have hne : j ≠ i := fun heq => hdisjoint _ hj (heq ▸ hdrawn)
      rw [hset, Dict.get?_set_ne hne]
      exact hrests.absent hjnone
    · have hpresent : d.sessions.get? p ≠ none := ne_of_eq_of_ne hrow (Option.some_ne_none t)
      rcases liveIn_succeeded (hJ.rooted d hd) hnone hpresent hfrom hset hroot hj with ⟨-, hfamily⟩ | hold
      · exact absurd hlocked (hdisjoint _ (hheld p ⟨t, hfamily, hrow, hlive⟩))
      · exact hold
  fresh j hj hjnone := by
    have hne : j ≠ i := fun heq => hj (heq ▸ hdrawn)
    show d'.sessions.get? j = none
    rw [hset, Dict.get?_set_ne hne]
    exact Dict.get?_modify_none hjnone _ _

end

/-- A request alone keeps such an invariant: it rotates a session that is live when it commits. -/
theorem Effect.preserves {J : Db → Prop} (hJ : Preserved J) {env : Deployment} {next next' : Nat} {d d' : Db} {request : Request}
    (heffect : Effect env next d request next' d') (hd : J d) (hfresh : d.FreshFrom next) : J d' ∧ d'.FreshFrom next' := by
  have hnone := hfresh next le_rfl
  cases heffect with
  | loggedIn admitted free =>
    refine ⟨hJ.opened d _ next _ hd hnone ?_ rfl, Db.FreshFrom.set hfresh _⟩
    rfl
  | rotated found rotatable checked free =>
    rename_i presented client draws now id held
    have hrow := (sessionByRefreshHash_some found).1
    refine ⟨hJ.succeeded d _ id next _ held now hd hnone hrow rotatable.live ?_ rfl, fun i hi => ?_⟩
    · rfl
    · have hne : i ≠ next := by omega
      have hold := hfresh i (by omega)
      dsimp only
      rw [Dict.get?_set_ne hne]
      exact Dict.get?_modify_none hold _ _
  | loggedOut found =>
    rename_i token now id held
    have hrests : d.Rests ((d.revoked id held .logout now).familyRevoked id held .logout now) :=
      (rests_revoked d id held .logout now).trans (rests_revokeLive _ _ .logout now)
    exact ⟨hJ.rests d _ hd hrests, fun i hi => hrests.absent (hfresh i hi)⟩

theorem run_preserves {J : Db → Prop} (hJ : Preserved J) (env : Deployment) : ∀ (requests : List (Request × Nat)) {s : Site}, J s.db →
    s.db.FreshFrom s.next → J (s.run env requests).db ∧ (s.run env requests).db.FreshFrom (s.run env requests).next := by
  intro requests
  induction requests with
  | nil => exact fun hs hfresh => ⟨hs, hfresh⟩
  | cons entry requests ih =>
    intro s hs hfresh
    have hafter : J (s.after env entry.1 entry.2).db ∧ (s.after env entry.1 entry.2).db.FreshFrom (s.after env entry.1 entry.2).next := by
      rcases request_effect env s entry.1 entry.2 with ⟨hdb, hnext⟩ | ⟨next, hle, heffect⟩
      · rw [hdb]
        exact ⟨hs, Db.FreshFrom.mono hfresh hnext⟩
      · obtain ⟨hgood, hnew⟩ := heffect.preserves hJ hs hfresh
        exact ⟨hgood, Db.FreshFrom.mono hnew hle⟩
    exact ih hafter.1 hafter.2

/-! ## Every request keeps the links -/

theorem readsOnly_findByIdentifier (env : Deployment) (identifier : String) : (findByIdentifier env identifier).ReadsOnly := by
  unfold findByIdentifier
  generalize strip identifier = cleaned
  dsimp only
  split_ifs
  · exact readsOnly_pure _
  refine .bind (readsOnly_query _) fun found => ?_
  cases found with
  | some found => exact readsOnly_pure _
  | none =>
    refine .bind (readsOnly_query _) fun found => ?_
    cases found with
    | some found => exact readsOnly_pure _
    | none => exact readsOnly_query _

theorem within_rehash (env : Deployment) (userId : Nat) (user : User) (password : String) (draws : Draws) (now : Time) :
    (openSession.rehash env userId user password draws now).Within (fun f : Db → Db => ∀ d, (f d).sessions = d.sessions) fun _ => True := by
  unfold openSession.rehash
  split_ifs
  · refine .bind (within_ofExcept fun _ _ => trivial) fun hash => ?_
    exact .bind (.bind (within_lock _ _) fun _ => within_update fun _ => rfl) fun _ => within_pure _
  · exact within_pure _

theorem readsOnly_familySessionIds (id : Nat) (s : AuthSession) : (familySessionIds id s).ReadsOnly := by
  have hclimb : ∀ (depth : Nat) (chain : List Nat) (current : AuthSession), (climb depth chain current).ReadsOnly := by
    intro depth
    induction depth with
    | zero => exact fun _ _ => readsOnly_pure _
    | succ depth ih =>
      intro chain current
      unfold climb
      cases current.rotatedFrom with
      | none => exact readsOnly_pure _
      | some parentId =>
        refine .bind (readsOnly_query _) fun found => ?_
        cases found with
        | none => exact readsOnly_pure _
        | some parent =>
          dsimp only
          split_ifs
          · exact readsOnly_pure _
          · exact ih _ _
  have hdescend : ∀ (depth : Nat) (ids frontier : List Nat), (descend depth ids frontier).ReadsOnly := by
    intro depth
    induction depth with
    | zero => exact fun _ _ => readsOnly_pure _
    | succ depth ih =>
      intro ids frontier
      unfold descend
      split_ifs
      · exact readsOnly_pure _
      · exact .bind (readsOnly_query _) fun rows => ih _ _
  exact .bind (hclimb _ _ _) fun chain => hdescend _ _ _

theorem within_endFamily (id : Nat) (held : AuthSession) (now : Time) :
    (endFamily id held now).Within (fun f : Db → Db => ∀ d : Db, d.Rests (f d)) fun _ => True := by
  have hrevoke : (revoke id held .logout now).Within (fun f : Db → Db => ∀ d : Db, d.Rests (f d)) fun _ => True := by
    unfold revoke writeSession
    split_ifs
    · refine .bind (within_lock _ _) fun row => .bind (within_raiseIf _ trivial) fun _ => within_update fun d => ?_
      exact rests_modify d id fun s => stays_revokedBy s .logout now
    · exact within_pure _
  have hlive : ∀ ids : List Nat, (revokeLive ids .logout now).Within (fun f : Db → Db => ∀ d : Db, d.Rests (f d)) fun _ => True := by
    intro ids
    unfold revokeLive
    refine .bind (within_lock _ _) fun live => .bind (within_raiseIf _ trivial) fun _ => ?_
    exact .bind (within_update fun d => rests_revokeLive d ids .logout now) fun _ => within_pure _
  unfold endFamily revokeFamily
  refine .bind hrevoke fun _ => ?_
  exact .bind (.bind (readsOnly_familySessionIds id held).within hlive) fun count => within_pure _

section

variable {J : Db → Prop} (hJ : Preserved J) (env : Deployment) {ok : Admits Db RowLock AppError (Except AppError IssuedSession)}
  {Q : Except AppError IssuedSession → (Lock RowLock → Prop) → (Db → Db) → Db → Prop} {h : Lock RowLock → Prop} {pending : Db → Db}
  {base : Db}

/-- An insert and its commit: the id is held, and no session has it. -/
theorem wp_issue {principal : Principal} {user : User} {draws : Draws} {session : AuthSession} {now : Time}
    (hQ : ∀ r h pending d, Q r h pending d)
    (hpub : ∀ (h' : Lock RowLock → Prop) d i issued, (∀ l, h l → h' l) → h' (.id i) → base.Lasts h d → J d → d.sessions.get? i = none →
      issued.session = session → ok (.commit (.ret (.ok issued))) h'
        ((fun d => { d with sessions := d.sessions.set i session }) ∘ pending) d →
      familyDiscipline.Publishes J h' d { pending d with sessions := (pending d).sessions.set i session }) :
    familyDiscipline.Wp J ok Q (answer (transaction (issue env principal user draws session now))) h pending base := by
  unfold issue insertSession
  simp only [bind_assoc, transaction_bind]
  refine Discipline.wp_answer_lock fun d₁ hlasts₁ _ _ => ?_
  refine Discipline.wp_answer_newId fun d₂ i hlasts₂ _ hfresh => ?_
  refine Discipline.wp_answer_raiseIf (fun _ => hQ _ _ _ _) fun _ => ?_
  refine Discipline.wp_answer_update ?_
  refine Discipline.wp_answer_commit (fun d₃ hlasts₃ hd₃ hok => ?_) fun _ _ _ _ => hQ _ _ _ _
  have hnone := hlasts₃.absent i (.inr rfl) hfresh
  have hlasts : base.Lasts h d₃ := by
    have hlasts₂' := familyDiscipline.rely_mono (fun l hl => .inl hl) hlasts₂
    have hlasts₃' := familyDiscipline.rely_mono (fun l hl => .inl (.inl hl)) hlasts₃
    exact (hlasts₁.trans hlasts₂').trans hlasts₃'
  exact hpub _ d₃ i _ (fun l hl => .inl (.inl hl)) (.inr rfl) hlasts hd₃ hnone rfl hok

include hJ

theorem wp_login (identifier password : String) (client : Client) (draws : Draws) (now : Time) (hQ : ∀ r h pending d, Q r h pending d) :
    familyDiscipline.Wp J ok Q (answer (login env identifier password client draws now)) (fun _ => False) id base := by
  have hraise : ∀ {userId : Nat} {f : User → User} {x : AppError} {d : Db}, familyDiscipline.Wp J ok Q
      (answer (writeUser userId f >>= fun _ => (raise x : Tx IssuedSession))) (fun _ => False) id d := fun {userId f x d} =>
    Discipline.wp_answer_noCommit (NoCommit.bind (noCommit_writeUser userId f) fun _ => noCommit_raise x) hQ
  unfold login
  generalize strip identifier = cleaned
  refine Discipline.wp_answer_raiseIf (fun _ => hQ _ _ _ _) fun _ => ?_
  refine Discipline.wp_answer_reads (readsOnly_findByIdentifier env cleaned) (fun _ _ => hQ _ _ _ _) fun found d₁ _ => ?_
  cases found with
  | none => exact Discipline.wp_answer_raise (hQ _ _ _ _)
  | some entry =>
    obtain ⟨userId, user⟩ := entry
    refine Discipline.wp_answer_ofExcept (fun _ _ => hQ _ _ _ _) fun _ _ => ?_
    refine Discipline.wp_answer_raiseIf (fun _ => hQ _ _ _ _) fun _ => ?_
    split_ifs
    · refine Discipline.wp_answer_raiseIf (fun _ => hQ _ _ _ _) fun _ => ?_
      unfold openSession
      rw [transaction_bind]
      refine Discipline.wp_answer_within (W := fun f : Db → Db => ∀ d, (f d).sessions = d.sessions) (E := fun _ => True) (fun _ => rfl) ?_
        (within_rehash env userId user password draws now) (fun _ _ _ => hQ _ _ _ _) ?_ fun _ => rfl
      · exact fun f g hf hg d => (hf (g d)).trans (hg d)
      · intro user' h' pending d hpending
        rw [transaction_bind]
        refine Discipline.wp_answer_lock fun d₂ _ _ _ => ?_
        refine Discipline.wp_answer_update ?_
        rw [transaction_bind]
        refine Discipline.wp_answer_query fun d₃ _ _ _ => ?_
        refine wp_issue env hQ fun h' d i issued _ hdrawn _ hd hnone _ _ => ?_
        have hset := congrArg (fun sessions => sessions.set i (newSession env userId draws now client "API" none)) (hpending d)
        exact publishes_opened hJ hd hdrawn hnone rfl hset
    · exact hraise

theorem wp_rotate (presented : String) (client : Client) (draws : Draws) (now : Time) (hQ : ∀ r h pending d, Q r h pending d)
    (hok : ∀ issued h pending d, ok (.commit (.ret (.ok issued))) h pending d →
      ∀ p, issued.session.rotatedFrom = some p → ∀ s, d.sessions.get? p = some s → s.Live) :
    familyDiscipline.Wp J ok Q (answer (rotate env presented client draws now)) (fun _ => False) id base := by
  unfold rotate
  refine Discipline.wp_answer_raiseIf (fun _ => hQ _ _ _ _) fun _ => ?_
  refine Discipline.wp_answer_query fun d₀ _ _ _ => ?_
  cases hfound : (id d₀ : Db).sessionByRefreshHash (hashRefreshToken env presented) with
  | none => exact Discipline.wp_answer_raise (hQ _ _ _ _)
  | some entry =>
    obtain ⟨p, held⟩ := entry
    have hrow₀ := (sessionByRefreshHash_some hfound).1
    have hraise : ∀ {reason : SessionRevokeReason} {x : AppError} {d : Db}, familyDiscipline.Wp J ok Q
        (answer (transaction (revoke p held reason now >>= fun _ => (raise x : Tx IssuedSession)))) (fun _ => False) (fun d => d) d := by
      intro reason x d
      rw [transaction_bind]
      exact Discipline.wp_answer_noCommit (NoCommit.bind (noCommit_revoke p held reason now) fun _ => noCommit_raise x) hQ
    dsimp only
    by_cases hrevoked : held.revokedAt ≠ none
    · rw [if_pos hrevoked]
      exact Discipline.wp_answer_noCommit (noCommit_handleReuse _ _ _ _ _ _) hQ
    rw [if_neg hrevoked]
    have hlive : held.revokedAt = none := not_not.mp hrevoked
    unfold rotateLive
    by_cases hexpired : held.expiresAt ≤ now
    · rw [if_pos hexpired]
      exact hraise
    rw [if_neg hexpired, transaction_bind]
    refine Discipline.wp_answer_query fun d₁ hlasts₁ _ _ => ?_
    cases (id d₁ : Db).withAuthorization held.userId with
    | none => exact hraise
    | some found =>
      obtain ⟨user, roles⟩ := found
      dsimp only
      by_cases hdeleted : user.deletedAt ≠ none
      · rw [if_pos hdeleted]
        exact hraise
      rw [if_neg hdeleted]
      by_cases hdisabled : user.status = .disabled ∨ user.status = .inactive
      · rw [if_pos hdisabled]
        exact hraise
      rw [if_neg hdisabled]
      by_cases hlocked : user.status = .locked ∧ ∀ t ∈ user.lockedUntil, now < t
      · rw [if_pos hlocked]
        exact hraise
      rw [if_neg hlocked, transaction_bind]
      unfold revoke writeSession
      rw [if_pos hlive]
      simp only [bind_assoc]
      refine Discipline.wp_answer_lock fun d₂ hlasts₂ _ _ => ?_
      refine Discipline.wp_answer_raiseIf (fun _ => hQ _ _ _ _) fun _ => ?_
      refine Discipline.wp_answer_update ?_
      refine wp_issue env hQ fun h' d i issued hheld hdrawn hlasts hd hnone hissued hcommit => ?_
      obtain ⟨s₁, hs₁, -⟩ := hlasts₁.kept p held hrow₀
      obtain ⟨s₂, hs₂, -⟩ := hlasts₂.kept p s₁ hs₁
      obtain ⟨s, hs, -⟩ := hlasts.kept p s₂ hs₂
      have hrow : h' (.row (.session p)) := hheld _ (.inr (List.mem_singleton.mpr rfl))
      have hfrom : issued.session.rotatedFrom = some p := by
        rw [hissued]
        rfl
      exact publishes_succeeded hJ hd hdrawn hrow hnone hs (hok issued _ _ d hcommit p hfrom s hs) rfl rfl

theorem wp_logout {ok : Admits Db RowLock AppError (Except AppError Nat)}
    {Q : Except AppError Nat → (Lock RowLock → Prop) → (Db → Db) → Db → Prop} (refreshToken : String) (now : Time)
    (hQ : ∀ r h pending d, Q r h pending d) :
    familyDiscipline.Wp J ok Q (answer (logout env refreshToken now)) (fun _ => False) id base := by
  unfold logout
  split_ifs
  · exact hQ _ _ _ _
  refine Discipline.wp_answer_query fun d₀ _ _ _ => ?_
  cases (id d₀ : Db).sessionByRefreshHash (hashRefreshToken env refreshToken) with
  | none => exact hQ _ _ _ _
  | some entry =>
    have hwithin := within_endFamily entry.1 entry.2 now
    refine Discipline.wp_answer_transaction (fun d => rests_refl d) ?_ ?_ (fun _ _ => hQ _ _ _ _) (fun _ _ _ => hQ _ _ _ _) hwithin
      (fun d => rests_refl d)
    · exact fun f g hf hg d => (hg d).trans (hf (g d))
    · exact fun f h d hf hd => publishes_rests hJ hd (hf d)

end

/-! ## Requests as sessions -/

/-- A request, and the session that it hands out. -/
def Request.program (env : Deployment) : Request → Tx (Option IssuedSession)
  | .login identifier password client draws now => do
    let issued ← Identity.login env identifier password client draws now
    return some issued
  | .rotate presented client draws now => do
    let issued ← Identity.rotate env presented client draws now
    return some issued
  | .logout refreshToken now => do
    let _ ← Identity.logout env refreshToken now
    return none

def Request.answered (env : Deployment) (request : Request) : Tx (Except AppError (Option IssuedSession)) :=
  answer (request.program env)

/-- When a rotation commits, the session that it rotates is live. -/
def RotatesLive : Admits Db RowLock AppError (Except AppError (Option IssuedSession))
  | .commit (.ret (.ok (some issued))), _, _, d => ∀ p ∈ issued.session.rotatedFrom, ∀ s ∈ d.sessions.get? p, s.Live
  | _, _, _, _ => True

instance decidableRotatesLive (p : Tx (Except AppError (Option IssuedSession))) (h : Lock RowLock → Prop) (pending : Db → Db) (d : Db) :
    Decidable (RotatesLive p h pending d) := by
  unfold RotatesLive
  split <;> infer_instance

theorem RotatesLive.held {p : Tx (Except AppError (Option IssuedSession))} {h h' : Lock RowLock → Prop} {pending : Db → Db} {d : Db}
    (hlive : RotatesLive p h pending d) : RotatesLive p h' pending d := by
  unfold RotatesLive at hlive ⊢
  split
  · exact hlive
  · trivial

section

attribute [local irreducible] Discipline.Wp

/-- Every request keeps an invariant of the links, whatever is committed in between. -/
theorem safe_request {J : Db → Prop} (hJ : Preserved J) (env : Deployment) {ok : Admits Db RowLock AppError (Except AppError (Option IssuedSession))}
    {post : Except AppError (Option IssuedSession) → Db → Prop} (hok : ∀ p h pending d, ok p h pending d → RotatesLive p h pending d)
    (hpost : ∀ r d, post r d) (request : Request) (d : Db) :
    familyDiscipline.Safe J ok post (request.answered env) (fun _ => False) id d := by
  unfold Discipline.Safe Request.answered
  cases request with
  | login identifier password client draws now =>
    refine Discipline.wp_answer_map (p := login env identifier password client draws now) (g := some) ?_
    refine wp_login hJ env identifier password client draws now ?_
    exact fun r _ _ _ d' _ _ => hpost _ d'
  | rotate presented client draws now =>
    refine Discipline.wp_answer_map (p := rotate env presented client draws now) (g := some) ?_
    refine wp_rotate hJ env presented client draws now ?_ ?_
    · exact fun r _ _ _ d' _ _ => hpost _ d'
    · exact fun issued h pending d hcommit => hok _ h pending d hcommit
  | logout refreshToken now =>
    refine Discipline.wp_answer_map (p := logout env refreshToken now) (g := fun _ => none) ?_
    refine wp_logout hJ env refreshToken now ?_
    exact fun r _ _ _ d' _ _ => hpost _ d'

end

end NovaCommerce.Identity
