import NovaCommerce.Identity.Logouts

/-!
# The reach of the walks

Two walks of `maxRotationChainDepth` links each collect a family: up the predecessors, then down the successors of all that were
passed.

* `Db.Reaches` : the sessions at most so many rotations below one that is at most so many rotations above;
* `mem_familyIds` : these are the ids that the walks collect;
* `dead_familyRevoked_iff` : a revocation leaves no live session exactly if each was within reach;
* `familySessionIds_whole_iff` : ids and revocation are those of the whole family exactly if all of it is within reach.
-/

namespace NovaCommerce.Identity

open Sql

/-- At most `maxRotationChainDepth` rotations up, and from there at most as many down. -/
def Db.Reaches (d : Db) (id j : Nat) : Prop :=
  ∃ c, (∃ m ≤ maxRotationChainDepth, d.Below m c id) ∧ ∃ n ≤ maxRotationChainDepth, d.Below n c j

/-! ## The walk up -/

theorem rotatedInto_unique {d : Db} {p q i : Nat} (hp : d.RotatedInto p i) (hq : d.RotatedInto q i) : p = q := by
  obtain ⟨s, hs, hp⟩ := hp
  obtain ⟨s', hs', hq⟩ := hq
  rw [hs] at hs'
  cases hs'
  exact Option.some.inj (hp.symm.trans hq)

theorem below_succ {d : Db} : ∀ {n i j : Nat}, d.Below (n + 1) i j ↔ ∃ p, d.Below n i p ∧ d.RotatedInto p j := by
  intro n
  induction n with
  | zero =>
    intro i j
    constructor
    · rintro ⟨k, hinto, rfl⟩
      exact ⟨i, rfl, hinto⟩
    · rintro ⟨p, rfl, hinto⟩
      exact ⟨j, hinto, rfl⟩
  | succ n ih =>
    intro i j
    constructor
    · rintro ⟨k, hik, hkj⟩
      obtain ⟨p, hkp, hpj⟩ := ih.mp hkj
      exact ⟨p, ⟨k, hik, hkp⟩, hpj⟩
    · rintro ⟨p, ⟨k, hik, hkp⟩, hpj⟩
      exact ⟨k, hik, ih.mpr ⟨p, hkp, hpj⟩⟩

/-- Above a set that holds the predecessors of its sessions there is nothing else. -/
theorem mem_of_below {d : Db} {chain : List Nat} (hclosed : ∀ i ∈ chain, ∀ p, d.RotatedInto p i → p ∈ chain) :
    ∀ {m j i : Nat}, i ∈ chain → d.Below m j i → j ∈ chain := by
  intro m
  induction m with
  | zero =>
    intro j i hi hbelow
    obtain rfl : j = i := hbelow
    exact hi
  | succ m ih =>
    intro j i hi hbelow
    obtain ⟨p, hjp, hpi⟩ := below_succ.mp hbelow
    exact ih (hclosed i hi p hpi) hjp

/-- The walk up passes what its depth allows. Behind its current session, the chain holds all predecessors. -/
theorem mem_climb {d : Db} (rooted : d.Rooted) (j : Nat) : ∀ (depth : Nat) (chain : List Nat) (cur : Nat)
    (current : AuthSession),
    d.sessions.get? cur = some current → cur ∈ chain → (∀ i ∈ chain, i ≠ cur → ∀ p, d.RotatedInto p i → p ∈ chain) →
    (j ∈ d.climb depth chain current ↔ j ∈ chain ∨ ∃ m ≤ depth, d.Below m j cur) := by
  intro depth
  induction depth with
  | zero =>
    intro chain cur current _ hcur _
    refine ⟨.inl, fun h => ?_⟩
    rcases h with hj | ⟨m, hm, hbelow⟩
    · exact hj
    · obtain rfl : m = 0 := by omega
      obtain rfl : j = cur := hbelow
      exact hcur
  | succ depth ih =>
    intro chain cur current hrow hcur hclosed
    unfold Db.climb
    cases hfrom : current.rotatedFrom with
    | none =>
      refine ⟨.inl, fun h => ?_⟩
      rcases h with hj | ⟨m, -, hbelow⟩
      · exact hj
      · -- nothing is above the origin
        refine mem_of_below (fun i hi p hp => ?_) hcur hbelow
        by_cases hi' : i = cur
        · subst hi'
          obtain ⟨s, hs, hp⟩ := hp
          rw [hrow] at hs
          cases hs
          rw [hfrom] at hp
          cases hp
        · exact hclosed i hi hi' p hp
    | some parentId =>
      have hinto : d.RotatedInto parentId cur := ⟨current, hrow, hfrom⟩
      obtain ⟨parent, hparent⟩ := Option.ne_none_iff_exists'.mp (rooted parentId cur hinto)
      dsimp only
      rw [hparent]
      dsimp only
      split_ifs with hseen
      · refine ⟨.inl, fun h => ?_⟩
        rcases h with hj | ⟨m, -, hbelow⟩
        · exact hj
        · refine mem_of_below (fun i hi p hp => ?_) hcur hbelow
          by_cases hi' : i = cur
          · subst hi'
            exact rotatedInto_unique hinto hp ▸ hseen
          · exact hclosed i hi hi' p hp
      · have hclosed' : ∀ i ∈ chain ++ [parentId], i ≠ parentId → ∀ p, d.RotatedInto p i → p ∈ chain ++
          [parentId] := by
          intro i hi hne p hp
          have hi := (List.mem_append.mp hi).resolve_right fun h => hne (List.mem_singleton.mp h)
          by_cases hi' : i = cur
          · subst hi'
            rw [rotatedInto_unique hp hinto]
            exact List.mem_append_right _ (List.mem_singleton.mpr rfl)
          · exact List.mem_append_left _ (hclosed i hi hi' p hp)
        rw [ih (chain ++ [parentId]) parentId parent hparent
          (List.mem_append_right _ (List.mem_singleton.mpr rfl)) hclosed']
        constructor
        · rintro (hj | ⟨m, hm, hbelow⟩)
          · rcases List.mem_append.mp hj with hj | hj
            · exact .inl hj
            · rw [List.mem_singleton] at hj
              exact .inr ⟨1, by omega, below_succ.mpr ⟨parentId, hj, hinto⟩⟩
          · exact .inr ⟨m + 1, by omega, below_succ.mpr ⟨parentId, hbelow, hinto⟩⟩
        · rintro (hj | ⟨m, hm, hbelow⟩)
          · exact .inl (List.mem_append_left _ hj)
          · cases m with
            | zero =>
              obtain rfl : j = cur := hbelow
              exact .inl (List.mem_append_left _ hcur)
            | succ m =>
              obtain ⟨p, hjp, hp⟩ := below_succ.mp hbelow
              rw [rotatedInto_unique hp hinto] at hjp
              exact .inr ⟨m, by omega, hjp⟩

/-! ## The walk down -/

theorem mem_successorsOf_iff {d : Db} {ids : List Nat} {j : Nat} : j ∈ d.successorsOf ids ↔ ∃ i ∈ ids,
    d.RotatedInto i j := by
  constructor
  · intro h
    obtain ⟨⟨j, s⟩, hs, rfl⟩ := List.mem_map.mp h
    obtain ⟨hget, hp⟩ := Dict.mem_select.mp hs
    obtain ⟨i, hfrom, hi⟩ := of_decide_eq_true hp
    exact ⟨i, hi, s, hget, hfrom⟩
  · rintro ⟨i, hi, hinto⟩
    exact mem_successorsOf hi hinto

/-- The walk down stays within its depth. -/
theorem below_of_mem_descend {d : Db} {j : Nat} : ∀ (depth : Nat) (ids frontier : List Nat),
    j ∈ d.descend depth ids frontier →
    j ∈ ids ∨ ∃ i ∈ frontier, ∃ n ≤ depth, d.Below n i j := by
  intro depth
  induction depth with
  | zero => exact fun _ _ h => .inl h
  | succ depth ih =>
    intro ids frontier h
    unfold Db.descend at h
    split_ifs at h
    · exact .inl h
    · have hfresh : ∀ i ∈ (d.successorsOf frontier).filter (fun id => decide (id ∉ ids)), ∃ k ∈ frontier,
        d.RotatedInto k i :=
        fun i hi => mem_successorsOf_iff.mp (List.mem_filter.mp hi).1
      rcases ih _ _ h with hj | ⟨i, hi, n, hn, hbelow⟩
      · rcases List.mem_append.mp hj with hj | hj
        · exact .inl hj
        · obtain ⟨k, hk, hinto⟩ := hfresh j hj
          exact .inr ⟨k, hk, 1, by omega, j, hinto, rfl⟩
      · obtain ⟨k, hk, hinto⟩ := hfresh i hi
        exact .inr ⟨k, hk, n + 1, by omega, i, hinto, hbelow⟩

/-! ## The family that they collect -/

theorem mem_familyIds {d : Db} (rooted : d.Rooted) {id : Nat} {held : AuthSession}
    (hrow : d.sessions.get? id = some held) (j : Nat) :
    j ∈ d.familyIds id held ↔ d.Reaches id j := by
  have hchain : ∀ c, c ∈ d.climb maxRotationChainDepth [id] held ↔ ∃ m ≤ maxRotationChainDepth, d.Below m c id := by
    intro c
    rw [mem_climb rooted c _ [id] id held hrow (List.mem_singleton.mpr rfl) fun i hi hne =>
      absurd (List.mem_singleton.mp hi) hne]
    refine ⟨fun h => h.elim (fun hc => ?_) fun h => h, .inr⟩
    exact ⟨0, Nat.zero_le _, List.mem_singleton.mp hc⟩
  unfold Db.familyIds Db.Reaches
  constructor
  · intro h
    rcases below_of_mem_descend _ _ _ h with hj | ⟨c, hc, hbelow⟩
    · exact ⟨j, (hchain j).mp hj, 0, Nat.zero_le _, rfl⟩
    · exact ⟨c, (hchain c).mp hc, hbelow⟩
  · rintro ⟨c, hc, n, hn, hbelow⟩
    exact mem_descend d _ _ _ (fun i hi hnot => absurd hi hnot) n hn c ((hchain c).mpr hc) j hbelow

theorem Db.Reaches.family {d : Db} (rooted : d.Rooted) {id j : Nat} {held : AuthSession}
    (hrow : d.sessions.get? id = some held)
    (h : d.Reaches id j) : d.Family id j :=
  familyIds_family hrow j ((mem_familyIds rooted hrow j).mpr h)

/-- What a revocation leaves live was out of reach. -/
theorem liveIn_familyRevoked {d : Db} (rooted : d.Rooted) {id : Nat} {held : AuthSession}
    (hrow : d.sessions.get? id = some held)
    (reason : SessionRevokeReason) (now : Time) (j : Nat) :
    (d.familyRevoked id held reason now).LiveIn id j ↔ d.LiveIn id j ∧ ¬ d.Reaches id j := by
  rw [← mem_familyIds rooted hrow]
  have hrests := rests_revokeLive d (d.familyIds id held) reason now
  unfold Db.familyRevoked
  constructor
  · intro hlive
    refine ⟨liveIn_rests hrests hlive, fun hj => ?_⟩
    obtain ⟨s', -, hs', hslive⟩ := hlive
    dsimp only at hs'
    rw [Dict.get?_adjust] at hs'
    obtain ⟨s, -, rfl⟩ := Option.map_eq_some_iff.mp hs'
    split_ifs at hslive with hrevoked
    · exact not_live_revokedBy s reason now hslive
    · exact hrevoked ⟨hj, hslive⟩
  · rintro ⟨⟨s, hfamily, hs, hslive⟩, hj⟩
    refine ⟨s, (family_rests hrests id j).mpr hfamily, ?_, hslive⟩
    dsimp only
    rw [Dict.get?_adjust, hs, Option.map_some, if_neg fun h => hj h.1]

theorem dead_familyRevoked_iff {d : Db} (rooted : d.Rooted) {id : Nat} {held : AuthSession}
    (hrow : d.sessions.get? id = some held)
    (reason : SessionRevokeReason) (now : Time) :
    (d.familyRevoked id held reason now).Dead id ↔ ∀ j, d.LiveIn id j → d.Reaches id j := by
  unfold Db.Dead
  simp only [liveIn_familyRevoked rooted hrow, not_and, not_not]

/-- The walks collect the family, and a revocation leaves no live session in it, exactly if all of the family is within reach. -/
theorem familySessionIds_whole_iff {e : Exec Db} (rooted : e.view.Rooted) {id : Nat} {held : AuthSession}
    (hrow : e.view.sessions.get? id = some held) :
    ∃ ids, (familySessionIds id held).run e = (.ok ids, e) ∧
      (((∀ j, j ∈ ids ↔ e.view.Family id j) ∧
          ∀ reason now count e', (revokeFamily id held reason now).run e = (.ok count, e') → e'.view.Dead id) ↔
        ∀ j, e.view.Family id j → e.view.Reaches id j) ∧
      ∀ reason now, (∀ i row, e.view.sessions.get? i = some row → row.createdAt ≤ now) →
        ∃ count e', (revokeFamily id held reason now).run e = (.ok count, e') ∧
          (e'.view.Dead id ↔ ∀ j, e.view.LiveIn id j → e.view.Reaches id j) := by
  refine ⟨_, run_familySessionIds id held e, ?_, fun reason now clock => ?_⟩
  · constructor
    · rintro ⟨hwhole, -⟩ j hj
      exact (mem_familyIds rooted hrow j).mp ((hwhole j).mpr hj)
    · intro hreach
      refine ⟨fun j => ?_, fun reason now count e' hrun => ?_⟩
      · rw [mem_familyIds rooted hrow]
        exact ⟨Db.Reaches.family rooted hrow, hreach j⟩
      · rw [revokeFamily_eq_ok hrun]
        refine (dead_familyRevoked_iff rooted hrow reason now).mpr fun j hlive => ?_
        obtain ⟨-, hfamily, -⟩ := hlive
        exact hreach j hfamily
  · obtain ⟨count, hrun⟩ := run_revokeFamily id held reason clock
    exact ⟨count, _, hrun, dead_familyRevoked_iff rooted hrow reason now⟩

/-! ## Samples -/

/-- The `i`-th session of a family that was rotated every hour; the last of `n` is live. -/
def hourlySession (n i : Nat) : AuthSession where
  userId := 1
  sessionId := "1-" ++ toString i
  refreshTokenHash := "sha256-" ++ toString i
  jti := toString i
  issuedAt := sampleMorning + i * 3600000
  expiresAt := sampleMorning + i * 3600000 + 2592000000
  revokedAt := if i + 1 < n then some (sampleMorning + (i + 1) * 3600000) else none
  revokedReason := if i + 1 < n then some .rotated else none
  rotatedFrom := if i = 0 then none else some (i - 1)
  loginSource := if i = 0 then "API" else "REFRESH"
  createdAt := sampleMorning + i * 3600000

def hourlyFamily (n : Nat) : Db where
  sessions := Dict.empty.setFrom 0 ((List.range n).map (hourlySession n))

theorem hourlyFamily_get? {n i : Nat} (hi : i < n) : (hourlyFamily n).sessions.get? i = some (hourlySession n i) := by
  have hlength : i < ((List.range n).map (hourlySession n)).length := by simpa using hi
  have hget := Dict.get?_setFrom_at (d := Dict.empty) (k := 0) hlength
  rw [Nat.zero_add] at hget
  show (Dict.empty.setFrom 0 ((List.range n).map (hourlySession n))).get? i = _
  rw [hget]
  simp [hi]

theorem hourlyFamily_absent {n i : Nat} (hi : n ≤ i) : (hourlyFamily n).sessions.get? i = none := by
  have hlength : 0 + ((List.range n).map (hourlySession n)).length ≤ i := by simpa using hi
  exact (Dict.get?_setFrom_ge hlength).trans rfl

theorem hourlyFamily_rotatedInto (n p i : Nat) : (hourlyFamily n).RotatedInto p i ↔ i = p + 1 ∧ i < n := by
  unfold Db.RotatedInto
  by_cases hi : i < n
  · rw [hourlyFamily_get? hi]
    simp only [Option.some.injEq, exists_eq_left', hourlySession, hi, and_true]
    split_ifs with hzero
    · simp [hzero]
    · simp only [Option.some.injEq]
      omega
  · rw [hourlyFamily_absent (not_lt.mp hi)]
    simp [hi]

theorem hourlyFamily_rooted (n : Nat) : (hourlyFamily n).Rooted := by
  intro p i hinto
  obtain ⟨rfl, hi⟩ := (hourlyFamily_rotatedInto n p i).mp hinto
  rw [hourlyFamily_get? (by omega)]
  exact Option.some_ne_none _

theorem hourlyFamily_below (n : Nat) : ∀ {m i j : Nat}, (hourlyFamily n).Below m i j ↔ j = i + m ∧
    (m = 0 ∨ j < n) := by
  intro m
  induction m with
  | zero =>
    intro i j
    show i = j ↔ _
    omega
  | succ m ih =>
    intro i j
    rw [below_succ]
    simp only [ih, hourlyFamily_rotatedInto]
    constructor
    · rintro ⟨p, ⟨rfl, -⟩, rfl, hj⟩
      exact ⟨by omega, .inr hj⟩
    · rintro ⟨rfl, hj⟩
      exact ⟨i + m, ⟨rfl, by omega⟩, by omega, by omega⟩

/-- From the origin the walks reach the fifty rotations below it. -/
theorem hourlyFamily_reaches (n j : Nat) : (hourlyFamily n).Reaches 0 j ↔ j = 0 ∨
    (j ≤ maxRotationChainDepth ∧ j < n) := by
  unfold Db.Reaches
  simp only [hourlyFamily_below]
  constructor
  · rintro ⟨c, ⟨m, -, hc, -⟩, k, hk, hj, hn⟩
    omega
  · intro h
    refine ⟨0, ⟨0, Nat.zero_le _, rfl, .inl rfl⟩, j, ?_, by omega, by omega⟩
    rcases h with rfl | ⟨hj, -⟩
    · exact Nat.zero_le _
    · exact hj

/-- All sessions are of the family of the origin. -/
theorem hourlyFamily_family {n j : Nat} (hj : j < n) : (hourlyFamily n).Family 0 j := by
  induction j with
  | zero => exact .refl _
  | succ j ih => exact .trans _ _ _ (ih (by omega)) (.rel _ _ ((hourlyFamily_rotatedInto n j (j + 1)).mpr ⟨rfl, hj⟩))

theorem hourlyFamily_within {n j : Nat} (h : (hourlyFamily n).Family 0 j) : j = 0 ∨ j < n := by
  have hboth : ∀ {a b : Nat}, (hourlyFamily n).Family a b → a = b ∨ (a < n ∧ b < n) := by
    intro a b hab
    induction hab with
    | rel a b hinto =>
      obtain ⟨rfl, hb⟩ := (hourlyFamily_rotatedInto n a b).mp hinto
      exact .inr ⟨by omega, hb⟩
    | refl a => exact .inl rfl
    | symm a b _ ih => omega
    | trans a b c _ _ ih ih' => omega
  rcases hboth h with rfl | ⟨-, hj⟩
  · exact .inl rfl
  · exact .inr hj

/-- Fifty-one sessions are collected and revoked from the first of them. -/
theorem familySessionIds_whole_fifty : ∃ ids, (familySessionIds 0 (hourlySession 51 0)).run
    (Exec.start (hourlyFamily 51) 51) =
      (.ok ids, Exec.start (hourlyFamily 51) 51) ∧ (∀ j, j ∈ ids ↔ (hourlyFamily 51).Family 0 j) ∧
    ∀ reason now count e', (revokeFamily 0 (hourlySession 51 0) reason now).run (Exec.start (hourlyFamily 51) 51) =
      (.ok count, e') →
      e'.view.Dead 0 := by
  have hrow : (Exec.start (hourlyFamily 51) 51).view.sessions.get? 0 = some (hourlySession 51 0) := hourlyFamily_get?
    (by decide)
  obtain ⟨ids, hrun, hwhole, -⟩ := familySessionIds_whole_iff (e := Exec.start (hourlyFamily 51) 51)
    (hourlyFamily_rooted 51) hrow
  obtain ⟨hids, hdead⟩ := hwhole.mpr fun j hj => by
    refine (hourlyFamily_reaches 51 j).mpr ?_
    rcases hourlyFamily_within hj with rfl | hj
    · exact .inl rfl
    · exact .inr ⟨Nat.le_of_lt_succ hj, hj⟩
  exact ⟨ids, hrun, hids, hdead⟩

/-- With one more, the last of the family is not among the ids, and stays live. -/
theorem familySessionIds_not_whole : (hourlyFamily 52).Rooted ∧ (hourlyFamily 52).sessions.get? 0 = some
    (hourlySession 52 0) ∧
    ∃ ids, (familySessionIds 0 (hourlySession 52 0)).run (Exec.start (hourlyFamily 52) 52) =
        (.ok ids, Exec.start (hourlyFamily 52) 52) ∧ (hourlyFamily 52).Family 0 51 ∧ 51 ∉ ids ∧
      ∃ count e', (revokeFamily 0 (hourlySession 52 0) .reuseDetected (sampleMorning + 86400000000)).run
          (Exec.start (hourlyFamily 52) 52) = (.ok count, e') ∧ e'.view.LiveIn 0 51 := by
  have hrow : (hourlyFamily 52).sessions.get? 0 = some (hourlySession 52 0) := hourlyFamily_get? (by decide)
  have hfar : ¬ (hourlyFamily 52).Reaches 0 51 := by
    rw [hourlyFamily_reaches]
    decide
  have hfamily : (hourlyFamily 52).Family 0 51 := hourlyFamily_family (by decide)
  have hlive : (hourlyFamily 52).LiveIn 0 51 := ⟨_, hfamily, hourlyFamily_get? (by decide), rfl⟩
  refine ⟨hourlyFamily_rooted 52, hrow, _, run_familySessionIds 0 _ _, hfamily, fun hmem => hfar ?_, ?_⟩
  · exact (mem_familyIds (hourlyFamily_rooted 52) hrow 51).mp hmem
  · have hclock : ∀ i row, (Exec.start (hourlyFamily 52) 52).view.sessions.get? i = some row →
        row.createdAt ≤ sampleMorning + 86400000000 := by
      intro i row hi
      by_cases hlt : i < 52
      · have hrow' := hourlyFamily_get? hlt
        rw [show (hourlyFamily 52).sessions.get? i = some row from hi] at hrow'
        cases hrow'
        have hhours : i * 3600000 ≤ 86400000000 := by omega
        exact add_le_add_right hhours sampleMorning
      · have hnone := hourlyFamily_absent (not_lt.mp hlt)
        rw [show (hourlyFamily 52).sessions.get? i = some row from hi] at hnone
        cases hnone
    obtain ⟨count, hrun⟩ := run_revokeFamily 0 (hourlySession 52 0) .reuseDetected hclock
    exact ⟨count, _, hrun, (liveIn_familyRevoked (hourlyFamily_rooted 52) hrow _ _ 51).mpr ⟨hlive, hfar⟩⟩

end NovaCommerce.Identity
