import NovaCommerce.Identity.Families

/-!
# Concurrent rotations

* `Db.Chained` : a session that was rotated is revoked, and has one successor. Then the links of a family form one chain;
* `Db.SingleUse` : a family has one live session, and a session one successor (`Db.Chained.singleUse`);
* `rotations_singleUse` : so it is over any interleaving of requests, as long as every rotation that commits finds the session it
  rotates live. Two rotations that both read it before one of them commits do not.
-/

namespace NovaCommerce.Identity

open Sql

/-- A session that was rotated is revoked, and has one successor. -/
structure Db.Chained (d : Db) : Prop where
  parent : ∀ p i, d.RotatedInto p i → ∃ s, d.sessions.get? p = some s ∧ ¬ s.Live
  single : ∀ p i j, d.RotatedInto p i → d.RotatedInto p j → i = j

/-- A family has one live session, and a session has one successor. -/
structure Db.SingleUse (d : Db) : Prop where
  live : ∀ root i j, d.LiveIn root i → d.LiveIn root j → i = j
  successor : ∀ p i j, d.RotatedInto p i → d.RotatedInto p j → i = j

theorem Db.Chained.linear {d : Db} (hd : d.Chained) : Chain.Linear d.RotatedInto where
  succ := hd.single
  pred := by
    rintro p q i ⟨s, hs, hp⟩ ⟨s', hs', hq⟩
    rw [hs] at hs'
    cases hs'
    exact Option.some.inj (hp.symm.trans hq)

/-- A live session is the end of its chain. -/
theorem Db.Chained.not_rotatedInto {d : Db} (hd : d.Chained) {root i : Nat} (hlive : d.LiveIn root i) (j : Nat) : ¬ d.RotatedInto i j := by
  obtain ⟨s, -, hs, hlive⟩ := hlive
  intro hinto
  obtain ⟨s', hs', hrevoked⟩ := hd.parent i j hinto
  rw [hs] at hs'
  cases hs'
  exact hrevoked hlive

theorem Db.Chained.singleUse {d : Db} (hd : d.Chained) : d.SingleUse where
  live root i j hi hj := by
    obtain ⟨-, hrooti, -, -⟩ := id hi
    obtain ⟨-, hrootj, -, -⟩ := id hj
    exact hd.linear.end_unique (.trans _ _ _ (.symm _ _ hrooti) hrootj) (hd.not_rotatedInto hi) (hd.not_rotatedInto hj)
  successor := hd.single

/-- A rotation of a live session prolongs its chain. -/
theorem preserved_chained : Preserved Db.Chained where
  rooted d hd p i hinto := by
    obtain ⟨s, hs, -⟩ := hd.parent p i hinto
    rw [hs]
    exact Option.some_ne_none s
  rests d d' hd hrests := by
    refine ⟨fun p i hinto => ?_, fun p i j hi hj => ?_⟩
    · obtain ⟨s, hs, hrevoked⟩ := hd.parent p i ((rotatedInto_rests hrests p i).mp hinto)
      obtain ⟨s', hs', hstays⟩ := hrests.kept p s hs
      exact ⟨s', hs', hstays.revoked hrevoked⟩
    · exact hd.single p i j ((rotatedInto_rests hrests p i).mp hi) ((rotatedInto_rests hrests p j).mp hj)
  opened d d' i s hd hnone hfirst hset := by
    have hinto : ∀ p j, d'.RotatedInto p j → d.RotatedInto p j := by
      intro p j h
      refine ((rotatedInto_set hnone hset p j).mp h).resolve_right fun hnew => ?_
      rw [hfirst] at hnew
      cases hnew.2
    refine ⟨fun p j h => ?_, fun p j k hj hk => hd.single p j k (hinto p j hj) (hinto p k hk)⟩
    obtain ⟨t, ht, hrevoked⟩ := hd.parent p j (hinto p j h)
    have hne : p ≠ i := by
      rintro rfl
      rw [hnone] at ht
      cases ht
    exact ⟨t, by rw [hset, Dict.get?_set_ne hne, ht], hrevoked⟩
  succeeded d d' p i s t now hd hnone hrow hlive hfrom hset := by
    have hrests := rests_modify d p fun s => stays_revokedBy s .rotated now
    have hinto : ∀ q j, d'.RotatedInto q j → d.RotatedInto q j ∨ (j = i ∧ q = p) := by
      intro q j h
      refine ((rotatedInto_set (hrests.absent hnone) hset q j).mp h).imp (rotatedInto_rests hrests q j).mp fun hnew => ⟨hnew.1, ?_⟩
      rw [hfrom] at hnew
      exact (Option.some.inj hnew.2).symm
    have hend : ∀ j, ¬ d.RotatedInto p j := by
      intro j h
      obtain ⟨s', hs', hrevoked⟩ := hd.parent p j h
      rw [hrow] at hs'
      cases hs'
      exact hrevoked hlive
    have hget : ∀ q u, d.sessions.get? q = some u → ∃ u', d'.sessions.get? q = some u' ∧ (¬ u.Live ∨ q = p → ¬ u'.Live) := by
      intro q u hu
      have hne : q ≠ i := by
        rintro rfl
        rw [hnone] at hu
        cases hu
      rw [hset, Dict.get?_set_ne hne, Dict.get?_modify, hu]
      split_ifs with hq
      · exact ⟨_, rfl, fun _ => not_live_revokedBy u .rotated now⟩
      · exact ⟨u, rfl, fun h => h.resolve_right hq⟩
    refine ⟨fun q j h => ?_, fun q j k hj hk => ?_⟩
    · rcases hinto q j h with hold | ⟨-, rfl⟩
      · obtain ⟨u, hu, hrevoked⟩ := hd.parent q j hold
        obtain ⟨u', hu', hdead⟩ := hget q u hu
        exact ⟨u', hu', hdead (.inl hrevoked)⟩
      · obtain ⟨u', hu', hdead⟩ := hget q t hrow
        exact ⟨u', hu', hdead (.inr rfl)⟩
    · rcases hinto q j hj with hj | ⟨rfl, rfl⟩
      · rcases hinto q k hk with hk | ⟨-, rfl⟩
        · exact hd.single q j k hj hk
        · exact absurd hj (hend j)
      · rcases hinto q k hk with hk | ⟨rfl, -⟩
        · exact absurd hk (hend k)
        · rfl

/-- In every state that requests reach whose rotations commit from a live session, a refresh token was used once. -/
theorem rotations_singleUse (env : Deployment) {d : Db} {next : Nat} (chained : d.Chained) (fresh : d.FreshFrom next)
    (requests : Nat → Request) {t : Sys Db RowLock AppError (Except AppError (Option IssuedSession))}
    (reached : Reaches (fun _ => RotatesLive) (Sys.init d next fun i => (requests i).answered env) t) : t.committed.SingleUse := by
  have hsafe : ∀ i, familyDiscipline.Safe Db.Chained RotatesLive (fun _ _ => True) ((requests i).answered env) (fun _ => False) id d :=
    fun i => safe_request preserved_chained env (fun _ _ _ _ h => h) (fun _ _ => trivial) (requests i) d
  have hgood : t.committed.Chained := Discipline.reaches_good (P := familyDiscipline) chained fresh hsafe reached
  exact hgood.singleUse

/-- A login, and two rotations of its token five seconds apart. -/
def sampleRace : Nat → Request
  | 0 => .login "ada" "Linden-Harbour-42" sampleClient sampleFirstDraws sampleMorning
  | 1 => .rotate sampleFirstToken sampleClient sampleSecondDraws (sampleMorning + 3600000)
  | _ => .rotate sampleFirstToken sampleClient sampleThirdDraws (sampleMorning + 3605000)

theorem sampleSite_chained : sampleSite.db.Chained where
  parent := by
    rintro p i ⟨s, hs, -⟩
    cases hs
  single := by
    rintro p i j ⟨s, hs, -⟩
    cases hs

theorem rotations_singleUse_sample : ∃ t : Sys Db RowLock AppError (Except AppError (Option IssuedSession)),
    t.committed.sessions.keys = [2, 3] ∧ t.committed.SingleUse := by
  have hrun : ((Sys.init sampleSite.db sampleSite.next fun i => (sampleRace i).answered sampleDeployment).execChecked
      (fun _ p pending d => decide (RotatesLive p (fun _ => False) pending d)) (List.replicate 9 0 ++ List.replicate 9 1)).map
      (fun t => decide (t.committed.sessions.keys = [2, 3])) = some true := by
    decide +kernel
  obtain ⟨t, hexec, hkeys⟩ := Option.map_eq_some_iff.mp hrun
  have hreached : Reaches (fun _ => RotatesLive) _ t :=
    Reaches.refl.execChecked (fun i p h pending d hp => (of_decide_eq_true hp).held) hexec
  exact ⟨t, of_decide_eq_true hkeys, rotations_singleUse sampleDeployment sampleSite_chained sampleSite_sound.fresh sampleRace hreached⟩

/-- Both rotations read the session before one of them commits, and both have a live successor. -/
theorem rotations_not_singleUse : sampleSite.db.Chained ∧ sampleSite.db.FreshFrom sampleSite.next ∧
    ∃ t, Reaches (fun _ _ _ _ _ => True) (Sys.init sampleSite.db sampleSite.next fun i => (sampleRace i).answered sampleDeployment) t ∧
      ¬ t.committed.SingleUse := by
  refine ⟨sampleSite_chained, sampleSite_sound.fresh, ?_⟩
  have hrun : (((Sys.init sampleSite.db sampleSite.next fun i => (sampleRace i).answered sampleDeployment).exec
      (List.map .run (List.replicate 9 0 ++ [1, 2] ++ List.replicate 8 1 ++ List.replicate 8 2))).bind fun t =>
        (t.committed.sessions.get? 3).bind fun second => (t.committed.sessions.get? 4).map fun third =>
          decide (second.rotatedFrom = some 2 ∧ third.rotatedFrom = some 2)) = some true := by
    decide +kernel
  obtain ⟨t, hexec, hrun⟩ := Option.bind_eq_some_iff.mp hrun
  obtain ⟨second, hsecond, hrun⟩ := Option.bind_eq_some_iff.mp hrun
  obtain ⟨third, hthird, hfacts⟩ := Option.map_eq_some_iff.mp hrun
  obtain ⟨hsecondFrom, hthirdFrom⟩ := of_decide_eq_true hfacts
  refine ⟨t, Reaches.refl.exec hexec, fun hsingle => ?_⟩
  have heq := hsingle.successor 2 3 4 ⟨second, hsecond, hsecondFrom⟩ ⟨third, hthird, hthirdFrom⟩
  cases heq

end NovaCommerce.Identity
