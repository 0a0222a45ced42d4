import NovaCommerce.Identity.Reach

/-!
# Reissues within the grace window

A token that was rotated a moment ago is exchanged for a successor of the tip of its family. The walk to the tip follows live
sessions only.

* `Db.ChainTo` : a family that is one chain, with its live tip;
* `tip_of_predecessor`, `tip_of_older` : the walk finds the tip from the session right before it, and stays where it is otherwise;
* `unforked_prolonged_iff` : one more session forks a chain unless it succeeds the end of it;
* `reissue_extends_tip_iff` : the token of the session right before the tip prolongs the chain, an older one forks it.
-/

namespace NovaCommerce.Identity

open Sql

/-- No session of the family has two successors. -/
def Db.Unforked (d : Db) (root : Nat) : Prop :=
  ∀ p i j, d.Family root p → d.RotatedInto p i → d.RotatedInto p j → i = j

/-- The family of `t` is one chain that ends with `t`: it alone is live, the others were rotated. -/
structure Db.ChainTo (d : Db) (t : Nat) : Prop where
  live : ∃ s, d.sessions.get? t = some s ∧ s.Live
  last : ∀ j, ¬ d.RotatedInto t j
  rotated : ∀ j s, d.Family t j → j ≠ t → d.sessions.get? j = some s → ¬ s.Live ∧ s.revokedReason = some .rotated
  unforked : d.Unforked t

/-! ## The walk to the tip -/

theorem mem_liveSuccessors {d : Db} {id i : Nat} {s : AuthSession} :
    (i, s) ∈ d.liveSuccessors id ↔ d.sessions.get? i = some s ∧ s.rotatedFrom = some id ∧ s.Live := by
  unfold Db.liveSuccessors
  rw [List.mem_insertionSort, Dict.mem_select, decide_eq_true_eq]

theorem liveSuccessors_eq_nil {d : Db} {id : Nat} (h : ∀ i s, d.sessions.get? i = some s → s.rotatedFrom = some id →
    ¬ s.Live) :
    d.liveSuccessors id = [] := by
  refine List.eq_nil_iff_forall_not_mem.mpr fun ⟨i, s⟩ hmem => ?_
  obtain ⟨hs, hfrom, hlive⟩ := mem_liveSuccessors.mp hmem
  exact h i s hs hfrom hlive

/-- Without a live successor the walk is over. -/
theorem tip_of_end {d : Db} {current : Nat × AuthSession} (h : d.liveSuccessors current.1 = []) : ∀ depth,
    d.tip depth current = current
  | 0 => rfl
  | depth + 1 => by
    unfold Db.tip
    rw [h]

theorem tip_of_predecessor {d : Db} {t id : Nat} (chain : d.ChainTo t) (hinto : d.RotatedInto id t)
    (held : AuthSession) :
    ∃ s, d.tip maxRotationChainDepth (id, held) = (t, s) := by
  obtain ⟨s, hs, hlive⟩ := chain.live
  have hfamily : d.Family t id := .symm _ _ (.rel _ _ hinto)
  have honly : ∀ e ∈ d.liveSuccessors id, e = (t, s) := by
    rintro ⟨i, row⟩ hmem
    obtain ⟨hrow, hfrom, -⟩ := mem_liveSuccessors.mp hmem
    obtain rfl : i = t := chain.unforked id i t hfamily ⟨row, hrow, hfrom⟩ hinto
    rw [hs] at hrow
    cases hrow
    rfl
  have hend : d.liveSuccessors t = [] := liveSuccessors_eq_nil fun i row hrow hfrom _ =>
    chain.last i ⟨row, hrow, hfrom⟩
  refine ⟨s, ?_⟩
  show d.tip (49 + 1) (id, held) = (t, s)
  unfold Db.tip
  cases hsuccessors : d.liveSuccessors id with
  | nil =>
    obtain ⟨s', hs', hfrom⟩ := hinto
    rw [hs] at hs'
    cases hs'
    have hmem := mem_liveSuccessors.mpr ⟨hs, hfrom, hlive⟩
    rw [hsuccessors] at hmem
    exact absurd hmem List.not_mem_nil
  | cons successor rest =>
    have hfirst : successor = (t, s) := honly successor (hsuccessors ▸ List.mem_cons_self)
    rw [hfirst]
    exact tip_of_end hend 49

/-- From an older session, the next one was rotated as well, and the walk does not pass it. -/
theorem tip_of_older {d : Db} {t id : Nat} (chain : d.ChainTo t) (hfamily : d.Family t id)
    (hnot : ¬ d.RotatedInto id t)
    (held : AuthSession) : d.tip maxRotationChainDepth (id, held) = (id, held) := by
  refine tip_of_end (liveSuccessors_eq_nil fun i s hs hfrom => ?_) _
  have hinto : d.RotatedInto id i := ⟨s, hs, hfrom⟩
  have hne : i ≠ t := by
    rintro rfl
    exact hnot hinto
  exact (chain.rotated i s (.trans _ _ _ hfamily (.rel _ _ hinto)) hne hs).1

/-- A rotated session of the chain was rotated into one. -/
theorem Db.ChainTo.rotatedInto {d : Db} {t id : Nat} (chain : d.ChainTo t) (hfamily : d.Family t id) (hne : id ≠ t) :
    ∃ j, d.RotatedInto id j := by
  have hlinear : Chain.Linear fun p i => d.Family t p ∧ d.RotatedInto p i :=
    { succ := fun p i j hi hj => chain.unforked p i j hi.1 hi.2 hj.2
      pred := fun p q i hp hq => rotatedInto_unique hp.2 hq.2 }
  -- within the family, the links are those of the chain
  have hwithin : ∀ {a b}, d.Family a b → d.Family t a → Relation.EqvGen (fun p i => d.Family t p ∧
    d.RotatedInto p i) a b := by
    intro a b hab
    induction hab with
    | rel a b hinto => exact fun ha => .rel _ _ ⟨ha, hinto⟩
    | refl a => exact fun _ => .refl _
    | symm a b hab ih => exact fun hb => .symm _ _ (ih (.trans _ _ _ hb (.symm _ _ hab)))
    | trans a b c hab _ ih ih' => exact fun ha => .trans _ _ _ (ih ha) (ih' (.trans _ _ _ ha hab))
  by_contra hnone
  refine hne (hlinear.end_unique (hwithin hfamily (.refl _)) (fun j hj => chain.last j hj.2) fun j hj => ?_).symm
  exact hnone ⟨j, hj.2⟩

/-! ## One more session -/

theorem unforked_rests {d d' : Db} (h : d.Rests d') (root : Nat) : d'.Unforked root ↔ d.Unforked root := by
  unfold Db.Unforked
  simp only [family_rests h, rotatedInto_rests h]

/-- One more session of an unforked family forks it, unless it succeeds a session that had no successor. -/
theorem unforked_prolonged_iff {d d' : Db} (rooted : d.Rooted) {root p i : Nat} {s : AuthSession}
    (hnone : d.sessions.get? i = none)
    (hroot : d.sessions.get? root ≠ none) (hrow : d.sessions.get? p ≠ none) (hfamily : d.Family root p)
    (hfrom : s.rotatedFrom = some p) (hset : d'.sessions = d.sessions.set i s) (unforked : d.Unforked root) :
    d'.Unforked root ↔ ∀ j, ¬ d.RotatedInto p j := by
  have hinto := rotatedInto_set hnone hset
  have hmono : ∀ {a b}, d.Family a b → d'.Family a b := fun hab => hab.mono fun q j hq => (hinto q j).mpr (.inl hq)
  constructor
  · intro hunforked j hj
    have heq := hunforked p j i (hmono hfamily) ((hinto p j).mpr (.inl hj)) ((hinto p i).mpr (.inr ⟨rfl, hfrom⟩))
    subst heq
    exact (rooted.unlinked hnone p).2 hj
  · intro hend q j k hq hj hk
    have hnew : ∀ l, d'.RotatedInto q l → d.RotatedInto q l ∨ (l = i ∧ q = p) := by
      intro l hl
      refine ((hinto q l).mp hl).imp id fun h => ⟨h.1, ?_⟩
      rw [hfrom] at h
      exact (Option.some.inj h.2).symm
    have hold : ∀ l, d.RotatedInto q l → d.Family root q := by
      intro l hl
      have hq' : q ≠ i := by
        rintro rfl
        exact (rooted.unlinked hnone l).1 hl
      have hroot' : root ≠ i := fun heq => hroot (heq ▸ hnone)
      have hfold := family_succeeded rooted hnone hrow hfrom hset hq
      rwa [if_neg hroot', if_neg hq'] at hfold
    rcases hnew j hj with hj | ⟨rfl, rfl⟩
    · rcases hnew k hk with hk | ⟨-, rfl⟩
      · exact unforked q j k (hold j hj) hj hk
      · exact absurd hj (hend j)
    · rcases hnew k hk with hk | ⟨rfl, -⟩
      · exact absurd hk (hend k)
      · rfl

theorem rests_touched (d : Db) (id tipId : Nat) (now : Time) : d.Rests (d.touched id tipId now) := by
  unfold Db.touched
  split_ifs
  · exact rests_modify d tipId fun s => ⟨rfl, fun hrevoked => hrevoked⟩
  · exact rests_refl d

/-! ## The reissue -/

/-- A rotated session of such a chain is a double submit within the grace window. -/
theorem Db.ChainTo.tolerated {d : Db} {t id : Nat} {held : AuthSession} {now : Time} (chain : d.ChainTo t)
    (hrow : d.sessions.get? id = some held) (hfamily : d.Family t id) (hne : id ≠ t)
    (recent : ∃ at_ ∈ held.revokedAt, now ≤ at_ + reuseGraceSeconds * 1000) : d.Tolerated id held now where
  rotated := (chain.rotated id held hfamily hne hrow).2
  family := by
    refine List.all_eq_true.mpr fun s hs => decide_eq_true ?_
    obtain ⟨hs, hrevoked⟩ := List.mem_filter.mp hs
    obtain ⟨j, hj, hget⟩ := List.mem_filterMap.mp hs
    have hmember : d.Family t j := .trans _ _ _ hfamily (familyIds_family hrow j hj)
    by_cases hj' : j = t
    · subst hj'
      obtain ⟨s', hs', hlive⟩ := chain.live
      rw [hget] at hs'
      cases hs'
      exact absurd hlive (of_decide_eq_true hrevoked)
    · exact (chain.rotated j s hmember hj' hget).2
  recent := recent

/-- Within the grace window, the token of an older session of a chain is exchanged for a successor of the tip exactly if the tip is
the successor of that session. Otherwise the new session is a second successor of it. -/
theorem reissue_extends_tip_iff {env : Deployment} {presented : String} {client : Client} {draws : Draws}
    {now : Time} {e e' : Exec Db}
    {t id : Nat} {held : AuthSession} {issued : IssuedSession} (rooted : e.view.Rooted)
    (fresh : e.view.FreshFrom e.next)
    (chain : e.view.ChainTo t) (found : e.view.sessionByRefreshHash (hashRefreshToken env presented) = some
    (id, held))
    (hfamily : e.view.Family t id) (hne : id ≠ t) (recent : ∃ at_ ∈ held.revokedAt,
      now ≤ at_ + reuseGraceSeconds * 1000)
    (minted : (rotate env presented client draws now).run e = (.ok issued, e')) :
    ((issued.session.rotatedFrom = some t ∧ e'.view.Unforked t) ↔ e.view.RotatedInto id t) ∧
      (¬ e.view.RotatedInto id t → issued.session.rotatedFrom = some id ∧ ¬ e'.view.Unforked t) := by
  have hrow := (sessionByRefreshHash_some found).1
  obtain ⟨id', held', found', hcase⟩ := rotate_eq_ok minted
  rw [found] at found'
  cases found'
  have hreissue : Reissued env id client draws now (e.view.tip maxRotationChainDepth (id, held)) e e' issued := by
    rcases hcase with ⟨-, hrotatable, -⟩ | ⟨-, hreuse⟩
    · exact absurd hrotatable.live (chain.rotated id held hfamily hne hrow).1
    · rw [run_handleReuse_tolerated (chain.tolerated hrow hfamily hne recent)] at hreuse
      exact reissueFromChain_eq_ok hreuse
  have hnone := fresh e.next le_rfl
  obtain ⟨tipRow, htip, -⟩ := chain.live
  -- the new session is the one successor that the family gets
  have hprolonged : ∀ tip : Nat × AuthSession, e.view.tip maxRotationChainDepth (id, held) = tip →
    e.view.Family t tip.1 →
      e.view.sessions.get? tip.1 ≠ none →
      issued.session.rotatedFrom = some tip.1 ∧ (e'.view.Unforked t ↔ ∀ j, ¬ e.view.RotatedInto tip.1 j) := by
    rintro tip rfl hmember hpresent
    have hissued := hreissue.issued
    have hrests := rests_touched e.view id (e.view.tip maxRotationChainDepth (id, held)).1 now
    have hkept : ∀ i, e.view.sessions.get? i ≠ none →
        (e.view.touched id (e.view.tip maxRotationChainDepth (id, held)).1 now).sessions.get? i ≠ none := by
      intro i hi
      obtain ⟨s, hs⟩ := Option.ne_none_iff_exists'.mp hi
      obtain ⟨s', hs', -⟩ := hrests.kept i s hs
      exact ne_of_eq_of_ne hs' (Option.some_ne_none s')
    refine ⟨by rw [hissued.row]; rfl, ?_⟩
    rw [hissued.state, unforked_prolonged_iff (rooted.rests hrests) (hrests.absent hnone)
      (hkept t (ne_of_eq_of_ne htip (Option.some_ne_none _))) (hkept _ hpresent)
        ((family_rests hrests _ _).mpr hmember) rfl rfl
      ((unforked_rests hrests t).mpr chain.unforked)]
    simp only [rotatedInto_rests hrests]
  have hpresent : e.view.sessions.get? id ≠ none := ne_of_eq_of_ne hrow (Option.some_ne_none held)
  have holder : ¬ e.view.RotatedInto id t → issued.session.rotatedFrom = some id ∧ ¬ e'.view.Unforked t := by
    intro hnot
    obtain ⟨hfrom, hunforked⟩ := hprolonged (id, held) (tip_of_older chain hfamily hnot held) hfamily hpresent
    obtain ⟨j, hinto⟩ := chain.rotatedInto hfamily hne
    exact ⟨hfrom, fun h => hunforked.mp h j hinto⟩
  refine ⟨⟨fun hextends => ?_, fun hinto => ?_⟩, holder⟩
  · by_contra hnot
    exact hne (Option.some.inj ((holder hnot).1.symm.trans hextends.1))
  · obtain ⟨s, hwalk⟩ := tip_of_predecessor chain hinto held
    obtain ⟨hfrom, hunforked⟩ := hprolonged (t, s) hwalk (.refl _) (ne_of_eq_of_ne htip (Option.some_ne_none _))
    exact ⟨hfrom, hunforked.mpr chain.last⟩

/-! ## Samples -/

/-- A chain, by a look at every row. -/
theorem chainTo_of_entries {d : Db} {t : Nat} {s : AuthSession} (hs : d.sessions.get? t = some s) (hlive : s.Live)
    (hall : ∀ a ∈ d.sessions.entries, a.2.rotatedFrom ≠ some t ∧
      (a.1 ≠ t → ¬ a.2.Live ∧ a.2.revokedReason = some .rotated) ∧
      ∀ b ∈ d.sessions.entries, a.2.rotatedFrom = b.2.rotatedFrom → a.2.rotatedFrom ≠ none → a.1 = b.1) :
        d.ChainTo t where
  live := ⟨s, hs, hlive⟩
  last := by
    rintro j ⟨row, hrow, hfrom⟩
    exact (hall (j, row) (Dict.get?_eq_some.mp hrow)).1 hfrom
  rotated j row _ hj hrow := (hall (j, row) (Dict.get?_eq_some.mp hrow)).2.1 hj
  unforked := by
    rintro p i j - ⟨a, ha, hpa⟩ ⟨b, hb, hpb⟩
    refine (hall (i, a) (Dict.get?_eq_some.mp ha)).2.2 (j, b) (Dict.get?_eq_some.mp hb) (hpa.trans hpb.symm) ?_
    rw [hpa]
    exact Option.some_ne_none p

def sampleFourthToken : String := "Wd6YtKm1RvQz4XsLc9NbTe8HfJpUa3GoPx0iCqVy7EnMwSr2BkZlDjFu5ThAgIO_"

def sampleFourthDraws : Draws where
  refreshToken := sampleFourthToken
  jti := "Hs2NvKq8RwTz4XmLc6YbDe1JfUaGp0Ex"
  accessJti := "5kTx9WmLz3QvRn7HcYs1Ug"

def sampleFourthAccessToken : String :=
  "eyJhbGciOiJIUzI1NiIsInR5cCI6IkpXVCJ9.eyJzdWIiOiIxIiwianRpIjoiNWtUeDlXbUx6M1F2Um43SGNZczFVZyIsInNpZCI6IjE" ++
  "tSHMyTnZLcThSd1R6NFhtTGM2WWJEZTFKZlVhR3AwRXgiLCJpc3MiOiJub3ZhLWNvbW1lcmNlIiwiYXVkIjoibm92YS1jb21tZXJjZS1" ++
  "hcGkiLCJpYXQiOjE3NjcyMjkyMTAsIm5iZiI6MTc2NzIyOTIxMCwiZXhwIjoxNzY3MjMwMTEwLCJ0eXAiOiJhY2Nlc3MiLCJyb2xlcyI" ++
  "6W10sInBlcm1pc3Npb25zIjpbXSwiZGF0YV9zY29wZSI6IlNFTEYiLCJtZXJjaGFudF9pZCI6bnVsbCwidXNlcl90eXBlIjoiQ09OU1V" ++
  "NRVIifQ.iV0U-GfqDYY8dS2zic356ElnfkJ7TShoOklTWsW1xDg"

/-- The sample deployment, with what it computes for a fourth token. -/
def reissueDeployment : Deployment := { sampleDeployment with
  sha256Hex := fun text =>
    if text = sampleSecret ++ String.singleton (Char.ofNat 0) ++ sampleFourthToken then
      "8c0638dc462130f62acf0afc50da84fa10abc7cd48857387e46b85585094a0fa"
    else sampleDeployment.sha256Hex text
  jwtEncode := fun payload secret =>
    match payload.lookup "jti" with
    | some (.str jti) =>
      if jti = sampleFourthDraws.accessJti then sampleFourthAccessToken else sampleDeployment.jwtEncode payload secret
    | _ => "" }

/-- A login, two rotations five seconds apart; the first token is presented again within the grace window. -/
def twiceRotated : Site :=
  sampleSite.run reissueDeployment (sampleRotation ++
    [(.rotate sampleSecondToken sampleClient sampleThirdDraws (sampleMorning + 3605000), 100)])

theorem twiceRotated_rooted : twiceRotated.db.Rooted ∧ twiceRotated.db.FreshFrom twiceRotated.next := by
  refine run_preserves preserved_rooted reissueDeployment _ ?_ sampleSite_sound.fresh
  rintro p i ⟨s, hs, -⟩
  cases hs

/-- After one rotation, the first token is exchanged for a successor of the second session. -/
theorem reissue_extends_tip_sample : ∃ issued e',
    (rotate sampleDeployment sampleFirstToken sampleClient sampleThirdDraws (sampleMorning + 3605000)).run
        (Exec.start (sampleSite.run sampleDeployment sampleRotation).db
          (sampleSite.run sampleDeployment sampleRotation).next) =
      (.ok issued, e') ∧ issued.session.rotatedFrom = some 3 ∧ e'.view.Unforked 3 := by
  have hrun : (((rotate sampleDeployment sampleFirstToken sampleClient sampleThirdDraws (sampleMorning + 3605000)).run
        (Exec.start (sampleSite.run sampleDeployment sampleRotation).db
          (sampleSite.run sampleDeployment sampleRotation).next)).1.toOption.bind
      fun _ => ((sampleSite.run sampleDeployment sampleRotation).db.sessionByRefreshHash
        (hashRefreshToken sampleDeployment sampleFirstToken)).bind fun first =>
      ((sampleSite.run sampleDeployment sampleRotation).db.sessions.get? 3).map fun second => decide (first.1 = 2 ∧
        (∃ at_ ∈ first.2.revokedAt, sampleMorning + 3605000 ≤ at_ + reuseGraceSeconds * 1000) ∧ second.Live ∧
        second.rotatedFrom = some 2 ∧
        ∀ a ∈ (sampleSite.run sampleDeployment sampleRotation).db.sessions.entries, a.2.rotatedFrom ≠ some 3 ∧
          (a.1 ≠ 3 → ¬ a.2.Live ∧ a.2.revokedReason = some .rotated) ∧
          ∀ b ∈ (sampleSite.run sampleDeployment sampleRotation).db.sessions.entries,
            a.2.rotatedFrom = b.2.rotatedFrom → a.2.rotatedFrom ≠ none → a.1 = b.1)) = some true := by
    decide +kernel
  obtain ⟨issued, hissued, hrun⟩ := Option.bind_eq_some_iff.mp hrun
  obtain ⟨⟨id, first⟩, hfirst, hrun⟩ := Option.bind_eq_some_iff.mp hrun
  obtain ⟨second, hsecond, hfacts⟩ := Option.map_eq_some_iff.mp hrun
  obtain ⟨hid, hrecent, hlive, hfrom, hall⟩ := of_decide_eq_true hfacts
  obtain rfl : id = 2 := hid
  have hinto : (sampleSite.run sampleDeployment sampleRotation).db.RotatedInto 2 3 := ⟨second, hsecond, hfrom⟩
  have hminted := run_eq_ok_of_toOption hissued
  obtain ⟨hextends, -⟩ := reissue_extends_tip_iff
    (e := Exec.start (sampleSite.run sampleDeployment sampleRotation).db
    (sampleSite.run sampleDeployment sampleRotation).next)
    sampleRotation_rooted.1 sampleRotation_rooted.2 (chainTo_of_entries hsecond hlive hall) hfirst
      (.symm _ _ (.rel _ _ hinto)) (by decide)
    hrecent hminted
  exact ⟨issued, _, hminted, hextends.mpr hinto⟩

/-- After two rotations, the first token is exchanged for a second successor of the first session. -/
theorem reissue_forks : twiceRotated.db.Rooted ∧ twiceRotated.db.FreshFrom twiceRotated.next ∧
    twiceRotated.db.ChainTo 4 ∧
    ∃ held issued e', twiceRotated.db.sessionByRefreshHash (hashRefreshToken reissueDeployment sampleFirstToken) =
      some (2, held) ∧
      twiceRotated.db.Family 4 2 ∧
        (∃ at_ ∈ held.revokedAt, sampleMorning + 3610000 ≤ at_ + reuseGraceSeconds * 1000) ∧
      (rotate reissueDeployment sampleFirstToken sampleClient sampleFourthDraws (sampleMorning + 3610000)).run
          (Exec.start twiceRotated.db twiceRotated.next) = (.ok issued, e') ∧
      issued.session.rotatedFrom ≠ some 4 ∧ ¬ e'.view.Unforked 4 := by
  have hrun : (((rotate reissueDeployment sampleFirstToken sampleClient sampleFourthDraws
    (sampleMorning + 3610000)).run
        (Exec.start twiceRotated.db twiceRotated.next)).1.toOption.bind
      fun issued => (twiceRotated.db.sessionByRefreshHash (hashRefreshToken reissueDeployment sampleFirstToken)).bind
        fun first =>
      (twiceRotated.db.sessions.get? 3).bind fun second => (twiceRotated.db.sessions.get? 4).bind fun third =>
      let view := ((rotate reissueDeployment sampleFirstToken sampleClient sampleFourthDraws
        (sampleMorning + 3610000)).run
        (Exec.start twiceRotated.db twiceRotated.next)).2.view
      (view.sessions.get? 3).bind fun second' => (view.sessions.get? 4).bind fun third' =>
        (view.sessions.get? 5).map fun fourth' =>
        decide (first.1 = 2 ∧
          (∃ at_ ∈ first.2.revokedAt, sampleMorning + 3610000 ≤ at_ + reuseGraceSeconds * 1000) ∧ third.Live ∧
          second.rotatedFrom = some 2 ∧ third.rotatedFrom = some 3 ∧ issued.session.rotatedFrom = some 2 ∧
          second'.rotatedFrom = some 2 ∧ third'.rotatedFrom = some 3 ∧ fourth'.rotatedFrom = some 2 ∧
          ∀ a ∈ twiceRotated.db.sessions.entries, a.2.rotatedFrom ≠ some 4 ∧
            (a.1 ≠ 4 → ¬ a.2.Live ∧ a.2.revokedReason = some .rotated) ∧
            ∀ b ∈ twiceRotated.db.sessions.entries,
              a.2.rotatedFrom = b.2.rotatedFrom → a.2.rotatedFrom ≠ none → a.1 = b.1)) = some true := by
    decide +kernel
  obtain ⟨issued, hissued, hrun⟩ := Option.bind_eq_some_iff.mp hrun
  obtain ⟨⟨id, first⟩, hfirst, hrun⟩ := Option.bind_eq_some_iff.mp hrun
  obtain ⟨second, hsecond, hrun⟩ := Option.bind_eq_some_iff.mp hrun
  obtain ⟨third, hthird, hrun⟩ := Option.bind_eq_some_iff.mp hrun
  obtain ⟨second', hsecond', hrun⟩ := Option.bind_eq_some_iff.mp hrun
  obtain ⟨third', hthird', hrun⟩ := Option.bind_eq_some_iff.mp hrun
  obtain ⟨fourth', hfourth', hfacts⟩ := Option.map_eq_some_iff.mp hrun
  obtain ⟨hid, hrecent, hlive, hfrom, hfrom₃, hissuedFrom, hfrom', hfrom₃', hfrom₄', hall⟩ := of_decide_eq_true hfacts
  obtain rfl : id = 2 := hid
  have hfamily : twiceRotated.db.Family 4 2 :=
    .trans _ _ _ (.symm _ _ (.rel _ _ ⟨third, hthird, hfrom₃⟩)) (.symm _ _ (.rel _ _ ⟨second, hsecond, hfrom⟩))
  refine ⟨twiceRotated_rooted.1, twiceRotated_rooted.2, chainTo_of_entries hthird hlive hall, first, issued, _,
    hfirst, hfamily, hrecent,
    run_eq_ok_of_toOption hissued, ?_, fun hunforked => ?_⟩
  · rw [hissuedFrom]
    decide
  · have hmember : Db.Family _ 4 2 :=
      .trans _ _ _ (.symm _ _ (.rel _ _ ⟨third', hthird', hfrom₃'⟩))
        (.symm _ _ (.rel _ _ ⟨second', hsecond', hfrom'⟩))
    have heq := hunforked 2 3 5 hmember ⟨second', hsecond', hfrom'⟩ ⟨fourth', hfourth', hfrom₄'⟩
    cases heq

end NovaCommerce.Identity
