import NovaCommerce.Lib.Interleaving

/-!
# Savepoints, and programs on a part of the database

* `Part`, `Sql.on` : a program over a part of the database, run on the whole of it (`run_on`);
* `Sql.attempt` : a program behind a savepoint. Its writes are kept back where it ends in a value, and dropped where it
  raises (`run_attempt`);
* `Quiet` : a program that reads, locks and draws ids. An attempt is quiet on its session (`quiet_attempt`,
  `Discipline.wp_answer_quiet`).
-/

namespace Sql

variable {W K D L ε δ α β : Type}

/-! ## A part of the database -/

/-- The part `W` of a database `D`, with its row locks. -/
structure Part (W K D L : Type) where
  get : D → W
  modify : (W → W) → D → D
  row : K → L
  get_modify : ∀ f d, get (modify f d) = f (get d)

/-- The same statements on the whole database. -/
def on (part : Part W K D L) (raised : δ → ε) : Sql W K δ α → Sql D L ε α
  | .ret a => .ret a
  | .fail x => .fail (raised x)
  | .read k => .read fun d => (k (part.get d)).on part raised
  | .acquire rows k => .acquire (fun d => (rows (part.get d)).map part.row) fun d => (k (part.get d)).on part raised
  | .write f k => .write (part.modify f) (k.on part raised)
  | .alloc k => .alloc fun i => (k i).on part raised
  | .commit k => .commit (k.on part raised)
  | .rollback k => .rollback (k.on part raised)

/-- What a session alone sees of the part. -/
def Part.exec (part : Part W K D L) (e : Exec D) : Exec W := ⟨part.get e.committed, part.get e.view, e.next⟩

/-- A program answers on the whole database what it answers on its part. -/
theorem run_on (part : Part W K D L) (raised : δ → ε) (p : Sql W K δ α) (e : Exec D) :
    ((p.on part raised).run e).1 = (p.run (part.exec e)).1.mapError raised ∧
      part.exec ((p.on part raised).run e).2 = (p.run (part.exec e)).2 := by
  induction p generalizing e with
  | ret a => exact ⟨rfl, rfl⟩
  | fail x => exact ⟨rfl, rfl⟩
  | read k ih => exact ih _ e
  | acquire rows k ih => exact ih _ e
  | write f k ih =>
    have hexec : part.exec { e with view := part.modify f e.view } = { part.exec e with view := f (part.exec e).view } := by
      unfold Part.exec
      rw [part.get_modify]
    have hnext := ih { e with view := part.modify f e.view }
    rw [hexec] at hnext
    exact hnext
  | alloc k ih => exact ih e.next { e with next := e.next + 1 }
  | commit k ih => exact ih { e with committed := e.view }
  | rollback k ih => exact ih { e with view := e.committed }

/-! ## Savepoints -/

/-- The program neither commits nor rolls back. -/
def Plain : Sql D L ε α → Prop
  | .ret _ => True
  | .fail _ => True
  | .read k => ∀ d, (k d).Plain
  | .acquire _ k => ∀ d, (k d).Plain
  | .write _ k => k.Plain
  | .alloc k => ∀ i, (k i).Plain
  | .commit _ => False
  | .rollback _ => False

/-- Run a plain program behind a savepoint: it sees its own writes `w`, which are handed on where it ends in a value,
and are lost where it raises. -/
def attempt (w : D → D) : Sql D L δ α → Sql D L ε (Except δ (α × (D → D)))
  | .ret a => .ret (.ok (a, w))
  | .fail x => .ret (.error x)
  | .read k => .read fun d => (k (w d)).attempt w
  | .acquire rows k => .acquire (fun d => rows (w d)) fun d => (k (w d)).attempt w
  | .write f k => k.attempt (f ∘ w)
  | .alloc k => .alloc fun i => (k i).attempt w
  | .commit k => k.attempt w
  | .rollback k => k.attempt w

/-- What a session sees that has written `w`. -/
def Exec.after (w : D → D) (e : Exec D) : Exec D := { e with view := w e.view }

/-- An attempt answers what the program answers, and keeps back what it writes. -/
theorem run_attempt {p : Sql D L δ α} (hp : p.Plain) (w : D → D) (e : Exec D) :
    ∃ r e', (p.attempt w : Sql D L ε _).run e = (.ok r, e') ∧ e' = { e with next := (p.run (e.after w)).2.next } ∧
      r.map Prod.fst = (p.run (e.after w)).1 ∧
      ∀ a w', r = .ok (a, w') → w' e.view = (p.run (e.after w)).2.view := by
  induction p generalizing w e with
  | ret a =>
    refine ⟨_, e, rfl, rfl, rfl, fun a' w' h => ?_⟩
    cases h
    rfl
  | fail x =>
    refine ⟨_, e, rfl, rfl, rfl, fun a' w' h => ?_⟩
    cases h
  | read k ih => exact ih (w e.view) (hp _) w e
  | acquire rows k ih => exact ih (w e.view) (hp _) w e
  | write f k ih => exact ih hp (f ∘ w) e
  | alloc k ih => exact ih e.next (hp _) w { e with next := e.next + 1 }
  | commit k ih => exact hp.elim
  | rollback k ih => exact hp.elim

/-! ## Quiet programs -/

/-- The program reads, locks and draws ids, and raises nothing. -/
def Quiet : Sql D L ε α → Prop
  | .ret _ => True
  | .fail _ => False
  | .read k => ∀ d, (k d).Quiet
  | .acquire _ k => ∀ d, (k d).Quiet
  | .write _ _ => False
  | .alloc k => ∀ i, (k i).Quiet
  | .commit _ => False
  | .rollback _ => False

/-- A quiet program ends in a value, and leaves its session as it was. -/
theorem run_quiet {p : Sql D L ε α} (hp : p.Quiet) (e : Exec D) : ∃ a n, p.run e = (.ok a, { e with next := n }) := by
  induction p generalizing e with
  | ret a => exact ⟨a, e.next, rfl⟩
  | fail x => exact hp.elim
  | read k ih => exact ih e.view (hp _) e
  | acquire rows k ih => exact ih e.view (hp _) e
  | write f k => exact hp.elim
  | alloc k ih => exact ih e.next (hp _) { e with next := e.next + 1 }
  | commit k => exact hp.elim
  | rollback k => exact hp.elim

/-- A program that reads leaves its session as it was. -/
theorem run_readsOnly {p : Sql D L ε α} (hp : p.ReadsOnly) (e : Exec D) : (p.run e).2 = e := by
  induction p with
  | ret a => rfl
  | fail x => rfl
  | read k ih => exact ih e.view (hp _)
  | acquire rows k => exact hp.elim
  | write f k => exact hp.elim
  | alloc k => exact hp.elim
  | commit k => exact hp.elim
  | rollback k => exact hp.elim

theorem quiet_attempt {p : Sql D L δ α} (hp : p.Plain) (w : D → D) : (p.attempt w : Sql D L ε _).Quiet := by
  induction p generalizing w with
  | ret a => trivial
  | fail x => trivial
  | read k ih => exact fun d => ih _ (hp _) w
  | acquire rows k ih => exact fun d => ih _ (hp _) w
  | write f k ih => exact ih hp (f ∘ w)
  | alloc k ih => exact fun i => ih i (hp i) w
  | commit k ih => exact hp.elim
  | rollback k ih => exact hp.elim

theorem Quiet.on {p : Sql W K δ α} (hp : p.Quiet) (part : Part W K D L) (raised : δ → ε) : (p.on part raised).Quiet := by
  induction p with
  | ret a => trivial
  | fail x => exact hp
  | read k ih => exact fun d => ih _ (hp _)
  | acquire rows k ih => exact fun d => ih _ (hp _)
  | write f k => exact hp
  | alloc k ih => exact fun i => ih i (hp i)
  | commit k => exact hp
  | rollback k => exact hp

theorem ReadsOnly.on {p : Sql W K δ α} (hp : p.ReadsOnly) (part : Part W K D L) (raised : δ → ε) :
    (p.on part raised).ReadsOnly := by
  induction p with
  | ret a => trivial
  | fail x => trivial
  | read k ih => exact fun d => ih _ (hp _)
  | acquire rows k => exact hp
  | write f k => exact hp
  | alloc k => exact hp
  | commit k => exact hp
  | rollback k => exact hp

namespace Discipline

variable {P : Discipline D L} {J : D → Prop} {ok : Admits D L ε (Except ε β)}
  {Q : Except ε β → (Lock L → Prop) → (D → D) → D → Prop} {h : Lock L → Prop} {pending : D → D} {base : D}

/-- A quiet program leaves its session with what it held, and more locks. -/
theorem wp_answer_quiet {p : Sql D L ε α} {f : α → Sql D L ε β} (hp : p.Quiet)
    (hnext : ∀ a h' d, (∀ l, h l → h' l) → P.rely h base d → P.Wp J ok Q (answer (f a)) h' pending d) :
    P.Wp J ok Q (answer (p >>= f)) h pending base := by
  show P.Wp J ok Q (answer (p.bind f)) h pending base
  induction p generalizing h base with
  | ret a => exact hnext a h base (fun _ hl => hl) (P.rely_refl h base)
  | fail x => exact hp.elim
  | read k ih =>
    intro d hrely _ _
    exact ih _ (hp _) fun a h' d' hh hrely' => hnext a h' d' hh (P.rely_trans hrely hrely')
  | acquire rows k ih =>
    intro d hrely _ _
    refine ih _ (hp _) fun a h' d' hh hrely' => hnext a h' d' (fun l hl => hh l (.inl hl)) ?_
    exact P.rely_trans hrely (P.rely_mono (fun l hl => .inl hl) hrely')
  | write g k => exact hp.elim
  | alloc k ih =>
    intro d i hrely _ _ _
    refine ih i (hp i) fun a h' d' hh hrely' => hnext a h' d' (fun l hl => hh l (.inl hl)) ?_
    exact P.rely_trans hrely (P.rely_mono (fun l hl => .inl hl) hrely')
  | commit k => exact hp.elim
  | rollback k => exact hp.elim

end Discipline

end Sql
