import Mathlib

/-!
# Programs of a database session

`Sql D L ε α` is the program of one session over a database `D` with row locks `L`: a sequence of
statements that reads, locks, writes, draws auto-increment ids, commits and rolls back, and that
ends in a value or an exception. Between statements a session keeps whatever it read, so a row that
was read before it was locked is a value the program still holds.

* `Sql.run` : the session alone, from `Exec` to `Exec`, with its equations for `do` blocks
  (`run_bind`, `run_query`, `run_lock`, ...);
* `Sql.runFor n` : the first `n` statements, then the session is lost;
* `Sql.NoCommit` : no statement commits;
* `Sql.Leaves` : what a session leaves wherever it is lost (`leaves_bind`, `leaves_transaction`);
* `Sql.Refuses` : what a session leaves that ends in an exception;
* `Sql.Raises`, `Sql.Returns` : what a session raises and what it answers, whatever it reads.
-/

/-- The program of one database session. -/
inductive Sql (D L ε α : Type) : Type where
  | ret (a : α)
  | fail (e : ε)
  | read (k : D → Sql D L ε α)
  | acquire (rows : D → List L) (k : D → Sql D L ε α)
  | write (f : D → D) (k : Sql D L ε α)
  | alloc (k : Nat → Sql D L ε α)
  | commit (k : Sql D L ε α)
  | rollback (k : Sql D L ε α)

namespace Sql

variable {D L ε α β γ : Type}

/-- Run `f` where `p` ends in a value. -/
def bind (p : Sql D L ε α) (f : α → Sql D L ε β) : Sql D L ε β :=
  match p with
  | .ret a => f a
  | .fail e => .fail e
  | .read k => .read fun d => (k d).bind f
  | .acquire rows k => .acquire rows fun d => (k d).bind f
  | .write g k => .write g (k.bind f)
  | .alloc k => .alloc fun i => (k i).bind f
  | .commit k => .commit (k.bind f)
  | .rollback k => .rollback (k.bind f)

instance : Monad (Sql D L ε) where
  pure := .ret
  bind := bind

/-- Run `h` where `p` raises. -/
def handle (p : Sql D L ε α) (h : ε → Sql D L ε α) : Sql D L ε α :=
  match p with
  | .ret a => .ret a
  | .fail e => h e
  | .read k => .read fun d => (k d).handle h
  | .acquire rows k => .acquire rows fun d => (k d).handle h
  | .write g k => .write g (k.handle h)
  | .alloc k => .alloc fun i => (k i).handle h
  | .commit k => .commit (k.handle h)
  | .rollback k => .rollback (k.handle h)

/-! ## Statements -/

/-- An unlocked `SELECT`. -/
def query (g : D → α) : Sql D L ε α := .read fun d => .ret (g d)

/-- A `SELECT ... FOR UPDATE` of the rows it names. -/
def lock (rows : D → List L) (g : D → α) : Sql D L ε α := .acquire rows fun d => .ret (g d)

/-- An `INSERT` or `UPDATE` that cannot violate a constraint. -/
def update (f : D → D) : Sql D L ε Unit := .write f (.ret ())

/-- Draw the next auto-increment id. -/
def newId : Sql D L ε Nat := .alloc .ret

def commitNow : Sql D L ε Unit := .commit (.ret ())

def rollbackNow : Sql D L ε Unit := .rollback (.ret ())

def raise (e : ε) : Sql D L ε α := .fail e

/-- Raise `e` when `c` holds. -/
def raiseIf (c : Prop) [Decidable c] (e : ε) : Sql D L ε Unit := if c then .fail e else .ret ()

/-- Unwrap an optional value, raising `e` when there is none. -/
def orRaise (x : Option α) (e : ε) : Sql D L ε α :=
  match x with
  | some a => .ret a
  | none => .fail e

/-- Unwrap a result, raising its exception. -/
def ofExcept : Except ε α → Sql D L ε α
  | .ok a => .ret a
  | .error x => .fail x

/-- Run a program and commit. -/
def transaction (p : Sql D L ε α) : Sql D L ε α := p.bind fun a => .commit (.ret a)

/-- Run a program for every element, front to back. -/
def forEach (f : α → Sql D L ε Unit) : List α → Sql D L ε Unit
  | [] => .ret ()
  | x :: xs => (f x).bind fun _ => forEach f xs

/-- The same statements without `FOR UPDATE`. -/
def unlocked : Sql D L ε α → Sql D L ε α
  | .ret a => .ret a
  | .fail e => .fail e
  | .read k => .read fun d => (k d).unlocked
  | .acquire _ k => .read fun d => (k d).unlocked
  | .write f k => .write f k.unlocked
  | .alloc k => .alloc fun i => (k i).unlocked
  | .commit k => .commit k.unlocked
  | .rollback k => .rollback k.unlocked

/-! ## A session alone -/

/-- The committed database, the session's view of it, and the next auto-increment id. -/
structure Exec (D : Type) where
  committed : D
  view : D
  next : Nat

/-- A session that begins on a committed database. -/
def Exec.start (d : D) (next : Nat) : Exec D := ⟨d, d, next⟩

/-- Run a session with no other session in between. -/
def run : Sql D L ε α → Exec D → Except ε α × Exec D
  | .ret a, e => (.ok a, e)
  | .fail x, e => (.error x, e)
  | .read k, e => (k e.view).run e
  | .acquire _ k, e => (k e.view).run e
  | .write f k, e => k.run { e with view := f e.view }
  | .alloc k, e => (k e.next).run { e with next := e.next + 1 }
  | .commit k, e => k.run { e with committed := e.view }
  | .rollback k, e => k.run { e with view := e.committed }

/-- Continue with `f` where a run ended in a value. -/
def andThen (r : Except ε α × Exec D) (f : α → Exec D → Except ε β × Exec D) :
    Except ε β × Exec D :=
  match r with
  | (.ok a, e) => f a e
  | (.error x, e) => (.error x, e)

@[simp] theorem andThen_ok (a : α) (e : Exec D) (f : α → Exec D → Except ε β × Exec D) :
    andThen (.ok a, e) f = f a e := rfl

@[simp] theorem andThen_error (x : ε) (e : Exec D) (f : α → Exec D → Except ε β × Exec D) :
    andThen (.error x, e) f = (.error x, e) := rfl

@[simp] theorem run_ret (a : α) (e : Exec D) : (ret a : Sql D L ε α).run e = (.ok a, e) := rfl

@[simp] theorem run_pure (a : α) (e : Exec D) : (pure a : Sql D L ε α).run e = (.ok a, e) := rfl

@[simp] theorem run_fail (x : ε) (e : Exec D) : (fail x : Sql D L ε α).run e = (.error x, e) := rfl

@[simp] theorem run_raise (x : ε) (e : Exec D) : (raise x : Sql D L ε α).run e = (.error x, e) := rfl

@[simp] theorem run_query (g : D → α) (e : Exec D) :
    (query g : Sql D L ε α).run e = (.ok (g e.view), e) := rfl

@[simp] theorem run_lock (rows : D → List L) (g : D → α) (e : Exec D) :
    (lock rows g : Sql D L ε α).run e = (.ok (g e.view), e) := rfl

@[simp] theorem run_update (f : D → D) (e : Exec D) :
    (update f : Sql D L ε Unit).run e = (.ok (), { e with view := f e.view }) := rfl

@[simp] theorem run_newId (e : Exec D) :
    (newId : Sql D L ε Nat).run e = (.ok e.next, { e with next := e.next + 1 }) := rfl

@[simp] theorem run_commitNow (e : Exec D) :
    (commitNow : Sql D L ε Unit).run e = (.ok (), { e with committed := e.view }) := rfl

@[simp] theorem run_rollbackNow (e : Exec D) :
    (rollbackNow : Sql D L ε Unit).run e = (.ok (), { e with view := e.committed }) := rfl

theorem run_raiseIf (c : Prop) [Decidable c] (x : ε) (e : Exec D) :
    (raiseIf c x : Sql D L ε Unit).run e = if c then (.error x, e) else (.ok (), e) := by
  unfold raiseIf
  split_ifs <;> rfl

theorem run_raiseIf_neg {c : Prop} [Decidable c] (h : ¬ c) (x : ε) (e : Exec D) :
    (raiseIf c x : Sql D L ε Unit).run e = (.ok (), e) := by
  rw [run_raiseIf, if_neg h]

theorem run_raiseIf_pos {c : Prop} [Decidable c] (h : c) (x : ε) (e : Exec D) :
    (raiseIf c x : Sql D L ε Unit).run e = (.error x, e) := by
  rw [run_raiseIf, if_pos h]

@[simp] theorem run_bind (p : Sql D L ε α) (f : α → Sql D L ε β) (e : Exec D) :
    (p >>= f).run e = andThen (p.run e) (fun a => (f a).run) := by
  show (p.bind f).run e = _
  induction p generalizing e with
  | ret a => rfl
  | fail x => rfl
  | read k ih => exact ih e.view e
  | acquire rows k ih => exact ih e.view e
  | write g k ih => exact ih _
  | alloc k ih => exact ih e.next _
  | commit k ih => exact ih _
  | rollback k ih => exact ih _

@[simp] theorem run_map (g : α → β) (p : Sql D L ε α) (e : Exec D) :
    (g <$> p).run e = andThen (p.run e) (fun a e => (.ok (g a), e)) := by
  show (p >>= fun a => pure (g a)).run e = _
  rw [run_bind]
  rfl

theorem andThen_eq_ok {r : Except ε α × Exec D} {f : α → Exec D → Except ε β × Exec D} {e' : Exec D}
    {b : β} : andThen r f = (.ok b, e') ↔ ∃ a e₁, r = (.ok a, e₁) ∧ f a e₁ = (.ok b, e') := by
  obtain ⟨_ | a, e₁⟩ := r <;> simp

/-- A run whose value is known. -/
theorem run_eq_ok_of_toOption {r : Except ε α × Exec D} {a : α} (h : r.1.toOption = some a) : r = (.ok a, r.2) := by
  obtain ⟨_ | b, e⟩ := r
  · cases h
  · cases h
    rfl

/-- A sequence ends in a value when both of its parts do. -/
theorem run_bind_eq_ok {p : Sql D L ε α} {f : α → Sql D L ε β} {e e' : Exec D} {b : β} :
    (p >>= f).run e = (.ok b, e') ↔ ∃ a e₁, p.run e = (.ok a, e₁) ∧ (f a).run e₁ = (.ok b, e') := by
  rw [run_bind, andThen_eq_ok]

theorem run_bind_eq_error {p : Sql D L ε α} {f : α → Sql D L ε β} {e e' : Exec D} {x : ε} :
    (p >>= f).run e = (.error x, e') ↔
      p.run e = (.error x, e') ∨ ∃ a e₁, p.run e = (.ok a, e₁) ∧ (f a).run e₁ = (.error x, e') := by
  rw [run_bind]
  rcases p.run e with ⟨r, e₁⟩
  cases r with
  | ok a => simp
  | error y => simp

theorem run_raiseIf_eq_ok {c : Prop} [Decidable c] {x : ε} {e e' : Exec D} {u : Unit} :
    (raiseIf c x : Sql D L ε Unit).run e = (.ok u, e') ↔ ¬ c ∧ e = e' := by
  rw [run_raiseIf]
  split_ifs with h <;> simp [h]

theorem run_orRaise_eq_ok {x : Option α} {y : ε} {e e' : Exec D} {a : α} :
    (orRaise x y : Sql D L ε α).run e = (.ok a, e') ↔ x = some a ∧ e = e' := by
  cases x <;> simp [orRaise]

theorem run_ofExcept (r : Except ε α) (e : Exec D) : (ofExcept r : Sql D L ε α).run e = (r, e) := by
  cases r with
  | ok a => rfl
  | error x => rfl

theorem run_ofExcept_eq_ok {r : Except ε α} {e e' : Exec D} {a : α} :
    (ofExcept r : Sql D L ε α).run e = (.ok a, e') ↔ r = .ok a ∧ e = e' := by
  cases r <;> simp [ofExcept]

theorem run_orRaise_some {x : Option α} {a : α} (h : x = some a) (y : ε) (e : Exec D) :
    (orRaise x y : Sql D L ε α).run e = (.ok a, e) := by
  rw [h]
  rfl

theorem run_transaction_eq_ok {p : Sql D L ε α} {e e' : Exec D} {a : α} :
    (transaction p).run e = (.ok a, e') ↔
      ∃ e₁, p.run e = (.ok a, e₁) ∧ e' = { e₁ with committed := e₁.view } := by
  show (p >>= fun a => Sql.commit (.ret a)).run e = _ ↔ _
  rw [run_bind_eq_ok]
  constructor
  · rintro ⟨b, e₁, hp, h⟩
    cases h
    exact ⟨e₁, hp, rfl⟩
  · rintro ⟨e₁, hp, rfl⟩
    exact ⟨a, e₁, hp, rfl⟩

theorem run_transaction_eq_error {p : Sql D L ε α} {e e' : Exec D} {x : ε} :
    (transaction p).run e = (.error x, e') ↔ p.run e = (.error x, e') := by
  show (p >>= fun a => Sql.commit (.ret a)).run e = _ ↔ _
  rw [run_bind_eq_error]
  constructor
  · rintro (hp | ⟨a, e₁, -, h⟩)
    · exact hp
    · cases h
  · exact .inl

theorem run_handle (p : Sql D L ε α) (h : ε → Sql D L ε α) (e : Exec D) :
    (p.handle h).run e = match p.run e with
      | (.ok a, e') => (.ok a, e')
      | (.error x, e') => (h x).run e' := by
  induction p generalizing e with
  | ret a => rfl
  | fail x => rfl
  | read k ih => exact ih e.view e
  | acquire rows k ih => exact ih e.view e
  | write g k ih => exact ih _
  | alloc k ih => exact ih e.next _
  | commit k ih => exact ih _
  | rollback k ih => exact ih _

/-- Locks do not change what a session alone reads. -/
@[simp] theorem run_unlocked (p : Sql D L ε α) (e : Exec D) : p.unlocked.run e = p.run e := by
  induction p generalizing e with
  | ret a => rfl
  | fail x => rfl
  | read k ih => exact ih e.view e
  | acquire rows k ih => exact ih e.view e
  | write g k ih => exact ih _
  | alloc k ih => exact ih e.next _
  | commit k ih => exact ih _
  | rollback k ih => exact ih _

@[simp] theorem run_forEach_nil (f : α → Sql D L ε Unit) (e : Exec D) :
    (forEach f []).run e = (.ok (), e) := rfl

@[simp] theorem run_forEach_cons (f : α → Sql D L ε Unit) (x : α) (xs : List α) (e : Exec D) :
    (forEach f (x :: xs)).run e = andThen ((f x).run e) (fun _ => (forEach f xs).run) :=
  run_bind (f x) (fun _ => forEach f xs) e

/-! ## What a session commits -/

/-- The first `n` statements of a session; what it did not commit by then is lost. -/
def runFor : Nat → Sql D L ε α → Exec D → Exec D
  | 0, _, e => e
  | _ + 1, .ret _, e => e
  | _ + 1, .fail _, e => e
  | n + 1, .read k, e => runFor n (k e.view) e
  | n + 1, .acquire _ k, e => runFor n (k e.view) e
  | n + 1, .write f k, e => runFor n k { e with view := f e.view }
  | n + 1, .alloc k, e => runFor n (k e.next) { e with next := e.next + 1 }
  | n + 1, .commit k, e => runFor n k { e with committed := e.view }
  | n + 1, .rollback k, e => runFor n k { e with view := e.committed }

/-- Ids are only drawn. -/
theorem le_runFor_next (n : Nat) (p : Sql D L ε α) (e : Exec D) : e.next ≤ (runFor n p e).next := by
  induction n generalizing p e with
  | zero => exact le_refl _
  | succ n ih =>
    cases p with
    | ret a => exact le_refl _
    | fail x => exact le_refl _
    | read k => exact ih _ _
    | acquire rows k => exact ih _ _
    | write f k => exact ih k { e with view := f e.view }
    | alloc k => exact (Nat.le_succ _).trans (ih (k e.next) { e with next := e.next + 1 })
    | commit k => exact ih k { e with committed := e.view }
    | rollback k => exact ih k { e with view := e.committed }

/-- A session that ends was lost behind its last statement. -/
theorem exists_runFor_eq (p : Sql D L ε α) (e : Exec D) : ∃ n, runFor n p e = (p.run e).2 := by
  induction p generalizing e with
  | ret a => exact ⟨0, rfl⟩
  | fail x => exact ⟨0, rfl⟩
  | read k ih =>
    obtain ⟨n, hn⟩ := ih e.view e
    exact ⟨n + 1, hn⟩
  | acquire rows k ih =>
    obtain ⟨n, hn⟩ := ih e.view e
    exact ⟨n + 1, hn⟩
  | write f k ih =>
    obtain ⟨n, hn⟩ := ih { e with view := f e.view }
    exact ⟨n + 1, hn⟩
  | alloc k ih =>
    obtain ⟨n, hn⟩ := ih e.next { e with next := e.next + 1 }
    exact ⟨n + 1, hn⟩
  | commit k ih =>
    obtain ⟨n, hn⟩ := ih { e with committed := e.view }
    exact ⟨n + 1, hn⟩
  | rollback k ih =>
    obtain ⟨n, hn⟩ := ih { e with view := e.committed }
    exact ⟨n + 1, hn⟩

theorem le_run_next (p : Sql D L ε α) (e : Exec D) : e.next ≤ (p.run e).2.next := by
  obtain ⟨n, hn⟩ := exists_runFor_eq p e
  rw [← hn]
  exact le_runFor_next n p e

/-! ## Programs without a commit -/

/-- No statement of the program commits. -/
def NoCommit : Sql D L ε α → Prop
  | .ret _ => True
  | .fail _ => True
  | .read k => ∀ d, (k d).NoCommit
  | .acquire _ k => ∀ d, (k d).NoCommit
  | .write _ k => k.NoCommit
  | .alloc k => ∀ i, (k i).NoCommit
  | .commit _ => False
  | .rollback k => k.NoCommit

@[simp, grind .] theorem noCommit_pure (a : α) : (pure a : Sql D L ε α).NoCommit := trivial

@[simp, grind .] theorem noCommit_ret (a : α) : (ret a : Sql D L ε α).NoCommit := trivial

@[simp, grind .] theorem noCommit_fail (x : ε) : (fail x : Sql D L ε α).NoCommit := trivial

@[simp, grind .] theorem noCommit_raise (x : ε) : (raise x : Sql D L ε α).NoCommit := trivial

@[simp, grind .] theorem noCommit_query (g : D → α) : (query g : Sql D L ε α).NoCommit := fun _ => trivial

@[simp, grind .] theorem noCommit_lock (rows : D → List L) (g : D → α) :
    (lock rows g : Sql D L ε α).NoCommit := fun _ => trivial

@[simp, grind .] theorem noCommit_update (f : D → D) : (update f : Sql D L ε Unit).NoCommit := trivial

@[simp, grind .] theorem noCommit_newId : (newId : Sql D L ε Nat).NoCommit := fun _ => trivial

@[simp, grind .] theorem noCommit_rollbackNow : (rollbackNow : Sql D L ε Unit).NoCommit := trivial

@[simp, grind .] theorem noCommit_raiseIf (c : Prop) [Decidable c] (x : ε) :
    (raiseIf c x : Sql D L ε Unit).NoCommit := by
  unfold raiseIf
  split_ifs <;> trivial

@[simp, grind .] theorem noCommit_orRaise (x : Option α) (e : ε) : (orRaise x e : Sql D L ε α).NoCommit := by
  cases x <;> trivial

@[simp, grind .] theorem noCommit_ofExcept (r : Except ε α) : (ofExcept r : Sql D L ε α).NoCommit := by
  cases r <;> trivial

@[grind .] theorem NoCommit.bind {p : Sql D L ε α} {f : α → Sql D L ε β} (hp : p.NoCommit)
    (hf : ∀ a, (f a).NoCommit) : (p >>= f).NoCommit := by
  show (p.bind f).NoCommit
  induction p with
  | ret a => exact hf a
  | fail x => trivial
  | read k ih => exact fun d => ih d (hp d)
  | acquire rows k ih => exact fun d => ih d (hp d)
  | write g k ih => exact ih hp
  | alloc k ih => exact fun i => ih i (hp i)
  | commit k ih => exact hp.elim
  | rollback k ih => exact ih hp

@[grind .] theorem NoCommit.forEach {f : α → Sql D L ε Unit} (hf : ∀ x, (f x).NoCommit) :
    ∀ xs : List α, (Sql.forEach f xs).NoCommit
  | [] => trivial
  | x :: xs => NoCommit.bind (hf x) fun _ => NoCommit.forEach hf xs

@[grind .] theorem NoCommit.map {p : Sql D L ε α} (hp : p.NoCommit) (g : α → β) : (g <$> p).NoCommit :=
  NoCommit.bind hp fun _ => trivial

/-- A program without a commit leaves the committed database. -/
theorem NoCommit.run_committed {p : Sql D L ε α} (hp : p.NoCommit) (e : Exec D) :
    (p.run e).2.committed = e.committed := by
  induction p generalizing e with
  | ret a => rfl
  | fail x => rfl
  | read k ih => exact ih e.view (hp e.view) e
  | acquire rows k ih => exact ih e.view (hp e.view) e
  | write g k ih => exact ih hp _
  | alloc k ih => exact ih e.next (hp e.next) _
  | commit k ih => exact hp.elim
  | rollback k ih => exact ih hp _

/-- A program without a commit leaves the committed database wherever it is lost. -/
theorem NoCommit.runFor_committed {p : Sql D L ε α} (hp : p.NoCommit) (n : Nat) (e : Exec D) :
    (runFor n p e).committed = e.committed := by
  induction p generalizing n e with
  | ret a => cases n <;> rfl
  | fail x => cases n <;> rfl
  | read k ih =>
    cases n with
    | zero => rfl
    | succ n => exact ih e.view (hp e.view) n e
  | acquire rows k ih =>
    cases n with
    | zero => rfl
    | succ n => exact ih e.view (hp e.view) n e
  | write g k ih =>
    cases n with
    | zero => rfl
    | succ n => exact ih hp n { e with view := g e.view }
  | alloc k ih =>
    cases n with
    | zero => rfl
    | succ n => exact ih e.next (hp e.next) n { e with next := e.next + 1 }
  | commit k ih => exact hp.elim
  | rollback k ih =>
    cases n with
    | zero => rfl
    | succ n => exact ih hp n { e with view := e.committed }

theorem bind_assoc {γ : Type} (p : Sql D L ε α) (f : α → Sql D L ε β) (g : β → Sql D L ε γ) :
    p >>= f >>= g = p >>= fun a => f a >>= g := by
  show (p.bind f).bind g = p.bind fun a => (f a).bind g
  induction p with
  | ret a => rfl
  | fail x => rfl
  | read k ih => exact congrArg Sql.read (funext ih)
  | acquire rows k ih => exact congrArg (Sql.acquire rows) (funext ih)
  | write g k ih => exact congrArg (Sql.write g) ih
  | alloc k ih => exact congrArg Sql.alloc (funext ih)
  | commit k ih => exact congrArg Sql.commit ih
  | rollback k ih => exact congrArg Sql.rollback ih

theorem transaction_bind (p : Sql D L ε α) (f : α → Sql D L ε β) : transaction (p >>= f) = p >>= fun a => transaction (f a) :=
  bind_assoc p f fun b => .commit (.ret b)

@[simp] theorem transaction_raise (x : ε) : (transaction (raise x) : Sql D L ε α) = raise x := rfl

/-- A session that is lost in a program without a commit leaves nothing; otherwise it goes on with
the continuation. -/
theorem runFor_bind {p : Sql D L ε α} (hp : p.NoCommit) (f : α → Sql D L ε β) (n : Nat) (e : Exec D) :
    (runFor n (p >>= f) e).committed = e.committed ∨
      ∃ a e' m, p.run e = (.ok a, e') ∧ runFor n (p >>= f) e = runFor m (f a) e' := by
  show (runFor n (p.bind f) e).committed = e.committed ∨
    ∃ a e' m, p.run e = (.ok a, e') ∧ runFor n (p.bind f) e = runFor m (f a) e'
  induction p generalizing n e with
  | ret a => exact .inr ⟨a, e, n, rfl, rfl⟩
  | fail x => exact .inl (by cases n <;> rfl)
  | read k ih =>
    cases n with
    | zero => exact .inl rfl
    | succ n => exact ih e.view (hp e.view) n e
  | acquire rows k ih =>
    cases n with
    | zero => exact .inl rfl
    | succ n => exact ih e.view (hp e.view) n e
  | write g k ih =>
    cases n with
    | zero => exact .inl rfl
    | succ n => exact ih hp n { e with view := g e.view }
  | alloc k ih =>
    cases n with
    | zero => exact .inl rfl
    | succ n => exact ih e.next (hp e.next) n { e with next := e.next + 1 }
  | commit k ih => exact hp.elim
  | rollback k ih =>
    cases n with
    | zero => exact .inl rfl
    | succ n => exact ih hp n { e with view := e.committed }

/-! ## What a lost session leaves -/

/-- Wherever the session is lost, it left nothing, or what `P` says of the ids it drew and of the
committed database. -/
def Leaves (p : Sql D L ε α) (e : Exec D) (P : Nat → D → Prop) : Prop :=
  ∀ n, (runFor n p e).committed = e.committed ∨
    ∃ next, next ≤ (runFor n p e).next ∧ P next (runFor n p e).committed

theorem Leaves.mono {p : Sql D L ε α} {e : Exec D} {P Q : Nat → D → Prop} (h : Leaves p e P)
    (hPQ : ∀ next d, P next d → Q next d) : Leaves p e Q :=
  fun n => (h n).imp id fun ⟨next, hle, hP⟩ => ⟨next, hle, hPQ next _ hP⟩

theorem NoCommit.leaves {p : Sql D L ε α} (hp : p.NoCommit) (e : Exec D) (P : Nat → D → Prop) :
    Leaves p e P :=
  fun n => .inl (hp.runFor_committed n e)

/-- Only the continuation of a program without a commit leaves something. -/
theorem leaves_bind {p : Sql D L ε α} (hp : p.NoCommit) {f : α → Sql D L ε β} {e : Exec D}
    {P : Nat → D → Prop}
    (h : ∀ a e', p.run e = (.ok a, e') → e'.committed = e.committed → Leaves (f a) e' P) :
    Leaves (p >>= f) e P := by
  intro n
  rcases runFor_bind hp f n e with hlost | ⟨a, e', m, hrun, heq⟩
  · exact .inl hlost
  · have hc : e'.committed = e.committed := by
      have hc := hp.run_committed e
      rwa [hrun] at hc
    rw [heq]
    exact (h a e' hrun hc m).imp (fun hm => hm.trans hc) id

/-- A commit leaves the session's view. -/
theorem leaves_commitNow_bind {q : Sql D L ε β} (hq : q.NoCommit) {e : Exec D} {P : Nat → D → Prop}
    (h : P e.next e.view) : Leaves (commitNow >>= fun _ => q) e P := by
  intro n
  cases n with
  | zero => exact .inl rfl
  | succ n =>
    refine .inr ⟨e.next, le_runFor_next (n + 1) (commitNow >>= fun _ => q) e, ?_⟩
    have hc := hq.runFor_committed n { e with committed := e.view }
    show P e.next (runFor n q { e with committed := e.view }).committed
    rw [hc]
    exact h

/-- The program ends behind every commit. -/
inductive LastCommit : Sql D L ε α → Prop where
  | ret (a : α) : LastCommit (.ret a)
  | fail (x : ε) : LastCommit (.fail x)
  | read {k : D → Sql D L ε α} (h : ∀ d, LastCommit (k d)) : LastCommit (.read k)
  | acquire {rows : D → List L} {k : D → Sql D L ε α} (h : ∀ d, LastCommit (k d)) : LastCommit (.acquire rows k)
  | write {f : D → D} {k : Sql D L ε α} (h : LastCommit k) : LastCommit (.write f k)
  | alloc {k : Nat → Sql D L ε α} (h : ∀ i, LastCommit (k i)) : LastCommit (.alloc k)
  | commit (a : α) : LastCommit (.commit (.ret a))
  | rollback {k : Sql D L ε α} (h : LastCommit k) : LastCommit (.rollback k)

theorem NoCommit.lastCommit {p : Sql D L ε α} (hp : p.NoCommit) : p.LastCommit := by
  induction p with
  | ret a => exact .ret a
  | fail x => exact .fail x
  | read k ih => exact .read fun d => ih d (hp d)
  | acquire rows k ih => exact .acquire fun d => ih d (hp d)
  | write g k ih => exact .write (ih hp)
  | alloc k ih => exact .alloc fun i => ih i (hp i)
  | commit k ih => exact hp.elim
  | rollback k ih => exact .rollback (ih hp)

theorem LastCommit.bind {p : Sql D L ε α} {f : α → Sql D L ε β} (hp : p.NoCommit)
    (hf : ∀ a, (f a).LastCommit) : (p >>= f).LastCommit := by
  show (p.bind f).LastCommit
  induction p with
  | ret a => exact hf a
  | fail x => exact .fail x
  | read k ih => exact .read fun d => ih d (hp d)
  | acquire rows k ih => exact .acquire fun d => ih d (hp d)
  | write g k ih => exact .write (ih hp)
  | alloc k ih => exact .alloc fun i => ih i (hp i)
  | commit k ih => exact hp.elim
  | rollback k ih => exact .rollback (ih hp)

theorem lastCommit_transaction {p : Sql D L ε α} (hp : p.NoCommit) : (transaction p).LastCommit :=
  LastCommit.bind (f := fun a => commit (.ret a)) hp .commit

/-- A program that ends behind its commit leaves nothing, or what it left where it ended in a value. -/
theorem LastCommit.leaves {p : Sql D L ε α} (hp : p.LastCommit) {e : Exec D} {P : Nat → D → Prop}
    (h : ∀ a e', p.run e = (.ok a, e') → e'.committed = e.committed ∨ P e'.next e'.committed) :
    Leaves p e P := by
  intro n
  induction hp generalizing n e with
  | ret a => cases n <;> exact .inl rfl
  | fail x => cases n <;> exact .inl rfl
  | read _ ih =>
    cases n with
    | zero => exact .inl rfl
    | succ n => exact ih e.view h n
  | acquire _ ih =>
    cases n with
    | zero => exact .inl rfl
    | succ n => exact ih e.view h n
  | @write f k _ ih =>
    cases n with
    | zero => exact .inl rfl
    | succ n => exact ih (e := { e with view := f e.view }) h n
  | alloc _ ih =>
    cases n with
    | zero => exact .inl rfl
    | succ n => exact ih e.next (e := { e with next := e.next + 1 }) h n
  | commit a =>
    cases n with
    | zero => exact .inl rfl
    | succ n =>
      have hend : runFor n (.ret a : Sql D L ε α) { e with committed := e.view } = { e with committed := e.view } := by
        cases n <;> rfl
      show (runFor n _ _).committed = _ ∨ ∃ next, next ≤ (runFor n _ _).next ∧ P next (runFor n _ _).committed
      rw [hend]
      exact (h a { e with committed := e.view } rfl).imp id fun hP => ⟨e.next, le_rfl, hP⟩
  | rollback _ ih =>
    cases n with
    | zero => exact .inl rfl
    | succ n => exact ih (e := { e with view := e.committed }) h n

/-- A transaction leaves nothing, or everything its program did. -/
theorem leaves_transaction {p : Sql D L ε α} (hp : p.NoCommit) {e : Exec D} {P : Nat → D → Prop}
    (h : ∀ a e', p.run e = (.ok a, e') → P e'.next e'.view) : Leaves (transaction p) e P :=
  leaves_bind (f := fun a => commitNow >>= fun _ => pure a) hp fun a e' hrun _ =>
    leaves_commitNow_bind (noCommit_pure a) (h a e' hrun)

/-- What follows a transaction without a commit adds nothing. -/
theorem leaves_transaction_bind {p : Sql D L ε α} (hp : p.NoCommit) {f : α → Sql D L ε β}
    (hf : ∀ a, (f a).NoCommit) {e : Exec D} {P : Nat → D → Prop}
    (h : ∀ a e', p.run e = (.ok a, e') → P e'.next e'.view) : Leaves (transaction p >>= f) e P := by
  have heq : transaction p >>= f = p >>= fun a => commitNow >>= fun _ => f a :=
    bind_assoc p (fun a => commitNow >>= fun _ => pure a) f
  rw [heq]
  exact leaves_bind hp fun a e' hrun _ => leaves_commitNow_bind (hf a) (h a e' hrun)

/-- A transaction whose handler does not commit leaves nothing, or everything its program did. -/
theorem leaves_handle {p : Sql D L ε α} (hp : p.NoCommit) {h : ε → Sql D L ε α} (hh : ∀ x, (h x).NoCommit)
    {e : Exec D} {P : Nat → D → Prop} (hP : ∀ a e', p.run e = (.ok a, e') → P e'.next e'.view) :
    Leaves ((transaction p).handle h) e P := by
  intro n
  show (runFor n ((p.bind fun a => .commit (.ret a)).handle h) e).committed = e.committed ∨
    ∃ next, next ≤ (runFor n ((p.bind fun a => .commit (.ret a)).handle h) e).next ∧
      P next (runFor n ((p.bind fun a => .commit (.ret a)).handle h) e).committed
  induction p generalizing n e with
  | ret a =>
    cases n with
    | zero => exact .inl rfl
    | succ n =>
      have hdone : runFor (n + 1) (((ret a : Sql D L ε α).bind fun a => .commit (.ret a)).handle h) e =
          { e with committed := e.view } := by
        cases n <;> rfl
      rw [hdone]
      exact .inr ⟨e.next, le_refl _, hP a e rfl⟩
  | fail x => exact .inl ((hh x).runFor_committed n e)
  | read k ih =>
    cases n with
    | zero => exact .inl rfl
    | succ n => exact ih e.view (hp e.view) hP n
  | acquire rows k ih =>
    cases n with
    | zero => exact .inl rfl
    | succ n => exact ih e.view (hp e.view) hP n
  | write g k ih =>
    cases n with
    | zero => exact .inl rfl
    | succ n => exact ih hp (e := { e with view := g e.view }) hP n
  | alloc k ih =>
    cases n with
    | zero => exact .inl rfl
    | succ n => exact ih e.next (hp e.next) (e := { e with next := e.next + 1 }) hP n
  | commit k ih => exact hp.elim
  | rollback k ih =>
    cases n with
    | zero => exact .inl rfl
    | succ n => exact ih hp (e := { e with view := e.committed }) hP n

/-! ## What a refused session leaves -/

/-- Where the session, alone, ends in an exception, the committed database is one of `P`. -/
def Refuses (p : Sql D L ε α) (e : Exec D) (P : D → Prop) : Prop :=
  ∀ x e', p.run e = (.error x, e') → P e'.committed

theorem Refuses.mono {p : Sql D L ε α} {e : Exec D} {P Q : D → Prop} (h : Refuses p e P)
    (hPQ : ∀ d, P d → Q d) : Refuses p e Q :=
  fun x e' hrun => hPQ _ (h x e' hrun)

theorem NoCommit.refuses {p : Sql D L ε α} (hp : p.NoCommit) (e : Exec D) :
    Refuses p e fun d => d = e.committed := by
  intro x e' hrun
  have hc := hp.run_committed e
  rwa [hrun] at hc

/-- A sequence is refused in its first part or in its second. -/
theorem refuses_bind {p : Sql D L ε α} {f : α → Sql D L ε β} {e : Exec D} {P : D → Prop} (hp : Refuses p e P)
    (hf : ∀ a e', p.run e = (.ok a, e') → Refuses (f a) e' P) : Refuses (p >>= f) e P := by
  intro x e' hrun
  rw [run_bind] at hrun
  cases h : p.run e with
  | mk r e₁ =>
    rw [h] at hrun
    cases r with
    | error y =>
      cases hrun
      exact hp x e' h
    | ok a => exact hf a e₁ h x e' hrun

/-- A transaction that is refused leaves what it found. -/
theorem refuses_transaction {p : Sql D L ε α} (hp : p.NoCommit) (e : Exec D) :
    Refuses (transaction p) e fun d => d = e.committed :=
  refuses_bind (hp.refuses e) fun _ _ _ _ _ hrun => nomatch hrun

/-- So does a transaction whose handler does not commit. -/
theorem refuses_handle {p : Sql D L ε α} (hp : p.NoCommit) {h : ε → Sql D L ε α} (hh : ∀ x, (h x).NoCommit)
    (e : Exec D) : Refuses ((transaction p).handle h) e fun d => d = e.committed := by
  intro x e' hrun
  rw [run_handle] at hrun
  cases hp' : (transaction p).run e with
  | mk r e₁ =>
    rw [hp'] at hrun
    cases r with
    | ok a => cases hrun
    | error y => rw [(hh y).refuses e₁ x e' hrun, refuses_transaction hp e y e₁ hp']

/-- Every exception of the program is one of `E`, whatever the program reads. -/
def Raises (E : ε → Prop) : Sql D L ε α → Prop
  | .ret _ => True
  | .fail x => E x
  | .read k => ∀ d, (k d).Raises E
  | .acquire _ k => ∀ d, (k d).Raises E
  | .write _ k => k.Raises E
  | .alloc k => ∀ i, (k i).Raises E
  | .commit k => k.Raises E
  | .rollback k => k.Raises E

section

variable {E : ε → Prop}

theorem Raises.bind {p : Sql D L ε α} {f : α → Sql D L ε β} (hp : p.Raises E) (hf : ∀ a, (f a).Raises E) :
    (p >>= f).Raises E := by
  show (p.bind f).Raises E
  induction p with
  | ret a => exact hf a
  | fail x => exact hp
  | read k ih => exact fun d => ih d (hp d)
  | acquire rows k ih => exact fun d => ih d (hp d)
  | write g k ih => exact ih hp
  | alloc k ih => exact fun i => ih i (hp i)
  | commit k ih => exact ih hp
  | rollback k ih => exact ih hp

theorem raises_ofExcept {r : Except ε α} (h : ∀ x, r = .error x → E x) : (ofExcept r : Sql D L ε α).Raises E := by
  cases r with
  | ok a => trivial
  | error x => exact h x rfl

theorem raises_orRaise (x : Option α) {y : ε} (hy : E y) : (orRaise x y : Sql D L ε α).Raises E := by
  cases x with
  | none => exact hy
  | some a => trivial

theorem raises_raiseIf (c : Prop) [Decidable c] {x : ε} (hx : E x) : (raiseIf c x : Sql D L ε Unit).Raises E := by
  unfold raiseIf
  split_ifs
  · exact hx
  · trivial

theorem Raises.run {p : Sql D L ε α} (hp : p.Raises E) {e e' : Exec D} {x : ε} (h : p.run e = (.error x, e')) : E x := by
  induction p generalizing e with
  | ret a => cases h
  | fail y =>
    cases h
    exact hp
  | read k ih => exact ih _ (hp _) h
  | acquire rows k ih => exact ih _ (hp _) h
  | write g k ih => exact ih hp h
  | alloc k ih => exact ih _ (hp _) h
  | commit k ih => exact ih hp h
  | rollback k ih => exact ih hp h

end

/-- Every answer of the program is one of `P`, whatever the program reads. -/
def Returns (P : α → Prop) : Sql D L ε α → Prop
  | .ret a => P a
  | .fail _ => True
  | .read k => ∀ d, (k d).Returns P
  | .acquire _ k => ∀ d, (k d).Returns P
  | .write _ k => k.Returns P
  | .alloc k => ∀ i, (k i).Returns P
  | .commit k => k.Returns P
  | .rollback k => k.Returns P

theorem Returns.bind {P : β → Prop} {p : Sql D L ε α} {f : α → Sql D L ε β} (hf : ∀ a, (f a).Returns P) :
    (p >>= f).Returns P := by
  show (p.bind f).Returns P
  induction p with
  | ret a => exact hf a
  | fail x => trivial
  | read k ih => exact fun d => ih d
  | acquire rows k ih => exact fun d => ih d
  | write g k ih => exact ih
  | alloc k ih => exact fun i => ih i
  | commit k ih => exact ih
  | rollback k ih => exact ih

theorem Returns.run {P : α → Prop} {p : Sql D L ε α} (hp : p.Returns P) {e e' : Exec D} {a : α}
    (h : p.run e = (.ok a, e')) : P a := by
  induction p generalizing e with
  | ret a =>
    cases h
    exact hp
  | fail x => cases h
  | read k ih => exact ih _ (hp _) h
  | acquire rows k ih => exact ih _ (hp _) h
  | write g k ih => exact ih hp h
  | alloc k ih => exact ih _ (hp _) h
  | commit k ih => exact ih hp h
  | rollback k ih => exact ih hp h

end Sql
