import NovaCommerce.Lib.Sql

/-!
# Interleaved sessions under READ COMMITTED row locks

* `Sys` : the committed database, the owner of every row lock, and any number of sessions;
  `Sys.step` runs one statement of one session, or loses a session;
* a session sees its own pending changes over the latest committed database (`Sys.view`), a locked
  row has one owner, and locks last until commit, rollback or the session's end;
* `handle_lock_bind` and its kin : a `try` goes into the statements of its body;
* `Discipline` : what a session may rely on while it holds locks;
* `Discipline.Wp`, `Discipline.Safe` : a program that keeps an invariant at every commit, whatever
  the other sessions commit in between (`wp_bind` for sequences); `reaches_good`, `reaches_post` :
  sessions with safe programs keep it in every reachable state.
-/

namespace Sql

variable {D L ε α : Type}

/-- What a session may own: a row it locked, or an id it drew. -/
inductive Lock (L : Type) where
  | row (l : L)
  | id (i : Nat)
  deriving DecidableEq

/-- A request: what its program raises is rolled back, and answered. -/
def answer : Sql D L ε α → Sql D L ε (Except ε α)
  | .ret a => .ret (.ok a)
  | .fail x => .rollback (.ret (.error x))
  | .read k => .read fun d => answer (k d)
  | .acquire rows k => .acquire rows fun d => answer (k d)
  | .write f k => .write f (answer k)
  | .alloc k => .alloc fun i => answer (k i)
  | .commit k => .commit (answer k)
  | .rollback k => .rollback (answer k)

theorem answer_bind {β : Type} (p : Sql D L ε α) (f : α → Sql D L ε β) :
    answer (p >>= f) = answer p >>= fun r => match r with
      | .ok a => answer (f a)
      | .error x => .ret (.error x) := by
  show answer (p.bind f) = (answer p).bind _
  induction p with
  | ret a => rfl
  | fail x => rfl
  | read k ih => exact congrArg Sql.read (funext ih)
  | acquire rows k ih => exact congrArg (Sql.acquire rows) (funext ih)
  | write g k ih => exact congrArg (Sql.write g) ih
  | alloc k ih => exact congrArg Sql.alloc (funext ih)
  | commit k ih => exact congrArg Sql.commit ih
  | rollback k ih => exact congrArg Sql.rollback ih

/-- The program does not commit, it writes what `W` allows, and it raises what `E` allows. -/
def Within (W : (D → D) → Prop) (E : ε → Prop) : Sql D L ε α → Prop
  | .ret _ => True
  | .fail x => E x
  | .read k => ∀ d, (k d).Within W E
  | .acquire _ k => ∀ d, (k d).Within W E
  | .write f k => W f ∧ k.Within W E
  | .alloc k => ∀ i, (k i).Within W E
  | .commit _ => False
  | .rollback k => k.Within W E

section Within

variable {β : Type} {W : (D → D) → Prop} {E : ε → Prop}

@[grind .] theorem within_pure (a : α) : (pure a : Sql D L ε α).Within W E := trivial

@[grind .] theorem within_query (g : D → α) : (query g : Sql D L ε α).Within W E := fun _ => trivial

@[grind .] theorem within_lock (rows : D → List L) (g : D → α) : (lock rows g : Sql D L ε α).Within W E := fun _ => trivial

@[grind .] theorem within_newId : (newId : Sql D L ε Nat).Within W E := fun _ => trivial

theorem within_update {f : D → D} (hf : W f) : (update f : Sql D L ε Unit).Within W E := ⟨hf, trivial⟩

theorem within_raise {x : ε} (hx : E x) : (raise x : Sql D L ε α).Within W E := hx

theorem within_raiseIf (c : Prop) [Decidable c] {x : ε} (hx : E x) : (raiseIf c x : Sql D L ε Unit).Within W E := by
  unfold raiseIf
  split_ifs
  · exact hx
  · trivial

theorem within_ofExcept {r : Except ε α} (hr : ∀ x, r = .error x → E x) : (ofExcept r : Sql D L ε α).Within W E := by
  cases r with
  | error x => exact hr x rfl
  | ok a => trivial

@[grind .] theorem Within.bind {p : Sql D L ε α} {f : α → Sql D L ε β} (hp : p.Within W E) (hf : ∀ a, (f a).Within W E) :
    (p >>= f).Within W E := by
  show (p.bind f).Within W E
  induction p with
  | ret a => exact hf a
  | fail x => exact hp
  | read k ih => exact fun d => ih d (hp d)
  | acquire rows k ih => exact fun d => ih d (hp d)
  | write g k ih => exact ⟨hp.1, ih hp.2⟩
  | alloc k ih => exact fun i => ih i (hp i)
  | commit k ih => exact hp.elim
  | rollback k ih => exact ih hp

end Within

/-- The program reads, and does nothing else. -/
def ReadsOnly : Sql D L ε α → Prop
  | .ret _ => True
  | .fail _ => True
  | .read k => ∀ d, (k d).ReadsOnly
  | _ => False

theorem readsOnly_pure (a : α) : (pure a : Sql D L ε α).ReadsOnly := trivial

theorem readsOnly_query (g : D → α) : (query g : Sql D L ε α).ReadsOnly := fun _ => trivial

theorem ReadsOnly.bind {β : Type} {p : Sql D L ε α} {f : α → Sql D L ε β} (hp : p.ReadsOnly) (hf : ∀ a, (f a).ReadsOnly) :
    (p >>= f).ReadsOnly := by
  show (p.bind f).ReadsOnly
  induction p with
  | ret a => exact hf a
  | fail x => trivial
  | read k ih => exact fun d => ih d (hp d)
  | acquire rows k => exact hp.elim
  | write g k => exact hp.elim
  | alloc k => exact hp.elim
  | commit k => exact hp.elim
  | rollback k => exact hp.elim

theorem ReadsOnly.within {W : (D → D) → Prop} {p : Sql D L ε α} (hp : p.ReadsOnly) : p.Within W fun _ => True := by
  induction p with
  | ret a => trivial
  | fail x => trivial
  | read k ih => exact fun d => ih d (hp d)
  | acquire rows k => exact hp.elim
  | write g k => exact hp.elim
  | alloc k => exact hp.elim
  | commit k => exact hp.elim
  | rollback k => exact hp.elim

theorem ofExcept_ok_bind {β : Type} (a : α) (f : α → Sql D L ε β) : (ofExcept (.ok a) >>= f) = f a := rfl

section handle

variable {β : Type} (r : ε → Sql D L ε β)

theorem handle_pure (b : β) : (pure b : Sql D L ε β).handle r = pure b := rfl

theorem handle_query_bind (g : D → α) (f : α → Sql D L ε β) : (query g >>= f).handle r = query g >>= fun a => (f a).handle r := rfl

theorem handle_lock_bind (rows : D → List L) (g : D → α) (f : α → Sql D L ε β) :
    (lock rows g >>= f).handle r = lock rows g >>= fun a => (f a).handle r := rfl

theorem handle_newId_bind (f : Nat → Sql D L ε β) : (newId >>= f).handle r = newId >>= fun i => (f i).handle r := rfl

theorem handle_update_bind (w : D → D) (f : Unit → Sql D L ε β) : (update w >>= f).handle r = update w >>= fun u => (f u).handle r := rfl

theorem handle_commitNow_bind (f : Unit → Sql D L ε β) : (commitNow >>= f).handle r = commitNow >>= fun u => (f u).handle r := rfl

theorem handle_raiseIf_bind (c : Prop) [Decidable c] (x : ε) (f : Unit → Sql D L ε β) :
    (raiseIf c x >>= f).handle r = if c then r x else (f ()).handle r := by
  unfold raiseIf
  split_ifs <;> rfl

end handle

/-- The value that a program has ended in. -/
def ended? : Sql D L ε α → Option α
  | .ret a => some a
  | _ => none

theorem ended?_eq_some {p : Sql D L ε α} {a : α} : p.ended? = some a ↔ p = .ret a := by
  cases p <;> simp [ended?]

/-- A session: what is left of its program, and its uncommitted changes. -/
structure Session (D L ε α : Type) where
  prog : Sql D L ε α
  pending : D → D

/-- The sessions over one database. -/
structure Sys (D L ε α : Type) where
  committed : D
  next : Nat
  owner : Lock L → Option Nat
  sessions : Nat → Session D L ε α

/-- One statement of a session, or the loss of a session. -/
inductive Action (ε : Type) where
  | run (i : Nat)
  | crash (i : Nat) (e : ε)

namespace Sys

/-- Every session before its first statement. -/
def init (d : D) (next : Nat) (progs : Nat → Sql D L ε α) : Sys D L ε α where
  committed := d
  next := next
  owner := fun _ => none
  sessions := fun i => { prog := progs i, pending := id }

/-- What session `i` reads. -/
def view (s : Sys D L ε α) (i : Nat) : D := (s.sessions i).pending s.committed

/-- Replace session `i`. -/
def put (s : Sys D L ε α) (i : Nat) (session : Session D L ε α) : Sys D L ε α :=
  { s with sessions := Function.update s.sessions i session }

/-- Give the locks `ls` to session `i`. -/
def take [DecidableEq L] (s : Sys D L ε α) (i : Nat) (ls : List (Lock L)) : Sys D L ε α :=
  { s with owner := fun l => if l ∈ ls then some i else s.owner l }

/-- Free every lock of session `i`. -/
def release (s : Sys D L ε α) (i : Nat) : Sys D L ε α :=
  { s with owner := fun l => if s.owner l = some i then none else s.owner l }

/-- End session `i` with a program that has no statement left. -/
def close (s : Sys D L ε α) (i : Nat) (p : Sql D L ε α) : Sys D L ε α :=
  (s.release i).put i { prog := p, pending := id }

/-- Run the next statement of session `i`; a session whose lock is taken waits. -/
def runStep [DecidableEq L] (s : Sys D L ε α) (i : Nat) : Option (Sys D L ε α) :=
  let pending := (s.sessions i).pending
  match (s.sessions i).prog with
  | .ret a => some (s.close i (.ret a))
  | .fail e => some (s.close i (.fail e))
  | .read k => some (s.put i { prog := k (s.view i), pending := pending })
  | .acquire rows k =>
    if ∀ l ∈ rows (s.view i), s.owner (.row l) = none ∨ s.owner (.row l) = some i then
      some ((s.take i ((rows (s.view i)).map .row)).put i { prog := k (s.view i), pending := pending })
    else none
  | .write f k => some (s.put i { prog := k, pending := f ∘ pending })
  | .alloc k =>
    some (({ s with next := s.next + 1 }.take i [.id s.next]).put i
      { prog := k s.next, pending := pending })
  | .commit k => some ({ s with committed := s.view i }.close i k)
  | .rollback k => some (s.close i k)

/-- One action of the system. -/
def step [DecidableEq L] (s : Sys D L ε α) : Action ε → Option (Sys D L ε α)
  | .run i => s.runStep i
  | .crash i e => some (s.close i (.fail e))

/-- Run a schedule. -/
def exec [DecidableEq L] (s : Sys D L ε α) : List (Action ε) → Option (Sys D L ε α)
  | [] => some s
  | a :: as => (s.step a).bind fun s' => s'.exec as

/-- The locks session `i` holds. -/
def held (s : Sys D L ε α) (i : Nat) (l : Lock L) : Prop := s.owner l = some i

end Sys

/-- What a statement is admitted by: the program that is left, the locks its session holds, the changes that are pending, and the
committed database. -/
abbrev Admits (D L ε α : Type) : Type := Sql D L ε α → (Lock L → Prop) → (D → D) → D → Prop

/-- The states reached by actions whose statements meet `ok`. -/
inductive Reaches [DecidableEq L] (ok : Nat → Admits D L ε α) (s₀ : Sys D L ε α) :
    Sys D L ε α → Prop where
  | refl : Reaches ok s₀ s₀
  | run {s t : Sys D L ε α} {i : Nat} (h : Reaches ok s₀ s)
      (hok : ok i (s.sessions i).prog (s.held i) (s.sessions i).pending s.committed) (step : s.runStep i = some t) : Reaches ok s₀ t
  | crash {s : Sys D L ε α} (h : Reaches ok s₀ s) (i : Nat) (e : ε) :
      Reaches ok s₀ (s.close i (.fail e))

/-- A schedule that runs reaches its end. -/
theorem Reaches.exec [DecidableEq L] {s₀ s t : Sys D L ε α} (h : Reaches (fun _ _ _ _ _ => True) s₀ s) :
    ∀ {actions : List (Action ε)}, s.exec actions = some t → Reaches (fun _ _ _ _ _ => True) s₀ t := by
  intro actions
  induction actions generalizing s with
  | nil =>
    intro hexec
    cases hexec
    exact h
  | cons action actions ih =>
    intro hexec
    obtain ⟨s', hstep, hrest⟩ := Option.bind_eq_some_iff.mp hexec
    cases action with
    | run i => exact ih (h.run trivial hstep) hrest
    | crash i e =>
      cases hstep
      exact ih (h.crash i e) hrest

/-- Run a schedule as long as every statement passes a check. -/
def Sys.execChecked [DecidableEq L] (check : Nat → Sql D L ε α → (D → D) → D → Bool) (s : Sys D L ε α) :
    List Nat → Option (Sys D L ε α)
  | [] => some s
  | i :: is =>
    if check i (s.sessions i).prog (s.sessions i).pending s.committed = true then
      (s.runStep i).bind fun s' => s'.execChecked check is
    else none

/-- A checked schedule that runs reaches its end, by statements that are admitted. -/
theorem Reaches.execChecked [DecidableEq L] {ok : Nat → Admits D L ε α} {check : Nat → Sql D L ε α → (D → D) → D → Bool}
    (hcheck : ∀ i p h pending d, check i p pending d = true → ok i p h pending d) {s₀ s t : Sys D L ε α} (h : Reaches ok s₀ s) :
    ∀ {schedule : List Nat}, s.execChecked check schedule = some t → Reaches ok s₀ t := by
  intro schedule
  induction schedule generalizing s with
  | nil =>
    intro hexec
    cases hexec
    exact h
  | cons i schedule ih =>
    intro hexec
    unfold Sys.execChecked at hexec
    split_ifs at hexec with hi
    obtain ⟨s', hstep, hrest⟩ := Option.bind_eq_some_iff.mp hexec
    exact ih (h.run (hcheck i _ _ _ _ hi) hstep) hrest

/-- What a session may rely on: `rely h d d'` bounds what the others commit while it holds the locks
`h`, and `fresh i d` says that no row of `d` uses the id `i`. -/
structure Discipline (D L : Type) where
  rely : (Lock L → Prop) → D → D → Prop
  fresh : Nat → D → Prop
  rely_refl : ∀ h d, rely h d d
  rely_trans : ∀ {h a b c}, rely h a b → rely h b c → rely h a c
  rely_mono : ∀ {h h' : Lock L → Prop} {a b}, (∀ l, h' l → h l) → rely h a b → rely h' a b

namespace Discipline

variable (P : Discipline D L) (J : D → Prop) (ok : Nat → Admits D L ε α) (post : Nat → α → D → Prop)

/-- Committing `d'` over `d` with the locks `h` keeps the invariant, what every other session relies
on, and the ids nobody drew. -/
structure Publishes (h : Lock L → Prop) (d d' : D) : Prop where
  good : J d'
  rely : ∀ h' : Lock L → Prop, (∀ l, h' l → ¬ h l) → P.rely h' d d'
  fresh : ∀ i, ¬ h (.id i) → P.fresh i d → P.fresh i d'

/-- From a session that holds `h`, has `pending` changes and last saw the committed database `base`,
the program keeps the invariant at each of its commits, and `Q` holds where it ends in a value. -/
def Wp (ok : Admits D L ε α) (Q : α → (Lock L → Prop) → (D → D) → D → Prop) :
    Sql D L ε α → (Lock L → Prop) → (D → D) → D → Prop
  | .ret a, h, pending, base => Q a h pending base
  | .fail _, _, _, _ => True
  | .read k, h, pending, base => ∀ d, P.rely h base d → J d → ok (.read k) h pending d →
      Wp ok Q (k (pending d)) h pending d
  | .acquire rows k, h, pending, base => ∀ d, P.rely h base d → J d → ok (.acquire rows k) h pending d →
      Wp ok Q (k (pending d)) (fun l => h l ∨ l ∈ (rows (pending d)).map Lock.row) pending d
  | .write f k, h, pending, base => Wp ok Q k h (f ∘ pending) base
  | .alloc k, h, pending, base => ∀ d i, P.rely h base d → J d → P.fresh i d → ¬ h (.id i) →
      Wp ok Q (k i) (fun l => h l ∨ l = .id i) pending d
  | .commit k, h, pending, base => ∀ d, P.rely h base d → J d → ok (.commit k) h pending d →
      P.Publishes J h d (pending d) ∧ Wp ok Q k (fun _ => False) id (pending d)
  | .rollback k, _, _, base => Wp ok Q k (fun _ => False) id base

/-- A whole program is safe when its result meets `post`, whatever is committed after its end. -/
def Safe (ok : Admits D L ε α) (post : α → D → Prop) : Sql D L ε α → (Lock L → Prop) → (D → D) → D → Prop :=
  P.Wp J ok fun a _ _ base => ∀ d, P.rely (fun _ => False) base d → J d → post a d

/-- What holds of a session in every reachable state. -/
def Sound (s : Sys D L ε α) (i : Nat) : Prop :=
  ∃ base, P.rely (s.held i) base s.committed ∧
    P.Safe J (ok i) (post i) (s.sessions i).prog (s.held i) (s.sessions i).pending base

/-- The invariant of the whole system. -/
structure Inv (s : Sys D L ε α) : Prop where
  good : J s.committed
  fresh : ∀ i, s.next ≤ i → P.fresh i s.committed
  drawn : ∀ i k, s.owner (.id i) = some k → i < s.next
  sound : ∀ i, P.Sound J ok post s i

variable {P J ok post}

theorem Safe.congr {ok : Admits D L ε α} {post : α → D → Prop} {p : Sql D L ε α} {h h' : Lock L → Prop} {pending : D → D} {base : D}
    (hs : P.Safe J ok post p h pending base) (heq : ∀ l, h l ↔ h' l) :
    P.Safe J ok post p h' pending base := by
  have : h = h' := funext fun l => propext (heq l)
  rwa [← this]

/-! ## Composing programs -/

theorem wp_pure {ok : Admits D L ε α} {Q : α → (Lock L → Prop) → (D → D) → D → Prop} (a : α) (h : Lock L → Prop) (pending : D → D) (base : D) :
    P.Wp J ok Q (pure a) h pending base ↔ Q a h pending base := Iff.rfl

/-- A sequence of programs is checked one after the other. -/
theorem wp_bind {β : Type} {ok : Admits D L ε β}
    {Q : β → (Lock L → Prop) → (D → D) → D → Prop} (p : Sql D L ε α) (f : α → Sql D L ε β)
    (h : Lock L → Prop) (pending : D → D) (base : D) :
    P.Wp J ok Q (p >>= f) h pending base ↔
      P.Wp J (fun q => ok (q >>= f)) (fun a => P.Wp J ok Q (f a)) p h pending base := by
  show P.Wp J ok Q (p.bind f) h pending base ↔ _
  induction p generalizing h pending base with
  | ret a => rfl
  | fail x => rfl
  | read k ih => exact forall_congr' fun d => forall₃_congr fun _ _ _ => ih (pending d) h pending d
  | acquire rows k ih => exact forall_congr' fun d => forall₃_congr fun _ _ _ => ih (pending d) _ pending d
  | write g k ih => exact ih h (g ∘ pending) base
  | alloc k ih => exact forall₂_congr fun d i => forall₄_congr fun _ _ _ _ => ih i _ pending d
  | commit k ih =>
    exact forall_congr' fun d => forall₃_congr fun _ _ _ => and_congr_right fun _ => ih _ id (pending d)
  | rollback k ih => exact ih _ id base

/-- A weaker end and fewer admitted statements are easier to reach. -/
theorem Wp.mono {ok ok' : Admits D L ε α} {Q Q' : α → (Lock L → Prop) → (D → D) → D → Prop}
    (hok : ∀ p h pending d, ok' p h pending d → ok p h pending d) (hQ : ∀ a h pending base, Q a h pending base → Q' a h pending base) :
    ∀ (p : Sql D L ε α) {h : Lock L → Prop} {pending : D → D} {base : D},
      P.Wp J ok Q p h pending base → P.Wp J ok' Q' p h pending base := by
  intro p
  induction p with
  | ret a => intro h pending base hw; exact hQ _ _ _ _ hw
  | fail x => intro _ _ _ _; trivial
  | read k ih => intro h pending base hw d hr hJ ho; exact ih _ (hw d hr hJ (hok _ _ _ _ ho))
  | acquire rows k ih => intro h pending base hw d hr hJ ho; exact ih _ (hw d hr hJ (hok _ _ _ _ ho))
  | write g k ih => intro h pending base hw; exact ih hw
  | alloc k ih => intro h pending base hw d i hr hJ hf hl; exact ih _ (hw d i hr hJ hf hl)
  | commit k ih =>
    intro h pending base hw d hr hJ ho
    exact ⟨(hw d hr hJ (hok _ _ _ _ ho)).1, ih (hw d hr hJ (hok _ _ _ _ ho)).2⟩
  | rollback k ih => intro h pending base hw; exact ih hw

/-- What a request answers: its programs one after the other, up to the first that raises. -/
theorem wp_answer_bind {β : Type} {ok : Admits D L ε (Except ε β)}
    {Q : Except ε β → (Lock L → Prop) → (D → D) → D → Prop} (p : Sql D L ε α) (f : α → Sql D L ε β)
    (h : Lock L → Prop) (pending : D → D) (base : D) :
    P.Wp J ok Q (answer (p >>= f)) h pending base ↔
      P.Wp J ok Q (answer p >>= fun r => match r with
        | .ok a => answer (f a)
        | .error x => .ret (.error x)) h pending base := by
  rw [answer_bind]

section answered

variable {β : Type} {ok : Admits D L ε (Except ε β)} {Q : Except ε β → (Lock L → Prop) → (D → D) → D → Prop}
  {h : Lock L → Prop} {pending : D → D} {base : D}

theorem wp_answer_raise {x : ε} (hx : Q (.error x) (fun _ => False) id base) :
    P.Wp J ok Q (answer (raise x)) h pending base := hx

theorem wp_answer_raiseIf {c : Prop} [Decidable c] {x : ε} {f : Unit → Sql D L ε β} (hpos : c → Q (.error x) (fun _ => False) id base)
    (hneg : ¬ c → P.Wp J ok Q (answer (f ())) h pending base) : P.Wp J ok Q (answer (raiseIf c x >>= f)) h pending base := by
  unfold raiseIf
  split_ifs with hc
  · exact hpos hc
  · exact hneg hc

theorem wp_answer_ofExcept {r : Except ε α} {f : α → Sql D L ε β} (herror : ∀ x, r = .error x → Q (.error x) (fun _ => False) id base)
    (hvalue : ∀ a, r = .ok a → P.Wp J ok Q (answer (f a)) h pending base) : P.Wp J ok Q (answer (ofExcept r >>= f)) h pending base := by
  cases r with
  | error x => exact herror x rfl
  | ok a => exact hvalue a rfl

theorem wp_answer_query {g : D → α} {f : α → Sql D L ε β}
    (hread : ∀ d, P.rely h base d → J d → ok (answer (query g >>= f)) h pending d →
      P.Wp J ok Q (answer (f (g (pending d)))) h pending d) :
    P.Wp J ok Q (answer (query g >>= f)) h pending base :=
  fun d hrely hJ hok => hread d hrely hJ hok

theorem wp_answer_lock {rows : D → List L} {g : D → α} {f : α → Sql D L ε β}
    (hread : ∀ d, P.rely h base d → J d → ok (answer (lock rows g >>= f)) h pending d →
      P.Wp J ok Q (answer (f (g (pending d)))) (fun l => h l ∨ l ∈ (rows (pending d)).map Lock.row) pending d) :
    P.Wp J ok Q (answer (lock rows g >>= f)) h pending base :=
  fun d hrely hJ hok => hread d hrely hJ hok

theorem wp_answer_update {w : D → D} {f : Unit → Sql D L ε β} (hwrite : P.Wp J ok Q (answer (f ())) h (w ∘ pending) base) :
    P.Wp J ok Q (answer (update w >>= f)) h pending base :=
  hwrite

theorem wp_answer_newId {f : Nat → Sql D L ε β}
    (hdrawn : ∀ d i, P.rely h base d → J d → P.fresh i d → P.Wp J ok Q (answer (f i)) (fun l => h l ∨ l = .id i) pending d) :
    P.Wp J ok Q (answer (newId >>= f)) h pending base :=
  fun d i hrely hJ hfresh _ => hdrawn d i hrely hJ hfresh

theorem wp_answer_commit {b : β}
    (hpub : ∀ d, P.rely h base d → J d → ok (.commit (.ret (.ok b))) h pending d → P.Publishes J h d (pending d))
    (hQ : ∀ d, P.rely h base d → J d → ok (.commit (.ret (.ok b))) h pending d → Q (.ok b) (fun _ => False) id (pending d)) :
    P.Wp J ok Q (answer (transaction (pure b))) h pending base :=
  fun d hrely hJ hok => ⟨hpub d hrely hJ hok, hQ d hrely hJ hok⟩

/-- A rollback drops the changes and the locks. -/
theorem wp_answer_rollbackNow {f : Unit → Sql D L ε β} (hnext : P.Wp J ok Q (answer (f ())) (fun _ => False) id base) :
    P.Wp J ok Q (answer (rollbackNow >>= f)) h pending base :=
  hnext

/-- A commit in front of a program. -/
theorem wp_answer_commitNow {f : Unit → Sql D L ε β}
    (hpub : ∀ d, P.rely h base d → J d → ok (answer (commitNow >>= f)) h pending d → P.Publishes J h d (pending d))
    (hnext : ∀ d, P.rely h base d → J d → P.Wp J ok Q (answer (f ())) (fun _ => False) id (pending d)) :
    P.Wp J ok Q (answer (commitNow >>= f)) h pending base :=
  fun d hrely hJ hok => ⟨hpub d hrely hJ hok, hnext d hrely hJ⟩

/-- A program that only reads keeps what its session holds. -/
theorem wp_answer_reads {p : Sql D L ε α} {f : α → Sql D L ε β} (hp : p.ReadsOnly)
    (herror : ∀ x d, Q (.error x) (fun _ => False) id d)
    (hread : ∀ a d, P.rely h base d → P.Wp J ok Q (answer (f a)) h pending d) : P.Wp J ok Q (answer (p >>= f)) h pending base := by
  show P.Wp J ok Q (answer (p.bind f)) h pending base
  induction p generalizing base with
  | ret a => exact hread a base (P.rely_refl h base)
  | fail x => exact herror x base
  | read k ih =>
    intro d hrely _ _
    exact ih (pending d) (hp (pending d)) fun a d' hrely' => hread a d' (P.rely_trans hrely hrely')
  | acquire rows k => exact hp.elim
  | write g k => exact hp.elim
  | alloc k => exact hp.elim
  | commit k => exact hp.elim
  | rollback k => exact hp.elim

/-- A program that does not commit leaves the changes that it may write. -/
theorem wp_answer_within {W : (D → D) → Prop} {E : ε → Prop} (hid : W id) (hcomp : ∀ f g, W f → W g → W (f ∘ g))
    {p : Sql D L ε α} {f : α → Sql D L ε β} (hp : p.Within W E) (herror : ∀ x d, E x → Q (.error x) (fun _ => False) id d)
    (hwritten : ∀ a h pending d, W pending → P.Wp J ok Q (answer (f a)) h pending d) (hpending : W pending) :
    P.Wp J ok Q (answer (p >>= f)) h pending base := by
  show P.Wp J ok Q (answer (p.bind f)) h pending base
  induction p generalizing h pending base with
  | ret a => exact hwritten a h pending base hpending
  | fail x => exact herror x base hp
  | read k ih => exact fun d _ _ _ => ih _ (hp _) hpending
  | acquire rows k ih => exact fun d _ _ _ => ih _ (hp _) hpending
  | write g k ih => exact ih hp.2 (hcomp g _ hp.1 hpending)
  | alloc k ih => exact fun d i _ _ _ _ => ih i (hp i) hpending
  | commit k => exact hp.elim
  | rollback k ih => exact ih hp hid

/-- A program that never commits publishes nothing. -/
theorem wp_answer_noCommit {p : Sql D L ε β} (hp : p.NoCommit) (hQ : ∀ r h pending d, Q r h pending d) :
    P.Wp J ok Q (answer p) h pending base := by
  induction p generalizing h pending base with
  | ret a => exact hQ _ _ _ _
  | fail x => exact hQ _ _ _ _
  | read k ih => exact fun d _ _ _ => ih _ (hp _)
  | acquire rows k ih => exact fun d _ _ _ => ih _ (hp _)
  | write g k ih => exact ih hp
  | alloc k ih => exact fun d i _ _ _ _ => ih i (hp i)
  | commit k => exact hp.elim
  | rollback k ih => exact ih hp

/-- What a request answers with the value of a program. -/
theorem wp_answer_map {ok : Admits D L ε (Except ε β)} {p : Sql D L ε α} {g : α → β} {Q : Except ε β → (Lock L → Prop) → (D → D) → D → Prop}
    (hp : P.Wp J (fun q => ok (q >>= fun r => .ret (r.map g))) (fun r => Q (r.map g)) (answer p) h pending base) :
    P.Wp J ok Q (answer (p >>= fun a => pure (g a))) h pending base := by
  rw [wp_answer_bind]
  have heq : (fun r : Except ε α => match r with
      | .ok a => answer (pure (g a) : Sql D L ε β)
      | .error x => .ret (.error x)) = fun r => .ret (r.map g) := by
    funext r
    cases r <;> rfl
  rw [heq, wp_bind]
  exact hp

end answered

/-- A program that does not commit, followed by a commit: what it writes is published at once. -/
theorem wp_answer_transaction {ok : Admits D L ε (Except ε α)}
    {Q : Except ε α → (Lock L → Prop) → (D → D) → D → Prop} {W : (D → D) → Prop} {E : ε → Prop}
    (hid : W id) (hcomp : ∀ f g, W f → W g → W (f ∘ g)) (hpub : ∀ f h d, W f → J d → P.Publishes J h d (f d))
    (hQ : ∀ a d, Q (.ok a) (fun _ => False) id d) (hE : ∀ x base, E x → Q (.error x) (fun _ => False) id base) :
    ∀ {p : Sql D L ε α}, p.Within W E → ∀ {h : Lock L → Prop} {pending : D → D} {base : D}, W pending →
      P.Wp J ok Q (answer (transaction p)) h pending base := by
  intro p
  induction p with
  | ret a => exact fun _ h pending base hw d _ hJ _ => ⟨hpub pending h d hw hJ, hQ a _⟩
  | fail x => exact fun hp _ _ base _ => hE x base hp
  | read k ih => exact fun hp _ _ _ hw d _ _ _ => ih _ (hp _) hw
  | acquire rows k ih => exact fun hp _ _ _ hw d _ _ _ => ih _ (hp _) hw
  | write g k ih => exact fun hp _ _ _ hw => ih hp.2 (hcomp g _ hp.1 hw)
  | alloc k ih => exact fun hp _ _ _ hw d i _ _ _ _ => ih i (hp i) hw
  | commit k ih => exact fun hp => hp.elim
  | rollback k ih => exact fun hp _ _ _ _ => ih hp hid

/-! ## Locks after an action -/

theorem held_put (s : Sys D L ε α) (i j : Nat) (session : Session D L ε α) :
    (s.put i session).held j = s.held j := rfl

theorem held_release_self (s : Sys D L ε α) (i : Nat) (l : Lock L) : ¬ (s.release i).held i l := by
  unfold Sys.held Sys.release
  dsimp only
  split_ifs with h <;> simp [h]

theorem held_release_ne {s : Sys D L ε α} {i j : Nat} (hne : j ≠ i) (l : Lock L) :
    (s.release i).held j l ↔ s.held j l := by
  unfold Sys.held Sys.release
  dsimp only
  split_ifs with h
  · simp [h, Ne.symm hne]
  · rfl

theorem held_disjoint {s : Sys D L ε α} {i j : Nat} (hne : j ≠ i) (l : Lock L) (h : s.held j l) :
    ¬ s.held i l := by
  intro h'
  rw [Sys.held] at h h'
  rw [h] at h'
  exact hne (Option.some.inj h')

/-! ## One action keeps the invariant -/

/-- A session that did not move stays sound under what it may rely on. -/
theorem Sound.frame {s t : Sys D L ε α} {j : Nat} (hs : P.Sound J ok post s j)
    (hsession : t.sessions j = s.sessions j) (hheld : ∀ l, t.held j l ↔ s.held j l)
    (hrely : P.rely (s.held j) s.committed t.committed) : P.Sound J ok post t j := by
  obtain ⟨base, hbase, hsafe⟩ := hs
  refine ⟨base, ?_, ?_⟩
  · exact P.rely_mono (fun l h => (hheld l).mp h) (P.rely_trans hbase hrely)
  · rw [hsession]
    exact hsafe.congr fun l => (hheld l).symm

/-- A session that did not move, while the committed database did not move either. -/
theorem Sound.frame_eq {s t : Sys D L ε α} {j : Nat} (hs : P.Sound J ok post s j)
    (hsession : t.sessions j = s.sessions j) (hheld : ∀ l, t.held j l ↔ s.held j l)
    (hcommitted : t.committed = s.committed) : P.Sound J ok post t j :=
  hs.frame hsession hheld (hcommitted ▸ P.rely_refl _ _)

theorem sessions_put_ne (s : Sys D L ε α) {i j : Nat} (hne : j ≠ i) (session : Session D L ε α) :
    (s.put i session).sessions j = s.sessions j :=
  Function.update_of_ne hne _ _

theorem sessions_put_self (s : Sys D L ε α) (i : Nat) (session : Session D L ε α) :
    (s.put i session).sessions i = session :=
  Function.update_self _ _ _

/-- A step that only moves session `i` to a safe place. -/
theorem Inv.put {s : Sys D L ε α} (hs : P.Inv J ok post s) {i : Nat} {p : Sql D L ε α}
    {pending : D → D} {base : D} (hrely : P.rely (s.held i) base s.committed)
    (hsafe : P.Safe J (ok i) (post i) p (s.held i) pending base) :
    P.Inv J ok post (s.put i { prog := p, pending := pending }) where
  good := hs.good
  fresh := hs.fresh
  drawn := hs.drawn
  sound := by
    intro j
    by_cases hj : j = i
    · subst hj
      refine ⟨base, hrely, ?_⟩
      rw [sessions_put_self]
      exact hsafe
    · exact (hs.sound j).frame_eq (sessions_put_ne s hj _) (fun _ => Iff.rfl) rfl

/-- Ending a transaction of session `i`: its locks are free, and it goes on from the committed
database `d`, which the others may rely on. -/
theorem Inv.close {s : Sys D L ε α} (hs : P.Inv J ok post s) {i : Nat} {d : D} {p : Sql D L ε α}
    {base : D} (hgood : J d) (hfresh : ∀ j, s.next ≤ j → P.fresh j d)
    (hothers : ∀ j, j ≠ i → P.rely (s.held j) s.committed d)
    (hrely : P.rely (fun _ => False) base d)
    (hsafe : P.Safe J (ok i) (post i) p (fun _ => False) id base) :
    P.Inv J ok post ({ s with committed := d }.close i p) where
  good := hgood
  fresh := hfresh
  drawn := by
    intro j k hk
    simp only [Sys.close, Sys.put, Sys.release] at hk
    split_ifs at hk
    exact hs.drawn j k hk
  sound := by
    intro j
    by_cases hj : j = i
    · subst hj
      have hnone : ∀ l, ({ s with committed := d }.close j p).held j l ↔ False :=
        fun l => ⟨held_release_self { s with committed := d } j l, False.elim⟩
      refine ⟨base, P.rely_mono (fun l hl => (hnone l).mp hl) hrely, ?_⟩
      rw [Sys.close, sessions_put_self]
      exact hsafe.congr fun l => (hnone l).symm
    · refine (hs.sound j).frame (sessions_put_ne _ hj _) (fun l => ?_) (hothers j hj)
      exact held_release_ne (s := { s with committed := d }) hj l

variable [DecidableEq L]

theorem held_take_self (s : Sys D L ε α) (i : Nat) (ls : List (Lock L)) (l : Lock L) :
    (s.take i ls).held i l ↔ s.held i l ∨ l ∈ ls := by
  unfold Sys.held Sys.take
  dsimp only
  split_ifs with h <;> simp [h]

theorem held_take_ne {s : Sys D L ε α} {i j : Nat} {ls : List (Lock L)} (hne : j ≠ i)
    (hfree : ∀ l ∈ ls, s.owner l = none ∨ s.owner l = some i) (l : Lock L) :
    (s.take i ls).held j l ↔ s.held j l := by
  unfold Sys.held Sys.take
  dsimp only
  split_ifs with h
  · rcases hfree l h with ho | ho <;> simp [ho, Ne.symm hne]
  · rfl

/-- Session `i` takes free locks and goes on from the latest committed database. -/
theorem Inv.take {s : Sys D L ε α} (hs : P.Inv J ok post s) {i next : Nat} {ls : List (Lock L)}
    (hfree : ∀ l ∈ ls, s.owner l = none ∨ s.owner l = some i) (hnext : s.next ≤ next)
    (hdrawn : ∀ j, Lock.id j ∈ ls → j < next) {p : Sql D L ε α} {pending : D → D}
    (hsafe : P.Safe J (ok i) (post i) p (fun l => s.held i l ∨ l ∈ ls) pending s.committed) :
    P.Inv J ok post (({ s with next := next }.take i ls).put i { prog := p, pending := pending }) where
  good := hs.good
  fresh := fun j hj => hs.fresh j (hnext.trans hj)
  drawn := by
    intro j k hk
    simp only [Sys.take, Sys.put] at hk
    split_ifs at hk with hl
    · exact hdrawn j hl
    · exact (hs.drawn j k hk).trans_le hnext
  sound := by
    intro j
    by_cases hj : j = i
    · subst hj
      refine ⟨s.committed, P.rely_refl _ _, ?_⟩
      rw [sessions_put_self]
      exact hsafe.congr fun l => (held_take_self { s with next := next } j ls l).symm
    · exact (hs.sound j).frame_eq (sessions_put_ne _ hj _)
        (fun l => held_take_ne (s := { s with next := next }) hj hfree l) rfl

/-- A statement of a session keeps the invariant. -/
theorem Inv.runStep {s t : Sys D L ε α} {i : Nat} (hs : P.Inv J ok post s)
    (hok : ok i (s.sessions i).prog (s.held i) (s.sessions i).pending s.committed) (hstep : s.runStep i = some t) :
    P.Inv J ok post t := by
  obtain ⟨base, hrely, hsafe⟩ := hs.sound i
  have hself : ∀ j, j ≠ i → P.rely (s.held j) s.committed s.committed := fun _ _ => P.rely_refl _ _
  have hnone : P.rely (fun _ => False) base s.committed := P.rely_mono (fun _ h => h.elim) hrely
  unfold Sys.runStep at hstep
  generalize hprog : (s.sessions i).prog = p at hstep hsafe hok
  cases p with
  | ret a =>
    cases hstep
    exact hs.close hs.good hs.fresh hself hnone hsafe
  | fail x =>
    cases hstep
    exact hs.close hs.good hs.fresh hself (P.rely_refl _ s.committed) trivial
  | read k =>
    cases hstep
    exact hs.put (P.rely_refl _ _) (hsafe s.committed hrely hs.good hok)
  | acquire rows k =>
    dsimp only at hstep
    split_ifs at hstep with hfree
    cases hstep
    refine hs.take (List.forall_mem_map.mpr hfree) (le_refl _) (fun j hj => ?_)
      (hsafe s.committed hrely hs.good hok)
    obtain ⟨l, -, hl⟩ := List.mem_map.mp hj
    cases hl
  | write f k =>
    cases hstep
    exact hs.put hrely hsafe
  | alloc k =>
    cases hstep
    have hundrawn : ∀ k, s.owner (.id s.next) ≠ some k := fun k hk => absurd (hs.drawn _ k hk) (by omega)
    have hfresh := hs.fresh s.next (le_refl _)
    have hnew := hsafe s.committed s.next hrely hs.good hfresh (hundrawn i)
    refine hs.take (fun l hl => ?_) (Nat.le_succ _) (fun j hj => ?_) ?_
    · rw [List.mem_singleton.mp hl]
      exact .inl (Option.eq_none_iff_forall_ne_some.mpr hundrawn)
    · rw [Lock.id.inj (List.mem_singleton.mp hj)]
      exact Nat.lt_succ_self _
    · exact Safe.congr hnew fun l => by rw [List.mem_singleton]
  | commit k =>
    cases hstep
    obtain ⟨hpub, hnext⟩ := hsafe s.committed hrely hs.good hok
    refine hs.close hpub.good (fun j hj => hpub.fresh j (fun hl => ?_) (hs.fresh j hj)) (fun j hj => ?_)
      (P.rely_refl _ _) hnext
    · exact absurd (hs.drawn j i hl) (by omega)
    · exact hpub.rely _ fun l hl => held_disjoint hj l hl
  | rollback k =>
    cases hstep
    exact hs.close hs.good hs.fresh hself hnone hsafe

omit [DecidableEq L] in
/-- Losing a session keeps the invariant. -/
theorem Inv.crash {s : Sys D L ε α} (hs : P.Inv J ok post s) (i : Nat) (e : ε) :
    P.Inv J ok post (s.close i (.fail e)) :=
  hs.close hs.good hs.fresh (fun _ _ => P.rely_refl _ _) (P.rely_refl _ s.committed) trivial

/-! ## Every reachable state -/

omit [DecidableEq L] in
/-- Sessions with safe programs start in the invariant. -/
theorem Inv.init {d : D} {next : Nat} {progs : Nat → Sql D L ε α} (hd : J d)
    (hfresh : ∀ i, next ≤ i → P.fresh i d)
    (hsafe : ∀ i, P.Safe J (ok i) (post i) (progs i) (fun _ => False) id d) :
    P.Inv J ok post (Sys.init d next progs) where
  good := hd
  fresh := hfresh
  drawn := fun _ _ h => nomatch h
  sound := fun i => ⟨d, P.rely_refl _ _, (hsafe i).congr fun _ => ⟨False.elim, fun h => nomatch h⟩⟩

theorem Inv.reaches {s t : Sys D L ε α} (hs : P.Inv J ok post s) (h : Reaches ok s t) :
    P.Inv J ok post t := by
  induction h with
  | refl => exact hs
  | run _ hok hstep ih => exact ih.runStep hok hstep
  | crash _ i e ih => exact ih.crash i e

/-- Sessions with safe programs keep the invariant in every reachable state. -/
theorem reaches_good {d : D} {next : Nat} {progs : Nat → Sql D L ε α} {t : Sys D L ε α} (hd : J d)
    (hfresh : ∀ i, next ≤ i → P.fresh i d)
    (hsafe : ∀ i, P.Safe J (ok i) (post i) (progs i) (fun _ => False) id d)
    (h : Reaches ok (Sys.init d next progs) t) : J t.committed :=
  ((Inv.init hd hfresh hsafe).reaches h).good

/-- No row uses an id that is still to be drawn. -/
theorem reaches_fresh {d : D} {next : Nat} {progs : Nat → Sql D L ε α} {t : Sys D L ε α} (hd : J d)
    (hfresh : ∀ i, next ≤ i → P.fresh i d)
    (hsafe : ∀ i, P.Safe J (ok i) (post i) (progs i) (fun _ => False) id d)
    (h : Reaches ok (Sys.init d next progs) t) : ∀ i, t.next ≤ i → P.fresh i t.committed :=
  ((Inv.init hd hfresh hsafe).reaches h).fresh

/-- A session that ended in a value ended with its postcondition. -/
theorem reaches_post {d : D} {next : Nat} {progs : Nat → Sql D L ε α} {t : Sys D L ε α} (hd : J d)
    (hfresh : ∀ i, next ≤ i → P.fresh i d)
    (hsafe : ∀ i, P.Safe J (ok i) (post i) (progs i) (fun _ => False) id d)
    (h : Reaches ok (Sys.init d next progs) t) {i : Nat} {a : α} (ha : (t.sessions i).prog = .ret a) :
    post i a t.committed := by
  have hinv := (Inv.init hd hfresh hsafe).reaches h
  obtain ⟨base, hrely, hs⟩ := hinv.sound i
  rw [ha] at hs
  exact hs t.committed (P.rely_mono (fun _ h => h.elim) hrely) hinv.good

end Discipline

/-! ## Requests that are refused -/

/-- Behind its commit the request answers a value, and does nothing else. -/
def CommitsLast : Sql D L ε (Except ε α) → Prop
  | .ret _ => True
  | .fail _ => True
  | .read k => ∀ d, (k d).CommitsLast
  | .acquire _ k => ∀ d, (k d).CommitsLast
  | .write _ k => k.CommitsLast
  | .alloc k => ∀ i, (k i).CommitsLast
  | .commit k => ∃ a, k = .ret (.ok a)
  | .rollback k => k.CommitsLast

theorem commitsLast_transaction {p : Sql D L ε α} (hp : p.NoCommit) : (answer (transaction p)).CommitsLast := by
  induction p with
  | ret a => exact ⟨a, rfl⟩
  | fail x => trivial
  | read k ih => exact fun d => ih d (hp d)
  | acquire rows k ih => exact fun d => ih d (hp d)
  | write f k ih => exact ih hp
  | alloc k ih => exact fun i => ih i (hp i)
  | commit k ih => exact hp.elim
  | rollback k ih => exact ih hp

namespace Sys

variable [DecidableEq L] {s t : Sys D L ε (Except ε α)} {i : Nat}

/-- A statement of another session leaves a session where it is. -/
theorem runStep_other {j : Nat} (hj : i ≠ j) (h : s.runStep j = some t) : t.sessions i = s.sessions i := by
  unfold runStep at h
  dsimp only at h
  split at h
  case h_4 =>
    split_ifs at h
    cases h
    exact Function.update_of_ne hj _ _
  all_goals
    cases h
    exact Function.update_of_ne hj _ _

/-- So does a checked schedule that leaves it out. -/
theorem execChecked_other {check : Nat → Sql D L ε (Except ε α) → (D → D) → D → Bool} {schedule : List Nat} (hi : i ∉ schedule) :
    ∀ {s : Sys D L ε (Except ε α)}, s.execChecked check schedule = some t → t.sessions i = s.sessions i := by
  induction schedule with
  | nil =>
    intro s h
    cases h
    rfl
  | cons j schedule ih =>
    intro s h
    rw [List.mem_cons, not_or] at hi
    unfold execChecked at h
    split_ifs at h
    obtain ⟨u, hstep, hrest⟩ := Option.bind_eq_some_iff.mp h
    exact (ih hi.2 hrest).trans (runStep_other hi.1 hstep)

/-- What a statement of a session leaves of its program, and of the committed database. -/
theorem runStep_self (h : s.runStep i = some t) (hs : (s.sessions i).prog.CommitsLast) :
    t.committed = s.committed ∧ (t.sessions i).prog.CommitsLast ∨ ∃ a, (t.sessions i).prog = .ret (.ok a) := by
  unfold runStep at h
  generalize hprog : (s.sessions i).prog = p at h hs
  cases p with
  | ret a =>
    cases h
    refine .inl ⟨rfl, ?_⟩
    rw [close, Discipline.sessions_put_self]
    trivial
  | fail x =>
    cases h
    refine .inl ⟨rfl, ?_⟩
    rw [close, Discipline.sessions_put_self]
    trivial
  | read k =>
    cases h
    refine .inl ⟨rfl, ?_⟩
    rw [Discipline.sessions_put_self]
    exact hs _
  | acquire rows k =>
    dsimp only at h
    split_ifs at h
    cases h
    refine .inl ⟨rfl, ?_⟩
    rw [Discipline.sessions_put_self]
    exact hs _
  | write f k =>
    cases h
    refine .inl ⟨rfl, ?_⟩
    rw [Discipline.sessions_put_self]
    exact hs
  | alloc k =>
    cases h
    refine .inl ⟨rfl, ?_⟩
    rw [Discipline.sessions_put_self]
    exact hs _
  | commit k =>
    cases h
    obtain ⟨a, rfl⟩ := hs
    refine .inr ⟨a, ?_⟩
    rw [close, Discipline.sessions_put_self]
  | rollback k =>
    cases h
    refine .inl ⟨rfl, ?_⟩
    rw [close, Discipline.sessions_put_self]
    exact hs

/-- A request that has answered a value stays answered, unless its session is lost. -/
theorem exec_answered {a : α} : ∀ {actions : List (Action ε)} {s : Sys D L ε (Except ε α)},
    (s.sessions i).prog = .ret (.ok a) ∨ (∃ e, (s.sessions i).prog = .fail e) → s.exec actions = some t →
      (t.sessions i).prog = .ret (.ok a) ∨ ∃ e, (t.sessions i).prog = .fail e := by
  intro actions
  induction actions with
  | nil =>
    intro s hs h
    cases h
    exact hs
  | cons action actions ih =>
    intro s hs h
    obtain ⟨u, hstep, hrest⟩ := Option.bind_eq_some_iff.mp h
    refine ih ?_ hrest
    cases action with
    | crash j e =>
      cases hstep
      by_cases hj : i = j
      · subst hj
        refine .inr ⟨e, ?_⟩
        rw [close, Discipline.sessions_put_self]
      · have hsame : (s.close j (.fail e)).sessions i = s.sessions i := Function.update_of_ne hj _ _
        rw [hsame]
        exact hs
    | run j =>
      by_cases hj : i = j
      · subst hj
        have hstep : s.runStep i = some u := hstep
        unfold runStep at hstep
        rcases hs with hs | ⟨e, hs⟩
        · rw [hs] at hstep
          cases hstep
          refine .inl ?_
          rw [close, Discipline.sessions_put_self]
        · rw [hs] at hstep
          cases hstep
          refine .inr ⟨e, ?_⟩
          rw [close, Discipline.sessions_put_self]
      · rw [runStep_other hj hstep]
        exact hs

theorem exec_append {actions later : List (Action ε)} : ∀ {s : Sys D L ε (Except ε α)},
    s.exec (actions ++ later) = (s.exec actions).bind fun u => u.exec later := by
  induction actions with
  | nil => exact fun {s} => rfl
  | cons action actions ih =>
    intro s
    show (s.step action).bind (fun u => u.exec (actions ++ later)) = ((s.step action).bind fun u => u.exec actions).bind _
    rw [Option.bind_assoc]
    exact congrArg (Option.bind (s.step action)) (funext fun u => ih)

/-- A request keeps to its last commit, until it has answered. -/
theorem exec_commitsLast : ∀ {actions : List (Action ε)} {s : Sys D L ε (Except ε α)}, (s.sessions i).prog.CommitsLast →
    s.exec actions = some t → (t.sessions i).prog.CommitsLast := by
  intro actions
  induction actions with
  | nil =>
    intro s hs h
    cases h
    exact hs
  | cons action actions ih =>
    intro s hs h
    obtain ⟨u, hstep, hrest⟩ := Option.bind_eq_some_iff.mp h
    refine ih ?_ hrest
    cases action with
    | crash j e =>
      cases hstep
      by_cases hj : i = j
      · subst hj
        rw [close, Discipline.sessions_put_self]
        trivial
      · have hsame : (s.close j (.fail e)).sessions i = s.sessions i := Function.update_of_ne hj _ _
        rw [hsame]
        exact hs
    | run j =>
      by_cases hj : i = j
      · subst hj
        rcases runStep_self hstep hs with ⟨-, hlast⟩ | ⟨a, ha⟩
        · exact hlast
        · rw [ha]
          trivial
      · rw [runStep_other hj hstep]
        exact hs

/-- None of the statements of a request that was refused changed the committed database. -/
theorem refused_unchanged {actions : List (Action ε)} {x : ε} (hs : (s.sessions i).prog.CommitsLast) (h : s.exec actions = some t)
    (hrefused : (t.sessions i).prog = .ret (.error x)) {earlier later : List (Action ε)} {u v : Sys D L ε (Except ε α)}
    (hactions : actions = earlier ++ .run i :: later) (hu : s.exec earlier = some u) (hv : u.runStep i = some v) :
    v.committed = u.committed := by
  rcases runStep_self hv (exec_commitsLast hs hu) with ⟨hsame, -⟩ | ⟨a, ha⟩
  · exact hsame
  · exfalso
    rw [hactions, exec_append, hu] at h
    have hlater : v.exec later = some t := by
      have hstep : (u.step (.run i)).bind (fun v => v.exec later) = some t := h
      have hrun : u.step (.run i) = some v := hv
      rw [hrun] at hstep
      exact hstep
    rcases exec_answered (.inl ha) hlater with hanswered | ⟨e, hlost⟩
    · rw [hrefused] at hanswered
      cases hanswered
    · rw [hrefused] at hlost
      cases hlost

end Sys

end Sql
