import NovaCommerce.Outbox.Writer

/-!
# The outbox publisher

* `attempt` : one delivery of the loop of `publish_due`, with its backoff;
* `Step` : any number of workers over one queue. A worker selects due rows that no other worker holds, sends
  them one after the other, and commits all outcomes or none;
* `Sound` : what holds of the queue, the workers and everything that happened. Every step keeps it
  (`Step.sound`), so every run has it (`reaches_sound`).
-/

namespace NovaCommerce.Publisher

/-! ## One row -/

inductive OutboxStatus where
  | pending
  | published
  | failed
  | dead
  deriving DecidableEq, Repr

/-- A row of `outbox_messages`. -/
structure QueuedMessage where
  message : OutboxMessage
  status : OutboxStatus := .pending
  attemptCount : Nat := 0
  nextRetryAt : Option Time := none
  publishedAt : Option Time := none
  lastError : Option String := none

/-- The parameters of a publish cycle; at least one attempt is made. -/
structure Settings where
  maxAttempts : Nat := 5
  baseBackoffSeconds : Nat := 30
  maxBackoffSeconds : Nat := 3600
  positive : 0 < maxAttempts := by decide

variable (cfg : Settings)

/-- Exponential backoff, capped. -/
def retryDelaySeconds (attemptCount : Nat) : Nat :=
  min (cfg.baseBackoffSeconds * 2 ^ (attemptCount - 1)) cfg.maxBackoffSeconds

/-- Pending or failed, and its retry time has passed. -/
def QueuedMessage.Due (row : QueuedMessage) (moment : Time) : Prop :=
  (row.status = .pending ∨ row.status = .failed) ∧ ∀ t ∈ row.nextRetryAt, t ≤ moment

instance QueuedMessage.decidableDue (row : QueuedMessage) (moment : Time) : Decidable (row.Due moment) := by
  unfold QueuedMessage.Due
  infer_instance

/-- One delivery, with the error of the transport when there is one. -/
def attempt (moment : Time) (row : QueuedMessage) : Option String → QueuedMessage
  | none => { row with
      attemptCount := row.attemptCount + 1
      status := .published
      publishedAt := some moment
      nextRetryAt := none
      lastError := none }
  | some error =>
    if cfg.maxAttempts ≤ row.attemptCount + 1 then { row with
      attemptCount := row.attemptCount + 1
      status := .dead
      nextRetryAt := none
      lastError := some (truncate 500 error) }
    else { row with
      attemptCount := row.attemptCount + 1
      status := .failed
      nextRetryAt := some (moment + 1000 * retryDelaySeconds cfg (row.attemptCount + 1))
      lastError := some (truncate 500 error) }

/-! ## Workers over one queue -/

/-- A cycle in progress: the rows it holds, delivered or not yet. -/
structure Cycle where
  moment : Time
  done : List (Nat × QueuedMessage)
  todo : List (Nat × QueuedMessage)

def Cycle.ids (c : Cycle) : List Nat := (c.done ++ c.todo).map Prod.fst

/-- What happened, as an observer of the queue and the transport sees it. -/
inductive Event where
  | enqueued (id : Nat)
  | selected (worker id : Nat)
  | sent (worker id : Nat) (time : Time)
  | settled (id : Nat) (row : QueuedMessage) (moment : Time)

/-- The committed queue, the workers' cycles, the clock, and the history. -/
structure World where
  rows : Dict Nat QueuedMessage
  next : Nat
  workers : Dict Nat (Option Cycle)
  clock : Time
  events : List Event

/-- An empty queue without workers. -/
def World.empty : World := ⟨Dict.empty, 1, Dict.empty, 0, []⟩

/-- Some worker holds the row. -/
def World.locked (s : World) (id : Nat) : Bool :=
  s.workers.entries.any fun e => e.2.any fun c => decide (id ∈ c.ids)

/-- The oldest due rows nobody holds. -/
def World.select (s : World) (moment : Time) (limit : Nat) : List (Nat × QueuedMessage) :=
  ((s.rows.select fun row => decide (row.Due moment)).filter fun e => !s.locked e.1).take limit

/-- The committed rows of a finished cycle. -/
def Cycle.write (c : Cycle) (id : Nat) (row : QueuedMessage) : QueuedMessage :=
  ((c.done.find? fun e => decide (e.1 = id)).map Prod.snd).getD row

/-- One step of the clock, of a writer, or of a worker. -/
inductive Step : World → World → Prop where
  | tick {s : World} {t : Time} (le : s.clock ≤ t) : Step s { s with clock := t }
  | enqueue {s : World} (message : OutboxMessage) : Step s { s with
      rows := s.rows.set s.next { message := message }
      next := s.next + 1
      events := s.events ++ [.enqueued s.next] }
  | start {s : World} {worker limit : Nat} {moment : Time} (idle : (s.workers.get? worker).join = none)
      (le : moment ≤ s.clock) : Step s { s with
        workers := s.workers.set worker (some ⟨moment, [], s.select moment limit⟩)
        events := s.events ++ (s.select moment limit).map fun e => .selected worker e.1 }
  | deliver {s : World} {worker id : Nat} {c : Cycle} {row : QueuedMessage} {todo : List (Nat × QueuedMessage)}
      (active : s.workers.get? worker = some (some c)) (next : c.todo = (id, row) :: todo)
      (error : Option String) : Step s { s with
        workers := s.workers.set worker (some { c with
          done := c.done ++ [(id, attempt cfg c.moment row error)]
          todo := todo })
        events := s.events ++ [.sent worker id s.clock] }
  | commit {s : World} {worker : Nat} {c : Cycle} (active : s.workers.get? worker = some (some c))
      (finished : c.todo = []) : Step s { s with
        rows := s.rows.adjust c.write
        workers := s.workers.set worker none
        events := s.events ++ c.done.map fun e => .settled e.1 e.2 c.moment }
  | rollback {s : World} {worker : Nat} {c : Cycle} (active : s.workers.get? worker = some (some c)) :
      Step s { s with workers := s.workers.set worker none }

/-- The worlds of all runs. -/
abbrev Reaches : World → World → Prop := Relation.ReflTransGen (Step cfg)

/-! ## What holds of every run -/

/-- The committed failures of a row. -/
def failures (events : List Event) (id : Nat) : Nat :=
  events.countP fun e => match e with
    | .settled i row _ => decide (i = id ∧ (row.status = .failed ∨ row.status = .dead))
    | _ => false

/-- What an event forbids and asks of later ones. -/
def Event.Respects : Event → Event → Prop
  | .settled id row _, .selected _ id' => id' = id → row.status = .failed
  | .settled id row _, .sent _ id' time =>
    id' = id → row.status = .failed ∧ ∀ t ∈ row.nextRetryAt, t ≤ time
  | .settled id row _, .settled id' row' _ => id' = id → row.attemptCount < row'.attemptCount
  | _, _ => True

/-- A committed failure that is not the last is scheduled with the backoff of its attempt. -/
def Event.Scheduled : Event → Prop
  | .settled _ row moment => row.status ≠ .pending ∧ row.attemptCount ≤ cfg.maxAttempts ∧
      (row.status = .failed →
        row.nextRetryAt = some (moment + 1000 * retryDelaySeconds cfg row.attemptCount)) ∧
      (row.status = .dead ↔ row.status ≠ .published ∧ row.attemptCount = cfg.maxAttempts)
  | _ => True

/-- The committed row agrees with its history. -/
structure RowSound (events : List Event) (id : Nat) (row : QueuedMessage) : Prop where
  count : row.attemptCount = failures events id + if row.status = .published then 1 else 0
  bounded : row.attemptCount ≤ cfg.maxAttempts
  waiting : row.status = .pending ∨ row.status = .failed → row.attemptCount < cfg.maxAttempts
  dead : row.status = .dead → row.attemptCount = cfg.maxAttempts
  history : ∀ old moment, .settled id old moment ∈ events → old.attemptCount ≤ row.attemptCount ∧
    (row.status = .pending ∨ row.status = .failed → old.status = .failed ∧
      ∀ t ∈ old.nextRetryAt, ∃ t' ∈ row.nextRetryAt, t ≤ t')

/-- The rows a cycle holds are the committed ones, due at its moment, and delivered once at most. -/
structure CycleSound (s : World) (c : Cycle) : Prop where
  moment : c.moment ≤ s.clock
  nodup : c.ids.Nodup
  todo : ∀ id row, (id, row) ∈ c.todo → s.rows.get? id = some row ∧ row.Due c.moment
  done : ∀ id new, (id, new) ∈ c.done → ∃ row error, s.rows.get? id = some row ∧ row.Due c.moment ∧
    new = attempt cfg c.moment row error

/-- No row is held twice. -/
def Apart (workers : Dict Nat (Option Cycle)) : Prop :=
  ∀ worker worker' c c', workers.get? worker = some (some c) → workers.get? worker' = some (some c') →
    worker ≠ worker' → ∀ id ∈ c.ids, id ∉ c'.ids

structure Sound (s : World) : Prop where
  fresh : ∀ i, s.next ≤ i → s.rows.get? i = none
  known : ∀ id row moment, .settled id row moment ∈ s.events → (s.rows.get? id).isSome
  rows : ∀ id row, s.rows.get? id = some row → RowSound cfg s.events id row
  cycles : ∀ worker c, s.workers.get? worker = some (some c) → CycleSound cfg s c
  apart : Apart s.workers
  kept : ∀ id, .enqueued id ∈ s.events → (s.rows.get? id).isSome
  scheduled : ∀ e ∈ s.events, e.Scheduled cfg
  respects : s.events.Pairwise Event.Respects

variable {cfg}

/-! ## One delivery -/

theorem retryDelaySeconds_mono {m n : Nat} (h : m ≤ n) : retryDelaySeconds cfg m ≤ retryDelaySeconds cfg n := by
  unfold retryDelaySeconds
  have hpow : 2 ^ (m - 1) ≤ 2 ^ (n - 1) := Nat.pow_le_pow_right (by decide) (by omega)
  have hmul := Nat.mul_le_mul_left cfg.baseBackoffSeconds hpow
  omega

theorem retryDelaySeconds_le (n : Nat) : retryDelaySeconds cfg n ≤ cfg.maxBackoffSeconds :=
  Nat.min_le_right _ _

theorem attempt_attemptCount (moment : Time) (row : QueuedMessage) (error : Option String) :
    (attempt cfg moment row error).attemptCount = row.attemptCount + 1 := by
  unfold attempt
  cases error with
  | none => rfl
  | some error => split_ifs <;> rfl

theorem attempt_scheduled {row : QueuedMessage} (h : row.attemptCount < cfg.maxAttempts) (id : Nat)
    (moment : Time) (error : Option String) :
    Event.Scheduled cfg (.settled id (attempt cfg moment row error) moment) := by
  unfold attempt Event.Scheduled
  cases error with
  | none => simp; omega
  | some error =>
    dsimp only
    split_ifs with hlast
    · simp; omega
    · simp; omega

/-! ## The history -/

theorem failures_append (events events' : List Event) (id : Nat) :
    failures (events ++ events') id = failures events id + failures events' id :=
  List.countP_append

theorem failures_eq_zero {events : List Event} {id : Nat}
    (h : ∀ row moment, .settled id row moment ∉ events) : failures events id = 0 := by
  unfold failures
  rw [List.countP_eq_zero]
  intro e he
  cases e with
  | settled i row moment =>
    have hi : i ≠ id := by
      rintro rfl
      exact h _ _ he
    simp [hi]
  | _ => simp

/-- The failures of a finished cycle. -/
theorem failures_settled {id : Nat} {moment : Time} {new : QueuedMessage} :
    ∀ {done : List (Nat × QueuedMessage)}, (done.map Prod.fst).Nodup → (id, new) ∈ done →
      failures (done.map fun e => .settled e.1 e.2 moment) id =
        if new.status = .failed ∨ new.status = .dead then 1 else 0
  | [], _, hm => by cases hm
  | e :: done, hn, hm => by
    rw [List.map_cons, List.nodup_cons] at hn
    have hcons : ∀ l, failures (.settled e.1 e.2 moment :: l) id =
        failures l id + if e.1 = id ∧ (e.2.status = .failed ∨ e.2.status = .dead) then 1 else 0 := by
      intro l
      simp [failures, List.countP_cons]
    rw [List.map_cons, hcons]
    rcases List.mem_cons.mp hm with rfl | hm
    · have hrest : failures (done.map fun e => .settled e.1 e.2 moment) id = 0 := by
        refine failures_eq_zero fun row m h => hn.1 ?_
        obtain ⟨e', he, heq⟩ := List.mem_map.mp h
        cases heq
        exact List.mem_map.mpr ⟨e', he, rfl⟩
      simp [hrest]
    · have hne : e.1 ≠ id := fun heq => hn.1 (heq ▸ List.mem_map_of_mem (f := Prod.fst) hm)
      rw [failures_settled hn.2 hm]
      simp [hne]

/-- A history that grows without settling the row. -/
theorem RowSound.append {events events' : List Event} {id : Nat} {row : QueuedMessage}
    (h : RowSound cfg events id row) (hnone : ∀ old moment, .settled id old moment ∉ events') :
    RowSound cfg (events ++ events') id row where
  count := by
    rw [failures_append, failures_eq_zero hnone]
    exact h.count
  bounded := h.bounded
  waiting := h.waiting
  dead := h.dead
  history old moment hmem := by
    rcases List.mem_append.mp hmem with hmem | hmem
    · exact h.history old moment hmem
    · exact absurd hmem (hnone old moment)

/-- The row after its attempt was committed. -/
theorem RowSound.settled {events : List Event} {id : Nat} {row : QueuedMessage} {moment : Time}
    {done : List (Nat × QueuedMessage)} {error : Option String} (h : RowSound cfg events id row)
    (hdue : row.Due moment) (hn : (done.map Prod.fst).Nodup)
    (hm : (id, attempt cfg moment row error) ∈ done) :
    RowSound cfg (events ++ done.map fun e => .settled e.1 e.2 moment) id (attempt cfg moment row error) := by
  have hwaiting := h.waiting hdue.1
  obtain ⟨hnotpending, hbounded, hscheduled, hdead⟩ := attempt_scheduled hwaiting id moment error
  have hcount := h.count
  have hpublished : row.status ≠ .published := by
    rcases hdue.1 with h | h <;> simp [h]
  rw [if_neg hpublished] at hcount
  refine ⟨?_, hbounded, ?_, fun hd => (hdead.mp hd).2, ?_⟩
  · rw [failures_append, failures_settled hn hm, attempt_attemptCount]
    cases hs : (attempt cfg moment row error).status <;> simp_all
  · rintro (hp | hf)
    · exact absurd hp hnotpending
    · have hnotdead : ¬ (attempt cfg moment row error).attemptCount = cfg.maxAttempts := fun heq => by
        have hd := hdead.mpr ⟨by simp [hf], heq⟩
        rw [hf] at hd
        cases hd
      omega
  · intro old m hmem
    rcases List.mem_append.mp hmem with hmem | hmem
    · obtain ⟨hle, hfailed⟩ := h.history old m hmem
      obtain ⟨hstatus, hretry⟩ := hfailed hdue.1
      refine ⟨by rw [attempt_attemptCount]; omega, ?_⟩
      rintro (hp | hf)
      · exact absurd hp hnotpending
      · refine ⟨hstatus, fun t ht => ⟨_, hscheduled hf, ?_⟩⟩
        obtain ⟨t', ht', hle'⟩ := hretry t ht
        have hmoment := hdue.2 t' ht'
        exact hle'.trans (hmoment.trans (Nat.le_add_right _ _))
    · obtain ⟨e, he, heq⟩ := List.mem_map.mp hmem
      cases heq
      have hsame : e.2 = attempt cfg moment row error := by
        have := List.inj_on_of_nodup_map hn he hm rfl
        rw [this]
      rw [hsame]
      refine ⟨le_refl _, ?_⟩
      rintro (hp | hf)
      · exact absurd hp hnotpending
      · exact ⟨hf, fun t ht => ⟨t, ht, le_refl t⟩⟩

/-! ## One step -/

theorem mem_worldSelect {s : World} {moment : Time} {limit id : Nat} {row : QueuedMessage}
    (h : (id, row) ∈ s.select moment limit) :
    s.rows.get? id = some row ∧ row.Due moment ∧
      ∀ worker c, s.workers.get? worker = some (some c) → id ∉ c.ids := by
  have h := List.mem_of_mem_take h
  rw [List.mem_filter, Dict.mem_select, decide_eq_true_eq] at h
  obtain ⟨⟨hrow, hdue⟩, hfree⟩ := h
  refine ⟨hrow, hdue, fun worker c hc hid => ?_⟩
  have hlocked : s.locked id = true := by
    unfold World.locked
    rw [List.any_eq_true]
    exact ⟨_, Dict.get?_eq_some.mp hc, by simpa using hid⟩
  simp [hlocked] at hfree

theorem select_nodup (s : World) (moment : Time) (limit : Nat) :
    ((s.select moment limit).map Prod.fst).Nodup := by
  refine List.Nodup.sublist ?_ s.rows.nodup
  exact ((List.take_sublist _ _).trans (List.filter_sublist.trans List.filter_sublist)).map _

/-- The committed row a cycle leaves untouched. -/
theorem Cycle.write_of_not_mem {c : Cycle} {id : Nat} (h : id ∉ c.done.map Prod.fst) (row : QueuedMessage) :
    c.write id row = row := by
  unfold Cycle.write
  rw [List.find?_eq_none.mpr fun e he => ?_]
  · rfl
  · rw [decide_eq_true_eq]
    rintro rfl
    exact h (List.mem_map_of_mem (f := Prod.fst) he)

/-- The row a cycle delivered. -/
theorem Cycle.write_of_mem {c : Cycle} {id : Nat} {new : QueuedMessage} (hn : (c.done.map Prod.fst).Nodup)
    (h : (id, new) ∈ c.done) (row : QueuedMessage) : c.write id row = new := by
  unfold Cycle.write
  cases hf : c.done.find? fun e => decide (e.1 = id) with
  | none =>
    have hnot := List.find?_eq_none.mp hf _ h
    simp at hnot
  | some e =>
    have hid := List.find?_some hf
    rw [decide_eq_true_eq] at hid
    have heq := List.inj_on_of_nodup_map hn (List.mem_of_find?_eq_some hf) h hid
    rw [heq]
    rfl

/-- A cycle whose rows stay as they are. -/
theorem CycleSound.transfer {s s' : World} {c : Cycle} (h : CycleSound cfg s c) (hclock : s.clock ≤ s'.clock)
    (hrows : ∀ id ∈ c.ids, s'.rows.get? id = s.rows.get? id) : CycleSound cfg s' c where
  moment := h.moment.trans hclock
  nodup := h.nodup
  todo id row hmem := by
    rw [hrows id (List.mem_map_of_mem (f := Prod.fst) (List.mem_append_right _ hmem))]
    exact h.todo id row hmem
  done id new hmem := by
    rw [hrows id (List.mem_map_of_mem (f := Prod.fst) (List.mem_append_left _ hmem))]
    exact h.done id new hmem

/-- The cycles of the workers after one of them changed its own. -/
theorem worker_cases {workers : Dict Nat (Option Cycle)} {worker worker' : Nat} {x : Option Cycle} {c : Cycle}
    (h : (workers.set worker x).get? worker' = some (some c)) :
    (worker' = worker ∧ x = some c) ∨ (worker' ≠ worker ∧ workers.get? worker' = some (some c)) := by
  by_cases hw : worker' = worker
  · subst hw
    rw [Dict.get?_set_self] at h
    exact .inl ⟨rfl, Option.some.inj h⟩
  · rw [Dict.get?_set_ne hw] at h
    exact .inr ⟨hw, h⟩

/-- A worker takes up rows nobody else holds. -/
theorem Apart.set {workers : Dict Nat (Option Cycle)} {worker : Nat} {x : Option Cycle} (h : Apart workers)
    (hx : ∀ c, x = some c → ∀ worker' c', worker' ≠ worker → workers.get? worker' = some (some c') →
      ∀ id ∈ c.ids, id ∉ c'.ids) : Apart (workers.set worker x) := by
  intro w w' c c' hc hc' hne id hid hid'
  rcases worker_cases hc with ⟨hw, hxc⟩ | ⟨hw, hc⟩
  · rcases worker_cases hc' with ⟨hw', -⟩ | ⟨hw', hc'⟩
    · exact hne (hw.trans hw'.symm)
    · exact hx c hxc w' c' hw' hc' id hid hid'
  · rcases worker_cases hc' with ⟨hw', hxc'⟩ | ⟨hw', hc'⟩
    · exact hx c' hxc' w c hw hc id hid' hid
    · exact h w w' c c' hc hc' hne id hid hid'

/-- New events that settle nothing. -/
theorem Sound.quiet {s s' : World} {events : List Event} (h : Sound cfg s) (hrows : s'.rows = s.rows)
    (hnext : s'.next = s.next) (hevents : s'.events = s.events ++ events)
    (hquiet : ∀ e ∈ events, ∃ worker id, e = .selected worker id ∨ ∃ time, e = .sent worker id time)
    (hrespects : ∀ a ∈ s.events, ∀ b ∈ events, a.Respects b)
    (hcycles : ∀ worker c, s'.workers.get? worker = some (some c) → CycleSound cfg s' c)
    (hapart : Apart s'.workers) : Sound cfg s' := by
  have hnone : ∀ id row moment, .settled id row moment ∉ events := by
    intro id row moment hmem
    obtain ⟨_, _, heq | ⟨_, heq⟩⟩ := hquiet _ hmem <;> cases heq
  refine ⟨?_, ?_, ?_, hcycles, hapart, ?_, ?_, ?_⟩
  · rw [hrows, hnext]
    exact h.fresh
  · intro id row moment hmem
    rw [hevents, List.mem_append] at hmem
    rw [hrows]
    exact h.known id row moment (hmem.resolve_right (hnone id row moment))
  · intro id row hrow
    rw [hrows] at hrow
    rw [hevents]
    exact (h.rows id row hrow).append (hnone id)
  · intro id hmem
    rw [hevents, List.mem_append] at hmem
    rw [hrows]
    refine h.kept id (hmem.resolve_right fun hmem => ?_)
    obtain ⟨_, _, heq | ⟨_, heq⟩⟩ := hquiet _ hmem <;> cases heq
  · intro e he
    rw [hevents, List.mem_append] at he
    rcases he with he | he
    · exact h.scheduled e he
    · obtain ⟨_, _, rfl | ⟨_, rfl⟩⟩ := hquiet e he <;> trivial
  · rw [hevents, List.pairwise_append]
    refine ⟨h.respects, List.pairwise_of_forall_mem_list fun a ha b hb => ?_, hrespects⟩
    obtain ⟨_, _, rfl | ⟨_, rfl⟩⟩ := hquiet a ha <;> trivial

theorem Sound.tick {s : World} {t : Time} (h : Sound cfg s) (le : s.clock ≤ t) :
    Sound cfg { s with clock := t } :=
  h.quiet rfl rfl (show s.events = s.events ++ [] from (List.append_nil _).symm) (by simp) (by simp)
    (fun worker c hc => (h.cycles worker c hc).transfer le fun _ _ => rfl) h.apart

theorem Sound.start {s : World} {worker limit : Nat} {moment : Time} (h : Sound cfg s)
    (le : moment ≤ s.clock) : Sound cfg { s with
      workers := s.workers.set worker (some ⟨moment, [], s.select moment limit⟩)
      events := s.events ++ (s.select moment limit).map fun e => .selected worker e.1 } := by
  refine h.quiet rfl rfl rfl ?_ ?_ ?_ ?_
  · intro e he
    obtain ⟨e, -, rfl⟩ := List.mem_map.mp he
    exact ⟨worker, e.1, .inl rfl⟩
  · intro a ha b hb
    obtain ⟨⟨id, row⟩, he, rfl⟩ := List.mem_map.mp hb
    cases a with
    | settled id' old m =>
      intro heq
      dsimp only at heq
      obtain ⟨hrow, hdue, -⟩ := mem_worldSelect he
      exact (((h.rows id row hrow).history old m (heq ▸ ha)).2 hdue.1).1
    | _ => trivial
  · intro worker' c hc
    rcases worker_cases hc with ⟨-, hnew⟩ | ⟨-, hold⟩
    · cases hnew
      refine ⟨le, select_nodup s moment limit, fun id row hmem => ?_, fun id new hmem => ?_⟩
      · obtain ⟨hrow, hdue, -⟩ := mem_worldSelect hmem
        exact ⟨hrow, hdue⟩
      · cases hmem
    · exact (h.cycles worker' c hold).transfer (le_refl _) fun _ _ => rfl
  · refine h.apart.set fun c hc worker' c' _ hc' id hid => ?_
    cases hc
    obtain ⟨⟨id, row⟩, he, rfl⟩ := List.mem_map.mp hid
    exact (mem_worldSelect he).2.2 worker' c' hc'

theorem Sound.deliver {s : World} {worker id : Nat} {c : Cycle} {row : QueuedMessage}
    {todo : List (Nat × QueuedMessage)} (h : Sound cfg s)
    (active : s.workers.get? worker = some (some c)) (next : c.todo = (id, row) :: todo)
    (error : Option String) : Sound cfg { s with
      workers := s.workers.set worker (some { c with
        done := c.done ++ [(id, attempt cfg c.moment row error)]
        todo := todo })
      events := s.events ++ [.sent worker id s.clock] } := by
  have hc := h.cycles worker c active
  obtain ⟨hrow, hdue⟩ := hc.todo id row (by rw [next]; exact List.mem_cons_self)
  have hids : ∀ x : Cycle, x = { c with done := c.done ++ [(id, attempt cfg c.moment row error)], todo := todo } →
      x.ids = c.ids := by
    rintro _ rfl
    simp [Cycle.ids, next]
  refine h.quiet rfl rfl rfl ?_ ?_ ?_ ?_
  · intro e he
    rw [List.mem_singleton] at he
    exact ⟨worker, id, .inr ⟨s.clock, he⟩⟩
  · intro a ha b hb
    rw [List.mem_singleton] at hb
    subst hb
    cases a with
    | settled id' old m =>
      rintro rfl
      obtain ⟨hstatus, hretry⟩ := ((h.rows _ row hrow).history old m ha).2 hdue.1
      refine ⟨hstatus, fun t ht => ?_⟩
      obtain ⟨t', ht', hle⟩ := hretry t ht
      exact hle.trans ((hdue.2 t' ht').trans hc.moment)
    | _ => trivial
  · intro worker' c' hc'
    rcases worker_cases hc' with ⟨-, hnew⟩ | ⟨-, hold⟩
    · cases hnew
      refine ⟨hc.moment, ?_, fun i r hmem => hc.todo i r ?_, fun i new hmem => ?_⟩
      · rw [hids _ rfl]
        exact hc.nodup
      · rw [next]
        exact List.mem_cons_of_mem _ hmem
      · rcases List.mem_append.mp hmem with hmem | hmem
        · exact hc.done i new hmem
        · rw [List.mem_singleton] at hmem
          cases hmem
          exact ⟨row, error, hrow, hdue, rfl⟩
    · exact (h.cycles worker' c' hold).transfer (le_refl _) fun _ _ => rfl
  · refine h.apart.set fun x hx worker' c' hne hc' i hi => ?_
    rw [hids x (Option.some.inj hx).symm] at hi
    exact h.apart worker worker' c c' active hc' hne.symm i hi

theorem Sound.rollback {s : World} {worker : Nat} (h : Sound cfg s) :
    Sound cfg { s with workers := s.workers.set worker none } := by
  refine h.quiet rfl rfl (show s.events = s.events ++ [] from (List.append_nil _).symm) (by simp) (by simp) ?_ ?_
  · intro worker' c hc
    rcases worker_cases hc with ⟨-, hnew⟩ | ⟨-, hold⟩
    · cases hnew
    · exact (h.cycles worker' c hold).transfer (le_refl _) fun _ _ => rfl
  · exact h.apart.set fun c hc => nomatch hc

theorem Sound.enqueue {s : World} (h : Sound cfg s) (message : OutboxMessage) : Sound cfg { s with
    rows := s.rows.set s.next { message := message }
    next := s.next + 1
    events := s.events ++ [.enqueued s.next] } := by
  have hfresh := h.fresh s.next (le_refl _)
  have hkeep : ∀ id, (s.rows.get? id).isSome →
      (s.rows.set s.next { message := message }).get? id = s.rows.get? id := by
    intro id hid
    refine Dict.get?_set_ne ?_ _
    rintro rfl
    rw [hfresh] at hid
    cases hid
  have hnone : ∀ old id moment, Event.settled id old moment ∉ [Event.enqueued s.next] := by
    intro old id moment hmem
    simp at hmem
  refine ⟨fun i hi => ?_, ?_, ?_, ?_, h.apart, ?_, ?_, ?_⟩
  · dsimp only at hi ⊢
    rw [Dict.get?_set_ne (by omega)]
    exact h.fresh i (by omega)
  · intro id row moment hmem
    have hold := h.known id row moment ((List.mem_append.mp hmem).resolve_right (hnone row id moment))
    dsimp only
    rw [hkeep id hold]
    exact hold
  · intro id row hrow
    refine RowSound.append ?_ fun old moment => hnone old id moment
    by_cases hid : id = s.next
    · subst hid
      rw [Dict.get?_set_self] at hrow
      cases hrow
      have hunsettled : ∀ row moment, Event.settled s.next row moment ∉ s.events := fun row moment hmem => by
        have hold := h.known _ row moment hmem
        rw [hfresh] at hold
        cases hold
      refine ⟨?_, Nat.zero_le _, fun _ => cfg.positive, (fun hd => nomatch hd),
        fun old moment hmem => absurd hmem (hunsettled old moment)⟩
      rw [failures_eq_zero hunsettled]
      rfl
    · rw [Dict.get?_set_ne hid] at hrow
      exact h.rows id row hrow
  · intro worker c hc
    refine (h.cycles worker c hc).transfer (le_refl _) fun id hid => hkeep id ?_
    obtain ⟨⟨i, row⟩, hmem, rfl⟩ := List.mem_map.mp hid
    rcases List.mem_append.mp hmem with hmem | hmem
    · obtain ⟨_, _, hrow, -⟩ := (h.cycles worker c hc).done i row hmem
      rw [hrow]
      rfl
    · rw [((h.cycles worker c hc).todo i row hmem).1]
      rfl
  · intro id hmem
    dsimp only
    by_cases hid : id = s.next
    · rw [hid, Dict.get?_set_self]
      rfl
    · rw [List.mem_append, List.mem_singleton] at hmem
      have hold := h.kept id (hmem.resolve_right fun heq => hid (by cases heq; rfl))
      rw [hkeep id hold]
      exact hold
  · intro e he
    rcases List.mem_append.mp he with he | he
    · exact h.scheduled e he
    · rw [List.mem_singleton] at he
      subst he
      trivial
  · rw [List.pairwise_append]
    refine ⟨h.respects, List.pairwise_singleton _ _, fun a _ b hb => ?_⟩
    rw [List.mem_singleton] at hb
    subst hb
    cases a <;> trivial

theorem Sound.commit {s : World} {worker : Nat} {c : Cycle} (h : Sound cfg s)
    (active : s.workers.get? worker = some (some c)) (finished : c.todo = []) : Sound cfg { s with
      rows := s.rows.adjust c.write
      workers := s.workers.set worker none
      events := s.events ++ c.done.map fun e => .settled e.1 e.2 c.moment } := by
  have hc := h.cycles worker c active
  have hids : c.ids = c.done.map Prod.fst := by simp [Cycle.ids, finished]
  have hn : (c.done.map Prod.fst).Nodup := hids ▸ hc.nodup
  have hsome : ∀ id, ((s.rows.adjust c.write).get? id).isSome = (s.rows.get? id).isSome := by
    intro id
    rw [Dict.get?_adjust, Option.isSome_map]
  have hsettled : ∀ id row moment, Event.settled id row moment ∈
      (c.done.map fun e => Event.settled e.1 e.2 c.moment) → (id, row) ∈ c.done ∧ moment = c.moment := by
    intro id row moment hmem
    obtain ⟨e, he, heq⟩ := List.mem_map.mp hmem
    cases heq
    exact ⟨he, rfl⟩
  refine ⟨fun i hi => ?_, ?_, ?_, ?_, h.apart.set (fun _ hx => nomatch hx), ?_, ?_, ?_⟩
  · dsimp only at hi ⊢
    rw [Dict.get?_adjust, h.fresh i hi]
    rfl
  · intro id row moment hmem
    dsimp only
    rw [hsome]
    rcases List.mem_append.mp hmem with hmem | hmem
    · exact h.known id row moment hmem
    · obtain ⟨_, _, hrow, -⟩ := hc.done id row (hsettled id row moment hmem).1
      rw [hrow]
      rfl
  · intro id row hrow
    dsimp only at hrow ⊢
    rw [Dict.get?_adjust, Option.map_eq_some_iff] at hrow
    obtain ⟨old, hold, rfl⟩ := hrow
    by_cases hid : id ∈ c.done.map Prod.fst
    · obtain ⟨⟨i, new⟩, hmem, rfl⟩ := List.mem_map.mp hid
      obtain ⟨row, error, hrow, hdue, rfl⟩ := hc.done i new hmem
      rw [Cycle.write_of_mem hn hmem]
      exact (h.rows i row hrow).settled hdue hn hmem
    · rw [Cycle.write_of_not_mem hid]
      refine (h.rows id old hold).append fun row moment hmem => hid ?_
      exact List.mem_map_of_mem (f := Prod.fst) (hsettled id row moment hmem).1
  · intro worker' c' hc'
    rcases worker_cases hc' with ⟨-, hnew⟩ | ⟨hne, hold⟩
    · cases hnew
    · refine (h.cycles worker' c' hold).transfer (le_refl _) fun id hid => ?_
      have hnot : id ∉ c.done.map Prod.fst := fun hin =>
        h.apart worker worker' c c' active hold hne.symm id (hids ▸ hin) hid
      dsimp only
      rw [Dict.get?_adjust]
      cases s.rows.get? id with
      | none => rfl
      | some row => rw [Option.map_some, Cycle.write_of_not_mem hnot]
  · intro id hmem
    dsimp only
    rw [hsome]
    refine h.kept id ((List.mem_append.mp hmem).resolve_right fun hmem => ?_)
    obtain ⟨_, _, heq⟩ := List.mem_map.mp hmem
    cases heq
  · intro e he
    rcases List.mem_append.mp he with he | he
    · exact h.scheduled e he
    · obtain ⟨⟨id, new⟩, hmem, rfl⟩ := List.mem_map.mp he
      obtain ⟨row, error, hrow, hdue, rfl⟩ := hc.done id new hmem
      exact attempt_scheduled ((h.rows id row hrow).waiting hdue.1) id c.moment error
  · rw [List.pairwise_append]
    refine ⟨h.respects, ?_, fun a ha b hb => ?_⟩
    · rw [List.pairwise_map]
      refine (List.pairwise_map.mp hn).imp fun hne heq => ?_
      exact absurd heq.symm hne
    · obtain ⟨⟨id, new⟩, hmem, rfl⟩ := List.mem_map.mp hb
      obtain ⟨row, error, hrow, hdue, rfl⟩ := hc.done id new hmem
      cases a with
      | settled id' old m =>
        rintro rfl
        have hle := ((h.rows _ row hrow).history old m ha).1
        rw [attempt_attemptCount]
        exact Nat.lt_succ_of_le hle
      | _ => trivial

/-- Every step keeps the queue, the workers and the history sound. -/
theorem Step.sound {s s' : World} (h : Step cfg s s') (hs : Sound cfg s) : Sound cfg s' := by
  cases h with
  | tick le => exact hs.tick le
  | enqueue message => exact hs.enqueue message
  | start _ le => exact hs.start le
  | deliver active next error => exact hs.deliver active next error
  | commit active finished => exact hs.commit active finished
  | rollback _ => exact hs.rollback

theorem sound_empty : Sound cfg World.empty where
  fresh _ _ := rfl
  known _ _ _ hmem := nomatch hmem
  rows _ _ hrow := nomatch hrow
  cycles _ _ hc := nomatch hc
  apart _ _ _ _ hc := nomatch hc
  kept _ hmem := nomatch hmem
  scheduled _ he := nomatch he
  respects := List.Pairwise.nil

theorem reaches_sound {s : World} (h : Reaches cfg World.empty s) : Sound cfg s := by
  induction h with
  | refl => exact sound_empty
  | tail _ hstep ih => exact hstep.sound ih

/-! ## The retry machine -/

variable (cfg) in
/-- What the history of a run promises. -/
structure RetrySound (s : World) : Prop where
  settled : s.events.Pairwise fun a b => ∀ id row moment, a = .settled id row moment →
    (row.status = .published ∨ row.status = .dead →
      (∀ worker, b ≠ .selected worker id) ∧ ∀ worker time, b ≠ .sent worker id time) ∧
    (∀ t ∈ row.nextRetryAt, ∀ worker time, b = .sent worker id time → t ≤ time) ∧
    (∀ later moment', b = .settled id later moment' → row.status = .failed → later.status = .failed →
      ∃ delay delay', row.nextRetryAt = some (moment + delay) ∧ later.nextRetryAt = some (moment' + delay') ∧
        delay ≤ delay' ∧ delay' ≤ 1000 * cfg.maxBackoffSeconds)
  attempts : ∀ id row, s.rows.get? id = some row → row.attemptCount ≤ cfg.maxAttempts ∧
    (row.status = .dead ↔ failures s.events id = cfg.maxAttempts)
  kept : ∀ id, .enqueued id ∈ s.events → (s.rows.get? id).isSome

/-- The last allowed failure is the one that kills a row. -/
theorem RowSound.dead_iff {events : List Event} {id : Nat} {row : QueuedMessage}
    (h : RowSound cfg events id row) : row.status = .dead ↔ failures events id = cfg.maxAttempts := by
  have hcount := h.count
  have hbounded := h.bounded
  cases hs : row.status with
  | dead =>
    have hdead := h.dead hs
    simp only [hs] at hcount
    simp at hcount
    simp
    omega
  | published =>
    simp only [hs, if_true] at hcount
    simp
    omega
  | pending =>
    have hwaiting := h.waiting (.inl hs)
    simp only [hs] at hcount
    simp at hcount
    simp
    omega
  | failed =>
    have hwaiting := h.waiting (.inr hs)
    simp only [hs] at hcount
    simp at hcount
    simp
    omega

/-- The retry machine is sound over every run of any number of workers. -/
theorem reaches_retrySound {s : World} (h : Reaches cfg World.empty s) : RetrySound cfg s := by
  have hs := reaches_sound h
  refine ⟨?_, fun id row hrow => ?_, hs.kept⟩
  · refine List.Pairwise.imp_of_mem ?_ hs.respects
    rintro a b ha hb hab id row moment rfl
    have hrow := hs.scheduled _ ha
    refine ⟨fun hfinal => ⟨?_, ?_⟩, ?_, ?_⟩
    · rintro worker rfl
      rcases hfinal with hfinal | hfinal <;> simp [hab rfl] at hfinal
    · rintro worker time rfl
      rcases hfinal with hfinal | hfinal <;> simp [(hab rfl).1] at hfinal
    · rintro t ht worker time rfl
      exact (hab rfl).2 t ht
    · rintro later moment' rfl hfailed hfailed'
      refine ⟨_, _, hrow.2.2.1 hfailed, (hs.scheduled _ hb).2.2.1 hfailed', ?_, ?_⟩
      · exact Nat.mul_le_mul_left _ (retryDelaySeconds_mono (Nat.le_of_lt (hab rfl)))
      · exact Nat.mul_le_mul_left _ (retryDelaySeconds_le _)
  · exact ⟨(hs.rows id row hrow).bounded, (hs.rows id row hrow).dead_iff⟩

/-- An event the transport refuses once and takes the second time. -/
theorem reaches_one_retry :
    ∃ s : World, Reaches {} World.empty s ∧ s.rows.values.map QueuedMessage.status = [.published] := by
  have h : Reaches {} World.empty _ := .single (.enqueue ⟨.orderCreated, .order, 1, "order.created:order:1", [], none⟩)
  have h := h.tail (Step.tick (t := 5) (by decide))
  have h := h.tail (@Step.start {} _ 0 100 5 rfl (by decide))
  have h := h.tail (@Step.deliver {} _ 0 _ _ _ _ rfl rfl (some "broker down"))
  have h := h.tail (@Step.commit {} _ 0 _ rfl rfl)
  have h := h.tail (Step.tick (t := 40000) (by decide))
  have h := h.tail (@Step.start {} _ 1 100 40000 rfl (by decide))
  have h := h.tail (@Step.deliver {} _ 1 _ _ _ _ rfl rfl none)
  have h := h.tail (@Step.commit {} _ 1 _ rfl rfl)
  exact ⟨_, h, rfl⟩

theorem reaches_retrySound_one_retry :
    ∃ s : World, s.rows.values.map QueuedMessage.status = [.published] ∧ RetrySound {} s := by
  obtain ⟨s, h, hstatus⟩ := reaches_one_retry
  exact ⟨s, hstatus, reaches_retrySound h⟩

end NovaCommerce.Publisher
