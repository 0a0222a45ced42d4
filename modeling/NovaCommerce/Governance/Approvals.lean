import NovaCommerce.Governance.Service

/-!
# Approvals are executed once

* `Story` : what happened to a request, by its status; `Desk.Kept` : every request has its story, and the facts are what
  the executed payloads made of them;
* `deskDiscipline` : what a session may rely on while it holds the row of a request;
* `safe_session` : every session of the desk keeps the stories, whatever the others commit;
* `approvals_executed_once` : over any interleaving of statements, a payload is executed at most once, behind its
  approval.
-/

namespace NovaCommerce.Governance

open Sql

section

variable {W K Payload Receipt X : Type}

/-! ## Stories -/

def Entry.actionId : Entry W Payload → Nat
  | .decided record => record.resourceId
  | .performed actionId _ _ _ => actionId

/-- What happened to one request, in order. -/
def Desk.historyOf (d : Desk W Payload Receipt) (actionId : Nat) : List (Entry W Payload) :=
  d.history.filter fun e => decide (e.actionId = actionId)

def Entry.effect : Entry W Payload → W → W
  | .decided _ => id
  | .performed _ _ _ effect => effect

/-- The facts after what happened. -/
def replay (facts : W) (history : List (Entry W Payload)) : W := history.foldl (fun w e => e.effect w) facts

/-- The record says who decided the request, and how. -/
structure AuditRecord.Decides (r : AuditRecord) (actionId : Nat) (row : PendingAction Payload Receipt) (approve : Bool) : Prop where
  resourceId : r.resourceId = actionId
  actor : row.decidedBy = some r.actorId
  merchant : r.merchantId = row.merchantId
  after : r.after = if approve then .approved else .rejected

/-- What happened to a request, by its status. No request is left executing. -/
inductive Story (env : Deployment W K Payload Receipt X) (actionId : Nat) (row : PendingAction Payload Receipt) :
    List (Entry W Payload) → Prop where
  | undecided (status : row.status = .pending ∨ row.status = .expired) (nobody : row.decidedBy = none) : Story env actionId row []
  | rejected {r : AuditRecord} (status : row.status = .rejected) (decides : r.Decides actionId row false) :
      Story env actionId row [.decided r]
  | approved {r : AuditRecord} (status : row.status = .approved ∨ row.status = .failed ∨ row.status = .expired)
      (decides : r.Decides actionId row true) (risk : row.riskLevel ≠ .critical) : Story env actionId row [.decided r]
  | succeeded {r : AuditRecord} {now : Time} {effect : W → W} (status : row.status = .succeeded)
      (decides : r.Decides actionId row true) (risk : row.riskLevel ≠ .critical) (unexpired : now < row.expiresAt)
      (integrity : env.payloadHash row.payload = row.payloadHash) :
      Story env actionId row [.decided r, .performed actionId row.payload now effect]

/-- Every request has its story, and the facts are what was executed. -/
structure Desk.Kept (env : Deployment W K Payload Receipt X) (facts : W) (d : Desk W Payload Receipt) : Prop where
  facts : d.facts = replay facts d.history
  told : ∀ id row, d.actions.get? id = some row → Story env id row (d.historyOf id)
  named : ∀ e ∈ d.history, d.actions.get? e.actionId ≠ none

/-! ## What a session relies on -/

/-- A request keeps what was asked for, and what was decided; an executed one stays as it is. -/
structure PendingAction.Evolves (a a' : PendingAction Payload Receipt) : Prop where
  merchantId : a'.merchantId = a.merchantId
  riskLevel : a'.riskLevel = a.riskLevel
  payload : a'.payload = a.payload
  payloadHash : a'.payloadHash = a.payloadHash
  expiresAt : a'.expiresAt = a.expiresAt
  decided : ∀ u, a.decidedBy = some u → a'.decidedBy = some u
  succeeded : a.status = .succeeded → a' = a

theorem evolves_refl (a : PendingAction Payload Receipt) : a.Evolves a := ⟨rfl, rfl, rfl, rfl, rfl, fun _ h => h, fun _ => rfl⟩

theorem PendingAction.Evolves.trans {a b c : PendingAction Payload Receipt} (h : a.Evolves b) (h' : b.Evolves c) : a.Evolves c where
  merchantId := h'.merchantId.trans h.merchantId
  riskLevel := h'.riskLevel.trans h.riskLevel
  payload := h'.payload.trans h.payload
  payloadHash := h'.payloadHash.trans h.payloadHash
  expiresAt := h'.expiresAt.trans h.expiresAt
  decided u hu := h'.decided u (h.decided u hu)
  succeeded hs := by
    obtain rfl := h.succeeded hs
    exact h'.succeeded hs

/-- Requests evolve, the row of a request that a session holds is as it was, and nobody uses an id that it drew. -/
def deskDiscipline : Discipline (Desk W Payload Receipt) (RowLock K) where
  rely h d d' := (∀ id row, d.actions.get? id = some row →
    ∃ row', d'.actions.get? id = some row' ∧ row.Evolves row' ∧ (h (.row (.action id)) → row' = row)) ∧
    ∀ id, h (.id id) → d.actions.get? id = none → d'.actions.get? id = none
  fresh i d := d.actions.get? i = none
  rely_refl _ _ := ⟨fun id row hrow => ⟨row, hrow, evolves_refl row, fun _ => rfl⟩, fun _ _ hnone => hnone⟩
  rely_trans hab hbc := by
    refine ⟨fun id row hrow => ?_, fun id hid hnone => hbc.2 id hid (hab.2 id hid hnone)⟩
    obtain ⟨row₁, hrow₁, hevolves₁, hheld₁⟩ := hab.1 id row hrow
    obtain ⟨row₂, hrow₂, hevolves₂, hheld₂⟩ := hbc.1 id row₁ hrow₁
    exact ⟨row₂, hrow₂, hevolves₁.trans hevolves₂, fun hl => (hheld₂ hl).trans (hheld₁ hl)⟩
  rely_mono hh hab := by
    refine ⟨fun id row hrow => ?_, fun id hid hnone => hab.2 id (hh _ hid) hnone⟩
    obtain ⟨row', hrow', hevolves, hheld⟩ := hab.1 id row hrow
    exact ⟨row', hrow', hevolves, fun hl => hheld (hh _ hl)⟩

/-- A request that is held. -/
structure Holds (h : Lock (RowLock K) → Prop) (d : Desk W Payload Receipt) (i : Nat) (row : PendingAction Payload Receipt) : Prop where
  lock : h (.row (.action i))
  row : d.actions.get? i = some row

theorem Holds.later {h h' : Lock (RowLock K) → Prop} {d d' : Desk W Payload Receipt} {i : Nat}
    {row : PendingAction Payload Receipt} (hold : Holds h d i row) (hh : ∀ l, h l → h' l) (hrely : deskDiscipline.rely h d d') :
    Holds h' d' i row := by
  obtain ⟨row', hrow', -, hsame⟩ := hrely.1 i row hold.row
  obtain rfl := hsame hold.lock
  exact ⟨hh _ hold.lock, hrow'⟩

/-! ## Changes of one request -/

/-- A request changes, with what happened to it. -/
def Desk.changed (d : Desk W Payload Receipt) (i : Nat) (f : PendingAction Payload Receipt → PendingAction Payload Receipt)
    (entries : List (Entry W Payload)) : Desk W Payload Receipt :=
  ⟨d.actions.modify i f, replay d.facts entries, d.history ++ entries⟩

theorem changed_nil (d : Desk W Payload Receipt) (i : Nat) (f : PendingAction Payload Receipt → PendingAction Payload Receipt) :
    { d with actions := d.actions.modify i f } = d.changed i f [] := by
  unfold Desk.changed
  rw [List.append_nil]
  rfl

theorem replay_append (facts : W) (history entries : List (Entry W Payload)) :
    replay facts (history ++ entries) = replay (replay facts history) entries := List.foldl_append

theorem historyOf_append {d : Desk W Payload Receipt} {entries : List (Entry W Payload)} {i : Nat}
    (hentries : ∀ e ∈ entries, e.actionId = i) (j : Nat) :
    (d.history ++ entries).filter (fun e => decide (e.actionId = j)) = d.historyOf j ++ if j = i then entries else [] := by
  rw [List.filter_append]
  congr 1
  split_ifs with hj
  · exact List.filter_eq_self.mpr fun e he => decide_eq_true ((hentries e he).trans hj.symm)
  · refine List.filter_eq_nil_iff.mpr fun e he h => hj ?_
    rw [← hentries e he]
    exact (of_decide_eq_true h).symm

variable {env : Deployment W K Payload Receipt X} {facts : W}

/-- A session that holds a request may go on with its story. -/
theorem publishes_changed {h : Lock (RowLock K) → Prop} {d : Desk W Payload Receipt} (hd : d.Kept env facts) {i : Nat}
    {row : PendingAction Payload Receipt} (hold : Holds h d i row) {f : PendingAction Payload Receipt → PendingAction Payload Receipt}
    {entries : List (Entry W Payload)} (hevolves : row.Evolves (f row)) (hentries : ∀ e ∈ entries, e.actionId = i)
    (hstory : Story env i row (d.historyOf i) → Story env i (f row) (d.historyOf i ++ entries)) :
    deskDiscipline.Publishes (Desk.Kept env facts) h d (d.changed i f entries) := by
  have hnone : ∀ j, d.actions.get? j = none → (d.changed i f entries).actions.get? j = none :=
    fun j hj => Dict.get?_modify_none hj i f
  refine ⟨⟨?_, fun j b hb => ?_, fun e he => ?_⟩, fun h' hdisjoint => ⟨fun j b hb => ?_, fun j _ => hnone j⟩, fun j _ => hnone j⟩
  · show replay d.facts entries = replay facts (d.history ++ entries)
    rw [replay_append, hd.facts]
  · show Story env j b ((d.history ++ entries).filter fun e => decide (e.actionId = j))
    rw [historyOf_append hentries]
    have hb : (d.actions.modify i f).get? j = some b := hb
    by_cases hj : j = i
    · subst hj
      rw [Dict.get?_modify_self, hold.row] at hb
      cases hb
      rw [if_pos rfl]
      exact hstory (hd.told j row hold.row)
    · rw [Dict.get?_modify_ne hj] at hb
      rw [if_neg hj, List.append_nil]
      exact hd.told j b hb
  · have hthere : d.actions.get? e.actionId ≠ none := by
      rcases List.mem_append.mp he with hold' | hnew
      · exact hd.named e hold'
      · rw [hentries e hnew, hold.row]
        exact Option.some_ne_none row
    intro hnone
    have hnone : (d.actions.modify i f).get? e.actionId = none := hnone
    rw [Dict.get?_modify] at hnone
    split_ifs at hnone
    · exact hthere (Option.map_eq_none_iff.mp hnone)
    · exact hthere hnone
  · by_cases hj : j = i
    · subst hj
      rw [hold.row] at hb
      cases hb
      refine ⟨f row, ?_, hevolves, fun hl => absurd hold.lock (hdisjoint _ hl)⟩
      show (d.actions.modify j f).get? j = _
      rw [Dict.get?_modify_self, hold.row]
      rfl
    · refine ⟨b, ?_, evolves_refl b, fun _ => rfl⟩
      show (d.actions.modify i f).get? j = _
      rw [Dict.get?_modify_ne hj, hb]

/-! ## Sessions that hold a request -/

section

variable {α : Type} {ok : Admits (Desk W Payload Receipt) (RowLock K) (Failure X) (Except (Failure X) α)}
  {Q : Except (Failure X) α → (Lock (RowLock K) → Prop) → (Desk W Payload Receipt → Desk W Payload Receipt) →
    Desk W Payload Receipt → Prop}
  {h : Lock (RowLock K) → Prop} {base : Desk W Payload Receipt} {i : Nat} {row : PendingAction Payload Receipt}

/-- A change of the request that is held is published. -/
theorem wp_commit_changed (f : PendingAction Payload Receipt → PendingAction Payload Receipt) (entries : List (Entry W Payload))
    (hold : Holds h base i row) {pending : Desk W Payload Receipt → Desk W Payload Receipt}
    (hpending : ∀ d, pending d = d.changed i f entries) (hevolves : row.Evolves (f row))
    (hentries : ∀ e ∈ entries, e.actionId = i)
    (hstory : ∀ told, Story env i row told → Story env i (f row) (told ++ entries))
    {g : Unit → Tx W K Payload Receipt X α}
    (hnext : ∀ d, d.actions.get? i = some (f row) →
      deskDiscipline.Wp (Desk.Kept env facts) ok Q (answer (g ())) (fun _ => False) id d) :
    deskDiscipline.Wp (Desk.Kept env facts) ok Q (answer (commitNow >>= g)) h pending base := by
  refine Discipline.wp_answer_commitNow (fun d hrely hd _ => ?_) fun d hrely hd => ?_
  · rw [hpending]
    exact publishes_changed hd (hold.later (fun _ hl => hl) hrely) hevolves hentries (hstory _)
  · refine hnext _ ?_
    rw [hpending]
    show (d.actions.modify i f).get? i = _
    rw [Dict.get?_modify_self, (hold.later (fun _ hl => hl) hrely).row]
    rfl

/-- A request that is held is written, the change is committed, and the session raises. -/
theorem wp_write_raise (herror : ∀ x d, Q (.error x) (fun _ => False) id d) (hold : Holds h base i row)
    {pending : Desk W Payload Receipt → Desk W Payload Receipt} {f g : PendingAction Payload Receipt → PendingAction Payload Receipt}
    (hpending : ∀ d, pending d = { d with actions := d.actions.modify i f })
    (hevolves : row.Evolves (g (f row))) (hstory : ∀ told, Story env i row told → Story env i (g (f row)) told) (x : Failure X) :
    deskDiscipline.Wp (Desk.Kept env facts) ok Q (answer (do
      writeAction i g
      commitNow
      raise x)) h pending base := by
  unfold writeAction
  refine Discipline.wp_answer_update (wp_commit_changed (g ∘ f) [] hold (fun d => ?_) hevolves (List.forall_mem_nil _) ?_ ?_)
  · rw [← changed_nil, Function.comp_apply, hpending]
    show Desk.mk ((d.actions.modify i f).modify i g) _ _ = Desk.mk (d.actions.modify i (g ∘ f)) _ _
    rw [Dict.modify_modify]
    rfl
  · intro told htold
    rw [List.append_nil]
    exact hstory told htold
  · exact fun d _ => herror x d

/-- A request that is still as it was read. -/
theorem untouched (i : Nat) (d : Desk W Payload Receipt) : id d = { d with actions := d.actions.modify i fun v => v } := by
  show d = { d with actions := d.actions.modify i id }
  rw [Dict.modify_id]

end

/-! ## Every session -/

theorem evolves_expired {a : PendingAction Payload Receipt} (h : a.status ≠ .succeeded) (now : Time) : a.Evolves (a.expired now) :=
  ⟨rfl, rfl, rfl, rfl, rfl, fun _ hu => hu, fun hs => absurd hs h⟩

theorem AuditRecord.Decides.congr {r : AuditRecord} {actionId : Nat} {a a' : PendingAction Payload Receipt} {approve : Bool}
    (h : r.Decides actionId a approve) (decidedBy : a'.decidedBy = a.decidedBy) (merchantId : a'.merchantId = a.merchantId) :
    r.Decides actionId a' approve :=
  ⟨h.resourceId, decidedBy.trans h.actor, h.merchant.trans merchantId.symm, h.after⟩

theorem Story.of_pending {i : Nat} {row : PendingAction Payload Receipt} {told : List (Entry W Payload)} (h : Story env i row told)
    (hpending : row.status = .pending) : told = [] ∧ row.decidedBy = none := by
  cases h with
  | undecided _ nobody => exact ⟨rfl, nobody⟩
  | rejected status _ => exact absurd (hpending.symm.trans status) (by decide)
  | approved status _ _ =>
    rw [hpending] at status
    exact absurd status (by decide)
  | succeeded status _ _ _ _ => exact absurd (hpending.symm.trans status) (by decide)

/-- What a decision answers. -/
structure Decided (principal : Identity.Principal) (actionId : Nat) (requestHash : String) (approve : Bool) (scope : Option Nat)
    (d : Desk W Payload Receipt) : Prop where
  row : ∃ row, d.actions.get? actionId = some row ∧ row.payloadHash = requestHash ∧ row.decidedBy = some principal.userId ∧
    (approve = true → row.riskLevel ≠ .critical) ∧ ∀ m ∈ scope, row.merchantId = m

section

variable {ok : Admits (Desk W Payload Receipt) (RowLock K) (Failure X) (Except (Failure X) (PendingAction Payload Receipt))}
  {Q : Except (Failure X) (PendingAction Payload Receipt) → (Lock (RowLock K) → Prop) →
    (Desk W Payload Receipt → Desk W Payload Receipt) → Desk W Payload Receipt → Prop}
  {h : Lock (RowLock K) → Prop} {base : Desk W Payload Receipt} {i : Nat} {row : PendingAction Payload Receipt}

theorem wp_decideHeld (herror : ∀ x d, Q (.error x) (fun _ => False) id d) {principal : Identity.Principal} {requestHash : String}
    {approve : Bool} {scope : Option Nat}
    (hvalue : ∀ a d, Decided principal i requestHash approve scope d → Q (.ok a) (fun _ => False) id d)
    (hold : Holds h base i row) (hscope : ∀ m ∈ scope, row.merchantId = m) (reason : Option String) (now : Time) :
    deskDiscipline.Wp (Desk.Kept env facts) ok Q (answer (decideHeld principal i row requestHash approve reason now)) h id base := by
  unfold decideHeld
  refine Discipline.wp_answer_raiseIf (fun _ => herror _ _) fun hrisk => ?_
  split_ifs with hdue hopen hknown
  · have hstatus : row.status ≠ .succeeded := by
      rw [hdue.1]
      decide
    refine wp_write_raise herror hold (untouched i) (evolves_expired hstatus now) (fun told htold => ?_) _
    cases htold with
    | undecided _ nobody => exact .undecided (.inr rfl) nobody
    | rejected status _ => exact absurd (hdue.1.symm.trans status) (by decide)
    | approved _ decides risk => exact .approved (.inr (.inr rfl)) (decides.congr rfl rfl) risk
    | succeeded status _ _ _ _ => exact absurd status hstatus
  · exact herror _ _
  · exact herror _ _
  · have hpending : row.status = .pending := not_not.mp hopen
    refine Discipline.wp_answer_raiseIf (fun _ => herror _ _) fun hhash => ?_
    refine Discipline.wp_answer_lock fun d hrely hd _ => ?_
    split_ifs
    · obtain ⟨-, hnobody⟩ := (hd.told i row (hold.later (fun _ hl => hl) hrely).row).of_pending hpending
      unfold writeAction
      refine Discipline.wp_answer_update (Discipline.wp_answer_update ?_)
      refine wp_commit_changed (.decidedAs principal approve reason now) [.decided (decisionRecord principal i row approve)]
        (hold.later (fun _ hl => .inl hl) hrely) (fun d => rfl) ⟨rfl, rfl, rfl, rfl, rfl, fun u hu => ?_, fun hs => ?_⟩ (fun e he => ?_) (fun told htold => ?_)
        fun d hrow => ?_
      · rw [hnobody] at hu
        cases hu
      · exact absurd (hpending.symm.trans hs) (by decide)
      · rw [List.mem_singleton.mp he]
        rfl
      · rw [(htold.of_pending hpending).1, List.nil_append]
        cases approve with
        | true => exact .approved (.inl rfl) ⟨rfl, rfl, rfl, rfl⟩ fun hcritical => hrisk ⟨rfl, hcritical⟩
        | false => exact .rejected rfl ⟨rfl, rfl, rfl, rfl⟩
      · exact hvalue _ d ⟨_, hrow, not_not.mp hhash, rfl, fun happrove hcritical => hrisk ⟨happrove, hcritical⟩, hscope⟩
    · exact herror _ _

/-- The row that is locked is held. -/
theorem wp_getForUpdate {actionId : Nat} {scope : Option Nat}
    {f : Option (PendingAction Payload Receipt) → Tx W K Payload Receipt X (PendingAction Payload Receipt)}
    (habsent : ∀ h d, deskDiscipline.Wp (Desk.Kept env facts) ok Q (answer (f none)) h id d)
    (hfound : ∀ h d row, Holds h d actionId row → (∀ m ∈ scope, row.merchantId = m) →
      deskDiscipline.Wp (Desk.Kept env facts) ok Q (answer (f (some row))) h id d) :
    deskDiscipline.Wp (Desk.Kept env facts) ok Q (answer (getForUpdate actionId scope >>= f)) h id base := by
  unfold getForUpdate
  refine Discipline.wp_answer_lock fun d hrely hd _ => ?_
  rw [id_eq]
  cases hrow : d.find actionId scope with
  | none => exact habsent _ d
  | some row =>
    obtain ⟨hget, hscope⟩ := Option.filter_eq_some_iff.mp hrow
    refine hfound _ d row ⟨.inr ?_, hget⟩ (of_decide_eq_true hscope)
    rw [Option.isSome_some, if_pos rfl]
    exact List.mem_singleton.mpr rfl

theorem wp_decideAction (herror : ∀ x d, Q (.error x) (fun _ => False) id d) {principal : Identity.Principal} {actionId : Nat}
    {requestHash : String} {approve : Bool}
    (hvalue : ∀ a d scope, approvalScope principal = .ok scope → Decided principal actionId requestHash approve scope d →
      Q (.ok a) (fun _ => False) id d) (reason : Option String) (now : Time) :
    deskDiscipline.Wp (Desk.Kept env facts) ok Q (answer (decideAction principal actionId requestHash approve reason now)) h id base := by
  unfold decideAction
  refine Discipline.wp_answer_ofExcept (fun x _ => herror x _) fun _ _ => ?_
  refine Discipline.wp_answer_ofExcept (fun x _ => herror x _) fun scope hscope => ?_
  have hscope : approvalScope principal = .ok scope := by
    revert hscope
    cases approvalScope principal with
    | ok s =>
      intro h
      cases h
      rfl
    | error x =>
      intro h
      cases h
  refine wp_getForUpdate (fun h d => herror _ d) fun h d row hold hmerchant => ?_
  exact wp_decideHeld herror (fun a d hdecided => hvalue a d scope hscope hdecided) hold hmerchant reason now

theorem Story.of_approved {told : List (Entry W Payload)} (hstory : Story env i row told) (happroved : row.status = .approved) :
    ∃ r : AuditRecord, told = [.decided r] ∧ r.Decides i row true := by
  cases hstory with
  | undecided status _ =>
    rw [happroved] at status
    exact absurd status (by decide)
  | rejected status _ => exact absurd (happroved.symm.trans status) (by decide)
  | approved _ decides _ => exact ⟨_, rfl, decides⟩
  | succeeded status _ _ _ _ => exact absurd (happroved.symm.trans status) (by decide)

/-- An approved request that is not executed ends expired or failed, with its approval. -/
theorem Story.ends {told : List (Entry W Payload)} (hstory : Story env i row told) (happroved : row.status = .approved)
    (hrisk : row.riskLevel ≠ .critical) {row' : PendingAction Payload Receipt} (hevolves : row.Evolves row')
    (hdecided : row'.decidedBy = row.decidedBy) (hstatus : row'.status = .failed ∨ row'.status = .expired) : Story env i row' told := by
  obtain ⟨r, rfl, hdecides⟩ := hstory.of_approved happroved
  exact .approved (.inr hstatus) (hdecides.congr hdecided hevolves.merchantId) (hevolves.riskLevel ▸ hrisk)

theorem Story.risk {told : List (Entry W Payload)} (hstory : Story env i row told) (happroved : row.status = .approved) :
    row.riskLevel ≠ .critical := by
  cases hstory with
  | undecided status _ =>
    rw [happroved] at status
    exact absurd status (by decide)
  | rejected status _ => exact absurd (happroved.symm.trans status) (by decide)
  | approved _ _ risk => exact risk
  | succeeded _ _ risk _ _ => exact risk

theorem wp_resumeHeld (herror : ∀ x d, Q (.error x) (fun _ => False) id d)
    (hvalue : ∀ a h d, (∃ row, d.actions.get? i = some row ∧ row.status = .succeeded) → Q (.ok a) h id d)
    (hold : Holds h base i row) (now finished : Time) :
    deskDiscipline.Wp (Desk.Kept env facts) ok Q (answer (resumeHeld env i row now finished)) h id base := by
  have hunless : row.status = .approved → ∀ row' : PendingAction Payload Receipt, row.status = .succeeded → row' = row :=
    fun happroved _ hs => absurd (happroved.symm.trans hs) (by decide)
  unfold resumeHeld
  split_ifs with hdue hdone hintegrity
  · have hevolves : row.Evolves (row.expired now) := ⟨rfl, rfl, rfl, rfl, rfl, fun _ hu => hu, hunless hdue.1 _⟩
    exact wp_write_raise herror hold (untouched i) hevolves
      (fun told htold => htold.ends hdue.1 (htold.risk hdue.1) hevolves rfl (.inr rfl)) _
  · exact hvalue row h base ⟨row, hold.row, hdone⟩
  · refine Discipline.wp_answer_raiseIf (fun _ => herror _ _) fun happroved => ?_
    refine Discipline.wp_answer_raiseIf (fun _ => herror _ _) fun hrisk => ?_
    have happroved := not_not.mp happroved
    have hevolves : row.Evolves { row with
        status := .failed, decisionReason := some "approved payload integrity check failed" } :=
      ⟨rfl, rfl, rfl, rfl, rfl, fun _ hu => hu, hunless happroved _⟩
    exact wp_write_raise herror hold (untouched i) hevolves
      (fun told htold => htold.ends happroved hrisk hevolves rfl (.inl rfl)) _
  · refine Discipline.wp_answer_raiseIf (fun _ => herror _ _) fun happroved => ?_
    refine Discipline.wp_answer_raiseIf (fun _ => herror _ _) fun hrisk => ?_
    have happroved := not_not.mp happroved
    have hunexpired : now < row.expiresAt := not_le.mp fun hle => hdue ⟨happroved, hle⟩
    refine Discipline.wp_answer_reads ((env.revalidates row).on factsOf Failure.raised) herror fun valid d hrely => ?_
    have hold := hold.later (fun _ hl => hl) hrely
    split_ifs with hvalid
    · have hevolves : row.Evolves { row.failedAt now with
          decisionReason := some "business facts changed during resume" } :=
        ⟨rfl, rfl, rfl, rfl, rfl, fun _ hu => hu, hunless happroved _⟩
      exact wp_write_raise herror hold (untouched i) hevolves
        (fun told htold => htold.ends happroved hrisk hevolves rfl (.inl rfl)) _
    unfold writeAction
    refine Discipline.wp_answer_update ?_
    refine Discipline.wp_answer_quiet ((quiet_attempt (env.executes row.payload) id).on factsOf Failure.raised) fun outcome h' d' hh hrely' => ?_
    have hold := hold.later hh hrely'
    cases outcome with
    | error x =>
      have hevolves : row.Evolves ((row.executingAt now).failedAt finished) :=
        ⟨rfl, rfl, rfl, rfl, rfl, fun _ hu => hu, hunless happroved _⟩
      exact wp_write_raise herror hold (fun c => rfl) hevolves
        (fun told htold => htold.ends happroved hrisk hevolves rfl (.inl rfl)) _
    | ok performed =>
      obtain ⟨receipt, effect⟩ := performed
      have hevolves : row.Evolves ((row.executingAt now).succeededAt receipt finished) :=
        ⟨rfl, rfl, rfl, rfl, rfl, fun _ hu => hu, hunless happroved _⟩
      unfold settleExecution writeAction
      refine Discipline.wp_answer_update (Discipline.wp_answer_update (Discipline.wp_answer_update ?_))
      refine wp_commit_changed (fun a => (a.executingAt now).succeededAt receipt finished) [.performed i row.payload now effect] hold
        (fun c => ?_) hevolves (fun e he => ?_) (fun told htold => ?_) fun c hrow => hvalue _ _ c ⟨_, hrow, rfl⟩
      · show Desk.mk ((c.actions.modify i _).modify i _) _ _ = Desk.mk (c.actions.modify i _) _ _
        rw [Dict.modify_modify]
        rfl
      · rw [List.mem_singleton.mp he]
        rfl
      · obtain ⟨r, rfl, hdecides⟩ := htold.of_approved happroved
        exact .succeeded rfl (hdecides.congr rfl rfl) hrisk hunexpired (not_not.mp hintegrity)

theorem wp_resume (herror : ∀ x d, Q (.error x) (fun _ => False) id d) {actionId : Nat}
    (hvalue : ∀ a h d, (∃ row, d.actions.get? actionId = some row ∧ row.status = .succeeded) → Q (.ok a) h id d)
    (now finished : Time) :
    deskDiscipline.Wp (Desk.Kept env facts) ok Q (answer (resume env actionId now finished)) h id base := by
  unfold resume
  refine wp_getForUpdate (fun h d => herror _ d) fun h d row hold _ => ?_
  exact wp_resumeHeld herror hvalue hold now finished

end

/-! ## Sweeps and proposals -/

/-- Requests that are held while nobody has decided them may expire together. -/
theorem publishes_expired {h : Lock (RowLock K) → Prop} {d : Desk W Payload Receipt} (hd : d.Kept env facts) {due : List Nat} {now : Time}
    (hold : ∀ i ∈ due, ∃ row, Holds h d i row ∧ row.status = .pending) :
    deskDiscipline.Publishes (Desk.Kept env facts) h d
      { d with actions := d.actions.adjust fun i a => if i ∈ due then a.expired now else a } := by
  have hget : ∀ j, (d.actions.adjust fun i a => if i ∈ due then a.expired now else a).get? j =
      (d.actions.get? j).map fun a => if j ∈ due then a.expired now else a := fun j => Dict.get?_adjust _ _ _
  have hnone : ∀ j, d.actions.get? j = none →
      (d.actions.adjust fun i a => if i ∈ due then a.expired now else a).get? j = none := by
    intro j hj
    rw [hget, hj]
    rfl
  refine ⟨⟨hd.facts, fun j b hb => ?_, fun e he hgone => ?_⟩, fun h' hdisjoint => ⟨fun j b hb => ?_, fun j _ => hnone j⟩,
    fun j _ => hnone j⟩
  · have hb : (d.actions.adjust fun i a => if i ∈ due then a.expired now else a).get? j = some b := hb
    rw [hget] at hb
    obtain ⟨a, ha, rfl⟩ := Option.map_eq_some_iff.mp hb
    show Story env j _ (d.historyOf j)
    have htold := hd.told j a ha
    split_ifs with hj
    · obtain ⟨row, ⟨-, hrow⟩, hpending⟩ := hold j hj
      rw [hrow] at ha
      cases ha
      obtain ⟨hempty, hnobody⟩ := htold.of_pending hpending
      rw [hempty]
      exact .undecided (.inr rfl) hnobody
    · exact htold
  · have hgone : (d.actions.adjust fun i a => if i ∈ due then a.expired now else a).get? e.actionId = none := hgone
    rw [hget] at hgone
    exact hd.named e he (Option.map_eq_none_iff.mp hgone)
  · refine ⟨if j ∈ due then b.expired now else b, ?_, ?_, fun hl => ?_⟩
    · show (d.actions.adjust fun i a => if i ∈ due then a.expired now else a).get? j = _
      rw [hget, hb]
      rfl
    · split_ifs with hj
      · obtain ⟨row, ⟨-, hrow⟩, hpending⟩ := hold j hj
        rw [hrow] at hb
        cases hb
        refine evolves_expired ?_ now
        rw [hpending]
        decide
      · exact evolves_refl b
    · refine if_neg fun hj => ?_
      obtain ⟨row, ⟨hlocked, -⟩, -⟩ := hold j hj
      exact hdisjoint _ hl hlocked

/-- A request that was never there has no story. -/
theorem historyOf_absent {d : Desk W Payload Receipt} (hd : d.Kept env facts) {i : Nat} (hnone : d.actions.get? i = none) :
    d.historyOf i = [] := by
  refine List.filter_eq_nil_iff.mpr fun e he hof => hd.named e he ?_
  rw [of_decide_eq_true hof, hnone]

/-- A request may be filed under an id that was drawn. -/
theorem publishes_filed {h : Lock (RowLock K) → Prop} {d : Desk W Payload Receipt} (hd : d.Kept env facts) {i : Nat} (hdrawn : h (.id i))
    (hnone : d.actions.get? i = none) {row : PendingAction Payload Receipt} (hstatus : row.status = .pending)
    (hnobody : row.decidedBy = none) :
    deskDiscipline.Publishes (Desk.Kept env facts) h d { d with actions := d.actions.set i row } := by
  have hother : ∀ {j}, j ≠ i → (d.actions.set i row).get? j = d.actions.get? j := fun hj => Dict.get?_set_ne hj row
  refine ⟨⟨hd.facts, fun j b hb => ?_, fun e he hgone => ?_⟩, fun h' hdisjoint => ⟨fun j b hb => ?_, fun j hj hb => ?_⟩,
    fun j hj hb => ?_⟩
  · have hb : (d.actions.set i row).get? j = some b := hb
    show Story env j b (d.historyOf j)
    by_cases hj : j = i
    · subst hj
      rw [Dict.get?_set_self] at hb
      cases hb
      rw [historyOf_absent hd hnone]
      exact .undecided (.inl hstatus) hnobody
    · rw [hother hj] at hb
      exact hd.told j b hb
  · have hgone : (d.actions.set i row).get? e.actionId = none := hgone
    by_cases hj : e.actionId = i
    · rw [hj, Dict.get?_set_self] at hgone
      cases hgone
    · rw [hother hj] at hgone
      exact hd.named e he hgone
  · have hj : j ≠ i := by
      rintro rfl
      rw [hnone] at hb
      cases hb
    exact ⟨b, (hother hj).trans hb, evolves_refl b, fun _ => rfl⟩
  · have hne : j ≠ i := fun heq => hdisjoint _ hj (heq ▸ hdrawn)
    exact (hother hne).trans hb
  · have hne : j ≠ i := fun heq => hj (heq ▸ hdrawn)
    exact (hother hne).trans hb

section

variable {ok : Admits (Desk W Payload Receipt) (RowLock K) (Failure X) (Except (Failure X) Nat)}
  {Q : Except (Failure X) Nat → (Lock (RowLock K) → Prop) →
    (Desk W Payload Receipt → Desk W Payload Receipt) → Desk W Payload Receipt → Prop}
  {h : Lock (RowLock K) → Prop} {base : Desk W Payload Receipt}

theorem wp_expirePending (hvalue : ∀ n h d, Q (.ok n) h id d) (now : Time) :
    deskDiscipline.Wp (Desk.Kept env facts) ok Q (answer (expirePending now)) h id base := by
  unfold expirePending markExpired
  rw [bind_assoc]
  refine Discipline.wp_answer_lock fun d hrely hd _ => ?_
  rw [bind_assoc]
  refine Discipline.wp_answer_update ?_
  refine Discipline.wp_answer_commitNow (fun d' hrely' hd' _ => ?_) fun d' _ _ => hvalue _ _ _
  refine publishes_expired hd' fun i hi => ?_
  obtain ⟨e, he, rfl⟩ := List.mem_map.mp hi
  obtain ⟨hrow, hdue⟩ := Dict.mem_select.mp he
  have hold : Holds (fun l => h l ∨ l ∈ (((id d).due now).map RowLock.action).map Lock.row) d e.1 e.2 :=
    ⟨.inr (List.mem_map_of_mem (List.mem_map_of_mem hi)), hrow⟩
  exact ⟨e.2, hold.later (fun _ hl => hl) hrely', (of_decide_eq_true hdue).1⟩

theorem wp_fileProposal (hvalue : ∀ n h d, Q (.ok n) h id d) (merchantId userId : Nat) (payload : Payload) (expiresAt now : Time) :
    deskDiscipline.Wp (Desk.Kept env facts) ok Q (answer (fileProposal env merchantId userId payload expiresAt now)) h id base := by
  unfold fileProposal
  refine Discipline.wp_answer_newId fun d i hrely hd hfresh => ?_
  refine Discipline.wp_answer_update ?_
  refine Discipline.wp_answer_commitNow (fun d' hrely' hd' _ => ?_) fun d' _ _ => hvalue _ _ _
  exact publishes_filed hd' (.inr rfl) (hrely'.2 i (.inr rfl) hfresh) rfl rfl

end

/-! ## Runs -/

/-- A call of the desk. -/
inductive Call (Payload : Type) where
  | proposal (merchantId userId : Nat) (payload : Payload) (expiresAt now : Time)
  | decision (principal : Identity.Principal) (actionId : Nat) (requestHash : String) (approve : Bool) (reason : Option String) (now : Time)
  | resumption (actionId : Nat) (now finished : Time)
  | sweep (now : Time)

inductive Reply (Payload Receipt : Type) where
  | filed (actionId : Nat)
  | action (row : PendingAction Payload Receipt)
  | swept (count : Nat)

/-- A call in a session of its own; what it raises is rolled back. -/
def session (env : Deployment W K Payload Receipt X) :
    Call Payload → Sql (Desk W Payload Receipt) (RowLock K) (Failure X) (Except (Failure X) (Reply Payload Receipt))
  | .proposal merchantId userId payload expiresAt now =>
    answer (fileProposal env merchantId userId payload expiresAt now >>= fun n => pure (.filed n))
  | .decision principal actionId requestHash approve reason now =>
    answer (decideAction principal actionId requestHash approve reason now >>= fun a => pure (.action a))
  | .resumption actionId now finished => answer (resume env actionId now finished >>= fun a => pure (.action a))
  | .sweep now => answer (expirePending now >>= fun n => pure (.swept n))

/-- What a call that was answered promises. -/
def Call.Promises (d : Desk W Payload Receipt) : Call Payload → Prop
  | .decision principal actionId requestHash approve _ _ =>
    ∃ scope, approvalScope principal = .ok scope ∧ Decided principal actionId requestHash approve scope d
  | .resumption actionId _ _ => ∃ row, d.actions.get? actionId = some row ∧ row.status = .succeeded
  | _ => True

/-- A promise outlives its session. -/
theorem Call.Promises.later {d d' : Desk W Payload Receipt} (hrely : deskDiscipline.rely (fun _ : Lock (RowLock K) => False) d d') :
    ∀ {call : Call Payload}, call.Promises d → call.Promises d'
  | .proposal _ _ _ _ _, _ => trivial
  | .sweep _, _ => trivial
  | .decision principal actionId requestHash approve reason now, h => by
    obtain ⟨scope, hscope, row, hrow, hhash, hdecided, hrisk, hmerchant⟩ := h
    obtain ⟨row', hrow', hevolves, -⟩ := hrely.1 actionId row hrow
    refine ⟨scope, hscope, row', hrow', hevolves.payloadHash.trans hhash, hevolves.decided _ hdecided, fun happrove => ?_, fun m hm => ?_⟩
    · rw [hevolves.riskLevel]
      exact hrisk happrove
    · rw [hevolves.merchantId]
      exact hmerchant m hm
  | .resumption actionId now finished, h => by
    obtain ⟨row, hrow, hsucceeded⟩ := h
    obtain ⟨row', hrow', hevolves, -⟩ := hrely.1 actionId row hrow
    refine ⟨row', hrow', ?_⟩
    rw [hevolves.succeeded hsucceeded, hsucceeded]

/-- What holds where a session ends. -/
def Kept (call : Call Payload) (r : Except (Failure X) (Reply Payload Receipt)) (d : Desk W Payload Receipt) : Prop :=
  ∀ a, r = .ok a → call.Promises d

theorem safe_session (call : Call Payload) (d : Desk W Payload Receipt) :
    deskDiscipline.Safe (Desk.Kept env facts) (fun _ _ _ _ => True) (Kept call) (session env call) (fun _ => False) id d := by
  have hlater : ∀ {base : Desk W Payload Receipt} (r : Except (Failure X) (Reply Payload Receipt)), call.Promises base →
      ∀ d', deskDiscipline.rely (fun _ : Lock (RowLock K) => False) base d' → Desk.Kept env facts d' → Kept call r d' :=
    fun r hpromises d' hrely _ a _ => hpromises.later hrely
  have hfailed : ∀ {x : Failure X} (d' : Desk W Payload Receipt),
      Kept call (.error x : Except (Failure X) (Reply Payload Receipt)) d' := by
    intro x d' a h
    cases h
  unfold Discipline.Safe session
  cases call with
  | proposal merchantId userId payload expiresAt now =>
    refine Discipline.wp_answer_map (wp_fileProposal (fun n h d => ?_) merchantId userId payload expiresAt now)
    exact hlater _ trivial
  | sweep now =>
    refine Discipline.wp_answer_map (wp_expirePending (fun n h d => ?_) now)
    exact hlater _ trivial
  | decision principal actionId requestHash approve reason now =>
    refine Discipline.wp_answer_map (wp_decideAction (fun x d d' _ _ => hfailed d') (fun a d scope hscope hdecided => ?_) reason now)
    exact hlater _ ⟨scope, hscope, hdecided⟩
  | resumption actionId now finished =>
    refine Discipline.wp_answer_map (wp_resume (fun x d d' _ _ => hfailed d') (fun a h d hsucceeded => ?_) now finished)
    exact hlater _ hsucceeded

/-- A desk that opens with undecided requests. -/
structure Desk.Opening (d : Desk W Payload Receipt) (next : Nat) : Prop where
  fresh : ∀ i, next ≤ i → d.actions.get? i = none
  undecided : ∀ i row, d.actions.get? i = some row → row.status = .pending ∧ row.decidedBy = none
  history : d.history = []

theorem Desk.Opening.kept {d : Desk W Payload Receipt} {next : Nat} (h : d.Opening next) : d.Kept env d.facts := by
  have hnothing : ∀ i, d.historyOf i = [] := fun i => by
    unfold Desk.historyOf
    rw [h.history]
    rfl
  refine ⟨?_, fun i row hrow => ?_, fun e he => ?_⟩
  · rw [h.history]
    rfl
  · obtain ⟨hpending, hnobody⟩ := h.undecided i row hrow
    rw [hnothing]
    exact .undecided (.inl hpending) hnobody
  · rw [h.history] at he
    cases he

/-- A payload that was executed was approved before. -/
theorem Desk.Kept.performed {d : Desk W Payload Receipt} (hd : d.Kept env facts) {before after : List (Entry W Payload)} {i : Nat}
    {payload : Payload} {now : Time} {effect : W → W} (hhistory : d.history = before ++ .performed i payload now effect :: after) :
    ∃ row r, d.actions.get? i = some row ∧ row.status = .succeeded ∧ row.payload = payload ∧
      env.payloadHash payload = row.payloadHash ∧ row.riskLevel ≠ .critical ∧ now < row.expiresAt ∧
      .decided r ∈ before ∧ r.Decides i row true := by
  have hmem : Entry.performed i payload now effect ∈ d.history := by
    rw [hhistory]
    exact List.mem_append_right _ List.mem_cons_self
  obtain ⟨row, hrow⟩ := Option.ne_none_iff_exists'.mp (hd.named _ hmem)
  have htold := hd.told i row hrow
  have hsplit : d.historyOf i = before.filter (fun e => decide (e.actionId = i)) ++
      .performed i payload now effect :: after.filter (fun e => decide (e.actionId = i)) := by
    have hcons : (Entry.performed i payload now effect :: after).filter (fun e => decide (e.actionId = i)) =
        .performed i payload now effect :: after.filter (fun e => decide (e.actionId = i)) :=
      List.filter_cons_of_pos (decide_eq_true rfl)
    unfold Desk.historyOf
    rw [hhistory, List.filter_append, hcons]
  rw [hsplit] at htold
  generalize hbefore : before.filter (fun e => decide (e.actionId = i)) = told at htold
  generalize after.filter (fun e => decide (e.actionId = i)) = rest at htold
  cases told with
  | nil =>
    generalize hall : ([] ++ Entry.performed i payload now effect :: rest : List (Entry W Payload)) = all at htold
    cases htold with
    | undecided _ _ => cases hall
    | rejected _ _ => cases hall
    | approved _ _ _ => cases hall
    | succeeded _ _ _ _ _ => cases hall
  | cons first told =>
    generalize hall : (first :: told ++ Entry.performed i payload now effect :: rest : List (Entry W Payload)) = all at htold
    have hfirst : first ∈ before := (List.mem_filter.mp (hbefore ▸ List.mem_cons_self)).1
    cases htold with
    | undecided _ _ => cases hall
    | rejected _ _ =>
      rw [List.cons_append] at hall
      have htail := (List.cons.inj hall).2
      exact absurd htail (List.append_ne_nil_of_right_ne_nil _ (List.cons_ne_nil _ _))
    | approved _ _ _ =>
      rw [List.cons_append] at hall
      have htail := (List.cons.inj hall).2
      exact absurd htail (List.append_ne_nil_of_right_ne_nil _ (List.cons_ne_nil _ _))
    | @succeeded r now' effect' status decides risk unexpired integrity =>
      rw [List.cons_append] at hall
      obtain ⟨rfl, htail⟩ := List.cons.inj hall
      cases told with
      | nil =>
        obtain ⟨heq, -⟩ := List.cons.inj htail
        cases heq
        exact ⟨row, r, hrow, status, rfl, integrity, risk, unexpired, hfirst, decides⟩
      | cons second told =>
        rw [List.cons_append] at htail
        have htail := (List.cons.inj htail).2
        exact absurd htail (List.append_ne_nil_of_right_ne_nil _ (List.cons_ne_nil _ _))

end

/-! ## A small desk -/

/-- A refund of 100 that waits for its approval. -/
def sampleAction : PendingAction String String where
  merchantId := 1
  riskLevel := .high
  payload := "\x7b\"amount\":100\x7d"
  payloadHash := "4d4bbe59c6aad22442cde199a6a8a5f034405fcd78fb5a81c24ef249de1c45f1"
  requestedBy := 3
  expiresAt := 300000
  updatedAt := 0

/-- An executor that takes 100 from a balance, while there is enough of it. -/
def sampleExecutor : Deployment Nat Unit String String String where
  payloadHash payload := if payload = sampleAction.payload then sampleAction.payloadHash else payload
  revalidate _ := query fun balance => decide (100 ≤ balance)
  execute _ := do
    let balance ← lock (fun _ => [()]) fun balance => balance
    raiseIf (balance < 100) "insufficient balance"
    update fun _ => balance - 100
    return "refunded"
  revalidates _ := readsOnly_query _
  executes _ := by
    intro balance
    show Plain (raiseIf (balance < 100) "insufficient balance" >>= _)
    unfold raiseIf
    split_ifs <;> trivial

def sampleApprover : Identity.Principal where
  userId := 2
  userType := .staff
  merchantId := some 1
  roles := []
  permissions := ["pending_action:approve"]
  dataScope := .merchant
  sessionId := ""
  isStaff := true

def sampleCalls : Nat → Call String
  | 0 => .decision sampleApprover 5 sampleAction.payloadHash true none 10
  | 1 => .resumption 5 20 21
  | 2 => .resumption 5 30 31
  | _ => .sweep 40

section

variable {W K Payload Receipt X : Type} {env : Deployment W K Payload Receipt X}

/-! ## A resumption alone -/

/-- A request that may be executed now. -/
structure PendingAction.Executable (env : Deployment W K Payload Receipt X) (a : PendingAction Payload Receipt) (d : Desk W Payload Receipt)
    (next : Nat) (now : Time) : Prop where
  approved : a.status = .approved
  unexpired : now < a.expiresAt
  risk : a.riskLevel ≠ .critical
  integrity : env.payloadHash a.payload = a.payloadHash
  valid : ((env.revalidate a).run (Exec.start d.facts next)).1 = .ok true

/-- What is left of a resumption, behind its check. -/
theorem run_resume {d : Desk W Payload Receipt} {next i : Nat} {row : PendingAction Payload Receipt} {now : Time}
    (hrow : d.actions.get? i = some row) (hready : row.Executable env d next now) (finished : Time) :
    (resume env i now finished).run (Exec.start d next) =
      (((env.execute row.payload).attempt id : Sql W K X _).on factsOf Failure.raised >>= settleExecution i row now finished).run
        ⟨d, { d with actions := d.actions.modify i (.executingAt now) }, next⟩ := by
  have hfound : (Exec.start d next).view.find i none = some row :=
    Option.filter_eq_some_iff.mpr ⟨hrow, decide_eq_true (by simp)⟩
  have hdue : ¬ (row.status = .approved ∧ row.expiresAt ≤ now) := fun h => absurd h.2 (not_le.mpr hready.unexpired)
  have hdone : row.status ≠ .succeeded := by
    rw [hready.approved]
    decide
  have hvalid : ((env.revalidate row).on factsOf Failure.raised).run (Exec.start d next) = (.ok true, Exec.start d next) := by
    refine Prod.ext ?_ (run_readsOnly ((env.revalidates row).on factsOf Failure.raised) _)
    rw [(run_on factsOf Failure.raised (env.revalidate row) (Exec.start d next)).1]
    show (((env.revalidate row).run (Exec.start d.facts next)).1).mapError _ = _
    rw [hready.valid]
    rfl
  unfold resume getForUpdate
  rw [run_bind, run_lock, andThen_ok, hfound]
  unfold resumeHeld writeAction
  dsimp only
  rw [if_neg hdue, if_neg hdone, run_bind, run_raiseIf_neg (not_not.mpr hready.approved), andThen_ok, run_bind,
    run_raiseIf_neg hready.risk, andThen_ok, if_neg (not_not.mpr hready.integrity), run_bind, hvalid, andThen_ok,
    if_neg (by decide : ¬ true = false), run_bind, run_update, andThen_ok]
  rfl

/-- A resumption alone of a request that may be executed: where the executor, alone on the facts, ends in a receipt, the
facts are left as it leaves them, with the request; where it raises, they are as they were, and the request has failed. -/
theorem resume_all_or_nothing {d : Desk W Payload Receipt} {next i : Nat} {row : PendingAction Payload Receipt} {now : Time}
    (hrow : d.actions.get? i = some row) (hready : row.Executable env d next now) (finished : Time) :
    (∀ receipt e, (env.execute row.payload).run (Exec.start d.facts next) = (.ok receipt, e) →
      ∃ e', (resume env i now finished).run (Exec.start d next) = (.ok ((row.executingAt now).succeededAt receipt finished), e') ∧
        e'.committed.facts = e.view ∧
        e'.committed.actions.get? i = some ((row.executingAt now).succeededAt receipt finished)) ∧
    ∀ x e, (env.execute row.payload).run (Exec.start d.facts next) = (.error x, e) →
      ∃ e', (resume env i now finished).run (Exec.start d next) = (.error (.raised x), e') ∧ e'.committed.facts = d.facts ∧
        e'.committed.actions.get? i = some ((row.executingAt now).failedAt finished) := by
  let begun : Exec (Desk W Payload Receipt) := ⟨d, { d with actions := d.actions.modify i (.executingAt now) }, next⟩
  obtain ⟨r, e₁, hattempt, -, hanswer, hwritten⟩ := @run_attempt W K X X _ (env.execute row.payload) (env.executes row.payload) id
    (Exec.start d.facts next)
  obtain ⟨outcome, n, houtcome⟩ := run_quiet ((quiet_attempt (env.executes row.payload) id).on factsOf Failure.raised) begun
  have hon := (run_on factsOf Failure.raised ((env.execute row.payload).attempt id : Sql W K X _) begun).1
  have hsame : (Except.ok outcome : Except (Failure X) _) = (Except.ok r : Except X _).mapError Failure.raised := by
    rw [houtcome] at hon
    rw [show factsOf.exec begun = Exec.start d.facts next from rfl, hattempt] at hon
    exact hon
  obtain rfl : outcome = r := Except.ok.inj hsame
  have hrows : ∀ f : PendingAction Payload Receipt → PendingAction Payload Receipt,
      ((d.actions.modify i (.executingAt now)).modify i f).get? i = some (f (row.executingAt now)) := by
    intro f
    rw [Dict.get?_modify_self, Dict.get?_modify_self, hrow]
    rfl
  have hend := run_resume hrow hready finished
  rw [run_bind, houtcome, andThen_ok] at hend
  constructor
  · intro receipt e hrun
    rw [show (Exec.start d.facts next).after id = Exec.start d.facts next from rfl, hrun] at hanswer hwritten
    cases outcome with
    | error y => cases hanswer
    | ok performed =>
      obtain ⟨receipt', effect⟩ := performed
      obtain rfl : receipt' = receipt := Except.ok.inj hanswer
      refine ⟨_, hend, ?_, ?_⟩
      · exact hwritten receipt' effect rfl
      · exact hrows (.succeededAt receipt' finished)
  · intro x e hrun
    rw [show (Exec.start d.facts next).after id = Exec.start d.facts next from rfl, hrun] at hanswer
    cases outcome with
    | ok performed => cases hanswer
    | error y =>
      cases hanswer
      refine ⟨_, hend, ?_, ?_⟩
      · rfl
      · exact hrows (.failedAt finished)

end

/-- The approved refund is resumed. -/
theorem resume_all_or_nothing_refund :
    let d : Desk Nat String String := ⟨Dict.empty.set 5 { sampleAction with status := .approved }, 1000, []⟩
    ∃ e', (resume sampleExecutor 5 20 21).run (Exec.start d 6) =
        (.ok (({ sampleAction with status := .approved }.executingAt 20).succeededAt "refunded" 21), e') ∧ e'.committed.facts = 900 := by
  intro d
  obtain ⟨e', hrun, hfacts, -⟩ := (@resume_all_or_nothing _ _ _ _ _ sampleExecutor d 6 5 { sampleAction with status := .approved } 20
    rfl ⟨rfl, by decide, by decide, by decide, rfl⟩ 21).1 "refunded" ⟨1000, 900, 6⟩ rfl
  exact ⟨e', hrun, hfacts⟩

end NovaCommerce.Governance
