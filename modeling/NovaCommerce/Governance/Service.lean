import NovaCommerce.Console.Schema
import NovaCommerce.Lib.Savepoint

/-!
# Governed actions

* `PendingAction` : a request for approval, `Desk` : the requests over the business facts they are about;
* `fileProposal`, `approve`, `reject`, `resume`, `expirePending` : the sessions of the desk, statement by statement;
* `Deployment` : the hash of a payload, and the executor of a payload with its check. The executor runs behind a
  savepoint of `resume`, and leaves the transaction to it.

The desk keeps, beside the audit records of its decisions, which payloads were executed, with what they changed.
-/

namespace NovaCommerce.Governance

open Sql

/-! ## Rows -/

inductive ActionStatus where
  | pending
  | approved
  | rejected
  | executing
  | succeeded
  | failed
  | expired
  deriving DecidableEq, Repr

def ActionStatus.value : ActionStatus → String
  | .pending => "PENDING"
  | .approved => "APPROVED"
  | .rejected => "REJECTED"
  | .executing => "EXECUTING"
  | .succeeded => "SUCCEEDED"
  | .failed => "FAILED"
  | .expired => "EXPIRED"

inductive RiskLevel where
  | read
  | low
  | medium
  | high
  | critical
  deriving DecidableEq, Repr

/-- A row of `pending_actions`. -/
structure PendingAction (Payload Receipt : Type) where
  merchantId : Nat
  riskLevel : RiskLevel
  status : ActionStatus := .pending
  payload : Payload
  payloadHash : String
  requestedBy : Nat
  expiresAt : Time
  updatedAt : Time
  decidedBy : Option Nat := none
  decisionReason : Option String := none
  decidedAt : Option Time := none
  executedAt : Option Time := none
  executionReceipt : Option Receipt := none
  deriving DecidableEq

/-- The audit record of a decision. -/
structure AuditRecord where
  merchantId : Nat
  actorId : Nat
  actorType : String
  action : String
  resourceType : String
  resourceId : Nat
  result : String
  after : ActionStatus
  deriving DecidableEq

/-- What happened to a request: it was decided, or its payload was executed. -/
inductive Entry (W Payload : Type) where
  | decided (record : AuditRecord)
  | performed (actionId : Nat) (payload : Payload) (now : Time) (effect : W → W)

/-- The requests, the business facts, and what happened to the requests. -/
structure Desk (W Payload Receipt : Type) where
  actions : Dict Nat (PendingAction Payload Receipt)
  facts : W
  history : List (Entry W Payload)

/-- A locked row. -/
inductive RowLock (K : Type) where
  | action (id : Nat)
  | fact (k : K)
  deriving DecidableEq

/-- What a session raises: an error of the platform, or an exception of the executor or its check. -/
inductive Failure (X : Type) where
  | app (error : AppError)
  | raised (exception : X)
  deriving DecidableEq

/-- What the desk is given: the hash of a payload, and an executor that leaves the transaction alone, with a check of the
facts that only reads them. -/
structure Deployment (W K Payload Receipt X : Type) where
  payloadHash : Payload → String
  revalidate : PendingAction Payload Receipt → Sql W K X Bool
  execute : Payload → Sql W K X Receipt
  revalidates : ∀ action, (revalidate action).ReadsOnly
  executes : ∀ payload, (execute payload).Plain

section

variable {W K Payload Receipt X : Type}

/-- A statement of the desk. -/
abbrev Tx (W K Payload Receipt X : Type) : Type → Type := Sql (Desk W Payload Receipt) (RowLock K) (Failure X)

/-- The business facts, as a part of the desk. -/
def factsOf : Part W K (Desk W Payload Receipt) (RowLock K) where
  get := Desk.facts
  modify f d := { d with facts := f d.facts }
  row := .fact
  get_modify _ _ := rfl

/-! ## Repository -/

/-- A request that a merchant may see, or anyone's. -/
def Desk.find (d : Desk W Payload Receipt) (actionId : Nat) (scope : Option Nat) : Option (PendingAction Payload Receipt) :=
  (d.actions.get? actionId).filter fun a => decide (∀ m ∈ scope, a.merchantId = m)

def getForUpdate (actionId : Nat) (scope : Option Nat) : Tx W K Payload Receipt X (Option (PendingAction Payload Receipt)) :=
  lock (fun d => if (d.find actionId scope).isSome then [.action actionId] else []) fun d => d.find actionId scope

def writeAction (actionId : Nat) (f : PendingAction Payload Receipt → PendingAction Payload Receipt) :
    Tx W K Payload Receipt X Unit :=
  update fun d => { d with actions := d.actions.modify actionId f }

/-- The requests that wait for a decision after their time. -/
def Desk.due (d : Desk W Payload Receipt) (now : Time) : List Nat :=
  (d.actions.select fun a => decide (a.status = .pending ∧ a.expiresAt ≤ now)).map Prod.fst

def PendingAction.expired (now : Time) (a : PendingAction Payload Receipt) : PendingAction Payload Receipt :=
  { a with status := .expired, updatedAt := now }

def markExpired (now : Time) : Tx W K Payload Receipt X Nat := do
  let due ← lock (fun d => (d.due now).map .action) fun d => d.due now
  update fun d => { d with actions := d.actions.adjust fun i a => if i ∈ due then a.expired now else a }
  return due.length

/-! ## Decisions -/

/-- `_scope`: the merchant whose requests a caller may decide, or none for every merchant. -/
def approvalScope (principal : Identity.Principal) : Except AppError (Option Nat) := do
  Raise.raiseIf (principal.isStaff = false)
    { kind := .permissionDenied, message := "approval access requires staff scope" }
  if principal.dataScope = .all then return none
  Raise.raiseIf (principal.dataScope ≠ .merchant ∨ principal.merchantId = none)
    { kind := .permissionDenied, message := "approval access requires an explicit merchant scope" }
  return principal.merchantId

/-- What the console shows of a request. -/
def getAction (principal : Identity.Principal) (actionId : Nat) : Tx W K Payload Receipt X (PendingAction Payload Receipt) := do
  ofExcept ((principal.requirePermission "pending_action:read").mapError .app)
  let scope ← ofExcept ((approvalScope principal).mapError .app)
  match ← query fun d => d.find actionId scope with
  | none => raise (.app { kind := .pendingActionNotFound, message := "pending action not found" })
  | some action => return action

def decidedStatuses : List ActionStatus := [.approved, .rejected, .executing, .succeeded, .failed, .expired]

/-- The `WHERE` of a decision. -/
def Desk.open? (d : Desk W Payload Receipt) (actionId : Nat) (now : Time) : Bool :=
  (d.actions.get? actionId).any fun a => decide (a.status = .pending ∧ now < a.expiresAt)

def PendingAction.decidedAs (principal : Identity.Principal) (approve : Bool) (reason : Option String) (now : Time)
    (a : PendingAction Payload Receipt) : PendingAction Payload Receipt :=
  { a with
    status := if approve then .approved else .rejected
    decidedBy := some principal.userId
    decisionReason := reason
    decidedAt := some now
    updatedAt := now }

/-- The audit record of a decision. -/
def decisionRecord (principal : Identity.Principal) (actionId : Nat) (action : PendingAction Payload Receipt) (approve : Bool) :
    AuditRecord where
  merchantId := action.merchantId
  actorId := principal.userId
  actorType := "STAFF"
  action := if approve then "pending_action.approved" else "pending_action.rejected"
  resourceType := "PENDING_ACTION"
  resourceId := actionId
  result := "SUCCESS"
  after := if approve then .approved else .rejected

/-- `_decide`, on the row that was locked. -/
def decideHeld (principal : Identity.Principal) (actionId : Nat) (action : PendingAction Payload Receipt) (requestHash : String)
    (approve : Bool) (reason : Option String) (now : Time) : Tx W K Payload Receipt X (PendingAction Payload Receipt) := do
  raiseIf (approve = true ∧ action.riskLevel = .critical)
    (.app { kind := .agentBlockedByRisk, message := "critical-risk actions cannot be approved" })
  if action.status = .pending ∧ action.expiresAt ≤ now then
    writeAction actionId (.expired now)
    commitNow
    raise (.app { kind := .pendingActionExpired, message := "pending action has expired" })
  else if action.status ≠ .pending then
    if action.status ∈ decidedStatuses then
      raise (.app { kind := .pendingActionAlreadyDecided, message := "pending action has already been decided" })
    else raise (.app { kind := .pendingActionStateInvalid, message := "pending action is not pending" })
  else
    raiseIf (action.payloadHash ≠ requestHash)
      (.app { kind := .pendingActionPayloadChanged, message := "pending action payload changed" })
    -- `UPDATE ... WHERE status = 'PENDING' AND expires_at > now`: the row is locked, and counted where it still matches
    let hit ← lock (fun d => if d.open? actionId now then [.action actionId] else []) fun d => d.open? actionId now
    if hit then
      writeAction actionId (.decidedAs principal approve reason now)
      update fun d => { d with history := d.history ++ [.decided (decisionRecord principal actionId action approve)] }
      commitNow
      return action.decidedAs principal approve reason now
    else
      rollbackNow
      raise (.app { kind := .pendingActionStateInvalid, message := "pending action changed during decision" })

/-- `_decide`. -/
def decideAction (principal : Identity.Principal) (actionId : Nat) (requestHash : String) (approve : Bool)
    (reason : Option String) (now : Time) : Tx W K Payload Receipt X (PendingAction Payload Receipt) := do
  ofExcept ((principal.requirePermission "pending_action:approve").mapError .app)
  let scope ← ofExcept ((approvalScope principal).mapError .app)
  match ← getForUpdate actionId scope with
  | none => raise (.app { kind := .pendingActionNotFound, message := "pending action not found" })
  | some action => decideHeld principal actionId action requestHash approve reason now

def approve (principal : Identity.Principal) (actionId : Nat) (requestHash : String) (reason : Option String) (now : Time) :
    Tx W K Payload Receipt X (PendingAction Payload Receipt) :=
  decideAction principal actionId requestHash true reason now

def reject (principal : Identity.Principal) (actionId : Nat) (requestHash : String) (reason : Option String) (now : Time) :
    Tx W K Payload Receipt X (PendingAction Payload Receipt) :=
  decideAction principal actionId requestHash false reason now

/-! ## Execution -/

def PendingAction.failedAt (now : Time) (a : PendingAction Payload Receipt) : PendingAction Payload Receipt :=
  { a with status := .failed, updatedAt := now }

def PendingAction.executingAt (now : Time) (a : PendingAction Payload Receipt) : PendingAction Payload Receipt :=
  { a with status := .executing, updatedAt := now }

def PendingAction.succeededAt (receipt : Receipt) (finished : Time) (a : PendingAction Payload Receipt) :
    PendingAction Payload Receipt :=
  { a with status := .succeeded, executionReceipt := some receipt, executedAt := some finished, updatedAt := finished }

/-- The end of `resume`, behind the savepoint. -/
def settleExecution (actionId : Nat) (action : PendingAction Payload Receipt) (now finished : Time) :
    Except X (Receipt × (W → W)) → Tx W K Payload Receipt X (PendingAction Payload Receipt)
  | .error x => do
    writeAction actionId (.failedAt finished)
    commitNow
    raise (.raised x)
  | .ok (receipt, effect) => do
    update fun d => { d with facts := effect d.facts }
    writeAction actionId (.succeededAt receipt finished)
    update fun d => { d with history := d.history ++ [.performed actionId action.payload now effect] }
    commitNow
    return (action.executingAt now).succeededAt receipt finished

/-- `resume`, on the row that was locked: `now` is read first, and `finished` behind the executor. -/
def resumeHeld (env : Deployment W K Payload Receipt X) (actionId : Nat) (action : PendingAction Payload Receipt)
    (now finished : Time) : Tx W K Payload Receipt X (PendingAction Payload Receipt) := do
  if action.status = .approved ∧ action.expiresAt ≤ now then
    writeAction actionId (.expired now)
    commitNow
    raise (.app { kind := .pendingActionExpired, message := "pending action has expired" })
  else if action.status = .succeeded then return action
  else
    raiseIf (action.status ≠ .approved)
      (.app { kind := .pendingActionStateInvalid, message := "pending action is not approved" })
    raiseIf (action.riskLevel = .critical)
      (.app { kind := .agentBlockedByRisk, message := "critical-risk actions cannot execute" })
    if env.payloadHash action.payload ≠ action.payloadHash then
      -- the only exit that leaves `updated_at` alone
      writeAction actionId fun a =>
        { a with status := .failed, decisionReason := some "approved payload integrity check failed" }
      commitNow
      raise (.app { kind := .pendingActionPayloadChanged, message := "approved payload changed" })
    else
      let valid ← (env.revalidate action).on factsOf .raised
      if valid = false then
        writeAction actionId fun a =>
          { a.failedAt now with decisionReason := some "business facts changed during resume" }
        commitNow
        raise (.app { kind := .pendingActionPayloadChanged, message := "business facts changed during resume" })
      else
        writeAction actionId (.executingAt now)
        let outcome ← ((env.execute action.payload).attempt id : Sql W K X _).on factsOf .raised
        settleExecution actionId action now finished outcome

def resume (env : Deployment W K Payload Receipt X) (actionId : Nat) (now finished : Time) :
    Tx W K Payload Receipt X (PendingAction Payload Receipt) := do
  match ← getForUpdate actionId none with
  | none => raise (.app { kind := .pendingActionNotFound, message := "pending action not found" })
  | some action => resumeHeld env actionId action now finished

def expirePending (now : Time) : Tx W K Payload Receipt X Nat := do
  let count ← markExpired now
  commitNow
  return count

/-! ## Proposals -/

/-- The request for approval that a tool files, for a caller it has let through. -/
def fileProposal (env : Deployment W K Payload Receipt X) (merchantId userId : Nat) (payload : Payload) (expiresAt now : Time) :
    Tx W K Payload Receipt X Nat := do
  let actionId ← newId
  update fun d => { d with actions := d.actions.set actionId {
    merchantId, riskLevel := .high, payload, payloadHash := env.payloadHash payload, requestedBy := userId, expiresAt
    updatedAt := now } }
  commitNow
  return actionId

end

end NovaCommerce.Governance
