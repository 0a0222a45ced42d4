import NovaCommerce.Frontend.Charts
import NovaCommerce.Lib.Transition

/-!
# The AI thread store

The store holds a conversation and the stream of its running turn. `openAgentStream` hands it callbacks that may come
at any later moment, also after the turn was cancelled or another one began.

* `AiThread` : the store, with `applyEvent`, `send`, `cancel`, `selectThread` and `reset`;
* `Session.step` : a call of the user, or a callback of a stream;
* `Callback.Harmless` : what a late callback must be to leave the store alone (`Session.stale_same_iff`);
* `superseded_dead` : the runs in which late callbacks are harmless.
-/

namespace NovaCommerce.Frontend

open Transition

/-! ## Messages -/

inductive ToolStatus where
  | running
  | succeeded
  | failed
  | skipped
  deriving DecidableEq, Repr

structure ToolProgress where
  toolCallId : JsString
  toolName : JsString
  status : ToolStatus
  summary : Option JsString := none
  startedAt : JsString
  finishedAt : Option JsString := none
  durationMs : Option JsNumber := none
  deriving DecidableEq

/-- What a tool call takes over from its completion. -/
def ToolProgress.completed (status : ToolStatus) (summary : Option JsString) (moment : JsString)
    (durationMs : Option JsNumber) (tool : ToolProgress) : ToolProgress :=
  { tool with status, summary, finishedAt := some moment, durationMs }

/-- The approval card of a pending action. -/
structure ActionCard where
  pendingActionId : JsString
  actionType : JsString
  toolName : JsString
  summary : JsString
  riskLevel : JsString
  payloadHash : JsString
  expiresAt : JsString
  requiresApproval : Bool
  status : JsString
  deriving DecidableEq

/-- A block of a message. -/
inductive Block where
  | text (text : JsString)
  | chart (chart : ChartSpec) (label : Option JsString)
  | citation (label : JsString) (citations : List JsValue)
  | tool (label : JsString) (tool : ToolProgress)
  | action (label : JsString) (action : ActionCard)
  | error (text : JsString) (label chartError : Option JsString)

inductive Role where
  | user
  | assistant
  deriving DecidableEq, Repr

structure Message where
  role : Role
  blocks : List Block
  runId : Option JsString := none

inductive RunStatus where
  | idle
  | runStarted
  | streaming
  | waitingApproval
  | succeeded
  | failed
  | cancelled
  deriving DecidableEq, Repr

/-- The values of `isStreaming`. -/
def RunStatus.isStreaming (status : RunStatus) : Bool := decide (status = .streaming ∨ status = .runStarted)

/-- The values of `isRunning`. -/
def RunStatus.isRunning (status : RunStatus) : Bool := status.isStreaming || decide (status = .waitingApproval)

structure PlanStep where
  stepId : JsString
  title : JsString
  status : JsString
  toolName : Option JsString

structure PendingAction where
  id : JsString
  agentRunId : JsString
  actionType : JsString
  toolName : JsString
  summary : JsString
  riskLevel : JsString
  status : JsString
  payloadHash : JsString
  expiresAt : JsString
  createdAt : JsString
  decidedBy : Option JsString := none
  decisionReason : Option JsString := none

/-- A normalised error. -/
structure ApiError where
  code : Int
  message : JsString
  traceId : JsString := []
  httpStatus : Int := 0
  retryable : Bool
  forbidden : Bool
  unauthenticated : Bool

structure AiThread where
  threadId : JsString := []
  agentName : JsString := js "assistant"
  messages : List Message := []
  status : RunStatus := .idle
  activeRunId : JsString := []
  routeInfo : Option (JsString × JsString) := none
  plan : List PlanStep := []
  toolCalls : List ToolProgress := []
  citations : List JsValue := []
  pendingAction : Option PendingAction := none
  error : Option ApiError := none
  lastSeq : Nat := 0
  handle : Option Nat := none

/-! ## Events -/

/-- What an event says. -/
inductive EventBody where
  | runStarted
  | routeSelected (route reason : JsString)
  | planCreated (steps : List PlanStep)
  | toolStarted (toolCallId toolName : JsString)
  | toolCompleted (toolCallId : JsString) (status : ToolStatus) (summary : Option JsString) (durationMs : Option JsNumber)
  | evidenceReady (citations : Option (List JsValue))
  | actionPending (pendingActionId actionType toolName summary riskLevel payloadHash expiresAt : JsString)
      (requiresApproval : Bool)
  | actionApproved (pendingActionId approvedBy : JsString) (approved : Bool) (decisionReason : Option JsString)
  | actionExecuting (pendingActionId : JsString)
  | actionCompleted (pendingActionId status : JsString) (summary : Option JsString)
  | finalAnswer (answer : JsString) (chartSpec : Option JsValue)
  | runFailed (errorCode : Int) (message : JsString) (retryable : Bool)

/-- An event; `seq` is there if it is a positive number. -/
structure AgentEvent where
  runId : JsString
  threadId : JsString
  seq : Option Nat
  moment : JsString
  body : EventBody

/-- The events that end a run. -/
def EventBody.terminal : EventBody → Bool
  | .finalAnswer _ _ | .runFailed _ _ _ => true
  | _ => false

/-! ## Writing messages -/

/-- Rewrite the last assistant message. -/
def modifyLast (f : Message → Message) : List Message → Option (List Message)
  | [] => none
  | message :: rest =>
    match modifyLast f rest with
    | some rest => some (message :: rest)
    | none => if message.role = .assistant then some (f message :: rest) else none

/-- `appendBlock`: to the last assistant message, or to a new one of the run. -/
def appendTo (messages : List Message) (block : Block) (runId : JsString) : List Message :=
  match modifyLast (fun message => { message with blocks := message.blocks ++ [block] }) messages with
  | some messages => messages
  | none => messages ++ [{ role := .assistant, blocks := [block], runId := some runId }]

/-- The first block of a tool call takes over what its completion says. -/
def completeTool (toolCallId : JsString) (complete : ToolProgress → ToolProgress) : List Block → List Block
  | [] => []
  | .tool label tool :: rest =>
    if tool.toolCallId = toolCallId then .tool label (complete tool) :: rest
    else .tool label tool :: completeTool toolCallId complete rest
  | block :: rest => block :: completeTool toolCallId complete rest

/-- The first tool call of an id takes over what its completion says. -/
def completeCall (toolCallId : JsString) (complete : ToolProgress → ToolProgress) : List ToolProgress → List ToolProgress
  | [] => []
  | tool :: rest =>
    if tool.toolCallId = toolCallId then complete tool :: rest else tool :: completeCall toolCallId complete rest

/-- `block.tool = {...}` in the last assistant message. -/
def completeInLast (toolCallId : JsString) (complete : ToolProgress → ToolProgress) (messages : List Message) :
    List Message :=
  (modifyLast (fun message => { message with blocks := completeTool toolCallId complete message.blocks })
    messages).getD messages

/-- `updateActionBlock`. -/
def updateActionBlock (pendingActionId status : JsString) (messages : List Message) : List Message :=
  messages.map fun message => { message with
    blocks := message.blocks.map fun block => match block with
      | .action label action =>
        if action.pendingActionId = pendingActionId then .action label { action with status } else .action label action
      | block => block }

/-! ## The store -/

namespace AiThread

def appendBlock (s : AiThread) (block : Block) (runId : JsString) : AiThread :=
  { s with messages := appendTo s.messages block runId }

/-- The blocks of a final answer: the chart of the agent is validated first. -/
def answerBlocks (answer : JsString) (chartSpec : Option JsValue) : List Block :=
  (match chartSpec with
    | none => []
    | some raw => match sanitizeChartSpec raw with
      | .ok spec _ => [.chart spec spec.title]
      | .refused reason _ => [.error (js "图表数据不符合规范，已拒绝渲染：" ++ reason) none (some reason)]) ++
  if answer = [] then [] else [.text answer]

/-- One event, after the check of its sequence number. -/
def applyBody (s : AiThread) (event : AgentEvent) : AiThread :=
  match event.body with
  | .runStarted =>
    { s with
      activeRunId := event.runId
      threadId := event.threadId
      status := .runStarted
      routeInfo := none
      plan := []
      toolCalls := []
      citations := []
      pendingAction := none
      error := none
      messages := s.messages ++ [{ role := .assistant, blocks := [], runId := some event.runId }] }
  | .routeSelected route reason => { s with routeInfo := some (route, reason) }
  | .planCreated steps => { s with plan := steps }
  | .toolStarted toolCallId toolName =>
    let progress : ToolProgress := { toolCallId, toolName, status := .running, startedAt := event.moment }
    { s with status := .streaming, toolCalls := s.toolCalls ++ [progress] }.appendBlock (.tool toolName progress)
      s.activeRunId
  | .toolCompleted toolCallId status summary durationMs =>
    let complete := ToolProgress.completed status summary event.moment durationMs
    { s with
      toolCalls := completeCall toolCallId complete s.toolCalls
      messages := completeInLast toolCallId complete s.messages }
  | .evidenceReady citations =>
    let citations := citations.getD []
    let s := { s with citations := citations }
    if citations.length = 0 then s else s.appendBlock (.citation (js "引用证据") citations) s.activeRunId
  | .actionPending pendingActionId actionType toolName summary riskLevel payloadHash expiresAt requiresApproval =>
    let pending : PendingAction := {
      id := pendingActionId, agentRunId := event.runId, actionType, toolName, summary, riskLevel
      status := js "PENDING", payloadHash, expiresAt, createdAt := event.moment }
    { s with status := .waitingApproval, pendingAction := some pending }.appendBlock
      (.action toolName {
        pendingActionId, actionType, toolName, summary, riskLevel, payloadHash, expiresAt, requiresApproval
        status := js "PENDING" }) s.activeRunId
  | .actionApproved pendingActionId approvedBy approved decisionReason =>
    let decision := if approved then js "APPROVED" else js "REJECTED"
    { s with
      status := if approved then .streaming else .waitingApproval
      pendingAction := s.pendingAction.map fun pending => { pending with
        status := decision, decidedBy := some approvedBy, decisionReason := decisionReason }
      messages := updateActionBlock pendingActionId decision s.messages }
  | .actionExecuting pendingActionId =>
    { s with status := .streaming, messages := updateActionBlock pendingActionId (js "EXECUTING") s.messages }
  | .actionCompleted pendingActionId status summary =>
    let s := { s with messages := updateActionBlock pendingActionId status s.messages }
    match summary with
    | some (c :: cs) => s.appendBlock (.text (js "执行结果：" ++ c :: cs)) s.activeRunId
    | _ => s
  | .finalAnswer answer chartSpec =>
    (answerBlocks answer chartSpec).foldl (fun s block => s.appendBlock block s.activeRunId)
      { s with status := .succeeded }
  | .runFailed errorCode message retryable =>
    { s with
      status := .failed
      error := some {
        code := errorCode, message, retryable
        forbidden := decide (errorCode = 20008 ∨ errorCode = 20009)
        unauthenticated := decide (errorCode = 20000) } }.appendBlock
      (.error message (some (js s!"错误码 {errorCode}")) none) s.activeRunId

/-- `applyEvent`: an event whose sequence number was passed is dropped. -/
def applyEvent (s : AiThread) (event : AgentEvent) : AiThread :=
  match event.seq with
  | none => s.applyBody event
  | some seq => if seq ≤ s.lastSeq then s else { s with lastSeq := seq }.applyBody event

/-- `onError` of a stream. -/
def onError (s : AiThread) (error : ApiError) : AiThread :=
  { s with status := .failed, error := some error }.appendBlock
    (.error error.message (if error.traceId = [] then none else some (js "trace " ++ error.traceId)) none) s.activeRunId

/-- `onClose` of a stream. -/
def onClose (s : AiThread) : AiThread :=
  { (if s.status.isStreaming then
      { s with status := .failed }.appendBlock
        (.error (js "连接已中断，请重试或查看 Agent Runs 获取完整记录。") none none) s.activeRunId
    else s) with handle := none }

/-- `send`, with the stream it opens. -/
def send (s : AiThread) (stream : Nat) (text : JsString) (runAgentName : Option JsString) : AiThread :=
  { s with
    agentName := runAgentName.getD s.agentName
    messages := s.messages ++ [{ role := .user, blocks := [.text text] }]
    status := .streaming
    lastSeq := 0
    handle := some stream }

/-- `cancel`, after the handle was aborted. -/
def cancel (s : AiThread) : AiThread :=
  let s := { s with handle := none }
  if s.status.isRunning then
    { s with status := .cancelled }.appendBlock (.text (js "本次运行已被取消。")) s.activeRunId
  else s

def markApprovalDecided (s : AiThread) (approved : Bool) : AiThread :=
  match s.pendingAction with
  | none => s
  | some pending =>
    { s with
      messages := updateActionBlock pending.id (if approved then js "APPROVED" else js "REJECTED") s.messages
      status := if approved then .streaming else .waitingApproval }

def selectThread (s : AiThread) (id : JsString) : AiThread :=
  { s.cancel with
    threadId := id
    messages := []
    status := .idle
    lastSeq := 0
    pendingAction := none
    toolCalls := []
    citations := [] }

def reset (s : AiThread) : AiThread :=
  { s.cancel with
    threadId := []
    messages := []
    status := .idle
    lastSeq := 0
    routeInfo := none
    plan := []
    toolCalls := []
    citations := []
    pendingAction := none
    error := none }

end AiThread

/-! ## Streams -/

/-- What a stream hands to the store. A terminal event and an error are followed by the close at once. -/
inductive Callback where
  | event (event : AgentEvent)
  | fail (error : ApiError)
  | close

/-- The stream ends with the callback. -/
def Callback.closes : Callback → Bool
  | .event e => e.body.terminal
  | .fail _ | .close => true

def Callback.apply (s : AiThread) : Callback → AiThread
  | .event e => if e.body.terminal then (s.applyEvent e).onClose else s.applyEvent e
  | .fail error => (s.onError error).onClose
  | .close => s.onClose

/-- A call of the user, or a callback of a stream. -/
inductive Input where
  | send (text : JsString) (runAgentName : Option JsString)
  | cancel
  | selectThread (id : JsString)
  | reset
  | markApprovalDecided (approved : Bool)
  | deliver (stream : Nat) (callback : Callback)

/-- The store, the streams it opened (each open or closed), the streams it aborted, and the stream of the turn the
user sees: the last one opened, until it closes or is cancelled. -/
structure Session where
  store : AiThread := {}
  streams : List Bool := []
  aborted : List Nat := []
  current : Option Nat := none

namespace Session

/-- Abort the handle and go on with a store that was cancelled. -/
def cancelled (s : Session) (store : AiThread) : Session :=
  { s with store, aborted := s.store.handle.toList ++ s.aborted, current := none }

/-- A callback of an open stream. -/
def deliver (s : Session) (stream : Nat) (callback : Callback) : Session :=
  { s with
    store := callback.apply s.store
    streams := if callback.closes then s.streams.set stream false else s.streams
    current := if callback.closes ∧ s.current = some stream then none else s.current }

def step (s : Session) : Input → Option Session
  | .send text runAgentName =>
    if s.store.status.isRunning then some s
    else some { s with
      store := s.store.send s.streams.length text runAgentName
      streams := s.streams ++ [true]
      current := some s.streams.length }
  | .cancel => some (s.cancelled s.store.cancel)
  | .selectThread id => some (s.cancelled (s.store.selectThread id))
  | .reset => some (s.cancelled s.store.reset)
  | .markApprovalDecided approved => some { s with store := s.store.markApprovalDecided approved }
  | .deliver stream callback => if s.streams[stream]? = some true then some (s.deliver stream callback) else none

/-- The stream is still open, and was cancelled or superseded. -/
def Stale (s : Session) (stream : Nat) : Prop := s.streams[stream]? = some true ∧ s.current ≠ some stream

end Session

/-! ## Late callbacks -/

/-- The messages, the status, the last sequence number and the current handle are the same. -/
structure AiThread.Same (s s' : AiThread) : Prop where
  messages : s'.messages = s.messages
  status : s'.status = s.status
  lastSeq : s'.lastSeq = s.lastSeq
  handle : s'.handle = s.handle

/-- An event without a sequence number that has nothing to write: no block, and no status but the one that is there. -/
def AgentEvent.Idle (s : AiThread) (event : AgentEvent) : Prop :=
  match event.body with
  | .routeSelected _ _ | .planCreated _ => True
  | .toolCompleted toolCallId status summary durationMs =>
    completeInLast toolCallId (ToolProgress.completed status summary event.moment durationMs) s.messages = s.messages
  | .evidenceReady citations => (citations.getD []).length = 0
  | .actionApproved pendingActionId _ approved _ =>
    s.status = (if approved then .streaming else .waitingApproval) ∧
      updateActionBlock pendingActionId (if approved then js "APPROVED" else js "REJECTED") s.messages = s.messages
  | .actionExecuting pendingActionId =>
    s.status = .streaming ∧ updateActionBlock pendingActionId (js "EXECUTING") s.messages = s.messages
  | .actionCompleted pendingActionId status summary =>
    summary.getD [] = [] ∧ updateActionBlock pendingActionId status s.messages = s.messages
  | .finalAnswer answer chartSpec => s.status = .succeeded ∧ answer = [] ∧ chartSpec = none
  | _ => False

/-- An event whose sequence number was passed, or an idle one without. -/
def AgentEvent.Harmless (s : AiThread) (event : AgentEvent) : Prop :=
  match event.seq with
  | some seq => seq ≤ s.lastSeq
  | none => event.Idle s

/-- A close is harmless while no run is streaming and no other stream is held. -/
def Callback.Harmless (s : AiThread) : Callback → Prop
  | .event e => e.Harmless s ∧
    (e.body.terminal = true → s.status.isStreaming = false ∧ s.handle = none)
  | .fail _ => False
  | .close => s.status.isStreaming = false ∧ s.handle = none

/-! ## Counting blocks -/

/-- The messages and blocks of a conversation. -/
def weight (messages : List Message) : Nat := (messages.map fun message => message.blocks.length + 1).sum

theorem weight_append (messages messages' : List Message) :
    weight (messages ++ messages') = weight messages + weight messages' := by
  unfold weight
  rw [List.map_append, List.sum_append]

theorem weight_modifyLast {f : Message → Message} {n : Nat}
    (hf : ∀ message, (f message).blocks.length = message.blocks.length + n) :
    ∀ {messages messages' : List Message}, modifyLast f messages = some messages' →
      weight messages' = weight messages + n
  | [], _, h => nomatch h
  | message :: rest, messages', h => by
    unfold modifyLast at h
    cases hrest : modifyLast f rest with
    | some rest' =>
      rw [hrest] at h
      cases h
      have ih := weight_modifyLast hf hrest
      show (message.blocks.length + 1) + weight rest' = (message.blocks.length + 1) + weight rest + n
      omega
    | none =>
      rw [hrest] at h
      dsimp only at h
      split_ifs at h
      cases h
      have hlength := hf message
      show ((f message).blocks.length + 1) + weight rest = (message.blocks.length + 1) + weight rest + n
      omega

theorem weight_appendTo (messages : List Message) (block : Block) (runId : JsString) :
    weight messages < weight (appendTo messages block runId) := by
  unfold appendTo
  split
  · next messages' h =>
    have hweight := weight_modifyLast (n := 1) (fun message => List.length_append) h
    omega
  · rw [weight_append]
    show weight messages < weight messages + 2
    omega

theorem length_completeTool (toolCallId : JsString) (complete : ToolProgress → ToolProgress) :
    ∀ blocks, (completeTool toolCallId complete blocks).length = blocks.length := by
  intro blocks
  induction blocks with
  | nil => rfl
  | cons block rest ih =>
    cases block with
    | tool label tool =>
      unfold completeTool
      split_ifs
      · rfl
      · exact congrArg (· + 1) ih
    | _ => exact congrArg (· + 1) ih

theorem weight_updateActionBlock (pendingActionId status : JsString) (messages : List Message) :
    weight (updateActionBlock pendingActionId status messages) = weight messages := by
  unfold weight updateActionBlock
  rw [List.map_map]
  congr 1
  refine List.map_congr_left fun message _ => ?_
  simp

/-! ## What late callbacks do -/

theorem AiThread.Same.of_grown {s s' : AiThread} (h : weight s.messages < weight s'.messages) : ¬ s.Same s' := by
  intro hsame
  rw [hsame.messages] at h
  exact lt_irrefl _ h

theorem weight_foldl_appendBlock (blocks : List Block) (s : AiThread) :
    weight s.messages + blocks.length ≤
      weight (blocks.foldl (fun s block => s.appendBlock block s.activeRunId) s).messages := by
  induction blocks generalizing s with
  | nil => exact le_rfl
  | cons block rest ih =>
    have hblock := weight_appendTo s.messages block s.activeRunId
    have hrest := ih (s.appendBlock block s.activeRunId)
    have hmessages : (s.appendBlock block s.activeRunId).messages = appendTo s.messages block s.activeRunId := rfl
    rw [hmessages] at hrest
    rw [List.foldl_cons, List.length_cons]
    omega

theorem answerBlocks_eq_nil {answer : JsString} {chartSpec : Option JsValue} :
    AiThread.answerBlocks answer chartSpec = [] ↔ answer = [] ∧ chartSpec = none := by
  unfold AiThread.answerBlocks
  rw [List.append_eq_nil_iff]
  constructor
  · rintro ⟨hchart, hanswer⟩
    refine ⟨?_, ?_⟩
    · by_contra hne
      rw [if_neg hne] at hanswer
      cases hanswer
    · cases chartSpec with
      | none => rfl
      | some raw =>
        dsimp only at hchart
        split at hchart <;> cases hchart
  · rintro ⟨rfl, rfl⟩
    exact ⟨rfl, rfl⟩

/-- Writing blocks changes no other field. -/
theorem foldl_appendBlock (blocks : List Block) (s : AiThread) :
    (blocks.foldl (fun s block => s.appendBlock block s.activeRunId) s).status = s.status ∧
      (blocks.foldl (fun s block => s.appendBlock block s.activeRunId) s).lastSeq = s.lastSeq ∧
      (blocks.foldl (fun s block => s.appendBlock block s.activeRunId) s).handle = s.handle := by
  induction blocks generalizing s with
  | nil => exact ⟨rfl, rfl, rfl⟩
  | cons block rest ih => exact ih (s.appendBlock block s.activeRunId)

/-- An event without a sequence number leaves the last one and the handle alone. -/
theorem applyBody_frame (s : AiThread) (event : AgentEvent) :
    (s.applyBody event).lastSeq = s.lastSeq ∧ (s.applyBody event).handle = s.handle := by
  unfold AiThread.applyBody
  cases event.body with
  | evidenceReady citations =>
    dsimp only
    split_ifs <;> exact ⟨rfl, rfl⟩
  | actionCompleted pendingActionId status summary =>
    dsimp only
    split <;> exact ⟨rfl, rfl⟩
  | finalAnswer answer chartSpec =>
    exact (foldl_appendBlock (AiThread.answerBlocks answer chartSpec) { s with status := .succeeded }).2
  | _ => exact ⟨rfl, rfl⟩

theorem applyBody_same_iff (s : AiThread) (event : AgentEvent) :
    s.Same (s.applyBody event) ↔ event.Idle s := by
  have hgrown : ∀ {messages : List Message} {block : Block} {runId : JsString} {s' : AiThread},
      s'.messages = appendTo messages block runId → weight messages = weight s.messages → ¬ s.Same s' := by
    intro messages block runId s' hmessages hweight
    refine AiThread.Same.of_grown ?_
    rw [hmessages, ← hweight]
    exact weight_appendTo messages block runId
  unfold AiThread.applyBody AgentEvent.Idle
  cases event.body with
  | runStarted =>
    refine iff_of_false (AiThread.Same.of_grown ?_) id
    show weight s.messages < weight (s.messages ++ _)
    rw [weight_append]
    exact Nat.lt_add_of_pos_right (Nat.succ_pos 0)
  | routeSelected route reason => exact iff_of_true ⟨rfl, rfl, rfl, rfl⟩ trivial
  | planCreated steps => exact iff_of_true ⟨rfl, rfl, rfl, rfl⟩ trivial
  | toolStarted toolCallId toolName => exact iff_of_false (hgrown rfl rfl) id
  | toolCompleted toolCallId status summary durationMs =>
    exact ⟨fun h => h.messages, fun h => ⟨h, rfl, rfl, rfl⟩⟩
  | evidenceReady citations =>
    dsimp only
    split_ifs with hempty
    · exact iff_of_true ⟨rfl, rfl, rfl, rfl⟩ hempty
    · exact iff_of_false (hgrown rfl rfl) hempty
  | actionPending => exact iff_of_false (hgrown rfl rfl) id
  | actionApproved pendingActionId approvedBy approved decisionReason =>
    exact ⟨fun h => ⟨h.status.symm, h.messages⟩, fun h => ⟨h.2, h.1.symm, rfl, rfl⟩⟩
  | actionExecuting pendingActionId => exact ⟨fun h => ⟨h.status.symm, h.messages⟩, fun h => ⟨h.2, h.1.symm, rfl, rfl⟩⟩
  | actionCompleted pendingActionId status summary =>
    dsimp only
    split
    · next c cs =>
      refine iff_of_false (hgrown rfl (weight_updateActionBlock pendingActionId status s.messages)) ?_
      rintro ⟨hsummary, -⟩
      cases hsummary
    · next hsummary =>
      have hnone : summary.getD [] = [] := by
        cases summary with
        | none => rfl
        | some text => cases text with
          | nil => rfl
          | cons c cs => exact absurd rfl (hsummary c cs)
      exact ⟨fun h => ⟨hnone, h.messages⟩, fun h => ⟨h.2, rfl, rfl, rfl⟩⟩
  | finalAnswer answer chartSpec =>
    dsimp only
    by_cases hblocks : AiThread.answerBlocks answer chartSpec = []
    · rw [hblocks]
      exact ⟨fun h => ⟨h.status.symm, answerBlocks_eq_nil.mp hblocks⟩, fun h => ⟨rfl, h.1.symm, rfl, rfl⟩⟩
    · have hweight := weight_foldl_appendBlock (AiThread.answerBlocks answer chartSpec)
        { s with status := .succeeded }
      have hpos := List.length_pos_iff.mpr hblocks
      refine iff_of_false (AiThread.Same.of_grown ?_) fun h => hblocks (answerBlocks_eq_nil.mpr h.2)
      have hmessages : weight ({ s with status := RunStatus.succeeded } : AiThread).messages = weight s.messages := rfl
      omega
  | runFailed errorCode message retryable => exact iff_of_false (hgrown rfl rfl) id

theorem applyEvent_same_iff (s : AiThread) (event : AgentEvent) :
    s.Same (s.applyEvent event) ↔ event.Harmless s := by
  unfold AiThread.applyEvent AgentEvent.Harmless
  cases event.seq with
  | none => exact applyBody_same_iff s event
  | some seq =>
    dsimp only
    split_ifs with hpassed
    · exact iff_of_true ⟨rfl, rfl, rfl, rfl⟩ hpassed
    · refine iff_of_false (fun h => ?_) hpassed
      have hseq := h.lastSeq
      rw [(applyBody_frame { s with lastSeq := seq } event).1] at hseq
      exact hpassed hseq.le

theorem onClose_same_iff (s : AiThread) : s.Same s.onClose ↔ s.status.isStreaming = false ∧ s.handle = none := by
  unfold AiThread.onClose
  by_cases hstreaming : s.status.isStreaming = true
  · rw [if_pos hstreaming]
    refine iff_of_false (AiThread.Same.of_grown ?_) fun h => ?_
    · exact weight_appendTo s.messages _ s.activeRunId
    · rw [hstreaming] at h
      cases h.1
  · rw [if_neg hstreaming]
    rw [Bool.not_eq_true] at hstreaming
    exact ⟨fun h => ⟨hstreaming, h.handle.symm⟩, fun h => ⟨rfl, rfl, rfl, h.2.symm⟩⟩

theorem AiThread.Same.trans {s s' s'' : AiThread} (h : s.Same s') (h' : s'.Same s'') : s.Same s'' :=
  ⟨h'.messages.trans h.messages, h'.status.trans h.status, h'.lastSeq.trans h.lastSeq, h'.handle.trans h.handle⟩

/-- A close after the end of a run lets go of the handle, and does nothing else. -/
theorem onClose_idle {s : AiThread} (h : s.status.isStreaming = false) : s.onClose = { s with handle := none } := by
  unfold AiThread.onClose
  rw [h]
  rfl

/-- A terminal event that is not dropped ends the run. -/
theorem terminal_ends (s : AiThread) {event : AgentEvent} (h : event.body.terminal = true) :
    (s.applyBody event).status.isStreaming = false := by
  unfold AiThread.applyBody
  cases hbody : event.body with
  | finalAnswer answer chartSpec =>
    have hstatus := (foldl_appendBlock (AiThread.answerBlocks answer chartSpec) { s with status := .succeeded }).1
    dsimp only
    rw [hstatus]
    rfl
  | runFailed errorCode message retryable => rfl
  | _ =>
    rw [hbody] at h
    cases h

theorem terminal_same_iff (s : AiThread) {event : AgentEvent} (h : event.body.terminal = true) :
    s.Same (s.applyEvent event).onClose ↔
      event.Harmless s ∧ s.status.isStreaming = false ∧ s.handle = none := by
  -- a dropped event leaves the close, any other ends the run before it
  have happlied : ∀ s₁ : AiThread, s₁.handle = s.handle → s₁.status.isStreaming = false →
      (s.Same s₁.onClose ↔ s.Same s₁ ∧ s.status.isStreaming = false ∧ s.handle = none) := by
    intro s₁ hhandle hstatus
    rw [onClose_idle hstatus]
    constructor
    · intro hsame
      refine ⟨⟨hsame.messages, hsame.status, hsame.lastSeq, hhandle⟩, ?_, hsame.handle.symm⟩
      have hsame_status : s₁.status = s.status := hsame.status
      rw [← hsame_status]
      exact hstatus
    · rintro ⟨hsame, -, hnone⟩
      exact ⟨hsame.messages, hsame.status, hsame.lastSeq, hnone.symm⟩
  have hiff := applyEvent_same_iff s event
  unfold AiThread.applyEvent AgentEvent.Harmless at hiff ⊢
  cases hseq : event.seq with
  | none =>
    rw [hseq] at hiff
    dsimp only at hiff ⊢
    rw [happlied _ (applyBody_frame s event).2 (terminal_ends s h), hiff]
  | some seq =>
    rw [hseq] at hiff
    dsimp only at hiff ⊢
    split_ifs with hpassed
    · rw [onClose_same_iff]
      exact ⟨fun hclose => ⟨hpassed, hclose⟩, And.right⟩
    · rw [if_neg hpassed] at hiff
      rw [happlied _ (applyBody_frame { s with lastSeq := seq } event).2 (terminal_ends _ h), hiff]

/-- A late callback leaves the messages, the status, the last sequence number and the handle alone if and only if it
is harmless. -/
theorem Callback.same_iff (s : AiThread) (callback : Callback) :
    s.Same (callback.apply s) ↔ callback.Harmless s := by
  cases callback with
  | event event =>
    unfold Callback.apply Callback.Harmless
    dsimp only
    cases hterminal : event.body.terminal with
    | true =>
      rw [if_pos rfl, terminal_same_iff s hterminal]
      exact and_congr_right fun _ => ⟨fun hclose _ => hclose, fun hclose => hclose rfl⟩
    | false =>
      rw [if_neg (by decide), applyEvent_same_iff]
      exact ⟨fun hharmless => ⟨hharmless, fun h => nomatch h⟩, And.left⟩
  | fail error =>
    refine iff_of_false (AiThread.Same.of_grown ?_) id
    have hclosed : (s.onError error).onClose = { s.onError error with handle := none } := onClose_idle rfl
    unfold Callback.apply
    dsimp only
    rw [hclosed]
    exact weight_appendTo s.messages _ s.activeRunId
  | close => exact onClose_same_iff s

/-! ## Runs -/

/-- A callback of a stream that was cancelled or superseded is harmless. -/
def Input.Timely (s : Session) : Input → Prop
  | .deliver stream callback => s.Stale stream → callback.Harmless s.store
  | _ => True

theorem apply_handle (s : AiThread) (callback : Callback) :
    (callback.apply s).handle = if callback.closes then none else s.handle := by
  cases callback with
  | event event =>
    unfold Callback.apply Callback.closes
    dsimp only
    split_ifs
    · rfl
    · unfold AiThread.applyEvent
      split
      · exact (applyBody_frame s event).2
      · split_ifs
        · rfl
        · exact (applyBody_frame { s with lastSeq := _ } event).2
  | fail error => rfl
  | close => rfl

/-- A harmless callback of a stale stream finds no handle if it closes the stream. -/
theorem Callback.Harmless.handle {s : AiThread} {callback : Callback} (h : callback.Harmless s)
    (hcloses : callback.closes = true) : s.handle = none := by
  cases callback with
  | event event => exact (h.2 hcloses).2
  | fail error => exact absurd h id
  | close => exact h.2

theorem cancel_handle (s : AiThread) : s.cancel.handle = none := by
  unfold AiThread.cancel
  dsimp only
  split_ifs <;> rfl

theorem markApprovalDecided_handle (s : AiThread) (approved : Bool) : (s.markApprovalDecided approved).handle = s.handle := by
  unfold AiThread.markApprovalDecided
  split <;> rfl

/-- The handle of the store is the stream of the turn the user sees. -/
theorem handle_current {s s' : Session} {input : Input} (h : s.store.handle = s.current) (htimely : input.Timely s)
    (hstep : s.step input = some s') : s'.store.handle = s'.current := by
  unfold Session.step at hstep
  cases input with
  | send text runAgentName =>
    dsimp only at hstep
    split_ifs at hstep
    · cases hstep
      exact h
    · cases hstep
      rfl
  | cancel =>
    cases hstep
    exact cancel_handle s.store
  | selectThread id =>
    cases hstep
    exact cancel_handle s.store
  | reset =>
    cases hstep
    exact cancel_handle s.store
  | markApprovalDecided approved =>
    cases hstep
    exact (markApprovalDecided_handle s.store approved).trans h
  | deliver stream callback =>
    dsimp only at hstep
    split_ifs at hstep with hopen
    cases hstep
    show (callback.apply s.store).handle = if callback.closes ∧ s.current = some stream then none else s.current
    rw [apply_handle]
    by_cases hcloses : callback.closes = true
    · rw [if_pos hcloses]
      by_cases hcurrent : s.current = some stream
      · rw [if_pos ⟨hcloses, hcurrent⟩]
      · rw [if_neg fun hboth => hcurrent hboth.2, ← h]
        exact ((htimely ⟨hopen, hcurrent⟩).handle hcloses).symm
    · rw [if_neg hcloses, if_neg fun hboth => hcloses hboth.1]
      exact h

/-- In every run, a callback of a stream that was cancelled or superseded leaves the messages, the status, the last
sequence number and the handle alone if and only if it is harmless; and where all such callbacks are harmless, the
handle that `cancel` aborts is the stream of the turn the user sees. -/
theorem superseded_dead (allowed : Session → Input → Prop) (s : Session)
    (h : Reached Session.step allowed {} s) :
    (∀ stream callback s', s.Stale stream → s.step (.deliver stream callback) = some s' →
      (s.store.Same s'.store ↔ callback.Harmless s.store)) ∧
    ((∀ s input, allowed s input → input.Timely s) → s.store.handle = s.current) := by
  refine ⟨fun stream callback s' hstale hstep => ?_, fun htimely => ?_⟩
  · unfold Session.step at hstep
    dsimp only at hstep
    rw [if_pos hstale.1] at hstep
    cases hstep
    exact Callback.same_iff s.store callback
  · exact Reached.invariant (P := fun s : Session => s.store.handle = s.current) h rfl fun hs hok hstep =>
      handle_current hs (htimely _ _ hok) hstep

/-- A stream that was cancelled closes before the next turn begins. -/
theorem superseded_dead_cancelled : ∃ s, Reached Session.step (fun s input => input.Timely s) {} s ∧
    s.Stale 0 ∧ (∀ s', s.step (.deliver 0 .close) = some s' → s.store.Same s'.store) ∧
    s.store.handle = s.current := by
  have h₀ : Reached Session.step (fun s input => input.Timely s) {} {} := .start
  have h₁ := h₀.next (Input.send (js "hi") none) trivial rfl
  have h₂ := h₁.next Input.cancel trivial rfl
  obtain ⟨hlate, hcurrent⟩ := superseded_dead (fun s input => input.Timely s) _ h₂
  refine ⟨_, h₂, ⟨rfl, fun h => nomatch h⟩, fun s' hstep => ?_, hcurrent fun _ _ h => h⟩
  exact (hlate 0 .close s' ⟨rfl, fun h => nomatch h⟩ hstep).mpr ⟨rfl, rfl⟩

/-- A turn is cancelled and another one begins: the late close of the first stream ends the second turn. -/
theorem superseded_alive : ¬ ∀ s : Session, Reached Session.step (fun _ _ => True) {} s →
    (∀ stream callback s', s.Stale stream → s.step (.deliver stream callback) = some s' → s.store.Same s'.store) ∧
    s.store.handle = s.current := by
  intro hclaim
  have h₀ : Reached Session.step (fun _ _ => True) {} {} := .start
  have h₁ := h₀.next (Input.send (js "a") none) trivial rfl
  have h₂ := h₁.next Input.cancel trivial rfl
  have h₃ := h₂.next (Input.send (js "b") none) trivial rfl
  have hsame := (hclaim _ h₃).1 0 .close _ ⟨rfl, fun h => nomatch h⟩ rfl
  have hstatus := hsame.status
  cases hstatus

end NovaCommerce.Frontend
