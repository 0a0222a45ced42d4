import NovaCommerce.Frontend.AiThread

/-!
# Blocks and their turns

A block is appended to the last assistant message of the conversation. A turn has none before its run starts: what it
writes until then goes to the message of an earlier turn, if there is one.

* `Dialogue` : a session with the turn that wrote each block, and the place of each turn's user message;
* `Dialogue.InTurn` : a callback or a cancellation writes only behind the user message of its turn;
* `blocks_in_turn` : the runs in which every block is behind the user message of its turn, and no block of an
  earlier turn changes but by a decision on its action.
-/

namespace NovaCommerce.Frontend

open Transition

/-! ## Places -/

/-- The place of the last assistant message. -/
def lastAssistant : List Message → Option Nat
  | [] => none
  | message :: rest =>
    match lastAssistant rest with
    | some place => some (place + 1)
    | none => if message.role = .assistant then some 0 else none

/-- Where a block is appended: the last assistant message, or a new message at the end. -/
def target (messages : List Message) : Nat := (lastAssistant messages).getD messages.length

def blocksAt (messages : List Message) (place : Nat) : List Block := ((messages[place]?).map Message.blocks).getD []

def roleAt (messages : List Message) (place : Nat) : Option Role := (messages[place]?).map Message.role

theorem modifyLast_eq (f : Message → Message) (messages : List Message) :
    modifyLast f messages = (lastAssistant messages).map fun place => messages.modify place f := by
  induction messages with
  | nil => rfl
  | cons message rest ih =>
    rw [modifyLast, lastAssistant, ih]
    cases lastAssistant rest with
    | some place => rfl
    | none =>
      dsimp only [Option.map_none]
      split_ifs <;> rfl

theorem lastAssistant_some {messages : List Message} {place : Nat} (h : lastAssistant messages = some place) :
    ∃ message, messages[place]? = some message ∧ message.role = .assistant := by
  induction messages generalizing place with
  | nil => cases h
  | cons message rest ih =>
    rw [lastAssistant] at h
    cases hrest : lastAssistant rest with
    | some place' =>
      rw [hrest] at h
      cases h
      exact ih hrest
    | none =>
      rw [hrest] at h
      dsimp only at h
      split_ifs at h with hrole
      cases h
      exact ⟨message, rfl, hrole⟩

theorem lastAssistant_congr {messages messages' : List Message}
    (h : messages'.map Message.role = messages.map Message.role) : lastAssistant messages' =
      lastAssistant messages := by
  induction messages generalizing messages' with
  | nil =>
    rw [List.map_nil, List.map_eq_nil_iff] at h
    rw [h]
  | cons message rest ih =>
    cases messages' with
    | nil => cases h
    | cons message' rest' =>
      rw [List.map_cons, List.map_cons, List.cons.injEq] at h
      rw [lastAssistant, lastAssistant, ih h.2, h.1]

theorem target_congr {messages messages' : List Message}
    (h : messages'.map Message.role = messages.map Message.role) : target messages' = target messages := by
  unfold target
  rw [lastAssistant_congr h]
  have hlength := congrArg List.length h
  rw [List.length_map, List.length_map] at hlength
  rw [hlength]

theorem lastAssistant_push (messages : List Message) {message : Message} (h : message.role = .assistant) :
    lastAssistant (messages ++ [message]) = some messages.length := by
  induction messages with
  | nil => exact if_pos h
  | cons first rest ih =>
    rw [List.cons_append, lastAssistant, ih]
    rfl

theorem roles_modify {f : Message → Message} (hf : ∀ message, (f message).role = message.role)
    (messages : List Message)
    (place : Nat) : (messages.modify place f).map Message.role = messages.map Message.role := by
  refine List.ext_getElem? fun k => ?_
  rw [List.getElem?_map, List.getElem?_map, List.getElem?_modify]
  cases messages[k]? with
  | none => rfl
  | some message =>
    show some (if place = k then f message else message).role = some message.role
    split_ifs
    · rw [hf]
    · rfl

/-! ## Appending -/

/-- `message.blocks.push(block)`. -/
def Message.push (block : Block) (message : Message) : Message := { message with blocks := message.blocks ++ [block] }

theorem appendTo_some {messages : List Message} {place : Nat} (h : lastAssistant messages = some place)
    (block : Block)
    (runId : JsString) : appendTo messages block runId = messages.modify place (Message.push block) := by
  unfold appendTo
  rw [modifyLast_eq, h]
  rfl

theorem appendTo_none {messages : List Message} (h : lastAssistant messages = none) (block : Block)
    (runId : JsString) :
    appendTo messages block runId = messages ++ [{ role := .assistant, blocks := [block], runId := some runId }] := by
  unfold appendTo
  rw [modifyLast_eq, h]
  rfl

theorem target_some {messages : List Message} {place : Nat} (h : lastAssistant messages = some place) :
    target messages = place := by
  rw [target, h]
  rfl

theorem target_none {messages : List Message} (h : lastAssistant messages = none) :
    target messages = messages.length := by
  rw [target, h]
  rfl

theorem target_appendTo (messages : List Message) (block : Block) (runId : JsString) :
    target (appendTo messages block runId) = target messages := by
  cases hlast : lastAssistant messages with
  | some place =>
    rw [appendTo_some hlast]
    exact target_congr (roles_modify (f := Message.push block) (fun _ => rfl) messages place)
  | none => rw [appendTo_none hlast, target_some (lastAssistant_push messages rfl), target_none hlast]

theorem appendTo_ne {messages : List Message} {place : Nat} (h : place ≠ target messages) (block : Block)
    (runId : JsString) : (appendTo messages block runId)[place]? = messages[place]? := by
  cases hlast : lastAssistant messages with
  | some last =>
    rw [target_some hlast] at h
    rw [appendTo_some hlast, List.getElem?_modify_ne _ _ h.symm]
  | none =>
    rw [target_none hlast] at h
    rw [appendTo_none hlast]
    rcases Nat.lt_or_gt_of_ne h with hlt | hgt
    · exact List.getElem?_append_left hlt
    · rw [List.getElem?_eq_none hgt.le, List.getElem?_eq_none]
      rw [List.length_append]
      exact hgt

theorem appendTo_at (messages : List Message) (block : Block) (runId : JsString) :
    roleAt (appendTo messages block runId) (target messages) = some .assistant ∧
      blocksAt (appendTo messages block runId) (target messages) = blocksAt messages (target messages) ++
        [block] := by
  unfold roleAt blocksAt
  cases hlast : lastAssistant messages with
  | some place =>
    obtain ⟨message, hmessage, hrole⟩ := lastAssistant_some hlast
    have hat : (messages.modify place (Message.push block))[place]? = some (message.push block) := by
      rw [List.getElem?_modify_eq, hmessage]
      rfl
    rw [target_some hlast, appendTo_some hlast, hat, hmessage]
    exact ⟨congrArg some hrole, rfl⟩
  | none =>
    rw [target_none hlast, appendTo_none hlast, List.getElem?_concat_length, List.getElem?_eq_none le_rfl]
    exact ⟨rfl, rfl⟩

theorem role_target {messages : List Message} {role : Role} (h : roleAt messages (target messages) = some role) :
    role = .assistant := by
  unfold roleAt at h
  cases hlast : lastAssistant messages with
  | some place =>
    obtain ⟨message, hmessage, hrole⟩ := lastAssistant_some hlast
    rw [target_some hlast, hmessage] at h
    exact (Option.some.inj h).symm.trans hrole
  | none =>
    rw [target_none hlast, List.getElem?_eq_none le_rfl] at h
    cases h

/-! ## Effects -/

/-- What a step does to a conversation: messages keep their place and role, blocks keep their place unless they
change, and new ones are written to the last assistant message, or to a new one. -/
structure Effect (writes : Prop) (change : Nat → Nat → Block → Block → Prop) (messages messages' : List Message) :
    Prop where
  roles : ∀ place role, roleAt messages place = some role → roleAt messages' place = some role
  kept : ∀ place k block, (blocksAt messages place)[k]? = some block →
    ∃ block', (blocksAt messages' place)[k]? = some block' ∧ (block' = block ∨ change place k block block')
  grown : ∀ place, (blocksAt messages place).length < (blocksAt messages' place).length →
    writes ∧ place = target messages ∧ roleAt messages' place = some .assistant

/-- Nothing changes. -/
abbrev unchanged (_ _ : Nat) (_ _ : Block) : Prop := False

theorem Effect.refl {writes : Prop} {change : Nat → Nat → Block → Block → Prop} (messages : List Message) :
    Effect writes change messages messages where
  roles _ _ h := h
  kept _ _ block h := ⟨block, h, .inl rfl⟩
  grown _ h := absurd h (lt_irrefl _)

theorem Effect.mono {writes writes' : Prop} {change change' : Nat → Nat → Block → Block → Prop}
    {messages messages' : List Message} (h : Effect writes change messages messages') (hwrites : writes → writes')
    (hchange : ∀ place k block block', (blocksAt messages place)[k]? = some block → change place k block block' →
      change' place k block block') : Effect writes' change' messages messages' where
  roles := h.roles
  kept place k block hblock := by
    obtain ⟨block', hblock', hor⟩ := h.kept place k block hblock
    exact ⟨block', hblock', hor.imp_right (hchange place k block block' hblock)⟩
  grown place hlength := by
    obtain ⟨hw, hrest⟩ := h.grown place hlength
    exact ⟨hwrites hw, hrest⟩

/-- Blocks are written after others have changed. -/
theorem Effect.trans {writes : Prop} {change : Nat → Nat → Block → Block → Prop} {messages messages₁ messages' :
    List Message}
    (h : Effect False change messages messages₁) (htarget : target messages₁ = target messages)
    (h' : Effect writes unchanged messages₁ messages') : Effect writes change messages messages' where
  roles place role hrole := h'.roles place role (h.roles place role hrole)
  kept place k block hblock := by
    obtain ⟨block₁, hblock₁, hor⟩ := h.kept place k block hblock
    obtain ⟨block', hblock', rfl | hfalse⟩ := h'.kept place k block₁ hblock₁
    · exact ⟨block', hblock', hor⟩
    · exact absurd hfalse id
  grown place hlength := by
    have hsame : (blocksAt messages₁ place).length ≤ (blocksAt messages place).length :=
      not_lt.mp fun hlt => (h.grown place hlt).1
    rw [← htarget]
    exact h'.grown place (hsame.trans_lt hlength)

theorem effect_appendTo (messages : List Message) (block : Block) (runId : JsString) :
    Effect True unchanged messages (appendTo messages block runId) := by
  obtain ⟨hrole, hblocks⟩ := appendTo_at messages block runId
  refine ⟨fun place role h => ?_, fun place k old h => ⟨old, ?_, .inl rfl⟩, fun place h => ?_⟩
  · by_cases htarget : place = target messages
    · rw [htarget] at h ⊢
      rw [hrole, role_target h]
    · unfold roleAt
      rw [appendTo_ne htarget]
      exact h
  · by_cases htarget : place = target messages
    · rw [htarget] at h ⊢
      rw [hblocks]
      rw [List.getElem?_append_left (List.getElem?_eq_some_iff.mp h).1]
      exact h
    · unfold blocksAt
      rw [appendTo_ne htarget]
      exact h
  · by_cases htarget : place = target messages
    · rw [htarget]
      exact ⟨trivial, rfl, hrole⟩
    · unfold blocksAt at h
      rw [appendTo_ne htarget] at h
      exact absurd h (lt_irrefl _)

def appendAll (messages : List Message) (blocks : List Block) (runId : JsString) : List Message :=
  blocks.foldl (fun messages block => appendTo messages block runId) messages

/-- By induction on the blocks: the first one decides the message that all go to. -/
theorem effect_appendAll (blocks : List Block) (messages : List Message) (runId : JsString) :
    Effect (blocks ≠ []) unchanged messages (appendAll messages blocks runId) := by
  induction blocks generalizing messages with
  | nil => exact .refl messages
  | cons block rest ih =>
    have hfirst := effect_appendTo messages block runId
    have hrest := ih (appendTo messages block runId)
    refine ⟨fun place role h => hrest.roles place role (hfirst.roles place role h), fun place k old h => ?_,
      fun place h => ?_⟩
    · obtain ⟨old₁, hold₁, rfl | hfalse⟩ := hfirst.kept place k old h
      · exact hrest.kept place k old₁ hold₁
      · exact absurd hfalse id
    · refine ⟨List.cons_ne_nil block rest, ?_⟩
      by_cases hgrown : (blocksAt (appendTo messages block runId) place).length <
          (blocksAt (appendAll (appendTo messages block runId) rest runId) place).length
      · obtain ⟨-, hplace, hrole⟩ := hrest.grown place hgrown
        rw [target_appendTo] at hplace
        exact ⟨hplace, hrole⟩
      · obtain ⟨-, hplace, hrole⟩ := hfirst.grown place (h.trans_le (not_lt.mp hgrown))
        exact ⟨hplace, hrest.roles place .assistant hrole⟩

theorem getElem?_push (messages : List Message) (message : Message) (place : Nat) :
    (messages ++ [message])[place]? = if place = messages.length then some message else messages[place]? := by
  rcases Nat.lt_trichotomy place messages.length with hlt | rfl | hgt
  · rw [if_neg hlt.ne, List.getElem?_append_left hlt]
  · rw [if_pos rfl, List.getElem?_concat_length]
  · rw [if_neg hgt.ne', List.getElem?_eq_none hgt.le, List.getElem?_eq_none]
    rw [List.length_append]
    exact hgt

theorem roleAt_push {messages : List Message} {place : Nat} {role : Role} (message : Message)
    (h : roleAt messages place = some role) : roleAt (messages ++ [message]) place = some role := by
  unfold roleAt at h ⊢
  obtain ⟨_, hmessage, -⟩ := Option.map_eq_some_iff.mp h
  rw [getElem?_push, if_neg (List.getElem?_eq_some_iff.mp hmessage).1.ne]
  exact h

theorem blocksAt_push (messages : List Message) (message : Message) (place : Nat) :
    blocksAt (messages ++ [message]) place =
      if place = messages.length then message.blocks else blocksAt messages place := by
  unfold blocksAt
  rw [getElem?_push]
  split_ifs <;> rfl

/-- A new message without blocks. -/
theorem effect_push (messages : List Message) (runId : Option JsString) :
    Effect False unchanged messages (messages ++ [{ role := .assistant, blocks := [], runId }]) := by
  have hblocks : ∀ place, blocksAt (messages ++ [{ role := .assistant, blocks := [], runId }]) place =
      blocksAt messages place := by
    intro place
    rw [blocksAt_push]
    split_ifs with hplace
    · rw [hplace, blocksAt, List.getElem?_eq_none le_rfl]
      rfl
    · rfl
  refine ⟨fun place role h => roleAt_push _ h, fun place k block h => ⟨block, ?_, .inl rfl⟩, fun place h => ?_⟩
  · rw [hblocks]
    exact h
  · rw [hblocks] at h
    exact absurd h (lt_irrefl _)

/-- The block of a tool call. -/
def isToolOf (toolCallId : JsString) : Block → Bool
  | .tool _ tool => decide (tool.toolCallId = toolCallId)
  | _ => false

/-- The block that a completion rewrites: the first of the tool call in the last assistant message. -/
def Completes (messages : List Message) (toolCallId : JsString) (place k : Nat) : Prop :=
  lastAssistant messages = some place ∧ (blocksAt messages place).findIdx? (isToolOf toolCallId) = some k

/-- By induction on the blocks, up to the first of the tool call. -/
theorem completeTool_kept (toolCallId : JsString) (complete : ToolProgress → ToolProgress) (blocks : List Block)
    {k : Nat}
    {block : Block} (h : blocks[k]? = some block) : ∃ block', (completeTool toolCallId complete blocks)[k]? =
      some block' ∧
      (block' = block ∨ blocks.findIdx? (isToolOf toolCallId) = some k) := by
  induction blocks generalizing k with
  | nil => cases h
  | cons first rest ih =>
    -- a block that is not of the tool call is passed over
    have hpass : isToolOf toolCallId first = false →
        completeTool toolCallId complete (first :: rest) = first :: completeTool toolCallId complete rest →
        ∃ block', (completeTool toolCallId complete (first :: rest))[k]? = some block' ∧
          (block' = block ∨ (first :: rest).findIdx? (isToolOf toolCallId) = some k) := by
      intro hfirst heq
      rw [heq, List.findIdx?_cons, hfirst]
      cases k with
      | zero => exact ⟨block, h, .inl rfl⟩
      | succ k =>
        obtain ⟨block', hblock', hor⟩ := ih h
        refine ⟨block', hblock', hor.imp_right fun hfound => ?_⟩
        rw [hfound]
        rfl
    cases first with
    | tool label tool =>
      by_cases hid : tool.toolCallId = toolCallId
      · have heq : completeTool toolCallId complete (.tool label tool :: rest) = .tool label
          (complete tool) :: rest :=
          if_pos hid
        rw [heq, List.findIdx?_cons, show isToolOf toolCallId (.tool label tool) = true from decide_eq_true hid]
        cases k with
        | zero => exact ⟨_, rfl, .inr rfl⟩
        | succ k => exact ⟨block, h, .inl rfl⟩
      · exact hpass (decide_eq_false hid) (if_neg hid)
    | _ => exact hpass rfl rfl

/-- Messages that are rewritten in their places, block by block. -/
theorem Effect.of_rewritten {change : Nat → Nat → Block → Block → Prop} {messages messages' : List Message}
    {rewrite : Nat → Message → Message} (hat : ∀ place : Nat, messages'[place]? = (messages[place]?).map
    (rewrite place))
    (hrole : ∀ place message, (rewrite place message).role = message.role)
    (hlength : ∀ place message, (rewrite place message).blocks.length = message.blocks.length)
    (hkept : ∀ (place : Nat) (message : Message), messages[place]? = some message → ∀ (k : Nat) (block : Block),
      message.blocks[k]? = some block → ∃ block', (rewrite place message).blocks[k]? = some block' ∧
        (block' = block ∨ change place k block block')) : Effect False change messages messages' := by
  refine ⟨fun place role h => ?_, fun place k block h => ?_, fun place h => ?_⟩
  · unfold roleAt at h ⊢
    obtain ⟨message, hmessage, rfl⟩ := Option.map_eq_some_iff.mp h
    rw [hat, hmessage]
    exact congrArg some (hrole place message)
  · unfold blocksAt at h ⊢
    rw [hat]
    cases hmessage : messages[place]? with
    | none =>
      rw [hmessage] at h
      cases h
    | some message =>
      rw [hmessage] at h
      exact hkept place message hmessage k block h
  · unfold blocksAt at h
    rw [hat] at h
    cases hmessage : messages[place]? with
    | none =>
      rw [hmessage] at h
      exact absurd h (lt_irrefl _)
    | some message =>
      rw [hmessage] at h
      exact absurd h (hlength place message).not_gt

theorem effect_completeInLast (messages : List Message) (toolCallId : JsString) (complete : ToolProgress →
    ToolProgress) :
    Effect False (fun place k _ _ => Completes messages toolCallId place k) messages
      (completeInLast toolCallId complete messages) := by
  unfold completeInLast
  rw [modifyLast_eq]
  cases hlast : lastAssistant messages with
  | none => exact .refl messages
  | some last =>
    rw [Option.map_some, Option.getD_some]
    refine Effect.of_rewritten (fun place => (List.getElem?_modify _ last messages place).trans rfl) ?_ ?_ ?_
    · intro place message
      split_ifs <;> rfl
    · intro place message
      split_ifs
      · exact length_completeTool toolCallId complete message.blocks
      · rfl
    · intro place message hmessage k block hblock
      by_cases hplace : last = place
      · rw [if_pos hplace]
        obtain ⟨block', hblock', hor⟩ := completeTool_kept toolCallId complete message.blocks hblock
        refine ⟨block', hblock', hor.imp_right fun hfound => ⟨by rw [hlast, hplace], ?_⟩⟩
        unfold blocksAt
        rw [hmessage]
        exact hfound
      · rw [if_neg hplace]
        exact ⟨block, hblock, .inl rfl⟩

/-- The status of an action card is set. -/
def SetsStatus (pendingActionId status : JsString) (block block' : Block) : Prop :=
  ∃ label action, block = .action label action ∧ action.pendingActionId = pendingActionId ∧
    block' = .action label { action with status }

theorem effect_updateActionBlock (pendingActionId status : JsString) (messages : List Message) :
    Effect False (fun _ _ block block' => SetsStatus pendingActionId status block block') messages
      (updateActionBlock pendingActionId status messages) := by
  refine Effect.of_rewritten (fun place => List.getElem?_map) (fun _ _ => rfl) (fun _ _ => List.length_map _) ?_
  intro place message _ k block hblock
  refine ⟨_, (List.getElem?_map).trans (congrArg _ hblock), ?_⟩
  cases block with
  | action label action =>
    by_cases hid : action.pendingActionId = pendingActionId
    · exact .inr ⟨label, action, rfl, hid, if_pos hid⟩
    · exact .inl (if_neg hid)
  | _ => exact .inl rfl

theorem roles_updateActionBlock (pendingActionId status : JsString) (messages : List Message) :
    (updateActionBlock pendingActionId status messages).map Message.role = messages.map Message.role := by
  unfold updateActionBlock
  rw [List.map_map]
  rfl

/-! ## Callbacks -/

/-- The event was passed: it is dropped. -/
def AgentEvent.Passed (s : AiThread) (event : AgentEvent) : Prop := ∃ seq ∈ event.seq, seq ≤ s.lastSeq

/-- The event appends a block. -/
def EventBody.Writes : EventBody → Prop
  | .toolStarted _ _ | .actionPending _ _ _ _ _ _ _ _ | .runFailed _ _ _ => True
  | .evidenceReady citations => (citations.getD []).length ≠ 0
  | .actionCompleted _ _ summary => summary.getD [] ≠ []
  | .finalAnswer answer chartSpec => ¬(answer = [] ∧ chartSpec = none)
  | _ => False

/-- What an event changes of the blocks that are there. -/
def EventBody.Changes (messages : List Message) (place k : Nat) (block block' : Block) : EventBody → Prop
  | .toolCompleted toolCallId _ _ _ => Completes messages toolCallId place k
  | .actionApproved pendingActionId _ approved _ =>
    SetsStatus pendingActionId (if approved then js "APPROVED" else js "REJECTED") block block'
  | .actionExecuting pendingActionId => SetsStatus pendingActionId (js "EXECUTING") block block'
  | .actionCompleted pendingActionId status _ => SetsStatus pendingActionId status block block'
  | _ => False

/-- A callback writes: an event that was not passed, an error, or a close while the run is streaming. -/
def Callback.Writes (s : AiThread) : Callback → Prop
  | .event e => (¬e.Passed s ∧ e.body.Writes) ∨ (e.Passed s ∧ e.body.terminal = true ∧ s.status.isStreaming = true)
  | .fail _ => True
  | .close => s.status.isStreaming = true

/-- The place of the block that a callback completes. -/
def Callback.Completing (s : AiThread) (place k : Nat) : Callback → Prop
  | .event e => ¬e.Passed s ∧ match e.body with
    | .toolCompleted toolCallId _ _ _ => Completes s.messages toolCallId place k
    | _ => False
  | _ => False

/-- A decision on an action, or its execution: the status that the card of the action takes. -/
def Input.Decides (s : AiThread) (pendingActionId status : JsString) : Input → Prop
  | .deliver _ (.event e) => ¬e.Passed s ∧ match e.body with
    | .actionApproved id _ approved _ => id = pendingActionId ∧
      status = if approved then js "APPROVED" else js "REJECTED"
    | .actionExecuting id => id = pendingActionId ∧ status = js "EXECUTING"
    | .actionCompleted id status' _ => id = pendingActionId ∧ status = status'
    | _ => False
  | .markApprovalDecided approved => ∃ pending ∈ s.pendingAction, pending.id = pendingActionId ∧
    status = if approved then js "APPROVED" else js "REJECTED"
  | _ => False

def Callback.Changes (s : AiThread) (place k : Nat) (block block' : Block) : Callback → Prop
  | .event e => ¬e.Passed s ∧ e.body.Changes s.messages place k block block'
  | _ => False

theorem foldl_appendBlock_messages (blocks : List Block) (s : AiThread) :
    (blocks.foldl (fun s block => s.appendBlock block s.activeRunId) s).messages =
      appendAll s.messages blocks s.activeRunId := by
  induction blocks generalizing s with
  | nil => rfl
  | cons block rest ih => exact ih (s.appendBlock block s.activeRunId)

theorem effect_applyBody (s : AiThread) (event : AgentEvent) :
    Effect event.body.Writes (fun place k block block' => event.body.Changes s.messages place k block block')
      s.messages
      (s.applyBody event).messages := by
  have happend : ∀ {writes : Prop} {change : Nat → Nat → Block → Block → Prop} (block : Block), writes →
      Effect writes change s.messages (appendTo s.messages block s.activeRunId) := fun block hwrites =>
    (effect_appendTo s.messages block s.activeRunId).mono (fun _ => hwrites) fun _ _ _ _ _ hfalse => absurd hfalse id
  unfold AiThread.applyBody
  cases event.body with
  | runStarted => exact (effect_push s.messages _).mono id fun _ _ _ _ _ => id
  | routeSelected route reason => exact .refl s.messages
  | planCreated steps => exact .refl s.messages
  | toolStarted toolCallId toolName => exact happend _ trivial
  | toolCompleted toolCallId status summary durationMs => exact effect_completeInLast s.messages toolCallId _
  | evidenceReady citations =>
    dsimp only
    split_ifs with hempty
    · exact .refl s.messages
    · exact happend _ hempty
  | actionPending pendingActionId actionType toolName summary riskLevel payloadHash expiresAt requiresApproval =>
    exact happend _ trivial
  | actionApproved pendingActionId approvedBy approved decisionReason =>
    exact effect_updateActionBlock pendingActionId _ s.messages
  | actionExecuting pendingActionId => exact effect_updateActionBlock pendingActionId _ s.messages
  | actionCompleted pendingActionId status summary =>
    have hupdate := effect_updateActionBlock pendingActionId status s.messages
    dsimp only
    split
    · next c cs =>
      have hwrite := effect_appendTo (updateActionBlock pendingActionId status s.messages)
        (.text (js "执行结果：" ++ c :: cs)) s.activeRunId
      exact (hupdate.trans (target_congr (roles_updateActionBlock pendingActionId status s.messages)) hwrite).mono
        (fun _ => List.cons_ne_nil c cs) fun _ _ _ _ _ => id
    · exact hupdate.mono (fun hfalse => absurd hfalse id) fun _ _ _ _ _ => id
  | finalAnswer answer chartSpec =>
    dsimp only
    rw [foldl_appendBlock_messages]
    exact (effect_appendAll (AiThread.answerBlocks answer chartSpec) s.messages s.activeRunId).mono
      (fun hne hboth => hne (answerBlocks_eq_nil.mpr hboth)) fun _ _ _ _ _ => id
  | runFailed errorCode message retryable => exact happend _ trivial

theorem effect_onClose (s : AiThread) :
    Effect (s.status.isStreaming = true) unchanged s.messages s.onClose.messages := by
  unfold AiThread.onClose
  by_cases hstreaming : s.status.isStreaming = true
  · rw [if_pos hstreaming]
    exact (effect_appendTo s.messages _ s.activeRunId).mono (fun _ => hstreaming) fun _ _ _ _ _ => id
  · rw [if_neg hstreaming]
    exact .refl s.messages

theorem applyEvent_passed {s : AiThread} {event : AgentEvent} (h : event.Passed s) : s.applyEvent event = s := by
  obtain ⟨seq, hseq, hle⟩ := h
  unfold AiThread.applyEvent
  rw [show event.seq = some seq from hseq]
  exact if_pos hle

/-- An event that was not passed is applied, up to the last sequence number. -/
theorem applyEvent_not_passed {s : AiThread} {event : AgentEvent} (h : ¬event.Passed s) :
    ∃ lastSeq, s.applyEvent event = { s with lastSeq }.applyBody event := by
  unfold AiThread.applyEvent
  cases hseq : event.seq with
  | none => exact ⟨s.lastSeq, rfl⟩
  | some seq => exact ⟨seq, if_neg fun hle => h ⟨seq, hseq, hle⟩⟩

/-- What a callback does to the conversation. -/
theorem effect_callback (s : AiThread) (callback : Callback) :
    Effect (callback.Writes s) (fun place k block block' => callback.Changes s place k block block') s.messages
      (callback.apply s).messages := by
  cases callback with
  | event event =>
    unfold Callback.apply
    dsimp only
    by_cases hpassed : event.Passed s
    · rw [applyEvent_passed hpassed]
      split_ifs with hterminal
      · exact (effect_onClose s).mono (fun hstreaming => .inr ⟨hpassed, hterminal, hstreaming⟩)
          fun _ _ _ _ _ hfalse => absurd hfalse id
      · exact .refl s.messages
    · obtain ⟨lastSeq, happlied⟩ := applyEvent_not_passed hpassed
      have hbody : Effect (Callback.Writes s (.event event))
          (fun place k block block' => Callback.Changes s place k block block' (.event event)) s.messages
          ({ s with lastSeq }.applyBody event).messages :=
        (effect_applyBody { s with lastSeq } event).mono (fun hwrites => .inl ⟨hpassed, hwrites⟩)
          fun _ _ _ _ _ hchange => ⟨hpassed, hchange⟩
      rw [happlied]
      split_ifs with hterminal
      · rw [onClose_idle (terminal_ends _ hterminal)]
        exact hbody
      · exact hbody
  | fail error =>
    have hclosed : (s.onError error).onClose = { s.onError error with handle := none } := onClose_idle rfl
    unfold Callback.apply
    dsimp only
    rw [hclosed]
    exact (effect_appendTo s.messages _ s.activeRunId).mono (fun _ => trivial) fun _ _ _ _ _ hfalse =>
      absurd hfalse id
  | close => exact (effect_onClose s).mono id fun _ _ _ _ _ hfalse => absurd hfalse id

theorem effect_cancel (s : AiThread) :
    Effect (s.status.isRunning = true) unchanged s.messages s.cancel.messages := by
  unfold AiThread.cancel
  dsimp only
  split_ifs with hrunning
  · exact (effect_appendTo s.messages _ s.activeRunId).mono (fun _ => hrunning) fun _ _ _ _ _ => id
  · exact .refl s.messages

theorem effect_markApprovalDecided (s : AiThread) (approved : Bool) :
    Effect False (fun _ _ block block' => ∃ pending ∈ s.pendingAction,
      SetsStatus pending.id (if approved then js "APPROVED" else js "REJECTED") block block') s.messages
      (s.markApprovalDecided approved).messages := by
  unfold AiThread.markApprovalDecided
  cases hpending : s.pendingAction with
  | none => exact .refl s.messages
  | some pending =>
    exact (effect_updateActionBlock pending.id _ s.messages).mono id fun _ _ _ _ _ hset => ⟨pending, rfl, hset⟩

/-! ## Turns -/

/-- The session, the place of each turn's user message while the conversation has it, and the turns that wrote the
blocks of each message. A turn and its stream have the same number. -/
structure Dialogue where
  session : Session := {}
  opened : List (Option Nat) := []
  writers : Nat → List Nat := fun _ => []

namespace Dialogue

abbrev messages (d : Dialogue) : List Message := d.session.store.messages

/-- The turn that an input belongs to: that of its stream, a new one, or the last one. A decision is of none. -/
def turn (d : Dialogue) : Input → Nat
  | .deliver stream _ => stream
  | .send _ _ | .markApprovalDecided _ => d.session.streams.length
  | .cancel | .selectThread _ | .reset => d.session.streams.length - 1

/-- Blocks that were not there are of the turn. -/
def written (turn : Nat) (writers : Nat → List Nat) (messages : List Message) (place : Nat) : List Nat :=
  writers place ++ List.replicate ((blocksAt messages place).length - (writers place).length) turn

def step (d : Dialogue) (input : Input) : Option Dialogue :=
  (d.session.step input).map fun session =>
    match input with
    | .selectThread _ | .reset => { session, opened := d.opened.map fun _ => none, writers := fun _ => [] }
    | .send _ _ => {
        session
        opened := if d.session.store.status.isRunning then d.opened else d.opened ++ [some d.messages.length]
        writers := written (d.turn input) d.writers session.store.messages }
    | _ => { d with session, writers := written (d.turn input) d.writers session.store.messages }

/-- The inputs that empty the conversation. -/
def clears : Input → Bool
  | .selectThread _ | .reset => true
  | _ => false

/-- Every block is in the user message of its turn, or in an assistant message behind it. -/
def Placed (d : Dialogue) : Prop :=
  ∀ place, ∀ turn ∈ d.writers place, ∃ u, d.opened[turn]? = some (some u) ∧
    ((place = u ∧ roleAt d.messages place = some .user) ∨ (u < place ∧ roleAt d.messages place = some .assistant))

/-- The blocks of earlier turns are kept, but for what a decision on the action of a block does to its status. -/
def EarlierKept (d : Dialogue) (input : Input) (d' : Dialogue) : Prop :=
  ∀ (place k turn : Nat) (block : Block), (d.writers place)[k]? = some turn → turn < d.turn input →
    (blocksAt d.messages place)[k]? = some block →
    ∃ block', (blocksAt d'.messages place)[k]? = some block' ∧
      (block' = block ∨ ∃ pendingActionId status, input.Decides d.session.store pendingActionId status ∧
        SetsStatus pendingActionId status block block')

/-- What the turn writes goes behind its user message: the last assistant message is there, or the conversation has
none at all. -/
def Begun (d : Dialogue) (turn : Nat) : Prop := ∃ u, d.opened[turn]? = some (some u) ∧ u < target d.messages

/-- The turn has begun if the input writes a block, and a tool call that it completes is not of an earlier turn. -/
def InTurn (d : Dialogue) : Input → Prop
  | .deliver stream callback => (callback.Writes d.session.store → d.Begun stream) ∧
    ∀ place k, callback.Completing d.session.store place k → ∀ turn : Nat, (d.writers place)[k]? = some turn →
      stream ≤ turn
  | .cancel => d.session.store.status.isRunning = true → d.Begun (d.session.streams.length - 1)
  | _ => True

/-- What holds along a run. -/
structure Kept (d : Dialogue) : Prop where
  turns : d.opened.length = d.session.streams.length
  users : ∀ (turn u : Nat), d.opened[turn]? = some (some u) → roleAt d.messages u = some .user
  sizes : ∀ place, (d.writers place).length = (blocksAt d.messages place).length
  placed : d.Placed

theorem Kept.start : Kept {} where
  turns := rfl
  users _ _ h := nomatch h
  sizes _ := rfl
  placed _ _ h := nomatch h

end Dialogue

theorem Effect.length_le {writes : Prop} {change : Nat → Nat → Block → Block → Prop}
    {messages messages' : List Message}
    (h : Effect writes change messages messages') (place : Nat) :
    (blocksAt messages place).length ≤ (blocksAt messages' place).length := by
  by_contra hlt
  rw [not_le] at hlt
  obtain ⟨block', hblock', -⟩ := h.kept place _ _ (List.getElem?_eq_getElem hlt)
  rw [List.getElem?_eq_none le_rfl] at hblock'
  cases hblock'

namespace Dialogue

/-- A step of a turn that has begun if it writes. -/
theorem Kept.effect {d : Dialogue} (kept : d.Kept) {turn : Nat} {writes : Prop} {change : Nat → Nat → Block →
    Block → Prop}
    {session : Session} (heffect : Effect writes change d.messages session.store.messages)
    (hstreams : session.streams.length = d.session.streams.length) (hbegun : writes → d.Begun turn) :
    Kept { d with session, writers := written turn d.writers session.store.messages } where
  turns := kept.turns.trans hstreams.symm
  users t u h := heffect.roles u .user (kept.users t u h)
  sizes place := by
    have hle := heffect.length_le place
    unfold written
    rw [List.length_append, List.length_replicate, kept.sizes]
    exact Nat.add_sub_cancel' hle
  placed place t ht := by
    rcases List.mem_append.mp ht with hold | hnew
    · obtain ⟨u, hu, hwhere⟩ := kept.placed place t hold
      refine ⟨u, hu, hwhere.imp (fun h => ⟨h.1, ?_⟩) fun h => ⟨h.1, ?_⟩⟩
      · exact heffect.roles place .user h.2
      · exact heffect.roles place .assistant h.2
    · obtain ⟨hcount, rfl⟩ := List.mem_replicate.mp hnew
      rw [kept.sizes] at hcount
      obtain ⟨hwrites, rfl, hrole⟩ := heffect.grown place (by omega)
      obtain ⟨u, hu, hlt⟩ := hbegun hwrites
      exact ⟨u, hu, .inr ⟨hlt, hrole⟩⟩

theorem Kept.cleared {d : Dialogue} (kept : d.Kept) {session : Session} (hmessages : session.store.messages = [])
    (hstreams : session.streams.length = d.session.streams.length) :
    Kept { session, opened := d.opened.map fun _ => none, writers := fun _ => [] } where
  turns := by
    rw [List.length_map, hstreams]
    exact kept.turns
  users t u h := by
    rw [List.getElem?_map] at h
    obtain ⟨_, -, hnone⟩ := Option.map_eq_some_iff.mp h
    cases hnone
  sizes place := by
    show 0 = (blocksAt session.store.messages place).length
    rw [hmessages]
    rfl
  placed _ _ h := nomatch h

/-- A user message opens a turn. -/
theorem Kept.send {d : Dialogue} (kept : d.Kept) {session : Session} {block : Block}
    (hmessages : session.store.messages = d.messages ++ [{ role := .user, blocks := [block] }])
    (hstreams : session.streams.length = d.session.streams.length + 1) :
    Kept {
      session
      opened := d.opened ++ [some d.messages.length]
      writers := written d.session.streams.length d.writers session.store.messages } := by
  have hnone : blocksAt d.messages d.messages.length = [] := by
    rw [blocksAt, List.getElem?_eq_none le_rfl]
    rfl
  have hopened : ∀ (turn u : Nat), d.opened[turn]? = some (some u) →
      (d.opened ++ [some d.messages.length])[turn]? = some (some u) := by
    intro turn u h
    rw [List.getElem?_append_left (List.getElem?_eq_some_iff.mp h).1]
    exact h
  have hlast : (d.opened ++ [some d.messages.length])[d.session.streams.length]? = some (some d.messages.length) := by
    rw [← kept.turns, List.getElem?_concat_length]
  have hrole : roleAt session.store.messages d.messages.length = some .user := by
    rw [hmessages, roleAt, List.getElem?_concat_length]
    rfl
  have hsize : ∀ place, (written d.session.streams.length d.writers session.store.messages place).length =
      (blocksAt session.store.messages place).length := by
    intro place
    unfold written
    rw [List.length_append, List.length_replicate, kept.sizes, hmessages, blocksAt_push]
    split_ifs with hplace
    · rw [hplace, hnone]
      rfl
    · rw [Nat.sub_self, Nat.add_zero]
  refine ⟨?_, fun turn u h => ?_, hsize, fun place turn h => ?_⟩
  · rw [List.length_append, kept.turns, hstreams]
    rfl
  · show roleAt session.store.messages u = some .user
    by_cases hold : turn < d.opened.length
    · rw [List.getElem?_append_left hold] at h
      rw [hmessages]
      exact roleAt_push _ (kept.users turn u h)
    · rw [List.getElem?_append_right (not_lt.mp hold), List.getElem?_singleton] at h
      split_ifs at h
      obtain rfl : d.messages.length = u := Option.some.inj (Option.some.inj h)
      exact hrole
  · show ∃ u, (d.opened ++ [some d.messages.length])[turn]? = some (some u) ∧
      ((place = u ∧ roleAt session.store.messages place = some .user) ∨
        (u < place ∧ roleAt session.store.messages place = some .assistant))
    rcases List.mem_append.mp h with hold | hnew
    · obtain ⟨u, hu, hwhere⟩ := kept.placed place turn hold
      refine ⟨u, hopened turn u hu, ?_⟩
      rw [hmessages]
      exact hwhere.imp (fun h => ⟨h.1, roleAt_push _ h.2⟩) fun h => ⟨h.1, roleAt_push _ h.2⟩
    · obtain ⟨hcount, rfl⟩ := List.mem_replicate.mp hnew
      rw [kept.sizes, hmessages, blocksAt_push] at hcount
      have hplace : place = d.messages.length := by
        by_contra hne
        rw [if_neg hne, Nat.sub_self] at hcount
        exact hcount rfl
      exact ⟨d.messages.length, hlast, .inl ⟨hplace, hplace ▸ hrole⟩⟩

theorem kept_step {d d' : Dialogue} {input : Input} (kept : d.Kept) (hturn : d.InTurn input)
    (hstep : d.step input = some d') : d'.Kept := by
  obtain ⟨session, hsession, rfl⟩ := Option.map_eq_some_iff.mp hstep
  unfold Session.step at hsession
  cases input with
  | send text runAgentName =>
    dsimp only at hsession ⊢
    by_cases hrunning : d.session.store.status.isRunning = true
    · rw [if_pos hrunning] at hsession ⊢
      cases hsession
      have hsame : Effect False unchanged d.messages d.messages := .refl d.messages
      exact kept.effect hsame rfl False.elim
    · rw [if_neg hrunning] at hsession ⊢
      cases hsession
      exact kept.send rfl (List.length_append)
  | cancel =>
    cases hsession
    exact kept.effect (effect_cancel d.session.store) rfl hturn
  | selectThread id =>
    cases hsession
    exact kept.cleared rfl rfl
  | reset =>
    cases hsession
    exact kept.cleared rfl rfl
  | markApprovalDecided approved =>
    cases hsession
    exact kept.effect (effect_markApprovalDecided d.session.store approved) rfl False.elim
  | deliver stream callback =>
    dsimp only at hsession
    split_ifs at hsession
    cases hsession
    refine kept.effect (effect_callback d.session.store callback) ?_ hturn.1
    show (if callback.closes then d.session.streams.set stream false else d.session.streams).length = _
    split_ifs
    · exact List.length_set
    · rfl

theorem earlier_kept {d d' : Dialogue} {input : Input} (hturn : d.InTurn input) (hstep : d.step input = some d')
    (hclears : clears input = false) : d.EarlierKept input d' := by
  obtain ⟨session, hsession, rfl⟩ := Option.map_eq_some_iff.mp hstep
  -- the blocks of a step with an effect, whose changes are decisions or of the turn itself
  have hkept : ∀ {writes : Prop} {change : Nat → Nat → Block → Block → Prop},
      Effect writes change d.messages session.store.messages →
      (∀ (place k turn : Nat) (block block' : Block), (d.writers place)[k]? = some turn → turn < d.turn input →
        change place k block block' → ∃ pendingActionId status,
          input.Decides d.session.store pendingActionId status ∧ SetsStatus pendingActionId status block block') →
      ∀ (place k turn : Nat) (block : Block), (d.writers place)[k]? = some turn → turn < d.turn input →
        (blocksAt d.messages place)[k]? = some block → ∃ block', (blocksAt session.store.messages place)[k]? =
          some block' ∧
          (block' = block ∨ ∃ pendingActionId status, input.Decides d.session.store pendingActionId status ∧
            SetsStatus pendingActionId status block block') := by
    intro writes change heffect hchange place k turn block hwriter hearlier hblock
    obtain ⟨block', hblock', hor⟩ := heffect.kept place k block hblock
    exact ⟨block', hblock', hor.imp_right (hchange place k turn block block' hwriter hearlier)⟩
  unfold Session.step at hsession
  cases input with
  | send text runAgentName =>
    dsimp only at hsession
    intro place k turn block _ _ hblock
    refine ⟨block, ?_, .inl rfl⟩
    show (blocksAt session.store.messages place)[k]? = some block
    by_cases hrunning : d.session.store.status.isRunning = true
    · rw [if_pos hrunning] at hsession
      cases hsession
      exact hblock
    · rw [if_neg hrunning] at hsession
      cases hsession
      show (blocksAt (d.messages ++ [_]) place)[k]? = some block
      rw [blocksAt_push, if_neg]
      · exact hblock
      · rintro rfl
        rw [blocksAt, List.getElem?_eq_none le_rfl] at hblock
        cases hblock
  | cancel =>
    cases hsession
    exact hkept (effect_cancel d.session.store) fun _ _ _ _ _ _ _ => False.elim
  | selectThread id => cases hclears
  | reset => cases hclears
  | markApprovalDecided approved =>
    cases hsession
    refine hkept (effect_markApprovalDecided d.session.store approved) fun _ _ _ _ _ _ _ hchange => ?_
    obtain ⟨pending, hpending, hset⟩ := hchange
    exact ⟨pending.id, _, ⟨pending, hpending, rfl, rfl⟩, hset⟩
  | deliver stream callback =>
    dsimp only at hsession
    split_ifs at hsession
    cases hsession
    refine hkept (effect_callback d.session.store callback) fun place k turn block block' hwriter hearlier
      hchange => ?_
    cases callback with
    | event event =>
      obtain ⟨hpassed, hchange⟩ := hchange
      cases hbody : event.body with
      | toolCompleted toolCallId status summary durationMs =>
        rw [hbody] at hchange
        have hown := hturn.2 place k ⟨hpassed, by rw [hbody]; exact hchange⟩ turn hwriter
        exact absurd hearlier (not_lt.mpr hown)
      | actionApproved pendingActionId approvedBy approved decisionReason =>
        rw [hbody] at hchange
        exact ⟨pendingActionId, _, ⟨hpassed, by rw [hbody]; exact ⟨rfl, rfl⟩⟩, hchange⟩
      | actionExecuting pendingActionId =>
        rw [hbody] at hchange
        exact ⟨pendingActionId, _, ⟨hpassed, by rw [hbody]; exact ⟨rfl, rfl⟩⟩, hchange⟩
      | actionCompleted pendingActionId status summary =>
        rw [hbody] at hchange
        exact ⟨pendingActionId, _, ⟨hpassed, by rw [hbody]; exact ⟨rfl, rfl⟩⟩, hchange⟩
      | _ =>
        rw [hbody] at hchange
        exact absurd hchange id
    | fail error => exact absurd hchange id
    | close => exact absurd hchange id

end Dialogue

/-- In every run whose steps write only in turns that have begun, every block is in the user message of its turn or in
an assistant message behind it, and no step changes a block of an earlier turn but by a decision on its action. -/
theorem blocks_in_turn (d : Dialogue) (h : Reached Dialogue.step Dialogue.InTurn {} d) :
    d.Placed ∧ ∀ input d', d.InTurn input → d.step input = some d' → Dialogue.clears input = false →
      d.EarlierKept input d' :=
  ⟨(h.invariant Dialogue.Kept.start Dialogue.kept_step).placed, fun _ _ => Dialogue.earlier_kept⟩

/-- The connection of the first turn drops before its run starts. -/
theorem blocks_in_turn_dropped : ∃ d, Reached Dialogue.step Dialogue.InTurn {} d ∧ d.writers 1 = [0] ∧
    d.Placed ∧ ∀ input d', d.InTurn input → d.step input = some d' → Dialogue.clears input = false →
      d.EarlierKept input d' := by
  have h₀ : Reached Dialogue.step Dialogue.InTurn {} {} := .start
  have h₁ := h₀.next (Input.send (js "a") none) trivial rfl
  have h₂ := h₁.next (Input.deliver 0 .close) ⟨fun _ => ⟨0, rfl, Nat.zero_lt_one⟩, fun _ _ h => absurd h id⟩ rfl
  exact ⟨_, h₂, rfl, blocks_in_turn _ h₂⟩

/-- A send waits for the stream before it to close or be cancelled, and a stream that was cancelled is silent. -/
def Dialogue.Sequential (d : Dialogue) : Input → Prop
  | .send _ _ => d.session.current = none
  | .deliver stream _ => d.session.current = some stream
  | _ => True

def sampleStarted : AgentEvent where
  runId := js "r1"
  threadId := js "t1"
  seq := some 1
  moment := js "2026-01-01T00:00:00Z"
  body := .runStarted

def sampleAnswered : AgentEvent where
  runId := js "r1"
  threadId := js "t1"
  seq := some 2
  moment := js "2026-01-01T00:00:01Z"
  body := .finalAnswer (js "b") none

/-- What the stream reports when the service answers 503. -/
def sampleFailure : ApiError where
  code := -4
  message := js "智能体服务暂时不可用，请稍后重试"
  httpStatus := 503
  retryable := true
  forbidden := false
  unauthenticated := false

/-- A turn is answered, and the next one fails before its run starts: its error is in the message of the first. -/
theorem error_in_earlier_turn : ¬ ∀ d, Reached Dialogue.step Dialogue.Sequential {} d → d.Placed := by
  intro hclaim
  have h₀ : Reached Dialogue.step Dialogue.Sequential {} {} := .start
  have h₁ := h₀.next (Input.send (js "a") none) rfl rfl
  have h₂ := h₁.next (Input.deliver 0 (.event sampleStarted)) rfl rfl
  have h₃ := h₂.next (Input.deliver 0 (.event sampleAnswered)) rfl rfl
  have h₄ := h₃.next (Input.send (js "c") none) rfl rfl
  have h₅ := h₄.next (Input.deliver 1 (.fail sampleFailure)) rfl rfl
  -- the second user message is the third message
  obtain ⟨u, hu, hwhere⟩ := hclaim _ h₅ 1 1 (List.mem_cons_of_mem 0 List.mem_cons_self)
  obtain rfl : 2 = u := Option.some.inj (Option.some.inj hu)
  rcases hwhere with ⟨hplace, -⟩ | ⟨hplace, -⟩
  · cases hplace
  · exact absurd hplace (by decide)

end NovaCommerce.Frontend
