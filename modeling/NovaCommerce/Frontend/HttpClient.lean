import NovaCommerce.Lib.Dict
import NovaCommerce.Lib.Transition

/-!
# The HTTP client

A `Client` sends the requests of its callers, refreshes the access token when an answer says that it expired, and
sends a request again once the refresh it waited for succeeded. Its steps are the moments at which it runs: a caller's
request, an answer, the end of a refresh, and the continuation of a request that waited for it.

* `Client.step` : one of these moments;
* `Stepped` : what a step does (`step_cases`);
* `SingleFlight`, `FiresOnce` : one refresh at a time, at most two sends, and one expiry for a failed refresh
  (`single_flight`).
-/

namespace NovaCommerce.Frontend

open Transition

/-! ## Answers -/

/-- What arrives for a request: an answer with the access token its payload holds, an error status with the business
code of its envelope, or no response. -/
inductive Reply where
  | ok (accessToken : String)
  | error (status : Nat) (businessCode : Option Int)
  | failed
  deriving DecidableEq, Repr

def unauthenticatedCode : Int := 20000

def tokenExpiredCode : Int := 20002

/-- `isUnauthenticatedCode`: also an invalid token, a reused refresh token, a revoked session, a disabled account. -/
def isUnauthenticatedCode (code : Int) : Bool :=
  code ∈ [unauthenticatedCode, tokenExpiredCode, 20003, 20005, 20004, 20007]

/-- An answer that a new access token may change. -/
def Reply.expired : Reply → Bool
  | .error status businessCode =>
    decide (status = 401 ∨ businessCode = some unauthenticatedCode ∨ businessCode = some tokenExpiredCode)
  | _ => false

/-- The `unauthenticated` flag of the normalised error. -/
def Reply.unauthenticated : Reply → Bool
  | .error status businessCode => businessCode.any isUnauthenticatedCode || decide (status = 401)
  | _ => false

/-! ## The client -/

/-- A refresh: its request is out, it was answered, its promise is settled. -/
inductive RefreshPhase where
  | calling
  | answered (ok : Bool)
  | settled (ok : Bool)
  deriving DecidableEq, Repr

inductive CallPhase where
  | inFlight
  | waiting (refresh : Nat)
  | finished
  deriving DecidableEq, Repr

/-- Why a request was sent. -/
inductive SendCause where
  | first
  | afterRefresh (refresh : Nat)
  deriving DecidableEq, Repr

/-- One request of a caller, with the reasons it was sent for so far. -/
structure Call where
  skipAuthRefresh : Bool
  retried : Bool := false
  authorization : String
  phase : CallPhase := .inFlight
  sends : List SendCause := [.first]
  deriving DecidableEq, Repr

/-- Why the session-expired callback was called. -/
inductive ExpiryCause where
  | reply (id : Nat)
  | refresh (refresh : Nat)
  deriving DecidableEq, Repr

structure Client where
  accessToken : String
  refreshPromise : Option Nat := none
  refreshes : List RefreshPhase := []
  calls : Dict Nat Call := Dict.empty
  expiries : List ExpiryCause := []

/-- A moment at which the client runs. -/
inductive Event where
  | tokens (accessToken : String)
  | request (id : Nat) (skipAuthRefresh : Bool) (authorization : Option String)
  | reply (id : Nat) (reply : Reply)
  | refreshReply (refresh : Nat) (reply : Reply)
  | refreshEnds (refresh : Nat)
  | resume (id : Nat)

namespace Client

/-- `sessionExpired`. -/
def sessionExpired (s : Client) (cause : ExpiryCause) : Client :=
  { s with accessToken := "", expiries := s.expiries ++ [cause] }

/-- The request interceptor: a caller's own header wins over the token. -/
def send (s : Client) (id : Nat) (skipAuthRefresh : Bool) (authorization : Option String) : Client :=
  { s with calls := s.calls.set id { skipAuthRefresh, authorization := authorization.getD s.accessToken } }

/-- `refreshOnce`: the pending refresh, or a new one. -/
def refreshOnce (s : Client) : Nat × Client :=
  match s.refreshPromise with
  | some refresh => (refresh, s)
  | none =>
    (s.refreshes.length,
      { s with refreshPromise := some s.refreshes.length, refreshes := s.refreshes ++ [.calling] })

/-- `handleResponseError`, up to the refresh it waits for. -/
def handleResponseError (s : Client) (id : Nat) (call : Call) (reply : Reply) : Client :=
  if call.skipAuthRefresh = false ∧ call.retried = false ∧ reply.expired = true then
    let (refresh, s) := s.refreshOnce
    { s with calls := s.calls.set id { call with phase := .waiting refresh } }
  else
    let s := if reply.unauthenticated then s.sessionExpired (.reply id) else s
    { s with calls := s.calls.set id { call with phase := .finished } }

def handleReply (s : Client) (id : Nat) (call : Call) : Reply → Client
  | .ok _ => { s with calls := s.calls.set id { call with phase := .finished } }
  | reply => s.handleResponseError id call reply

/-- `defaultRefresh`: an answer without an access token is malformed, and an error answer passes the response
interceptor first, where it is not refreshed. -/
def refreshAnswered (s : Client) (refresh : Nat) : Reply → Client
  | .ok accessToken =>
    if accessToken = "" then { s with refreshes := s.refreshes.set refresh (.answered false) }
    else { s with accessToken := accessToken, refreshes := s.refreshes.set refresh (.answered true) }
  | reply =>
    let s := if reply.unauthenticated then s.sessionExpired (.refresh refresh) else s
    { s with refreshes := s.refreshes.set refresh (.answered false) }

/-- Send a request again with the token of the refresh. -/
def replay (s : Client) (id : Nat) (call : Call) (refresh : Nat) : Client :=
  { s with calls := s.calls.set id { call with
      retried := true
      authorization := if s.accessToken = "" then call.authorization else s.accessToken
      phase := .inFlight
      sends := call.sends ++ [.afterRefresh refresh] } }

/-- A request whose refresh failed. -/
def giveUp (s : Client) (id : Nat) (call : Call) (refresh : Nat) : Client :=
  { s.sessionExpired (.refresh refresh) with calls := s.calls.set id { call with phase := .finished } }

/-- The continuation of a request after its refresh. -/
def resume (s : Client) (id : Nat) (call : Call) (refresh : Nat) : Option Client :=
  match s.refreshes[refresh]? with
  | some (.settled true) => some (s.replay id call refresh)
  | some (.settled false) => some (s.giveUp id call refresh)
  | _ => none

def step (s : Client) : Event → Option Client
  | .tokens accessToken => some { s with accessToken := accessToken }
  | .request id skipAuthRefresh authorization =>
    if s.calls.get? id = none then some (s.send id skipAuthRefresh authorization) else none
  | .reply id reply =>
    match s.calls.get? id with
    | some call => if call.phase = .inFlight then some (s.handleReply id call reply) else none
    | none => none
  | .refreshReply refresh reply =>
    if s.refreshes[refresh]? = some .calling then some (s.refreshAnswered refresh reply) else none
  | .refreshEnds refresh =>
    match s.refreshes[refresh]? with
    | some (.answered ok) =>
      some { s with refreshPromise := none, refreshes := s.refreshes.set refresh (.settled ok) }
    | _ => none
  | .resume id =>
    match s.calls.get? id with
    | some call => match call.phase with
      | .waiting refresh => s.resume id call refresh
      | _ => none
    | none => none

end Client

/-! ## What a step does -/

/-- The effect of an event. -/
inductive Stepped (s : Client) : Event → Client → Prop where
  | tokens (accessToken : String) : Stepped s (.tokens accessToken) { s with accessToken }
  | requested {id : Nat} {skipAuthRefresh : Bool} {header : Option String} (fresh : s.calls.get? id = none)
      (authorization : String) :
      Stepped s (.request id skipAuthRefresh header)
        { s with calls := s.calls.set id { skipAuthRefresh, authorization } }
  | joined {id refresh : Nat} {reply : Reply} {call : Call} (found : s.calls.get? id = some call)
      (sent : call.phase = .inFlight) (first : call.retried = false) (pending : s.refreshPromise = some refresh) :
      Stepped s (.reply id reply) { s with calls := s.calls.set id { call with phase := .waiting refresh } }
  | started {id : Nat} {reply : Reply} {call : Call} (found : s.calls.get? id = some call)
      (sent : call.phase = .inFlight) (first : call.retried = false) (idle : s.refreshPromise = none) :
      Stepped s (.reply id reply) { s with
        refreshPromise := some s.refreshes.length
        refreshes := s.refreshes ++ [.calling]
        calls := s.calls.set id { call with phase := .waiting s.refreshes.length } }
  | finished {id : Nat} {reply : Reply} {call : Call} (found : s.calls.get? id = some call)
      (sent : call.phase = .inFlight) (accessToken : String) {expiries : List ExpiryCause}
      (causes : expiries = s.expiries ∨ expiries = s.expiries ++ [.reply id]) :
      Stepped s (.reply id reply)
        { s with accessToken, expiries, calls := s.calls.set id { call with phase := .finished } }
  | answered {refresh : Nat} {reply : Reply} (calling : s.refreshes[refresh]? = some .calling) (ok : Bool)
      (accessToken : String) :
      Stepped s (.refreshReply refresh reply)
        { s with accessToken, refreshes := s.refreshes.set refresh (.answered ok) }
  | refused {refresh : Nat} {reply : Reply} (calling : s.refreshes[refresh]? = some .calling)
      (unauthenticated : reply.unauthenticated = true) :
      Stepped s (.refreshReply refresh reply)
        { s.sessionExpired (.refresh refresh) with refreshes := s.refreshes.set refresh (.answered false) }
  | ended {refresh : Nat} {ok : Bool} (answered : s.refreshes[refresh]? = some (.answered ok)) :
      Stepped s (.refreshEnds refresh)
        { s with refreshPromise := none, refreshes := s.refreshes.set refresh (.settled ok) }
  | replayed {id refresh : Nat} {call : Call} (found : s.calls.get? id = some call)
      (waiting : call.phase = .waiting refresh) (settled : s.refreshes[refresh]? = some (.settled true)) :
      Stepped s (.resume id) (s.replay id call refresh)
  | gaveUp {id refresh : Nat} {call : Call} (found : s.calls.get? id = some call)
      (waiting : call.phase = .waiting refresh) (settled : s.refreshes[refresh]? = some (.settled false)) :
      Stepped s (.resume id) (s.giveUp id call refresh)

theorem handleResponseError_stepped {s : Client} {id : Nat} {call : Call} (found : s.calls.get? id = some call)
    (sent : call.phase = .inFlight) (reply : Reply) :
    Stepped s (.reply id reply) (s.handleResponseError id call reply) := by
  unfold Client.handleResponseError
  split_ifs with hrefresh hexpired
  · unfold Client.refreshOnce
    cases hpending : s.refreshPromise with
    | none => exact .started found sent hrefresh.2.1 hpending
    | some refresh => exact .joined found sent hrefresh.2.1 hpending
  · exact .finished found sent "" (.inr rfl)
  · exact .finished found sent s.accessToken (.inl rfl)

theorem refreshAnswered_stepped {s : Client} {refresh : Nat} (calling : s.refreshes[refresh]? = some .calling)
    (reply : Reply) : Stepped s (.refreshReply refresh reply) (s.refreshAnswered refresh reply) := by
  unfold Client.refreshAnswered
  split
  · split_ifs
    · exact .answered calling false s.accessToken
    · exact .answered calling true _
  · split_ifs with hunauthenticated
    · exact .refused calling hunauthenticated
    · exact .answered calling false s.accessToken

/-- A step has one of the ten effects. -/
theorem step_stepped {s s' : Client} {e : Event} (h : s.step e = some s') : Stepped s e s' := by
  unfold Client.step at h
  cases e with
  | tokens accessToken =>
    cases h
    exact .tokens accessToken
  | request id skipAuthRefresh authorization =>
    dsimp only at h
    split_ifs at h with hfresh
    cases h
    exact .requested hfresh _
  | reply id reply =>
    dsimp only at h
    split at h
    · next call found =>
      split_ifs at h with hsent
      cases h
      cases reply with
      | ok accessToken => exact .finished found hsent s.accessToken (.inl rfl)
      | error status businessCode => exact handleResponseError_stepped found hsent _
      | failed => exact handleResponseError_stepped found hsent _
    · cases h
  | refreshReply refresh reply =>
    dsimp only at h
    split_ifs at h with hcalling
    cases h
    exact refreshAnswered_stepped hcalling reply
  | refreshEnds refresh =>
    dsimp only at h
    split at h
    · next ok hanswered =>
      cases h
      exact .ended hanswered
    · cases h
  | resume id =>
    dsimp only at h
    split at h
    · next call found =>
      split at h
      · next refresh hwaiting =>
        unfold Client.resume at h
        split at h
        · next hsettled =>
          cases h
          exact .replayed found hwaiting hsettled
        · next hsettled =>
          cases h
          exact .gaveUp found hwaiting hsettled
        · cases h
      · cases h
    · cases h

/-! ## One refresh at a time -/

/-- The refresh was started and its promise is not settled. -/
def Client.Refreshing (s : Client) (refresh : Nat) : Prop :=
  s.refreshes[refresh]? = some .calling ∨ ∃ ok, s.refreshes[refresh]? = some (.answered ok)

/-- A request waits for the refresh. -/
def Client.WaitsFor (s : Client) (id refresh : Nat) : Prop :=
  ∃ call, s.calls.get? id = some call ∧ call.phase = .waiting refresh

/-- The reasons a request was sent for: a caller's, and at most one refresh that succeeded. -/
def Client.Sent (s : Client) (call : Call) : Prop :=
  (call.retried = false ∧ call.sends = [.first]) ∨
    (call.retried = true ∧ ∃ refresh, call.sends = [.first, .afterRefresh refresh] ∧
      s.refreshes[refresh]? = some (.settled true))

/-- At most one refresh is in flight, and a request is sent at most twice, again after a refresh that succeeded. -/
structure Client.SingleFlight (s : Client) : Prop where
  refreshing : ∀ p q, s.Refreshing p → s.Refreshing q → p = q
  sends : ∀ id call, s.calls.get? id = some call → s.Sent call

/-- A refresh calls the session-expired callback at most once. -/
def Client.FiresOnce (s : Client) : Prop := ∀ refresh, s.expiries.count (.refresh refresh) ≤ 1

/-- What holds in every state: the pending promise is the refresh in flight, and a request that waits was sent once
and waits for a refresh that was started. -/
structure Client.Running (s : Client) : Prop where
  pending : ∀ p, s.Refreshing p ↔ s.refreshPromise = some p
  sends : ∀ id call, s.calls.get? id = some call → s.Sent call
  waiting : ∀ id call p, s.calls.get? id = some call → call.phase = .waiting p →
    call.retried = false ∧ p < s.refreshes.length

/-- A settled promise stays settled. -/
theorem Stepped.settled {s s' : Client} {e : Event} (h : Stepped s e s') {p : Nat} {ok : Bool}
    (hp : s.refreshes[p]? = some (.settled ok)) : s'.refreshes[p]? = some (.settled ok) := by
  have hset : ∀ {refresh : Nat} {phase phase' : RefreshPhase}, s.refreshes[refresh]? = some phase →
      phase ≠ .settled ok → (s.refreshes.set refresh phase')[p]? = some (.settled ok) := by
    intro refresh phase phase' hrefresh hne
    have hpr : refresh ≠ p := by
      rintro rfl
      rw [hrefresh] at hp
      exact hne (Option.some.inj hp)
    rw [List.getElem?_set_ne hpr]
    exact hp
  cases h with
  | started found sent first idle =>
    have hlt : p < s.refreshes.length := (List.getElem?_eq_some_iff.mp hp).1
    show (s.refreshes ++ [.calling])[p]? = _
    rw [List.getElem?_append_left hlt]
    exact hp
  | answered calling => exact hset calling (by simp)
  | refused calling => exact hset calling (by simp)
  | ended answered => exact hset answered (by simp)
  | _ => exact hp

theorem Stepped.length_le {s s' : Client} {e : Event} (h : Stepped s e s') :
    s.refreshes.length ≤ s'.refreshes.length := by
  cases h with
  | started => exact (List.length_append.trans_ge (Nat.le_add_right _ _))
  | answered => exact (List.length_set ..).ge
  | refused => exact (List.length_set ..).ge
  | ended => exact (List.length_set ..).ge
  | _ => exact le_rfl

theorem Client.Sent.after {s s' : Client} {e : Event} {call : Call} (h : s.Sent call) (hstep : Stepped s e s') :
    s'.Sent call := by
  rcases h with hfirst | ⟨hretried, refresh, hsends, hsettled⟩
  · exact .inl hfirst
  · exact .inr ⟨hretried, refresh, hsends, hstep.settled hsettled⟩

/-- The requests of a step: each is as it was, or the one that was written. -/
theorem get?_put {calls : Dict Nat Call} {id id' : Nat} {call call' : Call}
    (h : (calls.set id call).get? id' = some call') :
    (id' = id ∧ call' = call) ∨ (id' ≠ id ∧ calls.get? id' = some call') := by
  by_cases hid : id' = id
  · subst hid
    rw [Dict.get?_set_self] at h
    exact .inl ⟨rfl, (Option.some.inj h).symm⟩
  · rw [Dict.get?_set_ne hid] at h
    exact .inr ⟨hid, h⟩

/-- Write one request, with the promises of a step. -/
theorem Client.Running.put {s s' : Client} {e : Event} (h : s.Running) (hstep : Stepped s e s') {id : Nat}
    {call : Call} (hcalls : s'.calls = s.calls.set id call) (hpending : ∀ p, s'.Refreshing p ↔ s'.refreshPromise = some p)
    (hsent : s'.Sent call) (hwaiting : ∀ p, call.phase = .waiting p → call.retried = false ∧ p < s'.refreshes.length) :
    s'.Running where
  pending := hpending
  sends id' call' hcall := by
    rw [hcalls] at hcall
    rcases get?_put hcall with ⟨-, rfl⟩ | ⟨-, hcall⟩
    · exact hsent
    · exact (h.sends id' call' hcall).after hstep
  waiting id' call' p hcall hphase := by
    rw [hcalls] at hcall
    rcases get?_put hcall with ⟨-, rfl⟩ | ⟨-, hcall⟩
    · exact hwaiting p hphase
    · obtain ⟨hretried, hlt⟩ := h.waiting id' call' p hcall hphase
      exact ⟨hretried, hlt.trans_le hstep.length_le⟩

/-- Advance one refresh, with the requests as they are. -/
theorem Client.Running.advance {s s' : Client} {e : Event} (h : s.Running) (hstep : Stepped s e s')
    (hcalls : s'.calls = s.calls) (hpending : ∀ p, s'.Refreshing p ↔ s'.refreshPromise = some p) : s'.Running where
  pending := hpending
  sends id call hcall := (h.sends id call (hcalls ▸ hcall)).after hstep
  waiting id call p hcall hphase := by
    obtain ⟨hretried, hlt⟩ := h.waiting id call p (hcalls ▸ hcall) hphase
    exact ⟨hretried, hlt.trans_le hstep.length_le⟩

theorem Client.Running.step {s s' : Client} {e : Event} (h : s.Running) (hstep : Stepped s e s') : s'.Running := by
  -- the refresh that is answered is in flight, and stays so
  have hanswer : ∀ {refresh : Nat} {ok : Bool}, s.refreshes[refresh]? = some .calling → ∀ p,
      ((s.refreshes.set refresh (.answered ok))[p]? = some .calling ∨
        ∃ ok', (s.refreshes.set refresh (.answered ok))[p]? = some (.answered ok')) ↔ s.refreshPromise = some p := by
    intro refresh ok hcalling p
    rw [← h.pending p]
    by_cases hp : refresh = p
    · subst hp
      have hlt : refresh < s.refreshes.length := (List.getElem?_eq_some_iff.mp hcalling).1
      rw [List.getElem?_set_self hlt]
      exact ⟨fun _ => .inl hcalling, fun _ => .inr ⟨ok, rfl⟩⟩
    · rw [List.getElem?_set_ne hp]
      exact Iff.rfl
  cases id hstep with
  | tokens accessToken => exact ⟨h.pending, h.sends, h.waiting⟩
  | requested fresh authorization =>
    exact h.put hstep rfl h.pending (.inl ⟨rfl, rfl⟩) fun p hp => nomatch hp
  | @joined id refresh _ call found sent first pending =>
    refine h.put hstep rfl h.pending ?_ fun p hp => ⟨first, ?_⟩
    · exact (h.sends id call found).after hstep
    · cases hp
      rcases (h.pending refresh).mpr pending with hlt | ⟨_, hlt⟩
      · exact (List.getElem?_eq_some_iff.mp hlt).1
      · exact (List.getElem?_eq_some_iff.mp hlt).1
  | @started id _ call found sent first idle =>
    refine h.put hstep rfl (fun p => ?_) ((h.sends id call found).after hstep) fun p hp => ⟨first, ?_⟩
    · have hidle : ¬ s.Refreshing p := fun hp => by
        have hsome := (h.pending p).mp hp
        rw [idle] at hsome
        cases hsome
      show ((s.refreshes ++ [RefreshPhase.calling])[p]? = some .calling ∨
        ∃ ok, (s.refreshes ++ [RefreshPhase.calling])[p]? = some (.answered ok)) ↔ some s.refreshes.length = some p
      rcases lt_trichotomy p s.refreshes.length with hlt | rfl | hgt
      · rw [List.getElem?_append_left hlt, Option.some.injEq]
        exact ⟨fun hp => absurd hp hidle, fun hp => absurd hp hlt.ne'⟩
      · simp
      · have hnone : (s.refreshes ++ [RefreshPhase.calling])[p]? = none := by
          rw [List.getElem?_eq_none_iff, List.length_append]
          exact hgt
        rw [hnone, Option.some.injEq]
        exact ⟨fun hp => by simp at hp, fun hp => absurd hp hgt.ne⟩
    · cases hp
      show s.refreshes.length < (s.refreshes ++ [RefreshPhase.calling]).length
      rw [List.length_append]
      exact Nat.lt_succ_self _
  | @finished id _ call found sent accessToken expiries causes =>
    exact h.put hstep rfl h.pending ((h.sends id call found).after hstep) fun p hp => nomatch hp
  | answered calling ok accessToken => exact h.advance hstep rfl (hanswer calling)
  | refused calling unauthenticated => exact h.advance hstep rfl (hanswer calling)
  | @ended refresh ok answered =>
    -- the settled promise was the pending one, and no other refresh is in flight
    have hpending := (h.pending refresh).mp (.inr ⟨ok, answered⟩)
    have hlt : refresh < s.refreshes.length := (List.getElem?_eq_some_iff.mp answered).1
    refine h.advance hstep rfl fun p => ?_
    show ((s.refreshes.set refresh (.settled ok))[p]? = some .calling ∨
      ∃ ok', (s.refreshes.set refresh (.settled ok))[p]? = some (.answered ok')) ↔ none = some p
    by_cases hp : refresh = p
    · subst hp
      rw [List.getElem?_set_self hlt]
      simp
    · rw [List.getElem?_set_ne hp]
      refine ⟨fun hrefreshing => ?_, fun hnone => nomatch hnone⟩
      have hsome := (h.pending p).mp hrefreshing
      rw [hpending, Option.some.injEq] at hsome
      exact absurd hsome hp
  | @replayed id refresh call found waiting settled =>
    obtain ⟨hretried, -⟩ := h.waiting id call refresh found waiting
    have hsends : call.sends = [.first] := by
      rcases h.sends id call found with ⟨-, hsends⟩ | ⟨htrue, -⟩
      · exact hsends
      · rw [hretried] at htrue
        cases htrue
    refine h.put hstep rfl h.pending (.inr ⟨rfl, refresh, ?_, settled⟩) fun p hp => nomatch hp
    show call.sends ++ [.afterRefresh refresh] = _
    rw [hsends]
    rfl
  | @gaveUp id refresh call found waiting settled =>
    exact h.put hstep rfl h.pending ((h.sends id call found).after hstep) fun p hp => nomatch hp

/-! ## One expiry for a failed refresh -/

/-- The refresh is not itself refused as unauthenticated, and at most one request waits for a refresh that fails. -/
def Event.Quiet (s : Client) : Event → Prop
  | .refreshReply _ answer => answer.unauthenticated = false
  | .refreshEnds refresh => s.refreshes[refresh]? = some (.answered false) →
    ∀ id id', s.WaitsFor id refresh → s.WaitsFor id' refresh → id = id'
  | _ => True

/-- What holds in a run of quiet events: a refresh that called the callback failed, and no request waits for it any
more. -/
structure Client.Once (s : Client) : Prop extends s.Running where
  counted : ∀ p, s.expiries.count (.refresh p) = 0 ∨ (s.expiries.count (.refresh p) = 1 ∧
    s.refreshes[p]? = some (.settled false) ∧ ∀ id, ¬ s.WaitsFor id p)
  alone : ∀ p, s.refreshes[p]? = some (.settled false) → ∀ id id', s.WaitsFor id p → s.WaitsFor id' p → id = id'

theorem waitsFor_put {s s' : Client} {id id' p : Nat} {call : Call} (hcalls : s'.calls = s.calls.set id call)
    (h : s'.WaitsFor id' p) : (id' = id ∧ call.phase = .waiting p) ∨ (id' ≠ id ∧ s.WaitsFor id' p) := by
  obtain ⟨call', hcall, hphase⟩ := h
  rw [hcalls] at hcall
  rcases get?_put hcall with ⟨hid, rfl⟩ | ⟨hid, hcall⟩
  · exact .inl ⟨hid, hphase⟩
  · exact .inr ⟨hid, call', hcall, hphase⟩

/-- A step that settles no refresh, calls the callback for none, and lets no request wait for a failed one. -/
theorem Client.Once.keep {s s' : Client} {e : Event} (h : s.Once) (hstep : Stepped s e s')
    (hcount : ∀ p, s'.expiries.count (ExpiryCause.refresh p) = s.expiries.count (ExpiryCause.refresh p))
    (hsettled : ∀ p : Nat, s'.refreshes[p]? = some (RefreshPhase.settled false) →
      s.refreshes[p]? = some (RefreshPhase.settled false))
    (hwaits : ∀ id p, s.refreshes[p]? = some (.settled false) → s'.WaitsFor id p → s.WaitsFor id p) : s'.Once where
  toRunning := h.toRunning.step hstep
  counted p := by
    rw [hcount]
    rcases h.counted p with hzero | ⟨hone, hfailed, hnobody⟩
    · exact .inl hzero
    · exact .inr ⟨hone, hstep.settled hfailed, fun id hid => hnobody id (hwaits id p hfailed hid)⟩
  alone p hp id id' hid hid' := by
    have hfailed := hsettled p hp
    exact h.alone p hfailed id id' (hwaits id p hfailed hid) (hwaits id' p hfailed hid')

theorem count_reply (expiries : List ExpiryCause) (id p : Nat) :
    (expiries ++ [ExpiryCause.reply id]).count (ExpiryCause.refresh p) = expiries.count (ExpiryCause.refresh p) := by
  rw [List.count_append, List.count_singleton]
  simp

theorem Client.Once.step {s s' : Client} {e : Event} (h : s.Once) (hquiet : e.Quiet s) (hstep : Stepped s e s') :
    s'.Once := by
  have hnot : ∀ {refresh p : Nat} {phase phase' : RefreshPhase}, s.refreshes[refresh]? = some phase →
      phase' ≠ .settled false → (s.refreshes.set refresh phase')[p]? = some (.settled false) →
      s.refreshes[p]? = some (.settled false) := by
    intro refresh p phase phase' hphase hne hp
    by_cases hpr : refresh = p
    · subst hpr
      rw [List.getElem?_set_self (List.getElem?_eq_some_iff.mp hphase).1] at hp
      exact absurd (Option.some.inj hp) hne
    · rwa [List.getElem?_set_ne hpr] at hp
  cases id hstep with
  | tokens accessToken => exact h.keep hstep (fun _ => rfl) (fun _ hp => hp) fun _ _ _ hid => hid
  | requested fresh authorization =>
    refine h.keep hstep (fun _ => rfl) (fun _ hp => hp) fun id' p _ hid => ?_
    rcases waitsFor_put rfl hid with ⟨-, hphase⟩ | ⟨-, hid⟩
    · cases hphase
    · exact hid
  | @joined id refresh _ call found sent first pending =>
    refine h.keep hstep (fun _ => rfl) (fun _ hp => hp) fun id' p hfailed hid => ?_
    rcases waitsFor_put rfl hid with ⟨-, hphase⟩ | ⟨-, hid⟩
    · -- the pending refresh is not settled
      cases hphase
      rcases (h.pending refresh).mpr pending with hcalling | ⟨_, hanswered⟩
      · rw [hcalling] at hfailed
        cases hfailed
      · rw [hanswered] at hfailed
        cases hfailed
    · exact hid
  | @started id _ call found sent first idle =>
    refine h.keep hstep (fun _ => rfl) (fun p hp => ?_) fun id' p hfailed hid => ?_
    · have hp : (s.refreshes ++ [RefreshPhase.calling])[p]? = some (.settled false) := hp
      rcases lt_or_ge p s.refreshes.length with hlt | hge
      · rwa [List.getElem?_append_left hlt] at hp
      · rw [List.getElem?_append_right hge, List.getElem?_singleton] at hp
        split_ifs at hp
        cases hp
    · rcases waitsFor_put rfl hid with ⟨-, hphase⟩ | ⟨-, hid⟩
      · cases hphase
        have hlt := (List.getElem?_eq_some_iff.mp hfailed).1
        exact absurd hlt (lt_irrefl _)
      · exact hid
  | @finished id _ call found sent accessToken expiries causes =>
    refine h.keep hstep (fun p => ?_) (fun _ hp => hp) fun id' p _ hid => ?_
    · rcases causes with rfl | rfl
      · rfl
      · exact count_reply s.expiries id p
    · rcases waitsFor_put rfl hid with ⟨-, hphase⟩ | ⟨-, hid⟩
      · cases hphase
      · exact hid
  | answered calling ok accessToken =>
    exact h.keep hstep (fun _ => rfl) (fun _ hp => hnot calling (by simp) hp) fun _ _ _ hid => hid
  | refused calling unauthenticated =>
    rw [show _ = false from hquiet] at unauthenticated
    cases unauthenticated
  | @ended refresh ok answered =>
    have hrunning := h.toRunning.step hstep
    refine ⟨hrunning, fun p => ?_, fun p hp id id' hid hid' => ?_⟩
    · rcases h.counted p with hzero | ⟨hone, hfailed, hnobody⟩
      · exact .inl hzero
      · exact .inr ⟨hone, hstep.settled hfailed, hnobody⟩
    · cases ok with
      | true => exact h.alone p (hnot answered (by simp) hp) id id' hid hid'
      | false =>
        by_cases hpr : refresh = p
        · subst hpr
          exact hquiet answered id id' hid hid'
        · have hp : (s.refreshes.set refresh (.settled false))[p]? = some (.settled false) := hp
          rw [List.getElem?_set_ne hpr] at hp
          exact h.alone p hp id id' hid hid'
  | @replayed id refresh call found waiting settled =>
    refine h.keep hstep (fun _ => rfl) (fun _ hp => hp) fun id' p _ hid => ?_
    rcases waitsFor_put rfl hid with ⟨-, hphase⟩ | ⟨-, hid⟩
    · cases hphase
    · exact hid
  | @gaveUp id refresh call found waiting settled =>
    have hwaited : s.WaitsFor id refresh := ⟨call, found, waiting⟩
    have hrest : ∀ id' p, (s.giveUp id call refresh).WaitsFor id' p → id' ≠ id ∧ s.WaitsFor id' p := by
      intro id' p hid
      rcases waitsFor_put rfl hid with ⟨-, hphase⟩ | hid
      · cases hphase
      · exact hid
    refine ⟨h.toRunning.step hstep, fun p => ?_, fun p hp id₁ id₂ h₁ h₂ =>
      h.alone p hp id₁ id₂ (hrest id₁ p h₁).2 (hrest id₂ p h₂).2⟩
    show (s.expiries ++ [ExpiryCause.refresh refresh]).count (ExpiryCause.refresh p) = 0 ∨
      ((s.expiries ++ [ExpiryCause.refresh refresh]).count (ExpiryCause.refresh p) = 1 ∧ _)
    rw [List.count_append, List.count_singleton]
    by_cases hp : refresh = p
    · -- the only request that waited for the refresh gives up, and it was not counted before
      subst hp
      rcases h.counted refresh with hzero | ⟨-, -, hnobody⟩
      · rw [hzero, beq_self_eq_true, if_pos rfl]
        exact .inr ⟨rfl, settled, fun id' hid => (hrest id' refresh hid).1
          (h.alone refresh settled id' id (hrest id' refresh hid).2 hwaited)⟩
      · exact absurd hwaited (hnobody id)
    · have hne : ¬ (ExpiryCause.refresh refresh == ExpiryCause.refresh p) = true := by simp [hp]
      rw [if_neg hne, Nat.add_zero]
      rcases h.counted p with hzero | ⟨hone, hfailed, hnobody⟩
      · exact .inl hzero
      · exact .inr ⟨hone, hfailed, fun id' hid => hnobody id' (hrest id' p hid).2⟩

/-! ## Runs -/

/-- A client that has sent nothing. -/
def Client.fresh (accessToken : String) : Client := { accessToken }

theorem Client.running_fresh (accessToken : String) : (Client.fresh accessToken).Running where
  pending p := by simp [Client.Refreshing, Client.fresh]
  sends _ _ h := nomatch h
  waiting _ _ _ h := nomatch h

theorem Client.once_fresh (accessToken : String) : (Client.fresh accessToken).Once where
  toRunning := Client.running_fresh accessToken
  counted _ := .inl rfl
  alone _ h := nomatch h

/-- In every run one refresh is in flight at a time and a request is sent at most twice, again after a refresh that
succeeded; and where every event is quiet, a refresh calls the session-expired callback at most once. -/
theorem single_flight (allowed : Client → Event → Prop) (accessToken : String) (s : Client)
    (h : Reached Client.step allowed (Client.fresh accessToken) s) :
    s.SingleFlight ∧ ((∀ s e, allowed s e → e.Quiet s) → s.FiresOnce) := by
  refine ⟨?_, fun hquiet refresh => ?_⟩
  · have hrunning : s.Running :=
      h.invariant (Client.running_fresh accessToken) fun hs _ hstep => hs.step (step_stepped hstep)
    refine ⟨fun p q hp hq => ?_, hrunning.sends⟩
    have hsame := (hrunning.pending p).mp hp
    rw [(hrunning.pending q).mp hq, Option.some.injEq] at hsame
    exact hsame.symm
  · have honce : s.Once :=
      h.invariant (Client.once_fresh accessToken) fun hs hok hstep => hs.step (hquiet _ _ hok) (step_stepped hstep)
    rcases honce.counted refresh with hzero | ⟨hone, -⟩
    · omega
    · omega

/-- One request meets an expired token, and its refresh is refused. -/
def sampleExpired : List Event := [
  .request 1 false none,
  .reply 1 (.error 401 (some tokenExpiredCode)),
  .refreshReply 0 (.error 401 (some tokenExpiredCode)),
  .refreshEnds 0,
  .resume 1]

/-- A request meets an expired token, and is sent again with the fresh one. -/
theorem single_flight_refreshed : ∃ s, Reached Client.step (fun s e => e.Quiet s) (Client.fresh "stale") s ∧
    s.accessToken = "fresh" ∧ s.SingleFlight ∧ s.FiresOnce := by
  have h₀ : Reached Client.step (fun s e => e.Quiet s) (Client.fresh "stale") (Client.fresh "stale") := .start
  have h₁ := h₀.next (Event.request 1 false none) trivial rfl
  have h₂ := h₁.next (Event.reply 1 (.error 401 (some tokenExpiredCode))) trivial rfl
  have h₃ := h₂.next (Event.refreshReply 0 (.ok "fresh")) rfl rfl
  have h₄ := h₃.next (Event.refreshEnds 0) (fun h => nomatch h) rfl
  have h₅ := h₄.next (Event.resume 1) trivial rfl
  obtain ⟨hflight, honce⟩ := single_flight (fun s e => e.Quiet s) "stale" _ h₅
  exact ⟨_, h₅, rfl, hflight, honce fun _ _ h => h⟩

/-- A refresh that is refused calls the session-expired callback twice: from the answer to the refresh, and from the
request that waited for it. -/
theorem single_flight_fires_twice : ¬ ∀ (accessToken : String) (s : Client),
    Reached Client.step (fun _ _ => True) (Client.fresh accessToken) s → s.SingleFlight ∧ s.FiresOnce := by
  intro hclaim
  have hrun : ∃ s, run Client.step (Client.fresh "stale") sampleExpired = some s ∧
      s.expiries.count (.refresh 0) = 2 := ⟨_, rfl, by decide⟩
  obtain ⟨s, hrun, htwice⟩ := hrun
  have hreached : Reached Client.step (fun _ _ => True) (Client.fresh "stale") s :=
    reached_run .start (fun _ _ _ => trivial) hrun
  have honce := (hclaim "stale" s hreached).2 0
  omega

end NovaCommerce.Frontend
