import ActonService.Audit.Commitment
import ActonService.Audit.StoredChain
import ActonService.Lib.Run

/-!
# The audit agent

The actor of `audit/agent.rs` that owns the hash chain, and the task it hands sealed
events to.  The actor takes one message at a time.  Until the message `ChainLoaded` tells
it where the stored chain ends it buffers the events it is sent; from then on it seals
every event and sends it down an unbounded channel.  The writer task takes events from
the channel, in order, and appends them to the storage, retrying nothing.

The two run side by side, so a run is a list of actions of both.  Of the failure tracker
only the calls made to it matter here.

## Main definitions

* `bufferPendingEvent`, `sealAndDispatch`, `AuditAgentState.handle` — the handlers.
* `chainLoaded` — what the agent finds stored when it starts.
* `AuditRun`, `agentStep` — the agent, the writer task and the store.

## Main results

* `chainLoaded_latest` — where the chain of an agent begins.
* `agent_spec` — **the agent dispatches what it accepts, in order, and loses only what
  overflows its buffer.**
* `verifyChain_store` — **lost appends are detected exactly.**
-/

namespace ActonService

open HashChain Run

/-! ### The state of the agent -/

/-- A call of the failure tracker, which the writer task makes after each append. -/
inductive TrackerCall
  /-- `record_success` -/
  | success
  /-- `record_failure` -/
  | failure (error : String)
  deriving DecidableEq

/-- The `Display` text of an error. -/
def StorageError.display : StorageError → String
  | .internal message => "Internal server error: " ++ message
  | .clickHouse message => "ClickHouse error: " ++ message

/-- How the writer task reports an append to the tracker: a success, or a failure with the text of
its error. -/
def TrackerCall.ofAppend : Except StorageError Unit → TrackerCall
  | .ok () => .success
  | .error e => .failure e.display

/-- The unbounded channel to the writer task: a send does not wait, and fails only if the task is
gone. -/
structure WriterChannel where
  /-- The events the task has not taken yet. -/
  queue : List AuditEvent
  /-- The task is gone, and a send fails. -/
  terminated : Bool

/-- `AuditAgentState`, as far as its handlers read it. -/
structure AuditAgentState where
  chain : Option AuditChain
  /-- The events received before the chain was initialised, in arrival order. -/
  pending : List AuditEvent
  writer : Option WriterChannel
  failureTracker : Option (List TrackerCall)

/-- `MAX_PENDING_EVENTS` -/
def maxPendingEvents : ℕ := 1024

/-- The `Debug` text of a kind, given that of a string. -/
def AuditEventKind.debug (debugStr : String → String) : AuditEventKind → String
  | .custom name => "Custom(" ++ debugStr name ++ ")"
  | kind => kind.variantName

/-- What is reported of an event that overflows the buffer. -/
def overflowReason (debugStr : String → String) (event : AuditEvent) : String :=
  "audit chain not initialized and pending buffer is full (" ++ toString maxPendingEvents
    ++ " events); dropped event " ++ event.kind.debug debugStr

def AuditAgentState.recordFailure (s : AuditAgentState) (error : String) : AuditAgentState :=
  { s with failureTracker := s.failureTracker.map (· ++ [.failure error]) }

/-! ### The handlers -/

section Agent

variable (X : HashExterns) (debugStr : String → String)

/-- `buffer_pending_event`: a full buffer drops the newest event. -/
def bufferPendingEvent (s : AuditAgentState) (event : AuditEvent) : AuditAgentState :=
  if maxPendingEvents ≤ s.pending.length then s.recordFailure (overflowReason debugStr event)
  else { s with pending := s.pending ++ [event] }

/-- `seal_and_dispatch`.  The chain advances whether or not the event can be sent. -/
def sealAndDispatch (s : AuditAgentState) (event : AuditEvent) : AuditAgentState :=
  match s.chain with
  | none => bufferPendingEvent debugStr s event
  | some chain =>
    let (sealed, chain') := AuditChain.seal X chain event
    -- the sequence number is used up even if the event is not sent
    let s' := { s with chain := some chain' }
    match s.writer with
    | none => s'
    | some writer =>
      if writer.terminated then s'.recordFailure "audit writer task terminated; event not persisted"
      else { s' with writer := some { writer with queue := writer.queue ++ [sealed] } }

/-- The message that tells where the stored chain ends. -/
structure ChainLoaded where
  previousHash : Option String
  sequence : UInt64
  serviceName : String

/-- The chain the agent starts from: it resumes behind the stored event, or begins at genesis if
there is none. -/
def ChainLoaded.chain (msg : ChainLoaded) : AuditChain :=
  match msg.previousHash with
  | some hash => AuditChain.resume msg.serviceName hash msg.sequence
  | none => AuditChain.new msg.serviceName

/-- What the start-up task sends for what `latest` returns.  An agent without a storage
starts as over an empty one. -/
def chainLoaded (serviceName : String) : Except StorageError (Option AuditEvent) → ChainLoaded
  | .ok (some event) => ⟨event.hash, event.sequence, serviceName⟩
  | .ok none => ⟨none, 0, serviceName⟩
  | .error _ => ⟨none, 0, serviceName⟩

/-- **Where the chain of an agent begins**: behind the stored event with the highest sequence, if
there is one.  It begins anew if there is none, and also if the lookup fails. -/
theorem chainLoaded_latest (S : StoreExterns) (R : Reading) (kind : BackendKind)
    (serviceName : String) (fault : Fault) (table : List (auditStorage S R kind).Row) :
    (∃ e, (auditStorage S R kind).latest fault table = .error e ∧
        chainLoaded serviceName ((auditStorage S R kind).latest fault table)
          = ⟨none, 0, serviceName⟩) ∨
      ∃ event : Option AuditEvent,
        (auditStorage S R kind).readRows ((auditStorage S R kind).selectLatest table)
            = .ok event.toList ∧
          chainLoaded serviceName ((auditStorage S R kind).latest fault table)
            = ⟨event.bind AuditEvent.hash, event.elim 0 AuditEvent.sequence, serviceName⟩ := by
  cases hlatest : (auditStorage S R kind).latest fault table with
  | error e => exact .inl ⟨e, rfl, rfl⟩
  | ok event =>
    refine .inr ⟨event, latest_eq_ok S R kind hlatest, ?_⟩
    cases event <;> rfl

/-- The messages of the agent: an event, the state of the chain, or the trigger of a cleanup. -/
inductive AgentMessage
  | auditEvent (event : AuditEvent)
  | chainLoaded (msg : ChainLoaded)
  | cleanupTrigger

/-- The handlers of the agent.  A cleanup works on the storage and the configuration
alone. -/
def AuditAgentState.handle (s : AuditAgentState) : AgentMessage → AuditAgentState
  | .auditEvent event =>
    if s.chain.isNone then bufferPendingEvent debugStr s event
    else sealAndDispatch X debugStr s event
  | .chainLoaded msg =>
    s.pending.foldl (sealAndDispatch X debugStr) { s with chain := some msg.chain, pending := [] }
  | .cleanupTrigger => s

/-! ### Runs -/

/-- The agent, the storage and what the writer task has done. -/
structure AuditRun where
  agent : AuditAgentState
  /-- The events the storage has kept, in the order they were appended. -/
  store : List AuditEvent
  /-- The events the writer task has taken from the channel, and whether they were stored. -/
  received : List (AuditEvent × Bool)

/-- What can happen next: the agent handles a message, or the writer comes to an event in its
channel. -/
inductive AgentAction
  /-- The agent handles a message. -/
  | message (m : AgentMessage)
  /-- The writer task takes an event and appends it; the append stores it or does not. -/
  | write (stored : Bool) (result : Except StorageError Unit)

/-- One turn of the loop of the writer task, which waits while the channel is empty. -/
def AuditRun.write (r : AuditRun) (stored : Bool) (result : Except StorageError Unit) : AuditRun :=
  match r.agent.writer with
  | some ⟨event :: queue, terminated⟩ =>
    { agent :=
        { r.agent with
          writer := some ⟨queue, terminated⟩
          failureTracker := r.agent.failureTracker.map (· ++ [.ofAppend result]) }
      store := if stored then r.store ++ [event] else r.store
      received := r.received ++ [(event, stored)] }
  | _ => r

/-- What an action does to the agent, its channel and what has been stored. -/
def agentStep (r : AuditRun) : AgentAction → AuditRun
  | .message m => { r with agent := r.agent.handle X debugStr m }
  | .write stored result => r.write stored result

/-- A spawned agent, with or without a failure tracker, before anything is appended. -/
def AuditRun.spawn (tracked : Bool) : AuditRun where
  agent :=
    { chain := none
      pending := []
      writer := some ⟨[], false⟩
      failureTracker := if tracked then some [] else none }
  store := []
  received := []

/-- The events in the channel to the writer, or none before there is one. -/
def AuditRun.inFlight (r : AuditRun) : List AuditEvent :=
  (r.agent.writer.map WriterChannel.queue).getD []

/-- The events dispatched to the writer task, those it has taken first. -/
def AuditRun.dispatched (r : AuditRun) : List AuditEvent := r.received.map Prod.fst ++ r.inFlight

/-! ### What a handler does -/

variable {X debugStr}

/-- An agent with a chain and a writer that receives seals the event and sends it. -/
theorem sealAndDispatch_eq {s : AuditAgentState} {chain : AuditChain} {queue : List AuditEvent}
    (hchain : s.chain = some chain) (hwriter : s.writer = some ⟨queue, false⟩)
    (event : AuditEvent) :
    sealAndDispatch X debugStr s event
      = { s with
          chain := some (AuditChain.seal X chain event).2
          writer := some ⟨queue ++ [(AuditChain.seal X chain event).1], false⟩ } := by
  unfold sealAndDispatch
  rw [hchain, hwriter]
  rfl

/-- Draining the buffer seals and sends its events one after the other. -/
theorem foldl_sealAndDispatch {s : AuditAgentState} {chain : AuditChain}
    {queue : List AuditEvent} (hchain : s.chain = some chain)
    (hwriter : s.writer = some ⟨queue, false⟩) (events : List AuditEvent) :
    events.foldl (sealAndDispatch X debugStr) s
      = { s with
          chain := some (sealAll X chain events).2
          writer := some ⟨queue ++ (sealAll X chain events).1, false⟩ } := by
  induction events generalizing s chain queue with
  | nil =>
    rw [List.foldl_nil, sealAll, List.append_nil, ← hchain, ← hwriter]
  | cons event events ih =>
    rw [List.foldl_cons, sealAndDispatch_eq hchain hwriter, ih rfl rfl, sealAll,
      List.append_assoc, List.singleton_append]

theorem sealAll_concat (X : HashExterns) (chain : AuditChain) (events : List AuditEvent)
    (event : AuditEvent) :
    sealAll X chain (events ++ [event])
      = ((sealAll X chain events).1 ++ [(AuditChain.seal X (sealAll X chain events).2 event).1],
         (AuditChain.seal X (sealAll X chain events).2 event).2) := by
  rw [sealAll_append]
  rfl

/-- What is reported of the events that overflow the buffer. -/
def overflowCalls (debugStr : String → String) (events : List AuditEvent) : List TrackerCall :=
  (events.drop maxPendingEvents).map fun e => .failure (overflowReason debugStr e)

/-- Another event overflows exactly when the buffer is full. -/
theorem overflowCalls_concat (debugStr : String → String) (events : List AuditEvent)
    (event : AuditEvent) :
    overflowCalls debugStr (events ++ [event])
      = overflowCalls debugStr events
        ++ if maxPendingEvents ≤ events.length then [.failure (overflowReason debugStr event)]
          else [] := by
  unfold overflowCalls
  rw [List.drop_append, List.map_append]
  split
  · next hfull => simp [Nat.sub_eq_zero_of_le hfull]
  · next hroom =>
    have hnone : [event].drop (maxPendingEvents - events.length) = [] :=
      List.drop_of_length_le (by rw [List.length_singleton]; omega)
    rw [hnone, List.map_nil]

/-! ### The two phases of a run -/

/-- The event an action delivers. -/
def AgentAction.event? : AgentAction → Option AuditEvent
  | .message (.auditEvent event) => some event
  | .message (.chainLoaded _) | .message .cleanupTrigger | .write _ _ => none

/-- The `ChainLoaded` an action delivers. -/
def AgentAction.chainLoaded? : AgentAction → Option ChainLoaded
  | .message (.chainLoaded msg) => some msg
  | .message (.auditEvent _) | .message .cleanupTrigger | .write _ _ => none

/-- The calls were made to the failure tracker, one after the other, where there is one. -/
def Reported (tracked : Bool) (calls : List TrackerCall) (tracker : Option (List TrackerCall)) :
    Prop :=
  if tracked then ∃ made, tracker = some made ∧ calls.Sublist made else tracker = none

theorem Reported.append {tracked : Bool} {calls new : List TrackerCall}
    {tracker : Option (List TrackerCall)} (h : Reported tracked calls tracker)
    (more : List TrackerCall) (hmore : new.Sublist more) :
    Reported tracked (calls ++ new) (tracker.map (· ++ more)) := by
  unfold Reported at h ⊢
  cases tracked with
  | true =>
    obtain ⟨made, rfl, hmade⟩ := h
    exact ⟨made ++ more, rfl, hmade.append hmore⟩
  | false =>
    obtain rfl : tracker = none := h
    rfl

/-- The run so far has sent `events` and no `ChainLoaded`: the buffer holds the first of
them, the rest is reported, and nothing is dispatched. -/
structure Waiting (debugStr : String → String) (tracked : Bool) (events : List AuditEvent)
    (r : AuditRun) : Prop where
  chain : r.agent.chain = none
  pending : r.agent.pending = events.take maxPendingEvents
  writer : r.agent.writer = some ⟨[], false⟩
  received : r.received = []
  reported : Reported tracked (overflowCalls debugStr events) r.agent.failureTracker

/-- The agent has sealed `accepted` behind the chain `start`: all of it is dispatched, and
the buffer is empty. -/
structure Sealing (X : HashExterns) (tracked : Bool) (start : AuditChain)
    (calls : List TrackerCall) (accepted : List AuditEvent) (r : AuditRun) : Prop where
  chain : r.agent.chain = some (sealAll X start accepted).2
  pending : r.agent.pending = []
  writer : r.agent.writer = some ⟨r.inFlight, false⟩
  dispatched : r.dispatched = (sealAll X start accepted).1
  reported : Reported tracked calls r.agent.failureTracker

variable {tracked : Bool} {start : AuditChain} {calls : List TrackerCall}
  {events accepted : List AuditEvent} {r : AuditRun}

theorem Waiting.event (h : Waiting debugStr tracked events r) (event : AuditEvent) :
    Waiting debugStr tracked (events ++ [event])
      (agentStep X debugStr r (.message (.auditEvent event))) := by
  have hstep : agentStep X debugStr r (.message (.auditEvent event))
      = { r with agent := bufferPendingEvent debugStr r.agent event } := by
    simp [agentStep, AuditAgentState.handle, h.chain]
  have hlength : r.agent.pending.length = min maxPendingEvents events.length := by
    rw [h.pending, List.length_take]
  rw [hstep]
  unfold bufferPendingEvent
  by_cases hfull : maxPendingEvents ≤ events.length
  · rw [if_pos (by omega)]
    refine ⟨h.chain, ?_, h.writer, h.received, ?_⟩
    · rw [List.take_append_of_le_length hfull]
      exact h.pending
    · rw [overflowCalls_concat, if_pos hfull]
      exact h.reported.append _ (List.Sublist.refl _)
  · rw [if_neg (by omega)]
    refine ⟨h.chain, ?_, h.writer, h.received, ?_⟩
    · show r.agent.pending ++ [event] = _
      rw [h.pending, List.take_of_length_le (by omega), List.take_of_length_le (by simp; omega)]
    · rw [overflowCalls_concat, if_neg hfull, List.append_nil]
      exact h.reported

theorem Waiting.step (h : Waiting debugStr tracked events r) {a : AgentAction}
    (ha : a.chainLoaded? = none) :
    Waiting debugStr tracked (events ++ a.event?.toList) (agentStep X debugStr r a) := by
  match a with
  | .message (.auditEvent event) => exact h.event event
  | .message (.chainLoaded msg) => exact absurd ha (by simp [AgentAction.chainLoaded?])
  | .message .cleanupTrigger =>
    rw [AgentAction.event?, Option.toList_none, List.append_nil]
    exact ⟨h.chain, h.pending, h.writer, h.received, h.reported⟩
  | .write stored result =>
    -- the writer task waits for the first event
    have hwait : agentStep X debugStr r (.write stored result) = r := by
      simp only [agentStep, AuditRun.write, h.writer]
    rw [AgentAction.event?, Option.toList_none, List.append_nil, hwait]
    exact h

/-- The message that loads the chain drains the buffer. -/
theorem Waiting.load (h : Waiting debugStr tracked events r) (msg : ChainLoaded) :
    Sealing X tracked msg.chain (overflowCalls debugStr events) (events.take maxPendingEvents)
      (agentStep X debugStr r (.message (.chainLoaded msg))) := by
  unfold agentStep AuditAgentState.handle
  simp only
  -- the whole buffer is sealed before the agent takes another message
  rw [foldl_sealAndDispatch (s := { r.agent with chain := some msg.chain, pending := [] }) rfl
    h.writer, h.pending]
  refine ⟨rfl, rfl, rfl, ?_, h.reported⟩
  show r.received.map Prod.fst ++ ([] ++ _) = _
  rw [h.received]
  rfl

theorem Sealing.event (h : Sealing X tracked start calls accepted r) (event : AuditEvent) :
    Sealing X tracked start calls (accepted ++ [event])
      (agentStep X debugStr r (.message (.auditEvent event))) := by
  have hstep : agentStep X debugStr r (.message (.auditEvent event))
      = { r with agent := sealAndDispatch X debugStr r.agent event } := by
    simp [agentStep, AuditAgentState.handle, h.chain]
  rw [hstep, sealAndDispatch_eq h.chain h.writer]
  refine ⟨?_, h.pending, rfl, ?_, h.reported⟩
  · rw [sealAll_concat]
  · show r.received.map Prod.fst ++ (r.inFlight ++ [_]) = _
    rw [← List.append_assoc, sealAll_concat, ← h.dispatched]
    rfl

/-- What the writer task takes stays dispatched, whether its append succeeds or not. -/
theorem Sealing.write (h : Sealing X tracked start calls accepted r) (stored : Bool)
    (result : Except StorageError Unit) :
    Sealing X tracked start calls accepted (r.write stored result) := by
  have hdispatched := h.dispatched
  have hwriter := h.writer
  rw [AuditRun.dispatched] at hdispatched
  unfold AuditRun.write
  cases hqueue : r.inFlight with
  | nil =>
    rw [hwriter, hqueue]
    exact h
  | cons event queue =>
    rw [hqueue] at hwriter hdispatched
    rw [hwriter]
    -- an append is reported as well, but it adds none of the calls in question
    have hreported := h.reported.append [.ofAppend result] (List.nil_sublist _)
    rw [List.append_nil] at hreported
    refine ⟨h.chain, h.pending, rfl, ?_, hreported⟩
    show (r.received ++ [(event, stored)]).map Prod.fst ++ queue = _
    rw [List.map_append, List.append_assoc]
    exact hdispatched

theorem Sealing.step (h : Sealing X tracked start calls accepted r) {a : AgentAction}
    (ha : a.chainLoaded? = none) :
    Sealing X tracked start calls (accepted ++ a.event?.toList) (agentStep X debugStr r a) := by
  match a with
  | .message (.auditEvent event) => exact h.event event
  | .message (.chainLoaded msg) => exact absurd ha (by simp [AgentAction.chainLoaded?])
  | .message .cleanupTrigger =>
    rw [AgentAction.event?, Option.toList_none, List.append_nil]
    exact h
  | .write stored result =>
    rw [AgentAction.event?, Option.toList_none, List.append_nil]
    exact h.write stored result

/-! ### Whole runs -/

theorem filterMap_event?_concat (past : List AgentAction) (a : AgentAction) :
    (past ++ [a]).filterMap AgentAction.event?
      = past.filterMap AgentAction.event? ++ a.event?.toList := by
  rw [List.filterMap_append]
  cases h : a.event? <;> simp [h]

theorem waiting_spawn (debugStr : String → String) (tracked : Bool) :
    Waiting debugStr tracked [] (AuditRun.spawn tracked) := by
  refine ⟨rfl, rfl, rfl, rfl, ?_⟩
  cases tracked with
  | true => exact ⟨[], rfl, List.Sublist.refl _⟩
  | false => rfl

/-- A run that has not loaded the chain waits. -/
theorem Waiting.run {pre : List AgentAction} (hpre : ∀ a ∈ pre, a.chainLoaded? = none) :
    Waiting debugStr tracked (pre.filterMap AgentAction.event?)
      (pre.foldl (agentStep X debugStr) (AuditRun.spawn tracked)) := by
  have hstep : ∀ (past : List AgentAction) (r : AuditRun) (a : AgentAction),
      Waiting debugStr tracked (past.filterMap AgentAction.event?) r → a.chainLoaded? = none →
      Waiting debugStr tracked ((past ++ [a]).filterMap AgentAction.event?)
        (agentStep X debugStr r a) := by
    intro past r a h ha
    rw [filterMap_event?_concat]
    exact h.step ha
  have hnil : Waiting debugStr tracked ([].filterMap AgentAction.event?)
      (AuditRun.spawn tracked) := waiting_spawn debugStr tracked
  exact foldl_history hstep hnil hpre

/-- Behind the message that loads the chain a run seals. -/
theorem Sealing.run (h : Sealing X tracked start calls accepted r) {post : List AgentAction}
    (hpost : ∀ a ∈ post, a.chainLoaded? = none) :
    Sealing X tracked start calls (accepted ++ post.filterMap AgentAction.event?)
      (post.foldl (agentStep X debugStr) r) := by
  have hstep : ∀ (past : List AgentAction) (r : AuditRun) (a : AgentAction),
      Sealing X tracked start calls (accepted ++ past.filterMap AgentAction.event?) r →
      a.chainLoaded? = none →
      Sealing X tracked start calls (accepted ++ (past ++ [a]).filterMap AgentAction.event?)
        (agentStep X debugStr r a) := by
    intro past r a h ha
    rw [filterMap_event?_concat, ← List.append_assoc]
    exact h.step ha
  have hnil : Sealing X tracked start calls (accepted ++ [].filterMap AgentAction.event?) r := by
    rwa [List.filterMap_nil, List.append_nil]
  exact foldl_history hstep hnil hpost

/-- A run with one message that loads the chain. -/
theorem sealing_run {pre post : List AgentAction}
    (hsingle : ∀ a ∈ pre ++ post, a.chainLoaded? = none) (msg : ChainLoaded) :
    Sealing X tracked msg.chain (overflowCalls debugStr (pre.filterMap AgentAction.event?))
      ((pre.filterMap AgentAction.event?).take maxPendingEvents
        ++ post.filterMap AgentAction.event?)
      ((pre ++ .message (.chainLoaded msg) :: post).foldl (agentStep X debugStr)
        (AuditRun.spawn tracked)) := by
  rw [List.foldl_append, List.foldl_cons]
  have hwaiting : Waiting debugStr tracked (pre.filterMap AgentAction.event?)
      (pre.foldl (agentStep X debugStr) (AuditRun.spawn tracked)) :=
    Waiting.run fun a ha => hsingle a (List.mem_append_left _ ha)
  exact (hwaiting.load msg).run fun a ha => hsingle a (List.mem_append_right _ ha)

/-- The chain of what the start-up task found. -/
theorem chain_chainLoaded (serviceName : String)
    {latest : Except StorageError (Option AuditEvent)}
    (hsealed : ∀ event, latest = .ok (some event) → event.hash ≠ none) :
    (chainLoaded serviceName latest).chain.previousHash
        = (chainLoaded serviceName latest).previousHash ∧
      (chainLoaded serviceName latest).chain.sequence
        = (chainLoaded serviceName latest).sequence := by
  match latest with
  | .ok (some event) =>
    obtain ⟨hash, hhash⟩ := Option.ne_none_iff_exists'.mp (hsealed event rfl)
    simp [chainLoaded, ChainLoaded.chain, hhash, AuditChain.resume]
  | .ok none => exact ⟨rfl, rfl⟩
  | .error e => exact ⟨rfl, rfl⟩

/-- **The agent dispatches what it accepts.**  Whatever messages arrive before and after the
one that loads the chain, and whenever the writer task takes events from the channel:
the events dispatched are the first `maxPendingEvents` of those that arrived before it
and all that arrived after it, in arrival order, numbered consecutively behind the
loaded sequence number and linked to the loaded hash; the other events are reported to
the failure tracker; and the buffer is empty.  The stored event the chain is loaded from
has a hash, as the tables require. -/
theorem agent_spec (X : HashExterns) (debugStr : String → String) (tracked : Bool)
    (serviceName : String) {latest : Except StorageError (Option AuditEvent)}
    (hsealed : ∀ event, latest = .ok (some event) → event.hash ≠ none)
    {pre post : List AgentAction} (hsingle : ∀ a ∈ pre ++ post, a.chainLoaded? = none) :
    let msg := chainLoaded serviceName latest
    let early := pre.filterMap AgentAction.event?
    let accepted := early.take maxPendingEvents ++ post.filterMap AgentAction.event?
    let r := (pre ++ .message (.chainLoaded msg) :: post).foldl (agentStep X debugStr)
      (AuditRun.spawn tracked)
    r.dispatched.map AuditEvent.content = accepted.map AuditEvent.content ∧
      r.dispatched.map AuditEvent.sequence = sequencesFrom msg.sequence accepted.length ∧
      Chained msg.previousHash r.dispatched ∧
      Reported tracked ((early.drop maxPendingEvents).map fun e =>
        .failure (overflowReason debugStr e)) r.agent.failureTracker ∧
      r.agent.pending = [] := by
  intro msg early accepted r
  obtain ⟨hprevious, hsequence⟩ := chain_chainLoaded serviceName hsealed
  -- the run waits up to the message that loads the chain and seals from there on
  have hsealing : Sealing X tracked msg.chain (overflowCalls debugStr early) accepted r :=
    sealing_run hsingle msg
  have hspec := sealAll_spec X msg.chain accepted
  have hlength := length_sealAll X msg.chain accepted
  rw [← hsealing.dispatched] at hspec hlength
  have hchained : Chained msg.previousHash r.dispatched := hprevious ▸ hspec.chained
  have hnumbered : Numbered msg.sequence r.dispatched := hsequence ▸ hspec.numbered
  refine ⟨hspec.content, ?_, hchained, hsealing.reported, hsealing.pending⟩
  rw [sequence_of_numbered hnumbered, hlength]

theorem agent_spec_sample :
    (∀ event, Except.ok (some sampleFirst) = (.ok (some event) : Except StorageError _) →
        event.hash ≠ none) ∧
      let login := AgentMessage.auditEvent (sampleLogin (sampleTime 0) sampleMetadata)
      let msg := chainLoaded "billing" (.ok (some sampleFirst))
      let r := [.message login, .message (.chainLoaded msg), .write true (.ok ()),
          .message login].foldl (agentStep sampleExterns fun s => "\"" ++ s ++ "\"")
        (AuditRun.spawn true)
      r.dispatched.map AuditEvent.sequence = [2, 3] ∧ Chained sampleFirst.hash r.dispatched ∧
        r.agent.pending = [] := by
  have hsealed : ∀ event, Except.ok (some sampleFirst)
      = (.ok (some event) : Except StorageError _) → event.hash ≠ none := by
    rintro event ⟨⟩
    simp [sampleFirst]
  refine ⟨hsealed, ?_⟩
  intro login msg r
  have hsingle : ∀ a ∈ [AgentAction.message login] ++ [.write true (.ok ()), .message login],
      a.chainLoaded? = none := by simp [login, AgentAction.chainLoaded?]
  obtain ⟨-, hsequence, hchained, -, hpending⟩ :=
    agent_spec sampleExterns (fun s => "\"" ++ s ++ "\"") true "billing" hsealed hsingle
  exact ⟨hsequence, hchained, hpending⟩

/-! ### Lost appends -/

/-- A chain from its start, sealed under the v2 scheme. -/
structure FreshChain (X : HashExterns) (sealed : List AuditEvent) : Prop where
  chained : Chained none sealed
  numbered : Numbered 0 sealed
  hashed : ∀ e ∈ sealed, HashedV2 X e

theorem freshChain_nil (X : HashExterns) : FreshChain X [] := ⟨trivial, trivial, by simp⟩

theorem freshChain_sealAll (X : HashExterns) (serviceName : String) (events : List AuditEvent) :
    FreshChain X (sealAll X (AuditChain.new serviceName) events).1 := by
  have hspec := sealAll_spec X (AuditChain.new serviceName) events
  exact ⟨hspec.chained, hspec.numbered, hspec.hashed⟩

theorem FreshChain.left {xs ys : List AuditEvent} (h : FreshChain X (xs ++ ys)) :
    FreshChain X xs :=
  ⟨((linked_append none xs ys).mp h.chained).1, ((linked_append _ xs ys).mp h.numbered).1,
    fun e he => h.hashed e (List.mem_append_left ys he)⟩

/-- The order of the chain is the order of its sequence numbers, as far as these count. -/
theorem FreshChain.pairwise_sequence {sealed : List AuditEvent} (h : FreshChain X sealed)
    (hlen : sealed.length < 2 ^ 64) :
    sealed.Pairwise fun a b => a.sequence < b.sequence := by
  have hrange : (sealed.map AuditEvent.sequence).map UInt64.toNat
      = List.range' 1 sealed.length := by
    rw [sequence_of_numbered h.numbered]
    exact toNat_sequencesFrom 0 _ (by simpa using hlen)
  have hsorted : ((sealed.map AuditEvent.sequence).map UInt64.toNat).Pairwise (· < ·) := by
    rw [hrange]
    exact List.pairwise_lt_range'
  rw [List.pairwise_map, List.pairwise_map] at hsorted
  exact hsorted.imp UInt64.lt_iff_toNat_lt.mpr

section CollisionFree

variable {sealed : List AuditEvent}
  (hcf : CollisionFree X.blake3 {x | ∃ e ∈ sealed, x = hashInputV2 X.toTexts e})
  (hmemory : ∀ e ∈ sealed, e.InMemory X.toTexts)
include hcf hmemory

theorem FreshChain.nodup_hash (h : FreshChain X sealed) :
    (sealed.map AuditEvent.hash).Nodup := by
  refine HashChain.nodup_hash h.chained (fun e he => (h.hashed e he).hashValid.hash_ne_none) ?_
  intro a ha b hb hab
  have hinput := hashInputV2_eq_of_hash_eq hcf (h.hashed a ha) (h.hashed b hb) ⟨a, ha, rfl⟩
    ⟨b, hb, rfl⟩ hab
  have hfields := hashFields_eq_of_hashInputV2_eq (hmemory a ha) (hmemory b hb) hinput
  -- the predecessor is the second field hashed
  simp only [hashFields, List.cons.injEq] at hfields
  exact strBytes_map_injective hfields.2.1

/-- Of a chain that lost events, the verifier reports the first one behind the first gap. -/
theorem FreshChain.brokenAt_verifyChain_kept {l : List (AuditEvent × Bool)}
    (hl : l.map Prod.fst = sealed) (h : FreshChain X sealed) :
    brokenAt (verifyChain X (kept l)) = (firstAfterGap l).map AuditEvent.sequence := by
  subst hl
  have hvalid : ∀ e ∈ kept l, HashValid X e := by
    intro e he
    exact (h.hashed e ((kept_sublist l).subset he)).hashValid
  have hnone : none ∉ (l.map Prod.fst).map AuditEvent.hash := by
    intro hmem
    obtain ⟨e, he, hhash⟩ := List.mem_map.mp hmem
    exact (h.hashed e he).hashValid.hash_ne_none hhash
  rw [verifyChain_eq_verifyFrom, brokenAt_verifyFrom X hvalid,
    firstBreak_kept h.chained (h.nodup_hash hcf hmemory) hnone]

end CollisionFree

theorem AuditRun.store_write {r : AuditRun} (h : r.store = kept r.received) (stored : Bool)
    (result : Except StorageError Unit) :
    (r.write stored result).store = kept (r.write stored result).received := by
  unfold AuditRun.write
  split
  · rw [kept_concat, ← h]
    cases stored <;> simp
  · exact h

/-- The storage keeps what the writer task stored of what it took. -/
theorem store_eq_kept (X : HashExterns) (debugStr : String → String) (tracked : Bool)
    (actions : List AgentAction) :
    (actions.foldl (agentStep X debugStr) (AuditRun.spawn tracked)).store
      = kept (actions.foldl (agentStep X debugStr) (AuditRun.spawn tracked)).received := by
  have hspawn : (AuditRun.spawn tracked).store = kept (AuditRun.spawn tracked).received := rfl
  refine List.foldlRecOn (motive := fun r => r.store = kept r.received) actions
    (agentStep X debugStr) hspawn ?_
  intro r h a _
  cases a with
  | message m => exact h
  | write stored result => exact AuditRun.store_write h stored result

theorem eq_message_of_chainLoaded? {a : AgentAction} {msg : ChainLoaded}
    (h : a.chainLoaded? = some msg) : a = .message (.chainLoaded msg) := by
  unfold AgentAction.chainLoaded? at h
  split at h <;> simp_all

theorem chain_chainLoaded_of_empty (serviceName : String)
    {latest : Except StorageError (Option AuditEvent)}
    (hempty : ∀ event, latest ≠ .ok (some event)) :
    (chainLoaded serviceName latest).chain = AuditChain.new serviceName := by
  match latest with
  | .ok (some event) => exact absurd rfl (hempty event)
  | .ok none => rfl
  | .error e => rfl

/-- What an agent over an empty storage dispatches is a chain from its start, whether the
chain is loaded yet or not. -/
theorem freshChain_dispatched {serviceName : String}
    {latest : Except StorageError (Option AuditEvent)}
    (hempty : ∀ event, latest ≠ .ok (some event)) {actions : List AgentAction}
    (hsingle : (actions.filterMap AgentAction.chainLoaded?).Sublist
      [chainLoaded serviceName latest]) :
    FreshChain X (actions.foldl (agentStep X debugStr) (AuditRun.spawn tracked)).dispatched := by
  rcases List.sublist_singleton.mp hsingle with hnone | hone
  · have hwaiting : Waiting debugStr tracked (actions.filterMap AgentAction.event?)
        (actions.foldl (agentStep X debugStr) (AuditRun.spawn tracked)) :=
      Waiting.run (List.filterMap_eq_nil_iff.mp hnone)
    rw [AuditRun.dispatched, AuditRun.inFlight, hwaiting.received, hwaiting.writer]
    exact freshChain_nil X
  · obtain ⟨pre, a, post, rfl, hpre, ha, hpost⟩ := List.filterMap_eq_cons_iff.mp hone
    have hchain := chain_chainLoaded_of_empty serviceName hempty
    -- the one message that loads the chain stands between `pre` and `post`
    have hquiet : ∀ b ∈ pre ++ post, b.chainLoaded? = none := by
      intro b hb
      rcases List.mem_append.mp hb with hb | hb
      · exact hpre b hb
      · exact List.filterMap_eq_nil_iff.mp hpost b hb
    rw [eq_message_of_chainLoaded? ha, (sealing_run hquiet _).dispatched, hchain]
    exact freshChain_sealAll X serviceName _

/-- **Lost appends are detected exactly.**  Let an agent run over an empty storage, with
BLAKE3 free of collisions among what it seals, and let any of the appends fail.  At every
point of the run the verifier fails on what is stored exactly when a lost event precedes
a stored one, and it reports the first stored event behind the first gap.  What is
stored is ordered by sequence number as far as these count. -/
theorem verifyChain_store (X : HashExterns) (debugStr : String → String) (tracked : Bool)
    (serviceName : String) {latest : Except StorageError (Option AuditEvent)}
    (hempty : ∀ event, latest ≠ .ok (some event)) {actions : List AgentAction}
    (hsingle : (actions.filterMap AgentAction.chainLoaded?).Sublist
      [chainLoaded serviceName latest])
    (hcf : CollisionFree X.blake3
      {x | ∃ e ∈ (actions.foldl (agentStep X debugStr) (AuditRun.spawn tracked)).dispatched,
        x = hashInputV2 X.toTexts e})
    (hmemory : ∀ e ∈ (actions.foldl (agentStep X debugStr) (AuditRun.spawn tracked)).dispatched,
      e.InMemory X.toTexts) :
    let r := actions.foldl (agentStep X debugStr) (AuditRun.spawn tracked)
    (verifyChain X r.store ≠ .ok () ↔
        ∃ lost found, [(lost, false), (found, true)].Sublist r.received) ∧
      brokenAt (verifyChain X r.store) = (firstAfterGap r.received).map AuditEvent.sequence ∧
      (r.dispatched.length < 2 ^ 64 → r.store.Pairwise fun a b => a.sequence < b.sequence) := by
  intro r
  have hfresh : FreshChain X r.dispatched := freshChain_dispatched hempty hsingle
  have hstore : r.store = kept r.received := store_eq_kept X debugStr tracked actions
  -- what is still in the channel is neither stored nor lost
  have htaken : r.received.map Prod.fst ⊆ r.dispatched := List.subset_append_left _ _
  have hbroken : brokenAt (verifyChain X (kept r.received))
      = (firstAfterGap r.received).map AuditEvent.sequence :=
    FreshChain.brokenAt_verifyChain_kept
      (hcf.mono fun _ ⟨e, he, hx⟩ => ⟨e, htaken he, hx⟩) (fun e he => hmemory e (htaken he)) rfl
      hfresh.left
  rw [hstore]
  refine ⟨?_, hbroken, ?_⟩
  · rw [← firstAfterGap_ne_none_iff, Ne, ← brokenAt_eq_none_iff, hbroken, Option.map_eq_none_iff]
  · intro hlen
    have hsub : (kept r.received).Sublist r.dispatched :=
      (kept_sublist r.received).trans (List.sublist_append_left _ _)
    exact (hfresh.pairwise_sequence hlen).sublist hsub

/-- Two logins on a new chain, of which the storage loses the first. -/
def sampleActions : List AgentAction :=
  [.message (.chainLoaded (chainLoaded "billing" (.ok none))),
    .message (.auditEvent (sampleLogin (sampleTime 0) sampleMetadata)),
    .message (.auditEvent (sampleLogin (sampleTime 0) sampleMetadata)),
    .write false (.error (.internal "connection closed")), .write true (.ok ())]

theorem run_sampleActions (debugStr : String → String) :
    let r := sampleActions.foldl (agentStep sampleExterns debugStr) (AuditRun.spawn false)
    r.dispatched = [sampleFirst, sampleSecond] ∧
      r.received = [(sampleFirst, false), (sampleSecond, true)] := by
  simp only [sampleActions, List.foldl_cons, List.foldl_nil, agentStep, AuditAgentState.handle,
    AuditRun.spawn, chainLoaded, ChainLoaded.chain, Option.isNone_some, Bool.false_eq_true,
    if_false, sealAndDispatch, seal_sampleLogin, seal_sampleLogin_second, AuditRun.write,
    List.nil_append, List.cons_append, and_true]
  rfl

theorem verifyChain_store_sample :
    let r := sampleActions.foldl (agentStep sampleExterns fun s => "\"" ++ s ++ "\"")
      (AuditRun.spawn false)
    r.received = [(sampleFirst, false), (sampleSecond, true)] ∧
      verifyChain sampleExterns r.store ≠ .ok () ∧
      brokenAt (verifyChain sampleExterns r.store) = some 2 := by
  intro r
  obtain ⟨hdispatched, hreceived⟩ := run_sampleActions fun s => "\"" ++ s ++ "\""
  have hempty : ∀ event, (.ok none : Except StorageError (Option AuditEvent)) ≠ .ok (some event) :=
    by simp
  obtain ⟨hiff, hbroken, -⟩ := verifyChain_store sampleExterns (fun s => "\"" ++ s ++ "\"") false
    "billing" hempty (List.Sublist.refl _)
    (by rw [hdispatched]; exact collisionFree_sampleChain)
    (by rw [hdispatched]; exact inMemory_sampleChain)
  rw [hreceived] at hiff hbroken
  exact ⟨hreceived, hiff.mpr ⟨_, _, List.Sublist.refl _⟩, hbroken⟩

end Agent

end ActonService
