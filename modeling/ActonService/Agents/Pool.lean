import ActonService.Lib.Latch
import ActonService.Lib.Run
import Mathlib.Data.List.Nodup
import Mathlib.Data.List.Range

/-!
# The pool agents

The agents of `agents/pool.rs`.  A task that is started with the agent dials once and tells the
agent what has come of it; callers ask how the pool is, or wait until that is known.  The handlers
of the six agents differ in the name of the component alone.

A handler that may change the agent runs to its end, with the future it returns, before the next
message is handled.  The future of a handler that only reads runs on its own.  Shutdown is left
out.

## Main definitions

* `poolHealth`, `PoolState`, `PoolAgent.handle` — what an agent says of itself, and its handlers.
* `PoolSystem`, `PoolAgent.step` — the agent, its mailbox, its futures and the storage it shares.
* `PoolBarrier` — what waiting for a pool is for.

## Main results

* `latch_of_foldl` — an agent is a latch, opened by the message of the task.
* `poolBarrier_of_run` — **in every interleaving everyone who waits is answered once, with what has
  come of dialling, and is told that the pool is healthy only when it can be used.**
-/

namespace ActonService

open Latch Run

/-! ### The agent -/

/-- `HealthStatus` -/
inductive HealthStatus
  | healthy
  | degraded
  | unhealthy
  | connecting
  deriving DecidableEq, Repr

/-- `ComponentHealth` -/
structure ComponentHealth where
  name : String
  status : HealthStatus
  message : String
  deriving DecidableEq, Repr

/-- `pool_health` -/
def poolHealth (name : String) (connected connecting : Bool) (lastError : Option String) :
    ComponentHealth :=
  if connected then ⟨name, .healthy, "connected"⟩
  else if connecting then ⟨name, .connecting, "connecting"⟩
  else ⟨name, .unhealthy, lastError.getD "not connected"⟩

/-- What a caller may ask: to be told when the pool is ready, or how it is. -/
inductive PoolRequest
  | waitForPoolReady
  | getPoolHealth
  deriving DecidableEq, Repr

/-- Where the answer to a request goes. -/
structure Envelope where
  request : PoolRequest
  number : ℕ
  deriving DecidableEq, Repr

section Agent

variable {Pool : Type}

/-- The state of an agent, as far as its handlers read it. -/
structure PoolState (Pool : Type) where
  pool : Option Pool
  connecting : Bool
  /-- There is storage shared with the application. -/
  sharedPool : Bool
  lastError : Option String
  readyWaiters : List Envelope
  deriving Repr

/-- The messages of an agent: what has come of dialling, and requests. -/
inductive PoolMessage (Pool : Type)
  | connected (pool : Pool)
  | connectionFailed (error : String)
  | request (envelope : Envelope)
  deriving Repr

/-- What a future of a handler does. -/
inductive PoolEffect (Pool : Type)
  | store (pool : Pool)
  | send (envelope : Envelope) (health : ComponentHealth)
  deriving Repr

/-- The message that says what has come of dialling. -/
def PoolMessage.ofOutcome : Except String Pool → PoolMessage Pool
  | .ok pool => .connected pool
  | .error error => .connectionFailed error

/-- An agent, by the name of its component. -/
structure PoolAgent where
  component : String
  deriving DecidableEq, Repr

/-- `DatabasePoolAgent` -/
def databasePoolAgent : PoolAgent := ⟨"database"⟩

/-- `RedisPoolAgent` -/
def redisPoolAgent : PoolAgent := ⟨"cache"⟩

/-- `NatsPoolAgent` -/
def natsPoolAgent : PoolAgent := ⟨"events"⟩

/-- `TursoDbAgent` -/
def tursoDbAgent : PoolAgent := ⟨"turso"⟩

/-- `SurrealDbAgent` -/
def surrealDbAgent : PoolAgent := ⟨"surrealdb"⟩

/-- `ClickHousePoolAgent` -/
def clickHousePoolAgent : PoolAgent := ⟨"clickhouse"⟩

variable (agent : PoolAgent)

/-- The handlers: the state they leave, and what their future does. -/
def PoolAgent.handle (s : PoolState Pool) :
    PoolMessage Pool → PoolState Pool × List (PoolEffect Pool)
  | .connected pool =>
    let health := poolHealth agent.component true false none
    ({ s with pool := some pool, connecting := false, lastError := none, readyWaiters := [] },
      (if s.sharedPool then [.store pool] else [])
        ++ s.readyWaiters.map fun waiter => .send waiter health)
  | .connectionFailed error =>
    let health := poolHealth agent.component false false (some error)
    ({ s with connecting := false, lastError := some error, readyWaiters := [] },
      s.readyWaiters.map fun waiter => .send waiter health)
  | .request ⟨.waitForPoolReady, number⟩ =>
    let reply : Envelope := ⟨.waitForPoolReady, number⟩
    if s.connecting then ({ s with readyWaiters := s.readyWaiters ++ [reply] }, [])
    else (s, [.send reply (poolHealth agent.component s.pool.isSome false s.lastError)])
  | .request ⟨.getPoolHealth, number⟩ =>
    (s, [.send ⟨.getPoolHealth, number⟩
      (poolHealth agent.component s.pool.isSome s.connecting s.lastError)])

/-- The handler is registered with `act_on`: it only reads. -/
def PoolMessage.readsOnly : PoolMessage Pool → Bool
  | .request envelope => envelope.request = .getPoolHealth
  | .connected _ | .connectionFailed _ => false

/-! ### The system -/

/-- The agent and everything around it: its mailbox, the futures it has started, the shared storage
and what was sent. -/
structure PoolSystem (Pool : Type) where
  agent : PoolState Pool
  mailbox : List (PoolMessage Pool)
  /-- The messages that have been handled. -/
  handled : List (PoolMessage Pool)
  /-- What the handler under way has still to do. -/
  running : List (PoolEffect Pool)
  /-- The futures of handlers that only read. -/
  reading : List (List (PoolEffect Pool))
  /-- What the shared storage holds. -/
  storage : Option Pool
  sent : List (Envelope × ComponentHealth)
  /-- The task has not told yet what has come of dialling. -/
  dialling : Bool
  /-- The number of requests there have been. -/
  requests : ℕ

/-- What happens next: a caller sends a request, the task that connects tells its outcome, the agent
takes a message, the handler under way goes on, or a handler that only reads runs. -/
inductive PoolAction (Pool : Type)
  /-- A caller sends a request. -/
  | ask (request : PoolRequest)
  /-- The task sends what has come of dialling. -/
  | report (outcome : Except String Pool)
  /-- The agent takes the next message. -/
  | handle
  /-- The handler under way does the next thing. -/
  | run
  /-- A future of a handler that only reads runs. -/
  | read (n : ℕ)

namespace PoolSystem

/-- An agent as it is spawned, with storage to share or without. -/
def spawn (sharedPool : Bool) : PoolSystem Pool where
  agent := ⟨none, true, sharedPool, none, []⟩
  mailbox := []
  handled := []
  running := []
  reading := []
  storage := none
  sent := []
  dialling := true
  requests := 0

/-- Something a future of a handler does: to put the pool into the shared storage, or to send an
answer. -/
def perform (s : PoolSystem Pool) : PoolEffect Pool → PoolSystem Pool
  | .store pool => { s with storage := some pool }
  | .send envelope health => { s with sent := s.sent ++ [(envelope, health)] }

end PoolSystem

/-- One action, if it can be taken. -/
def PoolAgent.step (s : PoolSystem Pool) : PoolAction Pool → PoolSystem Pool
  | .ask request =>
    { s with
      mailbox := s.mailbox ++ [.request ⟨request, s.requests⟩]
      requests := s.requests + 1 }
  | .report outcome =>
    if s.dialling then
      { s with mailbox := s.mailbox ++ [.ofOutcome outcome], dialling := false }
    else s
  | .handle =>
    match s.running, s.mailbox with
    | [], message :: rest =>
      let (state, effects) := agent.handle s.agent message
      let s := { s with agent := state, mailbox := rest, handled := s.handled ++ [message] }
      if message.readsOnly then { s with reading := s.reading ++ [effects] }
      else { s with running := effects }
    | _, _ => s
  | .run =>
    match s.running with
    | [] => s
    | effect :: rest => { s with running := rest }.perform effect
  | .read n =>
    match s.reading[n]? with
    | some effects => effects.foldl PoolSystem.perform { s with reading := s.reading.eraseIdx n }
    | none => s

/-! ### The agent as a latch -/

/-- What a message is to the latch. -/
def PoolMessage.event? : PoolMessage Pool → Option (Event Envelope (Except String Pool))
  | .connected pool => some (.settle (.ok pool))
  | .connectionFailed error => some (.settle (.error error))
  | .request ⟨.waitForPoolReady, number⟩ => some (.wait ⟨.waitForPoolReady, number⟩)
  | .request ⟨.getPoolHealth, _⟩ => none

/-- The events of a list of messages. -/
def poolEvents (messages : List (PoolMessage Pool)) : List (Event Envelope (Except String Pool)) :=
  messages.filterMap PoolMessage.event?

/-- The latch after a list of messages. -/
def latchAfter (messages : List (PoolMessage Pool)) : State Envelope (Except String Pool) :=
  (poolEvents messages).foldl State.step .closed

/-- The outcomes among these messages, in the order in which the task that connects has sent them.
-/
def poolOutcomes (messages : List (PoolMessage Pool)) : List (Except String Pool) :=
  outcomes (poolEvents messages)

/-- The callers that wait, among messages. -/
def poolWaits (messages : List (PoolMessage Pool)) : List Envelope := waits (poolEvents messages)

/-- How a pool is once its task has told. -/
def PoolAgent.healthOf : Except String Pool → ComponentHealth
  | .ok _ => ⟨agent.component, .healthy, "connected"⟩
  | .error error => ⟨agent.component, .unhealthy, error⟩

/-- The state of the agent that belongs to a latch: the outcome as a pool or an error, and the
parked requests. -/
def PoolState.ofLatch (sharedPool : Bool) (latch : State Envelope (Except String Pool)) :
    PoolState Pool where
  pool := latch.outcome.bind Except.toOption
  connecting := latch.outcome.isNone
  sharedPool := sharedPool
  lastError := latch.outcome.bind fun outcome =>
    match outcome with
    | .ok _ => none
    | .error error => some error
  readyWaiters := latch.parked

/-- What is sent, among what futures do. -/
def PoolEffect.sent? : PoolEffect Pool → Option (Envelope × ComponentHealth)
  | .store _ => none
  | .send envelope health => some (envelope, health)

/-- The answers to callers that wait. -/
def waiterAnswers (sent : List (Envelope × ComponentHealth)) : List (Envelope × ComponentHealth) :=
  sent.filter fun answer => answer.1.request = .waitForPoolReady

/-- The answers the handler under way has still to send. -/
def PoolSystem.due (s : PoolSystem Pool) : List (Envelope × ComponentHealth) :=
  s.running.filterMap PoolEffect.sent?

@[simp] theorem poolEvents_append (messages messages' : List (PoolMessage Pool)) :
    poolEvents (messages ++ messages') = poolEvents messages ++ poolEvents messages' :=
  List.filterMap_append

theorem latchAfter_closed {messages : List (PoolMessage Pool)} (h : poolOutcomes messages = []) :
    latchAfter messages = ⟨none, poolWaits messages, []⟩ :=
  foldl_step_closed h

theorem latchAfter_opened {messages : List (PoolMessage Pool)} {outcome : Except String Pool}
    (h : poolOutcomes messages = [outcome]) :
    latchAfter messages = ⟨some outcome, [], (poolWaits messages).map (·, outcome)⟩ :=
  foldl_step_opened h

theorem latchAfter_concat (messages : List (PoolMessage Pool)) (message : PoolMessage Pool) :
    latchAfter (messages ++ [message])
      = (message.event?.elim (latchAfter messages) (latchAfter messages).step) := by
  rw [latchAfter, poolEvents_append, List.foldl_append]
  cases hevent : message.event? <;> simp [poolEvents, hevent, latchAfter]

theorem request_of_mem_poolWaits {messages : List (PoolMessage Pool)} {envelope : Envelope}
    (h : envelope ∈ poolWaits messages) : envelope.request = .waitForPoolReady := by
  obtain ⟨event, hevent, hwaiter⟩ := List.mem_filterMap.mp h
  obtain ⟨message, -, hmessage⟩ := List.mem_filterMap.mp hevent
  unfold PoolMessage.event? at hmessage
  split at hmessage
  · cases hmessage; cases hwaiter
  · cases hmessage; cases hwaiter
  · cases hmessage; cases hwaiter; rfl
  · cases hmessage

/-- The answers to callers that wait are what is sent to them. -/
theorem waiterAnswers_map {waiters : List Envelope}
    (h : ∀ waiter ∈ waiters, waiter.request = .waitForPoolReady) (health : ComponentHealth) :
    waiterAnswers (waiters.map fun waiter => (waiter, health))
      = waiters.map fun waiter => (waiter, health) := by
  rw [waiterAnswers, List.filter_eq_self]
  intro answer hanswer
  obtain ⟨waiter, hwaiter, rfl⟩ := List.mem_map.mp hanswer
  exact decide_eq_true (h waiter hwaiter)

theorem filterMap_sent_map (waiters : List Envelope) (health : ComponentHealth) :
    (waiters.map fun waiter => (.send waiter health : PoolEffect Pool)).filterMap PoolEffect.sent?
      = waiters.map fun waiter => (waiter, health) := by
  rw [List.filterMap_map]
  exact congrFun List.filterMap_eq_map' waiters

/-- **The handlers step the latch**: the agent is that of the next latch, and its future answers
whom the latch answers. -/
theorem handle_ofLatch (sharedPool : Bool) {latch : State Envelope (Except String Pool)}
    {message : PoolMessage Pool}
    (hparked : ∀ waiter ∈ latch.parked, waiter.request = .waitForPoolReady)
    (honce : ∀ outcome, message.event? = some (.settle outcome) → latch.outcome = none) :
    let handled := agent.handle (.ofLatch sharedPool latch) message
    let next := message.event?.elim latch latch.step
    handled.1 = .ofLatch sharedPool next ∧
      ∃ new, next.answered = latch.answered ++ new ∧
        waiterAnswers (handled.2.filterMap PoolEffect.sent?)
          = new.map (Prod.map id agent.healthOf) := by
  obtain ⟨outcome, parked, answered⟩ := latch
  cases message with
  -- the two that settle the outcome answer everyone who is parked
  | connected pool =>
    obtain rfl : outcome = none := honce _ rfl
    refine ⟨rfl, _, rfl, ?_⟩
    have hstore : (if sharedPool then [(.store pool : PoolEffect Pool)] else []).filterMap
        PoolEffect.sent? = [] := by
      cases sharedPool <;> rfl
    show waiterAnswers (List.filterMap _ (_ ++ List.map _ parked)) = _
    rw [List.filterMap_append, PoolState.ofLatch, hstore, List.nil_append, filterMap_sent_map,
      waiterAnswers_map hparked, List.map_map]
    rfl
  | connectionFailed error =>
    obtain rfl : outcome = none := honce _ rfl
    refine ⟨rfl, _, rfl, ?_⟩
    show waiterAnswers (List.filterMap _ (List.map _ parked)) = _
    rw [filterMap_sent_map, waiterAnswers_map hparked, List.map_map]
    rfl
  -- a request is parked while nothing is settled, and answered at once afterwards
  | request envelope =>
    obtain ⟨request, number⟩ := envelope
    cases request with
    | getPoolHealth => exact ⟨rfl, [], (List.append_nil _).symm, rfl⟩
    | waitForPoolReady =>
      cases outcome with
      | none => exact ⟨rfl, [], (List.append_nil _).symm, rfl⟩
      | some outcome =>
        refine ⟨rfl, _, rfl, ?_⟩
        cases outcome <;> rfl

/-- What a handler does with the shared storage. -/
theorem handle_stores (state : PoolState Pool) (message : PoolMessage Pool) :
    (∀ pool, .store pool ∈ (agent.handle state message).2 → message = .connected pool) ∧
      ∀ pool, message = .connected pool → state.sharedPool = true →
        (agent.handle state message).2.head? = some (.store pool) := by
  cases message with
  | connected pool =>
    refine ⟨fun pool' h => ?_, ?_⟩
    · simp only [PoolAgent.handle, List.mem_append, List.mem_map, reduceCtorEq, and_false,
        exists_false, or_false] at h
      split at h
      · rw [List.mem_singleton, PoolEffect.store.injEq] at h
        rw [h]
      · exact absurd h (List.not_mem_nil)
    · rintro pool' hpool hshared
      cases hpool
      simp [PoolAgent.handle, hshared]
  | connectionFailed error => exact ⟨by simp [PoolAgent.handle], by simp⟩
  | request envelope =>
    refine ⟨fun pool h => ?_, by simp⟩
    obtain ⟨request, number⟩ := envelope
    cases request with
    | getPoolHealth => simp [PoolAgent.handle] at h
    | waitForPoolReady =>
      simp only [PoolAgent.handle] at h
      split at h <;> simp at h

/-! ### The invariant -/

/-- The number of a request. -/
def PoolMessage.number? : PoolMessage Pool → Option ℕ
  | .request envelope => some envelope.number
  | .connected _ | .connectionFailed _ => none

/-- The invariant: there is one outcome at most, and the state, the answers and the storage are
those of a latch that this outcome opens. -/
structure PoolInv (sharedPool : Bool) (s : PoolSystem Pool) : Prop where
  once : (poolOutcomes (s.handled ++ s.mailbox)).length = if s.dialling then 0 else 1
  numbers : (s.handled ++ s.mailbox).filterMap PoolMessage.number? = List.range s.requests
  state : s.agent = .ofLatch sharedPool (latchAfter s.handled)
  answers : waiterAnswers (s.sent ++ s.due)
    = (latchAfter s.handled).answered.map (Prod.map id agent.healthOf)
  reading : ∀ effects ∈ s.reading, ∃ number health,
    effects = [.send ⟨.getPoolHealth, number⟩ health]
  stores : ∀ pool, .store pool ∈ s.running → poolOutcomes s.handled = [.ok pool]
  usable : sharedPool = true → ∀ pool, poolOutcomes s.handled = [.ok pool] →
    s.storage = some pool ∨ s.running.head? = some (.store pool) ∧ waiterAnswers s.sent = []

@[simp] theorem poolOutcomes_append (messages messages' : List (PoolMessage Pool)) :
    poolOutcomes (messages ++ messages') = poolOutcomes messages ++ poolOutcomes messages' := by
  rw [poolOutcomes, poolEvents_append, outcomes_append]
  rfl

@[simp] theorem poolWaits_append (messages messages' : List (PoolMessage Pool)) :
    poolWaits (messages ++ messages') = poolWaits messages ++ poolWaits messages' := by
  rw [poolWaits, poolEvents_append, waits_append]
  rfl

@[simp] theorem poolOutcomes_request (envelope : Envelope) :
    poolOutcomes [(.request envelope : PoolMessage Pool)] = [] := by
  obtain ⟨request, number⟩ := envelope
  cases request <;> rfl

@[simp] theorem poolOutcomes_ofOutcome (outcome : Except String Pool) :
    poolOutcomes [.ofOutcome outcome] = [outcome] := by
  cases outcome <;> rfl

@[simp] theorem waiterAnswers_append (sent sent' : List (Envelope × ComponentHealth)) :
    waiterAnswers (sent ++ sent') = waiterAnswers sent ++ waiterAnswers sent' :=
  List.filter_append _ _

/-- A message opens the latch, or it is a request. -/
theorem PoolMessage.cases_outcome (message : PoolMessage Pool) :
    (∃ outcome, message = .ofOutcome outcome) ∨ poolOutcomes [message] = [] := by
  cases message with
  | connected pool => exact .inl ⟨.ok pool, rfl⟩
  | connectionFailed error => exact .inl ⟨.error error, rfl⟩
  | request envelope => exact .inr (poolOutcomes_request envelope)

theorem poolInv_spawn (sharedPool : Bool) :
    PoolInv agent sharedPool (.spawn sharedPool : PoolSystem Pool) where
  once := rfl
  numbers := rfl
  state := rfl
  answers := rfl
  reading := by simp [PoolSystem.spawn]
  stores := by simp [PoolSystem.spawn]
  usable := by simp [PoolSystem.spawn, poolOutcomes, poolEvents, outcomes]

variable {agent} {sharedPool : Bool} {s : PoolSystem Pool}

theorem PoolInv.ask (h : PoolInv agent sharedPool s) (request : PoolRequest) :
    PoolInv agent sharedPool (agent.step s (.ask request)) where
  once := by
    show (poolOutcomes (s.handled ++ (s.mailbox ++ [_]))).length = _
    rw [← List.append_assoc, poolOutcomes_append, poolOutcomes_request, List.append_nil]
    exact h.once
  numbers := by
    show List.filterMap _ (s.handled ++ (s.mailbox ++ [_])) = List.range (s.requests + 1)
    rw [← List.append_assoc, List.filterMap_append, h.numbers, List.range_succ]
    rfl
  state := h.state
  answers := h.answers
  reading := h.reading
  stores := h.stores
  usable := h.usable

theorem PoolInv.report (h : PoolInv agent sharedPool s) (outcome : Except String Pool) :
    PoolInv agent sharedPool (agent.step s (.report outcome)) := by
  simp only [PoolAgent.step]
  split
  · next hdialling =>
    refine ⟨?_, ?_, h.state, h.answers, h.reading, h.stores, h.usable⟩
    · have honce := h.once
      rw [if_pos hdialling] at honce
      show (poolOutcomes (s.handled ++ (s.mailbox ++ [_]))).length = _
      rw [← List.append_assoc, poolOutcomes_append, poolOutcomes_ofOutcome, List.length_append,
        honce]
      rfl
    · show List.filterMap _ (s.handled ++ (s.mailbox ++ [_])) = _
      rw [← List.append_assoc, List.filterMap_append, h.numbers]
      cases outcome <;> exact List.append_nil _
  · exact h

/-- Nothing is settled before the message that settles it is handled. -/
theorem PoolInv.unsettled (h : PoolInv agent sharedPool s) (outcome : Except String Pool)
    {rest : List (PoolMessage Pool)} (hmail : s.mailbox = .ofOutcome outcome :: rest) :
    poolOutcomes s.handled = [] := by
  have honce := h.once
  rw [hmail, ← List.singleton_append, poolOutcomes_append, poolOutcomes_append,
    poolOutcomes_ofOutcome, List.length_append, List.length_append, List.length_singleton] at honce
  apply List.eq_nil_of_length_eq_zero
  split at honce <;> omega

/-- A healthy pool is stored, unless that is what is done next. -/
theorem PoolInv.stored (h : PoolInv agent sharedPool s) (hshared : sharedPool = true) {pool : Pool}
    (hnext : s.running.head? ≠ some (.store pool))
    (houtcome : poolOutcomes s.handled = [.ok pool]) : s.storage = some pool := by
  rcases h.usable hshared pool houtcome with hstored | ⟨hhead, -⟩
  · exact hstored
  · exact absurd hhead hnext

/-- What handling a message does to the agent, to the answers and to the storage. -/
theorem PoolInv.handled (h : PoolInv agent sharedPool s) {message : PoolMessage Pool}
    {rest : List (PoolMessage Pool)} (hmail : s.mailbox = message :: rest)
    (hrunning : s.running = []) :
    let handled := agent.handle s.agent message
    handled.1 = .ofLatch sharedPool (latchAfter (s.handled ++ [message])) ∧
      waiterAnswers (s.sent ++ handled.2.filterMap PoolEffect.sent?)
        = (latchAfter (s.handled ++ [message])).answered.map (Prod.map id agent.healthOf) := by
  have hparked : ∀ waiter ∈ (latchAfter s.handled).parked,
      waiter.request = .waitForPoolReady := by
    intro waiter hwaiter
    have hlength : (poolOutcomes s.handled).length ≤ 1 := by
      have honce := h.once
      rw [poolOutcomes_append, List.length_append] at honce
      split at honce <;> omega
    match houtcomes : poolOutcomes s.handled, hlength with
    | [], _ =>
      rw [latchAfter_closed houtcomes] at hwaiter
      exact request_of_mem_poolWaits hwaiter
    | [outcome], _ =>
      rw [latchAfter_opened houtcomes] at hwaiter
      exact absurd hwaiter List.not_mem_nil
  have honce : ∀ outcome, message.event? = some (.settle outcome) →
      (latchAfter s.handled).outcome = none := by
    intro outcome hevent
    rcases message.cases_outcome with ⟨outcome', rfl⟩ | hnone
    · rw [latchAfter_closed (h.unsettled outcome' hmail)]
    · rw [poolOutcomes, poolEvents, List.filterMap_cons_some hevent] at hnone
      exact absurd hnone (List.cons_ne_nil _ _)
  obtain ⟨hstate, new, hnext, hnew⟩ := handle_ofLatch agent sharedPool hparked honce
  have hsent : waiterAnswers s.sent
      = (latchAfter s.handled).answered.map (Prod.map id agent.healthOf) := by
    have hanswers := h.answers
    rw [PoolSystem.due, hrunning, List.filterMap_nil, List.append_nil] at hanswers
    exact hanswers
  rw [h.state, latchAfter_concat]
  refine ⟨hstate, ?_⟩
  rw [waiterAnswers_append, hsent, hnew, hnext, List.map_append]

/-- A request to see how the pool is gets one answer and leaves the agent as it is. -/
theorem handle_readsOnly (agent : PoolAgent) (state : PoolState Pool) {message : PoolMessage Pool}
    (h : message.readsOnly = true) :
    ∃ number health,
      agent.handle state message = (state, [.send ⟨.getPoolHealth, number⟩ health]) := by
  cases message with
  | connected pool => cases h
  | connectionFailed error => cases h
  | request envelope =>
    obtain ⟨request, number⟩ := envelope
    cases request with
    | waitForPoolReady => cases h
    | getPoolHealth => exact ⟨number, _, rfl⟩

theorem poolOutcomes_readsOnly {message : PoolMessage Pool} (h : message.readsOnly = true) :
    poolOutcomes [message] = [] := by
  cases message with
  | connected pool => cases h
  | connectionFailed error => cases h
  | request envelope => exact poolOutcomes_request envelope

theorem PoolInv.handle (h : PoolInv agent sharedPool s) :
    PoolInv agent sharedPool (agent.step s .handle) := by
  match hrunning : s.running, hmail : s.mailbox with
  | [], [] => simpa [PoolAgent.step, hrunning, hmail] using h
  | effect :: rest, _ => simpa [PoolAgent.step, hrunning, hmail] using h
  | [], message :: rest =>
    -- the message moves from the mailbox to what was handled
    have hlist : s.handled ++ s.mailbox = s.handled ++ [message] ++ rest := by
      rw [hmail, List.append_assoc, List.singleton_append]
    have honce := h.once
    have hnumbers := h.numbers
    rw [hlist] at honce hnumbers
    -- the state and the answers are those of the first outcome
    obtain ⟨hstate, hanswers⟩ := h.handled hmail hrunning
    simp only [PoolAgent.step, hrunning, hmail]
    split
    · next hreads =>
      -- the future runs on its own, and sends nothing to a caller that waits
      obtain ⟨number, health, hhandle⟩ := handle_readsOnly agent s.agent hreads
      have houtcomes : poolOutcomes (s.handled ++ [message]) = poolOutcomes s.handled := by
        rw [poolOutcomes_append, poolOutcomes_readsOnly hreads, List.append_nil]
      refine ⟨honce, hnumbers, hstate, ?_, ?_, by simp, ?_⟩
      · rw [hhandle, waiterAnswers_append] at hanswers
        show waiterAnswers (s.sent ++ []) = _
        rw [waiterAnswers_append]
        exact hanswers
      · intro effects heffects
        rcases List.mem_append.mp heffects with hold | hnew
        · exact h.reading effects hold
        · rw [List.mem_singleton] at hnew
          exact ⟨number, health, by rw [hnew, hhandle]⟩
      · intro hshared pool houtcome
        rw [houtcomes] at houtcome
        exact .inl (h.stored hshared (by simp [hrunning]) houtcome)
    · -- the handler's future has effects of its own, which are still to come
      refine ⟨honce, hnumbers, hstate, hanswers, h.reading, ?_, ?_⟩
      · intro pool hpool
        obtain rfl := (handle_stores agent s.agent message).1 pool hpool
        rw [poolOutcomes_append, h.unsettled (.ok pool) hmail]
        rfl
      · intro hshared pool houtcome
        rw [poolOutcomes_append] at houtcome
        rcases message.cases_outcome with ⟨outcome, rfl⟩ | hnone
        · -- the storage is what the future of this handler sets first
          have hunsettled := h.unsettled outcome hmail
          rw [hunsettled, poolOutcomes_ofOutcome, List.nil_append] at houtcome
          obtain rfl : outcome = .ok pool := List.singleton_injective houtcome
          refine .inr ⟨(handle_stores agent s.agent _).2 pool rfl ?_, ?_⟩
          · rw [h.state]
            exact hshared
          · have hsent := h.answers
            rw [latchAfter_closed hunsettled, PoolSystem.due, hrunning] at hsent
            simpa using hsent
        · rw [hnone, List.append_nil] at houtcome
          exact .inl (h.stored hshared (by simp [hrunning]) houtcome)

theorem PoolInv.run (h : PoolInv agent sharedPool s) :
    PoolInv agent sharedPool (agent.step s .run) := by
  match hrunning : s.running with
  | [] => simpa [PoolAgent.step, hrunning] using h
  | .store pool :: rest =>
    have houtcome := h.stores pool (by rw [hrunning]; exact List.mem_cons_self)
    have hstep : agent.step s .run = { s with running := rest, storage := some pool } := by
      simp [PoolAgent.step, hrunning, PoolSystem.perform]
    rw [hstep]
    refine ⟨h.once, h.numbers, h.state, ?_, h.reading, ?_, ?_⟩
    · have hanswers := h.answers
      rw [PoolSystem.due, hrunning] at hanswers
      exact hanswers
    · intro pool' hpool'
      exact h.stores pool' (by rw [hrunning]; exact List.mem_cons_of_mem _ hpool')
    · intro hshared pool' houtcome'
      have hsame : Except.ok pool = Except.ok pool' :=
        List.singleton_injective (houtcome.symm.trans houtcome')
      exact .inl (congrArg some (Except.ok.inj hsame))
  | .send envelope health :: rest =>
    have hstep : agent.step s .run
        = { s with running := rest, sent := s.sent ++ [(envelope, health)] } := by
      simp [PoolAgent.step, hrunning, PoolSystem.perform]
    rw [hstep]
    refine ⟨h.once, h.numbers, h.state, ?_, h.reading, ?_, ?_⟩
    · have hanswers := h.answers
      rw [PoolSystem.due, hrunning] at hanswers
      show waiterAnswers (s.sent ++ [(envelope, health)] ++ rest.filterMap PoolEffect.sent?) = _
      rw [List.append_assoc]
      exact hanswers
    · intro pool hpool
      exact h.stores pool (by rw [hrunning]; exact List.mem_cons_of_mem _ hpool)
    · intro hshared pool houtcome
      exact .inl (h.stored hshared (by simp [hrunning]) houtcome)

theorem PoolInv.read (h : PoolInv agent sharedPool s) (n : ℕ) :
    PoolInv agent sharedPool (agent.step s (.read n)) := by
  simp only [PoolAgent.step]
  split
  · next effects heffects =>
    obtain ⟨number, health, rfl⟩ := h.reading effects (List.mem_of_getElem? heffects)
    have hquiet : waiterAnswers [(⟨.getPoolHealth, number⟩, health)] = [] := rfl
    refine ⟨h.once, h.numbers, h.state, ?_, ?_, h.stores, ?_⟩
    · have hanswers := h.answers
      rw [waiterAnswers_append] at hanswers
      show waiterAnswers (s.sent ++ [(⟨.getPoolHealth, number⟩, health)] ++ s.due) = _
      rw [waiterAnswers_append, waiterAnswers_append, hquiet, List.append_nil]
      exact hanswers
    · intro effects hmem
      exact h.reading effects (List.mem_of_mem_eraseIdx hmem)
    · intro hshared pool houtcome
      rcases h.usable hshared pool houtcome with hstored | ⟨hhead, hsent⟩
      · exact .inl hstored
      · refine .inr ⟨hhead, ?_⟩
        show waiterAnswers (s.sent ++ [(⟨.getPoolHealth, number⟩, health)]) = []
        rw [waiterAnswers_append, hquiet, hsent]
        rfl
  · exact h

/-- **Every action keeps the invariant.** -/
theorem PoolInv.step (h : PoolInv agent sharedPool s) (action : PoolAction Pool) :
    PoolInv agent sharedPool (agent.step s action) := by
  cases action with
  | ask request => exact h.ask request
  | report outcome => exact h.report outcome
  | handle => exact h.handle
  | run => exact h.run
  | read n => exact h.read n

/-! ### The barrier -/

/-- What a caller that waits is told, given what has come of dialling. -/
structure AgreesWith (outcome : Except String Pool) (health : ComponentHealth) : Prop where
  ne_connecting : health.status ≠ .connecting
  healthy_iff : health.status = .healthy ↔ ∃ pool, outcome = .ok pool
  unhealthy : ∀ error, outcome = .error error →
    health.status = .unhealthy ∧ health.message = error

/-- What waiting for a pool is for.  The callers that wait are those whose message has been
handled. -/
structure PoolBarrier (agent : PoolAgent) (sharedPool : Bool) (s : PoolSystem Pool) : Prop where
  /-- The task tells once. -/
  once : (poolOutcomes s.handled).length ≤ 1
  /-- Until it has told, everyone who waits is parked, and is sent nothing. -/
  parked : poolOutcomes s.handled = [] → s.agent.readyWaiters = poolWaits s.handled ∧
    ∀ waiter ∈ poolWaits s.handled, ∀ health, (waiter, health) ∉ s.sent
  /-- From then on nobody is parked, and everyone is sent one answer: it was sent, or the handler
  under way is going to. -/
  answered : ∀ outcome ∈ poolOutcomes s.handled, s.agent.readyWaiters = [] ∧
    ∀ waiter ∈ poolWaits s.handled, ∃ health, AgreesWith outcome health ∧
      (s.sent ++ s.due).filter (fun answer => answer.1 = waiter) = [(waiter, health)]
  /-- The handler under way comes to its end, and has then sent what it was going to. -/
  sends : let ended := (List.replicate s.running.length .run).foldl agent.step s
    ended.running = [] ∧ ended.handled = s.handled ∧ ended.sent = s.sent ++ s.due
  /-- A caller is told that the pool is healthy only when the shared storage holds it. -/
  usable : sharedPool = true → ∀ waiter ∈ poolWaits s.handled, ∀ health,
    (waiter, health) ∈ s.sent → health.status = .healthy →
      ∃ pool, poolOutcomes s.handled = [.ok pool] ∧ s.storage = some pool

theorem agreesWith_healthOf (agent : PoolAgent) (outcome : Except String Pool) :
    AgreesWith outcome (agent.healthOf outcome) := by
  cases outcome with
  | ok pool => exact ⟨by simp [PoolAgent.healthOf], by simp [PoolAgent.healthOf], by simp⟩
  | error error => exact ⟨by simp [PoolAgent.healthOf], by simp [PoolAgent.healthOf],
      by simp [PoolAgent.healthOf]⟩

theorem PoolInv.length_outcomes_le (h : PoolInv agent sharedPool s) :
    (poolOutcomes s.handled).length ≤ 1 := by
  have honce := h.once
  rw [poolOutcomes_append, List.length_append] at honce
  split at honce <;> omega

theorem poolWaits_numbers_sublist (messages : List (PoolMessage Pool)) :
    ((poolWaits messages).map Envelope.number).Sublist
      (messages.filterMap PoolMessage.number?) := by
  induction messages with
  | nil => exact .refl _
  | cons message messages ih =>
    have hcons : poolWaits (message :: messages) = poolWaits [message] ++ poolWaits messages :=
      poolWaits_append [message] messages
    have hnumbers : (message :: messages).filterMap PoolMessage.number?
        = [message].filterMap PoolMessage.number? ++ messages.filterMap PoolMessage.number? :=
      List.filterMap_append (l := [message])
    rw [hcons, hnumbers, List.map_append]
    refine List.Sublist.append ?_ ih
    match message with
    | .connected _ => exact .refl _
    | .connectionFailed _ => exact .refl _
    | .request ⟨.waitForPoolReady, _⟩ => exact .refl _
    | .request ⟨.getPoolHealth, _⟩ => exact List.nil_sublist _

/-- Every caller has an envelope of its own. -/
theorem PoolInv.nodup_waits (h : PoolInv agent sharedPool s) : (poolWaits s.handled).Nodup := by
  have hnumbers := h.numbers
  rw [List.filterMap_append] at hnumbers
  have hrange : (s.handled.filterMap PoolMessage.number?).Nodup :=
    (hnumbers ▸ List.nodup_range).sublist (List.sublist_append_left _ _)
  exact List.Nodup.of_map _ (hrange.sublist (poolWaits_numbers_sublist s.handled))

/-- The one answer to a caller, among answers to callers that differ. -/
theorem filter_map_nodup {waiters : List Envelope} (h : waiters.Nodup) {waiter : Envelope}
    (hmem : waiter ∈ waiters) (health : ComponentHealth) :
    (waiters.map (·, health)).filter (fun answer => answer.1 = waiter) = [(waiter, health)] := by
  have hone : waiters.filter (fun w => w = waiter) = [waiter] := by
    rw [List.filter_eq, List.count_eq_one_of_mem h hmem]
    rfl
  have hfst : (fun answer : Envelope × ComponentHealth => decide (answer.1 = waiter))
      ∘ (fun w => (w, health)) = fun w => decide (w = waiter) := rfl
  rw [List.filter_map, hfst, hone]
  rfl

theorem PoolInv.answered (h : PoolInv agent sharedPool s) {outcome : Except String Pool}
    (houtcome : poolOutcomes s.handled = [outcome]) {waiter : Envelope}
    (hwaiter : waiter ∈ poolWaits s.handled) :
    (s.sent ++ s.due).filter (fun answer => answer.1 = waiter)
      = [(waiter, agent.healthOf outcome)] := by
  have hanswers := h.answers
  rw [latchAfter_opened houtcome, List.map_map] at hanswers
  have honly : (s.sent ++ s.due).filter (fun answer => answer.1 = waiter)
      = (waiterAnswers (s.sent ++ s.due)).filter (fun answer => answer.1 = waiter) := by
    rw [waiterAnswers, List.filter_filter]
    apply List.filter_congr
    rintro ⟨envelope, health⟩ -
    by_cases heq : envelope = waiter
    · simp [heq, request_of_mem_poolWaits hwaiter]
    · simp [heq]
  rw [honly, hanswers]
  exact filter_map_nodup h.nodup_waits hwaiter _

/-- The future of a handler runs to its end. -/
theorem foldl_run (s : PoolSystem Pool) :
    let ended := (List.replicate s.running.length .run).foldl agent.step s
    ended.running = [] ∧ ended.handled = s.handled ∧ ended.sent = s.sent ++ s.due := by
  match hrunning : s.running with
  | [] => exact ⟨hrunning, rfl, by simp [PoolSystem.due, hrunning]⟩
  | effect :: rest =>
    rw [List.length_cons, List.replicate_succ, List.foldl_cons]
    have hstep : agent.step s .run = PoolSystem.perform { s with running := rest } effect := by
      simp [PoolAgent.step, hrunning]
    have hrest : (agent.step s .run).running = rest ∧ (agent.step s .run).handled = s.handled ∧
        (agent.step s .run).sent = s.sent ++ [effect].filterMap PoolEffect.sent? := by
      rw [hstep]
      cases effect with
      | store pool => exact ⟨rfl, rfl, (List.append_nil _).symm⟩
      | send envelope health => exact ⟨rfl, rfl, rfl⟩
    obtain ⟨hended, hhandled, hsent⟩ := foldl_run (agent.step s .run)
    rw [hrest.1] at hended hhandled hsent
    refine ⟨hended, hhandled.trans hrest.2.1, hsent.trans ?_⟩
    rw [hrest.2.2, PoolSystem.due, PoolSystem.due, hrest.1, hrunning, List.append_assoc,
      ← List.filterMap_append]
    rfl
termination_by s.running.length
decreasing_by
  simp only [PoolAgent.step, hrunning]
  cases effect <;> simp [PoolSystem.perform]

theorem PoolInv.barrier (h : PoolInv agent sharedPool s) : PoolBarrier agent sharedPool s where
  once := h.length_outcomes_le
  -- while nothing is settled, no one who waits has been answered
  parked hnone := by
    have hlatch := latchAfter_closed hnone
    refine ⟨by rw [h.state, hlatch]; rfl, fun waiter hwaiter health hsent => ?_⟩
    have hanswer : (waiter, health) ∈ waiterAnswers (s.sent ++ s.due) :=
      List.mem_filter.mpr ⟨List.mem_append_left _ hsent,
        decide_eq_true (request_of_mem_poolWaits hwaiter)⟩
    rw [h.answers, hlatch] at hanswer
    exact absurd hanswer List.not_mem_nil
  -- there is one outcome, and it is the answer everyone gets who has waited
  answered outcome hmem := by
    have houtcome : poolOutcomes s.handled = [outcome] := by
      obtain ⟨other, hother⟩ := List.length_eq_one_iff.mp
        (le_antisymm h.length_outcomes_le (List.length_pos_of_mem hmem))
      rw [hother, List.mem_singleton] at hmem
      rw [hother, hmem]
    refine ⟨by rw [h.state, latchAfter_opened houtcome]; rfl, fun waiter hwaiter => ?_⟩
    exact ⟨_, agreesWith_healthOf agent outcome, h.answered houtcome hwaiter⟩
  sends := foldl_run s
  -- a healthy answer is sent behind the effect that stores the pool
  usable hshared waiter hwaiter health hsent hhealthy := by
    have hanswer : (waiter, health) ∈ waiterAnswers s.sent :=
      List.mem_filter.mpr ⟨hsent, decide_eq_true (request_of_mem_poolWaits hwaiter)⟩
    match houtcomes : poolOutcomes s.handled, h.length_outcomes_le with
    | [], _ =>
      have hanswers := h.answers
      rw [latchAfter_closed houtcomes, waiterAnswers_append] at hanswers
      rw [(List.append_eq_nil_iff.mp hanswers).1] at hanswer
      exact absurd hanswer List.not_mem_nil
    | [outcome], _ =>
      have hone : (waiter, health) ∈ [(waiter, agent.healthOf outcome)] := by
        rw [← h.answered houtcomes hwaiter]
        exact List.mem_filter.mpr ⟨List.mem_append_left _ hsent, decide_eq_true rfl⟩
      obtain rfl : health = agent.healthOf outcome :=
        congrArg Prod.snd (List.mem_singleton.mp hone)
      obtain ⟨pool, rfl⟩ := (agreesWith_healthOf agent outcome).healthy_iff.mp hhealthy
      refine ⟨pool, rfl, ?_⟩
      rcases h.usable hshared pool houtcomes with hstored | ⟨-, hnothing⟩
      · exact hstored
      · rw [hnothing] at hanswer
        exact absurd hanswer List.not_mem_nil

/-- **Waiting for a pool is a barrier.**  Whatever the order in which requests come in, the task
tells, messages are handled and futures run: everyone who waits is answered once, when the task
has told, in agreement with what it told, and is told that the pool is healthy only when the
shared storage holds it. -/
theorem poolBarrier_of_run (agent : PoolAgent) (sharedPool : Bool)
    (actions : List (PoolAction Pool)) :
    PoolBarrier agent sharedPool (actions.foldl agent.step (.spawn sharedPool)) := by
  have hinv : PoolInv agent sharedPool (actions.foldl agent.step (.spawn sharedPool)) :=
    List.foldlRecOn actions agent.step (poolInv_spawn agent sharedPool)
      fun _ h action _ => h.step action
  exact hinv.barrier

end Agent

/-- Two callers, one before the task has told and one after it. -/
example :
    let s := ([.ask .waitForPoolReady, .handle, .report (.error "refused"),
      .ask .waitForPoolReady, .handle, .run, .handle, .run] : List (PoolAction Unit)).foldl
        redisPoolAgent.step (.spawn true)
    s.sent = [(⟨.waitForPoolReady, 0⟩, ⟨"cache", .unhealthy, "refused"⟩),
      (⟨.waitForPoolReady, 1⟩, ⟨"cache", .unhealthy, "refused"⟩)] := by
  decide

end ActonService
