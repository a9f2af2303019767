import ActonService.Lib.Channel
import ActonService.Lib.FairLock
import ActonService.Websocket.Rooms

/-!
# The broadcaster

The `Broadcaster` of `websocket/broadcast.rs` with any number of tasks that call it.  The registry
of connections is behind a fair readers–writer lock; a broadcast keeps its read guard while it
waits for channels that are full.  A registration has no await point between getting the lock and
dropping its guard, so that it is one step when its turn has come.

A sender is the number of the channel it sends to.  A hash map is gone through in any order.

## Main definitions

* `BroadcasterCall`, `BroadcasterPhase`, `BroadcasterSystem` — the calls, where they are, and the
  whole system.
* `BroadcasterSystem.poll`, `step` — the code between await points, and what happens.
* `registry`, `Completed.Meets` — what a registry without tasks would say.
* `BroadcasterInv` — what the lock, the tasks and the registry have to do with each other.

## Main results

* `broadcaster_linearizable` — **every call does what it would do alone at the moment it returns.**
-/

namespace ActonService

open Run

/-! ### The code -/

/-- `BroadcastTarget` -/
inductive BroadcastTarget
  | all
  | connections (ids : List ConnectionId)
  | allExcept (exclude : List ConnectionId)
  deriving DecidableEq, Repr

/-- The calls.  `broadcast_all`, `broadcast_to` and `broadcast_except` are `broadcast` with their
target. -/
inductive BroadcasterCall (M : Type)
  | register (id : ConnectionId) (sender : ℕ)
  | unregister (id : ConnectionId)
  | broadcast (target : BroadcastTarget) (message : M)
  | sendTo (id : ConnectionId) (message : M)
  | connectionCount
  | hasConnection (id : ConnectionId)
  | connectionIds
  deriving DecidableEq, Repr

/-- What a call of the broadcaster returns, which depends on the function that was called. -/
inductive BroadcasterResult
  | done
  | sent (n : ℕ)
  | success (ok : Bool)
  | count (n : ℕ)
  | ids (ids : List ConnectionId)
  deriving DecidableEq, Repr

/-- `connections`, the registry. -/
abbrev Registry := FiniteMap ConnectionId ℕ

variable {M : Type}

/-- What the call wants the lock for. -/
def BroadcasterCall.mode : BroadcasterCall M → Mode
  | .register _ _ => .write
  | .unregister _ => .write
  | _ => .read

/-- The senders a broadcast goes through, where the registry is gone through in an order. -/
def BroadcastTarget.recipients (connections : Registry) (order : List ConnectionId) :
    BroadcastTarget → List ℕ
  | .all => order.filterMap connections.lookup
  | .connections ids => ids.filterMap connections.lookup
  | .allExcept exclude => (order.filter fun id => id ∉ exclude).filterMap connections.lookup

/-- The sends of a call: to which channel, and what. -/
def BroadcasterCall.sends (connections : Registry) (order : List ConnectionId) :
    BroadcasterCall M → List (ℕ × M)
  | .broadcast target message =>
    (target.recipients connections order).map fun sender => (sender, message)
  | .sendTo id message => (connections.lookup id).toList.map fun sender => (sender, message)
  | _ => []

/-- The registry after a call, which only those that hold the lock as writers change. -/
def BroadcasterCall.change (connections : Registry) : BroadcasterCall M → Registry
  | .register id sender => connections.insert id sender
  | .unregister id => connections.erase id
  | _ => connections

/-- What a call returns that has sent to `sent` channels. -/
def BroadcasterCall.result (connections : Registry) (order : List ConnectionId) (sent : ℕ) :
    BroadcasterCall M → BroadcasterResult
  | .register _ _ => .done
  | .unregister _ => .done
  | .broadcast _ _ => .sent sent
  | .sendTo _ _ => .success (decide (0 < sent))
  | .connectionCount => .count connections.keys.card
  | .hasConnection id => .success (connections.lookup id).isSome
  | .connectionIds => .ids order

/-- Where the task of a caller is with its call: before it, waiting for the lock, at a send under a
guard, or returned. -/
inductive BroadcasterPhase (M : Type)
  | uncalled
  /-- In the queue of the lock. -/
  | waiting (call : BroadcasterCall M)
  /-- With a read guard, at a send.  What has been tried is there for the record. -/
  | sending (call : BroadcasterCall M) (order : List ConnectionId) (sent : ℕ)
      (tried : List (ℕ × Bool)) (next : ℕ × M) (todo : List (ℕ × M))
  | returned
  deriving Repr

/-- A call that has returned: what it returned, and the sends it tried. -/
structure Completed (M : Type) where
  call : BroadcasterCall M
  tried : List (ℕ × Bool)
  result : BroadcasterResult
  deriving DecidableEq, Repr

/-- The registry, its lock, the channels of the connections and the tasks. -/
structure BroadcasterSystem (M : Type) where
  connections : Registry
  lock : FairLock ℕ
  channels : ℕ → Channel M
  tasks : ℕ → BroadcasterPhase M
  log : List (Completed M)

/-- What happens next: a task calls, it is polled, or a client at the other end receives or goes. -/
inductive BroadcasterAction (M : Type)
  | call (i : ℕ) (call : BroadcasterCall M)
  /-- A task goes on to its next await point; if it looks at the registry, in an order. -/
  | poll (i : ℕ) (order : List ConnectionId)
  /-- The task that writes to a socket takes a message of its channel. -/
  | receive (sender : ℕ)
  /-- It ends. -/
  | close (sender : ℕ)

namespace BroadcasterSystem

/-- `Broadcaster::new`, with the channels the connections will have. -/
def new (channels : ℕ → Channel M) : BroadcasterSystem M where
  connections := ∅
  lock := .free
  channels := channels
  tasks _ := .uncalled
  log := []

/-- A task goes on to another phase. -/
def goOn (s : BroadcasterSystem M) (i : ℕ) (phase : BroadcasterPhase M) : BroadcasterSystem M :=
  { s with tasks := Function.update s.tasks i phase }

/-- A call returns, and its guard is dropped. -/
def complete (s : BroadcasterSystem M) (i : ℕ) (e : Completed M) : BroadcasterSystem M :=
  { s.goOn i .returned with lock := s.lock.release i, log := s.log ++ [e] }

/-- The loop over the senders, up to the next send. -/
def sendNext (s : BroadcasterSystem M) (i : ℕ) (call : BroadcasterCall M)
    (order : List ConnectionId) (sent : ℕ) (tried : List (ℕ × Bool)) :
    List (ℕ × M) → BroadcasterSystem M
  | [] => s.complete i ⟨call, tried, call.result s.connections order sent⟩
  | next :: todo => s.goOn i (.sending call order sent tried next todo)

/-- A call with the lock, up to its first send. -/
def enter (s : BroadcasterSystem M) (i : ℕ) (call : BroadcasterCall M)
    (order : List ConnectionId) : BroadcasterSystem M :=
  { s with connections := call.change s.connections }.sendNext i call order 0 []
    (call.sends s.connections order)

/-- The code of a call from one await point to the next. -/
def poll (s : BroadcasterSystem M) (i : ℕ) (order : List ConnectionId) : BroadcasterSystem M :=
  match s.tasks i with
  | .waiting call =>
    match s.lock.acquire? i with
    | some (_, lock) => { s with lock := lock }.enter i call order
    | none => s
  | .sending call order sent tried next todo =>
    match (s.channels next.1).send? next.2 with
    | some (channel, ok) =>
      { s with channels := Function.update s.channels next.1 channel }.sendNext i call order
        (if ok then sent + 1 else sent) (tried ++ [(next.1, ok)]) todo
    | none => s
  | _ => s

/-- One action, if it can be taken; one that cannot leaves everything as it is. -/
def step (s : BroadcasterSystem M) : BroadcasterAction M → BroadcasterSystem M
  | .call i call =>
    match s.tasks i with
    | .uncalled => { s.goOn i (.waiting call) with lock := s.lock.request i call.mode }
    | _ => s
  | .poll i order => s.poll i order
  | .receive sender =>
    match (s.channels sender).receive? with
    | some (_, channel) => { s with channels := Function.update s.channels sender channel }
    | none => s
  | .close sender =>
    { s with channels := Function.update s.channels sender (s.channels sender).close }

end BroadcasterSystem

/-- The order goes through the keys of the registry. -/
def Lists (order : List ConnectionId) (connections : Registry) : Prop :=
  order.Nodup ∧ ∀ id, id ∈ order ↔ id ∈ connections

/-- A task that looks at the registry goes through it. -/
def BroadcasterSystem.Allowed (s : BroadcasterSystem M) : BroadcasterAction M → Prop
  | .poll _ order => Lists order s.connections
  | _ => True

/-! ### The registry without tasks -/

/-- The registry when calls have returned. -/
def registry (log : List (Completed M)) : Registry :=
  log.foldl (fun connections e => e.call.change connections) ∅

theorem registry_concat (log : List (Completed M)) (e : Completed M) :
    registry (log ++ [e]) = e.call.change (registry log) := by
  rw [registry, registry, List.foldl_append]
  rfl

/-- The call has sent to whom the registry says, once each and in some order of it, and has
returned what the registry says. -/
def Completed.Meets (connections : Registry) (e : Completed M) : Prop :=
  ∃ order, Lists order connections ∧
    e.tried.map Prod.fst = (e.call.sends connections order).map Prod.fst ∧
      e.result = e.call.result connections order (e.tried.countP Prod.snd)

/-- Every call has done what it would have done alone at the moment it returned. -/
def Linear (log : List (Completed M)) : Prop :=
  ∀ pre e post, log = pre ++ e :: post → e.Meets (registry pre)

/-! ### The lock and the tasks -/

/-- The task has a read guard. -/
def BroadcasterPhase.holdsGuard : BroadcasterPhase M → Bool
  | .sending _ _ _ _ _ _ => true
  | _ => false

/-- What the task waits for the lock for. -/
def BroadcasterPhase.wants : BroadcasterPhase M → Option Mode
  | .waiting call => some call.mode
  | _ => none

/-- A call that sends something is one of a reader, and leaves the registry as it is. -/
theorem BroadcasterCall.read_of_sends {call : BroadcasterCall M} {connections : Registry}
    {order : List ConnectionId} {next : ℕ × M} {todo : List (ℕ × M)}
    (h : call.sends connections order = next :: todo) :
    call.mode = .read ∧ call.change connections = connections := by
  cases call with
  | register id sender => cases h
  | unregister id => cases h
  | broadcast target message => exact ⟨rfl, rfl⟩
  | sendTo id message => exact ⟨rfl, rfl⟩
  | connectionCount => cases h
  | hasConnection id => cases h
  | connectionIds => cases h

/-- A call that reads leaves the registry as it is. -/
theorem BroadcasterCall.change_of_read {call : BroadcasterCall M} (h : call.mode = .read)
    (connections : Registry) : call.change connections = connections := by
  cases call with
  | register id sender => cases h
  | unregister id => cases h
  | _ => rfl

/-- Who has a guard and who waits, as the tasks say it and as the lock says it; `owner` is in the
middle of its turn. -/
structure LockInv (owner : Option ℕ) (s : BroadcasterSystem M) : Prop where
  holders : ∀ i mode, some i ≠ owner →
    ((i, mode) ∈ s.lock.holders ↔ mode = .read ∧ (s.tasks i).holdsGuard = true)
  queue : ∀ i mode, (i, mode) ∈ s.lock.queue ↔ some i ≠ owner ∧ (s.tasks i).wants = some mode
  nodup : (s.lock.queue.map Prod.fst).Nodup

variable {s : BroadcasterSystem M} {i : ℕ} {order : List ConnectionId}

/-- The end of a turn: the call returns, or waits at a send with its read guard. -/
theorem LockInv.sendNext (h : LockInv (some i) s) (call : BroadcasterCall M) (sent : ℕ)
    (tried : List (ℕ × Bool)) (todo : List (ℕ × M))
    (hguard : todo ≠ [] → ∀ mode, (i, mode) ∈ s.lock.holders ↔ mode = .read) :
    LockInv none (s.sendNext i call order sent tried todo) := by
  cases todo with
  | nil =>
    refine ⟨fun j mode _ => ?_, fun j mode => ?_, h.nodup⟩
    · show (j, mode) ∈ (s.lock.release i).holders ↔ _
      rw [FairLock.release, List.mem_filter]
      rcases eq_or_ne j i with rfl | hne
      · simp [BroadcasterSystem.sendNext, BroadcasterSystem.complete, BroadcasterSystem.goOn,
          BroadcasterPhase.holdsGuard]
      · rw [h.holders j mode (by simpa using hne)]
        simp [BroadcasterSystem.sendNext, BroadcasterSystem.complete, BroadcasterSystem.goOn, hne]
    · show (j, mode) ∈ s.lock.queue ↔ _
      rw [h.queue]
      rcases eq_or_ne j i with rfl | hne
      · simp [BroadcasterSystem.sendNext, BroadcasterSystem.complete, BroadcasterSystem.goOn,
          BroadcasterPhase.wants]
      · simp [BroadcasterSystem.sendNext, BroadcasterSystem.complete, BroadcasterSystem.goOn, hne]
  | cons next todo =>
    refine ⟨fun j mode _ => ?_, fun j mode => ?_, h.nodup⟩
    · show (j, mode) ∈ s.lock.holders ↔ _
      rcases eq_or_ne j i with rfl | hne
      · rw [hguard (List.cons_ne_nil _ _)]
        simp [BroadcasterSystem.sendNext, BroadcasterSystem.goOn, BroadcasterPhase.holdsGuard]
      · rw [h.holders j mode (by simpa using hne)]
        simp [BroadcasterSystem.sendNext, BroadcasterSystem.goOn, hne]
    · show (j, mode) ∈ s.lock.queue ↔ _
      rw [h.queue]
      rcases eq_or_ne j i with rfl | hne
      · simp [BroadcasterSystem.sendNext, BroadcasterSystem.goOn, BroadcasterPhase.wants]
      · simp [BroadcasterSystem.sendNext, BroadcasterSystem.goOn, hne]

/-- A task gets the lock in the mode of its call, and has this one guard; its phase does not show it
yet. -/
theorem LockInv.acquired (h : LockInv none s) {call : BroadcasterCall M} {mode : Mode}
    {lock : FairLock ℕ} (hphase : s.tasks i = .waiting call)
    (hacquire : s.lock.acquire? i = some (mode, lock)) :
    mode = call.mode ∧ LockInv (some i) { s with lock := lock } ∧
      ∀ m, (i, m) ∈ lock.holders ↔ m = mode := by
  obtain ⟨-, queue, hqueue, rfl⟩ := FairLock.acquire?_eq_some_iff.mp hacquire
  have hwants : (s.tasks i).wants = some mode :=
    ((h.queue i mode).mp (hqueue ▸ List.mem_cons_self)).2
  have hmode : mode = call.mode := by
    rw [hphase] at hwants
    exact (Option.some.inj hwants).symm
  have hnodup := h.nodup
  rw [hqueue, List.map_cons, List.nodup_cons] at hnodup
  refine ⟨hmode, ⟨fun j m hj => ?_, fun j m => ?_, hnodup.2⟩, fun m => ?_⟩
  · rw [← h.holders j m (Option.some_ne_none j)]
    have hne : j ≠ i := fun heq => hj (congrArg some heq)
    simp [hne]
  · rcases eq_or_ne j i with rfl | hne
    · -- nobody stands in the queue twice
      refine ⟨fun hmem => absurd (List.mem_map_of_mem hmem) hnodup.1, fun hj => ?_⟩
      exact absurd rfl hj.1
    · have hqueue' := h.queue j m
      rw [hqueue] at hqueue'
      simpa [hne] using hqueue'
  · have hnot := h.holders i m (Option.some_ne_none i)
    rw [hphase] at hnot
    simp [hnot, BroadcasterPhase.holdsGuard]

/-- A task in the middle of a broadcast has its guard. -/
theorem LockInv.resumed (h : LockInv none s) (hguard : (s.tasks i).holdsGuard = true) :
    LockInv (some i) s ∧ ∀ mode, (i, mode) ∈ s.lock.holders ↔ mode = .read := by
  refine ⟨⟨fun j mode _ => h.holders j mode (Option.some_ne_none j), fun j mode => ?_, h.nodup⟩,
    fun mode => ?_⟩
  · rw [h.queue]
    rcases eq_or_ne j i with rfl | hne
    · cases hphase : s.tasks j with
      | sending call order sent tried next todo => simp [BroadcasterPhase.wants]
      | _ =>
        rw [hphase] at hguard
        cases hguard
    · simp [hne]
  · rw [h.holders i mode (Option.some_ne_none i), hguard]
    simp

/-- **Lock and tasks agree** after every action. -/
theorem LockInv.step (h : LockInv none s) (a : BroadcasterAction M) :
    LockInv none (s.step a) := by
  -- only a call and a poll touch the lock; a poll may take it, use it and give it back
  cases a with
  | call i call =>
    rw [BroadcasterSystem.step]
    split
    · next hphase =>
      -- a caller that is idle does not stand in the queue yet, so that it is put there once
      have hnot : ∀ mode, (i, mode) ∉ s.lock.queue := by
        intro mode hmem
        have hwants := ((h.queue i mode).mp hmem).2
        rw [hphase] at hwants
        cases hwants
      -- holders, queue and the order of the queue, each for the caller and for the others
      refine ⟨fun j mode hj => ?_, fun j mode => ?_, ?_⟩
      · show (j, mode) ∈ s.lock.holders ↔ _
        rw [h.holders j mode hj]
        rcases eq_or_ne j i with rfl | hne
        · simp [BroadcasterSystem.goOn, hphase, BroadcasterPhase.holdsGuard]
        · simp [BroadcasterSystem.goOn, hne]
      · show (j, mode) ∈ s.lock.queue ++ [(i, call.mode)] ↔ _
        rw [List.mem_append, h.queue]
        rcases eq_or_ne j i with rfl | hne
        · simp [BroadcasterSystem.goOn, hphase, BroadcasterPhase.wants, eq_comm]
        · simp [BroadcasterSystem.goOn, hne]
      · show ((s.lock.queue ++ [(i, call.mode)]).map Prod.fst).Nodup
        rw [List.map_append, List.nodup_append]
        refine ⟨h.nodup, List.nodup_singleton _, fun j hj k hk => ?_⟩
        obtain ⟨⟨j, mode⟩, hmem, rfl⟩ := List.mem_map.mp hj
        rw [List.map_cons, List.map_nil, List.mem_singleton] at hk
        rw [hk]
        rintro rfl
        exact hnot mode hmem
    · exact h
  | poll i order =>
    rw [BroadcasterSystem.step, BroadcasterSystem.poll]
    split
    · next call hphase =>
      split
      · next mode lock hacquire =>
        -- the lock was acquired: `i` is the only caller whose guard the phases do not show yet
        obtain ⟨hmode, hinv, hguard⟩ := h.acquired hphase hacquire
        have hchanged : LockInv (some i)
            { s with lock := lock, connections := call.change s.connections } :=
          ⟨hinv.holders, hinv.queue, hinv.nodup⟩
        refine hchanged.sendNext call 0 [] _ fun hsends m => ?_
        -- only a reader has something left to send, and it keeps its guard
        obtain ⟨next, todo, hcons⟩ := List.exists_cons_of_ne_nil hsends
        rw [← (BroadcasterCall.read_of_sends hcons).1, ← hmode]
        exact hguard m
      · exact h
    · next call order sent tried next todo hphase =>
      split
      · next channel ok hsend =>
        -- a send that had to wait is over, and the call goes on with the guard it has held
        obtain ⟨hinv, hguard⟩ := h.resumed (i := i) (by rw [hphase]; rfl)
        have hsent : LockInv (some i)
            { s with channels := Function.update s.channels next.1 channel } :=
          ⟨hinv.holders, hinv.queue, hinv.nodup⟩
        exact hsent.sendNext call _ _ todo fun _ => hguard
      · exact h
    · exact h
  -- a receiver touches the channels only
  | receive sender =>
    rw [BroadcasterSystem.step]
    split
    · exact ⟨h.holders, h.queue, h.nodup⟩
    · exact h
  | close sender => exact ⟨h.holders, h.queue, h.nodup⟩

theorem lockInv_new (channels : ℕ → Channel M) : LockInv none (.new channels) := by
  refine ⟨fun i mode _ => ?_, fun i mode => ?_, List.nodup_nil⟩
  · simp [BroadcasterSystem.new, FairLock.free, BroadcasterPhase.holdsGuard]
  · simp [BroadcasterSystem.new, FairLock.free, BroadcasterPhase.wants]

/-! ### The registry and the tasks -/

/-- What a task at a send knows of the registry. -/
structure Midway (connections : Registry) (call : BroadcasterCall M) (order : List ConnectionId)
    (sent : ℕ) (tried : List (ℕ × Bool)) (todo : List (ℕ × M)) : Prop where
  lists : Lists order connections
  sends : tried.map Prod.fst ++ todo.map Prod.fst
    = (call.sends connections order).map Prod.fst
  count : sent = tried.countP Prod.snd

/-- A send that is over, with success or not, leaves a reader midway: what it still owes is what
stands behind. -/
theorem Midway.sent {connections : Registry} {call : BroadcasterCall M} {sent : ℕ}
    {tried : List (ℕ × Bool)} {next : ℕ × M} {todo : List (ℕ × M)}
    (h : Midway connections call order sent tried (next :: todo)) (ok : Bool) :
    Midway connections call order (if ok then sent + 1 else sent) (tried ++ [(next.1, ok)])
      todo := by
  refine ⟨h.lists, ?_, ?_⟩
  · rw [← h.sends]
    simp
  · rw [List.countP_append, ← h.count]
    cases ok <;> simp

/-- A call at a send reads the registry. -/
theorem Midway.read {connections : Registry} {call : BroadcasterCall M} {sent : ℕ}
    {tried : List (ℕ × Bool)} {next : ℕ × M} {todo : List (ℕ × M)}
    (h : Midway connections call order sent tried (next :: todo)) : call.mode = .read := by
  have hsends := h.sends
  cases hcall : call.sends connections order with
  | nil => simp [hcall] at hsends
  | cons first rest => exact (BroadcasterCall.read_of_sends hcall).1

/-- What the log, the registry and the tasks have to do with each other. -/
structure RegistryInv (s : BroadcasterSystem M) : Prop where
  registry : s.connections = registry s.log
  linear : Linear s.log
  midway : ∀ i call order sent tried next todo,
    s.tasks i = .sending call order sent tried next todo →
      Midway s.connections call order sent tried (next :: todo)

/-- What a call returns does not depend on what it changes. -/
theorem BroadcasterCall.result_change (call : BroadcasterCall M) (connections : Registry)
    (sent : ℕ) : call.result (call.change connections) order sent
      = call.result connections order sent := by
  cases call <;> rfl

/-- The end of a turn, when the registry has been changed as the call says. -/
theorem RegistryInv.sendNext {call : BroadcasterCall M} {sent : ℕ} {tried : List (ℕ × Bool)}
    {todo : List (ℕ × M)} (hregistry : s.connections = call.change (ActonService.registry s.log))
    (hlinear : Linear s.log)
    (hothers : ∀ j call order sent tried next todo, j ≠ i →
      s.tasks j = .sending call order sent tried next todo →
        Midway s.connections call order sent tried (next :: todo))
    (hown : Midway (ActonService.registry s.log) call order sent tried todo)
    (hread : todo ≠ [] → s.connections = ActonService.registry s.log) :
    RegistryInv (s.sendNext i call order sent tried todo) := by
  cases todo with
  | nil =>
    refine ⟨?_, forall_split_concat hlinear ?_,
      fun j call' order' sent' tried' next' todo' hj => ?_⟩
    · rw [BroadcasterSystem.sendNext, BroadcasterSystem.complete, registry_concat]
      exact hregistry
    · refine ⟨order, hown.lists, by simpa using hown.sends, ?_⟩
      rw [← hown.count, hregistry]
      exact call.result_change _ _
    · rcases eq_or_ne j i with rfl | hne
      · simp [BroadcasterSystem.sendNext, BroadcasterSystem.complete, BroadcasterSystem.goOn] at hj
      · refine hothers j _ _ _ _ _ _ hne ?_
        simpa [BroadcasterSystem.sendNext, BroadcasterSystem.complete, BroadcasterSystem.goOn, hne]
          using hj
  | cons next todo =>
    have hsame := hread (List.cons_ne_nil _ _)
    refine ⟨hsame, hlinear, fun j call' order' sent' tried' next' todo' hj => ?_⟩
    rcases eq_or_ne j i with rfl | hne
    · simp only [BroadcasterSystem.sendNext, BroadcasterSystem.goOn, Function.update_self] at hj
      cases hj
      show Midway s.connections _ _ _ _ _
      rw [hsame]
      exact hown
    · refine hothers j _ _ _ _ _ _ hne ?_
      simpa [BroadcasterSystem.sendNext, BroadcasterSystem.goOn, hne] using hj

/-- **Registry, log and tasks agree** after every action. -/
theorem RegistryInv.step (h : RegistryInv s) (hlock : LockInv none s) {a : BroadcasterAction M}
    (ha : s.Allowed a) : RegistryInv (s.step a) := by
  cases a with
  -- a call that has only begun has neither read nor written
  | call i call =>
    rw [BroadcasterSystem.step]
    split
    · refine ⟨h.registry, h.linear, fun j call' order' sent tried next todo hj => ?_⟩
      rcases eq_or_ne j i with rfl | hne
      · simp [BroadcasterSystem.goOn] at hj
      · exact h.midway j _ _ _ _ _ _ (by simpa [BroadcasterSystem.goOn, hne] using hj)
    · exact h
  | poll i order =>
    rw [BroadcasterSystem.step, BroadcasterSystem.poll]
    split
    · next call hphase =>
      split
      · next mode lock hacquire =>
        -- the call takes effect where the lock is acquired, and is put into the log there
        obtain ⟨hmode, -⟩ := hlock.acquired hphase hacquire
        -- what it is going to send is what it owes by the registry it has found
        have hown : Midway (ActonService.registry s.log) call order 0 []
            (call.sends s.connections order) := by
          refine ⟨h.registry ▸ ha, ?_, rfl⟩
          rw [← h.registry]
          rfl
        have hregistry : call.change s.connections
            = call.change (ActonService.registry s.log) := by
          rw [← h.registry]
        refine RegistryInv.sendNext (s := { s with
          lock := lock, connections := call.change s.connections }) hregistry h.linear
          (fun j call' order' sent tried next todo _ hj => ?_) hown fun hsends => ?_
        · -- a writer is let in only when nobody has a guard
          have hmidway := h.midway j _ _ _ _ _ _ hj
          cases hwrite : mode with
          | read =>
            rw [BroadcasterCall.change_of_read (hmode.symm.trans hwrite)]
            exact hmidway
          | write =>
            rw [hwrite] at hacquire
            have hholds := (hlock.holders j .read (Option.some_ne_none j)).mpr
              ⟨rfl, by rw [hj]; rfl⟩
            rw [FairLock.holders_of_acquire_write hacquire] at hholds
            cases hholds
        · obtain ⟨next, todo, hcons⟩ := List.exists_cons_of_ne_nil hsends
          exact (BroadcasterCall.read_of_sends hcons).2.trans h.registry
      · exact h
    · next call order' sent tried next todo hphase =>
      split
      · next channel ok hsend =>
        -- a reader goes on with the registry it has read, which nobody has changed meanwhile
        have hmidway := h.midway i _ _ _ _ _ _ hphase
        refine RegistryInv.sendNext (s := { s with
          channels := Function.update s.channels next.1 channel }) ?_ h.linear
          (fun j call order sent tried next todo _ hj => h.midway j _ _ _ _ _ _ hj)
          (h.registry ▸ hmidway.sent ok) fun _ => h.registry
        rw [BroadcasterCall.change_of_read hmidway.read]
        exact h.registry
      · exact h
    · exact h
  | receive sender =>
    rw [BroadcasterSystem.step]
    split
    · exact ⟨h.registry, h.linear, h.midway⟩
    · exact h
  | close sender => exact ⟨h.registry, h.linear, h.midway⟩

/-! ### Runs -/

/-- What holds in every state reached: lock and tasks agree, and the registry is that of the calls
in the log. -/
structure BroadcasterInv (s : BroadcasterSystem M) : Prop where
  lock : LockInv none s
  registry : RegistryInv s

theorem BroadcasterInv.step (h : BroadcasterInv s) {a : BroadcasterAction M} (ha : s.Allowed a) :
    BroadcasterInv (s.step a) :=
  ⟨h.lock.step a, h.registry.step h.lock ha⟩

theorem broadcasterInv_new (channels : ℕ → Channel M) :
    BroadcasterInv (.new channels) := by
  refine ⟨lockInv_new channels, rfl, ?_, ?_⟩
  · intro pre e post hnil
    simp [BroadcasterSystem.new] at hnil
  · intro i call order sent tried next todo hphase
    cases hphase

theorem broadcasterInv_of_reach {channels : ℕ → Channel M}
    (h : Reach BroadcasterSystem.step BroadcasterSystem.Allowed (.new channels) s) :
    BroadcasterInv s :=
  h.invariant (broadcasterInv_new channels) fun _ _ hs ha => hs.step ha

/-- **Calls are linearizable.**  In every interleaving of the tasks, the sockets and the calls, a
call that has returned sent to exactly the connections that were registered at that moment and that
its target names, once each, returned how many of these sends succeeded, and has changed the
registry there and nowhere else. -/
theorem broadcaster_linearizable {channels : ℕ → Channel M}
    (h : Reach BroadcasterSystem.step BroadcasterSystem.Allowed (.new channels) s) :
    Linear s.log ∧ s.connections = registry s.log :=
  ⟨(broadcasterInv_of_reach h).registry.linear, (broadcasterInv_of_reach h).registry.registry⟩

/-- One connection registers and gets a message. -/
def sampleBroadcast : List (BroadcasterAction String) :=
  [.call 0 (.register ⟨1⟩ 7), .poll 0 [], .call 1 (.broadcast .all "a"), .poll 1 [⟨1⟩],
    .poll 1 [⟨1⟩]]

/-- The registry in which the sample connection is registered, and no other. -/
def sampleRegistry : Registry := Finmap.insert ⟨1⟩ 7 ∅

theorem lists_empty : Lists [] ∅ := ⟨List.nodup_nil, fun id => by simp [Finmap.notMem_empty]⟩

theorem lists_sample : Lists [⟨1⟩] sampleRegistry :=
  ⟨List.nodup_singleton _, fun id => by simp [sampleRegistry, Finmap.notMem_empty]⟩

theorem reach_sampleBroadcast : Reach BroadcasterSystem.step BroadcasterSystem.Allowed
    (.new fun _ => .new 1) (sampleBroadcast.foldl BroadcasterSystem.step (.new fun _ => .new 1)) :=
  Reach.start.foldl ⟨trivial, lists_empty, trivial, lists_sample, lists_sample, trivial⟩

theorem broadcaster_linearizable_sample :
    let s := sampleBroadcast.foldl BroadcasterSystem.step (.new fun _ => .new 1)
    s.log = [⟨.register ⟨1⟩ 7, [], .done⟩, ⟨.broadcast .all "a", [(7, true)], .sent 1⟩] ∧
      Linear s.log ∧ s.connections = registry s.log :=
  ⟨by decide, broadcaster_linearizable reach_sampleBroadcast⟩

end ActonService
