import ActonService.Lib.FiniteMaps
import ActonService.Lib.Run

/-!
# The background worker

The agent of `agents/background_worker.rs`, the tasks that are submitted to it and the mailbox
between them.  A submission waits for a permit, registers its task with the agent, and spawns it;
the task tells the agent what has become of it and gives the permit back.  The agent handles its
messages one at a time, in the order they were sent.

A task that is registered is the number of its submission, which is also its cancellation token.
The shutdown of the agent is left out.

## Main definitions

* `BackgroundWorkerState`, `BackgroundWorkerState.handle` — the agent and its handlers.
* `Submission`, `Phase` — how far a submission has come.
* `WorkerSystem`, `WorkerSystem.step` — the agent, the submissions and the mailbox.

## Main results

* `lookup_handle` — what a handler does to the record of a task.
-/

namespace ActonService

/-! ### Data -/

/-- `TaskStatus` -/
inductive TaskStatus
  | pending
  | running
  | completed
  | failed (e : String)
  | cancelled
  deriving DecidableEq, Repr

/-- `is_terminal` -/
def TaskStatus.isTerminal : TaskStatus → Bool
  | .completed | .failed _ | .cancelled => true
  | .pending | .running => false

/-- `TaskRecord` -/
structure TaskRecord where
  cancellationToken : ℕ
  status : TaskStatus
  deriving DecidableEq, Repr

/-- `BackgroundWorkerState`, as far as its handlers read it.  A waiter is the number of its
envelope. -/
structure BackgroundWorkerState where
  tasks : FiniteMap String TaskRecord
  waiters : FiniteMap String (List ℕ)

/-- `TaskStatusResponse` -/
structure TaskStatusResponse where
  taskId : String
  status : TaskStatus
  deriving DecidableEq, Repr

/-- What the agent sends to a reply envelope: the status of one task or of all, or how many it has
removed. -/
inductive WorkerReply
  | status (response : Option TaskStatusResponse)
  | statuses (responses : Multiset TaskStatusResponse)
  | removed (count : ℕ)
  deriving DecidableEq

/-- The messages, with the envelopes to answer to. -/
inductive WorkerMessage
  | registerTask (taskId : String) (cancellationToken : ℕ)
  | taskCompleted (taskId : String) (status : TaskStatus)
  | cancelTask (taskId : String)
  | waitForTask (taskId : String) (envelope : ℕ)
  | getTaskStatus (taskId : String) (envelope : ℕ)
  | getAllTaskStatuses (envelope : ℕ)
  | cleanupFinishedTasks (envelope : ℕ)
  deriving DecidableEq, Repr

/-! ### The agent -/

/-- What handling a message comes to: the state of the agent, the replies it sends, and the token it
cancels. -/
structure Handled where
  state : BackgroundWorkerState
  replies : List (ℕ × WorkerReply)
  /-- The token that is cancelled. -/
  cancels : Option ℕ

/-- The answer about a task: its identifier and the status that its record has. -/
def TaskRecord.response (taskId : String) (record : TaskRecord) : TaskStatusResponse :=
  ⟨taskId, record.status⟩

/-- The handlers of the agent, one for each message: what becomes of the tasks and of those who
wait. -/
def BackgroundWorkerState.handle (s : BackgroundWorkerState) : WorkerMessage → Handled
  | .registerTask taskId cancellationToken =>
    ⟨{ s with tasks := s.tasks.insert taskId ⟨cancellationToken, .running⟩ }, [], none⟩
  | .taskCompleted taskId status =>
    ⟨⟨FiniteMap.alter (fun record => some { record with status }) s.tasks taskId,
        s.waiters.erase taskId⟩,
      ((s.waiters.lookup taskId).getD []).map fun waiter =>
        (waiter, .status (some ⟨taskId, status⟩)),
      none⟩
  | .cancelTask taskId => ⟨s, [], (s.tasks.lookup taskId).map TaskRecord.cancellationToken⟩
  | .waitForTask taskId envelope =>
    match s.tasks.lookup taskId with
    | none => ⟨s, [(envelope, .status none)], none⟩
    | some record =>
      if record.status.isTerminal then
        ⟨s, [(envelope, .status (some (record.response taskId)))], none⟩
      else
        let parked := (s.waiters.lookup taskId).getD []
        ⟨{ s with waiters := s.waiters.insert taskId (parked ++ [envelope]) }, [], none⟩
  | .getTaskStatus taskId envelope =>
    ⟨s, [(envelope, .status ((s.tasks.lookup taskId).map (TaskRecord.response taskId)))], none⟩
  | .getAllTaskStatuses envelope =>
    ⟨s, [(envelope, .statuses (s.tasks.entries.map fun e => TaskRecord.response e.1 e.2))], none⟩
  | .cleanupFinishedTasks envelope =>
    let tasks := FiniteMap.retain (fun record => !record.status.isTerminal) s.tasks
    ⟨{ s with tasks }, [(envelope, .removed (s.tasks.keys.card - tasks.keys.card))], none⟩

/-- What a handler makes of the record of a task. -/
def recordAfter (taskId : String) : WorkerMessage → Option TaskRecord → Option TaskRecord
  | .registerTask other cancellationToken, record =>
    if taskId = other then some ⟨cancellationToken, .running⟩ else record
  | .taskCompleted other status, record =>
    if taskId = other then record.map fun record => { record with status } else record
  | .cleanupFinishedTasks _, record => record.filter fun record => !record.status.isTerminal
  | .cancelTask _, record | .waitForTask _ _, record | .getTaskStatus _ _, record
  | .getAllTaskStatuses _, record => record

/-- **What a handler does to the record of a task.** -/
theorem lookup_handle (s : BackgroundWorkerState) (message : WorkerMessage) (taskId : String) :
    (s.handle message).state.tasks.lookup taskId
      = recordAfter taskId message (s.tasks.lookup taskId) := by
  cases message with
  | registerTask other cancellationToken =>
    show (s.tasks.insert other _).lookup taskId = _
    by_cases hsame : taskId = other
    · subst hsame
      rw [Finmap.lookup_insert, recordAfter, if_pos rfl]
    · rw [Finmap.lookup_insert_of_ne _ hsame, recordAfter, if_neg hsame]
  | taskCompleted other status =>
    show (FiniteMap.alter _ s.tasks other).lookup taskId = _
    rw [FiniteMap.lookup_alter, recordAfter]
    by_cases hsame : taskId = other
    · subst hsame
      rw [if_pos rfl, if_pos rfl]
      cases s.tasks.lookup taskId <;> rfl
    · rw [if_neg hsame, if_neg hsame]
  | cancelTask other => rfl
  | waitForTask other envelope =>
    rw [BackgroundWorkerState.handle]
    split
    · rfl
    · split
      · rfl
      · rfl
  | getTaskStatus other envelope => rfl
  | getAllTaskStatuses envelope => rfl
  | cleanupFinishedTasks envelope => exact FiniteMap.lookup_retain _ _ _

/-! ### Submissions -/

/-- How far a submission has come, from waiting for a permit to the end of the task that was spawned
for it. -/
inductive Phase
  /-- It waits for a permit. -/
  | waiting
  /-- It has one. -/
  | acquired
  /-- It has sent `RegisterTask`. -/
  | registered
  /-- The task is spawned. -/
  | running
  /-- The task has come to an end, and has not said so yet. -/
  | resolved (status : TaskStatus)
  /-- It has sent `TaskCompleted`. -/
  | reported (status : TaskStatus)
  /-- The spawned task has ended. -/
  | ended (status : TaskStatus)
  /-- The work has panicked, which has ended the spawned task. -/
  | panicked
  deriving DecidableEq, Repr

/-- A permit is held until the spawned task has ended. -/
def Phase.holdsPermit : Phase → Bool
  | .acquired | .registered | .running | .resolved _ | .reported _ => true
  | .waiting | .ended _ | .panicked => false

/-- What has become of the task of a submission, once it has been resolved. -/
def Phase.outcome : Phase → Option TaskStatus
  | .resolved status | .reported status | .ended status => some status
  | .waiting | .acquired | .registered | .running | .panicked => none

/-- The task is registered, and will tell what becomes of it. -/
def Phase.unreported : Phase → Bool
  | .registered | .running | .resolved _ => true
  | .waiting | .acquired | .reported _ | .ended _ | .panicked => false

/-- A call of `submit` with the task it spawns. -/
structure Submission where
  taskId : String
  phase : Phase
  deriving DecidableEq, Repr

/-! ### The system -/

/-- Who has sent a message: a submission to report on its task, or a client to ask for something. -/
inductive Sender
  | submission (n : ℕ)
  | client
  deriving DecidableEq, Repr

/-- A message as it lies in the mailbox of the agent, with its sender. -/
structure Posted where
  sender : Sender
  message : WorkerMessage
  deriving DecidableEq, Repr

/-- What a client of the worker asks for, other than to submit a task; the reply envelope is added
when it is sent. -/
inductive WorkerRequest
  | cancelTask (taskId : String)
  | waitForTask (taskId : String)
  | getTaskStatus (taskId : String)
  | getAllTaskStatuses
  | cleanupFinishedTasks
  deriving DecidableEq, Repr

/-- The message of a request, with an envelope of its own. -/
def WorkerRequest.message (envelope : ℕ) : WorkerRequest → WorkerMessage
  | .cancelTask taskId => .cancelTask taskId
  | .waitForTask taskId => .waitForTask taskId envelope
  | .getTaskStatus taskId => .getTaskStatus taskId envelope
  | .getAllTaskStatuses => .getAllTaskStatuses envelope
  | .cleanupFinishedTasks => .cleanupFinishedTasks envelope

/-- The agent, its mailbox, and everything around it. -/
structure WorkerSystem where
  agent : BackgroundWorkerState
  mailbox : List Posted
  submissions : List Submission
  /-- The permits that are left, unless there is no limit. -/
  permits : Option ℕ
  cancelled : ℕ → Bool
  /-- The number of envelopes there have been. -/
  envelopes : ℕ

/-- How a submission moves on from one phase to the next. -/
inductive Move
  /-- It gets a permit. -/
  | acquire
  /-- It sends `RegisterTask`. -/
  | register
  /-- It spawns the task. -/
  | spawn
  /-- The task sees its token, or else its work returns. -/
  | resolve (result : Except String Unit)
  /-- The task sends `TaskCompleted`. -/
  | report
  /-- The spawned task ends, and gives its permit back. -/
  | release
  /-- The work panics, which ends the spawned task. -/
  | panic

/-- What happens next: a task is submitted, a submission moves on, a client sends a message, or the
agent handles one. -/
inductive WorkerAction
  /-- `submit` is called. -/
  | submit (taskId : String)
  | move (n : ℕ) (move : Move)
  /-- A client sends a message. -/
  | post (request : WorkerRequest)
  /-- The agent handles the next message. -/
  | handle

/-- The status of a task whose token was cancelled, or else of one whose work has returned. -/
def resolvedStatus (cancelled : Bool) (result : Except String Unit) : TaskStatus :=
  if cancelled then .cancelled
  else
    match result with
    | .ok () => .completed
    | .error e => .failed e

namespace WorkerSystem

/-- The worker as it is spawned: no task, an empty mailbox, and all permits free where their number
is limited. -/
def spawn (maxConcurrentTasks : ℕ) : WorkerSystem where
  agent := ⟨∅, ∅⟩
  mailbox := []
  submissions := []
  permits := if maxConcurrentTasks > 0 then some maxConcurrentTasks else none
  cancelled := fun _ => false
  envelopes := 0

/-- What has become of the task of the `n`-th submission, if there is one and it has been resolved.
-/
def outcome (s : WorkerSystem) (n : ℕ) : Option TaskStatus :=
  s.submissions[n]?.bind fun submission => submission.phase.outcome

/-- A submission enters another phase. -/
def enter (s : WorkerSystem) (n : ℕ) (submission : Submission) (phase : Phase) : WorkerSystem :=
  { s with submissions := s.submissions.set n { submission with phase } }

/-- A message is sent to the agent. -/
def send (s : WorkerSystem) (sender : Sender) (message : WorkerMessage) : WorkerSystem :=
  { s with mailbox := s.mailbox ++ [⟨sender, message⟩] }

/-- A submission moves on, if it is where it can. -/
def move (s : WorkerSystem) (n : ℕ) (submission : Submission) (move : Move) : WorkerSystem :=
  match submission.phase, move with
  | .waiting, .acquire =>
    if s.permits = some 0 then s
    else { s.enter n submission .acquired with permits := s.permits.map (· - 1) }
  | .acquired, .register =>
    (s.enter n submission .registered).send (.submission n) (.registerTask submission.taskId n)
  | .registered, .spawn => s.enter n submission .running
  | .running, .resolve result =>
    s.enter n submission (.resolved (resolvedStatus (s.cancelled n) result))
  | .resolved status, .report =>
    (s.enter n submission (.reported status)).send (.submission n)
      (.taskCompleted submission.taskId status)
  | .reported status, .release =>
    { s.enter n submission (.ended status) with permits := s.permits.map (· + 1) }
  | .running, .panic =>
    { s.enter n submission .panicked with permits := s.permits.map (· + 1) }
  | _, _ => s

/-- The agent has handled the first message. -/
def handled (s : WorkerSystem) (h : Handled) (rest : List Posted) : WorkerSystem :=
  { s with
    agent := h.state
    mailbox := rest
    cancelled := fun n => s.cancelled n || h.cancels = some n }

/-- One action of the worker, which is total: an action that is not possible leaves the worker as it
is. -/
def step (s : WorkerSystem) : WorkerAction → WorkerSystem
  | .submit taskId => { s with submissions := s.submissions ++ [⟨taskId, .waiting⟩] }
  | .move n move =>
    match s.submissions[n]? with
    | some submission => s.move n submission move
    | none => s
  | .post request =>
    { s.send .client (request.message s.envelopes) with envelopes := s.envelopes + 1 }
  | .handle =>
    match s.mailbox with
    | [] => s
    | posted :: rest => s.handled (s.agent.handle posted.message) rest

/-- **What a move can do.** -/
inductive Moved (s : WorkerSystem) (n : ℕ) (submission : Submission) : Move → WorkerSystem → Prop
  | stays (move : Move) : Moved s n submission move s
  | acquires (hphase : submission.phase = .waiting) (hfree : s.permits ≠ some 0) :
      Moved s n submission .acquire
        { s.enter n submission .acquired with permits := s.permits.map (· - 1) }
  | registers (hphase : submission.phase = .acquired) :
      Moved s n submission .register
        ((s.enter n submission .registered).send (.submission n)
          (.registerTask submission.taskId n))
  | spawns (hphase : submission.phase = .registered) :
      Moved s n submission .spawn (s.enter n submission .running)
  | resolves (hphase : submission.phase = .running) (result : Except String Unit) :
      Moved s n submission (.resolve result)
        (s.enter n submission (.resolved (resolvedStatus (s.cancelled n) result)))
  | reports {status : TaskStatus} (hphase : submission.phase = .resolved status) :
      Moved s n submission .report
        ((s.enter n submission (.reported status)).send (.submission n)
          (.taskCompleted submission.taskId status))
  | releases {status : TaskStatus} (hphase : submission.phase = .reported status) :
      Moved s n submission .release
        { s.enter n submission (.ended status) with permits := s.permits.map (· + 1) }
  | panics (hphase : submission.phase = .running) :
      Moved s n submission .panic
        { s.enter n submission .panicked with permits := s.permits.map (· + 1) }

theorem moved_move (s : WorkerSystem) (n : ℕ) (submission : Submission) (move : Move) :
    Moved s n submission move (s.move n submission move) := by
  unfold WorkerSystem.move
  split
  · next hphase =>
    split
    · exact .stays _
    · next hfree => exact .acquires hphase hfree
  · next hphase => exact .registers hphase
  · next hphase => exact .spawns hphase
  · next hphase => exact .resolves hphase _
  · next hphase => exact .reports hphase
  · next hphase => exact .releases hphase
  · next hphase => exact .panics hphase
  · exact .stays _

end WorkerSystem

end ActonService
