import ActonService.Agents.WorkerOutcomes

/-!
# The bookkeeping of the worker

Callers that do not submit an identifier again before its task has ended, and whose work does not
panic, disturb no run.  Nobody is then answered twice or waits for ever.

## Main definitions

* `SubmitsInTurn` — such callers.
* `Bookkept` — what holds of the waiters, the answers and the permits.
* `KeepsRecords` — what an action may do to the records of tasks that have ended.

## Main results

* `undisturbed_of_submitsInTurn` — orderly callers disturb no run.
* `bookkept_of_reach` — **the books are kept in every orderly run.**
-/

namespace ActonService

open Run

/-! ### Orderly callers -/

/-- A submission whose task has reported, or has panicked. -/
def Phase.finished : Phase → Bool
  | .reported _ | .ended _ | .panicked => true
  | .waiting | .acquired | .registered | .running | .resolved _ => false

theorem Phase.finished_of_unreported (phase : Phase) (h : phase.unreported = true) :
    phase.finished = false := by
  cases phase with
  | registered => rfl
  | running => rfl
  | resolved status => rfl
  | waiting => contradiction
  | acquired => contradiction
  | reported status => contradiction
  | ended status => contradiction
  | panicked => contradiction

/-- No work panics, and an identifier is submitted only where all its tasks have finished. -/
def SubmitsInTurn (s : WorkerSystem) : WorkerAction → Prop
  | .submit taskId => ∀ submission ∈ s.submissions, submission.taskId = taskId →
    submission.phase.finished = true
  | .move n .panic => ∀ submission ∈ s.submissions[n]?, submission.phase ≠ .running
  | _ => True

instance decidableSubmitsInTurn (s : WorkerSystem) : ∀ a, Decidable (SubmitsInTurn s a)
  | .submit taskId => inferInstanceAs (Decidable (∀ submission ∈ s.submissions,
    submission.taskId = taskId → submission.phase.finished = true))
  | .move n .panic => inferInstanceAs (Decidable (∀ submission ∈ s.submissions[n]?,
    submission.phase ≠ .running))
  | .post _ | .handle | .move _ .acquire | .move _ .register | .move _ .spawn
  | .move _ (.resolve _) | .move _ .report | .move _ .release => .isTrue trivial

/-- Of two submissions of one identifier one has finished. -/
def OneUnfinished (s : WorkerSystem) : Prop :=
  ∀ (i j : ℕ) (first second : Submission), s.submissions[i]? = some first →
    s.submissions[j]? = some second → i ≠ j → first.taskId = second.taskId →
      first.phase.finished = true ∨ second.phase.finished = true

section Callers

variable {s : WorkerSystem} {n : ℕ} {submission : Submission}

/-- A submission that moves on stays finished. -/
theorem submissions_move (hn : s.submissions[n]? = some submission) (move : Move) :
    ∃ phase, (s.move n submission move).submissions
        = s.submissions.set n { submission with phase } ∧
      (submission.phase.finished = true → phase.finished = true) := by
  have hmoved := WorkerSystem.moved_move s n submission move
  generalize s.move n submission move = s' at hmoved ⊢
  cases hmoved with
  | stays =>
    obtain ⟨hlt, rfl⟩ := List.getElem?_eq_some_iff.mp hn
    exact ⟨_, (List.set_getElem_self hlt).symm, id⟩
  | acquires hphase => exact ⟨_, rfl, by rw [hphase]; exact id⟩
  | registers hphase => exact ⟨_, rfl, by rw [hphase]; exact id⟩
  | spawns hphase => exact ⟨_, rfl, by rw [hphase]; exact id⟩
  | resolves hphase result => exact ⟨_, rfl, by rw [hphase]; exact id⟩
  | reports hphase => exact ⟨_, rfl, fun _ => rfl⟩
  | releases hphase => exact ⟨_, rfl, fun _ => rfl⟩
  | panics hphase => exact ⟨_, rfl, fun _ => rfl⟩

/-- A task is submitted while every other of its identifier is finished. -/
theorem OneUnfinished.submit (h : OneUnfinished s) {taskId : String}
    (ha : SubmitsInTurn s (.submit taskId)) : OneUnfinished (s.step (.submit taskId)) := by
  have hnew : ∀ (i : ℕ) (sub : Submission),
      (s.submissions ++ [⟨taskId, .waiting⟩])[i]? = some sub →
      s.submissions[i]? = some sub ∨ i = s.submissions.length ∧ sub = ⟨taskId, .waiting⟩ := by
    intro i sub hsub
    rcases lt_or_ge i s.submissions.length with hlt | hge
    · rw [List.getElem?_append_left hlt] at hsub
      exact .inl hsub
    · rw [List.getElem?_append_right hge, List.getElem?_singleton] at hsub
      split at hsub
      · next hzero => exact .inr ⟨by omega, (Option.some.inj hsub).symm⟩
      · contradiction
  intro i j first second hfirst hsecond hne htask
  rcases hnew i first hfirst with hfirst | ⟨hi, rfl⟩
  · rcases hnew j second hsecond with hsecond | ⟨-, rfl⟩
    · exact h i j first second hfirst hsecond hne htask
    · exact .inl (ha first (List.mem_of_getElem? hfirst) htask)
  · rcases hnew j second hsecond with hsecond | ⟨hj, -⟩
    · exact .inr (ha second (List.mem_of_getElem? hsecond) htask.symm)
    · exact absurd (hi.trans hj.symm) hne

/-- A task moves on: its identifier stays, and what is finished stays finished. -/
theorem OneUnfinished.move (h : OneUnfinished s) (hn : s.submissions[n]? = some submission)
    (move : Move) : OneUnfinished (s.move n submission move) := by
  obtain ⟨phase, hsubmissions, hfinished⟩ := submissions_move hn move
  have hold : ∀ (i : ℕ) (sub : Submission),
      (s.submissions.set n { submission with phase })[i]? = some sub →
      ∃ before : Submission, s.submissions[i]? = some before ∧ before.taskId = sub.taskId ∧
        (before.phase.finished = true → sub.phase.finished = true) := by
    intro i sub hsub
    by_cases hi : n = i
    · subst hi
      rw [List.getElem?_set_self (List.getElem?_eq_some_iff.mp hn).1] at hsub
      obtain rfl := Option.some.inj hsub
      exact ⟨submission, hn, rfl, hfinished⟩
    · rw [List.getElem?_set_ne hi] at hsub
      exact ⟨sub, hsub, rfl, id⟩
  intro i j first second hfirst hsecond hne htask
  rw [hsubmissions] at hfirst hsecond
  obtain ⟨first', hfirst', htask₁, hmono₁⟩ := hold i first hfirst
  obtain ⟨second', hsecond', htask₂, hmono₂⟩ := hold j second hsecond
  exact (h i j first' second' hfirst' hsecond' hne
    (htask₁.trans (htask.trans htask₂.symm))).imp hmono₁ hmono₂

/-- **Orderly callers leave one unfinished task to an identifier.** -/
theorem OneUnfinished.step (h : OneUnfinished s) {a : WorkerAction} (ha : SubmitsInTurn s a) :
    OneUnfinished (s.step a) := by
  cases a with
  | post request => exact h
  | handle =>
    rw [WorkerSystem.step]
    split
    · exact h
    · exact h
  | submit taskId => exact h.submit ha
  | move n move =>
    rw [WorkerSystem.step]
    split
    · next submission hn => exact h.move hn move
    · exact h

/-- **Orderly callers disturb no run.** -/
theorem undisturbed_of_submitsInTurn (h : OneUnfinished s) {a : WorkerAction}
    (ha : SubmitsInTurn s a) :
    Undisturbed s a := by
  cases a with
  | submit taskId => trivial
  | post request => trivial
  | handle => trivial
  | move n move =>
    cases move with
    | acquire => trivial
    | spawn => trivial
    | resolve result => trivial
    | report => trivial
    | release => trivial
    | panic => exact ha
    | register =>
      intro submission hn hphase other hother hunreported htask
      obtain ⟨j, hj⟩ := List.mem_iff_getElem?.mp hother
      by_cases hsame : n = j
      · subst hsame
        cases hj.symm.trans hn
        rw [hphase] at hunreported
        contradiction
      · rcases h n j submission other hn hj hsame htask.symm with hfinished | hfinished
        · rw [hphase] at hfinished
          contradiction
        · rw [other.phase.finished_of_unreported hunreported] at hfinished
          contradiction

end Callers

/-! ### Books -/

/-- **How the books are kept**: permits, envelopes, answers and what is left when everything has
ended. -/
structure Bookkept (maxConcurrentTasks : ℕ) (s : WorkerSystem × WorkerNotes) : Prop where
  /-- Somebody waits only for a task that is registered and running. -/
  parked : ∀ taskId parked, s.1.agent.waiters.lookup taskId = some parked → parked ≠ [] →
    ∃ record, s.1.agent.tasks.lookup taskId = some record ∧ record.status = .running
  /-- No envelope is answered twice. -/
  once : (s.2.answered.map Answer.envelope).Nodup
  /-- Who has waited for a task is told what has become of it, and is told nothing only if none was
  registered. -/
  answers : ∀ a ∈ s.2.answered, Answers s.1.outcome (s.2.envelopes a.envelope) a.reply
  permits : 0 < maxConcurrentTasks → s.1.holders ≤ maxConcurrentTasks
  /-- Where everything has ended, nobody waits. -/
  settled : AtRest s.1 → ∀ taskId parked, s.1.agent.waiters.lookup taskId = some parked →
    parked = []

/-- The record of a task that has ended stays as it is until it is removed, and no other record is
removed. -/
structure KeepsRecords (agent agent' : BackgroundWorkerState) : Prop where
  kept : ∀ taskId record record', agent.tasks.lookup taskId = some record →
    record.status.isTerminal = true → agent'.tasks.lookup taskId = some record' →
    record'.cancellationToken = record.cancellationToken → record' = record
  removed : ∀ taskId record, agent.tasks.lookup taskId = some record →
    agent'.tasks.lookup taskId = none → record.status.isTerminal = true

section Books

variable {s : WorkerSystem × WorkerNotes}

theorem KeepsRecords.refl (agent : BackgroundWorkerState) : KeepsRecords agent agent where
  kept _ _ _ hrecord _ hrecord' _ := Option.some.inj (hrecord'.symm.trans hrecord)
  removed _ _ hrecord hnone := nomatch hrecord.symm.trans hnone

/-- A message that was expected leaves a terminal record as it is, while its token is the one of
the record. -/
theorem WorkerInv.record_eq_of_handle (h : WorkerInv s) {posted : Posted}
    (hexpected : Expected s.2.views posted) {taskId : String} {record record' : TaskRecord}
    (hlookup : s.1.agent.tasks.lookup taskId = some record)
    (hterminal : record.status.isTerminal = true)
    (hlookup' : recordAfter taskId posted.message (some record) = some record')
    (htoken : record'.cancellationToken = record.cancellationToken) : record' = record := by
  have hrecord : RecordOk s.1.outcome (s.2.views taskId) (some record) :=
    hlookup ▸ h.records taskId
  obtain ⟨sender, message⟩ := posted
  cases message with
  | registerTask other n =>
    rw [recordAfter] at hlookup'
    split at hlookup'
    · -- a new registration has another token
      have hlatest : (s.2.views taskId).latest = some record.cancellationToken := by
        rcases hrecord.of_some with ⟨hview, -⟩ | ⟨hview, -⟩
        · rw [hview]
          rfl
        · rw [hview]
          rfl
      obtain rfl := Option.some.inj hlookup'
      rw [← htoken] at hlatest
      exact absurd hlatest (hexpected.2 taskId)
    · exact (Option.some.inj hlookup').symm
  | taskCompleted other status =>
    obtain ⟨n, -, hrunning⟩ := hexpected
    rw [recordAfter] at hlookup'
    split at hlookup'
    · next hsame =>
      -- only a task that runs is completed, and its record is not terminal
      rw [← hsame] at hrunning
      rcases hrecord.of_some with ⟨-, hstatus⟩ | ⟨hdone, -⟩
      · rw [hstatus] at hterminal
        contradiction
      · exact absurd (hrunning.symm.trans hdone) View.noConfusion
    · exact (Option.some.inj hlookup').symm
  | cleanupFinishedTasks envelope =>
    rw [recordAfter] at hlookup'
    obtain ⟨hsame, -⟩ := Option.filter_eq_some_iff.mp hlookup'
    exact (Option.some.inj hsame).symm
  | cancelTask other => exact (Option.some.inj hlookup').symm
  | waitForTask other envelope => exact (Option.some.inj hlookup').symm
  | getTaskStatus other envelope => exact (Option.some.inj hlookup').symm
  | getAllTaskStatuses envelope => exact (Option.some.inj hlookup').symm

/-- Only a cleanup takes records out, and only terminal ones. -/
theorem isTerminal_of_recordAfter_eq_none {message : WorkerMessage} {taskId : String}
    {record : TaskRecord} (hnone : recordAfter taskId message (some record) = none) :
    record.status.isTerminal = true := by
  cases message with
  | registerTask other n =>
    rw [recordAfter] at hnone
    split at hnone
    · contradiction
    · contradiction
  | taskCompleted other status =>
    rw [recordAfter] at hnone
    split at hnone
    · contradiction
    · contradiction
  | cleanupFinishedTasks envelope =>
    rw [recordAfter, Option.filter_some] at hnone
    split at hnone
    · contradiction
    · next hterminal => simpa using hterminal
  | cancelTask other => contradiction
  | waitForTask other envelope => contradiction
  | getTaskStatus other envelope => contradiction
  | getAllTaskStatuses envelope => contradiction

/-- **A message that was expected keeps the records.** -/
theorem WorkerInv.keepsRecords_handle (h : WorkerInv s) {posted : Posted}
    (hexpected : Expected s.2.views posted) :
    KeepsRecords s.1.agent (s.1.agent.handle posted.message).state := by
  constructor
  · intro taskId record record' hlookup hterminal hlookup' htoken
    rw [lookup_handle, hlookup] at hlookup'
    exact h.record_eq_of_handle hexpected hlookup hterminal hlookup' htoken
  · intro taskId record hlookup hnone
    rw [lookup_handle, hlookup] at hnone
    exact isTerminal_of_recordAfter_eq_none hnone

/-- **Every action keeps the records.** -/
theorem WorkerInv.keepsRecords (h : WorkerInv s) (a : WorkerAction) :
    KeepsRecords s.1.agent (s.1.step a).agent := by
  cases a with
  | submit taskId => exact .refl _
  | post request => exact .refl _
  | move n move =>
    rw [WorkerSystem.step]
    split
    · next submission hn =>
      rw [(frame_move s.1 n submission move).1]
      exact .refl _
    · exact .refl _
  | handle =>
    rw [WorkerSystem.step]
    cases hmailbox : s.1.mailbox with
    | nil => exact .refl _
    | cons posted rest =>
      exact h.keepsRecords_handle (h.protocol.handled hmailbox (s.1.agent.handle posted.message)).1

/-- The books are kept wherever the invariant holds: each of the clauses is read off it. -/
theorem WorkerInv.bookkept (h : WorkerInv s) {maxConcurrentTasks : ℕ}
    (hpermits : s.1.PermitsInv maxConcurrentTasks) : Bookkept maxConcurrentTasks s where
  parked taskId parked hlookup hparked := by
    obtain ⟨e, he⟩ := List.exists_mem_of_ne_nil parked hparked
    obtain ⟨task, hview, -⟩ := (h.envelopes.waiters taskId parked hlookup).2 e he
    have hrecord := h.records taskId
    rw [hview] at hrecord
    exact ⟨_, hrecord, rfl⟩
  once := h.envelopes.once
  answers := h.envelopes.answers
  permits := hpermits.holders_le
  settled hrest := (h.nothingRunning hrest).waiters

end Books

/-- **The books are kept in every orderly run**, and every action keeps the records of tasks that
have ended. -/
theorem bookkept_of_reach (maxConcurrentTasks : ℕ) {s : WorkerSystem × WorkerNotes}
    (h : Reach workerStep (fun s a => SubmitsInTurn s.1 a) (spawned maxConcurrentTasks) s) :
    Bookkept maxConcurrentTasks s ∧ ∀ a, KeepsRecords s.1.agent (s.1.step a).agent := by
  let J (s : WorkerSystem × WorkerNotes) : Prop :=
    WorkerInv s ∧ OneUnfinished s.1 ∧ s.1.PermitsInv maxConcurrentTasks
  have hinv : J s := by
    refine h.invariant ?_ fun s a hs ha => ?_
    · refine ⟨workerInv_spawned _, fun i j first second hfirst => ?_,
        WorkerSystem.permitsInv_spawn _⟩
      simp [spawned, WorkerSystem.spawn] at hfirst
    · obtain ⟨hworker, hone, hpermits⟩ := hs
      exact ⟨hworker.step (undisturbed_of_submitsInTurn hone ha), hone.step ha, hpermits.step a⟩
  exact ⟨hinv.1.bookkept hinv.2.2, hinv.1.keepsRecords⟩

/-! ### Samples -/

/-- Two tasks share a permit, one is cancelled, and the records are cleaned up. -/
def sampleBookkept : List WorkerAction :=
  sampleSubmit 0 "job" ++ [.submit "other", .move 1 .acquire, .post (.waitForTask "job"),
    .post (.cancelTask "job"), .post (.waitForTask "nothing"), .handle, .handle, .handle, .handle,
    .move 0 (.resolve (.ok ())), .move 0 .report, .move 0 .release, .move 1 .acquire,
    .move 1 .register, .handle, .post .cleanupFinishedTasks, .handle, .handle]

theorem bookkept_of_reach_sample :
    (sampleWorkerRun sampleBookkept).2.answered.map (fun a => (a.envelope, a.reply))
      = [(2, .status none), (0, .status (some ⟨"job", .cancelled⟩)), (3, .removed 1)] ∧
    (sampleWorkerRun sampleBookkept).1.permits = some 0 ∧
    Bookkept 1 (sampleWorkerRun sampleBookkept) := by
  have hrun : Reach workerStep (fun s a => SubmitsInTurn s.1 a) (spawned 1)
      (sampleWorkerRun sampleBookkept) :=
    Reach.start.foldl (by decide +kernel)
  exact ⟨by decide +kernel, by decide +kernel, (bookkept_of_reach 1 hrun).1⟩

end ActonService
