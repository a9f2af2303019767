import ActonService.Agents.WorkerProtocol

/-!
# What the worker tells of its tasks

Every envelope is answered once, and what the agent says of a task is what has become of it, as
long as nothing panics and the tasks of one identifier do not overlap.  Completions are matched to
records by the identifier alone, and a task whose work panics sends none.

## Main definitions

* `WorkerNotes` — what was registered last, who is waiting for what, and what was answered.
* `Attributed` — an answer says what has become of the task that was registered last.
* `WorkerInv` — what holds of the records, the envelopes and the answers.

## Main results

* `attributed_of_reach` — **terminal statuses are those of the tasks registered last**, in runs
  that are undisturbed.
-/

namespace ActonService

open Run

/-! ### Notes -/

/-- What has come of a reply envelope: unanswered, parked for a task, told how a task has ended, or
told something else. -/
inductive EnvelopeState
  | unanswered
  /-- It waits for a task. -/
  | parked (taskId : String) (task : ℕ)
  /-- It has waited for the task that was registered when its message was handled. -/
  | waited (taskId : String) (task : Option ℕ)
  /-- It was answered, and has not waited for a task. -/
  | told
  deriving DecidableEq, Repr

/-- An answer, with the task that was registered last under its identifier. -/
structure Answer where
  envelope : ℕ
  reply : WorkerReply
  latest : Option ℕ
  deriving DecidableEq

/-- The notes of what has happened: the view of each task, the state of each envelope, and the
answers that were sent. -/
structure WorkerNotes where
  views : Views
  envelopes : ℕ → EnvelopeState
  answered : List Answer

/-- The envelope of a message. -/
def WorkerMessage.envelope? : WorkerMessage → Option ℕ
  | .waitForTask _ envelope | .getTaskStatus _ envelope | .getAllTaskStatuses envelope
  | .cleanupFinishedTasks envelope => some envelope
  | .registerTask _ _ | .taskCompleted _ _ | .cancelTask _ => none

/-- The task that was registered last under the identifier of an answer. -/
def latestFor (v : Views) : WorkerReply → Option ℕ
  | .status (some response) => (v response.taskId).latest
  | .status none | .statuses _ | .removed _ => none

/-- A message that waits for a task. -/
def waitingState (taskId : String) : Option TaskRecord → EnvelopeState
  | none => .waited taskId none
  | some record =>
    if record.status.isTerminal then .waited taskId (some record.cancellationToken)
    else .parked taskId record.cancellationToken

/-- A task has reported its end: the envelopes that were parked for it have now been answered. -/
def EnvelopeState.released (taskId : String) : EnvelopeState → EnvelopeState
  | .parked other task => if other = taskId then .waited other (some task) else .parked other task
  | .unanswered => .unanswered
  | .waited other task => .waited other task
  | .told => .told

/-- The envelopes after a message is handled. -/
def envelopesAfter (s : BackgroundWorkerState) (envelopes : ℕ → EnvelopeState) :
    WorkerMessage → ℕ → EnvelopeState
  | .waitForTask taskId envelope =>
    Function.update envelopes envelope (waitingState taskId (s.tasks.lookup taskId))
  | .taskCompleted taskId _ => fun e => (envelopes e).released taskId
  | .getTaskStatus _ envelope | .getAllTaskStatuses envelope | .cleanupFinishedTasks envelope =>
    Function.update envelopes envelope .told
  | .registerTask _ _ | .cancelTask _ => envelopes

/-- The notes after a message is handled. -/
def WorkerNotes.handled (n : WorkerNotes) (s : BackgroundWorkerState) (posted : Posted) :
    WorkerNotes where
  views := n.views.after posted
  envelopes := envelopesAfter s n.envelopes posted.message
  answered := n.answered ++ (s.handle posted.message).replies.map fun r =>
    ⟨r.1, r.2, latestFor n.views r.2⟩

/-- The notes after an action. -/
def WorkerNotes.after (n : WorkerNotes) (s : WorkerSystem) : WorkerAction → WorkerNotes
  | .handle =>
    match s.mailbox with
    | [] => n
    | posted :: _ => n.handled s.agent posted
  | .submit _ | .move _ _ | .post _ => n

/-- One action of the worker, together with the notes of what it has brought about. -/
def workerStep (s : WorkerSystem × WorkerNotes) (a : WorkerAction) : WorkerSystem × WorkerNotes :=
  (s.1.step a, s.2.after s.1 a)

/-- The worker as it is spawned. -/
def spawned (maxConcurrentTasks : ℕ) : WorkerSystem × WorkerNotes :=
  (.spawn maxConcurrentTasks, ⟨fun _ => .unknown, fun _ => .unanswered, []⟩)

/-! ### Answers -/

/-- A terminal status that was answered is what has become of the task registered last. -/
def Attributed (outcome : ℕ → Option TaskStatus) (a : Answer) : Prop :=
  ∀ response, a.reply = .status (some response) → response.status.isTerminal = true →
    ∃ task, a.latest = some task ∧ outcome task = some response.status

/-- What an envelope was answered: nothing if no task was registered, and otherwise what has become
of the task. -/
def Answers (outcome : ℕ → Option TaskStatus) : EnvelopeState → WorkerReply → Prop
  | .waited _ none, reply => reply = .status none
  | .waited taskId (some task), reply =>
    ∃ status, reply = .status (some ⟨taskId, status⟩) ∧ outcome task = some status
  | .told, _ => True
  | .unanswered, _ | .parked _ _, _ => False

/-- What the record of an identifier is. -/
def RecordOk (outcome : ℕ → Option TaskStatus) : View → Option TaskRecord → Prop
  | .unknown, record? => record? = none
  | .running n, record? => record? = some ⟨n, .running⟩
  | .done n, record? => ∀ record, record? = some record →
    record.cancellationToken = n ∧ record.status.isTerminal = true ∧
      outcome n = some record.status

/-- What holds of the envelopes.  Those of the messages in the mailbox are `mail`, and the next one
is `next`. -/
structure EnvelopeInv (waiters : FiniteMap String (List ℕ)) (mail : List ℕ) (next : ℕ)
    (outcome : ℕ → Option TaskStatus) (n : WorkerNotes) : Prop where
  nodup : mail.Nodup
  posted : ∀ e ∈ mail, e < next ∧ n.envelopes e = .unanswered
  fresh : ∀ e, next ≤ e → n.envelopes e = .unanswered
  waiters : ∀ taskId parked, waiters.lookup taskId = some parked → parked.Nodup ∧
    ∀ e ∈ parked, ∃ task, n.views taskId = .running task ∧ n.envelopes e = .parked taskId task
  once : (n.answered.map Answer.envelope).Nodup
  attributed : ∀ a ∈ n.answered, Attributed outcome a
  answers : ∀ a ∈ n.answered, Answers outcome (n.envelopes a.envelope) a.reply

section Envelopes

variable {waiters : FiniteMap String (List ℕ)} {mail : List ℕ} {next e : ℕ}
  {outcome outcome' : ℕ → Option TaskStatus} {n : WorkerNotes} {taskId : String} {task : ℕ}

/-- The invariant speaks of the outcomes that are known, and stays true when more of them become
known. -/
theorem EnvelopeInv.mono (h : EnvelopeInv waiters mail next outcome n)
    (hmono : ∀ task status, outcome task = some status → outcome' task = some status) :
    EnvelopeInv waiters mail next outcome' n := by
  refine ⟨h.nodup, h.posted, h.fresh, h.waiters, h.once, fun a ha => ?_, fun a ha => ?_⟩
  · intro response hreply hterminal
    obtain ⟨task, hlatest, houtcome⟩ := h.attributed a ha response hreply hterminal
    exact ⟨task, hlatest, hmono _ _ houtcome⟩
  · have hanswers := h.answers a ha
    unfold Answers at hanswers ⊢
    split at hanswers
    · exact hanswers
    · obtain ⟨status, hreply, houtcome⟩ := hanswers
      exact ⟨status, hreply, hmono _ _ houtcome⟩
    · trivial
    · exact hanswers
    · exact hanswers

/-- An envelope that was answered is neither in the mailbox nor parked. -/
theorem Answers.settled {state : EnvelopeState} {reply : WorkerReply}
    (h : Answers outcome state reply) :
    state ≠ .unanswered ∧ ∀ taskId task, state ≠ .parked taskId task := by
  cases state with
  | unanswered => exact h.elim
  | parked other task => exact h.elim
  | waited other task? => exact ⟨EnvelopeState.noConfusion, fun _ _ => EnvelopeState.noConfusion⟩
  | told => exact ⟨EnvelopeState.noConfusion, fun _ _ => EnvelopeState.noConfusion⟩

/-- A message is sent, with an envelope of its own. -/
theorem EnvelopeInv.post (h : EnvelopeInv waiters mail next outcome n) :
    EnvelopeInv waiters (mail ++ [next]) (next + 1) outcome n := by
  refine ⟨?_, fun e he => ?_, fun e he => h.fresh e (Nat.le_of_succ_le he), h.waiters, h.once,
    h.attributed, h.answers⟩
  · refine List.nodup_append.mpr ⟨h.nodup, List.nodup_singleton _, fun e he e' he' => ?_⟩
    rw [List.mem_singleton.mp he']
    exact Nat.ne_of_lt (h.posted e he).1
  · rcases List.mem_append.mp he with hold | hnew
    · exact ⟨Nat.lt_succ_of_lt (h.posted e hold).1, (h.posted e hold).2⟩
    · rw [List.mem_singleton.mp hnew]
      exact ⟨Nat.lt_succ_self _, h.fresh next le_rfl⟩

/-- A message is sent that is not answered. -/
theorem EnvelopeInv.skip (h : EnvelopeInv waiters mail next outcome n) :
    EnvelopeInv waiters mail (next + 1) outcome n :=
  ⟨h.nodup, fun e he => ⟨Nat.lt_succ_of_lt (h.posted e he).1, (h.posted e he).2⟩,
    fun e he => h.fresh e (Nat.le_of_succ_le he), h.waiters, h.once, h.attributed, h.answers⟩

/-- The envelope of the first message is no other one. -/
theorem EnvelopeInv.ne_of_settled (h : EnvelopeInv waiters (e :: mail) next outcome n) {other : ℕ}
    (hother : n.envelopes other ≠ .unanswered) : other ≠ e := by
  rintro rfl
  exact hother (h.posted other List.mem_cons_self).2

/-- The mailbox without its first message, whose envelope may be in any state from then on. -/
theorem EnvelopeInv.rest (h : EnvelopeInv waiters (e :: mail) next outcome n)
    (state : EnvelopeState) : mail.Nodup ∧
      (∀ other ∈ mail, other < next ∧
        Function.update n.envelopes e state other = .unanswered) ∧
      ∀ other, next ≤ other → Function.update n.envelopes e state other = .unanswered := by
  obtain ⟨hnotMem, hnodup⟩ := List.nodup_cons.mp h.nodup
  refine ⟨hnodup, fun other hother => ?_, fun other hother => ?_⟩
  · have hne : other ≠ e := by
      rintro rfl
      exact hnotMem hother
    rw [Function.update_of_ne hne]
    exact h.posted other (List.mem_cons_of_mem _ hother)
  · have hlt := (h.posted e List.mem_cons_self).1
    rw [Function.update_of_ne (by omega)]
    exact h.fresh other hother

/-- The message is answered at once: its envelope is settled, and the answer is the last one of the
notes. -/
theorem EnvelopeInv.answer (h : EnvelopeInv waiters (e :: mail) next outcome n)
    {state : EnvelopeState} {a : Answer} (ha : a.envelope = e) (hattributed : Attributed outcome a)
    (hanswers : Answers outcome state a.reply) :
    EnvelopeInv waiters mail next outcome
      { n with
        envelopes := Function.update n.envelopes e state
        answered := n.answered ++ [a] } := by
  obtain ⟨hnodup, hposted, hfresh⟩ := h.rest state
  -- who was answered before is settled, and who is at the head of the mail is not
  have hold : ∀ b ∈ n.answered, b.envelope ≠ e := by
    intro b hb
    exact h.ne_of_settled (h.answers b hb).settled.1
  refine ⟨hnodup, hposted, hfresh, fun taskId parked hparked => ?_, ?_, fun b hb => ?_,
    fun b hb => ?_⟩
  · refine ⟨(h.waiters taskId parked hparked).1, fun other hother => ?_⟩
    obtain ⟨task, hview, hstate⟩ := (h.waiters taskId parked hparked).2 other hother
    have hne : other ≠ e := h.ne_of_settled (hstate ▸ EnvelopeState.noConfusion)
    exact ⟨task, hview, (Function.update_of_ne hne _ _).trans hstate⟩
  · rw [List.map_append, List.nodup_append]
    refine ⟨h.once, List.nodup_singleton _, fun other hother last hlast => ?_⟩
    obtain ⟨b, hb, rfl⟩ := List.mem_map.mp hother
    rw [List.mem_singleton.mp hlast, ha]
    exact hold b hb
  · rcases List.mem_append.mp hb with hb | hb
    · exact h.attributed b hb
    · rw [List.mem_singleton.mp hb]
      exact hattributed
  · rcases List.mem_append.mp hb with hb | hb
    · show Answers outcome (Function.update n.envelopes e state b.envelope) b.reply
      rw [Function.update_of_ne (hold b hb)]
      exact h.answers b hb
    · show Answers outcome (Function.update n.envelopes e state b.envelope) b.reply
      rw [List.mem_singleton.mp hb, ha, Function.update_self]
      exact hanswers

/-- The message is parked: its envelope waits behind those that wait for the same task already. -/
theorem EnvelopeInv.park (h : EnvelopeInv waiters (e :: mail) next outcome n)
    (hview : n.views taskId = .running task) :
    EnvelopeInv (waiters.insert taskId ((waiters.lookup taskId).getD [] ++ [e])) mail next outcome
      { n with envelopes := Function.update n.envelopes e (.parked taskId task) } := by
  obtain ⟨hnodup, hposted, hfresh⟩ := h.rest (.parked taskId task)
  -- who waits already is settled too, and so is another
  have hwaits : ∀ other parked, waiters.lookup other = some parked → ∀ waiter ∈ parked, waiter ≠ e ∧
      ∃ task, n.views other = .running task ∧ n.envelopes waiter = .parked other task := by
    intro other parked hparked waiter hwaiter
    obtain ⟨task, hview, hstate⟩ := (h.waiters other parked hparked).2 waiter hwaiter
    exact ⟨h.ne_of_settled (hstate ▸ EnvelopeState.noConfusion), task, hview, hstate⟩
  refine ⟨hnodup, hposted, hfresh, fun other parked hparked => ?_, h.once, h.attributed,
    fun b hb => ?_⟩
  · show parked.Nodup ∧ ∀ waiter ∈ parked, ∃ task', n.views other = .running task' ∧
      Function.update n.envelopes e (.parked taskId task) waiter = .parked other task'
    by_cases hsame : other = taskId
    · subst hsame
      obtain rfl := Option.some.inj ((Finmap.lookup_insert waiters).symm.trans hparked)
      -- the callers that wait for this task: those of before, and the new one behind them
      have hbefore : ((waiters.lookup other).getD []).Nodup ∧
          ∀ waiter ∈ (waiters.lookup other).getD [], waiter ≠ e ∧
            ∃ task, n.views other = .running task ∧ n.envelopes waiter = .parked other task := by
        cases hlookup : waiters.lookup other with
        | none => exact ⟨List.nodup_nil, fun _ hnil => absurd hnil List.not_mem_nil⟩
        | some parked => exact ⟨(h.waiters other parked hlookup).1, hwaits other parked hlookup⟩
      refine ⟨?_, fun waiter hwaiter => ?_⟩
      · refine List.nodup_append.mpr ⟨hbefore.1, List.nodup_singleton _, fun a ha b hb => ?_⟩
        rw [List.mem_singleton.mp hb]
        exact (hbefore.2 a ha).1
      · rcases List.mem_append.mp hwaiter with hold | hnew
        · obtain ⟨hne, task', hview', hstate⟩ := hbefore.2 waiter hold
          exact ⟨task', hview', (Function.update_of_ne hne _ _).trans hstate⟩
        · rw [List.mem_singleton.mp hnew]
          exact ⟨task, hview, Function.update_self _ _ _⟩
    · -- the callers of another task are as they were
      have hlookup : waiters.lookup other = some parked :=
        (Finmap.lookup_insert_of_ne _ hsame).symm.trans hparked
      refine ⟨(h.waiters other parked hlookup).1, fun waiter hwaiter => ?_⟩
      obtain ⟨hne, task', hview', hstate⟩ := hwaits other parked hlookup waiter hwaiter
      exact ⟨task', hview', (Function.update_of_ne hne _ _).trans hstate⟩
  · show Answers outcome (Function.update n.envelopes e _ b.envelope) b.reply
    rw [Function.update_of_ne (h.ne_of_settled (h.answers b hb).settled.1)]
    exact h.answers b hb

/-- A task is registered where none is running. -/
theorem EnvelopeInv.register (h : EnvelopeInv waiters mail next outcome n)
    (hview : ∀ m, n.views taskId ≠ .running m) :
    EnvelopeInv waiters mail next outcome
      { n with views := Function.update n.views taskId (.running task) } := by
  refine ⟨h.nodup, h.posted, h.fresh, fun other parked hparked => ?_, h.once, h.attributed,
    h.answers⟩
  refine ⟨(h.waiters other parked hparked).1, fun waiter hwaiter => ?_⟩
  obtain ⟨task', hview', hstate⟩ := (h.waiters other parked hparked).2 waiter hwaiter
  have hne : other ≠ taskId := by
    rintro rfl
    exact hview task' hview'
  exact ⟨task', (Function.update_of_ne hne _ _).trans hview', hstate⟩

/-- Those who wait for a running task: no one of them twice, and each of them parked for this task.
-/
theorem EnvelopeInv.waiting (h : EnvelopeInv waiters mail next outcome n)
    (hview : n.views taskId = .running task) :
    ((waiters.lookup taskId).getD []).Nodup ∧
      ∀ e ∈ (waiters.lookup taskId).getD [], n.envelopes e = .parked taskId task := by
  cases hlookup : waiters.lookup taskId with
  | none => exact ⟨List.nodup_nil, fun _ hnil => absurd hnil List.not_mem_nil⟩
  | some parked =>
    refine ⟨(h.waiters taskId parked hlookup).1, fun e he => ?_⟩
    obtain ⟨task', hview', hstate⟩ := (h.waiters taskId parked hlookup).2 e he
    rw [hstate, View.running.inj (hview.symm.trans hview')]

/-- A task reports, and those who wait for it are answered. -/
theorem EnvelopeInv.complete (h : EnvelopeInv waiters mail next outcome n)
    (hview : n.views taskId = .running task) {status : TaskStatus}
    (houtcome : outcome task = some status) :
    EnvelopeInv (waiters.erase taskId) mail next outcome
      { views := Function.update n.views taskId (.done task)
        envelopes := fun e => (n.envelopes e).released taskId
        answered := n.answered ++ (((waiters.lookup taskId).getD []).map fun e =>
          ⟨e, .status (some ⟨taskId, status⟩), some task⟩) } := by
  obtain ⟨hnodup, hparked⟩ := h.waiting hview
  refine ⟨h.nodup, fun e he => ⟨(h.posted e he).1, ?_⟩, fun e he => ?_,
    fun other parked hlookup => ?_, ?_, fun a ha => ?_, fun a ha => ?_⟩
  · show (n.envelopes e).released taskId = .unanswered
    rw [(h.posted e he).2]
    rfl
  · show (n.envelopes e).released taskId = .unanswered
    rw [h.fresh e he]
    rfl
  · -- the callers that wait for other tasks still wait
    by_cases hsame : other = taskId
    · subst hsame
      rw [Finmap.lookup_erase] at hlookup
      contradiction
    · rw [Finmap.lookup_erase_ne hsame] at hlookup
      refine ⟨(h.waiters other parked hlookup).1, fun e he => ?_⟩
      obtain ⟨task', hview', hstate⟩ := (h.waiters other parked hlookup).2 e he
      refine ⟨task', (Function.update_of_ne hsame _ _).trans hview', ?_⟩
      show (n.envelopes e).released taskId = _
      rw [hstate, EnvelopeState.released, if_neg hsame]
  · rw [List.map_append, List.map_map, List.nodup_append]
    have hid : List.map (Answer.envelope ∘ fun e =>
        ⟨e, .status (some ⟨taskId, status⟩), some task⟩) ((waiters.lookup taskId).getD [])
          = (waiters.lookup taskId).getD [] := List.map_id _
    rw [hid]
    -- who is parked has not been answered yet
    refine ⟨h.once, hnodup, fun e he e' he' heq => ?_⟩
    obtain ⟨a, ha, rfl⟩ := List.mem_map.mp he
    exact (h.answers a ha).settled.2 taskId task (heq ▸ hparked e' he')
  · -- every answer names the submission it is about: those of before, and the new ones
    rcases List.mem_append.mp ha with hold | hnew
    · exact h.attributed a hold
    · obtain ⟨e, -, rfl⟩ := List.mem_map.mp hnew
      intro response hreply _
      cases hreply
      exact ⟨task, rfl, houtcome⟩
  · -- and says what came of it
    show Answers outcome ((n.envelopes a.envelope).released taskId) a.reply
    rcases List.mem_append.mp ha with hold | hnew
    · have hanswers := h.answers a hold
      cases hstate : n.envelopes a.envelope with
      | unanswered => exact absurd hstate hanswers.settled.1
      | parked other task' => exact absurd hstate (hanswers.settled.2 other task')
      | waited other task? =>
        rw [hstate] at hanswers
        exact hanswers
      | told => trivial
    · obtain ⟨e, he, rfl⟩ := List.mem_map.mp hnew
      rw [hparked e he, EnvelopeState.released, if_pos rfl]
      exact ⟨status, rfl, houtcome⟩

end Envelopes

/-! ### Runs -/

/-- The envelopes of the messages in a mailbox. -/
def mailOf (mailbox : List Posted) : List ℕ :=
  mailbox.filterMap fun posted => posted.message.envelope?

/-- A submission whose task has ended has a terminal status. -/
def TerminalOutcomes (s : WorkerSystem) : Prop :=
  ∀ submission ∈ s.submissions, ∀ status, submission.phase.outcome = some status →
    status.isTerminal = true

/-- **What holds in every undisturbed run.** -/
structure WorkerInv (s : WorkerSystem × WorkerNotes) : Prop where
  protocol : ProtocolInv s.1 s.2.views
  terminal : TerminalOutcomes s.1
  records : ∀ taskId, RecordOk s.1.outcome (s.2.views taskId) (s.1.agent.tasks.lookup taskId)
  envelopes : EnvelopeInv s.1.agent.waiters (mailOf s.1.mailbox) s.1.envelopes s.1.outcome s.2

section Runs

variable {s : WorkerSystem × WorkerNotes} {taskId : String}

theorem isTerminal_resolvedStatus (cancelled : Bool) (result : Except String Unit) :
    (resolvedStatus cancelled result).isTerminal = true := by
  cases cancelled with
  | true => rfl
  | false => cases result <;> rfl

/-- **Outcomes are terminal**: no action gives a submission an outcome that its task could still
leave. -/
theorem TerminalOutcomes.step {s : WorkerSystem} (h : TerminalOutcomes s) (a : WorkerAction) :
    TerminalOutcomes (s.step a) := by
  -- a phase whose outcome, if it has one, was there before or is terminal keeps this true
  have henter : ∀ {n submission phase}, s.submissions[n]? = some submission →
      (∀ status, phase.outcome = some status → submission.phase.outcome = some status ∨
        status.isTerminal = true) → TerminalOutcomes (s.enter n submission phase) := by
    intro n submission phase hn hphase sub hsub status hstatus
    rcases List.mem_or_eq_of_mem_set hsub with hold | rfl
    · exact h sub hold status hstatus
    · rcases hphase status hstatus with hbefore | hterminal
      · exact h submission (List.mem_of_getElem? hn) status hbefore
      · exact hterminal
  cases a with
  -- a new submission has no outcome yet
  | submit taskId =>
    intro sub hsub status hstatus
    rcases List.mem_append.mp hsub with hold | hnew
    · exact h sub hold status hstatus
    · rw [List.mem_singleton.mp hnew] at hstatus
      contradiction
  | post request => exact h
  | handle =>
    rw [WorkerSystem.step]
    split
    · exact h
    · exact h
  | move n move =>
    rw [WorkerSystem.step]
    split
    · next submission hn =>
      have hmoved := WorkerSystem.moved_move s n submission move
      generalize s.move n submission move = s' at hmoved ⊢
      cases hmoved with
      | stays => exact h
      | acquires hphase => exact henter hn fun _ hstatus => by contradiction
      | registers hphase => exact henter hn fun _ hstatus => by contradiction
      | spawns hphase => exact henter hn fun _ hstatus => by contradiction
      -- the one move that gives an outcome, and what `resolvedStatus` gives is terminal
      | resolves hphase result =>
        refine henter hn fun status hstatus => .inr ?_
        cases hstatus
        exact isTerminal_resolvedStatus _ _
      | reports hphase => exact henter hn (by rw [hphase]; exact fun _ => .inl)
      | releases hphase => exact henter hn (by rw [hphase]; exact fun _ => .inl)
      | panics hphase => exact henter hn fun _ hstatus => by contradiction
    · exact h

theorem TerminalOutcomes.isTerminal {s : WorkerSystem} (h : TerminalOutcomes s) {n : ℕ}
    {status : TaskStatus} (houtcome : s.outcome n = some status) : status.isTerminal = true := by
  obtain ⟨submission, hn, hstatus⟩ := Option.bind_eq_some_iff.mp houtcome
  exact h submission (List.mem_of_getElem? hn) status hstatus

theorem RecordOk.mono {outcome outcome' : ℕ → Option TaskStatus} {view : View}
    {record? : Option TaskRecord} (h : RecordOk outcome view record?)
    (hmono : ∀ task status, outcome task = some status → outcome' task = some status) :
    RecordOk outcome' view record? := by
  cases view with
  | unknown => exact h
  | running n => exact h
  | done n =>
    intro record hrecord
    obtain ⟨htoken, hterminal, houtcome⟩ := h record hrecord
    exact ⟨htoken, hterminal, hmono _ _ houtcome⟩

/-- What a record says where one is registered. -/
theorem RecordOk.of_some {outcome : ℕ → Option TaskStatus} {view : View} {record : TaskRecord}
    (h : RecordOk outcome view (some record)) :
    (view = .running record.cancellationToken ∧ record.status = .running) ∨
      (view = .done record.cancellationToken ∧ record.status.isTerminal = true ∧
        outcome record.cancellationToken = some record.status) := by
  cases view with
  | unknown => contradiction
  | running n =>
    obtain rfl := Option.some.inj h
    exact .inl ⟨rfl, rfl⟩
  | done n =>
    obtain ⟨rfl, hterminal, houtcome⟩ := h record rfl
    exact .inr ⟨rfl, hterminal, houtcome⟩

/-- A status that is read off a record is attributed. -/
theorem RecordOk.attributed {outcome : ℕ → Option TaskStatus} {views : Views}
    {record : TaskRecord} (h : RecordOk outcome (views taskId) (some record)) (envelope : ℕ) :
    Attributed outcome ⟨envelope, .status (some (record.response taskId)),
      latestFor views (.status (some (record.response taskId)))⟩ := by
  intro response hreply hterminal
  cases hreply
  rcases h.of_some with ⟨-, hrunning⟩ | ⟨hdone, -, houtcome⟩
  · rw [TaskRecord.response, hrunning] at hterminal
    contradiction
  · refine ⟨record.cancellationToken, ?_, houtcome⟩
    show (views taskId).latest = _
    rw [hdone]
    rfl

/-- The record of a task after a message is handled that was expected. -/
theorem RecordOk.after {outcome : ℕ → Option TaskStatus} {views : Views} {posted : Posted}
    {record? : Option TaskRecord} (h : RecordOk outcome (views taskId) record?)
    (hexpected : Expected views posted)
    (houtcome : ∀ n status, posted = ⟨.submission n, .taskCompleted taskId status⟩ →
      status.isTerminal = true ∧ outcome n = some status) :
    RecordOk outcome (views.after posted taskId) (recordAfter taskId posted.message record?) := by
  obtain ⟨sender, message⟩ := posted
  cases message with
  -- a registration makes a new record, in the place of one that was there
  | registerTask other n =>
    show RecordOk outcome (Function.update views other (.running n) taskId) _
    by_cases hsame : taskId = other
    · subst hsame
      rw [Function.update_self, recordAfter, if_pos rfl]
      rfl
    · rw [Function.update_of_ne hsame, recordAfter, if_neg hsame]
      exact h
  -- the record of a task that has ended keeps its status
  | taskCompleted other status =>
    obtain ⟨n, rfl, hrunning⟩ := hexpected
    rw [Views.after, if_pos hrunning]
    by_cases hsame : taskId = other
    · subst hsame
      rw [hrunning] at h
      rw [Function.update_self, recordAfter, if_pos rfl, show record? = _ from h]
      intro record hrecord
      obtain rfl := Option.some.inj hrecord
      exact ⟨rfl, houtcome n status rfl⟩
    · rw [Function.update_of_ne hsame, recordAfter, if_neg hsame]
      exact h
  -- a cleanup takes away the records of tasks that have ended, and no others
  | cleanupFinishedTasks envelope =>
    show RecordOk outcome (views taskId) (record?.filter _)
    cases hview : views taskId with
    | unknown =>
      rw [hview] at h
      rw [show record? = none from h]
      rfl
    | running n =>
      rw [hview] at h
      rw [show record? = _ from h]
      rfl
    | done n =>
      rw [hview] at h
      intro record hrecord
      exact h record (Option.filter_eq_some_iff.mp hrecord).1
  | cancelTask other => exact h
  | waitForTask other envelope => exact h
  | getTaskStatus other envelope => exact h
  | getAllTaskStatuses envelope => exact h

/-- Somebody who waits for a task is parked while it runs, and is answered at once otherwise. -/
theorem EnvelopeInv.waits {s : BackgroundWorkerState} {n : WorkerNotes} {sender : Sender}
    {taskId : String} {envelope : ℕ} {rest : List Posted} {next : ℕ}
    {outcome : ℕ → Option TaskStatus}
    (h : EnvelopeInv s.waiters (mailOf (⟨sender, .waitForTask taskId envelope⟩ :: rest)) next
      outcome n)
    (hrecord : RecordOk outcome (n.views taskId) (s.tasks.lookup taskId)) :
    EnvelopeInv (s.handle (.waitForTask taskId envelope)).state.waiters (mailOf rest) next outcome
      (n.handled s ⟨sender, .waitForTask taskId envelope⟩) := by
  cases hlookup : s.tasks.lookup taskId with
  -- a task that nobody has registered: the caller is told so
  | none =>
    have hnotes : n.handled s ⟨sender, .waitForTask taskId envelope⟩
        = { n with
            envelopes := Function.update n.envelopes envelope (.waited taskId none)
            answered := n.answered ++ [⟨envelope, .status none, none⟩] } := by
      simp [WorkerNotes.handled, BackgroundWorkerState.handle, envelopesAfter, Views.after,
        waitingState, latestFor, hlookup]
    have hwaiters : (s.handle (.waitForTask taskId envelope)).state.waiters = s.waiters := by
      simp [BackgroundWorkerState.handle, hlookup]
    rw [hnotes, hwaiters]
    exact EnvelopeInv.answer h rfl (fun _ hnone => by cases hnone) rfl
  | some record =>
    rw [hlookup] at hrecord
    -- a task that is running: the caller is parked; one that has ended: it is answered at once
    rcases hrecord.of_some with ⟨hview, hrunning⟩ | ⟨hview, hterminal, hstatus⟩
    · have hnotes : n.handled s ⟨sender, .waitForTask taskId envelope⟩
          = { n with
              envelopes := Function.update n.envelopes envelope
                (.parked taskId record.cancellationToken) } := by
        simp [WorkerNotes.handled, BackgroundWorkerState.handle, envelopesAfter, Views.after,
          waitingState, hlookup, hrunning, TaskStatus.isTerminal]
      have hwaiters : (s.handle (.waitForTask taskId envelope)).state.waiters
          = s.waiters.insert taskId ((s.waiters.lookup taskId).getD [] ++ [envelope]) := by
        simp [BackgroundWorkerState.handle, hlookup, hrunning, TaskStatus.isTerminal]
      rw [hnotes, hwaiters]
      exact EnvelopeInv.park h hview
    · have hnotes : n.handled s ⟨sender, .waitForTask taskId envelope⟩
          = { n with
              envelopes := Function.update n.envelopes envelope
                (.waited taskId (some record.cancellationToken))
              answered := n.answered ++ [⟨envelope, .status (some (record.response taskId)),
                latestFor n.views (.status (some (record.response taskId)))⟩] } := by
        simp [WorkerNotes.handled, BackgroundWorkerState.handle, envelopesAfter, Views.after,
          waitingState, hlookup, hterminal]
      have hwaiters : (s.handle (.waitForTask taskId envelope)).state.waiters
          = s.waiters := by
        simp [BackgroundWorkerState.handle, hlookup, hterminal]
      rw [hnotes, hwaiters]
      exact EnvelopeInv.answer h rfl (hrecord.attributed envelope) ⟨_, rfl, hstatus⟩

/-- The envelopes after a message is handled that was expected. -/
theorem EnvelopeInv.handled {s : BackgroundWorkerState} {n : WorkerNotes} {posted : Posted}
    {rest : List Posted} {next : ℕ} {outcome : ℕ → Option TaskStatus}
    (h : EnvelopeInv s.waiters (mailOf (posted :: rest)) next outcome n)
    (hexpected : Expected n.views posted)
    (hrecords : ∀ taskId, RecordOk outcome (n.views taskId) (s.tasks.lookup taskId))
    (houtcome : ∀ m taskId status, posted = ⟨.submission m, .taskCompleted taskId status⟩ →
      outcome m = some status) :
    EnvelopeInv (s.handle posted.message).state.waiters (mailOf rest) next outcome
      (n.handled s posted) := by
  obtain ⟨sender, message⟩ := posted
  cases message with
  -- a task is registered: its view is now that of the new submission
  | registerTask taskId m =>
    have hnotes : n.handled s ⟨sender, .registerTask taskId m⟩
        = { n with views := Function.update n.views taskId (.running m) } := by
      simp [WorkerNotes.handled, BackgroundWorkerState.handle, envelopesAfter, Views.after]
    rw [hnotes]
    exact EnvelopeInv.register h hexpected.1
  -- a task has ended: all who wait for it are answered
  | taskCompleted taskId status =>
    obtain ⟨m, rfl, hrunning⟩ := hexpected
    have hnotes : n.handled s ⟨.submission m, .taskCompleted taskId status⟩
        = { views := Function.update n.views taskId (.done m)
            envelopes := fun e => (n.envelopes e).released taskId
            answered := n.answered ++ (((s.waiters.lookup taskId).getD []).map fun e =>
              ⟨e, .status (some ⟨taskId, status⟩), some m⟩) } := by
      simp [WorkerNotes.handled, BackgroundWorkerState.handle, envelopesAfter, Views.after,
        latestFor, hrunning, View.latest]
    rw [hnotes]
    exact EnvelopeInv.complete h hrunning (houtcome m taskId status rfl)
  -- a cancellation answers nobody
  | cancelTask taskId =>
    have hnotes : n.handled s ⟨sender, .cancelTask taskId⟩ = n := by
      simp [WorkerNotes.handled, BackgroundWorkerState.handle, envelopesAfter, Views.after]
    rw [hnotes]
    exact h
  | waitForTask taskId envelope => exact EnvelopeInv.waits h (hrecords taskId)
  -- the status of a task is what its record says, or that there is none
  | getTaskStatus taskId envelope =>
    refine EnvelopeInv.answer h rfl ?_ trivial
    cases hlookup : s.tasks.lookup taskId with
    | none =>
      intro response hnone
      cases hnone
    | some record =>
      have hrecord := hrecords taskId
      rw [hlookup] at hrecord
      exact hrecord.attributed envelope
  -- these answers speak of no single task
  | getAllTaskStatuses envelope =>
    exact EnvelopeInv.answer h rfl (fun _ hstatuses => by cases hstatuses) trivial
  | cleanupFinishedTasks envelope =>
    exact EnvelopeInv.answer h rfl (fun _ hremoved => by cases hremoved) trivial

/-- **The agent handles a message**, and the whole invariant holds of what it leaves behind. -/
theorem WorkerInv.handle (h : WorkerInv s) : WorkerInv (workerStep s .handle) := by
  rw [workerStep, WorkerSystem.step, WorkerNotes.after]
  cases hmailbox : s.1.mailbox with
  | nil => exact h
  | cons posted rest =>
    obtain ⟨hexpected, hprotocol⟩ :=
      h.protocol.handled hmailbox (s.1.agent.handle posted.message)
    have houtcome : ∀ m taskId status, posted = ⟨.submission m, .taskCompleted taskId status⟩ →
        s.1.outcome m = some status := by
      rintro m taskId status rfl
      exact h.protocol.outcomes m taskId status (hmailbox ▸ List.mem_cons_self)
    refine ⟨hprotocol, h.terminal, fun taskId => ?_, ?_⟩
    · show RecordOk s.1.outcome _ ((s.1.agent.handle posted.message).state.tasks.lookup taskId)
      rw [lookup_handle]
      refine (h.records taskId).after hexpected fun m status hposted => ?_
      have hstatus := houtcome m taskId status hposted
      exact ⟨h.terminal.isTerminal hstatus, hstatus⟩
    · have henvelopes := h.envelopes
      rw [hmailbox] at henvelopes
      exact henvelopes.handled hexpected h.records houtcome

/-- A submission that moves on leaves the agent and the envelopes. -/
theorem frame_move (s : WorkerSystem) (n : ℕ) (submission : Submission) (move : Move) :
    (s.move n submission move).agent = s.agent ∧
      (s.move n submission move).envelopes = s.envelopes ∧
      mailOf (s.move n submission move).mailbox = mailOf s.mailbox := by
  have hsend : ∀ sender message, message.envelope? = none →
      mailOf (s.mailbox ++ [⟨sender, message⟩]) = mailOf s.mailbox := by
    intro sender message hnone
    simp [mailOf, hnone]
  have hmoved := WorkerSystem.moved_move s n submission move
  generalize s.move n submission move = s' at hmoved ⊢
  cases hmoved with
  | stays => exact ⟨rfl, rfl, rfl⟩
  | acquires => exact ⟨rfl, rfl, rfl⟩
  | registers => exact ⟨rfl, rfl, hsend _ _ rfl⟩
  | spawns => exact ⟨rfl, rfl, rfl⟩
  | resolves => exact ⟨rfl, rfl, rfl⟩
  | reports => exact ⟨rfl, rfl, hsend _ _ rfl⟩
  | releases => exact ⟨rfl, rfl, rfl⟩
  | panics => exact ⟨rfl, rfl, rfl⟩

/-- **What holds is kept by every action that is undisturbed.** -/
theorem WorkerInv.step (h : WorkerInv s) {a : WorkerAction} (ha : Undisturbed s.1 a) :
    WorkerInv (workerStep s a) := by
  have hoccurs : ∀ task status, s.1.outcome task = some status →
      (s.1.step a).outcome task = some status := fun task status => outcome_step a
  have hterminal := h.terminal.step a
  have hrecords : ∀ taskId, RecordOk (s.1.step a).outcome (s.2.views taskId)
      (s.1.agent.tasks.lookup taskId) := fun taskId => (h.records taskId).mono hoccurs
  have henvelopes := h.envelopes.mono hoccurs
  cases a with
  | handle => exact h.handle
  | submit taskId => exact ⟨h.protocol.submit taskId, hterminal, hrecords, henvelopes⟩
  | post request =>
    refine ⟨h.protocol.post request, hterminal, hrecords, ?_⟩
    show EnvelopeInv s.1.agent.waiters (mailOf (s.1.mailbox ++ [_])) (s.1.envelopes + 1) _ s.2
    rw [mailOf, List.filterMap_append]
    cases request with
    | cancelTask taskId =>
      rw [show List.filterMap _ [_] = ([] : List ℕ) from rfl, List.append_nil]
      exact henvelopes.skip
    | waitForTask taskId => exact henvelopes.post
    | getTaskStatus taskId => exact henvelopes.post
    | getAllTaskStatuses => exact henvelopes.post
    | cleanupFinishedTasks => exact henvelopes.post
  | move n move =>
    rw [workerStep, WorkerSystem.step] at *
    cases hn : s.1.submissions[n]? with
    | none => exact h
    | some submission =>
      rw [hn] at hterminal hrecords henvelopes
      obtain ⟨hagent, hnext, hmail⟩ := frame_move s.1 n submission move
      refine ⟨h.protocol.move hn move ha, hterminal, ?_, ?_⟩
      · rw [hagent]
        exact hrecords
      · rw [hagent, hnext, hmail]
        exact henvelopes

/-- No task is on record as running, and no caller waits for one. -/
structure NothingRunning (agent : BackgroundWorkerState) : Prop where
  records : ∀ taskId record, agent.tasks.lookup taskId = some record → record.status ≠ .running
  waiters : ∀ taskId parked, agent.waiters.lookup taskId = some parked → parked = []

/-- The mailbox is empty, and every task that was registered has ended, or is only about to give its
permit back. -/
structure AtRest (s : WorkerSystem) : Prop where
  mailbox : s.mailbox = []
  submissions : ∀ submission ∈ s.submissions, submission.phase.unreported = false

/-- **Where everything has ended, nobody waits.** -/
theorem WorkerInv.nothingRunning (h : WorkerInv s) (hrest : AtRest s.1) :
    NothingRunning s.1.agent := by
  have hview : ∀ taskId n, s.2.views taskId ≠ .running n := by
    intro taskId n hview
    have hrunning := h.protocol.running taskId n
    rw [hrest.mailbox] at hrunning
    obtain ⟨submission, hn, -, hunreported⟩ := hrunning.mp hview
    rw [hrest.submissions submission (List.mem_of_getElem? hn)] at hunreported
    contradiction
  constructor
  · intro taskId record hlookup hstatus
    have hrecord := h.records taskId
    rw [hlookup] at hrecord
    rcases hrecord.of_some with ⟨hrunning, -⟩ | ⟨-, hterminal, -⟩
    · exact hview _ _ hrunning
    · rw [hstatus] at hterminal
      contradiction
  · intro taskId parked hlookup
    refine List.eq_nil_iff_forall_not_mem.mpr fun e he => ?_
    obtain ⟨task, hrunning, -⟩ := (h.envelopes.waiters taskId parked hlookup).2 e he
    exact hview _ _ hrunning

theorem workerInv_spawned (maxConcurrentTasks : ℕ) : WorkerInv (spawned maxConcurrentTasks) := by
  refine ⟨protocolInv_spawn _, fun _ hsub => absurd hsub List.not_mem_nil, fun _ => rfl, ?_⟩
  refine ⟨List.nodup_nil, fun _ he => absurd he List.not_mem_nil, fun _ _ => rfl, ?_,
    List.nodup_nil, fun _ ha => absurd ha List.not_mem_nil, fun _ ha => absurd ha List.not_mem_nil⟩
  intro taskId parked hlookup
  contradiction

end Runs

/-- **What the worker tells is what has become of the task that was registered last**, in every
run in which no work panics and no task registers while another one of its identifier has still to
report.  Once everything has ended, no record is running and nobody waits. -/
theorem attributed_of_reach (maxConcurrentTasks : ℕ) {s : WorkerSystem × WorkerNotes}
    (h : Reach workerStep (fun s a => Undisturbed s.1 a) (spawned maxConcurrentTasks) s) :
    (∀ a ∈ s.2.answered, Attributed s.1.outcome a) ∧ (AtRest s.1 → NothingRunning s.1.agent) := by
  have hinv : WorkerInv s :=
    h.invariant (workerInv_spawned maxConcurrentTasks) fun _ _ hs ha => hs.step ha
  exact ⟨hinv.envelopes.attributed, hinv.nothingRunning⟩

/-! ### Samples -/

/-- A submission has spawned its task. -/
def sampleSubmit (n : ℕ) (taskId : String) : List WorkerAction :=
  [.submit taskId, .move n .acquire, .move n .register, .move n .spawn]

/-- What these actions come to, for a worker that runs one task at a time. -/
def sampleWorkerRun (as : List WorkerAction) : WorkerSystem × WorkerNotes :=
  as.foldl workerStep (spawned 1)

/-- Somebody waits for a task that succeeds, and asks again. -/
def sampleWorked : List WorkerAction :=
  sampleSubmit 0 "job" ++
    [.post (.waitForTask "job"), .handle, .handle, .move 0 (.resolve (.ok ())),
      .move 0 .report, .move 0 .release, .handle, .post (.getTaskStatus "job"), .handle]

theorem attributed_of_reach_sample :
    (sampleWorkerRun sampleWorked).2.answered
      = [⟨0, .status (some ⟨"job", .completed⟩), some 0⟩,
        ⟨1, .status (some ⟨"job", .completed⟩), some 0⟩] ∧
    (∀ a ∈ (sampleWorkerRun sampleWorked).2.answered,
      Attributed (sampleWorkerRun sampleWorked).1.outcome a) ∧
    NothingRunning (sampleWorkerRun sampleWorked).1.agent := by
  have hrun : Reach workerStep (fun s a => Undisturbed s.1 a) (spawned 1)
      (sampleWorkerRun sampleWorked) :=
    Reach.start.foldl (by decide +kernel)
  obtain ⟨hattributed, hnothing⟩ := attributed_of_reach 1 hrun
  exact ⟨by decide +kernel, hattributed, hnothing ⟨by decide +kernel, by decide +kernel⟩⟩

/-- A second task of an identifier registers while the first is running, which then ends. -/
def sampleOverlapping : List WorkerAction :=
  sampleSubmit 0 "job" ++ sampleSubmit 1 "job" ++ [.move 0 (.resolve (.ok ())), .move 0 .report,
    .post (.waitForTask "job"), .handle, .handle, .handle, .handle]

/-- The work of a task panics, and somebody waits for it. -/
def samplePanicked : List WorkerAction :=
  sampleSubmit 0 "job" ++ [.move 0 .panic, .post (.waitForTask "job"), .handle, .handle]

/-- A completion can be taken for that of another task, and one that is never sent leaves a record
running. -/
theorem not_forall_attributed :
    (¬ ∀ (maxConcurrentTasks : ℕ) (s : WorkerSystem × WorkerNotes),
      Reach workerStep (fun _ _ => True) (spawned maxConcurrentTasks) s →
        ∀ a ∈ s.2.answered, Attributed s.1.outcome a) ∧
    ¬ ∀ (maxConcurrentTasks : ℕ) (s : WorkerSystem × WorkerNotes),
      Reach workerStep (fun _ _ => True) (spawned maxConcurrentTasks) s →
        AtRest s.1 → NothingRunning s.1.agent := by
  have hrun : ∀ as : List WorkerAction,
      Reach workerStep (fun _ _ => True) (spawned 0) (as.foldl workerStep (spawned 0)) :=
    fun as => Reach.start.foldl (Allowed.of_forall (fun _ _ _ => trivial) _)
  constructor
  · intro h
    have hanswered : (sampleOverlapping.foldl workerStep (spawned 0)).2.answered
        = [⟨0, .status (some ⟨"job", .completed⟩), some 1⟩] := by
      decide +kernel
    have hattributed := h 0 _ (hrun sampleOverlapping)
    rw [hanswered] at hattributed
    obtain ⟨task, hlatest, houtcome⟩ := hattributed _ (List.mem_singleton_self _) _ rfl rfl
    cases hlatest
    exact absurd houtcome (by decide +kernel)
  · intro h
    have hnothing := h 0 _ (hrun samplePanicked) ⟨by decide +kernel, by decide +kernel⟩
    have hrecord : (samplePanicked.foldl workerStep (spawned 0)).1.agent.tasks.lookup "job"
        = some ⟨0, .running⟩ := by
      decide +kernel
    exact hnothing.records "job" _ hrecord rfl

end ActonService
