import ActonService.Agents.BackgroundWorker

/-!
# The protocol between the tasks and their worker

What the messages in the mailbox will make of the agent's idea of a task.  A task registers before
it reports, and the mailbox keeps the order, so that the agent hears of a task once when it begins
and once when it has ended, as long as the tasks of one identifier do not overlap.

## Main definitions

* `View` — which task was registered last under an identifier, and whether it has reported.
* `Expected` — a message that fits in with the view.
* `Undisturbed` — nothing panics, and no identifier is registered again before its task has
  reported.

## Main results

* `holders_of_reach` — **permits are not exceeded.**
* `ProtocolInv.step` — **every message in the mailbox will be expected when it is handled.**
-/

namespace ActonService

open Run

/-! ### Permits -/

namespace WorkerSystem

variable {s : WorkerSystem} {n : ℕ} {submission : Submission}

/-- The submissions that hold a permit. -/
def holders (s : WorkerSystem) : ℕ :=
  s.submissions.countP fun submission => submission.phase.holdsPermit

/-- The permits after a submission has entered another phase. -/
theorem holders_enter (h : s.submissions[n]? = some submission) (phase : Phase) :
    (s.enter n submission phase).holders + (if submission.phase.holdsPermit then 1 else 0)
      = s.holders + if phase.holdsPermit then 1 else 0 := by
  obtain ⟨hn, rfl⟩ := List.getElem?_eq_some_iff.mp h
  have hle : (if s.submissions[n].phase.holdsPermit then 1 else 0) ≤ s.holders := by
    split
    · next hholds => exact List.countP_pos_iff.mpr ⟨_, List.getElem_mem hn, hholds⟩
    · exact Nat.zero_le _
  rw [holders, enter, List.countP_set hn]
  simp only [holders] at hle ⊢
  omega

/-- The permits that are left and those that are held are as many as there may be. -/
structure PermitsInv (maxConcurrentTasks : ℕ) (s : WorkerSystem) : Prop where
  unlimited : maxConcurrentTasks = 0 → s.permits = none
  limited : 0 < maxConcurrentTasks →
    ∃ free, s.permits = some free ∧ free + s.holders = maxConcurrentTasks

theorem permitsInv_spawn (maxConcurrentTasks : ℕ) :
    PermitsInv maxConcurrentTasks (spawn maxConcurrentTasks) := by
  refine ⟨fun hnone => ?_, fun hsome => ⟨maxConcurrentTasks, if_pos hsome, Nat.add_zero _⟩⟩
  subst hnone
  rfl

/-- A submission that keeps its permit, or has none. -/
theorem PermitsInv.enter {maxConcurrentTasks : ℕ} (h : PermitsInv maxConcurrentTasks s)
    (hn : s.submissions[n]? = some submission) (phase : Phase)
    (hsame : phase.holdsPermit = submission.phase.holdsPermit) :
    PermitsInv maxConcurrentTasks (s.enter n submission phase) := by
  have hholders := holders_enter hn phase
  rw [hsame] at hholders
  refine ⟨h.unlimited, fun hlimit => ?_⟩
  obtain ⟨free, hfree, hsum⟩ := h.limited hlimit
  exact ⟨free, hfree, by omega⟩

/-- A permit that is given back is free again, and its submission holds none. -/
theorem PermitsInv.release {maxConcurrentTasks : ℕ} (h : PermitsInv maxConcurrentTasks s)
    (hn : s.submissions[n]? = some submission) {phase : Phase}
    (hbefore : submission.phase.holdsPermit = true) (hafter : phase.holdsPermit = false) :
    PermitsInv maxConcurrentTasks
      { s.enter n submission phase with permits := s.permits.map (· + 1) } := by
  have hholders := holders_enter hn phase
  rw [hbefore, hafter] at hholders
  refine ⟨fun hnone => ?_, fun hlimit => ?_⟩
  · show s.permits.map (· + 1) = none
    rw [h.unlimited hnone]
    rfl
  · obtain ⟨free, hfree, hsum⟩ := h.limited hlimit
    refine ⟨free + 1, ?_, ?_⟩
    · show s.permits.map (· + 1) = some (free + 1)
      rw [hfree]
      rfl
    · show free + 1 + (s.enter n submission phase).holders = maxConcurrentTasks
      simp only [if_true, Bool.false_eq_true, if_false] at hholders
      omega

/-- A permit that is taken is one of those that were free, and the submission that waited holds it.
-/
theorem PermitsInv.acquire {maxConcurrentTasks : ℕ} (h : PermitsInv maxConcurrentTasks s)
    (hn : s.submissions[n]? = some submission) (hphase : submission.phase = .waiting)
    (hfree : s.permits ≠ some 0) :
    PermitsInv maxConcurrentTasks
      { s.enter n submission .acquired with permits := s.permits.map (· - 1) } := by
  have hholders := holders_enter hn .acquired
  rw [hphase] at hholders
  refine ⟨fun hnone => ?_, fun hlimit => ?_⟩
  · show s.permits.map (· - 1) = none
    rw [h.unlimited hnone]
    rfl
  · -- what is free and what is held make up the limit before and after
    obtain ⟨free, hsome, hsum⟩ := h.limited hlimit
    have hpositive : free ≠ 0 := by
      rintro rfl
      exact hfree hsome
    refine ⟨free - 1, ?_, ?_⟩
    · show s.permits.map (· - 1) = some (free - 1)
      rw [hsome]
      rfl
    · show free - 1 + (s.enter n submission .acquired).holders = maxConcurrentTasks
      simp only [Phase.holdsPermit, Bool.false_eq_true, if_false, if_true] at hholders
      omega

/-- **Every action keeps the count of the permits.** -/
theorem PermitsInv.step {maxConcurrentTasks : ℕ} (h : PermitsInv maxConcurrentTasks s)
    (a : WorkerAction) : PermitsInv maxConcurrentTasks (s.step a) := by
  cases a with
  | submit taskId =>
    have hholders : (s.step (.submit taskId)).holders = s.holders := by
      show List.countP _ (s.submissions ++ [_]) = _
      rw [List.countP_append]
      rfl
    exact ⟨h.unlimited, fun hlimit => hholders ▸ h.limited hlimit⟩
  | post request => exact ⟨h.unlimited, h.limited⟩
  | handle =>
    rw [WorkerSystem.step]
    split
    · exact h
    · exact ⟨h.unlimited, h.limited⟩
  | move n move =>
    rw [WorkerSystem.step]
    split
    · next submission hn =>
      have hmoved := moved_move s n submission move
      generalize s.move n submission move = s' at hmoved ⊢
      cases hmoved with
      | stays => exact h
      | acquires hphase hfree => exact h.acquire hn hphase hfree
      | registers hphase =>
        have hentered := h.enter hn .registered (by rw [hphase]; rfl)
        exact ⟨hentered.unlimited, hentered.limited⟩
      | spawns hphase => exact h.enter hn _ (by rw [hphase]; rfl)
      | resolves hphase result => exact h.enter hn _ (by rw [hphase]; rfl)
      | @reports status hphase =>
        have hentered := h.enter hn (.reported status) (by rw [hphase]; rfl)
        exact ⟨hentered.unlimited, hentered.limited⟩
      | releases hphase => exact h.release hn (by rw [hphase]; rfl) rfl
      | panics hphase => exact h.release hn (by rw [hphase]; rfl) rfl
    · exact h

/-- **Permits are not exceeded**: no more submissions hold one than may run at the same time. -/
theorem PermitsInv.holders_le {maxConcurrentTasks : ℕ} (h : PermitsInv maxConcurrentTasks s)
    (hlimit : 0 < maxConcurrentTasks) : s.holders ≤ maxConcurrentTasks := by
  obtain ⟨free, -, hsum⟩ := h.limited hlimit
  omega

end WorkerSystem

/-! ### Views -/

/-- Which task was registered last under an identifier, and whether it has reported. -/
inductive View
  | unknown
  | running (n : ℕ)
  | done (n : ℕ)
  deriving DecidableEq, Repr

/-- The task that was registered last. -/
def View.latest : View → Option ℕ
  | .unknown => none
  | .running n | .done n => some n

/-- The views of all identifiers. -/
abbrev Views := String → View

/-- The views after a message is handled. -/
def Views.after (v : Views) : Posted → Views
  | ⟨_, .registerTask taskId n⟩ => Function.update v taskId (.running n)
  | ⟨.submission n, .taskCompleted taskId _⟩ =>
    if v taskId = .running n then Function.update v taskId (.done n) else v
  | _ => v

/-- A task registers where none is running, and the one that is running reports. -/
def Expected (v : Views) : Posted → Prop
  | ⟨_, .registerTask taskId n⟩ =>
    (∀ m, v taskId ≠ .running m) ∧ ∀ other, (v other).latest ≠ some n
  | ⟨sender, .taskCompleted taskId _⟩ => ∃ n, sender = .submission n ∧ v taskId = .running n
  | _ => True

/-- A submission that has registered its task. -/
def Phase.hasRegistered : Phase → Bool
  | .waiting | .acquired => false
  | _ => true

/-- No work panics, and a task registers only if all tasks of its identifier have reported that
have registered. -/
def Undisturbed (s : WorkerSystem) : WorkerAction → Prop
  | .move n .register => ∀ submission ∈ s.submissions[n]?, submission.phase = .acquired →
    ∀ other ∈ s.submissions, other.phase.unreported = true → other.taskId ≠ submission.taskId
  | .move n .panic => ∀ submission ∈ s.submissions[n]?, submission.phase ≠ .running
  | _ => True

instance decidableUndisturbed (s : WorkerSystem) : ∀ a, Decidable (Undisturbed s a)
  | .move n .register => inferInstanceAs (Decidable (∀ submission ∈ s.submissions[n]?,
    submission.phase = .acquired → ∀ other ∈ s.submissions, other.phase.unreported = true →
      other.taskId ≠ submission.taskId))
  | .move n .panic => inferInstanceAs (Decidable (∀ submission ∈ s.submissions[n]?,
    submission.phase ≠ .running))
  | .submit _ | .post _ | .handle | .move _ .acquire | .move _ .spawn | .move _ (.resolve _)
  | .move _ .report | .move _ .release => .isTrue trivial

/-- **What the mailbox will make of the views.** -/
structure ProtocolInv (s : WorkerSystem) (views : Views) : Prop where
  expected : Allowed Views.after Expected views s.mailbox
  running : ∀ taskId n, s.mailbox.foldl Views.after views taskId = .running n ↔
    ∃ submission, s.submissions[n]? = some submission ∧
      submission.taskId = taskId ∧ submission.phase.unreported = true
  latest : ∀ taskId n, (s.mailbox.foldl Views.after views taskId).latest = some n →
    ∃ submission, s.submissions[n]? = some submission ∧ submission.phase.hasRegistered = true
  outcomes : ∀ n taskId status, ⟨.submission n, .taskCompleted taskId status⟩ ∈ s.mailbox →
    s.outcome n = some status

section Protocol

variable {s : WorkerSystem} {views : Views} {n : ℕ} {submission : Submission} {phase : Phase}

/-- A property of a submission that does not change with its phase. -/
theorem exists_getElem?_set {P : Submission → Prop} {new : Submission} {subs : List Submission}
    (hn : subs[n]? = some submission) (hP : P new ↔ P submission) (m : ℕ) :
    (∃ sub, (subs.set n new)[m]? = some sub ∧ P sub) ↔ ∃ sub, subs[m]? = some sub ∧ P sub := by
  by_cases hm : n = m
  · subst hm
    have hlt := (List.getElem?_eq_some_iff.mp hn).1
    simp [List.getElem?_set_self hlt, hn, hP]
  · rw [List.getElem?_set_ne hm]

/-- A new submission without a property. -/
theorem exists_getElem?_concat {P : Submission → Prop} {new : Submission} {subs : List Submission}
    (hP : ¬P new) (m : ℕ) :
    (∃ sub, (subs ++ [new])[m]? = some sub ∧ P sub) ↔ ∃ sub, subs[m]? = some sub ∧ P sub := by
  rcases lt_trichotomy m subs.length with hm | hm | hm
  · rw [List.getElem?_append_left hm]
  · subst hm
    simp [hP]
  · have hconcat : (subs ++ [new])[m]? = none := by
      rw [List.getElem?_eq_none_iff, List.length_append]
      exact hm
    rw [hconcat, List.getElem?_eq_none_iff.mpr hm.le]

theorem protocolInv_spawn (maxConcurrentTasks : ℕ) :
    ProtocolInv (.spawn maxConcurrentTasks) fun _ => .unknown where
  expected := trivial
  running := fun taskId n => by simp [WorkerSystem.spawn]
  latest := fun taskId n h => by simp [WorkerSystem.spawn, View.latest] at h
  outcomes := fun n taskId status h => absurd h List.not_mem_nil

/-- What is known of a task stays so while it moves on. -/
def Phase.Leads (phase phase' : Phase) : Prop :=
  ∀ status, phase.outcome = some status → phase'.outcome = some status

theorem outcome_enter (hn : s.submissions[n]? = some submission)
    (hleads : submission.phase.Leads phase) {m : ℕ} {status : TaskStatus}
    (h : s.outcome m = some status) : (s.enter n submission phase).outcome m = some status := by
  have hlt := (List.getElem?_eq_some_iff.mp hn).1
  rw [WorkerSystem.outcome] at h ⊢
  by_cases hm : n = m
  · subst hm
    rw [hn, Option.bind_some] at h
    rw [WorkerSystem.enter, List.getElem?_set_self hlt, Option.bind_some]
    exact hleads status h
  · rw [WorkerSystem.enter, List.getElem?_set_ne hm]
    exact h

theorem Phase.Leads.of_none {phase phase' : Phase} (h : phase.outcome = none) :
    phase.Leads phase' := by
  intro status hstatus
  rw [h] at hstatus
  contradiction

theorem outcome_submit (taskId : String) {m : ℕ} {status : TaskStatus}
    (h : s.outcome m = some status) : (s.step (.submit taskId)).outcome m = some status := by
  obtain ⟨sub, hsub, hstatus⟩ := Option.bind_eq_some_iff.mp h
  refine Option.bind_eq_some_iff.mpr ⟨sub, ?_, hstatus⟩
  exact (List.getElem?_append_left (List.getElem?_eq_some_iff.mp hsub).1).trans hsub

/-- What a submission that moves on leads to. -/
theorem outcome_move (hn : s.submissions[n]? = some submission) (move : Move) {m : ℕ}
    {status : TaskStatus} (h : s.outcome m = some status) :
    (s.move n submission move).outcome m = some status := by
  have hmoved := WorkerSystem.moved_move s n submission move
  generalize s.move n submission move = s' at hmoved ⊢
  cases hmoved with
  | stays => exact h
  | acquires hphase => exact outcome_enter hn (.of_none (by rw [hphase]; rfl)) h
  | registers hphase => exact outcome_enter hn (.of_none (by rw [hphase]; rfl)) h
  | spawns hphase => exact outcome_enter hn (.of_none (by rw [hphase]; rfl)) h
  | resolves hphase result => exact outcome_enter hn (.of_none (by rw [hphase]; rfl)) h
  | reports hphase => exact outcome_enter hn (by rw [hphase]; exact fun _ => id) h
  | releases hphase => exact outcome_enter hn (by rw [hphase]; exact fun _ => id) h
  | panics hphase => exact outcome_enter hn (.of_none (by rw [hphase]; rfl)) h

/-- **What has become of a task stays so.** -/
theorem outcome_step (a : WorkerAction) {m : ℕ} {status : TaskStatus}
    (h : s.outcome m = some status) : (s.step a).outcome m = some status := by
  cases a with
  | submit taskId => exact outcome_submit taskId h
  | post request => exact h
  | handle =>
    rw [WorkerSystem.step]
    split
    · exact h
    · exact h
  | move n move =>
    rw [WorkerSystem.step]
    split
    · next submission hn => exact outcome_move hn move h
    · exact h

/-- A submission that has still to report, or has not. -/
theorem ProtocolInv.enter (h : ProtocolInv s views) (hn : s.submissions[n]? = some submission)
    (phase : Phase)
    (hunreported : phase.unreported = submission.phase.unreported)
    (hregistered : submission.phase.hasRegistered = true → phase.hasRegistered = true)
    (hleads : submission.phase.Leads phase) : ProtocolInv (s.enter n submission phase) views where
  expected := h.expected
  running taskId m := by
    refine (h.running taskId m).trans (exists_getElem?_set hn ?_ m).symm
    rw [hunreported]
  latest taskId m hlatest := by
    obtain ⟨sub, hsub, hbefore⟩ := h.latest taskId m hlatest
    have hlt := (List.getElem?_eq_some_iff.mp hn).1
    by_cases hm : n = m
    · subst hm
      cases hn.symm.trans hsub
      exact ⟨_, List.getElem?_set_self hlt, hregistered hbefore⟩
    · exact ⟨sub, (List.getElem?_set_ne hm).trans hsub, hbefore⟩
  outcomes m taskId status hmem := outcome_enter hn hleads (h.outcomes m taskId status hmem)

/-- A task tells the agent about itself, which is then the last to have been registered. -/
theorem ProtocolInv.send (h : ProtocolInv s views) (hn : s.submissions[n]? = some submission)
    {message : WorkerMessage} {view : View}
    (hexpected : Expected (s.mailbox.foldl Views.after views) ⟨.submission n, message⟩)
    (hafter : Views.after (s.mailbox.foldl Views.after views) ⟨.submission n, message⟩
      = Function.update (s.mailbox.foldl Views.after views) submission.taskId view)
    (hlatest : view.latest = some n)
    (hothers : ∀ m, m ≠ n →
      s.mailbox.foldl Views.after views submission.taskId ≠ .running m)
    (hunreported : view = .running n ↔ phase.unreported = true)
    (hregistered : phase.hasRegistered = true) (hleads : submission.phase.Leads phase)
    (houtcome : ∀ taskId status, message = .taskCompleted taskId status →
      s.outcome n = some status) :
    ProtocolInv ((s.enter n submission phase).send (.submission n) message) views := by
  have hlt := (List.getElem?_eq_some_iff.mp hn).1
  -- what the mailbox leaves of the views is what this message makes of the rest of it
  have hviews : List.foldl Views.after views (s.mailbox ++ [⟨.submission n, message⟩])
      = Function.update (s.mailbox.foldl Views.after views) submission.taskId view := by
    rw [List.foldl_append]
    exact hafter
  refine ⟨allowed_append.mpr ⟨h.expected, hexpected, trivial⟩, fun taskId m => ?_,
    fun taskId m hm => ?_, fun m taskId status hmem => outcome_enter hn hleads ?_⟩
  · -- the message comes last, so the view it leaves of its task is the one that counts
    show List.foldl Views.after views (s.mailbox ++ [_]) taskId = .running m ↔
      ∃ sub, (s.submissions.set n _)[m]? = some sub ∧ _
    rw [hviews]
    -- the task's own submission, and after it those of the others
    by_cases hsame : n = m
    · -- the task itself
      subst hsame
      rw [List.getElem?_set_self hlt]
      by_cases htask : taskId = submission.taskId
      · subst htask
        simp [hunreported]
      · rw [Function.update_of_ne htask, h.running]
        refine iff_of_false ?_ fun ⟨sub, hsub, htask', _⟩ => ?_
        · rintro ⟨sub, hsub, htask', -⟩
          cases hn.symm.trans hsub
          exact htask htask'.symm
        · cases hsub
          exact htask htask'.symm
    · rw [List.getElem?_set_ne hsame, ← h.running]
      by_cases htask : taskId = submission.taskId
      · subst htask
        rw [Function.update_self]
        refine iff_of_false (fun heq => hsame ?_) (hothers m (Ne.symm hsame))
        rw [heq] at hlatest
        exact (Option.some.inj hlatest).symm
      · rw [Function.update_of_ne htask]
  · -- what was the latest submission of a task, which for this task is now the sender's
    change (List.foldl Views.after views (s.mailbox ++ [_]) taskId).latest = some m at hm
    show ∃ sub, (s.submissions.set n _)[m]? = some sub ∧ _
    rw [hviews] at hm
    by_cases hsame : n = m
    · subst hsame
      exact ⟨_, List.getElem?_set_self hlt, hregistered⟩
    · rw [List.getElem?_set_ne hsame]
      by_cases htask : taskId = submission.taskId
      · subst htask
        rw [Function.update_self, hlatest] at hm
        exact absurd (Option.some.inj hm) hsame
      · rw [Function.update_of_ne htask] at hm
        exact h.latest taskId m hm
  · -- the outcome that is reported is the one the submission has come to
    rcases List.mem_append.mp hmem with hold | hlast
    · exact h.outcomes m taskId status hold
    · obtain ⟨hsender, hmessage⟩ := Posted.mk.inj (List.mem_singleton.mp hlast)
      cases hsender
      exact houtcome taskId status hmessage.symm

/-- **A task registers**: its message is expected, for no unfinished submission has its identifier.
-/
theorem ProtocolInv.register (h : ProtocolInv s views) (hn : s.submissions[n]? = some submission)
    (hphase : submission.phase = .acquired)
    (hfree : ∀ other ∈ s.submissions, other.phase.unreported = true →
      other.taskId ≠ submission.taskId) :
    ProtocolInv ((s.enter n submission .registered).send (.submission n)
      (.registerTask submission.taskId n)) views := by
  have hnone : ∀ m, s.mailbox.foldl Views.after views submission.taskId ≠ .running m := by
    intro m hrunning
    obtain ⟨sub, hsub, htask, hunreported⟩ := (h.running _ m).mp hrunning
    exact hfree sub (List.mem_of_getElem? hsub) hunreported htask
  have hnew : ∀ taskId, (s.mailbox.foldl Views.after views taskId).latest ≠ some n := by
    intro taskId hlatest
    obtain ⟨sub, hsub, hregistered⟩ := h.latest taskId n hlatest
    cases hn.symm.trans hsub
    rw [hphase] at hregistered
    contradiction
  refine h.send hn ⟨hnone, hnew⟩ rfl rfl (fun m _ => hnone m) (iff_of_true rfl rfl) rfl ?_ ?_
  · intro status hstatus
    rw [hphase] at hstatus
    contradiction
  · intro taskId status hmessage
    contradiction

/-- **A task reports** its end: the message is the one that is expected of a running task. -/
theorem ProtocolInv.report (h : ProtocolInv s views) (hn : s.submissions[n]? = some submission)
    {status : TaskStatus} (hphase : submission.phase = .resolved status) :
    ProtocolInv ((s.enter n submission (.reported status)).send (.submission n)
      (.taskCompleted submission.taskId status)) views := by
  have hrunning : s.mailbox.foldl Views.after views submission.taskId = .running n :=
    (h.running _ n).mpr ⟨submission, hn, rfl, by rw [hphase]; rfl⟩
  refine h.send hn ⟨n, rfl, hrunning⟩ (if_pos hrunning) rfl ?_ ?_ rfl ?_ ?_
  · intro m hm heq
    exact hm (View.running.inj (heq.symm.trans hrunning))
  · exact iff_of_false View.noConfusion Bool.false_ne_true
  · intro status' hstatus
    rw [hphase] at hstatus
    exact hstatus
  · intro taskId status' hmessage
    cases hmessage
    rw [WorkerSystem.outcome, hn, Option.bind_some, hphase]
    rfl

/-- **A message is handled**: it leaves the mailbox, and the view of its task is what the message
makes of it. -/
theorem ProtocolInv.handled {posted : Posted} {rest : List Posted} (h : ProtocolInv s views)
    (hmailbox : s.mailbox = posted :: rest) (handled : Handled) :
    Expected views posted ∧ ProtocolInv (s.handled handled rest) (views.after posted) := by
  have hexpected := h.expected
  have hrunning := h.running
  have hlatest := h.latest
  rw [hmailbox] at hexpected hrunning hlatest
  refine ⟨hexpected.1, hexpected.2, hrunning, hlatest, fun n taskId status hmem => ?_⟩
  exact h.outcomes n taskId status (hmailbox ▸ List.mem_cons_of_mem _ hmem)

/-- A client sends a message, which changes the view of no task. -/
theorem ProtocolInv.post (h : ProtocolInv s views) (request : WorkerRequest) :
    ProtocolInv (s.step (.post request)) views := by
  have hclient : Expected (s.mailbox.foldl Views.after views)
        ⟨.client, request.message s.envelopes⟩ ∧
      Views.after (s.mailbox.foldl Views.after views) ⟨.client, request.message s.envelopes⟩
        = s.mailbox.foldl Views.after views := by
    cases request with
    | cancelTask taskId => exact ⟨trivial, rfl⟩
    | waitForTask taskId => exact ⟨trivial, rfl⟩
    | getTaskStatus taskId => exact ⟨trivial, rfl⟩
    | getAllTaskStatuses => exact ⟨trivial, rfl⟩
    | cleanupFinishedTasks => exact ⟨trivial, rfl⟩
  have hviews : List.foldl Views.after views
      (s.mailbox ++ [⟨.client, request.message s.envelopes⟩])
        = s.mailbox.foldl Views.after views := by
    rw [List.foldl_append]
    exact hclient.2
  refine ⟨allowed_append.mpr ⟨h.expected, hclient.1, trivial⟩, fun taskId n => ?_,
    fun taskId n hlatest => ?_, fun n taskId status hmem => ?_⟩
  · show List.foldl Views.after views (s.mailbox ++ [_]) taskId = .running n ↔ _
    rw [hviews]
    exact h.running taskId n
  · change (List.foldl Views.after views (s.mailbox ++ [_]) taskId).latest = some n at hlatest
    rw [hviews] at hlatest
    exact h.latest taskId n hlatest
  · rcases List.mem_append.mp hmem with hold | hlast
    · exact h.outcomes n taskId status hold
    · obtain ⟨hsender, -⟩ := Posted.mk.inj (List.mem_singleton.mp hlast)
      contradiction

/-- A task is submitted. -/
theorem ProtocolInv.submit (h : ProtocolInv s views) (taskId : String) :
    ProtocolInv (s.step (.submit taskId)) views where
  expected := h.expected
  running other n := (h.running other n).trans
    (exists_getElem?_concat (fun hnew => Bool.false_ne_true hnew.2) n).symm
  latest other n hlatest :=
    (exists_getElem?_concat Bool.false_ne_true n).mpr (h.latest other n hlatest)
  outcomes n other status hmem := outcome_submit taskId (h.outcomes n other status hmem)

/-- A submission moves on: by whichever move, the messages it sends are the ones that are expected.
-/
theorem ProtocolInv.move (h : ProtocolInv s views) (hn : s.submissions[n]? = some submission)
    (move : Move) (hallowed : Undisturbed s (.move n move)) :
    ProtocolInv (s.move n submission move) views := by
  have hmoved := WorkerSystem.moved_move s n submission move
  generalize s.move n submission move = s' at hmoved ⊢
  cases hmoved with
  | stays => exact h
  | acquires hphase =>
    have hentered := h.enter hn .acquired (by rw [hphase]; rfl)
      (by rw [hphase]; exact id) (.of_none (by rw [hphase]; rfl))
    exact ⟨hentered.expected, hentered.running, hentered.latest, hentered.outcomes⟩
  | registers hphase => exact h.register hn hphase (hallowed submission hn hphase)
  | spawns hphase =>
    exact h.enter hn _ (by rw [hphase]; rfl) (by rw [hphase]; exact id)
      (.of_none (by rw [hphase]; rfl))
  | resolves hphase result =>
    exact h.enter hn _ (by rw [hphase]; rfl) (by rw [hphase]; exact id)
      (.of_none (by rw [hphase]; rfl))
  | reports hphase => exact h.report hn hphase
  | @releases status hphase =>
    have hentered := h.enter hn (.ended status) (by rw [hphase]; rfl)
      (by rw [hphase]; exact id) (by rw [hphase]; exact fun _ => id)
    exact ⟨hentered.expected, hentered.running, hentered.latest, hentered.outcomes⟩
  | panics hphase => exact absurd hphase (hallowed submission hn)

end Protocol

end ActonService
