import ActonService.Audit.Agent
import Mathlib.Data.List.DropRight

/-!
# The failure tracker

The tracker of `audit/failure_tracker.rs`, which the writer task and the agent report
every append to.  It raises an alert once the storage has failed for long enough, repeats
it no sooner than a cooldown allows, and announces the recovery.

A call takes the lock, reads the clocks and updates the state before it lets the lock go,
so calls follow one another and the readings of the monotonic clock do not decrease.  An
`unwrap` of a time that is not there is a panic, modelled by `none`.  The hooks an alert
is handed to do not act on the tracker and are left out: a call returns its alert.

## Main definitions

* `FailureTracker.recordFailure`, `FailureTracker.recordSuccess` — the two calls.
* `FailureTracker.run` — a run of calls from a new tracker, with the log of their alerts.
* `currentOutage` — the failures since the last success.
* `EntryLaw` — what the alert of a call has to do with the calls before it.

## Main results

* `failureTracker_law` — **every call of every run obeys the law, and none panics.**
-/

namespace ActonService

open Run

/-! ### The tracker -/

/-- `AuditAlertEvent` -/
inductive AuditAlertEvent
  | storageUnreachable (firstFailureAt : DateTime) (consecutiveFailures : UInt64)
      (unreachableDurationSecs : UInt64) (lastError : String) (serviceName : String)
  | storageRecovered (outageStartedAt recoveredAt : DateTime) (outageDurationSecs : UInt64)
      (eventsAffected : UInt64) (serviceName : String)
  deriving DecidableEq

/-- The alert is `StorageUnreachable`. -/
def AuditAlertEvent.isUnreachable : AuditAlertEvent → Bool
  | .storageUnreachable .. => true
  | .storageRecovered .. => false

/-- The events a `StorageRecovered` reports as affected. -/
def AuditAlertEvent.eventsAffected? : AuditAlertEvent → Option UInt64
  | .storageUnreachable .. => none
  | .storageRecovered _ _ _ eventsAffected _ => some eventsAffected

/-- `TrackerState`.  An `Instant` is a number of nanoseconds. -/
structure TrackerState where
  firstFailureAt : Option ℕ
  firstFailureWall : Option DateTime
  consecutiveFailures : UInt64
  lastError : String
  lastAlertAt : Option ℕ
  alertActive : Bool
  eventsAffectedDuringOutage : UInt64
  deriving DecidableEq

/-- The state of a new tracker, which knows of no failure and no alert. -/
def TrackerState.new : TrackerState where
  firstFailureAt := none
  firstFailureWall := none
  consecutiveFailures := 0
  lastError := ""
  lastAlertAt := none
  alertActive := false
  eventsAffectedDuringOutage := 0

/-- `FailureTracker`, without its state and its hooks.  A `Duration` is a number of
nanoseconds. -/
structure FailureTracker where
  threshold : ℕ
  cooldown : ℕ
  notifyRecovery : Bool
  serviceName : String

/-- `FailureTracker::new` -/
def FailureTracker.new (thresholdSecs cooldownSecs : UInt64) (notifyRecovery : Bool)
    (serviceName : String) : FailureTracker where
  threshold := thresholdSecs.toNat * nanosPerSec
  cooldown := cooldownSecs.toNat * nanosPerSec
  notifyRecovery := notifyRecovery
  serviceName := serviceName

/-- What `record_failure` notes before it looks at the threshold. -/
def TrackerState.noteFailure (s : TrackerState) (now : ℕ) (wall : DateTime) (error : String) :
    TrackerState :=
  let s := if s.firstFailureAt.isNone then
      { s with firstFailureAt := some now, firstFailureWall := some wall }
    else s
  { s with
    consecutiveFailures := s.consecutiveFailures + 1
    eventsAffectedDuringOutage := s.eventsAffectedDuringOutage + 1
    lastError := error }

/-- The cooldown since the last alert is over. -/
def FailureTracker.cooldownOk (t : FailureTracker) (s : TrackerState) (now : ℕ) : Bool :=
  (s.lastAlertAt.map fun last => decide (t.cooldown ≤ now - last)).getD true

/-- `record_failure` -/
def FailureTracker.recordFailure (t : FailureTracker) (now : ℕ) (wall : DateTime)
    (error : String) (state : TrackerState) : Option (TrackerState × Option AuditAlertEvent) := do
  let state := state.noteFailure now wall error
  let first ← state.firstFailureAt
  let elapsed := now - first
  if t.threshold ≤ elapsed then
    if t.cooldownOk state now then
      let state := { state with lastAlertAt := some now, alertActive := true }
      let firstWall ← state.firstFailureWall
      return (state, some (.storageUnreachable firstWall state.consecutiveFailures
        (UInt64.ofNat (elapsed / nanosPerSec)) state.lastError t.serviceName))
    else return (state, none)
  else return (state, none)

/-- What `record_success` keeps of a state: the time of the last alert. -/
def TrackerState.reset (s : TrackerState) : TrackerState :=
  { TrackerState.new with lastAlertAt := s.lastAlertAt }

/-- `record_success` -/
def FailureTracker.recordSuccess (t : FailureTracker) (wall : DateTime) (state : TrackerState) :
    Option (TrackerState × Option AuditAlertEvent) := do
  if state.alertActive && t.notifyRecovery then
    let outageStarted ← state.firstFailureWall
    -- `.num_seconds().max(0) as u64`
    let outageDuration := UInt64.ofNat (wall.numSecondsSince outageStarted).toNat
    return (state.reset, some (.storageRecovered outageStarted wall outageDuration
      state.eventsAffectedDuringOutage t.serviceName))
  else return (state.reset, none)

/-! ### Runs -/

/-- A call with what it reads from the two clocks. -/
structure TimedCall where
  call : TrackerCall
  /-- `Instant::now()` -/
  now : ℕ
  /-- `Utc::now()` -/
  wall : DateTime
  deriving DecidableEq

/-- A call and the alert it raised. -/
structure TrackerEntry extends TimedCall where
  alert : Option AuditAlertEvent
  deriving DecidableEq

def TrackerEntry.isFailure (e : TrackerEntry) : Bool :=
  match e.call with
  | .failure _ => true
  | .success => false

def TrackerEntry.unreachable (e : TrackerEntry) : Bool := e.alert.any (·.isUnreachable)

def TrackerEntry.recovered (e : TrackerEntry) : Bool := e.alert.any (!·.isUnreachable)

/-- One call of the tracker, with the alert it raises, if any; `none` would be a panic. -/
def FailureTracker.call (t : FailureTracker) (c : TimedCall) (s : TrackerState) :
    Option (TrackerState × Option AuditAlertEvent) :=
  match c.call with
  | .failure error => t.recordFailure c.now c.wall error s
  | .success => t.recordSuccess c.wall s

/-- One call, with its entry in the log. -/
def FailureTracker.step (t : FailureTracker) (sl : TrackerState × List TrackerEntry)
    (c : TimedCall) : Option (TrackerState × List TrackerEntry) :=
  (t.call c sl.1).map fun (s', alert) => (s', sl.2 ++ [⟨c, alert⟩])

/-- A run of calls of a new tracker. -/
def FailureTracker.run (t : FailureTracker) (calls : List TimedCall) :
    Option (TrackerState × List TrackerEntry) :=
  calls.foldlM t.step (TrackerState.new, [])

/-! ### The law -/

/-- The failures since the last success: the current outage. -/
def currentOutage (log : List TrackerEntry) : List TrackerEntry := log.rtakeWhile (·.isFailure)

/-- **What the alert of a call has to do with the calls before it.** -/
structure EntryLaw (t : FailureTracker) (log : List TrackerEntry) (e : TrackerEntry) : Prop where
  /-- Only a failure raises the alert, once its outage has lasted for the threshold. -/
  threshold : e.unreachable → e.isFailure ∧
    ∃ first, (currentOutage (log ++ [e])).head? = some first ∧ first.now + t.threshold ≤ e.now
  /-- Two alerts are the cooldown apart, whatever happened between them. -/
  cooldown : e.unreachable → ∀ a ∈ log, a.unreachable → a.now + t.cooldown ≤ e.now
  /-- The recovery is announced by the success that ends an outage with an alert. -/
  recovered : e.recovered ↔
    t.notifyRecovery ∧ ¬ e.isFailure ∧ ∃ a ∈ currentOutage log, a.unreachable
  /-- It reports the number of failures of that outage. -/
  affected : ∀ alert n, e.alert = some alert → alert.eventsAffected? = some n →
    n = UInt64.ofNat (currentOutage log).length

/-! ### The outage of a longer log -/

theorem currentOutage_failure {log : List TrackerEntry} {e : TrackerEntry}
    (he : e.isFailure = true) : currentOutage (log ++ [e]) = currentOutage log ++ [e] :=
  List.rtakeWhile_concat_pos _ _ _ he

theorem currentOutage_success {log : List TrackerEntry} {e : TrackerEntry}
    (he : e.isFailure = false) : currentOutage (log ++ [e]) = [] :=
  List.rtakeWhile_concat_neg _ _ _ (by simp [he])

theorem mem_of_mem_currentOutage {log : List TrackerEntry} {e : TrackerEntry}
    (he : e ∈ currentOutage log) : e ∈ log :=
  (List.rtakeWhile_suffix _ _).mem he

/-! ### The invariant -/

/-- What the state has to do with the log. -/
structure TrackerInv (t : FailureTracker) (past : List TimedCall)
    (sl : TrackerState × List TrackerEntry) : Prop where
  calls : sl.2.map (·.toTimedCall) = past
  /-- The outage began with its first failure. -/
  first : sl.1.firstFailureAt = (currentOutage sl.2).head?.map (·.now)
  firstWall : sl.1.firstFailureWall = (currentOutage sl.2).head?.map (·.wall)
  /-- The failures are counted in a `u64`. -/
  affected : sl.1.eventsAffectedDuringOutage = UInt64.ofNat (currentOutage sl.2).length
  active : sl.1.alertActive = (currentOutage sl.2).any (·.unreachable)
  /-- The last alert is the time of a call, and no alert is later. -/
  lastAlert : ∀ last, sl.1.lastAlertAt = some last → ∃ a ∈ sl.2, a.now = last
  lastAlert_ge : ∀ a ∈ sl.2, a.unreachable → ∃ last, sl.1.lastAlertAt = some last ∧ a.now ≤ last
  law : ∀ pre e post, sl.2 = pre ++ e :: post → EntryLaw t pre e

theorem TrackerInv.start (t : FailureTracker) : TrackerInv t [] (TrackerState.new, []) where
  calls := rfl
  first := rfl
  firstWall := rfl
  affected := rfl
  active := rfl
  lastAlert := by simp [TrackerState.new]
  lastAlert_ge := by simp
  law := by simp

variable {t : FailureTracker} {past : List TimedCall} {s : TrackerState}
  {log : List TrackerEntry} {now : ℕ} {wall : DateTime} {error : String}

/-- The first failure of an outage that a failure has joined. -/
theorem head?_append_singleton {α β : Type*} (f : α → β) (l : List α) (a : α) :
    (l ++ [a]).head?.map f = some ((l.head?.map f).getD (f a)) := by
  cases l <;> rfl

/-- Counting one more failure: the state is the one that the log with this entry stands for. -/
theorem TrackerState.noteFailure_eq (h : TrackerInv t past (s, log)) {e : TrackerEntry}
    (he : e.toTimedCall = ⟨.failure error, now, wall⟩) :
    s.noteFailure now wall error =
      { s with
        firstFailureAt := (currentOutage (log ++ [e])).head?.map (·.now)
        firstFailureWall := (currentOutage (log ++ [e])).head?.map (·.wall)
        consecutiveFailures := s.consecutiveFailures + 1
        eventsAffectedDuringOutage := UInt64.ofNat (currentOutage (log ++ [e])).length
        lastError := error } := by
  have hnow : e.now = now := congrArg TimedCall.now he
  have hwall : e.wall = wall := congrArg TimedCall.wall he
  have hfail : e.isFailure = true := by simp [TrackerEntry.isFailure, he]
  have hfirst := h.first
  have hfirstWall := h.firstWall
  have haffected := h.affected
  simp only at hfirst hfirstWall haffected
  rw [currentOutage_failure hfail, head?_append_singleton, head?_append_singleton]
  cases hout : (currentOutage log).head? with
  | none =>
    simp [noteFailure, hfirst, hout, hnow, hwall, haffected, UInt64.ofNat_add]
  | some first =>
    simp [noteFailure, hfirst, hfirstWall, hout, haffected, UInt64.ofNat_add]

theorem FailureTracker.step_of_call {c : TimedCall} {s' : TrackerState}
    {alert : Option AuditAlertEvent} (h : t.call c s = some (s', alert)) :
    t.step (s, log) c = some (s', log ++ [⟨c, alert⟩]) := by
  simp [step, h]

/-- An alert is raised once the outage has lasted and the cooldown is over. -/
def FailureTracker.alerts (t : FailureTracker) (s : TrackerState) (first now : ℕ) : Bool :=
  decide (t.threshold ≤ now - first) && t.cooldownOk s now

/-- What `record_failure` does: it notes the failure, and raises an alert if one is due. -/
theorem FailureTracker.recordFailure_eq (t : FailureTracker) (s : TrackerState) (now : ℕ)
    (wall : DateTime) (error : String) {first : ℕ} {firstWall : DateTime}
    (hfirst : (s.noteFailure now wall error).firstFailureAt = some first)
    (hwall : (s.noteFailure now wall error).firstFailureWall = some firstWall) :
    t.recordFailure now wall error s = some (
      if t.alerts (s.noteFailure now wall error) first now then
        ({ s.noteFailure now wall error with lastAlertAt := some now, alertActive := true },
          some (.storageUnreachable firstWall (s.noteFailure now wall error).consecutiveFailures
            (UInt64.ofNat ((now - first) / nanosPerSec)) (s.noteFailure now wall error).lastError
            t.serviceName))
      else (s.noteFailure now wall error, none)) := by
  by_cases hthreshold : t.threshold ≤ now - first
  · by_cases hcooldown : t.cooldownOk (s.noteFailure now wall error) now
    · simp [recordFailure, alerts, hfirst, hwall, hthreshold, hcooldown]
    · simp [recordFailure, alerts, hfirst, hthreshold, hcooldown]
  · simp [recordFailure, alerts, hfirst, hthreshold]

/-- A tracker whose cooldown is over is a cooldown away from every alert so far. -/
theorem TrackerInv.cooldown (h : TrackerInv t past (s, log))
    (hnow : ∀ c ∈ past, c.now ≤ now) (hok : t.cooldownOk s now = true) {a : TrackerEntry}
    (ha : a ∈ log) (halert : a.unreachable = true) : a.now + t.cooldown ≤ now := by
  obtain ⟨last, hlast, hle⟩ := h.lastAlert_ge a ha halert
  obtain ⟨b, hb, rfl⟩ := h.lastAlert last hlast
  have hb' : b.now ≤ now := by
    apply hnow b.toTimedCall
    rw [← h.calls]
    exact List.mem_map_of_mem hb
  simp only at hlast
  have : t.cooldown ≤ now - b.now := by simpa [FailureTracker.cooldownOk, hlast] using hok
  omega

/-- The failures of an outage are not later than a later call. -/
theorem TrackerInv.head_le (h : TrackerInv t past (s, log)) (hnow : ∀ c ∈ past, c.now ≤ now)
    {e first : TrackerEntry} (he : e.now = now) (hfail : e.isFailure = true)
    (hfirst : (currentOutage (log ++ [e])).head? = some first) : first.now ≤ now := by
  have hmem := List.mem_of_head? hfirst
  rw [currentOutage_failure hfail, List.mem_append, List.mem_singleton] at hmem
  rcases hmem with hmem | rfl
  · apply hnow first.toTimedCall
    rw [← h.calls]
    exact List.mem_map_of_mem (mem_of_mem_currentOutage hmem)
  · exact he.le

/-- A failure without an alert keeps the invariant. -/
theorem TrackerInv.noteFailure (h : TrackerInv t past (s, log)) :
    TrackerInv t (past ++ [⟨.failure error, now, wall⟩])
      (s.noteFailure now wall error, log ++ [⟨⟨.failure error, now, wall⟩, none⟩]) := by
  have hs := TrackerState.noteFailure_eq (e := ⟨⟨.failure error, now, wall⟩, none⟩) h rfl
  refine ⟨by simp [← h.calls], by simp [hs], by simp [hs], by simp [hs], ?_, ?_, ?_, ?_⟩
  · rw [hs, currentOutage_failure rfl, List.any_append]
    have hactive : s.alertActive = (currentOutage log).any (·.unreachable) := h.active
    simp only [hactive]
    simp [TrackerEntry.unreachable]
  · intro last hlast
    rw [hs] at hlast
    obtain ⟨a, ha, rfl⟩ := h.lastAlert last hlast
    exact ⟨a, List.mem_append_left _ ha, rfl⟩
  · intro a ha halert
    rcases List.mem_append.mp ha with ha | ha
    · rw [hs]
      exact h.lastAlert_ge a ha halert
    · rw [List.mem_singleton] at ha
      subst ha
      simp [TrackerEntry.unreachable] at halert
  · apply forall_split_concat h.law
    exact ⟨by simp [TrackerEntry.unreachable], by simp [TrackerEntry.unreachable],
      by simp [TrackerEntry.recovered, TrackerEntry.isFailure], by simp⟩

/-- A failure that raises an alert keeps the invariant. -/
theorem TrackerInv.raiseAlert (h : TrackerInv t past (s, log))
    (hnow : ∀ c ∈ past, c.now ≤ now) {alert : AuditAlertEvent} (halert : alert.isUnreachable = true)
    {first : TrackerEntry}
    (hfirst : (currentOutage (log ++ [⟨⟨.failure error, now, wall⟩, some alert⟩])).head?
      = some first)
    (hdue : t.alerts (s.noteFailure now wall error) first.now now = true) :
    TrackerInv t (past ++ [⟨.failure error, now, wall⟩])
      ({ s.noteFailure now wall error with lastAlertAt := some now, alertActive := true },
        log ++ [⟨⟨.failure error, now, wall⟩, some alert⟩]) := by
  have hs := TrackerState.noteFailure_eq (e := ⟨⟨.failure error, now, wall⟩, some alert⟩) h rfl
  rw [FailureTracker.alerts, Bool.and_eq_true, decide_eq_true_eq] at hdue
  obtain ⟨hthreshold, hok⟩ := hdue
  -- the alerts before are at least the cooldown ago
  have hcooldown : ∀ a ∈ log, a.unreachable = true → a.now + t.cooldown ≤ now := by
    intro a ha
    apply h.cooldown hnow _ ha
    rw [hs] at hok
    exact hok
  -- and the outage has begun before this call
  have hle := h.head_le hnow rfl rfl hfirst
  refine ⟨by simp [← h.calls], by simp [hs], by simp [hs], by simp [hs], ?_, ?_, ?_, ?_⟩
  · rw [currentOutage_failure rfl]
    simp [TrackerEntry.unreachable, halert]
  · intro last hlast
    rw [Option.some_inj] at hlast
    exact ⟨_, List.mem_append_right _ (List.mem_singleton_self _), hlast⟩
  · intro a ha halert
    refine ⟨now, rfl, ?_⟩
    rcases List.mem_append.mp ha with ha | ha
    · have := hcooldown a ha halert
      omega
    · rw [List.mem_singleton.mp ha]
  · -- the law of the log, for its new last entry
    apply forall_split_concat h.law
    refine ⟨fun _ => ⟨rfl, first, hfirst, ?_⟩, fun _ => hcooldown, ?_, ?_⟩
    · simp only
      omega
    · simp [TrackerEntry.recovered, TrackerEntry.isFailure, halert]
    · intro a n ha hn
      rw [Option.some_inj] at ha
      subst ha
      cases alert <;> simp_all [AuditAlertEvent.isUnreachable, AuditAlertEvent.eventsAffected?]

/-- **`record_failure` does not panic and keeps the invariant.** -/
theorem TrackerInv.recordFailure (h : TrackerInv t past (s, log))
    (hnow : ∀ c ∈ past, c.now ≤ now) :
    ∃ sl', t.step (s, log) ⟨.failure error, now, wall⟩ = some sl' ∧
      TrackerInv t (past ++ [⟨.failure error, now, wall⟩]) sl' := by
  -- whatever the alert turns out to be, the failure joins the current outage
  have hout : ∀ alert, ∃ first, (currentOutage
      (log ++ [⟨⟨.failure error, now, wall⟩, alert⟩])).head? = some first := by
    intro alert
    rw [currentOutage_failure rfl]
    cases currentOutage log <;> simp
  obtain ⟨first, hfirst⟩ := hout none
  have hs := TrackerState.noteFailure_eq (e := ⟨⟨.failure error, now, wall⟩, none⟩) h rfl
  have hat : (s.noteFailure now wall error).firstFailureAt = some first.now := by
    simp [hs, hfirst]
  have hwall : (s.noteFailure now wall error).firstFailureWall = some first.wall := by
    simp [hs, hfirst]
  have heq := t.recordFailure_eq s now wall error hat hwall
  by_cases hdue : t.alerts (s.noteFailure now wall error) first.now now = true
  · rw [if_pos hdue] at heq
    generalize halert : AuditAlertEvent.storageUnreachable .. = alert at heq
    refine ⟨_, FailureTracker.step_of_call heq, ?_⟩
    obtain ⟨first', hfirst'⟩ := hout (some alert)
    have hsame : first'.now = first.now := by
      have hhead := congrArg TrackerState.firstFailureAt (hs.symm.trans
        (TrackerState.noteFailure_eq (e := ⟨⟨.failure error, now, wall⟩, some alert⟩) h rfl))
      simpa [hfirst, hfirst'] using hhead.symm
    exact h.raiseAlert hnow (by simp [← halert, AuditAlertEvent.isUnreachable]) hfirst'
      (hsame ▸ hdue)
  · rw [if_neg hdue] at heq
    exact ⟨_, FailureTracker.step_of_call heq, h.noteFailure⟩

/-- What `record_success` returns: the recovery, if one is due. -/
theorem TrackerInv.recordSuccess_eq (h : TrackerInv t past (s, log)) (wall : DateTime) :
    ∃ alert, t.recordSuccess wall s = some (s.reset, alert) ∧
      (alert.any (!·.isUnreachable) = true ↔
        t.notifyRecovery ∧ ∃ a ∈ currentOutage log, a.unreachable) ∧
      ∀ a ∈ alert, a.isUnreachable = false ∧
        ∀ n, a.eventsAffected? = some n → n = UInt64.ofNat (currentOutage log).length := by
  have hactive : s.alertActive = (currentOutage log).any (·.unreachable) := h.active
  have hiff : (s.alertActive && t.notifyRecovery) = true ↔
      t.notifyRecovery ∧ ∃ a ∈ currentOutage log, a.unreachable := by
    rw [hactive, Bool.and_comm, Bool.and_eq_true, List.any_eq_true]
  rw [← hiff]
  by_cases hdue : (s.alertActive && t.notifyRecovery) = true
  · -- an active alert belongs to the current outage, which therefore has a first failure
    obtain ⟨a, ha, _⟩ := (hiff.mp hdue).2
    have hsome : (currentOutage log).head?.isSome := by
      cases hout : currentOutage log <;> simp_all
    obtain ⟨first, hfirst⟩ := Option.isSome_iff_exists.mp hsome
    have hwall : s.firstFailureWall = some first.wall := by simpa [hfirst] using h.firstWall
    refine ⟨some (.storageRecovered first.wall wall
      (UInt64.ofNat (wall.numSecondsSince first.wall).toNat) s.eventsAffectedDuringOutage
      t.serviceName), by simp [FailureTracker.recordSuccess, hdue, hwall], ?_, ?_⟩
    · simp [hdue, AuditAlertEvent.isUnreachable]
    · have haffected := h.affected
      simp_all [AuditAlertEvent.isUnreachable, AuditAlertEvent.eventsAffected?]
  · exact ⟨none, by simp [FailureTracker.recordSuccess, hdue], by simp [hdue], by simp⟩

/-- **`record_success` does not panic and keeps the invariant.** -/
theorem TrackerInv.recordSuccess (h : TrackerInv t past (s, log)) :
    ∃ sl', t.step (s, log) ⟨.success, now, wall⟩ = some sl' ∧
      TrackerInv t (past ++ [⟨.success, now, wall⟩]) sl' := by
  obtain ⟨alert, heq, hrecovered, haffected⟩ := h.recordSuccess_eq wall
  have hout : currentOutage (log ++ [⟨⟨.success, now, wall⟩, alert⟩]) = [] :=
    currentOutage_success rfl
  have hquiet : TrackerEntry.unreachable ⟨⟨.success, now, wall⟩, alert⟩ = false := by
    cases alert with
    | none => rfl
    | some a => exact (haffected a rfl).1
  refine ⟨_, FailureTracker.step_of_call heq, ?_⟩
  refine ⟨by simp [← h.calls], by rw [hout]; rfl, by rw [hout]; rfl, by rw [hout]; rfl,
    by rw [hout]; rfl, ?_, ?_, ?_⟩
  · intro last hlast
    obtain ⟨a, ha, rfl⟩ := h.lastAlert last hlast
    exact ⟨a, List.mem_append_left _ ha, rfl⟩
  · intro a ha halert
    rcases List.mem_append.mp ha with ha | ha
    · exact h.lastAlert_ge a ha halert
    · rw [List.mem_singleton.mp ha, hquiet] at halert
      contradiction
  · apply forall_split_concat h.law
    refine ⟨by simp [hquiet], by simp [hquiet], ?_, ?_⟩
    · simpa [TrackerEntry.recovered, TrackerEntry.isFailure] using hrecovered
    · intro a n ha hn
      exact (haffected a ha).2 n hn

/-- A run takes its calls in the order of their times. -/
def NonDecreasing (calls : List TimedCall) : Prop := calls.Pairwise (·.now ≤ ·.now)

instance decidableNonDecreasing (calls : List TimedCall) : Decidable (NonDecreasing calls) :=
  inferInstanceAs (Decidable (calls.Pairwise _))

/-- **The law of the failure tracker.**  No call of a run panics.  An alert is raised only
once the current outage has lasted for the threshold, and a cooldown after every earlier
one; where recoveries are announced, the first success after an outage with an alert, and
no other call, announces it, with the number of failures since the previous success. -/
theorem failureTracker_law (t : FailureTracker) (calls : List TimedCall)
    (hcalls : NonDecreasing calls) :
    ∃ s log, t.run calls = some (s, log) ∧ log.map (·.toTimedCall) = calls ∧
      ∀ pre e post, log = pre ++ e :: post → EntryLaw t pre e := by
  have hstep : ∀ past sl c, TrackerInv t past sl → (∀ b ∈ past, b.now ≤ c.now) →
      ∃ sl', t.step sl c = some sl' ∧ TrackerInv t (past ++ [c]) sl' := by
    rintro past ⟨s, log⟩ ⟨_ | error, now, wall⟩ h hnow
    · exact h.recordSuccess
    · exact h.recordFailure hnow
  have hok : ∀ pre c post, calls = pre ++ c :: post → ∀ b ∈ [] ++ pre, b.now ≤ c.now := by
    rintro pre c post rfl b hb
    exact (List.pairwise_append.mp hcalls).2.2 b hb c List.mem_cons_self
  obtain ⟨⟨s, log⟩, hrun, hinv⟩ := foldlM_history hstep (TrackerInv.start t) hok
  exact ⟨s, log, hrun, hinv.calls, hinv.law⟩

/-- Two failures and a success, a second apart. -/
def sampleCalls : List TimedCall :=
  [⟨.failure "connection refused", 0, (sampleTime 0)⟩,
    ⟨.failure "connection refused", 1000000000, (sampleTime 0)⟩,
    ⟨.success, 2000000000, (sampleTime 0)⟩]

theorem failureTracker_law_sampleCalls :
    NonDecreasing sampleCalls ∧
      ∃ s log, (FailureTracker.new 1 60 true "orders").run sampleCalls = some (s, log) ∧
        log.map (·.toTimedCall) = sampleCalls ∧
        ∀ pre e post, log = pre ++ e :: post →
          EntryLaw (FailureTracker.new 1 60 true "orders") pre e :=
  ⟨by decide, failureTracker_law _ _ (by decide)⟩

/-- A tracker told not to announce recoveries says nothing when an outage it raised an alert
for is over. -/
theorem no_recovery_without_notifyRecovery :
    ¬ ∀ (t : FailureTracker) (calls : List TimedCall), NonDecreasing calls →
      ∃ s log, t.run calls = some (s, log) ∧ ∀ pre e post, log = pre ++ e :: post →
        (e.recovered ↔ ¬ e.isFailure ∧ ∃ a ∈ currentOutage pre, a.unreachable) := by
  intro h
  rcases h (FailureTracker.new 1 60 false "orders") sampleCalls (by decide)
    with ⟨s, log, hrun, hlaw⟩
  have hsilent : (FailureTracker.new 1 60 false "orders").run sampleCalls = some
      ({ TrackerState.new with lastAlertAt := some 1000000000 },
        [⟨⟨.failure "connection refused", 0, (sampleTime 0)⟩, none⟩,
          ⟨⟨.failure "connection refused", 1000000000, (sampleTime 0)⟩,
            some (.storageUnreachable (sampleTime 0) 2 1 "connection refused" "orders")⟩,
          ⟨⟨.success, 2000000000, (sampleTime 0)⟩, none⟩]) := by decide
  rw [hsilent, Option.some_inj, Prod.mk.injEq] at hrun
  obtain ⟨-, rfl⟩ := hrun
  have hend := (hlaw [_, _] _ [] rfl).mpr
  revert hend
  decide

end ActonService
