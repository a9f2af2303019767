import ActonService.Lib.Deadline

/-!
# Health checks of a service

`checks.rs`: the checks a service registers run side by side, under one deadline for all of them,
and their outcomes come in the order the checks were registered in.

A check makes a future for every probe; here it is the future of one probe, and how the futures are
polled is the executor's affair.

## Main definitions

* `CheckOutcome`, `RegisteredCheck`, `HealthChecks` — checks.
* `runConcurrent` — the outcomes, once every check has one.
* `RegisteredCheck.ComesTo` — the outcomes a check may have.
* `HealthChecks.livenessOk`, `HealthChecks.readinessOutcomes` — the checks of a probe.

## Main results

* `runConcurrent_outcomes` — **every check comes to its own outcome or to a timeout**, in the order
  of registration.
* `runConcurrent_settles` — **one deadline settles all checks**.
-/

namespace ActonService

open Deadline

/-! ### Checks -/

/-- `CheckOutcome` -/
inductive CheckOutcome
  | ready
  | readyWithMessage (message : String)
  | degraded (message : String)
  | unready (message : String)
  deriving DecidableEq, Repr

/-- `matches!(outcome, CheckOutcome::Unready(_))` -/
def CheckOutcome.isUnready : CheckOutcome → Bool
  | .unready _ => true
  | _ => false

/-- What a check comes to that has no outcome at the deadline. -/
def CheckOutcome.timedOut : CheckOutcome := .unready "check timed out"

/-- `RegisteredCheck`, with the future it makes for this probe. -/
structure RegisteredCheck where
  name : String
  run : Polled CheckOutcome

/-- `HealthChecks` -/
structure HealthChecks where
  liveness : List RegisteredCheck
  readiness : List RegisteredCheck
  deadline : ℕ

/-- `HealthChecks::default`, with a deadline in milliseconds. -/
def HealthChecks.standard : HealthChecks := ⟨[], [], 2000⟩

/-- The checks before they are polled for the first time: started, and none of them with an outcome.
-/
def startChecks (checks : List RegisteredCheck) : List (Slot CheckOutcome) :=
  checks.map fun check => ⟨check.run, none⟩

/-- `run_concurrent`, after some polls. -/
def runConcurrent (checks : List RegisteredCheck) (polls : List Poll) :
    Option (List (String × CheckOutcome)) :=
  if checks.isEmpty then some []
  else
    (checks.zip (pollAll CheckOutcome.timedOut (startChecks checks) polls)).mapM fun p =>
      p.2.outcome.map (p.1.name, ·)

namespace HealthChecks

variable (checks : HealthChecks) (polls : List Poll)

/-- `liveness_ok` -/
def livenessOk : Option Bool :=
  (runConcurrent checks.liveness polls).map fun outcomes => outcomes.all fun o => !o.2.isUnready

/-- `readiness_outcomes` -/
def readinessOutcomes : Option (List (String × CheckOutcome)) :=
  runConcurrent checks.readiness polls

end HealthChecks

/-! ### What the checks come to -/

section Outcomes

variable {checks : List RegisteredCheck} {polls : List Poll} {expiry : ℕ}
  {results : List (String × CheckOutcome)}

/-- A list is mapped to values that are all there exactly if each element has the value at its
position. -/
theorem mapM_eq_some_iff {α β : Type} {f : α → Option β} {as : List α} {bs : List β} :
    as.mapM f = some bs ↔
      bs.length = as.length ∧
        ∀ (i : ℕ) a, as[i]? = some a → ∃ b, bs[i]? = some b ∧ f a = some b := by
  induction as generalizing bs with
  | nil =>
    rw [List.mapM_nil]
    constructor
    · rintro ⟨⟩
      exact ⟨rfl, fun i a h => by simp at h⟩
    · rintro ⟨hlength, -⟩
      rw [List.length_eq_zero_iff.mp hlength]
      rfl
  | cons a as ih =>
    rw [List.mapM_cons]
    constructor
    · intro h
      obtain ⟨b, hb, h⟩ := Option.bind_eq_some_iff.mp h
      obtain ⟨rest, hrest, h⟩ := Option.bind_eq_some_iff.mp h
      cases h
      obtain ⟨hlength, hall⟩ := ih.mp hrest
      refine ⟨congrArg (· + 1) hlength, fun i a' hi => ?_⟩
      cases i with
      | zero =>
        cases hi
        exact ⟨b, rfl, hb⟩
      | succ i => exact hall i a' hi
    · rintro ⟨hlength, hall⟩
      cases bs with
      | nil => cases hlength
      | cons b bs =>
        obtain ⟨b', hb', hb⟩ := hall 0 a rfl
        cases hb'
        have hrest := ih.mpr ⟨Nat.succ.inj hlength, fun i a' hi => hall (i + 1) a' hi⟩
        rw [hb, hrest]
        rfl

/-- What the check of that place has come to. -/
def outcomeOf (polls : List Poll) (i : ℕ) (check : RegisteredCheck) : Option CheckOutcome :=
  ((polls.filter fun p => decide (p.index = i)).foldl (Slot.poll CheckOutcome.timedOut)
    ⟨check.run, none⟩).outcome

theorem getElem?_zip_pollAll (i : ℕ) :
    (checks.zip (pollAll CheckOutcome.timedOut (startChecks checks) polls))[i]?
      = checks[i]?.map fun check =>
          (check, (polls.filter fun p => decide (p.index = i)).foldl
            (Slot.poll CheckOutcome.timedOut) ⟨check.run, none⟩) := by
  rw [List.zip_eq_zipWith, List.getElem?_zipWith, getElem?_pollAll, startChecks, List.getElem?_map]
  cases checks[i]? <;> rfl

/-- Every check has come to something, and these are the results, in the order of registration. -/
theorem runConcurrent_eq_some_iff :
    runConcurrent checks polls = some results ↔
      results.length = checks.length ∧ ∀ (i : ℕ) check, checks[i]? = some check →
        ∃ o, results[i]? = some (check.name, o) ∧ outcomeOf polls i check = some o := by
  have hlength : (checks.zip (pollAll CheckOutcome.timedOut (startChecks checks) polls)).length
      = checks.length := by
    rw [List.length_zip, length_pollAll, startChecks, List.length_map, Nat.min_self]
  have hrun : runConcurrent checks polls
      = (checks.zip (pollAll CheckOutcome.timedOut (startChecks checks) polls)).mapM fun p =>
          p.2.outcome.map (p.1.name, ·) := by
    cases checks <;> rfl
  rw [hrun, mapM_eq_some_iff, hlength]
  refine and_congr_right fun _ => forall_congr' fun i => ?_
  rw [getElem?_zip_pollAll]
  rcases checks[i]? with _ | check
  · simp
  · constructor
    · rintro h _ ⟨⟩
      obtain ⟨result, hresult, heq⟩ := h _ rfl
      obtain ⟨o, ho, rfl⟩ := Option.map_eq_some_iff.mp heq
      exact ⟨o, hresult, ho⟩
    · rintro h _ ⟨⟩
      obtain ⟨o, hresult, ho⟩ := h check rfl
      exact ⟨_, hresult, Option.map_eq_some_iff.mpr ⟨o, ho, rfl⟩⟩

/-- The outcomes a check may have: its own if it finishes by the deadline, a timeout if it has not
finished whenever it is polled, and otherwise one of the two, as the polls find it. -/
def RegisteredCheck.ComesTo (check : RegisteredCheck) (expiry : ℕ) (polls : List Poll)
    (o : CheckOutcome) : Prop :=
  (∀ a, check.run.poll expiry = some a → o = a) ∧
    ((∀ p ∈ polls, check.run.poll p.now = none) → o = .timedOut) ∧
    (o = .timedOut ∨ ∃ p ∈ polls, check.run.poll p.now = some o)

/-- **Every check comes to its own outcome or to a timeout**, in the order of registration. -/
theorem runConcurrent_outcomes (hpolls : Punctual expiry polls)
    (h : runConcurrent checks polls = some results) :
    results.map Prod.fst = checks.map (fun check => check.name) ∧
      ∀ (i : ℕ) check, checks[i]? = some check →
        ∃ o, results[i]? = some (check.name, o) ∧ check.ComesTo expiry polls o := by
  obtain ⟨hlength, hall⟩ := runConcurrent_eq_some_iff.mp h
  constructor
  · refine List.ext_getElem? fun i => ?_
    rw [List.getElem?_map, List.getElem?_map]
    rcases hi : checks[i]? with _ | check
    · rw [List.getElem?_eq_none_iff] at hi
      rw [List.getElem?_eq_none_iff.mpr (hlength ▸ hi)]
      rfl
    · obtain ⟨o, ho, -⟩ := hall i check hi
      rw [ho]
      rfl
  · intro i check hi
    obtain ⟨o, hresult, ho⟩ := hall i check hi
    have hindex := hpolls.of_index i
    refine ⟨o, hresult, fun a ha => outcome_of_finished rfl hindex ha ho, fun hstalled => ?_, ?_⟩
    · exact outcome_of_stalled rfl hindex
        (fun p hp => hstalled p (List.mem_of_mem_filter hp)) ho
    · obtain ⟨p, hp, hown | ⟨-, -, hlate⟩⟩ := outcome_cases rfl hindex ho
      · exact .inr ⟨p, List.mem_of_mem_filter hp, hown⟩
      · exact .inl hlate

/-- **One deadline is enough for all of them**: once every timer has fired and its check was polled,
the outcomes are there. -/
theorem isSome_runConcurrent
    (hfired : ∀ i < checks.length, ∃ p ∈ polls, p.index = i ∧ p.fired = true) :
    (runConcurrent checks polls).isSome = true := by
  have hsome : ∀ (i : ℕ) check, checks[i]? = some check →
      ∃ o, outcomeOf polls i check = some o := by
    intro i check hi
    obtain ⟨p, hp, hindex, hp'⟩ := hfired i (List.getElem?_eq_some_iff.mp hi).1
    exact Option.isSome_iff_exists.mp (isSome_outcome_of_fired
      (List.mem_filter.mpr ⟨hp, decide_eq_true hindex⟩) hp' _)
  have hresults : runConcurrent checks polls = some (checks.mapIdx fun i check =>
      (check.name, (outcomeOf polls i check).getD .ready)) := by
    refine runConcurrent_eq_some_iff.mpr ⟨List.length_mapIdx, fun i check hi => ?_⟩
    obtain ⟨o, ho⟩ := hsome i check hi
    refine ⟨o, ?_, ho⟩
    rw [List.getElem?_mapIdx, hi, Option.map_some, ho]
    rfl
  rw [hresults]
  rfl

/-- **One deadline settles all checks**, in every order of polls in which each timer fires: there is
an outcome for each check, in the order of registration, which is its own if it finishes by the
deadline, and a timeout if it has not finished whenever it is polled. -/
theorem runConcurrent_settles (hpolls : Punctual expiry polls)
    (hfired : ∀ i < checks.length, ∃ p ∈ polls, p.index = i ∧ p.fired = true) :
    ∃ results, runConcurrent checks polls = some results ∧
      results.map Prod.fst = checks.map (fun check => check.name) ∧
      ∀ (i : ℕ) check, checks[i]? = some check → ∃ o, results[i]? = some (check.name, o) ∧
        (∀ a, check.run.poll expiry = some a → o = a) ∧
        ((∀ p ∈ polls, check.run.poll p.now = none) → o = .timedOut) ∧
        (o = .timedOut ∨ ∃ p ∈ polls, check.run.poll p.now = some o) := by
  obtain ⟨results, hresults⟩ := Option.isSome_iff_exists.mp (isSome_runConcurrent hfired)
  exact ⟨results, hresults, runConcurrent_outcomes hpolls hresults⟩

/-- A check that has answered from a time on. -/
def sampleAnswering : RegisteredCheck where
  name := "cache"
  run := {
    poll := fun t => if 5 ≤ t then some .ready else none
    mono := by
      intro t t' a h hle
      obtain ⟨ht, ha⟩ := Option.ite_none_right_eq_some.mp h
      rw [if_pos (Nat.le_trans ht hle)]
      exact ha }

/-- A check that never answers, so that only its deadline can end it. -/
def sampleStalling : RegisteredCheck := ⟨"writer", ⟨fun _ => none, fun _ _ _ h _ => h⟩⟩

/-- Both checks are polled before either has answered, and when their timers have fired. -/
def samplePolls : List Poll := [⟨0, 3, false⟩, ⟨1, 3, false⟩, ⟨1, 2000, true⟩, ⟨0, 2001, true⟩]

theorem runConcurrent_settles_sample :
    ∃ results, runConcurrent [sampleAnswering, sampleStalling] samplePolls = some results ∧
      results.map Prod.fst = ["cache", "writer"] ∧
      results[0]? = some ("cache", .ready) ∧ results[1]? = some ("writer", .timedOut) := by
  have hpolls : Punctual 2000 samplePolls := by simp [Punctual, samplePolls]
  have hfired : ∀ i < [sampleAnswering, sampleStalling].length,
      ∃ p ∈ samplePolls, p.index = i ∧ p.fired = true := by
    simp only [samplePolls, List.length_cons, List.length_nil]
    decide
  obtain ⟨results, hresults, hnames, hall⟩ := runConcurrent_settles hpolls hfired
  obtain ⟨o, ho, hown, -⟩ := hall 0 sampleAnswering rfl
  obtain ⟨o', ho', -, hstalled, -⟩ := hall 1 sampleStalling rfl
  rw [hown .ready rfl] at ho
  rw [hstalled fun p _ => rfl] at ho'
  exact ⟨results, hresults, hnames, ho, ho'⟩

end Outcomes

end ActonService
