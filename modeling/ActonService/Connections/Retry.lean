import ActonService.Lib.Retry

/-!
# Connecting with retries

The loop that `database.rs`, `cache.rs`, `events.rs`, `turso.rs`, `surrealdb_backend.rs` and
`clickhouse_backend.rs` connect with.  Its counter and its multiplier are `u32`: an operation that
overflows panics in a build with overflow checks and wraps in one without.  The product of a
`Duration` panics in both.

## Main definitions

* `RetryLoop`, `RetryLoop.step` — the loop under the results of its attempts.
* `RetryBackend.createWithRetries` — the loops of the six backends.
* `RetriesWell` — what such a loop is to do.
* `Fits` — the delay in front of a retry can be computed.

## Main results

* `sim_run` — as long as the delays fit, the loop refines `Retry.State.step`.
* `createWithRetries_iff` — **when the loop does what it is to do.**
-/

namespace ActonService

open Retry Stream'

/-! ### Arithmetic -/

/-- An operation of `u32` with this exact value: what it gives, and whether it has wrapped. -/
def u32 (checks : Bool) (n : ℕ) : Option (ℕ × Bool) :=
  if n < 2 ^ 32 then some (n, false) else if checks then none else some (n % 2 ^ 32, true)

/-- A `Duration` of whole seconds times a `u32` -/
def durationMul (secs multiplier : ℕ) : Option ℕ :=
  if secs * multiplier < 2 ^ 64 then some (secs * multiplier) else none

theorem u32_of_lt (checks : Bool) {n : ℕ} (h : n < 2 ^ 32) : u32 checks n = some (n, false) :=
  if_pos h

theorem u32_of_ge (checks : Bool) {n : ℕ} (h : 2 ^ 32 ≤ n) :
    u32 checks n = if checks then none else some (n % 2 ^ 32, true) :=
  if_neg (Nat.not_lt.mpr h)

theorem durationMul_of_lt {secs multiplier : ℕ} (h : secs * multiplier < 2 ^ 64) :
    durationMul secs multiplier = some (secs * multiplier) :=
  if_pos h

/-! ### The loop -/

/-- `max_retries` and `retry_delay_secs` -/
structure RetryConfig where
  maxRetries : UInt32
  retryDelaySecs : UInt64
  deriving DecidableEq

/-- Where the loop stands: at its next attempt, returned with a result, or in a panic of the
arithmetic. -/
inductive LoopPhase (E C : Type)
  | trying
  | returned (r : Except E C)
  | panicked

/-- The loop: its counter, the attempts made, the seconds slept, and whether an operation has
wrapped. -/
structure RetryLoop (E C : Type) where
  attempt : ℕ
  attempts : ℕ
  slept : List ℕ
  wrapped : Bool
  phase : LoopPhase E C

variable {E C : Type}

/-- Before the first attempt. -/
def RetryLoop.init : RetryLoop E C := ⟨0, 0, [], false, .trying⟩

/-- `Ok(client)`: the message counts the attempts. -/
def RetryLoop.onOk (checks : Bool) (s : RetryLoop E C) (client : C) : Option (RetryLoop E C) :=
  if s.attempt > 0 then do
    let (_, wrapped) ← u32 checks (s.attempt + 1)
    some { s with wrapped := s.wrapped || wrapped, phase := .returned (.ok client) }
  else some { s with phase := .returned (.ok client) }

/-- `Err(e)` -/
def RetryLoop.onErr (checks : Bool) (config : RetryConfig) (s : RetryLoop E C) (e : E) :
    Option (RetryLoop E C) := do
  let (attempt, wrapped) ← u32 checks (s.attempt + 1)
  if attempt > config.maxRetries.toNat then do
    -- the message counts the attempts
    let (_, wrapped') ← u32 checks (config.maxRetries.toNat + 1)
    some { s with
      attempt, wrapped := s.wrapped || wrapped || wrapped', phase := .returned (.error e) }
  else do
    let (delayMultiplier, wrapped') ← u32 checks (2 ^ (attempt - 1))
    let delay ← durationMul config.retryDelaySecs.toNat delayMultiplier
    some { s with
      attempt, slept := s.slept ++ [delay], wrapped := s.wrapped || wrapped || wrapped' }

/-- One attempt of the loop, which was given the result `r`, up to the sleep before the next one. -/
def RetryLoop.step (checks : Bool) (config : RetryConfig) (s : RetryLoop E C) (r : Except E C) :
    RetryLoop E C :=
  match s.phase with
  | .trying =>
    let s := { s with attempts := s.attempts + 1 }
    match r with
    | .ok client => (s.onOk checks client).getD { s with phase := .panicked }
    | .error e => (s.onErr checks config e).getD { s with phase := .panicked }
  | .returned _ => s
  | .panicked => s

/-- The loop after the first results of a sequence. -/
def createWithRetries (checks : Bool) (config : RetryConfig) (results : Seq (Except E C)) :
    ℕ → RetryLoop E C :=
  run (RetryLoop.step checks config) .init results

/-- `create_pool_with_retries` of `database.rs` -/
def Database.createPoolWithRetries (checks : Bool) (config : RetryConfig)
    (tryCreatePool : Seq (Except E C)) : ℕ → RetryLoop E C :=
  createWithRetries checks config tryCreatePool

/-- `create_pool_with_retries` of `cache.rs` -/
def Cache.createPoolWithRetries (checks : Bool) (config : RetryConfig)
    (tryCreatePool : Seq (Except E C)) : ℕ → RetryLoop E C :=
  createWithRetries checks config tryCreatePool

/-- `create_client_with_retries` of `events.rs` -/
def Nats.createClientWithRetries (checks : Bool) (config : RetryConfig)
    (tryCreateClient : Seq (Except E C)) : ℕ → RetryLoop E C :=
  createWithRetries checks config tryCreateClient

/-- `create_database_with_retries` of `turso.rs` -/
def Turso.createDatabaseWithRetries (checks : Bool) (config : RetryConfig)
    (tryCreateDatabase : Seq (Except E C)) : ℕ → RetryLoop E C :=
  createWithRetries checks config tryCreateDatabase

/-- `create_client_with_retries` of `surrealdb_backend.rs` -/
def SurrealDb.createClientWithRetries (checks : Bool) (config : RetryConfig)
    (tryCreateClient : Seq (Except E C)) : ℕ → RetryLoop E C :=
  createWithRetries checks config tryCreateClient

/-- `create_client_with_retries` of `clickhouse_backend.rs` -/
def ClickHouse.createClientWithRetries (checks : Bool) (config : RetryConfig)
    (tryCreateClient : Seq (Except E C)) : ℕ → RetryLoop E C :=
  createWithRetries checks config tryCreateClient

/-- The backends that are connected to with retries. -/
inductive RetryBackend
  | database
  | cache
  | nats
  | turso
  | surrealDb
  | clickHouse
  deriving DecidableEq, Repr

/-- The backend's loop. -/
def RetryBackend.createWithRetries (b : RetryBackend) (checks : Bool) (config : RetryConfig)
    (results : Seq (Except E C)) : ℕ → RetryLoop E C :=
  match b with
  | .database => Database.createPoolWithRetries checks config results
  | .cache => Cache.createPoolWithRetries checks config results
  | .nats => Nats.createClientWithRetries checks config results
  | .turso => Turso.createDatabaseWithRetries checks config results
  | .surrealDb => SurrealDb.createClientWithRetries checks config results
  | .clickHouse => ClickHouse.createClientWithRetries checks config results

/-! ### What the loop is to do -/

/-- A loop retries as it should: it makes at most `max_retries + 1` attempts and returns the first
success or the last error, it neither panics nor overflows, and the delays never decrease. -/
structure RetriesWell (maxRetries : ℕ) (results : Seq (Except E C)) (loop : ℕ → RetryLoop E C) :
    Prop where
  attempts_le : ∀ n, (loop n).attempts ≤ maxRetries + 1
  returned_iff : ∀ r, (∃ n, (loop n).phase = .returned r) ↔ ∃ k, Decides maxRetries results k r
  not_trying : (∀ k ≤ maxRetries, results.get? k ≠ none) → (loop (maxRetries + 1)).phase ≠ .trying
  not_panicked : ∀ n, (loop n).phase ≠ .panicked
  not_wrapped : ∀ n, (loop n).wrapped = false
  slept_sorted : ∀ n, (loop n).slept.Pairwise (· ≤ ·)

/-- The delay in front of a retry can be computed: its multiplier is a `u32`, and the product fits
into a `Duration`. -/
def Fits (config : RetryConfig) (retry : ℕ) : Prop :=
  retry < 32 ∧ config.retryDelaySecs.toNat * 2 ^ retry < 2 ^ 64

/-- The delay in front of a retry, in seconds. -/
def backoff (config : RetryConfig) (retry : ℕ) : ℕ := config.retryDelaySecs.toNat * 2 ^ retry

theorem backoff_mono (config : RetryConfig) : Monotone (backoff config) :=
  fun _ _ h => Nat.mul_le_mul_left _ (Nat.pow_le_pow_right (by decide) h)

/-- All the retries that are due after these results have a delay that can be computed. -/
def RetriesFit (config : RetryConfig) (results : Seq (Except E C)) : Prop :=
  ∀ retry < config.maxRetries.toNat, Fails results (retry + 1) → Fits config retry

/-! ### One attempt -/

variable {checks : Bool} {config : RetryConfig} {s : RetryLoop E C}

theorem onOk_eq (client : C) (h : s.attempt + 1 < 2 ^ 32) :
    s.onOk checks client = some { s with phase := .returned (.ok client) } := by
  rw [RetryLoop.onOk, u32_of_lt checks h]
  split <;> simp

theorem onErr_of_lt (e : E) (hlt : s.attempt < config.maxRetries.toNat)
    (hfits : Fits config s.attempt) :
    s.onErr checks config e = some { s with
      attempt := s.attempt + 1
      slept := s.slept ++ [backoff config s.attempt] } := by
  have hadd : s.attempt + 1 < 2 ^ 32 := Nat.lt_of_le_of_lt hlt config.maxRetries.toNat_lt
  have hpow : 2 ^ (s.attempt + 1 - 1) < 2 ^ 32 := Nat.pow_lt_pow_right (by decide) hfits.1
  rw [RetryLoop.onErr, u32_of_lt checks hadd]
  simp only [Option.bind_eq_bind, Option.bind_some, gt_iff_lt, Nat.not_lt.mpr hlt, if_false]
  rw [u32_of_lt checks hpow, Option.bind_some, Nat.add_sub_cancel, durationMul_of_lt hfits.2]
  simp [backoff]

theorem onErr_of_ge (e : E) (hge : config.maxRetries.toNat ≤ s.attempt)
    (hlt : s.attempt + 1 < 2 ^ 32) :
    s.onErr checks config e
      = some { s with attempt := s.attempt + 1, phase := .returned (.error e) } := by
  rw [RetryLoop.onErr, u32_of_lt checks hlt]
  simp only [Option.bind_eq_bind, Option.bind_some, gt_iff_lt, Nat.lt_succ_of_le hge, if_true]
  rw [u32_of_lt checks (Nat.lt_of_le_of_lt (Nat.succ_le_succ hge) hlt), Option.bind_some]
  simp

/-- A retry whose delay cannot be computed makes the loop panic, or overflow. -/
theorem onErr_of_not_fits (checks : Bool) (e : E) (hlt : s.attempt < config.maxRetries.toNat)
    (hfits : ¬ Fits config s.attempt) :
    s.onErr checks config e = none ∨
      ∃ s', s.onErr checks config e = some s' ∧ s'.wrapped = true := by
  have hadd : s.attempt + 1 < 2 ^ 32 := Nat.lt_of_le_of_lt hlt config.maxRetries.toNat_lt
  rw [RetryLoop.onErr, u32_of_lt checks hadd]
  simp only [Option.bind_eq_bind, Option.bind_some, gt_iff_lt, Nat.not_lt.mpr hlt, if_false,
    Nat.add_sub_cancel]
  rcases Nat.lt_or_ge s.attempt 32 with hsmall | hlarge
  · have hmul : durationMul config.retryDelaySecs.toNat (2 ^ s.attempt) = none :=
      if_neg fun h => hfits ⟨hsmall, h⟩
    have hpow : 2 ^ s.attempt < 2 ^ 32 := Nat.pow_lt_pow_right (by decide) hsmall
    rw [u32_of_lt checks hpow, Option.bind_some, hmul]
    exact .inl rfl
  · rw [u32_of_ge checks (Nat.pow_le_pow_right (by decide) hlarge)]
    cases checks with
    | true => exact .inl rfl
    | false =>
      rw [if_neg Bool.false_ne_true, Option.bind_some]
      generalize durationMul config.retryDelaySecs.toNat (2 ^ s.attempt % 2 ^ 32) = delay
      cases delay with
      | none => exact .inl rfl
      | some delay =>
        refine .inr ⟨_, rfl, ?_⟩
        simp

/-! ### The whole loop -/

/-- The loop at a state of `Retry`. -/
def RetryLoop.ofState (s : Retry.State E C ℕ) : RetryLoop E C where
  attempt :=
    match s.phase with
    | .trying => s.attempts
    | .returned (.ok _) => s.attempts - 1
    | .returned (.error _) => s.attempts
  attempts := s.attempts
  slept := s.delays
  wrapped := false
  phase :=
    match s.phase with
    | .trying => .trying
    | .returned r => .returned r

variable {k : ℕ} {slept : List ℕ}

theorem step_ofState_ok (client : C) (h : k + 1 < 2 ^ 32) :
    RetryLoop.step checks config (.ofState (E := E) ⟨k, slept, .trying⟩) (.ok client)
      = .ofState ⟨k + 1, slept, .returned (.ok client)⟩ := by
  simp only [RetryLoop.step, RetryLoop.ofState]
  rw [onOk_eq client h]
  rfl

theorem step_ofState_error_of_lt (e : E) (hlt : k < config.maxRetries.toNat)
    (hfits : Fits config k) :
    RetryLoop.step checks config (.ofState (C := C) ⟨k, slept, .trying⟩) (.error e)
      = .ofState ⟨k + 1, slept ++ [backoff config k], .trying⟩ := by
  simp only [RetryLoop.step, RetryLoop.ofState]
  rw [onErr_of_lt e hlt hfits]
  rfl

theorem step_ofState_error_of_ge (e : E) (hge : config.maxRetries.toNat ≤ k)
    (hlt : k + 1 < 2 ^ 32) :
    RetryLoop.step checks config (.ofState (C := C) ⟨k, slept, .trying⟩) (.error e)
      = .ofState ⟨k + 1, slept, .returned (.error e)⟩ := by
  simp only [RetryLoop.step, RetryLoop.ofState]
  rw [onErr_of_ge e hge hlt]
  rfl

variable {results : Seq (Except E C)}

/-- **As long as the delays fit**, the loop does what `Retry.State.step` does. -/
theorem sim_run (checks : Bool) {n : ℕ} (h : ∀ retry < n, retry < config.maxRetries.toNat →
      Fails results (retry + 1) → Fits config retry) :
    createWithRetries checks config results n
      = .ofState (run (State.step config.maxRetries.toNat (backoff config)) .init results n) := by
  induction n with
  | zero => rfl
  | succ n ih =>
    have hbefore := ih fun retry hlt => h retry (Nat.lt_succ_of_lt hlt)
    rw [createWithRetries] at hbefore ⊢
    cases hr : results.get? n with
    | none => rw [run_succ_none hr, run_succ_none hr, hbefore]
    | some r =>
      rw [run_succ_some hr, run_succ_some hr, hbefore]
      rcases run_cases config.maxRetries.toNat (backoff config) results n with
        ⟨k, hk, hkn, hfails, hat, hrun⟩ | ⟨k, -, r', -, hrun⟩
      · obtain rfl : k = n := by
          rcases hat with rfl | hnone
          · rfl
          · rw [results.le_stable hkn hnone] at hr
            cases hr
        rw [hrun]
        -- the counter is small: the retry before had a delay that fits
        have hsmall : k + 1 < 2 ^ 32 := by
          cases k with
          | zero => decide
          | succ k =>
            have := (h k (by omega) hk hfails).1
            omega
        cases r with
        | ok client => rw [step_ok, step_ofState_ok client hsmall]
        | error e =>
          rcases Nat.lt_or_ge k config.maxRetries.toNat with hlt | hge
          · rw [step_error_of_lt _ _ hlt,
              step_ofState_error_of_lt e hlt (h k (Nat.lt_succ_self k) hlt (hfails.succ hr))]
          · rw [step_error_of_ge _ _ hge, step_ofState_error_of_ge e hge hsmall]
      · rw [hrun, step_returned]
        rfl

/-- A loop whose delays fit does what it is to do. -/
theorem retriesWell_of_fit (h : RetriesFit config results) :
    RetriesWell config.maxRetries.toNat results (createWithRetries checks config results) := by
  have hsim (n : ℕ) := sim_run checks (n := n) fun retry _ hlt => h retry hlt
  have hphase (n : ℕ) (r : Except E C) :
      (createWithRetries checks config results n).phase = .returned r
        ↔ (run (State.step config.maxRetries.toNat (backoff config)) .init results n).phase
            = .returned r := by
    rw [hsim, RetryLoop.ofState]
    cases (run (State.step config.maxRetries.toNat (backoff config)) .init results n).phase <;> simp
  constructor
  · intro n
    rw [hsim]
    exact attempts_le n
  · intro r
    simp only [hphase]
    exact returned_iff r
  · intro hanswers htrying
    apply not_trying (backoff config) hanswers
    rw [hsim, RetryLoop.ofState] at htrying
    revert htrying
    cases (run (State.step config.maxRetries.toNat (backoff config)) .init results
      (config.maxRetries.toNat + 1)).phase <;> simp
  · intro n
    rw [hsim, RetryLoop.ofState]
    cases (run (State.step config.maxRetries.toNat (backoff config)) .init results n).phase <;> simp
  · intro n
    rw [hsim]
    rfl
  · intro n
    obtain ⟨k, hk⟩ := exists_delays_eq config.maxRetries.toNat (backoff config) results n
    rw [hsim, RetryLoop.ofState, hk, List.pairwise_map]
    exact List.pairwise_lt_range.imp fun hlt => backoff_mono config (Nat.le_of_lt hlt)

/-- A loop that comes to a delay that does not fit panics, or overflows. -/
theorem retriesFit_of_exact
    (hpanic : ∀ n, (createWithRetries checks config results n).phase ≠ .panicked)
    (hwrap : ∀ n, (createWithRetries checks config results n).wrapped = false) :
    RetriesFit config results := by
  intro retry
  -- the first delay that does not fit is come to by a loop that has computed those before it
  induction retry using Nat.strong_induction_on with
  | _ retry ih =>
    intro hlt hfails
    by_contra hfits
    have hbefore := sim_run checks (n := retry) fun i hi hlt' hfails' =>
      ih i hi hlt' hfails'
    have htrying := run_of_fails (backoff config) (Nat.le_of_lt hlt)
      (hfails.mono (Nat.le_succ retry))
    obtain ⟨e, he⟩ := hfails retry (Nat.lt_succ_self retry)
    rw [htrying] at hbefore
    have hafter : createWithRetries checks config results (retry + 1)
        = RetryLoop.step checks config (createWithRetries checks config results retry)
            (.error e) := run_succ_some he
    have hpanic' := hpanic (retry + 1)
    have hwrap' := hwrap (retry + 1)
    rw [hafter, hbefore] at hpanic' hwrap'
    simp only [RetryLoop.step, RetryLoop.ofState] at hpanic' hwrap'
    rcases onErr_of_not_fits (s := ⟨retry, retry + 1,
      (List.range retry).map (backoff config), false, .trying⟩) checks e hlt hfits with
      hnone | ⟨s', hs', hw⟩
    · rw [hnone] at hpanic'
      exact hpanic' rfl
    · rw [hs'] at hwrap'
      exact absurd (hw.symm.trans hwrap') (by decide)

/-- **When the loop does what it is to do**: exactly when all the delays fit that it comes to. -/
theorem createWithRetries_iff (b : RetryBackend) (checks : Bool) (config : RetryConfig)
    (results : Seq (Except E C)) :
    RetriesWell config.maxRetries.toNat results (b.createWithRetries checks config results)
      ↔ RetriesFit config results := by
  have hloop : b.createWithRetries checks config results
      = createWithRetries checks config results := by
    cases b <;> rfl
  rw [hloop]
  constructor
  · intro h
    exact retriesFit_of_exact h.not_panicked h.not_wrapped
  · exact retriesWell_of_fit

/-- 33 failures in a row, of a loop that may retry as often. -/
theorem not_forall_retriesWell :
    ¬ ∀ (b : RetryBackend) (checks : Bool) (config : RetryConfig)
      (results : Seq (Except Unit Unit)),
      RetriesWell config.maxRetries.toNat results (b.createWithRetries checks config results) := by
  intro h
  have hwell := h .database true ⟨33, 1⟩ (Seq.ofStream (Stream'.const (.error ())))
  have hfits := retriesFit_of_exact hwell.not_panicked hwell.not_wrapped
  have := (hfits 32 (by decide) fun j _ => ⟨(), rfl⟩).1
  omega

end ActonService
