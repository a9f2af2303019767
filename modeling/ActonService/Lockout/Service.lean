import ActonService.Lib.Redis

/-!
# The login lockout

`LoginLockout` of `lockout/service.rs`.  Failed logins of an identity are counted in a Redis key
that expires with the counting window; when the count reaches the configured number of attempts,
a second key is set, and while it lives the identity is locked.

The number of a command's reply that is read as a `u32` is cut to 32 bits, and a `u64` that is
sent as an `i64` may become negative.  The factor of the progressive delay is a floating-point
power and is a parameter.

## Main definitions

* `LockoutConfig`, `LockoutStatus`, `LockoutEvent` — settings, results and notifications.
* `LoginLockout.check`, `recordFailure`, `recordSuccess`, `unlock` — the functions, as programs
  that make one command at a time.

## Main results

* `attemptsKey_ne_lockedKey` — the two keys of identities are different.
-/

namespace ActonService

open Effect

/-! ### Settings and results -/

/-- `LockoutConfig` -/
structure LockoutConfig where
  enabled : Bool
  maxAttempts : ℕ
  windowSecs : ℕ
  lockoutDurationSecs : ℕ
  progressiveDelayEnabled : Bool
  /-- `base_delay_ms * delay_multiplier.powf(n)` in whole milliseconds, if it is finite. -/
  scaledDelay : ℕ → Option ℕ
  maxDelayMs : ℕ
  warningThreshold : ℕ
  keyPrefix : String

/-- `LockoutConfig::default` -/
def LockoutConfig.standard : LockoutConfig :=
  { enabled := true, maxAttempts := 5, windowSecs := 900, lockoutDurationSecs := 1800,
    progressiveDelayEnabled := true, scaledDelay := fun n => some (Nat.shiftLeft 1000 n),
    maxDelayMs := 30000, warningThreshold := 3, keyPrefix := "lockout" }

/-- `LockoutStatus` -/
structure LockoutStatus where
  locked : Bool
  attemptCount : ℕ
  maxAttempts : ℕ
  lockoutRemainingSecs : ℕ
  delayMs : ℕ
  deriving DecidableEq, Repr

/-- `UnlockReason` -/
inductive UnlockReason
  | successfulLogin
  | adminAction
  deriving DecidableEq, Repr

/-- `LockoutEvent` -/
inductive LockoutEvent
  | failedAttempt (identity : String) (attemptCount maxAttempts : ℕ)
  | approachingThreshold (identity : String) (attemptCount remainingAttempts : ℕ)
  | accountLocked (identity : String) (attemptCount lockoutDurationSecs : ℕ)
  | accountUnlocked (identity : String) (reason : UnlockReason)
  deriving DecidableEq, Repr

/-- `n as u32` of an `i64`. -/
def asU32 (n : ℤ) : ℕ := (n % 4294967296).toNat

/-- `n as i64` of a `u64`. -/
def asI64 (n : ℕ) : ℤ :=
  if n % 18446744073709551616 < 9223372036854775808 then (n % 18446744073709551616 : ℕ)
  else (n % 18446744073709551616 : ℕ) - 18446744073709551616

theorem asU32_of_lt {n : ℕ} (h : n < 4294967296) : asU32 n = n := by
  unfold asU32
  omega

/-- A time to live that is sent as a positive number is the one that was set. -/
theorem asI64_le (n : ℕ) : asI64 n ≤ n := by
  unfold asI64
  split <;> omega

theorem asI64_of_lt {n : ℕ} (h : n < 9223372036854775808) : asI64 n = n := by
  unfold asI64
  split <;> omega

/-! ### Programs -/

/-- The errors of the lockout and of its middleware. -/
inductive LockoutError
  | redis (message : String)
  | badRequest (message : String)
  deriving DecidableEq, Repr

/-- The calls of the lockout. -/
abbrev LockoutCall := Redis.Call String LockoutEvent

/-- Programs over the calls. -/
abbrev LockoutProg (α : Type) := Prog LockoutCall Redis.Call.Answer LockoutError α

namespace LoginLockout

/-- A command whose error is passed on. -/
def command (c : Redis.Command String) : LockoutProg (Redis.Reply c) := Redis.ask .redis c

/-- `get_connection` -/
def getConnection : LockoutProg Unit := command .connect

/-- `notify` -/
def notify (event : LockoutEvent) : LockoutProg Unit := .call (.notify event) .ret

/-- `chrono::Utc::now().timestamp()` -/
def timestamp : LockoutProg ℕ := .call .clock fun (now : ℕ) => .ret (now / 1000)

variable (config : LockoutConfig)

/-- `attempts_key` -/
def attemptsKey (identity : String) : String := config.keyPrefix ++ ":attempts:" ++ identity

/-- `locked_key` -/
def lockedKey (identity : String) : String := config.keyPrefix ++ ":locked:" ++ identity

/-- `compute_delay` -/
def computeDelay (attemptCount : ℕ) : ℕ :=
  if !config.progressiveDelayEnabled || attemptCount == 0 then 0
  else
    match config.scaledDelay (attemptCount - 1) with
    | some delay => min delay config.maxDelayMs
    | none => config.maxDelayMs

/-- A `u32` as `GET` gives it. -/
def parseCount : Option (Redis.Value String) → LockoutProg ℕ
  | none => .ret 0
  | some (.int n) =>
    if 0 ≤ n ∧ n < 4294967296 then .ret n.toNat else .fail (.redis "Could not convert from string.")
  | some _ => .fail (.redis "Could not convert from string.")

/-- `get_attempt_count` -/
def getAttemptCount (identity : String) : LockoutProg ℕ := do
  getConnection
  let count ← command (.get (attemptsKey config identity))
  parseCount count

/-- `get_attempt_count` with its error replaced by 0. -/
def attemptCountOrZero (identity : String) : LockoutProg ℕ := do
  match ← (getAttemptCount config identity).attempt with
  | .ok count => .ret count
  | .error _ => .ret 0

/-- What is returned when the lockout is switched off. -/
def disabledStatus : LockoutStatus := ⟨false, 0, config.maxAttempts, 0, 0⟩

/-- `check` -/
def check (identity : String) : LockoutProg LockoutStatus := do
  if !config.enabled then .ret (disabledStatus config)
  else
    getConnection
    let lockedTtl ← Redis.askOr (.ttl (lockedKey config identity)) (-2 : ℤ)
    if 0 < lockedTtl then
      let attemptCount ← attemptCountOrZero config identity
      .ret ⟨true, attemptCount, config.maxAttempts, lockedTtl.toNat, 0⟩
    else
      let attemptCount ← attemptCountOrZero config identity
      .ret ⟨false, attemptCount, config.maxAttempts, 0, computeDelay config attemptCount⟩

/-- The lock is set, and the caller is told. -/
def lockAccount (identity : String) (count : ℕ) : LockoutProg LockoutStatus := do
  let now ← timestamp
  command (.setEx (lockedKey config identity) (.int now) (asI64 config.lockoutDurationSecs))
  notify (.accountLocked identity count config.lockoutDurationSecs)
  .ret ⟨true, count, config.maxAttempts, config.lockoutDurationSecs, 0⟩

/-- The first failure starts the window: the counter is given the window as its time to live. -/
def startWindow (identity : String) (count : ℕ) : LockoutProg Unit :=
  if count = 1 then command (.expire (attemptsKey config identity) (asI64 config.windowSecs))
  else .ret ()

/-- The warning before the lock: an event for the failure that reaches the threshold, if that is not
yet the last one. -/
def warnAtThreshold (identity : String) (count : ℕ) : LockoutProg Unit :=
  if 0 < config.warningThreshold ∧ count = config.warningThreshold ∧
      count < config.maxAttempts then
    notify (.approachingThreshold identity count (config.maxAttempts - count))
  else .ret ()

/-- The account is locked when the count has reached the number of attempts. -/
def lockAtLimit (identity : String) (count : ℕ) : LockoutProg LockoutStatus :=
  if config.maxAttempts ≤ count then lockAccount config identity count
  else .ret ⟨false, count, config.maxAttempts, 0, computeDelay config count⟩

/-- `record_failure` -/
def recordFailure (identity : String) : LockoutProg LockoutStatus := do
  if !config.enabled then .ret (disabledStatus config)
  else
    getConnection
    let reply ← command (.incr (attemptsKey config identity))
    let count := asU32 reply
    startWindow config identity count
    notify (.failedAttempt identity count config.maxAttempts)
    warnAtThreshold config identity count
    lockAtLimit config identity count

/-- `record_success` -/
def recordSuccess (identity : String) : LockoutProg Unit := do
  if !config.enabled then .ret ()
  else
    getConnection
    let wasLocked ← Redis.askOr (.exists (lockedKey config identity)) false
    command (.del [attemptsKey config identity, lockedKey config identity])
    if wasLocked then notify (.accountUnlocked identity .successfulLogin) else .ret ()

/-- `unlock` -/
def unlock (identity : String) : LockoutProg Unit := do
  getConnection
  command (.del [attemptsKey config identity, lockedKey config identity])
  notify (.accountUnlocked identity .adminAction)

/-! ### Keys -/

variable {config}

theorem attemptsKey_injective : Function.Injective (attemptsKey config) := by
  intro s t h
  simp only [attemptsKey, String.append_right_inj] at h
  exact h

theorem lockedKey_injective : Function.Injective (lockedKey config) := by
  intro s t h
  simp only [lockedKey, String.append_right_inj] at h
  exact h

theorem attemptsKey_ne_lockedKey (identity other : String) :
    attemptsKey config identity ≠ lockedKey config other := by
  intro h
  simp only [attemptsKey, lockedKey, String.append_assoc, String.append_right_inj] at h
  simpa using congrArg String.toList h

end LoginLockout

end ActonService
