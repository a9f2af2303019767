import ActonService.Lib.Counter
import ActonService.Middleware.RateLimit

/-!
# The counters in Redis expire

`record_failure` and `check_and_increment` create a counter with one command and give it its time
to live with the next.  If the reply to the first is lost, or the second does not take effect, the
counter stays without one and later calls do not set it, for they see a count above one.

## Main definitions

* `LockoutWindow`, `RateLimitWindow` — the times to live the keys may be given.
* `failureProgram`, `requestProgram` — the clients.

## Main results

* `always_recordFailure`, `always_checkAndIncrement` — the functions follow up on the counters they
  create.
* `counters_expire` — **in every interleaving of reliable commands the counters have a time to live
  of at most the window, and are gone when it has passed.**
-/

namespace ActonService

open Effect Run

/-! ### The lockout -/

namespace LoginLockout

variable (config : LockoutConfig)

/-- The time to live of a counter is the window, that of a lock its duration. -/
inductive LockoutWindow : String → ℤ → Prop
  | attempts (identity : String) :
      LockoutWindow (attemptsKey config identity) (asI64 config.windowSecs)
  | locked (identity : String) :
      LockoutWindow (lockedKey config identity) (asI64 config.lockoutDurationSecs)

variable {config}

theorem always_notify (event : LockoutEvent) :
    (notify event).Always (Redis.Counts (LockoutWindow config)) :=
  ⟨.notify event _, fun _ => trivial⟩

theorem always_startWindow (identity : String) (count : ℕ) :
    (startWindow config identity count).Always (Redis.Counts (LockoutWindow config)) := by
  unfold startWindow
  split
  · exact Redis.always_ask (fun _ => .expire _ _ _ (.attempts identity)) _
  · exact trivial

theorem always_lockAtLimit (identity : String) (count : ℕ) :
    (lockAtLimit config identity count).Always (Redis.Counts (LockoutWindow config)) := by
  unfold lockAtLimit
  split
  · refine Redis.always_counts_bind ⟨.clock _, fun _ => trivial⟩ fun now => ?_
    refine Redis.always_counts_bind ?_ fun _ => ?_
    · exact Redis.always_ask (fun _ => .setEx _ _ _ _ (.locked identity)) _
    · exact Redis.always_counts_bind (always_notify _) fun _ => trivial
  · exact trivial

/-- **`record_failure` follows up on the counter it creates.** -/
theorem always_recordFailure (identity : String) :
    (recordFailure config identity).Always (Redis.Counts (LockoutWindow config)) := by
  unfold recordFailure
  split
  · exact trivial
  refine Redis.always_counts_bind (Redis.always_ask .connect _) fun _ => ?_
  refine Redis.always_incr_bind rfl (fun reply => ?_) _
  refine Redis.always_counts_bind (always_startWindow identity _) fun _ => ?_
  refine Redis.always_counts_bind (always_notify _) fun _ => ?_
  refine Redis.always_counts_bind ?_ fun _ => always_lockAtLimit identity _
  unfold warnAtThreshold
  split
  · exact always_notify _
  · exact trivial

end LoginLockout

/-! ### The rate limiter -/

namespace RateLimit

variable {windowSecs : ℕ}

/-- Every counter gets the window. -/
def RateLimitWindow (windowSecs : ℕ) (_key : String) (secs : ℤ) : Prop := secs = asI64 windowSecs

/-- **`check_and_increment` follows up on the counter it creates.** -/
theorem always_checkAndIncrement (key : String) (limit : ℕ) :
    (checkAndIncrement key limit windowSecs).Always
      (Redis.Counts (RateLimitWindow windowSecs)) := by
  unfold checkAndIncrement
  refine Redis.always_counts_bind (Redis.always_ask .connect _) fun _ => ?_
  refine Redis.always_incr_bind rfl (fun reply => ?_) _
  refine Redis.always_counts_bind ?_ fun _ => ?_
  · unfold startWindow
    split
    · exact Redis.always_ask (fun _ => .expire _ _ _ rfl) _
    · exact trivial
  · refine Redis.always_counts_bind (Redis.always_askOr (.ttl key) _) fun ttl => ?_
    dsimp only
    split <;> exact trivial

end RateLimit

/-! ### Runs -/

open LoginLockout RateLimit

/-- A client records a failed login. -/
def failureProgram (config : LockoutConfig) (identity : String) : LockoutProg Unit := do
  let _ ← recordFailure config identity

/-- A request to count. -/
structure RateLimitRequest where
  key : String
  limit : ℕ

/-- A client counts a request. -/
def requestProgram (windowSecs : ℕ) (request : RateLimitRequest) : RateLimitProg Unit := do
  let _ ← checkAndIncrement request.key request.limit windowSecs

theorem attemptsKey_window {config : LockoutConfig} {identity : String} {secs : ℤ}
    (h : LockoutWindow config (attemptsKey config identity) secs) : secs ≤ config.windowSecs := by
  generalize hkey : attemptsKey config identity = key at h
  cases h with
  | attempts other => exact asI64_le _
  | locked other => exact absurd hkey (attemptsKey_ne_lockedKey identity other)

theorem lockedKey_window {config : LockoutConfig} {identity : String} {secs : ℤ}
    (h : LockoutWindow config (lockedKey config identity) secs) :
    secs ≤ config.lockoutDurationSecs := by
  generalize hkey : lockedKey config identity = key at h
  cases h with
  | attempts other => exact absurd hkey.symm (attemptsKey_ne_lockedKey other identity)
  | locked other => exact asI64_le _

/-- **The counters expire**, if every reply to a creation arrives and every counter without a time
to live gets it.  The counters of the lockout and of the rate limiter have at most their window to
live and are gone when it has passed, unless a client is just about to set it; the locks are gone
after their duration. -/
theorem counters_expire (config : LockoutConfig) (windowSecs : ℕ) :
    (∀ now pool,
      Reach (Pool.step Redis.serve (failureProgram config)) Redis.Reliable
        (Pool.idle ⟨now, .empty⟩) pool → ∀ identity,
        (¬ Redis.Awaited pool (attemptsKey config identity) →
          Redis.ExpiresWithin pool.state (attemptsKey config identity) config.windowSecs) ∧
        (¬ Redis.Awaited pool (lockedKey config identity) →
          Redis.ExpiresWithin pool.state (lockedKey config identity)
            config.lockoutDurationSecs)) ∧
    (∀ now pool,
      Reach (Pool.step Redis.serve (requestProgram windowSecs)) Redis.Reliable
        (Pool.idle ⟨now, .empty⟩) pool → ∀ key, ¬ Redis.Awaited pool key →
        Redis.ExpiresWithin pool.state key windowSecs) := by
  constructor
  · intro now pool hreach identity
    have hprogram : ∀ op, (failureProgram config op).Always
        (Redis.Counts (LockoutWindow config)) :=
      fun op => Redis.always_counts_bind (always_recordFailure op) fun _ => trivial
    constructor
    · intro hawaited
      exact Redis.expiresWithin_of_timed
        (fun _ => Redis.timed_of_reach hprogram hreach hawaited) fun _ => attemptsKey_window
    · intro hawaited
      exact Redis.expiresWithin_of_timed
        (fun _ => Redis.timed_of_reach hprogram hreach hawaited) fun _ => lockedKey_window
  · intro now pool hreach key hawaited
    have hprogram : ∀ op, (requestProgram windowSecs op).Always
        (Redis.Counts (RateLimitWindow windowSecs)) :=
      fun op => Redis.always_counts_bind (always_checkAndIncrement op.key op.limit)
        fun _ => trivial
    refine Redis.expiresWithin_of_timed
      (fun e => Redis.timed_of_reach hprogram hreach hawaited) ?_
    intro secs hsecs
    rw [hsecs]
    exact asI64_le windowSecs

/-- Client 0 starts, and its commands meet these fates, a second apart. -/
def aloneActions {Op : Type} (op : Op) (faults : List Redis.Fault) :
    List (Action Op Redis.Moment) :=
  .start 0 op :: faults.map fun fault => .step 0 ⟨1000, fault⟩

theorem aloneActions_who {Op : Type} (op : Op) (faults : List Redis.Fault) :
    ∀ a ∈ aloneActions op faults, a.who = 0 := by
  intro a ha
  rcases List.mem_cons.mp ha with rfl | ha
  · rfl
  · obtain ⟨fault, -, rfl⟩ := List.mem_map.mp ha
    rfl

/-- The pool after client 0 has recorded a failure of `bob`. -/
def sampleFailureRun (faults : List Redis.Fault) :
    Pool (Redis.Server String) LockoutCall Redis.Call.Answer LockoutError :=
  (aloneActions "bob" faults).foldl (Pool.step Redis.serve (failureProgram .standard))
    (Pool.idle ⟨0, .empty⟩)

/-- The pool after client 0 has counted a request of `bob`. -/
def sampleRequestRun (faults : List Redis.Fault) :
    Pool (Redis.Server String) (Redis.Call String Empty) Redis.Call.Answer RateLimitError :=
  (aloneActions ⟨"ratelimit:user:bob", 100⟩ faults).foldl
    (Pool.step Redis.serve (requestProgram 60)) (Pool.idle ⟨0, .empty⟩)

/-- A failure of `bob` is recorded and no command fails. -/
theorem counters_expire_sample :
    let s := (sampleFailureRun [.none, .none, .none, .none]).state
    s.keys.find? s.now (attemptsKey .standard "bob") = some ⟨.int 1, some 903000⟩ ∧
      Redis.ExpiresWithin s (attemptsKey .standard "bob") 900 := by
  have hallowed : Allowed (Pool.step Redis.serve (failureProgram .standard)) Redis.Reliable
      (Pool.idle ⟨0, .empty⟩) (aloneActions "bob" [.none, .none, .none, .none]) := by
    refine ⟨trivial, trivial, fun _ => rfl, fun e _ _ => ⟨rfl, by decide⟩, trivial, trivial⟩
  refine ⟨by decide, ?_⟩
  exact ((counters_expire .standard 60).1 _ _ (Reach.foldl .start hallowed) "bob").1
    (Redis.not_awaited_of_idle (Pool.next?_eq_none_of_alone (aloneActions_who _ _) rfl) _)

/-- The reply to the command that creates `bob`'s counter is lost, or the rate limiter's next
command is refused: the counter has no time to live. -/
theorem not_forall_counters_expire :
    (¬ ∀ config now pool,
      Reach (Pool.step Redis.serve (failureProgram config)) (fun _ _ => True)
        (Pool.idle ⟨now, .empty⟩) pool →
      (∀ who, (pool.threads who).next? = none) → ∀ identity,
        Redis.ExpiresWithin pool.state (attemptsKey config identity) config.windowSecs) ∧
    ¬ ∀ windowSecs now pool,
      Reach (Pool.step Redis.serve (requestProgram windowSecs)) (fun _ _ => True)
        (Pool.idle ⟨now, .empty⟩) pool →
      (∀ who, (pool.threads who).next? = none) → ∀ key,
        Redis.ExpiresWithin pool.state key windowSecs := by
  constructor
  · intro h
    have hreach : Reach (Pool.step Redis.serve (failureProgram .standard)) (fun _ _ => True)
        (Pool.idle ⟨0, .empty⟩) (sampleFailureRun [.none, .lostReply "connection reset"]) :=
      Reach.foldl .start (Allowed.of_forall (fun _ _ _ => trivial) _)
    have hbob := (h _ _ _ hreach
      (Pool.next?_eq_none_of_alone (aloneActions_who _ _) rfl) "bob").1 ⟨.int 1, none⟩ (by decide)
    exact absurd hbob (by decide)
  · intro h
    have hreach : Reach (Pool.step Redis.serve (requestProgram 60)) (fun _ _ => True)
        (Pool.idle ⟨0, .empty⟩) (sampleRequestRun [.none, .none, .refused "connection reset"]) :=
      Reach.foldl .start (Allowed.of_forall (fun _ _ _ => trivial) _)
    have hbob := (h _ _ _ hreach (Pool.next?_eq_none_of_alone (aloneActions_who _ _) rfl)
      "ratelimit:user:bob").1 ⟨.int 1, none⟩ (by decide)
    exact absurd hbob (by decide)

end ActonService
