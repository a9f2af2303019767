import ActonService.Lockout.Service

/-!
# The rate limiter in Redis

`check_and_increment` of `middleware/rate_limit.rs`: the requests under a key are counted in
Redis, and the key expires with the window.

## Main definitions

* `RateLimitResult`, `RateLimitError` — what the caller gets.
* `RateLimit.checkAndIncrement` — the function, as a program that makes one command at a time.
-/

namespace ActonService

open Effect

/-- `RateLimitResult` -/
structure RateLimitResult where
  limit : ℕ
  count : ℕ
  resetSecs : ℕ
  deriving DecidableEq, Repr

/-- The errors of the rate limiter. -/
inductive RateLimitError
  | redis (message : String)
  | rateLimitExceeded
  deriving DecidableEq, Repr

/-- Programs over the commands; the rate limiter tells nobody. -/
abbrev RateLimitProg (α : Type) :=
  Prog (Redis.Call String Empty) Redis.Call.Answer RateLimitError α

namespace RateLimit

/-- A command whose error is passed on. -/
def command (c : Redis.Command String) : RateLimitProg (Redis.Reply c) := Redis.ask .redis c

/-- The first request starts the window: the counter is given the window as its time to live. -/
def startWindow (key : String) (count windowSecs : ℕ) : RateLimitProg Unit :=
  if count = 1 then command (.expire key (asI64 windowSecs)) else .ret ()

/-- `check_and_increment` -/
def checkAndIncrement (key : String) (limit windowSecs : ℕ) : RateLimitProg RateLimitResult := do
  command .connect
  let reply ← command (.incr key)
  let count := asU32 reply
  startWindow key count windowSecs
  let ttl ← Redis.askOr (.ttl key) (asI64 windowSecs)
  let resetSecs := if 0 < ttl then ttl.toNat else windowSecs
  if limit < count then .fail .rateLimitExceeded
  else .ret ⟨limit, count, resetSecs⟩

end RateLimit

end ActonService
