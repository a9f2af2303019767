import Mathlib.Data.List.Infix
import ActonService.Json
import ActonService.Lockout.Service

/-!
# The lockout around the login handler

`LockoutMiddleware` of `lockout/middleware.rs`.  The middleware
checks the identity of a request, forwards the request to the login handler and records what the
handler answered.  The functions of the lockout are described here by what they do to the keys,
when every command comes through: a failure is counted in the window that is open, and a success
takes both keys out.

## Main definitions

* `LoginRequest`, `middleware` — a request and what is done with it.
* `openWindow`, `currentWindow` — the failures of the counting window that is open.
* `handle` — a request handled alone.

## Main results

* `perform_check`, `perform_recordFailure`, `perform_recordSuccess`, `perform_unlock` — **what the
  functions do to the keys.**
-/

namespace ActonService

open Effect

/-! ### Requests -/

/-- The body of a login request, as far as the middleware reads it. -/
inductive LoginBody
  /-- It cannot be read, or is longer than a megabyte. -/
  | unreadable (e : String)
  | notJson
  | json (v : Json)

/-- A login request, as far as the middleware looks at it. -/
structure LoginRequest where
  /-- The `Content-Type` header, if it is readable text. -/
  contentType : Option String
  body : LoginBody

/-- `str::contains` -/
def containsText (s part : String) : Bool := decide (part.toList <:+: s.toList)

/-- The request says that it is JSON. -/
def LoginRequest.isJson (req : LoginRequest) : Bool :=
  match req.contentType with
  | some contentType => containsText contentType "application/json"
  | none => false

/-- `Value::get` with `Value::as_str`. -/
def Json.stringField (field : String) : Json → Option String
  | .object entries =>
    match entries.lookup field with
    | some (.string s) => some s
    | _ => none
  | _ => none

/-- The identity the request is checked by. -/
def LoginRequest.identity (field : String) (req : LoginRequest) : Option String :=
  if req.isJson then
    match req.body with
    | .json v => v.stringField field
    | _ => none
  else none

/-! ### The middleware -/

/-- The calls of the middleware. -/
inductive LoginCall
  | lockout (c : LockoutCall)
  /-- `next.run(request)` -/
  | forward
  /-- `tokio::time::sleep` -/
  | sleep (ms : ℕ)

/-- The type of an answer; the handler answers with a status. -/
def LoginCall.Answer : LoginCall → Type
  | .lockout c => c.Answer
  | .forward => ℕ
  | .sleep _ => Unit

/-- Programs over the calls. -/
abbrev LoginProg (α : Type) := Prog LoginCall LoginCall.Answer LockoutError α

/-- What the client gets: what the login handler has answered, or the refusal of a locked identity.
-/
inductive LoginResponse
  /-- What the handler has answered. -/
  | handler (status : ℕ)
  /-- Status 423. -/
  | locked (retryAfter : ℕ)
  deriving DecidableEq, Repr

namespace LoginLockout

variable (config : LockoutConfig)

/-- A function of the lockout, called by the middleware. -/
def lockout {α : Type} (p : LockoutProg α) : LoginProg α := p.lift .lockout fun _ a => a

def forward : LoginProg ℕ := .call .forward .ret

def sleep (ms : ℕ) : LoginProg Unit := .call (.sleep ms) .ret

/-- What is recorded of the handler's answer. -/
def recordOutcome (identity : String) (status : ℕ) : LoginProg Unit :=
  if status = 401 then do
    let failure ← lockout (recordFailure config identity)
    if 0 < failure.delayMs then sleep failure.delayMs else .ret ()
  else if 200 ≤ status ∧ status < 300 then lockout (recordSuccess config identity)
  else .ret ()

/-- The request of an identity: it is refused if the account is locked, and the outcome is recorded
if not. -/
def enforce (identity : String) : LoginProg LoginResponse := do
  let status ← lockout (check config identity)
  if status.locked then .ret (.locked status.lockoutRemainingSecs)
  else
    let response ← forward
    recordOutcome config identity response
    .ret (.handler response)

/-- `LockoutMiddleware::middleware` -/
def middleware (field : String) (req : LoginRequest) : LoginProg LoginResponse :=
  if req.isJson then
    match req.body with
    | .unreadable e => .fail (.badRequest ("Failed to read request body: " ++ e))
    | .notJson => do .ret (.handler (← forward))
    | .json v =>
      match v.stringField field with
      | some identity => enforce config identity
      | none => do .ret (.handler (← forward))
  else do .ret (.handler (← forward))

/-- What a request meets: the handler's answer and the time it takes. -/
structure LoginInput where
  status : ℕ
  elapsed : ℕ

/-- The answer to a call; it is noted whether the handler was reached. -/
def loginAnswer (s : Redis.Server String × Bool) (who : ℕ) (input : LoginInput) :
    (c : LoginCall) → (Redis.Server String × Bool) × c.Answer
  | .lockout c =>
    let r := Redis.serve s.1 who ⟨0, .none⟩ c
    ((r.1, s.2), r.2)
  | .forward => ((⟨s.1.now + input.elapsed, s.1.keys⟩, true), input.status)
  | .sleep ms => ((⟨s.1.now + ms, s.1.keys⟩, s.2), ())

/-- A request is handled alone: what the client gets, the server afterwards, and whether the
handler was reached. -/
def handle (field : String) (s : Redis.Server String) (req : LoginRequest) (input : LoginInput) :
    Except LockoutError LoginResponse × Redis.Server String × Bool :=
  exec loginAnswer 0 (middleware config field req) (s, false) fun _ => input

/-! ### What the functions do -/

variable {config} {s : Redis.Server String}

/-- A command that is carried out. -/
theorem perform_command {c : Redis.Command String} {keys : Redis.Keyspace String}
    {reply : Redis.Reply c} (h : Redis.carryOut s.now s.keys c = .ok (keys, reply)) :
    Redis.perform (command c) s = (.ok reply, ⟨s.now, keys⟩) :=
  Redis.perform_ask h _

theorem perform_getConnection : Redis.perform getConnection s = (.ok (), s) :=
  perform_command (c := .connect) rfl

/-- Reading the count changes nothing. -/
theorem perform_attemptCountOrZero (config : LockoutConfig) (s : Redis.Server String)
    (identity : String) :
    ∃ count, Redis.perform (attemptCountOrZero config identity) s = (.ok count, s) := by
  have hget : (Redis.perform (getAttemptCount config identity) s).2 = s := by
    unfold getAttemptCount
    rw [Prog.bind_eq, Redis.perform_bind_ok perform_getConnection, Prog.bind_eq]
    cases hcarry : Redis.carryOut s.now s.keys (.get (attemptsKey config identity)) with
    | error e =>
      have herror : Redis.perform (command (.get (attemptsKey config identity))) s
          = (.error (.redis e), s) := Redis.perform_ask_error hcarry _
      rw [Redis.perform_bind_error herror]
    | ok r =>
      obtain ⟨keys, reply⟩ := r
      rw [Redis.perform_bind_ok (perform_command hcarry), Redis.carryOut_get hcarry]
      unfold parseCount
      split
      · rfl
      · split <;> rfl
      · rfl
  unfold attemptCountOrZero
  rw [Prog.bind_eq, Redis.perform_bind_ok Redis.perform_attempt, hget]
  cases (Redis.perform (getAttemptCount config identity) s).1 with
  | ok count => exact ⟨count, rfl⟩
  | error e => exact ⟨0, rfl⟩

/-- `check` goes by what `TTL` gives. -/
theorem perform_check (henabled : config.enabled = true) (identity : String) :
    ∃ status, Redis.perform (check config identity) s = (.ok status, s) ∧
      status.locked = decide (0 < s.keys.ttl s.now (lockedKey config identity)) := by
  obtain ⟨count, hcount⟩ := perform_attemptCountOrZero config s identity
  have httl : Redis.carryOut s.now s.keys (.ttl (lockedKey config identity))
      = .ok (s.keys, s.keys.ttl s.now (lockedKey config identity)) := rfl
  unfold check
  rw [henabled]
  simp only [Bool.not_true, Bool.false_eq_true, if_false]
  rw [Prog.bind_eq, Redis.perform_bind_ok perform_getConnection, Prog.bind_eq,
    Redis.perform_bind_ok (Redis.perform_askOr httl _)]
  split
  · next hlocked =>
    rw [Prog.bind_eq, Redis.perform_bind_ok hcount]
    exact ⟨_, rfl, (decide_eq_true hlocked).symm⟩
  · next hlocked =>
    rw [Prog.bind_eq, Redis.perform_bind_ok hcount]
    exact ⟨_, rfl, (decide_eq_false hlocked).symm⟩

/-! ### Counting windows -/

/-- The failures of the open window after one more.  A window is open for a time from its first
failure on; a failure that comes later opens a new one. -/
def openWindow (windowSecs : ℕ) (window : List ℕ) (now : ℕ) : List ℕ :=
  match window with
  | [] => [now]
  | first :: rest =>
    if now < first + 1000 * windowSecs then first :: (rest ++ [now]) else [now]

/-- The failures that count: those of the window that was opened last. -/
def currentWindow (windowSecs : ℕ) (failures : List ℕ) : List ℕ :=
  failures.foldl (openWindow windowSecs) []

theorem currentWindow_concat (windowSecs : ℕ) (failures : List ℕ) (now : ℕ) :
    currentWindow windowSecs (failures ++ [now])
      = openWindow windowSecs (currentWindow windowSecs failures) now := by
  simp [currentWindow, List.foldl_append]

/-- What Redis has of a window's failures. -/
def counterEntry (windowSecs : ℕ) (window : List ℕ) (now : ℕ) : Option (Redis.Entry String) :=
  match window with
  | [] => none
  | first :: rest =>
    if now < first + 1000 * windowSecs then
      some ⟨.int (rest.length + 1 : ℕ), some (first + 1000 * windowSecs)⟩
    else none

/-- Redis takes the durations at a time. -/
structure Accepts (config : LockoutConfig) (now : ℕ) : Prop where
  window : 1000 * config.windowSecs + now ≤ 9223372036854775807
  duration_pos : 0 < config.lockoutDurationSecs
  duration : 1000 * config.lockoutDurationSecs + now ≤ 9223372036854775807

theorem fitsExpire_asI64 {secs now : ℕ} (h : 1000 * secs + now ≤ 9223372036854775807) :
    asI64 secs = secs ∧ Redis.fitsExpire now (asI64 secs) = true ∧
      Redis.deadline now (asI64 secs) = now + 1000 * secs := by
  have hsecs : asI64 secs = secs := asI64_of_lt (by omega)
  refine ⟨hsecs, ?_, ?_⟩
  · rw [hsecs, Redis.fitsExpire, decide_eq_true_eq]
    omega
  · rw [hsecs, Redis.deadline]
    omega

/-- `INCR`, and `EXPIRE` if it has created the counter, leave the counter of a window. -/
def CountedAs (config : LockoutConfig) (s : Redis.Server String) (identity : String)
    (window : List ℕ) : Prop :=
  ∃ reply keys₁ keys₂,
    Redis.carryOut s.now s.keys (.incr (attemptsKey config identity)) = .ok (keys₁, reply) ∧
    asU32 reply = window.length ∧
    Redis.perform (startWindow config identity (asU32 reply)) ⟨s.now, keys₁⟩
      = (.ok (), ⟨s.now, keys₂⟩) ∧
    (∀ t, s.now ≤ t → keys₂.find? t (attemptsKey config identity)
      = counterEntry config.windowSecs window t) ∧
    ∀ key, key ≠ attemptsKey config identity → keys₂.entries key = s.keys.entries key

/-- A failure that opens a window: there was no counter, and the new one expires with the window. -/
theorem countedAs_first {identity : String} (haccepts : Accepts config s.now)
    (hnone : s.keys.find? s.now (attemptsKey config identity) = none) :
    CountedAs config s identity [s.now] := by
  obtain ⟨hsecs, hfits, hdeadline⟩ := fitsExpire_asI64 haccepts.window
  have hincr : Redis.carryOut s.now s.keys (.incr (attemptsKey config identity))
      = .ok (s.keys.put (attemptsKey config identity) ⟨.int 1, none⟩, 1) := by
    simp only [Redis.carryOut, Redis.Keyspace.incr, hnone]
  have hfound : (s.keys.put (attemptsKey config identity) ⟨.int 1, none⟩).find? s.now
      (attemptsKey config identity) = some ⟨.int 1, none⟩ := by
    simp [Redis.Entry.live]
  have hexpire : Redis.carryOut s.now (s.keys.put (attemptsKey config identity) ⟨.int 1, none⟩)
      (.expire (attemptsKey config identity) (asI64 config.windowSecs))
      = .ok (if 0 < asI64 config.windowSecs then
          (s.keys.put (attemptsKey config identity) ⟨.int 1, none⟩).put
            (attemptsKey config identity)
            ⟨.int 1, some (Redis.deadline s.now (asI64 config.windowSecs))⟩
        else (s.keys.put (attemptsKey config identity) ⟨.int 1, none⟩).remove
          (attemptsKey config identity), ()) := by
    simp only [Redis.carryOut, Redis.Keyspace.expire, hfits, hfound, if_true]
    rfl
  refine ⟨1, _, _, hincr, rfl, perform_command hexpire, fun t ht => ?_, fun key hkey => ?_⟩
  · simp only [counterEntry, List.length_nil]
    split
    · rw [Redis.Keyspace.find?_put_self, hdeadline]
      simp [Redis.Entry.live]
    · next hpos =>
      -- a window of no length is over at once
      rw [Redis.Keyspace.find?_remove_self, if_neg]
      omega
  · split
    · rw [Redis.Keyspace.entries_put_of_ne _ _ hkey, Redis.Keyspace.entries_put_of_ne _ _ hkey]
    · rw [Redis.Keyspace.entries_remove_of_ne _ hkey, Redis.Keyspace.entries_put_of_ne _ _ hkey]

/-- A failure in an open window: the counter goes up by one and keeps its deadline. -/
theorem countedAs_next {identity : String} {first : ℕ} {rest : List ℕ}
    (hlength : rest.length + 2 < 4294967296)
    (hfound : s.keys.find? s.now (attemptsKey config identity)
      = some ⟨.int (rest.length + 1 : ℕ), some (first + 1000 * config.windowSecs)⟩) :
    CountedAs config s identity (first :: (rest ++ [s.now])) := by
  have hincr : Redis.carryOut s.now s.keys (.incr (attemptsKey config identity))
      = .ok (s.keys.put (attemptsKey config identity) ⟨.int (rest.length + 1 + 1 : ℕ),
          some (first + 1000 * config.windowSecs)⟩, (rest.length + 1 + 1 : ℕ)) := by
    simp only [Redis.carryOut, Redis.Keyspace.incr, hfound]
    rw [if_pos (by omega)]
    rfl
  have hcount : asU32 (rest.length + 1 + 1 : ℕ) = rest.length + 1 + 1 := asU32_of_lt hlength
  have hlater : startWindow config identity (asU32 (rest.length + 1 + 1 : ℕ)) = .ret () := by
    rw [hcount, startWindow, if_neg (by omega)]
  have hunchanged : ∀ keys, Redis.perform
      (startWindow config identity (asU32 (rest.length + 1 + 1 : ℕ))) ⟨s.now, keys⟩
      = (.ok (), ⟨s.now, keys⟩) := by
    intro keys
    rw [hlater]
    rfl
  refine ⟨_, _, _, hincr, ?_, hunchanged _, fun t ht => ?_, fun key hkey => ?_⟩
  · rw [hcount]
    simp
  · simp only [Redis.Keyspace.find?_put_self, Redis.Entry.live, decide_eq_true_eq, counterEntry,
      List.length_append, List.length_singleton]
  · exact Redis.Keyspace.entries_put_of_ne _ _ hkey

/-- A failure is counted in the window that is open, or opens one. -/
theorem countedAs_openWindow {identity : String} {window : List ℕ}
    (haccepts : Accepts config s.now) (hlength : window.length + 1 < 4294967296)
    (hcounter : s.keys.find? s.now (attemptsKey config identity)
      = counterEntry config.windowSecs window s.now) :
    CountedAs config s identity (openWindow config.windowSecs window s.now) := by
  cases window with
  | nil => exact countedAs_first haccepts hcounter
  | cons first rest =>
    simp only [counterEntry] at hcounter
    simp only [openWindow]
    split
    · next hopen =>
      rw [if_pos hopen] at hcounter
      exact countedAs_next hlength hcounter
    · next hover =>
      rw [if_neg hover] at hcounter
      exact countedAs_first haccepts hcounter

/-- The lock is set when the count has reached the number of attempts. -/
theorem perform_lockAtLimit (hpos : 0 < asI64 config.lockoutDurationSecs)
    (hfits : Redis.fitsExpire s.now (asI64 config.lockoutDurationSecs) = true)
    (identity : String) (count : ℕ) :
    ∃ status, Redis.perform (lockAtLimit config identity count) s =
        (.ok status, ⟨s.now, if config.maxAttempts ≤ count then
          s.keys.put (lockedKey config identity) ⟨.int (s.now / 1000 : ℕ),
            some (Redis.deadline s.now (asI64 config.lockoutDurationSecs))⟩ else s.keys⟩) ∧
      status.locked = decide (config.maxAttempts ≤ count) ∧
      (status.locked = true → status.delayMs = 0) := by
  unfold lockAtLimit
  split
  · next hlimit =>
    have hset : Redis.carryOut s.now s.keys (.setEx (lockedKey config identity)
        (.int (s.now / 1000 : ℕ)) (asI64 config.lockoutDurationSecs))
        = .ok (s.keys.put (lockedKey config identity) ⟨.int (s.now / 1000 : ℕ),
            some (Redis.deadline s.now (asI64 config.lockoutDurationSecs))⟩, ()) := by
      simp only [Redis.carryOut, hfits, hpos, decide_true, Bool.and_self, if_true]
    have htimestamp : Redis.perform timestamp s = (.ok (s.now / 1000), s) := rfl
    unfold lockAccount
    rw [Prog.bind_eq, Redis.perform_bind_ok htimestamp, Prog.bind_eq,
      Redis.perform_bind_ok (perform_command hset)]
    exact ⟨_, rfl, (decide_eq_true hlimit).symm, fun _ => rfl⟩
  · next hlimit =>
    exact ⟨_, rfl, (decide_eq_false hlimit).symm, fun h => absurd h Bool.false_ne_true⟩

/-- What `record_failure` does when the counter is that of a window. -/
structure FailureRecorded (config : LockoutConfig) (s : Redis.Server String) (identity : String)
    (window : List ℕ) (status : LockoutStatus) (keys : Redis.Keyspace String) : Prop where
  locked : status.locked = decide (config.maxAttempts ≤ window.length)
  delay : status.locked = true → status.delayMs = 0
  counter : ∀ t, s.now ≤ t → keys.find? t (attemptsKey config identity)
    = counterEntry config.windowSecs window t
  lock : keys.entries (lockedKey config identity) =
    if config.maxAttempts ≤ window.length then some ⟨.int (s.now / 1000 : ℕ),
      some (s.now + 1000 * config.lockoutDurationSecs)⟩
    else s.keys.entries (lockedKey config identity)
  frame : ∀ key, key ≠ attemptsKey config identity → key ≠ lockedKey config identity →
    keys.entries key = s.keys.entries key

/-- **`record_failure`** counts in the open window and locks at the limit. -/
theorem perform_recordFailure {identity : String} {window : List ℕ}
    (henabled : config.enabled = true) (haccepts : Accepts config s.now)
    (hlength : window.length + 1 < 4294967296)
    (hcounter : s.keys.find? s.now (attemptsKey config identity)
      = counterEntry config.windowSecs window s.now) :
    ∃ status keys, Redis.perform (recordFailure config identity) s = (.ok status, ⟨s.now, keys⟩) ∧
      FailureRecorded config s identity (openWindow config.windowSecs window s.now) status
        keys := by
  obtain ⟨reply, keys₁, keys₂, hincr, hcount, hwindow, hafter, hframe⟩ :=
    countedAs_openWindow haccepts hlength hcounter
  obtain ⟨hsecs, hfits, hdeadline⟩ := fitsExpire_asI64 haccepts.duration
  have hpos : 0 < asI64 config.lockoutDurationSecs := by
    have := haccepts.duration_pos
    omega
  have hwarn : ∀ count keys, Redis.perform (warnAtThreshold config identity count) ⟨s.now, keys⟩
      = (.ok (), ⟨s.now, keys⟩) := by
    intro count keys
    unfold warnAtThreshold
    split <;> rfl
  have hnotify : ∀ event keys, Redis.perform (notify event) ⟨s.now, keys⟩
      = (.ok (), ⟨s.now, keys⟩) := fun _ _ => rfl
  obtain ⟨status, hlock, hlocked, hdelay⟩ :=
    perform_lockAtLimit (s := ⟨s.now, keys₂⟩) hpos hfits identity (asU32 reply)
  -- up to the lock: the counter, its window, the event and the warning
  have hrun : Redis.perform (recordFailure config identity) s
      = Redis.perform (lockAtLimit config identity (asU32 reply)) ⟨s.now, keys₂⟩ := by
    unfold recordFailure
    rw [henabled]
    simp only [Bool.not_true, Bool.false_eq_true, if_false]
    rw [Prog.bind_eq, Redis.perform_bind_ok perform_getConnection, Prog.bind_eq,
      Redis.perform_bind_ok (perform_command hincr)]
    rw [Prog.bind_eq, Redis.perform_bind_ok hwindow, Prog.bind_eq,
      Redis.perform_bind_ok (hnotify _ _), Prog.bind_eq, Redis.perform_bind_ok (hwarn _ _)]
  -- the lock is another key than the counter, so that writing one leaves the other
  have hkeys : attemptsKey config identity ≠ lockedKey config identity :=
    attemptsKey_ne_lockedKey identity identity
  refine ⟨status, _, hrun.trans hlock, ?_⟩
  rw [hcount] at hlocked ⊢
  refine ⟨hlocked, hdelay, fun t ht => ?_, ?_, fun key hattempts hlockedKey => ?_⟩
  · split
    · rw [Redis.Keyspace.find?_put_of_ne _ _ _ hkeys]
      exact hafter t ht
    · exact hafter t ht
  · split
    · rw [Redis.Keyspace.entries_put_self, hdeadline]
    · exact hframe _ hkeys.symm
  · split
    · rw [Redis.Keyspace.entries_put_of_ne _ _ hlockedKey]
      exact hframe key hattempts
    · exact hframe key hattempts

/-- Both keys of the identity are gone. -/
def clearedKeys (config : LockoutConfig) (keys : Redis.Keyspace String) (identity : String) :
    Redis.Keyspace String :=
  (keys.remove (attemptsKey config identity)).remove (lockedKey config identity)

theorem entries_clearedKeys_attempts (keys : Redis.Keyspace String) (identity : String) :
    (clearedKeys config keys identity).entries (attemptsKey config identity) = none := by
  unfold clearedKeys
  rw [Redis.Keyspace.entries_remove_of_ne _ (attemptsKey_ne_lockedKey _ _)]
  exact Redis.Keyspace.entries_remove_self _ _

theorem entries_clearedKeys_locked (keys : Redis.Keyspace String) (identity : String) :
    (clearedKeys config keys identity).entries (lockedKey config identity) = none :=
  Redis.Keyspace.entries_remove_self _ _

theorem entries_clearedKeys_of_ne (keys : Redis.Keyspace String) {identity key : String}
    (hattempts : key ≠ attemptsKey config identity) (hlocked : key ≠ lockedKey config identity) :
    (clearedKeys config keys identity).entries key = keys.entries key := by
  unfold clearedKeys
  rw [Redis.Keyspace.entries_remove_of_ne _ hlocked,
    Redis.Keyspace.entries_remove_of_ne _ hattempts]

theorem carryOut_del (identity : String) :
    Redis.carryOut s.now s.keys (.del [attemptsKey config identity, lockedKey config identity])
      = .ok (clearedKeys config s.keys identity, ()) := rfl

/-- **`record_success`** takes both keys out. -/
theorem perform_recordSuccess (henabled : config.enabled = true) (identity : String) :
    Redis.perform (recordSuccess config identity) s
      = (.ok (), ⟨s.now, clearedKeys config s.keys identity⟩) := by
  have hexists : Redis.carryOut s.now s.keys (.exists (lockedKey config identity))
      = .ok (s.keys, (s.keys.find? s.now (lockedKey config identity)).isSome) := rfl
  unfold recordSuccess
  rw [henabled]
  simp only [Bool.not_true, Bool.false_eq_true, if_false]
  rw [Prog.bind_eq, Redis.perform_bind_ok perform_getConnection, Prog.bind_eq,
    Redis.perform_bind_ok (Redis.perform_askOr hexists _), Prog.bind_eq,
    Redis.perform_bind_ok (perform_command (carryOut_del identity))]
  split <;> rfl

/-- **`unlock`** takes both keys out. -/
theorem perform_unlock (config : LockoutConfig) (s : Redis.Server String) (identity : String) :
    Redis.perform (unlock config identity) s
      = (.ok (), ⟨s.now, clearedKeys config s.keys identity⟩) := by
  unfold unlock
  rw [Prog.bind_eq, Redis.perform_bind_ok perform_getConnection, Prog.bind_eq,
    Redis.perform_bind_ok (perform_command (carryOut_del identity))]
  rfl

end LoginLockout

end ActonService
