import ActonService.Lockout.Middleware

/-!
# Runs of logins

Logins go through the lockout one after the other, with explicit `record_success` and `unlock`
calls between them and time passing.  What a run is measured by is the list of an identity's
failures since its last success or unlock.

`check` goes by the seconds that `TTL` gives, and `TTL` rounds, so a lock that has less than half a
second left is not seen.

## Main definitions

* `LoginState`, `loginStep` — the server and the failures, and what happens to them.
* `Enforced` — the lock of a request is seen, and Redis takes the durations.

## Main results

* `LoginInv.step` — every action keeps the counters in step with the failures.
* `lockout_safety` — **a locked identity does not reach the handler, a lock is set exactly when the
  failures of the window reach the limit, and a success starts from nothing.**
-/

namespace ActonService

open Effect Run LoginLockout

variable {config : LockoutConfig} {field : String}

/-! ### One request -/

theorem exec_lockout {α : Type} (p : LockoutProg α) (s : Redis.Server String) (b : Bool)
    (input : LoginInput) :
    exec loginAnswer 0 (lockout p) (s, b) (fun _ => input)
      = ((Redis.perform p s).1, ((Redis.perform p s).2, b)) :=
  exec_lift Redis.serve (fun _ => ⟨0, .none⟩) (fun _ _ _ _ _ => ⟨rfl, rfl⟩) 0 p s b
    fun _ => input

/-- What is recorded after the handler has answered. -/
inductive Recorded (config : LockoutConfig) (s : Redis.Server String) (identity : String)
    (failures : List ℕ) (status : ℕ) (s' : Redis.Server String) : Prop
  | failure (hstatus : status = 401) (result : LockoutStatus)
      (h : FailureRecorded config s identity
        (currentWindow config.windowSecs (failures ++ [s.now])) result s'.keys)
      (hnow : s'.now = if 0 < result.delayMs then s.now + result.delayMs else s.now)
  | success (hstatus : 200 ≤ status ∧ status < 300)
      (hkeys : s'.keys = clearedKeys config s.keys identity) (hnow : s'.now = s.now)
  | other (hfailure : status ≠ 401) (hsuccess : ¬ (200 ≤ status ∧ status < 300)) (h : s' = s)

/-- What the middleware records. -/
theorem exec_recordOutcome {s : Redis.Server String} {identity : String} {failures : List ℕ}
    (henabled : config.enabled = true) (haccepts : Accepts config s.now)
    (hlength : (currentWindow config.windowSecs failures).length + 1 < 4294967296)
    (hcounter : s.keys.find? s.now (attemptsKey config identity)
      = counterEntry config.windowSecs (currentWindow config.windowSecs failures) s.now)
    (status : ℕ) (b : Bool) (input : LoginInput) :
    ∃ s', exec loginAnswer 0 (recordOutcome config identity status) (s, b) (fun _ => input)
        = (.ok (), (s', b)) ∧ Recorded config s identity failures status s' := by
  unfold recordOutcome
  split
  · next hstatus =>
    obtain ⟨result, keys, hperform, hrecorded⟩ :=
      perform_recordFailure henabled haccepts hlength hcounter
    rw [← currentWindow_concat] at hrecorded
    rw [Prog.bind_eq, exec_bind_const, exec_lockout, hperform]
    dsimp only
    split
    · next hdelay =>
      exact ⟨_, rfl, .failure hstatus result hrecorded (if_pos hdelay).symm⟩
    · next hdelay =>
      exact ⟨_, rfl, .failure hstatus result hrecorded (if_neg hdelay).symm⟩
  · next hfailure =>
    split
    · next hsuccess =>
      rw [exec_lockout, perform_recordSuccess henabled]
      exact ⟨_, rfl, .success hsuccess rfl rfl⟩
    · next hsuccess => exact ⟨s, rfl, .other hfailure hsuccess rfl⟩

/-- A request that has no identity leaves the keys as they are. -/
theorem handle_of_identity_none (config : LockoutConfig) {req : LoginRequest}
    (h : req.identity field = none) (s : Redis.Server String) (input : LoginInput) :
    (handle config field s req input).2.1.keys = s.keys ∧
      s.now ≤ (handle config field s req input).2.1.now := by
  unfold LoginRequest.identity at h
  unfold handle middleware
  split at h
  · next hjson =>
    rw [if_pos hjson]
    cases hbody : req.body with
    | unreadable e => exact ⟨rfl, Nat.le_refl _⟩
    | notJson => exact ⟨rfl, Nat.le_add_right _ _⟩
    | json v =>
      rw [hbody] at h
      dsimp only at h ⊢
      rw [h]
      exact ⟨rfl, Nat.le_add_right _ _⟩
  · next hjson =>
    rw [if_neg hjson]
    exact ⟨rfl, Nat.le_add_right _ _⟩

/-- A request of an identity is enforced. -/
theorem handle_of_identity {req : LoginRequest} {identity : String}
    (h : req.identity field = some identity) (s : Redis.Server String) (input : LoginInput) :
    handle config field s req input
      = exec loginAnswer 0 (enforce config identity) (s, false) fun _ => input := by
  unfold LoginRequest.identity at h
  unfold handle middleware
  split at h
  · next hjson =>
    rw [if_pos hjson]
    cases hbody : req.body with
    | unreadable e =>
      rw [hbody] at h
      cases h
    | notJson =>
      rw [hbody] at h
      cases h
    | json v =>
      rw [hbody] at h
      dsimp only at h ⊢
      rw [h]
  · cases h

/-- A request whose lock is seen does not reach the handler. -/
theorem handle_locked {req : LoginRequest} {identity : String} {s : Redis.Server String}
    (henabled : config.enabled = true) (h : req.identity field = some identity)
    (hlocked : 0 < s.keys.ttl s.now (lockedKey config identity)) (input : LoginInput) :
    ∃ response, handle config field s req input = (.ok response, (s, false)) := by
  obtain ⟨status, hcheck, hstatus⟩ := perform_check (s := s) henabled identity
  rw [decide_eq_true hlocked] at hstatus
  rw [handle_of_identity h]
  unfold enforce
  rw [Prog.bind_eq, exec_bind_const, exec_lockout, hcheck]
  dsimp only
  rw [if_pos hstatus]
  exact ⟨_, rfl⟩

/-- A request whose lock is not seen reaches the handler, and its answer is recorded. -/
theorem handle_unlocked {req : LoginRequest} {identity : String} {s : Redis.Server String}
    {input : LoginInput} {failures : List ℕ} (henabled : config.enabled = true)
    (h : req.identity field = some identity)
    (hlocked : ¬ 0 < s.keys.ttl s.now (lockedKey config identity))
    (haccepts : Accepts config (s.now + input.elapsed))
    (hlength : (currentWindow config.windowSecs failures).length + 1 < 4294967296)
    (hcounter : s.keys.find? (s.now + input.elapsed) (attemptsKey config identity)
      = counterEntry config.windowSecs (currentWindow config.windowSecs failures)
          (s.now + input.elapsed)) :
    ∃ s', handle config field s req input = (.ok (.handler input.status), (s', true)) ∧
      Recorded config ⟨s.now + input.elapsed, s.keys⟩ identity failures input.status s' := by
  obtain ⟨status, hcheck, hstatus⟩ := perform_check (s := s) henabled identity
  rw [decide_eq_false hlocked] at hstatus
  have hforward : exec loginAnswer 0 forward (s, false) (fun _ => input)
      = (.ok input.status, (⟨s.now + input.elapsed, s.keys⟩, true)) := rfl
  obtain ⟨s', hrecord, hrecorded⟩ := exec_recordOutcome (s := ⟨s.now + input.elapsed, s.keys⟩)
    henabled haccepts hlength hcounter input.status true input
  refine ⟨s', ?_, hrecorded⟩
  rw [handle_of_identity h]
  unfold enforce
  rw [Prog.bind_eq, exec_bind_const, exec_lockout, hcheck]
  dsimp only
  rw [hstatus]
  simp only [Bool.false_eq_true, if_false]
  rw [Prog.bind_eq, exec_bind_const, hforward]
  dsimp only
  rw [Prog.bind_eq, exec_bind_const, hrecord]
  rfl

/-! ### Runs -/

/-- The server, and the times of every identity's failures since its last success or unlock. -/
structure LoginState where
  server : Redis.Server String
  failures : String → List ℕ

/-- What happens: a login request, a success or an unlock that the service reports itself, or the
passing of time. -/
inductive LoginAction
  | request (req : LoginRequest) (input : LoginInput)
  | recordSuccess (identity : String)
  | unlock (identity : String)
  | tick (ms : ℕ)

/-- The request reaches the login handler. -/
def Forwarded (config : LockoutConfig) (field : String) (s : LoginState) (req : LoginRequest)
    (input : LoginInput) : Bool :=
  (handle config field s.server req input).2.2

/-- An identity's failures after an answer of the handler. -/
def failuresWith (failures : List ℕ) (now status : ℕ) : List ℕ :=
  if status = 401 then failures ++ [now]
  else if 200 ≤ status ∧ status < 300 then [] else failures

/-- The failures after a request: the handler's answer counts, if the handler was reached. -/
def failuresAfter (config : LockoutConfig) (field : String) (s : LoginState) (req : LoginRequest)
    (input : LoginInput) : String → List ℕ :=
  match req.identity field with
  | some identity =>
    if Forwarded config field s req input then
      Function.update s.failures identity (failuresWith (s.failures identity)
        (s.server.now + input.elapsed) input.status)
    else s.failures
  | none => s.failures

/-- One action on the server, with the failures that are noted of every identity. -/
def loginStep (config : LockoutConfig) (field : String) (s : LoginState) :
    LoginAction → LoginState
  | .request req input =>
    ⟨(handle config field s.server req input).2.1, failuresAfter config field s req input⟩
  | .recordSuccess identity =>
    ⟨(Redis.perform (recordSuccess config identity) s.server).2,
      Function.update s.failures identity []⟩
  | .unlock identity =>
    ⟨(Redis.perform (unlock config identity) s.server).2,
      Function.update s.failures identity []⟩
  | .tick ms => ⟨⟨s.server.now + ms, s.server.keys⟩, s.failures⟩

/-- The lock key of the identity is there. -/
def Locked (config : LockoutConfig) (s : Redis.Server String) (identity : String) : Prop :=
  (s.keys.find? s.now (lockedKey config identity)).isSome = true

instance decidableLocked (config : LockoutConfig) (s : Redis.Server String) (identity : String) :
    Decidable (Locked config s identity) :=
  inferInstanceAs (Decidable (_ = true))

/-- The lockout is switched on, the lock of a request has at least half a second left, Redis takes
the durations, and the count fits 32 bits. -/
def Enforced (config : LockoutConfig) (field : String) (s : LoginState) (a : LoginAction) : Prop :=
  config.enabled = true ∧
    match a with
    | .request req input => ∀ identity, req.identity field = some identity →
      (∀ e t, s.server.keys.find? s.server.now (lockedKey config identity) = some e →
        e.expiresAt = some t → s.server.now + 500 ≤ t) ∧
      Accepts config (s.server.now + input.elapsed) ∧
      (currentWindow config.windowSecs (s.failures identity)).length + 1 < 4294967296
    | _ => True

/-- The counters are those of the failures, and every lock expires. -/
structure LoginInv (config : LockoutConfig) (s : LoginState) : Prop where
  counter : ∀ identity t, s.server.now ≤ t →
    s.server.keys.find? t (attemptsKey config identity)
      = counterEntry config.windowSecs (currentWindow config.windowSecs (s.failures identity)) t
  lock : ∀ identity e, s.server.keys.entries (lockedKey config identity) = some e →
    ∃ t, e.expiresAt = some t

/-- With every lock expiring, a lock that has half a second left is seen, and no other. -/
theorem LoginInv.ttl_pos_iff {s : LoginState} (h : LoginInv config s) {identity : String}
    (hleft : ∀ e t, s.server.keys.find? s.server.now (lockedKey config identity) = some e →
      e.expiresAt = some t → s.server.now + 500 ≤ t) :
    0 < s.server.keys.ttl s.server.now (lockedKey config identity)
      ↔ Locked config s.server identity := by
  unfold Redis.Keyspace.ttl Locked
  cases hfind : s.server.keys.find? s.server.now (lockedKey config identity) with
  | none => simp
  | some e =>
    obtain ⟨t, ht⟩ := h.lock identity e (Redis.Keyspace.find?_eq_some_iff.mp hfind).1
    have hhalf := hleft e t hfind ht
    simp only [Redis.Entry.ttl, ht, Option.isSome_some, iff_true]
    omega

/-- Time passing keeps the invariant, since a key only runs out when the deadline it was given is
over. -/
theorem LoginInv.later {s : LoginState} (h : LoginInv config s) {s' : Redis.Server String}
    (hkeys : s'.keys = s.server.keys) (hnow : s.server.now ≤ s'.now) :
    LoginInv config ⟨s', s.failures⟩ := by
  refine ⟨fun identity t ht => ?_, fun identity e he => ?_⟩
  · dsimp only
    rw [hkeys]
    exact h.counter identity t (Nat.le_trans hnow ht)
  · dsimp only at he
    rw [hkeys] at he
    exact h.lock identity e he

/-- What an action leaves alone: the keys of the other identities. -/
def OthersKept (config : LockoutConfig) (keys keys' : Redis.Keyspace String) (identity : String) :
    Prop :=
  ∀ key, key ≠ attemptsKey config identity → key ≠ lockedKey config identity →
    keys'.entries key = keys.entries key

/-- An action on one identity keeps the invariant if it does for that identity. -/
theorem LoginInv.of_othersKept {s : LoginState} (h : LoginInv config s) {identity : String}
    {s' : Redis.Server String} {failures : List ℕ} (hnow : s.server.now ≤ s'.now)
    (hothers : OthersKept config s.server.keys s'.keys identity)
    (hcounter : ∀ t, s'.now ≤ t → s'.keys.find? t (attemptsKey config identity)
      = counterEntry config.windowSecs (currentWindow config.windowSecs failures) t)
    (hlock : ∀ e, s'.keys.entries (lockedKey config identity) = some e →
      ∃ t, e.expiresAt = some t) :
    LoginInv config ⟨s', Function.update s.failures identity failures⟩ := by
  -- no two identities share a key, and no counter is a lock
  refine ⟨fun other t ht => ?_, fun other e he => ?_⟩
  · by_cases hother : other = identity
    · subst hother
      simpa using hcounter t ht
    · have hkept : s'.keys.entries (attemptsKey config other)
          = s.server.keys.entries (attemptsKey config other) :=
        hothers _ (fun heq => hother (attemptsKey_injective heq)) (attemptsKey_ne_lockedKey _ _)
      dsimp only
      rw [Redis.Keyspace.find?_congr hkept, Function.update_of_ne hother]
      exact h.counter other t (Nat.le_trans hnow ht)
  · by_cases hother : other = identity
    · subst hother
      exact hlock e he
    · have hkept : s'.keys.entries (lockedKey config other)
          = s.server.keys.entries (lockedKey config other) :=
        hothers _ (attemptsKey_ne_lockedKey _ _).symm
          fun heq => hother (lockedKey_injective heq)
      exact h.lock other e (hkept ▸ he)

theorem othersKept_clearedKeys (keys : Redis.Keyspace String) (identity : String) :
    OthersKept config keys (clearedKeys config keys identity) identity :=
  fun _ hattempts hlocked => entries_clearedKeys_of_ne keys hattempts hlocked

/-- Taking an identity's keys out keeps the invariant. -/
theorem LoginInv.cleared {s : LoginState} (h : LoginInv config s) (identity : String) {now : ℕ}
    (hnow : s.server.now ≤ now) :
    LoginInv config ⟨⟨now, clearedKeys config s.server.keys identity⟩,
      Function.update s.failures identity []⟩ := by
  refine h.of_othersKept hnow (othersKept_clearedKeys _ _) (fun t _ => ?_) fun e he => ?_
  · unfold Redis.Keyspace.find?
    rw [entries_clearedKeys_attempts]
    rfl
  · rw [entries_clearedKeys_locked] at he
    cases he

/-- Recording the answer of the login handler keeps the invariant, be it a failure or a success. -/
theorem LoginInv.recorded {s : LoginState} (h : LoginInv config s) {identity : String}
    {now status : ℕ} {s' : Redis.Server String} (hnow : s.server.now ≤ now)
    (hrecorded : Recorded config ⟨now, s.server.keys⟩ identity (s.failures identity) status s') :
    LoginInv config ⟨s', Function.update s.failures identity
      (failuresWith (s.failures identity) now status)⟩ := by
  unfold failuresWith
  cases hrecorded with
  | failure hstatus result hfailure hlater =>
    have hnow' : now ≤ s'.now := by
      rw [hlater]
      dsimp only
      split <;> omega
    rw [if_pos hstatus]
    refine h.of_othersKept (Nat.le_trans hnow hnow') hfailure.frame
      (fun t ht => hfailure.counter t (Nat.le_trans hnow' ht)) fun e he => ?_
    rw [hfailure.lock] at he
    split at he
    · cases he
      exact ⟨_, rfl⟩
    · exact h.lock identity e he
  | success hstatus hkeys hlater =>
    rw [if_neg (by omega), if_pos hstatus]
    obtain ⟨now', keys'⟩ := s'
    dsimp only at hkeys hlater
    subst hkeys hlater
    exact h.cleared identity hnow
  | other hfailure hsuccess heq =>
    subst heq
    rw [if_neg hfailure, if_neg hsuccess, Function.update_eq_self]
    exact h.later rfl hnow

/-- **What an enforced request does**: its identity is locked and nothing happens, or it reaches
the handler and the answer is recorded. -/
theorem LoginInv.request_cases {s : LoginState} (h : LoginInv config s) {req : LoginRequest}
    {input : LoginInput} {identity : String} (hreq : req.identity field = some identity)
    (henforced : Enforced config field s (.request req input)) :
    (Locked config s.server identity ∧ Forwarded config field s req input = false ∧
        loginStep config field s (.request req input) = s) ∨
      ∃ s', ¬ Locked config s.server identity ∧ Forwarded config field s req input = true ∧
        Recorded config ⟨s.server.now + input.elapsed, s.server.keys⟩ identity
          (s.failures identity) input.status s' ∧
        loginStep config field s (.request req input) = ⟨s', Function.update s.failures identity
          (failuresWith (s.failures identity) (s.server.now + input.elapsed) input.status)⟩ := by
  obtain ⟨henabled, hrequest⟩ := henforced
  obtain ⟨hleft, haccepts, hlength⟩ := hrequest identity hreq
  have hseen := h.ttl_pos_iff hleft
  by_cases hlocked : Locked config s.server identity
  · obtain ⟨response, hhandle⟩ := handle_locked henabled hreq (hseen.mpr hlocked) input
    have hforwarded : Forwarded config field s req input = false := by
      rw [Forwarded, hhandle]
    refine .inl ⟨hlocked, hforwarded, ?_⟩
    simp only [loginStep, failuresAfter, hreq, hforwarded, hhandle, Bool.false_eq_true, if_false]
  · have hcounter := h.counter identity (s.server.now + input.elapsed) (Nat.le_add_right _ _)
    obtain ⟨s', hhandle, hrecorded⟩ := handle_unlocked henabled hreq
      (fun hpos => hlocked (hseen.mp hpos)) haccepts hlength hcounter
    have hforwarded : Forwarded config field s req input = true := by
      rw [Forwarded, hhandle]
    refine .inr ⟨s', hlocked, hforwarded, hrecorded, ?_⟩
    simp only [loginStep, failuresAfter, hreq, hforwarded, hhandle, if_true]

/-- A request without an identity passes, and nothing is recorded. -/
theorem loginStep_of_identity_none (config : LockoutConfig) (s : LoginState) {req : LoginRequest}
    (hreq : req.identity field = none) (input : LoginInput) :
    ∃ s' : Redis.Server String, s'.keys = s.server.keys ∧ s.server.now ≤ s'.now ∧
      loginStep config field s (.request req input) = ⟨s', s.failures⟩ := by
  obtain ⟨hkeys, hnow⟩ := handle_of_identity_none config hreq s.server input
  refine ⟨_, hkeys, hnow, ?_⟩
  simp only [loginStep, failuresAfter, hreq]

/-- **Every enforced action keeps the invariant.** -/
theorem LoginInv.step {s : LoginState} (h : LoginInv config s) {a : LoginAction}
    (henforced : Enforced config field s a) : LoginInv config (loginStep config field s a) := by
  cases a with
  | tick ms => exact h.later rfl (Nat.le_add_right _ _)
  | recordSuccess identity =>
    simp only [loginStep, perform_recordSuccess henforced.1]
    exact h.cleared identity (Nat.le_refl _)
  | unlock identity =>
    simp only [loginStep, perform_unlock]
    exact h.cleared identity (Nat.le_refl _)
  | request req input =>
    cases hreq : req.identity field with
    | none =>
      obtain ⟨s', hkeys, hnow, heq⟩ := loginStep_of_identity_none config s hreq input
      rw [heq]
      exact h.later hkeys hnow
    | some identity =>
      rcases h.request_cases hreq henforced with ⟨-, -, heq⟩ | ⟨s', -, -, hrecorded, heq⟩
      · rw [heq]
        exact h
      · rw [heq]
        exact h.recorded (Nat.le_add_right _ _) hrecorded

/-! ### Safety -/

/-- The action has set the lock: it is there, and would not be without the action. -/
def LockSet (config : LockoutConfig) (s s' : LoginState) (identity : String) : Prop :=
  Locked config s'.server identity ∧
    s.server.keys.find? s'.server.now (lockedKey config identity) = none

/-- The action is a request of the identity that the handler refuses. -/
def FailureOf (config : LockoutConfig) (field : String) (s : LoginState) (a : LoginAction)
    (identity : String) : Prop :=
  ∃ req input, a = .request req input ∧ req.identity field = some identity ∧
    Forwarded config field s req input = true ∧ input.status = 401

/-- The action is a success of the identity, or unlocks it. -/
def SuccessOf (config : LockoutConfig) (field : String) (s : LoginState) (a : LoginAction)
    (identity : String) : Prop :=
  a = .recordSuccess identity ∨ a = .unlock identity ∨
    ∃ req input, a = .request req input ∧ req.identity field = some identity ∧
      Forwarded config field s req input = true ∧ 200 ≤ input.status ∧ input.status < 300

/-- A lock whose entry is left as it was, or taken out, has not been set. -/
theorem not_lockSet {s s' : LoginState} {identity : String}
    (h : s'.server.keys.entries (lockedKey config identity) = none ∨
      s'.server.keys.entries (lockedKey config identity)
        = s.server.keys.entries (lockedKey config identity)) :
    ¬ LockSet config s s' identity := by
  rintro ⟨hlocked, hnone⟩
  unfold Locked at hlocked
  rcases h with h | h
  · unfold Redis.Keyspace.find? at hlocked
    rw [h] at hlocked
    cases hlocked
  · rw [Redis.Keyspace.find?_congr h, hnone] at hlocked
    cases hlocked

/-- An action on one identity's keys sets no lock of another. -/
theorem not_lockSet_of_othersKept {s s' : LoginState} {identity other : String}
    (h : OthersKept config s.server.keys s'.server.keys identity) (hne : other ≠ identity) :
    ¬ LockSet config s s' other :=
  not_lockSet (.inr (h _ (attemptsKey_ne_lockedKey _ _).symm
    fun heq => hne (lockedKey_injective heq)))

/-- Taking an identity's keys out sets no lock. -/
theorem not_lockSet_clearedKeys {s s' : LoginState} (identity : String)
    (h : s'.server.keys = clearedKeys config s.server.keys identity) (other : String) :
    ¬ LockSet config s s' other := by
  by_cases hother : other = identity
  · subst hother
    refine not_lockSet (.inl ?_)
    rw [h]
    exact entries_clearedKeys_locked _ _
  · refine not_lockSet_of_othersKept ?_ hother
    rw [h]
    exact othersKept_clearedKeys _ _

/-- A request of one identity is no failure of another. -/
theorem eq_of_failureOf {s : LoginState} {req : LoginRequest} {input : LoginInput}
    {identity other : String} (hreq : req.identity field = some identity)
    (h : FailureOf config field s (.request req input) other) :
    other = identity ∧ Forwarded config field s req input = true ∧ input.status = 401 := by
  obtain ⟨req', input', heq, hother, hforwarded, hstatus⟩ := h
  cases heq
  rw [hreq] at hother
  exact ⟨(Option.some.inj hother).symm, hforwarded, hstatus⟩

/-- A recorded failure sets the lock exactly at the limit. -/
theorem lockSet_of_failure {s s' : LoginState} {identity : String} {now : ℕ} {window : List ℕ}
    {result : LockoutStatus} (haccepts : Accepts config now) (hnow : s.server.now ≤ now)
    (hlocked : ¬ Locked config s.server identity)
    (hfailure : FailureRecorded config ⟨now, s.server.keys⟩ identity window result s'.server.keys)
    (hlater : s'.server.now = if 0 < result.delayMs then now + result.delayMs else now) :
    LockSet config s s' identity ↔ config.maxAttempts ≤ window.length := by
  have hentry := hfailure.lock
  by_cases hlimit : config.maxAttempts ≤ window.length
  · have hdelay : result.delayMs = 0 := hfailure.delay (by rw [hfailure.locked]; simpa using hlimit)
    have htime : s'.server.now = now := by
      rw [hlater, hdelay]
      rfl
    rw [if_pos hlimit] at hentry
    refine iff_of_true ⟨?_, ?_⟩ hlimit
    · have hpos := haccepts.duration_pos
      unfold Locked Redis.Keyspace.find?
      rw [hentry, htime]
      simp only [Redis.Entry.live, Option.filter_some]
      rw [if_pos (by simpa using hpos)]
      rfl
    · -- a lock from before would have been there when the request came
      cases hfind : s.server.keys.find? s'.server.now (lockedKey config identity) with
      | none => rfl
      | some e =>
        refine absurd ?_ hlocked
        unfold Locked
        rw [Redis.Keyspace.find?_of_le hfind (by omega)]
        rfl
  · rw [if_neg hlimit] at hentry
    exact iff_of_false (not_lockSet (.inr hentry)) hlimit

/-- **A lock is set exactly at the limit.** -/
theorem LoginInv.lockSet_iff {s : LoginState} (h : LoginInv config s) {a : LoginAction}
    (henforced : Enforced config field s a) (identity : String) :
    LockSet config s (loginStep config field s a) identity ↔
      FailureOf config field s a identity ∧ config.maxAttempts ≤
        (currentWindow config.windowSecs
          ((loginStep config field s a).failures identity)).length := by
  cases a with
  -- neither the passing of time nor a success nor an unlock sets a lock
  | tick ms =>
    refine iff_of_false (not_lockSet (.inr rfl)) ?_
    rintro ⟨⟨req, input, heq, -⟩, -⟩
    cases heq
  | recordSuccess other =>
    refine iff_of_false (not_lockSet_clearedKeys other ?_ identity) ?_
    · simp only [loginStep, perform_recordSuccess henforced.1]
    · rintro ⟨⟨req, input, heq, -⟩, -⟩
      cases heq
  | unlock other =>
    refine iff_of_false (not_lockSet_clearedKeys other ?_ identity) ?_
    · simp only [loginStep, perform_unlock]
    · rintro ⟨⟨req, input, heq, -⟩, -⟩
      cases heq
  -- a request sets one only if it was forwarded for the identity and has failed
  | request req input =>
    cases hreq : req.identity field with
    | none =>
      obtain ⟨s', hkeys, -, heq⟩ := loginStep_of_identity_none config s hreq input
      rw [heq]
      refine iff_of_false (not_lockSet (.inr (by rw [hkeys]))) ?_
      rintro ⟨⟨req', input', heq', hother, -⟩, -⟩
      cases heq'
      rw [hreq] at hother
      cases hother
    | some other =>
      have haccepts := (henforced.2 other hreq).2.1
      rcases h.request_cases hreq henforced with
        ⟨-, hforwarded, heq⟩ | ⟨s', hlocked, hforwarded, hrecorded, heq⟩
      · rw [heq]
        refine iff_of_false (not_lockSet (.inr rfl)) ?_
        rintro ⟨hfailure, -⟩
        -- the account was locked already, and the request was not forwarded
        rw [(eq_of_failureOf hreq hfailure).2.1] at hforwarded
        cases hforwarded
      rw [heq]
      cases hrecorded with
      | failure hstatus result hfailure hlater =>
        -- only the identity that has failed can get a lock
        by_cases hother : identity = other
        · subst hother
          have hof : FailureOf config field s (.request req input) identity :=
            ⟨req, input, rfl, hreq, hforwarded, hstatus⟩
          simp only [failuresWith, if_pos hstatus, Function.update_self, hof, true_and]
          exact lockSet_of_failure haccepts (Nat.le_add_right _ _) hlocked hfailure hlater
        · refine iff_of_false (not_lockSet_of_othersKept hfailure.frame hother) ?_
          rintro ⟨hof, -⟩
          exact hother (eq_of_failureOf hreq hof).1
      -- a success clears what is kept of its identity
      | success hstatus hkeys hlater =>
        refine iff_of_false (not_lockSet_clearedKeys other hkeys identity) ?_
        rintro ⟨hof, -⟩
        have hfailed := (eq_of_failureOf hreq hof).2.2
        omega
      | other hnotFailure hnotSuccess hsame =>
        subst hsame
        refine iff_of_false (not_lockSet (.inr rfl)) ?_
        rintro ⟨hof, -⟩
        exact hnotFailure (eq_of_failureOf hreq hof).2.2

/-- **A success starts from nothing**: after it neither the counter nor the lock of the identity is
there. -/
theorem LoginInv.cleared_of_success {s : LoginState} (h : LoginInv config s) {a : LoginAction}
    (henforced : Enforced config field s a) {identity : String}
    (hsuccess : SuccessOf config field s a identity) :
    (loginStep config field s a).failures identity = [] ∧
      (loginStep config field s a).server.keys.entries (attemptsKey config identity) = none ∧
      (loginStep config field s a).server.keys.entries (lockedKey config identity) = none := by
  rcases hsuccess with rfl | rfl | ⟨req, input, rfl, hreq, hforwarded, hstatus⟩
  · simp only [loginStep, perform_recordSuccess henforced.1, Function.update_self]
    exact ⟨trivial, entries_clearedKeys_attempts _ _, entries_clearedKeys_locked _ _⟩
  · simp only [loginStep, perform_unlock, Function.update_self]
    exact ⟨trivial, entries_clearedKeys_attempts _ _, entries_clearedKeys_locked _ _⟩
  · rcases h.request_cases hreq henforced with ⟨-, hnot, -⟩ | ⟨s', -, -, hrecorded, heq⟩
    · rw [hforwarded] at hnot
      cases hnot
    rw [heq]
    cases hrecorded with
    | failure hfailed => omega
    | success _ hkeys =>
      simp only [failuresWith, if_neg (show ¬ input.status = 401 by omega), if_pos hstatus,
        Function.update_self, hkeys]
      exact ⟨trivial, entries_clearedKeys_attempts _ _, entries_clearedKeys_locked _ _⟩
    | other _ hnot => exact absurd hstatus hnot

/-- **Lockout safety.**  In every run of enforced actions from a server without keys: a request of
a locked identity does not reach the login handler; an action sets a lock exactly if it is a
failure with which the failures of the open window reach the limit; and after a success or an
unlock there is neither a failure nor a counter nor a lock. -/
theorem lockout_safety {now : ℕ} {s : LoginState}
    (h : Reach (loginStep config field) (Enforced config field) ⟨⟨now, .empty⟩, fun _ => []⟩ s) :
    (∀ req input identity, req.identity field = some identity →
      Enforced config field s (.request req input) → Locked config s.server identity →
      Forwarded config field s req input = false) ∧
    (∀ a identity, Enforced config field s a →
      (LockSet config s (loginStep config field s a) identity ↔
        FailureOf config field s a identity ∧ config.maxAttempts ≤
          (currentWindow config.windowSecs
            ((loginStep config field s a).failures identity)).length)) ∧
    (∀ a identity, Enforced config field s a → SuccessOf config field s a identity →
      (loginStep config field s a).failures identity = [] ∧
      (loginStep config field s a).server.keys.entries (attemptsKey config identity) = none ∧
      (loginStep config field s a).server.keys.entries (lockedKey config identity) = none) := by
  have hinit : LoginInv config ⟨⟨now, .empty⟩, fun _ => []⟩ :=
    ⟨fun _ _ _ => rfl, fun _ _ he => by cases he⟩
  have hinv : LoginInv config s := h.invariant hinit fun _ _ hs ha => hs.step ha
  refine ⟨fun req input identity hreq henforced hlocked => ?_,
    fun a identity henforced => hinv.lockSet_iff henforced identity,
    fun a identity henforced hsuccess => hinv.cleared_of_success henforced hsuccess⟩
  rcases hinv.request_cases hreq henforced with ⟨-, hforwarded, -⟩ | ⟨-, hunlocked, -⟩
  · exact hforwarded
  · exact absurd hlocked hunlocked

/-- A JSON request of `bob`. -/
def bobLogin : LoginRequest :=
  ⟨some "application/json", .json (.object [("email", .string "bob")])⟩

/-- The default settings, with a lock after the first failure. -/
def sampleLockout : LockoutConfig := { LockoutConfig.standard with maxAttempts := 1 }

/-- After a refused login of `bob`, some time passes. -/
def sampleLoginRun (ms : ℕ) : LoginState :=
  [.request bobLogin ⟨401, 1000⟩, .tick ms].foldl (loginStep sampleLockout "email")
    ⟨⟨0, .empty⟩, fun _ => []⟩

/-- A minute after a refused login `bob` is locked, and does not reach the handler. -/
theorem lockout_safety_sample :
    Locked sampleLockout (sampleLoginRun 60000).server "bob" ∧
      Forwarded sampleLockout "email" (sampleLoginRun 60000) bobLogin ⟨200, 0⟩ = false := by
  have hbob : ∀ identity, bobLogin.identity "email" = some identity → identity = "bob" := by
    intro identity h
    have hidentity : bobLogin.identity "email" = some "bob" := by decide
    rw [hidentity] at h
    exact (Option.some.inj h).symm
  have hallowed : Allowed (loginStep sampleLockout "email") (Enforced sampleLockout "email")
      ⟨⟨0, .empty⟩, fun _ => []⟩ [.request bobLogin ⟨401, 1000⟩, .tick 60000] := by
    refine ⟨⟨rfl, fun identity _ => ⟨fun e t he => ?_, ⟨by decide, by decide, by decide⟩, ?_⟩⟩,
      ⟨rfl, trivial⟩, trivial⟩
    · cases he
    · show ([] : List ℕ).length + 1 < 4294967296
      decide
  have hlocked : Locked sampleLockout (sampleLoginRun 60000).server "bob" := by decide +kernel
  have hreach : Reach (loginStep sampleLockout "email") (Enforced sampleLockout "email")
      ⟨⟨0, .empty⟩, fun _ => []⟩ (sampleLoginRun 60000) := Reach.foldl .start hallowed
  refine ⟨hlocked, (lockout_safety hreach).1 bobLogin ⟨200, 0⟩ "bob"
    (by decide) ⟨rfl, fun identity h => ?_⟩ hlocked⟩
  rw [hbob identity h]
  refine ⟨fun e t he ht => ?_, ⟨by decide, by decide, by decide⟩, by decide +kernel⟩
  have hlock : (sampleLoginRun 60000).server.keys.find? (sampleLoginRun 60000).server.now
      (lockedKey sampleLockout "bob") = some ⟨.int 1, some 1801000⟩ := by decide +kernel
  rw [hlock] at he
  cases he
  cases ht
  decide +kernel

/-- In the last four tenths of a second of its lock `bob` reaches the handler. -/
theorem not_forall_locked_not_forwarded : ¬ ∀ (config : LockoutConfig) (field : String) (now : ℕ)
    (s : LoginState), Reach (loginStep config field) (fun _ _ => True)
      ⟨⟨now, .empty⟩, fun _ => []⟩ s →
    ∀ req input identity, req.identity field = some identity →
      Locked config s.server identity → Forwarded config field s req input = false := by
  intro h
  have hreach : Reach (loginStep sampleLockout "email") (fun _ _ => True)
      ⟨⟨0, .empty⟩, fun _ => []⟩ (sampleLoginRun 1799600) :=
    Reach.foldl .start (Allowed.of_forall (fun _ _ _ => trivial) _)
  have hforwarded := h _ _ _ _ hreach bobLogin ⟨401, 1000⟩ "bob" (by decide)
    (by decide +kernel)
  exact absurd hforwarded (by decide +kernel)

end ActonService
