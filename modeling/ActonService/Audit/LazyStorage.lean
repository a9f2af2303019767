import ActonService.Lib.Once
import ActonService.Middleware.Http
import Mathlib.Logic.Function.Basic

/-!
# Lazily resolved audit storage

The storage of `audit/storage/lazy.rs` with any number of callers of `resolve`.  A caller is in one
of the phases between the await points of the code, and goes on when it is polled.  No guard of a
`RwLock` lives across an await point, so that a read or a write of `shared` or `resolved` is one
step; the guard of `init_lock` does.  The pool agent may write to `shared` at any time.

## Main definitions

* `InitializableStorage`, `LazyAuditStorage`, `ResolvePhase`, `ResolveSystem` — the storage and its
  callers.
* `ResolveSystem.step`, `ResolveSystem.events` — what happens, and what it is to the backend.
* `CallerInv`, `LazyInv` — who holds the lock, and what is known while it is held.

## Main results

* `allowed_history` — **what becomes of the backend is what becomes of a value that is made once.**
* `rank_mono`, `exists_rank_lt` — callers only go ahead, and nobody is stuck behind the lock.
* `resolvesOnce_of_run` — **in every interleaving one initialisation succeeds at most, everyone
  gets its backend for good, and a failed one is tried again by the next caller.**
-/

namespace ActonService

open Once Run

/-! ### The code -/

section Storage

variable {Conn S : Type}

/-- The `InitializableStorage` trait, without `init_schema`, whose outcome may be any. -/
structure InitializableStorage (Conn S : Type) where
  fromConn : Conn → S
  backendName : String

/-- An `Arc`: what it points to, and which allocation that is. -/
structure Arc (S : Type) where
  allocation : ℕ
  storage : S
  deriving DecidableEq, Repr

/-- `LazyAuditStorage`, with the caller that holds `init_lock`. -/
structure LazyAuditStorage (Conn S : Type) where
  shared : Option Conn
  resolved : Option (Arc S)
  initLock : Option ℕ
  deriving Repr

/-- `new` -/
def LazyAuditStorage.new (shared : Option Conn) : LazyAuditStorage Conn S :=
  ⟨shared, none, none⟩

/-- Where a call of `resolve` is. -/
inductive ResolvePhase (S : Type)
  | uncalled
  /-- Before the first look at `resolved`. -/
  | reading
  /-- Waiting for `init_lock`. -/
  | locking
  /-- With the lock, before the second look at `resolved`. -/
  | rechecking
  /-- Before the look at `shared`. -/
  | connecting
  /-- In `init_schema`. -/
  | initialising (storage : Arc S)
  /-- Before the write to `resolved`. -/
  | storing (storage : Arc S)
  | returned (result : Except ServiceError (Arc S))
  deriving Repr

/-- A storage, its callers, and how many backends have been allocated. -/
structure ResolveSystem (Conn S : Type) extends LazyAuditStorage Conn S where
  allocations : ℕ
  callers : ℕ → ResolvePhase S

/-- What happens next: a task calls, it goes on, its `init_schema` ends, or the pool agent writes to
`shared`. -/
inductive ResolveAction (Conn : Type)
  | call (i : ℕ)
  /-- A caller that is not in `init_schema` goes on to its next await point. -/
  | poll (i : ℕ)
  /-- `init_schema` of a caller ends. -/
  | initSchema (i : ℕ) (outcome : Except ServiceError Unit)
  /-- The pool agent writes to `shared`. -/
  | pool (conn : Option Conn)
  deriving Repr

/-- The error of a caller that finds no connection. -/
def notConnected (B : InitializableStorage Conn S) : ServiceError :=
  .internal ("audit storage unavailable: the " ++ B.backendName ++
    " connection pool has not finished connecting")

namespace ResolveSystem

/-- Nobody has called yet: nothing is resolved, the lock is free, and nothing was allocated. -/
def init (shared : Option Conn) : ResolveSystem Conn S where
  toLazyAuditStorage := .new shared
  allocations := 0
  callers _ := .uncalled

/-- A caller goes on to another phase. -/
def goOn (s : ResolveSystem Conn S) (i : ℕ) (phase : ResolvePhase S) : ResolveSystem Conn S :=
  { s with callers := Function.update s.callers i phase }

/-- The holder of the lock returns, and its guard is dropped. -/
def leave (s : ResolveSystem Conn S) (i : ℕ) (result : Except ServiceError (Arc S)) :
    ResolveSystem Conn S :=
  { s.goOn i (.returned result) with initLock := none }

/-- The code of `resolve` from one await point to the next. -/
def poll (B : InitializableStorage Conn S) (s : ResolveSystem Conn S) (i : ℕ) :
    ResolveSystem Conn S :=
  match s.callers i with
  | .reading =>
    match s.resolved with
    | some storage => s.goOn i (.returned (.ok storage))
    | none => s.goOn i .locking
  | .locking =>
    match s.initLock with
    | none => { s.goOn i .rechecking with initLock := some i }
    | some _ => s
  | .rechecking =>
    -- another caller may have resolved while this one waited for the lock
    match s.resolved with
    | some storage => s.leave i (.ok storage)
    | none => s.goOn i .connecting
  | .connecting =>
    match s.shared with
    | none => s.leave i (.error (notConnected B))
    | some conn =>
      { s.goOn i (.initialising ⟨s.allocations, B.fromConn conn⟩) with
        allocations := s.allocations + 1 }
  -- there is no await point between the write and the end of the call
  | .storing storage => { s.leave i (.ok storage) with resolved := some storage }
  | _ => s

/-- `init_schema` of a caller ends, and the error is passed on. -/
def initSchema (s : ResolveSystem Conn S) (i : ℕ) (outcome : Except ServiceError Unit) :
    ResolveSystem Conn S :=
  match s.callers i, outcome with
  | .initialising storage, .ok () => s.goOn i (.storing storage)
  | .initialising _, .error e => s.leave i (.error e)
  | _, _ => s

/-- One action, if it can be taken; one that cannot leaves everything as it is. -/
def step (B : InitializableStorage Conn S) (s : ResolveSystem Conn S) :
    ResolveAction Conn → ResolveSystem Conn S
  | .call i =>
    match s.callers i with
    | .uncalled => s.goOn i .reading
    | _ => s
  | .poll i => s.poll B i
  | .initSchema i outcome => s.initSchema i outcome
  | .pool conn => { s with shared := conn }

/-- What an action is to the backend: an initialisation that has succeeded or failed, or a look that
has found it. -/
def events (B : InitializableStorage Conn S) (s : ResolveSystem Conn S) :
    ResolveAction Conn → List (Event (Arc S) ServiceError)
  | .poll i =>
    match s.callers i, s.resolved, s.shared with
    | .reading, some storage, _ => [.found storage]
    | .rechecking, some storage, _ => [.found storage]
    | .connecting, _, none => [.failed (notConnected B)]
    | _, _, _ => []
  | .initSchema i outcome =>
    match s.callers i, outcome with
    | .initialising storage, .ok () => [.made storage]
    | .initialising _, .error e => [.failed e]
    | _, _ => []
  | _ => []

end ResolveSystem

/-! ### Transitions -/

namespace ResolveSystem

variable {B : InitializableStorage Conn S} {s : ResolveSystem Conn S}

/-- What an action does, and what it is to the backend. -/
inductive Transition (B : InitializableStorage Conn S) (s : ResolveSystem Conn S) :
    ResolveAction Conn → ResolveSystem Conn S → List (Event (Arc S) ServiceError) → Prop
  | idle (a : ResolveAction Conn) : Transition B s a s []
  | called (i : ℕ) (hphase : s.callers i = .uncalled) :
      Transition B s (.call i) (s.goOn i .reading) []
  | found (i : ℕ) (storage : Arc S) (hphase : s.callers i = .reading)
      (hresolved : s.resolved = some storage) :
      Transition B s (.poll i) (s.goOn i (.returned (.ok storage))) [.found storage]
  | queued (i : ℕ) (hphase : s.callers i = .reading) (hresolved : s.resolved = none) :
      Transition B s (.poll i) (s.goOn i .locking) []
  | acquired (i : ℕ) (hphase : s.callers i = .locking) (hfree : s.initLock = none) :
      Transition B s (.poll i) { s.goOn i .rechecking with initLock := some i } []
  | foundLocked (i : ℕ) (storage : Arc S) (hphase : s.callers i = .rechecking)
      (hresolved : s.resolved = some storage) :
      Transition B s (.poll i) (s.leave i (.ok storage)) [.found storage]
  | missing (i : ℕ) (hphase : s.callers i = .rechecking) (hresolved : s.resolved = none) :
      Transition B s (.poll i) (s.goOn i .connecting) []
  | disconnected (i : ℕ) (hphase : s.callers i = .connecting) (hshared : s.shared = none) :
      Transition B s (.poll i) (s.leave i (.error (notConnected B))) [.failed (notConnected B)]
  | began (i : ℕ) (conn : Conn) (hphase : s.callers i = .connecting)
      (hshared : s.shared = some conn) :
      Transition B s (.poll i)
        { s.goOn i (.initialising ⟨s.allocations, B.fromConn conn⟩) with
          allocations := s.allocations + 1 } []
  | stored (i : ℕ) (storage : Arc S) (hphase : s.callers i = .storing storage) :
      Transition B s (.poll i) { s.leave i (.ok storage) with resolved := some storage } []
  | made (i : ℕ) (storage : Arc S) (hphase : s.callers i = .initialising storage) :
      Transition B s (.initSchema i (.ok ())) (s.goOn i (.storing storage)) [.made storage]
  | failed (i : ℕ) (storage : Arc S) (e : ServiceError)
      (hphase : s.callers i = .initialising storage) :
      Transition B s (.initSchema i (.error e)) (s.leave i (.error e)) [.failed e]
  | pool (conn : Option Conn) : Transition B s (.pool conn) { s with shared := conn } []

theorem transition_poll (B : InitializableStorage Conn S) (s : ResolveSystem Conn S) (i : ℕ) :
    Transition B s (.poll i) (s.poll B i) (s.events B (.poll i)) := by
  rw [poll, events]
  cases hphase : s.callers i with
  | uncalled => exact .idle _
  | reading =>
    cases hresolved : s.resolved with
    | none => exact .queued i hphase hresolved
    | some storage => exact .found i storage hphase hresolved
  | locking =>
    cases hlock : s.initLock with
    | none => exact .acquired i hphase hlock
    | some j => exact .idle _
  | rechecking =>
    cases hresolved : s.resolved with
    | none => exact .missing i hphase hresolved
    | some storage => exact .foundLocked i storage hphase hresolved
  | connecting =>
    cases hshared : s.shared with
    | none => exact .disconnected i hphase hshared
    | some conn => exact .began i conn hphase hshared
  | initialising storage => exact .idle _
  | storing storage => exact .stored i storage hphase
  | returned result => exact .idle _

/-- **Every action** is one of the transitions. -/
theorem transition_step (B : InitializableStorage Conn S) (s : ResolveSystem Conn S)
    (a : ResolveAction Conn) : Transition B s a (s.step B a) (s.events B a) := by
  cases a with
  | call i =>
    rw [step]
    split
    · next hphase => exact .called i hphase
    · exact .idle _
  | poll i => exact transition_poll B s i
  | initSchema i outcome =>
    cases hphase : s.callers i with
    | initialising storage =>
      cases outcome with
      | ok u => simpa only [step, initSchema, events, hphase] using .made i storage hphase
      | error e => simpa only [step, initSchema, events, hphase] using .failed i storage e hphase
    | _ =>
      simp only [step, initSchema, events, hphase]
      exact .idle _
  | pool conn => exact .pool conn

end ResolveSystem

/-! ### Phases -/

namespace ResolvePhase

/-- The caller holds `init_lock`. -/
def holdsLock : ResolvePhase S → Bool
  | rechecking => true
  | connecting => true
  | initialising _ => true
  | storing _ => true
  | _ => false

/-- The caller has seen, with the lock, that there is no backend. -/
def building : ResolvePhase S → Bool
  | connecting => true
  | initialising _ => true
  | storing _ => true
  | _ => false

/-- The backend whose schema is there while nobody else can know of it. -/
def stored? : ResolvePhase S → Option (Arc S)
  | storing storage => some storage
  | _ => none

/-- How far a call has come, as a number that only grows. -/
def rank : ResolvePhase S → ℕ
  | uncalled => 0
  | reading => 1
  | locking => 2
  | rechecking => 3
  | connecting => 4
  | initialising _ => 5
  | storing _ => 6
  | returned _ => 7

theorem holdsLock_of_building {phase : ResolvePhase S} (h : phase.building = true) :
    phase.holdsLock = true := by
  cases phase with
  | uncalled => exact h
  | reading => exact h
  | locking => exact h
  | rechecking => rfl
  | connecting => rfl
  | initialising storage => rfl
  | storing storage => rfl
  | returned result => exact h

end ResolvePhase

namespace ResolveSystem

variable {s : ResolveSystem Conn S} {i j : ℕ} {phase : ResolvePhase S}

@[simp] theorem goOn_callers_self : (s.goOn i phase).callers i = phase :=
  Function.update_self ..

/-- A caller whose phase is another one than before is the one that has gone on. -/
theorem eq_of_goOn {target : ResolvePhase S} (hbefore : s.callers i ≠ target)
    (hafter : (s.goOn j phase).callers i = target) : i = j ∧ phase = target := by
  rcases eq_or_ne i j with rfl | hne
  · exact ⟨rfl, goOn_callers_self.symm.trans hafter⟩
  · exact absurd ((Function.update_of_ne hne ..).symm.trans hafter) hbefore

/-- What holds of every caller after one has gone on. -/
theorem forall_goOn {P : ℕ → ResolvePhase S → Prop} :
    (∀ j, P j ((s.goOn i phase).callers j)) ↔ P i phase ∧ ∀ j, j ≠ i → P j (s.callers j) :=
  Function.forall_update_iff s.callers P

/-- The backend whose schema has been initialised. -/
def initialised (s : ResolveSystem Conn S) : Option (Arc S) :=
  s.resolved.or (s.initLock.bind fun i => (s.callers i).stored?)

end ResolveSystem

/-! ### The invariant -/

/-- What the lock and the resolved backend are to a caller: the lock is held by the caller whose
phase says so, no backend is resolved while one is built, and what has been returned is the
resolved one. -/
structure CallerInv (initLock : Option ℕ) (resolved : Option (Arc S)) (i : ℕ)
    (phase : ResolvePhase S) : Prop where
  lock : initLock = some i ↔ phase.holdsLock = true
  unresolved : phase.building = true → resolved = none
  returned : ∀ storage, phase = .returned (.ok storage) → resolved = some storage

/-- The invariant, of every caller. -/
def LazyInv (s : ResolveSystem Conn S) : Prop :=
  ∀ i, CallerInv s.initLock s.resolved i (s.callers i)

namespace LazyInv

open ResolveSystem

variable {s : ResolveSystem Conn S} {i : ℕ} {phase : ResolvePhase S} {storage : Arc S}

theorem init (shared : Option Conn) : LazyInv (.init shared : ResolveSystem Conn S) := fun i => {
  lock := iff_of_false (Option.some_ne_none i).symm Bool.false_ne_true
  unresolved := fun h => absurd h Bool.false_ne_true
  returned := fun _ h => nomatch (h : ResolvePhase.uncalled = _) }

theorem caller (h : LazyInv s) (hphase : s.callers i = phase) :
    CallerInv s.initLock s.resolved i phase :=
  hphase ▸ h i

/-- Nobody else holds the lock while one caller does. -/
theorem holdsLock_of_ne (h : LazyInv s) (hi : (s.callers i).holdsLock = true) {j : ℕ}
    (hne : j ≠ i) : (s.callers j).holdsLock ≠ true := fun hj =>
  hne (Option.some.inj (((h j).lock.mpr hj).symm.trans ((h i).lock.mpr hi)))

/-- A caller that keeps the lock, or does not have it. -/
theorem goOn (h : LazyInv s) (hi : CallerInv s.initLock s.resolved i phase) :
    LazyInv (s.goOn i phase) :=
  forall_goOn.mpr ⟨hi, fun j _ => h j⟩

/-- A caller that takes the lock, which was free, keeps the invariant. -/
theorem acquire (h : LazyInv s) (hfree : s.initLock = none) :
    LazyInv { s.goOn i .rechecking with initLock := some i } := by
  refine forall_goOn.mpr ⟨⟨iff_of_true rfl rfl, nofun, nofun⟩, fun j hne => ?_⟩
  have hnot : (s.callers j).holdsLock ≠ true := fun hj =>
    Option.some_ne_none j (((h j).lock.mpr hj).symm.trans hfree)
  refine ⟨iff_of_false (fun heq => hne (Option.some.inj heq).symm) hnot, ?_, ?_⟩
  · exact (h j).unresolved
  · exact (h j).returned

/-- A caller that returns and gives the lock back, with what is resolved by then. -/
theorem leave (h : LazyInv s) (hphase : s.callers i = phase) (hlock : phase.holdsLock = true)
    {result : Except ServiceError (Arc S)} {resolved : Option (Arc S)}
    (hkept : ∀ storage, s.resolved = some storage → resolved = some storage)
    (hresult : ∀ storage, result = .ok storage → resolved = some storage) :
    LazyInv { s.leave i result with resolved := resolved } := by
  subst hphase
  have hnobody (j : ℕ) : (none : Option ℕ) ≠ some j := (Option.some_ne_none j).symm
  refine forall_goOn.mpr ⟨⟨?_, nofun, fun storage hok => ?_⟩, fun j hne => ?_⟩
  -- the caller itself, and those that never had the lock
  · exact iff_of_false (hnobody i) Bool.false_ne_true
  · exact hresult storage (ResolvePhase.returned.inj hok)
  · have hnot := h.holdsLock_of_ne hlock hne
    refine ⟨iff_of_false (hnobody j) hnot, fun hbuilding => ?_, fun storage hj => ?_⟩
    · exact absurd (ResolvePhase.holdsLock_of_building hbuilding) hnot
    · exact hkept storage ((h j).returned storage hj)

/-- **Every transition keeps the invariant**, by the phase of the caller that makes it. -/
theorem transition {B : InitializableStorage Conn S} {a : ResolveAction Conn}
    {s' : ResolveSystem Conn S} {seen : List (Event (Arc S) ServiceError)} (h : LazyInv s)
    (ht : Transition B s a s' seen) : LazyInv s' := by
  cases ht with
  | idle => exact h
  | called i hphase => exact h.goOn ⟨(h.caller hphase).lock, nofun, nofun⟩
  | found i storage hphase hresolved =>
    refine h.goOn ⟨(h.caller hphase).lock, nofun, fun storage' heq => ?_⟩
    obtain rfl := Except.ok.inj (ResolvePhase.returned.inj heq)
    exact hresolved
  | queued i hphase hresolved => exact h.goOn ⟨(h.caller hphase).lock, nofun, nofun⟩
  | acquired i hphase hfree => exact h.acquire hfree
  | foundLocked i storage hphase hresolved =>
    refine h.leave hphase rfl (fun _ hsome => hsome) fun storage' heq => ?_
    obtain rfl := Except.ok.inj heq
    exact hresolved
  | missing i hphase hresolved =>
    exact h.goOn ⟨(h.caller hphase).lock, fun _ => hresolved, nofun⟩
  | disconnected i hphase hshared =>
    exact h.leave hphase rfl (fun _ hsome => hsome) nofun
  | began i conn hphase hshared =>
    have hi := h.caller hphase
    exact h.goOn ⟨hi.lock, fun _ => hi.unresolved rfl, nofun⟩
  | stored i storage hphase =>
    -- nothing was resolved while the backend was built
    have hnone := (h.caller hphase).unresolved rfl
    refine h.leave hphase rfl (fun storage' hsome => ?_) fun storage' heq => ?_
    · exact absurd (hnone.symm.trans hsome) (Option.some_ne_none storage').symm
    · rw [Except.ok.inj heq]
  | made i storage hphase =>
    have hi := h.caller hphase
    exact h.goOn ⟨hi.lock, fun _ => hi.unresolved rfl, nofun⟩
  | failed i storage e hphase =>
    exact h.leave hphase rfl (fun _ hsome => hsome) nofun
  | pool conn => exact h

theorem step (h : LazyInv s) (B : InitializableStorage Conn S) (a : ResolveAction Conn) :
    LazyInv (s.step B a) :=
  h.transition (transition_step B s a)

theorem foldl (h : LazyInv s) (B : InitializableStorage Conn S)
    (actions : List (ResolveAction Conn)) : LazyInv (actions.foldl (ResolveSystem.step B) s) := by
  induction actions generalizing s with
  | nil => exact h
  | cons a actions ih => exact ih (h.step B a)

end LazyInv

/-! ### The backend is made once -/

namespace ResolveSystem

variable {B : InitializableStorage Conn S} {s s' : ResolveSystem Conn S} {i : ℕ}
  {phase : ResolvePhase S} {storage : Arc S}

theorem initialised_eq_of_resolved (h : s.resolved = some storage) :
    s.initialised = some storage := by
  rw [initialised, h, Option.some_or]

theorem initialised_eq_of_holder (h : s.initLock = some i) :
    s.initialised = s.resolved.or (s.callers i).stored? := by
  rw [initialised, h, Option.bind_some]

/-- While a backend is built, what is initialised is what its caller has not stored yet. -/
theorem initialised_of_building (h : LazyInv s) (hphase : s.callers i = phase)
    (hbuilding : phase.building = true) : s.initialised = phase.stored? := by
  have hi := h.caller hphase
  rw [initialised_eq_of_holder (hi.lock.mpr (ResolvePhase.holdsLock_of_building hbuilding)),
    hphase, hi.unresolved hbuilding, Option.none_or]

/-- A caller that goes on with no more than it had initialised. -/
theorem initialised_goOn {after : ResolvePhase S} (hphase : s.callers i = phase)
    (h : after.stored? = phase.stored?) : (s.goOn i after).initialised = s.initialised := by
  subst hphase
  have hstored : ∀ j, ((s.goOn i after).callers j).stored? = (s.callers j).stored? :=
    (forall_goOn (P := fun j phase => phase.stored? = (s.callers j).stored?)).mpr
      ⟨h, fun _ _ => rfl⟩
  show s.resolved.or (s.initLock.bind fun j => ((s.goOn i after).callers j).stored?) = _
  simp only [hstored]
  rfl

/-- Where nobody holds the lock, what is initialised is resolved. -/
theorem initialised_eq_of_free (h : s.initLock = none) : s.initialised = s.resolved := by
  rw [initialised, h, Option.bind_none, Option.or_none]

/-- A caller that gives up leaves nothing behind. -/
theorem initialised_leave (h : LazyInv s) (hphase : s.callers i = phase)
    (hbuilding : phase.building = true) {result : Except ServiceError (Arc S)} :
    (s.leave i result).initialised = none :=
  (initialised_eq_of_free rfl).trans ((h.caller hphase).unresolved hbuilding)

/-- **Every transition is a run of a value that is made once**, which is the initialised
backend. -/
theorem simulated {a : ResolveAction Conn} {seen : List (Event (Arc S) ServiceError)}
    (h : LazyInv s) (ht : Transition B s a s' seen) :
    Allowed Once.step Once.allowed s.initialised seen ∧
      s'.initialised = seen.foldl Once.step s.initialised := by
  cases ht with
  | idle => exact ⟨trivial, rfl⟩
  | called i hphase => exact ⟨trivial, initialised_goOn hphase rfl⟩
  | found i storage hphase hresolved =>
    exact ⟨⟨initialised_eq_of_resolved hresolved, trivial⟩, initialised_goOn hphase rfl⟩
  | queued i hphase hresolved => exact ⟨trivial, initialised_goOn hphase rfl⟩
  | acquired i hphase hfree =>
    refine ⟨trivial, ?_⟩
    rw [initialised_eq_of_holder rfl, List.foldl_nil, initialised_eq_of_free hfree]
    show s.resolved.or ((s.goOn i .rechecking).callers i).stored? = _
    rw [goOn_callers_self]
    exact Option.or_none
  | foundLocked i storage hphase hresolved =>
    -- the lock is given back, but what is resolved counts first
    have hafter : (s.leave i (.ok storage)).initialised = some storage :=
      initialised_eq_of_resolved hresolved
    have hbefore := initialised_eq_of_resolved hresolved
    exact ⟨⟨hbefore, trivial⟩, hafter.trans hbefore.symm⟩
  | missing i hphase hresolved => exact ⟨trivial, initialised_goOn hphase rfl⟩
  | disconnected i hphase hshared =>
    have hnone := initialised_of_building h hphase rfl
    exact ⟨⟨hnone, trivial⟩, (initialised_leave h hphase rfl).trans hnone.symm⟩
  | began i conn hphase hshared =>
    refine ⟨trivial, ?_⟩
    show (s.goOn i (.initialising ⟨s.allocations, B.fromConn conn⟩)).initialised = _
    exact initialised_goOn hphase rfl
  | stored i storage hphase =>
    -- from the caller's own hands to where everybody looks
    refine ⟨trivial, ?_⟩
    rw [initialised_eq_of_resolved rfl, List.foldl_nil]
    exact (initialised_of_building h hphase rfl).symm
  | made i storage hphase =>
    -- only the holder of the lock knows of the backend yet
    refine ⟨⟨initialised_of_building h hphase rfl, trivial⟩, ?_⟩
    have hmade : LazyInv (s.goOn i (.storing storage)) :=
      h.transition (B := B) (.made i storage hphase)
    exact initialised_of_building hmade goOn_callers_self rfl
  | failed i storage e hphase =>
    have hnone := initialised_of_building h hphase rfl
    exact ⟨⟨hnone, trivial⟩, (initialised_leave h hphase rfl).trans hnone.symm⟩
  | pool conn => exact ⟨trivial, rfl⟩

/-- A backend that is resolved is not replaced. -/
theorem resolved_transition {a : ResolveAction Conn} {seen : List (Event (Arc S) ServiceError)}
    (h : LazyInv s) (ht : Transition B s a s' seen) (hresolved : s.resolved = some storage) :
    s'.resolved = some storage := by
  cases ht with
  | stored i storage' hphase =>
    have hnone := (h.caller hphase).unresolved rfl
    exact absurd (hnone.symm.trans hresolved) (Option.some_ne_none storage).symm
  | _ => exact hresolved

/-- **Only its own attempt** makes a caller return an error, and there is no backend then. -/
theorem of_returned_error {a : ResolveAction Conn} {seen : List (Event (Arc S) ServiceError)}
    {e : ServiceError} (h : LazyInv s) (ht : Transition B s a s' seen)
    (hbefore : s.callers i ≠ .returned (.error e)) (hafter : s'.callers i = .returned (.error e)) :
    s.resolved = none ∧
      (a = .poll i ∧ s.callers i = .connecting ∧ s.shared = none ∧ e = notConnected B ∨
        a = .initSchema i (.error e) ∧ ∃ storage, s.callers i = .initialising storage) := by
  cases ht with
  | idle => exact absurd hafter hbefore
  | pool conn => exact absurd hafter hbefore
  | disconnected j hphase hshared =>
    obtain ⟨rfl, heq⟩ := eq_of_goOn hbefore hafter
    obtain rfl := Except.error.inj (ResolvePhase.returned.inj heq)
    exact ⟨(h.caller hphase).unresolved rfl, .inl ⟨rfl, hphase, hshared, rfl⟩⟩
  | failed j storage e' hphase =>
    obtain ⟨rfl, heq⟩ := eq_of_goOn hbefore hafter
    obtain rfl := Except.error.inj (ResolvePhase.returned.inj heq)
    exact ⟨(h.caller hphase).unresolved rfl, .inr ⟨rfl, storage, hphase⟩⟩
  | _ => exact nomatch (eq_of_goOn hbefore hafter).2

/-- The storage and its callers after some actions. -/
def run (B : InitializableStorage Conn S) (shared : Option Conn)
    (actions : List (ResolveAction Conn)) : ResolveSystem Conn S :=
  actions.foldl (step B) (init shared)

/-- What has become of the backend in a run. -/
def history (B : InitializableStorage Conn S) (shared : Option Conn)
    (actions : List (ResolveAction Conn)) : List (Event (Arc S) ServiceError) :=
  trace (step B) (events B) (init shared) actions

variable (B) (shared : Option Conn) (actions more : List (ResolveAction Conn))

theorem lazyInv_run : LazyInv (run B shared actions) := (LazyInv.init shared).foldl B actions

theorem run_append : run B shared (actions ++ more) = more.foldl (step B) (run B shared actions) :=
  List.foldl_append ..

/-- **What becomes of the backend in a run** is what becomes of a value that is made once. -/
theorem allowed_history :
    Allowed Once.step Once.allowed none (history B shared actions) ∧
      (run B shared actions).initialised = (history B shared actions).foldl Once.step none :=
  simulates initialised (fun _ a h => h.step B a)
    (fun s a h => (simulated h (transition_step B s a)).1)
    (fun s a h => (simulated h (transition_step B s a)).2) (LazyInv.init shared) actions

/-- The resolved backend stays resolved, whatever else the callers do. -/
theorem resolved_foldl {B : InitializableStorage Conn S} {s : ResolveSystem Conn S} (h : LazyInv s)
    (hresolved : s.resolved = some storage) (more : List (ResolveAction Conn)) :
    (more.foldl (step B) s).resolved = some storage := by
  induction more generalizing s with
  | nil => exact hresolved
  | cons a more ih =>
    exact ih (h.step B a) (resolved_transition h (transition_step B s a) hresolved)

/-! ### Going ahead -/

section Progress

variable {B : InitializableStorage Conn S} {s s' : ResolveSystem Conn S} {i : ℕ}

/-- Callers go ahead: no action takes one back to an earlier phase. -/
theorem rank_mono {a : ResolveAction Conn} {seen : List (Event (Arc S) ServiceError)}
    (ht : Transition B s a s' seen) (j : ℕ) : (s.callers j).rank ≤ (s'.callers j).rank := by
  have hgoOn : ∀ {i before after}, s.callers i = before → before.rank ≤ after.rank →
      ∀ j, (s.callers j).rank ≤ ((s.goOn i after).callers j).rank := by
    rintro i before after rfl hle
    exact (forall_goOn (P := fun j phase => (s.callers j).rank ≤ phase.rank)).mpr
      ⟨hle, fun _ _ => Nat.le_refl _⟩
  cases ht with
  | idle => exact Nat.le_refl _
  | pool conn => exact Nat.le_refl _
  | called i hphase => exact hgoOn hphase (by simp [ResolvePhase.rank]) j
  | found i storage hphase => exact hgoOn hphase (by simp [ResolvePhase.rank]) j
  | queued i hphase => exact hgoOn hphase (by simp [ResolvePhase.rank]) j
  | acquired i hphase => exact hgoOn hphase (by simp [ResolvePhase.rank]) j
  | foundLocked i storage hphase => exact hgoOn hphase (by simp [ResolvePhase.rank]) j
  | missing i hphase => exact hgoOn hphase (by simp [ResolvePhase.rank]) j
  | disconnected i hphase => exact hgoOn hphase (by simp [ResolvePhase.rank]) j
  | began i conn hphase => exact hgoOn hphase (by simp [ResolvePhase.rank]) j
  | stored i storage hphase => exact hgoOn hphase (by simp [ResolvePhase.rank]) j
  | made i storage hphase => exact hgoOn hphase (by simp [ResolvePhase.rank]) j
  | failed i storage e hphase => exact hgoOn hphase (by simp [ResolvePhase.rank]) j

/-- The holder of the lock can go ahead. -/
theorem exists_rank_lt_of_holdsLock (B : InitializableStorage Conn S)
    (hi : (s.callers i).holdsLock = true) :
    ∃ a, (s.callers i).rank < ((s.step B a).callers i).rank := by
  cases hphase : s.callers i with
  | rechecking =>
    refine ⟨.poll i, ?_⟩
    cases hresolved : s.resolved <;>
      simp [step, poll, goOn, leave, hphase, hresolved, ResolvePhase.rank]
  | connecting =>
    refine ⟨.poll i, ?_⟩
    cases hshared : s.shared <;>
      simp [step, poll, goOn, leave, hphase, hshared, ResolvePhase.rank]
  | initialising storage =>
    exact ⟨.initSchema i (.ok ()), by simp [step, initSchema, goOn, hphase, ResolvePhase.rank]⟩
  | storing storage =>
    exact ⟨.poll i, by simp [step, poll, goOn, leave, hphase, ResolvePhase.rank]⟩
  | _ =>
    rw [hphase] at hi
    exact absurd hi Bool.false_ne_true

/-- **Nobody is stuck**: a call that has not returned can go ahead, or waits for one that can. -/
theorem exists_rank_lt (B : InitializableStorage Conn S) (h : LazyInv s)
    (hi : ∀ result, s.callers i ≠ .returned result) :
    ∃ j a, (j = i ∨ s.initLock = some j) ∧
      (s.callers j).rank < ((s.step B a).callers j).rank := by
  by_cases hholds : (s.callers i).holdsLock = true
  · obtain ⟨a, ha⟩ := exists_rank_lt_of_holdsLock B hholds
    exact ⟨i, a, .inl rfl, ha⟩
  cases hphase : s.callers i with
  | uncalled =>
    exact ⟨i, .call i, .inl rfl, by simp [step, goOn, hphase, ResolvePhase.rank]⟩
  | reading =>
    refine ⟨i, .poll i, .inl rfl, ?_⟩
    cases hresolved : s.resolved <;> simp [step, poll, goOn, hphase, hresolved, ResolvePhase.rank]
  | locking =>
    cases hlock : s.initLock with
    | none =>
      exact ⟨i, .poll i, .inl rfl, by simp [step, poll, goOn, hphase, hlock, ResolvePhase.rank]⟩
    | some j =>
      obtain ⟨a, ha⟩ := exists_rank_lt_of_holdsLock B ((h j).lock.mp hlock)
      exact ⟨j, a, .inr rfl, ha⟩
  | returned result => exact absurd hphase (hi result)
  | _ =>
    rw [hphase] at hholds
    exact absurd rfl hholds

end Progress

/-! ### Another attempt -/

/-- A call that goes on, undisturbed, as far as `init_schema`. -/
def attempt (j : ℕ) : List (ResolveAction Conn) := .call j :: List.replicate 4 (.poll j)

section Attempt

variable {B : InitializableStorage Conn S} {s : ResolveSystem Conn S} {j : ℕ} {conn : Conn}

/-- **A call that finds no backend, no other holder of the lock and a connection** goes as far as
`init_schema`. -/
theorem initialising_of_attempt (hreturned : ∀ result, s.callers j ≠ .returned result)
    (hinv : LazyInv s) (hresolved : s.resolved = none) (hfree : s.initLock = none)
    (hshared : s.shared = some conn) :
    ((attempt j).foldl (step B) s).callers j
      = .initialising ⟨s.allocations, B.fromConn conn⟩ := by
  have hlock := (hinv j).lock
  rw [hfree] at hlock
  cases hphase : s.callers j with
  | uncalled => simp [attempt, step, poll, goOn, hphase, hfree, hresolved, hshared]
  | reading => simp [attempt, step, poll, goOn, hphase, hfree, hresolved, hshared]
  | locking => simp [attempt, step, poll, goOn, hphase, hfree, hresolved, hshared]
  | returned result => exact absurd hphase (hreturned result)
  | _ =>
    -- the lock would be held
    rw [hphase] at hlock
    exact absurd (hlock.mpr rfl) (Option.some_ne_none j).symm

/-- The rest of an attempt, when `init_schema` succeeds: the caller stores the backend and returns
it. -/
theorem returned_of_initialising {storage : Arc S} (hphase : s.callers j = .initialising storage) :
    ([.initSchema j (.ok ()), .poll j].foldl (step B) s).callers j = .returned (.ok storage) := by
  simp [step, poll, initSchema, goOn, leave, hphase]

end Attempt

end ResolveSystem

/-! ### The backend is resolved once -/

open ResolveSystem in
/-- What the storage promises its callers in a run that may go on. -/
structure ResolvesOnce (B : InitializableStorage Conn S) (shared : Option Conn)
    (actions : List (ResolveAction Conn)) : Prop where
  /-- One initialisation succeeds at most, over the whole run. -/
  once : (made (history B shared actions)).length ≤ 1
  /-- Whoever finds a backend finds the one that was initialised. -/
  found : ∀ storage ∈ found (history B shared actions), made (history B shared actions) = [storage]
  /-- Nobody fails after an initialisation has succeeded. -/
  failedBefore : ∀ before e after, history B shared actions = before ++ .failed e :: after →
    made before = []
  /-- Whoever succeeds gets the backend that was initialised and is resolved. -/
  initialised : ∀ i storage, (run B shared actions).callers i = .returned (.ok storage) →
    made (history B shared actions) = [storage] ∧ (run B shared actions).resolved = some storage
  /-- Everyone gets the same one, then and later. -/
  same : ∀ i j storage storage' more, (run B shared actions).callers i = .returned (.ok storage) →
    (run B shared (actions ++ more)).callers j = .returned (.ok storage') → storage' = storage
  /-- A resolved backend never changes. -/
  forever : ∀ storage more, (run B shared actions).resolved = some storage →
    (run B shared (actions ++ more)).resolved = some storage
  /-- An initialisation that fails leaves the storage as it was, and the lock free. -/
  failed : ∀ i storage e, (run B shared actions).callers i = .initialising storage →
    (run B shared (actions ++ [.initSchema i (.error e)])).toLazyAuditStorage
        = ⟨(run B shared actions).shared, none, none⟩ ∧
      (run B shared (actions ++ [.initSchema i (.error e)])).callers i = .returned (.error e)
  /-- A caller returns an error for its own attempt only, and while nothing is resolved. -/
  ownError : ∀ i e a, (run B shared actions).callers i ≠ .returned (.error e) →
    (run B shared (actions ++ [a])).callers i = .returned (.error e) →
    (run B shared actions).resolved = none ∧
      (a = .poll i ∧ (run B shared actions).callers i = .connecting ∧
          (run B shared actions).shared = none ∧ e = notConnected B ∨
        a = .initSchema i (.error e) ∧
          ∃ storage, (run B shared actions).callers i = .initialising storage)
  /-- While nothing is resolved, a call that has the lock to itself and finds a connection
  initialises a backend, and returns it if that succeeds. -/
  retried : ∀ j conn, (∀ result, (run B shared actions).callers j ≠ .returned result) →
    (run B shared actions).toLazyAuditStorage = ⟨some conn, none, none⟩ →
    ∃ storage, storage.storage = B.fromConn conn ∧
      (run B shared (actions ++ attempt j)).callers j = .initialising storage ∧
      (run B shared (actions ++ attempt j ++ [.initSchema j (.ok ()), .poll j])).callers j
        = .returned (.ok storage)

open ResolveSystem in
/-- **The audit storage is resolved once**, whoever calls and whatever goes wrong. -/
theorem resolvesOnce_of_run (B : InitializableStorage Conn S) (shared : Option Conn)
    (actions : List (ResolveAction Conn)) : ResolvesOnce B shared actions := by
  have hinv := lazyInv_run B shared actions
  obtain ⟨hallowed, hend⟩ := allowed_history B shared actions
  have hforever : ∀ storage more, (run B shared actions).resolved = some storage →
      (run B shared (actions ++ more)).resolved = some storage := by
    intro storage more hresolved
    rw [run_append]
    exact resolved_foldl hinv hresolved more
  constructor
  case once => exact length_made_le hallowed
  case found =>
    intro storage hmem
    have hmade := made_of_allowed hallowed
    rw [eq_of_found hallowed hmem] at hmade
    exact hmade
  case failedBefore =>
    intro before e after heq
    rw [heq] at hallowed
    exact made_eq_nil_of_failed hallowed
  case initialised =>
    -- what is resolved has been initialised, and is all that has been
    intro i storage hi
    have hresolved := (hinv.caller hi).returned storage rfl
    refine ⟨?_, hresolved⟩
    have hmade := made_of_allowed hallowed
    rw [← hend, initialised_eq_of_resolved hresolved] at hmade
    exact hmade
  case same =>
    -- both have returned what is resolved in the end
    intro i j storage storage' more hi hj
    have hthen := hforever storage more ((hinv.caller hi).returned storage rfl)
    have hlater := ((lazyInv_run B shared (actions ++ more)).caller hj).returned storage' rfl
    exact Option.some.inj (hlater.symm.trans hthen)
  case forever => exact hforever
  -- an attempt that has failed leaves nothing resolved and is returned to its caller
  case failed =>
    intro i storage e hi
    have hnone := (hinv.caller hi).unresolved rfl
    have hstep : run B shared (actions ++ [.initSchema i (.error e)])
        = (run B shared actions).leave i (.error e) := by
      rw [run_append, List.foldl_cons, List.foldl_nil]
      simp only [ResolveSystem.step, initSchema, hi]
    rw [hstep]
    refine ⟨?_, goOn_callers_self⟩
    rw [← hnone]
    rfl
  case ownError =>
    intro i e a hbefore hafter
    rw [run_append] at hafter
    exact of_returned_error hinv (transition_step B _ a) hbefore hafter
  -- a caller that comes later, while nothing is resolved, makes an attempt of its own
  case retried =>
    intro j conn hreturned hstorage
    have hattempt := initialising_of_attempt (B := B) hreturned hinv
      (congrArg LazyAuditStorage.resolved hstorage) (congrArg LazyAuditStorage.initLock hstorage)
      (congrArg LazyAuditStorage.shared hstorage)
    rw [← run_append] at hattempt
    refine ⟨_, rfl, hattempt, ?_⟩
    rw [run_append]
    exact returned_of_initialising hattempt

end Storage

end ActonService
