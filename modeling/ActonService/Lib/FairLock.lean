import Mathlib.Data.List.Basic

/-!
# A fair readers–writer lock

A lock that any number of readers hold, or one writer.  Who wants it waits in a queue, and only
the first in the queue is let in: a reader that comes after a waiting writer does not overtake it.

## Main definitions

* `Mode`, `FairLock` — reading or writing; who holds a lock and who waits for it.
* `request`, `acquire?`, `release` — the operations.
* `barred` — the queue from the first waiting writer on.

## Main results

* `acquire?_eq_some_iff` — who gets in.
* `barred_request`, `barred_acquire` — **as long as somebody holds the lock, nobody behind a
  waiting writer gets in.**
* `exists_acquire` — a lock that nobody holds lets somebody in.
-/

/-- What a lock is wanted for. -/
inductive Mode
  | read
  | write
  deriving DecidableEq, Repr

/-- Who holds the lock, and who waits for it, in the order they came. -/
structure FairLock (ι : Type) where
  holders : List (ι × Mode)
  queue : List (ι × Mode)
  deriving Repr

namespace FairLock

variable {ι : Type}

/-- The lock that nobody holds or wants. -/
def free : FairLock ι := ⟨[], []⟩

/-- Somebody may get in beside the holders. -/
def admits (l : FairLock ι) : Mode → Bool
  | .read => l.holders.all fun h => decide (h.2 = .read)
  | .write => l.holders.isEmpty

/-- Somebody comes to wait, behind all who do so already. -/
def request (l : FairLock ι) (i : ι) (mode : Mode) : FairLock ι :=
  { l with queue := l.queue ++ [(i, mode)] }

/-- A queue from the first waiting writer on. -/
def behindWriter : List (ι × Mode) → List (ι × Mode)
  | [] => []
  | (_, .read) :: queue => behindWriter queue
  | (i, .write) :: queue => (i, .write) :: queue

/-- The queue from the first waiting writer on. -/
def barred (l : FairLock ι) : List (ι × Mode) := behindWriter l.queue

section Barred

variable {l : FairLock ι} {i : ι} {mode : Mode}

/-- Who comes to wait stands behind everybody else. -/
theorem barred_request : l.barred <+: (l.request i mode).barred := by
  unfold barred request
  induction l.queue with
  | nil => exact List.nil_prefix
  | cons w queue ih =>
    rcases w with ⟨j, - | -⟩
    · exact ih
    · exact List.prefix_append _ [(i, mode)]

/-- Behind a waiting writer even a reader waits. -/
theorem mem_barred_request (h : l.barred ≠ []) : (i, mode) ∈ (l.request i mode).barred := by
  unfold barred at h
  unfold barred request
  induction hqueue : l.queue generalizing l with
  | nil =>
    rw [hqueue] at h
    exact absurd rfl h
  | cons w queue ih =>
    rw [hqueue] at h
    rcases w with ⟨j, - | -⟩
    · exact ih (l := ⟨l.holders, queue⟩) h rfl
    · show (i, mode) ∈ ((j, Mode.write) :: queue) ++ [(i, mode)]
      exact List.mem_append_right _ (List.mem_singleton_self _)

/-- Who stands behind a waiting writer is in the queue. -/
theorem mem_queue_of_mem_barred {w : ι × Mode} (h : w ∈ l.barred) : w ∈ l.queue := by
  unfold barred at h
  induction hqueue : l.queue generalizing l with
  | nil => rwa [hqueue] at h
  | cons first queue ih =>
    rw [hqueue] at h
    rcases first with ⟨j, - | -⟩
    · exact List.mem_cons_of_mem _ (ih (l := ⟨l.holders, queue⟩) h rfl)
    · exact h

/-- A waiting writer stands there itself. -/
theorem mem_barred_of_write (h : (i, .write) ∈ l.queue) : (i, .write) ∈ l.barred := by
  unfold barred
  induction hqueue : l.queue generalizing l with
  | nil => rwa [hqueue] at h
  | cons first queue ih =>
    rw [hqueue] at h
    rcases first with ⟨j, - | -⟩
    · rcases List.mem_cons.mp h with heq | hmem
      · cases heq
      · exact ih (l := ⟨l.holders, queue⟩) hmem rfl
    · exact h

end Barred

variable [DecidableEq ι]

/-- Somebody gets in, if it is their turn. -/
def acquire? (l : FairLock ι) (i : ι) : Option (Mode × FairLock ι) :=
  match l.queue with
  | [] => none
  | (j, mode) :: queue =>
    if j = i ∧ l.admits mode = true then some (mode, ⟨(i, mode) :: l.holders, queue⟩) else none

/-- A holder goes, with whatever guard it has had. -/
def release (l : FairLock ι) (i : ι) : FairLock ι :=
  { l with holders := l.holders.filter fun h => decide (h.1 ≠ i) }

variable {l l' : FairLock ι} {i : ι} {mode : Mode}

/-- **Who gets in**: the first in the queue. -/
theorem acquire?_eq_some_iff : l.acquire? i = some (mode, l') ↔
    l.admits mode = true ∧ ∃ queue, l.queue = (i, mode) :: queue ∧
      l' = ⟨(i, mode) :: l.holders, queue⟩ := by
  rw [acquire?]
  cases hqueue : l.queue with
  | nil => simp
  | cons first queue =>
    obtain ⟨j, m⟩ := first
    dsimp only
    by_cases hturn : j = i ∧ l.admits m = true
    · obtain ⟨rfl, hadmits⟩ := hturn
      simp only [hadmits, and_self, if_true, Option.some.injEq, Prod.mk.injEq, List.cons.injEq,
        true_and]
      constructor
      · rintro ⟨rfl, rfl⟩
        exact ⟨hadmits, queue, ⟨rfl, rfl⟩, rfl⟩
      · rintro ⟨-, queue', ⟨rfl, rfl⟩, rfl⟩
        exact ⟨rfl, rfl⟩
    · rw [if_neg hturn]
      constructor
      · intro h
        cases h
      · rintro ⟨hadmits, queue', heq, -⟩
        cases heq
        exact absurd ⟨rfl, hadmits⟩ hturn

/-- A writer gets in only where nobody is. -/
theorem holders_of_acquire_write (h : l.acquire? i = some (.write, l')) : l.holders = [] := by
  obtain ⟨hadmits, -⟩ := acquire?_eq_some_iff.mp h
  exact List.isEmpty_iff.mp hadmits

/-- **A lock that nobody holds** lets somebody in. -/
theorem exists_acquire (hfree : l.holders = []) (hqueue : l.queue ≠ []) :
    ∃ i mode l', (i, mode) ∈ l.queue ∧ l.acquire? i = some (mode, l') := by
  cases heq : l.queue with
  | nil => exact absurd heq hqueue
  | cons first queue =>
    obtain ⟨i, mode⟩ := first
    refine ⟨i, mode, ⟨(i, mode) :: l.holders, queue⟩, List.mem_cons_self,
      acquire?_eq_some_iff.mpr ⟨?_, queue, heq, rfl⟩⟩
    cases mode with
    | read => simp [admits, hfree]
    | write => simp [admits, hfree]

/-- **As long as somebody holds the lock**, only readers ahead of every waiting writer get in. -/
theorem barred_acquire (hheld : l.holders ≠ []) (h : l.acquire? i = some (mode, l')) :
    mode = .read ∧ l'.barred = l.barred := by
  obtain ⟨hadmits, queue, hqueue, rfl⟩ := acquire?_eq_some_iff.mp h
  cases mode with
  | read => exact ⟨rfl, by rw [barred, barred, hqueue, behindWriter]⟩
  | write => exact absurd (List.isEmpty_iff.mp hadmits) hheld

end FairLock
