import Mathlib.Data.Nat.Notation

/-!
# Bounded channels

A channel between any number of senders and one receiver.  A send waits as long as the channel is
full, and fails when the receiver has gone.

## Main definitions

* `Channel` — what is in a channel.
* `send?`, `receive?`, `close` — the operations.
* `Stuck` — a send would wait.

## Main results

* `send?_eq_none_iff` — a send waits exactly when the channel is full and its receiver is there.
-/

/-- The messages in a channel, and whether its receiver has gone. -/
structure Channel (M : Type) where
  capacity : ℕ
  queue : List M
  closed : Bool
  deriving Repr

namespace Channel

variable {M : Type}

/-- An empty channel. -/
def new (capacity : ℕ) : Channel M := ⟨capacity, [], false⟩

/-- A send: none while it waits, else whether it succeeds. -/
def send? (c : Channel M) (message : M) : Option (Channel M × Bool) :=
  if c.closed then some (c, false)
  else if c.queue.length < c.capacity then some ({ c with queue := c.queue ++ [message] }, true)
  else none

/-- The receiver takes the oldest message. -/
def receive? (c : Channel M) : Option (M × Channel M) :=
  match c.queue with
  | [] => none
  | message :: queue => some (message, { c with queue := queue })

/-- The receiver goes, and what it has not taken is lost. -/
def close (c : Channel M) : Channel M := { c with queue := [], closed := true }

/-- A send would wait: the channel is open and full. -/
def Stuck (c : Channel M) : Prop := c.closed = false ∧ c.capacity ≤ c.queue.length

instance (c : Channel M) : Decidable c.Stuck := inferInstanceAs (Decidable (_ ∧ _))

variable {c : Channel M} {message : M}

theorem send?_eq_none_iff : c.send? message = none ↔ c.Stuck := by
  rw [send?, Stuck]
  cases c.closed with
  | true => simp
  | false => simp

end Channel
