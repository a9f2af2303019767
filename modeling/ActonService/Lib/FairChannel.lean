import Mathlib.Data.List.Nodup
import Mathlib.Order.Basic
import Mathlib.Data.Nat.Basic

/-!
# Bounded channels whose senders take turns

A channel between any number of senders and one receiver.  A sender that finds it full queues up.
When the receiver takes a message, the place goes to the sender that has waited longest, which puts
its message there as soon as it goes on.

## Main definitions

* `FairChannel` — the messages in a channel and the senders that wait.
* `send`, `put?`, `receive?` — the operations.
* `Sound` — a place is free only if nobody waits for it.

## Main results

* `Sound.send`, `Sound.put`, `Sound.receive` — the operations keep the channel sound.
* `Sound.pending` — as long as somebody waits, there is something to take or to put.
-/

/-- A bounded channel and its senders, which get its places in the order in which they have asked
for one. -/
structure FairChannel (ι M : Type) where
  capacity : ℕ
  queue : List M
  /-- The senders that have a place and have not put their message there yet. -/
  granted : List ι
  /-- The senders that wait for a place, the first in front. -/
  waiting : List ι
  deriving Repr

namespace FairChannel

variable {ι M : Type}

/-- An empty channel. -/
def new (capacity : ℕ) : FairChannel ι M := ⟨capacity, [], [], []⟩

/-- The places that are taken, by a message or by a sender that was given one. -/
def held (c : FairChannel ι M) : ℕ := c.queue.length + c.granted.length

/-- Who has not got rid of its message. -/
def senders (c : FairChannel ι M) : List ι := c.granted ++ c.waiting

/-- A sender comes: whether its message is in the channel already. -/
def send (c : FairChannel ι M) (i : ι) (message : M) : FairChannel ι M × Bool :=
  if c.held < c.capacity then ({ c with queue := c.queue ++ [message] }, true)
  else ({ c with waiting := c.waiting ++ [i] }, false)

/-- A sender that has a place goes on. -/
def put? [DecidableEq ι] (c : FairChannel ι M) (i : ι) (message : M) : Option (FairChannel ι M) :=
  if i ∈ c.granted then
    some { c with queue := c.queue ++ [message], granted := c.granted.erase i }
  else none

/-- A free place goes to whoever has waited longest. -/
def assign (c : FairChannel ι M) : FairChannel ι M :=
  match c.waiting with
  | [] => c
  | i :: waiting => { c with granted := c.granted ++ [i], waiting := waiting }

/-- The receiver takes the oldest message. -/
def receive? (c : FairChannel ι M) : Option (M × FairChannel ι M) :=
  match c.queue with
  | [] => none
  | message :: queue => some (message, { c with queue := queue }.assign)

/-- No more messages than places, and a place is free only if nobody waits. -/
structure Sound (c : FairChannel ι M) : Prop where
  bound : c.held ≤ c.capacity
  full : c.waiting ≠ [] → c.held = c.capacity
  nodup : c.senders.Nodup

variable {c c' : FairChannel ι M} {i : ι} {message : M}

theorem sound_new (capacity : ℕ) : (new capacity : FairChannel ι M).Sound :=
  ⟨Nat.zero_le _, fun h => (h rfl).elim, List.nodup_nil⟩

/-! ### What the operations do -/

theorem capacity_send : (c.send i message).1.capacity = c.capacity := by
  rw [send]
  split <;> rfl

/-- A message is put at the end, or its sender is. -/
theorem send_cases (c : FairChannel ι M) (i : ι) (message : M) :
    (∃ c', c.send i message = (c', true) ∧ c'.queue = c.queue ++ [message] ∧
        c'.senders = c.senders) ∨
      ∃ c', c.send i message = (c', false) ∧ c'.queue = c.queue ∧
        c'.senders = c.senders ++ [i] := by
  rw [send]
  split
  · exact .inl ⟨_, rfl, rfl, rfl⟩
  · exact .inr ⟨_, rfl, rfl, (List.append_assoc _ _ _).symm⟩

theorem Sound.send (h : c.Sound) (hi : i ∉ c.senders) : (c.send i message).1.Sound := by
  rw [FairChannel.send]
  split
  · next hfree =>
    -- somebody would have taken the place
    have hnone : c.waiting = [] := by
      by_contra hwaits
      exact hfree.ne (h.full hwaits)
    refine ⟨?_, fun hwaits => (hwaits hnone).elim, h.nodup⟩
    rw [held] at hfree ⊢
    simp only [List.length_append, List.length_singleton]
    omega
  · next hfull =>
    refine ⟨h.bound, fun _ => Nat.le_antisymm h.bound (not_lt.mp hfull), ?_⟩
    have hsenders : c.granted ++ (c.waiting ++ [i]) = c.senders ++ [i] :=
      (List.append_assoc _ _ _).symm
    show (c.granted ++ (c.waiting ++ [i])).Nodup
    rw [hsenders, List.nodup_append]
    refine ⟨h.nodup, List.nodup_singleton i, fun j hj k hk => ?_⟩
    rw [List.mem_singleton.mp hk]
    exact fun heq => hi (heq ▸ hj)

section Put

variable [DecidableEq ι]

theorem put?_eq_some_iff : c.put? i message = some c' ↔ i ∈ c.granted ∧
    c' = { c with queue := c.queue ++ [message], granted := c.granted.erase i } := by
  rw [put?]
  split
  · next h => simp [h, eq_comm]
  · next h => simp [h]

theorem Sound.put (h : c.Sound) (hput : c.put? i message = some c') : c'.Sound := by
  obtain ⟨hi, rfl⟩ := put?_eq_some_iff.mp hput
  have hheld : (c.queue ++ [message]).length + (c.granted.erase i).length = c.held := by
    rw [List.length_erase_of_mem hi, List.length_append, List.length_singleton, held]
    have := List.length_pos_of_mem hi
    omega
  refine ⟨hheld.trans_le h.bound, fun hwaits => hheld.trans (h.full hwaits), ?_⟩
  exact h.nodup.sublist (List.Sublist.append_right List.erase_sublist _)

/-- Who has put its message is no sender any more. -/
theorem Sound.mem_senders_put (h : c.Sound) (hput : c.put? i message = some c') {j : ι} :
    j ∈ c'.senders ↔ j ∈ c.senders ∧ j ≠ i := by
  obtain ⟨hi, rfl⟩ := put?_eq_some_iff.mp hput
  have herase : c.granted.erase i ++ c.waiting = c.senders.erase i :=
    (List.erase_append_left _ hi).symm
  rw [senders, herase, h.nodup.mem_erase_iff, and_comm]

theorem length_senders_put (hput : c.put? i message = some c') :
    c'.senders.length + 1 = c.senders.length := by
  obtain ⟨hi, rfl⟩ := put?_eq_some_iff.mp hput
  simp only [senders, List.length_append, List.length_erase_of_mem hi]
  have := List.length_pos_of_mem hi
  omega

end Put

@[simp] theorem queue_assign (c : FairChannel ι M) : c.assign.queue = c.queue := by
  rw [assign]
  split <;> rfl

@[simp] theorem capacity_assign (c : FairChannel ι M) : c.assign.capacity = c.capacity := by
  rw [assign]
  split <;> rfl

/-- Nobody leaves, and nobody comes. -/
@[simp] theorem senders_assign (c : FairChannel ι M) : c.assign.senders = c.senders := by
  rw [assign]
  split
  · rfl
  · next hwaiting => simp [senders, hwaiting]

theorem receive?_eq_some_iff : c.receive? = some (message, c') ↔
    ∃ queue, c.queue = message :: queue ∧ c' = { c with queue := queue }.assign := by
  rw [receive?]
  split
  · next h => simp [h]
  · next message' queue h =>
    rw [h]
    simp only [Option.some.injEq, Prod.mk.injEq, List.cons.injEq]
    constructor
    · rintro ⟨rfl, rfl⟩
      exact ⟨queue, ⟨rfl, rfl⟩, rfl⟩
    · rintro ⟨_, ⟨rfl, rfl⟩, rfl⟩
      exact ⟨rfl, rfl⟩

theorem queue_receive (h : c.receive? = some (message, c')) : c.queue = message :: c'.queue := by
  obtain ⟨queue, hqueue, rfl⟩ := receive?_eq_some_iff.mp h
  rw [queue_assign, hqueue]

theorem senders_receive (h : c.receive? = some (message, c')) : c'.senders = c.senders := by
  obtain ⟨queue, -, rfl⟩ := receive?_eq_some_iff.mp h
  rw [senders_assign]
  rfl

theorem capacity_receive (h : c.receive? = some (message, c')) : c'.capacity = c.capacity := by
  obtain ⟨queue, -, rfl⟩ := receive?_eq_some_iff.mp h
  rw [capacity_assign]

theorem Sound.receive (h : c.Sound) (hreceive : c.receive? = some (message, c')) : c'.Sound := by
  have hsenders := senders_receive hreceive
  obtain ⟨queue, hqueue, rfl⟩ := receive?_eq_some_iff.mp hreceive
  have hheld : queue.length + c.granted.length + 1 = c.held := by
    rw [held, hqueue, List.length_cons]
    omega
  have hbound := h.bound
  refine ⟨?_, ?_, hsenders ▸ h.nodup⟩
  · rw [capacity_assign, held, queue_assign, assign]
    split
    · show queue.length + c.granted.length ≤ c.capacity
      omega
    · show queue.length + (c.granted ++ [_]).length ≤ c.capacity
      rw [List.length_append, List.length_singleton]
      omega
  · -- the place that has become free is taken by the next who waits
    rw [capacity_assign, held, queue_assign, assign]
    split
    · next hnone => exact fun hwaits => (hwaits hnone).elim
    · next j waiting hwaiting =>
      intro _
      have hfull : c.held = c.capacity := h.full (fun hnil => by
        rw [show c.waiting = j :: waiting from hwaiting] at hnil
        cases hnil)
      show queue.length + (c.granted ++ [j]).length = c.capacity
      rw [List.length_append, List.length_singleton]
      omega

/-- **Nobody waits for nothing**: where a sender waits, there is a message to take or a sender that
may put its message. -/
theorem Sound.pending (h : c.Sound) (hcapacity : 0 < c.capacity) (hi : i ∈ c.senders) :
    c.queue ≠ [] ∨ c.granted ≠ [] := by
  rw [senders, List.mem_append] at hi
  rcases hi with hi | hi
  · exact .inr (List.ne_nil_of_mem hi)
  · have hfull := h.full (List.ne_nil_of_mem hi)
    rw [← hfull, held] at hcapacity
    by_contra hnone
    rw [not_or, not_not, not_not] at hnone
    rw [hnone.1, hnone.2] at hcapacity
    exact absurd hcapacity (Nat.lt_irrefl 0)

end FairChannel
