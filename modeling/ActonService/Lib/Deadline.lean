import Mathlib.Data.List.Basic

/-!
# Tasks under one deadline

Some tasks run side by side, and each is given up once a common deadline has passed.  A task is
polled now and then: it may have finished by then, and otherwise its timer may have fired.  When,
how often and in which order the tasks are polled is up to the executor.

## Main definitions

* `Polled`, `Poll`, `Slot` — tasks, polls, and a task with what it came to.
* `pollAll` — the tasks after some polls.
* `Punctual` — no timer fires before the deadline.

## Main results

* `getElem?_pollAll` — **a task comes to what its own polls make of it**, whatever the others do.
* `outcome_of_finished` — a task that finishes by the deadline is never given up.
* `outcome_cases` — a task comes to its own outcome, or is given up after the deadline.
* `isSome_outcome_of_fired` — a poll after its timer has fired settles a task.
-/

namespace Deadline

variable {α : Type}

/-- A task, by what a poll of it finds: once it has finished it stays so. -/
structure Polled (α : Type) where
  poll : ℕ → Option α
  mono : ∀ t t' a, poll t = some a → t ≤ t' → poll t' = some a

/-- A poll of one task at a time.  Its timer may have fired. -/
structure Poll where
  index : ℕ
  now : ℕ
  fired : Bool
  deriving DecidableEq, Repr

/-- A task and what it came to. -/
structure Slot (α : Type) where
  task : Polled α
  outcome : Option α

/-- The task is polled; what is late comes to `late`. -/
def Slot.poll (late : α) (s : Slot α) (p : Poll) : Slot α :=
  match s.outcome with
  | some _ => s
  | none =>
    match s.task.poll p.now with
    | some a => { s with outcome := some a }
    | none => if p.fired then { s with outcome := some late } else s

/-- One of the tasks is polled. -/
def pollOne (late : α) (slots : List (Slot α)) (p : Poll) : List (Slot α) :=
  slots.modify p.index fun s => s.poll late p

/-- The tasks after some polls. -/
def pollAll (late : α) (slots : List (Slot α)) (polls : List Poll) : List (Slot α) :=
  polls.foldl (pollOne late) slots

/-- No timer fires before the deadline. -/
def Punctual (expiry : ℕ) (polls : List Poll) : Prop :=
  ∀ p ∈ polls, p.fired = true → expiry ≤ p.now

/-- The polls of one task are in time if all are. -/
theorem Punctual.of_index {expiry : ℕ} {polls : List Poll} (hpolls : Punctual expiry polls)
    (i : ℕ) : Punctual expiry (polls.filter fun p => decide (p.index = i)) :=
  fun p hp => hpolls p (List.mem_of_mem_filter hp)

variable {late : α} {expiry : ℕ}

@[simp] theorem length_pollAll (slots : List (Slot α)) (polls : List Poll) :
    (pollAll late slots polls).length = slots.length := by
  induction polls generalizing slots with
  | nil => rfl
  | cons p polls ih =>
    have hstep : pollAll late slots (p :: polls) = pollAll late (pollOne late slots p) polls := rfl
    rw [hstep, ih, pollOne, List.length_modify]

/-- **A task comes to what its own polls make of it**, whatever the others do. -/
theorem getElem?_pollAll (slots : List (Slot α)) (polls : List Poll) (i : ℕ) :
    (pollAll late slots polls)[i]?
      = slots[i]?.map fun s =>
          (polls.filter fun p => decide (p.index = i)).foldl (Slot.poll late) s := by
  induction polls generalizing slots with
  | nil => simp [pollAll]
  | cons p polls ih =>
    have hstep : pollAll late slots (p :: polls) = pollAll late (pollOne late slots p) polls := rfl
    rw [hstep, ih, pollOne, List.getElem?_modify, List.filter_cons]
    by_cases h : p.index = i
    · simp [h, Option.map_map, Function.comp_def]
    · simp [h]

/-- What a task has come to stays. -/
theorem foldl_of_outcome {s : Slot α} {a : α} (h : s.outcome = some a) (polls : List Poll) :
    polls.foldl (Slot.poll late) s = s := by
  induction polls with
  | nil => rfl
  | cons p polls ih =>
    have hstep : s.poll late p = s := by rw [Slot.poll, h]
    rw [List.foldl_cons, hstep, ih]

/-- **A task comes to its own outcome, or is given up after the deadline**, when it has not
finished. -/
theorem outcome_cases {s : Slot α} (hs : s.outcome = none) {polls : List Poll}
    (hpolls : Punctual expiry polls) {a : α}
    (h : (polls.foldl (Slot.poll late) s).outcome = some a) :
    ∃ p ∈ polls, s.task.poll p.now = some a ∨
      (s.task.poll p.now = none ∧ expiry ≤ p.now ∧ a = late) := by
  induction polls generalizing s with
  | nil =>
    rw [List.foldl_nil, hs] at h
    cases h
  | cons p polls ih =>
    obtain ⟨hfirst, hrest⟩ := List.forall_mem_cons.mp hpolls
    rw [List.foldl_cons] at h
    rcases hpoll : s.task.poll p.now with _ | b
    · cases hfired : p.fired with
      | true =>
        have hstep : (s.poll late p).outcome = some late := by
          simp [Slot.poll, hs, hpoll, hfired]
        rw [foldl_of_outcome hstep, hstep] at h
        exact ⟨p, List.mem_cons_self, .inr ⟨hpoll, hfirst hfired, (Option.some.inj h).symm⟩⟩
      | false =>
        have hstep : s.poll late p = s := by simp [Slot.poll, hs, hpoll, hfired]
        rw [hstep] at h
        obtain ⟨q, hq, hcases⟩ := ih hs hrest h
        exact ⟨q, List.mem_cons_of_mem p hq, hcases⟩
    · have hstep : (s.poll late p).outcome = some b := by simp [Slot.poll, hs, hpoll]
      rw [foldl_of_outcome hstep, hstep] at h
      exact ⟨p, List.mem_cons_self, .inl (hpoll.trans h)⟩

/-- **A task that finishes by the deadline is never given up.** -/
theorem outcome_of_finished {s : Slot α} (hs : s.outcome = none) {polls : List Poll}
    (hpolls : Punctual expiry polls) {a b : α} (hfinished : s.task.poll expiry = some a)
    (h : (polls.foldl (Slot.poll late) s).outcome = some b) : b = a := by
  obtain ⟨p, -, hpoll | ⟨hpoll, hlate, -⟩⟩ := outcome_cases hs hpolls h
  · -- a task finishes once, with one outcome
    rcases Nat.le_total expiry p.now with hle | hle
    · rw [s.task.mono _ _ _ hfinished hle] at hpoll
      exact (Option.some.inj hpoll).symm
    · rw [s.task.mono _ _ _ hpoll hle] at hfinished
      exact Option.some.inj hfinished
  · rw [s.task.mono _ _ _ hfinished hlate] at hpoll
    cases hpoll

/-- A task that has not finished whenever it is polled is given up. -/
theorem outcome_of_stalled {s : Slot α} (hs : s.outcome = none) {polls : List Poll}
    (hpolls : Punctual expiry polls) (hstalled : ∀ p ∈ polls, s.task.poll p.now = none) {a : α}
    (h : (polls.foldl (Slot.poll late) s).outcome = some a) : a = late := by
  obtain ⟨p, hp, hpoll | ⟨-, -, ha⟩⟩ := outcome_cases hs hpolls h
  · rw [hstalled p hp] at hpoll
    cases hpoll
  · exact ha

/-- **A poll after its timer has fired settles a task.** -/
theorem isSome_outcome_of_fired {polls : List Poll} {p : Poll} (hp : p ∈ polls)
    (hfired : p.fired = true) (s : Slot α) :
    (polls.foldl (Slot.poll late) s).outcome.isSome = true := by
  obtain ⟨before, behind, rfl⟩ := List.append_of_mem hp
  rw [List.foldl_append, List.foldl_cons]
  generalize before.foldl (Slot.poll late) s = s'
  have hsettled : ∃ a, (s'.poll late p).outcome = some a := by
    rcases hs' : s'.outcome with _ | a
    · rcases hpoll : s'.task.poll p.now with _ | a
      · exact ⟨late, by simp [Slot.poll, hs', hpoll, hfired]⟩
      · exact ⟨a, by simp [Slot.poll, hs', hpoll]⟩
    · exact ⟨a, by simp [Slot.poll, hs']⟩
  obtain ⟨a, ha⟩ := hsettled
  rw [foldl_of_outcome ha, ha]
  rfl

end Deadline
