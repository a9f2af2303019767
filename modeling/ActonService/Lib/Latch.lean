import Mathlib.Data.List.Basic
import Mathlib.Data.List.Induction

/-!
# Latches

A latch is opened once, with an outcome.  Who waits before that is parked and answered when it is
opened, who waits afterwards is answered at once.

## Main definitions

* `Event`, `State`, `State.step` — waiting at a latch, and opening it.
* `waits`, `outcome?` — who has waited, and what the latch was opened with.

## Main results

* `foldl_step_closed`, `foldl_step_opened` — **everyone who waits is parked until the latch is
  opened, and from then on answered once, with the outcome, in the order they came in.**
-/

namespace Latch

variable {W O : Type*}

/-- What happens at a latch: somebody comes to wait, or the outcome is settled. -/
inductive Event (W O : Type*)
  | wait (w : W)
  | settle (o : O)

/-- A latch, who is parked at it and who has been answered. -/
structure State (W O : Type*) where
  outcome : Option O
  parked : List W
  answered : List (W × O)

/-- The latch before anything happens. -/
def State.closed : State W O := ⟨none, [], []⟩

/-- One event at the latch: who waits is answered, at once or when the outcome comes. -/
def State.step (s : State W O) : Event W O → State W O
  | .wait w =>
    match s.outcome with
    | none => { s with parked := s.parked ++ [w] }
    | some o => { s with answered := s.answered ++ [(w, o)] }
  | .settle o => ⟨some o, [], s.answered ++ s.parked.map (·, o)⟩

/-- Who waits, if somebody does. -/
def Event.waiter? : Event W O → Option W
  | .wait w => some w
  | .settle _ => none

/-- The outcome, if the latch is opened. -/
def Event.outcome? : Event W O → Option O
  | .wait _ => none
  | .settle o => some o

/-- Who has waited, in the order they came in. -/
def waits (events : List (Event W O)) : List W := events.filterMap Event.waiter?

/-- The outcomes the latch was opened with. -/
def outcomes (events : List (Event W O)) : List O := events.filterMap Event.outcome?

@[simp] theorem waits_append (events events' : List (Event W O)) :
    waits (events ++ events') = waits events ++ waits events' :=
  List.filterMap_append

@[simp] theorem outcomes_append (events events' : List (Event W O)) :
    outcomes (events ++ events') = outcomes events ++ outcomes events' :=
  List.filterMap_append

@[simp] theorem waits_wait (w : W) : waits [(.wait w : Event W O)] = [w] := rfl

@[simp] theorem waits_settle (o : O) : waits [(.settle o : Event W O)] = [] := rfl

@[simp] theorem outcomes_wait (w : W) : outcomes [(.wait w : Event W O)] = [] := rfl

@[simp] theorem outcomes_settle (o : O) : outcomes [(.settle o : Event W O)] = [o] := rfl

/-- **A latch that is not opened** parks everyone who waits. -/
theorem foldl_step_closed {events : List (Event W O)} (h : outcomes events = []) :
    events.foldl State.step .closed = ⟨none, waits events, []⟩ := by
  induction events using List.reverseRecOn with
  | nil => rfl
  | append_singleton events event ih =>
    rw [outcomes_append, List.append_eq_nil_iff] at h
    rw [List.foldl_concat, ih h.1]
    cases event with
    | wait w => rw [waits_append, waits_wait]; rfl
    | settle o => exact absurd h.2 (List.cons_ne_nil o [])

/-- **A latch that is opened once** has answered everyone with the outcome. -/
theorem foldl_step_opened {events : List (Event W O)} {o : O} (h : outcomes events = [o]) :
    events.foldl State.step .closed = ⟨some o, [], (waits events).map (·, o)⟩ := by
  induction events using List.reverseRecOn with
  | nil => exact absurd h.symm (List.cons_ne_nil o [])
  | append_singleton events event ih =>
    rw [outcomes_append] at h
    rw [List.foldl_concat]
    cases event with
    | wait w =>
      -- the latch was open already
      rw [outcomes_wait, List.append_nil] at h
      rw [ih h, waits_append, waits_wait, List.map_append]
      rfl
    | settle o' =>
      -- it is opened by this event, with everyone before parked
      have hclosed : outcomes events = [] := by
        have hlength := congrArg List.length h
        rw [List.length_append] at hlength
        exact List.eq_nil_of_length_eq_zero (by simpa using hlength)
      rw [hclosed, outcomes_settle, List.nil_append] at h
      obtain rfl : o' = o := List.singleton_injective h
      rw [foldl_step_closed hclosed, waits_append, waits_settle, List.append_nil]
      rfl

end Latch
