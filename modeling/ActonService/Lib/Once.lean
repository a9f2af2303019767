import ActonService.Lib.Run

/-!
# A value that is made once

Whoever needs the value finds it or tries to make it.  What is made stays, so that nobody makes it
again, and who fails leaves nothing behind.

## Main definitions

* `Event`, `step`, `allowed` — the value is made, is found, or cannot be made.
* `made`, `found` — what has been made, and what was found.

## Main results

* `made_of_allowed` — **what was there and what has been made is what is there**: one value at
  most.
* `eq_of_found` — **whatever was found is what is there in the end.**
* `made_eq_nil_of_failed` — nobody fails when the value is there.
-/

namespace Once

open Run

variable {V E : Type*}

/-- What happens to a value that is made once. -/
inductive Event (V E : Type*)
  | made (v : V)
  | found (v : V)
  | failed (e : E)
  deriving DecidableEq, Repr

/-- The value after an event, if there is one. -/
def step (value : Option V) : Event V E → Option V
  | .made v => some v
  | .found _ => value
  | .failed _ => value

/-- What is there is found, and only what is not there is made. -/
def allowed (value : Option V) : Event V E → Prop
  | .made _ => value = none
  | .found v => value = some v
  | .failed _ => value = none

def Event.made? : Event V E → Option V
  | .made v => some v
  | .found _ => none
  | .failed _ => none

def Event.found? : Event V E → Option V
  | .made _ => none
  | .found v => some v
  | .failed _ => none

/-- The values that have been made. -/
def made (events : List (Event V E)) : List V := events.filterMap Event.made?

/-- The values that were found. -/
def found (events : List (Event V E)) : List V := events.filterMap Event.found?

variable {value : Option V} {events : List (Event V E)}

/-- **What was there and what has been made** is what is there. -/
theorem made_of_allowed (h : Allowed step allowed value events) :
    value.toList ++ made events = (events.foldl step value).toList := by
  induction events generalizing value with
  | nil => exact List.append_nil _
  | cons event events ih =>
    obtain ⟨hevent, hevents⟩ := h
    have hrest := ih hevents
    cases event with
    | made v =>
      -- nothing was there, so the value is the first
      obtain rfl : value = none := hevent
      exact hrest
    | found v => exact hrest
    | failed e => exact hrest

/-- One value is made at most. -/
theorem length_made_le (h : Allowed step allowed value events) : (made events).length ≤ 1 := by
  have hlength := congrArg List.length (made_of_allowed h)
  rw [List.length_append] at hlength
  have hone : (events.foldl step value).toList.length ≤ 1 := by
    cases events.foldl step value with
    | none => exact Nat.zero_le 1
    | some v => exact Nat.le_refl 1
  omega

/-- **A value that is there stays.** -/
theorem foldl_step_some {v : V} (h : Allowed step allowed (some v) events) :
    events.foldl step (some v) = some v := by
  have hlist := made_of_allowed h
  cases hend : events.foldl step (some v) with
  | none =>
    rw [hend] at hlist
    exact absurd hlist (List.cons_ne_nil _ _)
  | some w =>
    rw [hend] at hlist
    exact congrArg some (List.cons.inj hlist).1.symm

/-- **Whatever was found** is what is there in the end. -/
theorem eq_of_found (h : Allowed step allowed value events) {v : V} (hv : v ∈ found events) :
    events.foldl step value = some v := by
  obtain ⟨event, hmem, hevent⟩ := List.mem_filterMap.mp hv
  obtain ⟨before, after, rfl⟩ := List.append_of_mem hmem
  obtain rfl : event = .found v := by
    cases event with
    | made w => exact absurd hevent (Option.some_ne_none v).symm
    | found w => rw [Option.some.inj hevent]
    | failed e => exact absurd hevent (Option.some_ne_none v).symm
  obtain ⟨-, hfound, hafter⟩ := allowed_append.mp h
  rw [List.foldl_append, List.foldl_cons]
  have hthere : before.foldl step value = some v := hfound
  rw [hthere] at hafter ⊢
  exact foldl_step_some hafter

/-- **Nobody fails when the value is there.** -/
theorem made_eq_nil_of_failed {before after : List (Event V E)} {e : E}
    (h : Allowed step allowed value (before ++ .failed e :: after)) : made before = [] := by
  obtain ⟨hbefore, hnone, -⟩ := allowed_append.mp h
  have hlist := made_of_allowed hbefore
  rw [show before.foldl step value = none from hnone] at hlist
  exact (List.append_eq_nil_iff.mp hlist).2

end Once
