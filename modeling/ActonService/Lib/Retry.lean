import Mathlib.Data.Seq.Basic

/-!
# Retrying

An action is tried until it succeeds, or until it has failed once more often than it may be
retried.  In front of each retry stands a delay.  The results of the attempts come from a sequence
that is finite, when an attempt never answers, or infinite.

## Main definitions

* `run` — the states a machine goes through under a sequence of results.
* `State`, `State.step` — the attempts made, the delays, and what was returned.
* `Fails` — the attempts fail up to a point.

## Main results

* `run_cases` — **what holds after every number of results.**
* `attempts_le`, `returned_iff`, `not_trying` — what such a loop returns, and after how many
  attempts.
-/

namespace Retry

open Stream'

/-- The states under the first results of a sequence. -/
def run {S R : Type*} (step : S → R → S) (init : S) (results : Seq R) : ℕ → S
  | 0 => init
  | n + 1 =>
    match results.get? n with
    | some r => step (run step init results n) r
    | none => run step init results n

theorem run_succ_some {S R : Type*} {step : S → R → S} {init : S} {results : Seq R} {n : ℕ} {r : R}
    (h : results.get? n = some r) :
    run step init results (n + 1) = step (run step init results n) r := by
  rw [run, h]

theorem run_succ_none {S R : Type*} {step : S → R → S} {init : S} {results : Seq R} {n : ℕ}
    (h : results.get? n = none) :
    run step init results (n + 1) = run step init results n := by
  rw [run, h]

/-- Whether an action is still tried. -/
inductive Phase (E A : Type*)
  | trying
  | returned (r : Except E A)

/-- The attempts made, the delays between them, and whether an action is still tried. -/
structure State (E A D : Type*) where
  attempts : ℕ
  delays : List D
  phase : Phase E A

variable {E A D : Type*}

/-- Before the first attempt. -/
def State.init : State E A D := ⟨0, [], .trying⟩

/-- One attempt, of an action that may be retried `limit` times. -/
def State.step (limit : ℕ) (delay : ℕ → D) (s : State E A D) (r : Except E A) : State E A D :=
  match s.phase, r with
  | .returned _, _ => s
  | .trying, .ok a => { s with attempts := s.attempts + 1, phase := .returned (.ok a) }
  | .trying, .error e =>
    if s.attempts < limit then
      { s with attempts := s.attempts + 1, delays := s.delays ++ [delay s.attempts] }
    else { s with attempts := s.attempts + 1, phase := .returned (.error e) }

section Step

variable (limit : ℕ) (delay : ℕ → D) (k : ℕ) (delays : List D)

theorem step_returned (r r' : Except E A) :
    State.step limit delay ⟨k, delays, .returned r⟩ r' = ⟨k, delays, .returned r⟩ :=
  rfl

theorem step_ok (a : A) :
    State.step limit delay (⟨k, delays, .trying⟩ : State E A D) (.ok a)
      = ⟨k + 1, delays, .returned (.ok a)⟩ :=
  rfl

variable {limit k}

theorem step_error_of_lt (h : k < limit) (e : E) :
    State.step limit delay (⟨k, delays, .trying⟩ : State E A D) (.error e)
      = ⟨k + 1, delays ++ [delay k], .trying⟩ := by
  simp only [State.step, if_pos h]

theorem step_error_of_ge (h : limit ≤ k) (e : E) :
    State.step limit delay (⟨k, delays, .trying⟩ : State E A D) (.error e)
      = ⟨k + 1, delays, .returned (.error e)⟩ := by
  simp only [State.step, if_neg (Nat.not_lt.mpr h)]

end Step

/-- The first `k` attempts fail. -/
def Fails (results : Seq (Except E A)) (k : ℕ) : Prop :=
  ∀ j < k, ∃ e, results.get? j = some (.error e)

theorem fails_zero (results : Seq (Except E A)) : Fails results 0 :=
  fun _ h => absurd h (Nat.not_lt_zero _)

theorem Fails.succ {results : Seq (Except E A)} {k : ℕ} {e : E} (h : Fails results k)
    (hk : results.get? k = some (.error e)) : Fails results (k + 1) := by
  intro j hj
  rcases Nat.lt_succ_iff_lt_or_eq.mp hj with hlt | rfl
  · exact h j hlt
  · exact ⟨e, hk⟩

theorem Fails.mono {results : Seq (Except E A)} {k l : ℕ} (h : Fails results l) (hle : k ≤ l) :
    Fails results k :=
  fun j hj => h j (Nat.lt_of_lt_of_le hj hle)

/-- The loop is left with this result: a success, or the failure of the last attempt. -/
def Last (limit k : ℕ) : Except E A → Prop
  | .ok _ => True
  | .error _ => k = limit

/-- The result of one attempt, and those before it, are such that the loop returns it. -/
def Decides (limit : ℕ) (results : Seq (Except E A)) (k : ℕ) (r : Except E A) : Prop :=
  k ≤ limit ∧ Fails results k ∧ results.get? k = some r ∧ Last limit k r

variable {limit : ℕ} {delay : ℕ → D} {results : Seq (Except E A)}

/-- A loop whose attempts have failed so far still tries. -/
theorem run_of_fails (delay : ℕ → D) {k : ℕ} (hk : k ≤ limit) (h : Fails results k) :
    run (State.step limit delay) .init results k = ⟨k, (List.range k).map delay, .trying⟩ := by
  induction k with
  | zero => rfl
  | succ k ih =>
    obtain ⟨e, he⟩ := h k (Nat.lt_succ_self k)
    rw [run_succ_some he, ih (Nat.le_of_succ_le hk) (h.mono (Nat.le_succ k)),
      step_error_of_lt delay _ hk, List.range_succ, List.map_append, List.map_singleton]

/-- **What holds after every number of results**: the attempts so far have failed, or one of them
was the last. -/
theorem run_cases (limit : ℕ) (delay : ℕ → D) (results : Seq (Except E A)) (n : ℕ) :
    (∃ k ≤ limit, k ≤ n ∧ Fails results k ∧ (k = n ∨ results.get? k = none) ∧
      run (State.step limit delay) .init results n = ⟨k, (List.range k).map delay, .trying⟩) ∨
    ∃ k < n, ∃ r, Decides limit results k r ∧
      run (State.step limit delay) .init results n
        = ⟨k + 1, (List.range k).map delay, .returned r⟩ := by
  induction n with
  | zero => exact .inl ⟨0, Nat.zero_le _, le_refl _, fails_zero _, .inl rfl, rfl⟩
  | succ n ih =>
    cases hr : results.get? n with
    | none =>
      -- no attempt answers any more
      rw [run_succ_none hr]
      rcases ih with ⟨k, hk, hkn, hfails, hat, hrun⟩ | ⟨k, hk, r, hdecides, hrun⟩
      · refine .inl ⟨k, hk, Nat.le_succ_of_le hkn, hfails, .inr ?_, hrun⟩
        rcases hat with rfl | hnone
        · exact hr
        · exact hnone
      · exact .inr ⟨k, Nat.lt_succ_of_lt hk, r, hdecides, hrun⟩
    | some r =>
      rw [run_succ_some hr]
      rcases ih with ⟨k, hk, hkn, hfails, hat, hrun⟩ | ⟨k, hk, r', hdecides, hrun⟩
      · -- the loop still tries, so this is the next attempt
        obtain rfl : k = n := by
          rcases hat with rfl | hnone
          · rfl
          · rw [results.le_stable hkn hnone] at hr
            cases hr
        rw [hrun]
        cases r with
        | ok a => exact .inr ⟨k, Nat.lt_succ_self k, .ok a, ⟨hk, hfails, hr, trivial⟩, rfl⟩
        | error e =>
          rcases Nat.lt_or_eq_of_le hk with hlt | rfl
          · refine .inl ⟨k + 1, hlt, le_refl _, hfails.succ hr, .inl rfl, ?_⟩
            rw [step_error_of_lt delay _ hlt, List.range_succ, List.map_append, List.map_singleton]
          · refine .inr ⟨k, Nat.lt_succ_self k, .error e, ⟨hk, hfails, hr, rfl⟩, ?_⟩
            rw [step_error_of_ge delay _ (le_refl k)]
      · refine .inr ⟨k, Nat.lt_succ_of_lt hk, r', hdecides, ?_⟩
        rw [hrun, step_returned]

/-- At most `limit + 1` attempts are made. -/
theorem attempts_le (n : ℕ) :
    (run (State.step limit delay) .init results n).attempts ≤ limit + 1 := by
  rcases run_cases limit delay results n with
    ⟨k, hk, -, -, -, hrun⟩ | ⟨k, -, r, hdecides, hrun⟩
  · rw [hrun]
    exact Nat.le_succ_of_le hk
  · rw [hrun]
    exact Nat.succ_le_succ hdecides.1

/-- The delays are those of the first retries. -/
theorem exists_delays_eq (limit : ℕ) (delay : ℕ → D) (results : Seq (Except E A)) (n : ℕ) :
    ∃ k, (run (State.step limit delay) .init results n).delays = (List.range k).map delay := by
  rcases run_cases limit delay results n with
    ⟨k, -, -, -, -, hrun⟩ | ⟨k, -, r, -, hrun⟩
  · exact ⟨k, by rw [hrun]⟩
  · exact ⟨k, by rw [hrun]⟩

/-- Behind a result that decides, the attempts have not all failed. -/
theorem Decides.not_fails {k l : ℕ} {r : Except E A} (h : Decides limit results k r)
    (hl : l ≤ limit) (hlt : k < l) : ¬ Fails results l := by
  intro hfails
  obtain ⟨e, he⟩ := hfails k hlt
  obtain rfl : r = .error e := by
    rw [h.2.2.1] at he
    exact Option.some.inj he
  have hlast : k = limit := h.2.2.2
  omega

/-- Only one result decides: there is one first success, or one last failure. -/
theorem Decides.unique {k k' : ℕ} {r r' : Except E A} (h : Decides limit results k r)
    (h' : Decides limit results k' r') : k = k' ∧ r = r' := by
  obtain rfl : k = k' := by
    apply Nat.le_antisymm
    · by_contra hlt
      exact h'.not_fails h.1 (Nat.lt_of_not_le hlt) h.2.1
    · by_contra hlt
      exact h.not_fails h'.1 (Nat.lt_of_not_le hlt) h'.2.1
  exact ⟨rfl, Option.some.inj (h.2.2.1.symm.trans h'.2.2.1)⟩

/-- **The loop returns the first success, or the failure of the last attempt.** -/
theorem returned_iff (r : Except E A) :
    (∃ n, (run (State.step limit delay) .init results n).phase = .returned r)
      ↔ ∃ k, Decides limit results k r := by
  constructor
  · rintro ⟨n, hn⟩
    rcases run_cases limit delay results n with
      ⟨k, -, -, -, -, hrun⟩ | ⟨k, -, r', hdecides, hrun⟩
    · rw [hrun] at hn
      cases hn
    · rw [hrun] at hn
      cases hn
      exact ⟨k, hdecides⟩
  · rintro ⟨k, hdecides⟩
    refine ⟨k + 1, ?_⟩
    rcases run_cases limit delay results (k + 1) with
      ⟨k', hk', hkn, hfails, hat, hrun⟩ | ⟨k', -, r', hdecides', hrun⟩
    · -- a loop that still tries has not come by a result that decides
      exfalso
      rcases hat with rfl | hnone
      · exact hdecides.not_fails hk' (Nat.lt_succ_self k) hfails
      · rcases Nat.lt_trichotomy k' k with hlt | rfl | hlt
        · obtain ⟨e, he⟩ := hdecides.2.1 k' hlt
          rw [hnone] at he
          cases he
        · rw [hdecides.2.2.1] at hnone
          cases hnone
        · exact hdecides.not_fails hk' hlt hfails
    · obtain ⟨-, rfl⟩ := hdecides.unique hdecides'
      rw [hrun]

/-- **A loop whose attempts all answer is left** after `limit + 1` of them. -/
theorem not_trying (delay : ℕ → D) (h : ∀ k ≤ limit, results.get? k ≠ none) :
    (run (State.step limit delay) .init results (limit + 1)).phase ≠ .trying := by
  rcases run_cases limit delay results (limit + 1) with
    ⟨k, hk, -, -, hat, -⟩ | ⟨k, -, r, -, hrun⟩
  · rcases hat with rfl | hnone
    · omega
    · exact absurd hnone (h k hk)
  · rw [hrun]
    intro h
    cases h

end Retry
