import Mathlib.Algebra.Order.Floor.Div
import Mathlib.Data.List.Basic
import Mathlib.Logic.Function.Basic
import Mathlib.Tactic.Ring

/-!
# Throttles

A limiter is checked at one moment after the other and lets some of the checks through.  It
enforces a quota of a burst and a period if no interval, wherever it lies, sees more than the burst
and one for each period in it.

A service keeps a limiter for each key, and makes it when the key is first seen.  What such a table
lets through under a key is what one limiter lets through, if every request under the key would make
the same.

## Main definitions

* `passed`, `inInterval`, `Enforces` — the checks let through, intervals, and quotas.
* `Gcra` — the generic cell rate algorithm.
* `KeepsTo` — a rate that is kept to.
* `Table`, `Table.serve`, `Table.admitted` — limiters made as they are needed.

## Main results

* `Gcra.enforces` — **the algorithm enforces its quota.**
* `IsGcra.keepsTo_iff` — **when a quota keeps to a rate.**
* `Table.countP_admitted_le` — **no interval sees more requests under a key than its quota says.**
-/

namespace Throttle

variable {L : Type*}

/-! ### One limiter -/

/-- The moments at which a limiter lets a check through. -/
def passed (check : L → ℕ → L × Bool) : L → List ℕ → List ℕ
  | _, [] => []
  | l, now :: later =>
    if (check l now).2 then now :: passed check (check l now).1 later
    else passed check (check l now).1 later

/-- The moment lies in an interval; both of its ends belong to it. -/
def inInterval (start length now : ℕ) : Bool := decide (start ≤ now ∧ now ≤ start + length)

/-- **A limiter enforces a quota** on checks that are made one after the other. -/
def Enforces (check : L → ℕ → L × Bool) (l : L) (burst period : ℕ) : Prop :=
  ∀ moments : List ℕ, moments.Pairwise (· ≤ ·) → ∀ start length,
    (passed check l moments).countP (inInterval start length) ≤ burst + length / period

/-! ### The generic cell rate algorithm -/

/-- A limiter that keeps the theoretical arrival time of the next cell. -/
structure Gcra where
  period : ℕ
  burst : ℕ
  arrival : ℕ
  deriving DecidableEq, Repr

namespace Gcra

/-- A limiter that nothing has been let through. -/
def new (burst period : ℕ) : Gcra := ⟨period, burst, 0⟩

/-- A cell may come earlier than in theory, by the burst less itself. -/
def check (g : Gcra) (now : ℕ) : Gcra × Bool :=
  if g.arrival + g.period ≤ now + g.period * g.burst then
    ({ g with arrival := max g.arrival now + g.period }, true)
  else (g, false)

/-- The checks of an interval, `j` of which have been let through: the arrival time has moved on
by as many periods. -/
theorem countP_passed_le {period burst : ℕ} (hperiod : 0 < period) (hburst : 0 < burst)
    (start length : ℕ) (moments : List ℕ) (arrival j : ℕ)
    (hj : j = 0 ∨ start + j * period ≤ arrival) (hle : j ≤ burst + length / period) :
    j + (passed check ⟨period, burst, arrival⟩ moments).countP (inInterval start length)
      ≤ burst + length / period := by
  induction moments generalizing arrival j with
  | nil => exact hle
  | cons now later ih =>
    by_cases hpass : arrival + period ≤ now + period * burst
    · have hcheck : check ⟨period, burst, arrival⟩ now
          = (⟨period, burst, max arrival now + period⟩, true) := if_pos hpass
      rw [passed, hcheck, if_pos rfl]
      by_cases hnow : inInterval start length now = true
      · rw [List.countP_cons_of_pos hnow, Nat.add_comm _ 1, ← Nat.add_assoc]
        rw [inInterval, decide_eq_true_eq] at hnow
        refine ih _ (j + 1) (.inr ?_) ?_
        · rw [Nat.add_mul, Nat.one_mul]
          rcases hj with rfl | hj <;> omega
        · rcases hj with rfl | hj
          · exact Nat.le_add_right_of_le hburst
          · -- the cell came at most a burst early, so the interval has room for the others
            have hroom : (j + 1 - burst) * period ≤ length := by
              rw [Nat.sub_mul, Nat.add_mul, Nat.one_mul, Nat.mul_comm burst]
              omega
            have hdiv := (Nat.le_div_iff_mul_le hperiod).mpr hroom
            omega
      · rw [List.countP_cons_of_neg hnow]
        refine ih _ j ?_ hle
        rcases hj with rfl | hj
        · exact .inl rfl
        · exact .inr (by omega)
    · have hcheck : check ⟨period, burst, arrival⟩ now = (⟨period, burst, arrival⟩, false) :=
        if_neg hpass
      rw [passed, hcheck, if_neg Bool.false_ne_true]
      exact ih _ j hj hle

/-- **The algorithm enforces its quota**, from a state in which the whole burst is there. -/
theorem enforces {burst period : ℕ} (hperiod : 0 < period) (hburst : 0 < burst) :
    Enforces check (new burst period) burst period := by
  intro moments _ start length
  have hle := countP_passed_le hperiod hburst start length moments 0 0 (.inl rfl) (Nat.zero_le _)
  rwa [Nat.zero_add] at hle

/-- The moments of `n` checks that are made as early as they are let through, but for the first
`i`. -/
def earliest (burst period i n : ℕ) : List ℕ :=
  (List.range' i n).map fun j => (j + 1 - burst) * period

@[simp] theorem length_earliest (burst period i n : ℕ) :
    (earliest burst period i n).length = n := by
  rw [earliest, List.length_map, List.length_range']

theorem pairwise_earliest (burst period i n : ℕ) :
    (earliest burst period i n).Pairwise (· ≤ ·) := by
  rw [earliest, List.pairwise_map]
  refine List.Pairwise.imp ?_ (List.pairwise_lt_range' 1)
  intro j k hjk
  exact Nat.mul_le_mul_right _ (by omega)

/-- Checks that are made as early as that are all let through. -/
theorem passed_earliest {burst : ℕ} (hburst : 0 < burst) (period i n : ℕ) :
    passed check ⟨period, burst, i * period⟩ (earliest burst period i n)
      = earliest burst period i n := by
  induction n generalizing i with
  | zero => rfl
  | succ n ih =>
    have hcons : earliest burst period i (n + 1)
        = (i + 1 - burst) * period :: earliest burst period (i + 1) n := by
      rw [earliest, List.range'_succ, List.map_cons]
      rfl
    have hmul : (i + 1) * period ≤ (i + 1 - burst + burst) * period :=
      Nat.mul_le_mul_right _ (by omega)
    have hle : (i + 1 - burst) * period ≤ i * period := Nat.mul_le_mul_right _ (by omega)
    rw [Nat.add_mul, Nat.one_mul, Nat.add_mul, Nat.mul_comm burst] at hmul
    have hcheck : check ⟨period, burst, i * period⟩ ((i + 1 - burst) * period)
        = (⟨period, burst, (i + 1) * period⟩, true) := by
      rw [check, if_pos hmul, Nat.max_eq_left hle, Nat.add_mul, Nat.one_mul]
    rw [hcons, passed, hcheck, if_pos rfl, ih (i + 1)]

/-- **A quota can be used up**: some checks that are made one after the other are let through as
often as it says. -/
theorem exists_countP_eq {burst : ℕ} (hburst : 0 < burst) (period length : ℕ) :
    ∃ moments : List ℕ, moments.Pairwise (· ≤ ·) ∧
      (passed check (new burst period) moments).countP (inInterval 0 length)
        = burst + length / period := by
  refine ⟨earliest burst period 0 (burst + length / period), pairwise_earliest _ _ _ _, ?_⟩
  have hpassed := passed_earliest hburst period 0 (burst + length / period)
  rw [Nat.zero_mul] at hpassed
  rw [new, hpassed, List.countP_eq_length.mpr, length_earliest]
  intro now hnow
  obtain ⟨j, hj, rfl⟩ := List.mem_map.mp hnow
  rw [List.mem_range'_1] at hj
  have hdiv := Nat.div_mul_le_self length period
  generalize length / period = cells at hj hdiv
  have hle : (j + 1 - burst) * period ≤ cells * period := Nat.mul_le_mul_right _ (by omega)
  rw [inInterval, decide_eq_true_eq]
  omega

end Gcra

/-! ### Quotas and rates -/

/-- **A limiter keeps to a rate**: no interval sees more than the burst and what the rate makes of
its length, rounded up. -/
def KeepsTo (check : L → ℕ → L × Bool) (l : L) (burst requests period : ℕ) : Prop :=
  ∀ moments : List ℕ, moments.Pairwise (· ≤ ·) → ∀ start length,
    (passed check l moments).countP (inInterval start length)
      ≤ burst + (requests * length) ⌈/⌉ period

/-- A limiter lets through what the algorithm does. -/
def IsGcra (check : L → ℕ → L × Bool) (l : L) (burst period : ℕ) : Prop :=
  ∀ moments : List ℕ, moments.Pairwise (· ≤ ·) →
    passed check l moments = passed Gcra.check (Gcra.new burst period) moments

/-- No interval holds more cells than the rate allows exactly if the cells do not come faster. -/
theorem forall_div_le_ceilDiv_iff {cell requests period : ℕ} (hperiod : 0 < period)
    (hcell : 0 < cell) :
    (∀ length, length / cell ≤ (requests * length) ⌈/⌉ period) ↔ period ≤ requests * cell := by
  constructor
  · intro h
    by_contra hlt
    -- the surplus of one cell adds up to a whole period after that many
    have hcount := h (period * cell)
    rw [Nat.mul_div_cancel _ hcell, Nat.ceilDiv_eq_add_pred_div,
      Nat.le_div_iff_mul_le hperiod] at hcount
    have hle : requests * (period * cell) ≤ (period - 1) * period := by
      calc requests * (period * cell) = requests * cell * period := by ring
        _ ≤ (period - 1) * period := Nat.mul_le_mul_right _ (by omega)
    have hsquare : (period - 1) * period = period * period - period := by
      rw [Nat.sub_mul, Nat.one_mul]
    have hperiods : period ≤ period * period := Nat.le_mul_self period
    omega
  · intro hle length
    rw [Nat.ceilDiv_eq_add_pred_div, Nat.le_div_iff_mul_le hperiod]
    have hcells := Nat.div_mul_le_self length cell
    calc length / cell * period ≤ length / cell * (requests * cell) := Nat.mul_le_mul_left _ hle
      _ = requests * (length / cell * cell) := by ring
      _ ≤ requests * length := Nat.mul_le_mul_left _ hcells
      _ ≤ requests * length + period - 1 := by omega

/-- **A quota keeps to a rate** exactly if there is a burst, and the cells do not come faster than
the rate. -/
theorem IsGcra.keepsTo_iff {check : L → ℕ → L × Bool} {l : L}
    {burst cell period : ℕ} (hl : IsGcra check l (max burst 1) cell) (hcell : 0 < cell)
    (requests : ℕ) (hperiod : 0 < period) :
    KeepsTo check l burst requests period ↔ 0 < burst ∧ period ≤ requests * cell := by
  have hpos : 0 < max burst 1 := Nat.lt_of_lt_of_le Nat.zero_lt_one (Nat.le_max_right _ _)
  rw [← forall_div_le_ceilDiv_iff hperiod hcell]
  constructor
  · intro h
    have hfull : ∀ length,
        max burst 1 + length / cell ≤ burst + (requests * length) ⌈/⌉ period := by
      intro length
      obtain ⟨moments, hsorted, hcount⟩ := Gcra.exists_countP_eq hpos cell length
      rw [← hcount, ← hl moments hsorted]
      exact h moments hsorted 0 length
    have hburst : 0 < burst := by
      have hzero := hfull 0
      rw [Nat.zero_div, Nat.mul_zero, zero_ceilDiv] at hzero
      omega
    refine ⟨hburst, fun length => ?_⟩
    have hlength := hfull length
    omega
  · rintro ⟨hburst, hle⟩ moments hsorted start length
    have hcount := Gcra.enforces hcell hpos moments hsorted start length
    rw [← hl moments hsorted] at hcount
    have hlength := hle length
    omega

/-! ### A limiter for each key -/

variable {R K : Type*}

/-- How requests are throttled: by their key, with the limiter that a request makes if its key is
new.  Making it may fail. -/
structure Table (R K L : Type*) where
  key : R → K
  make : R → Option L
  check : L → ℕ → L × Bool

namespace Table

variable [DecidableEq K] (T : Table R K L)

/-- A request at a moment, and whether it is let through; it is neither if its limiter cannot be
made. -/
def serve (limiters : K → Option L) (r : R) (now : ℕ) : (K → Option L) × Option Bool :=
  match (limiters (T.key r)).or (T.make r) with
  | none => (limiters, none)
  | some l =>
    (Function.update limiters (T.key r) (some (T.check l now).1), some (T.check l now).2)

/-- The requests that are let through, of some that come one after the other. -/
def admitted : (K → Option L) → List (R × ℕ) → List (R × ℕ)
  | _, [] => []
  | limiters, a :: later =>
    if (T.serve limiters a.1 a.2).2 = some true then
      a :: admitted (T.serve limiters a.1 a.2).1 later
    else admitted (T.serve limiters a.1 a.2).1 later

variable {T} {limiters : K → Option L} {k : K}

/-- A request leaves the limiters of other keys as they are. -/
theorem serve_of_ne {r : R} (h : T.key r ≠ k) (now : ℕ) :
    (T.serve limiters r now).1 k = limiters k := by
  rw [serve]
  split
  · rfl
  · exact Function.update_of_ne (Ne.symm h) _ _

/-- A request is checked by the limiter of its key, and leaves it as the check does. -/
theorem serve_of_some {r : R} {l : L} (h : (limiters (T.key r)).or (T.make r) = some l) (now : ℕ) :
    T.serve limiters r now
      = (Function.update limiters (T.key r) (some (T.check l now).1), some (T.check l now).2) := by
  rw [serve, h]

/-- Only requests that come are let through. -/
theorem mem_of_mem_admitted {requests : List (R × ℕ)} {a : R × ℕ}
    (h : a ∈ T.admitted limiters requests) : a ∈ requests := by
  induction requests generalizing limiters with
  | nil => cases h
  | cons b later ih =>
    rw [admitted] at h
    split_ifs at h
    · rcases List.mem_cons.mp h with rfl | h
      · exact List.mem_cons_self
      · exact List.mem_cons_of_mem _ (ih h)
    · exact List.mem_cons_of_mem _ (ih h)

/-- **Under a key a table lets through what one limiter does**, if every request would make it. -/
theorem passed_of_key {l : L} {requests : List (R × ℕ)}
    (h : ∀ a ∈ requests, T.key a.1 = k → (limiters k).or (T.make a.1) = some l) :
    ((T.admitted limiters requests).filter fun a => T.key a.1 = k).map Prod.snd
      = passed T.check l ((requests.filter fun a => T.key a.1 = k).map Prod.snd) := by
  induction requests generalizing limiters l with
  | nil => rfl
  | cons a later ih =>
    rw [admitted]
    by_cases hkey : T.key a.1 = k
    · have hlimiter : (limiters (T.key a.1)).or (T.make a.1) = some l := by
        rw [hkey]
        exact h a List.mem_cons_self hkey
      have hserve := serve_of_some hlimiter a.2
      have hrest : ∀ b ∈ later, T.key b.1 = k →
          (((T.serve limiters a.1 a.2).1) k).or (T.make b.1) = some (T.check l a.2).1 := by
        intro b _ _
        simp only [hserve, ← hkey, Function.update_self, Option.some_or]
      rw [List.filter_cons_of_pos (by simpa using hkey), List.map_cons, passed]
      simp only [hserve, Option.some.injEq]
      rw [hserve] at hrest
      split_ifs with hpass
      · rw [List.filter_cons_of_pos (by simpa using hkey), List.map_cons, ih hrest]
      · exact ih hrest
    · have hrest : ∀ b ∈ later, T.key b.1 = k →
          (((T.serve limiters a.1 a.2).1) k).or (T.make b.1) = some l := by
        intro b hb hbkey
        rw [serve_of_ne hkey]
        exact h b (List.mem_cons_of_mem _ hb) hbkey
      rw [List.filter_cons_of_neg (by simpa using hkey)]
      split_ifs
      · rw [List.filter_cons_of_neg (by simpa using hkey)]
        exact ih hrest
      · exact ih hrest

/-- Where a key's limiter cannot be made, nothing is let through under it. -/
theorem key_ne_of_mem_admitted {requests : List (R × ℕ)}
    (h : ∀ a ∈ requests, T.key a.1 = k → T.make a.1 = none) (hnew : limiters k = none)
    {a : R × ℕ} (ha : a ∈ T.admitted limiters requests) : T.key a.1 ≠ k := by
  induction requests generalizing limiters with
  | nil => cases ha
  | cons b later ih =>
    have hlater : ∀ a ∈ later, T.key a.1 = k → T.make a.1 = none :=
      fun a ha => h a (List.mem_cons_of_mem _ ha)
    rw [admitted] at ha
    by_cases hkey : T.key b.1 = k
    · have hserve : T.serve limiters b.1 b.2 = (limiters, none) := by
        rw [serve, hkey, hnew, h b List.mem_cons_self hkey]
        rfl
      rw [hserve, if_neg (by simp)] at ha
      exact ih hlater hnew ha
    · have hnew' : (T.serve limiters b.1 b.2).1 k = none := by rw [serve_of_ne hkey, hnew]
      split_ifs at ha
      · rcases List.mem_cons.mp ha with rfl | ha
        · exact hkey
        · exact ih hlater hnew' ha
      · exact ih hlater hnew' ha

/-- **No interval sees more requests under a key than its quota says**, if every request under it
would make the same limiter, or none. -/
theorem countP_admitted_le {made : Option L} {burst period : ℕ} {requests : List (R × ℕ)}
    (hmade : ∀ a ∈ requests, T.key a.1 = k → T.make a.1 = made) (hnew : limiters k = none)
    (henforces : ∀ l ∈ made, Enforces T.check l burst period)
    (hsorted : (requests.map Prod.snd).Pairwise (· ≤ ·)) (start length : ℕ) :
    (T.admitted limiters requests).countP
        (fun a => decide (T.key a.1 = k) && inInterval start length a.2)
      ≤ burst + length / period := by
  cases hl : made with
  | none =>
    have hzero : (T.admitted limiters requests).countP
        (fun a => decide (T.key a.1 = k) && inInterval start length a.2) = 0 := by
      rw [List.countP_eq_zero]
      intro a ha htrue
      rw [Bool.and_eq_true, decide_eq_true_eq] at htrue
      refine key_ne_of_mem_admitted ?_ hnew ha htrue.1
      rw [hl] at hmade
      exact hmade
    rw [hzero]
    exact Nat.zero_le _
  | some l =>
    have hlimiter : ∀ a ∈ requests, T.key a.1 = k → (limiters k).or (T.make a.1) = some l := by
      intro a ha hkey
      rw [hnew, hmade a ha hkey, hl]
      rfl
    have hpassed := passed_of_key hlimiter
    have hsublist : ((requests.filter fun a => T.key a.1 = k).map Prod.snd).Pairwise (· ≤ ·) :=
      hsorted.sublist (List.filter_sublist.map Prod.snd)
    have hle := henforces l (by rw [hl]; rfl) _ hsublist start length
    rw [← hpassed, List.countP_map, List.countP_filter] at hle
    simpa only [Function.comp_apply, Bool.and_comm] using hle

end Table

end Throttle
