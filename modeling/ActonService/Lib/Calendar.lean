import Mathlib.Data.Int.Order.Basic
import Mathlib.Tactic.Linarith

/-!
# The Gregorian calendar

Dates of the proleptic Gregorian calendar, over all years, and the days they are: a date
counts as the number of days since the first day of the year 1.  Numbering is a bijection that
keeps the order, year before month before day.

## Main definitions

* `Date`, `Date.Valid` — a year, a month and a day, and when they are a date.
* `Date.toDay` — the number of a date.
* `dateOf` — the date of a day.

## Main results

* `toDay_lt_toDay_iff` — days and dates sort alike.
* `valid_dateOf`, `toDay_dateOf` — the date of a day is valid and has that day's number.
-/

namespace Calendar

/-! ### Years -/

/-- A leap year of the Gregorian calendar. -/
def isLeap (y : ℤ) : Bool := y % 4 = 0 && (y % 100 ≠ 0 || y % 400 = 0)

/-- The number of the first day of a year. -/
def yearStart (y : ℤ) : ℤ := 365 * (y - 1) + (y - 1) / 4 - (y - 1) / 100 + (y - 1) / 400

/-- The number of days of a year. -/
def yearLength (leap : Bool) : ℕ := if leap then 366 else 365

theorem yearStart_succ (y : ℤ) : yearStart (y + 1) = yearStart y + yearLength (isLeap y) := by
  unfold yearStart yearLength
  cases h : isLeap y with
  | true =>
    simp only [isLeap, Bool.and_eq_true, Bool.or_eq_true, decide_eq_true_eq, ne_eq] at h
    simp only [if_true]
    omega
  | false =>
    simp only [isLeap, Bool.and_eq_false_iff, Bool.or_eq_false_iff, decide_eq_false_iff_not, ne_eq,
      not_not] at h
    simp only [Bool.false_eq_true, if_false]
    omega

/-- A year ends before any later one begins. -/
theorem yearStart_add_yearLength_le {y z : ℤ} (h : y < z) :
    yearStart y + yearLength (isLeap y) ≤ yearStart z := by
  rw [← yearStart_succ]
  unfold yearStart
  omega

/-- The year of a day.  The mean year is 146097 days in 400 years, which is right or one year
too early. -/
def yearOf (n : ℤ) : ℤ :=
  let y := 400 * n / 146097 + 1
  if yearStart (y + 1) ≤ n then y + 1 else y

theorem yearOf_spec (n : ℤ) : yearStart (yearOf n) ≤ n ∧ n < yearStart (yearOf n + 1) := by
  have hmean : ∀ y, 146097 * (y - 1) - 800 < 400 * yearStart y ∧
      400 * yearStart y < 146097 * (y - 1) + 400 := by
    intro y
    unfold yearStart
    omega
  unfold yearOf
  dsimp only
  -- the starts of the year guessed, of the next one and of the one after it
  have h₁ := hmean (400 * n / 146097 + 1)
  have h₂ := hmean (400 * n / 146097 + 1 + 1)
  have h₃ := hmean (400 * n / 146097 + 1 + 1 + 1)
  split <;> omega

/-! ### Months -/

/-- The number of days of a month. -/
def monthLength (leap : Bool) : ℕ → ℕ
  | 2 => if leap then 29 else 28
  | 4 | 6 | 9 | 11 => 30
  | _ => 31

/-- The number of days of a year before a month. -/
def monthStart (leap : Bool) : ℕ → ℕ
  | 0 | 1 => 0
  | m + 2 => monthStart leap (m + 1) + monthLength leap (m + 1)

theorem monthStart_succ (leap : Bool) {m : ℕ} (h : 1 ≤ m) :
    monthStart leap (m + 1) = monthStart leap m + monthLength leap m := by
  cases m with
  | zero => omega
  | succ m => rfl

theorem monthStart_thirteen (leap : Bool) : monthStart leap 13 = yearLength leap := by
  cases leap <;> rfl

/-- A month ends before any later one begins. -/
theorem monthStart_add_monthLength_le (leap : Bool) {m k : ℕ} (hm : 1 ≤ m) (h : m < k) :
    monthStart leap m + monthLength leap m ≤ monthStart leap k := by
  induction k with
  | zero => omega
  | succ k ih =>
    by_cases hk : m = k
    · rw [hk, monthStart_succ leap (hk ▸ hm)]
    · rw [monthStart_succ leap (by omega : 1 ≤ k)]
      have := ih (by omega)
      omega

/-- The month and the day of the month, from a month on, that a number of days lead to. -/
def monthOf (leap : Bool) : ℕ → ℕ → ℕ → ℕ × ℕ
  | 0, m, d => (m, d)
  | k + 1, m, d =>
    if d < monthLength leap m then (m, d) else monthOf leap k (m + 1) (d - monthLength leap m)

theorem monthOf_spec (leap : Bool) {k m d : ℕ} (hm : 1 ≤ m)
    (hd : monthStart leap m + d < monthStart leap (m + k + 1)) :
    let r := monthOf leap k m d
    m ≤ r.1 ∧ r.1 ≤ m + k ∧ r.2 < monthLength leap r.1 ∧
      monthStart leap r.1 + r.2 = monthStart leap m + d := by
  induction k generalizing m d with
  | zero =>
    rw [Nat.add_zero, monthStart_succ leap hm] at hd
    exact ⟨le_rfl, le_rfl, by simpa [monthOf] using hd, rfl⟩
  | succ k ih =>
    unfold monthOf
    dsimp only
    by_cases hlt : d < monthLength leap m
    · rw [if_pos hlt]
      exact ⟨le_rfl, by simp, hlt, rfl⟩
    · rw [if_neg hlt]
      have hstart := monthStart_succ leap hm
      have hnext : monthStart leap (m + 1) + (d - monthLength leap m)
          < monthStart leap (m + 1 + k + 1) := by
        have hindex : m + 1 + k + 1 = m + (k + 1) + 1 := by omega
        rw [hindex]
        omega
      obtain ⟨hge, hle, hday, hsum⟩ := ih (by omega) hnext
      exact ⟨by omega, by omega, hday, by omega⟩

/-! ### Dates -/

/-- A year, a month and a day of the month. -/
@[ext]
structure Date where
  year : ℤ
  month : ℕ
  day : ℕ
  deriving DecidableEq, Repr

namespace Date

/-- A day that the calendar has. -/
structure Valid (d : Date) : Prop where
  month_pos : 1 ≤ d.month
  month_le : d.month ≤ 12
  day_pos : 1 ≤ d.day
  day_le : d.day ≤ monthLength (isLeap d.year) d.month

theorem Valid.day_lt {d : Date} (h : d.Valid) : d.day < 32 := by
  have hlength : ∀ (leap : Bool) (m : ℕ), monthLength leap m ≤ 31 := by
    intro leap m
    unfold monthLength
    split <;> cases leap <;> decide
  have := hlength (isLeap d.year) d.month
  have := h.day_le
  omega

/-- The number of the day of a date, counted over all years. -/
def toDay (d : Date) : ℤ :=
  yearStart d.year + monthStart (isLeap d.year) d.month + d.day - 1

/-- Dates sort by year, then by month, then by day. -/
instance : LT Date :=
  ⟨fun d e => d.year < e.year ∨ d.year = e.year ∧
    (d.month < e.month ∨ d.month = e.month ∧ d.day < e.day)⟩

theorem lt_iff {d e : Date} : d < e ↔ d.year < e.year ∨ d.year = e.year ∧
    (d.month < e.month ∨ d.month = e.month ∧ d.day < e.day) := Iff.rfl

/-- A date lies in its year. -/
theorem Valid.toDay_bounds {d : Date} (h : d.Valid) :
    yearStart d.year ≤ d.toDay ∧ d.toDay < yearStart d.year + yearLength (isLeap d.year) := by
  have hend := monthStart_add_monthLength_le (isLeap d.year) h.month_pos
    (Nat.lt_succ_of_le h.month_le)
  rw [monthStart_thirteen] at hend
  have := h.day_pos
  have := h.day_le
  unfold toDay
  omega

/-- A date sorts before another one only if its number does. -/
theorem Valid.toDay_lt {d e : Date} (hd : d.Valid) (he : e.Valid) (h : d < e) :
    d.toDay < e.toDay := by
  rcases h with hyear | ⟨hyear, hmonth | ⟨hmonth, hday⟩⟩
  · have := yearStart_add_yearLength_le hyear
    have := hd.toDay_bounds
    have := he.toDay_bounds
    omega
  · have := monthStart_add_monthLength_le (isLeap d.year) hd.month_pos hmonth
    have := hd.day_le
    have := he.day_pos
    unfold toDay
    rw [← hyear]
    omega
  · unfold toDay
    rw [← hyear, ← hmonth]
    omega

/-- **Dates sort by their days**: an earlier date has the smaller number, and the other way round.
-/
theorem Valid.toDay_lt_toDay_iff {d e : Date} (hd : d.Valid) (he : e.Valid) :
    d.toDay < e.toDay ↔ d < e := by
  refine ⟨fun h => ?_, hd.toDay_lt he⟩
  by_contra hnot
  have hcases : e < d ∨ e = d := by
    rw [lt_iff] at hnot ⊢
    rw [Date.ext_iff]
    omega
  rcases hcases with hlt | rfl
  · have := he.toDay_lt hd hlt
    omega
  · omega

/-- A day is the number of one date. -/
theorem Valid.toDay_inj {d e : Date} (hd : d.Valid) (he : e.Valid) :
    d.toDay = e.toDay ↔ d = e := by
  refine ⟨fun h => ?_, congrArg toDay⟩
  have hde := mt (hd.toDay_lt_toDay_iff he).mpr (by omega)
  have hed := mt (he.toDay_lt_toDay_iff hd).mpr (by omega)
  rw [lt_iff] at hde hed
  rw [Date.ext_iff]
  omega

end Date

/-- The date of a day. -/
def dateOf (n : ℤ) : Date :=
  let y := yearOf n
  let r := monthOf (isLeap y) 11 1 (n - yearStart y).toNat
  ⟨y, r.1, r.2 + 1⟩

theorem valid_dateOf_and_toDay_dateOf (n : ℤ) : (dateOf n).Valid ∧ (dateOf n).toDay = n := by
  obtain ⟨hge, hlt⟩ := yearOf_spec n
  rw [yearStart_succ] at hlt
  have hinside : monthStart (isLeap (yearOf n)) 1 + (n - yearStart (yearOf n)).toNat
      < monthStart (isLeap (yearOf n)) (1 + 11 + 1) := by
    rw [monthStart_thirteen, monthStart]
    omega
  obtain ⟨hpos, hle, hday, hsum⟩ := monthOf_spec (isLeap (yearOf n)) (by decide) hinside
  refine ⟨⟨hpos, hle, Nat.succ_pos _, hday⟩, ?_⟩
  have hzero : monthStart (isLeap (yearOf n)) 1 = 0 := rfl
  rw [hzero, Nat.zero_add] at hsum
  unfold Date.toDay dateOf
  dsimp only
  omega

/-- The date of a day is one of the calendar. -/
theorem valid_dateOf (n : ℤ) : (dateOf n).Valid := (valid_dateOf_and_toDay_dateOf n).1

/-- The date of a day has its number. -/
@[simp] theorem toDay_dateOf (n : ℤ) : (dateOf n).toDay = n := (valid_dateOf_and_toDay_dateOf n).2

/-- **Days and their dates sort alike.** -/
theorem dateOf_lt_dateOf_iff (m n : ℤ) : dateOf m < dateOf n ↔ m < n := by
  rw [← (valid_dateOf m).toDay_lt_toDay_iff (valid_dateOf n), toDay_dateOf, toDay_dateOf]

theorem dateOf_inj {m n : ℤ} : dateOf m = dateOf n ↔ m = n := by
  rw [← (valid_dateOf m).toDay_inj (valid_dateOf n), toDay_dateOf, toDay_dateOf]

/-- The years up to a given one are those of the days before the next. -/
theorem year_dateOf_le_iff (n y : ℤ) : (dateOf n).year ≤ y ↔ n < yearStart (y + 1) := by
  obtain ⟨hge, hlt⟩ := yearOf_spec n
  show yearOf n ≤ y ↔ n < yearStart (y + 1)
  constructor
  · intro h
    have : yearStart (yearOf n + 1) ≤ yearStart (y + 1) := by
      unfold yearStart
      omega
    omega
  · intro h
    by_contra hnot
    have : yearStart (y + 1) ≤ yearStart (yearOf n) := by
      unfold yearStart
      omega
    omega

/-- The day of the Unix epoch. -/
def epochDay : ℤ := 719162

example : dateOf epochDay = ⟨1970, 1, 1⟩ := by decide

end Calendar
