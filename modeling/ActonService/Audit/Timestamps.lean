import ActonService.Audit.Purge
import ActonService.Lib.Calendar
import ActonService.Lib.Decimal

/-!
# Timestamps as texts

Turso and SurrealDB keep the time of an event as the text `to_rfc3339` writes and compare
texts.  The text has the fraction of the second in as many of 0, 3, 6 and 9 digits as it
takes, and `+00:00` behind it, so a longer text may be compared with a shorter one at a `.`
or a digit against the `+`.  Both come after the `+`, and that makes texts of years with four
digits sort by time.  A year beyond them gets a sign, which sorts before every digit.

## Main definitions

* `DateTime.rfc3339` — `to_rfc3339`, with its automatic number of digits.
* `DateTime.Utc` — a timestamp of UTC in the years 0 to 9999.

## Main results

* `rfc3339_lt_iff`, `strBytes_rfc3339_lt_iff` — texts sort by time.
* `textsSortByTime` — what the purges rely on.
* `text_order_chronological` — `query_range`, `query_before` and `purge_before` select and
  delete by time.
-/

namespace ActonService

open Decimal Calendar

/-! ### The text of a time -/

namespace DateTime

/-- The UTC day of a time, as a day of the calendar. -/
def dayNumber (t : DateTime) : ℤ := t.secs / 86400 + epochDay

/-- The UTC date of a time. -/
def date (t : DateTime) : Date := dateOf t.dayNumber

/-- The second of the day. -/
def secondOfDay (t : DateTime) : ℕ := (t.secs % 86400).toNat

end DateTime

/-- The year: four digits, or a sign and at least four. -/
def yearText (y : ℤ) : List Char :=
  if 0 ≤ y ∧ y ≤ 9999 then zeroPadded 2 (y / 100).toNat ++ zeroPadded 2 (y % 100).toNat
  else (if y < 0 then '-' else '+') :: zeroPadded 4 y.natAbs

/-- The date as `chrono` writes it, and the text behind it. -/
def dateText (d : Date) (rest : List Char) : List Char :=
  yearText d.year ++ '-' :: (zeroPadded 2 d.month ++ '-' :: (zeroPadded 2 d.day ++ rest))

/-- The time of day, and the text behind it. -/
def clockText (hour minute second : ℕ) (rest : List Char) : List Char :=
  zeroPadded 2 hour ++ ':' :: (zeroPadded 2 minute ++ ':' :: (zeroPadded 2 second ++ rest))

/-- The fraction of the second by `SecondsFormat::AutoSi`: none, or three, six or nine digits. -/
def fractionText (nanos : ℕ) : List Char :=
  if nanos = 0 then []
  else if nanos % 1000000 = 0 then '.' :: zeroPadded 3 (nanos / 1000000)
  else if nanos % 1000 = 0 then '.' :: zeroPadded 6 (nanos / 1000)
  else '.' :: zeroPadded 9 nanos

/-- The offset of UTC. -/
def utcOffset : List Char := ['+', '0', '0', ':', '0', '0']

namespace DateTime

/-- The second of the minute as it is written: a leap second is one more. -/
def shownSecond (t : DateTime) : ℕ :=
  t.secondOfDay % 60 + if 1000000000 ≤ t.nanos then 1 else 0

/-- The nanoseconds as they are written. -/
def shownNanos (t : DateTime) : ℕ :=
  if 1000000000 ≤ t.nanos then t.nanos - 1000000000 else t.nanos

theorem secondOfDay_div_lt (t : DateTime) : t.secondOfDay / 3600 < 24 := by
  unfold secondOfDay
  omega

theorem shownSecond_lt (t : DateTime) : t.shownSecond < 61 := by
  unfold shownSecond
  split <;> omega

theorem shownNanos_lt (t : DateTime) : t.shownNanos < 1000000000 := by
  have := t.nanos_lt
  unfold shownNanos
  split <;> omega

/-- `DateTime::<Utc>::to_rfc3339` -/
def rfc3339 (t : DateTime) : String :=
  String.ofList (dateText t.date ('T' :: clockText (t.secondOfDay / 3600) (t.secondOfDay / 60 % 60)
    t.shownSecond (fractionText t.shownNanos ++ utcOffset)))

/-- A timestamp of UTC in the years 0 to 9999.  `chrono` takes a leap second at the end of a
minute only. -/
structure Utc (t : DateTime) : Prop where
  year : t.FourDigitYear
  leap : 1000000000 ≤ t.nanos → t.secs % 60 = 59

end DateTime

example : sampleMoments.all (fun p => p.1.rfc3339 = p.2) = true := by decide +kernel

/-! ### Dates -/

theorem yearText_of_fourDigit {y : ℤ} (h : 0 ≤ y ∧ y ≤ 9999) : yearText y = digits 4 y.toNat := by
  have hdiv : (y / 100).toNat = y.toNat / 10 ^ 2 := by omega
  have hmod : (y % 100).toNat = y.toNat % 10 ^ 2 := by omega
  rw [yearText, if_pos h, zeroPadded_eq_digits (by omega), zeroPadded_eq_digits (by omega), hdiv,
    hmod, digits_mod, ← digits_add]

/-- Texts that begin with dates compare by the dates first. -/
theorem dateText_lt_iff {d e : Date} (hd : d.Valid) (he : e.Valid)
    (hdy : 0 ≤ d.year ∧ d.year ≤ 9999) (hey : 0 ≤ e.year ∧ e.year ≤ 9999) (r s : List Char) :
    dateText d r < dateText e s ↔ d < e ∨ d = e ∧ r < s := by
  have hdday := hd.day_lt
  have heday := he.day_lt
  have hdmonth := hd.month_le
  have hemonth := he.month_le
  rw [dateText, dateText, yearText_of_fourDigit hdy, yearText_of_fourDigit hey,
    digits_append_lt_iff (by omega) (by omega), List.cons_lt_cons_iff,
    zeroPadded_append_lt_iff (by omega) (by omega), List.cons_lt_cons_iff,
    zeroPadded_append_lt_iff (by omega) (by omega), Date.lt_iff, Date.ext_iff]
  have hirrefl : ¬ '-' < '-' := by decide
  simp only [hirrefl, false_or, true_and]
  by_cases hrs : r < s
  · simp only [hrs, and_true]
    omega
  · simp only [hrs, and_false, or_false]
    omega

/-- Texts that begin with times of day compare by these first. -/
theorem clockText_lt_iff {h m s h' m' s' : ℕ} (hh : h < 24) (hm : m < 60) (hs : s < 61)
    (hh' : h' < 24) (hm' : m' < 60) (hs' : s' < 61) (r r' : List Char) :
    clockText h m s r < clockText h' m' s' r' ↔
      h < h' ∨ h = h' ∧ (m < m' ∨ m = m' ∧ (s < s' ∨ s = s' ∧ r < r')) := by
  have hirrefl : ¬ ':' < ':' := by decide
  rw [clockText, clockText, zeroPadded_append_lt_iff (by omega) (by omega), List.cons_lt_cons_iff,
    zeroPadded_append_lt_iff (by omega) (by omega), List.cons_lt_cons_iff,
    zeroPadded_append_lt_iff (by omega) (by omega)]
  simp only [hirrefl, false_or, true_and]

/-! ### Fractions -/

theorem beforeDigits_plus : BeforeDigits '+' := by decide

/-- The digits are three groups of three, the last groups of zeros cut off. -/
theorem fractionText_append {n : ℕ} (hn : n < 1000000000) (stop : List Char) :
    fractionText n ++ stop = if n = 0 then stop else '.' :: fraction 3 stop 3 n := by
  unfold fractionText
  by_cases hzero : n = 0
  · rw [if_pos hzero, if_pos hzero, List.nil_append]
  · rw [if_neg hzero, if_neg hzero, fraction_succ, if_neg hzero]
    by_cases hmillis : n % 1000000 = 0
    · -- whole milliseconds: the other two groups are zero
      have hrest : n % 10 ^ (3 * 2) = 0 := hmillis
      rw [if_pos hmillis, zeroPadded_eq_digits (by omega), hrest, fraction_of_zero]
      rfl
    · have hrest : n % 10 ^ (3 * 2) ≠ 0 := hmillis
      rw [if_neg hmillis, fraction_succ, if_neg hrest]
      by_cases hmicros : n % 1000 = 0
      · -- whole microseconds: the last group is zero
        have hlast : n % 10 ^ (3 * 2) % 10 ^ (3 * 1) = 0 := by omega
        have hgroups : digits 6 (n / 1000)
            = digits 3 (n / 10 ^ (3 * 2)) ++ digits 3 (n % 10 ^ (3 * 2) / 10 ^ (3 * 1)) := by
          have hsplit := digits_add 3 3 (n / 1000)
          have hfirst : n / 1000 / 10 ^ 3 = n / 10 ^ (3 * 2) := by omega
          have hsecond : n / 1000 % 10 ^ 3 = n % 10 ^ (3 * 2) / 10 ^ (3 * 1) := by omega
          rw [hsplit, hfirst, ← digits_mod 3 (n / 1000), hsecond]
        rw [if_pos hmicros, zeroPadded_eq_digits (by omega), hlast, fraction_of_zero, hgroups]
        simp only [List.cons_append, List.append_assoc]
      · have hlast : n % 10 ^ (3 * 2) % 10 ^ (3 * 1) ≠ 0 := by omega
        have hgroups : digits 9 n = digits 3 (n / 10 ^ (3 * 2))
            ++ (digits 3 (n % 10 ^ (3 * 2) / 10 ^ (3 * 1)) ++ digits 3 n) := by
          have hsecond : n / 10 ^ 3 % 10 ^ 3 = n % 10 ^ (3 * 2) / 10 ^ (3 * 1) := by omega
          rw [digits_add 3 6, digits_add 3 3, ← digits_mod 3 (n / 10 ^ 3), hsecond]
        have hthird : n % 10 ^ (3 * 2) % 10 ^ (3 * 1) / 10 ^ (3 * 0) % 10 ^ 3 = n % 10 ^ 3 := by
          omega
        rw [if_neg hmicros, zeroPadded_eq_digits (by omega), fraction_succ, if_neg hlast, hgroups,
          ← digits_mod 3 n, ← hthird, digits_mod 3]
        simp only [List.cons_append, List.append_assoc, fraction_zero]

/-- What follows the seconds sorts by the nanoseconds: `+` is before `.`, and before every digit
that a longer fraction goes on with. -/
theorem fractionText_lt_iff {m n : ℕ} (hm : m < 1000000000) (hn : n < 1000000000) :
    fractionText m ++ utcOffset < fractionText n ++ utcOffset ↔ m < n := by
  have hplus : '+' < '.' := by decide
  have hdot : ¬ '.' < '+' := by decide
  have hne : ¬ '.' = '+' := by decide
  rw [fractionText_append hm, fractionText_append hn]
  -- a whole second goes on with the `+`, any other with the `.`
  by_cases hmzero : m = 0
  · by_cases hnzero : n = 0
    · simp [hmzero, hnzero]
    · rw [if_pos hmzero, if_neg hnzero, utcOffset, List.cons_lt_cons_iff]
      exact iff_of_true (.inl hplus) (by omega)
  · by_cases hnzero : n = 0
    · rw [if_neg hmzero, if_pos hnzero, utcOffset, List.cons_lt_cons_iff]
      apply iff_of_false
      · rintro (h | ⟨h, -⟩)
        · exact hdot h
        · exact hne h
      · omega
    · rw [if_neg hmzero, if_neg hnzero, List.cons_lt_cons_iff]
      have hirrefl : ¬ '.' < '.' := by decide
      simp only [hirrefl, false_or, true_and]
      exact fraction_lt_iff beforeDigits_plus 2 _ hm hn

/-! ### Whole texts -/

/-- The years with four digits are the years 0 to 9999. -/
theorem DateTime.fourDigitYear_iff (t : DateTime) :
    t.FourDigitYear ↔ 0 ≤ t.date.year ∧ t.date.year ≤ 9999 := by
  have hlast : t.date.year ≤ 9999 ↔ t.dayNumber < 3652059 := year_dateOf_le_iff t.dayNumber 9999
  have hfirst : t.date.year ≤ -1 ↔ t.dayNumber < -366 := year_dateOf_le_iff t.dayNumber (-1)
  unfold FourDigitYear
  unfold dayNumber epochDay at hlast hfirst
  omega

/-- Texts that begin with the dates of times compare by the days first. -/
theorem dateText_date_lt_iff {s t : DateTime} (hs : s.FourDigitYear) (ht : t.FourDigitYear)
    (r r' : List Char) :
    dateText s.date r < dateText t.date r' ↔
      s.dayNumber < t.dayNumber ∨ s.dayNumber = t.dayNumber ∧ r < r' := by
  have h := dateText_lt_iff (valid_dateOf s.dayNumber) (valid_dateOf t.dayNumber)
    (s.fourDigitYear_iff.mp hs) (t.fourDigitYear_iff.mp ht) r r'
  rw [dateOf_lt_dateOf_iff, dateOf_inj] at h
  exact h

/-- **Texts of UTC times sort by time**: of two regular times the earlier one has the smaller text.
-/
theorem rfc3339_lt_iff {s t : DateTime} (hs : s.Utc) (ht : t.Utc) :
    s.rfc3339 < t.rfc3339 ↔ s < t := by
  have hminute : ∀ u : DateTime, u.secondOfDay / 60 % 60 < 60 := fun u =>
    Nat.mod_lt _ (by decide)
  have hirrefl : ¬ 'T' < 'T' := by decide
  rw [String.lt_iff, DateTime.rfc3339, DateTime.rfc3339, String.toList_ofList, String.toList_ofList,
    dateText_date_lt_iff hs.year ht.year, List.cons_lt_cons_iff,
    clockText_lt_iff s.secondOfDay_div_lt (hminute s) s.shownSecond_lt t.secondOfDay_div_lt
      (hminute t) t.shownSecond_lt, fractionText_lt_iff s.shownNanos_lt t.shownNanos_lt,
    DateTime.lt_iff]
  simp only [hirrefl, false_or, true_and]
  -- a leap second is written as the second after the 59th of its own minute
  have hsleap := hs.leap
  have htleap := ht.leap
  unfold DateTime.shownSecond DateTime.shownNanos DateTime.dayNumber DateTime.secondOfDay
  by_cases hsn : 1000000000 ≤ s.nanos
  · have := hsleap hsn
    by_cases htn : 1000000000 ≤ t.nanos
    · have := htleap htn
      simp only [hsn, htn, if_true]
      omega
    · simp only [hsn, htn, if_true, if_false]
      omega
  · by_cases htn : 1000000000 ≤ t.nanos
    · have := htleap htn
      simp only [hsn, htn, if_true, if_false]
      omega
    · simp only [hsn, htn, if_false]
      omega

theorem DateTime.le_iff_not_lt {s t : DateTime} : s ≤ t ↔ ¬ t < s := by
  rw [lt_iff]
  show _ ∨ _ ↔ _
  omega

theorem rfc3339_le_iff {s t : DateTime} (hs : s.Utc) (ht : t.Utc) :
    s.rfc3339 ≤ t.rfc3339 ↔ s ≤ t := by
  rw [← String.not_lt, rfc3339_lt_iff ht hs, DateTime.le_iff_not_lt]

/-- The hypothesis of the purges holds of the texts `chrono` writes: they sort as the times do. -/
theorem textsSortByTime {T : Texts} (hT : T.toRfc3339 = DateTime.rfc3339) : TextsSortByTime T := by
  intro s t hs ht hsyear htyear h
  have hutc : ∀ u : DateTime, u.Regular → u.FourDigitYear → u.Utc := by
    intro u hu huyear
    refine ⟨huyear, fun hleap => ?_⟩
    unfold DateTime.Regular at hu
    omega
  rw [hT] at h
  exact (rfc3339_lt_iff (hutc s hs hsyear) (hutc t ht htyear)).mp h

/-! ### Bytes -/

/-- Characters of one byte. -/
def AsciiOnly (l : List Char) : Prop := ∀ c ∈ l, c.toNat < 128

@[simp] theorem asciiOnly_nil : AsciiOnly [] := by simp [AsciiOnly]

@[simp] theorem asciiOnly_cons (c : Char) (l : List Char) :
    AsciiOnly (c :: l) ↔ c.toNat < 128 ∧ AsciiOnly l := List.forall_mem_cons

@[simp] theorem asciiOnly_append (l m : List Char) :
    AsciiOnly (l ++ m) ↔ AsciiOnly l ∧ AsciiOnly m := List.forall_mem_append

@[simp] theorem asciiOnly_zeroPadded (w n : ℕ) : AsciiOnly (zeroPadded w n) := by
  intro c hc
  rcases List.mem_append.mp hc with hpad | hdigits
  · rw [List.eq_of_mem_replicate hpad]
    decide
  · have hdigit := Nat.isDigit_of_mem_toDigits (by decide) (by decide) hdigits
    have hle : c.toNat ≤ 57 := (Char.isDigit_iff_toNat.mp hdigit).2
    omega

@[simp] theorem asciiOnly_dateText (d : Date) (rest : List Char) :
    AsciiOnly (dateText d rest) ↔ AsciiOnly rest := by
  have hyear : AsciiOnly (yearText d.year) := by
    unfold yearText
    split
    · simp
    · split <;> simp
  simp [dateText, hyear]

@[simp] theorem asciiOnly_clockText (hour minute second : ℕ) (rest : List Char) :
    AsciiOnly (clockText hour minute second rest) ↔ AsciiOnly rest := by
  simp [clockText]

@[simp] theorem asciiOnly_fractionText (nanos : ℕ) : AsciiOnly (fractionText nanos) := by
  unfold fractionText
  split
  · simp
  · split
    · simp
    · split <;> simp

theorem asciiOnly_rfc3339 (t : DateTime) : AsciiOnly t.rfc3339.toList := by
  simp [DateTime.rfc3339, utcOffset]

/-- The bytes of characters of one byte. -/
theorem strBytes_of_ascii {s : String} (h : AsciiOnly s.toList) :
    strBytes s = s.toList.map fun c => c.val.toUInt8 := by
  have hlist : ∀ l : List Char, AsciiOnly l →
      strBytes (String.ofList l) = l.map fun c => c.val.toUInt8 := by
    intro l hl
    induction l with
    | nil => rfl
    | cons c l ih =>
      obtain ⟨hc, hl⟩ := (asciiOnly_cons c l).mp hl
      have hsize : c.utf8Size = 1 := by
        rw [Char.utf8Size_eq_one_iff, UInt32.le_iff_toNat_le]
        exact Nat.le_of_lt_succ hc
      have ih := ih hl
      rw [strBytes, String.toByteArray_ofList] at ih ⊢
      rw [List.utf8Encode_cons, ByteArray.data_append, Array.toList_append, ih, List.map_cons,
        List.utf8Encode_singleton, String.utf8EncodeChar_eq_singleton hsize]
      rfl
  have hs := hlist s.toList h
  rwa [String.ofList_toList] at hs

/-- Texts of characters of one byte compare as their bytes do. -/
theorem strBytes_lt_iff {s t : String} (hs : AsciiOnly s.toList) (ht : AsciiOnly t.toList) :
    strBytes s < strBytes t ↔ s < t := by
  have hlist : ∀ l m : List Char, AsciiOnly l → AsciiOnly m →
      (l.map (fun c => c.val.toUInt8) < m.map (fun c => c.val.toUInt8) ↔ l < m) := by
    intro l
    induction l with
    | nil =>
      intro m _ _
      cases m <;> simp
    | cons c l ih =>
      intro m hl hm
      cases m with
      | nil => simp
      | cons d m =>
        obtain ⟨hc, hl⟩ := (asciiOnly_cons c l).mp hl
        obtain ⟨hd, hm⟩ := (asciiOnly_cons d m).mp hm
        have hbyte : ∀ e : Char, e.toNat < 128 → e.val.toUInt8.toNat = e.toNat := by
          intro e he
          rw [UInt32.toNat_toUInt8]
          exact Nat.mod_eq_of_lt (Nat.lt_trans he (by decide))
        have hlt : c.val.toUInt8 < d.val.toUInt8 ↔ c < d := by
          rw [UInt8.lt_iff_toNat_lt, hbyte c hc, hbyte d hd]
          rfl
        have heq : c.val.toUInt8 = d.val.toUInt8 ↔ c = d := by
          rw [← UInt8.toNat_inj, hbyte c hc, hbyte d hd, Char.toNat_inj]
        rw [List.map_cons, List.map_cons, List.cons_lt_cons_iff, List.cons_lt_cons_iff, hlt, heq,
          ih m hl hm]
  rw [strBytes_of_ascii hs, strBytes_of_ascii ht, String.lt_iff]
  exact hlist s.toList t.toList hs ht

/-- **The bytes of the texts of UTC times sort by time.** -/
theorem strBytes_rfc3339_lt_iff {s t : DateTime} (hs : s.Utc) (ht : t.Utc) :
    strBytes s.rfc3339 < strBytes t.rfc3339 ↔ s < t := by
  rw [strBytes_lt_iff (asciiOnly_rfc3339 s) (asciiOnly_rfc3339 t), rfc3339_lt_iff hs ht]

/-! ### Queries and purges -/

/-- The backends that keep the time of an event as a text. -/
inductive TextBackend
  | turso
  | surrealDb
  deriving DecidableEq, Repr

/-- The storage of a text backend. -/
def TextBackend.storage (S : StoreExterns) (R : Reading) : TextBackend → AuditStorage
  | .turso => tursoAuditStorage S
  | .surrealDb => surrealAuditStorage S R

/-- Its delete protection. -/
def TextBackend.protectedKind : TextBackend → ProtectedKind
  | .turso => .turso
  | .surrealDb => .surrealDb

/-- The events of a time range, both ends included. -/
def AuditEvent.between (start stop : DateTime) (e : AuditEvent) : Bool :=
  start ≤ e.timestamp && e.timestamp ≤ stop

/-- The events before a time. -/
def AuditEvent.before (cutoff : DateTime) (e : AuditEvent) : Bool := e.timestamp < cutoff

/-- The rows of the events asked for, in the order of their sequence numbers and up to a
limit. -/
def Backend.rowsOf (b : Backend) (wanted : AuditEvent → Bool) (limit : UInt64)
    (events : List AuditEvent) : List b.Row :=
  (b.orderBySequence ((events.filter wanted).map b.toRow)).take limit.toNat

/-- A call of `purge_before` by one instance that nothing disturbs: the call and its commands. -/
def TextBackend.purge {ι : Type} (kind : TextBackend) (i : ι) (cutoff : DateTime) :
    List (PurgeAction ι) :=
  .call i cutoff :: List.replicate (if kind = .surrealDb then 4 else 3) (.command i .none)

/-- The queries over the rows of some events answer with exactly the events of the time asked
for, and a purge removes exactly the events before its cutoff: in its delete, whatever else is
in progress, and from its call to its return if nothing else is. -/
structure TextBackend.ByTime (S : StoreExterns) (R : Reading) (kind : TextBackend)
    (events : List AuditEvent) : Prop where
  queryRange : ∀ (start stop : DateTime) (limit : UInt64) (answer : List AuditEvent),
    start.Utc → stop.Utc →
      let st := kind.storage S R
      st.queryRange start stop limit .none (events.map st.toRow) = .ok answer ↔
        st.readRows (st.rowsOf (AuditEvent.between start stop) limit events) = .ok answer
  queryBefore : ∀ (cutoff : DateTime) (limit : UInt64) (answer : List AuditEvent), cutoff.Utc →
      let st := kind.storage S R
      st.queryBefore cutoff limit .none (events.map st.toRow) = .ok answer ↔
        st.readRows (st.rowsOf (AuditEvent.before cutoff) limit events) = .ok answer
  purgeDelete : ∀ {ι : Type} [DecidableEq ι] (s : PurgeState ι) (i : ι) (cutoff : DateTime)
      (total : UInt64), s.table = events → s.inForce = false →
      s.point i = .delete cutoff total → cutoff.Utc →
      let s' := purgeStep S kind.protectedKind s (.command i .none)
      s'.table = events.filter (fun e => !e.before cutoff) ∧
        s'.deleted = s.deleted ++ events.filter (AuditEvent.before cutoff)
  purgeBefore : ∀ {ι : Type} [DecidableEq ι] (s : PurgeState ι) (i : ι) (cutoff : DateTime),
      s.table = events → s.point i = .idle → cutoff.Utc →
      let s' := (kind.purge i cutoff).foldl (purgeStep S kind.protectedKind) s
      s'.table = events.filter (fun e => !e.before cutoff) ∧
        s'.deleted = s.deleted ++ events.filter (AuditEvent.before cutoff) ∧
        s'.point i = .idle

section Compare

variable (S : StoreExterns) (R : Reading) (kind : TextBackend) (t : DateTime) (e : AuditEvent)

theorem TextBackend.atLeast_toRow :
    (kind.storage S R).atLeast t ((kind.storage S R).toRow e)
      = decide (S.toRfc3339 t ≤ S.toRfc3339 e.timestamp) := by
  cases kind <;> rfl

theorem TextBackend.atMost_toRow :
    (kind.storage S R).atMost t ((kind.storage S R).toRow e)
      = decide (S.toRfc3339 e.timestamp ≤ S.toRfc3339 t) := by
  cases kind <;> rfl

theorem TextBackend.before_toRow :
    (kind.storage S R).before t ((kind.storage S R).toRow e)
      = decide (S.toRfc3339 e.timestamp < S.toRfc3339 t) := by
  cases kind <;> rfl

theorem TextBackend.protectedKind_before :
    kind.protectedKind.before S t e = decide (S.toRfc3339 e.timestamp < S.toRfc3339 t) := by
  cases kind <;> rfl

end Compare

section Answers

variable (kind : TextBackend) (S : StoreExterns) (R : Reading) (limit : UInt64)
  (table : List (kind.storage S R).Row) (answer : List AuditEvent)

/-- A query that nothing fails reads all the rows it selects. -/
theorem TextBackend.queryRange_none_iff (start stop : DateTime) :
    (kind.storage S R).queryRange start stop limit .none table = .ok answer ↔
      (kind.storage S R).readRows ((kind.storage S R).selectRange start stop limit table)
        = .ok answer := by
  cases kind with
  | turso =>
    exact libsqlQuery_none_eq_ok_iff "Failed to connect for audit query: "
      "Failed to query audit events: "
  | surrealDb =>
    exact surrealQuery_none_eq_ok_iff "Failed to query audit events: "
      "Failed to deserialize audit events: "

theorem TextBackend.queryBefore_none_iff (cutoff : DateTime) :
    (kind.storage S R).queryBefore cutoff limit .none table = .ok answer ↔
      (kind.storage S R).readRows ((kind.storage S R).selectBefore cutoff limit table)
        = .ok answer := by
  cases kind with
  | turso =>
    exact libsqlQuery_none_eq_ok_iff "Failed to connect for audit query: "
      "Failed to query audit events before cutoff: "
  | surrealDb =>
    exact surrealQuery_none_eq_ok_iff "Failed to query audit events before cutoff: "
      "Failed to deserialize audit events: "

end Answers

/-- A filter of the rows is one of the events. -/
theorem filter_rows_eq {events : List AuditEvent} (b : Backend) {q : b.Row → Bool}
    {p : AuditEvent → Bool} (h : ∀ e ∈ events, q (b.toRow e) = p e) :
    (events.map b.toRow).filter q = (events.filter p).map b.toRow := by
  rw [List.filter_map]
  congr 1
  exact List.filter_congr h

section ByTime

variable {S : StoreExterns} (R : Reading) (kind : TextBackend) {events : List AuditEvent}

theorem selectRange_eq (hS : S.toRfc3339 = DateTime.rfc3339)
    (hevents : ∀ e ∈ events, e.timestamp.Utc) {start stop : DateTime} (hstart : start.Utc)
    (hstop : stop.Utc) (limit : UInt64) :
    let st := kind.storage S R
    st.selectRange start stop limit (events.map st.toRow)
      = st.rowsOf (AuditEvent.between start stop) limit events := by
  intro st
  rw [Backend.selectRange, Backend.rowsOf, filter_rows_eq st.toBackend]
  intro e he
  rw [TextBackend.atLeast_toRow, TextBackend.atMost_toRow, hS, AuditEvent.between,
    decide_eq_decide.mpr (rfc3339_le_iff hstart (hevents e he)),
    decide_eq_decide.mpr (rfc3339_le_iff (hevents e he) hstop)]

theorem selectBefore_eq (hS : S.toRfc3339 = DateTime.rfc3339)
    (hevents : ∀ e ∈ events, e.timestamp.Utc) {cutoff : DateTime} (hcutoff : cutoff.Utc)
    (limit : UInt64) :
    let st := kind.storage S R
    st.selectBefore cutoff limit (events.map st.toRow)
      = st.rowsOf (AuditEvent.before cutoff) limit events := by
  intro st
  rw [Backend.selectBefore, Backend.rowsOf, filter_rows_eq st.toBackend]
  intro e he
  rw [TextBackend.before_toRow, hS, AuditEvent.before,
    decide_eq_decide.mpr (rfc3339_lt_iff (hevents e he) hcutoff)]

/-- A delete of a purge removes the events before its cutoff. -/
theorem deleteBefore_eq {ι : Type} [DecidableEq ι] (hS : S.toRfc3339 = DateTime.rfc3339)
    {s : PurgeState ι} (htable : ∀ e ∈ s.table, e.timestamp.Utc) {cutoff : DateTime}
    (hcutoff : cutoff.Utc) (hlifted : s.inForce = false) :
    s.deleteBefore S kind.protectedKind cutoff =
      { s with
        table := s.table.filter fun e => !e.before cutoff
        deleted := s.deleted ++ s.table.filter (AuditEvent.before cutoff) } := by
  have hbefore : ∀ e ∈ s.table, kind.protectedKind.before S cutoff e = e.before cutoff := by
    intro e he
    rw [TextBackend.protectedKind_before, hS, AuditEvent.before,
      decide_eq_decide.mpr (rfc3339_lt_iff (htable e he) hcutoff)]
  rw [PurgeState.deleteBefore, hlifted, if_neg Bool.false_ne_true, List.filter_congr hbefore,
    List.filter_congr fun e he => congrArg not (hbefore e he)]

/-- The delete of a purge, in any state in which it is due. -/
theorem purgeStep_delete {ι : Type} [DecidableEq ι] (hS : S.toRfc3339 = DateTime.rfc3339)
    {s : PurgeState ι} (htable : ∀ e ∈ s.table, e.timestamp.Utc) {cutoff : DateTime}
    (hcutoff : cutoff.Utc) (hlifted : s.inForce = false) {i : ι} {total : UInt64}
    (hpoint : s.point i = .delete cutoff total) :
    ∃ result, purgeStep S kind.protectedKind s (.command i .none) =
      { s with
        point := Function.update s.point i (.reinstate result)
        table := s.table.filter fun e => !e.before cutoff
        deleted := s.deleted ++ s.table.filter (AuditEvent.before cutoff) } := by
  refine ⟨s.deleteResult S kind.protectedKind cutoff total .none, ?_⟩
  rw [purgeStep, PurgeState.command, hpoint]
  simp only [if_true]
  rw [deleteBefore_eq kind hS htable hcutoff hlifted]
  rfl

variable (S) in
/-- A purge that nothing disturbs comes to its delete with the protection lifted. -/
theorem foldl_purgeStep_lift {ι : Type} [DecidableEq ι] (s : PurgeState ι) (i : ι)
    (cutoff : DateTime) (hidle : s.point i = .idle) :
    ∃ (s' : PurgeState ι) (total : UInt64),
      (kind.purge i cutoff).foldl (purgeStep S kind.protectedKind) s
        = [.command i .none, .command i .none].foldl (purgeStep S kind.protectedKind) s' ∧
      s'.point i = .delete cutoff total ∧ s'.inForce = false ∧ s'.table = s.table ∧
      s'.deleted = s.deleted := by
  cases kind with
  | turso =>
    refine ⟨_, 0, rfl, ?_, ?_, ?_, ?_⟩ <;>
      simp [purgeStep, PurgeState.call, PurgeState.command, PurgeState.goto, hidle,
        TextBackend.protectedKind, ProtectedKind.reported]
  | surrealDb =>
    -- the count changes nothing
    refine ⟨_, .ofNat (s.table.filter (ProtectedKind.surrealDb.before S cutoff)).length, rfl,
      ?_, ?_, ?_, ?_⟩ <;>
      simp [purgeStep, PurgeState.call, PurgeState.command, PurgeState.goto, hidle,
        TextBackend.protectedKind, ProtectedKind.reported]

/-- A purge that nothing disturbs: its commands all succeed, and nobody else is in between. -/
theorem foldl_purgeStep_purge {ι : Type} [DecidableEq ι] (hS : S.toRfc3339 = DateTime.rfc3339)
    {s : PurgeState ι} (htable : ∀ e ∈ s.table, e.timestamp.Utc) {i : ι} {cutoff : DateTime}
    (hcutoff : cutoff.Utc) (hidle : s.point i = .idle) :
    let s' := (kind.purge i cutoff).foldl (purgeStep S kind.protectedKind) s
    s'.table = s.table.filter (fun e => !e.before cutoff) ∧
      s'.deleted = s.deleted ++ s.table.filter (AuditEvent.before cutoff) ∧
      s'.point i = .idle := by
  obtain ⟨s', total, hrun, hpoint, hlifted, htable', hdeleted⟩ :=
    foldl_purgeStep_lift S kind s i cutoff hidle
  rw [← htable'] at htable
  obtain ⟨result, hdelete⟩ := purgeStep_delete kind hS htable hcutoff hlifted hpoint
  rw [hrun, ← htable', ← hdeleted, List.foldl_cons, hdelete]
  simp [purgeStep, PurgeState.command, PurgeState.finish, PurgeState.goto]

end ByTime

/-- **Comparing texts is comparing times.**  With the texts `to_rfc3339` writes, the bytes of
two UTC timestamps of the years 0 to 9999 sort by time, so on Turso and SurrealDB `query_range`
and `query_before` answer with exactly the events in the time asked for, and `purge_before`
deletes exactly those before its cutoff. -/
theorem text_order_chronological (S : StoreExterns) (R : Reading)
    (hS : S.toRfc3339 = DateTime.rfc3339) :
    (∀ s t : DateTime, s.Utc → t.Utc →
      (strBytes (S.toRfc3339 s) < strBytes (S.toRfc3339 t) ↔ s < t)) ∧
    ∀ (kind : TextBackend) (events : List AuditEvent), (∀ e ∈ events, e.timestamp.Utc) →
      kind.ByTime S R events := by
  refine ⟨fun s t hs ht => ?_, fun kind events hevents => ⟨?_, ?_, ?_, ?_⟩⟩
  · rw [hS]
    exact strBytes_rfc3339_lt_iff hs ht
  · intro start stop limit answer hstart hstop st
    have hselect := selectRange_eq R kind hS hevents hstart hstop limit
    rw [← hselect]
    exact kind.queryRange_none_iff S R limit _ answer start stop
  · intro cutoff limit answer hcutoff st
    have hselect := selectBefore_eq R kind hS hevents hcutoff limit
    rw [← hselect]
    exact kind.queryBefore_none_iff S R limit _ answer cutoff
  · intro ι _ s i cutoff total htable hlifted hpoint hcutoff
    subst htable
    obtain ⟨result, hdelete⟩ := purgeStep_delete kind hS hevents hcutoff hlifted hpoint
    rw [hdelete]
    exact ⟨rfl, rfl⟩
  · intro ι _ s i cutoff htable hidle hcutoff
    subst htable
    exact foldl_purgeStep_purge kind hS hevents hcutoff hidle

/-- The samples with the texts `to_rfc3339` writes. -/
def sampleTextStore : StoreExterns := { sampleStore with toRfc3339 := DateTime.rfc3339 }

/-- A millisecond sorts before the microseconds that follow it, `+` before `4`. -/
theorem text_order_chronological_sample :
    (strBytes (sampleTextStore.toRfc3339 (sampleTime 123000000))
        < strBytes (sampleTextStore.toRfc3339 (sampleTime 123456000)) ↔
      sampleTime 123000000 < sampleTime 123456000) ∧
    ∀ kind : TextBackend,
      kind.ByTime sampleTextStore ⟨.plain, sampleUuid, sampleTime 0⟩
        [sampleFirst, sampleSecond] := by
  have hutc : ∀ nanos : Fin 1000000000, (sampleTime ⟨nanos, by omega⟩).Utc := by
    intro nanos
    have hyear : (-62167219200 : ℤ) ≤ 1749983400 ∧ (1749983400 : ℤ) ≤ 253402300799 := by decide
    exact ⟨hyear, fun hleap => absurd hleap (not_le_of_gt nanos.isLt)⟩
  obtain ⟨hbytes, hbackends⟩ :=
    text_order_chronological sampleTextStore ⟨.plain, sampleUuid, sampleTime 0⟩ rfl
  refine ⟨hbytes _ _ (hutc 123000000) (hutc 123456000), fun kind => hbackends kind _ ?_⟩
  intro e he
  simp only [List.mem_cons, List.not_mem_nil, or_false] at he
  rcases he with rfl | rfl
  · exact hutc 0
  · exact hutc 0

end ActonService
