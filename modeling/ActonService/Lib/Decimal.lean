import Mathlib.Data.List.Lex
import Mathlib.Data.Nat.Digits.Defs

/-!
# Decimal numerals of a fixed width

Numbers padded with zeros to a common width, and the lexicographic order of texts that begin
with them: such texts compare by their numbers first and by what follows the numerals then.
A fraction whose trailing groups of zeros are cut off still sorts by its number, if what
follows it sorts before every digit.

## Main definitions

* `zeroPadded w n` — the numeral of `n`, padded to `w` digits.
* `digits w n` — the last `w` digits of `n`.
* `fraction w stop k n` — `k` groups of `w` digits without the last groups of zeros, then `stop`.

## Main results

* `zeroPadded_append_lt_iff` — how texts that begin with numerals compare.
* `fraction_lt_iff` — shortened fractions sort by their numbers.
-/

namespace Decimal

/-- `format!("{:0w$}", n)` -/
def zeroPadded (w n : ℕ) : List Char := (Nat.toDigits 10 n).leftpad w '0'

/-- The last `w` digits of a number. -/
def digits : ℕ → ℕ → List Char
  | 0, _ => []
  | w + 1, n => digits w (n / 10) ++ [(n % 10).digitChar]

@[simp] theorem digits_zero (n : ℕ) : digits 0 n = [] := rfl

theorem digits_succ (w n : ℕ) : digits (w + 1) n = digits w (n / 10) ++ [(n % 10).digitChar] := rfl

theorem digits_of_zero (w : ℕ) : digits w 0 = List.replicate w '0' := by
  induction w with
  | zero => rfl
  | succ w ih =>
    rw [digits_succ, Nat.zero_div, ih, List.replicate_succ']
    rfl

/-- A number that fits is padded, never cut. -/
theorem zeroPadded_eq_digits {w n : ℕ} (h : n < 10 ^ (w + 1)) :
    zeroPadded (w + 1) n = digits (w + 1) n := by
  induction w generalizing n with
  | zero =>
    have hn : n < 10 := h
    rw [zeroPadded, Nat.toDigits_of_lt_base hn, digits_succ, Nat.mod_eq_of_lt hn]
    rfl
  | succ w ih =>
    by_cases hn : n < 10
    · rw [zeroPadded, Nat.toDigits_of_lt_base hn, digits_succ, Nat.div_eq_of_lt hn,
        Nat.mod_eq_of_lt hn, digits_of_zero]
      rfl
    · have hdiv : n / 10 < 10 ^ (w + 1) := by
        rw [Nat.div_lt_iff_lt_mul (by decide), ← pow_succ]
        exact h
      rw [digits_succ, ← ih hdiv, zeroPadded, zeroPadded,
        Nat.toDigits_of_base_le (by decide) (by omega)]
      simp [List.leftpad]

/-- The digits of a group and of the group behind it. -/
theorem digits_add (v w n : ℕ) : digits (v + w) n = digits v (n / 10 ^ w) ++ digits w n := by
  induction w generalizing n with
  | zero => simp
  | succ w ih =>
    rw [← Nat.add_assoc, digits_succ, ih, digits_succ, Nat.div_div_eq_div_mul, List.append_assoc,
      pow_succ']

theorem digits_mod (w n : ℕ) : digits w (n % 10 ^ w) = digits w n := by
  induction w generalizing n with
  | zero => rfl
  | succ w ih =>
    have hlast : n % 10 ^ (w + 1) % 10 = n % 10 :=
      Nat.mod_mod_of_dvd n (dvd_pow_self 10 (Nat.succ_ne_zero w))
    have hrest : n % 10 ^ (w + 1) / 10 = n / 10 % 10 ^ w := by
      rw [pow_succ', Nat.mod_mul_right_div_self]
    rw [digits_succ, digits_succ, hlast, hrest, ih]

/-! ### Order -/

theorem digitChar_lt_iff {a b : ℕ} (ha : a < 10) (hb : b < 10) :
    a.digitChar < b.digitChar ↔ a < b := by
  have hall : ∀ a < 10, ∀ b < 10, a.digitChar < b.digitChar ↔ a < b := by decide
  exact hall a ha b hb

theorem digitChar_inj {a b : ℕ} (ha : a < 10) (hb : b < 10) :
    a.digitChar = b.digitChar ↔ a = b := by
  have hall : ∀ a < 10, ∀ b < 10, a.digitChar = b.digitChar ↔ a = b := by decide
  exact hall a ha b hb

/-- A character that sorts before every digit. -/
def BeforeDigits (c : Char) : Prop := ∀ a < 10, c < a.digitChar

instance (c : Char) : Decidable (BeforeDigits c) := inferInstanceAs (Decidable (∀ a < 10, _))

/-- Numerals of one width compare by their numbers, then what follows them does. -/
theorem digits_append_lt_iff {w a b : ℕ} (ha : a < 10 ^ w) (hb : b < 10 ^ w) (r s : List Char) :
    digits w a ++ r < digits w b ++ s ↔ a < b ∨ a = b ∧ r < s := by
  induction w generalizing a b r s with
  | zero =>
    have ha : a = 0 := Nat.lt_one_iff.mp ha
    have hb : b = 0 := Nat.lt_one_iff.mp hb
    simp [ha, hb]
  | succ w ih =>
    have ha' : a / 10 < 10 ^ w := by
      rw [Nat.div_lt_iff_lt_mul (by decide), ← pow_succ]
      exact ha
    have hb' : b / 10 < 10 ^ w := by
      rw [Nat.div_lt_iff_lt_mul (by decide), ← pow_succ]
      exact hb
    have hlast : ∀ n, n % 10 < 10 := fun n => Nat.mod_lt n (by decide)
    rw [digits_succ, digits_succ, List.append_assoc, List.append_assoc, ih ha' hb',
      List.singleton_append, List.singleton_append, List.cons_lt_cons_iff,
      digitChar_lt_iff (hlast a) (hlast b), digitChar_inj (hlast a) (hlast b)]
    by_cases hrs : r < s
    · simp only [hrs, and_true]
      omega
    · simp only [hrs, and_false, or_false]
      omega

theorem zeroPadded_append_lt_iff {w a b : ℕ} (ha : a < 10 ^ (w + 1)) (hb : b < 10 ^ (w + 1))
    (r s : List Char) :
    zeroPadded (w + 1) a ++ r < zeroPadded (w + 1) b ++ s ↔ a < b ∨ a = b ∧ r < s := by
  rw [zeroPadded_eq_digits ha, zeroPadded_eq_digits hb, digits_append_lt_iff ha hb]

/-- A text that begins before the digits sorts before one that begins with a digit. -/
theorem cons_lt_digits_append {c : Char} (h : BeforeDigits c) (r s : List Char) (w n : ℕ) :
    c :: r < digits (w + 1) n ++ s := by
  induction w generalizing n s with
  | zero =>
    rw [digits_succ, digits_zero, List.nil_append, List.singleton_append, List.cons_lt_cons_iff]
    exact .inl (h _ (Nat.mod_lt n (by decide)))
  | succ w ih =>
    rw [digits_succ, List.append_assoc]
    exact ih _ _

theorem not_digits_append_lt_cons {c : Char} (h : BeforeDigits c) (r s : List Char) (w n : ℕ) :
    ¬ digits (w + 1) n ++ s < c :: r :=
  List.lt_asymm (cons_lt_digits_append h r s w n)

/-! ### Fractions -/

/-- The digits of a number in `k` groups of `w`, up to the last group that is not zero, and
`stop` behind them. -/
def fraction (w : ℕ) (stop : List Char) : ℕ → ℕ → List Char
  | 0, _ => stop
  | k + 1, n =>
    if n = 0 then stop
    else digits w (n / 10 ^ (w * k)) ++ fraction w stop k (n % 10 ^ (w * k))

@[simp] theorem fraction_zero (w : ℕ) (stop : List Char) (n : ℕ) : fraction w stop 0 n = stop := rfl

theorem fraction_succ (w : ℕ) (stop : List Char) (k n : ℕ) :
    fraction w stop (k + 1) n =
      if n = 0 then stop
      else digits w (n / 10 ^ (w * k)) ++ fraction w stop k (n % 10 ^ (w * k)) := rfl

@[simp] theorem fraction_of_zero (w : ℕ) (stop : List Char) (k : ℕ) :
    fraction w stop k 0 = stop := by
  cases k with
  | zero => rfl
  | succ k => rw [fraction_succ, if_pos rfl]

/-- Fractions with their last zeros cut off sort by their numbers: where one ends, the other
goes on with a digit, and `stop` is before it. -/
theorem fraction_lt_iff {c : Char} (hc : BeforeDigits c) (w : ℕ) (r : List Char) {k a b : ℕ}
    (ha : a < 10 ^ ((w + 1) * k)) (hb : b < 10 ^ ((w + 1) * k)) :
    fraction (w + 1) (c :: r) k a < fraction (w + 1) (c :: r) k b ↔ a < b := by
  induction k generalizing a b with
  | zero =>
    have ha : a = 0 := Nat.lt_one_iff.mp ha
    have hb : b = 0 := Nat.lt_one_iff.mp hb
    simp [ha, hb]
  | succ k ih =>
    have hpos : 0 < 10 ^ ((w + 1) * k) := Nat.pow_pos (by decide)
    have hsplit : 10 ^ ((w + 1) * (k + 1)) = 10 ^ ((w + 1) * k) * 10 ^ (w + 1) := by
      rw [Nat.mul_succ, pow_add]
    rw [hsplit] at ha hb
    have hhead : ∀ n < 10 ^ ((w + 1) * k) * 10 ^ (w + 1), n / 10 ^ ((w + 1) * k) < 10 ^ (w + 1) :=
      fun n hn => Nat.div_lt_of_lt_mul hn
    rw [fraction_succ, fraction_succ]
    by_cases ha0 : a = 0
    · by_cases hb0 : b = 0
      · simp [ha0, hb0]
      · rw [if_pos ha0, if_neg hb0]
        have hlt : a < b := by omega
        exact iff_of_true (cons_lt_digits_append hc _ _ w _) hlt
    · by_cases hb0 : b = 0
      · rw [if_neg ha0, if_pos hb0]
        have hnot : ¬ a < b := by omega
        exact iff_of_false (not_digits_append_lt_cons hc _ _ w _) hnot
      · rw [if_neg ha0, if_neg hb0, digits_append_lt_iff (hhead a ha) (hhead b hb),
          ih (Nat.mod_lt a hpos) (Nat.mod_lt b hpos)]
        -- the head groups decide, and behind equal ones the remainders do
        have hadiv := Nat.div_add_mod a (10 ^ ((w + 1) * k))
        have hbdiv := Nat.div_add_mod b (10 ^ ((w + 1) * k))
        have hamod := Nat.mod_lt a hpos
        have hbmod := Nat.mod_lt b hpos
        constructor
        · rintro (hlt | ⟨heq, hlt⟩)
          · exact lt_of_not_ge fun hle => absurd (Nat.div_le_div_right hle) (not_le_of_gt hlt)
          · rw [heq] at hadiv
            omega
        · intro hlt
          rcases (Nat.div_le_div_right (c := 10 ^ ((w + 1) * k)) hlt.le).lt_or_eq with h | h
          · exact .inl h
          · refine .inr ⟨h, ?_⟩
            rw [h] at hadiv
            omega

end Decimal
