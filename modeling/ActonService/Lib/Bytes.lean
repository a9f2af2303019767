import Mathlib.Algebra.Order.Ring.Nat
import Mathlib.Data.List.Basic

/-!
# Byte texts

Little-endian integers, optional fields framed by a presence tag and a length,
and hexadecimal digits, with what can be read back from each.

## Main definitions

* `leBytes k n` — the `k` low bytes of `n`, least significant first.
* `frameField` — an optional byte string behind a presence tag and a `u64` length.
* `hexDigits` — two lowercase hexadecimal digits a byte.

## Main results

* `frameField_append_inj` — a framed field of `u64` length can be read off.
* `flatMap_frameField_inj` — a row of framed fields determines the fields.
* `hexDigits_injective` — hexadecimal digits determine the bytes.
-/

namespace Bytes

/-! ### Little-endian integers -/

/-- The `k` low bytes of `n`, least significant first. -/
def leBytes : ℕ → ℕ → List UInt8
  | 0, _ => []
  | k + 1, n => UInt8.ofNat n :: leBytes k (n / 256)

@[simp] theorem length_leBytes (k n : ℕ) : (leBytes k n).length = k := by
  induction k generalizing n with
  | zero => rfl
  | succ k ih => simp [leBytes, ih]

theorem leBytes_inj : ∀ {k m n : ℕ}, m < 256 ^ k → n < 256 ^ k →
    leBytes k m = leBytes k n → m = n := by
  intro k
  induction k with
  | zero => intro m n hm hn _; rw [Nat.pow_zero] at hm hn; omega
  | succ k ih =>
    intro m n hm hn h
    rw [leBytes, leBytes, List.cons.injEq] at h
    have hlow : m % 256 = n % 256 := by
      have := congrArg UInt8.toNat h.1
      simpa using this
    have hhigh : m / 256 = n / 256 := by
      refine ih ?_ ?_ h.2
      · rw [Nat.div_lt_iff_lt_mul (by decide), ← Nat.pow_succ]; exact hm
      · rw [Nat.div_lt_iff_lt_mul (by decide), ← Nat.pow_succ]; exact hn
    omega

/-! ### Framed fields -/

/-- An optional byte string: a presence tag, then, when present, the length as
eight little-endian bytes and the bytes themselves. -/
def frameField : Option (List UInt8) → List UInt8
  | some bytes => 1 :: (leBytes 8 bytes.length ++ bytes)
  | none => [0]

/-- The lengths an unsigned 64-bit integer can hold. -/
def FitsLen (bytes : List UInt8) : Prop := bytes.length < 2 ^ 64

/-- A framed field can be read off the front of a text when its length fits the
length prefix. -/
theorem frameField_append_inj {a b : Option (List UInt8)} {r r' : List UInt8}
    (ha : ∀ x ∈ a, FitsLen x) (hb : ∀ x ∈ b, FitsLen x)
    (h : frameField a ++ r = frameField b ++ r') : a = b ∧ r = r' := by
  cases a with
  | none =>
    cases b with
    | none => exact ⟨rfl, by simpa [frameField] using h⟩
    | some y => simp [frameField] at h
  | some x =>
    cases b with
    | none => simp [frameField] at h
    | some y =>
      simp only [frameField, List.cons_append, List.append_assoc, List.cons.injEq,
        true_and] at h
      obtain ⟨hlen, h⟩ := List.append_inj h (by simp)
      have hxy : x.length = y.length := leBytes_inj (ha x rfl) (hb y rfl) hlen
      obtain ⟨hx, hr⟩ := List.append_inj h hxy
      exact ⟨by rw [hx], hr⟩

/-- A row of framed fields determines the fields, for rows of the same number of
fields. -/
theorem flatMap_frameField_inj : ∀ {as bs : List (Option (List UInt8))}
    {r r' : List UInt8}, as.length = bs.length →
    (∀ a ∈ as, ∀ x ∈ a, FitsLen x) → (∀ b ∈ bs, ∀ x ∈ b, FitsLen x) →
    as.flatMap frameField ++ r = bs.flatMap frameField ++ r' → as = bs ∧ r = r' := by
  intro as
  induction as with
  | nil =>
    intro bs r r' hlen _ _ h
    cases bs with
    | nil => exact ⟨rfl, by simpa using h⟩
    | cons b bs => simp at hlen
  | cons a as ih =>
    intro bs r r' hlen ha hb h
    cases bs with
    | nil => simp at hlen
    | cons b bs =>
      rw [List.flatMap_cons, List.flatMap_cons, List.append_assoc, List.append_assoc] at h
      obtain ⟨hab, h⟩ := frameField_append_inj (ha a List.mem_cons_self)
        (hb b List.mem_cons_self) h
      obtain ⟨has, hr⟩ := ih (by simpa using hlen)
        (fun x hx => ha x (List.mem_cons_of_mem _ hx))
        (fun x hx => hb x (List.mem_cons_of_mem _ hx)) h
      exact ⟨by rw [hab, has], hr⟩

/-! ### Hexadecimal digits -/

/-- The lowercase hexadecimal digit of a number below sixteen. -/
def hexDigit (n : ℕ) : Char :=
  ['0', '1', '2', '3', '4', '5', '6', '7', '8', '9', 'a', 'b', 'c', 'd', 'e', 'f'].getD n '0'

/-- The two hexadecimal digits of a byte. -/
def hexByte (b : UInt8) : List Char := [hexDigit (b.toNat / 16), hexDigit (b.toNat % 16)]

/-- Two hexadecimal digits a byte. -/
def hexDigits (bytes : List UInt8) : List Char := bytes.flatMap hexByte

theorem hexDigit_inj : ∀ m < 16, ∀ n < 16, hexDigit m = hexDigit n → m = n := by decide

theorem hexDigit_ne_v : ∀ n < 16, hexDigit n ≠ 'v' := by decide

theorem hexByte_injective : Function.Injective hexByte := by
  intro a b h
  simp only [hexByte, List.cons.injEq, and_true] at h
  have ha := a.toNat_lt
  have hb := b.toNat_lt
  have hhigh := hexDigit_inj _ (by omega) _ (by omega) h.1
  have hlow := hexDigit_inj _ (by omega) _ (by omega) h.2
  exact UInt8.toNat_inj.mp (by omega)

@[simp] theorem length_hexDigits (bytes : List UInt8) :
    (hexDigits bytes).length = 2 * bytes.length := by
  induction bytes with
  | nil => rfl
  | cons b bytes ih =>
    rw [hexDigits, List.flatMap_cons, List.length_append, ← hexDigits, ih, List.length_cons]
    simp only [hexByte, List.length_cons, List.length_nil]
    omega

theorem hexDigits_injective : Function.Injective hexDigits := by
  intro as
  induction as with
  | nil =>
    intro bs h
    cases bs with
    | nil => rfl
    | cons b bs => simp [hexDigits, hexByte] at h
  | cons a as ih =>
    intro bs h
    cases bs with
    | nil => simp [hexDigits, hexByte] at h
    | cons b bs =>
      rw [hexDigits, hexDigits, List.flatMap_cons, List.flatMap_cons] at h
      obtain ⟨hab, h⟩ := List.append_inj h rfl
      rw [hexByte_injective hab, ih h]

/-- Hexadecimal digits never spell a `v`. -/
theorem v_notMem_hexDigits (bytes : List UInt8) : 'v' ∉ hexDigits bytes := by
  intro h
  obtain ⟨b, -, hb⟩ := List.mem_flatMap.mp h
  have := b.toNat_lt
  simp only [hexByte, List.mem_cons, List.not_mem_nil, or_false] at hb
  rcases hb with hb | hb
  · exact hexDigit_ne_v _ (by omega) hb.symm
  · exact hexDigit_ne_v _ (by omega) hb.symm

end Bytes
