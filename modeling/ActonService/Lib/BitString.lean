import Mathlib.Algebra.Order.Floor.Div
import Mathlib.Data.List.GetD
import Mathlib.Data.Nat.Bitwise
import Mathlib.Tactic.Ring

/-!
# Bit strings

Strings of bits with the highest bit first, as numbers and in groups.

## Main definitions

* `bits width n` — the lowest `width` bits of `n`.
* `value s` — the number that `s` stands for.
* `groups k s` — `s` in groups of `k`, the last one filled up with zeros.

## Main results

* `value_bits` — the bits of a number stand for it.
* `flatten_groups` — the groups are the string and the zeros it is filled up with.
* `value_flatten` — **groups of the same length are the digits of the number that the whole stands
  for.**
-/

namespace BitString

/-- The lowest bits of a number. -/
def bits : ℕ → ℕ → List Bool
  | 0, _ => []
  | width + 1, n => n.testBit width :: bits width n

/-- The number that bits stand for. -/
def value : List Bool → ℕ
  | [] => 0
  | b :: s => b.toNat * 2 ^ s.length + value s

/-- Groups of `k` bits, the last one filled up with zeros. -/
def groups (k : ℕ) (s : List Bool) : List (List Bool) :=
  (List.range (s.length ⌈/⌉ k)).map fun i => (List.range k).map fun j => s.getD (i * k + j) false

variable {k : ℕ} {s : List Bool}

/-! ### Bits and numbers -/

@[simp] theorem length_bits (width n : ℕ) : (bits width n).length = width := by
  induction width with
  | zero => rfl
  | succ width ih => rw [bits, List.length_cons, ih]

/-- The bits of a number stand for it, but for what is too high. -/
theorem value_bits (width n : ℕ) : value (bits width n) = n % 2 ^ width := by
  induction width with
  | zero => rw [pow_zero, Nat.mod_one]; rfl
  | succ width ih =>
    -- the highest bit, and what is left below it
    rw [bits, value, length_bits, ih, Nat.toNat_testBit, pow_succ, Nat.mod_mul]
    ring

theorem value_lt (s : List Bool) : value s < 2 ^ s.length := by
  induction s with
  | nil => exact Nat.one_pos
  | cons b s ih =>
    have hb : b.toNat * 2 ^ s.length ≤ 1 * 2 ^ s.length := Nat.mul_le_mul_right _ (Bool.toNat_le b)
    rw [value, List.length_cons, pow_succ]
    omega

theorem value_append (s s' : List Bool) : value (s ++ s') = value s * 2 ^ s'.length + value s' := by
  induction s with
  | nil => rw [value, Nat.zero_mul, Nat.zero_add]; rfl
  | cons b s ih =>
    rw [List.cons_append, value, value, ih, List.length_append, pow_add]
    ring

@[simp] theorem value_zeros (n : ℕ) : value (List.replicate n false) = 0 := by
  induction n with
  | zero => rfl
  | succ n ih => rw [List.replicate_succ, value, ih, Bool.toNat_false, Nat.zero_mul]

/-! ### Groups -/

theorem length_of_mem_groups {g : List Bool} (h : g ∈ groups k s) : g.length = k := by
  obtain ⟨i, -, rfl⟩ := List.mem_map.mp h
  rw [List.length_map, List.length_range]

@[simp] theorem length_groups : (groups k s).length = s.length ⌈/⌉ k := by
  rw [groups, List.length_map, List.length_range]

/-- Rows of the same length, one behind the other. -/
theorem flatten_map_range {α : Type*} (f : ℕ → α) (n k : ℕ) :
    ((List.range n).map fun i => (List.range k).map fun j => f (i * k + j)).flatten
      = (List.range (n * k)).map f := by
  induction n with
  | zero => rw [Nat.zero_mul]; rfl
  | succ n ih =>
    rw [List.range_succ, List.map_append, List.flatten_append, ih, Nat.succ_mul, List.range_add,
      List.map_append, List.map_map]
    simp

/-- A string, read beyond its end. -/
theorem map_getD_range {α : Type*} (s : List α) (d : α) (n : ℕ) :
    (List.range (s.length + n)).map (s.getD · d) = s ++ List.replicate n d := by
  refine List.ext_getElem (by simp) fun i hi hi' => ?_
  rw [List.getElem_map, List.getElem_range]
  by_cases hin : i < s.length
  · rw [List.getElem_append_left hin, List.getD_eq_getElem s d hin]
  · rw [List.getElem_append_right (Nat.le_of_not_lt hin), List.getElem_replicate,
      List.getD_eq_default s d (Nat.le_of_not_lt hin)]

/-- **The groups are the string** and the zeros it is filled up with. -/
theorem flatten_groups (hk : 0 < k) :
    (groups k s).flatten = s ++ List.replicate (k * (s.length ⌈/⌉ k) - s.length) false := by
  have hle : s.length ≤ k * (s.length ⌈/⌉ k) := le_smul_ceilDiv hk
  rw [groups, flatten_map_range (fun n => s.getD n false), ← map_getD_range,
    Nat.add_sub_cancel' hle, Nat.mul_comm]

/-- **Groups of the same length** are the digits of the number that the whole stands for. -/
theorem value_flatten {gs : List (List Bool)} (h : ∀ g ∈ gs, g.length = k) :
    value gs.flatten = (gs.map value).foldl (fun v d => v * 2 ^ k + d) 0 := by
  induction gs using List.reverseRecOn with
  | nil => rfl
  | append_singleton gs g ih =>
    have hg := h g (List.mem_append_right _ (List.mem_singleton_self g))
    rw [List.flatten_append, value_append, ih fun g' hg' => h g' (List.mem_append_left _ hg'),
      List.map_append, List.foldl_append, List.flatten_singleton, hg]
    rfl

end BitString
