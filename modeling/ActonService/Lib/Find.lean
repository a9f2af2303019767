import Mathlib.Data.List.Basic
import Mathlib.Data.List.Infix

/-!
# First occurrences

Where a text first occurs in another one, and the parts of a text between two positions.

## Main definitions

* `find` — the position at which a text first occurs.
* `slice` — the part between two positions, unless they are the wrong way round.

## Main results

* `find_append_left` — an occurrence in the first part of a text is the first one of the whole.
* `find_singleton_eq_some_iff` — a text splits where an item occurs first.
-/

namespace Find

variable {α : Type*} [DecidableEq α] {pat s t : List α} {i : ℕ} {c : α}

/-- The position at which a text first occurs in another one. -/
def find (pat : List α) : List α → Option ℕ
  | [] => if pat.isPrefixOf [] then some 0 else none
  | c :: s => if pat.isPrefixOf (c :: s) then some 0 else (find pat s).map (· + 1)

theorem length_le_of_find (h : find pat s = some i) : i + pat.length ≤ s.length := by
  induction s generalizing i with
  | nil =>
    rw [find] at h
    split at h
    · next hprefix =>
      cases h
      simpa using (List.isPrefixOf_iff_prefix.mp hprefix).length_le
    · cases h
  | cons c s ih =>
    rw [find] at h
    split at h
    · next hprefix =>
      cases h
      simpa using (List.isPrefixOf_iff_prefix.mp hprefix).length_le
    · obtain ⟨j, hj, rfl⟩ := Option.map_eq_some_iff.mp h
      have hlength := ih hj
      rw [List.length_cons]
      omega

theorem prefix_drop_of_find (h : find pat s = some i) : pat <+: s.drop i := by
  induction s generalizing i with
  | nil =>
    rw [find] at h
    split at h
    · next hprefix =>
      cases h
      exact List.isPrefixOf_iff_prefix.mp hprefix
    · cases h
  | cons c s ih =>
    rw [find] at h
    split at h
    · next hprefix =>
      cases h
      exact List.isPrefixOf_iff_prefix.mp hprefix
    · obtain ⟨j, hj, rfl⟩ := Option.map_eq_some_iff.mp h
      exact ih hj

/-- **An occurrence in the first part of a text is the first one of the whole.** -/
theorem find_append_left (h : find pat s = some i) (t : List α) : find pat (s ++ t) = some i := by
  induction s generalizing i with
  | nil =>
    rw [find] at h
    split at h
    · next hprefix =>
      cases h
      rw [List.prefix_nil.mp (List.isPrefixOf_iff_prefix.mp hprefix)]
      cases t <;> rfl
    · cases h
  | cons c s ih =>
    rw [find] at h
    rw [List.cons_append, find]
    split at h
    · next hprefix =>
      have hwhole : pat <+: c :: (s ++ t) :=
        (List.isPrefixOf_iff_prefix.mp hprefix).trans (List.prefix_append (c :: s) t)
      rw [if_pos (List.isPrefixOf_iff_prefix.mpr hwhole), h]
    · next hprefix =>
      obtain ⟨j, hj, rfl⟩ := Option.map_eq_some_iff.mp h
      -- the text is too short to reach into the second part
      have hshort : ¬ pat.isPrefixOf (c :: (s ++ t)) = true := by
        intro hwhole
        have hlength := length_le_of_find hj
        apply hprefix
        rw [List.isPrefixOf_iff_prefix] at hwhole ⊢
        refine List.prefix_of_prefix_length_le hwhole (List.prefix_append (c :: s) t) ?_
        rw [List.length_cons]
        omega
      rw [if_neg hshort, ih hj]
      rfl

/-- A part of a text is found. -/
theorem exists_find_of_infix (h : pat <:+: s) : ∃ i, find pat s = some i := by
  induction s with
  | nil =>
    rw [List.infix_nil.mp h]
    exact ⟨0, rfl⟩
  | cons c s ih =>
    rw [find]
    split
    · exact ⟨0, rfl⟩
    · next hprefix =>
      rcases List.infix_cons_iff.mp h with hhere | hlater
      · exact absurd (List.isPrefixOf_iff_prefix.mpr hhere) hprefix
      · obtain ⟨i, hi⟩ := ih hlater
        exact ⟨i + 1, by rw [hi]; rfl⟩

/-! ### Single items -/

@[simp] theorem isPrefixOf_singleton (c d : α) (s : List α) :
    [c].isPrefixOf (d :: s) = decide (c = d) := by
  rw [List.isPrefixOf_cons_cons]
  simp [beq_eq_decide]

theorem find_singleton_append (h : c ∉ s) (t : List α) :
    find [c] (s ++ c :: t) = some s.length := by
  induction s with
  | nil => simp [find]
  | cons d s ih =>
    rw [List.mem_cons, not_or] at h
    rw [List.cons_append, find, isPrefixOf_singleton, decide_eq_false h.1, ih h.2]
    rfl

theorem find_singleton_eq_none_iff : find [c] s = none ↔ c ∉ s := by
  induction s with
  | nil => simp [find]
  | cons d s ih =>
    rw [find, isPrefixOf_singleton, List.mem_cons, not_or, ← ih]
    by_cases hcd : c = d
    · simp [hcd]
    · simp [hcd]

/-- **A text splits where an item occurs first.** -/
theorem find_singleton_eq_some_iff :
    find [c] s = some i ↔ ∃ before behind, s = before ++ c :: behind ∧ c ∉ before ∧
      before.length = i := by
  constructor
  · intro h
    have hmem : c ∈ s := by
      by_contra hmem
      rw [find_singleton_eq_none_iff.mpr hmem] at h
      cases h
    obtain ⟨before, behind, rfl, hbefore⟩ := List.eq_append_cons_of_mem hmem
    rw [find_singleton_append hbefore] at h
    exact ⟨before, behind, rfl, hbefore, Option.some.inj h⟩
  · rintro ⟨before, behind, rfl, hbefore, rfl⟩
    exact find_singleton_append hbefore behind

/-! ### Slices -/

/-- The part of a text between two positions, unless they are the wrong way round. -/
def slice (s : List α) (i j : ℕ) : Option (List α) :=
  if i ≤ j ∧ j ≤ s.length then some ((s.take j).drop i) else none

end Find
