import ActonService.Lib.Lines
import Mathlib.Algebra.GroupWithZero.Nat
import Mathlib.Data.List.Infix

/-!
# Segments of a text

A text is split at a separator and put together again.  Splitting turns the separators into the
joints of a list, so that a part of the text that ends at a separator is a part of the list.

## Main results

* `splitOn_eq_iff` — splitting and joining are inverse.
* `splitOn_eq_append_iff` — the list is cut where the text is.
* `prefix_suffix_iff` — **between a start and an ending stands one segment** exactly if the text has
  as many separators as both together.
-/

namespace Segments

variable {α : Type*} {c : α} {s x y : List α} {segs a b : List (List α)}

/-- The text of segments. -/
def join (c : α) (segs : List (List α)) : List α := [c].intercalate segs

@[simp] theorem join_singleton : join c [x] = x := by
  simp [join]

theorem join_cons (h : segs ≠ []) : join c (x :: segs) = x ++ c :: join c segs := by
  rw [join, List.intercalate_cons_of_ne_nil h, List.append_assoc]
  rfl

theorem join_append (ha : a ≠ []) (hb : b ≠ []) :
    join c (a ++ b) = join c a ++ c :: join c b := by
  induction a with
  | nil => exact absurd rfl ha
  | cons x a ih =>
    rw [List.cons_append, join_cons (List.append_ne_nil_of_right_ne_nil _ hb)]
    cases a with
    | nil => rw [List.nil_append, join_singleton]
    | cons y a =>
      rw [ih (List.cons_ne_nil _ _), join_cons (List.cons_ne_nil _ _), List.append_assoc]
      rfl

/-- What stands before a segment, with the separator at its front. -/
def upTo (c : α) : List (List α) → List α
  | [] => []
  | x :: segs => join c (x :: segs) ++ [c]

/-- What stands behind a segment, with the separator at its end. -/
def onFrom (c : α) : List (List α) → List α
  | [] => []
  | x :: segs => c :: join c (x :: segs)

theorem join_cons_eq : join c (x :: segs) = x ++ onFrom c segs := by
  cases segs with
  | nil => rw [join_singleton, onFrom, List.append_nil]
  | cons y segs => rw [join_cons (List.cons_ne_nil _ _), onFrom]

/-- A segment between others. -/
theorem join_between : join c (a ++ x :: b) = upTo c a ++ x ++ onFrom c b := by
  cases a with
  | nil => rw [List.nil_append, upTo, List.nil_append, join_cons_eq]
  | cons y a =>
    rw [join_append (List.cons_ne_nil _ _) (List.cons_ne_nil _ _), join_cons_eq (x := x), upTo]
    simp

/-- A part of what stands behind a segment holds its separator. -/
theorem mem_of_prefix_onFrom (hne : x ≠ []) (h : x <+: onFrom c b) : c ∈ x := by
  obtain ⟨y, hy⟩ := h
  cases b with
  | nil => exact absurd (List.append_eq_nil_iff.mp hy).1 hne
  | cons z b =>
    cases x with
    | nil => exact absurd rfl hne
    | cons d x =>
      rw [onFrom, List.cons_append, List.cons.injEq] at hy
      exact hy.1 ▸ List.mem_cons_self

theorem notMem_join {d : α} (hd : d ≠ c) (h : ∀ x ∈ segs, d ∉ x) : d ∉ join c segs := by
  induction segs with
  | nil => exact List.not_mem_nil
  | cons x segs ih =>
    rw [List.forall_mem_cons] at h
    cases segs with
    | nil =>
      rw [join_singleton]
      exact h.1
    | cons y segs =>
      rw [join_cons (List.cons_ne_nil _ _), List.mem_append, List.mem_cons]
      rintro (hx | rfl | hrest)
      · exact h.1 hx
      · exact hd rfl
      · exact ih h.2 hrest

variable [DecidableEq α]

theorem count_join {d : α} (hd : d ≠ c) (segs : List (List α)) :
    (join c segs).count d = (segs.map (List.count d)).sum := by
  induction segs with
  | nil => rfl
  | cons x segs ih =>
    cases segs with
    | nil => simp
    | cons y segs =>
      rw [join_cons (List.cons_ne_nil _ _), List.count_append, List.count_cons_of_ne hd.symm, ih]
      rfl

/-- Each segment behind another brings one separator, if none has one of its own. -/
theorem count_onFrom (h : ∀ x ∈ segs, c ∉ x) : (onFrom c segs).count c = segs.length := by
  induction segs with
  | nil => rfl
  | cons x segs ih =>
    rw [List.forall_mem_cons] at h
    rw [onFrom, join_cons_eq, List.count_cons_self, List.count_append,
      List.count_eq_zero_of_not_mem h.1, ih h.2, Nat.zero_add, List.length_cons]

theorem join_splitOn (s : List α) : join c (s.splitOn c) = s := List.intercalate_splitOn c

/-- There is a segment more than separators. -/
theorem length_splitOn (s : List α) : (s.splitOn c).length = s.count c + 1 := by
  obtain ⟨x, segs, hsegs⟩ := List.exists_cons_of_ne_nil (List.splitOn_ne_nil c s)
  have hplain : ∀ x ∈ s.splitOn c, c ∉ x := fun x hx => Lines.notMem_of_mem_splitOn hx
  rw [hsegs, List.forall_mem_cons] at hplain
  have hcount := congrArg (List.count c) (join_splitOn (c := c) s)
  rw [hsegs, join_cons_eq, List.count_append, List.count_eq_zero_of_not_mem hplain.1,
    count_onFrom hplain.2, Nat.zero_add] at hcount
  rw [hsegs, List.length_cons, hcount]

/-- **Splitting and joining are inverse**, where the segments hold no separator. -/
theorem splitOn_eq_iff (hne : segs ≠ []) (h : ∀ x ∈ segs, c ∉ x) :
    s.splitOn c = segs ↔ s = join c segs := by
  constructor
  · rintro rfl
    exact (join_splitOn s).symm
  · rintro rfl
    exact List.splitOn_intercalate c h hne

/-- Segments can be told from their text. -/
theorem join_inj (ha : a ≠ []) (hb : b ≠ []) (hmem : ∀ x ∈ a, c ∉ x) (hmem' : ∀ x ∈ b, c ∉ x) :
    join c a = join c b ↔ a = b := by
  rw [← splitOn_eq_iff hb hmem', (splitOn_eq_iff ha hmem).mpr rfl]

/-- The list of segments is cut where the text is. -/
theorem splitOn_eq_append_iff (ha : a ≠ []) (hb : b ≠ []) :
    s.splitOn c = a ++ b ↔ ∃ x y, s = x ++ c :: y ∧ x.splitOn c = a ∧ y.splitOn c = b := by
  constructor
  · intro h
    have hmem : ∀ z ∈ a ++ b, c ∉ z := by
      intro z hz
      rw [← h] at hz
      exact Lines.notMem_of_mem_splitOn hz
    refine ⟨join c a, join c b, ?_, ?_, ?_⟩
    · rw [← join_append ha hb, ← h, join_splitOn]
    · exact (splitOn_eq_iff ha fun z hz => hmem z (List.mem_append_left _ hz)).mpr rfl
    · exact (splitOn_eq_iff hb fun z hz => hmem z (List.mem_append_right _ hz)).mpr rfl
  · rintro ⟨x, y, rfl, rfl, rfl⟩
    exact List.splitOn_append_cons_self x y

/-- A text goes on behind whole segments exactly if its list does. -/
theorem exists_splitOn_append_iff (hne : segs ≠ []) (h : ∀ x ∈ segs, c ∉ x) :
    (∃ rest ≠ [], s.splitOn c = segs ++ rest) ↔ join c segs ++ [c] <+: s := by
  constructor
  · rintro ⟨rest, hrest, hsplit⟩
    obtain ⟨x, y, rfl, hx, -⟩ := (splitOn_eq_append_iff hne hrest).mp hsplit
    rw [(splitOn_eq_iff hne h).mp hx]
    exact ⟨y, by simp⟩
  · rintro ⟨y, rfl⟩
    refine ⟨y.splitOn c, List.splitOn_ne_nil _ _, ?_⟩
    rw [List.append_assoc, List.singleton_append, List.splitOn_append_cons_self,
      (splitOn_eq_iff hne h).mpr rfl]

/-- **Between a start and an ending stands one segment** exactly if the text has as many separators
as both together.  Where they overlap, the text has fewer. -/
theorem prefix_suffix_iff (hy : ∀ z ≠ [], z <+: y → c ∈ z) :
    (∃ mid, s = x ++ mid ++ y ∧ c ∉ mid)
      ↔ x <+: s ∧ y <:+ s ∧ s.count c = x.count c + y.count c := by
  constructor
  · rintro ⟨mid, rfl, hmid⟩
    refine ⟨⟨mid ++ y, by simp⟩, List.suffix_append _ _, ?_⟩
    rw [List.count_append, List.count_append, List.count_eq_zero_of_not_mem hmid, Nat.add_zero]
  · rintro ⟨⟨u, rfl⟩, hsuffix, hcount⟩
    rw [List.count_append] at hcount
    rcases List.suffix_or_suffix_of_suffix hsuffix (List.suffix_append x u) with
      ⟨mid, rfl⟩ | ⟨z, rfl⟩
    · rw [List.count_append] at hcount
      exact ⟨mid, (List.append_assoc _ _ _).symm, List.count_eq_zero.mp (by omega)⟩
    · -- the ending begins within the start, with a separator that is counted twice
      rw [List.count_append] at hcount
      have hz : c ∉ z := List.count_eq_zero.mp (by omega)
      have hnil : z = [] := by
        by_contra hne
        exact hz (hy z hne (List.prefix_append _ _))
      exact ⟨[], by simp [hnil], List.not_mem_nil⟩

end Segments
