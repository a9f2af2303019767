import Mathlib.Data.List.Sort

/-!
# What is found first

A search that prefers some elements to others finds one that nothing else found is preferred to.
Which one it is may depend on the order the elements come in.

## Main definitions

* `IsBest` — what a search may find.
* `Chooses` — a search that finds the best, any of them in some order.

## Main results

* `Chooses.forall_perm_iff` — **the order does not matter exactly if the best agree.**
* `isBest_of_find?`, `find?_insertionSort_cons` — searching a sorted list.
-/

namespace Priority

variable {α β κ : Type*} [LinearOrder κ] {key : α → κ} {found : α → Bool} {l l' : List α} {a b : α}

/-- An element that is found, and that no other is preferred to. -/
structure IsBest (key : α → κ) (found : α → Bool) (l : List α) (a : α) : Prop where
  mem : a ∈ l
  isFound : found a = true
  le : ∀ b ∈ l, found b = true → key b ≤ key a

theorem IsBest.perm (h : IsBest key found l a) (hl : l.Perm l') : IsBest key found l' a where
  mem := hl.mem_iff.mp h.mem
  isFound := h.isFound
  le := fun b hb => h.le b (hl.mem_iff.mpr hb)

/-- **A search that finds the best**, if anything is found, and any of them in some order. -/
structure Chooses (key : α → κ) (found : α → Bool) (choose : List α → Option α) : Prop where
  isBest : ∀ {l a}, choose l = some a → IsBest key found l a
  not_found : ∀ {l}, choose l = none → ∀ a ∈ l, found a = false
  exists_perm : ∀ {l a}, IsBest key found l a → ∃ l', l'.Perm l ∧ choose l' = some a

namespace Chooses

variable {choose : List α → Option α}

/-- Something is found exactly if there is something to find. -/
theorem eq_none_iff (h : Chooses key found choose) :
    choose l = none ↔ ∀ a ∈ l, found a = false := by
  refine ⟨h.not_found, fun hnone => ?_⟩
  cases hchoose : choose l with
  | none => rfl
  | some a =>
    have hbest := h.isBest hchoose
    have hfound := hbest.isFound
    rw [hnone a hbest.mem] at hfound
    cases hfound

/-- **The order does not matter exactly if the best agree.** -/
theorem forall_perm_iff (h : Chooses key found choose) (value : α → β) (l : List α) :
    (∀ l₁ l₂, l₁.Perm l → l₂.Perm l → (choose l₁).map value = (choose l₂).map value)
      ↔ ∀ a b, IsBest key found l a → IsBest key found l b → value a = value b := by
  constructor
  · intro hall a b ha hb
    obtain ⟨l₁, hperm₁, hchoose₁⟩ := h.exists_perm ha
    obtain ⟨l₂, hperm₂, hchoose₂⟩ := h.exists_perm hb
    have hsame := hall l₁ l₂ hperm₁ hperm₂
    rw [hchoose₁, hchoose₂] at hsame
    exact Option.some.inj hsame
  · intro hagree l₁ l₂ hperm₁ hperm₂
    cases hchoose₁ : choose l₁ with
    | none =>
      have hnone := h.not_found hchoose₁
      rw [h.eq_none_iff.mpr fun a ha => hnone a ((hperm₁.trans hperm₂.symm).mem_iff.mpr ha)]
    | some a =>
      have ha := (h.isBest hchoose₁).perm hperm₁
      cases hchoose₂ : choose l₂ with
      | none =>
        have hfound := h.not_found hchoose₂ a (hperm₂.mem_iff.mpr ha.mem)
        rw [ha.isFound] at hfound
        cases hfound
      | some b =>
        have hb := (h.isBest hchoose₂).perm hperm₂
        exact congrArg some (hagree a b ha hb)

/-- What is found is preferred to nothing less than what there is to find. -/
theorem exists_le (h : Chooses key found choose) (ha : a ∈ l) (hfound : found a = true) :
    ∃ b, choose l = some b ∧ key a ≤ key b := by
  cases hchoose : choose l with
  | none =>
    rw [h.not_found hchoose a ha] at hfound
    cases hfound
  | some b => exact ⟨b, rfl, (h.isBest hchoose).le a ha hfound⟩

end Chooses

/-! ### Searching a sorted list -/

theorem isBest_of_find?
    (h : (l.insertionSort fun a b => key b ≤ key a).find? found = some a) :
    IsBest key found l a := by
  have hsorted : (l.insertionSort fun a b => key b ≤ key a).Pairwise fun a b => key b ≤ key a :=
    have : Std.Total fun a b : α => key b ≤ key a := ⟨fun a b => le_total _ _⟩
    have : IsTrans α fun a b : α => key b ≤ key a := ⟨fun _ _ _ hab hbc => hbc.trans hab⟩
    List.pairwise_insertionSort _ _
  refine ⟨(List.mem_insertionSort _).mp (List.mem_of_find?_eq_some h), List.find?_some h, ?_⟩
  intro b hb hfound
  obtain ⟨-, front, behind, hlist, hfront⟩ := List.find?_eq_some_iff_append.mp h
  have hmem := (List.mem_insertionSort fun a b : α => key b ≤ key a).mpr hb
  rw [hlist] at hsorted hmem
  rcases List.mem_append.mp hmem with hmem | hmem
  · have hnot := hfront b hmem
    rw [hfound] at hnot
    contradiction
  · rcases List.mem_cons.mp hmem with rfl | hmem
    · exact le_rfl
    · exact (List.pairwise_cons.mp (List.pairwise_append.mp hsorted).2.1).1 b hmem

/-- What comes first among equals is found first: the sort is stable. -/
theorem find?_orderedInsert (ha : found a = true) (h : ∀ b ∈ l, found b = true → key b ≤ key a) :
    (l.orderedInsert (fun a b => key b ≤ key a) a).find? found = some a := by
  induction l with
  | nil => exact List.find?_cons_of_pos ha
  | cons b l ih =>
    by_cases hb : key b ≤ key a
    · rw [List.orderedInsert_cons_of_le (r := fun a b => key b ≤ key a) l hb]
      exact List.find?_cons_of_pos ha
    · rw [List.orderedInsert_of_not_le (r := fun a b => key b ≤ key a) l hb,
        List.find?_cons_of_neg fun hfound => hb (h b List.mem_cons_self hfound)]
      exact ih fun c hc => h c (List.mem_cons_of_mem _ hc)

theorem find?_insertionSort_cons (ha : found a = true)
    (h : ∀ b ∈ l, found b = true → key b ≤ key a) :
    ((a :: l).insertionSort fun a b => key b ≤ key a).find? found = some a := by
  rw [List.insertionSort_cons]
  exact find?_orderedInsert ha fun b hb => h b ((List.mem_insertionSort _).mp hb)

end Priority
