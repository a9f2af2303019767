import Mathlib.Data.List.Basic
import Mathlib.Data.List.Forall2
import Mathlib.Data.List.Induction
import Mathlib.Data.List.Nodup

/-!
# Hash chains

A hash chain is a list of entries each of which names the hash of the entry
before it.  Entries and hashes are arbitrary types: an entry `e` carries the
hash `prev e` it names and the hash `hash e` it is named by, both optional, so
that the first entry can name nothing.

Nothing here says how a hash is computed.  What a collision-free hash is used for
is stated as what it gives: entries with the same hash name the same predecessor.

## Main definitions

* `Linked prev hash p es` — `es` continues a chain whose last hash is `p`.
* `tip hash p es` — the last hash of the chain `p` continued by `es`.
* `firstBreak prev hash p es` — the first entry of `es` that does not continue the chain.
* `kept`, `firstAfterGap` — what is left of a list whose entries may be lost, and the
  first entry left behind the first lost one.

## Main results

* `forall₂_of_tip_eq` — **the last hash commits to the whole chain.**
* `nodup_hash` — no hash occurs twice in a chain.
* `firstBreak_kept` — **losing entries breaks the chain at the first entry behind
  the first gap, and nowhere else.**
-/

namespace HashChain

variable {ε η : Type*} (prev hash : ε → Option η)

/-- The entries continue a chain whose last hash is `p`. -/
def Linked : Option η → List ε → Prop
  | _, [] => True
  | p, e :: es => prev e = p ∧ Linked (hash e) es

/-- The last hash of the chain `p` continued by the entries. -/
def tip : Option η → List ε → Option η
  | p, [] => p
  | _, e :: es => tip (hash e) es

/-- The first entry that does not continue the chain. -/
def firstBreak [DecidableEq η] : Option η → List ε → Option ε
  | _, [] => none
  | p, e :: es => if prev e = p then firstBreak (hash e) es else some e

variable {prev hash}

@[simp] theorem linked_nil (p : Option η) : Linked prev hash p [] := trivial

@[simp] theorem linked_cons (p : Option η) (e : ε) (es : List ε) :
    Linked prev hash p (e :: es) ↔ prev e = p ∧ Linked prev hash (hash e) es := Iff.rfl

@[simp] theorem tip_nil (p : Option η) : tip hash p [] = p := rfl

@[simp] theorem tip_cons (p : Option η) (e : ε) (es : List ε) :
    tip hash p (e :: es) = tip hash (hash e) es := rfl

theorem tip_append (p : Option η) (xs ys : List ε) :
    tip hash p (xs ++ ys) = tip hash (tip hash p xs) ys := by
  induction xs generalizing p with
  | nil => rfl
  | cons x xs ih => exact ih (hash x)

/-- A nonempty chain ends in the hash of its last entry, wherever it started. -/
theorem tip_concat (p : Option η) (xs : List ε) (x : ε) : tip hash p (xs ++ [x]) = hash x := by
  rw [tip_append]
  rfl

theorem linked_append (p : Option η) (xs ys : List ε) :
    Linked prev hash p (xs ++ ys)
      ↔ Linked prev hash p xs ∧ Linked prev hash (tip hash p xs) ys := by
  induction xs generalizing p with
  | nil => simp
  | cons x xs ih => simp [ih, and_assoc]

/-- Entries with the same links continue the same chains. -/
theorem linked_iff_of_forall₂ {as bs : List ε}
    (h : List.Forall₂ (fun a b => prev b = prev a ∧ hash b = hash a) as bs) (p : Option η) :
    Linked prev hash p bs ↔ Linked prev hash p as := by
  induction h generalizing p with
  | nil => exact Iff.rfl
  | cons hab _ ih => rw [linked_cons, linked_cons, hab.1, hab.2, ih]

theorem tip_getLast? (p : Option η) (es : List ε) :
    tip hash p es = (es.getLast?.map hash).getD p := by
  cases es using List.reverseRecOn with
  | nil => rfl
  | append_singleton es e => simp [tip_concat]

/-! ### The last hash commits to the chain -/

/-- **The last hash commits to the whole chain.**  If entries with the same hash
agree up to `R` and name the same predecessor, two chains from the start with the
same last hash agree entry by entry. -/
theorem forall₂_of_tip_eq {R : ε → ε → Prop} : ∀ {as bs : List ε},
    Linked prev hash none as → Linked prev hash none bs →
    (∀ a ∈ as, hash a ≠ none) → (∀ b ∈ bs, hash b ≠ none) →
    (∀ a ∈ as, ∀ b ∈ bs, hash a = hash b → R a b ∧ prev a = prev b) →
    tip hash none as = tip hash none bs → List.Forall₂ R as bs := by
  -- The chains are compared from their ends, so the induction takes entries off the back.
  intro as
  induction as using List.reverseRecOn with
  | nil =>
    intro bs _ _ _ hb _ htip
    cases bs using List.reverseRecOn with
    | nil => exact List.Forall₂.nil
    | append_singleton bs b =>
      rw [tip_concat] at htip
      exact absurd htip.symm (hb b (by simp))
  | append_singleton as a ih =>
    intro bs hlinkA hlinkB ha hb hcommit htip
    cases bs using List.reverseRecOn with
    | nil =>
      rw [tip_concat] at htip
      exact absurd htip (ha a (by simp))
    | append_singleton bs b =>
      rw [tip_concat, tip_concat] at htip
      obtain ⟨hR, hprev⟩ := hcommit a (by simp) b (by simp) htip
      rw [linked_append, linked_cons] at hlinkA hlinkB
      have htip' : tip hash none as = tip hash none bs := by
        rw [← hlinkA.2.1, ← hlinkB.2.1, hprev]
      have hrest := ih hlinkA.1 hlinkB.1
        (fun x hx => ha x (List.mem_append_left _ hx))
        (fun x hx => hb x (List.mem_append_left _ hx))
        (fun x hx y hy => hcommit x (List.mem_append_left _ hx) y (List.mem_append_left _ hy))
        htip'
      exact List.rel_append hrest (List.Forall₂.cons hR List.Forall₂.nil)

/-- No hash occurs twice in a chain from the start: a repeated one would commit
to two histories of different lengths. -/
theorem nodup_hash : ∀ {es : List ε}, Linked prev hash none es → (∀ e ∈ es, hash e ≠ none) →
    (∀ a ∈ es, ∀ b ∈ es, hash a = hash b → prev a = prev b) → (es.map hash).Nodup := by
  intro es
  induction es using List.reverseRecOn with
  | nil => intros; simp
  | append_singleton es b ih =>
    intro hlink hne hcommit
    have hleft := (linked_append none es [b]).mp hlink
    rw [List.map_append, List.map_singleton, List.nodup_append]
    refine ⟨ih hleft.1 (fun e he => hne e (List.mem_append_left _ he))
      (fun a ha c hc => hcommit a (List.mem_append_left _ ha) c (List.mem_append_left _ hc)),
      List.nodup_singleton _, ?_⟩
    intro h hmem h' hb
    rw [List.mem_singleton] at hb
    subst hb
    rintro rfl
    obtain ⟨a, ha, hab⟩ := List.mem_map.mp hmem
    obtain ⟨xs, ys, rfl⟩ := List.append_of_mem ha
    -- the history up to `a` and the history up to `b` have the same last hash
    have hsplit := (linked_append none xs (a :: ys)).mp hleft.1
    have hup : Linked prev hash none (xs ++ [a]) :=
      (linked_append none xs [a]).mpr ⟨hsplit.1, hsplit.2.1, trivial⟩
    have hsub : ∀ x ∈ xs ++ [a], x ∈ xs ++ a :: ys ++ [b] := by
      intro x hx
      simp only [List.mem_append, List.mem_singleton] at hx
      simp only [List.mem_append, List.mem_cons]
      tauto
    have hall : List.Forall₂ (fun _ _ => True) (xs ++ [a]) (xs ++ a :: ys ++ [b]) :=
      forall₂_of_tip_eq hup hlink (fun x hx => hne x (hsub x hx)) hne
        (fun x hx y hy hxy => ⟨trivial, hcommit x (hsub x hx) y hy hxy⟩)
        (by rw [tip_concat, tip_concat, hab])
    have hlen := hall.length_eq
    simp at hlen

/-! ### Breaks -/

variable [DecidableEq η]

@[simp] theorem firstBreak_nil (p : Option η) : firstBreak prev hash p [] = none := rfl

theorem firstBreak_cons (p : Option η) (e : ε) (es : List ε) :
    firstBreak prev hash p (e :: es)
      = if prev e = p then firstBreak prev hash (hash e) es else some e := rfl

/-- The entries that were not lost. -/
def kept (l : List (ε × Bool)) : List ε := (l.filter (·.2)).map (·.1)

/-- The first entry that was not lost, behind the first one that was. -/
def firstAfterGap (l : List (ε × Bool)) : Option ε :=
  ((l.dropWhile (·.2)).find? (·.2)).map (·.1)

omit [DecidableEq η] in
/-- In a chain whose hashes are new, no later entry names the hash it started from. -/
theorem prev_ne_of_mem {p : Option η} : ∀ {e : ε} {es : List ε},
    Linked prev hash (hash e) es → (∀ x ∈ e :: es, hash x ≠ p) → ∀ x ∈ es, prev x ≠ p := by
  intro e es
  induction es generalizing e with
  | nil => intro _ _ x hx; simp at hx
  | cons d es ih =>
    intro hlink hne x hx
    rcases List.mem_cons.mp hx with rfl | hx
    · rw [hlink.1]
      exact hne e List.mem_cons_self
    · exact ih hlink.2 (fun y hy => hne y (List.mem_cons_of_mem _ hy)) x hx

omit [DecidableEq η] in
theorem kept_cons_true (e : ε) (l : List (ε × Bool)) : kept ((e, true) :: l) = e :: kept l := rfl

omit [DecidableEq η] in
theorem kept_cons_false (e : ε) (l : List (ε × Bool)) : kept ((e, false) :: l) = kept l := rfl

omit [DecidableEq η] in
theorem kept_concat (l : List (ε × Bool)) (e : ε) (b : Bool) :
    kept (l ++ [(e, b)]) = kept l ++ if b then [e] else [] := by
  cases b <;> simp [kept]

omit [DecidableEq η] in
theorem kept_sublist (l : List (ε × Bool)) : (kept l).Sublist (l.map (·.1)) :=
  List.filter_sublist.map _

omit [DecidableEq η] in
theorem head?_kept (l : List (ε × Bool)) : (kept l).head? = (l.find? (·.2)).map (·.1) := by
  rw [kept, List.head?_map, List.head?_filter]

/-- **Lost entries are detected exactly.**  What is left of a chain breaks at the
first entry behind the first gap, and nowhere else. -/
theorem firstBreak_kept : ∀ {l : List (ε × Bool)} {p : Option η},
    Linked prev hash p (l.map (·.1)) → ((l.map (·.1)).map hash).Nodup →
    p ∉ (l.map (·.1)).map hash → firstBreak prev hash p (kept l) = firstAfterGap l := by
  intro l
  induction l with
  | nil => intro p _ _ _; rfl
  | cons x l ih =>
    obtain ⟨e, b⟩ := x
    intro p hlink hnd hp
    rw [List.map_cons, linked_cons] at hlink
    rw [List.map_cons, List.map_cons, List.nodup_cons] at hnd
    cases b with
    | true =>
      rw [kept_cons_true, firstBreak_cons, if_pos hlink.1, ih hlink.2 hnd.2 hnd.1]
      rfl
    | false =>
      -- everything kept from here on stands behind the gap, so the first of it breaks
      have hgap : firstAfterGap ((e, false) :: l) = (kept l).head? := by
        rw [head?_kept]
        rfl
      rw [kept_cons_false, hgap]
      cases hk : kept l with
      | nil => rfl
      | cons f fs =>
        have hne : prev f ≠ p := by
          refine prev_ne_of_mem (p := p) hlink.2 ?_ f (((kept_sublist l).subset (by rw [hk]; simp)))
          intro y hy hyp
          exact hp (by rw [← hyp]; exact List.mem_map_of_mem hy)
        rw [firstBreak_cons, if_neg hne]
        rfl

omit [DecidableEq η] in
/-- An entry is kept behind a gap exactly when a lost one stands before a kept one. -/
theorem firstAfterGap_ne_none_iff (l : List (ε × Bool)) :
    firstAfterGap l ≠ none ↔ ∃ lost found, [(lost, false), (found, true)].Sublist l := by
  induction l with
  | nil => simp [firstAfterGap]
  | cons x l ih =>
    obtain ⟨e, b⟩ := x
    cases b with
    | true =>
      have hskip : firstAfterGap ((e, true) :: l) = firstAfterGap l := rfl
      rw [hskip, ih]
      simp [List.sublist_cons_iff]
    | false =>
      have hgap : firstAfterGap ((e, false) :: l) = (kept l).head? := by
        rw [head?_kept]
        rfl
      rw [hgap, Ne, List.head?_eq_none_iff]
      constructor
      · intro hne
        obtain ⟨_, hfound⟩ := List.exists_mem_of_ne_nil _ hne
        obtain ⟨⟨found, b⟩, hmem, -⟩ := List.mem_map.mp hfound
        obtain ⟨hin, rfl⟩ := List.mem_filter.mp hmem
        exact ⟨e, found, (List.singleton_sublist.mpr hin).cons_cons _⟩
      · rintro ⟨lost, found, hsub⟩
        have hin : (found, true) ∈ (e, false) :: l := hsub.subset (by simp)
        have htail : (found, true) ∈ l := by simpa using hin
        exact List.ne_nil_of_mem (List.mem_map.mpr ⟨_, List.mem_filter.mpr ⟨htail, rfl⟩, rfl⟩)

end HashChain
