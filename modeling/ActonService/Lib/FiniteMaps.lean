import Mathlib.Data.Finmap

/-!
# Finite maps

A hash map as a `Finmap`, which has no order.  A loop over a hash set that changes one entry of a
map at a time comes to the same in every order.

## Main definitions

* `FiniteMap` — a map from keys to values.
* `FiniteMap.alter` — the map with one entry changed or dropped.

## Main results

* `lookup_alter`, `lookup_foldl_alter` — what is found after one change, and after a loop.
-/

/-- A map from keys to values. -/
abbrev FiniteMap (κ α : Type) := Finmap fun _ : κ => α

namespace FiniteMap

variable {κ α : Type} [DecidableEq κ]

theorem keys_insert (m : FiniteMap κ α) (k : κ) (a : α) :
    (Finmap.insert k a m).keys = insert k m.keys := by
  ext k'
  rw [Finmap.mem_keys, Finmap.mem_insert, Finset.mem_insert, Finmap.mem_keys]

theorem insert_lookup {m : FiniteMap κ α} {k : κ} {a : α} (h : m.lookup k = some a) :
    m.insert k a = m := by
  refine Finmap.ext_lookup fun k' => ?_
  by_cases hsame : k' = k
  · subst hsame
    rw [Finmap.lookup_insert, h]
  · exact Finmap.lookup_insert_of_ne m hsame

/-- The map with the entry of a key changed, or without it. -/
def alter (f : α → Option α) (m : FiniteMap κ α) (k : κ) : FiniteMap κ α :=
  match m.lookup k with
  | none => m
  | some a =>
    match f a with
    | some b => m.insert k b
    | none => m.erase k

/-- **What is found after a change.** -/
theorem lookup_alter (f : α → Option α) (m : FiniteMap κ α) (k k' : κ) :
    (alter f m k).lookup k' = if k' = k then (m.lookup k).bind f else m.lookup k' := by
  rw [alter]
  by_cases hsame : k' = k
  · subst hsame
    rw [if_pos rfl]
    cases hk : m.lookup k' with
    | none => exact hk
    | some a =>
      rw [Option.bind_some]
      dsimp only
      cases f a with
      | some b => exact Finmap.lookup_insert m
      | none => exact Finmap.lookup_erase k' m
  · rw [if_neg hsame]
    cases m.lookup k with
    | none => rfl
    | some a =>
      dsimp only
      cases f a with
      | some b => exact Finmap.lookup_insert_of_ne m hsame
      | none => exact Finmap.lookup_erase_ne hsame

/-- Changes of two entries come to the same in both orders. -/
instance rightCommutativeAlter (f : α → Option α) :
    RightCommutative (alter f : FiniteMap κ α → κ → FiniteMap κ α) where
  right_comm m k l := by
    refine Finmap.ext_lookup fun k' => ?_
    simp only [lookup_alter]
    by_cases hsame : k = l
    · rw [hsame]
    · by_cases hk : k' = k
      · simp [hk, hsame]
      · by_cases hl : k' = l
        · simp [hl, Ne.symm hsame]
        · simp [hk, hl]

/-- **What is found after a loop** over a set of keys. -/
theorem lookup_foldl_alter (f : α → Option α) (s : Finset κ) (m : FiniteMap κ α) (k : κ) :
    (s.val.foldl (alter f) m).lookup k
      = if k ∈ s then (m.lookup k).bind f else m.lookup k := by
  induction s using Finset.induction_on generalizing m with
  | empty => rfl
  | insert l s hl ih =>
    rw [Finset.insert_val_of_notMem hl, Multiset.foldl_cons, ih, lookup_alter]
    by_cases hsame : k = l
    · subst hsame
      simp [hl]
    · simp [hsame]

/-- The map with the entries that a predicate keeps. -/
def retain (p : α → Bool) (m : FiniteMap κ α) : FiniteMap κ α :=
  m.keys.val.foldl (alter fun a => if p a then some a else none) m

/-- What is found among the entries that are kept. -/
theorem lookup_retain (p : α → Bool) (m : FiniteMap κ α) (k : κ) :
    (retain p m).lookup k = (m.lookup k).filter p := by
  have hbind : (m.lookup k).bind (fun a => if p a then some a else none)
      = (m.lookup k).filter p := by
    cases m.lookup k <;> rfl
  rw [retain, lookup_foldl_alter]
  split
  · exact hbind
  · next hk =>
    rw [Finmap.mem_keys, ← Finmap.lookup_eq_none] at hk
    rw [hk]
    rfl

end FiniteMap
