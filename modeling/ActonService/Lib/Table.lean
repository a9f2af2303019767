import Mathlib.Data.List.Nodup

/-!
# Tables

A table of a database, with a primary key and a column in which no value may stand twice.  A
statement that would break either is refused; an update names one row and leaves its key alone.

## Main definitions

* `Table` — a table that keeps to its constraints.
* `find`, `insert`, `update`, `erase` — the statements.

## Main results

* `find_eq_some_iff` — a row is known by its key.
* `find_insert`, `find_update`, `find_erase` — what is found after a statement.
* `exists_update` — an update that leaves the column alone is not refused.
-/

namespace Tables

variable {α κ υ : Type}

/-- A table with the rows `α`, their keys and a column without repetitions. -/
structure Table (key : α → κ) (unique : α → υ) where
  rows : List α
  key_nodup : (rows.map key).Nodup
  unique_nodup : (rows.map unique).Nodup

namespace Table

variable {key : α → κ} {unique : α → υ}

/-- The table without rows. -/
def empty : Table key unique := ⟨[], List.nodup_nil, List.nodup_nil⟩

theorem nodup_concat {β : Type} {f : α → β} {rows : List α} {a : α} (h : (rows.map f).Nodup)
    (ha : f a ∉ rows.map f) : ((rows ++ [a]).map f).Nodup := by
  rw [List.map_append, List.map_singleton, List.nodup_append]
  refine ⟨h, List.nodup_singleton _, ?_⟩
  rintro b hb c hc rfl
  rw [List.mem_singleton] at hc
  exact ha (hc ▸ hb)

theorem nodup_filter {β : Type} {f : α → β} {rows : List α} (p : α → Bool)
    (h : (rows.map f).Nodup) : ((rows.filter p).map f).Nodup :=
  h.sublist (List.filter_sublist.map f)

/-! ### Statements -/

/-- The table with one more row, unless a constraint refuses it. -/
def insert [DecidableEq κ] [DecidableEq υ] (t : Table key unique) (a : α) :
    Option (Table key unique) :=
  if hkey : key a ∈ t.rows.map key then none
  else if hunique : unique a ∈ t.rows.map unique then none
  else some ⟨t.rows ++ [a], nodup_concat t.key_nodup hkey, nodup_concat t.unique_nodup hunique⟩

section Key

variable [DecidableEq κ]

/-- The row with a key. -/
def find (t : Table key unique) (k : κ) : Option α := t.rows.find? fun a => key a = k

/-- The rows with the one of a key changed. -/
def changed (key : α → κ) (k : κ) (f : α → α) (rows : List α) : List α :=
  rows.map fun a => if key a = k then f a else a

theorem map_key_changed (k : κ) {f : α → α} (hf : ∀ a, key (f a) = key a) (rows : List α) :
    (changed key k f rows).map key = rows.map key := by
  rw [changed, List.map_map]
  apply List.map_congr_left
  intro a _
  rw [Function.comp_apply]
  split
  · exact hf a
  · rfl

theorem key_nodup_changed {k : κ} {f : α → α} (hf : ∀ a, key (f a) = key a) {rows : List α}
    (h : (rows.map key).Nodup) : ((changed key k f rows).map key).Nodup := by
  rw [map_key_changed k hf]
  exact h

/-- The table with the row of a key changed, unless the constraint on the column refuses it. -/
def update [DecidableEq υ] (t : Table key unique) (k : κ) (f : α → α)
    (hf : ∀ a, key (f a) = key a) : Option (Table key unique) :=
  if h : ((changed key k f t.rows).map unique).Nodup then
    some ⟨changed key k f t.rows, key_nodup_changed hf t.key_nodup, h⟩
  else none

/-- The table without the row of a key. -/
def erase (t : Table key unique) (k : κ) : Table key unique :=
  ⟨t.rows.filter fun a => key a ≠ k, nodup_filter _ t.key_nodup, nodup_filter _ t.unique_nodup⟩

/-! ### What is found -/

variable {t t' : Table key unique} {k k' : κ} {a : α} {f : α → α}

theorem find_eq_none_iff : t.find k = none ↔ k ∉ t.rows.map key := by
  simp [find, List.find?_eq_none]

theorem key_of_find (h : t.find k = some a) : key a = k := by
  simpa using List.find?_some h

/-- **A row is known by its key.** -/
theorem find_eq_some_iff : t.find k = some a ↔ a ∈ t.rows ∧ key a = k := by
  constructor
  · intro h
    exact ⟨List.mem_of_find?_eq_some h, key_of_find h⟩
  · rintro ⟨hmem, rfl⟩
    cases hfound : t.find (key a) with
    | none => exact absurd (List.mem_map_of_mem hmem) (find_eq_none_iff.mp hfound)
    | some b =>
      have hb := List.mem_of_find?_eq_some hfound
      exact congrArg some (List.inj_on_of_nodup_map t.key_nodup hb hmem (key_of_find hfound))

theorem find_key (h : a ∈ t.rows) : t.find (key a) = some a :=
  find_eq_some_iff.mpr ⟨h, rfl⟩

/-- A row that is added has a key of its own. -/
theorem find_of_insert [DecidableEq υ] (h : t.insert a = some t') : t.find (key a) = none := by
  rw [insert] at h
  split at h
  · contradiction
  · next hkey => exact find_eq_none_iff.mpr hkey

/-- What is found after a row is added. -/
theorem find_insert [DecidableEq υ] (h : t.insert a = some t') :
    t'.find k = if key a = k then some a else t.find k := by
  rw [insert] at h
  split at h
  · contradiction
  · next hkey =>
    split at h
    · contradiction
    · cases h
      rw [find, List.find?_append]
      split
      · next hk =>
        have hnone : t.find k = none := find_eq_none_iff.mpr (hk ▸ hkey)
        rw [find] at hnone
        rw [hnone]
        simp [hk]
      · next hk =>
        rw [find]
        simp [hk]

theorem find_changed (f : α → α) (hf : ∀ a, key (f a) = key a) (rows : List α) :
    (changed key k f rows).find? (fun a => key a = k')
      = if k' = k then (rows.find? fun a => key a = k').map f
        else rows.find? fun a => key a = k' := by
  induction rows with
  | nil => simp [changed]
  | cons a rows ih =>
    have hcons : changed key k f (a :: rows)
        = (if key a = k then f a else a) :: changed key k f rows := rfl
    have hkey : key (if key a = k then f a else a) = key a := by
      split
      · exact hf a
      · rfl
    rw [hcons, List.find?_cons, List.find?_cons, ih, hkey]
    by_cases hk' : key a = k'
    · by_cases hk : k' = k
      · simp [hk', hk]
      · have hne : key a ≠ k := fun h => hk (hk'.symm.trans h)
        simp [hk', hk]
    · simp [hk']

/-- **What is found after an update.** -/
theorem find_update [DecidableEq υ] {hf : ∀ a, key (f a) = key a}
    (h : t.update k f hf = some t') :
    t'.find k' = if k' = k then (t.find k').map f else t.find k' := by
  rw [update] at h
  split at h
  · cases h
    exact find_changed f hf t.rows
  · contradiction

/-- What is found after an update is the row that was changed, or was found before. -/
theorem find_update_cases [DecidableEq υ] {hf : ∀ a, key (f a) = key a}
    (h : t.update k f hf = some t') (ha : t'.find k' = some a) :
    (k' = k ∧ ∃ old, t.find k = some old ∧ a = f old) ∨ (k' ≠ k ∧ t.find k' = some a) := by
  rw [find_update h] at ha
  split at ha
  · next hk =>
    obtain ⟨old, hold, rfl⟩ := Option.map_eq_some_iff.mp ha
    exact .inl ⟨hk, old, hk ▸ hold, rfl⟩
  · next hk => exact .inr ⟨hk, ha⟩

/-- A row after an update was there before, or it is the one that was changed. -/
theorem mem_of_update [DecidableEq υ] {hf : ∀ a, key (f a) = key a} (h : t.update k f hf = some t')
    (ha : a ∈ t'.rows) : a ∈ t.rows ∨ ∃ old ∈ t.rows, key old = k ∧ a = f old := by
  rw [update] at h
  split at h
  · cases h
    obtain ⟨old, hold, rfl⟩ := List.mem_map.mp ha
    split
    · next hk => exact .inr ⟨old, hold, hk, rfl⟩
    · exact .inl hold
  · contradiction

/-- A row after one is added was there before, or it is the new one. -/
theorem mem_of_insert [DecidableEq υ] {new : α} (h : t.insert new = some t') (ha : a ∈ t'.rows) :
    a ∈ t.rows ∨ a = new := by
  rw [insert] at h
  split at h
  · contradiction
  · split at h
    · contradiction
    · cases h
      simpa using ha

/-- A row after one is gone was there before. -/
theorem mem_of_erase (ha : a ∈ (t.erase k).rows) : a ∈ t.rows := List.mem_of_mem_filter ha

/-- An update that leaves the column alone is not refused. -/
theorem exists_update [DecidableEq υ] (hf : ∀ a, key (f a) = key a)
    (hunique : ∀ a, unique (f a) = unique a) : ∃ t', t.update k f hf = some t' := by
  have hmap : (changed key k f t.rows).map unique = t.rows.map unique := by
    rw [changed, List.map_map]
    apply List.map_congr_left
    intro a _
    rw [Function.comp_apply]
    split
    · exact hunique a
    · rfl
  rw [update, dif_pos (hmap ▸ t.unique_nodup)]
  exact ⟨_, rfl⟩

/-- An update that gives its row a value no other row has in the column is not refused. -/
theorem exists_update_of_free [DecidableEq υ] (hf : ∀ a, key (f a) = key a) {u : υ}
    (hunique : ∀ a, unique (f a) = u) (hfree : ∀ a ∈ t.rows, unique a = u → key a = k) :
    ∃ t', t.update k f hf = some t' := by
  have hmap : (changed key k f t.rows).map unique
      = t.rows.map fun a => if key a = k then u else unique a := by
    rw [changed, List.map_map]
    apply List.map_congr_left
    intro a _
    rw [Function.comp_apply]
    split
    · exact hunique a
    · rfl
  have hnodup : ((changed key k f t.rows).map unique).Nodup := by
    rw [hmap]
    refine List.Nodup.map_on ?_ (List.Nodup.of_map key t.key_nodup)
    intro a ha a' ha' heq
    -- rows with the key are the same row, and the others keep their values
    by_cases hk : key a = k
    · rw [if_pos hk] at heq
      refine List.inj_on_of_nodup_map t.key_nodup ha ha' (hk.trans (Eq.symm ?_))
      by_contra hk'
      rw [if_neg hk'] at heq
      exact hk' (hfree a' ha' heq.symm)
    · rw [if_neg hk] at heq
      have hk' : key a' ≠ k := by
        intro hk'
        rw [if_pos hk'] at heq
        exact hk (hfree a ha heq)
      rw [if_neg hk'] at heq
      exact List.inj_on_of_nodup_map t.unique_nodup ha ha' heq
  rw [update, dif_pos hnodup]
  exact ⟨_, rfl⟩

/-- What is found after a row is gone. -/
theorem find_erase : (t.erase k).find k' = if k' = k then none else t.find k' := by
  rw [find, find, erase, List.find?_filter]
  split
  · next h =>
    rw [List.find?_eq_none]
    intro a _
    simp [h]
  · next h =>
    congr 1
    funext a
    by_cases hk' : key a = k'
    · simp [hk', h]
    · simp [hk']

end Key

end Table

end Tables
