import Mathlib.Data.List.Basic
import Mathlib.Data.List.Dedup
import Mathlib.Data.List.Nodup

/-!
# Maps that keep the order of insertion

A map as the list of its entries, in the order their keys were inserted first.  Inserting
under a key that is taken replaces the value where it stands.  Where the order does not matter
it is any order, so a hash map with the order of one of its traversals is such a map too.

## Main definitions

* `OrderedMap` — entries with distinct keys.
* `OrderedMap.get?`, `OrderedMap.insert`, `OrderedMap.insertAll`, `OrderedMap.map`.

## Main results

* `OrderedMap.get?_insert`, `OrderedMap.get?_insertAll`, `OrderedMap.get?_map` — what is found
  under a key.
-/

/-- A map that keeps the order of insertion. -/
structure OrderedMap (κ α : Type) where
  entries : List (κ × α)
  nodup : (entries.map Prod.fst).Nodup

namespace OrderedMap

variable {κ α β : Type} [DecidableEq κ]

/-! ### Entries -/

/-- The entries with a value under the key. -/
def insertEntry (key : κ) (v : α) : List (κ × α) → List (κ × α)
  | [] => [(key, v)]
  | e :: es => if e.1 = key then (key, v) :: es else e :: insertEntry key v es

theorem lookup_cons (k : κ) (e : κ × α) (es : List (κ × α)) :
    (e :: es).lookup k = if k = e.1 then some e.2 else es.lookup k := by
  obtain ⟨key, v⟩ := e
  rw [List.lookup_cons]
  by_cases h : k = key
  · simp [h]
  · have hne : (k == key) = false := by simpa using h
    simp [h, hne]

theorem mem_keys_insertEntry {key k : κ} {v : α} {es : List (κ × α)} :
    k ∈ (insertEntry key v es).map Prod.fst ↔ k = key ∨ k ∈ es.map Prod.fst := by
  induction es with
  | nil => simp [insertEntry]
  | cons e es ih =>
    by_cases h : e.1 = key
    · simp [insertEntry, h]
    · simp only [insertEntry, if_neg h, List.map_cons, List.mem_cons, ih]
      exact or_left_comm

theorem nodup_insertEntry {es : List (κ × α)} (h : (es.map Prod.fst).Nodup) (key : κ) (v : α) :
    ((insertEntry key v es).map Prod.fst).Nodup := by
  induction es with
  | nil => exact List.nodup_singleton _
  | cons e es ih =>
    rw [List.map_cons, List.nodup_cons] at h
    by_cases hkey : e.1 = key
    · simp only [insertEntry, if_pos hkey, List.map_cons, List.nodup_cons]
      exact ⟨hkey ▸ h.1, h.2⟩
    · simp only [insertEntry, if_neg hkey, List.map_cons, List.nodup_cons]
      refine ⟨fun hmem => ?_, ih h.2⟩
      rcases mem_keys_insertEntry.mp hmem with heq | hmem
      · exact hkey heq
      · exact h.1 hmem

theorem lookup_insertEntry (key k : κ) (v : α) (es : List (κ × α)) :
    (insertEntry key v es).lookup k = if k = key then some v else es.lookup k := by
  induction es with
  | nil => simp [insertEntry, lookup_cons]
  | cons e es ih =>
    by_cases h : e.1 = key
    · by_cases hk : k = key <;> simp [insertEntry, h, lookup_cons, hk]
    · by_cases hk : k = e.1
      · have hne : k ≠ key := fun heq => h (hk ▸ heq)
        simp [insertEntry, h, lookup_cons, hk]
      · simp [insertEntry, h, lookup_cons, hk, ih]

omit [DecidableEq κ] in
theorem keys_map_snd (f : κ → α → β) (es : List (κ × α)) :
    (es.map fun e => (e.1, f e.1 e.2)).map Prod.fst = es.map Prod.fst := by
  simp [List.map_map, Function.comp_def]

theorem lookup_map_snd (f : κ → α → β) (k : κ) (es : List (κ × α)) :
    (es.map fun e => (e.1, f e.1 e.2)).lookup k = (es.lookup k).map (f k) := by
  induction es with
  | nil => rfl
  | cons e es ih =>
    by_cases h : k = e.1
    · subst h
      simp [lookup_cons]
    · simp [lookup_cons, h, ih]

/-- A condition on keys selects what is found under them. -/
theorem lookup_filter_fst (p : κ → Bool) (k : κ) (es : List (κ × α)) :
    (es.filter fun e => p e.1).lookup k = if p k = true then es.lookup k else none := by
  induction es with
  | nil => simp
  | cons e es ih =>
    by_cases h : k = e.1
    · subst h
      by_cases hp : p e.1 = true
      · simp [hp, lookup_cons]
      · simp [hp, ih]
    · by_cases hp : p e.1 = true <;> simp [hp, lookup_cons, h, ih]

theorem lookup_eq_none_of_notMem {k : κ} {es : List (κ × α)} (h : k ∉ es.map Prod.fst) :
    es.lookup k = none := by
  rw [List.lookup_eq_none_iff]
  intro e he
  have hne : k ≠ e.1 := fun heq => h (heq ▸ List.mem_map_of_mem he)
  simpa using hne

/-! ### Maps -/

/-- The map without entries. -/
def empty : OrderedMap κ α := ⟨[], List.nodup_nil⟩

/-- The value under a key. -/
def get? (m : OrderedMap κ α) (key : κ) : Option α := m.entries.lookup key

/-- The map with a value under the key. -/
def insert (m : OrderedMap κ α) (key : κ) (v : α) : OrderedMap κ α :=
  ⟨insertEntry key v m.entries, nodup_insertEntry m.nodup key v⟩

/-- The map with a list of entries inserted one after the other. -/
def insertAll (m : OrderedMap κ α) (es : List (κ × α)) : OrderedMap κ α :=
  es.foldl (fun m e => m.insert e.1 e.2) m

/-- The map with its values changed. -/
def map (m : OrderedMap κ α) (f : κ → α → β) : OrderedMap κ β :=
  ⟨m.entries.map fun e => (e.1, f e.1 e.2), (keys_map_snd f m.entries).symm ▸ m.nodup⟩

@[simp] theorem get?_empty (k : κ) : (empty : OrderedMap κ α).get? k = none := rfl

theorem get?_insert (m : OrderedMap κ α) (key k : κ) (v : α) :
    (m.insert key v).get? k = if k = key then some v else m.get? k :=
  lookup_insertEntry key k v m.entries

@[simp] theorem get?_map (m : OrderedMap κ α) (f : κ → α → β) (k : κ) :
    (m.map f).get? k = (m.get? k).map (f k) :=
  lookup_map_snd f k m.entries

/-- What is found after insertions is what was inserted, or was there before. -/
theorem get?_insertAll {es : List (κ × α)} (h : (es.map Prod.fst).Nodup) (m : OrderedMap κ α)
    (k : κ) : (m.insertAll es).get? k = (es.lookup k).or (m.get? k) := by
  induction es generalizing m with
  | nil => rfl
  | cons e es ih =>
    rw [List.map_cons, List.nodup_cons] at h
    have hstep : m.insertAll (e :: es) = (m.insert e.1 e.2).insertAll es := rfl
    rw [hstep, ih h.2, get?_insert, lookup_cons]
    by_cases hk : k = e.1
    · subst hk
      simp [lookup_eq_none_of_notMem h.1]
    · simp [hk]

/-- An entry under a new key comes last. -/
theorem insertEntry_of_notMem {key : κ} {es : List (κ × α)} (h : key ∉ es.map Prod.fst) (v : α) :
    insertEntry key v es = es ++ [(key, v)] := by
  induction es with
  | nil => rfl
  | cons e es ih =>
    rw [List.map_cons, List.mem_cons, not_or] at h
    rw [insertEntry, if_neg (Ne.symm h.1), ih h.2, List.cons_append]

theorem mem_keys_insertAll {k : κ} {m : OrderedMap κ α} {es : List (κ × α)} :
    k ∈ (m.insertAll es).entries.map Prod.fst
      ↔ k ∈ m.entries.map Prod.fst ∨ k ∈ es.map Prod.fst := by
  induction es generalizing m with
  | nil => simp [insertAll]
  | cons e es ih =>
    have hstep : m.insertAll (e :: es) = (m.insert e.1 e.2).insertAll es := rfl
    rw [hstep, ih, List.map_cons, List.mem_cons, insert, mem_keys_insertEntry]
    tauto

/-- **Entries under different keys** are kept in the order they are inserted. -/
theorem entries_insertAll {m : OrderedMap κ α} {es : List (κ × α)}
    (h : ((m.entries ++ es).map Prod.fst).Nodup) : (m.insertAll es).entries = m.entries ++ es := by
  induction es generalizing m with
  | nil => exact (List.append_nil _).symm
  | cons e es ih =>
    have hnew : e.1 ∉ m.entries.map Prod.fst := by
      rw [List.map_append, List.nodup_append] at h
      exact fun hmem => h.2.2 _ hmem _ List.mem_cons_self rfl
    have hinsert : (m.insert e.1 e.2).entries = m.entries ++ [e] := insertEntry_of_notMem hnew e.2
    have hstep : m.insertAll (e :: es) = (m.insert e.1 e.2).insertAll es := rfl
    rw [hstep, ih, hinsert, List.append_assoc, List.singleton_append]
    rw [hinsert, List.append_assoc, List.singleton_append]
    exact h

/-- As many entries as are inserted are kept only if their keys are different. -/
theorem nodup_of_length_insertAll {es : List (κ × α)}
    (h : ((empty : OrderedMap κ α).insertAll es).entries.length = es.length) :
    (es.map Prod.fst).Nodup := by
  have hkeys : (((empty : OrderedMap κ α).insertAll es).entries.map Prod.fst).Perm
      (es.map Prod.fst).dedup := by
    rw [List.perm_ext_iff_of_nodup ((empty : OrderedMap κ α).insertAll es).nodup
      (List.nodup_dedup _)]
    intro k
    rw [mem_keys_insertAll, List.mem_dedup]
    simp [empty]
  have hlength := hkeys.length_eq
  rw [List.length_map, h, ← List.length_map (f := Prod.fst)] at hlength
  rw [← List.dedup_eq_self]
  exact (List.dedup_sublist _).eq_of_length hlength.symm

/-- What is found under a key is an entry. -/
theorem get?_eq_some_iff {m : OrderedMap κ α} {k : κ} {v : α} :
    m.get? k = some v ↔ (k, v) ∈ m.entries := by
  obtain ⟨es, hnodup⟩ := m
  rw [get?]
  induction es with
  | nil => simp
  | cons e es ih =>
    rw [List.map_cons, List.nodup_cons] at hnodup
    rw [lookup_cons, List.mem_cons]
    by_cases h : k = e.1
    · subst h
      have hnot : (e.1, v) ∉ es := fun hmem => hnodup.1 (List.mem_map.mpr ⟨_, hmem, rfl⟩)
      simp only [if_true, Option.some.injEq, hnot, or_false]
      exact ⟨fun hv => by rw [← hv], fun he => by rw [← he]⟩
    · have hne : (k, v) ≠ e := fun heq => h (congrArg Prod.fst heq)
      simp only [h, if_false, hne, false_or]
      exact ih hnodup.2

end OrderedMap
