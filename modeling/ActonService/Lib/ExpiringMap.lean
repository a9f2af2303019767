import Mathlib.Data.Nat.Notation
import Mathlib.Logic.Function.Basic

/-!
# Maps whose entries expire

A map in which every entry has a time from which on it is no longer found.  An entry that has
expired may still be stored.

## Main definitions

* `ExpiringMap κ α` — a map from `κ` to `α` with a time of expiry for each entry.
* `ExpiringMap.Stores` — the map has the value under the key, expired or not.
* `get?`, `setEx`, `erase` — the operations.

## Main results

* `stores_of_get?`, `stores_setEx`, `stores_erase` — what is stored after an operation.
-/

/-- A map from `κ` to `α` with a time of expiry for each entry. -/
structure ExpiringMap (κ α : Type) where
  entries : κ → Option (α × ℕ)

namespace ExpiringMap

variable {κ α : Type}

/-- The map without entries. -/
def empty : ExpiringMap κ α := ⟨fun _ => none⟩

/-- The value found under a key at a time. -/
def get? (m : ExpiringMap κ α) (now : ℕ) (key : κ) : Option α :=
  match m.entries key with
  | some (v, expiresAt) => if now < expiresAt then some v else none
  | none => none

/-- The map with a value under a key, until a time. -/
def setEx [DecidableEq κ] (m : ExpiringMap κ α) (key : κ) (v : α) (expiresAt : ℕ) :
    ExpiringMap κ α :=
  ⟨Function.update m.entries key (some (v, expiresAt))⟩

/-- The map with no value under a key. -/
def erase [DecidableEq κ] (m : ExpiringMap κ α) (key : κ) : ExpiringMap κ α :=
  ⟨Function.update m.entries key none⟩

/-- The map has the value under the key, expired or not. -/
def Stores (m : ExpiringMap κ α) (key : κ) (v : α) : Prop :=
  ∃ expiresAt, m.entries key = some (v, expiresAt)

theorem stores_of_get? {m : ExpiringMap κ α} {now : ℕ} {key : κ} {v : α}
    (h : m.get? now key = some v) : m.Stores key v := by
  rw [get?] at h
  split at h
  · next v' expiresAt hentry =>
    split at h
    · cases h
      exact ⟨expiresAt, hentry⟩
    · contradiction
  · contradiction

variable [DecidableEq κ]

/-- What is stored is what was set, or was stored before under another key. -/
theorem stores_setEx {m : ExpiringMap κ α} {key k : κ} {v w : α} {expiresAt : ℕ}
    (h : (m.setEx key v expiresAt).Stores k w) : (k = key ∧ w = v) ∨ (k ≠ key ∧ m.Stores k w) := by
  obtain ⟨expiry, hentry⟩ := h
  simp only [setEx] at hentry
  by_cases hk : k = key
  · subst hk
    rw [Function.update_self] at hentry
    cases hentry
    exact .inl ⟨rfl, rfl⟩
  · rw [Function.update_of_ne hk] at hentry
    exact .inr ⟨hk, expiry, hentry⟩

/-- What is stored after an entry was taken out was stored before. -/
theorem stores_erase {m : ExpiringMap κ α} {key k : κ} {w : α}
    (h : (m.erase key).Stores k w) : m.Stores k w := by
  obtain ⟨expiry, hentry⟩ := h
  simp only [erase] at hentry
  by_cases hk : k = key
  · subst hk
    rw [Function.update_self] at hentry
    contradiction
  · rw [Function.update_of_ne hk] at hentry
    exact ⟨expiry, hentry⟩

end ExpiringMap
