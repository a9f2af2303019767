import ActonService.Lib.Effect
import ActonService.Lib.Table
import Mathlib.Data.List.Forall2
import Mathlib.Data.Option.Basic

/-!
# Two runs side by side

Two programs run side by side, each in a world of its own.  When related calls get related answers,
and the programs go on alike whatever related answers they get, they end alike.  For one program in
two worlds this says that it does not tell them apart.

Tables whose rows are related one by one answer their statements alike, if related rows agree in
what the constraints look at.

## Main definitions

* `ExceptRel` — the same error, or related values.
* `Prog.Alike` — two programs that go on alike.

## Main results

* `Prog.Alike.bind` — sequences of such programs are such programs.
* `exec_alike` — **programs that go on alike end alike.**
* `Table.find_rel`, `Table.insert_rel`, `Table.update_rel`, `Table.erase_rel` — statements on
  related tables.
* `forall₂_mergeSort` — sorting related lists.
-/

namespace Effect

variable {C C' : Type} {A : C → Type} {A' : C' → Type} {ε α α' β β' : Type}

/-! ### Results -/

/-- The same error, or related values. -/
inductive ExceptRel (R : α → α' → Prop) : Except ε α → Except ε α' → Prop
  | ok {a : α} {a' : α'} (h : R a a') : ExceptRel R (.ok a) (.ok a')
  | error (e : ε) : ExceptRel R (.error e) (.error e)

theorem ExceptRel.refl {R : α → α → Prop} (hR : ∀ a, R a a) (r : Except ε α) :
    ExceptRel R r r := by
  cases r with
  | ok a => exact .ok (hR a)
  | error e => exact .error e

theorem ExceptRel.mapError {R : α → α' → Prop} {r : Except ε α} {r' : Except ε α'}
    (h : ExceptRel R r r') {ε' : Type} (f : ε → ε') :
    ExceptRel R (r.mapError f) (r'.mapError f) := by
  cases h with
  | ok h => exact .ok h
  | error e => exact .error (f e)

/-! ### Programs -/

namespace Prog

/-- The programs make related calls, go on alike whatever related answers they get, and end
alike. -/
def Alike (S : C → C' → Prop) (Q : (c : C) → (c' : C') → A c → A' c' → Prop) (R : α → α' → Prop) :
    Prog C A ε α → Prog C' A' ε α' → Prop
  | .ret a, .ret a' => R a a'
  | .fail e, .fail e' => e = e'
  | .call c k, .call c' k' => S c c' ∧ ∀ a a', Q c c' a a' → Alike S Q R (k a) (k' a')
  | _, _ => False

variable {S : C → C' → Prop} {Q : (c : C) → (c' : C') → A c → A' c' → Prop} {R : α → α' → Prop}
  {R' : β → β' → Prop}

theorem Alike.ofExcept {r : Except ε α} {r' : Except ε α'} (h : ExceptRel R r r') :
    Alike S Q R (.ofExcept r) (.ofExcept r') := by
  cases h with
  | ok h => exact h
  | error e => exact rfl

/-- A program whose calls have the same answer in both worlds. -/
theorem Alike.of_always {S : C → C → Prop} {Q : (c c' : C) → A c → A c' → Prop} {p : Prog C A ε α}
    (h : p.Always fun c _ => S c c ∧ ∀ a a', Q c c a a' → a = a') : Alike S Q Eq p p := by
  induction p with
  | ret a => exact rfl
  | fail e => exact rfl
  | call c k ih =>
    refine ⟨h.1.1, fun a a' ha => ?_⟩
    obtain rfl := h.1.2 a a' ha
    exact ih a (h.2 a)

/-- What goes on alike ends in any looser relation. -/
theorem Alike.mono {R₂ : α → α' → Prop} {p : Prog C A ε α} {p' : Prog C' A' ε α'}
    (h : Alike S Q R p p') (hR : ∀ a a', R a a' → R₂ a a') : Alike S Q R₂ p p' := by
  induction p generalizing p' with
  | ret a =>
    cases p' with
    | ret a' => exact hR a a' h
    | fail e => exact h
    | call c' k' => exact h
  | fail e =>
    cases p' with
    | ret a' => exact h
    | fail e' => exact h
    | call c' k' => exact h
  | call c k ih =>
    cases p' with
    | ret a' => exact h
    | fail e' => exact h
    | call c' k' => exact ⟨h.1, fun a a' ha => ih a (h.2 a a' ha)⟩

/-- **Programs behind programs that go on alike** go on alike from related results. -/
theorem Alike.bind {p : Prog C A ε α} {p' : Prog C' A' ε α'} {f : α → Prog C A ε β}
    {f' : α' → Prog C' A' ε β'} (h : Alike S Q R p p')
    (hf : ∀ a a', R a a' → Alike S Q R' (f a) (f' a')) :
    Alike S Q R' (p.bind f) (p'.bind f') := by
  induction p generalizing p' with
  | ret a =>
    cases p' with
    | ret a' => exact hf a a' h
    | fail e => exact h.elim
    | call c' k' => exact h.elim
  | fail e =>
    cases p' with
    | ret a' => exact h.elim
    | fail e' => exact h
    | call c' k' => exact h.elim
  | call c k ih =>
    cases p' with
    | ret a' => exact h.elim
    | fail e' => exact h.elim
    | call c' k' => exact ⟨h.1, fun a a' ha => ih a (h.2 a a' ha)⟩

end Prog

section Exec

variable {σ σ' ι ι' : Type} {answer : σ → ℕ → ι → (c : C) → σ × A c}
  {answer' : σ' → ℕ → ι' → (c' : C') → σ' × A' c'} {S : C → C' → Prop}
  {Q : (c : C) → (c' : C') → A c → A' c' → Prop} {R : α → α' → Prop} {I : σ → σ' → Prop}
  {J : ι → ι' → Prop} {who who' : ℕ}

/-- **Programs that go on alike end alike**, if related calls in related states get related answers
and leave related states. -/
theorem exec_alike
    (hcall : ∀ s s' i i' c c', I s s' → J i i' → S c c' →
      Q c c' (answer s who i c).2 (answer' s' who' i' c').2 ∧
        I (answer s who i c).1 (answer' s' who' i' c').1)
    {p : Prog C A ε α} {p' : Prog C' A' ε α'} (h : Prog.Alike S Q R p p') {s : σ} {s' : σ'}
    (hs : I s s') {inputs : ℕ → ι} {inputs' : ℕ → ι'} (hinputs : ∀ n, J (inputs n) (inputs' n)) :
    ExceptRel R (exec answer who p s inputs).1 (exec answer' who' p' s' inputs').1 ∧
      I (exec answer who p s inputs).2 (exec answer' who' p' s' inputs').2 := by
  induction p generalizing p' s s' inputs inputs' with
  | ret a =>
    cases p' with
    | ret a' => exact ⟨.ok h, hs⟩
    | fail e => exact h.elim
    | call c' k' => exact h.elim
  | fail e =>
    cases p' with
    | ret a' => exact h.elim
    | fail e' =>
      obtain rfl : e = e' := h
      exact ⟨.error e, hs⟩
    | call c' k' => exact h.elim
  | call c k ih =>
    cases p' with
    | ret a' => exact h.elim
    | fail e' => exact h.elim
    | call c' k' =>
      obtain ⟨hS, hk⟩ := h
      obtain ⟨hQ, hI⟩ := hcall s s' (inputs 0) (inputs' 0) c c' hs (hinputs 0) hS
      exact ih _ (hk _ _ hQ) hI fun n => hinputs (n + 1)

end Exec

/-! ### Related lists -/

section Lists

variable {R : α → α' → Prop} {xs : List α} {ys : List α'}

theorem isSome_eq_of_rel {o : Option α} {o' : Option α'} (h : Option.Rel R o o') :
    o.isSome = o'.isSome := by
  cases h with
  | some h => rfl
  | none => rfl

/-- What a search finds in related lists. -/
theorem find?_rel {p : α → Bool} {q : α' → Bool} (hpq : ∀ a a', R a a' → p a = q a')
    (h : List.Forall₂ R xs ys) : Option.Rel R (xs.find? p) (ys.find? q) := by
  induction h with
  | nil => exact .none
  | @cons a a' xs ys ha _ ih =>
    rw [List.find?_cons, List.find?_cons, hpq a a' ha]
    cases q a' with
    | true => exact .some ha
    | false => exact ih

theorem forall₂_takeWhile {p : α → Bool} {q : α' → Bool} (hpq : ∀ a a', R a a' → p a = q a')
    (h : List.Forall₂ R xs ys) : List.Forall₂ R (xs.takeWhile p) (ys.takeWhile q) := by
  induction h with
  | nil => exact .nil
  | @cons a a' xs ys ha _ ih =>
    rw [List.takeWhile_cons, List.takeWhile_cons, hpq a a' ha]
    cases q a' with
    | true => exact .cons ha ih
    | false => exact .nil

theorem forall₂_filter {p : α → Bool} {q : α' → Bool} (hpq : ∀ a a', R a a' → p a = q a')
    (h : List.Forall₂ R xs ys) : List.Forall₂ R (xs.filter p) (ys.filter q) :=
  List.rel_filter (fun a a' ha => Bool.eq_iff_iff.mp (hpq a a' ha)) h

/-- Sorting related lists by orders that related items do not tell apart. -/
theorem forall₂_mergeSort {le : α → α → Bool} {le' : α' → α' → Bool}
    (hle : ∀ a a' b b', R a a' → R b b' → le a b = le' a' b') (h : List.Forall₂ R xs ys) :
    List.Forall₂ R (xs.mergeSort le) (ys.mergeSort le') := by
  -- both lists are sorted as the list of their pairs is
  obtain ⟨hlength, hzip⟩ := List.forall₂_iff_zip.mp h
  have hpairs : ∀ z ∈ xs.zip ys, R z.1 z.2 := fun z hz => hzip hz
  have hfst : (xs.zip ys).map Prod.fst = xs := List.map_fst_zip (Nat.le_of_eq hlength)
  have hsnd : (xs.zip ys).map Prod.snd = ys := List.map_snd_zip (Nat.le_of_eq hlength.symm)
  let r (z w : α × α') : Bool := le z.1 w.1
  have hxs : xs.mergeSort le = ((xs.zip ys).mergeSort r).map Prod.fst := by
    have hr : ∀ z ∈ xs.zip ys, ∀ w ∈ xs.zip ys, r z w = le z.1 w.1 := fun _ _ _ _ => rfl
    rw [List.map_mergeSort hr, hfst]
  have hys : ys.mergeSort le' = ((xs.zip ys).mergeSort r).map Prod.snd := by
    have hr : ∀ z ∈ xs.zip ys, ∀ w ∈ xs.zip ys, r z w = le' z.2 w.2 :=
      fun z hz w hw => hle z.1 z.2 w.1 w.2 (hpairs z hz) (hpairs w hw)
    rw [List.map_mergeSort hr, hsnd]
  rw [hxs, hys, List.forall₂_map_left_iff, List.forall₂_map_right_iff, List.forall₂_same]
  exact fun z hz => hpairs z (List.mem_mergeSort.mp hz)

theorem map_eq_of_forall₂ {γ : Type} {f : α → γ} {g : α' → γ} (hfg : ∀ a a', R a a' → f a = g a')
    (h : List.Forall₂ R xs ys) : xs.map f = ys.map g := by
  induction h with
  | nil => rfl
  | cons ha _ ih => rw [List.map_cons, List.map_cons, hfg _ _ ha, ih]

end Lists

end Effect

namespace Tables

open Effect

variable {α κ υ : Type} {key : α → κ} {unique : α → υ} {R : α → α → Prop}
  {t t' : Table key unique}

namespace Table

/-- Related rows have the same key and the same value in the column. -/
structure RowRel (key : α → κ) (unique : α → υ) (R : α → α → Prop) : Prop where
  key_eq : ∀ a a', R a a' → key a = key a'
  unique_eq : ∀ a a', R a a' → unique a = unique a'

variable (hR : RowRel key unique R)
include hR

/-- What is found in related tables. -/
theorem find_rel [DecidableEq κ] (h : List.Forall₂ R t.rows t'.rows) (k : κ) :
    Option.Rel R (t.find k) (t'.find k) :=
  find?_rel (fun a a' ha => by rw [hR.key_eq a a' ha]) h

/-- A row that is added to related tables, or refused by both. -/
theorem insert_rel [DecidableEq κ] [DecidableEq υ] (h : List.Forall₂ R t.rows t'.rows) {a a' : α}
    (ha : R a a') :
    Option.Rel (fun t t' => List.Forall₂ R t.rows t'.rows) (t.insert a) (t'.insert a') := by
  have hkey : key a ∈ t.rows.map key ↔ key a' ∈ t'.rows.map key := by
    rw [map_eq_of_forall₂ hR.key_eq h, hR.key_eq a a' ha]
  have hvalue : unique a ∈ t.rows.map unique ↔ unique a' ∈ t'.rows.map unique := by
    rw [map_eq_of_forall₂ hR.unique_eq h, hR.unique_eq a a' ha]
  rw [insert, insert]
  by_cases hmem : key a ∈ t.rows.map key
  · rw [dif_pos hmem, dif_pos (hkey.mp hmem)]
    exact .none
  · rw [dif_neg hmem, dif_neg (hkey.not.mp hmem)]
    by_cases hmem' : unique a ∈ t.rows.map unique
    · rw [dif_pos hmem', dif_pos (hvalue.mp hmem')]
      exact .none
    · rw [dif_neg hmem', dif_neg (hvalue.not.mp hmem')]
      exact .some (List.rel_append h (.cons ha .nil))

theorem changed_rel [DecidableEq κ] (k : κ) {f f' : α → α}
    (hf : ∀ a a', R a a' → key a = k → R (f a) (f' a')) {rows rows' : List α}
    (h : List.Forall₂ R rows rows') :
    List.Forall₂ R (changed key k f rows) (changed key k f' rows') := by
  rw [changed, changed, List.forall₂_map_left_iff, List.forall₂_map_right_iff]
  refine h.imp fun a a' ha => ?_
  rw [← hR.key_eq a a' ha]
  split
  · next hk => exact hf a a' ha hk
  · exact ha

/-- A row that is changed in related tables, or refused by both. -/
theorem update_rel [DecidableEq κ] [DecidableEq υ] (h : List.Forall₂ R t.rows t'.rows) (k : κ)
    {f f' : α → α} (hf : ∀ a a', R a a' → key a = k → R (f a) (f' a'))
    (hkey : ∀ a, key (f a) = key a) (hkey' : ∀ a, key (f' a) = key a) :
    Option.Rel (fun t t' => List.Forall₂ R t.rows t'.rows) (t.update k f hkey)
      (t'.update k f' hkey') := by
  have hchanged := changed_rel hR k hf h
  have hvalues := map_eq_of_forall₂ hR.unique_eq hchanged
  rw [update, update]
  split
  · next hnodup =>
    rw [dif_pos (hvalues ▸ hnodup)]
    exact .some hchanged
  · next hnodup =>
    rw [dif_neg (hvalues ▸ hnodup)]
    exact .none

theorem erase_rel [DecidableEq κ] (h : List.Forall₂ R t.rows t'.rows) (k : κ) :
    List.Forall₂ R (t.erase k).rows (t'.erase k).rows :=
  forall₂_filter (fun a a' ha => by rw [hR.key_eq a a' ha]) h

end Table

end Tables
