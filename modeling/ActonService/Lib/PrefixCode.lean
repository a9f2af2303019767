import Mathlib.Data.List.Basic
import Mathlib.Data.List.Forall2

/-!
# Self-delimiting codes

A code writes a value as a list of symbols.  It is *self-delimiting* when the
value can be read off the front of any text that starts with its code word, so
that concatenating code words loses nothing.  What may follow a code word is a
parameter `D`: a binary frame may be followed by anything, a JSON number only by
a character that is not part of a number.

What is recovered is a parameter too: `R a b` is equality for a binary frame and
equality up to the order of object keys for a canonical JSON text.

## Main definitions

* `Delimited D R f a` — the code word of `a` can be read off, up to `R`.
* `sepTail`, `bracketed` — a separated list between an opening and a closing symbol.

## Main results

* `delimited_of_decode` — a code with a decoder.
* `token_append_inj` — a maximal run of symbols of one class.
* `flatMap_terminated_inj` — a word of code words, closed by a terminator.
* `bracketed_inj` — a separated list between brackets.
-/

namespace PrefixCode

variable {σ α β : Type*}

/-- In front of two continuations that `D` allows, the code word of `a` is told
from every other one up to `R`, and the continuations agree. -/
def Delimited (D : List σ → Prop) (R : α → α → Prop) (f : α → List σ) (a : α) : Prop :=
  ∀ b r r', D r → D r' → f a ++ r = f b ++ r' → R a b ∧ r = r'

/-- A code that a decoder takes off the front of any text. -/
theorem delimited_of_decode {f : α → List σ} (decode : List σ → Option (α × List σ))
    (hdec : ∀ a r, decode (f a ++ r) = some (a, r)) (a : α) :
    Delimited (fun _ => True) Eq f a := by
  intro b r r' _ _ h
  have hab : some (a, r) = some (b, r') := by rw [← hdec a r, h, hdec]
  rw [Option.some.injEq, Prod.mk.injEq] at hab
  exact hab

/-! ### Tokens -/

/-- No continuation of this kind starts with a symbol of the class `p`. -/
def StopsAt (p : σ → Prop) (r : List σ) : Prop := ∀ c t, r = c :: t → ¬ p c

/-- A run of symbols of the class `p` ends where the class does. -/
theorem token_append_inj {p : σ → Prop} : ∀ {a b r r' : List σ},
    (∀ c ∈ a, p c) → (∀ c ∈ b, p c) → StopsAt p r → StopsAt p r' →
    a ++ r = b ++ r' → a = b ∧ r = r' := by
  intro a
  induction a with
  | nil =>
    intro b r r' _ hb hr _ h
    cases b with
    | nil => exact ⟨rfl, h⟩
    | cons c b => exact absurd (hb c List.mem_cons_self) (hr c (b ++ r') h)
  | cons c a ih =>
    intro b r r' ha hb hr hr' h
    cases b with
    | nil => exact absurd (ha c List.mem_cons_self) (hr' c (a ++ r) h.symm)
    | cons d b =>
      rw [List.cons_append, List.cons_append, List.cons.injEq] at h
      obtain ⟨hab, hrr⟩ := ih (fun x hx => ha x (List.mem_cons_of_mem _ hx))
        (fun x hx => hb x (List.mem_cons_of_mem _ hx)) hr hr' h.2
      exact ⟨by rw [h.1, hab], hrr⟩

/-! ### Words closed by a terminator -/

/-- A word of code words can be read off when it is closed by a symbol that
starts none of them. -/
theorem flatMap_terminated_inj {f : α → List σ} {t : σ}
    (hf : ∀ a, Delimited (fun _ => True) Eq f a) (ht : ∀ a r s, f a ++ r ≠ t :: s) :
    ∀ {xs ys : List α} {r r' : List σ},
      xs.flatMap f ++ t :: r = ys.flatMap f ++ t :: r' → xs = ys ∧ r = r' := by
  intro xs
  induction xs with
  | nil =>
    intro ys r r' h
    cases ys with
    | nil => simpa using h
    | cons y ys =>
      rw [List.flatMap_cons, List.append_assoc] at h
      exact absurd h.symm (ht y _ _)
  | cons x xs ih =>
    intro ys r r' h
    cases ys with
    | nil =>
      rw [List.flatMap_cons, List.append_assoc] at h
      exact absurd h (ht x _ _)
    | cons y ys =>
      rw [List.flatMap_cons, List.flatMap_cons, List.append_assoc, List.append_assoc] at h
      obtain ⟨hxy, h⟩ := hf x y _ _ trivial trivial h
      obtain ⟨hxs, hr⟩ := ih h
      exact ⟨by rw [hxy, hxs], hr⟩

/-! ### Separated lists -/

/-- Code words each preceded by a separator. -/
def sepTail (sep : σ) (f : α → List σ) (xs : List α) : List σ :=
  xs.flatMap fun x => sep :: f x

/-- A list between brackets, its items separated: the separator stands before
every item but the first. -/
def bracketed (opener sep closer : σ) (f : α → List σ) : List α → List σ
  | [] => [opener, closer]
  | x :: xs => opener :: (f x ++ sepTail sep f xs ++ [closer])

variable {sep opener closer : σ} {R : α → α → Prop} {f : α → List σ} {D : List σ → Prop}

/-- What stands behind an item starts with the separator or the closing bracket. -/
theorem sepTail_append (hsep : ∀ t, D (sep :: t)) (hclose : ∀ t, D (closer :: t)) (xs : List α)
    (r : List σ) : D (sepTail sep f xs ++ closer :: r) := by
  cases xs with
  | nil => exact hclose r
  | cons x xs => exact hsep _

theorem sepTail_cons (x : α) (xs : List α) (r : List σ) :
    sepTail sep f (x :: xs) ++ r = sep :: (f x ++ (sepTail sep f xs ++ r)) := by
  simp [sepTail]

/-- The separated rest of a list, up to its closing bracket. -/
theorem sepTail_inj (hne : sep ≠ closer) (hsep : ∀ t, D (sep :: t))
    (hclose : ∀ t, D (closer :: t)) :
    ∀ {xs ys : List α} {r r' : List σ}, (∀ x ∈ xs, Delimited D R f x) →
      sepTail sep f xs ++ closer :: r = sepTail sep f ys ++ closer :: r' →
      List.Forall₂ R xs ys ∧ r = r' := by
  intro xs
  induction xs with
  | nil =>
    intro ys r r' _ h
    cases ys with
    | nil => exact ⟨List.Forall₂.nil, by simpa [sepTail] using h⟩
    | cons y ys =>
      rw [sepTail_cons] at h
      exact absurd (List.cons.inj h).1.symm hne
  | cons x xs ih =>
    intro ys r r' hx h
    cases ys with
    | nil =>
      rw [sepTail_cons] at h
      exact absurd (List.cons.inj h).1 hne
    | cons y ys =>
      rw [sepTail_cons, sepTail_cons] at h
      obtain ⟨hxy, h⟩ := hx x List.mem_cons_self y _ _ (sepTail_append hsep hclose xs r)
        (sepTail_append hsep hclose ys r') (List.cons.inj h).2
      obtain ⟨hxs, hr⟩ := ih (fun z hz => hx z (List.mem_cons_of_mem _ hz)) h
      exact ⟨List.Forall₂.cons hxy hxs, hr⟩

theorem bracketed_cons (x : α) (xs : List α) (r : List σ) :
    bracketed opener sep closer f (x :: xs) ++ r
      = opener :: (f x ++ (sepTail sep f xs ++ closer :: r)) := by
  simp [bracketed]

theorem bracketed_map (k : β → α) (xs : List β) :
    bracketed opener sep closer f (xs.map k) = bracketed opener sep closer (f ∘ k) xs := by
  cases xs with
  | nil => rfl
  | cons x xs => simp [bracketed, sepTail, List.flatMap_map]

/-- What holds of the brackets and the separator holds of the list if it holds of its items. -/
theorem forall_mem_bracketed {p : σ → Prop} (hopener : p opener) (hsep : p sep) (hcloser : p closer)
    {xs : List α} :
    (∀ c ∈ bracketed opener sep closer f xs, p c) ↔ ∀ x ∈ xs, ∀ c ∈ f x, p c := by
  cases xs with
  | nil => simp [bracketed, hopener, hcloser]
  | cons x xs =>
    have htail : (∀ c ∈ sepTail sep f xs, p c) ↔ ∀ y ∈ xs, ∀ c ∈ f y, p c := by
      rw [sepTail, List.forall_mem_flatMap]
      refine forall₂_congr fun y _ => ?_
      rw [List.forall_mem_cons]
      exact and_iff_right hsep
    simp only [bracketed, List.forall_mem_cons, List.forall_mem_append, htail, hopener, hcloser,
      List.not_mem_nil, false_implies, implies_true, and_true, true_and]

/-- A symbol that is none of the brackets and in none of the items is not in the list. -/
theorem notMem_bracketed {c : σ} (hopener : c ≠ opener) (hsep : c ≠ sep) (hcloser : c ≠ closer)
    {xs : List α} (h : ∀ x ∈ xs, c ∉ f x) : c ∉ bracketed opener sep closer f xs := by
  cases xs with
  | nil => simp [bracketed, hopener, hcloser]
  | cons x xs =>
    obtain ⟨hx, hxs⟩ := List.forall_mem_cons.mp h
    have htail : c ∉ sepTail sep f xs := by
      rw [sepTail, List.mem_flatMap]
      rintro ⟨y, hy, hmem⟩
      rcases List.mem_cons.mp hmem with heq | hmem
      · exact hsep heq
      · exact hxs y hy hmem
    simp [bracketed, hopener, hcloser, hx, htail]

/-- A bracketed list ends in its last item and the closing bracket. -/
theorem suffix_bracketed (opener sep closer : σ) (f : α → List σ) {xs : List α} {x : α}
    (h : xs.getLast? = some x) : f x ++ [closer] <:+ bracketed opener sep closer f xs := by
  obtain ⟨ys, rfl⟩ := List.getLast?_eq_some_iff.mp h
  cases ys with
  | nil => exact ⟨[opener], by simp [bracketed, sepTail]⟩
  | cons y ys => exact ⟨opener :: (f y ++ sepTail sep f ys ++ [sep]), by simp [bracketed, sepTail]⟩

/-- **A bracketed, separated list can be read off**, item by item, when no item
starts with the closing bracket. -/
theorem bracketed_inj (hne : sep ≠ closer) (hsep : ∀ t, D (sep :: t))
    (hclose : ∀ t, D (closer :: t)) (hf : ∀ x r t, f x ++ r ≠ closer :: t)
    {xs ys : List α} {r r' : List σ} (hx : ∀ x ∈ xs, Delimited D R f x)
    (h : bracketed opener sep closer f xs ++ r = bracketed opener sep closer f ys ++ r') :
    List.Forall₂ R xs ys ∧ r = r' := by
  cases xs with
  | nil =>
    cases ys with
    | nil => exact ⟨List.Forall₂.nil, by simpa [bracketed] using h⟩
    | cons y ys =>
      rw [bracketed_cons] at h
      exact absurd (List.cons.inj h).2.symm (hf y _ _)
  | cons x xs =>
    cases ys with
    | nil =>
      rw [bracketed_cons] at h
      exact absurd (List.cons.inj h).2 (hf x _ _)
    | cons y ys =>
      -- a separator in front makes both lists their own separated rest
      rw [bracketed_cons, bracketed_cons] at h
      have key : sepTail sep f (x :: xs) ++ closer :: r
          = sepTail sep f (y :: ys) ++ closer :: r' := by
        rw [sepTail_cons, sepTail_cons, (List.cons.inj h).2]
      exact sepTail_inj hne hsep hclose hx key

end PrefixCode
