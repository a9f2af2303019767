import ActonService.Lib.Segments
import Mathlib.Data.Char
import Mathlib.Data.List.Infix
import Mathlib.Data.List.Induction

/-!
# Regular expressions

Expressions of repeated classes of characters, anchors, sequences and alternatives, matched the way
a backtracking engine does: the ways of a match are listed with the preferred one first, and matches
are replaced from the left, one behind the other.

## Main definitions

* `Expr.ways` — what an expression leaves of a text, in order of preference.
* `Expr.isMatch`, `Expr.replaceAll` — matching anywhere in a text.
* `Expr.shape`, `fits` — expressions that take one character after the other.

## Main results

* `mem_waysRepeated` — what a repeated class takes.
* `ways_of_shape` — what an expression of a shape takes.
* `replaceFits_append_cons`, `replaceFits_join` — **replacing works piece by piece** between
  characters that no class of the shape has.
* `not_occurs_replaceFits` — nothing is left to replace.
-/

namespace Regex

/-- A class of characters. -/
inductive CharClass
  | any
  | decimal
  | ranges (negated : Bool) (spans : List (Char × Char))
  deriving DecidableEq, Repr

/-- The characters of a class; which are decimal digits is left open. -/
def CharClass.holds (decimal : Char → Bool) : CharClass → Char → Bool
  | any, c => c != '\n'
  | .decimal, c => decimal c
  | ranges negated spans, c => spans.any (fun r => decide (r.1 ≤ c ∧ c ≤ r.2)) != negated

/-- The class of one character. -/
def CharClass.single (c : Char) : CharClass := ranges false [(c, c)]

/-- A regular expression. -/
inductive Expr
  | empty
  | start
  | stop
  | repeated (cls : CharClass) (least : ℕ) (most : Option ℕ)
  | seq (a b : Expr)
  | alt (a b : Expr)
  deriving DecidableEq, Repr

/-! ### Matching -/

/-- What is left behind characters of a class, behind as many as possible first. -/
def waysRepeated (p : Char → Bool) : ℕ → Option ℕ → List Char → List (List Char)
  | least, _, [] => if least = 0 then [[]] else []
  | least, most, c :: s =>
    (if p c = true ∧ most ≠ some 0 then waysRepeated p (least - 1) (most.map (· - 1)) s else [])
      ++ if least = 0 then [c :: s] else []

/-- What an expression leaves of a part of a text, in order of preference. -/
def Expr.ways (decimal : Char → Bool) (text : List Char) : Expr → List Char → List (List Char)
  | empty, s => [s]
  | start, s => if s = text then [s] else []
  | stop, s => if s = [] then [s] else []
  | repeated cls least most, s => waysRepeated (cls.holds decimal) least most s
  | seq a b, s => (ways decimal text a s).flatMap (ways decimal text b)
  | alt a b, s => ways decimal text a s ++ ways decimal text b s

/-- The expression matches somewhere in a text. -/
def Expr.isMatch (decimal : Char → Bool) (e : Expr) (text : List Char) : Bool :=
  text.tails.any fun s => !(e.ways decimal text s).isEmpty

/-- Every match is replaced, the leftmost first.  The first characters are skipped: they belong to
the last match. -/
def replaceFrom (found : List Char → Option (List Char)) (new : List Char) :
    ℕ → List Char → List Char
  | _, [] => []
  | skip + 1, _ :: s => replaceFrom found new skip s
  | 0, c :: s =>
    match found (c :: s) with
    | some rest => new ++ replaceFrom found new (s.length - rest.length) s
    | none => c :: replaceFrom found new 0 s

/-- The matches of an expression, which are not empty, are replaced. -/
def Expr.replaceAll (decimal : Char → Bool) (e : Expr) (new text : List Char) : List Char :=
  replaceFrom (fun s => (e.ways decimal text s).head?) new 0 text

/-- The expression takes at least a character. -/
def Expr.Consumes (decimal : Char → Bool) (e : Expr) : Prop :=
  ∀ text s, s ∉ e.ways decimal text s

variable {decimal : Char → Bool} {text s t u : List Char}

@[simp] theorem CharClass.holds_single {c d : Char} :
    (CharClass.single c).holds decimal d = true ↔ d = c := by
  simp only [single, holds, List.any_cons, List.any_nil, Bool.or_false, bne_iff_ne, ne_eq,
    Bool.not_eq_false, decide_eq_true_eq]
  exact ⟨fun h => le_antisymm h.2 h.1, by rintro rfl; exact ⟨le_rfl, le_rfl⟩⟩

/-- The class of all characters but one. -/
theorem CharClass.holds_allBut {c d : Char} :
    (CharClass.ranges true [(c, c)]).holds decimal d = true ↔ d ≠ c := by
  have hsingle : (CharClass.single c).holds decimal d = true ↔ d = c := holds_single
  rw [single, holds, bne_iff_ne, ne_eq, Bool.not_eq_false] at hsingle
  rw [holds, bne_iff_ne, ne_eq, hsingle]

/-- **What a repeated class takes**: a text of characters of the class, as long as the bounds allow.
-/
theorem mem_waysRepeated {p : Char → Bool} {least : ℕ} {most : Option ℕ} :
    t ∈ waysRepeated p least most s ↔
      ∃ u, s = u ++ t ∧ (∀ c ∈ u, p c = true) ∧ least ≤ u.length ∧ ∀ m ∈ most, u.length ≤ m := by
  induction s generalizing least most with
  | nil =>
    rw [waysRepeated]
    constructor
    · intro h
      split_ifs at h with hleast
      · rw [List.mem_singleton] at h
        exact ⟨[], by simp [h], by simp, by simp [hleast], by simp⟩
      · cases h
    · rintro ⟨u, hu, -, hleast, -⟩
      obtain ⟨rfl, rfl⟩ := List.append_eq_nil_iff.mp hu.symm
      rw [if_pos (Nat.le_zero.mp hleast)]
      exact List.mem_cons_self
  | cons c s ih =>
    -- the next character is taken, or the repetition stops before it
    rw [waysRepeated, List.mem_append]
    constructor
    · rintro (h | h)
      · -- taken: the rest of the repetition is found by induction, with both bounds one less
        by_cases hc : p c = true ∧ most ≠ some 0
        swap
        · rw [if_neg hc] at h
          exact absurd h List.not_mem_nil
        rw [if_pos hc] at h
        obtain ⟨u, rfl, hu, hleast, hmost⟩ := ih.mp h
        refine ⟨c :: u, rfl, ?_, ?_, ?_⟩
        · rintro d (_ | ⟨_, hd⟩)
          · exact hc.1
          · exact hu d hd
        · rw [List.length_cons]
          omega
        · rintro m rfl
          have hpos : m ≠ 0 := fun h => hc.2 (congrArg some h)
          have hle := hmost (m - 1) rfl
          rw [List.length_cons]
          omega
      · -- stopped: nothing is taken, and the least number must be zero
        split_ifs at h with hleast
        · rw [List.mem_singleton] at h
          exact ⟨[], by simp [h], by simp, by simp [hleast], by simp⟩
        · cases h
    · rintro ⟨u, hu, hall, hleast, hmost⟩
      cases u with
      -- nothing was taken, which is the second way
      | nil =>
        right
        rw [if_pos (Nat.le_zero.mp hleast), ← List.nil_append t, ← hu]
        exact List.mem_cons_self
      -- something was taken, which is the first way
      | cons d u =>
        rw [List.cons_append, List.cons.injEq] at hu
        obtain ⟨rfl, rfl⟩ := hu
        left
        have hmost' : most ≠ some 0 := by
          rintro rfl
          exact absurd (hmost 0 rfl) (by simp)
        rw [if_pos ⟨hall c List.mem_cons_self, hmost'⟩, ih]
        refine ⟨u, rfl, fun d hd => hall d (List.mem_cons_of_mem _ hd), ?_, ?_⟩
        · rw [List.length_cons] at hleast
          omega
        · intro m hm
          obtain ⟨k, hk, rfl⟩ := Option.map_eq_some_iff.mp hm
          have hle := hmost k hk
          rw [List.length_cons] at hle
          omega

namespace Expr

variable {a b e : Expr}

@[simp] theorem mem_ways_empty : t ∈ empty.ways decimal text s ↔ t = s := by
  rw [ways, List.mem_singleton]

theorem mem_ways_start : t ∈ start.ways decimal text s ↔ s = text ∧ t = s := by
  rw [ways]
  split_ifs with h <;> simp [h]

theorem mem_ways_stop : t ∈ stop.ways decimal text s ↔ s = [] ∧ t = s := by
  rw [ways]
  split_ifs with h <;> simp [h]

theorem mem_ways_seq :
    t ∈ (seq a b).ways decimal text s ↔
      ∃ u ∈ a.ways decimal text s, t ∈ b.ways decimal text u := by
  rw [ways, List.mem_flatMap]

theorem mem_ways_single {c : Char} :
    t ∈ (repeated (.single c) 1 (some 1)).ways decimal text s ↔ s = c :: t := by
  rw [ways, mem_waysRepeated]
  constructor
  · rintro ⟨u, rfl, hu, hleast, hmost⟩
    obtain ⟨d, rfl⟩ := List.length_eq_one_iff.mp (Nat.le_antisymm (hmost 1 rfl) hleast)
    rw [CharClass.holds_single.mp (hu d List.mem_cons_self)]
    rfl
  · rintro rfl
    exact ⟨[c], rfl, by simp, le_rfl, by simp⟩

theorem isMatch_iff :
    e.isMatch decimal text = true ↔ ∃ s, s <:+ text ∧ ∃ t, t ∈ e.ways decimal text s := by
  rw [isMatch, List.any_eq_true]
  refine exists_congr fun s => and_congr (List.mem_tails _ _) ?_
  rw [Bool.not_eq_true', List.isEmpty_eq_false_iff_exists_mem]

end Expr

/-! ### Replacing -/

section Replace

variable {found : List Char → Option (List Char)} {new : List Char}

@[simp] theorem replaceFrom_nil (skip : ℕ) : replaceFrom found new skip [] = [] := by
  cases skip <;> rfl

/-- The rest of a match is skipped. -/
theorem replaceFrom_skip (u t : List Char) :
    replaceFrom found new u.length (u ++ t) = replaceFrom found new 0 t := by
  induction u with
  | nil => rfl
  | cons c u ih => exact ih

theorem replaceFrom_of_found (hu : u ≠ []) (h : found (u ++ t) = some t) :
    replaceFrom found new 0 (u ++ t) = new ++ replaceFrom found new 0 t := by
  cases u with
  | nil => exact absurd rfl hu
  | cons c u =>
    rw [List.cons_append] at h ⊢
    rw [replaceFrom, h]
    have hlength : (u ++ t).length - t.length = u.length := by
      rw [List.length_append, Nat.add_sub_cancel]
    simp only [hlength, replaceFrom_skip]

theorem replaceFrom_of_not_found {c : Char} (h : found (c :: s) = none) :
    replaceFrom found new 0 (c :: s) = c :: replaceFrom found new 0 s := by
  rw [replaceFrom, h]

end Replace

/-! ### Expressions of a shape -/

/-- The classes of an expression that takes one character after the other. -/
def Expr.shape : Expr → Option (List CharClass)
  | empty => some []
  | repeated cls least most => if most = some least then some (List.replicate least cls) else none
  | seq a b => a.shape.bind fun cs => b.shape.map fun ds => cs ++ ds
  | start | stop | alt _ _ => none

/-- A text begins with characters of some classes. -/
def fits (decimal : Char → Bool) : List CharClass → List Char → Bool
  | [], _ => true
  | _ :: _, [] => false
  | cls :: shape, c :: s => cls.holds decimal c && fits decimal shape s

/-- The text holds characters of the classes in a row. -/
def occurs (decimal : Char → Bool) (shape : List CharClass) (s : List Char) : Bool :=
  s.tails.any (fits decimal shape)

/-- What is left behind characters of the classes. -/
def fitted (decimal : Char → Bool) (shape : List CharClass) (s : List Char) :
    Option (List Char) :=
  if fits decimal shape s = true then some (s.drop shape.length) else none

/-- Characters of the classes in a row are replaced. -/
def replaceFits (decimal : Char → Bool) (shape : List CharClass) (new s : List Char) :
    List Char :=
  replaceFrom (fitted decimal shape) new 0 s

/-- No class of the shape has a character. -/
def Avoids (decimal : Char → Bool) (shape : List CharClass) (c : Char) : Prop :=
  ∀ cls ∈ shape, cls.holds decimal c = false

variable {shape shape' : List CharClass} {new : List Char}

theorem fits_append :
    fits decimal (shape ++ shape') s
      = (fits decimal shape s && fits decimal shape' (s.drop shape.length)) := by
  induction shape generalizing s with
  | nil => simp [fits]
  | cons cls shape ih =>
    cases s with
    | nil => rfl
    | cons c s =>
      rw [List.cons_append, fits, ih, fits, Bool.and_assoc]
      rfl

theorem length_le_of_fits (h : fits decimal shape s = true) : shape.length ≤ s.length := by
  induction shape generalizing s with
  | nil => exact Nat.zero_le _
  | cons cls shape ih =>
    cases s with
    | nil => cases h
    | cons c s =>
      rw [fits, Bool.and_eq_true] at h
      exact Nat.succ_le_succ (ih h.2)

/-- Two rows of classes, one behind the other. -/
theorem fits_append_iff :
    fits decimal (shape ++ shape') s = true
      ↔ ∃ u t, s = u ++ t ∧ u.length = shape.length ∧ fits decimal shape u = true ∧
          fits decimal shape' t = true := by
  induction shape generalizing s with
  | nil =>
    constructor
    · intro h
      exact ⟨[], s, rfl, rfl, rfl, h⟩
    · rintro ⟨u, t, rfl, hu, -, h⟩
      rw [List.length_eq_zero_iff.mp hu]
      exact h
  | cons cls shape ih =>
    cases s with
    | nil =>
      refine iff_of_false Bool.false_ne_true ?_
      rintro ⟨u, t, hs, hu, -⟩
      rw [(List.append_eq_nil_iff.mp hs.symm).1] at hu
      cases hu
    | cons c s =>
      rw [List.cons_append, fits, Bool.and_eq_true, ih]
      constructor
      · rintro ⟨hc, u, t, rfl, hu, hfits, ht⟩
        refine ⟨c :: u, t, rfl, congrArg (· + 1) hu, ?_, ht⟩
        rw [fits, hc, hfits]
        rfl
      · rintro ⟨u, t, hs, hu, hfits, ht⟩
        cases u with
        | nil => cases hu
        | cons d u =>
          rw [List.cons_append, List.cons.injEq] at hs
          obtain ⟨rfl, rfl⟩ := hs
          rw [fits, Bool.and_eq_true] at hfits
          exact ⟨hfits.1, u, t, rfl, Nat.succ.inj hu, hfits.2, ht⟩

theorem fits_replicate_of_length_eq (cls : CharClass) {n : ℕ} (h : s.length = n) :
    fits decimal (List.replicate n cls) s = s.all (cls.holds decimal) := by
  induction s generalizing n with
  | nil =>
    rw [← h]
    rfl
  | cons c s ih =>
    rw [← h, List.length_cons, List.replicate_succ, fits, ih rfl, List.all_cons]

theorem waysRepeated_self (cls : CharClass) (n : ℕ) (s : List Char) :
    waysRepeated (cls.holds decimal) n (some n) s
      = if fits decimal (List.replicate n cls) s = true then [s.drop n] else [] := by
  induction n generalizing s with
  | zero => cases s <;> simp [waysRepeated, fits]
  | succ n ih =>
    cases s with
    | nil => rfl
    | cons c s =>
      rw [waysRepeated, if_neg (Nat.succ_ne_zero n), List.append_nil, Option.map_some,
        Nat.add_sub_cancel, ih, List.replicate_succ, fits, List.drop_succ_cons]
      cases cls.holds decimal c <;> simp

/-- **What an expression of a shape takes.** -/
theorem ways_of_shape {e : Expr} (h : e.shape = some shape) :
    e.ways decimal text s
      = if fits decimal shape s = true then [s.drop shape.length] else [] := by
  induction e generalizing shape s with
  | empty =>
    cases h
    rfl
  | start => cases h
  | stop => cases h
  | repeated cls least most =>
    rw [Expr.shape] at h
    split_ifs at h with hmost
    cases h
    rw [Expr.ways, hmost, waysRepeated_self, List.length_replicate]
  | seq a b iha ihb =>
    obtain ⟨cs, hcs, hrest⟩ := Option.bind_eq_some_iff.mp h
    obtain ⟨ds, hds, rfl⟩ := Option.map_eq_some_iff.mp hrest
    rw [Expr.ways, iha hcs, fits_append]
    cases hfits : fits decimal cs s with
    | false => rfl
    | true =>
      rw [if_pos rfl, List.flatMap_singleton, ihb hds, Bool.true_and, List.drop_drop,
        List.length_append]
  | alt a b => cases h

theorem fitted_of_shape {e : Expr} (h : e.shape = some shape) :
    (fun s => (e.ways decimal text s).head?) = fitted decimal shape := by
  funext s
  rw [ways_of_shape h, fitted]
  split_ifs <;> rfl

theorem replaceAll_of_shape {e : Expr} (h : e.shape = some shape) (new text : List Char) :
    e.replaceAll decimal new text = replaceFits decimal shape new text := by
  rw [Expr.replaceAll, fitted_of_shape h, replaceFits]

theorem consumes_of_shape {e : Expr} (h : e.shape = some shape) (hne : shape ≠ []) :
    e.Consumes decimal := by
  intro text s hs
  rw [ways_of_shape h] at hs
  split_ifs at hs with hfits
  · have hlength := congrArg List.length (List.mem_singleton.mp hs)
    rw [List.length_drop] at hlength
    have hle := length_le_of_fits hfits
    have hpos := List.length_pos_iff.mpr hne
    omega
  · cases hs

/-! ### Replacing a shape -/

@[simp] theorem replaceFits_nil : replaceFits decimal shape new [] = [] := replaceFrom_nil 0

theorem replaceFits_of_fits (hne : shape ≠ []) (h : fits decimal shape s = true) :
    replaceFits decimal shape new s
      = new ++ replaceFits decimal shape new (s.drop shape.length) := by
  have hle := length_le_of_fits h
  have htake : s.take shape.length ≠ [] := by
    rw [← List.length_pos_iff, List.length_take, Nat.min_eq_left hle]
    exact List.length_pos_iff.mpr hne
  have hfound : fitted decimal shape (s.take shape.length ++ s.drop shape.length)
      = some (s.drop shape.length) := by
    rw [List.take_append_drop, fitted, if_pos h]
  have hsplit : replaceFrom (fitted decimal shape) new 0
      (s.take shape.length ++ s.drop shape.length) = _ := replaceFrom_of_found htake hfound
  rw [List.take_append_drop] at hsplit
  exact hsplit

theorem replaceFits_of_not_fits {c : Char} (h : fits decimal shape (c :: s) = false) :
    replaceFits decimal shape new (c :: s) = c :: replaceFits decimal shape new s :=
  replaceFrom_of_not_found (if_neg (by simp [h]))

/-- A text is replaced from the left: by a row of the classes, or by a character that begins
none. -/
theorem replaceFits_induction (P : List Char → List Char → Prop) (hne : shape ≠ [])
    (nil : P [] [])
    (fit : ∀ s r, fits decimal shape s = true → P (s.drop shape.length) r → P s (new ++ r))
    (char : ∀ c s r, fits decimal shape (c :: s) = false → P s r → P (c :: s) (c :: r)) :
    P s (replaceFits decimal shape new s) := by
  induction hn : s.length using Nat.strong_induction_on generalizing s with
  | _ n ih =>
    cases hs : fits decimal shape s with
    | true =>
      rw [replaceFits_of_fits hne hs]
      refine fit s _ hs (ih _ ?_ rfl)
      have hle := length_le_of_fits hs
      have hpos := List.length_pos_iff.mpr hne
      rw [List.length_drop]
      omega
    | false =>
      cases s with
      | nil =>
        rw [replaceFits_nil]
        exact nil
      | cons c s =>
        rw [replaceFits_of_not_fits hs]
        exact char c s _ hs (ih _ (by rw [← hn]; exact Nat.lt_succ_self _) rfl)

/-- A row of the classes ends in front of a character that none of them has. -/
theorem fits_append_cons {c : Char} (hc : Avoids decimal shape c) (x y : List Char) :
    fits decimal shape (x ++ c :: y) = fits decimal shape x := by
  induction shape generalizing x with
  | nil => rfl
  | cons cls shape ih =>
    cases x with
    | nil =>
      change (cls.holds decimal c && fits decimal shape y) = false
      rw [hc cls List.mem_cons_self, Bool.false_and]
    | cons d x =>
      rw [List.cons_append, fits, fits, ih fun cls hcls => hc cls (List.mem_cons_of_mem _ hcls)]

/-- **Replacing works piece by piece** between characters that no class has. -/
theorem replaceFits_append_cons {c : Char} (hne : shape ≠ []) (hc : Avoids decimal shape c)
    (x y : List Char) :
    replaceFits decimal shape new (x ++ c :: y)
      = replaceFits decimal shape new x ++ c :: replaceFits decimal shape new y := by
  refine replaceFits_induction
    (fun x r => replaceFits decimal shape new (x ++ c :: y)
      = r ++ c :: replaceFits decimal shape new y) hne ?_ ?_ ?_
  · rw [List.nil_append, List.nil_append]
    refine replaceFits_of_not_fits ?_
    have hempty := fits_append_cons hc [] y
    rw [List.nil_append] at hempty
    rw [hempty]
    cases shape with
    | nil => exact absurd rfl hne
    | cons cls shape => rfl
  · intro x r hfits hr
    have hle := length_le_of_fits hfits
    rw [replaceFits_of_fits hne (by rw [fits_append_cons hc, hfits]),
      List.drop_append_of_le_length hle, hr, List.append_assoc]
  · intro d x r hfits hr
    rw [List.cons_append, replaceFits_of_not_fits (by rw [← List.cons_append,
      fits_append_cons hc, hfits]), hr]
    rfl

@[simp] theorem occurs_nil (hne : shape ≠ []) : occurs decimal shape [] = false := by
  cases shape with
  | nil => exact absurd rfl hne
  | cons cls shape => rfl

theorem occurs_cons {c : Char} :
    occurs decimal shape (c :: s) = (fits decimal shape (c :: s) || occurs decimal shape s) := by
  rw [occurs, List.tails_cons, List.any_cons]
  rfl

theorem occurs_append_cons {c : Char} (hne : shape ≠ []) (hc : Avoids decimal shape c)
    (x y : List Char) :
    occurs decimal shape (x ++ c :: y) = (occurs decimal shape x || occurs decimal shape y) := by
  induction x with
  | nil =>
    have hempty := fits_append_cons hc [] y
    rw [List.nil_append] at hempty ⊢
    rw [occurs_cons, hempty, occurs_nil hne]
    cases shape with
    | nil => exact absurd rfl hne
    | cons cls shape => rfl
  | cons d x ih =>
    rw [List.cons_append, occurs_cons, occurs_cons, ih, ← List.cons_append, fits_append_cons hc,
      Bool.or_assoc]

theorem occurs_of_fits (h : fits decimal shape s = true) : occurs decimal shape s = true :=
  List.any_eq_true.mpr ⟨s, (List.mem_tails _ _).mpr List.suffix_rfl, h⟩

theorem replaceFits_of_not_occurs (h : occurs decimal shape s = false) :
    replaceFits decimal shape new s = s := by
  induction s with
  | nil => exact replaceFits_nil
  | cons c s ih =>
    rw [occurs_cons, Bool.or_eq_false_iff] at h
    rw [replaceFits_of_not_fits h.1, ih h.2]

/-- What is shorter than the shape makes the text shorter. -/
theorem length_replaceFits_lt (hnew : new.length < shape.length)
    (h : occurs decimal shape s = true) :
    (replaceFits decimal shape new s).length < s.length := by
  have hne : shape ≠ [] := by
    rintro rfl
    exact absurd hnew (Nat.not_lt_zero _)
  have hle : (replaceFits decimal shape new s).length
      + (if occurs decimal shape s = true then 1 else 0) ≤ s.length := by
    refine replaceFits_induction
      (fun s r => r.length + (if occurs decimal shape s = true then 1 else 0) ≤ s.length)
      hne ?_ ?_ ?_
    · simp [occurs_nil hne]
    · intro s r hfits hr
      have hle := length_le_of_fits hfits
      rw [List.length_drop] at hr
      rw [if_pos (occurs_of_fits hfits), List.length_append]
      omega
    · intro c s r hfits hr
      rw [occurs_cons, hfits, Bool.false_or, List.length_cons, List.length_cons]
      omega
  rw [if_pos h] at hle
  exact hle

/-- A text whose length is that of the shape. -/
theorem replaceFits_of_length_eq (hne : shape ≠ []) (h : fits decimal shape s = true)
    (hlength : s.length = shape.length) : replaceFits decimal shape new s = new := by
  rw [replaceFits_of_fits hne h, ← hlength, List.drop_length, replaceFits_nil, List.append_nil]

/-- Up to the first replacement the text is what it was. -/
theorem replaceFits_front (hne : shape ≠ []) (s : List Char) :
    ∃ u, u <+: s ∧
      (replaceFits decimal shape new s = u ∨
        ∃ v, replaceFits decimal shape new s = u ++ (new ++ v)) := by
  refine replaceFits_induction
    (fun s r => ∃ u, u <+: s ∧ (r = u ∨ ∃ v, r = u ++ (new ++ v))) hne ?_ ?_ ?_
  · exact ⟨[], List.nil_prefix, .inl rfl⟩
  · intro s r _ _
    exact ⟨[], List.nil_prefix, .inr ⟨r, rfl⟩⟩
  · rintro c s r - ⟨u, hu, hr⟩
    refine ⟨c :: u, List.cons_prefix_cons.mpr ⟨rfl, hu⟩, ?_⟩
    rcases hr with rfl | ⟨v, rfl⟩
    · exact .inl rfl
    · exact .inr ⟨v, rfl⟩

theorem fits_mono (hu : u <+: s) (h : fits decimal shape u = true) :
    fits decimal shape s = true := by
  induction shape generalizing u s with
  | nil => rfl
  | cons cls shape ih =>
    cases u with
    | nil => cases h
    | cons c u =>
      obtain ⟨t, rfl⟩ := hu
      rw [List.cons_append, fits, Bool.and_eq_true] at *
      exact ⟨h.1, ih (List.prefix_append _ _) h.2⟩

theorem fits_take : fits decimal shape (s.take shape.length) = fits decimal shape s := by
  induction shape generalizing s with
  | nil => rfl
  | cons cls shape ih =>
    cases s with
    | nil => rfl
    | cons c s => rw [List.length_cons, List.take_succ_cons, fits, fits, ih]

/-- Characters of the classes in a row are a part of the text that the whole shape fits. -/
theorem occurs_iff :
    occurs decimal shape s = true
      ↔ ∃ u, u <:+: s ∧ fits decimal shape u = true ∧ u.length = shape.length := by
  rw [occurs, List.any_eq_true]
  constructor
  · rintro ⟨t, ht, hfits⟩
    refine ⟨t.take shape.length, ?_, by rw [fits_take, hfits], ?_⟩
    · exact (List.take_prefix _ _).isInfix.trans ((List.mem_tails _ _).mp ht).isInfix
    · rw [List.length_take, Nat.min_eq_left (length_le_of_fits hfits)]
  · rintro ⟨u, ⟨x, y, rfl⟩, hfits, -⟩
    refine ⟨u ++ y, (List.mem_tails _ _).mpr ?_, fits_mono (List.prefix_append _ _) hfits⟩
    rw [List.append_assoc]
    exact List.suffix_append _ _

/-- What is replaced holds what is put in, and nothing that was not there. -/
theorem mem_replaceFits {c : Char} (hne : shape ≠ [])
    (h : c ∈ replaceFits decimal shape new s) : c ∈ new ∨ c ∈ s := by
  revert h
  refine replaceFits_induction
    (fun s r => c ∈ r → c ∈ new ∨ c ∈ s) hne ?_ ?_ ?_
  · exact fun h => .inr h
  · intro s r _ hr h
    rcases List.mem_append.mp h with h | h
    · exact .inl h
    · exact (hr h).imp_right List.mem_of_mem_drop
  · intro d s r _ hr h
    rcases List.mem_cons.mp h with rfl | h
    · exact .inr List.mem_cons_self
    · exact (hr h).imp_right (List.mem_cons_of_mem _)

/-- What is put in stands in the text, if anything is replaced. -/
theorem infix_replaceFits (hne : shape ≠ []) (h : occurs decimal shape s = true) :
    new <:+: replaceFits decimal shape new s := by
  revert h
  refine replaceFits_induction
    (fun s r => occurs decimal shape s = true → new <:+: r) hne ?_ ?_ ?_
  · intro h
    rw [occurs_nil hne] at h
    cases h
  · intro s r _ _ _
    exact (List.prefix_append _ _).isInfix
  · intro d s r hfits hr h
    rw [occurs_cons, hfits, Bool.false_or] at h
    exact List.infix_cons (hr h)

/-- **Replacing works segment by segment**, if nothing that fits has a separator in it. -/
theorem replaceFits_join {c : Char} (hne : shape ≠ []) (hc : Avoids decimal shape c)
    (segs : List (List Char)) :
    replaceFits decimal shape new (Segments.join c segs)
      = Segments.join c (segs.map (replaceFits decimal shape new)) := by
  induction segs with
  | nil => exact replaceFits_nil
  | cons x segs ih =>
    cases segs with
    | nil => rw [List.map_singleton, Segments.join_singleton, Segments.join_singleton]
    | cons y segs =>
      rw [Segments.join_cons (List.cons_ne_nil y segs), replaceFits_append_cons hne hc, ih]
      exact (Segments.join_cons (List.cons_ne_nil _ _)).symm

/-- **Nothing is left to replace**, where what is put in stands between characters that no class
has. -/
theorem not_occurs_replaceFits {c d : Char} {w : List Char} (hne : shape ≠ [])
    (hc : Avoids decimal shape c) (hd : Avoids decimal shape d)
    (hw : occurs decimal shape w = false) (s : List Char) :
    occurs decimal shape (replaceFits decimal shape (c :: (w ++ [d])) s) = false := by
  have hnew : ∀ r, occurs decimal shape (c :: (w ++ [d]) ++ r) = occurs decimal shape r := by
    intro r
    have hfront := occurs_append_cons hne hc [] (w ++ d :: r)
    rw [List.nil_append, occurs_nil hne, occurs_append_cons hne hd, hw] at hfront
    simpa using hfront
  induction hn : s.length using Nat.strong_induction_on generalizing s with
  | _ n ih =>
    cases hs : fits decimal shape s with
    | true =>
      rw [replaceFits_of_fits hne hs, hnew]
      refine ih _ ?_ _ rfl
      have hle := length_le_of_fits hs
      have hpos := List.length_pos_iff.mpr hne
      rw [List.length_drop]
      omega
    | false =>
      cases s with
      | nil => rw [replaceFits_nil, occurs_nil hne]
      | cons e s =>
        rw [replaceFits_of_not_fits hs, occurs_cons,
          ih _ (by rw [← hn]; exact Nat.lt_succ_self _) _ rfl, Bool.or_false]
        -- a row that begins here would be one of the text before
        rw [Bool.eq_false_iff]
        intro hfits
        obtain ⟨u, hu, hr⟩ : ∃ u, u <+: s ∧
            (replaceFits decimal shape (c :: (w ++ [d])) s = u ∨
              ∃ v, replaceFits decimal shape (c :: (w ++ [d])) s = u ++ (c :: (w ++ [d]) ++ v)) :=
          replaceFits_front hne s
        have hcons : e :: u <+: e :: s := List.cons_prefix_cons.mpr ⟨rfl, hu⟩
        have hbefore : fits decimal shape (e :: u) = true := by
          rcases hr with hr | ⟨v, hr⟩
          · rw [← hr]
            exact hfits
          · rw [hr] at hfits
            have hfront := fits_append_cons hc (e :: u) (w ++ [d] ++ v)
            rw [← hfront]
            exact hfits
        rw [fits_mono hcons hbefore] at hs
        cases hs

end Regex
