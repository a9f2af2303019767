import Mathlib.Data.List.Basic

/-!
# Texts

Texts as lists of characters, and the operations on them that programs write messages
and read them back with: replacing a character, finding the end of a marker, cutting white space
off, splitting, and decimal numerals.

## Main definitions

* `replaceChar` — every occurrence of a character replaced by a text.
* `afterFirst` — what stands behind the first occurrence of a marker.
* `trim`, `firstPart`, `splitOnce`, `endsWith` — cutting and splitting.
* `parseUnsigned` — the value of an unsigned decimal numeral below a bound.

## Main results

* `afterFirst_append` — a marker is found behind a text without its first character.
* `splitOnce_eq_some_iff` — a text splits where the character occurs first.
* `parseUnsigned_repr` — **a numeral written out is read back.**
-/

namespace Text

/-! ### Replacing and finding -/

/-- The text with every occurrence of `c` replaced. -/
def replaceChar (c : Char) (new : List Char) (s : List Char) : List Char :=
  s.flatMap fun d => if d = c then new else [d]

/-- A text without the character is left as it is. -/
theorem replaceChar_of_notMem {c : Char} {s : List Char} (h : c ∉ s) (new : List Char) :
    replaceChar c new s = s := by
  induction s with
  | nil => rfl
  | cons d s ih =>
    rw [List.mem_cons, not_or] at h
    rw [replaceChar, List.flatMap_cons, if_neg (Ne.symm h.1)]
    exact congrArg (d :: ·) (ih h.2)

/-- What stands behind the first occurrence of a marker. -/
def afterFirst (marker : List Char) : List Char → Option (List Char)
  | [] => if marker.isPrefixOf [] then some [] else none
  | c :: s =>
    if marker.isPrefixOf (c :: s) then some ((c :: s).drop marker.length)
    else afterFirst marker s

/-- A marker whose first character does not occur before it is found. -/
theorem afterFirst_append {c : Char} {start : List Char} (h : c ∉ start) (marker s : List Char) :
    afterFirst (c :: marker) (start ++ (c :: marker ++ s)) = some s := by
  induction start with
  | nil => simp [afterFirst]
  | cons d start ih =>
    rw [List.mem_cons, not_or] at h
    simp [afterFirst, h.1, ← ih h.2]

/-- A marker that is a part of a text is found. -/
theorem isSome_afterFirst {marker s : List Char} (h : marker <:+: s) :
    (afterFirst marker s).isSome = true := by
  induction s with
  | nil =>
    rw [List.eq_nil_of_infix_nil h]
    rfl
  | cons c s ih =>
    rw [afterFirst]
    cases hprefix : marker.isPrefixOf (c :: s) with
    | true => rfl
    | false =>
      rw [if_neg Bool.false_ne_true]
      rcases List.infix_cons_iff.mp h with h | h
      · rw [List.isPrefixOf_iff_prefix.mpr h] at hprefix
        cases hprefix
      · exact ih h

/-! ### Cutting and splitting -/

/-- The characters with the property `White_Space`. -/
def isWhitespace (c : Char) : Bool :=
  let n := c.toNat
  (decide (9 ≤ n) && decide (n ≤ 13)) || n == 32 || n == 133 || n == 160 || n == 5760 ||
    (decide (8192 ≤ n) && decide (n ≤ 8202)) || n == 8232 || n == 8233 || n == 8239 ||
    n == 8287 || n == 12288

/-- The characters of the category `Cc`. -/
def isControl (c : Char) : Bool :=
  decide (c.toNat < 32) || (decide (127 ≤ c.toNat) && decide (c.toNat < 160))

/-- The text without white space at either end. -/
def trim (s : List Char) : List Char :=
  ((s.dropWhile isWhitespace).reverse.dropWhile isWhitespace).reverse

/-- What stands before the first `c`, or everything. -/
def firstPart (c : Char) (s : List Char) : List Char := s.takeWhile fun d => d != c

/-- What stands before the first `c` and behind it. -/
def splitOnce (c : Char) (s : List Char) : Option (List Char × List Char) :=
  if c ∈ s then some (firstPart c s, s.drop ((firstPart c s).length + 1)) else none

theorem splitOnce_append {c : Char} {before : List Char} (h : c ∉ before) (behind : List Char) :
    splitOnce c (before ++ c :: behind) = some (before, behind) := by
  have hfirst : firstPart c (before ++ c :: behind) = before := by
    rw [firstPart, List.takeWhile_append_of_pos]
    · simp
    · intro d hd
      have hne : d ≠ c := fun heq => h (heq ▸ hd)
      simpa using hne
  rw [splitOnce, if_pos (by simp), hfirst]
  simp

/-- A text splits where the character occurs first. -/
theorem splitOnce_eq_some_iff {c : Char} {s before behind : List Char} :
    splitOnce c s = some (before, behind) ↔ s = before ++ c :: behind ∧ c ∉ before := by
  constructor
  · intro h
    by_cases hmem : c ∈ s
    · obtain ⟨before', behind', rfl, hnotMem⟩ := List.eq_append_cons_of_mem hmem
      rw [splitOnce_append hnotMem] at h
      cases h
      exact ⟨rfl, hnotMem⟩
    · rw [splitOnce, if_neg hmem] at h
      contradiction
  · rintro ⟨rfl, hnotMem⟩
    exact splitOnce_append hnotMem behind

/-- The text ends with another. -/
def endsWith (s ending : List Char) : Bool := ending.isSuffixOf s

/-! ### Numerals -/

/-- The value of a decimal numeral that may start with a plus sign, if it is below the
bound. -/
def parseUnsigned (bound : ℕ) (s : List Char) : Option ℕ :=
  let digits := if s.head? = some '+' then s.tail else s
  if digits ≠ [] ∧ digits.all Char.isDigit then
    let n := Nat.ofDigitChars 10 digits 0
    if n < bound then some n else none
  else none

/-- The characters of a numeral are digits. -/
theorem isDigit_of_mem_repr {n : ℕ} {c : Char} (hc : c ∈ n.repr.toList) : c.isDigit = true := by
  rw [Nat.toList_repr] at hc
  exact Nat.isDigit_of_mem_toDigits (by omega) (by omega) hc

/-- A character that is no digit does not occur in a numeral. -/
theorem notMem_repr {c : Char} (hc : c.isDigit = false) (n : ℕ) : c ∉ n.repr.toList := by
  intro hmem
  rw [isDigit_of_mem_repr hmem] at hc
  contradiction

/-- **A numeral written out is read back.** -/
theorem parseUnsigned_repr {n bound : ℕ} (h : n < bound) :
    parseUnsigned bound n.repr.toList = some n := by
  have hhead : n.repr.toList.head? ≠ some '+' := by
    intro hplus
    exact notMem_repr (by decide) n (List.mem_of_head? hplus)
  have hall : n.repr.toList.all Char.isDigit = true := by
    rw [List.all_eq_true]
    exact fun c hc => isDigit_of_mem_repr hc
  have hne : n.repr.toList ≠ [] := by
    rw [Nat.toList_repr]
    exact Nat.toDigits_ne_nil
  have hvalue : Nat.ofDigitChars 10 n.repr.toList 0 = n := by
    rw [Nat.toList_repr, Nat.ofDigitChars_ten_toDigits]
  simp only [parseUnsigned, if_neg hhead, if_pos (And.intro hne hall), hvalue, if_pos h]

end Text
