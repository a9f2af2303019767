import ActonService.Lib.Text

/-!
# Tags with quoted attributes

Text is made safe for an attribute of a tag by replacing some characters, one after another.  If no
replacement brings back a character that comes later, the chain is a substitution of the characters
one by one.  A reader that takes a value up to its closing quotation mark and puts the characters
back for their references then reads what was written, but for three characters no reader of HTML
takes as they are: a carriage return, with or without a line feed behind it, is a line feed to it,
and a null is a replacement character.

## Main definitions

* `replaceAll`, `substitute` — chains of replacements, and what becomes of one character.
* `normalizeNewlines`, `readChar`, `asRead` — the line breaks of a page, a character of a value, and
  a text as it is read.
* `reference`, `readValue` — references, and reading a value.
* `writeTag`, `readTag` — a tag with attributes, written and read.

## Main results

* `replaceAll_eq_flatMap` — **a chain of replacements is a substitution.**
* `asRead_eq_iff` — **which texts are read as they are.**
* `readValue_flatMap`, `normalizeNewlines_flatMap` — an escaped value is read as what was escaped,
  and has its line breaks.
* `readTag_writeTag` — **a tag is read with the values it was written with**, whatever stands behind
  it.
-/

namespace Html

open Text

/-! ### Chains of replacements -/

/-- The replacements, one after another. -/
def replaceAll (rules : List (Char × List Char)) (s : List Char) : List Char :=
  rules.foldl (fun s rule => replaceChar rule.1 rule.2 s) s

/-- What becomes of a character: what its rule puts in its place, or the character itself. -/
def substitute (rules : List (Char × List Char)) (c : Char) : List Char :=
  (rules.lookup c).getD [c]

/-- No replacement brings back a character that is replaced later. -/
def Settled (rules : List (Char × List Char)) : Prop :=
  rules.Pairwise fun rule later => later.1 ∉ rule.2

theorem substitute_of_notMem {rules : List (Char × List Char)} {c : Char}
    (h : ∀ rule ∈ rules, rule.1 ≠ c) : substitute rules c = [c] := by
  have hnone : rules.lookup c = none := by
    rw [List.lookup_eq_none_iff]
    exact fun rule hrule => by simp [Ne.symm (h rule hrule)]
  rw [substitute, hnone]
  rfl

theorem flatMap_substitute_of_notMem {rules : List (Char × List Char)} {s : List Char}
    (h : ∀ rule ∈ rules, rule.1 ∉ s) : s.flatMap (substitute rules) = s := by
  induction s with
  | nil => rfl
  | cons c s ih =>
    have hhead : substitute rules c = [c] :=
      substitute_of_notMem fun rule hrule heq => h rule hrule (heq ▸ List.mem_cons_self)
    have htail := ih fun rule hrule hmem => h rule hrule (List.mem_cons_of_mem _ hmem)
    rw [List.flatMap_cons, hhead, htail]
    rfl

/-- **A chain of replacements is a substitution.** -/
theorem replaceAll_eq_flatMap {rules : List (Char × List Char)} (h : Settled rules)
    (s : List Char) : replaceAll rules s = s.flatMap (substitute rules) := by
  induction rules generalizing s with
  | nil =>
    rw [flatMap_substitute_of_notMem (by simp)]
    rfl
  | cons rule rules ih =>
    obtain ⟨c, new⟩ := rule
    obtain ⟨hnew, hrules⟩ := List.pairwise_cons.mp h
    have hstart : replaceAll ((c, new) :: rules) s = replaceAll rules (replaceChar c new s) := rfl
    rw [hstart, ih hrules, replaceChar, List.flatMap_assoc]
    refine List.flatMap_congr fun d _ => ?_
    by_cases hd : d = c
    · subst hd
      rw [if_pos rfl, flatMap_substitute_of_notMem hnew, substitute, List.lookup_cons_self]
      rfl
    · rw [if_neg hd, List.flatMap_singleton, substitute, substitute, List.lookup_cons,
        beq_eq_false_iff_ne.mpr hd]

/-! ### Texts as they are read -/

/-- The character that is read as a replacement character. -/
def nul : Char := Char.ofNat 0

/-- The line breaks of a page, before anything else is done with it. -/
def normalizeNewlines : List Char → List Char
  | [] => []
  | '\r' :: '\n' :: s => '\n' :: normalizeNewlines s
  | '\r' :: s => '\n' :: normalizeNewlines s
  | c :: s => c :: normalizeNewlines s

/-- A character of a value as it is read: a null character is replaced. -/
def readChar (c : Char) : Char := if c = nul then Char.ofNat 0xFFFD else c

/-- A text as it is read where it is the value of an attribute. -/
def asRead (s : List Char) : List Char := (normalizeNewlines s).map readChar

theorem normalizeNewlines_cons {c : Char} (hc : c ≠ '\r') (s : List Char) :
    normalizeNewlines (c :: s) = c :: normalizeNewlines s := by
  rw [normalizeNewlines.eq_4]
  · exact fun _ h => absurd h hc
  · exact fun h => absurd h hc

/-- A carriage return that no line feed follows. -/
theorem normalizeNewlines_return {s : List Char} (hs : ∀ t, s ≠ '\n' :: t) :
    normalizeNewlines ('\r' :: s) = '\n' :: normalizeNewlines s := by
  rw [normalizeNewlines.eq_3]
  exact hs

theorem normalizeNewlines_append {u : List Char} (hu : '\r' ∉ u) (s : List Char) :
    normalizeNewlines (u ++ s) = u ++ normalizeNewlines s := by
  induction u with
  | nil => rfl
  | cons c u ih =>
    rw [List.mem_cons, not_or] at hu
    rw [List.cons_append, normalizeNewlines_cons (Ne.symm hu.1), ih hu.2, List.cons_append]

/-- No carriage return is left. -/
theorem return_notMem_normalizeNewlines (s : List Char) : '\r' ∉ normalizeNewlines s := by
  fun_induction normalizeNewlines s with
  | case1 => simp
  | case2 s ih => simp [ih]
  | case3 s _ ih => simp [ih]
  | case4 c s _ hc ih =>
    rw [List.mem_cons, not_or]
    exact ⟨fun heq => hc heq.symm, ih⟩

theorem readChar_ne_nul (c : Char) : readChar c ≠ nul := by
  rw [readChar]
  split
  · decide
  · assumption

/-- **Texts without carriage returns and nulls are read as they are**, and no others. -/
theorem asRead_eq_iff {s : List Char} : asRead s = s ↔ '\r' ∉ s ∧ nul ∉ s := by
  constructor
  · intro heq
    constructor
    · intro hmem
      rw [← heq, asRead, List.mem_map] at hmem
      obtain ⟨c, hc, hread⟩ := hmem
      have hreturn : c = '\r' := by
        rw [readChar] at hread
        split at hread
        · exact absurd hread (by decide)
        · exact hread
      exact return_notMem_normalizeNewlines s (hreturn ▸ hc)
    · intro hmem
      rw [← heq, asRead, List.mem_map] at hmem
      obtain ⟨c, -, hread⟩ := hmem
      exact readChar_ne_nul c hread
  · rintro ⟨hreturn, hnul⟩
    have hlines : normalizeNewlines s = s := by
      have happend := normalizeNewlines_append hreturn []
      rwa [List.append_nil, normalizeNewlines, List.append_nil] at happend
    rw [asRead, hlines]
    refine (List.map_congr_left fun c hc => ?_).trans s.map_id
    refine if_neg fun heq => hnul ?_
    rwa [heq] at hc

/-! ### Values -/

/-- The reference of that name. -/
def reference (name : List Char) : List Char := '&' :: (name ++ [';'])

/-- The characters are replaced by references that are read as themselves, and none that would end
a value or start a reference is left.  The characters that are not read as they are stay. -/
structure Escapes (refs : List (List Char × Char)) (rules : List (Char × List Char)) : Prop where
  settled : Settled rules
  reference_of_mem : ∀ rule ∈ rules, ∃ name, ';' ∉ name ∧ '\r' ∉ name ∧ rule.2 = reference name ∧
    refs.lookup name = some rule.1
  kept : ∀ c ∈ ['\r', '\n', nul], c ∉ rules.map Prod.fst
  mark_mem : '"' ∈ rules.map Prod.fst
  ampersand_mem : '&' ∈ rules.map Prod.fst

/-- A value up to its closing quotation mark, and what stands behind it.  Of a reference that was
begun the name so far is given. -/
def readValue (refs : List (List Char × Char)) :
    Option (List Char) → List Char → Option (List Char × List Char)
  | _, [] => none
  | none, '"' :: s => some ([], s)
  | none, '&' :: s => readValue refs (some []) s
  | none, c :: s => (readValue refs none s).map (Prod.map (readChar c :: ·) id)
  | some name, ';' :: s => do
    let c ← refs.lookup name
    (readValue refs none s).map (Prod.map (c :: ·) id)
  | some name, c :: s => readValue refs (some (name ++ [c])) s

variable {refs : List (List Char × Char)} {rules : List (Char × List Char)}

theorem readValue_of_ne {c : Char} (hmark : c ≠ '"') (hamp : c ≠ '&') (s : List Char) :
    readValue refs none (c :: s)
      = (readValue refs none s).map (Prod.map (readChar c :: ·) id) := by
  rw [readValue.eq_4]
  · exact fun h => hmark h
  · exact fun h => hamp h

theorem readValue_name {name : List Char} (h : ';' ∉ name) (start s : List Char) :
    readValue refs (some start) (name ++ ';' :: s)
      = (refs.lookup (start ++ name)).bind fun c =>
          (readValue refs none s).map (Prod.map (c :: ·) id) := by
  induction name generalizing start with
  | nil =>
    rw [List.append_nil]
    rfl
  | cons c name ih =>
    rw [List.mem_cons, not_or] at h
    rw [List.cons_append, readValue.eq_6 refs start c _ fun heq => h.1 heq.symm, ih h.2,
      List.append_assoc, List.singleton_append]

/-- What is put for a character: the character itself, or a reference. -/
theorem substitute_cases (h : Escapes refs rules) (c : Char) :
    (c ∉ rules.map Prod.fst ∧ substitute rules c = [c]) ∨
      (c ∈ rules.map Prod.fst ∧ ∃ name, ';' ∉ name ∧ '\r' ∉ name ∧
        substitute rules c = reference name ∧ refs.lookup name = some c) := by
  rw [substitute]
  rcases hrule : rules.lookup c with _ | new
  · refine .inl ⟨fun hmem => ?_, rfl⟩
    obtain ⟨rule, hrules, rfl⟩ := List.mem_map.mp hmem
    have := List.lookup_eq_none_iff.mp hrule rule hrules
    simp at this
  · have hmem : (c, new) ∈ rules := by
      obtain ⟨before, behind, heq, -⟩ := List.lookup_eq_some_iff.mp hrule
      rw [heq]
      simp
    obtain ⟨name, hend, hreturn, rfl, hlookup⟩ := h.reference_of_mem _ hmem
    exact .inr ⟨List.mem_map_of_mem hmem, name, hend, hreturn, rfl, hlookup⟩

/-- What was put for a character is read as the character is. -/
theorem readValue_substitute (h : Escapes refs rules) (c : Char) (s : List Char) :
    readValue refs none (substitute rules c ++ s)
      = (readValue refs none s).map (Prod.map (readChar c :: ·) id) := by
  rcases substitute_cases h c with ⟨hc, hself⟩ | ⟨hc, name, hend, -, hreference, hlookup⟩
  · have hmark : c ≠ '"' := fun heq => hc (heq ▸ h.mark_mem)
    have hamp : c ≠ '&' := fun heq => hc (heq ▸ h.ampersand_mem)
    rw [hself, List.singleton_append, readValue_of_ne hmark hamp]
  · -- a character with a reference is no null
    have hread : readChar c = c := by
      refine if_neg fun heq => h.kept nul (by simp) ?_
      rwa [heq] at hc
    have hstart : readValue refs none (reference name ++ s)
        = readValue refs (some []) (name ++ ';' :: s) := by
      rw [reference, List.cons_append, List.append_assoc, List.singleton_append]
      rfl
    rw [hreference, hstart, readValue_name hend, List.nil_append, hlookup, hread]
    rfl

/-- An escaped value whose line breaks are settled is read. -/
theorem readValue_flatMap (h : Escapes refs rules) (v s : List Char) :
    readValue refs none (v.flatMap (substitute rules) ++ '"' :: s)
      = some (v.map readChar, s) := by
  induction v with
  | nil => rfl
  | cons c v ih =>
    rw [List.flatMap_cons, List.append_assoc, readValue_substitute h, ih]
    rfl

/-- What is put for a text starts with a line feed only if the text does. -/
theorem flatMap_substitute_ne (h : Escapes refs rules) {v s : List Char}
    (hv : ∀ t, v ≠ '\n' :: t) (hs : ∀ t, s ≠ '\n' :: t) (t : List Char) :
    v.flatMap (substitute rules) ++ s ≠ '\n' :: t := by
  cases v with
  | nil => exact hs t
  | cons c v =>
    rw [List.flatMap_cons, List.append_assoc]
    rcases substitute_cases h c with ⟨-, hself⟩ | ⟨-, name, -, -, hreference, -⟩
    · rw [hself, List.singleton_append]
      exact fun heq => hv v (by rw [(List.cons.inj heq).1])
    · rw [hreference, reference, List.cons_append]
      exact fun heq => absurd (List.cons.inj heq).1 (by decide)

/-- The line breaks of an escaped text are those of the text. -/
theorem normalizeNewlines_flatMap (h : Escapes refs rules) (v : List Char) {s : List Char}
    (hs : ∀ t, s ≠ '\n' :: t) :
    normalizeNewlines (v.flatMap (substitute rules) ++ s)
      = (normalizeNewlines v).flatMap (substitute rules) ++ normalizeNewlines s := by
  have hkept : ∀ c ∈ ['\r', '\n', nul], substitute rules c = [c] := by
    intro c hc
    rcases substitute_cases h c with ⟨-, hself⟩ | ⟨hmem, -⟩
    · exact hself
    · exact absurd hmem (h.kept c hc)
  have hreturn : substitute rules '\r' = ['\r'] := hkept _ (by simp)
  have hfeed : substitute rules '\n' = ['\n'] := hkept _ (by simp)
  fun_induction normalizeNewlines v with
  | case1 => rfl
  | case2 v ih =>
    rw [List.flatMap_cons, List.flatMap_cons, hreturn, hfeed, List.flatMap_cons, hfeed]
    simpa [normalizeNewlines] using ih
  | case3 v hv ih =>
    rw [List.flatMap_cons, List.flatMap_cons, hreturn, hfeed, List.append_assoc,
      List.singleton_append, normalizeNewlines_return (flatMap_substitute_ne h hv hs), ih]
    rfl
  | case4 c v _ hc ih =>
    have hplain : '\r' ∉ substitute rules c := by
      rcases substitute_cases h c with ⟨-, hself⟩ | ⟨-, name, -, hname, hreference, -⟩
      · rw [hself, List.mem_singleton]
        exact fun heq => hc heq.symm
      · simp [hreference, reference, hname]
    rw [List.flatMap_cons, List.flatMap_cons, List.append_assoc, normalizeNewlines_append hplain,
      ih, List.append_assoc]

/-! ### Tags -/

/-- A character of the name of a tag or of an attribute. -/
def isNameChar (c : Char) : Bool := c.isAlphanum || c == '-'

/-- An attribute: its name and its value. -/
abbrev Attribute := List Char × List Char

/-- The text of an attribute. -/
def writeAttribute (rules : List (Char × List Char)) (a : Attribute) : List Char :=
  ' ' :: (a.1 ++ '=' :: '"' :: (replaceAll rules a.2 ++ ['"']))

/-- The text of a tag. -/
def writeTag (rules : List (Char × List Char)) (name : List Char) (attributes : List Attribute) :
    List Char :=
  '<' :: (name ++ (attributes.flatMap (writeAttribute rules) ++ ['>']))

/-- So many attributes at most, up to the end of a tag, and what stands behind it. -/
def readAttributes (refs : List (List Char × Char)) :
    ℕ → List Char → Option (List Attribute × List Char)
  | _, '>' :: s => some ([], s)
  | n + 1, ' ' :: s =>
    match s.dropWhile isNameChar with
    | '=' :: '"' :: t =>
      (readValue refs none t).bind fun v =>
        (readAttributes refs n v.2).map (Prod.map ((s.takeWhile isNameChar, v.1) :: ·) id)
    | _ => none
  | _, _ => none

/-- A tag: its name, its attributes and what stands behind it. -/
def readTag (refs : List (List Char × Char)) :
    List Char → Option (List Char × List Attribute × List Char)
  | '<' :: s =>
    (readAttributes refs s.length (s.dropWhile isNameChar)).map (s.takeWhile isNameChar, ·)
  | _ => none

/-- A name ends where no character of one stands. -/
theorem takeWhile_name {name : List Char} (h : ∀ c ∈ name, isNameChar c = true) {c : Char}
    (hc : isNameChar c = false) (s : List Char) :
    (name ++ c :: s).takeWhile isNameChar = name ∧
      (name ++ c :: s).dropWhile isNameChar = c :: s := by
  rw [List.takeWhile_append_of_pos h, List.dropWhile_append_of_pos h, List.takeWhile_cons_of_neg,
    List.dropWhile_cons_of_neg, List.append_nil]
  · exact ⟨rfl, rfl⟩
  · simp [hc]
  · simp [hc]

theorem readAttributes_append (h : Escapes refs rules) {attributes : List Attribute}
    (hnames : ∀ a ∈ attributes, ∀ c ∈ a.1, isNameChar c = true) {n : ℕ}
    (hn : attributes.length ≤ n) (s : List Char) :
    readAttributes refs n (attributes.flatMap (writeAttribute rules) ++ '>' :: s)
      = some (attributes.map fun a => (a.1, a.2.map readChar), s) := by
  induction attributes generalizing n with
  | nil =>
    cases n <;> rfl
  | cons a attributes ih =>
    obtain ⟨n, rfl⟩ : ∃ m, n = m + 1 := ⟨n - 1, by rw [List.length_cons] at hn; omega⟩
    obtain ⟨ha, hrest⟩ := List.forall_mem_cons.mp hnames
    obtain ⟨htake, hdrop⟩ := takeWhile_name ha (c := '=') (by decide)
      ('"' :: (replaceAll rules a.2 ++ '"' ::
        (attributes.flatMap (writeAttribute rules) ++ '>' :: s)))
    have htext : (a :: attributes).flatMap (writeAttribute rules) ++ '>' :: s
        = ' ' :: (a.1 ++ '=' :: '"' :: (replaceAll rules a.2 ++ '"' ::
          (attributes.flatMap (writeAttribute rules) ++ '>' :: s))) := by
      simp [writeAttribute]
    rw [htext, readAttributes, hdrop, htake]
    simp only [replaceAll_eq_flatMap h.settled, readValue_flatMap h, Option.bind_some,
      ih hrest (Nat.le_of_succ_le_succ hn)]
    rfl

/-- A tag whose line breaks are settled is read. -/
theorem readTag_of_settled (h : Escapes refs rules) {name : List Char}
    (hname : ∀ c ∈ name, isNameChar c = true) {attributes : List Attribute}
    (hnames : ∀ a ∈ attributes, ∀ c ∈ a.1, isNameChar c = true) (s : List Char) :
    readTag refs (writeTag rules name attributes ++ s)
      = some (name, attributes.map fun a => (a.1, a.2.map readChar), s) := by
  have hattributes := readAttributes_append h hnames
    (n := (name ++ (attributes.flatMap (writeAttribute rules) ++ '>' :: s)).length) ?_ s
  · have hlt : ∃ c t, attributes.flatMap (writeAttribute rules) ++ '>' :: s = c :: t ∧
        isNameChar c = false := by
      cases attributes with
      | nil => exact ⟨'>', s, rfl, by decide⟩
      | cons a attributes => exact ⟨' ', _, rfl, by decide⟩
    obtain ⟨c, t, heq, hc⟩ := hlt
    obtain ⟨htake, hdrop⟩ := takeWhile_name hname hc t
    have htext : writeTag rules name attributes ++ s
        = '<' :: (name ++ (attributes.flatMap (writeAttribute rules) ++ '>' :: s)) := by
      simp [writeTag]
    rw [htext, readTag]
    rw [← heq] at htake hdrop
    rw [hdrop, htake, hattributes]
    rfl
  · -- every attribute has a text
    have hle : attributes.length ≤ (attributes.flatMap (writeAttribute rules)).length := by
      induction attributes with
      | nil => exact Nat.zero_le _
      | cons a attributes ih =>
        have := ih fun b hb => hnames b (List.mem_cons_of_mem a hb)
        simp only [List.flatMap_cons, List.length_append, List.length_cons, writeAttribute]
        omega
    simp only [List.length_append]
    omega

/-- The line breaks of a tag are those of its values. -/
theorem normalizeNewlines_attributes (h : Escapes refs rules) {attributes : List Attribute}
    (hnames : ∀ a ∈ attributes, ∀ c ∈ a.1, isNameChar c = true) (s : List Char) :
    normalizeNewlines (attributes.flatMap (writeAttribute rules) ++ '>' :: s)
      = (attributes.map fun a => (a.1, normalizeNewlines a.2)).flatMap (writeAttribute rules)
        ++ '>' :: normalizeNewlines s := by
  induction attributes with
  | nil => exact normalizeNewlines_cons (by decide) s
  | cons a attributes ih =>
    obtain ⟨ha, hrest⟩ := List.forall_mem_cons.mp hnames
    have htext : ∀ (b : Attribute) (u : List Char), writeAttribute rules b ++ u
        = (' ' :: (b.1 ++ ['=', '"'])) ++ (b.2.flatMap (substitute rules) ++ '"' :: u) := by
      intro b u
      simp [writeAttribute, replaceAll_eq_flatMap h.settled]
    have hplain : '\r' ∉ ' ' :: (a.1 ++ ['=', '"']) := by
      intro hmem
      have hname : '\r' ∈ a.1 := by simpa using hmem
      exact absurd (ha _ hname) (by decide)
    have hmark : ∀ u t, '"' :: u ≠ '\n' :: t := fun u t heq =>
      absurd (List.cons.inj heq).1 (by decide)
    rw [List.flatMap_cons, List.map_cons, List.flatMap_cons, List.append_assoc, htext,
      normalizeNewlines_append hplain, normalizeNewlines_flatMap h _ (hmark _),
      normalizeNewlines_cons (by decide), ih hrest, List.append_assoc, htext]

theorem normalizeNewlines_writeTag (h : Escapes refs rules) {name : List Char}
    (hname : ∀ c ∈ name, isNameChar c = true) {attributes : List Attribute}
    (hnames : ∀ a ∈ attributes, ∀ c ∈ a.1, isNameChar c = true) (s : List Char) :
    normalizeNewlines (writeTag rules name attributes ++ s)
      = writeTag rules name (attributes.map fun a => (a.1, normalizeNewlines a.2))
        ++ normalizeNewlines s := by
  have htext : ∀ (bs : List Attribute) (u : List Char), writeTag rules name bs ++ u
      = ('<' :: name) ++ (bs.flatMap (writeAttribute rules) ++ '>' :: u) := by
    intro bs u
    simp [writeTag]
  have hplain : '\r' ∉ '<' :: name := by
    intro hmem
    have hname' : '\r' ∈ name := by simpa using hmem
    exact absurd (hname _ hname') (by decide)
  rw [htext, normalizeNewlines_append hplain, normalizeNewlines_attributes h hnames, htext]

/-- **A tag is read with the values it was written with**, as they are read anywhere, whatever
stands behind it. -/
theorem readTag_writeTag (h : Escapes refs rules) {name : List Char}
    (hname : ∀ c ∈ name, isNameChar c = true) {attributes : List Attribute}
    (hnames : ∀ a ∈ attributes, ∀ c ∈ a.1, isNameChar c = true) (s : List Char) :
    readTag refs (normalizeNewlines (writeTag rules name attributes ++ s))
      = some (name, attributes.map fun a => (a.1, asRead a.2), normalizeNewlines s) := by
  have hsettled : ∀ a ∈ attributes.map fun a => (a.1, normalizeNewlines a.2),
      ∀ c ∈ a.1, isNameChar c = true := by
    intro a ha
    obtain ⟨b, hb, rfl⟩ := List.mem_map.mp ha
    exact hnames b hb
  rw [normalizeNewlines_writeTag h hname hnames, readTag_of_settled h hname hsettled, List.map_map]
  rfl

end Html
