import ActonService.Audit.Middleware
import ActonService.Lib.Segments

/-!
# The patterns of audited routes

What the patterns of `audited_routes` and `excluded_routes` mean, segment by segment, and what
`path_matches_glob` makes of them.  It compares texts: a wildcard at the end stands for any text
behind the ones before it, one further in for any text between what stands on its sides, and a
pattern with more of them is read to the letter.

## Main definitions

* `AuditGlob`, `AuditGlob.Matches` — a pattern, and the paths it is written for.
* `AuditGlob.AsWritten` — where a pattern is read as it is written.

## Main results

* `pathMatchesGlob_iff` — **a pattern matches the paths it is written for** exactly where it is read
  as it is written.
-/

namespace ActonService

open Segments

/-! ### Patterns -/

/-- A segment of a pattern. -/
inductive GlobSegment
  | literal (text : List Char) (plain : '/' ∉ text ∧ '*' ∉ text)
  | star
  | doubleStar
  deriving DecidableEq

namespace GlobSegment

def text : GlobSegment → List Char
  | literal text _ => text
  | star => ['*']
  | doubleStar => ['*', '*']

def isWildcard : GlobSegment → Bool
  | literal _ _ => false
  | star | doubleStar => true

/-- Segments match the segments of a path: `*` one of them, `**` any number. -/
inductive Match : List GlobSegment → List (List Char) → Prop
  | nil : Match [] []
  | literal {text plain globs segs} (h : Match globs segs) :
    Match (.literal text plain :: globs) (text :: segs)
  | star {globs segs} (seg : List Char) (h : Match globs segs) :
    Match (.star :: globs) (seg :: segs)
  | doubleStar {globs segs} (taken : List (List Char)) (h : Match globs segs) :
    Match (.doubleStar :: globs) (taken ++ segs)

end GlobSegment

/-- A pattern of segments, the last of which decides what it is read as. -/
structure AuditGlob where
  before : List GlobSegment
  last : GlobSegment

namespace AuditGlob

def segments (p : AuditGlob) : List GlobSegment := p.before ++ [p.last]

/-- The text of some segments, with a `/` between each two of them. -/
def textOf (globs : List GlobSegment) : List Char := join '/' (globs.map GlobSegment.text)

/-- The text of the pattern. -/
def text (p : AuditGlob) : List Char := textOf p.segments

/-- The pattern as it is meant: `/*` at the end stands for all remaining segments. -/
def meant (p : AuditGlob) : List GlobSegment :=
  match p.before, p.last with
  | _ :: _, .star => p.segments ++ [.doubleStar]
  | _, _ => p.segments

/-- **The paths a pattern is written for.** -/
def Matches (p : AuditGlob) (path : String) : Prop :=
  GlobSegment.Match p.meant (path.toList.splitOn '/')

/-- How many segments of the pattern are wildcards, be it `*` or `**`. -/
def wildcards (p : AuditGlob) : ℕ := p.segments.countP GlobSegment.isWildcard

/-- The pattern ends with a wildcard behind a `/`. -/
def isTrailing (p : AuditGlob) : Bool := !p.before.isEmpty && p.last.isWildcard

/-- The path spells the wildcards of the pattern out, but for the last one. -/
def Spells (p : AuditGlob) (path : String) : Prop :=
  textOf p.before <+: path.toList ∧ (p.last = .star → path.toList ≠ textOf p.before)

/-- The segments of the path go on as those of the pattern do, behind the text of those before its
trailing wildcard: the last of them ends there, or it is a `*`, which stands for the rest of that
segment too, and there are segments enough behind it.  Behind a `**` the pattern may be written for
the path with other segments in the places of those before. -/
def GoesOn (p : AuditGlob) (path : String) : Prop :=
  path.toList = textOf p.before ∨ textOf p.before ++ ['/'] <+: path.toList ∨
    (p.before.getLast? = some .star ∧
      (p.last = .doubleStar ∨ p.before.length < (path.toList.splitOn '/').length)) ∨
    .doubleStar ∈ p.before ∧ p.Matches path

/-- **Where a pattern is read as it is written**: the path does not go on behind a trailing wildcard
in the middle of a segment, another wildcard stands for one segment, and a path that a pattern with
several of them is written for spells them out. -/
def AsWritten (p : AuditGlob) (path : String) : Prop :=
  if p.wildcards = 0 then True
  else if p.wildcards = 1 ∧ p.isTrailing = true then
    textOf p.before <+: path.toList →
      path.toList = textOf p.before ∨ textOf p.before ++ ['/'] <+: path.toList
  else if p.wildcards = 1 ∧ .star ∈ p.segments then
    ∀ start ending, Text.splitOnce '*' p.text = some (start, ending) →
      start <+: path.toList → ending <:+ path.toList →
      path.toList.count '/' = p.text.count '/'
  else if p.isTrailing = true then
    (p.Matches path → p.Spells path) ∧ (textOf p.before <+: path.toList → p.GoesOn path)
  else p.Matches path → path.toList = p.text

end AuditGlob

/-! ### What the segments match -/

namespace GlobSegment

variable {globs literals : List GlobSegment} {segs : List (List Char)}

theorem slash_notMem_text (g : GlobSegment) : '/' ∉ g.text := by
  cases g with
  | literal text plain => exact plain.1
  | star => decide
  | doubleStar => decide

theorem eq_star_of_text {g : GlobSegment} (h : g.text = ['*']) : g = .star := by
  cases g with
  | literal text plain =>
    change text = ['*'] at h
    rw [h] at plain
    exact absurd List.mem_cons_self plain.2
  | star => rfl
  | doubleStar => contradiction

theorem eq_doubleStar_of_text {g : GlobSegment} (h : g.text = ['*', '*']) : g = .doubleStar := by
  cases g with
  | literal text plain =>
    change text = ['*', '*'] at h
    rw [h] at plain
    exact absurd List.mem_cons_self plain.2
  | star => contradiction
  | doubleStar => rfl

@[simp] theorem match_nil_iff : Match [] segs ↔ segs = [] := by
  constructor
  · intro h
    cases h
    rfl
  · rintro rfl
    exact .nil

@[simp] theorem match_star_iff :
    Match (.star :: globs) segs ↔ ∃ seg rest, segs = seg :: rest ∧ Match globs rest := by
  constructor
  · intro h
    cases h with
    | star seg h => exact ⟨seg, _, rfl, h⟩
  · rintro ⟨seg, rest, rfl, h⟩
    exact .star seg h

@[simp] theorem match_doubleStar : Match [.doubleStar] segs := by
  have h := Match.doubleStar segs .nil
  rwa [List.append_nil] at h

/-- Literals match themselves and nothing else: the rest of the pattern matches the rest of the
path. -/
theorem match_literals_append_iff (h : ∀ g ∈ literals, g.isWildcard = false) :
    Match (literals ++ globs) segs
      ↔ ∃ rest, segs = literals.map text ++ rest ∧ Match globs rest := by
  induction literals generalizing segs with
  | nil => simp
  | cons g literals ih =>
    rw [List.forall_mem_cons] at h
    cases g with
    | literal t plain =>
      constructor
      · intro hmatch
        cases hmatch with
        | literal hmatch =>
          obtain ⟨rest, rfl, hrest⟩ := (ih h.2).mp hmatch
          exact ⟨rest, rfl, hrest⟩
      · rintro ⟨rest, rfl, hrest⟩
        exact .literal ((ih h.2).mpr ⟨rest, rfl, hrest⟩)
    | star => exact absurd h.1 (by decide)
    | doubleStar => exact absurd h.1 (by decide)

/-- Segments match their own texts, wildcards too: each is a text of one segment. -/
theorem match_append_of_text {segs' : List (List Char)} (h : Match globs segs') :
    ∀ before : List GlobSegment, Match (before ++ globs) (before.map text ++ segs') := by
  intro before
  induction before with
  | nil => exact h
  | cons g before ih =>
    cases g with
    | literal t plain => exact .literal ih
    | star => exact .star _ ih
    | doubleStar => exact .doubleStar [['*', '*']] ih

/-- Without a `**` every segment matches one, so that what is behind matches what is left. -/
theorem drop_of_match {before : List GlobSegment} (hbefore : .doubleStar ∉ before)
    (h : Match (before ++ globs) segs) : Match globs (segs.drop before.length) := by
  induction before generalizing segs with
  | nil => exact h
  | cons g before ih =>
    rw [List.mem_cons, not_or] at hbefore
    cases h with
    | literal h => exact ih hbefore.2 h
    | star seg h => exact ih hbefore.2 h
    | doubleStar taken h => exact absurd rfl hbefore.1

end GlobSegment

namespace AuditGlob

variable {p : AuditGlob} {path : String}

theorem splitOn_textOf {globs : List GlobSegment} (hne : globs ≠ []) :
    (textOf globs).splitOn '/' = globs.map GlobSegment.text := by
  refine (splitOn_eq_iff (by simpa using hne) fun x hx => ?_).mpr rfl
  obtain ⟨g, -, rfl⟩ := List.mem_map.mp hx
  exact g.slash_notMem_text

theorem segments_ne_nil (p : AuditGlob) : p.segments ≠ [] := List.concat_ne_nil _ _

theorem splitOn_text (p : AuditGlob) :
    p.text.splitOn '/' = p.before.map GlobSegment.text ++ [p.last.text] := by
  rw [text, splitOn_textOf p.segments_ne_nil, segments, List.map_append]
  rfl

/-- Behind other segments the last one follows a `/`. -/
theorem text_eq (h : p.before ≠ []) : p.text = textOf p.before ++ '/' :: p.last.text := by
  rw [text, textOf, segments, List.map_append, join_append (by simpa using h) (by simp)]
  simp [textOf]

/-- A pattern that ends with `/` and a text without one is another pattern in front of it. -/
theorem eq_of_text_eq {x ending : List Char} (hending : '/' ∉ ending)
    (h : p.text = x ++ '/' :: ending) :
    p.before ≠ [] ∧ x = textOf p.before ∧ p.last.text = ending := by
  have hsplit := p.splitOn_text
  rw [h, List.splitOn_append_cons_self, List.splitOn_eq_singleton hending] at hsplit
  obtain ⟨hbefore, hlast⟩ := List.append_inj' hsplit rfl
  refine ⟨fun hnil => ?_, ?_, (List.singleton_inj.mp hlast).symm⟩
  · rw [hnil] at hbefore
    exact List.splitOn_ne_nil _ _ hbefore
  · rw [textOf, ← hbefore, join_splitOn]

/-! ### What the code reads -/

/-- The pattern as it is configured. -/
def pattern (p : AuditGlob) : String := String.ofList p.text

theorem stripSuffix_eq_some_iff {s ending start : String} :
    stripSuffix s ending = some start ↔ s = start ++ ending := by
  simp only [stripSuffix, Text.endsWith, List.isSuffixOf_iff_suffix]
  constructor
  · intro h
    split_ifs at h with hsuffix
    obtain ⟨x, hx⟩ := hsuffix
    rw [Option.some.injEq] at h
    have hlength : s.length - ending.length = x.length := by
      rw [← String.length_toList, ← String.length_toList, ← hx, List.length_append]
      omega
    rw [hlength, ← hx, List.take_left] at h
    rw [← h, ← String.toList_inj, String.toList_append, String.toList_ofList, hx]
  · rintro rfl
    rw [String.toList_append, if_pos (List.suffix_append _ _), String.length_append,
      Nat.add_sub_cancel, ← String.length_toList, List.take_left, String.ofList_toList]

theorem stripSuffix_eq_none {s ending : String} (h : ∀ start, s ≠ start ++ ending) :
    stripSuffix s ending = none := by
  cases hstrip : stripSuffix s ending with
  | none => rfl
  | some start => exact absurd (stripSuffix_eq_some_iff.mp hstrip) (h start)

/-- A path that starts with a text is longer if it is another one. -/
theorem utf8ByteSize_lt_iff {start path : String} (h : startsWith path start = true) :
    start.utf8ByteSize < path.utf8ByteSize ↔ path ≠ start := by
  obtain ⟨rest, hrest⟩ := List.isPrefixOf_iff_prefix.mp h
  have hpath : path = start ++ String.ofList rest := by
    rw [← String.toList_inj, String.toList_append, String.toList_ofList, hrest]
  rw [hpath, String.utf8ByteSize_append]
  constructor
  · intro hlt heq
    rw [heq] at hpath
    have hsize := congrArg String.utf8ByteSize heq
    rw [String.utf8ByteSize_append] at hsize
    omega
  · intro hne
    by_contra hle
    have hzero : (String.ofList rest).utf8ByteSize = 0 := by omega
    rw [String.utf8ByteSize_eq_zero_iff] at hzero
    exact hne (by rw [hzero, String.append_empty])

theorem isTrailing_iff : p.isTrailing = true ↔ p.before ≠ [] ∧ p.last.isWildcard = true := by
  simp [isTrailing]

theorem startsWith_ofList {start : List Char} :
    startsWith path (String.ofList start) = true ↔ start <+: path.toList := by
  rw [startsWith, String.toList_ofList, List.isPrefixOf_iff_prefix]

theorem eq_pattern_iff : path = p.pattern ↔ path.toList = p.text := by
  rw [pattern, ← String.toList_inj, String.toList_ofList]

/-- Only a pattern with a wildcard behind a `/` ends so. -/
theorem stripSuffix_pattern (ending : List Char) (hending : '/' ∉ ending)
    (h : p.before = [] ∨ p.last.text ≠ ending) :
    stripSuffix p.pattern (String.ofList ('/' :: ending)) = none := by
  apply stripSuffix_eq_none
  intro start hstart
  have htext : p.text = start.toList ++ '/' :: ending := by
    rw [← eq_pattern_iff.mp hstart.symm, String.toList_append, String.toList_ofList]
  obtain ⟨hbefore, -, hlast⟩ := eq_of_text_eq hending htext
  rcases h with hnil | hne
  · exact hbefore hnil
  · exact hne hlast

/-- A pattern with a wildcard at its end is read as a start and a wildcard. -/
theorem pathMatchesGlob_trailing (h : p.isTrailing = true) :
    pathMatchesGlob path p.pattern = true ↔ p.Spells path := by
  obtain ⟨hbefore, hlast⟩ := isTrailing_iff.mp h
  rw [Spells]
  -- the pattern is the text of the segments before, a slash and the wildcard
  have htext := text_eq hbefore
  have hpattern : p.pattern
      = String.ofList (textOf p.before) ++ String.ofList ('/' :: p.last.text) := by
    rw [pattern, htext, String.ofList_append]
  -- the pattern itself, as a path, is of the form too
  have hself : path = p.pattern → textOf p.before <+: path.toList ∧
      path.toList ≠ textOf p.before := by
    intro heq
    rw [eq_pattern_iff.mp heq, htext]
    exact ⟨List.prefix_append _ _, by simp⟩
  cases hkind : p.last with
  | literal text plain =>
    rw [hkind] at hlast
    contradiction
  -- `/*` is taken off, and what remains must be a proper start of the path
  | star =>
    rw [hkind] at hpattern
    have hstrip : stripSuffix p.pattern "/*" = some (String.ofList (textOf p.before)) :=
      stripSuffix_eq_some_iff.mpr hpattern
    rw [pathMatchesGlob]
    by_cases heq : path = p.pattern
    · rw [if_pos heq]
      exact iff_of_true rfl ⟨(hself heq).1, fun _ => (hself heq).2⟩
    · rw [if_neg heq, hstrip]
      simp only [Bool.and_eq_true, decide_eq_true_eq, startsWith_ofList, true_imp_iff]
      refine and_congr_right fun hstarts => ?_
      rw [utf8ByteSize_lt_iff (startsWith_ofList.mpr hstarts), ne_eq, ← String.toList_inj,
        String.toList_ofList]
  -- `/**` is taken off, and what remains may be all of the path
  | doubleStar =>
    rw [hkind] at hpattern
    have hstrip : stripSuffix p.pattern "/**" = some (String.ofList (textOf p.before)) :=
      stripSuffix_eq_some_iff.mpr hpattern
    have hnone : stripSuffix p.pattern "/*" = none :=
      stripSuffix_pattern ['*'] (by decide) (.inr (by rw [hkind]; decide))
    rw [pathMatchesGlob]
    by_cases heq : path = p.pattern
    · rw [if_pos heq]
      exact iff_of_true rfl ⟨(hself heq).1, fun _ => (hself heq).2⟩
    · rw [if_neg heq, hnone, hstrip]
      simp [startsWith_ofList]

/-- A text with one wildcard is a start and an ending. -/
theorem matchesParts_splitOn_iff {s : List Char} :
    matchesParts path (s.splitOn '*') = true ↔
      ∃ start ending, s = start ++ '*' :: ending ∧ '*' ∉ start ∧ '*' ∉ ending ∧
        start <+: path.toList ∧ ending <:+ path.toList := by
  constructor
  · intro h
    rcases hsplit : s.splitOn '*' with _ | ⟨start, _ | ⟨ending, _ | ⟨third, rest⟩⟩⟩
    · exact absurd hsplit (List.splitOn_ne_nil _ _)
    · rw [hsplit] at h
      contradiction
    · rw [hsplit, matchesParts, Text.endsWith, Bool.and_eq_true, List.isPrefixOf_iff_prefix,
        List.isSuffixOf_iff_suffix] at h
      have hmem : ∀ x ∈ [start, ending], '*' ∉ x := by
        rw [← hsplit]
        exact fun x hx => Lines.notMem_of_mem_splitOn hx
      refine ⟨start, ending, ?_, hmem _ (by simp), hmem _ (by simp), h⟩
      rw [(splitOn_eq_iff (by simp) hmem).mp hsplit, join_cons (by simp), join_singleton]
    · rw [hsplit] at h
      contradiction
  · rintro ⟨start, ending, rfl, hstart, hending, hstarts, hsuffix⟩
    rw [List.splitOn_append_cons_self_of_not_mem hstart, List.splitOn_eq_singleton hending,
      matchesParts, Text.endsWith, Bool.and_eq_true, List.isPrefixOf_iff_prefix,
      List.isSuffixOf_iff_suffix]
    exact ⟨hstarts, hsuffix⟩

/-- Any other pattern is read as a text with one wildcard, or to the letter. -/
theorem pathMatchesGlob_inside (h : p.isTrailing = false) :
    pathMatchesGlob path p.pattern = true ↔ path.toList = p.text ∨
      ∃ start ending, p.text = start ++ '*' :: ending ∧ '*' ∉ start ∧ '*' ∉ ending ∧
        start <+: path.toList ∧ ending <:+ path.toList := by
  have hends : ∀ g : GlobSegment, g.isWildcard = true → p.before = [] ∨ p.last.text ≠ g.text := by
    intro g hg
    by_contra hnot
    rw [not_or, not_not] at hnot
    have hlast : p.last = g := by
      cases g with
      | literal text plain => contradiction
      | star => exact GlobSegment.eq_star_of_text hnot.2
      | doubleStar => exact GlobSegment.eq_doubleStar_of_text hnot.2
    rw [isTrailing_iff.mpr ⟨hnot.1, hlast ▸ hg⟩] at h
    contradiction
  have hstar : stripSuffix p.pattern "/*" = none :=
    stripSuffix_pattern ['*'] (by decide) (hends .star rfl)
  have hdoubleStar : stripSuffix p.pattern "/**" = none :=
    stripSuffix_pattern ['*', '*'] (by decide) (hends .doubleStar rfl)
  rw [pathMatchesGlob]
  by_cases heq : path = p.pattern
  · rw [if_pos heq]
    exact iff_of_true rfl (.inl (eq_pattern_iff.mp heq))
  · have hne : path.toList ≠ p.text := fun htext => heq (eq_pattern_iff.mpr htext)
    rw [if_neg heq, hstar, hdoubleStar, ← matchesParts_splitOn_iff]
    simp only [hne, false_or, pattern, String.toList_ofList]
    by_cases hmem : '*' ∈ p.text
    · rw [if_pos hmem]
    · rw [if_neg hmem, List.splitOn_eq_singleton hmem]
      rfl

/-! ### How many wildcards there are -/

theorem sum_stars_eq_zero_iff {globs : List GlobSegment} :
    (globs.map fun g => g.text.count '*').sum = 0 ↔ globs.countP GlobSegment.isWildcard = 0 := by
  induction globs with
  | nil => simp
  | cons g globs ih =>
    cases g with
    | literal text plain =>
      have hzero : (GlobSegment.literal text plain).text.count '*' = 0 :=
        List.count_eq_zero.mpr plain.2
      rw [List.map_cons, List.sum_cons, hzero, Nat.zero_add, ih,
        List.countP_cons_of_neg Bool.false_ne_true]
    | star => simp [GlobSegment.text, GlobSegment.isWildcard]
    | doubleStar => simp [GlobSegment.text, GlobSegment.isWildcard]

/-- One `*` in the texts of the segments is one wildcard, and that is the segment `*`. -/
theorem of_sum_stars_eq_one {globs : List GlobSegment}
    (h : (globs.map fun g => g.text.count '*').sum = 1) :
    globs.countP GlobSegment.isWildcard = 1 ∧ GlobSegment.star ∈ globs := by
  induction globs with
  | nil => contradiction
  | cons g globs ih =>
    rw [List.map_cons, List.sum_cons] at h
    cases g with
    | literal text plain =>
      have hzero : (GlobSegment.literal text plain).text.count '*' = 0 :=
        List.count_eq_zero.mpr plain.2
      rw [hzero, Nat.zero_add] at h
      rw [List.countP_cons_of_neg Bool.false_ne_true]
      exact (ih h).imp_right (List.mem_cons_of_mem _)
    | star =>
      have hone : GlobSegment.star.text.count '*' = 1 := by decide
      rw [hone] at h
      rw [List.countP_cons_of_pos rfl, sum_stars_eq_zero_iff.mp (by omega)]
      exact ⟨rfl, List.mem_cons_self⟩
    | doubleStar =>
      have htwo : GlobSegment.doubleStar.text.count '*' = 2 := by decide
      omega

theorem count_star_text (p : AuditGlob) :
    p.text.count '*' = (p.segments.map fun g => g.text.count '*').sum := by
  rw [text, textOf, count_join (by decide), List.map_map]
  rfl

/-- Without a wildcard there is no `*`. -/
theorem star_notMem_text (h : p.wildcards = 0) : '*' ∉ p.text := by
  rw [← List.count_eq_zero, count_star_text]
  exact sum_stars_eq_zero_iff.mpr h

/-- A text with one `*` is that of a pattern with one wildcard. -/
theorem of_text_eq {start ending : List Char} (h : p.text = start ++ '*' :: ending)
    (hstart : '*' ∉ start) (hending : '*' ∉ ending) :
    p.wildcards = 1 ∧ .star ∈ p.segments := by
  apply of_sum_stars_eq_one
  rw [← count_star_text, h, List.count_append, List.count_cons_self,
    List.count_eq_zero.mpr hstart, List.count_eq_zero.mpr hending]

theorem literals_of_countP {globs : List GlobSegment}
    (h : globs.countP GlobSegment.isWildcard = 0) : ∀ g ∈ globs, g.isWildcard = false := by
  intro g hg
  rw [List.countP_eq_zero] at h
  exact Bool.eq_false_iff.mpr (h g hg)

/-! ### Reading and meaning -/

theorem notMem_text_of_mem {globs : List GlobSegment} :
    ∀ x ∈ globs.map GlobSegment.text, '/' ∉ x := by
  intro x hx
  obtain ⟨g, -, rfl⟩ := List.mem_map.mp hx
  exact g.slash_notMem_text

/-- A pattern without a wildcard is a path. -/
theorem matches_of_wildcards_eq_zero (h : p.wildcards = 0) :
    p.Matches path ↔ path.toList = p.text := by
  have hmeant : p.meant = p.segments := by
    rw [meant]
    split
    · next hlast =>
      have hmem : GlobSegment.star ∈ p.segments := by simp [segments, hlast]
      exact absurd (literals_of_countP h _ hmem) (by decide)
    · rfl
  have hliterals : ∀ g ∈ p.segments, g.isWildcard = false := literals_of_countP h
  rw [Matches, hmeant, ← List.append_nil p.segments,
    GlobSegment.match_literals_append_iff hliterals]
  simp only [GlobSegment.match_nil_iff, exists_eq_right, List.append_nil]
  exact splitOn_eq_iff (by simp [segments]) notMem_text_of_mem

/-- A trailing wildcard alone: whole segments, and what stands behind them. -/
theorem matches_trailing (hliterals : ∀ g ∈ p.before, g.isWildcard = false)
    (h : p.isTrailing = true) :
    p.Matches path ↔ textOf p.before ++ ['/'] <+: path.toList ∨
      p.last = .doubleStar ∧ path.toList = textOf p.before := by
  obtain ⟨hbefore, hlast⟩ := isTrailing_iff.mp h
  have hne : p.before.map GlobSegment.text ≠ [] := by simpa using hbefore
  rw [textOf, ← exists_splitOn_append_iff hne notMem_text_of_mem,
    ← splitOn_eq_iff hne notMem_text_of_mem, Matches]
  cases hkind : p.last with
  | literal text plain =>
    rw [hkind] at hlast
    contradiction
  -- `*` at the end stands for one segment and what follows it
  | star =>
    have hmeant : p.meant = p.before ++ [.star, .doubleStar] := by
      cases hcases : p.before with
      | nil => exact absurd hcases hbefore
      | cons g globs => simp [meant, segments, hcases, hkind]
    rw [hmeant, GlobSegment.match_literals_append_iff hliterals]
    simp only [GlobSegment.match_star_iff, GlobSegment.match_doubleStar, and_true, reduceCtorEq,
      false_and, or_false]
    constructor
    · rintro ⟨rest, hsplit, seg, others, rfl⟩
      exact ⟨seg :: others, List.cons_ne_nil _ _, hsplit⟩
    · rintro ⟨rest, hrest, hsplit⟩
      obtain ⟨seg, others, rfl⟩ := List.exists_cons_of_ne_nil hrest
      exact ⟨_, hsplit, seg, others, rfl⟩
  -- `**` at the end stands for any segments, or for none
  | doubleStar =>
    have hmeant : p.meant = p.before ++ [.doubleStar] := by simp [meant, segments, hkind]
    rw [hmeant, GlobSegment.match_literals_append_iff hliterals]
    simp only [GlobSegment.match_doubleStar, and_true, true_and]
    constructor
    · rintro ⟨rest, hsplit⟩
      cases rest with
      | nil => exact .inr (by rw [hsplit, List.append_nil])
      | cons seg others => exact .inl ⟨_, List.cons_ne_nil _ _, hsplit⟩
    · rintro (⟨rest, -, hsplit⟩ | hsplit)
      · exact ⟨rest, hsplit⟩
      · exact ⟨[], by rw [hsplit, List.append_nil]⟩

/-- What stands before the one wildcard of a pattern, and behind it. -/
structure Around (p : AuditGlob) (start ending : List Char) : Prop where
  text_eq : p.text = start ++ '*' :: ending
  start_plain : '*' ∉ start
  ending_plain : '*' ∉ ending
  separated : ∀ z ≠ [], z <+: ending → '/' ∈ z
  matches_iff : ∀ path : String,
    p.Matches path ↔ ∃ mid, path.toList = start ++ mid ++ ending ∧ '/' ∉ mid

/-- What does not end in a wildcard means what it says. -/
theorem meant_of_not_trailing (h : p.isTrailing = false) : p.meant = p.segments := by
  rw [meant]
  split
  · next hcons hlast =>
    rw [isTrailing, hcons, hlast] at h
    contradiction
  · rfl

/-- The segments around a `*` stand for themselves, and it for one segment between them. -/
theorem matches_between_iff {before behind : List GlobSegment}
    (hsegments : p.segments = before ++ .star :: behind) (htrailing : p.isTrailing = false)
    (hbefore : ∀ g ∈ before, g.isWildcard = false) (hbehind : ∀ g ∈ behind, g.isWildcard = false)
    (path : String) :
    p.Matches path ↔ ∃ mid, path.toList = upTo '/' (before.map GlobSegment.text) ++ mid
      ++ onFrom '/' (behind.map GlobSegment.text) ∧ '/' ∉ mid := by
  rw [Matches, meant_of_not_trailing htrailing, hsegments,
    GlobSegment.match_literals_append_iff hbefore]
  simp only [GlobSegment.match_star_iff]
  constructor
  · rintro ⟨_, hsplit, mid, others, rfl, hothers⟩
    rw [← List.append_nil behind, GlobSegment.match_literals_append_iff hbehind] at hothers
    obtain ⟨_, rfl, hnil⟩ := hothers
    rw [GlobSegment.match_nil_iff] at hnil
    subst hnil
    rw [List.append_nil] at hsplit
    have hmem : mid ∈ path.toList.splitOn '/' := by
      rw [hsplit]
      simp
    refine ⟨mid, ?_, Lines.notMem_of_mem_splitOn hmem⟩
    rw [← join_between, ← hsplit, join_splitOn]
  · rintro ⟨mid, hpath, hmid⟩
    refine ⟨mid :: behind.map GlobSegment.text, ?_, mid, _, rfl, ?_⟩
    · refine (splitOn_eq_iff (by simp) ?_).mpr (by rw [hpath, join_between])
      intro x hx
      rcases List.mem_append.mp hx with hx | hx
      · exact notMem_text_of_mem x hx
      · rcases List.mem_cons.mp hx with rfl | hx
        · exact hmid
        · exact notMem_text_of_mem x hx
    · rw [← List.append_nil behind, GlobSegment.match_literals_append_iff hbehind]
      exact ⟨[], by simp⟩

/-- A `*` further in stands for one segment. -/
theorem exists_around (hone : p.wildcards = 1) (hstar : .star ∈ p.segments)
    (htrailing : p.isTrailing = false) : ∃ start ending, p.Around start ending := by
  obtain ⟨before, behind, hsegments⟩ := List.append_of_mem hstar
  have hcount : before.countP GlobSegment.isWildcard = 0 ∧
      behind.countP GlobSegment.isWildcard = 0 := by
    rw [wildcards, hsegments, List.countP_append, List.countP_cons_of_pos rfl] at hone
    omega
  have htext : p.text = upTo '/' (before.map GlobSegment.text) ++ ['*']
      ++ onFrom '/' (behind.map GlobSegment.text) := by
    rw [text, textOf, hsegments, List.map_append, List.map_cons, join_between]
    rfl
  -- the `*` is the only one in the text
  have hstars : p.text.count '*' = 1 := by
    rw [count_star_text, hsegments, List.map_append, List.sum_append, List.map_cons, List.sum_cons,
      sum_stars_eq_zero_iff.mpr hcount.1, sum_stars_eq_zero_iff.mpr hcount.2]
    decide
  rw [htext, List.count_append, List.count_append, List.count_singleton_self] at hstars
  refine ⟨_, _, ⟨by rw [htext, List.append_assoc]; rfl, List.count_eq_zero.mp (by omega),
    List.count_eq_zero.mp (by omega), fun z hz hstarts => mem_of_prefix_onFrom hz hstarts, ?_⟩⟩
  exact matches_between_iff hsegments htrailing (literals_of_countP hcount.1)
    (literals_of_countP hcount.2)

/-- A trailing wildcard alone is read as it is written exactly where the path does not go on in the
middle of a segment. -/
theorem trailing_iff (hliterals : ∀ g ∈ p.before, g.isWildcard = false)
    (h : p.isTrailing = true) :
    (pathMatchesGlob path p.pattern = true ↔ p.Matches path)
      ↔ (textOf p.before <+: path.toList →
        path.toList = textOf p.before ∨ textOf p.before ++ ['/'] <+: path.toList) := by
  rw [pathMatchesGlob_trailing h, matches_trailing hliterals h, Spells]
  -- a path with the slash of the pattern is one the code accepts too
  have hwhole : textOf p.before ++ ['/'] <+: path.toList →
      textOf p.before <+: path.toList ∧ path.toList ≠ textOf p.before := by
    rintro ⟨rest, hrest⟩
    rw [← hrest, List.append_assoc]
    exact ⟨List.prefix_append _ _, by simp⟩
  have hlast : p.last = .star ∨ p.last = .doubleStar := by
    have hwild := (isTrailing_iff.mp h).2
    cases hkind : p.last with
    | literal text plain =>
      rw [hkind] at hwild
      contradiction
    | star => exact .inl rfl
    | doubleStar => exact .inr rfl
  constructor
  · -- the code accepts whatever starts with the text, so each such path has to be one the
    -- pattern means
    intro hiff hstarts
    by_cases heq : path.toList = textOf p.before
    · exact .inl heq
    · rcases hiff.mp ⟨hstarts, fun _ => heq⟩ with hslash | ⟨-, hsame⟩
      · exact .inr hslash
      · exact .inl hsame
  · -- and if it is, the two agree, the text itself being accepted and meant for `**` only
    intro hends
    constructor
    · rintro ⟨hstarts, hne⟩
      rcases hends hstarts with heq | hslash
      · rcases hlast with hstar | hdoubleStar
        · exact absurd heq (hne hstar)
        · exact .inr ⟨hdoubleStar, heq⟩
      · exact .inl hslash
    · rintro (hslash | ⟨hdoubleStar, heq⟩)
      · exact ⟨(hwhole hslash).1, fun _ => (hwhole hslash).2⟩
      · refine ⟨heq ▸ List.prefix_rfl, fun hstar => ?_⟩
        rw [hdoubleStar] at hstar
        contradiction

/-- One wildcard further in is read as it is written exactly where it stands for one segment. -/
theorem inside_iff (hone : p.wildcards = 1) (hstar : .star ∈ p.segments)
    (htrailing : p.isTrailing = false) :
    (pathMatchesGlob path p.pattern = true ↔ p.Matches path)
      ↔ ∀ start ending, Text.splitOnce '*' p.text = some (start, ending) →
        start <+: path.toList → ending <:+ path.toList →
        path.toList.count '/' = p.text.count '/' := by
  obtain ⟨start, ending, haround⟩ := exists_around hone hstar htrailing
  have hsplit : Text.splitOnce '*' p.text = some (start, ending) :=
    Text.splitOnce_eq_some_iff.mpr ⟨haround.text_eq, haround.start_plain⟩
  -- the star has no slash, so the pattern has as many as its two texts
  have hslashes : p.text.count '/' = start.count '/' + ending.count '/' := by
    rw [haround.text_eq, List.count_append, List.count_cons_of_ne (by decide)]
  -- the code looks for the two texts at the ends of the path
  have hcode : pathMatchesGlob path p.pattern = true ↔
      start <+: path.toList ∧ ending <:+ path.toList := by
    rw [pathMatchesGlob_inside htrailing]
    constructor
    · rintro (htext | ⟨start', ending', htext, hstart', -, hends⟩)
      · rw [htext, haround.text_eq]
        exact ⟨List.prefix_append _ _, (List.suffix_cons _ _).trans (List.suffix_append _ _)⟩
      · have hsame : Text.splitOnce '*' p.text = some (start', ending') :=
          Text.splitOnce_eq_some_iff.mpr ⟨htext, hstart'⟩
        rw [hsplit, Option.some.injEq, Prod.mk.injEq] at hsame
        rw [hsame.1, hsame.2]
        exact hends
    · intro hends
      exact .inr ⟨start, ending, haround.text_eq, haround.start_plain, haround.ending_plain, hends⟩
  -- what is meant asks besides that as many slashes are there as in the pattern
  rw [hcode, haround.matches_iff, prefix_suffix_iff haround.separated, hslashes]
  constructor
  · intro hiff start' ending' hsame hstarts hsuffix
    rw [hsplit, Option.some.injEq, Prod.mk.injEq] at hsame
    rw [← hsame.1] at hstarts
    rw [← hsame.2] at hsuffix
    exact (hiff.mp ⟨hstarts, hsuffix⟩).2.2
  · intro hcount
    constructor
    · rintro ⟨hstarts, hsuffix⟩
      exact ⟨hstarts, hsuffix, hcount start ending hsplit hstarts hsuffix⟩
    · rintro ⟨hstarts, hsuffix, -⟩
      exact ⟨hstarts, hsuffix⟩

/-! ### Several wildcards -/

/-- What is left to match behind the segments before a trailing wildcard. -/
theorem meant_trailing (h : p.isTrailing = true) :
    p.meant = p.before ++ (if p.last = .star then [.star, .doubleStar] else [.doubleStar]) := by
  obtain ⟨hbefore, hlast⟩ := isTrailing_iff.mp h
  obtain ⟨g, globs, hcons⟩ := List.exists_cons_of_ne_nil hbefore
  cases hkind : p.last with
  | literal text plain =>
    rw [hkind] at hlast
    contradiction
  | star => simp [meant, segments, hcons, hkind]
  | doubleStar => simp [meant, segments, hkind]

/-- A trailing `**` matches anything, and a trailing `*` anything but nothing. -/
theorem match_behind_iff {segs : List (List Char)} :
    GlobSegment.Match (if p.last = .star then [.star, .doubleStar] else [.doubleStar]) segs
      ↔ (p.last = .star → segs ≠ []) := by
  by_cases hstar : p.last = .star
  · rw [if_pos hstar]
    simp [hstar, List.ne_nil_iff_exists_cons]
  · simp [hstar]

/-- The segments of a path that starts with the text of others: theirs, the last of them perhaps
longer, and more behind them. -/
theorem exists_splitOn_of_prefix {before : List GlobSegment} {g : GlobSegment}
    (h : textOf (before ++ [g]) <+: path.toList) :
    ∃ tail rest, path.toList.splitOn '/'
        = before.map GlobSegment.text ++ (g.text ++ tail) :: rest ∧
      path.toList = textOf (before ++ [g]) ++ (tail ++ onFrom '/' rest) := by
  obtain ⟨more, hmore⟩ := h
  obtain ⟨tail, rest, hsplit⟩ := List.exists_cons_of_ne_nil (List.splitOn_ne_nil '/' more)
  have hplain : ∀ x ∈ tail :: rest, '/' ∉ x := by
    rw [← hsplit]
    exact fun x hx => Lines.notMem_of_mem_splitOn hx
  have hjoin : more = tail ++ onFrom '/' rest := by
    rw [← join_splitOn (c := '/') more, hsplit, join_cons_eq]
  refine ⟨tail, rest, (splitOn_eq_iff (by simp) fun x hx => ?_).mpr ?_, by rw [← hmore, hjoin]⟩
  · rcases List.mem_append.mp hx with hx | hx
    · exact notMem_text_of_mem x hx
    · rcases List.mem_cons.mp hx with rfl | hx
      · rw [List.mem_append, not_or]
        exact ⟨g.slash_notMem_text, hplain tail List.mem_cons_self⟩
      · exact hplain x (List.mem_cons_of_mem _ hx)
  · rw [← hmore, hjoin, textOf, List.map_append, List.map_singleton, join_between, join_between]
    simp [onFrom]

/-- A path that spells the wildcards out and goes on as the pattern does is one it is written
for. -/
theorem matches_of_goesOn (h : p.isTrailing = true) (hspells : p.Spells path)
    (hgoes : p.GoesOn path) : p.Matches path := by
  have hbefore := (isTrailing_iff.mp h).1
  have hne : p.before.map GlobSegment.text ≠ [] := by simpa using hbefore
  rcases hgoes with heq | hslash | ⟨hstar, henough⟩ | ⟨-, hmatches⟩
  · -- the path ends with the segments before
    have hsplit := (splitOn_eq_iff hne notMem_text_of_mem).mpr heq
    rw [Matches, meant_trailing h, hsplit, ← List.append_nil (List.map _ _)]
    exact GlobSegment.match_append_of_text (match_behind_iff.mpr fun hkind =>
      absurd heq (hspells.2 hkind)) _
  · -- it goes on with whole segments
    obtain ⟨rest, hrest, hsplit⟩ := (exists_splitOn_append_iff hne notMem_text_of_mem).mpr hslash
    rw [Matches, meant_trailing h, hsplit]
    exact GlobSegment.match_append_of_text (match_behind_iff.mpr fun _ => hrest) _
  · -- the `*` in front of the trailing wildcard stands for what the segment goes on with
    obtain ⟨before, hlast⟩ := List.getLast?_eq_some_iff.mp hstar
    have hstarts := hspells.1
    rw [hlast] at hstarts henough
    obtain ⟨tail, rest, hsplit, -⟩ := exists_splitOn_of_prefix hstarts
    rw [Matches, meant_trailing h, hlast, hsplit, List.append_assoc]
    refine GlobSegment.match_append_of_text (.star _ (match_behind_iff.mpr fun hkind => ?_)) _
    rintro rfl
    rw [hsplit] at henough
    rcases henough with hdoubleStar | hlength
    · rw [hkind] at hdoubleStar
      contradiction
    · simp at hlength
  · exact hmatches

/-- A path that starts with the text before a trailing wildcard and is one the pattern is written
for goes on as the pattern does. -/
theorem goesOn_of_matches (h : p.isTrailing = true) (hstarts : textOf p.before <+: path.toList)
    (hmatches : p.Matches path) : p.GoesOn path := by
  by_cases hdouble : .doubleStar ∈ p.before
  · exact .inr (.inr (.inr ⟨hdouble, hmatches⟩))
  obtain ⟨before, g, hlast⟩ : ∃ before g, p.before = before ++ [g] :=
    ⟨_, _, (List.dropLast_append_getLast (isTrailing_iff.mp h).1).symm⟩
  rw [hlast] at hstarts hdouble
  obtain ⟨tail, rest, hsplit, hpath⟩ := exists_splitOn_of_prefix hstarts
  rw [Matches, meant_trailing h, hlast, List.append_assoc, hsplit] at hmatches
  -- the segment in front of the trailing wildcard matches the one that may be longer
  have hmatch := GlobSegment.drop_of_match
    (fun hmem => hdouble (List.mem_append_left _ hmem)) hmatches
  have hdrop : (before.map GlobSegment.text ++ (g.text ++ tail) :: rest).drop before.length
      = (g.text ++ tail) :: rest :=
    List.drop_left' (List.length_map _)
  rw [hdrop] at hmatch
  cases g with
  | literal text plain =>
    obtain rfl : tail = [] := by
      generalize hseg : (GlobSegment.literal text plain).text ++ tail = seg at hmatch
      cases hmatch
      exact List.append_right_eq_self.mp hseg
    rw [List.nil_append, ← hlast] at hpath
    cases rest with
    | nil => exact .inl (by rw [hpath, onFrom, List.append_nil])
    | cons seg rest =>
      refine .inr (.inl ?_)
      rw [hpath, onFrom]
      exact ⟨join '/' (seg :: rest), by simp⟩
  | star =>
    refine .inr (.inr (.inl ⟨by rw [hlast, List.getLast?_concat], ?_⟩))
    by_cases hkind : p.last = .star
    · cases hmatch with
      | star seg hmatch =>
        have hne := match_behind_iff.mp hmatch hkind
        have hpos := List.length_pos_of_ne_nil hne
        rw [hsplit, hlast]
        simp only [List.length_append, List.length_map, List.length_cons, List.length_nil]
        exact .inr (by omega)
    · have hwild := (isTrailing_iff.mp h).2
      cases hlastKind : p.last with
      | literal text plain =>
        rw [hlastKind] at hwild
        contradiction
      | star => exact absurd hlastKind hkind
      | doubleStar => exact .inl rfl
  | doubleStar => exact absurd (by simp) hdouble

/-- A pattern with a trailing wildcard and others is read as it is written exactly where a path it
is written for spells the others out, and one that starts with their text goes on as it does. -/
theorem several_iff (h : p.isTrailing = true) :
    (p.Spells path ↔ p.Matches path)
      ↔ (p.Matches path → p.Spells path) ∧ (textOf p.before <+: path.toList → p.GoesOn path) := by
  constructor
  · intro hiff
    refine ⟨hiff.mpr, fun hstarts => ?_⟩
    by_cases heq : path.toList = textOf p.before
    · exact .inl heq
    · exact goesOn_of_matches h hstarts (hiff.mp ⟨hstarts, fun _ => heq⟩)
  · rintro ⟨hspells, hgoes⟩
    exact ⟨fun hspelled => matches_of_goesOn h hspelled (hgoes hspelled.1), hspells⟩

/-- The text of a pattern is one of the paths it is written for. -/
theorem matches_of_toList_eq_text (h : p.isTrailing = false) (heq : path.toList = p.text) :
    p.Matches path := by
  rw [Matches, meant_of_not_trailing h, heq, text, splitOn_textOf p.segments_ne_nil]
  have hself := GlobSegment.match_append_of_text .nil p.segments
  rwa [List.append_nil, List.append_nil] at hself

/-- **A pattern matches the paths it is written for** exactly where it is read as it is
written. -/
theorem pathMatchesGlob_iff (p : AuditGlob) (path : String) :
    (pathMatchesGlob path p.pattern = true ↔ p.Matches path) ↔ p.AsWritten path := by
  rw [AsWritten]
  -- no wildcard: both sides ask for the text itself
  by_cases hzero : p.wildcards = 0
  · have htrailing : p.isTrailing = false := by
      rw [Bool.eq_false_iff]
      intro htrue
      have hlast := literals_of_countP hzero p.last (by simp [segments])
      rw [(isTrailing_iff.mp htrue).2] at hlast
      contradiction
    rw [if_pos hzero, pathMatchesGlob_inside htrailing, matches_of_wildcards_eq_zero hzero]
    refine iff_of_true ⟨?_, .inl⟩ trivial
    rintro (htext | ⟨start, ending, htext, -⟩)
    · exact htext
    · exact absurd (by rw [htext]; simp) (star_notMem_text hzero)
  · rw [if_neg hzero]
    -- one wildcard, at the end
    by_cases htrailing : p.wildcards = 1 ∧ p.isTrailing = true
    · rw [if_pos htrailing]
      refine trailing_iff (literals_of_countP ?_) htrailing.2
      have hone := htrailing.1
      rw [wildcards, segments, List.countP_append,
        List.countP_cons_of_pos (isTrailing_iff.mp htrailing.2).2] at hone
      omega
    · rw [if_neg htrailing]
      -- one `*` with something behind it
      by_cases hinside : p.wildcards = 1 ∧ .star ∈ p.segments
      · rw [if_pos hinside]
        refine inside_iff hinside.1 hinside.2 (Bool.eq_false_iff.mpr fun htrue => ?_)
        exact htrailing ⟨hinside.1, htrue⟩
      · rw [if_neg hinside]
        -- several wildcards, or an inner `**`
        cases hkind : p.isTrailing with
        | true =>
          rw [if_pos rfl, pathMatchesGlob_trailing hkind]
          exact several_iff hkind
        | false =>
          have hcode : pathMatchesGlob path p.pattern = true ↔ path.toList = p.text := by
            rw [pathMatchesGlob_inside hkind]
            refine ⟨?_, .inl⟩
            rintro (htext | ⟨start, ending, htext, hstart, hending, -⟩)
            · exact htext
            · exact absurd (of_text_eq htext hstart hending) hinside
          rw [if_neg Bool.false_ne_true, hcode]
          exact ⟨Iff.mpr, fun himp => ⟨matches_of_toList_eq_text hkind, himp⟩⟩

/-- `/admin/*` -/
def sampleAdmin : AuditGlob :=
  ⟨[.literal [] (by decide), .literal "admin".toList (by decide)], .star⟩

/-- `/admin/*` matches `/administrators`. -/
theorem not_forall_pathMatchesGlob :
    ¬ ∀ (p : AuditGlob) (path : String),
      pathMatchesGlob path p.pattern = true ↔ p.Matches path := by
  intro h
  have hmatch := (h sampleAdmin "/administrators").mp (by decide)
  have hliterals : ∀ g ∈ sampleAdmin.before, g.isWildcard = false := by
    simp [sampleAdmin, GlobSegment.isWildcard]
  rw [matches_trailing hliterals (by decide)] at hmatch
  rcases hmatch with hstarts | ⟨hlast, -⟩
  · revert hstarts
    decide
  · revert hlast
    decide

end AuditGlob

end ActonService
