import ActonService.Middleware.PathNormalizers
import ActonService.Middleware.RouteOrder

/-!
# Which requests find their route

A pattern of literal segments, placeholders, `*` and `**`, and the requests in its language.  A
request is looked up by its normalised path, the patterns are as they are written: a literal segment
of digits, or with a UUID in it, is in no normalised path.  And a pattern whose placeholders are not
spelled `{id}` is looked up to the letter, if it has no wildcard.

## Main definitions

* `RouteSegment`, `patternText` — a segment of a pattern, and the text of a pattern.
* `Kept` — a segment that the normaliser keeps.
* `RouteEntry.Survives` — the entry is found in spite of it.

## Main results

* `inGlob_patternText_iff` — the language of a pattern, segment by segment.
* `foundFor_iff_survives` — **when a request finds the route it is in the language of.**
* `matchEntry_complete_iff` — **when a request finds this route or a better one.**
-/

namespace ActonService

open Regex Segments CompiledRoutePatterns

/-! ### Patterns of segments -/

/-- A segment of a route pattern. -/
inductive RouteSegment
  | literal (text : List Char) (plain : '/' ∉ text ∧ '*' ∉ text ∧ '{' ∉ text)
  | placeholder (name : List Char) (plain : '/' ∉ name ∧ '}' ∉ name)
  | star
  | doubleStar

namespace RouteSegment

def text : RouteSegment → List Char
  | literal text _ => text
  | placeholder name _ => '{' :: (name ++ ['}'])
  | star => ['*']
  | doubleStar => ['*', '*']

/-- The parts of a segment. -/
def tokens : RouteSegment → List GlobToken
  | literal text _ => text.map .literal
  | placeholder _ _ => [.placeholder]
  | star => [.star]
  | doubleStar => [.doubleStar]

/-- The texts a segment stands for; `**` stands for several segments, too. -/
def Matches : RouteSegment → List Char → Prop
  | literal text _, s => s = text
  | placeholder _ _, s | star, s => s ≠ [] ∧ '/' ∉ s
  | doubleStar, _ => True

end RouteSegment

/-- The text of a pattern. -/
def patternText (segs : List RouteSegment) : List Char := join '/' (segs.map RouteSegment.text)

/-- The texts that segments stand for, with a slash between them. -/
def SegmentsMatch : List RouteSegment → List Char → Prop
  | [], s => s = []
  | [g], s => g.Matches s
  | g :: g' :: segs, s => ∃ u v, s = u ++ '/' :: v ∧ g.Matches u ∧ SegmentsMatch (g' :: segs) v

namespace RouteSegment

variable {g : RouteSegment} {s t : List Char}

theorem slash_notMem_text (g : RouteSegment) : '/' ∉ g.text := by
  cases g with
  | literal text plain => exact plain.1
  | placeholder name plain =>
    rw [text, List.mem_cons, List.mem_append, List.mem_singleton]
    rintro (h | h | h)
    · exact absurd h (by decide)
    · exact plain.1 h
    · exact absurd h (by decide)
  | star => decide
  | doubleStar => decide

theorem globTokens_literal {text : List Char} (hstar : '*' ∉ text) (hbrace : '{' ∉ text)
    (s : List Char) :
    globTokens false (text ++ s) = text.map GlobToken.literal ++ globTokens false s := by
  induction text with
  | nil => rfl
  | cons c text ih =>
    rw [List.mem_cons, not_or] at hstar hbrace
    rw [List.cons_append, globTokens.eq_6 _ _ (fun _ h _ => hstar.1 h.symm)
      (fun h => hstar.1 h.symm) (fun h => hbrace.1 h.symm), ih hstar.2 hbrace.2]
    rfl

theorem globTokens_inside {name : List Char} (h : '}' ∉ name) (s : List Char) :
    globTokens true (name ++ '}' :: s) = globTokens false s := by
  induction name with
  | nil => rfl
  | cons c name ih =>
    rw [List.mem_cons, not_or] at h
    rw [List.cons_append, globTokens, if_neg (Ne.symm h.1), ih h.2]

/-- The parts of a pattern begin with those of its first segment. -/
theorem globTokens_text (g : RouteSegment) (hs : s = [] ∨ ∃ s', s = '/' :: s') :
    globTokens false (g.text ++ s) = g.tokens ++ globTokens false s := by
  cases g with
  | literal text plain => exact globTokens_literal plain.2.1 plain.2.2 s
  | placeholder name plain =>
    have hclosed : '}' ∈ name ++ '}' :: s := by simp
    have htext : (placeholder name plain).text ++ s = '{' :: (name ++ '}' :: s) := by simp [text]
    rw [htext, globTokens, if_pos hclosed, globTokens_inside plain.2]
    rfl
  | star =>
    refine globTokens.eq_4 _ fun s' h => ?_
    change s = _ at h
    rcases hs with rfl | ⟨s', rfl⟩
    · cases h
    · cases h
  | doubleStar => rfl

theorem globMatches_literals {text : List Char} :
    GlobMatches (text.map GlobToken.literal) s ↔ s = text := by
  induction text generalizing s with
  | nil => rfl
  | cons c text ih =>
    rw [List.map_cons, GlobMatches]
    constructor
    · rintro ⟨u, v, rfl, rfl, hv⟩
      rw [ih.mp hv]
      rfl
    · rintro rfl
      exact ⟨[c], text, rfl, rfl, ih.mpr rfl⟩

theorem globMatches_tokens (g : RouteSegment) : GlobMatches g.tokens s ↔ g.Matches s := by
  have hone : ∀ t : GlobToken, GlobMatches [t] s ↔ t.Matches s := by
    intro t
    constructor
    · rintro ⟨u, v, rfl, hu, rfl⟩
      rw [List.append_nil]
      exact hu
    · intro h
      exact ⟨s, [], (List.append_nil s).symm, h, rfl⟩
  cases g with
  | literal text plain => exact globMatches_literals
  | placeholder name plain => exact hone .placeholder
  | star => exact hone .star
  | doubleStar => exact hone .doubleStar

/-- A brace of a segment is closed within it. -/
theorem close_mem_of_text {a b : List Char} (h : g.text = a ++ '{' :: b) : '}' ∈ b := by
  have hmem : '{' ∈ g.text := by
    rw [h]
    simp
  cases g with
  | literal text plain => exact absurd hmem plain.2.2
  | placeholder name plain =>
    have hlast := congrArg List.getLast? h
    rw [text, ← List.cons_append, List.getLast?_concat, List.getLast?_append_cons] at hlast
    cases b with
    | nil => exact absurd hlast (by simp)
    | cons c b =>
      rw [List.getLast?_cons_cons] at hlast
      exact List.mem_of_getLast? hlast.symm
  | star => exact absurd hmem (by decide)
  | doubleStar => exact absurd hmem (by decide)

end RouteSegment

variable {segs : List RouteSegment} {s t : List Char}

/-- The language of a pattern, segment by segment. -/
theorem globMatches_patternText :
    GlobMatches (globTokens false (patternText segs)) s ↔ SegmentsMatch segs s := by
  fun_induction SegmentsMatch segs s with
  | case1 s => rfl
  | case2 g s =>
    have htokens := g.globTokens_text (s := []) (.inl rfl)
    rw [List.append_nil] at htokens
    rw [patternText, List.map_singleton, join_singleton, htokens]
    change GlobMatches (g.tokens ++ []) s ↔ _
    rw [List.append_nil, RouteSegment.globMatches_tokens]
  | case3 g g' segs s ih =>
    have htext : patternText (g :: g' :: segs) = g.text ++ '/' :: patternText (g' :: segs) :=
      join_cons (List.cons_ne_nil _ _)
    have hslash : globTokens false ('/' :: patternText (g' :: segs))
        = .literal '/' :: globTokens false (patternText (g' :: segs)) := rfl
    rw [htext, g.globTokens_text (.inr ⟨_, rfl⟩), hslash, globMatches_append]
    constructor
    · rintro ⟨u, w, rfl, hu, x, v, rfl, rfl, hv⟩
      exact ⟨u, v, rfl, RouteSegment.globMatches_tokens g |>.mp hu, (ih v).mp hv⟩
    · rintro ⟨u, v, rfl, hu, hv⟩
      exact ⟨u, '/' :: v, rfl, (RouteSegment.globMatches_tokens g).mpr hu, ['/'], v, rfl, rfl,
        (ih v).mpr hv⟩

theorem inGlob_patternText_iff {pattern path : String} (h : pattern.toList = patternText segs) :
    InGlob pattern path ↔ SegmentsMatch segs path.toList := by
  rw [InGlob, h, globMatches_patternText]

/-- The braces of a pattern of segments are closed. -/
theorem bracesClosed_patternText {pattern : String} (h : pattern.toList = patternText segs) :
    BracesClosed pattern := by
  have hclosed : ∀ a b, patternText segs = a ++ '{' :: b → '}' ∈ b := by
    clear h
    induction segs with
    | nil => simp [patternText, join]
    | cons g segs ih =>
      intro a b h
      cases segs with
      | nil =>
        rw [patternText, List.map_singleton, join_singleton] at h
        exact RouteSegment.close_mem_of_text h
      | cons g' segs =>
        have htext : patternText (g :: g' :: segs) = g.text ++ '/' :: patternText (g' :: segs) :=
          join_cons (List.cons_ne_nil _ _)
        rw [htext] at h
        rcases List.append_eq_append_iff.mp h with ⟨x, rfl, hx⟩ | ⟨x, hx, hb⟩
        · cases x with
          | nil => cases hx
          | cons c x =>
            rw [List.cons_append, List.cons.injEq] at hx
            exact ih x b hx.2
        · cases x with
          | nil =>
            rw [List.nil_append] at hb
            cases hb
          | cons c x =>
            rw [List.cons_append, List.cons.injEq] at hb
            obtain ⟨rfl, rfl⟩ := hb
            exact List.mem_append_left _ (RouteSegment.close_mem_of_text hx)
  intro before hbefore
  obtain ⟨b, hb, hnone⟩ := beforeUnclosed_eq_some hbefore
  exact absurd (hclosed before b (h ▸ hb)) hnone

/-! ### What the normaliser keeps -/

/-- A segment that the normaliser keeps: it is not one of digits, and no UUID is in it. -/
structure Kept (s : List Char) : Prop where
  digits : allDigits Char.isDigit s = false
  uuid : ∀ u, u <:+: s → ¬ IsUuid isHex u

variable {decimal : Char → Bool}

/-- What the normaliser makes of a segment. -/
def normalSegment (decimal : Char → Bool) (s : List Char) : List Char :=
  normalizeSegment (replaceUuids decimal hexClass s)

/-- What the normaliser makes of a path. -/
def normalText (decimal : Char → Bool) (s : List Char) : List Char :=
  join '/' ((s.splitOn '/').map (normalSegment decimal))

theorem kept_of_length_lt (hdigits : allDigits Char.isDigit s = false) (h : s.length < 36) :
    Kept s where
  digits := hdigits
  uuid := by
    intro u hu huuid
    have hle := hu.length_le
    rw [huuid.length_eq] at hle
    omega

theorem kept_idText : Kept idText := kept_of_length_lt (by decide) (by decide)

/-- **A segment is kept, or it holds `{id}` and will be kept.** -/
theorem normalSegment_cases (decimal : Char → Bool) (s : List Char) :
    Kept s ∧ normalSegment decimal s = s ∨
      ¬ Kept s ∧ idText <:+: normalSegment decimal s ∧ Kept (normalSegment decimal s) ∧
        normalSegment decimal s ≠ s := by
  have hdash : hexClass.holds decimal '-' = false := by
    rw [holds_hexClass]
    decide
  have hne : ∀ {c : Char}, c = '{' ∨ c = '}' → c ≠ '-' := by
    rintro c (rfl | rfl) <;> decide
  have havoids : ∀ {c : Char}, c = '{' ∨ c = '}' → Avoids decimal (uuidShape hexClass) c := by
    intro c hc
    refine avoids_uuidShape ?_ (hne hc)
    rw [holds_hexClass]
    rcases hc with rfl | rfl <;> decide
  -- replacing UUIDs makes no text of digits, and none of one
  have hdigits : allDigits Char.isDigit (replaceUuids decimal hexClass s)
      = allDigits Char.isDigit s := allDigits_replaceUuids hdash (by decide) (by decide) s
  have hcases := replaceUuids_cases hdash s
  rw [holds_hexClass] at hcases
  rw [normalSegment, normalizeSegment_eq, hdigits]
  -- a segment of digits becomes `{id}` as a whole
  by_cases hd : allDigits Char.isDigit s = true
  · refine .inr ⟨fun h => ?_, ?_⟩
    · rw [h.digits] at hd
      cases hd
    · rw [if_pos hd]
      refine ⟨List.infix_rfl, kept_idText, ?_⟩
      rintro rfl
      revert hd
      decide
  · rw [if_neg hd]
    have hfalse := Bool.eq_false_iff.mpr hd
    -- no UUID is left
    have hreplaced : Kept (replaceUuids decimal hexClass s) := by
      refine ⟨hdigits.trans hfalse, fun u hu huuid => ?_⟩
      have hnone : occurs decimal (uuidShape hexClass) (replaceUuids decimal hexClass s) = false :=
        not_occurs_replaceFits (w := "id".toList) (uuidShape_ne_nil _) (havoids (.inl rfl))
          (havoids (.inr rfl)) rfl s
      have hhex : hexClass.holds decimal = isHex := holds_hexClass
      rw [← hhex] at huuid
      rw [(occurs_uuidShape_iff hdash).mpr ⟨u, hu, huuid⟩] at hnone
      cases hnone
    -- no UUID was there, the segment is one, or it contains one
    rcases hcases with ⟨hnone, h⟩ | ⟨huuid, h⟩ | ⟨⟨u, hu, huuid, -⟩, hid, hchanged⟩
    · exact .inl ⟨⟨hfalse, hnone⟩, h⟩
    · refine .inr ⟨fun hkept => hkept.uuid s List.infix_rfl huuid, ?_, hreplaced, ?_⟩
      · exact h ▸ List.infix_rfl
      · rw [h]
        rintro rfl
        exact kept_idText.uuid _ List.infix_rfl huuid
    · exact .inr ⟨fun hkept => hkept.uuid u hu huuid, hid, hreplaced, hchanged⟩

theorem normalSegment_eq_self_iff : normalSegment decimal s = s ↔ Kept s := by
  rcases normalSegment_cases decimal s with ⟨hkept, h⟩ | ⟨hnot, -, -, hne⟩
  · exact iff_of_true h hkept
  · exact iff_of_false hne hnot

theorem kept_normalSegment (decimal : Char → Bool) (s : List Char) :
    Kept (normalSegment decimal s) := by
  rcases normalSegment_cases decimal s with ⟨hkept, h⟩ | ⟨-, -, hkept, -⟩
  · rw [h]
    exact hkept
  · exact hkept

theorem normalSegment_ne_nil (h : s ≠ []) : normalSegment decimal s ≠ [] := by
  rcases normalSegment_cases decimal s with ⟨-, hs⟩ | ⟨-, hid, -⟩
  · rw [hs]
    exact h
  · intro hnil
    rw [hnil] at hid
    exact absurd (List.eq_nil_of_infix_nil hid) (by decide)

theorem slash_notMem_normalSegment (h : '/' ∉ s) : '/' ∉ normalSegment decimal s :=
  slash_notMem_normalizeSegment (slash_notMem_replaceUuids h)

theorem mem_normalSegment {c : Char} (h : c ∈ normalSegment decimal s) : c ∈ idText ∨ c ∈ s := by
  rw [normalSegment, normalizeSegment_eq] at h
  split_ifs at h
  · exact .inl h
  · exact mem_replaceFits (uuidShape_ne_nil _) h

theorem normalText_append (u v : List Char) :
    normalText decimal (u ++ '/' :: v) = normalText decimal u ++ '/' :: normalText decimal v := by
  rw [normalText, List.splitOn_append_cons_self, List.map_append,
    join_append (by simp) (by simp), normalText, normalText]

theorem normalText_of_notMem (h : '/' ∉ s) : normalText decimal s = normalSegment decimal s := by
  rw [normalText, (splitOn_eq_iff (List.cons_ne_nil s []) (by simpa using h)).mpr
    join_singleton.symm, List.map_singleton, join_singleton]

theorem splitOn_normalText (s : List Char) :
    (normalText decimal s).splitOn '/' = (s.splitOn '/').map (normalSegment decimal) :=
  splitOn_map (fun _ => slash_notMem_normalSegment) s

theorem line_notMem_normalText (h : '\n' ∉ s) : '\n' ∉ normalText decimal s := by
  refine notMem_join (by decide) fun x hx => ?_
  obtain ⟨y, hy, rfl⟩ := List.mem_map.mp hx
  intro hmem
  rcases mem_normalSegment hmem with hid | hmem
  · revert hid
    decide
  · have hjoin := join_splitOn (c := '/') s
    refine h (hjoin ▸ ?_)
    obtain ⟨a, b, hsplit⟩ := List.append_of_mem hy
    rw [hsplit, join_between]
    simp [hmem]

/-! ### Which patterns survive -/

/-- A literal segment that is kept. -/
def RouteSegment.Kept : RouteSegment → Prop
  | literal text _ => ActonService.Kept text
  | placeholder _ _ | star | doubleStar => True

theorem RouteSegment.matches_normalText {g : RouteSegment} (h : g.Matches s) (hg : g.Kept) :
    g.Matches (normalText decimal s) := by
  have hsegment : s ≠ [] ∧ '/' ∉ s → normalText decimal s ≠ [] ∧ '/' ∉ normalText decimal s := by
    rintro ⟨hne, hslash⟩
    rw [normalText_of_notMem hslash]
    exact ⟨normalSegment_ne_nil hne, slash_notMem_normalSegment hslash⟩
  cases g with
  | literal text plain =>
    change normalText decimal s = text
    rw [show s = text from h, normalText_of_notMem plain.1]
    exact normalSegment_eq_self_iff.mpr hg
  | placeholder name plain => exact hsegment h
  | star => exact hsegment h
  | doubleStar => trivial

/-- A pattern whose literal segments are kept has the normalised path in its language, too. -/
theorem SegmentsMatch.normal (h : SegmentsMatch segs s) (hkept : ∀ g ∈ segs, g.Kept) :
    SegmentsMatch segs (normalText decimal s) := by
  fun_induction SegmentsMatch segs s with
  | case1 s =>
    rw [h]
    rfl
  | case2 g s => exact RouteSegment.matches_normalText h (hkept g List.mem_cons_self)
  | case3 g g' segs s ih =>
    obtain ⟨u, v, rfl, hu, hv⟩ := h
    rw [List.forall_mem_cons] at hkept
    rw [normalText_append]
    exact ⟨_, _, rfl, RouteSegment.matches_normalText hu hkept.1, ih v hv hkept.2⟩

/-- A literal segment is one of the path. -/
theorem SegmentsMatch.mem_splitOn {text : List Char} {plain} (h : SegmentsMatch segs s)
    (hmem : RouteSegment.literal text plain ∈ segs) : text ∈ s.splitOn '/' := by
  have hself : text.splitOn '/' = [text] :=
    (splitOn_eq_iff (List.cons_ne_nil _ _) (by simpa using plain.1)).mpr join_singleton.symm
  fun_induction SegmentsMatch segs s with
  | case1 s => cases hmem
  | case2 g s =>
    rw [List.mem_singleton] at hmem
    rw [← hmem] at h
    rw [show s = text from h, hself]
    exact List.mem_cons_self
  | case3 g g' segs s ih =>
    obtain ⟨u, v, rfl, hu, hv⟩ := h
    rw [List.splitOn_append_cons_self, List.mem_append]
    rcases List.mem_cons.mp hmem with rfl | hmem
    · left
      rw [show u = text from hu, hself]
      exact List.mem_cons_self
    · exact .inr (ih v hv hmem)

/-- A normalised path is in the language of no other pattern. -/
theorem kept_of_segmentsMatch (h : SegmentsMatch segs (normalText decimal s)) :
    ∀ g ∈ segs, g.Kept := by
  intro g hg
  cases g with
  | literal text plain =>
    have hmem := h.mem_splitOn hg
    rw [splitOn_normalText] at hmem
    obtain ⟨x, -, rfl⟩ := List.mem_map.mp hmem
    exact kept_normalSegment decimal x
  | placeholder name plain => trivial
  | star => trivial
  | doubleStar => trivial

/-- A text without `{id}` is a normalised path only if it was the path, with every segment kept. -/
theorem eq_normalText_iff (hid : ¬ idText <:+: t) :
    t = normalText decimal s ↔ s = t ∧ ∀ x ∈ t.splitOn '/', Kept x := by
  constructor
  · rintro rfl
    have hsame : ∀ x ∈ s.splitOn '/', normalSegment decimal x = x := by
      intro x hx
      rcases normalSegment_cases decimal x with ⟨-, h⟩ | ⟨-, hid', -⟩
      · exact h
      · refine absurd ?_ hid
        obtain ⟨a, b, hsplit⟩ := List.append_of_mem hx
        rw [normalText, hsplit, List.map_append, List.map_cons, join_between]
        exact hid'.trans ⟨_, _, rfl⟩
    have hsegs : (s.splitOn '/').map (normalSegment decimal) = s.splitOn '/' :=
      List.map_congr_left hsame |>.trans (List.map_id _)
    have htext : normalText decimal s = s := by
      rw [normalText, hsegs, join_splitOn]
    refine ⟨htext.symm, fun x hx => ?_⟩
    rw [htext] at hx
    exact normalSegment_eq_self_iff.mp (hsame x hx)
  · rintro ⟨rfl, hkept⟩
    have hsegs : (s.splitOn '/').map (normalSegment decimal) = s.splitOn '/' :=
      List.map_congr_left (fun x hx => normalSegment_eq_self_iff.mpr (hkept x hx))
        |>.trans (List.map_id _)
    rw [normalText, hsegs, join_splitOn]

/-- **The entry is found by the requests in its language**: as an expression its literal segments
are kept; to the letter the path is its own, and every segment of it is kept. -/
def RouteEntry.Survives (e : RouteEntry) (segs : List RouteSegment) (path : String) : Prop :=
  if isWildcard e.path = true then ∀ g ∈ segs, g.Kept
  else path = e.path ∧ ∀ g ∈ segs, ActonService.Kept g.text

/-! ### What is found -/

section Found

variable {X : RegexCrate} {e : RouteEntry} {method path : String}

theorem normalizePath_eq_normalText (hX : X.Documented) (path : String) :
    normalizePath X.toRegexExterns path = String.ofList (normalText X.decimal path.toList) :=
  normalizePath_eq hX path

theorem forall_kept_iff :
    (∀ x ∈ (patternText segs).splitOn '/', Kept x) ↔ ∀ g ∈ segs, Kept g.text := by
  cases segs with
  | nil =>
    have hnil : (patternText []).splitOn '/' = [[]] := rfl
    rw [hnil, List.forall_mem_singleton]
    exact iff_of_true (kept_of_length_lt (by decide) (by decide)) (by simp)
  | cons g segs =>
    have hsplit : (patternText (g :: segs)).splitOn '/' = (g :: segs).map RouteSegment.text := by
      refine (splitOn_eq_iff (by simp) fun x hx => ?_).mpr rfl
      obtain ⟨g', -, rfl⟩ := List.mem_map.mp hx
      exact g'.slash_notMem_text
    rw [hsplit, List.forall_mem_map]

theorem methodKey_eq_iff {m path path' : String} :
    methodKey m path = methodKey m path' ↔ path = path' := by
  constructor
  · intro h
    have hlist := congrArg String.toList h
    simp only [methodKey, String.toList_append, List.append_assoc] at hlist
    exact String.toList_inj.mp (List.append_cancel_left (List.append_cancel_left hlist))
  · rintro rfl
    rfl

/-- **When a request finds the route it is in the language of.** -/
theorem foundFor_iff_survives (hX : X.Documented) (hpath : e.path.toList = patternText segs)
    (hmethod : ∀ m ∈ e.method, m = method) (hline : '\n' ∉ path.toList)
    (hglob : InGlob e.path path) :
    e.foundFor X.toRegexExterns method (normalizePath X.toRegexExterns path) = true
      ↔ e.Survives segs path := by
  have hnormal := normalizePath_eq_normalText hX path
  rw [RouteEntry.Survives]
  cases hwild : isWildcard e.path with
  -- a wildcard is found by its glob, which the path has matched before it was normalized
  | true =>
    have hall : e.method.all (fun m => decide (m = method)) = true := by
      cases hm : e.method with
      | none => rfl
      | some m => exact decide_eq_true (hmethod m hm)
    have hplain : '\n' ∉ (normalizePath X.toRegexExterns path).toList := by
      rw [hnormal, String.toList_ofList]
      exact line_notMem_normalText hline
    rw [if_pos rfl, RouteEntry.foundFor_of_wildcard hwild, hall, Bool.true_and,
      (forall_isMatch_iff hX e.path).mpr (bracesClosed_patternText hpath) _ hplain,
      inGlob_patternText_iff hpath, hnormal, String.toList_ofList]
    constructor
    · exact kept_of_segmentsMatch
    · have hmatch : SegmentsMatch segs path.toList := by
        rw [← inGlob_patternText_iff hpath]
        exact hglob
      exact hmatch.normal
  -- any other entry is found by its text, which must be that of the normalized path
  | false =>
    have hid : ¬ idText <:+: e.path.toList := by
      intro h
      rw [isWildcard, Bool.or_eq_false_iff] at hwild
      have hsome := Text.isSome_afterFirst h
      rw [idText, hwild.2] at hsome
      cases hsome
    have hfound : e.foundFor X.toRegexExterns method (normalizePath X.toRegexExterns path) = true
        ↔ e.path = normalizePath X.toRegexExterns path := by
      cases hm : e.method with
      | some m =>
        obtain rfl := hmethod m hm
        rw [RouteEntry.foundFor_of_method hwild hm, decide_eq_true_iff, methodKey_eq_iff]
      | none => rw [RouteEntry.foundFor_of_path hwild hm, decide_eq_true_iff]
    rw [if_neg Bool.false_ne_true, hfound, hnormal, ← String.toList_inj, String.toList_ofList,
      eq_normalText_iff hid, String.toList_inj, hpath, forall_kept_iff]

/-- **When a request finds the route it is in the language of, or a better one.** -/
theorem matchEntry_complete_iff (hX : X.Documented) {routes : List RouteEntry} (he : e ∈ routes)
    (hpath : e.path.toList = patternText segs) (hmethod : ∀ m ∈ e.method, m = method)
    (hline : '\n' ∉ path.toList) (hglob : InGlob e.path path) :
    (∃ e', matchEntry X.toRegexExterns (compile routes) method path = some e' ∧ e.rank ≤ e'.rank)
      ↔ e.Survives segs path ∨ ∃ e' ∈ routes, e' ≠ e ∧ e.rank ≤ e'.rank ∧
          e'.foundFor X.toRegexExterns method (normalizePath X.toRegexExterns path) = true := by
  have hchooses := chooses_matchEntry X.toRegexExterns method path
  rw [← foundFor_iff_survives hX hpath hmethod hline hglob]
  constructor
  · rintro ⟨e', hmatch, hrank⟩
    have hbest := hchooses.isBest hmatch
    by_cases hsame : e' = e
    · exact .inl (hsame ▸ hbest.isFound)
    · exact .inr ⟨e', hbest.mem, hsame, hrank, hbest.isFound⟩
  · rintro (hfound | ⟨e', hmem, -, hrank, hfound⟩)
    · exact hchooses.exists_le he hfound
    · obtain ⟨e'', hmatch, hle⟩ := hchooses.exists_le hmem hfound
      exact ⟨e'', hmatch, hrank.trans hle⟩

end Found

/-- `/users/{id}/*` -/
def sampleRoute : RouteEntry := ⟨"/users/{id}/*", ⟨10, 1, false⟩⟩

def sampleRouteSegments : List RouteSegment :=
  [.literal [] (by decide), .literal "users".toList (by decide),
    .placeholder "id".toList (by decide), .star]

theorem matchEntry_complete_iff_sample :
    ∃ e', matchEntry sampleRegex.toRegexExterns (compile [sampleRoute]) "GET" "/users/42/posts"
      = some e' ∧ sampleRoute.rank ≤ e'.rank := by
  have hpath : sampleRoute.path.toList = patternText sampleRouteSegments := by decide
  refine (matchEntry_complete_iff sampleRegex_documented List.mem_cons_self hpath (by decide)
    (by decide) ?_).mpr (.inl ?_)
  · rw [inGlob_patternText_iff hpath]
    exact ⟨[], _, rfl, rfl, "users".toList, _, rfl, rfl, "42".toList, "posts".toList, rfl,
      ⟨by decide, by decide⟩, by decide, by decide⟩
  · rw [RouteEntry.Survives, if_pos (by decide)]
    simp only [sampleRouteSegments, List.forall_mem_cons]
    exact ⟨kept_of_length_lt (by decide) (by decide), kept_of_length_lt (by decide) (by decide),
      trivial, trivial, by simp⟩

/-- `/users/{name}` -/
def sampleNamedRoute : RouteEntry := ⟨"/users/{name}", ⟨10, 1, false⟩⟩

def sampleNamedRouteSegments : List RouteSegment :=
  [.literal [] (by decide), .literal "users".toList (by decide),
    .placeholder "name".toList (by decide)]

/-- A request for `/users/bob` is not matched to `/users/{name}`. -/
theorem not_forall_matchEntry_complete :
    ¬ ∀ (e : RouteEntry) (segs : List RouteSegment) (path : String),
      e.path.toList = patternText segs → e.method = none → '\n' ∉ path.toList → InGlob e.path path →
        ∃ e', matchEntry sampleRegex.toRegexExterns (compile [e]) "GET" path = some e' ∧
          e.rank ≤ e'.rank := by
  intro h
  have hpath : sampleNamedRoute.path.toList = patternText sampleNamedRouteSegments := by decide
  have hglob : InGlob sampleNamedRoute.path "/users/bob" := by
    rw [inGlob_patternText_iff hpath]
    exact ⟨[], _, rfl, rfl, "users".toList, _, rfl, rfl, by decide, by decide⟩
  obtain ⟨e', hmatch, -⟩ := h sampleNamedRoute sampleNamedRouteSegments "/users/bob" hpath
    (by decide) (by decide) hglob
  have hnone : matchEntry sampleRegex.toRegexExterns (compile [sampleNamedRoute]) "GET" "/users/bob"
      = none := by decide
  rw [hnone] at hmatch
  cases hmatch

end ActonService
