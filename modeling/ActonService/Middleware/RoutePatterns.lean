import ActonService.Lib.RegexSyntax
import ActonService.Middleware.RouteMatcher

/-!
# Route patterns as expressions

The glob language of a route pattern, and the expression that `compile_pattern_to_regex` writes for
it.  The expression is read by the syntax of the `regex` crate, of which only what is documented is
relied on.  A `{` without a `}` behind it is a character of the pattern like any other; the code
takes it for a placeholder all the same.

## Main definitions

* `RegexCrate`, `RegexCrate.Documented` — the crate, and what is relied on of it.
* `globTokens`, `InGlob` — the parts of a pattern, and the paths in its language.
* `BracesClosed` — no brace of the pattern goes wrong.

## Main results

* `parse_compilePatternToRegex` — **what is written is an expression, of the tokens that are read.**
* `compilePatternToRegex_iff` — **which patterns are translated correctly.**
-/

namespace ActonService

open Regex

/-! ### The crate -/

/-- The `regex` crate, with the characters of `\d`. -/
structure RegexCrate extends RegexExterns where
  /-- `Regex::new` is `Ok`. -/
  isValid : String → Bool
  decimal : Char → Bool

/-- **What is relied on of the crate**: it follows the syntax, matches and replaces in order of
preference, and knows the decimal digits of ASCII. -/
structure RegexCrate.Documented (X : RegexCrate) : Prop where
  isValid : ∀ text e, parse text.toList = some e → X.isValid text = true
  isMatch : ∀ text e path, parse text.toList = some e →
    X.isMatch text path = e.isMatch X.decimal path.toList
  replaceAll : ∀ text e path new, parse text.toList = some e → e.Consumes X.decimal →
    '$' ∉ new.toList →
      X.replaceAll text path new = String.ofList (e.replaceAll X.decimal new.toList path.toList)
  decimal : ∀ c : Char, c.toNat < 128 → X.decimal c = c.isDigit

/-- The crate, on the expressions of the syntax and with the digits of ASCII. -/
def sampleRegex : RegexCrate where
  isMatch text path := (parse text.toList).any fun e => e.isMatch Char.isDigit path.toList
  replaceAll text path new :=
    match parse text.toList with
    | some e => String.ofList (e.replaceAll Char.isDigit new.toList path.toList)
    | none => path
  isValid text := (parse text.toList).isSome
  decimal := Char.isDigit

theorem sampleRegex_documented : sampleRegex.Documented where
  isValid := by
    intro text e h
    simp [sampleRegex, h]
  isMatch := by
    intro text e path h
    simp [sampleRegex, h]
  replaceAll := by
    intro text e path new h _ _
    simp [sampleRegex, h]
  decimal := by
    intro c _
    rfl

/-! ### The language of a pattern -/

/-- A part of a route pattern. -/
inductive GlobToken
  | literal (c : Char)
  | star
  | doubleStar
  | placeholder
  deriving DecidableEq, Repr

/-- The parts of a pattern, in a placeholder or outside; a brace opens one if another closes it. -/
def globTokens : Bool → List Char → List GlobToken
  | _, [] => []
  | true, c :: s => if c = '}' then globTokens false s else globTokens true s
  | false, '*' :: '*' :: s => .doubleStar :: globTokens false s
  | false, '*' :: s => .star :: globTokens false s
  | false, '{' :: s =>
    if '}' ∈ s then .placeholder :: globTokens true s else .literal '{' :: globTokens false s
  | false, c :: s => .literal c :: globTokens false s

/-- The texts a part stands for. -/
def GlobToken.Matches : GlobToken → List Char → Prop
  | literal c, s => s = [c]
  | star, s | placeholder, s => s ≠ [] ∧ '/' ∉ s
  | doubleStar, _ => True

/-- The texts that parts stand for, one behind the other. -/
def GlobMatches : List GlobToken → List Char → Prop
  | [], s => s = []
  | t :: ts, s => ∃ u v, s = u ++ v ∧ t.Matches u ∧ GlobMatches ts v

/-- **The paths in the language of a pattern.** -/
@[irreducible] def InGlob (pattern path : String) : Prop :=
  GlobMatches (globTokens false pattern.toList) path.toList

/-- What stands in front of the first brace that no other closes. -/
def beforeUnclosed : List Char → Option (List Char)
  | [] => none
  | c :: s => if c = '{' ∧ '}' ∉ s then some [] else (beforeUnclosed s).map (c :: ·)

/-- **No brace of the pattern goes wrong**: it is closed, or a line feed stands in front of it,
which no path has. -/
def BracesClosed (pattern : String) : Prop :=
  ∀ before ∈ beforeUnclosed pattern.toList, .literal '\n' ∈ globTokens false before

instance (pattern : String) : Decidable (BracesClosed pattern) :=
  inferInstanceAs (Decidable (∀ before ∈ beforeUnclosed pattern.toList, _))

/-! ### The expression -/

/-- The parts that the code reads, in a placeholder or outside. -/
def readTokens : Bool → List Char → List GlobToken
  | _, [] => []
  | true, c :: s => if c = '}' then readTokens false s else readTokens true s
  | false, '*' :: '*' :: s => .doubleStar :: readTokens false s
  | false, '*' :: s => .star :: readTokens false s
  | false, '{' :: s => .placeholder :: readTokens true s
  | false, c :: s => .literal c :: readTokens false s

/-- The expression of a part, as the source writes it into the pattern. -/
def GlobToken.expr : GlobToken → Expr
  | literal c => .repeated (.single c) 1 (some 1)
  | star | placeholder => .repeated (.ranges true [('/', '/')]) 1 none
  | doubleStar => .repeated .any 0 none

/-- An expression with those of parts behind it. -/
def globSequence (ts : List GlobToken) (e : Expr) : Expr :=
  ts.foldl (fun e t => .seq e t.expr) e

/-- The expression of parts, one behind the other between the two anchors. -/
def globExpr (ts : List GlobToken) : Expr := .seq (globSequence ts (.seq .empty .start)) .stop

/-- A parser reads a text as parts. -/
def ReadsAs (s : List Char) (ts : List GlobToken) : Prop :=
  ∀ p : Parser, p.mode = .outside →
    ∃ q, p.read s = some q ∧ q.mode = .outside ∧ q.outer = p.outer ∧
      q.settled = ⟨p.settled.alternatives, globSequence ts p.settled.sequence⟩

theorem readsAs_nil : ReadsAs [] [] := fun p hp => ⟨p, rfl, hp, rfl, rfl⟩

/-- A text is read as one part. -/
theorem readsAs_singleton {s : List Char} {t : GlobToken}
    (h : ∀ p : Parser, p.mode = .outside →
      ∃ q, p.read s = some q ∧ q.mode = .outside ∧ q.outer = p.outer ∧
        q.settled = p.settled.push t.expr) : ReadsAs s [t] := h

theorem ReadsAs.append {s s' : List Char} {ts ts' : List GlobToken} (h : ReadsAs s ts)
    (h' : ReadsAs s' ts') : ReadsAs (s ++ s') (ts ++ ts') := by
  intro p hp
  obtain ⟨q, hread, hmode, houter, hsettled⟩ := h p hp
  obtain ⟨r, hread', hmode', houter', hsettled'⟩ := h' q hmode
  refine ⟨r, ?_, hmode', houter'.trans houter, ?_⟩
  · rw [Parser.read_append, hread]
    exact hread'
  · rw [hsettled', hsettled, globSequence, globSequence, globSequence, List.foldl_append]

theorem readsAs_segment {t : GlobToken} (ht : t.expr = GlobToken.star.expr) :
    ReadsAs "[^/]+".toList [t] :=
  readsAs_singleton fun p hp =>
    ⟨p.push t.expr, ht ▸ Parser.read_noneOf hp (by decide), rfl, rfl, rfl⟩

theorem readsAs_anything : ReadsAs ".*".toList [.doubleStar] :=
  readsAs_singleton fun p hp =>
    ⟨p.push GlobToken.doubleStar.expr, Parser.read_dotStar hp, rfl, rfl, rfl⟩

/-- A character is escaped where it has a meaning of its own. -/
theorem readsAs_literal {c : Char} (hstar : c ≠ '*') (hbrace : c ≠ '{') :
    ReadsAs (if c ∈ regexSpecials then ['\\', c] else [c]) [.literal c] := by
  refine readsAs_singleton fun p hp => ⟨p.atom (.single c), ?_, rfl, rfl, rfl⟩
  by_cases hspecial : c ∈ regexSpecials
  · rw [if_pos hspecial]
    have hmeta : regexSpecials.all metaCharacters.contains = true := by decide
    have hc := List.all_eq_true.mp hmeta c hspecial
    exact Parser.read_escaped hp (List.contains_iff_mem.mp hc)
  · rw [if_neg hspecial]
    refine Parser.read_literal hp ?_
    simp only [regexSpecials, List.mem_cons, List.not_mem_nil, or_false, not_or] at hspecial ⊢
    tauto

/-- What is written for a pattern is read as its parts. -/
theorem readsAs_regexParts (inside : Bool) (s : List Char) :
    ReadsAs (regexParts inside s) (readTokens inside s) := by
  induction inside, s using regexParts.induct with
  | case1 inside =>
    cases inside <;> exact readsAs_nil
  | case2 s ih =>
    rw [regexParts, if_pos rfl, readTokens, if_pos rfl]
    exact ih
  | case3 c s hc ih =>
    rw [regexParts, if_neg hc, readTokens, if_neg hc]
    exact ih
  | case4 s ih => exact readsAs_anything.append ih
  | case5 s hs ih =>
    rw [regexParts.eq_4 _ hs, readTokens.eq_4 _ hs]
    exact (readsAs_segment rfl).append ih
  | case6 s ih =>
    exact (readsAs_segment (t := .placeholder) rfl).append ih
  | case7 c s hdouble hstar hbrace ih =>
    have hstar' : c ≠ '*' := fun h => hstar h
    have hbrace' : c ≠ '{' := fun h => hbrace h
    rw [regexParts.eq_6 _ _ hdouble hstar hbrace, readTokens.eq_6 _ _ hdouble hstar hbrace]
    exact (readsAs_literal hstar' hbrace').append ih

/-- **What is written is an expression, of the parts that are read.** -/
theorem parse_compilePatternToRegex (pattern : String) :
    parse (compilePatternToRegex pattern).toList
      = some (globExpr (readTokens false pattern.toList)) := by
  obtain ⟨q, hread, hmode, houter, hsettled⟩ :=
    readsAs_regexParts false pattern.toList (Parser.start.push .start) rfl
  have hstop : q.read ['$'] = some (q.push .stop) := by
    rw [Parser.read_cons, Parser.step, hmode]
    rfl
  have hall : Parser.start.read (compilePatternToRegex pattern).toList = some (q.push .stop) := by
    rw [compilePatternToRegex, String.toList_ofList, Parser.read_cons]
    change (Parser.start.push .start).read (regexParts false pattern.toList ++ ['$']) = _
    rw [Parser.read_append, hread]
    exact hstop
  have houter' : (q.push .stop).outer = [] := houter
  rw [parse, hall, Option.bind_some, Parser.finish_of_outer_eq_nil houter' rfl,
    Parser.settled_push, hsettled]
  rfl

/-! ### What the expression matches -/

variable {decimal : Char → Bool} {text s t : List Char} {ts ts' : List GlobToken}

theorem GlobToken.mem_ways_expr {tok : GlobToken} (hs : '\n' ∉ s) :
    t ∈ tok.expr.ways decimal text s ↔ ∃ u, s = u ++ t ∧ tok.Matches u := by
  have hsegment : t ∈ GlobToken.star.expr.ways decimal text s
      ↔ ∃ u, s = u ++ t ∧ u ≠ [] ∧ '/' ∉ u := by
    rw [GlobToken.expr, Expr.ways, mem_waysRepeated]
    refine exists_congr fun u => and_congr_right fun _ => ?_
    rw [Nat.succ_le_iff, List.length_pos_iff, and_comm, and_assoc]
    simp only [Option.mem_def, reduceCtorEq, false_implies, implies_true, true_and]
    refine and_congr_right fun _ => ?_
    constructor
    · intro hall hslash
      exact CharClass.holds_allBut.mp (hall '/' hslash) rfl
    · intro hslash c hc
      exact CharClass.holds_allBut.mpr fun h => hslash (h ▸ hc)
  cases tok with
  | literal c =>
    rw [GlobToken.expr, Expr.mem_ways_single]
    constructor
    · rintro rfl
      exact ⟨[c], rfl, rfl⟩
    · rintro ⟨u, rfl, rfl⟩
      rfl
  | star => exact hsegment
  | placeholder => exact hsegment
  | doubleStar =>
    rw [GlobToken.expr, Expr.ways, mem_waysRepeated]
    constructor
    · rintro ⟨u, hu, -⟩
      exact ⟨u, hu, trivial⟩
    · rintro ⟨u, rfl, -⟩
      refine ⟨u, rfl, fun c hc => ?_, Nat.zero_le _, by simp⟩
      have hne : c ≠ '\n' := fun h => hs (List.mem_append_left _ (h ▸ hc))
      exact bne_iff_ne.mpr hne

/-- The parts match what they stand for, behind what the expression in front of them takes. -/
theorem mem_ways_globSequence {e : Expr} (hs : ∀ u ∈ e.ways decimal text s, '\n' ∉ u) :
    t ∈ (globSequence ts e).ways decimal text s
      ↔ ∃ u ∈ e.ways decimal text s, ∃ v, u = v ++ t ∧ GlobMatches ts v := by
  induction ts generalizing e with
  | nil =>
    constructor
    · intro ht
      exact ⟨t, ht, [], rfl, rfl⟩
    · rintro ⟨u, hu, v, rfl, rfl⟩
      exact hu
  | cons tok ts ih =>
    have hseq : ∀ u, u ∈ (Expr.seq e tok.expr).ways decimal text s
        ↔ ∃ w ∈ e.ways decimal text s, ∃ x, w = x ++ u ∧ tok.Matches x := by
      intro u
      rw [Expr.mem_ways_seq]
      exact exists_congr fun w => and_congr_right fun hw => GlobToken.mem_ways_expr (hs w hw)
    have hline : ∀ u ∈ (Expr.seq e tok.expr).ways decimal text s, '\n' ∉ u := by
      intro u hu hmem
      obtain ⟨w, hw, x, rfl, -⟩ := (hseq u).mp hu
      exact hs _ hw (List.mem_append_right _ hmem)
    rw [globSequence, List.foldl_cons]
    change t ∈ (globSequence ts (.seq e tok.expr)).ways decimal text s ↔ _
    rw [ih hline]
    constructor
    · rintro ⟨u, hu, v, rfl, hv⟩
      obtain ⟨w, hw, x, rfl, hx⟩ := (hseq _).mp hu
      exact ⟨_, hw, x ++ v, by rw [List.append_assoc], x, v, rfl, hx, hv⟩
    · rintro ⟨w, hw, -, rfl, x, v, rfl, hx, hv⟩
      exact ⟨v ++ t, (hseq _).mpr ⟨_, hw, x, by rw [List.append_assoc], hx⟩, v, rfl, hv⟩

/-- **The expression of parts matches their language**, but for line feeds. -/
theorem isMatch_globExpr (htext : '\n' ∉ text) :
    (globExpr ts).isMatch decimal text = true ↔ GlobMatches ts text := by
  have hstart : ∀ s u, u ∈ (Expr.seq .empty .start).ways decimal text s ↔ s = text ∧ u = text := by
    intro s u
    rw [Expr.mem_ways_seq]
    constructor
    · rintro ⟨w, hw, hu⟩
      obtain rfl := Expr.mem_ways_empty.mp hw
      obtain ⟨rfl, rfl⟩ := Expr.mem_ways_start.mp hu
      exact ⟨rfl, rfl⟩
    · rintro ⟨rfl, rfl⟩
      exact ⟨_, Expr.mem_ways_empty.mpr rfl, Expr.mem_ways_start.mpr ⟨rfl, rfl⟩⟩
  have hline : ∀ s, ∀ u ∈ (Expr.seq .empty .start).ways decimal text s, '\n' ∉ u := by
    intro s u hu
    rw [((hstart s u).mp hu).2]
    exact htext
  rw [Expr.isMatch_iff]
  constructor
  · rintro ⟨s, -, t, ht⟩
    obtain ⟨w, hw, hstop⟩ := Expr.mem_ways_seq.mp ht
    obtain ⟨rfl, -⟩ := Expr.mem_ways_stop.mp hstop
    obtain ⟨u, hu, v, rfl, hv⟩ := (mem_ways_globSequence (hline s)).mp hw
    rw [← ((hstart s _).mp hu).2, List.append_nil]
    exact hv
  · intro h
    refine ⟨text, List.suffix_rfl, [], Expr.mem_ways_seq.mpr ⟨[], ?_, ?_⟩⟩
    · exact (mem_ways_globSequence (hline text)).mpr
        ⟨text, (hstart _ _).mpr ⟨rfl, rfl⟩, text, (List.append_nil _).symm, h⟩
    · exact Expr.mem_ways_stop.mpr ⟨rfl, rfl⟩

/-! ### Braces -/

theorem beforeUnclosed_eq_some {a : List Char} (h : beforeUnclosed s = some a) :
    ∃ b, s = a ++ '{' :: b ∧ '}' ∉ b := by
  induction s generalizing a with
  | nil => cases h
  | cons c s ih =>
    rw [beforeUnclosed] at h
    split_ifs at h with hc
    · cases h
      exact ⟨s, by rw [hc.1]; rfl, hc.2⟩
    · obtain ⟨a, ha, rfl⟩ := Option.map_eq_some_iff.mp h
      obtain ⟨b, rfl, hb⟩ := ih ha
      exact ⟨b, rfl, hb⟩

/-- A placeholder that is not closed takes everything. -/
theorem readTokens_inside (h : '}' ∉ s) : readTokens true s = [] := by
  induction s with
  | nil => rfl
  | cons c s ih =>
    rw [List.mem_cons, not_or] at h
    rw [readTokens, if_neg (Ne.symm h.1), ih h.2]

/-- How the code reads a pattern, and how it is meant: up to the first brace that is not closed. -/
inductive ReadsTo (inside : Bool) (s : List Char) : Prop
  | closed (hclosed : beforeUnclosed s = none)
      (h : readTokens inside s = globTokens inside s)
  | unclosed (a : List Char) (hunclosed : beforeUnclosed s = some a)
      (hread : readTokens inside s = globTokens inside a ++ [.placeholder])
      (hmeant : ∃ behind, globTokens inside s = globTokens inside a ++ .literal '{' :: behind)
      (hplain : .literal '{' ∉ globTokens inside a)

/-- A part in front of what was read: the two readers go on with the same rest. -/
theorem ReadsTo.append {inside inside' : Bool} (w : List Char) (front : List GlobToken)
    (hunclosed : beforeUnclosed (w ++ s) = (beforeUnclosed s).map (w ++ ·))
    (hplain : .literal '{' ∉ front)
    (hread : readTokens inside (w ++ s) = front ++ readTokens inside' s)
    (hmeant : ∀ u, u <+: s → ('}' ∈ s → '}' ∈ u) →
      globTokens inside (w ++ u) = front ++ globTokens inside' u)
    (h : ReadsTo inside' s) : ReadsTo inside (w ++ s) := by
  have hwhole := hmeant s List.prefix_rfl id
  cases h with
  | closed hnone hsame =>
    refine .closed (by rw [hunclosed, hnone]; rfl) ?_
    rw [hread, hwhole, hsame]
  | unclosed a ha hreada hmeanta hplaina =>
    obtain ⟨b, rfl, hb⟩ := beforeUnclosed_eq_some ha
    have hfront : globTokens inside (w ++ a) = front ++ globTokens inside' a := by
      refine hmeant a (List.prefix_append _ _) fun hmem => ?_
      rw [List.mem_append, List.mem_cons] at hmem
      rcases hmem with hmem | hmem | hmem
      · exact hmem
      · exact absurd hmem (by decide)
      · exact absurd hmem hb
    refine .unclosed (w ++ a) (by rw [hunclosed, ha]; rfl) ?_ ?_ ?_
    · rw [hread, hreada, hfront, List.append_assoc]
    · obtain ⟨behind, hbehind⟩ := hmeanta
      exact ⟨behind, by rw [hwhole, hbehind, hfront, List.append_assoc]⟩
    · rw [hfront, List.mem_append, not_or]
      exact ⟨hplain, hplaina⟩

theorem beforeUnclosed_cons {c : Char} (h : c = '{' → '}' ∈ s) :
    beforeUnclosed ([c] ++ s) = (beforeUnclosed s).map ([c] ++ ·) :=
  if_neg fun hc => hc.2 (h hc.1)

theorem readsTo (inside : Bool) (s : List Char) (h : inside = true → '}' ∈ s) :
    ReadsTo inside s := by
  -- one case for each clause of the reader
  induction inside, s using readTokens.induct with
  -- the end of the text
  | case1 inside => cases inside <;> exact .closed rfl rfl
  -- inside a placeholder: the brace that closes it
  | case2 s ih =>
    have hbrace : '}' = '{' → '}' ∈ s := fun h => absurd h (by decide)
    exact .append _ [] (beforeUnclosed_cons hbrace) List.not_mem_nil
      (by rw [List.singleton_append, readTokens, if_pos rfl]; rfl)
      (fun u _ _ => by rw [List.singleton_append, globTokens, if_pos rfl]; rfl)
      (ih fun h => nomatch h)
  -- inside a placeholder: any other character, which is passed over
  | case3 c s hc ih =>
    have hmem : '}' ∈ s := by
      rcases List.mem_cons.mp (h rfl) with heq | hmem
      · exact absurd heq.symm hc
      · exact hmem
    exact .append _ [] (beforeUnclosed_cons fun _ => hmem) List.not_mem_nil
      (by rw [List.singleton_append, readTokens, if_neg hc]; rfl)
      (fun u _ _ => by rw [List.singleton_append, globTokens, if_neg hc]; rfl)
      (ih fun _ => hmem)
  -- two stars
  | case4 s ih =>
    refine .append ['*', '*'] [.doubleStar] ?_ (by decide) rfl
      (fun _ _ _ => rfl) (ih fun h => nomatch h)
    have hstar : '*' = '{' → '}' ∈ s := fun h => absurd h (by decide)
    have hstars : '*' = '{' → '}' ∈ '*' :: s := fun h => absurd h (by decide)
    have htwice := beforeUnclosed_cons hstars
    rw [List.singleton_append, ← List.singleton_append (l := s), beforeUnclosed_cons hstar,
      Option.map_map] at htwice
    exact htwice
  -- one star, which no second one follows
  | case5 s hs ih =>
    have hstar : '*' = '{' → '}' ∈ s := fun h => absurd h (by decide)
    refine .append ['*'] [.star] (beforeUnclosed_cons hstar) (by decide)
      (readTokens.eq_4 _ hs) (fun u hu _ => ?_) (ih fun h => nomatch h)
    refine globTokens.eq_4 _ fun v hv => ?_
    change u = _ at hv
    rw [hv] at hu
    obtain ⟨t, rfl⟩ := hu
    exact hs _ rfl
  -- a brace that opens a placeholder, if one closes it further on
  | case6 s ih =>
    by_cases hmem : '}' ∈ s
    · refine .append ['{'] [.placeholder] (beforeUnclosed_cons fun _ => hmem)
        (by decide) rfl (fun u _ hu => ?_) (ih fun _ => hmem)
      change (if '}' ∈ u then _ else _) = _
      rw [if_pos (hu hmem)]
      rfl
    · -- nothing closes the brace
      refine .unclosed [] (if_pos ⟨rfl, hmem⟩) ?_ ⟨globTokens false s, ?_⟩ List.not_mem_nil
      · change .placeholder :: readTokens true s = _
        rw [readTokens_inside hmem]
        rfl
      · change (if '}' ∈ s then _ else _) = _
        rw [if_neg hmem]
        rfl
  -- any other character stands for itself
  | case7 c s hdouble hstar hbrace ih =>
    have hbrace' : c ≠ '{' := fun h => hbrace h
    refine .append [c] [.literal c] (beforeUnclosed_cons fun h => absurd h hbrace')
      (by simpa using hbrace'.symm) (readTokens.eq_6 _ _ hdouble hstar hbrace) (fun u hu _ => ?_)
      (ih fun h => nomatch h)
    exact globTokens.eq_6 _ _ (fun v hc => absurd hc fun h => hstar h) hstar hbrace

/-- A text that parts stand for, without any character that they do not spell. -/
theorem exists_globMatches (ts : List GlobToken) :
    ∃ s, GlobMatches ts s ∧ ∀ c ∈ s, c = 'a' ∨ .literal c ∈ ts := by
  induction ts with
  | nil => exact ⟨[], rfl, fun _ h => absurd h List.not_mem_nil⟩
  | cons t ts ih =>
    obtain ⟨s, hs, hchars⟩ := ih
    have hbehind : ∀ c ∈ s, c = 'a' ∨ .literal c ∈ t :: ts :=
      fun c hc => (hchars c hc).imp_right (List.mem_cons_of_mem _)
    have hsegment : ∀ c ∈ 'a' :: s, c = 'a' ∨ .literal c ∈ t :: ts := by
      intro c hc
      rcases List.mem_cons.mp hc with hc | hc
      · exact .inl hc
      · exact hbehind c hc
    cases t with
    | literal c =>
      refine ⟨c :: s, ⟨[c], s, rfl, rfl, hs⟩, fun d hd => ?_⟩
      rcases List.mem_cons.mp hd with rfl | hd
      · exact .inr List.mem_cons_self
      · exact hbehind d hd
    | star => exact ⟨'a' :: s, ⟨['a'], s, rfl, ⟨by decide, by decide⟩, hs⟩, hsegment⟩
    | placeholder => exact ⟨'a' :: s, ⟨['a'], s, rfl, ⟨by decide, by decide⟩, hs⟩, hsegment⟩
    | doubleStar => exact ⟨s, ⟨[], s, rfl, trivial, hs⟩, hbehind⟩

theorem globMatches_append :
    GlobMatches (ts ++ ts') s ↔ ∃ u v, s = u ++ v ∧ GlobMatches ts u ∧ GlobMatches ts' v := by
  induction ts generalizing s with
  | nil => simp [GlobMatches]
  | cons t ts ih =>
    rw [List.cons_append, GlobMatches]
    constructor
    · rintro ⟨u, v, rfl, hu, hv⟩
      obtain ⟨x, y, rfl, hx, hy⟩ := ih.mp hv
      exact ⟨u ++ x, y, by rw [List.append_assoc], ⟨u, x, rfl, hu, hx⟩, hy⟩
    · rintro ⟨-, v, rfl, ⟨u, x, rfl, hu, hx⟩, hv⟩
      exact ⟨u, x ++ v, by rw [List.append_assoc], hu, ih.mpr ⟨x, v, rfl, hx, hv⟩⟩

/-- A literal character of a pattern is spelled in every path that matches. -/
theorem mem_of_globMatches {c : Char} (hc : .literal c ∈ ts) (h : GlobMatches ts s) : c ∈ s := by
  obtain ⟨front, behind, rfl⟩ := List.append_of_mem hc
  obtain ⟨u, -, rfl, -, x, y, rfl, hx, -⟩ := globMatches_append.mp h
  rw [show x = [c] from hx]
  simp

/-! ### The translation -/

section Translation

variable {X : RegexCrate}

theorem RegexCrate.Documented.isMatch_iff (hX : X.Documented) {pattern path : String}
    (hpath : '\n' ∉ path.toList) :
    X.isMatch (compilePatternToRegex pattern) path = true
      ↔ GlobMatches (readTokens false pattern.toList) path.toList := by
  rw [hX.isMatch _ _ path (parse_compilePatternToRegex pattern), isMatch_globExpr hpath]

/-- The expression matches the paths in the language of the pattern exactly if no brace of it goes
wrong. -/
theorem forall_isMatch_iff (hX : X.Documented) (pattern : String) :
    (∀ path : String, '\n' ∉ path.toList →
        (X.isMatch (compilePatternToRegex pattern) path = true ↔ InGlob pattern path))
      ↔ BracesClosed pattern := by
  cases readsTo false pattern.toList (fun h => nomatch h) with
  | closed hnone hsame =>
    refine iff_of_true (fun path hpath => ?_) ?_
    · rw [hX.isMatch_iff hpath, hsame, InGlob]
    · intro before hbefore
      rw [hnone] at hbefore
      cases hbefore
  | unclosed a ha hread hmeant hplain =>
    obtain ⟨behind, hbehind⟩ := hmeant
    have hclosed : BracesClosed pattern ↔ .literal '\n' ∈ globTokens false a := by
      rw [BracesClosed, ha]
      simp
    rw [hclosed]
    constructor
    · intro h
      by_contra hline
      -- a path without a brace, which the language wants and the code does not
      obtain ⟨u, hu, hchars⟩ := exists_globMatches (globTokens false a)
      have hpath : ∀ c ∈ u ++ ['a'], c = 'a' ∨ .literal c ∈ globTokens false a := by
        intro c hc
        rcases List.mem_append.mp hc with hc | hc
        · exact hchars c hc
        · exact .inl (List.mem_singleton.mp hc)
      have hnotin : ∀ c, c ≠ 'a' → .literal c ∉ globTokens false a →
          c ∉ (String.ofList (u ++ ['a'])).toList := by
        intro c hne hc hmem
        rw [String.toList_ofList] at hmem
        exact (hpath c hmem).elim hne hc
      have hmatch : X.isMatch (compilePatternToRegex pattern) (String.ofList (u ++ ['a']))
          = true := by
        rw [hX.isMatch_iff (hnotin '\n' (by decide) hline), hread, String.toList_ofList,
          globMatches_append]
        exact ⟨u, ['a'], rfl, hu, ['a'], [], rfl, ⟨by decide, by decide⟩, rfl⟩
      have hglob := (h _ (hnotin '\n' (by decide) hline)).mp hmatch
      rw [InGlob, hbehind] at hglob
      exact hnotin '{' (by decide) hplain
        (mem_of_globMatches (List.mem_append_right _ List.mem_cons_self) hglob)
    · intro hline path hpath
      rw [hX.isMatch_iff hpath, InGlob, hread, hbehind]
      refine iff_of_false (fun h => ?_) fun h => ?_
      · exact hpath (mem_of_globMatches (List.mem_append_left _ hline) h)
      · exact hpath (mem_of_globMatches (List.mem_append_left _ hline) h)

/-- **Which patterns are translated correctly**: what is written is always an expression, and it
matches the paths in the language of the pattern exactly if no brace of it goes wrong. -/
theorem compilePatternToRegex_iff (hX : X.Documented) (pattern : String) :
    X.isValid (compilePatternToRegex pattern) = true ∧
      ((∀ path : String, '\n' ∉ path.toList →
          (X.isMatch (compilePatternToRegex pattern) path = true ↔ InGlob pattern path))
        ↔ BracesClosed pattern) :=
  ⟨hX.isValid _ _ (parse_compilePatternToRegex pattern), forall_isMatch_iff hX pattern⟩

end Translation

theorem compilePatternToRegex_iff_sample :
    sampleRegex.isValid (compilePatternToRegex "/users/{name}/*") = true ∧
      (sampleRegex.isMatch (compilePatternToRegex "/users/{name}/*") "/users/ann/posts" = true
        ↔ InGlob "/users/{name}/*" "/users/ann/posts") := by
  obtain ⟨hvalid, hiff⟩ := compilePatternToRegex_iff sampleRegex_documented "/users/{name}/*"
  exact ⟨hvalid, hiff.mpr (by decide) _ (by decide)⟩

/-- The pattern `/users/{` matches `/users/x`. -/
theorem not_forall_inGlob :
    ¬ ∀ pattern path : String, '\n' ∉ path.toList →
      (sampleRegex.isMatch (compilePatternToRegex pattern) path = true ↔ InGlob pattern path) := by
  intro h
  have hclosed := (forall_isMatch_iff sampleRegex_documented "/users/\x7b").mp
    (h "/users/\x7b")
  revert hclosed
  decide

end ActonService
