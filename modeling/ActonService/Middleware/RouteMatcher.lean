import ActonService.Audit.Event
import ActonService.Lib.Text
import Mathlib.Data.List.Induction
import Mathlib.Data.List.Sort
import Mathlib.Logic.Function.Basic

/-!
# Routes with limits of their own

`middleware/route_matcher.rs`: the table of `[rate_limit.routes]`, compiled, and the entry a request
is matched to.  An entry without a wildcard is found by its path, with or without a method; the
others are tried as regular expressions, the most specific first.  A path is normalised before it is
looked up: UUIDs and segments of digits become `{id}`.

The table is a `HashMap`, here the list of its entries in the order they are visited in.  The
compiled tables keep the whole entry, so that a match tells which entry it is.  The functions of the
`regex` crate are parameters, and the expressions the code generates are taken to be valid, as it
expects them to be.

## Main definitions

* `normalizePath` — the path that is looked up.
* `RouteEntry`, `RouteEntry.Accepts` — an entry, and the requests it is written for.
* `CompiledRoutePatterns.compile`, `CompiledRoutePatterns.matchEntry` — the compiled tables, and the
  entry found.

## Main results

* `matchEntry_compile` — **a request is matched to a configured entry that is written for it.**
* `matchPattern_most_specific` — of the wildcard entries the most specific is found.
-/

namespace ActonService

open Text

/-- The functions of the `regex` crate, on the text of an expression. -/
structure RegexExterns where
  /-- `Regex::is_match` -/
  isMatch : String → String → Bool
  /-- `Regex::replace_all` of an expression in a text. -/
  replaceAll : String → String → String → String

/-! ### Normalisation -/

/-- `UUID_REGEX` -/
def uuidRegex : String :=
  "[0-9a-fA-F]{8}-[0-9a-fA-F]{4}-[0-9a-fA-F]{4}-[0-9a-fA-F]{4}-[0-9a-fA-F]{12}"

/-- A segment of digits becomes `{id}`. -/
def normalizeSegment (segment : List Char) : List Char :=
  if segment ≠ [] ∧ segment.all Char.isDigit = true then "{id}".toList else segment

/-- `normalize_path` -/
def normalizePath (X : RegexExterns) (path : String) : String :=
  let normalized := X.replaceAll uuidRegex path "{id}"
  String.ofList (List.intercalate ['/'] ((normalized.toList.splitOn '/').map normalizeSegment))

/-! ### Patterns -/

/-- `RouteRateLimitConfig` -/
structure RouteRateLimitConfig where
  requestsPerMinute : UInt32
  burstSize : UInt32
  perUser : Bool
  deriving DecidableEq, Repr

/-- An entry of `[rate_limit.routes]`. -/
structure RouteEntry where
  pattern : String
  config : RouteRateLimitConfig
  deriving DecidableEq, Repr

/-- The methods that a pattern may start with. -/
def patternMethods : List String := ["GET", "POST", "PUT", "DELETE", "PATCH", "HEAD", "OPTIONS"]

/-- The path behind a method at the front of a pattern, if it is one. -/
def pathBehindMethod (trimmed method : String) : Option String := do
  let rest ← stripPrefix trimmed method
  let path := rest.toList.dropWhile isWhitespace
  if path.head? = some '/' then some (String.ofList path) else none

/-- `parse_method_prefix` -/
def parseMethodPrefix (pattern : String) : Option String × String :=
  let trimmed := String.ofList (trim pattern.toList)
  match patternMethods.findSome? fun method =>
      (pathBehindMethod trimmed method).map fun path => (method, path) with
  | some (method, path) => (some method, path)
  | none => (none, trimmed)

/-- The entry is looked up as an expression: `has_wildcards`, or there is an `{id}`. -/
def isWildcard (path : String) : Bool :=
  path.toList.contains '*' || (afterFirst "{id}".toList path.toList).isSome

/-- The characters that are escaped in an expression. -/
def regexSpecials : List Char := ['.', '+', '?', '(', ')', '[', ']', '^', '$', '|', '\\']

/-- The loop of `compile_pattern_to_regex`, in a placeholder or outside. -/
def regexParts : Bool → List Char → List Char
  | _, [] => []
  | true, c :: s => if c = '}' then regexParts false s else regexParts true s
  | false, '*' :: '*' :: s => ".*".toList ++ regexParts false s
  | false, '*' :: s => "[^/]+".toList ++ regexParts false s
  | false, '{' :: s => "[^/]+".toList ++ regexParts true s
  | false, c :: s => (if c ∈ regexSpecials then ['\\', c] else [c]) ++ regexParts false s

/-- `compile_pattern_to_regex`, as the text of the expression. -/
def compilePatternToRegex (pattern : String) : String :=
  String.ofList ('^' :: (regexParts false pattern.toList ++ ['$']))

/-- The score of a segment: the more of the path it fixes, the higher. -/
def segmentScore (segment : List Char) : ℕ :=
  if segment ≠ [] ∧ '*' ∉ segment ∧ '{' ∉ segment then 10
  else if segment = ['*'] then 5
  else if segment = ['*', '*'] then 1
  else if '{' ∈ segment then 7
  else 0

/-- `calculate_specificity`; the length is that of the bytes. -/
def calculateSpecificity (pattern : String) : ℕ :=
  ((pattern.toList.splitOn '/').map segmentScore).sum + pattern.utf8ByteSize

/-- The path an entry is written for. -/
def RouteEntry.path (e : RouteEntry) : String := (parseMethodPrefix e.pattern).2

/-- The method an entry is written for, if it is for one. -/
def RouteEntry.method (e : RouteEntry) : Option String := (parseMethodPrefix e.pattern).1

/-- **The requests an entry is written for**, by method and normalised path. -/
structure RouteEntry.Accepts (X : RegexExterns) (e : RouteEntry) (method normalized : String) :
    Prop where
  method : ∀ m ∈ e.method, m = method
  wildcard : isWildcard e.path = true → X.isMatch (compilePatternToRegex e.path) normalized = true
  exact : isWildcard e.path = false → e.path = normalized

/-! ### The compiled tables -/

/-- `CompiledPattern`; its original, its method filter and its configuration are those of the
entry. -/
structure CompiledPattern where
  entry : RouteEntry
  regex : String
  specificity : ℕ

/-- `CompiledRoutePatterns` -/
structure CompiledRoutePatterns where
  methodExact : String → Option RouteEntry
  exact : String → Option RouteEntry
  patterns : List CompiledPattern

namespace CompiledRoutePatterns

/-- The key of a method and a path. -/
def methodKey (method path : String) : String := method ++ " " ++ path

/-- The tables with one more entry, in the table that its method and its path give it. -/
def add (compiled : CompiledRoutePatterns) (e : RouteEntry) : CompiledRoutePatterns :=
  if isWildcard e.path then
    let pattern := ⟨e, compilePatternToRegex e.path, calculateSpecificity e.path⟩
    { compiled with patterns := compiled.patterns ++ [pattern] }
  else
    match e.method with
    | some method =>
      { compiled with
        methodExact := Function.update compiled.methodExact (methodKey method e.path) (some e) }
    | none => { compiled with exact := Function.update compiled.exact e.path (some e) }

/-- The tables without an entry. -/
def empty : CompiledRoutePatterns := ⟨fun _ => none, fun _ => none, []⟩

/-- `compile` -/
def compile (routes : List RouteEntry) : CompiledRoutePatterns :=
  let compiled := routes.foldl add empty
  { compiled with
    patterns := compiled.patterns.insertionSort fun p q => q.specificity ≤ p.specificity }

/-- The wildcard entry found for a normalised path. -/
def matchPattern (X : RegexExterns) (compiled : CompiledRoutePatterns)
    (method normalized : String) : Option CompiledPattern :=
  compiled.patterns.find? fun p =>
    p.entry.method.all (fun m => decide (m = method)) && X.isMatch p.regex normalized

/-- `match_route`, as the entry whose configuration it returns. -/
def matchEntry (X : RegexExterns) (compiled : CompiledRoutePatterns) (method path : String) :
    Option RouteEntry :=
  let normalized := normalizePath X path
  match compiled.methodExact (methodKey method normalized) with
  | some e => some e
  | none =>
    match compiled.exact normalized with
    | some e => some e
    | none => (matchPattern X compiled method normalized).map CompiledPattern.entry

/-- `match_route` -/
def matchRoute (X : RegexExterns) (compiled : CompiledRoutePatterns) (method path : String) :
    Option RouteRateLimitConfig :=
  (matchEntry X compiled method path).map RouteEntry.config

/-! ### What is found -/

/-- Every entry stands where it is looked for. -/
structure Holds (compiled : CompiledRoutePatterns) (routes : List RouteEntry) : Prop where
  methodExact : ∀ key e, compiled.methodExact key = some e →
    e ∈ routes ∧ isWildcard e.path = false ∧
      ∃ method, e.method = some method ∧ key = methodKey method e.path
  exact : ∀ key e, compiled.exact key = some e →
    e ∈ routes ∧ isWildcard e.path = false ∧ e.method = none ∧ key = e.path
  patterns : ∀ p ∈ compiled.patterns,
    p.entry ∈ routes ∧ isWildcard p.entry.path = true ∧
      p.regex = compilePatternToRegex p.entry.path

theorem Holds.add {compiled : CompiledRoutePatterns} {routes : List RouteEntry}
    (h : compiled.Holds routes) (e : RouteEntry) : (compiled.add e).Holds (routes ++ [e]) := by
  -- whatever the compiled table held of the entries before, it holds of all
  have hold : ∀ e', e' ∈ routes → e' ∈ routes ++ [e] := fun _ => List.mem_append_left _
  have hnew : e ∈ routes ++ [e] := List.mem_append_right _ List.mem_cons_self
  have hmethod : ∀ key e', compiled.methodExact key = some e' → e' ∈ routes ++ [e] ∧
      isWildcard e'.path = false ∧
        ∃ method, e'.method = some method ∧ key = methodKey method e'.path :=
    fun key e' he' => (h.methodExact key e' he').imp_left (hold e')
  have hexact : ∀ key e', compiled.exact key = some e' → e' ∈ routes ++ [e] ∧
      isWildcard e'.path = false ∧ e'.method = none ∧ key = e'.path :=
    fun key e' he' => (h.exact key e' he').imp_left (hold e')
  have hpatterns : ∀ p ∈ compiled.patterns, p.entry ∈ routes ++ [e] ∧
      isWildcard p.entry.path = true ∧ p.regex = compilePatternToRegex p.entry.path :=
    fun p hp => (h.patterns p hp).imp_left (hold p.entry)
  rw [CompiledRoutePatterns.add]
  cases hwild : isWildcard e.path with
  -- a wildcard goes to the end of the patterns
  | true =>
    refine ⟨hmethod, hexact, fun p hp => ?_⟩
    rcases List.mem_append.mp hp with hp | hp
    · exact hpatterns p hp
    · rw [List.mem_singleton.mp hp]
      exact ⟨hnew, hwild, rfl⟩
  | false =>
    rw [if_neg Bool.false_ne_true]
    cases hm : e.method with
    -- a method and a path: the new entry has the key of its own, and every other key its old
    -- one
    | some method =>
      refine ⟨fun key e' he' => ?_, hexact, hpatterns⟩
      by_cases hkey : key = methodKey method e.path
      · simp only [hkey, Function.update_self, Option.some.injEq] at he'
        rw [← he']
        exact ⟨hnew, hwild, method, hm, hkey⟩
      · simp only [Function.update_of_ne hkey] at he'
        exact hmethod key e' he'
    -- a path without a method
    | none =>
      refine ⟨hmethod, fun key e' he' => ?_, hpatterns⟩
      by_cases hkey : key = e.path
      · simp only [hkey, Function.update_self, Option.some.injEq] at he'
        rw [← he']
        exact ⟨hnew, hwild, hm, hkey⟩
      · simp only [Function.update_of_ne hkey] at he'
        exact hexact key e' he'

theorem holds_empty : empty.Holds [] where
  methodExact := by
    intro key e he
    cases he
  exact := by
    intro key e he
    cases he
  patterns := by
    intro p hp
    cases hp

theorem holds_foldl (routes : List RouteEntry) : (routes.foldl add empty).Holds routes := by
  induction routes using List.reverseRecOn with
  | nil => exact holds_empty
  | append_singleton routes e ih =>
    rw [List.foldl_concat]
    exact ih.add e

theorem holds_compile (routes : List RouteEntry) : (compile routes).Holds routes := by
  have hfold := holds_foldl routes
  exact ⟨hfold.methodExact, hfold.exact,
    fun p hp => hfold.patterns p ((List.mem_insertionSort _).mp hp)⟩

theorem matchPattern_eq_some {X : RegexExterns} {compiled : CompiledRoutePatterns}
    {method normalized : String} {p : CompiledPattern}
    (h : matchPattern X compiled method normalized = some p) :
    p ∈ compiled.patterns ∧ (∀ m ∈ p.entry.method, m = method) ∧
      X.isMatch p.regex normalized = true := by
  rw [matchPattern] at h
  have hfound := List.find?_some h
  rw [Bool.and_eq_true] at hfound
  refine ⟨List.mem_of_find?_eq_some h, fun m hm => ?_, hfound.2⟩
  rw [Option.mem_def.mp hm] at hfound
  exact of_decide_eq_true hfound.1

/-- A method without a blank can be read off a key. -/
theorem methodKey_inj {m m' path path' : String} (hm : ' ' ∉ m.toList) (hm' : ' ' ∉ m'.toList)
    (h : methodKey m path = methodKey m' path') : m = m' ∧ path = path' := by
  have hlist := congrArg String.toList h
  simp only [methodKey, String.toList_append, List.append_assoc] at hlist
  have hsplit := splitOnce_append hm path.toList
  have hsplit' := splitOnce_append hm' path'.toList
  rw [show m.toList ++ ' ' :: path.toList = m'.toList ++ ' ' :: path'.toList from hlist, hsplit',
    Option.some.injEq, Prod.mk.injEq] at hsplit
  exact ⟨String.toList_inj.mp hsplit.1.symm, String.toList_inj.mp hsplit.2.symm⟩

/-- A pattern's method is one of the list, without a blank. -/
theorem blank_notMem_of_method {e : RouteEntry} {method : String} (h : e.method = some method) :
    ' ' ∉ method.toList := by
  have hmem : method ∈ patternMethods := by
    rw [RouteEntry.method, parseMethodPrefix] at h
    split at h
    · next m path hfound =>
      obtain ⟨m', hm', hpath⟩ := List.exists_of_findSome?_eq_some hfound
      obtain ⟨path', -, heq⟩ := Option.map_eq_some_iff.mp hpath
      cases heq
      cases h
      exact hm'
    · cases h
  have hall : ∀ m ∈ patternMethods, ' ' ∉ m.toList := by decide
  exact hall method hmem

/-- Only configured entries are found, whatever the request. -/
theorem mem_of_matchEntry {X : RegexExterns} {routes : List RouteEntry} {method path : String}
    {e : RouteEntry} (h : matchEntry X (compile routes) method path = some e) : e ∈ routes := by
  have hholds := holds_compile routes
  rw [matchEntry] at h
  split at h
  · next e' he' =>
    cases h
    exact (hholds.methodExact _ _ he').1
  · split at h
    · next e' he' =>
      cases h
      exact (hholds.exact _ _ he').1
    · obtain ⟨p, hp, heq⟩ := Option.map_eq_some_iff.mp h
      rw [← heq]
      exact (hholds.patterns p (matchPattern_eq_some hp).1).1

/-- **A request is matched to a configured entry that is written for it.** -/
theorem matchEntry_compile {X : RegexExterns} {routes : List RouteEntry} {method path : String}
    {e : RouteEntry} (hmethod : ' ' ∉ method.toList)
    (h : matchEntry X (compile routes) method path = some e) :
    e ∈ routes ∧ e.Accepts X method (normalizePath X path) := by
  refine ⟨mem_of_matchEntry h, ?_⟩
  have hholds := holds_compile routes
  rw [matchEntry] at h
  split at h
  · next e' he' =>
    cases h
    obtain ⟨-, hwild, m, hm, hkey⟩ := hholds.methodExact _ _ he'
    obtain ⟨hsame, hpath⟩ := methodKey_inj hmethod (blank_notMem_of_method hm) hkey
    refine ⟨fun m' hm' => ?_, fun hexpr => ?_, fun _ => hpath.symm⟩
    · rw [hm, Option.mem_some_iff] at hm'
      rw [← hm', hsame]
    · rw [hwild] at hexpr
      cases hexpr
  · split at h
    · next e' he' =>
      cases h
      obtain ⟨-, hwild, hm, hkey⟩ := hholds.exact _ _ he'
      refine ⟨fun m' hm' => ?_, fun hexpr => ?_, fun _ => hkey.symm⟩
      · rw [hm] at hm'
        cases hm'
      · rw [hwild] at hexpr
        cases hexpr
    · obtain ⟨p, hp, heq⟩ := Option.map_eq_some_iff.mp h
      obtain ⟨hpattern, hm, hmatch⟩ := matchPattern_eq_some hp
      obtain ⟨-, hwild, hregex⟩ := hholds.patterns p hpattern
      rw [← heq]
      refine ⟨hm, fun _ => ?_, fun hexact => ?_⟩
      · rw [← hregex]
        exact hmatch
      · rw [hwild] at hexact
        cases hexact

/-- **Of the wildcard entries written for a request the most specific is found.** -/
theorem matchPattern_most_specific {X : RegexExterns} {routes : List RouteEntry}
    {method normalized : String} {p q : CompiledPattern}
    (hp : matchPattern X (compile routes) method normalized = some p)
    (hq : q ∈ (compile routes).patterns) (hm : ∀ m ∈ q.entry.method, m = method)
    (hregex : X.isMatch q.regex normalized = true) : q.specificity ≤ p.specificity := by
  have hsorted : (compile routes).patterns.Pairwise fun p q => q.specificity ≤ p.specificity :=
    List.pairwise_insertionSort _ _
  rw [matchPattern] at hp
  obtain ⟨-, before, behind, hlist, hbefore⟩ := List.find?_eq_some_iff_append.mp hp
  have hqaccepts : (q.entry.method.all (fun m => decide (m = method)) &&
      X.isMatch q.regex normalized) = true := by
    rw [hregex, Bool.and_true]
    cases hmethod : q.entry.method with
    | none => rfl
    | some m => simpa using hm m hmethod
  rw [hlist] at hsorted hq
  rcases List.mem_append.mp hq with hq | hq
  · have hnot := hbefore q hq
    rw [hqaccepts] at hnot
    contradiction
  · rcases List.mem_cons.mp hq with rfl | hq
    · exact le_rfl
    · exact (List.pairwise_cons.mp (List.pairwise_append.mp hsorted).2.1).1 q hq

end CompiledRoutePatterns

end ActonService
