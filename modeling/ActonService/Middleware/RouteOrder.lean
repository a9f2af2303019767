import ActonService.Lib.Priority
import ActonService.Middleware.RoutePatterns
import Mathlib.Data.List.Find
import Mathlib.Data.Prod.Lex

/-!
# Routes in the order they are visited in

The table of routes is a `HashMap`, and the compiled tables are made in the order it is visited in.
An entry is found by method and path, by path, or as an expression, in this order, and of the
expressions the one with the highest score.  Of two entries with the same key the last is kept, and
of two expressions with the same score the first.

## Main definitions

* `RouteEntry.rank`, `RouteEntry.foundFor` — how an entry is preferred, and for which requests it is
  found.
* `BestRoute` — the entries that a request may be matched to.

## Main results

* `chooses_matchEntry` — **a request is matched to the best entry**, any of them in some order.
* `matchRoute_perm_iff` — **when the configuration of a request does not depend on the order.**
-/

namespace ActonService

open Priority

namespace RouteEntry

/-- The table an entry is in: that of expressions, of paths, or of methods and paths. -/
def tier (e : RouteEntry) : ℕ :=
  if isWildcard e.path = true then 0 else if e.method.isSome = true then 2 else 1

/-- How an entry is preferred to others. -/
def rank (e : RouteEntry) : ℕ ×ₗ ℕ :=
  toLex (e.tier, if isWildcard e.path = true then calculateSpecificity e.path else 0)

/-- An entry is found for a method and a normalised path. -/
def foundFor (X : RegexExterns) (method normalized : String) (e : RouteEntry) : Bool :=
  if isWildcard e.path = true then
    e.method.all (fun m => decide (m = method))
      && X.isMatch (compilePatternToRegex e.path) normalized
  else
    match e.method with
    | some m => decide (CompiledRoutePatterns.methodKey m e.path
        = CompiledRoutePatterns.methodKey method normalized)
    | none => decide (e.path = normalized)

variable {e e' : RouteEntry} {X : RegexExterns} {method normalized : String}

theorem tier_eq_zero_iff : e.tier = 0 ↔ isWildcard e.path = true := by
  cases hwild : isWildcard e.path <;> cases hmethod : e.method <;> simp [tier, hwild, hmethod]

theorem tier_eq_two_iff :
    e.tier = 2 ↔ isWildcard e.path = false ∧ ∃ m, e.method = some m := by
  cases hwild : isWildcard e.path <;> cases hmethod : e.method <;> simp [tier, hwild, hmethod]

theorem tier_eq_one_iff : e.tier = 1 ↔ isWildcard e.path = false ∧ e.method = none := by
  cases hwild : isWildcard e.path <;> cases hmethod : e.method <;> simp [tier, hwild, hmethod]

theorem tier_le_two (e : RouteEntry) : e.tier ≤ 2 := by
  cases hwild : isWildcard e.path <;> cases hmethod : e.method <;> simp [tier, hwild, hmethod]

theorem rank_le_iff :
    e'.rank ≤ e.rank ↔ e'.tier < e.tier ∨ e'.tier = e.tier ∧
      (e.tier = 0 → calculateSpecificity e'.path ≤ calculateSpecificity e.path) := by
  simp only [rank, Prod.Lex.toLex_le_toLex]
  refine or_congr_right (and_congr_right fun htier => ?_)
  by_cases hzero : e.tier = 0
  · rw [if_pos (tier_eq_zero_iff.mp hzero), if_pos (tier_eq_zero_iff.mp (htier.trans hzero))]
    simp [hzero]
  · have hwild' : ¬ isWildcard e'.path = true :=
      fun h => hzero (htier.symm.trans (tier_eq_zero_iff.mpr h))
    rw [if_neg hwild']
    simp [hzero]

theorem tier_le_of_rank_le (h : e'.rank ≤ e.rank) : e'.tier ≤ e.tier := by
  rcases rank_le_iff.mp h with hlt | ⟨heq, -⟩
  · exact hlt.le
  · exact heq.le

theorem foundFor_of_wildcard (hwild : isWildcard e.path = true) :
    e.foundFor X method normalized = (e.method.all (fun m => decide (m = method))
      && X.isMatch (compilePatternToRegex e.path) normalized) := if_pos hwild

theorem foundFor_of_method {m : String} (hwild : isWildcard e.path = false)
    (hm : e.method = some m) :
    e.foundFor X method normalized = decide (CompiledRoutePatterns.methodKey m e.path
      = CompiledRoutePatterns.methodKey method normalized) := by
  rw [foundFor, hwild, if_neg Bool.false_ne_true, hm]

theorem foundFor_of_path (hwild : isWildcard e.path = false) (hm : e.method = none) :
    e.foundFor X method normalized = decide (e.path = normalized) := by
  rw [foundFor, hwild, if_neg Bool.false_ne_true, hm]

end RouteEntry

/-! ### The compiled tables -/

namespace CompiledRoutePatterns

open RouteEntry

/-- The pattern of an entry. -/
def ofEntry (e : RouteEntry) : CompiledPattern :=
  ⟨e, compilePatternToRegex e.path, calculateSpecificity e.path⟩

/-- The entry of a table that is found, if one is. -/
def lastFound (X : RegexExterns) (method normalized : String) (tier : ℕ)
    (routes : List RouteEntry) : Option RouteEntry :=
  routes.reverse.find? fun e => decide (e.tier = tier) && e.foundFor X method normalized

/-- The expression that is found, if one is. -/
def firstPattern (X : RegexExterns) (method normalized : String) (routes : List RouteEntry) :
    Option RouteEntry :=
  ((routes.filter fun e => decide (e.tier = 0)).insertionSort
    fun e e' => e'.rank ≤ e.rank).find? (foundFor X method normalized)

variable {X : RegexExterns} {method normalized path : String} {routes : List RouteEntry}
  {e : RouteEntry}

theorem add_of_wildcard {compiled : CompiledRoutePatterns} (hwild : isWildcard e.path = true) :
    compiled.add e = { compiled with patterns := compiled.patterns ++ [ofEntry e] } := if_pos hwild

theorem add_of_method {compiled : CompiledRoutePatterns} {m : String}
    (hwild : isWildcard e.path = false) (hm : e.method = some m) :
    compiled.add e = { compiled with
      methodExact := Function.update compiled.methodExact (methodKey m e.path) (some e) } := by
  rw [add, hwild, hm]
  rfl

theorem add_of_path {compiled : CompiledRoutePatterns} (hwild : isWildcard e.path = false)
    (hm : e.method = none) :
    compiled.add e = { compiled with
      exact := Function.update compiled.exact e.path (some e) } := by
  rw [add, hwild, hm]
  rfl

/-- The last entry of a table that is found, when one more is visited. -/
theorem lastFound_concat (tier : ℕ) (routes : List RouteEntry) (e : RouteEntry) :
    lastFound X method normalized tier (routes ++ [e])
      = if e.tier = tier ∧ e.foundFor X method normalized = true then some e
        else lastFound X method normalized tier routes := by
  rw [lastFound, List.reverse_concat, List.find?_cons, ← lastFound]
  by_cases htier : e.tier = tier <;> cases hfound : e.foundFor X method normalized <;>
    simp [htier]

/-- The tables hold the last entry that is found in each. -/
theorem foldl_add (X : RegexExterns) (method normalized : String) (routes : List RouteEntry) :
    (routes.foldl add empty).methodExact (methodKey method normalized)
        = lastFound X method normalized 2 routes ∧
      (routes.foldl add empty).exact normalized = lastFound X method normalized 1 routes ∧
      (routes.foldl add empty).patterns
        = (routes.filter fun e => decide (e.tier = 0)).map ofEntry := by
  induction routes using List.reverseRecOn with
  | nil => exact ⟨rfl, rfl, rfl⟩
  | append_singleton routes e ih =>
    obtain ⟨ihmethod, ihexact, ihpatterns⟩ := ih
    rw [List.foldl_concat, lastFound_concat, lastFound_concat, List.filter_append,
      List.map_append]
    cases hwild : isWildcard e.path with
    | true =>
      have htier := tier_eq_zero_iff.mpr hwild
      rw [add_of_wildcard hwild]
      simp [htier, ihmethod, ihexact, ihpatterns]
    | false =>
      cases hm : e.method with
      | some m =>
        have htier := tier_eq_two_iff.mpr ⟨hwild, m, hm⟩
        rw [add_of_method hwild hm, foundFor_of_method hwild hm]
        refine ⟨?_, by simp [htier, ihexact], by simp [htier, ihpatterns]⟩
        by_cases hkey : methodKey m e.path = methodKey method normalized
        · simp [htier, hkey]
        · simp [htier, hkey, Function.update_of_ne (Ne.symm hkey), ihmethod]
      | none =>
        have htier := tier_eq_one_iff.mpr ⟨hwild, hm⟩
        rw [add_of_path hwild hm, foundFor_of_path hwild hm]
        refine ⟨by simp [htier, ihmethod], ?_, by simp [htier, ihpatterns]⟩
        by_cases hkey : e.path = normalized
        · simp [htier, hkey]
        · simp [htier, hkey, Function.update_of_ne (Ne.symm hkey), ihexact]

theorem matchPattern_compile (routes : List RouteEntry) :
    (matchPattern X (compile routes) method normalized).map CompiledPattern.entry
      = firstPattern X method normalized routes := by
  have hsort : (compile routes).patterns
      = ((routes.filter fun e => decide (e.tier = 0)).insertionSort
          fun e e' => e'.rank ≤ e.rank).map ofEntry := by
    rw [compile, (foldl_add X method normalized routes).2.2]
    refine (List.map_insertionSort _ _ _ _ fun e he e' he' => ?_).symm
    rw [List.mem_filter, decide_eq_true_iff] at he he'
    rw [rank_le_iff, he.2, he'.2]
    simp [ofEntry]
  rw [matchPattern, hsort, List.find?_map, Option.map_map, firstPattern]
  have hentry : CompiledPattern.entry ∘ ofEntry = id := rfl
  rw [hentry, Option.map_id, id_eq]
  refine List.find?_congr fun e he => ?_
  rw [List.mem_insertionSort, List.mem_filter, decide_eq_true_iff, tier_eq_zero_iff] at he
  simp only [Function.comp_apply, ofEntry, foundFor_of_wildcard he.2]

/-- **The three lookups of a request.** -/
theorem matchEntry_compile_eq (routes : List RouteEntry) :
    matchEntry X (compile routes) method path
      = ((lastFound X method (normalizePath X path) 2 routes).or
          (lastFound X method (normalizePath X path) 1 routes)).or
        (firstPattern X method (normalizePath X path) routes) := by
  have hmethod : (compile routes).methodExact (methodKey method (normalizePath X path))
      = lastFound X method (normalizePath X path) 2 routes :=
    (foldl_add X method (normalizePath X path) routes).1
  have hexact : (compile routes).exact (normalizePath X path)
      = lastFound X method (normalizePath X path) 1 routes :=
    (foldl_add X method (normalizePath X path) routes).2.1
  rw [matchEntry]
  simp only [hmethod, hexact, matchPattern_compile]
  cases lastFound X method (normalizePath X path) 2 routes with
  | some e => rfl
  | none =>
    cases lastFound X method (normalizePath X path) 1 routes with
    | some e => rfl
    | none => rfl

theorem lastFound_eq_some {tier : ℕ} (h : lastFound X method normalized tier routes = some e) :
    e ∈ routes ∧ e.tier = tier ∧ e.foundFor X method normalized = true := by
  have hfound := List.find?_some h
  rw [Bool.and_eq_true, decide_eq_true_iff] at hfound
  exact ⟨List.mem_reverse.mp (List.mem_of_find?_eq_some h), hfound⟩

theorem lastFound_eq_none_iff {tier : ℕ} :
    lastFound X method normalized tier routes = none
      ↔ ∀ e ∈ routes, e.foundFor X method normalized = true → e.tier ≠ tier := by
  rw [lastFound, List.find?_eq_none]
  simp only [List.mem_reverse, Bool.and_eq_true, decide_eq_true_iff, not_and]
  exact forall₂_congr fun e _ => imp_not_comm

theorem firstPattern_eq_some (h : firstPattern X method normalized routes = some e) :
    IsBest rank (foundFor X method normalized) (routes.filter fun e => decide (e.tier = 0)) e :=
  isBest_of_find? h

theorem firstPattern_eq_none_iff :
    firstPattern X method normalized routes = none
      ↔ ∀ e ∈ routes, e.foundFor X method normalized = true → e.tier ≠ 0 := by
  rw [firstPattern, List.find?_eq_none]
  simp only [List.mem_insertionSort, List.mem_filter, decide_eq_true_iff, and_imp]
  exact forall₂_congr fun e _ => imp_not_comm

/-- The first of the expressions with the highest score is found. -/
theorem firstPattern_cons (htier : e.tier = 0) (hfound : e.foundFor X method normalized = true)
    (h : ∀ e' ∈ routes, e'.foundFor X method normalized = true → e'.rank ≤ e.rank) :
    firstPattern X method normalized (e :: routes) = some e := by
  have hfilter : (e :: routes).filter (fun e => decide (e.tier = 0))
      = e :: routes.filter fun e => decide (e.tier = 0) :=
    List.filter_cons_of_pos (by exact decide_eq_true htier)
  rw [firstPattern, hfilter]
  exact find?_insertionSort_cons hfound fun e' he' => h e' (List.mem_filter.mp he').1

theorem isBest_of_matchEntry (h : matchEntry X (compile routes) method path = some e) :
    IsBest rank (foundFor X method (normalizePath X path)) routes e := by
  rw [matchEntry_compile_eq, Option.or_eq_some_iff, Option.or_eq_some_iff] at h
  have hbelow : ∀ {e' : RouteEntry} {tier : ℕ}, e'.tier ≤ tier → e.tier = tier → tier ≠ 0 →
      e'.rank ≤ e.rank := by
    intro e' tier hle htier hne
    rw [rank_le_iff, htier]
    rcases hle.lt_or_eq with hlt | heq
    · exact .inl hlt
    · exact .inr ⟨heq, fun hzero => absurd hzero hne⟩
  rcases h with (hmethod | ⟨hmethod, hexact⟩) | ⟨hnone, hpattern⟩
  · obtain ⟨hmem, htier, hfound⟩ := lastFound_eq_some hmethod
    exact ⟨hmem, hfound, fun e' _ _ => hbelow (tier_le_two e') htier (by decide)⟩
  · obtain ⟨hmem, htier, hfound⟩ := lastFound_eq_some hexact
    refine ⟨hmem, hfound, fun e' hmem' hfound' => hbelow ?_ htier (by decide)⟩
    have hne := lastFound_eq_none_iff.mp hmethod e' hmem' hfound'
    have hle := tier_le_two e'
    omega
  · rw [Option.or_eq_none_iff] at hnone
    have hbest := firstPattern_eq_some hpattern
    refine ⟨(List.mem_filter.mp hbest.mem).1, hbest.isFound, fun e' hmem' hfound' => ?_⟩
    have hne2 := lastFound_eq_none_iff.mp hnone.1 e' hmem' hfound'
    have hne1 := lastFound_eq_none_iff.mp hnone.2 e' hmem' hfound'
    have hle := tier_le_two e'
    have hzero : e'.tier = 0 := by omega
    exact hbest.le e' (List.mem_filter.mpr ⟨hmem', decide_eq_true hzero⟩) hfound'

theorem foundFor_eq_false_of_matchEntry_eq_none
    (h : matchEntry X (compile routes) method path = none) (he : e ∈ routes) :
    e.foundFor X method (normalizePath X path) = false := by
  rw [matchEntry_compile_eq, Option.or_eq_none_iff, Option.or_eq_none_iff] at h
  rw [Bool.eq_false_iff]
  intro hfound
  have hne2 := lastFound_eq_none_iff.mp h.1.1 e he hfound
  have hne1 := lastFound_eq_none_iff.mp h.1.2 e he hfound
  have hne0 := firstPattern_eq_none_iff.mp h.2 e he hfound
  have hle := tier_le_two e
  omega

/-- Each of the best entries is found in some order: a last one in its table, a first
expression. -/
theorem exists_perm_matchEntry
    (h : IsBest rank (foundFor X method (normalizePath X path)) routes e) :
    ∃ routes', routes'.Perm routes ∧ matchEntry X (compile routes') method path = some e := by
  have hfront : (e :: routes.erase e).Perm routes := (List.perm_cons_erase h.mem).symm
  have hbehind : (routes.erase e ++ [e]).Perm routes :=
    (List.perm_append_singleton e (routes.erase e)).trans hfront
  have hnone : ∀ {routes' : List RouteEntry} {tier : ℕ}, routes'.Perm routes → e.tier < tier →
      lastFound X method (normalizePath X path) tier routes' = none := by
    intro routes' tier hperm hlt
    refine lastFound_eq_none_iff.mpr fun e' hmem' hfound' htier => ?_
    have hle := tier_le_of_rank_le (h.le e' (hperm.mem_iff.mp hmem') hfound')
    omega
  have hlast : lastFound X method (normalizePath X path) e.tier (routes.erase e ++ [e])
      = some e := by
    rw [lastFound_concat, if_pos ⟨rfl, h.isFound⟩]
  have hle := tier_le_two e
  obtain htier | htier | htier : e.tier = 2 ∨ e.tier = 1 ∨ e.tier = 0 := by omega
  · refine ⟨_, hbehind, ?_⟩
    rw [matchEntry_compile_eq, ← htier, hlast]
    rfl
  · refine ⟨_, hbehind, ?_⟩
    rw [matchEntry_compile_eq, hnone hbehind (by omega), ← htier, hlast]
    rfl
  · refine ⟨_, hfront, ?_⟩
    rw [matchEntry_compile_eq, hnone hfront (by omega), hnone hfront (by omega),
      firstPattern_cons htier h.isFound fun e' he' => h.le e' (List.mem_of_mem_erase he')]
    rfl

/-- **A request is matched to the best entry**, any of them in some order. -/
theorem chooses_matchEntry (X : RegexExterns) (method path : String) :
    Chooses rank (foundFor X method (normalizePath X path))
      fun routes => matchEntry X (compile routes) method path where
  isBest := isBest_of_matchEntry
  not_found := fun h _ he => foundFor_eq_false_of_matchEntry_eq_none h he
  exists_perm := exists_perm_matchEntry

end CompiledRoutePatterns

open CompiledRoutePatterns

/-- **The entries that a request may be matched to.** -/
def BestRoute (X : RegexExterns) (routes : List RouteEntry) (method path : String) :
    RouteEntry → Prop :=
  IsBest RouteEntry.rank (RouteEntry.foundFor X method (normalizePath X path)) routes

/-- **When the configuration of a request does not depend on the order** in which the table is
visited: the best entries have the same. -/
theorem matchRoute_perm_iff (X : RegexExterns) (routes : List RouteEntry) (method path : String) :
    (∀ σ τ : List RouteEntry, σ.Perm routes → τ.Perm routes →
        matchRoute X (compile σ) method path = matchRoute X (compile τ) method path)
      ↔ ∀ e e', BestRoute X routes method path e → BestRoute X routes method path e' →
          e.config = e'.config :=
  (chooses_matchEntry X method path).forall_perm_iff RouteEntry.config routes

/-- `/*/ab` and `/ab/*`, with different limits. -/
def sampleOverlap : List RouteEntry := [⟨"/*/ab", ⟨10, 1, false⟩⟩, ⟨"/ab/*", ⟨1000, 1, false⟩⟩]

/-- The limit of `/ab/ab` depends on which of two overlapping patterns is visited first. -/
theorem not_forall_matchRoute_perm :
    ¬ ∀ (routes σ τ : List RouteEntry) (method path : String),
      (routes.map RouteEntry.pattern).Nodup → σ.Perm routes → τ.Perm routes →
        matchRoute sampleRegex.toRegexExterns (compile σ) method path
          = matchRoute sampleRegex.toRegexExterns (compile τ) method path := by
  intro h
  have hsame := h sampleOverlap sampleOverlap sampleOverlap.reverse "GET" "/ab/ab" (by decide)
    (List.Perm.refl _) (List.reverse_perm _)
  revert hsame
  decide

end ActonService
