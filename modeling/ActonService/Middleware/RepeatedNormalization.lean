import ActonService.Middleware.RateLimitKeys
import ActonService.Middleware.RouteCompleteness

/-!
# Normalising a path twice

The rate limiters call `normalize_path` of `middleware/route_matcher.rs` before `match_route`, which
calls it again.

## Main definitions

* `NormalizedOnce` — the second call changes nothing, and none touches a slash.

## Main results

* `normalizePath_eq_self_iff` — **the paths that the normaliser leaves alone.**
* `normalizedOnce` — every path it has made is one.
-/

namespace ActonService

open Segments

section Twice

variable {decimal : Char → Bool} {X : RegexCrate}

/-- Empty segments stay, and no other becomes empty. -/
theorem normalSegment_eq_nil_iff {s : List Char} : normalSegment decimal s = [] ↔ s = [] := by
  constructor
  · intro h
    by_contra hne
    exact normalSegment_ne_nil hne h
  · rintro rfl
    exact normalSegment_eq_self_iff.mpr (kept_of_length_lt (by decide) (by decide))

/-- **A path is left alone** if its segments are kept. -/
theorem normalText_eq_self_iff {s : List Char} :
    normalText decimal s = s ↔ ∀ x ∈ s.splitOn '/', Kept x := by
  have hsplit : normalText decimal s = s
      ↔ (s.splitOn '/').map (normalSegment decimal) = (s.splitOn '/').map id := by
    rw [← splitOn_normalText, List.map_id]
    refine ⟨fun h => by rw [h], fun h => ?_⟩
    rw [← join_splitOn (c := '/') (normalText decimal s), h, join_splitOn]
  rw [hsplit, List.map_inj_left]
  exact forall₂_congr fun x _ => normalSegment_eq_self_iff

theorem kept_of_mem_splitOn_normalText {s x : List Char}
    (h : x ∈ (normalText decimal s).splitOn '/') : Kept x := by
  rw [splitOn_normalText] at h
  obtain ⟨y, -, rfl⟩ := List.mem_map.mp h
  exact kept_normalSegment decimal y

/-- **The paths that the normaliser leaves alone.** -/
theorem normalizePath_eq_self_iff (hX : X.Documented) (path : String) :
    normalizePath X.toRegexExterns path = path ↔ ∀ s ∈ path.toList.splitOn '/', Kept s := by
  rw [normalizePath_eq_normalText hX, ← normalText_eq_self_iff, ← String.toList_inj,
    String.toList_ofList]

end Twice

/-- **Once is enough**: the normalised path is left alone, by the normaliser and by the limiters
that look its entry up, and its segments are those of the path one by one. -/
structure NormalizedOnce (X : RegexExterns) (path : String) : Prop where
  again : normalizePath X (normalizePath X path) = normalizePath X path
  segments : ((normalizePath X path).toList.splitOn '/').length = (path.toList.splitOn '/').length
  slashes : (normalizePath X path).toList.count '/' = path.toList.count '/'
  empty : ∀ n : ℕ, ((normalizePath X path).toList.splitOn '/')[n]? = some [] ↔
    (path.toList.splitOn '/')[n]? = some []
  entry : ∀ (config : RateLimits) (method : String), config.entryFor X method path
    = (CompiledRoutePatterns.compile config.routes).matchEntry X method path

theorem normalizedOnce {X : RegexCrate} (hX : X.Documented) (path : String) :
    NormalizedOnce X.toRegexExterns path := by
  have htext := normalizePath_eq_normalText hX path
  have hsplit : (normalizePath X.toRegexExterns path).toList.splitOn '/'
      = (path.toList.splitOn '/').map (normalSegment X.decimal) := by
    rw [htext, String.toList_ofList, splitOn_normalText]
  have hagain : normalizePath X.toRegexExterns (normalizePath X.toRegexExterns path)
      = normalizePath X.toRegexExterns path := by
    refine (normalizePath_eq_self_iff hX _).mpr fun s hs => ?_
    rw [htext, String.toList_ofList] at hs
    exact kept_of_mem_splitOn_normalText hs
  have hlength : ((normalizePath X.toRegexExterns path).toList.splitOn '/').length
      = (path.toList.splitOn '/').length := by
    rw [hsplit, List.length_map]
  constructor
  case again => exact hagain
  case segments => exact hlength
  case slashes =>
    rw [length_splitOn, length_splitOn] at hlength
    exact Nat.succ_injective hlength
  case empty =>
    intro n
    rw [hsplit, List.getElem?_map, Option.map_eq_some_iff]
    simp only [normalSegment_eq_nil_iff, exists_eq_right]
  case entry =>
    intro config method
    rw [RateLimits.entryFor, CompiledRoutePatterns.matchEntry, hagain]
    rfl

/-- Slashes at both ends, an empty segment and one of digits. -/
theorem normalizedOnce_sample : NormalizedOnce sampleRegex.toRegexExterns "/users//42/" :=
  normalizedOnce sampleRegex_documented "/users//42/"

end ActonService
