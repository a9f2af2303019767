import ActonService.Lib.Segments
import Mathlib.Data.List.DropRight

/-!
# API versions in paths

`versioning.rs`: the builder puts the version behind the base path and in front of the routes, and
`extract_version_from_path` looks for it in a path.  A text is the list of its characters.

## Main definitions

* `ApiVersion`, `ApiVersion.parse`, `extractVersionFromPath` — versions, and how they are found.
* `VersionedApiBuilder.buildRoutes` — the paths that are served.
* `PathAgrees` — a path holds a version once, and that version is found in it.

## Main results

* `parse_eq_some_iff` — what is taken for a version.
* `named_servedPath` — the segments of a served path.
* `VersionedApiBuilder.built_iff` — the builders a service makes.
* `buildRoutes_agree_iff` — **when every served path holds its version once, and it is found.**
-/

namespace ActonService

open Segments

/-! ### Versions -/

/-- `ApiVersion` -/
inductive ApiVersion
  | v1
  | v2
  | v3
  | v4
  | v5
  deriving DecidableEq, Repr

/-- The digit of a version. -/
def ApiVersion.digit : ApiVersion → Char
  | .v1 => '1'
  | .v2 => '2'
  | .v3 => '3'
  | .v4 => '4'
  | .v5 => '5'

/-- `as_path_segment` -/
def ApiVersion.asPathSegment (v : ApiVersion) : List Char := ['v', v.digit]

/-- A part of a lowercase text, by the character it is made from.  No character but `v` and `V` is
made into a `v`, and none but the digit into a digit. -/
def LowersTo (c : Char) (part : List Char) : Prop :=
  if c.toNat < 128 then part = [c.toLower]
  else part ≠ [] ∧ ∀ d ∈ part, d ≠ 'v' ∧ d.isDigit = false

/-- What the functions take from elsewhere: `str::to_lowercase`, and the path a nested router serves
a route under. -/
structure VersionExterns where
  toLowercase : List Char → List Char
  toLowercase_parts : ∀ s, ∃ parts, List.Forall₂ LowersTo s parts ∧ toLowercase s = parts.flatten
  nest : (start route : List Char) → List Char
  nest_root : ∀ start, nest start ['/'] = start
  nest_route : ∀ start route, route.head? = some '/' → route ≠ ['/'] → start.getLast? ≠ some '/' →
    nest start route = start ++ route

variable (X : VersionExterns)

/-- `parse` -/
def ApiVersion.parse (s : List Char) : Option ApiVersion :=
  match (X.toLowercase s).dropWhile (· = 'v') with
  | ['1'] => some .v1
  | ['2'] => some .v2
  | ['3'] => some .v3
  | ['4'] => some .v4
  | ['5'] => some .v5
  | _ => none

/-- A segment that starts with a `v`. -/
def versionLike (segment : List Char) : Bool :=
  segment.head? = some 'v' || segment.head? = some 'V'

/-- `extract_version_from_path` -/
def extractVersionFromPath (path : List Char) : Option ApiVersion :=
  ((path.splitOn '/').find? versionLike).bind (ApiVersion.parse X)

/-! ### The builder -/

/-- The path of a route, which starts with a `/`. -/
structure RoutePath where
  text : List Char
  starts : text.head? = some '/'

/-- `VersionedApiBuilder` -/
structure VersionedApiBuilder where
  versions : List (ApiVersion × List RoutePath)
  basePath : Option (List Char)

/-- `new` -/
def VersionedApiBuilder.new : VersionedApiBuilder := ⟨[], none⟩

/-- The base path as it is kept. -/
def normalizeBasePath (path : List Char) : List Char :=
  if path.head? ≠ some '/' then '/' :: path.rdropWhile (· = '/') else path.rdropWhile (· = '/')

/-- `with_base_path` -/
def VersionedApiBuilder.withBasePath (b : VersionedApiBuilder) (path : List Char) :
    VersionedApiBuilder :=
  { b with basePath := some (normalizeBasePath path) }

/-- `add_version`, and `add_version_deprecated` but for the headers -/
def VersionedApiBuilder.addVersion (b : VersionedApiBuilder) (version : ApiVersion)
    (routes : List RoutePath) : VersionedApiBuilder :=
  { b with versions := b.versions ++ [(version, routes)] }

/-- `full_path` of a version -/
def fullPath (basePath : Option (List Char)) (version : ApiVersion) : List Char :=
  match basePath with
  | some base => base ++ '/' :: version.asPathSegment
  | none => '/' :: version.asPathSegment

/-- The path a route is served under. -/
def servedPath (basePath : Option (List Char)) (version : ApiVersion) (route : RoutePath) :
    List Char :=
  X.nest (fullPath basePath version) route.text

/-- `build_routes`: the versions and the paths of their routes. -/
def VersionedApiBuilder.buildRoutes (b : VersionedApiBuilder) : List (ApiVersion × List Char) :=
  b.versions.flatMap fun v => v.2.map fun route => (v.1, servedPath X b.basePath v.1 route)

/-- The path holds the version once, and it is the version that is found in it. -/
def PathAgrees (version : ApiVersion) (path : List Char) : Prop :=
  (path.splitOn '/').count version.asPathSegment = 1 ∧ extractVersionFromPath X path = some version

/-- The segments of a base path. -/
def baseSegments (base : Option (List Char)) : List (List Char) :=
  match base with
  | some path => path.splitOn '/'
  | none => []

/-! ### What is taken for a version -/

theorem toLower_of_ascii {c : Char} (h : c.toNat < 128) :
    (c.toLower = 'v' ↔ c = 'v' ∨ c = 'V') ∧
      ∀ v : ApiVersion, c.toLower = v.digit ↔ c = v.digit := by
  have hall : ∀ n : Fin 128, ((Char.ofNat n).toLower = 'v'
      ↔ Char.ofNat n = 'v' ∨ Char.ofNat n = 'V') ∧
      ((Char.ofNat n).toLower = '1' ↔ Char.ofNat n = '1') ∧
      ((Char.ofNat n).toLower = '2' ↔ Char.ofNat n = '2') ∧
      ((Char.ofNat n).toLower = '3' ↔ Char.ofNat n = '3') ∧
      ((Char.ofNat n).toLower = '4' ↔ Char.ofNat n = '4') ∧
      ((Char.ofNat n).toLower = '5' ↔ Char.ofNat n = '5') := by
    decide
  obtain ⟨hv, h1, h2, h3, h4, h5⟩ := hall ⟨c.toNat, h⟩
  simp only [Char.ofNat_toNat] at hv h1 h2 h3 h4 h5
  refine ⟨hv, fun v => ?_⟩
  cases v with
  | v1 => exact h1
  | v2 => exact h2
  | v3 => exact h3
  | v4 => exact h4
  | v5 => exact h5

theorem digit_facts (v : ApiVersion) :
    v.digit ≠ 'v' ∧ v.digit ≠ 'V' ∧ v.digit.isDigit = true ∧ v.digit.toNat < 128 := by
  cases v <;> decide

/-- A text is a version's if it starts with a `v` and the rest is, or is the digit. -/
theorem exists_versionText_cons_iff (v : ApiVersion) (c : Char) (s : List Char) :
    (∃ vs, (∀ c ∈ vs, c = 'v' ∨ c = 'V') ∧ c :: s = vs ++ [v.digit]) ↔
      if c = 'v' ∨ c = 'V' then ∃ vs, (∀ c ∈ vs, c = 'v' ∨ c = 'V') ∧ s = vs ++ [v.digit]
      else c = v.digit ∧ s = [] := by
  obtain ⟨hdv, hdV, -, -⟩ := digit_facts v
  split
  · next hv =>
    constructor
    · rintro ⟨vs, hvs, hs⟩
      cases vs with
      | nil =>
        obtain rfl : c = v.digit := (List.cons.inj hs).1
        exact absurd hv (not_or.mpr ⟨hdv, hdV⟩)
      | cons d vs =>
        exact ⟨vs, fun e he => hvs e (List.mem_cons_of_mem d he), (List.cons.inj hs).2⟩
    · rintro ⟨vs, hvs, rfl⟩
      exact ⟨c :: vs, List.forall_mem_cons.mpr ⟨hv, hvs⟩, rfl⟩
  · next hv =>
    constructor
    · rintro ⟨vs, hvs, hs⟩
      cases vs with
      | nil => exact List.cons.inj hs
      | cons d vs =>
        obtain rfl : c = d := (List.cons.inj hs).1
        exact absurd (hvs c List.mem_cons_self) hv
    · rintro ⟨rfl, rfl⟩
      exact ⟨[], fun _ hd => absurd hd List.not_mem_nil, rfl⟩

/-- Only no characters are made from none. -/
theorem flatten_eq_nil_iff_of_lowersTo {s : List Char} {parts : List (List Char)}
    (h : List.Forall₂ LowersTo s parts) : parts.flatten = [] ↔ s = [] := by
  cases h with
  | nil => exact iff_of_true rfl rfl
  | @cons c part s parts hc _ =>
    refine iff_of_false (fun hnil => ?_) (List.cons_ne_nil c s)
    rw [List.flatten_cons, List.append_eq_nil_iff] at hnil
    rw [LowersTo, hnil.1] at hc
    split at hc
    · cases hc
    · exact hc.1 rfl

/-- A part that stands for a single digit is made from the digit. -/
theorem dropWhile_flatten_eq_iff {s : List Char} {parts : List (List Char)} (v : ApiVersion)
    (h : List.Forall₂ LowersTo s parts) :
    parts.flatten.dropWhile (· = 'v') = [v.digit]
      ↔ ∃ vs, (∀ c ∈ vs, c = 'v' ∨ c = 'V') ∧ s = vs ++ [v.digit] := by
  obtain ⟨-, -, hdigit, hascii⟩ := digit_facts v
  induction h with
  | nil => simp
  | @cons c part s parts hc hrest ih =>
    rw [exists_versionText_cons_iff]
    rw [LowersTo] at hc
    split at hc
    · next hsmall =>
      obtain ⟨hlower, hlowerDigit⟩ := toLower_of_ascii hsmall
      subst hc
      rw [List.flatten_cons, List.singleton_append]
      by_cases hv : c.toLower = 'v'
      · -- a `v` in front is dropped
        rw [List.dropWhile_cons_of_pos (by simpa using hv), ih, if_pos (hlower.mp hv)]
      · rw [List.dropWhile_cons_of_neg (by simpa using hv), if_neg (hv ∘ hlower.mpr),
          List.cons.injEq, hlowerDigit v, flatten_eq_nil_iff_of_lowersTo hrest]
    · next hlarge =>
      have hv : ¬ (c = 'v' ∨ c = 'V') := by
        rintro (rfl | rfl)
        · exact hlarge (by decide)
        · exact hlarge (by decide)
      rw [if_neg hv]
      refine iff_of_false (fun hs => ?_) ?_
      · -- the part begins with a character that is no `v` and no digit
        cases part with
        | nil => exact hc.1 rfl
        | cons d part =>
          obtain ⟨hdne, hdd⟩ := hc.2 d List.mem_cons_self
          rw [List.flatten_cons, List.cons_append,
            List.dropWhile_cons_of_neg (by simpa using hdne)] at hs
          rw [(List.cons.inj hs).1, hdigit] at hdd
          cases hdd
      · rintro ⟨rfl, -⟩
        exact hlarge hascii

theorem parse_eq_some_iff_dropWhile (s : List Char) (v : ApiVersion) :
    ApiVersion.parse X s = some v ↔ (X.toLowercase s).dropWhile (· = 'v') = [v.digit] := by
  rw [ApiVersion.parse]
  generalize (X.toLowercase s).dropWhile (· = 'v') = normalized
  split <;> cases v <;> simp_all [ApiVersion.digit]

/-- **What is taken for a version**: its digit behind any number of `v`. -/
theorem parse_eq_some_iff (s : List Char) (v : ApiVersion) :
    ApiVersion.parse X s = some v ↔ ∃ vs, (∀ c ∈ vs, c = 'v' ∨ c = 'V') ∧ s = vs ++ [v.digit] := by
  obtain ⟨parts, hparts, hlower⟩ := X.toLowercase_parts s
  rw [parse_eq_some_iff_dropWhile, hlower, dropWhile_flatten_eq_iff v hparts]

theorem parse_asPathSegment (v : ApiVersion) : ApiVersion.parse X v.asPathSegment = some v :=
  (parse_eq_some_iff X _ v).mpr ⟨['v'], by simp, rfl⟩

/-! ### The paths that are served -/

/-- The segments with a character in them. -/
def named (segments : List (List Char)) : List (List Char) := segments.filter (· ≠ [])

@[simp] theorem named_append (a b : List (List Char)) : named (a ++ b) = named a ++ named b :=
  List.filter_append a b

theorem splitOn_cons_slash (path : List Char) :
    ('/' :: path).splitOn '/' = [] :: path.splitOn '/' :=
  List.splitOn_append_cons_self [] path

theorem named_cons_slash (path : List Char) :
    named (('/' :: path).splitOn '/') = named (path.splitOn '/') := by
  rw [splitOn_cons_slash]
  rfl

theorem named_rdropWhile (path : List Char) :
    named ((path.rdropWhile (· = '/')).splitOn '/') = named (path.splitOn '/') := by
  induction path using List.reverseRecOn with
  | nil => rfl
  | append_singleton path c ih =>
    by_cases hc : c = '/'
    · subst hc
      rw [List.rdropWhile_concat_pos _ _ _ (by decide), ih, List.splitOn_append_cons_self,
        named_append]
      simp [named]
    · rw [List.rdropWhile_concat_neg _ _ _ (by simpa using hc)]

/-- A base path is kept with its segments, up to slashes at its ends. -/
theorem named_normalizeBasePath (path : List Char) :
    named ((normalizeBasePath path).splitOn '/') = named (path.splitOn '/') := by
  rw [normalizeBasePath]
  split
  · rw [named_cons_slash, named_rdropWhile]
  · exact named_rdropWhile path

theorem splitOn_asPathSegment (v : ApiVersion) :
    v.asPathSegment.splitOn '/' = [v.asPathSegment] := by
  cases v <;> decide

theorem named_fullPath (base : Option (List Char)) (v : ApiVersion) :
    named ((fullPath (base.map normalizeBasePath) v).splitOn '/')
      = named (baseSegments base) ++ [v.asPathSegment] := by
  have hversion : named (v.asPathSegment.splitOn '/') = [v.asPathSegment] := by
    rw [splitOn_asPathSegment]
    rfl
  cases base with
  | none =>
    rw [Option.map_none, fullPath, named_cons_slash, hversion]
    rfl
  | some path =>
    rw [Option.map_some, fullPath, List.splitOn_append_cons_self, named_append,
      named_normalizeBasePath, hversion, baseSegments]

theorem getLast?_fullPath (basePath : Option (List Char)) (v : ApiVersion) :
    (fullPath basePath v).getLast? = some v.digit := by
  cases basePath with
  | none => rfl
  | some base =>
    rw [fullPath, ApiVersion.asPathSegment, List.getLast?_append]
    rfl

/-- **The segments of a served path**: those of the base path, the version, those of the route. -/
theorem named_servedPath (base : Option (List Char)) (v : ApiVersion) (route : RoutePath) :
    named ((servedPath X (base.map normalizeBasePath) v route).splitOn '/')
      = named (baseSegments base) ++ v.asPathSegment :: named (route.text.splitOn '/') := by
  obtain ⟨text, hstarts⟩ := route
  obtain ⟨rest, rfl⟩ : ∃ rest, text = '/' :: rest := by
    cases text with
    | nil => cases hstarts
    | cons c rest => exact ⟨rest, by rw [Option.some.inj hstarts]⟩
  rw [servedPath, named_cons_slash]
  cases rest with
  | nil =>
    rw [X.nest_root, named_fullPath]
    rfl
  | cons c rest =>
    rw [X.nest_route _ _ rfl (by simp), List.splitOn_append_cons_self, named_append, named_fullPath,
      List.append_assoc, List.singleton_append]
    rw [getLast?_fullPath]
    cases v <;> decide

/-! ### Agreement -/

theorem find?_named (segments : List (List Char)) :
    (named segments).find? versionLike = segments.find? versionLike := by
  rw [named, List.find?_filter]
  congr 1
  funext segment
  cases segment <;> simp [versionLike]

theorem count_named (segments : List (List Char)) (v : ApiVersion) :
    (named segments).count v.asPathSegment = segments.count v.asPathSegment := by
  rw [named, List.count_filter]
  simp [ApiVersion.asPathSegment]

/-- A base path and a route leave a version to be found: the base path has no segment that starts
with a `v`, or the first of them reads as the version, and neither of the two has the version as a
segment. -/
def LeavesVersion (base : Option (List Char)) (v : ApiVersion) (route : RoutePath) : Prop :=
  (∀ segment, (baseSegments base).find? versionLike = some segment →
    ApiVersion.parse X segment = some v) ∧
  v.asPathSegment ∉ baseSegments base ∧ v.asPathSegment ∉ route.text.splitOn '/'

/-- When one served path holds its version once, and it is found. -/
theorem pathAgrees_servedPath_iff (base : Option (List Char)) (v : ApiVersion) (route : RoutePath) :
    PathAgrees X v (servedPath X (base.map normalizeBasePath) v route)
      ↔ LeavesVersion X base v route := by
  have hfind : ((servedPath X (base.map normalizeBasePath) v route).splitOn '/').find? versionLike
      = some (((baseSegments base).find? versionLike).getD v.asPathSegment) := by
    rw [← find?_named, named_servedPath, List.find?_append, find?_named]
    cases (baseSegments base).find? versionLike with
    | none => rfl
    | some segment => rfl
  have hcount : ((servedPath X (base.map normalizeBasePath) v route).splitOn '/').count
      v.asPathSegment = (baseSegments base).count v.asPathSegment
        + ((route.text.splitOn '/').count v.asPathSegment + 1) := by
    rw [← count_named, named_servedPath, List.count_append, List.count_cons_self, count_named,
      count_named]
  rw [PathAgrees, hcount, extractVersionFromPath, hfind, Option.bind_some, LeavesVersion,
    ← List.count_eq_zero, ← List.count_eq_zero]
  have hparse : ApiVersion.parse X (((baseSegments base).find? versionLike).getD v.asPathSegment)
      = some v ↔ ∀ segment, (baseSegments base).find? versionLike = some segment →
        ApiVersion.parse X segment = some v := by
    cases (baseSegments base).find? versionLike with
    | none => simp [parse_asPathSegment]
    | some segment => simp
  rw [hparse]
  constructor
  · rintro ⟨hone, hfound⟩
    exact ⟨hfound, by omega, by omega⟩
  · rintro ⟨hfound, hbase, hroute⟩
    exact ⟨by omega, hfound⟩

theorem mem_buildRoutes_iff (b : VersionedApiBuilder) (r : ApiVersion × List Char) :
    r ∈ b.buildRoutes X ↔ ∃ routes, (r.1, routes) ∈ b.versions ∧
      ∃ route ∈ routes, r.2 = servedPath X b.basePath r.1 route := by
  simp only [VersionedApiBuilder.buildRoutes, List.mem_flatMap, List.mem_map]
  constructor
  · rintro ⟨⟨v, routes⟩, hv, route, hroute, rfl⟩
    exact ⟨routes, hv, route, hroute, rfl⟩
  · rintro ⟨routes, hv, route, hroute, hr⟩
    exact ⟨(r.1, routes), hv, route, hroute, by rw [← hr]⟩

/-- The builders a service can make: the new one, with whatever base path and versions are added to
it. -/
inductive VersionedApiBuilder.Built : VersionedApiBuilder → Prop
  | new : Built .new
  | withBasePath {b : VersionedApiBuilder} (h : Built b) (path : List Char) :
      Built (b.withBasePath path)
  | addVersion {b : VersionedApiBuilder} (h : Built b) (version : ApiVersion)
      (routes : List RoutePath) : Built (b.addVersion version routes)

/-- A service makes the builders whose base path is normalized, or that have none, with any
versions. -/
theorem VersionedApiBuilder.built_iff (b : VersionedApiBuilder) :
    b.Built ↔ ∃ base : Option (List Char), b.basePath = base.map normalizeBasePath := by
  constructor
  · intro h
    induction h with
    | new => exact ⟨none, rfl⟩
    | withBasePath h path ih => exact ⟨some path, rfl⟩
    | addVersion h version routes ih => exact ih
  · obtain ⟨versions, basePath⟩ := b
    rintro ⟨base, rfl⟩
    -- the versions are added one after another, behind the base path
    induction versions using List.reverseRecOn with
    | nil =>
      cases base with
      | none => exact .new
      | some path => exact .withBasePath .new path
    | append_singleton versions v ih => exact ih.addVersion v.1 v.2

/-- **When every path that is served holds its version once, and it is found**, of a builder with a
base path or without. -/
theorem buildRoutes_agree_iff (base : Option (List Char))
    (versions : List (ApiVersion × List RoutePath)) :
    (∀ r ∈ (VersionedApiBuilder.mk versions (base.map normalizeBasePath)).buildRoutes X,
        PathAgrees X r.1 r.2)
      ↔ ∀ v routes, (v, routes) ∈ versions → ∀ route ∈ routes, LeavesVersion X base v route := by
  constructor
  · intro h v routes hv route hroute
    rw [← pathAgrees_servedPath_iff]
    exact h (v, _) ((mem_buildRoutes_iff X _ _).mpr ⟨routes, hv, route, hroute, rfl⟩)
  · intro h r hr
    obtain ⟨routes, hv, route, hroute, hpath⟩ := (mem_buildRoutes_iff X _ _).mp hr
    rw [hpath, pathAgrees_servedPath_iff]
    exact h r.1 routes hv route hroute

theorem lowersTo_toLower (c : Char) : LowersTo c [c.toLower] := by
  rw [LowersTo]
  split
  · rfl
  · next hlarge =>
    have hval : 128 ≤ c.val.toNat := Nat.not_lt.mp hlarge
    have hsame : c.toLower = c := by
      refine dif_neg ?_
      rintro ⟨-, hle⟩
      have : c.val.toNat ≤ 90 := hle
      omega
    refine ⟨List.cons_ne_nil _ _, fun d hd => ?_⟩
    rw [List.mem_singleton.mp hd, hsame]
    constructor
    · rintro rfl
      exact absurd hval (by decide)
    · rw [Char.isDigit, Bool.and_eq_false_iff]
      right
      rw [decide_eq_false_iff_not]
      intro hle
      have : c.val.toNat ≤ 57 := hle
      omega

theorem toLowercase_ascii_parts (s : List Char) :
    ∃ parts, List.Forall₂ LowersTo s parts ∧ s.map Char.toLower = parts.flatten := by
  induction s with
  | nil => exact ⟨[], .nil, rfl⟩
  | cons c s ih =>
    obtain ⟨parts, hparts, hlower⟩ := ih
    exact ⟨[c.toLower] :: parts, .cons (lowersTo_toLower c) hparts, by simp [hlower]⟩

/-- Lower case for ASCII, and routes put behind the path they are nested at. -/
def sampleVersionExterns : VersionExterns where
  toLowercase s := s.map Char.toLower
  toLowercase_parts := toLowercase_ascii_parts
  nest start route := if route = ['/'] then start else start ++ route
  nest_root _ := if_pos rfl
  nest_route _ _ _ h _ := if_neg h

/-- A base path with a segment that starts with a `v` and is no version. -/
theorem not_forall_buildRoutes_agree :
    ¬ ∀ (X : VersionExterns) (base : Option (List Char))
      (versions : List (ApiVersion × List RoutePath)),
      ∀ r ∈ (VersionedApiBuilder.mk versions (base.map normalizeBasePath)).buildRoutes X,
        PathAgrees X r.1 r.2 := by
  intro h
  have hagrees := h sampleVersionExterns (some "/vendor".toList)
    [(.v1, [⟨"/users".toList, rfl⟩])] (.v1, "/vendor/v1/users".toList) (by decide)
  have hnone : extractVersionFromPath sampleVersionExterns "/vendor/v1/users".toList = none := by
    decide
  have hsome := hagrees.2
  rw [hnone] at hsome
  cases hsome

end ActonService
