import ActonService.Lib.Segments
import ActonService.Middleware.RoutePatterns

/-!
# The two normalisers of paths

`normalize_path_generic` of `middleware/cedar.rs` and `normalize_path` of
`middleware/route_matcher.rs`, segment by segment.  Both put `{id}` for a UUID anywhere in a
segment, the first only if it is in lower case.  For digits the first reads `/`, the digits and the
`/` behind them, which is lost: what follows is not a segment of its own any more.

## Main definitions

* `IsUuid`, `meantSegment`, `meantPath` — what becomes of a path.
* `normalizePathGeneric` — the normaliser of authorization.
* `SegmentsRead` — no segment goes wrong.

## Main results

* `normalizePath_eq` — the other normaliser, segment by segment.
* `normalizePathGeneric_iff` — **when the normalisers agree** with each other and with what is
  meant.
-/

namespace ActonService

open Regex Segments

/-! ### What is meant -/

def isLowerHex (c : Char) : Bool := decide ('0' ≤ c ∧ c ≤ '9') || decide ('a' ≤ c ∧ c ≤ 'f')

def isHex (c : Char) : Bool := isLowerHex c || decide ('A' ≤ c ∧ c ≤ 'F')

/-- The lengths of the groups of a UUID. -/
def uuidGroups : List ℕ := [8, 4, 4, 4, 12]

/-- A text is a UUID of some digits. -/
def IsUuid (hex : Char → Bool) (s : List Char) : Prop :=
  (s.splitOn '-').map List.length = uuidGroups ∧ ∀ g ∈ s.splitOn '-', g.all hex = true

instance (hex : Char → Bool) (s : List Char) : Decidable (IsUuid hex s) :=
  inferInstanceAs (Decidable (_ ∧ _))

/-- A segment of digits, one at least and nothing else. -/
def allDigits (digit : Char → Bool) (s : List Char) : Bool := !s.isEmpty && s.all digit

/-- **What is meant to become of a segment**: an identifier is replaced, be it digits or a UUID, and
anything else stays. -/
def meantSegment (s : List Char) : List Char :=
  if allDigits Char.isDigit s = true ∨ IsUuid isHex s then "{id}".toList else s

/-- **What is meant to become of a path**: the same of each of its segments. -/
def meantPath (path : String) : String :=
  String.ofList (join '/' ((path.toList.splitOn '/').map meantSegment))

/-! ### The normaliser of authorization -/

/-- The `uuid_pattern` of `normalize_path_generic`. -/
def cedarUuidPattern : String :=
  "[0-9a-f]{8}-[0-9a-f]{4}-[0-9a-f]{4}-[0-9a-f]{4}-[0-9a-f]{12}"

/-- The `numeric_pattern` of `normalize_path_generic`. -/
def cedarNumericPattern : String := "/(\\d+)(?:/|$)"

/-- `normalize_path_generic` -/
def normalizePathGeneric (X : RegexExterns) (path : String) : String :=
  let path := X.replaceAll cedarUuidPattern path "{id}"
  X.replaceAll cedarNumericPattern path "/{id}"

/-- **No segment goes wrong**: a UUID is a whole segment, in lower case; and a segment of digits is
the last one, not the first, and its digits are those of ASCII. -/
structure SegmentsRead (decimal : Char → Bool) (segs : List (List Char)) : Prop where
  uuid : ∀ s ∈ segs, ∀ u, u <:+: s → IsUuid isHex u → u = s ∧ IsUuid isLowerHex s
  first : ∀ s ∈ segs.head?, allDigits Char.isDigit s = false
  middle : ∀ s ∈ segs.tail.dropLast, allDigits decimal s = false
  last : ∀ s ∈ segs.tail.getLast?, allDigits decimal s = true → allDigits Char.isDigit s = true

/-! ### The shape of a UUID -/

/-- A class for each character of a UUID. -/
def uuidShape (cls : CharClass) : List CharClass :=
  join (.single '-') (uuidGroups.map fun n => List.replicate n cls)

/-- `[0-9a-f]` -/
def lowerHexClass : CharClass := .ranges false [('0', '9'), ('a', 'f')]

/-- `[0-9a-fA-F]` -/
def hexClass : CharClass := .ranges false [('0', '9'), ('a', 'f'), ('A', 'F')]

variable {decimal : Char → Bool} {cls : CharClass} {s t : List Char} {rest segs : List (List Char)}

theorem holds_lowerHexClass : lowerHexClass.holds decimal = isLowerHex := by
  funext c
  simp [lowerHexClass, CharClass.holds, isLowerHex]

theorem holds_hexClass : hexClass.holds decimal = isHex := by
  funext c
  simp [hexClass, CharClass.holds, isHex, isLowerHex, Bool.or_assoc]

theorem shape_uuidRegex : (parse uuidRegex.toList).bind Expr.shape = some (uuidShape hexClass) := by
  decide

theorem shape_cedarUuidPattern :
    (parse cedarUuidPattern.toList).bind Expr.shape = some (uuidShape lowerHexClass) := by
  decide

@[simp] theorem length_uuidShape (cls : CharClass) : (uuidShape cls).length = 36 := rfl

theorem uuidShape_ne_nil (cls : CharClass) : uuidShape cls ≠ [] := List.cons_ne_nil _ _

theorem mem_uuidShape {cls' : CharClass} (h : cls' ∈ uuidShape cls) :
    cls' = cls ∨ cls' = .single '-' := by
  have hall : ∀ cls' ∈ uuidShape cls, cls' = cls ∨ cls' = .single '-' := by
    simp [uuidShape, uuidGroups, join, List.intercalate]
  exact hall cls' h

/-- A text of the shape is made of groups. -/
theorem fits_groups_iff (ns : List ℕ) :
    (fits decimal (join (.single '-') (ns.map fun n => List.replicate n cls)) s = true ∧
        s.length = (join (CharClass.single '-') (ns.map fun n => List.replicate n cls)).length)
      ↔ ∃ gs : List (List Char), s = join '-' gs ∧ gs.map List.length = ns ∧
          ∀ g ∈ gs, g.all (cls.holds decimal) = true := by
  -- group by group; the last one has no dash behind it
  induction ns generalizing s with
  -- no group at all: the empty text
  | nil =>
    constructor
    · rintro ⟨-, hs⟩
      exact ⟨[], List.length_eq_zero_iff.mp hs, rfl, by simp⟩
    · rintro ⟨gs, rfl, hgs, -⟩
      rw [List.map_eq_nil_iff.mp hgs]
      exact ⟨rfl, rfl⟩
  | cons n ns ih =>
    cases ns with
    -- the last group
    | nil =>
      rw [List.map_singleton, join_singleton, List.length_replicate]
      constructor
      · rintro ⟨hfits, hs⟩
        rw [fits_replicate_of_length_eq cls hs] at hfits
        exact ⟨[s], join_singleton.symm, by simp [hs], by simpa using hfits⟩
      · rintro ⟨gs, rfl, hgs, hall⟩
        obtain ⟨g, rfl, hg⟩ := List.map_eq_singleton_iff.mp hgs
        rw [join_singleton, fits_replicate_of_length_eq cls hg]
        exact ⟨hall g List.mem_cons_self, hg⟩
    -- a group with a dash and further groups behind it
    | cons m ns =>
      rw [List.map_cons, join_cons (by simp), List.length_append, List.length_cons,
        List.length_replicate, fits_append_iff]
      constructor
      · rintro ⟨⟨u, t, rfl, hu, hfits, ht⟩, hs⟩
        rw [List.length_replicate] at hu
        rw [fits_replicate_of_length_eq cls hu] at hfits
        cases t with
        | nil => cases ht
        | cons c t =>
          rw [fits, Bool.and_eq_true, CharClass.holds_single] at ht
          rw [List.length_append, List.length_cons] at hs
          obtain ⟨gs, rfl, hgs, hall⟩ := ih.mp ⟨ht.2, by omega⟩
          have hne : gs ≠ [] := by
            rintro rfl
            cases hgs
          refine ⟨u :: gs, by rw [join_cons hne, ht.1], by rw [List.map_cons, hu, hgs], ?_⟩
          rw [List.forall_mem_cons]
          exact ⟨hfits, hall⟩
      · rintro ⟨gs, rfl, hgs, hall⟩
        obtain ⟨u, gs, rfl, hu, hgs⟩ := List.map_eq_cons_iff.mp hgs
        have hne : gs ≠ [] := by
          rintro rfl
          cases hgs
        rw [List.forall_mem_cons] at hall
        obtain ⟨hfits, hlength⟩ := ih.mpr ⟨gs, rfl, hgs, hall.2⟩
        rw [join_cons hne]
        refine ⟨⟨u, '-' :: join '-' gs, rfl, by rw [hu, List.length_replicate], ?_, ?_⟩, ?_⟩
        · rw [fits_replicate_of_length_eq cls hu]
          exact hall.1
        · rw [fits, hfits, Bool.and_true, CharClass.holds_single]
        · rw [List.length_append, List.length_cons, hu, hlength]

/-- **A text of the shape is a UUID.** -/
theorem isUuid_iff (hdash : cls.holds decimal '-' = false) :
    IsUuid (cls.holds decimal) s ↔ fits decimal (uuidShape cls) s = true ∧ s.length = 36 := by
  rw [← length_uuidShape cls, uuidShape, fits_groups_iff, IsUuid]
  constructor
  · rintro ⟨hlengths, hall⟩
    exact ⟨s.splitOn '-', (join_splitOn s).symm, hlengths, hall⟩
  · rintro ⟨gs, rfl, hlengths, hall⟩
    have hne : gs ≠ [] := by
      rintro rfl
      cases hlengths
    have hplain : ∀ g ∈ gs, '-' ∉ g := by
      intro g hg hmem
      have hholds := List.all_eq_true.mp (hall g hg) '-' hmem
      rw [hdash] at hholds
      cases hholds
    rw [(splitOn_eq_iff hne hplain).mpr rfl]
    exact ⟨hlengths, hall⟩

/-- **Where a UUID is found**: it is a part of the text. -/
theorem occurs_uuidShape_iff (hdash : cls.holds decimal '-' = false) :
    occurs decimal (uuidShape cls) s = true
      ↔ ∃ u, u <:+: s ∧ IsUuid (cls.holds decimal) u := by
  rw [occurs_iff]
  simp only [isUuid_iff hdash, length_uuidShape]

theorem avoids_uuidShape {c : Char} (hcls : cls.holds decimal c = false) (hc : c ≠ '-') :
    Avoids decimal (uuidShape cls) c := by
  intro cls' hmem
  rcases mem_uuidShape hmem with rfl | rfl
  · exact hcls
  · rw [Bool.eq_false_iff]
    exact fun h => hc (CharClass.holds_single.mp h)

theorem IsUuid.length_eq {hex : Char → Bool} (h : IsUuid hex s) : s.length = 36 := by
  have hjoin := congrArg List.length (join_splitOn (c := '-') s)
  rw [← hjoin]
  obtain ⟨hlengths, -⟩ := h
  generalize s.splitOn '-' = gs at hlengths
  simp only [uuidGroups, List.map_eq_cons_iff, List.map_eq_nil_iff] at hlengths
  obtain ⟨a, -, rfl, ha, b, -, rfl, hb, c, -, rfl, hc, d, -, rfl, hd, e, -, rfl, he, rfl⟩ :=
    hlengths
  simp [join, List.intercalate, ha, hb, hc, hd, he]

theorem IsUuid.dash_mem {hex : Char → Bool} (h : IsUuid hex s) : '-' ∈ s := by
  by_contra hdash
  have hone := h.1
  rw [(splitOn_eq_iff (List.cons_ne_nil s []) (by simpa using hdash)).mpr join_singleton.symm]
    at hone
  exact absurd (congrArg List.length hone) (by simp [uuidGroups])

theorem IsUuid.mono {hex hex' : Char → Bool} (h : IsUuid hex s)
    (hle : ∀ c, hex c = true → hex' c = true) : IsUuid hex' s :=
  ⟨h.1, fun g hg => List.all_eq_true.mpr fun c hc => hle c (List.all_eq_true.mp (h.2 g hg) c hc)⟩

/-! ### Segments -/

/-- What stands for a UUID or for digits. -/
def idText : List Char := "{id}".toList

/-- A segment, with `{id}` for the UUIDs in it. -/
def replaceUuids (decimal : Char → Bool) (cls : CharClass) (s : List Char) : List Char :=
  replaceFits decimal (uuidShape cls) idText s

theorem allDigits_eq_false {digit : Char → Bool} {c : Char} (hc : c ∈ s) (h : digit c = false) :
    allDigits digit s = false := by
  rw [allDigits, Bool.and_eq_false_iff]
  right
  rw [Bool.eq_false_iff]
  intro hall
  rw [List.all_eq_true.mp hall c hc] at h
  cases h

theorem normalizeSegment_eq (s : List Char) :
    normalizeSegment s = if allDigits Char.isDigit s = true then idText else s := by
  rw [normalizeSegment, idText]
  refine if_congr ?_ rfl rfl
  rw [allDigits, Bool.and_eq_true, Bool.not_eq_true', List.isEmpty_eq_false_iff]

/-- **What becomes of the UUIDs in a segment.** -/
theorem replaceUuids_cases (hdash : cls.holds decimal '-' = false) (s : List Char) :
    ((∀ u, u <:+: s → ¬ IsUuid (cls.holds decimal) u) ∧ replaceUuids decimal cls s = s) ∨
      (IsUuid (cls.holds decimal) s ∧ replaceUuids decimal cls s = idText) ∨
      ((∃ u, u <:+: s ∧ IsUuid (cls.holds decimal) u ∧ u ≠ s) ∧
        idText <:+: replaceUuids decimal cls s ∧ replaceUuids decimal cls s ≠ s) := by
  cases hoccurs : occurs decimal (uuidShape cls) s with
  | false =>
    refine .inl ⟨fun u hu huuid => ?_, replaceFits_of_not_occurs hoccurs⟩
    rw [(occurs_uuidShape_iff hdash).mpr ⟨u, hu, huuid⟩] at hoccurs
    cases hoccurs
  | true =>
    right
    by_cases huuid : IsUuid (cls.holds decimal) s
    · have hfits := (isUuid_iff hdash).mp huuid
      exact .inl ⟨huuid, replaceFits_of_length_eq (uuidShape_ne_nil cls) hfits.1 hfits.2⟩
    · obtain ⟨u, hu, hu'⟩ := (occurs_uuidShape_iff hdash).mp hoccurs
      have hlt : (replaceUuids decimal cls s).length < s.length :=
        length_replaceFits_lt (by decide : (4 : ℕ) < 36) hoccurs
      refine .inr ⟨⟨u, hu, hu', ?_⟩, ?_, ?_⟩
      · rintro rfl
        exact huuid hu'
      · exact infix_replaceFits (uuidShape_ne_nil cls) hoccurs
      · intro h
        rw [h] at hlt
        exact absurd hlt (Nat.lt_irrefl _)

theorem allDigits_replaceUuids (hcls : cls.holds decimal '-' = false) {digit : Char → Bool}
    (hbrace : digit '{' = false) (hdash : digit '-' = false) (s : List Char) :
    allDigits digit (replaceUuids decimal cls s) = allDigits digit s := by
  rcases replaceUuids_cases hcls s with ⟨-, h⟩ | ⟨huuid, h⟩ | ⟨⟨u, hu, huuid, -⟩, hid, -⟩
  · rw [h]
  · rw [h, allDigits_eq_false huuid.dash_mem hdash,
      allDigits_eq_false (c := '{') (by decide) hbrace]
  · rw [allDigits_eq_false (hu.subset huuid.dash_mem) hdash,
      allDigits_eq_false (hid.subset (by decide)) hbrace]

/-- The other normaliser does with a segment what is meant, if a UUID is a whole segment. -/
theorem normalizeSegment_replaceUuids_iff (s : List Char) :
    normalizeSegment (replaceUuids decimal hexClass s) = meantSegment s
      ↔ ∀ u, u <:+: s → IsUuid isHex u → u = s := by
  have hdash : hexClass.holds decimal '-' = false := by
    rw [holds_hexClass]
    decide
  have hcases := replaceUuids_cases hdash s
  rw [normalizeSegment_eq, allDigits_replaceUuids hdash (by decide) (by decide), meantSegment]
  rw [holds_hexClass] at hcases
  rcases hcases with ⟨hnone, h⟩ | ⟨huuid, h⟩ | ⟨⟨u, hu, huuid, hne⟩, -, hchanged⟩
  · have hself : ¬ IsUuid isHex s := hnone s List.infix_rfl
    rw [h]
    refine iff_of_true ?_ fun u hu huuid => absurd huuid (hnone u hu)
    simp [hself, idText]
  · rw [h, ite_self, if_pos (.inr huuid)]
    refine iff_of_true rfl fun u hu huuid' => hu.sublist.eq_of_length ?_
    rw [huuid.length_eq, huuid'.length_eq]
  · have hself : ¬ IsUuid isHex s := by
      intro hself
      refine hne (hu.sublist.eq_of_length ?_)
      rw [huuid.length_eq, hself.length_eq]
    have hdigits : allDigits Char.isDigit s = false :=
      allDigits_eq_false (hu.subset huuid.dash_mem) (by decide)
    rw [hdigits, if_neg Bool.false_ne_true, if_neg (by simp [hself])]
    exact iff_of_false hchanged fun h => hne (h u hu huuid)

/-- Authorization replaces the UUIDs that are meant, if they are in lower case. -/
theorem replaceUuids_iff (hs : ∀ u, u <:+: s → IsUuid isHex u → u = s) :
    replaceUuids decimal lowerHexClass s = meantSegment s
      ↔ (IsUuid isHex s → IsUuid isLowerHex s) ∧ allDigits Char.isDigit s = false := by
  have hlower : ∀ c, isLowerHex c = true → isHex c = true := by
    intro c hc
    rw [isHex, hc]
    rfl
  have hdash : lowerHexClass.holds decimal '-' = false := by
    rw [holds_lowerHexClass]
    decide
  have hcases := replaceUuids_cases hdash s
  rw [holds_lowerHexClass] at hcases
  rw [meantSegment]
  rcases hcases with ⟨hnone, h⟩ | ⟨huuid, h⟩ | ⟨⟨u, hu, huuid, hne⟩, -⟩
  · have hself : ¬ IsUuid isLowerHex s := hnone s List.infix_rfl
    rw [h]
    by_cases hid : allDigits Char.isDigit s = true ∨ IsUuid isHex s
    · rw [if_pos hid]
      refine iff_of_false ?_ ?_
      · rintro rfl
        revert hid
        decide
      · rintro ⟨huuid, hdigits⟩
        rcases hid with hid | hid
        · rw [hid] at hdigits
          cases hdigits
        · exact hself (huuid hid)
    · rw [if_neg hid]
      rw [not_or] at hid
      exact iff_of_true rfl ⟨fun h => absurd h hid.2, Bool.eq_false_iff.mpr hid.1⟩
  · rw [h, if_pos (.inr (huuid.mono hlower))]
    exact iff_of_true rfl ⟨fun _ => huuid, allDigits_eq_false huuid.dash_mem (by decide)⟩
  · exact absurd (hs u hu (huuid.mono hlower)) hne

/-! ### Digits and the slash behind them -/

/-- The expression of `cedarNumericPattern`. -/
def numericExpr : Expr :=
  .seq (.seq (.seq .empty (.repeated (.single '/') 1 (some 1)))
      (.seq .empty (.repeated .decimal 1 none)))
    (.alt (.seq .empty (.repeated (.single '/') 1 (some 1))) (.seq .empty .stop))

theorem parse_cedarNumericPattern : parse cedarNumericPattern.toList = some numericExpr := by
  decide

theorem allDigits_iff {digit : Char → Bool} :
    allDigits digit s = true ↔ s ≠ [] ∧ ∀ c ∈ s, digit c = true := by
  rw [allDigits, Bool.and_eq_true, Bool.not_eq_true', List.isEmpty_eq_false_iff,
    List.all_eq_true]

/-- A `/`, digits, and a `/` or the end. -/
theorem mem_ways_numericExpr {text : List Char} :
    t ∈ numericExpr.ways decimal text s ↔
      ∃ d w, s = '/' :: (d ++ w) ∧ allDigits decimal d = true ∧
        (w = '/' :: t ∨ w = [] ∧ t = []) := by
  have hdigits : ∀ {u v : List Char},
      v ∈ (Expr.seq .empty (.repeated .decimal 1 none)).ways decimal text u
        ↔ ∃ d, u = d ++ v ∧ allDigits decimal d = true := by
    intro u v
    rw [Expr.mem_ways_seq]
    simp only [Expr.mem_ways_empty, exists_eq_left]
    rw [Expr.ways, mem_waysRepeated]
    refine exists_congr fun d => and_congr_right fun _ => ?_
    rw [allDigits_iff, ← List.length_pos_iff]
    simp only [CharClass.holds, Option.mem_def, reduceCtorEq, false_implies, implies_true, and_true]
    exact and_comm
  have hend : ∀ {u v : List Char},
      v ∈ (Expr.alt (.seq .empty (.repeated (.single '/') 1 (some 1)))
          (.seq .empty .stop)).ways decimal text u
        ↔ u = '/' :: v ∨ u = [] ∧ v = [] := by
    intro u v
    rw [Expr.ways, List.mem_append, Expr.mem_ways_seq, Expr.mem_ways_seq]
    simp only [Expr.mem_ways_empty, exists_eq_left, Expr.mem_ways_single, Expr.mem_ways_stop]
    refine or_congr_right (and_congr_right fun hu => ?_)
    rw [hu]
  rw [numericExpr, Expr.mem_ways_seq]
  constructor
  · rintro ⟨w, hw, ht⟩
    obtain ⟨u, hu, hrun⟩ := Expr.mem_ways_seq.mp hw
    obtain ⟨v, hv, hslash⟩ := Expr.mem_ways_seq.mp hu
    rw [Expr.mem_ways_empty] at hv
    rw [Expr.mem_ways_single, hv] at hslash
    obtain ⟨d, rfl, hd⟩ := hdigits.mp hrun
    exact ⟨d, w, hslash, hd, hend.mp ht⟩
  · rintro ⟨d, w, rfl, hd, ht⟩
    refine ⟨w, Expr.mem_ways_seq.mpr ⟨d ++ w, ?_, hdigits.mpr ⟨d, rfl, hd⟩⟩, hend.mpr ht⟩
    exact Expr.mem_ways_seq.mpr ⟨_, Expr.mem_ways_empty.mpr rfl, Expr.mem_ways_single.mpr rfl⟩

theorem numericExpr_consumes : numericExpr.Consumes decimal := by
  intro text s hs
  obtain ⟨d, w, hs, -, hw⟩ := mem_ways_numericExpr.mp hs
  have hlength := congrArg List.length hs
  rw [List.length_cons, List.length_append] at hlength
  rcases hw with rfl | ⟨rfl, rfl⟩
  · rw [List.length_cons] at hlength
    omega
  · cases hs

/-- What the expression finds first at this place: the text behind it, if it fits there. -/
def numericFound (decimal : Char → Bool) (text s : List Char) : Option (List Char) :=
  (numericExpr.ways decimal text s).head?

theorem numericFound_mem {text : List Char} (h : numericFound decimal text s = some t) :
    t ∈ numericExpr.ways decimal text s := List.mem_of_mem_head? h

theorem numericFound_of_ne {text : List Char} {c : Char} (hc : c ≠ '/') :
    numericFound decimal text (c :: s) = none := by
  cases hfound : numericFound decimal text (c :: s) with
  | none => rfl
  | some t =>
    obtain ⟨d, w, hs, -⟩ := mem_ways_numericExpr.mp (numericFound_mem hfound)
    exact absurd (List.cons.inj hs).1 hc

/-- A text that begins with a segment does so in one way. -/
theorem append_eq_of_ends {x y u v : List Char} (hx : '/' ∉ x) (hy : '/' ∉ y)
    (hu : u = [] ∨ ∃ u', u = '/' :: u') (hv : v = [] ∨ ∃ v', v = '/' :: v')
    (h : x ++ u = y ++ v) : x = y ∧ u = v := by
  have htake : ∀ {x u : List Char}, '/' ∉ x → (u = [] ∨ ∃ u', u = '/' :: u') →
      (x ++ u).takeWhile (fun c => c != '/') = x := by
    intro x u hx hu
    have hall : ∀ c ∈ x, (c != '/') = true := by
      intro c hc
      rw [bne_iff_ne]
      rintro rfl
      exact hx hc
    rw [List.takeWhile_append_of_pos hall]
    rcases hu with rfl | ⟨u', rfl⟩ <;> simp
  have hsame : x = y := by
    rw [← htake hx hu, h, htake hy hv]
  exact ⟨hsame, List.append_cancel_left (hsame ▸ h)⟩

/-- A segment of digits is found, with the slash behind it. -/
theorem numericFound_segment (hslash : decimal '/' = false) (text : List Char) {x u : List Char}
    (hx : '/' ∉ x) (hu : u = [] ∨ ∃ u', u = '/' :: u') :
    numericFound decimal text ('/' :: (x ++ u))
      = if allDigits decimal x = true then some u.tail else none := by
  -- the expression fits in one way at most: all digits up to the next slash or the end
  have hmem : ∀ t, t ∈ numericExpr.ways decimal text ('/' :: (x ++ u))
      ↔ allDigits decimal x = true ∧ t = u.tail := by
    intro t
    rw [mem_ways_numericExpr]
    constructor
    · rintro ⟨d, w, hs, hd, hw⟩
      have hplain : '/' ∉ d := by
        intro h
        rw [allDigits_eq_false h hslash] at hd
        cases hd
      have hends : w = [] ∨ ∃ w', w = '/' :: w' := by
        rcases hw with rfl | ⟨rfl, -⟩
        · exact .inr ⟨t, rfl⟩
        · exact .inl rfl
      obtain ⟨rfl, rfl⟩ := append_eq_of_ends hx hplain hu hends (List.cons.inj hs).2
      refine ⟨hd, ?_⟩
      rcases hw with rfl | ⟨rfl, rfl⟩ <;> rfl
    · rintro ⟨hd, rfl⟩
      refine ⟨x, u, rfl, hd, ?_⟩
      rcases hu with rfl | ⟨u', rfl⟩
      · exact .inr ⟨rfl, rfl⟩
      · exact .inl rfl
  rw [numericFound]
  cases hways : numericExpr.ways decimal text ('/' :: (x ++ u)) with
  | nil =>
    rw [if_neg fun hd => ?_]
    · rfl
    · have hin := (hmem u.tail).mpr ⟨hd, rfl⟩
      rw [hways] at hin
      cases hin
  | cons t ts =>
    obtain ⟨hd, rfl⟩ := (hmem t).mp (hways ▸ List.mem_cons_self)
    rw [if_pos hd]
    rfl

/-- What becomes of segments, each with a slash in front. -/
def numericTail (decimal : Char → Bool) : List (List Char) → List Char
  | [] => []
  | [x] => '/' :: if allDigits decimal x = true then idText else x
  | x :: y :: rest =>
    if allDigits decimal x = true then '/' :: idText ++ (y ++ numericTail decimal rest)
    else '/' :: x ++ numericTail decimal (y :: rest)

/-- Characters that no slash is among are passed over. -/
theorem replaceFrom_numericFound {text x u new : List Char} (hx : '/' ∉ x) :
    replaceFrom (numericFound decimal text) new 0 (x ++ u)
      = x ++ replaceFrom (numericFound decimal text) new 0 u := by
  induction x with
  | nil => rfl
  | cons c x ih =>
    rw [List.mem_cons, not_or] at hx
    rw [List.cons_append, replaceFrom_of_not_found (numericFound_of_ne (Ne.symm hx.1)), ih hx.2]
    rfl

/-- A segment of digits is replaced, and the slash behind it is lost. -/
theorem replaceFrom_segment (hslash : decimal '/' = false) (text new : List Char) {x u : List Char}
    (hx : '/' ∉ x) (hu : u = [] ∨ ∃ u', u = '/' :: u') :
    replaceFrom (numericFound decimal text) new 0 ('/' :: (x ++ u))
      = if allDigits decimal x = true
        then new ++ replaceFrom (numericFound decimal text) new 0 u.tail
        else '/' :: (x ++ replaceFrom (numericFound decimal text) new 0 u) := by
  have hfound := numericFound_segment hslash text hx hu
  by_cases hd : allDigits decimal x = true
  · rw [if_pos hd] at hfound ⊢
    rcases hu with rfl | ⟨u', rfl⟩
    · exact replaceFrom_of_found (u := '/' :: x) (List.cons_ne_nil _ _) hfound
    · have htext : '/' :: (x ++ '/' :: u') = '/' :: (x ++ ['/']) ++ u' := by simp
      rw [htext] at hfound ⊢
      exact replaceFrom_of_found (List.cons_ne_nil _ _) hfound
  · rw [if_neg hd] at hfound ⊢
    rw [replaceFrom_of_not_found hfound, replaceFrom_numericFound hx]

theorem onFrom_ends (rest : List (List Char)) :
    onFrom '/' rest = [] ∨ ∃ u, onFrom '/' rest = '/' :: u := by
  cases rest with
  | nil => exact .inl rfl
  | cons x rest => exact .inr ⟨_, rfl⟩

/-- **What becomes of the segments of digits**: of two that follow one another, only the first is
replaced. -/
theorem replaceFrom_onFrom (hslash : decimal '/' = false) {text : List Char}
    (hrest : ∀ x ∈ rest, '/' ∉ x) :
    replaceFrom (numericFound decimal text) ('/' :: idText) 0 (onFrom '/' rest)
      = numericTail decimal rest := by
  fun_induction numericTail decimal rest with
  | case1 => rfl
  | case2 x =>
    have hsegment := replaceFrom_segment hslash text ('/' :: idText)
      (hrest x List.mem_cons_self) (.inl rfl)
    rw [onFrom, join_singleton, ← List.append_nil x, hsegment, List.tail_nil, replaceFrom_nil,
      List.append_nil, List.append_nil]
    split_ifs <;> rfl
  | case3 x y rest hd ih =>
    simp only [List.forall_mem_cons] at hrest
    rw [onFrom, join_cons_eq, replaceFrom_segment hslash _ _ hrest.1 (onFrom_ends _), if_pos hd,
      onFrom, List.tail_cons, join_cons_eq, replaceFrom_numericFound hrest.2.1, ih hrest.2.2]
  | case4 x y rest hd ih =>
    rw [List.forall_mem_cons] at hrest
    rw [onFrom, join_cons_eq, replaceFrom_segment hslash _ _ hrest.1 (onFrom_ends _), if_neg hd,
      ih hrest.2]
    rfl

/-! ### Paths -/

/-- `numericTail` with the slashes kept: only a last segment may be one of digits. -/
def numericLast (decimal : Char → Bool) : List (List Char) → List (List Char)
  | [] => []
  | [x] => [if allDigits decimal x = true then idText else x]
  | x :: y :: rest => x :: numericLast decimal (y :: rest)

theorem numericTail_eq_onFrom (h : ∀ x ∈ rest.dropLast, allDigits decimal x = false) :
    numericTail decimal rest = onFrom '/' (numericLast decimal rest) := by
  fun_induction numericTail decimal rest with
  | case1 => rfl
  | case2 x => rw [numericLast, onFrom, join_singleton]
  | case3 x y rest hd ih =>
    have hx := h x List.mem_cons_self
    rw [hd] at hx
    cases hx
  | case4 x y rest hd ih =>
    rw [ih fun z hz => h z (List.mem_cons_of_mem _ hz), numericLast, onFrom, join_cons_eq]
    rfl

/-- A slash is lost behind each segment of digits that is not the last one. -/
theorem count_numericTail (hrest : ∀ x ∈ rest, '/' ∉ x) :
    (numericTail decimal rest).count '/' ≤ rest.length ∧
      ((numericTail decimal rest).count '/' = rest.length →
        ∀ x ∈ rest.dropLast, allDigits decimal x = false) := by
  have hplain : ∀ {x : List Char}, '/' ∉ x → x.count '/' = 0 := List.count_eq_zero.mpr
  fun_induction numericTail decimal rest with
  | case1 => exact ⟨le_rfl, fun _ => by simp⟩
  | case2 x =>
    rw [List.forall_mem_singleton] at hrest
    refine ⟨?_, fun _ => by simp⟩
    rw [List.count_cons_self]
    split_ifs
    · rfl
    · rw [hplain hrest]
      rfl
  | case3 x y rest hd ih =>
    simp only [List.forall_mem_cons] at hrest
    obtain ⟨ihle, -⟩ := ih hrest.2.2
    have hid : ('/' :: idText).count '/' = 1 := rfl
    rw [List.count_append, List.count_append, hplain hrest.2.1, hid, List.length_cons,
      List.length_cons]
    refine ⟨by omega, fun h => absurd h (by omega)⟩
  | case4 x y rest hd ih =>
    rw [List.forall_mem_cons] at hrest
    obtain ⟨ihle, ihall⟩ := ih hrest.2
    rw [List.cons_append, List.count_cons_self, List.count_append, hplain hrest.1, List.length_cons,
      Nat.zero_add]
    refine ⟨Nat.succ_le_succ ihle, fun h => ?_⟩
    rw [List.dropLast_cons_cons, List.forall_mem_cons]
    exact ⟨Bool.eq_false_iff.mpr hd, ihall (Nat.succ.inj h)⟩

theorem numericLast_map_iff (f g : List Char → List Char) :
    numericLast decimal (rest.map f) = rest.map g
      ↔ (∀ x ∈ rest.dropLast, f x = g x) ∧
        ∀ x ∈ rest.getLast?, (if allDigits decimal (f x) = true then idText else f x) = g x := by
  induction rest with
  | nil => simp [numericLast]
  | cons x rest ih =>
    cases rest with
    | nil => simp [numericLast]
    | cons y rest =>
      have hcons : numericLast decimal ((x :: y :: rest).map f)
          = f x :: numericLast decimal ((y :: rest).map f) := rfl
      rw [hcons, List.map_cons (l := y :: rest) (f := g), List.cons.injEq, ih,
        List.dropLast_cons_cons, List.forall_mem_cons, List.getLast?_cons_cons, and_assoc]

theorem mem_numericLast (h : s ∈ numericLast decimal rest) : s ∈ rest ∨ s = idText := by
  fun_induction numericLast decimal rest with
  | case1 => cases h
  | case2 x =>
    rw [List.mem_singleton] at h
    rw [h]
    split_ifs
    · exact .inr rfl
    · exact .inl List.mem_cons_self
  | case3 x y rest ih =>
    rcases List.mem_cons.mp h with rfl | h
    · exact .inl List.mem_cons_self
    · exact (ih h).imp_left (List.mem_cons_of_mem _)

theorem forall_mem_iff_dropLast {p : List Char → Prop} :
    (∀ s ∈ rest, p s) ↔ (∀ s ∈ rest.dropLast, p s) ∧ ∀ s ∈ rest.getLast?, p s := by
  cases rest using List.reverseRecOn with
  | nil => simp
  | append_singleton rest x =>
    rw [List.dropLast_concat, List.getLast?_concat, List.forall_mem_append,
      List.forall_mem_singleton]
    simp

theorem slash_notMem_meantSegment (h : '/' ∉ s) : '/' ∉ meantSegment s := by
  rw [meantSegment]
  split_ifs
  · decide
  · exact h

theorem slash_notMem_replaceUuids (h : '/' ∉ s) : '/' ∉ replaceUuids decimal cls s := by
  intro hmem
  rcases mem_replaceFits (uuidShape_ne_nil cls) hmem with hid | hs
  · revert hid
    decide
  · exact h hs

theorem slash_notMem_normalizeSegment (h : '/' ∉ s) : '/' ∉ normalizeSegment s := by
  rw [normalizeSegment_eq]
  split_ifs
  · decide
  · exact h

/-- The digits of ASCII are decimal digits, so that a text of these is one of those. -/
theorem allDigits_of_isDigit (hdecimal : ∀ c : Char, c.toNat < 128 → decimal c = c.isDigit)
    (h : allDigits Char.isDigit s = true) : allDigits decimal s = true := by
  rw [allDigits_iff] at h ⊢
  refine ⟨h.1, fun c hc => ?_⟩
  have hdigit := h.2 c hc
  have hascii : c.toNat < 128 := by
    have hle := hdigit
    simp only [Char.isDigit, Bool.and_eq_true, decide_eq_true_eq, UInt32.le_iff_toNat_le] at hle
    exact lt_of_le_of_lt hle.2 (by decide)
  rw [hdecimal c hascii]
  exact hdigit

/-- A last segment becomes what is meant, if its digits are those of ASCII. -/
theorem last_iff (hdecimal : ∀ c : Char, c.toNat < 128 → decimal c = c.isDigit)
    (hs : ∀ u, u <:+: s → IsUuid isHex u → u = s) :
    (if allDigits decimal (replaceUuids decimal lowerHexClass s) = true then idText
        else replaceUuids decimal lowerHexClass s) = meantSegment s
      ↔ (IsUuid isHex s → IsUuid isLowerHex s) ∧
        (allDigits decimal s = true → allDigits Char.isDigit s = true) := by
  have hdash : lowerHexClass.holds decimal '-' = false := by
    rw [holds_lowerHexClass]
    decide
  have hbrace : decimal '{' = false := hdecimal '{' (by decide)
  have hdash' : decimal '-' = false := hdecimal '-' (by decide)
  rw [allDigits_replaceUuids hdash hbrace hdash']
  by_cases hd : allDigits decimal s = true
  · have huuid : ¬ IsUuid isHex s := by
      intro huuid
      rw [allDigits_eq_false huuid.dash_mem hdash'] at hd
      cases hd
    have hne : idText ≠ s := by
      rintro rfl
      rw [allDigits_eq_false (c := '{') (by decide) hbrace] at hd
      cases hd
    rw [if_pos hd, meantSegment]
    by_cases hdigits : allDigits Char.isDigit s = true
    · rw [if_pos (.inl hdigits)]
      exact iff_of_true rfl ⟨fun h => absurd h huuid, fun _ => hdigits⟩
    · rw [if_neg (by simp [hdigits, huuid])]
      exact iff_of_false hne fun h => hdigits (h.2 hd)
  · have hdigits : allDigits Char.isDigit s = false :=
      Bool.eq_false_iff.mpr fun h => hd (allDigits_of_isDigit hdecimal h)
    rw [if_neg hd, replaceUuids_iff hs]
    simp [hdigits, hd]

/-- What the normaliser of authorization makes of segments. -/
def genericText (decimal : Char → Bool) (first : List Char) (rest : List (List Char)) :
    List Char :=
  replaceUuids decimal lowerHexClass first
    ++ numericTail decimal (rest.map (replaceUuids decimal lowerHexClass))

section GenericText

variable {first : List Char}

theorem slash_notMem_map {f : List Char → List Char} (hf : ∀ s, '/' ∉ s → '/' ∉ f s)
    {segs : List (List Char)} (hsegs : ∀ s ∈ segs, '/' ∉ s) : ∀ x ∈ segs.map f, '/' ∉ x := by
  intro x hx
  obtain ⟨s, hs, rfl⟩ := List.mem_map.mp hx
  exact hf s (hsegs s hs)

theorem allDigits_replaceUuids_lower
    (hdecimal : ∀ c : Char, c.toNat < 128 → decimal c = c.isDigit) (s : List Char) :
    allDigits decimal (replaceUuids decimal lowerHexClass s) = allDigits decimal s := by
  have hdash : lowerHexClass.holds decimal '-' = false := by
    rw [holds_lowerHexClass]
    decide
  exact allDigits_replaceUuids hdash (hdecimal '{' (by decide)) (hdecimal '-' (by decide)) s

/-- No slash is lost where the text is what is meant. -/
theorem allDigits_eq_false_of_genericText
    (hdecimal : ∀ c : Char, c.toNat < 128 → decimal c = c.isDigit)
    (hplain : ∀ s ∈ first :: rest, '/' ∉ s)
    (htext : genericText decimal first rest
      = meantSegment first ++ onFrom '/' (rest.map meantSegment)) :
    ∀ s ∈ rest.dropLast, allDigits decimal s = false := by
  intro s hs
  rw [List.forall_mem_cons] at hplain
  have hreplaced : ∀ x ∈ rest.map (replaceUuids decimal lowerHexClass), '/' ∉ x :=
    slash_notMem_map (fun _ => slash_notMem_replaceUuids) hplain.2
  have hmeant := slash_notMem_map (fun _ => slash_notMem_meantSegment) hplain.2
  have hcount := congrArg (List.count '/') htext
  rw [genericText, List.count_append, List.count_append,
    List.count_eq_zero_of_not_mem (slash_notMem_replaceUuids hplain.1),
    List.count_eq_zero_of_not_mem (slash_notMem_meantSegment hplain.1), count_onFrom hmeant,
    Nat.zero_add, Nat.zero_add, List.length_map] at hcount
  rw [← allDigits_replaceUuids_lower hdecimal]
  refine (count_numericTail hreplaced).2 (by rw [hcount, List.length_map]) _ ?_
  rw [← List.map_dropLast]
  exact List.mem_map_of_mem hs

/-- Where no segment of digits stands in front of another, the text is made segment by segment. -/
theorem genericText_eq_iff (hdecimal : ∀ c : Char, c.toNat < 128 → decimal c = c.isDigit)
    (hplain : ∀ s ∈ first :: rest, '/' ∉ s)
    (hmiddle : ∀ s ∈ rest.dropLast, allDigits decimal s = false) :
    genericText decimal first rest = meantSegment first ++ onFrom '/' (rest.map meantSegment)
      ↔ replaceUuids decimal lowerHexClass first = meantSegment first ∧
        (∀ s ∈ rest.dropLast, replaceUuids decimal lowerHexClass s = meantSegment s) ∧
        ∀ s ∈ rest.getLast?,
          (if allDigits decimal (replaceUuids decimal lowerHexClass s) = true then idText
            else replaceUuids decimal lowerHexClass s) = meantSegment s := by
  rw [List.forall_mem_cons] at hplain
  have hreplaced : ∀ x ∈ rest.map (replaceUuids decimal lowerHexClass), '/' ∉ x :=
    slash_notMem_map (fun _ => slash_notMem_replaceUuids) hplain.2
  have hmeant := slash_notMem_map (fun _ => slash_notMem_meantSegment) hplain.2
  have hkept : ∀ x ∈ (rest.map (replaceUuids decimal lowerHexClass)).dropLast,
      allDigits decimal x = false := by
    intro x hx
    rw [← List.map_dropLast] at hx
    obtain ⟨s, hs, rfl⟩ := List.mem_map.mp hx
    rw [allDigits_replaceUuids_lower hdecimal, hmiddle s hs]
  have hlast : ∀ x ∈ numericLast decimal (rest.map (replaceUuids decimal lowerHexClass)),
      '/' ∉ x := by
    intro x hx
    rcases mem_numericLast hx with hx | rfl
    · exact hreplaced x hx
    · decide
  rw [genericText, numericTail_eq_onFrom hkept, ← join_cons_eq, ← join_cons_eq,
    join_inj (by simp) (by simp)
      (List.forall_mem_cons.mpr ⟨slash_notMem_replaceUuids hplain.1, hlast⟩)
      (List.forall_mem_cons.mpr ⟨slash_notMem_meantSegment hplain.1, hmeant⟩),
    List.cons.injEq, numericLast_map_iff]

end GenericText

section Normalizers

variable {X : RegexCrate}

/-- The UUIDs in the segments of a path are replaced. -/
theorem replaceAll_uuids (hX : X.Documented) {pattern : String}
    (hshape : (parse pattern.toList).bind Expr.shape = some (uuidShape cls))
    (hslash : cls.holds X.decimal '/' = false) (path : String) :
    X.replaceAll pattern path "{id}"
      = String.ofList (join '/' ((path.toList.splitOn '/').map (replaceUuids X.decimal cls))) := by
  obtain ⟨e, he, hshape⟩ := Option.bind_eq_some_iff.mp hshape
  rw [hX.replaceAll pattern e path "{id}" he (consumes_of_shape hshape (uuidShape_ne_nil cls))
    (by decide), replaceAll_of_shape hshape]
  have havoids : Avoids X.decimal (uuidShape cls) '/' := avoids_uuidShape hslash (by decide)
  have hjoin : replaceUuids X.decimal cls (join '/' (path.toList.splitOn '/')) = _ :=
    replaceFits_join (uuidShape_ne_nil cls) havoids _
  rw [join_splitOn] at hjoin
  exact congrArg String.ofList hjoin

theorem splitOn_map {f : List Char → List Char} (hf : ∀ s, '/' ∉ s → '/' ∉ f s) (path : List Char) :
    (join '/' ((path.splitOn '/').map f)).splitOn '/' = (path.splitOn '/').map f := by
  have hplain : ∀ s ∈ path.splitOn '/', '/' ∉ s := fun s hs => Lines.notMem_of_mem_splitOn hs
  exact (splitOn_eq_iff (by simp) (slash_notMem_map hf hplain)).mpr rfl

/-- **The normaliser of routes, segment by segment.** -/
theorem normalizePath_eq (hX : X.Documented) (path : String) :
    normalizePath X.toRegexExterns path = String.ofList (join '/' ((path.toList.splitOn '/').map
      fun s => normalizeSegment (replaceUuids X.decimal hexClass s))) := by
  have hslash : hexClass.holds X.decimal '/' = false := by
    rw [holds_hexClass]
    decide
  rw [normalizePath, replaceAll_uuids hX shape_uuidRegex hslash, String.toList_ofList,
    splitOn_map fun s => slash_notMem_replaceUuids, List.map_map]
  rfl

/-- **The normaliser of authorization, segment by segment.** -/
theorem normalizePathGeneric_eq (hX : X.Documented) {path : String} {first : List Char}
    (hsegs : path.toList.splitOn '/' = first :: rest) :
    normalizePathGeneric X.toRegexExterns path
      = String.ofList (genericText X.decimal first rest) := by
  have hslash : lowerHexClass.holds X.decimal '/' = false := by
    rw [holds_lowerHexClass]
    decide
  have hplain : ∀ s ∈ first :: rest, '/' ∉ s := by
    intro s hs
    rw [← hsegs] at hs
    exact Lines.notMem_of_mem_splitOn hs
  rw [List.forall_mem_cons] at hplain
  rw [normalizePathGeneric, replaceAll_uuids hX shape_cedarUuidPattern hslash, hsegs, List.map_cons,
    join_cons_eq]
  rw [hX.replaceAll _ _ _ "/{id}" parse_cedarNumericPattern numericExpr_consumes (by decide),
    Expr.replaceAll]
  change String.ofList (replaceFrom (numericFound X.decimal _) ('/' :: idText) 0 _) = _
  have hrest : ∀ x ∈ rest.map (replaceUuids X.decimal lowerHexClass), '/' ∉ x :=
    slash_notMem_map (fun _ => slash_notMem_replaceUuids) hplain.2
  rw [String.toList_ofList, replaceFrom_numericFound (slash_notMem_replaceUuids hplain.1),
    replaceFrom_onFrom (hX.decimal '/' (by decide)) hrest, genericText]

/-- The normaliser of routes does what is meant, if a UUID is a whole segment. -/
theorem normalizePath_eq_meantPath_iff (hX : X.Documented) (path : String) :
    normalizePath X.toRegexExterns path = meantPath path
      ↔ ∀ s ∈ path.toList.splitOn '/', ∀ u, u <:+: s → IsUuid isHex u → u = s := by
  have hplain : ∀ s ∈ path.toList.splitOn '/', '/' ∉ s :=
    fun s hs => Lines.notMem_of_mem_splitOn hs
  rw [normalizePath_eq hX, meantPath, String.ofList_inj, join_inj (by simp) (by simp)
    (slash_notMem_map
      (fun s hs => slash_notMem_normalizeSegment (slash_notMem_replaceUuids hs)) hplain)
    (slash_notMem_map (fun s => slash_notMem_meantSegment) hplain), List.map_inj_left]
  exact forall₂_congr fun s _ => normalizeSegment_replaceUuids_iff s

/-- The normaliser of authorization does what is meant, if no segment of digits stands in front of
another, and those that are meant are found. -/
theorem normalizePathGeneric_eq_meantPath_iff (hX : X.Documented) {path : String}
    {first : List Char} (hsegs : path.toList.splitOn '/' = first :: rest)
    (hwhole : ∀ s ∈ path.toList.splitOn '/', ∀ u, u <:+: s → IsUuid isHex u → u = s) :
    normalizePathGeneric X.toRegexExterns path = meantPath path
      ↔ (∀ s ∈ first :: rest, IsUuid isHex s → IsUuid isLowerHex s) ∧
        allDigits Char.isDigit first = false ∧
        (∀ s ∈ rest.dropLast, allDigits X.decimal s = false) ∧
        ∀ s ∈ rest.getLast?, allDigits X.decimal s = true → allDigits Char.isDigit s = true := by
  -- the segments are texts without a slash, and each of them contains no UUID but itself
  have hplain : ∀ s ∈ first :: rest, '/' ∉ s := by
    intro s hs
    rw [← hsegs] at hs
    exact Lines.notMem_of_mem_splitOn hs
  rw [hsegs] at hwhole
  rw [List.forall_mem_cons] at hwhole
  have hinner : ∀ s ∈ rest.dropLast, ∀ u, u <:+: s → IsUuid isHex u → u = s :=
    fun s hs => hwhole.2 s (List.mem_of_mem_dropLast hs)
  have hend : ∀ s ∈ rest.getLast?, ∀ u, u <:+: s → IsUuid isHex u → u = s :=
    fun s hs => hwhole.2 s (List.mem_of_getLast? hs)
  rw [normalizePathGeneric_eq hX hsegs, meantPath, hsegs, String.ofList_inj, List.map_cons,
    join_cons_eq, List.forall_mem_cons, forall_mem_iff_dropLast]
  constructor
  · -- each segment comes out as it is meant, which says what kind of segment it is
    intro htext
    have hmiddle := allDigits_eq_false_of_genericText hX.decimal hplain htext
    obtain ⟨hfirst, hinside, hlast⟩ := (genericText_eq_iff hX.decimal hplain hmiddle).mp htext
    have hfirst' := (replaceUuids_iff hwhole.1).mp hfirst
    refine ⟨⟨hfirst'.1, fun s hs => ?_, fun s hs => ?_⟩, hfirst'.2, hmiddle, fun s hs => ?_⟩
    · exact ((replaceUuids_iff (hinner s hs)).mp (hinside s hs)).1
    · exact ((last_iff hX.decimal (hend s hs)).mp (hlast s hs)).1
    · exact ((last_iff hX.decimal (hend s hs)).mp (hlast s hs)).2
  · -- conversely, segments of these kinds come out as they are meant
    rintro ⟨⟨hfirst, hinside, hlast⟩, hzero, hmiddle, hascii⟩
    refine (genericText_eq_iff hX.decimal hplain hmiddle).mpr
      ⟨(replaceUuids_iff hwhole.1).mpr ⟨hfirst, hzero⟩, fun s hs => ?_,
        fun s hs => (last_iff hX.decimal (hend s hs)).mpr ⟨hlast s hs, hascii s hs⟩⟩
    refine (replaceUuids_iff (hinner s hs)).mpr ⟨hinside s hs, Bool.eq_false_iff.mpr fun h => ?_⟩
    have hnot := hmiddle s hs
    rw [allDigits_of_isDigit hX.decimal h] at hnot
    cases hnot

/-- **When the normalisers agree** with each other and with what is meant. -/
theorem normalizePathGeneric_iff (hX : X.Documented) (path : String) :
    normalizePathGeneric X.toRegexExterns path = meantPath path ∧
        normalizePathGeneric X.toRegexExterns path = normalizePath X.toRegexExterns path
      ↔ SegmentsRead X.decimal (path.toList.splitOn '/') := by
  obtain ⟨first, rest, hsegs⟩ := List.exists_cons_of_ne_nil (List.splitOn_ne_nil '/' path.toList)
  constructor
  · rintro ⟨hmeant, hsame⟩
    have hwhole := (normalizePath_eq_meantPath_iff hX path).mp (hsame.symm.trans hmeant)
    obtain ⟨hlower, hfirst, hmiddle, hlast⟩ :=
      (normalizePathGeneric_eq_meantPath_iff hX hsegs hwhole).mp hmeant
    rw [hsegs] at hwhole ⊢
    refine ⟨fun s hs u hu huuid => ?_, by simpa using hfirst, hmiddle, hlast⟩
    obtain rfl := hwhole s hs u hu huuid
    exact ⟨rfl, hlower u hs huuid⟩
  · intro hread
    have hwhole : ∀ s ∈ path.toList.splitOn '/', ∀ u, u <:+: s → IsUuid isHex u → u = s :=
      fun s hs u hu huuid => (hread.uuid s hs u hu huuid).1
    have hmeant := (normalizePath_eq_meantPath_iff hX path).mpr hwhole
    rw [hmeant, and_self, normalizePathGeneric_eq_meantPath_iff hX hsegs hwhole]
    rw [hsegs] at hread
    refine ⟨fun s hs huuid => (hread.uuid s hs s List.infix_rfl huuid).2, ?_, hread.middle,
      hread.last⟩
    exact hread.first first rfl

end Normalizers

/-- A path that ends with a UUID. -/
def sampleUuidPath : String := "/users/550e8400-e29b-41d4-a716-446655440000"

theorem normalizePathGeneric_iff_sample :
    normalizePathGeneric sampleRegex.toRegexExterns sampleUuidPath = meantPath sampleUuidPath ∧
      normalizePathGeneric sampleRegex.toRegexExterns sampleUuidPath
        = normalizePath sampleRegex.toRegexExterns sampleUuidPath := by
  have hshort : ∀ s ∈ sampleUuidPath.toList.splitOn '/',
      s.length ≤ 36 ∧ (s.length = 36 → IsUuid isLowerHex s) := by decide
  refine (normalizePathGeneric_iff sampleRegex_documented sampleUuidPath).mpr
    ⟨fun s hs u hu huuid => ?_, by decide, by decide, by decide⟩
  obtain ⟨hle, hlower⟩ := hshort s hs
  have hge := hu.length_le
  rw [huuid.length_eq] at hge
  have hlength : s.length = 36 := Nat.le_antisymm hle hge
  exact ⟨hu.sublist.eq_of_length (by rw [huuid.length_eq, hlength]), hlower hlength⟩

/-- `/users/1/posts` becomes `/users/{id}posts`. -/
theorem not_forall_normalizePathGeneric :
    ¬ ∀ path : String,
      normalizePathGeneric sampleRegex.toRegexExterns path = meantPath path ∧
        normalizePathGeneric sampleRegex.toRegexExterns path
          = normalizePath sampleRegex.toRegexExterns path := by
  intro h
  have hpath := (h "/users/1/posts").1
  revert hpath
  decide

end ActonService
