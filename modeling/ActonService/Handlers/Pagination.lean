import ActonService.Lib.Blocks

/-!
# Pages of a list

The page of `handlers/query.rs` that is asked for, the description of it in `handlers/response.rs`
and the window of `repository/pagination.rs` that is queried.  Numbers have the width they have in
the code; a product that does not fit is an overflow.

## Main definitions

* `ListQuery` — what is asked for.
* `PaginationMeta` — what is said of a page.
* `Pagination` — what is queried.
* `PaginationMeta.window` — the items of a page.

## Main results

* `toNat_calculateTotalPages` — the saturating division is the one that rounds up.
* `offset_agree` — the three offsets are one, and fit.
* `pages_tile` — **the pages tile the items.**
-/

namespace ActonService

open Blocks

/-! ### Arithmetic -/

/-- `u64::saturating_add` -/
def saturatingAdd (a b : UInt64) : UInt64 :=
  if a.toNat + b.toNat < 2 ^ 64 then a + b else .ofNat (2 ^ 64 - 1)

/-- `u64::saturating_sub` -/
def saturatingSub (a b : UInt64) : UInt64 := if b ≤ a then a - b else 0

/-- `u32::saturating_sub` -/
def saturatingSub32 (a b : UInt32) : UInt32 := if b ≤ a then a - b else 0

/-- A product of `u64`, unless it overflows. -/
def checkedMul (a b : UInt64) : Option UInt64 :=
  if a.toNat * b.toNat < 2 ^ 64 then some (a * b) else none

theorem toNat_saturatingAdd (a b : UInt64) :
    (saturatingAdd a b).toNat = min (a.toNat + b.toNat) (2 ^ 64 - 1) := by
  rw [saturatingAdd]
  split_ifs with h
  · rw [UInt64.toNat_add, Nat.mod_eq_of_lt h]
    omega
  · rw [UInt64.toNat_ofNat']
    omega

theorem toNat_saturatingSub (a b : UInt64) :
    (saturatingSub a b).toNat = a.toNat - b.toNat := by
  rw [saturatingSub]
  split_ifs with h
  · exact UInt64.toNat_sub_of_le a b h
  · rw [UInt64.le_iff_toNat_le] at h
    rw [UInt64.toNat_zero]
    omega

theorem toNat_saturatingSub32 (a b : UInt32) :
    (saturatingSub32 a b).toNat = a.toNat - b.toNat := by
  rw [saturatingSub32]
  split_ifs with h
  · exact UInt32.toNat_sub_of_le a b h
  · rw [UInt32.le_iff_toNat_le] at h
    rw [UInt32.toNat_zero]
    omega

@[simp] theorem toNat_max32 (a b : UInt32) : (max a b).toNat = max a.toNat b.toNat := by
  change (if a ≤ b then b else a).toNat = _
  split_ifs with h
  · rw [UInt32.le_iff_toNat_le] at h
    omega
  · rw [UInt32.le_iff_toNat_le] at h
    omega

@[simp] theorem toNat_min32 (a b : UInt32) : (min a b).toNat = min a.toNat b.toNat := by
  change (if a ≤ b then a else b).toNat = _
  split_ifs with h
  · rw [UInt32.le_iff_toNat_le] at h
    omega
  · rw [UInt32.le_iff_toNat_le] at h
    omega

@[simp] theorem toNat_min64 (a b : UInt64) : (min a b).toNat = min a.toNat b.toNat := by
  change (if a ≤ b then a else b).toNat = _
  split_ifs with h
  · rw [UInt64.le_iff_toNat_le] at h
    omega
  · rw [UInt64.le_iff_toNat_le] at h
    omega

/-- A product that fits does not overflow. -/
theorem checkedMul_eq {a b : UInt64} (h : a.toNat * b.toNat < 2 ^ 64) :
    ∃ c, checkedMul a b = some c ∧ c.toNat = a.toNat * b.toNat := by
  refine ⟨a * b, if_pos h, ?_⟩
  rw [UInt64.toNat_mul, Nat.mod_eq_of_lt h]

/-! ### What is asked for -/

/-- `DEFAULT_PER_PAGE` -/
def defaultPerPage : UInt32 := 20

/-- `MAX_PER_PAGE` -/
def maxPerPage : UInt32 := 100

/-- `ListQuery`, as far as pages are computed from it. -/
structure ListQuery where
  page : Option UInt32
  perPage : Option UInt32
  deriving DecidableEq, Repr

namespace ListQuery

/-- `page_number` -/
def pageNumber (q : ListQuery) : UInt32 := max (q.page.getD 1) 1

/-- `items_per_page` -/
def itemsPerPage (q : ListQuery) : UInt32 :=
  min (max (q.perPage.getD defaultPerPage) 1) maxPerPage

/-- `offset`, unless it overflows. -/
def offset (q : ListQuery) : Option UInt64 :=
  checkedMul (saturatingSub32 q.pageNumber 1).toUInt64 q.itemsPerPage.toUInt64

theorem pageNumber_pos (q : ListQuery) : 0 < q.pageNumber.toNat := by
  rw [pageNumber, toNat_max32]
  exact Nat.lt_of_lt_of_le Nat.zero_lt_one (Nat.le_max_right _ _)

theorem itemsPerPage_pos (q : ListQuery) : 0 < q.itemsPerPage.toNat := by
  rw [itemsPerPage, toNat_min32, toNat_max32]
  exact Nat.lt_min.mpr ⟨Nat.lt_of_lt_of_le Nat.zero_lt_one (Nat.le_max_right _ _), by decide⟩

end ListQuery

/-! ### What is said of a page -/

/-- `PaginationMeta` -/
structure PaginationMeta where
  page : UInt32
  perPage : UInt32
  total : UInt64
  totalPages : UInt32
  hasNext : Bool
  hasPrev : Bool
  deriving DecidableEq, Repr

/-- `calculate_total_pages` -/
def calculateTotalPages (total : UInt64) (perPage : UInt32) : UInt32 :=
  let perPage := perPage.toUInt64
  let pages := saturatingSub (saturatingAdd total perPage) 1 / perPage
  (min pages (.ofNat (2 ^ 32 - 1))).toUInt32

namespace PaginationMeta

/-- `new` -/
def new (page perPage : UInt32) (total : UInt64) : PaginationMeta :=
  let perPage := if perPage = 0 then 1 else perPage
  let totalPages := calculateTotalPages total perPage
  ⟨page, perPage, total, totalPages, decide (page < totalPages), decide (1 < page)⟩

/-- `offset`, unless it overflows. -/
def offset (m : PaginationMeta) : Option UInt64 :=
  checkedMul (saturatingSub32 m.page 1).toUInt64 m.perPage.toUInt64

/-- **The items of a page**, by their index. -/
def window (m : PaginationMeta) : Set ℕ :=
  {i | ∃ offset ∈ m.offset,
    offset.toNat ≤ i ∧ i < min (offset.toNat + m.perPage.toNat) m.total.toNat}

end PaginationMeta

/-- `repository::Pagination` -/
structure Pagination where
  offset : UInt64
  limit : UInt64
  deriving DecidableEq, Repr

/-- `page`, unless it overflows. -/
def Pagination.page (pageNumber pageSize : UInt64) : Option Pagination :=
  (checkedMul (saturatingSub pageNumber 1) pageSize).map fun offset => ⟨offset, pageSize⟩

/-! ### The pages -/

section Pages

variable {page perPage : UInt32} {total : UInt64}

/-- **The saturating division is the one that rounds up.**  Where the sum saturates there are more
pages than are counted. -/
theorem toNat_calculateTotalPages (hper : 0 < perPage.toNat) :
    (calculateTotalPages total perPage).toNat
      = min (total.toNat ⌈/⌉ perPage.toNat) (2 ^ 32 - 1) := by
  have hlt := perPage.toNat_lt
  have htotal := total.toNat_lt
  have hpages : (saturatingSub (saturatingAdd total perPage.toUInt64) 1 / perPage.toUInt64).toNat
      = (min (total.toNat + perPage.toNat) (2 ^ 64 - 1) - 1) / perPage.toNat := by
    rw [UInt64.toNat_div, toNat_saturatingSub, toNat_saturatingAdd, UInt32.toNat_toUInt64]
    rfl
  rw [calculateTotalPages, UInt64.toNat_toUInt32, toNat_min64, hpages, Nat.ceilDiv_eq_add_pred_div]
  have hclamp : (UInt64.ofNat (2 ^ 32 - 1)).toNat = 2 ^ 32 - 1 := by decide
  rw [hclamp, Nat.mod_eq_of_lt (Nat.lt_of_le_of_lt (Nat.min_le_right _ _) (by decide))]
  by_cases hfits : total.toNat + perPage.toNat ≤ 2 ^ 64 - 1
  · rw [Nat.min_eq_left hfits]
  · -- both quotients are clamped
    have hclamped : ∀ m, 2 ^ 64 - 2 ≤ m → 2 ^ 32 - 1 ≤ m / perPage.toNat := by
      intro m hm
      rw [Nat.le_div_iff_mul_le hper]
      have hmul : (2 ^ 32 - 1) * perPage.toNat ≤ (2 ^ 32 - 1) * (2 ^ 32 - 1) :=
        Nat.mul_le_mul_left _ (by omega)
      omega
    rw [Nat.min_eq_right (Nat.le_of_not_le hfits),
      Nat.min_eq_right (hclamped (2 ^ 64 - 1 - 1) (by omega)),
      Nat.min_eq_right (hclamped (total.toNat + perPage.toNat - 1) (by omega))]

/-- The offset of a page fits. -/
theorem checkedMul_offset (perPage : UInt32) (hpage : 0 < page.toNat) :
    ∃ offset, checkedMul (saturatingSub32 page 1).toUInt64 perPage.toUInt64 = some offset ∧
      offset.toNat = (page.toNat - 1) * perPage.toNat := by
  have hsub : (saturatingSub32 page 1).toUInt64.toNat = page.toNat - 1 := by
    rw [UInt32.toNat_toUInt64, toNat_saturatingSub32]
    rfl
  have hlt := page.toNat_lt
  have hlt' := perPage.toNat_lt
  have hfits : (saturatingSub32 page 1).toUInt64.toNat * perPage.toUInt64.toNat < 2 ^ 64 := by
    rw [hsub, UInt32.toNat_toUInt64]
    calc (page.toNat - 1) * perPage.toNat
        ≤ (2 ^ 32 - 1) * (2 ^ 32 - 1) := Nat.mul_le_mul (by omega) (by omega)
      _ < 2 ^ 64 := by decide
  obtain ⟨offset, hoffset, hvalue⟩ := checkedMul_eq hfits
  exact ⟨offset, hoffset, by rw [hvalue, hsub, UInt32.toNat_toUInt64]⟩

/-- The window that is queried is that of the page. -/
theorem Pagination.page_eq (page perPage : UInt32) :
    Pagination.page page.toUInt64 perPage.toUInt64
      = (checkedMul (saturatingSub32 page 1).toUInt64 perPage.toUInt64).map
          fun offset => ⟨offset, perPage.toUInt64⟩ := by
  have hsub : saturatingSub page.toUInt64 1 = (saturatingSub32 page 1).toUInt64 := by
    rw [← UInt64.toNat_inj, toNat_saturatingSub, UInt32.toNat_toUInt64, UInt32.toNat_toUInt64,
      toNat_saturatingSub32]
    rfl
  rw [Pagination.page, hsub]

theorem PaginationMeta.new_perPage (page : UInt32) (total : UInt64)
    (hper : 0 < perPage.toNat) :
    (PaginationMeta.new page perPage total).perPage = perPage := by
  have hne : perPage ≠ 0 := by
    rintro rfl
    exact absurd hper (by decide)
  exact if_neg hne

theorem PaginationMeta.toNat_totalPages (page : UInt32) (total : UInt64)
    (hper : 0 < perPage.toNat) :
    (PaginationMeta.new page perPage total).totalPages.toNat
      = min (total.toNat ⌈/⌉ perPage.toNat) (2 ^ 32 - 1) := by
  have hsame := new_perPage page total hper
  rw [← toNat_calculateTotalPages hper]
  exact congrArg (fun n => (calculateTotalPages total n).toNat) hsame

/-- **The items of a page are a block** of all items. -/
theorem PaginationMeta.window_new (hpage : 0 < page.toNat) (hper : 0 < perPage.toNat) :
    (PaginationMeta.new page perPage total).window
      = block total.toNat perPage.toNat (page.toNat - 1) := by
  obtain ⟨offset, hoffset, hvalue⟩ := checkedMul_offset perPage hpage
  have hnew : (PaginationMeta.new page perPage total).offset = some offset := by
    rw [PaginationMeta.offset, new_perPage _ _ hper]
    exact hoffset
  ext i
  rw [window, Set.mem_ofPred_eq, hnew, new_perPage _ _ hper, block, Set.mem_Ico, ← hvalue]
  simp only [Option.mem_some_iff, exists_eq_left']
  rfl

/-- There is a next page where the page is not the last one or behind it. -/
theorem PaginationMeta.hasNext_iff (hper : 0 < perPage.toNat)
    (hfits : total.toNat ⌈/⌉ perPage.toNat < 2 ^ 32) :
    (PaginationMeta.new page perPage total).hasNext = true
      ↔ page.toNat < total.toNat ⌈/⌉ perPage.toNat := by
  have hpages := toNat_totalPages page total hper
  rw [Nat.min_eq_left (by omega)] at hpages
  rw [← hpages, ← UInt32.lt_iff_toNat_lt]
  exact decide_eq_true_iff

theorem PaginationMeta.hasPrev_iff :
    (PaginationMeta.new page perPage total).hasPrev = true ↔ 1 < page.toNat :=
  decide_eq_true_iff

end Pages

/-- What is said of the page that is asked for. -/
def ListQuery.describe (q : ListQuery) (total : UInt64) : PaginationMeta :=
  .new q.pageNumber q.itemsPerPage total

/-- **The pages tile the items**: there is one after the other, without a gap. -/
structure PagesTile (perPage : UInt32) (total : UInt64) (pages : ℕ) : Prop where
  nonempty : ∀ page : UInt32, 1 ≤ page.toNat → page.toNat ≤ pages →
    (PaginationMeta.new page perPage total).window.Nonempty
  disjoint : ∀ page page' : UInt32, 1 ≤ page.toNat → 1 ≤ page'.toNat → page ≠ page' →
    Disjoint (PaginationMeta.new page perPage total).window
      (PaginationMeta.new page' perPage total).window
  cover : ∀ i, i < total.toNat ↔ ∃ page : UInt32, 1 ≤ page.toNat ∧ page.toNat ≤ pages ∧
    i ∈ (PaginationMeta.new page perPage total).window
  hasNext : ∀ page : UInt32, (PaginationMeta.new page perPage total).hasNext = true ↔
    page.toNat < pages
  hasPrev : ∀ page : UInt32, (PaginationMeta.new page perPage total).hasPrev = true ↔
    1 < page.toNat

/-- As many pages as the quotient, rounded up, tile the items. -/
theorem pagesTile {perPage : UInt32} (hper : 0 < perPage.toNat) {total : UInt64}
    (hfits : total.toNat ⌈/⌉ perPage.toNat < 2 ^ 32) :
    PagesTile perPage total (total.toNat ⌈/⌉ perPage.toNat) where
  nonempty := by
    intro page hpage hle
    rw [PaginationMeta.window_new hpage hper, block_nonempty_iff hper]
    omega
  disjoint := by
    intro page page' hpage hpage' hne
    rw [PaginationMeta.window_new hpage hper, PaginationMeta.window_new hpage' hper]
    apply pairwise_disjoint_block hper
    intro heq
    exact hne (UInt32.toNat_inj.mp (by omega))
  cover := by
    intro i
    constructor
    · intro hi
      obtain ⟨k, hk, hmem⟩ := exists_block hper hi
      have hpage : (UInt32.ofNat (k + 1)).toNat = k + 1 :=
        UInt32.toNat_ofNat_of_lt' (show k + 1 < 2 ^ 32 by omega)
      refine ⟨.ofNat (k + 1), by omega, by omega, ?_⟩
      rw [PaginationMeta.window_new (by omega) hper, hpage]
      exact hmem
    · rintro ⟨page, hpage, -, hmem⟩
      rw [PaginationMeta.window_new hpage hper, mem_block] at hmem
      exact hmem.2.2
  hasNext _ := PaginationMeta.hasNext_iff hper hfits
  hasPrev _ := PaginationMeta.hasPrev_iff

/-- **Pagination is exact**, for every query and every number of items: the pages are counted in
spite of the arithmetic that saturates, the three offsets agree and none overflows, and pages that
can be counted tile the items. -/
theorem describe_spec (q : ListQuery) (total : UInt64) :
    (q.describe total).totalPages.toNat
        = min (total.toNat ⌈/⌉ q.itemsPerPage.toNat) (2 ^ 32 - 1) ∧
      (∃ offset : UInt64, offset.toNat = (q.pageNumber.toNat - 1) * q.itemsPerPage.toNat ∧
        (q.describe total).offset = some offset ∧ q.offset = some offset ∧
        Pagination.page q.pageNumber.toUInt64 q.itemsPerPage.toUInt64
          = some ⟨offset, q.itemsPerPage.toUInt64⟩) ∧
      (total.toNat ⌈/⌉ q.itemsPerPage.toNat < 2 ^ 32 →
        PagesTile q.itemsPerPage total (q.describe total).totalPages.toNat) := by
  have hper := q.itemsPerPage_pos
  have hpages : (q.describe total).totalPages.toNat
      = min (total.toNat ⌈/⌉ q.itemsPerPage.toNat) (2 ^ 32 - 1) :=
    PaginationMeta.toNat_totalPages _ _ hper
  refine ⟨hpages, ?_, fun hfits => ?_⟩
  · obtain ⟨offset, hoffset, hvalue⟩ := checkedMul_offset q.itemsPerPage
      q.pageNumber_pos
    refine ⟨offset, hvalue, ?_, hoffset, ?_⟩
    · rw [PaginationMeta.offset, ListQuery.describe, PaginationMeta.new_perPage _ _ hper]
      exact hoffset
    · rw [Pagination.page_eq, hoffset]
      rfl
  · rw [hpages, Nat.min_eq_left (by omega)]
    exact pagesTile hper hfits

/-- Five items, two on a page. -/
theorem describe_spec_sample :
    PagesTile 2 5 (ListQuery.describe ⟨some 3, some 2⟩ 5).totalPages.toNat :=
  (describe_spec ⟨some 3, some 2⟩ 5).2.2 (by decide)

end ActonService
