import ActonService.Auth.RefreshRotation
import ActonService.Audit.Timestamps

/-!
# Expiry of refresh tokens on Turso

`TursoRefreshStorage` of `auth/tokens/refresh.rs` keeps when a token expires as the text
`to_rfc3339` writes and lets SQLite compare it with `datetime('now')`.  The one has a `T`
between the date and the time of day, the other a space, which sorts before it.  So a token of
the current day counts as not expired until the day is over, whatever its time of day.  A year
of more than four digits is written with a sign, which sorts before every digit.

PostgreSQL and SurrealDB compare times with times.

## Main definitions

* `TursoTokens` — the table: rows that were written for tokens, under distinct identifiers.
* `TursoTokens.store`, `get`, `cleanupExpired` and the revocations — the functions.
* `TursoTokens.ExpiryExact` — what expiry should do to a token.

## Main results

* `rfc3339_lt_sqliteNow_iff`, `sqliteNow_lt_rfc3339_iff` — what the comparisons tell.
* `turso_expiry_exact_iff` — when expiry does what it should.
-/

namespace ActonService

open Decimal Calendar

/-! ### The table -/

/-- The third-party functions a token is written and read with. -/
structure RefreshTexts where
  /-- `DateTime::to_rfc3339` -/
  toRfc3339 : DateTime → String
  /-- `DateTime::parse_from_rfc3339` -/
  parseFromRfc3339 : String → Option DateTime
  /-- `serde_json::to_string` of the metadata. -/
  metadataToString : RefreshTokenMetadata → String
  /-- `serde_json::from_str` of the metadata. -/
  metadataFromStr : String → Option RefreshTokenMetadata

/-- A row of `refresh_tokens`, each column with the type it has in SQLite. -/
structure TursoTokenRow where
  id : String
  userId : String
  familyId : String
  expiresAt : String
  metadata : String
  isRevoked : Int64
  deriving DecidableEq

/-- The row of a token: times as texts, metadata as JSON, and the flag as an integer. -/
def tursoTokenRow (X : RefreshTexts) (d : RefreshTokenData) : TursoTokenRow where
  id := d.tokenId
  userId := d.userId
  familyId := d.familyId
  expiresAt := X.toRfc3339 d.expiresAt
  metadata := X.metadataToString d.metadata
  isRevoked := if d.isRevoked then 1 else 0

/-- `RefreshTokenMetadata::default` -/
def RefreshTokenMetadata.default (now : DateTime) : RefreshTokenMetadata := ⟨none, none, none, now⟩

/-- The token a row is read as.  What cannot be read is replaced, the time by the present. -/
def tursoTokenData (X : RefreshTexts) (now : DateTime) (row : TursoTokenRow) :
    RefreshTokenData where
  tokenId := row.id
  userId := row.userId
  familyId := row.familyId
  isRevoked := row.isRevoked != 0
  expiresAt := (X.parseFromRfc3339 row.expiresAt).getD now
  metadata := (X.metadataFromStr row.metadata).getD (.default now)

/-- `datetime('now')`, up to the year 9999. -/
def sqliteNow (now : DateTime) : String :=
  String.ofList (dateText now.date
    (' ' :: clockText (now.secondOfDay / 3600) (now.secondOfDay / 60 % 60)
      (now.secondOfDay % 60) []))

/-- The table `refresh_tokens` as the service fills it: no identifier twice, and each row that of a
token. -/
structure TursoTokens (X : RefreshTexts) where
  rows : List TursoTokenRow
  /-- The primary key: no two rows have one identifier. -/
  unique : (rows.map (·.id)).Nodup
  /-- Rows are written by `store` and changed by revocations only. -/
  written : ∀ row ∈ rows, ∃ d : RefreshTokenData, row = tursoTokenRow X d

namespace TursoTokens

variable {X : RefreshTexts}

/-- An empty table. -/
def empty : TursoTokens X := ⟨[], List.nodup_nil, by simp⟩

theorem unique_store {t : TursoTokens X} {new : NewToken}
    (h : ¬ t.rows.any (fun row => row.id = new.tokenId) = true) :
    ((t.rows ++ [tursoTokenRow X new.data]).map (·.id)).Nodup := by
  rw [List.map_append, List.nodup_append]
  refine ⟨t.unique, List.nodup_singleton _, ?_⟩
  intro id hid id' hid' heq
  obtain ⟨row, hrow, rfl⟩ := List.mem_map.mp hid
  have hnew : id' = new.tokenId := List.mem_singleton.mp hid'
  apply h
  rw [List.any_eq_true]
  exact ⟨row, hrow, decide_eq_true (heq.trans hnew)⟩

theorem written_store (t : TursoTokens X) (new : NewToken) :
    ∀ row ∈ t.rows ++ [tursoTokenRow X new.data], ∃ d, row = tursoTokenRow X d := by
  intro row hrow
  rcases List.mem_append.mp hrow with hold | hnew
  · exact t.written row hold
  · exact ⟨new.data, List.mem_singleton.mp hnew⟩

/-- `store` -/
def store (t : TursoTokens X) (new : NewToken) : Except RefreshError (TursoTokens X) :=
  if h : t.rows.any (fun row => row.id = new.tokenId) = true then
    .error (.internal ("Failed to store refresh token: " ++ uniqueViolation))
  else .ok ⟨t.rows ++ [tursoTokenRow X new.data], unique_store h, t.written_store new⟩

/-- `WHERE id = ?1 AND expires_at > datetime('now')` -/
def selected (tokenId : String) (now : DateTime) (row : TursoTokenRow) : Bool :=
  row.id = tokenId && sqliteNow now < row.expiresAt

/-- `get` -/
def get (t : TursoTokens X) (tokenId : String) (now : DateTime) (fault : DbFault) :
    Except RefreshError (Option RefreshTokenData) :=
  match fault with
  | .none => .ok ((t.rows.find? (selected tokenId now)).map (tursoTokenData X now))
  | .unreachable e | .rejected e => .error (.internal ("Failed to get refresh token: " ++ e))
  | .lostReply e => .error (.internal ("Failed to fetch row: " ++ e))

/-- `SET is_revoked = 1` -/
def revokeRowWhere (p : TursoTokenRow → Bool) (row : TursoTokenRow) : TursoTokenRow :=
  if p row then { row with isRevoked := 1 } else row

theorem revokeRowWhere_id (p : TursoTokenRow → Bool) (row : TursoTokenRow) :
    (revokeRowWhere p row).id = row.id := by
  unfold revokeRowWhere
  split <;> rfl

/-- `UPDATE refresh_tokens SET is_revoked = 1` -/
def revokeWhere (t : TursoTokens X) (p : TursoTokenRow → Bool) : TursoTokens X where
  rows := t.rows.map (revokeRowWhere p)
  unique := by
    rw [List.map_map]
    have hid : (fun row => row.id) ∘ revokeRowWhere p = fun row => row.id := by
      funext row
      exact revokeRowWhere_id p row
    rw [hid]
    exact t.unique
  written := by
    intro row' hrow'
    obtain ⟨row, hrow, rfl⟩ := List.mem_map.mp hrow'
    obtain ⟨d, rfl⟩ := t.written row hrow
    unfold revokeRowWhere
    split
    · exact ⟨{ d with isRevoked := true }, rfl⟩
    · exact ⟨d, rfl⟩

/-- `revoke` -/
def revoke (t : TursoTokens X) (tokenId : String) : TursoTokens X :=
  t.revokeWhere fun row => row.id = tokenId

/-- `revoke_family` -/
def revokeFamily (t : TursoTokens X) (familyId : String) : TursoTokens X :=
  t.revokeWhere fun row => row.familyId = familyId

/-- `revoke_all_for_user` -/
def revokeAllForUser (t : TursoTokens X) (userId : String) : TursoTokens X :=
  t.revokeWhere fun row => row.userId = userId

/-- `expires_at < datetime('now')` -/
def outdated (now : DateTime) (row : TursoTokenRow) : Bool := row.expiresAt < sqliteNow now

/-- `DELETE FROM refresh_tokens WHERE expires_at < datetime('now')` -/
def deleteOutdated (t : TursoTokens X) (now : DateTime) : TursoTokens X where
  rows := t.rows.filter fun row => !outdated now row
  unique := t.unique.sublist (List.filter_sublist.map _)
  written row hrow := t.written row (List.mem_of_mem_filter hrow)

/-- `cleanup_expired` -/
def cleanupExpired (t : TursoTokens X) (now : DateTime) (fault : DbFault) :
    Except RefreshError UInt64 × TursoTokens X :=
  match fault with
  | .none => (.ok (.ofNat (t.rows.filter (outdated now)).length), t.deleteOutdated now)
  | .unreachable e | .rejected e =>
    (.error (.internal ("Failed to cleanup expired tokens: " ++ e)), t)
  | .lostReply e =>
    (.error (.internal ("Failed to cleanup expired tokens: " ++ e)), t.deleteOutdated now)

/-- What expiry should do to a token in the table: `get` returns it if and only if it expires
later than now, and `cleanup_expired` removes it if and only if it does not. -/
def ExpiryExact (t : TursoTokens X) (d : RefreshTokenData) (now : DateTime) : Prop :=
  ((∃ data, t.get d.tokenId now .none = .ok (some data) ∧ data.tokenId = d.tokenId) ↔
      now < d.expiresAt) ∧
    (tursoTokenRow X d ∉ (t.cleanupExpired now .none).2.rows ↔ ¬ now < d.expiresAt)

end TursoTokens

/-! ### What the comparisons tell -/

theorem sqliteNow_toList (now : DateTime) :
    (sqliteNow now).toList = dateText now.date
      (' ' :: clockText (now.secondOfDay / 3600) (now.secondOfDay / 60 % 60)
        (now.secondOfDay % 60) []) := String.toList_ofList

/-- A text of a year that takes a sign begins before every digit. -/
theorem dateText_of_not_fourDigit {d : Date} (h : ¬ (0 ≤ d.year ∧ d.year ≤ 9999))
    (rest : List Char) : ∃ c r, dateText d rest = c :: r ∧ BeforeDigits c := by
  rw [dateText, yearText, if_neg h, List.cons_append]
  refine ⟨_, _, rfl, ?_⟩
  split <;> decide

theorem dateText_of_fourDigit {d : Date} (h : 0 ≤ d.year ∧ d.year ≤ 9999) (rest : List Char) :
    ∃ r, dateText d rest = digits 4 d.year.toNat ++ r := by
  rw [dateText, yearText_of_fourDigit h]
  exact ⟨_, rfl⟩

section Compare

variable {t now : DateTime}

theorem dayNumber_lt_of_year_lt (h : t.date.year < now.date.year) :
    t.dayNumber < now.dayNumber := by
  have hday : t.date < now.date := .inl h
  exact (dateOf_lt_dateOf_iff _ _).mp hday

/-- A year that takes a sign is long over, or far ahead. -/
theorem over_or_ahead_of_not_fourDigit (hnow : now.FourDigitYear) (h : ¬ t.FourDigitYear) :
    t.date.year < now.date.year ∧ t.date.year ≤ 9999 ∨
      now.date.year < t.date.year ∧ 9999 < t.date.year := by
  have hyear := now.fourDigitYear_iff.mp hnow
  rw [DateTime.fourDigitYear_iff] at h
  omega

/-- The text of a year that takes a sign sorts before `datetime('now')`. -/
theorem rfc3339_lt_sqliteNow_of_not_fourDigit (hnow : now.FourDigitYear)
    (h : ¬ t.FourDigitYear) : t.rfc3339 < sqliteNow now := by
  obtain ⟨c, r, hc, hbefore⟩ :=
    dateText_of_not_fourDigit (mt t.fourDigitYear_iff.mpr h) ('T' :: _)
  obtain ⟨r', hr'⟩ := dateText_of_fourDigit (now.fourDigitYear_iff.mp hnow) (' ' :: _)
  rw [String.lt_iff, sqliteNow_toList, DateTime.rfc3339, String.toList_ofList, hc, hr']
  exact cons_lt_digits_append hbefore r r' 3 _

/-- A stored time sorts before `datetime('now')` if its day is over, or if its year takes a
sign. -/
theorem rfc3339_lt_sqliteNow_iff (hnow : now.FourDigitYear) :
    t.rfc3339 < sqliteNow now ↔ t.dayNumber < now.dayNumber ∨ 9999 < t.date.year := by
  by_cases ht : t.FourDigitYear
  · have hspace : ¬ 'T' < ' ' := by decide
    have hne : ¬ 'T' = ' ' := by decide
    have hyear := (t.fourDigitYear_iff.mp ht).2
    rw [String.lt_iff, sqliteNow_toList, DateTime.rfc3339, String.toList_ofList,
      dateText_date_lt_iff ht hnow, List.cons_lt_cons_iff]
    simp only [hspace, hne, false_and, or_false, and_false]
    omega
  · refine iff_of_true (rfc3339_lt_sqliteNow_of_not_fourDigit hnow ht) ?_
    rcases over_or_ahead_of_not_fourDigit hnow ht with ⟨hlt, -⟩ | ⟨-, hgt⟩
    · exact .inl (dayNumber_lt_of_year_lt hlt)
    · exact .inr hgt

/-- It sorts after it if its day is not over: on the day itself the `T` is after the space. -/
theorem sqliteNow_lt_rfc3339_iff (hnow : now.FourDigitYear) :
    sqliteNow now < t.rfc3339 ↔ now.dayNumber ≤ t.dayNumber ∧ t.date.year ≤ 9999 := by
  by_cases ht : t.FourDigitYear
  · have hspace : ' ' < 'T' := by decide
    have hyear := (t.fourDigitYear_iff.mp ht).2
    rw [String.lt_iff, sqliteNow_toList, DateTime.rfc3339, String.toList_ofList,
      dateText_date_lt_iff hnow ht, List.cons_lt_cons_iff]
    simp only [hspace, true_or, and_true]
    omega
  · -- the text of such a year is before every `datetime('now')`
    have hlt := rfc3339_lt_sqliteNow_of_not_fourDigit hnow ht
    refine iff_of_false (List.lt_asymm hlt) ?_
    rintro ⟨hday, hle⟩
    rcases over_or_ahead_of_not_fourDigit hnow ht with ⟨hlt, -⟩ | ⟨-, hgt⟩
    · have := dayNumber_lt_of_year_lt hlt
      omega
    · omega

theorem DateTime.lt_of_dayNumber_lt (h : t.dayNumber < now.dayNumber) : t < now := by
  unfold dayNumber at h
  rw [lt_iff]
  omega

end Compare

/-! ### Expiry -/

namespace TursoTokens

variable {X : RefreshTexts} {t : TursoTokens X} {d : RefreshTokenData}

/-- `get` returns a token of the table if SQLite takes its text to be later than now. -/
theorem get_some_iff (hd : tursoTokenRow X d ∈ t.rows) (now : DateTime) :
    (∃ data, t.get d.tokenId now .none = .ok (some data) ∧ data.tokenId = d.tokenId) ↔
      sqliteNow now < X.toRfc3339 d.expiresAt := by
  simp only [get, Except.ok.injEq, Option.map_eq_some_iff]
  constructor
  · rintro ⟨data, ⟨row, hfind, -⟩, -⟩
    have hselected := List.find?_some hfind
    rw [selected, Bool.and_eq_true, decide_eq_true_eq, decide_eq_true_eq] at hselected
    -- the row with the identifier of the token is its own
    have hrow : row = tursoTokenRow X d :=
      List.inj_on_of_nodup_map t.unique (List.mem_of_find?_eq_some hfind) hd hselected.1
    rw [hrow] at hselected
    exact hselected.2
  · intro hlt
    have hselected : selected d.tokenId now (tursoTokenRow X d) = true := by
      rw [selected, Bool.and_eq_true]
      exact ⟨decide_eq_true rfl, decide_eq_true hlt⟩
    have hsome : (t.rows.find? (selected d.tokenId now)).isSome = true := by
      rw [List.find?_isSome]
      exact ⟨_, hd, hselected⟩
    obtain ⟨row, hrow⟩ := Option.isSome_iff_exists.mp hsome
    have hid := List.find?_some hrow
    rw [selected, Bool.and_eq_true, decide_eq_true_eq] at hid
    exact ⟨_, ⟨row, hrow, rfl⟩, hid.1⟩

/-- `cleanup_expired` removes a token of the table if SQLite takes its text to be before now. -/
theorem notMem_cleanupExpired_iff (hd : tursoTokenRow X d ∈ t.rows) (now : DateTime) :
    tursoTokenRow X d ∉ (t.cleanupExpired now .none).2.rows ↔
      X.toRfc3339 d.expiresAt < sqliteNow now := by
  show tursoTokenRow X d ∉ t.rows.filter (fun row => !outdated now row) ↔ _
  rw [List.mem_filter, Bool.not_eq_true', outdated, decide_eq_false_iff_not]
  show ¬ (_ ∧ ¬ X.toRfc3339 d.expiresAt < sqliteNow now) ↔ _
  rw [not_and, not_not]
  exact ⟨fun h => h hd, fun h _ => h⟩

end TursoTokens

/-- **Expiry is exact unless it is the day of the token.**  `get` and `cleanup_expired` treat a
token of the table as its time says if and only if its year has at most four digits and, where
it has expired, it has done so on an earlier UTC day. -/
theorem turso_expiry_exact_iff {X : RefreshTexts} (hX : X.toRfc3339 = DateTime.rfc3339)
    (t : TursoTokens X) (d : RefreshTokenData) (hd : tursoTokenRow X d ∈ t.rows) (now : DateTime)
    (hnow : now.FourDigitYear) :
    t.ExpiryExact d now ↔
      d.expiresAt.date.year ≤ 9999 ∧
        (d.expiresAt ≤ now → d.expiresAt.dayNumber < now.dayNumber) := by
  rw [TursoTokens.ExpiryExact, TursoTokens.get_some_iff hd,
    TursoTokens.notMem_cleanupExpired_iff hd, hX, sqliteNow_lt_rfc3339_iff hnow,
    rfc3339_lt_sqliteNow_iff hnow, DateTime.le_iff_not_lt]
  have hnowYear := (now.fourDigitYear_iff.mp hnow).2
  constructor
  · rintro ⟨hget, hcleanup⟩
    by_cases hlt : now < d.expiresAt
    · exact ⟨(hget.mpr hlt).2, fun hnot => absurd hlt hnot⟩
    · rcases hcleanup.mpr hlt with hday | hyear
      · refine ⟨?_, fun _ => hday⟩
        by_contra hgt
        have hfuture := dayNumber_lt_of_year_lt (lt_of_le_of_lt hnowYear (not_le.mp hgt))
        omega
      · -- a year of five digits is in the future
        have hfuture := dayNumber_lt_of_year_lt (lt_of_le_of_lt hnowYear hyear)
        exact absurd (DateTime.lt_of_dayNumber_lt hfuture) hlt
  · rintro ⟨hyear, hexpired⟩
    by_cases hlt : now < d.expiresAt
    · have hday : now.dayNumber ≤ d.expiresAt.dayNumber := by
        by_contra hnot
        have hlt' := DateTime.lt_of_dayNumber_lt (not_le.mp hnot)
        rw [DateTime.lt_iff] at hlt hlt'
        omega
      exact ⟨iff_of_true ⟨hday, hyear⟩ hlt, iff_of_false (by omega) (not_not.mpr hlt)⟩
    · have hday := hexpired hlt
      exact ⟨iff_of_false (by omega) hlt, iff_of_true (.inl hday) hlt⟩

/-! ### A token of the day -/

/-- A time some seconds after that of the samples. -/
def sampleSecondsOn (secs : Fin 1000000) : DateTime :=
  ⟨1749983400 + secs, 0, by decide, by omega, by omega⟩

def sampleTokenMetadata : RefreshTokenMetadata := .default (sampleSecondsOn 0)

/-- The token of a session that ends half an hour after the sample time. -/
def sampleSession : NewToken where
  tokenId := "rt-1"
  userId := "user-7"
  familyId := "family-3"
  expiresAt := sampleSecondsOn 1800
  metadata := sampleTokenMetadata

/-- The third-party functions at the sample token. -/
def sampleRefreshTexts : RefreshTexts where
  toRfc3339 := DateTime.rfc3339
  parseFromRfc3339 text :=
    if text = "2025-06-15T11:00:00+00:00" then some (sampleSecondsOn 1800) else none
  metadataToString metadata :=
    if metadata = sampleTokenMetadata then
      "\x7b\"user_agent\":null,\"ip_address\":null,\"device_id\":null,"
        ++ "\"created_at\":\"2025-06-15T10:30:00Z\"\x7d"
    else ""
  metadataFromStr text :=
    if text = "" then none else some sampleTokenMetadata

/-- The table with the sample token. -/
def sampleTokens : TursoTokens sampleRefreshTexts where
  rows := [tursoTokenRow sampleRefreshTexts sampleSession.data]
  unique := List.nodup_singleton _
  written := by
    intro row hrow
    exact ⟨_, List.mem_singleton.mp hrow⟩

/-- The token counts as good until midnight, and is exact on the next day. -/
theorem turso_expiry_exact_iff_sample :
    ¬ sampleTokens.ExpiryExact sampleSession.data (sampleSecondsOn 3600) ∧
      sampleTokens.ExpiryExact sampleSession.data (sampleSecondsOn 86400) := by
  have hiff : ∀ now : DateTime, now.FourDigitYear →
      (sampleTokens.ExpiryExact sampleSession.data now ↔
        sampleSession.expiresAt.date.year ≤ 9999 ∧
          (sampleSession.expiresAt ≤ now → sampleSession.expiresAt.dayNumber < now.dayNumber)) :=
    fun now hnow => turso_expiry_exact_iff rfl sampleTokens sampleSession.data
      (List.mem_singleton.mpr rfl) now hnow
  rw [hiff _ ⟨by decide, by decide⟩, hiff _ ⟨by decide, by decide⟩]
  decide

/-- A token is stored at 10:30 until 11:00.  At 11:30 of that day `get` returns it, and
`cleanup_expired` keeps it. -/
theorem not_expiryExact_same_day :
    TursoTokens.empty.store sampleSession = .ok sampleTokens ∧
      sampleSession.expiresAt < sampleSecondsOn 3600 ∧
      ¬ sampleTokens.ExpiryExact sampleSession.data (sampleSecondsOn 3600) := by
  refine ⟨rfl, by decide, fun hexact => ?_⟩
  have hlater : ¬ sampleSecondsOn 3600 < sampleSession.data.expiresAt := by decide
  have hmem : tursoTokenRow sampleRefreshTexts sampleSession.data ∈ sampleTokens.rows :=
    List.mem_singleton.mpr rfl
  apply hlater
  rw [← hexact.1, TursoTokens.get_some_iff hmem]
  exact (sqliteNow_lt_rfc3339_iff ⟨by decide, by decide⟩).mpr (by decide)

end ActonService
