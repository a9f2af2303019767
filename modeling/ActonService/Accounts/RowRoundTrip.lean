import ActonService.Accounts.Handlers
import ActonService.Accounts.Rows

/-!
# Accounts read back from their rows

A row is the account it decodes to, which the model of the statements takes for granted.  Here
a backend is what it writes and how it reads (`AccountCodec`), and each of the three implements
those statements: the row of an account is created for what the statements store, and an update
leaves the row of what they leave.

What is not under the source is taken to return what was given to it (`Account.ReadsBack`): the
texts of times, of JSON and of an identifier, and the values of a `JSONB` column.

## Main definitions

* `AccountCodec` — what a backend writes and how it reads.
* `AccountCodec.Implements` — its rows stand for the accounts the statements store.
* `Account.ReadsBack` — the values of an account survive.
* `AccountCodec.rowAfter`, `Account.after` — a row and an account through updates.

## Main results

* `Turso.implements`, `Pg.implements`, `Surreal.implements` — **the three backends.**
* `Implements.rowAfter` — a row that is updated stands for the account that is.
* `rows_readBack` — **every row `create` and `update` write is read without a replacement.**
-/

namespace ActonService

/-! ### Codecs -/

/-- What a backend writes for accounts and how it reads. -/
structure AccountCodec where
  Row : Type
  /-- The row that `create` writes for an account at a time. -/
  create : Account → DateTime → Row
  /-- A row that `update` meets at a time. -/
  update : Account → DateTime → Row → Row
  rowToAccount : Row → Except String AccountReading

/-- The account that `row_to_account` makes of a row, with what it replaces unreadable fields by. -/
def AccountCodec.decode (codec : AccountCodec) (new : Replacements) (row : codec.Row) :
    Except String Account :=
  (codec.rowToAccount row).map fun reading => reading.account new

/-- A row that is created and then updated. -/
def AccountCodec.rowAfter (codec : AccountCodec) (account : Account) (insertedAt : DateTime)
    (updates : List (Account × DateTime)) : codec.Row :=
  updates.foldl (fun row u => codec.update u.1 u.2 row) (codec.create account insertedAt)

/-- The columns that are stored for an account behind its creation and these updates. -/
def Account.after (X : AccountExterns) (b : KeyBackend) (account : Account)
    (updates : List (Account × DateTime)) : Account :=
  updates.foldl (fun row u => u.1.rewritten X b u.2 row) (b.accountRow X account)

section Codecs

variable (Y : RowExterns)

def Turso.codec : AccountCodec where
  Row := Columns.Row SqliteValue
  create account _ := create (columnsOf Y account)
  update account now := update { columnsOf Y account with updatedAt := Y.toRfc3339 now }
  rowToAccount := rowToAccount Y

def Pg.codec : AccountCodec where
  Row := Columns.Row PgValue
  create account := create (columnsOf Y account)
  update account now :=
    update { columnsOf Y account with updatedAt := KeyBackend.postgres.column now }
  rowToAccount row := (columns Y row).map (ofRow Y)

/-- `CONTENT` replaces every field of a record. -/
def Surreal.codec (recordId : String → Json) : AccountCodec where
  Row := Record String
  create account _ := toRecord Y account
  update account _ record := { toRecord Y account with id := record.id }
  rowToAccount record := .ok (ofRow Y (row recordId record))

/-- The backends, at what SurrealDB returns for the identifier of a record. -/
def KeyBackend.accountCodec (recordId : String → Json) : KeyBackend → AccountCodec
  | .postgres => Pg.codec Y
  | .turso => Turso.codec Y
  | .surrealDb => Surreal.codec Y recordId

end Codecs

/-! ### What survives -/

/-- The text of a time parses back to it, where the backend writes one. -/
def KeyBackend.TimeReadsBack (b : KeyBackend) (Y : RowExterns) (t : DateTime) : Prop :=
  b ≠ .postgres → Y.parseFromRfc3339 (Y.toRfc3339 t) = .ok t

/-- What is not under the source returns the values of an account. -/
structure Account.ReadsBack (Y : RowExterns) (b : KeyBackend) (account : Account) : Prop where
  id : Y.parseTypeId account.id = .ok ("acct", account.id)
  /-- An identifier is made of letters, digits and underscores, so that the key of its record ends
  where it does. -/
  id_colon : ':' ∉ account.id.toList
  times : ∀ t ∈ account.times, b.TimeReadsBack Y t
  roles : Y.jsonFromStr (jsonText Y.numberText (stringsJson account.roles))
    = some (stringsJson account.roles)
  metadata : ∀ v ∈ account.metadata, Y.jsonFromStr (jsonText Y.numberText v) = some v
  rolesJsonb : Y.jsonb (stringsJson account.roles) = stringsJson account.roles
  metadataJsonb : ∀ v ∈ account.metadata, Y.jsonb v = v

/-- An account whose times went through the columns of a backend. -/
def Account.throughColumn (b : KeyBackend) (account : Account) : Account :=
  { account with
    emailVerifiedAt := account.emailVerifiedAt.map b.column
    lastLoginAt := account.lastLoginAt.map b.column
    lockedAt := account.lockedAt.map b.column
    disabledAt := account.disabledAt.map b.column
    expiresAt := account.expiresAt.map b.column
    passwordChangedAt := account.passwordChangedAt.map b.column
    createdAt := b.column account.createdAt
    updatedAt := b.column account.updatedAt }

/-- A `TIMESTAMPTZ` returns the microsecond of a time. -/
theorem toTimestamptz_column (t : DateTime) :
    (KeyBackend.postgres.column t).toTimestamptz = t.toTimestamptz := by
  show ((DateTime.ofTimestamptz t.toTimestamptz).getD t).toTimestamptz = t.toTimestamptz
  cases h : DateTime.ofTimestamptz t.toTimestamptz with
  | none => rfl
  | some t' =>
    rw [DateTime.ofTimestamptz, DateTime.fromTimestamp_eq_some_iff] at h
    show ((t'.secs - 946684800) * 1000000000 + t'.nanos).tdiv 1000 = t.toTimestamptz
    -- the microseconds of the one are those the other was made of
    have hns : (t'.secs - 946684800) * 1000000000 + t'.nanos = t.toTimestamptz * 1000 := by
      omega
    rw [hns, Int.mul_tdiv_cancel _ (by decide)]

section Accounts

variable {Y : RowExterns} {b : KeyBackend} {account row : Account}

theorem throughColumn_of_ne (hb : b ≠ .postgres) : account.throughColumn b = account := by
  have hcolumn : b.column = id := by
    cases b with
    | postgres => contradiction
    | turso => rfl
    | surrealDb => rfl
  rw [Account.throughColumn, hcolumn]
  simp only [Option.map_id_fun, id_eq]

/-- **What the statements store** is the account, but for its times. -/
theorem accountRow_of_readsBack (h : account.ReadsBack Y b) :
    b.accountRow Y.toAccountExterns account = account.throughColumn b := by
  have hmetadata : account.metadata.map Y.jsonb = account.metadata := by
    cases hm : account.metadata with
    | none => rfl
    | some v => rw [Option.map_some, h.metadataJsonb v hm]
  rw [KeyBackend.accountRow, Account.throughColumn, hmetadata, ite_self]

theorem accountRow_of_ne (X : AccountExterns) (hb : b ≠ .postgres) :
    b.accountRow X account = account := by
  have hrow : b.accountRow X account = account.throughColumn b := by
    rw [KeyBackend.accountRow, if_neg hb]
    rfl
  rw [hrow, throughColumn_of_ne hb]

/-- The times of a row that is set from an account. -/
theorem mem_times_set {id : String} {createdAt updatedAt t : DateTime}
    (h : t ∈ { account with id, createdAt, updatedAt : Account }.times) :
    t ∈ account.times ∨ t = createdAt ∨ t = updatedAt := by
  rw [Account.times, List.mem_append] at h
  rcases h with h | h
  · exact .inl (List.mem_append_left _ h)
  · exact .inr (List.mem_pair.mp h)

theorem readsBack_accountRow (h : account.ReadsBack Y b) :
    (b.accountRow Y.toAccountExterns account).ReadsBack Y b := by
  by_cases hb : b = .postgres
  · rw [accountRow_of_readsBack h]
    exact { h with times := fun _ _ hne => absurd hb hne }
  · rwa [accountRow_of_ne _ hb]

/-- What survives in an account and in a row survives in the row the account is set in. -/
theorem readsBack_rewritten {now : DateTime} (h : account.ReadsBack Y b)
    (hrow : row.ReadsBack Y b) (hnow : b.TimeReadsBack Y now) :
    (account.rewritten Y.toAccountExterns b now row).ReadsBack Y b := by
  have hstored := readsBack_accountRow h
  rw [Account.rewritten]
  split
  · -- SurrealDB keeps the identifier alone
    exact { hstored with id := hrow.id, id_colon := hrow.id_colon }
  · have hcreated : b.TimeReadsBack Y row.createdAt :=
      hrow.times row.createdAt (List.mem_append_right _ List.mem_cons_self)
    have hupdated : b.TimeReadsBack Y (b.column now) := by
      intro hb
      have hcolumn : b.column now = now := by
        cases b with
        | postgres => contradiction
        | turso => rfl
        | surrealDb => rfl
      rw [hcolumn]
      exact hnow hb
    refine { hstored with id := hrow.id, id_colon := hrow.id_colon, times := fun t ht => ?_ }
    obtain ht | rfl | rfl := mem_times_set ht
    · exact hstored.times t ht
    · exact hcreated
    · exact hupdated

end Accounts

/-! ### The backends -/

/-- The rows of a codec stand for the accounts the statements store. -/
structure AccountCodec.Implements (codec : AccountCodec) (Y : RowExterns) (b : KeyBackend)
    (stored : Account → codec.Row) : Prop where
  create : ∀ account now,
    codec.create account now = stored (b.accountRow Y.toAccountExterns account)
  update : ∀ account now row, codec.update account now (stored row)
    = stored (account.rewritten Y.toAccountExterns b now row)
  read : ∀ row : Account, row.ReadsBack Y b → codec.rowToAccount (stored row) = .ok (.of row)

section Backends

variable {Y : RowExterns} {b : KeyBackend} {account row : Account}

theorem accountIdFromStr_of_readsBack (h : account.ReadsBack Y b) :
    accountIdFromStr Y account.id = .ok account.id := by
  rw [accountIdFromStr, h.id]
  rfl

theorem rolesFromStr_of_readsBack (h : account.ReadsBack Y b) :
    Y.rolesFromStr (Y.rolesToString account.roles) = some account.roles := by
  rw [RowExterns.rolesFromStr, RowExterns.rolesToString, h.roles]
  exact stringsOfJson_stringsJson account.roles

theorem parseDatetime_of_readsBack (h : account.ReadsBack Y b) (hb : b ≠ .postgres) {t : DateTime}
    (ht : t ∈ account.times) : Y.parseDatetime (Y.toRfc3339 t) = some t := by
  rw [RowExterns.parseDatetime, h.times t ht hb]
  rfl

/-- A `u32` survives the way through an `i64`, as `row_to_account` takes it. -/
theorem toUInt32_toInt64 (n : UInt32) : n.toUInt64.toInt64.toUInt64.toUInt32 = n := by
  simp

theorem Turso.implements (Y : RowExterns) :
    (Turso.codec Y).Implements Y .turso fun row => rowOf (columnsOf Y row) where
  create account now := by
    have hstored : KeyBackend.turso.accountRow Y.toAccountExterns account = account :=
      accountRow_of_ne _ (by decide)
    rw [hstored]
    exact create_eq _
  update account now row := by
    have hstored : KeyBackend.turso.accountRow Y.toAccountExterns account = account :=
      accountRow_of_ne _ (by decide)
    rw [Account.rewritten, if_neg (by decide), hstored]
    exact update_rowOf _ _
  read row h := by
    show rowToAccount Y (rowOf (columnsOf Y row)) = .ok (.of row)
    rw [rowToAccount, columns_rowOf]
    refine congrArg Except.ok (reading_columns ?_ ?_ ?_ ?_ toUInt32_toInt64 h.metadata)
    · exact accountIdFromStr_of_readsBack h
    · decide
    · exact fun t ht => parseDatetime_of_readsBack h (by decide) ht
    · exact rolesFromStr_of_readsBack h

/-- The columns of an account that PostgreSQL stores. -/
def Pg.storedColumns (Y : RowExterns) (row : Account) : Columns :=
  row.columns id id id (Y.jsonb ∘ stringsJson) UInt32.toInt32 id

/-- A time or a value is changed when it is written, and what is stored is that. -/
theorem Pg.columnsOf_eq (Y : RowExterns) (account : Account) : columnsOf Y account
    = storedColumns Y (KeyBackend.postgres.accountRow Y.toAccountExterns account) := by
  rw [KeyBackend.accountRow, if_pos rfl]
  simp only [columnsOf, storedColumns, Account.columns, Option.map_id_fun, id_eq]

theorem Pg.implements (Y : RowExterns) :
    (Pg.codec Y).Implements Y .postgres fun row => rowOf (storedColumns Y row) where
  create account now := by
    rw [← columnsOf_eq]
    exact create_eq _ now
  update account now row := by
    show update { columnsOf Y account with updatedAt := KeyBackend.postgres.column now }
        (rowOf (storedColumns Y row)) = _
    rw [update_rowOf, columnsOf_eq, Account.rewritten, if_neg (by decide)]
    rfl
  read row h := by
    show (columns Y (rowOf (storedColumns Y row))).map (ofRow Y) = .ok (.of row)
    rw [columns_rowOf]
    refine congrArg Except.ok (reading_columns ?_ ?_ ?_ ?_ ?_ ?_)
    · exact accountIdFromStr_of_readsBack h
    · exact fun _ => rfl
    · exact fun _ _ => rfl
    · rw [Function.comp_apply, h.rolesJsonb]
      exact stringsOfJson_stringsJson row.roles
    · exact UInt32.toUInt32_toInt32
    · exact fun _ _ => rfl

theorem Surreal.implements (Y : RowExterns) {recordId : String → Json}
    (hrecordId : ∀ key, RecordIdOf key (recordId key)) :
    (Surreal.codec Y recordId).Implements Y .surrealDb (toRecord Y) where
  create account now := by
    have hstored : KeyBackend.surrealDb.accountRow Y.toAccountExterns account = account :=
      accountRow_of_ne _ (by decide)
    rw [hstored]
    rfl
  update account now row := by
    have hstored : KeyBackend.surrealDb.accountRow Y.toAccountExterns account = account :=
      accountRow_of_ne _ (by decide)
    rw [Account.rewritten, if_pos rfl, hstored]
    rfl
  read record h := by
    have hrow : row recordId (toRecord Y record)
        = record.columns recordId id Y.toRfc3339 Y.rolesToString (·.toUInt64.toInt64)
            (jsonText Y.numberText) := rfl
    show Except.ok (ofRow Y (row recordId (toRecord Y record))) = .ok (.of record)
    rw [hrow]
    refine congrArg Except.ok (reading_columns ?_ ?_ ?_ ?_ toUInt32_toInt64 h.metadata)
    · rw [Function.comp_apply, surrealIdText_of_recordIdOf h.id_colon (hrecordId record.id)]
      exact accountIdFromStr_of_readsBack h
    · exact fun _ => rfl
    · exact fun t ht => parseDatetime_of_readsBack h (by decide) ht
    · exact rolesFromStr_of_readsBack h

/-- Each backend implements the statements of the store: the account of the row it writes is the one
that was written. -/
theorem exists_implements (Y : RowExterns) {recordId : String → Json}
    (hrecordId : ∀ key, Surreal.RecordIdOf key (recordId key)) (b : KeyBackend) :
    ∃ stored, (b.accountCodec Y recordId).Implements Y b stored := by
  cases b with
  | postgres => exact ⟨_, Pg.implements Y⟩
  | turso => exact ⟨_, Turso.implements Y⟩
  | surrealDb => exact ⟨_, Surreal.implements Y hrecordId⟩

end Backends

/-! ### Runs -/

section Runs

variable {Y : RowExterns} {b : KeyBackend} {account : Account} {updates : List (Account × DateTime)}

/-- The values of every account and time that is written survive. -/
def UpdatesReadBack (Y : RowExterns) (b : KeyBackend) (updates : List (Account × DateTime)) :
    Prop :=
  ∀ u ∈ updates, u.1.ReadsBack Y b ∧ b.TimeReadsBack Y u.2

/-- **A row that is updated** stands for the account that is. -/
theorem AccountCodec.Implements.rowAfter {codec : AccountCodec} {stored : Account → codec.Row}
    (h : codec.Implements Y b stored) (insertedAt : DateTime) :
    codec.rowAfter account insertedAt updates
      = stored (account.after Y.toAccountExterns b updates) := by
  rw [AccountCodec.rowAfter, Account.after, h.create]
  exact List.foldl_hom stored fun row u => h.update u.1 u.2 row

/-- What survives in an account survives in what is stored for it. -/
theorem readsBack_after (h : account.ReadsBack Y b) (hupdates : UpdatesReadBack Y b updates) :
    (account.after Y.toAccountExterns b updates).ReadsBack Y b := by
  rw [Account.after]
  -- the row is what survives, update after update
  have hrow := readsBack_accountRow h
  generalize b.accountRow Y.toAccountExterns account = row at hrow ⊢
  induction updates generalizing row with
  | nil => exact hrow
  | cons u updates ih =>
    rw [List.foldl_cons]
    obtain ⟨hu, hnow⟩ := hupdates u List.mem_cons_self
    exact ih (fun u hmem => hupdates u (List.mem_cons_of_mem _ hmem)) _
      (readsBack_rewritten hu hrow hnow)

/-- The row of `create` is read as what the statements store. -/
theorem rowToAccount_create {recordId : String → Json}
    (hrecordId : ∀ key, Surreal.RecordIdOf key (recordId key)) (insertedAt : DateTime)
    (h : account.ReadsBack Y b) :
    (b.accountCodec Y recordId).rowToAccount ((b.accountCodec Y recordId).create account insertedAt)
      = .ok (.of (b.accountRow Y.toAccountExterns account)) := by
  obtain ⟨stored, himplements⟩ := exists_implements Y hrecordId b
  rw [himplements.create]
  exact himplements.read _ (readsBack_accountRow h)

/-- **A row that is created and updated** is read as what the statements store. -/
theorem rowToAccount_rowAfter {recordId : String → Json}
    (hrecordId : ∀ key, Surreal.RecordIdOf key (recordId key)) (insertedAt : DateTime)
    (h : account.ReadsBack Y b) (hupdates : UpdatesReadBack Y b updates) :
    (b.accountCodec Y recordId).rowToAccount
        ((b.accountCodec Y recordId).rowAfter account insertedAt updates)
      = .ok (.of (account.after Y.toAccountExterns b updates)) := by
  obtain ⟨stored, himplements⟩ := exists_implements Y hrecordId b
  rw [himplements.rowAfter insertedAt]
  exact himplements.read _ (readsBack_after h hupdates)

end Runs

/-! ### Samples -/

/-- The third-party functions at one identifier and the texts of a role. -/
def sampleRows : RowExterns where
  toAccountExterns :=
    { sampleAccountExterns with
      jsonFromStr text :=
        if text = "[\"admin\"]" then some (stringsJson ["admin"])
        else sampleStore.jsonFromStr text }
  parseTypeId text :=
    if text = "acct_01h455vb4pex5vsknk084sn02q" then .ok ("acct", text)
    else .error "invalid suffix"
  wrongType := "invalid column type"

/-- An account with an expiry and with metadata, whose expiry has more digits than some columns
keep. -/
def sampleAccount (email : String) : Account :=
  { sampleStored "acct_01h455vb4pex5vsknk084sn02q" email "$argon2id$a"
      (some (sampleTime 123456789)) with
    metadata := some sampleMetadata }

/-- The identifiers of an older SurrealDB, which serializes one as an object with the table and the
key. -/
def sampleRecordId (key : String) : Json :=
  .object [("tb", .string "accounts"), ("id", .object [("String", .string key)])]

theorem jsonFromStr_sampleRows (text : String) : sampleRows.jsonFromStr text
    = if text = "[\"admin\"]" then some (stringsJson ["admin"]) else sampleStore.jsonFromStr text :=
  rfl

theorem readsBack_sampleAccount (email : String) :
    (sampleAccount email).ReadsBack sampleRows .surrealDb where
  id := rfl
  id_colon := by
    show ':' ∉ "acct_01h455vb4pex5vsknk084sn02q".toList
    decide
  times := by
    have hall : ∀ t ∈ [sampleTime 0, sampleTime 123456789],
        sampleStore.parseFromRfc3339 (sampleStore.toRfc3339 t) = .ok t := by decide
    intro t ht _
    have hmem : t ∈ [sampleTime 0, sampleTime 123456789, sampleTime 0, sampleTime 0,
      sampleTime 0] := ht
    exact hall t (by simpa [or_comm, or_assoc, or_left_comm] using hmem)
  roles := by
    have htext : jsonText sampleRows.numberText (stringsJson ["admin"]) = "[\"admin\"]" := by decide
    rw [jsonFromStr_sampleRows]
    exact if_pos htext
  metadata := by
    intro v hv
    obtain rfl : sampleMetadata = v := Option.some.inj hv
    have hne : jsonText sampleRows.numberText sampleMetadata ≠ "[\"admin\"]" := by decide
    have hstore : sampleStore.jsonFromStr (jsonText sampleStore.numberText sampleMetadata)
        = some sampleMetadata := by
      simp [sampleStore, sampleExterns]
    rw [jsonFromStr_sampleRows, if_neg hne]
    exact hstore
  rolesJsonb := rfl
  metadataJsonb _ _ := rfl

/-- **Every row the backends write is read without a replacement.**  The row of `create` is read
as the account, by PostgreSQL with the microseconds of its times, whatever the reading would
replace; and so is a row after updates as what they leave. -/
theorem rows_readBack (Y : RowExterns) (recordId : String → Json)
    (hrecordId : ∀ key, Surreal.RecordIdOf key (recordId key)) (b : KeyBackend)
    (insertedAt : DateTime) {account : Account} (h : account.ReadsBack Y b) :
    let codec := b.accountCodec Y recordId
    (∀ new, codec.decode new (codec.create account insertedAt) = .ok (account.throughColumn b)) ∧
      (b ≠ .postgres → account.throughColumn b = account) ∧
      (∀ t, (KeyBackend.postgres.column t).toTimestamptz = t.toTimestamptz) ∧
      ∀ updates, UpdatesReadBack Y b updates →
        ∃ reading, codec.rowToAccount (codec.rowAfter account insertedAt updates) = .ok reading ∧
          reading.Complete ∧
          ∀ new, reading.account new = account.after Y.toAccountExterns b updates := by
  intro codec
  refine ⟨fun new => ?_, throughColumn_of_ne, toTimestamptz_column, fun updates hupdates => ?_⟩
  · have hread : codec.rowToAccount (codec.create account insertedAt)
        = .ok (.of (b.accountRow Y.toAccountExterns account)) :=
      rowToAccount_create hrecordId insertedAt h
    rw [AccountCodec.decode, hread, accountRow_of_readsBack h]
    rfl
  · have hread := rowToAccount_rowAfter hrecordId insertedAt h hupdates
    exact ⟨_, hread, AccountReading.complete_of _, fun _ => rfl⟩

theorem rows_readBack_sample :
    let codec := KeyBackend.surrealDb.accountCodec sampleRows sampleRecordId
    let updates := [(sampleAccount "b@example.com", sampleTime 123456000)]
    (∀ new, codec.decode new (codec.create (sampleAccount "a@example.com") (sampleTime 0))
        = .ok ((sampleAccount "a@example.com").throughColumn .surrealDb)) ∧
      ∃ reading, codec.rowToAccount (codec.rowAfter (sampleAccount "a@example.com") (sampleTime 0)
        updates) = .ok reading ∧ reading.Complete := by
  have h := rows_readBack sampleRows sampleRecordId (fun _ => .wrapped rfl rfl) .surrealDb
    (sampleTime 0) (readsBack_sampleAccount "a@example.com")
  refine ⟨h.1, ?_⟩
  obtain ⟨reading, hread, hcomplete, -⟩ := h.2.2.2 [(sampleAccount "b@example.com",
    sampleTime 123456000)] fun u hu => by
      obtain rfl := List.mem_singleton.mp hu
      exact ⟨readsBack_sampleAccount "b@example.com", fun _ => by decide⟩
  exact ⟨reading, hread, hcomplete⟩

end ActonService
