import ActonService.Accounts.Storage
import ActonService.Lib.Columns
import Mathlib.Data.List.ReduceOption

/-!
# Rows of the accounts table

The rows `create` and `update` write for an account and how they are read back
(`accounts/storage/pg.rs`, `turso.rs`, `surrealdb_impl.rs`).  The three tables have the same columns
at different types.  PostgreSQL rows are read by the names of the columns, Turso rows by their
positions, SurrealDB records field by field.

What cannot be parsed is replaced: an identifier by a fresh one, a status by the first, roles by
none and a time by the current one.  A database returns the column values it was given, but for two
columns of PostgreSQL: `TIMESTAMPTZ` keeps microseconds, and `JSONB` returns a value of its own.

## Main definitions

* `AccountColumns` — the columns of an account, at the types of a backend.
* `AccountReading` — an account as it is read, before anything is replaced.
* `Turso.create`, `Turso.update`, `Pg.create`, `Pg.update`, `Surreal.toRecord` — what is written.
* `Turso.rowToAccount`, `Pg.ofRow`, `Surreal.ofRow` — the readings.

## Main results

* `reading_columns` — columns whose ways of writing and reading go together.
* `Turso.columns_rowOf`, `Pg.columns_rowOf` — **each column is read as what was written to it.**
* `Turso.update_rowOf`, `Pg.update_rowOf` — what an update leaves.
* `Surreal.surrealIdText_of_recordIdOf` — the key is found in a record's identifier.
-/

namespace ActonService

open Columns

/-! ### Identifiers -/

/-- The functions rows are written and read with that are not under the source. -/
structure RowExterns extends AccountExterns where
  /-- `MagicTypeId::from_str`: the prefix and the text, or the text of the error. -/
  parseTypeId : String → Except String (String × String)
  /-- What a driver says of a value that is not of the type asked for. -/
  wrongType : String

/-- A time of a text, where it is one. -/
def RowExterns.parseDatetime (Y : RowExterns) (s : String) : Option DateTime :=
  (Y.parseFromRfc3339 s).toOption

/-- The text that the roles of an account are kept as, which is a JSON array of strings. -/
def RowExterns.rolesToString (Y : RowExterns) (roles : List String) : String :=
  jsonText Y.numberText (stringsJson roles)

/-- Roles of a text, where it is that of some. -/
def RowExterns.rolesFromStr (Y : RowExterns) (s : String) : Option (List String) :=
  (Y.jsonFromStr s).bind stringsOfJson

/-- `AccountId::from_str`, or the text of its error. -/
def accountIdFromStr (Y : RowExterns) (s : String) : Except String String := do
  let mti ← (Y.parseTypeId s).mapError ("failed to parse account ID: " ++ ·)
  if mti.1 ≠ "acct" then
    .error ("invalid prefix: expected 'acct', got '" ++ mti.1 ++ "'")
  else .ok mti.2

/-! ### Readings -/

/-- An account as it is read.  What may be replaced is still what parsing it gave. -/
structure AccountReading where
  id : Except String String
  email : String
  username : Option String
  passwordHash : Option String
  status : Except String AccountStatus
  roles : Option (List String)
  emailVerified : Bool
  emailVerifiedAt : Option DateTime
  lastLoginAt : Option DateTime
  lockedAt : Option DateTime
  lockedReason : Option String
  disabledAt : Option DateTime
  disabledReason : Option String
  expiresAt : Option DateTime
  passwordChangedAt : Option DateTime
  failedLoginCount : UInt32
  metadata : Option Json
  createdAt : Option DateTime
  updatedAt : Option DateTime

/-- What a reading finds in the place of what does not parse: `AccountId::new()`, and `Utc::now()`
twice. -/
structure Replacements where
  newId : String
  createdAt : DateTime
  updatedAt : DateTime

namespace AccountReading

/-- The account, with what does not parse replaced. -/
def account (reading : AccountReading) (new : Replacements) : Account where
  id := reading.id.toOption.getD new.newId
  email := reading.email
  username := reading.username
  passwordHash := reading.passwordHash
  status := reading.status.toOption.getD .pendingVerification
  roles := reading.roles.getD []
  emailVerified := reading.emailVerified
  emailVerifiedAt := reading.emailVerifiedAt
  lastLoginAt := reading.lastLoginAt
  lockedAt := reading.lockedAt
  lockedReason := reading.lockedReason
  disabledAt := reading.disabledAt
  disabledReason := reading.disabledReason
  expiresAt := reading.expiresAt
  passwordChangedAt := reading.passwordChangedAt
  failedLoginCount := reading.failedLoginCount
  metadata := reading.metadata
  createdAt := reading.createdAt.getD new.createdAt
  updatedAt := reading.updatedAt.getD new.updatedAt

/-- Every field of a row could be read, and none was replaced by a default or by the current time.
-/
structure Complete (reading : AccountReading) : Prop where
  id : ∃ id, reading.id = .ok id
  status : ∃ status, reading.status = .ok status
  roles : reading.roles.isSome = true
  createdAt : reading.createdAt.isSome = true
  updatedAt : reading.updatedAt.isSome = true

/-- The reading of an account everything of which parses. -/
def of (account : Account) : AccountReading where
  id := .ok account.id
  email := account.email
  username := account.username
  passwordHash := account.passwordHash
  status := .ok account.status
  roles := some account.roles
  emailVerified := account.emailVerified
  emailVerifiedAt := account.emailVerifiedAt
  lastLoginAt := account.lastLoginAt
  lockedAt := account.lockedAt
  lockedReason := account.lockedReason
  disabledAt := account.disabledAt
  disabledReason := account.disabledReason
  expiresAt := account.expiresAt
  passwordChangedAt := account.passwordChangedAt
  failedLoginCount := account.failedLoginCount
  metadata := account.metadata
  createdAt := some account.createdAt
  updatedAt := some account.updatedAt

@[simp] theorem account_of (account : Account) (new : Replacements) :
    (of account).account new = account := rfl

theorem complete_of (account : Account) : (of account).Complete :=
  ⟨⟨_, rfl⟩, ⟨_, rfl⟩, rfl, rfl, rfl⟩

end AccountReading

/-! ### Columns -/

/-- The columns of an account, at the types a backend gives them. -/
structure AccountColumns (Id Flag Time Roles Count Metadata : Type) where
  id : Id
  email : String
  username : Option String
  passwordHash : Option String
  status : String
  roles : Roles
  emailVerified : Flag
  emailVerifiedAt : Option Time
  lastLoginAt : Option Time
  lockedAt : Option Time
  lockedReason : Option String
  disabledAt : Option Time
  disabledReason : Option String
  expiresAt : Option Time
  passwordChangedAt : Option Time
  failedLoginCount : Count
  metadata : Option Metadata
  createdAt : Time
  updatedAt : Time

section Columns

variable {Id Flag Time Roles Count Metadata : Type}

/-- The columns written for an account, each type in the way of the backend. -/
def Account.columns (account : Account) (id : String → Id) (flag : Bool → Flag)
    (time : DateTime → Time) (roles : List String → Roles) (count : UInt32 → Count)
    (metadata : Json → Metadata) : AccountColumns Id Flag Time Roles Count Metadata where
  id := id account.id
  email := account.email
  username := account.username
  passwordHash := account.passwordHash
  status := account.status.display
  roles := roles account.roles
  emailVerified := flag account.emailVerified
  emailVerifiedAt := account.emailVerifiedAt.map time
  lastLoginAt := account.lastLoginAt.map time
  lockedAt := account.lockedAt.map time
  lockedReason := account.lockedReason
  disabledAt := account.disabledAt.map time
  disabledReason := account.disabledReason
  expiresAt := account.expiresAt.map time
  passwordChangedAt := account.passwordChangedAt.map time
  failedLoginCount := count account.failedLoginCount
  metadata := account.metadata.map metadata
  createdAt := time account.createdAt
  updatedAt := time account.updatedAt

/-- The columns as they are read, each type in the way of the backend. -/
def AccountColumns.reading (c : AccountColumns Id Flag Time Roles Count Metadata)
    (id : Id → Except String String) (flag : Flag → Bool) (time : Time → Option DateTime)
    (roles : Roles → Option (List String)) (count : Count → UInt32)
    (metadata : Metadata → Option Json) : AccountReading where
  id := id c.id
  email := c.email
  username := c.username
  passwordHash := c.passwordHash
  status := AccountStatus.fromStr c.status
  roles := roles c.roles
  emailVerified := flag c.emailVerified
  emailVerifiedAt := c.emailVerifiedAt.bind time
  lastLoginAt := c.lastLoginAt.bind time
  lockedAt := c.lockedAt.bind time
  lockedReason := c.lockedReason
  disabledAt := c.disabledAt.bind time
  disabledReason := c.disabledReason
  expiresAt := c.expiresAt.bind time
  passwordChangedAt := c.passwordChangedAt.bind time
  failedLoginCount := count c.failedLoginCount
  metadata := c.metadata.bind metadata
  createdAt := time c.createdAt
  updatedAt := time c.updatedAt

/-- The times of an account, those that are there and those that may be. -/
def Account.times (account : Account) : List DateTime :=
  [account.emailVerifiedAt, account.lastLoginAt, account.lockedAt, account.disabledAt,
    account.expiresAt, account.passwordChangedAt].reduceOption
    ++ [account.createdAt, account.updatedAt]

theorem bind_map_eq {α β : Type} {f : α → β} {g : β → Option α} {value : Option α}
    (h : ∀ a ∈ value, g (f a) = some a) : (value.map f).bind g = value := by
  cases value with
  | none => rfl
  | some a => exact h a rfl

/-- **Columns whose ways of writing and reading go together** are read as the account. -/
theorem reading_columns {account : Account} {id : String → Id} {flag : Bool → Flag}
    {time : DateTime → Time} {roles : List String → Roles} {count : UInt32 → Count}
    {metadata : Json → Metadata} {readId : Id → Except String String} {readFlag : Flag → Bool}
    {readTime : Time → Option DateTime} {readRoles : Roles → Option (List String)}
    {readCount : Count → UInt32} {readMetadata : Metadata → Option Json}
    (hid : readId (id account.id) = .ok account.id) (hflag : ∀ b, readFlag (flag b) = b)
    (htime : ∀ t ∈ account.times, readTime (time t) = some t)
    (hroles : readRoles (roles account.roles) = some account.roles)
    (hcount : ∀ n, readCount (count n) = n)
    (hmetadata : ∀ v ∈ account.metadata, readMetadata (metadata v) = some v) :
    (account.columns id flag time roles count metadata).reading readId readFlag readTime readRoles
      readCount readMetadata = .of account := by
  have hoption : ∀ value ∈ [account.emailVerifiedAt, account.lastLoginAt, account.lockedAt,
      account.disabledAt, account.expiresAt, account.passwordChangedAt],
      (value.map time).bind readTime = value := by
    intro value hvalue
    refine bind_map_eq fun t ht => htime t (List.mem_append_left _ ?_)
    rw [List.reduceOption_mem_iff]
    exact ht ▸ hvalue
  have hcreated := htime account.createdAt (List.mem_append_right _ (by simp))
  have hupdated := htime account.updatedAt (List.mem_append_right _ (by simp))
  simp only [AccountColumns.reading, Account.columns, AccountReading.of, hid, hflag, hroles, hcount,
    hcreated, hupdated, bind_map_eq hmetadata, AccountStatus.fromStr_display,
    hoption _ List.mem_cons_self, hoption account.lastLoginAt (by simp),
    hoption account.lockedAt (by simp), hoption account.disabledAt (by simp),
    hoption account.expiresAt (by simp), hoption account.passwordChangedAt (by simp)]

end Columns

/-! ### The statements -/

/-- The columns the `INSERT` of `create` names, which PostgreSQL and Turso share. -/
def insertColumns : List String :=
  ["id", "email", "username", "password_hash", "status", "roles",
   "email_verified", "email_verified_at", "last_login_at",
   "locked_at", "locked_reason", "disabled_at", "disabled_reason",
   "expires_at", "password_changed_at", "failed_login_count",
   "metadata", "created_at", "updated_at"]

/-- The columns the `UPDATE` of `update` sets, each to a parameter, which they share too. -/
def updateColumns : List (String × ℕ) :=
  [("email", 2), ("username", 3), ("password_hash", 4), ("status", 5),
   ("roles", 6), ("email_verified", 7), ("email_verified_at", 8),
   ("last_login_at", 9), ("locked_at", 10), ("locked_reason", 11),
   ("disabled_at", 12), ("disabled_reason", 13), ("expires_at", 14),
   ("password_changed_at", 15), ("failed_login_count", 16),
   ("metadata", 17), ("updated_at", 18)]

theorem insertColumns_nodup : insertColumns.Nodup := by decide

/-- The columns of a row after an `UPDATE` with others. -/
def AccountColumns.updated {Id Flag Time Roles Count Metadata : Type}
    (c old : AccountColumns Id Flag Time Roles Count Metadata) :
    AccountColumns Id Flag Time Roles Count Metadata :=
  { c with id := old.id, createdAt := old.createdAt }

/-! ### Turso -/

/-- A value of SQLite, as far as the table has columns of its type. -/
inductive SqliteValue
  | null
  | text (s : String)
  | integer (n : Int64)
  deriving DecidableEq, Repr

def SqliteValue.ofOption : Option String → SqliteValue
  | none => .null
  | some s => .text s

namespace Turso

/-- The columns of the Turso table, whose booleans are integers and whose times are texts. -/
abbrev Columns := AccountColumns String Int64 String String Int64 String

/-- `CREATE TABLE accounts` -/
def table : Row SqliteValue :=
  [("id", .null), ("email", .null), ("username", .null), ("password_hash", .null),
   ("status", .text "pending_verification"), ("roles", .text "[]"),
   ("email_verified", .integer 0), ("email_verified_at", .null), ("last_login_at", .null),
   ("locked_at", .null), ("locked_reason", .null), ("disabled_at", .null),
   ("disabled_reason", .null), ("expires_at", .null), ("password_changed_at", .null),
   ("failed_login_count", .integer 0), ("metadata", .null), ("created_at", .null),
   ("updated_at", .null)]

section Statements

variable (c : Columns)

/-- The parameters of `create` and `update` in front of the times of the row. -/
def params : List SqliteValue :=
  [.text c.id, .text c.email, .ofOption c.username, .ofOption c.passwordHash, .text c.status,
   .text c.roles, .integer c.emailVerified, .ofOption c.emailVerifiedAt, .ofOption c.lastLoginAt,
   .ofOption c.lockedAt, .ofOption c.lockedReason, .ofOption c.disabledAt,
   .ofOption c.disabledReason, .ofOption c.expiresAt, .ofOption c.passwordChangedAt,
   .integer c.failedLoginCount, .ofOption c.metadata]

/-- The row `create` writes: the parameters of its statement, bound in the order of its columns. -/
def create : Row SqliteValue :=
  insert table insertColumns (params c ++ [.text c.createdAt, .text c.updatedAt])

/-- The row `update` leaves in place of one that it meets. -/
def update (row : Row SqliteValue) : Row SqliteValue :=
  set (bind (params c ++ [.text c.updatedAt]) updateColumns) row

end Statements

section Reading

variable (Y : RowExterns) (row : Row SqliteValue)

/-- The error `row_to_account` gives for a field that it cannot get, with the text of `libsql`. -/
def fieldError {α : Type} (field : String) : Except String α :=
  .error ("Failed to read field '" ++ field ++ "': " ++ Y.wrongType)

/-- `row.get::<String>`, at the position of the column. -/
def getText (i : ℕ) (field : String) : Except String String :=
  match positioned row i with
  | some (.text s) => .ok s
  | _ => fieldError Y field

/-- `row.get::<Option<String>>`, at the position of the column. -/
def getOption (i : ℕ) (field : String) : Except String (Option String) :=
  match positioned row i with
  | some .null => .ok none
  | some (.text s) => .ok (some s)
  | _ => fieldError Y field

/-- `row.get::<i64>`, at the position of the column. -/
def getInteger (i : ℕ) (field : String) : Except String Int64 :=
  match positioned row i with
  | some (.integer n) => .ok n
  | _ => fieldError Y field

/-- The values `row_to_account` gets of a row, each from the position it has written down for it. -/
def columns : Except String Columns := do
  let id ← getText Y row 0 "id"
  let email ← getText Y row 1 "email"
  let username ← getOption Y row 2 "username"
  let passwordHash ← getOption Y row 3 "password_hash"
  let status ← getText Y row 4 "status"
  let roles ← getText Y row 5 "roles"
  let emailVerified ← getInteger Y row 6 "email_verified"
  let emailVerifiedAt ← getOption Y row 7 "email_verified_at"
  let lastLoginAt ← getOption Y row 8 "last_login_at"
  let lockedAt ← getOption Y row 9 "locked_at"
  let lockedReason ← getOption Y row 10 "locked_reason"
  let disabledAt ← getOption Y row 11 "disabled_at"
  let disabledReason ← getOption Y row 12 "disabled_reason"
  let expiresAt ← getOption Y row 13 "expires_at"
  let passwordChangedAt ← getOption Y row 14 "password_changed_at"
  let failedLoginCount ← getInteger Y row 15 "failed_login_count"
  let metadata ← getOption Y row 16 "metadata"
  let createdAt ← getText Y row 17 "created_at"
  let updatedAt ← getText Y row 18 "updated_at"
  .ok
    { id, email, username, passwordHash, status, roles, emailVerified, emailVerifiedAt, lastLoginAt,
      lockedAt, lockedReason, disabledAt, disabledReason, expiresAt, passwordChangedAt,
      failedLoginCount, metadata, createdAt, updatedAt }

end Reading

/-- A row with a value for every column. -/
def rowOf (c : Columns) : Row SqliteValue :=
  insertColumns.zip (params c ++ [.text c.createdAt, .text c.updatedAt])

/-- The statement of `create` names every column, so that none is left to its default. -/
theorem create_eq (c : Columns) : create c = rowOf c :=
  insert_eq_zip insertColumns_nodup rfl rfl

/-- **An update leaves the identifier and the time of creation.** -/
theorem update_rowOf (c old : Columns) : update c (rowOf old) = rowOf (c.updated old) := rfl

/-- **The positions that are read are those of the columns**: what is got of a row is what was
written to it. -/
theorem columns_rowOf (Y : RowExterns) (c : Columns) : columns Y (rowOf c) = .ok c := by
  -- the columns stand at the positions at which the reader looks for them
  have hposition (i : ℕ) : positioned (rowOf c) i
      = (params c ++ [.text c.createdAt, .text c.updatedAt])[i]? :=
    positioned_zip (by rfl) i
  have htext {i : ℕ} (field : String) {s : String}
      (h : (params c ++ [.text c.createdAt, .text c.updatedAt])[i]? = some (.text s)) :
      getText Y (rowOf c) i field = .ok s := by
    rw [getText, hposition, h]
  have hinteger {i : ℕ} (field : String) {n : Int64}
      (h : (params c ++ [.text c.createdAt, .text c.updatedAt])[i]? = some (.integer n)) :
      getInteger Y (rowOf c) i field = .ok n := by
    rw [getInteger, hposition, h]
  have hoption {i : ℕ} (field : String) {value : Option String}
      (h : (params c ++ [.text c.createdAt, .text c.updatedAt])[i]? = some (.ofOption value)) :
      getOption Y (rowOf c) i field = .ok value := by
    rw [getOption, hposition, h]
    cases value <;> rfl
  rw [columns, htext "id" rfl, htext "email" rfl, hoption "username" rfl,
    hoption "password_hash" rfl, htext "status" rfl, htext "roles" rfl,
    hinteger "email_verified" rfl, hoption "email_verified_at" rfl, hoption "last_login_at" rfl,
    hoption "locked_at" rfl, hoption "locked_reason" rfl, hoption "disabled_at" rfl,
    hoption "disabled_reason" rfl, hoption "expires_at" rfl, hoption "password_changed_at" rfl,
    hinteger "failed_login_count" rfl, hoption "metadata" rfl, htext "created_at" rfl,
    htext "updated_at" rfl]
  rfl

/-- `row_to_account` -/
def rowToAccount (Y : RowExterns) (row : Row SqliteValue) : Except String AccountReading := do
  let c ← columns Y row
  .ok (c.reading (accountIdFromStr Y) (· ≠ 0) Y.parseDatetime Y.rolesFromStr
    (·.toUInt64.toUInt32) Y.jsonFromStr)

/-- The columns an account is written as on Turso, with its booleans as integers and its times as
texts. -/
def columnsOf (Y : RowExterns) (account : Account) : Columns :=
  account.columns id (fun b => if b then 1 else 0) Y.toRfc3339 Y.rolesToString
    (·.toUInt64.toInt64) (jsonText Y.numberText)

end Turso

/-! ### PostgreSQL -/

/-- A value of PostgreSQL, as far as the table has columns of its type. -/
inductive PgValue
  | null
  | text (s : String)
  | bool (b : Bool)
  | int4 (n : Int32)
  | jsonb (v : Json)
  | timestamptz (t : DateTime)

def PgValue.ofOption {α : Type} (value : α → PgValue) : Option α → PgValue
  | none => .null
  | some a => value a

namespace Pg

/-- The columns of the PostgreSQL table, which keep times and JSON as such. -/
abbrev Columns := AccountColumns String Bool DateTime Json Int32 Json

/-- `CREATE TABLE accounts`, at the time of an `INSERT`. -/
def table (now : DateTime) : Row PgValue :=
  [("id", .null), ("email", .null), ("username", .null), ("password_hash", .null),
   ("status", .text "pending_verification"), ("roles", .jsonb (.array [])),
   ("email_verified", .bool false), ("email_verified_at", .null), ("last_login_at", .null),
   ("locked_at", .null), ("locked_reason", .null), ("disabled_at", .null),
   ("disabled_reason", .null), ("expires_at", .null), ("password_changed_at", .null),
   ("failed_login_count", .int4 0), ("metadata", .null), ("created_at", .timestamptz now),
   ("updated_at", .timestamptz now)]

section Statements

variable (c : Columns)

/-- The parameters of `create` and `update` in front of the times of the row. -/
def params : List PgValue :=
  [.text c.id, .text c.email, .ofOption .text c.username, .ofOption .text c.passwordHash,
   .text c.status, .jsonb c.roles, .bool c.emailVerified,
   .ofOption .timestamptz c.emailVerifiedAt, .ofOption .timestamptz c.lastLoginAt,
   .ofOption .timestamptz c.lockedAt, .ofOption .text c.lockedReason,
   .ofOption .timestamptz c.disabledAt, .ofOption .text c.disabledReason,
   .ofOption .timestamptz c.expiresAt, .ofOption .timestamptz c.passwordChangedAt,
   .int4 c.failedLoginCount, .ofOption .jsonb c.metadata]

/-- The row `create` writes: the parameters of its statement, under the names of its columns. -/
def create (now : DateTime) : Row PgValue :=
  insert (table now) insertColumns
    (params c ++ [.timestamptz c.createdAt, .timestamptz c.updatedAt])

/-- The row `update` leaves in place of one that it meets. -/
def update (row : Row PgValue) : Row PgValue :=
  set (bind (params c ++ [.timestamptz c.updatedAt]) updateColumns) row

end Statements

section Reading

variable (Y : RowExterns) (row : Row PgValue)

/-- `row.try_get::<String>`, by the name of the column. -/
def getText (name : String) : Except String String :=
  match named row name with
  | some (.text s) => .ok s
  | _ => .error Y.wrongType

/-- `row.try_get::<Option<String>>`, by the name of the column. -/
def getTextOption (name : String) : Except String (Option String) :=
  match named row name with
  | some .null => .ok none
  | some (.text s) => .ok (some s)
  | _ => .error Y.wrongType

/-- `row.try_get::<bool>`, by the name of the column. -/
def getBool (name : String) : Except String Bool :=
  match named row name with
  | some (.bool b) => .ok b
  | _ => .error Y.wrongType

/-- `row.try_get::<i32>`, by the name of the column. -/
def getInt4 (name : String) : Except String Int32 :=
  match named row name with
  | some (.int4 n) => .ok n
  | _ => .error Y.wrongType

/-- `row.try_get::<serde_json::Value>`, by the name of the column. -/
def getJson (name : String) : Except String Json :=
  match named row name with
  | some (.jsonb v) => .ok v
  | _ => .error Y.wrongType

/-- `row.try_get::<Option<serde_json::Value>>`, by the name of the column. -/
def getJsonOption (name : String) : Except String (Option Json) :=
  match named row name with
  | some .null => .ok none
  | some (.jsonb v) => .ok (some v)
  | _ => .error Y.wrongType

/-- `row.try_get::<DateTime<Utc>>`, by the name of the column. -/
def getTime (name : String) : Except String DateTime :=
  match named row name with
  | some (.timestamptz t) => .ok t
  | _ => .error Y.wrongType

/-- `row.try_get::<Option<DateTime<Utc>>>`, by the name of the column. -/
def getTimeOption (name : String) : Except String (Option DateTime) :=
  match named row name with
  | some .null => .ok none
  | some (.timestamptz t) => .ok (some t)
  | _ => .error Y.wrongType

/-- The `AccountRow` that `sqlx` takes of a row. -/
def columns : Except String Columns := do
  let id ← getText Y row "id"
  let email ← getText Y row "email"
  let username ← getTextOption Y row "username"
  let passwordHash ← getTextOption Y row "password_hash"
  let status ← getText Y row "status"
  let roles ← getJson Y row "roles"
  let emailVerified ← getBool Y row "email_verified"
  let emailVerifiedAt ← getTimeOption Y row "email_verified_at"
  let lastLoginAt ← getTimeOption Y row "last_login_at"
  let lockedAt ← getTimeOption Y row "locked_at"
  let lockedReason ← getTextOption Y row "locked_reason"
  let disabledAt ← getTimeOption Y row "disabled_at"
  let disabledReason ← getTextOption Y row "disabled_reason"
  let expiresAt ← getTimeOption Y row "expires_at"
  let passwordChangedAt ← getTimeOption Y row "password_changed_at"
  let failedLoginCount ← getInt4 Y row "failed_login_count"
  let metadata ← getJsonOption Y row "metadata"
  let createdAt ← getTime Y row "created_at"
  let updatedAt ← getTime Y row "updated_at"
  .ok
    { id, email, username, passwordHash, status, roles, emailVerified, emailVerifiedAt, lastLoginAt,
      lockedAt, lockedReason, disabledAt, disabledReason, expiresAt, passwordChangedAt,
      failedLoginCount, metadata, createdAt, updatedAt }

end Reading

/-- A row with a value for every column. -/
def rowOf (c : Columns) : Row PgValue :=
  insertColumns.zip (params c ++ [.timestamptz c.createdAt, .timestamptz c.updatedAt])

/-- The statement of `create` names every column, so that the defaults of the table are not used. -/
theorem create_eq (c : Columns) (now : DateTime) : create c now = rowOf c :=
  insert_eq_zip insertColumns_nodup rfl rfl

/-- **An update leaves the identifier and the time of creation.** -/
theorem update_rowOf (c old : Columns) : update c (rowOf old) = rowOf (c.updated old) := rfl

/-- **The names that are read are those of the columns**: what is got of a row is what was written
to it. -/
theorem columns_rowOf (Y : RowExterns) (c : Columns) : columns Y (rowOf c) = .ok c := by
  have htext (name : String) {s : String} (h : named (rowOf c) name = some (.text s)) :
      getText Y (rowOf c) name = .ok s := by
    rw [getText, h]
  have htextOption (name : String) {value : Option String}
      (h : named (rowOf c) name = some (.ofOption .text value)) :
      getTextOption Y (rowOf c) name = .ok value := by
    rw [getTextOption, h]
    cases value <;> rfl
  have hbool (name : String) {b : Bool} (h : named (rowOf c) name = some (.bool b)) :
      getBool Y (rowOf c) name = .ok b := by
    rw [getBool, h]
  have hint4 (name : String) {n : Int32} (h : named (rowOf c) name = some (.int4 n)) :
      getInt4 Y (rowOf c) name = .ok n := by
    rw [getInt4, h]
  have hjson (name : String) {v : Json} (h : named (rowOf c) name = some (.jsonb v)) :
      getJson Y (rowOf c) name = .ok v := by
    rw [getJson, h]
  have hjsonOption (name : String) {value : Option Json}
      (h : named (rowOf c) name = some (.ofOption .jsonb value)) :
      getJsonOption Y (rowOf c) name = .ok value := by
    rw [getJsonOption, h]
    cases value <;> rfl
  have htime (name : String) {t : DateTime}
      (h : named (rowOf c) name = some (.timestamptz t)) :
      getTime Y (rowOf c) name = .ok t := by
    rw [getTime, h]
  have htimeOption (name : String) {value : Option DateTime}
      (h : named (rowOf c) name = some (.ofOption .timestamptz value)) :
      getTimeOption Y (rowOf c) name = .ok value := by
    rw [getTimeOption, h]
    cases value <;> rfl
  rw [columns, htext "id" rfl, htext "email" rfl, htextOption "username" rfl,
    htextOption "password_hash" rfl, htext "status" rfl, hjson "roles" rfl,
    hbool "email_verified" rfl, htimeOption "email_verified_at" rfl,
    htimeOption "last_login_at" rfl, htimeOption "locked_at" rfl, htextOption "locked_reason" rfl,
    htimeOption "disabled_at" rfl, htextOption "disabled_reason" rfl,
    htimeOption "expires_at" rfl, htimeOption "password_changed_at" rfl,
    hint4 "failed_login_count" rfl, hjsonOption "metadata" rfl, htime "created_at" rfl,
    htime "updated_at" rfl]
  rfl

/-- The columns an account is written as on PostgreSQL, whose times keep microseconds. -/
def columnsOf (Y : RowExterns) (account : Account) : Columns :=
  account.columns id id KeyBackend.postgres.column (Y.jsonb ∘ stringsJson) UInt32.toInt32 Y.jsonb

/-- `From<AccountRow>` -/
def ofRow (Y : RowExterns) (c : Columns) : AccountReading :=
  c.reading (accountIdFromStr Y) id some stringsOfJson Int32.toUInt32 some

end Pg

/-! ### SurrealDB -/

namespace Surreal

/-- The fields of a record, at the type of its identifier. -/
abbrev Record (Id : Type) := AccountColumns Id Bool String String Int64 String

/-- `to_record`, under the key of the record. -/
def toRecord (Y : RowExterns) (account : Account) : Record String :=
  account.columns id id Y.toRfc3339 Y.rolesToString (·.toUInt64.toInt64) (jsonText Y.numberText)

/-- The `AccountRow` a query returns for a record. -/
def row (recordId : String → Json) (record : Record String) : Record Json :=
  { record with id := recordId record.id }

/-- `From<AccountRow>` -/
def ofRow (Y : RowExterns) (row : Record Json) : AccountReading :=
  row.reading (accountIdFromStr Y ∘ surrealIdText) id Y.parseDatetime Y.rolesFromStr
    (·.toUInt64.toUInt32) Y.jsonFromStr

/-- The values of a record's identifier that `extract_id` finds the key in. -/
inductive RecordIdOf (key : String) : Json → Prop
  /-- The identifier is the key alone, as a string. -/
  | plain : RecordIdOf key (.string key)
  /-- `"accounts:key"` -/
  | tagged (table : String) : RecordIdOf key (.string (table ++ ":" ++ key))
  /-- `{ "id": "key" }`, among other fields. -/
  | object {fields : List (String × Json)} (hid : fields.lookup "id" = some (.string key)) :
    RecordIdOf key (.object fields)
  /-- `{ "id": { "String": "key" } }`, among other fields. -/
  | wrapped {fields inner : List (String × Json)} (hid : fields.lookup "id" = some (.object inner))
    (hkey : inner.lookup "String" = some (.string key)) : RecordIdOf key (.object fields)

/-- The key is found in each of them. -/
theorem surrealIdText_of_recordIdOf {key : String} {v : Json} (hcolon : ':' ∉ key.toList)
    (h : RecordIdOf key v) : surrealIdText v = key := by
  cases h with
  | plain => exact lastSegment_of_notMem hcolon
  | tagged table => exact lastSegment_append table hcolon
  | object hid => simp only [surrealIdText, hid]
  | wrapped hid hkey => simp only [surrealIdText, hid, hkey]

end Surreal

end ActonService
