import ActonService.Accounts.Types
import ActonService.Lib.Effect
import ActonService.Lib.Table

/-!
# Where accounts are stored

The statements of `accounts/storage`: PostgreSQL, Turso and SurrealDB.  Each statement takes effect
at once.  The column `id` is the primary key and `email` is unique.

A statement may not reach the database, may be refused by it, or may take effect while its answer
is lost.  SurrealDB returns a refusal inside a response, and what does not take rows out of the
response does not notice it.  A row is the account it decodes to: the texts in its columns parse
back, PostgreSQL keeps times to the microsecond and metadata as `JSONB`.

The world also answers the other calls of the account service: the clock, a fresh identifier, a
salt and the notifications.  It keeps a record of every change of a stored account's status.

## Main definitions

* `AccountTable` — the table `accounts`.
* `AccountStorage.create`, `getById`, `update`, `updateStatus`, … — the statements.
* `AccountCall`, `AccountWorld.answer` — the calls and their answers.
* `statusChanges` — the accounts whose status differs between two tables.

## Main results

* `mem_statusChanges` — when a status has changed.
* `AccountStorage.execute_fst` — a statement takes effect, or it does not and the table stays.
-/

namespace ActonService

open Effect Tables

/-- The functions accounts are stored and read with that are not under the source. -/
structure AccountExterns extends StoreExterns where
  /-- `str::to_lowercase` -/
  toLowercase : String → String
  /-- What a driver says of a value that is taken. -/
  uniqueViolation : String
  /-- What a database says of a negative `LIMIT` or `OFFSET`. -/
  negativePage : String

/-- The table `accounts`, in which identifiers and addresses are unique. -/
abbrev AccountTable := Table Account.id Account.email

/-! ### Rows -/

/-- The account a row returns for the one written to it. -/
def KeyBackend.accountRow (X : AccountExterns) (b : KeyBackend) (account : Account) : Account :=
  { account with
    emailVerifiedAt := account.emailVerifiedAt.map b.column
    lastLoginAt := account.lastLoginAt.map b.column
    lockedAt := account.lockedAt.map b.column
    disabledAt := account.disabledAt.map b.column
    expiresAt := account.expiresAt.map b.column
    passwordChangedAt := account.passwordChangedAt.map b.column
    metadata := if b = .postgres then account.metadata.map X.jsonb else account.metadata
    createdAt := b.column account.createdAt
    updatedAt := b.column account.updatedAt }

/-- A row with every column set from an account.  SurrealDB replaces the content of the record;
the others leave `created_at` and set `updated_at` to the time. -/
def Account.rewritten (X : AccountExterns) (b : KeyBackend) (account : Account) (now : DateTime)
    (row : Account) : Account :=
  if b = .surrealDb then { b.accountRow X account with id := row.id }
  else
    { b.accountRow X account with
      id := row.id
      createdAt := row.createdAt
      updatedAt := b.column now }

/-- A row with a status set, and what goes with it. -/
def Account.withStatus (b : KeyBackend) (status : AccountStatus) (reason : Option String)
    (now : DateTime) (row : Account) : Account :=
  match status with
  | .disabled =>
    { row with
      status := .disabled
      disabledAt := some (b.column now)
      disabledReason := reason
      updatedAt := b.column now }
  | .locked =>
    { row with
      status := .locked
      lockedAt := some (b.column now)
      lockedReason := reason
      updatedAt := b.column now }
  | .active =>
    { row with
      status := .active
      lockedAt := none
      lockedReason := none
      disabledAt := none
      disabledReason := none
      updatedAt := b.column now }
  | status => { row with status := status, updatedAt := b.column now }

/-- A row with a login recorded: the time of it is set and the failures are forgotten. -/
def Account.loggedIn (b : KeyBackend) (now : DateTime) (row : Account) : Account :=
  { row with
    lastLoginAt := some (b.column now)
    failedLoginCount := 0
    updatedAt := b.column now }

section Rows

variable (X : AccountExterns) (b : KeyBackend) (account : Account) (status : AccountStatus)
  (reason : Option String) (now : DateTime) (row : Account)

@[simp] theorem Account.rewritten_id : (account.rewritten X b now row).id = row.id := by
  rw [Account.rewritten]
  split <;> rfl

@[simp] theorem Account.rewritten_status :
    (account.rewritten X b now row).status = account.status := by
  rw [Account.rewritten]
  split <;> rfl

@[simp] theorem Account.rewritten_email :
    (account.rewritten X b now row).email = account.email := by
  rw [Account.rewritten]
  split <;> rfl

@[simp] theorem Account.rewritten_username :
    (account.rewritten X b now row).username = account.username := by
  rw [Account.rewritten]
  split <;> rfl

@[simp] theorem Account.rewritten_emailVerified :
    (account.rewritten X b now row).emailVerified = account.emailVerified := by
  rw [Account.rewritten]
  split <;> rfl

@[simp] theorem Account.rewritten_lockedAt :
    (account.rewritten X b now row).lockedAt = account.lockedAt.map b.column := by
  rw [Account.rewritten]
  split <;> rfl

@[simp] theorem Account.rewritten_lockedReason :
    (account.rewritten X b now row).lockedReason = account.lockedReason := by
  rw [Account.rewritten]
  split <;> rfl

@[simp] theorem Account.rewritten_disabledAt :
    (account.rewritten X b now row).disabledAt = account.disabledAt.map b.column := by
  rw [Account.rewritten]
  split <;> rfl

@[simp] theorem Account.rewritten_disabledReason :
    (account.rewritten X b now row).disabledReason = account.disabledReason := by
  rw [Account.rewritten]
  split <;> rfl

@[simp] theorem Account.withStatus_username :
    (row.withStatus b status reason now).username = row.username := by
  cases status <;> rfl

@[simp] theorem Account.withStatus_emailVerified :
    (row.withStatus b status reason now).emailVerified = row.emailVerified := by
  cases status <;> rfl

@[simp] theorem Account.withStatus_id : (row.withStatus b status reason now).id = row.id := by
  cases status <;> rfl

@[simp] theorem Account.withStatus_email :
    (row.withStatus b status reason now).email = row.email := by
  cases status <;> rfl

@[simp] theorem Account.withStatus_status :
    (row.withStatus b status reason now).status = status := by
  cases status <;> rfl

end Rows

/-! ### Statements -/

namespace AccountStorage

section Statements

variable (X : AccountExterns) (b : KeyBackend) (fault : KeyFault)

/-- The error of a statement that fails: what was being done, and the text of the driver. -/
def failure (what e : String) : ServiceError := .internal (what ++ e)

/-- What the text of the error starts with if the statement does not reach the database: Turso
connects first. -/
def unreached (what : String) : String := if b = .turso then "Failed to connect: " else what

/-- A writing statement that would leave the table `next`, or be refused by a constraint. -/
def execute (what : String) (next : Option AccountTable) (t : AccountTable) :
    AccountTable × Except ServiceError Unit :=
  -- SurrealDB returns the refusal inside a response that nobody looks into
  let refused (e : String) : Except ServiceError Unit :=
    if b = .surrealDb then .ok () else .error (failure what e)
  match fault with
  | .unreachable e => (t, .error (failure (unreached b what) e))
  | .lostReply e => (next.getD t, .error (failure what e))
  | .rejected e => (t, refused e)
  | .none | .cut _ _ =>
    match next with
    | some t' => (t', .ok ())
    | none => (t, refused X.uniqueViolation)

/-- The error of a reading statement: SurrealDB finds a refusal when it takes the rows out of the
response, Turso a break when it asks for the next row. -/
def readError (what taken : String) : ServiceError :=
  match fault with
  | .unreachable e => failure (unreached b what) e
  | .lostReply e => failure what e
  | .rejected e => failure (if b = .surrealDb then taken else what) e
  | .cut _ e => failure (if b = .turso then "Failed to read row: " else what) e
  | .none => failure what ""

/-- A statement that reads one row: what was found, or the error of the fault it has met. -/
def readOne (what : String) (found : Option Account) : Except ServiceError (Option Account) :=
  match fault with
  | .none => .ok found
  | _ => .error (readError b fault what "Failed to deserialize account: ")

/-- `create` -/
def create (account : Account) (t : AccountTable) : AccountTable × Except ServiceError Unit :=
  execute X b fault "Failed to create account: " (t.insert (b.accountRow X account)) t

/-- `get_by_id` -/
def getById (id : String) (t : AccountTable) : Except ServiceError (Option Account) :=
  readOne b fault
    (if b = .postgres then "Failed to get account by id: " else "Failed to get account: ")
    (t.find id)

/-- `get_by_email` -/
def getByEmail (email : String) (t : AccountTable) : Except ServiceError (Option Account) :=
  readOne b fault "Failed to get account by email: " (t.rows.find? fun a => a.email = email)

/-- `get_by_username`.  Which of several rows it is, nobody asks. -/
def getByUsername (username : String) (t : AccountTable) : Except ServiceError (Option Account) :=
  readOne b fault "Failed to get account by username: "
    (t.rows.find? fun a => a.username = some username)

/-- The table that `update` leaves, if it finds a row and no other one has its unique columns. -/
def updated (account : Account) (now : DateTime) (t : AccountTable) : Option AccountTable :=
  t.update account.id (account.rewritten X b now) (account.rewritten_id X b now)

/-- `update` -/
def update (account : Account) (now : DateTime) (t : AccountTable) :
    AccountTable × Except ServiceError Unit :=
  execute X b fault "Failed to update account: " (updated X b account now t) t

/-- The table that `update_status` leaves, if it finds the row. -/
def statusUpdated (id : String) (status : AccountStatus) (reason : Option String) (now : DateTime)
    (t : AccountTable) : Option AccountTable :=
  t.update id (Account.withStatus b status reason now) (Account.withStatus_id b status reason now)

/-- `update_status` -/
def updateStatus (id : String) (status : AccountStatus) (reason : Option String) (now : DateTime)
    (t : AccountTable) : AccountTable × Except ServiceError Unit :=
  execute X b fault "Failed to update status: " (statusUpdated b id status reason now t) t

/-- The table that `record_login` leaves, if it finds the row. -/
def loginRecorded (id : String) (now : DateTime) (t : AccountTable) : Option AccountTable :=
  t.update id (Account.loggedIn b now) fun _ => rfl

/-- `record_login` -/
def recordLogin (id : String) (now : DateTime) (t : AccountTable) :
    AccountTable × Except ServiceError Unit :=
  execute X b fault "Failed to record login: " (loginRecorded b id now t) t

/-- The `DELETE` of `delete`, and whether it met a row. -/
def deleteRow (id : String) (t : AccountTable) : AccountTable × Except ServiceError Bool :=
  let r := execute X b fault "Failed to delete account: " (some (t.erase id)) t
  (r.1, r.2.map fun _ => (t.find id).isSome)

/-- The rows that a listing selects: those of a status, or all of them. -/
def ofStatus (status : Option AccountStatus) (t : AccountTable) : List Account :=
  match status with
  | some status => t.rows.filter fun a => a.status = status
  | none => t.rows

/-- `ORDER BY created_at DESC`, by the time or by its text. -/
def newestFirst (rows : List Account) : List Account :=
  if b = .postgres then rows.mergeSort fun a a' => decide (a'.createdAt ≤ a.createdAt)
  else rows.mergeSort fun a a' => decide (X.toRfc3339 a'.createdAt ≤ X.toRfc3339 a.createdAt)

/-- `LIMIT` and `OFFSET`, after the casts to `i64`.  SQLite takes a negative limit for none. -/
def page (limit offset : UInt64) (rows : List Account) : Except String (List Account) :=
  let limit := limit.toInt64
  let offset := offset.toInt64
  let rest := rows.drop offset.toNatClampNeg
  if b = .turso then .ok (if limit < 0 then rest else rest.take limit.toNatClampNeg)
  else if limit < 0 ∨ offset < 0 then .error X.negativePage
  else .ok (rest.take limit.toNatClampNeg)

/-- `list`.  Turso takes a result that breaks off for one that has ended. -/
def list (status : Option AccountStatus) (limit offset : UInt64) (t : AccountTable) :
    Except ServiceError (List Account) :=
  let what := "Failed to list accounts: "
  let taken := "Failed to deserialize accounts: "
  let failed := Except.error (readError b fault what taken)
  match page X b limit offset (newestFirst X b (ofStatus status t)), fault with
  | .ok rows, .none => .ok rows
  | .ok rows, .cut kept _ =>
    if b = .turso then .ok (rows.takeWhile fun a => decide (a.id ∈ kept)) else failed
  | .error e, .none => .error (readError b (.rejected e) what taken)
  | _, _ => failed

/-- `count`.  Turso and SurrealDB take a result they do not get for none. -/
def count (status : Option AccountStatus) (t : AccountTable) : Except ServiceError ℕ :=
  match b, fault with
  | _, .none => .ok (ofStatus status t).length
  | .turso, .cut _ _ => .ok 0
  | .surrealDb, .rejected _ => .ok 0
  | b, fault => .error (readError b fault "Failed to count accounts: " "")

/-! ### What a statement does -/

variable {X b fault}

/-- The statement takes effect, whether or not its caller hears of it. -/
def TakesEffect (fault : KeyFault) : Prop :=
  match fault with
  | .unreachable _ | .rejected _ => False
  | .none | .lostReply _ | .cut _ _ => True

instance decidableTakesEffect : ∀ fault, Decidable (TakesEffect fault)
  | .unreachable _ => .isFalse id
  | .rejected _ => .isFalse id
  | .none => .isTrue trivial
  | .lostReply _ => .isTrue trivial
  | .cut _ _ => .isTrue trivial

/-- **A statement that takes effect** leaves the table it would; one that does not leaves the
table as it is. -/
theorem execute_fst (what : String) (next : Option AccountTable) (t : AccountTable) :
    (execute X b fault what next t).1 = if TakesEffect fault then next.getD t else t := by
  cases fault with
  | unreachable e => rfl
  | rejected e => rfl
  | lostReply e => rfl
  | none => cases next <;> rfl
  | cut kept e => cases next <;> rfl

/-- A success that is reported took effect, but for a refusal SurrealDB does not notice. -/
theorem takesEffect_of_execute_ok {what : String} {t t' : AccountTable}
    (h : (execute X b fault what (some t') t).2 = .ok ())
    (hnoticed : b = .surrealDb → ∀ e, fault ≠ .rejected e) : TakesEffect fault := by
  cases fault with
  | unreachable e => contradiction
  | lostReply e => contradiction
  | none => trivial
  | cut kept e => trivial
  | rejected e =>
    by_cases hb : b = .surrealDb
    · exact absurd rfl (hnoticed hb e)
    · simp [execute, hb] at h

theorem exists_statusUpdated (b : KeyBackend) (id : String) (status : AccountStatus)
    (reason : Option String) (now : DateTime) (t : AccountTable) :
    ∃ t', statusUpdated b id status reason now t = some t' :=
  Table.exists_update _ (Account.withStatus_email b status reason now)

theorem exists_loginRecorded (b : KeyBackend) (id : String) (now : DateTime) (t : AccountTable) :
    ∃ t', loginRecorded b id now t = some t' :=
  Table.exists_update _ fun _ => rfl

end Statements

end AccountStorage

/-! ### Changes of status -/

/-- A stored account whose status was changed. -/
structure StatusChange where
  id : String
  before : AccountStatus
  after : AccountStatus
  deriving DecidableEq, Repr

/-- The accounts in both tables whose status differs. -/
def statusChanges (t t' : AccountTable) : List StatusChange :=
  t.rows.filterMap fun row => (t'.find row.id).bind fun row' =>
    if row.status = row'.status then none else some ⟨row.id, row.status, row'.status⟩

/-- **When a status has changed**: exactly if the account is in both tables, under statuses that
differ. -/
theorem mem_statusChanges {t t' : AccountTable} {change : StatusChange} :
    change ∈ statusChanges t t' ↔ ∃ row row', t.find change.id = some row ∧
      t'.find change.id = some row' ∧ row.status = change.before ∧ row'.status = change.after ∧
      change.before ≠ change.after := by
  rw [statusChanges, List.mem_filterMap]
  constructor
  · rintro ⟨row, hrow, hchange⟩
    obtain ⟨row', hrow', hchange⟩ := Option.bind_eq_some_iff.mp hchange
    split at hchange
    · contradiction
    · next hne =>
      cases hchange
      exact ⟨row, row', Table.find_key hrow, hrow', rfl, rfl, hne⟩
  · rintro ⟨row, row', hrow, hrow', hbefore, hafter, hne⟩
    obtain ⟨hmem, hid⟩ := Table.find_eq_some_iff.mp hrow
    refine ⟨row, hmem, ?_⟩
    rw [hid, hrow', Option.bind_some, if_neg (by rw [hbefore, hafter]; exact hne), hbefore, hafter]

@[simp] theorem statusChanges_self (t : AccountTable) : statusChanges t t = [] := by
  rw [List.eq_nil_iff_forall_not_mem]
  intro change hchange
  obtain ⟨row, row', hrow, hrow', hbefore, hafter, hne⟩ := mem_statusChanges.mp hchange
  rw [hrow, Option.some.injEq] at hrow'
  exact hne (hbefore ▸ hafter ▸ hrow' ▸ rfl)

/-! ### The world -/

/-- The calls of the account service: the statements of its store, the hasher and the notifications.
-/
inductive AccountCall
  | create (account : Account)
  | getById (id : String)
  | getByEmail (email : String)
  | getByUsername (username : String)
  | update (account : Account)
  | updateStatus (id : String) (status : AccountStatus) (reason : Option String)
  | list (status : Option AccountStatus) (limit offset : UInt64)
  | count (status : Option AccountStatus)
  | deleteRow (id : String)
  | recordLogin (id : String)
  /-- `Utc::now` -/
  | utcNow
  /-- `AccountId::new` -/
  | newId
  /-- `SaltString::generate` -/
  | salt
  /-- `notify` -/
  | notify (event : AccountEvent)

/-- What each call of the account service is answered with. -/
abbrev AccountCall.Answer : AccountCall → Type
  | .create _ | .update _ | .updateStatus _ _ _ | .recordLogin _ => Except ServiceError Unit
  | .getById _ | .getByEmail _ | .getByUsername _ => Except ServiceError (Option Account)
  | .list _ _ _ => Except ServiceError (List Account)
  | .count _ => Except ServiceError ℕ
  | .deleteRow _ => Except ServiceError Bool
  | .utcNow => DateTime
  | .newId | .salt => String
  | .notify _ => Unit

/-- What a call meets: the time, the fault of its statement, and what is drawn for it at random. -/
structure AccountInput where
  now : DateTime
  fault : KeyFault
  newId : String
  salt : String

namespace AccountWorld

section Answer

variable (X : AccountExterns) (b : KeyBackend)

/-- What a call does to the table, and its answer. -/
def respond (t : AccountTable) (_ : ℕ) (input : AccountInput) :
    (c : AccountCall) → AccountTable × c.Answer
  | .create account => AccountStorage.create X b input.fault account t
  | .getById id => (t, AccountStorage.getById b input.fault id t)
  | .getByEmail email => (t, AccountStorage.getByEmail b input.fault email t)
  | .getByUsername username => (t, AccountStorage.getByUsername b input.fault username t)
  | .update account => AccountStorage.update X b input.fault account input.now t
  | .updateStatus id status reason =>
    AccountStorage.updateStatus X b input.fault id status reason input.now t
  | .list status limit offset => (t, AccountStorage.list X b input.fault status limit offset t)
  | .count status => (t, AccountStorage.count b input.fault status t)
  | .deleteRow id => AccountStorage.deleteRow X b input.fault id t
  | .recordLogin id => AccountStorage.recordLogin X b input.fault id input.now t
  | .utcNow => (t, input.now)
  | .newId => (t, input.newId)
  | .salt => (t, input.salt)
  | .notify _ => (t, ())

/-- The world with a record of the changes of status. -/
def answer : AccountTable × List StatusChange → ℕ → AccountInput →
    (c : AccountCall) → (AccountTable × List StatusChange) × c.Answer :=
  observed (respond X b) fun log t _ _ _ _ t' => log ++ statusChanges t t'

end Answer

end AccountWorld

end ActonService
