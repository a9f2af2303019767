import ActonService.Auth.RefreshRevocation

/-!
# Exchanging a refresh token

`rotate` of the four backends of `RefreshTokenStorage`: it revokes the old token and stores the
new one.  PostgreSQL does both in a transaction; Redis, Turso and SurrealDB send one command
after the other.  No backend looks whether the old token is there or already revoked.

A statement may do nothing and fail, or take effect while its answer is lost.  SurrealDB's
driver reports a statement the server refused as carried out.  The table has its identifier as
primary key in PostgreSQL and Turso, and no such key in SurrealDB.

## Main definitions

* `RefreshDb`, `dbAnswer` — the table and the open transactions.
* `dbRotate` — `rotate` on the three databases.
* `DbTrace`, `RedisTrace` — `rotate` has written something.
* `TwoRotations` — two calls of `rotate` on one old token, side by side.

## Main results

* `dbRotate_unchanged_iff`, `RedisRefresh.rotate_unchanged_iff` — what `rotate` leaves behind.
* `not_bothSucceed_iff` — when two programs side by side do not both succeed.
* `rotate_atomic_iff` — **a failed `rotate` leaves the store as it was exactly if it had written
  nothing, and of two at most one succeeds exactly if a command of one of them fails.**
-/

namespace ActonService

open Effect Run

/-! ### The databases -/

/-- The databases with a table `refresh_tokens`. -/
inductive RefreshBackend
  | postgres
  | turso
  | surrealDb
  deriving DecidableEq, Repr

/-- What a statement meets: nothing, or one of the ways in which it may fail; of these, a lost reply
lets it take effect. -/
inductive DbFault
  | none
  /-- It does not reach the database. -/
  | unreachable (e : String)
  /-- The database refuses it. -/
  | rejected (e : String)
  /-- It takes effect, but the answer is lost. -/
  | lostReply (e : String)
  deriving DecidableEq, Repr

/-- The statement takes effect, if nothing in the table is against it. -/
def DbFault.takesEffect : DbFault → Bool
  | .none | .lostReply _ => true
  | .unreachable _ | .rejected _ => false

/-- What the caller is told of a statement that meets the fault; on SurrealDB some failures go
unnoticed. -/
def DbFault.report : RefreshBackend → DbFault → Except String Unit
  | _, .none => .ok ()
  | _, .unreachable e => .error e
  | _, .lostReply e => .error e
  | .surrealDb, .rejected _ => .ok ()
  | .postgres, .rejected e => .error e
  | .turso, .rejected e => .error e

/-- A write in a transaction: a token is revoked, or a new one inserted. -/
inductive RefreshWrite
  | revoke (tokenId : String)
  | insert (data : RefreshTokenData)

/-- The table, and the writes of each client's open transaction. -/
structure RefreshDb where
  rows : List RefreshTokenData
  pending : ℕ → List RefreshWrite

/-- The statements: the writes, and what begins and ends a transaction. -/
inductive DbCall
  | begin
  /-- `UPDATE refresh_tokens SET is_revoked = true` -/
  | revoke (tokenId : String)
  /-- `INSERT INTO refresh_tokens`, or `CREATE refresh_tokens` -/
  | insert (data : RefreshTokenData)
  | commit

/-- The rows with the token revoked. -/
def revokeRow (tokenId : String) (rows : List RefreshTokenData) : List RefreshTokenData :=
  rows.map fun d => if d.tokenId = tokenId then { d with isRevoked := true } else d

/-- A write on the rows, where it takes effect. -/
def RefreshWrite.apply (rows : List RefreshTokenData) : RefreshWrite → List RefreshTokenData
  | .revoke tokenId => revokeRow tokenId rows
  | .insert data => rows ++ [data]

/-- The identifier is free for a new row. -/
def RefreshBackend.insertable (b : RefreshBackend) (tokenId : String)
    (rows : List RefreshTokenData) : Bool :=
  b == .surrealDb || rows.all fun d => decide (d.tokenId ≠ tokenId)

/-- What a primary key that is taken is answered with. -/
def uniqueViolation : String := "UNIQUE constraint failed: refresh_tokens.id"

/-- The answer of a statement that puts a row under an identifier that is taken. -/
def DbFault.conflict (b : RefreshBackend) (fault : DbFault) : Except String Unit :=
  (fault.report b).bind fun _ => .error uniqueViolation

/-- The rows a client's transaction sees. -/
def RefreshDb.visible (db : RefreshDb) (who : ℕ) : List RefreshTokenData :=
  (db.pending who).foldl RefreshWrite.apply db.rows

/-- A write is added to the client's transaction. -/
def RefreshDb.defer (db : RefreshDb) (who : ℕ) (w : RefreshWrite) : RefreshDb :=
  { db with pending := Function.update db.pending who (db.pending who ++ [w]) }

/-- The client's transaction is over, and nothing of it is pending any more. -/
def RefreshDb.clear (db : RefreshDb) (who : ℕ) : RefreshDb :=
  { db with pending := Function.update db.pending who [] }

/-- The write meets no row of its identifier. -/
def RefreshWrite.free (rows : List RefreshTokenData) : RefreshWrite → Bool
  | .revoke _ => true
  | .insert data => RefreshBackend.postgres.insertable data.tokenId rows

/-- PostgreSQL, in a transaction: writes are pending until `COMMIT`.  A revocation is of the row
there is when its statement runs.  An insertion that would wait for another transaction's is
refused when it commits. -/
def txAnswer (db : RefreshDb) (who : ℕ) (fault : DbFault) :
    DbCall → RefreshDb × Except String Unit
  | .begin => (db.clear who, fault.report .postgres)
  | .revoke tokenId =>
    if fault.takesEffect && (db.visible who).any fun d => d.tokenId == tokenId then
      (db.defer who (.revoke tokenId), fault.report .postgres)
    else (db, fault.report .postgres)
  | .insert data =>
    if RefreshBackend.postgres.insertable data.tokenId (db.visible who) then
      (if fault.takesEffect then db.defer who (.insert data) else db, fault.report .postgres)
    else (db, fault.conflict .postgres)
  | .commit =>
    if (db.pending who).all fun w => w.free db.rows then
      (if fault.takesEffect then { db.clear who with rows := db.visible who } else db.clear who,
        fault.report .postgres)
    else (db.clear who, fault.conflict .postgres)

/-- Turso and SurrealDB: every statement is a transaction of its own. -/
def autoAnswer (b : RefreshBackend) (db : RefreshDb) (fault : DbFault) :
    DbCall → RefreshDb × Except String Unit
  | .begin => (db, fault.report b)
  | .revoke tokenId =>
    (if fault.takesEffect then { db with rows := revokeRow tokenId db.rows } else db,
      fault.report b)
  | .insert data =>
    if b.insertable data.tokenId db.rows then
      (if fault.takesEffect then { db with rows := db.rows ++ [data] } else db, fault.report b)
    else (db, fault.conflict b)
  | .commit => (db, fault.report b)

/-- The answer to a statement: PostgreSQL keeps writes until the commit, the others carry them out
at once. -/
def dbAnswer (b : RefreshBackend) (db : RefreshDb) (who : ℕ) (fault : DbFault) (c : DbCall) :
    RefreshDb × Except String Unit :=
  match b with
  | .postgres => txAnswer db who fault c
  | .turso => autoAnswer .turso db fault c
  | .surrealDb => autoAnswer .surrealDb db fault c

/-! ### `rotate` on the databases -/

/-- Programs over the statements. -/
abbrev DbProg := Prog DbCall (fun _ => Except String Unit) RefreshError Unit

/-- A statement, whose error becomes `Error::Internal` with a text before it. -/
def statement (context : String) (c : DbCall) : DbProg :=
  .call c fun answer =>
    match answer with
    | .ok () => .ret ()
    | .error e => .fail (.internal (context ++ e))

/-- `PgRefreshStorage::rotate` -/
def pgRotate (oldTokenId : String) (new : NewToken) : DbProg := do
  statement "Failed to begin transaction: " .begin
  statement "Failed to revoke old token: " (.revoke oldTokenId)
  statement "Failed to store new token: " (.insert new.data)
  statement "Failed to commit transaction: " .commit

/-- `rotate` of `TursoRefreshStorage` and `SurrealDbRefreshStorage`: `revoke`, then `store`. -/
def sequentialRotate (oldTokenId : String) (new : NewToken) : DbProg := do
  statement "Failed to revoke token: " (.revoke oldTokenId)
  statement "Failed to store refresh token: " (.insert new.data)

/-- `rotate` -/
def dbRotate : RefreshBackend → String → NewToken → DbProg
  | .postgres => pgRotate
  | .turso => sequentialRotate
  | .surrealDb => sequentialRotate

/-- The statement is reported as carried out. -/
def DbFault.succeeds (b : RefreshBackend) (fault : DbFault) : Bool := (fault.report b).isOk

/-- The old token is there and not revoked. -/
def inForce (tokenId : String) (rows : List RefreshTokenData) : Bool :=
  rows.any fun d => decide (d.tokenId = tokenId) && !d.isRevoked

/-- `rotate` writes something that stays if it fails.  In PostgreSQL that is a commit whose
answer is lost; elsewhere it is the revocation, or an insertion whose answer is lost. -/
def DbTrace (b : RefreshBackend) (rows : List RefreshTokenData) (faults : ℕ → DbFault)
    (oldTokenId : String) (new : NewToken) : Prop :=
  match b with
  | .postgres =>
    (faults 0).succeeds b ∧ (faults 1).succeeds b ∧ (faults 2).succeeds b ∧
      b.insertable new.tokenId rows ∧ (faults 3).takesEffect
  | _ =>
    (faults 0).takesEffect ∧ inForce oldTokenId rows ∨
      (faults 0).succeeds b ∧ b.insertable new.tokenId rows ∧ (faults 1).takesEffect

theorem revokeRow_eq_self_iff (tokenId : String) (rows : List RefreshTokenData) :
    revokeRow tokenId rows = rows ↔ inForce tokenId rows = false := by
  induction rows with
  | nil => simp [revokeRow, inForce]
  | cons d rows ih =>
    simp only [revokeRow, List.map_cons, List.cons.injEq, inForce, List.any_cons,
      Bool.or_eq_false_iff] at ih ⊢
    rw [ih]
    refine and_congr ?_ Iff.rfl
    by_cases hid : d.tokenId = tokenId
    · cases hrevoked : d.isRevoked with
      | false =>
        simp only [hid, if_true, decide_true, Bool.not_false, Bool.and_self]
        refine iff_of_false (fun heq => ?_) Bool.true_eq_false.mp
        rw [← heq] at hrevoked
        cases hrevoked
      | true =>
        subst hid
        simp [← hrevoked]
    · simp [hid]

/-- A revocation leaves the identifiers as they are. -/
theorem insertable_revokeRow (b : RefreshBackend) (tokenId oldTokenId : String)
    (rows : List RefreshTokenData) :
    b.insertable tokenId (revokeRow oldTokenId rows) = b.insertable tokenId rows := by
  unfold RefreshBackend.insertable revokeRow
  rw [List.all_map]
  congr 2
  funext d
  simp only [Function.comp_apply]
  split <;> rfl

theorem append_singleton_ne_self {rows rows' : List RefreshTokenData} (data : RefreshTokenData)
    (h : rows'.length = rows.length) : rows' ++ [data] ≠ rows := by
  intro heq
  have hlength := congrArg List.length heq
  simp only [List.length_append, List.length_singleton] at hlength
  omega

/-- A statement, and what comes behind it: the rest of the program runs if its answer is not an
error. -/
theorem exec_statement_bind
    (answer : RefreshDb → ℕ → DbFault → DbCall → RefreshDb × Except String Unit)
    (context : String) (c : DbCall) (f : Unit → DbProg) (db : RefreshDb) (faults : ℕ → DbFault) :
    exec (A := fun _ => Except String Unit) answer 0 ((statement context c).bind f) db faults =
      match answer db 0 (faults 0) c with
      | (db', .ok ()) => exec answer 0 (f ()) db' fun n => faults (n + 1)
      | (db', .error e) => (.error (.internal (context ++ e)), db') := by
  unfold statement
  rw [Prog.call_bind, exec]
  rcases answer db 0 (faults 0) c with ⟨db', _ | _⟩ <;> rfl

/-- A statement on its own leaves what the database makes of it. -/
theorem exec_statement_state
    (answer : RefreshDb → ℕ → DbFault → DbCall → RefreshDb × Except String Unit)
    (context : String) (c : DbCall) (db : RefreshDb) (faults : ℕ → DbFault) :
    (exec (A := fun _ => Except String Unit) answer 0 (statement context c) db faults).2
      = (answer db 0 (faults 0) c).1 := by
  unfold statement
  rw [exec]
  rcases answer db 0 (faults 0) c with ⟨db', _ | _⟩ <;> rfl

/-- What `rotate` of Turso and SurrealDB does to the rows. -/
theorem sequentialRotate_unchanged_iff {b : RefreshBackend} (hb : b ≠ .postgres) (db : RefreshDb)
    (faults : ℕ → DbFault) (oldTokenId : String) (new : NewToken) :
    (exec (dbAnswer b) 0 (sequentialRotate oldTokenId new) db faults).2.rows = db.rows
      ↔ ¬ DbTrace b db.rows faults oldTokenId new := by
  have hanswer : dbAnswer b = fun db _ fault c => autoAnswer b db fault c := by
    cases b with
    | postgres => exact absurd rfl hb
    | turso => rfl
    | surrealDb => rfl
  have htrace : DbTrace b db.rows faults oldTokenId new ↔
      ((faults 0).takesEffect ∧ inForce oldTokenId db.rows ∨
        (faults 0).succeeds b ∧ b.insertable new.tokenId db.rows ∧ (faults 1).takesEffect) := by
    cases b with
    | postgres => exact absurd rfl hb
    | turso => rfl
    | surrealDb => rfl
  unfold sequentialRotate
  rw [hanswer, htrace, Prog.bind_eq, exec_statement_bind]
  -- the rows after the revocation
  let db₁ := if (faults 0).takesEffect then { db with rows := revokeRow oldTokenId db.rows } else db
  have hrevoke : db₁.rows = db.rows ↔ ¬ ((faults 0).takesEffect ∧ inForce oldTokenId db.rows) := by
    simp only [db₁]
    cases (faults 0).takesEffect with
    | false => simp
    | true => simp [revokeRow_eq_self_iff]
  have hlength : db₁.rows.length = db.rows.length := by
    simp only [db₁]
    split <;> simp [revokeRow]
  have hfree : b.insertable new.tokenId db₁.rows = b.insertable new.tokenId db.rows := by
    simp only [db₁]
    split
    · exact insertable_revokeRow b new.tokenId oldTokenId db.rows
    · rfl
  cases hreport : (faults 0).report b with
  | error e₀ =>
    -- the revocation is reported as failed, and `rotate` ends
    have hsucceeds : (faults 0).succeeds b = false := by
      rw [DbFault.succeeds, hreport]
      rfl
    simp only [autoAnswer, hreport, hsucceeds, Bool.false_eq_true, false_and, or_false]
    exact hrevoke
  -- the revocation is reported as done, and the new token is inserted
  | ok u =>
    have hsucceeds : (faults 0).succeeds b = true := by
      rw [DbFault.succeeds, hreport]
      rfl
    have hfirst : autoAnswer b db (faults 0) (.revoke oldTokenId) = (db₁, .ok ()) := by
      simp only [autoAnswer, hreport, db₁]
    simp only [hfirst, exec_statement_state, hsucceeds, true_and]
    show (autoAnswer b db₁ (faults 1) (.insert new.data)).1.rows = db.rows ↔ _
    have hdata : new.data.tokenId = new.tokenId := rfl
    cases hinsertable : b.insertable new.tokenId db.rows with
    | false => simpa [autoAnswer, hdata, hfree, hinsertable] using hrevoke
    | true =>
      simp only [autoAnswer, hdata, hfree, hinsertable, if_true, true_and]
      cases (faults 1).takesEffect with
      | false => simpa using hrevoke
      | true => simpa using append_singleton_ne_self new.data hlength

@[simp] theorem RefreshDb.rows_clear (db : RefreshDb) (who : ℕ) : (db.clear who).rows = db.rows :=
  rfl

@[simp] theorem RefreshDb.rows_defer (db : RefreshDb) (who : ℕ) (w : RefreshWrite) :
    (db.defer who w).rows = db.rows := rfl

theorem RefreshDb.visible_clear (db : RefreshDb) (who : ℕ) :
    (db.clear who).visible who = db.rows := by
  simp [RefreshDb.visible, RefreshDb.clear]

theorem RefreshDb.visible_defer (db : RefreshDb) (who : ℕ) (w : RefreshWrite) :
    (db.defer who w).visible who = w.apply (db.visible who) := by
  simp [RefreshDb.visible, RefreshDb.defer, List.foldl_append]

/-- In PostgreSQL a statement that is reported as carried out met no fault. -/
theorem DbFault.eq_none_of_report {fault : DbFault} {u : Unit}
    (h : fault.report .postgres = .ok u) : fault = .none := by
  cases fault <;> first | rfl | cases h

/-- The rows a transaction sees after the revocation, and its writes. -/
theorem txAnswer_revoke (db : RefreshDb) (who : ℕ) (fault : DbFault) (oldTokenId : String) :
    let db' := (txAnswer (db.clear who) who fault (.revoke oldTokenId)).1
    db'.rows = db.rows ∧ (db'.visible who).length = db.rows.length ∧
      (∀ tokenId, RefreshBackend.postgres.insertable tokenId (db'.visible who)
        = RefreshBackend.postgres.insertable tokenId db.rows) ∧
      ∀ w ∈ db'.pending who, w.free db.rows = true := by
  simp only [txAnswer]
  split
  · refine ⟨rfl, ?_, fun tokenId => ?_, ?_⟩
    · rw [RefreshDb.visible_defer, RefreshDb.visible_clear]
      exact List.length_map _
    · rw [RefreshDb.visible_defer, RefreshDb.visible_clear]
      exact insertable_revokeRow _ _ _ _
    · simp [RefreshDb.defer, RefreshDb.clear, RefreshWrite.free]
  · refine ⟨rfl, ?_, fun tokenId => ?_, ?_⟩
    · rw [RefreshDb.visible_clear]
    · rw [RefreshDb.visible_clear]
    · simp [RefreshDb.clear]

/-- In PostgreSQL an insertion into a transaction that has only revoked, and the commit behind
it: the rows change exactly if the commit takes effect. -/
theorem txAnswer_commit_insert {db db₂ : RefreshDb} {new : NewToken} (fault : DbFault)
    (hrows : db₂.rows = db.rows) (hlength : (db₂.visible 0).length = db.rows.length)
    (hfree : ∀ w ∈ db₂.pending 0, w.free db.rows = true)
    (hid : RefreshBackend.postgres.insertable new.tokenId db.rows = true) :
    (txAnswer (db₂.defer 0 (.insert new.data)) 0 fault .commit).1.rows = db.rows
      ↔ fault.takesEffect = false := by
  have hall : ((db₂.defer 0 (.insert new.data)).pending 0).all
      (fun w => w.free (db₂.defer 0 (.insert new.data)).rows) = true := by
    rw [List.all_eq_true]
    intro w hw
    rw [RefreshDb.rows_defer, hrows]
    simp only [RefreshDb.defer, Function.update_self, List.mem_append, List.mem_singleton] at hw
    rcases hw with hw | rfl
    · exact hfree w hw
    · exact hid
  simp only [txAnswer, hall, if_true]
  cases fault.takesEffect with
  | false => simpa using hrows
  | true =>
    simp only [if_true, RefreshDb.visible_defer, Bool.true_eq_false, iff_false]
    exact append_singleton_ne_self new.data hlength

/-- What `rotate` of PostgreSQL does to the rows. -/
theorem pgRotate_unchanged_iff (db : RefreshDb) (faults : ℕ → DbFault) (oldTokenId : String)
    (new : NewToken) :
    (exec (dbAnswer .postgres) 0 (pgRotate oldTokenId new) db faults).2.rows = db.rows
      ↔ ¬ DbTrace .postgres db.rows faults oldTokenId new := by
  have hdata : new.data.tokenId = new.tokenId := rfl
  show (exec txAnswer 0 (pgRotate oldTokenId new) db faults).2.rows = db.rows ↔ _
  unfold pgRotate DbTrace DbFault.succeeds
  simp only [Prog.bind_eq, exec_statement_bind]
  -- the transaction after the revocation
  obtain ⟨hrows, hlength, hinsertable, hfree⟩ := txAnswer_revoke db 0 (faults 1) oldTokenId
  have hreport₁ : (txAnswer (db.clear 0) 0 (faults 1) (.revoke oldTokenId)).2
      = (faults 1).report .postgres := by
    simp only [txAnswer]
    split <;> rfl
  generalize hdb₂ : txAnswer (db.clear 0) 0 (faults 1) (.revoke oldTokenId) = r at *
  obtain ⟨db₂, answer₁⟩ := r
  dsimp only at hrows hlength hinsertable hfree hreport₁
  subst hreport₁
  -- each statement is sent only if the one before has succeeded, and nothing shows before the
  -- commit
  cases hbegin : (faults 0).report .postgres with
  | error e => simp [txAnswer, hbegin, Except.isOk, Except.toBool]
  | ok u₀ =>
  have hfirst : txAnswer db 0 (faults 0) .begin = (db.clear 0, .ok ()) := by
    simp only [txAnswer, hbegin]
  cases hrevoke : (faults 1).report .postgres with
  | error e => simp [hfirst, hdb₂, hrevoke, hrows, Except.isOk, Except.toBool]
  | ok u₁ =>
  rw [hrevoke] at hdb₂
  cases hid : RefreshBackend.postgres.insertable new.tokenId db.rows with
  | false =>
    -- the identifier is taken
    obtain ⟨e, hconflict⟩ : ∃ e, (faults 2).conflict .postgres = .error e := by
      unfold DbFault.conflict
      cases (faults 2).report .postgres with
      | error e => exact ⟨e, rfl⟩
      | ok u => exact ⟨uniqueViolation, rfl⟩
    have hthird : txAnswer db₂ 0 (faults 2) (.insert new.data) = (db₂, .error e) := by
      simp [txAnswer, hdata, hinsertable, hid, hconflict]
    simp [hfirst, hdb₂, hthird, hrows]
  | true =>
  cases hinsert : (faults 2).report .postgres with
  | error e =>
    have hthird : (txAnswer db₂ 0 (faults 2) (.insert new.data)) =
        (if (faults 2).takesEffect then db₂.defer 0 (.insert new.data) else db₂, .error e) := by
      simp only [txAnswer, hdata, hinsertable, hid, if_true, hinsert]
    simp only [hfirst, hdb₂, hthird, Except.isOk, Except.toBool]
    cases (faults 2).takesEffect <;> simp [hrows]
  | ok u₂ =>
    have hthird : (txAnswer db₂ 0 (faults 2) (.insert new.data)) =
        (db₂.defer 0 (.insert new.data), .ok ()) := by
      have hnone := DbFault.eq_none_of_report hinsert
      simp only [txAnswer, hdata, hinsertable, hid, if_true, hnone]
      rfl
    simp only [hfirst, hdb₂, hthird, exec_statement_state]
    rw [txAnswer_commit_insert (faults (0 + 1 + 1 + 1)) hrows hlength hfree hid]
    simp [Except.isOk, Except.toBool]

/-- What `rotate` does to the rows: nothing, exactly if none of its writes leaves a trace. -/
theorem dbRotate_unchanged_iff (b : RefreshBackend) (db : RefreshDb) (faults : ℕ → DbFault)
    (oldTokenId : String) (new : NewToken) :
    (exec (dbAnswer b) 0 (dbRotate b oldTokenId new) db faults).2.rows = db.rows
      ↔ ¬ DbTrace b db.rows faults oldTokenId new := by
  cases b with
  | postgres => exact pgRotate_unchanged_iff db faults oldTokenId new
  | turso => exact sequentialRotate_unchanged_iff (by decide) db faults oldTokenId new
  | surrealDb => exact sequentialRotate_unchanged_iff (by decide) db faults oldTokenId new

/-! ### `rotate` in Redis -/

/-- `store`, from its first input on, writes the token. -/
def StoreTrace (inputs : ℕ → RefreshInput) : Prop :=
  (inputs 0).fault = .none ∧ (inputs 2).fault.takesEffect = true

/-- The entry of a token that `revoke` has written. -/
def revokedEntry (data : RefreshTokenData) (computed written : Clock) :
    Redis.Entry RefreshTokenData :=
  ⟨.text { data with isRevoked := true },
    some (Redis.deadline written.millis (ttlSecs data.expiresAt computed))⟩

/-- `rotate` changes the old token's entry or writes the new token's. -/
def RedisTrace (start : String) (m : Redis.Keyspace RefreshTokenData)
    (inputs : ℕ → RefreshInput) (oldTokenId : String) : Prop :=
  (inputs 0).fault = .none ∧ (inputs 1).fault = .none ∧ (inputs 2).fault = .none ∧
    match m.find? (inputs 2).clock.millis (tokenKey start oldTokenId) with
    | none => StoreTrace fun n => inputs (n + 3)
    | some ⟨.text data, x⟩ =>
      (inputs 4).fault.takesEffect = true ∧
          revokedEntry data (inputs 3).clock (inputs 4).clock ≠ ⟨.text data, x⟩ ∨
        (inputs 4).fault = .none ∧ StoreTrace fun n => inputs (n + 5)
    | some _ => False

namespace RedisRefresh

variable {α : Type} {m : Redis.Keyspace RefreshTokenData} {inputs : ℕ → RefreshInput}

/-- A command, and what comes behind it: the rest of the program runs if the reply is not an error.
-/
theorem exec_command_bind (context : String) (c : Redis.Command RefreshTokenData)
    (f : Redis.Reply c → RefreshProg α) (m : Redis.Keyspace RefreshTokenData)
    (inputs : ℕ → RefreshInput) :
    exec refreshAnswer 0 ((command context c).bind f) m inputs =
      match Redis.answer m 0 ⟨(inputs 0).clock.millis, (inputs 0).fault⟩ c with
      | (m', .ok reply) => exec refreshAnswer 0 (f reply) m' fun n => inputs (n + 1)
      | (m', .error e) => (.error (.internal (context ++ e)), m') := by
  unfold command
  rw [Prog.call_bind, exec]
  show exec refreshAnswer 0 (Prog.bind _ f)
    (Redis.answer m 0 ⟨(inputs 0).clock.millis, (inputs 0).fault⟩ c).1 _ = _
  simp only [refreshAnswer]
  rcases Redis.answer m 0 ⟨(inputs 0).clock.millis, (inputs 0).fault⟩ c with ⟨m', _ | _⟩ <;> rfl

theorem exec_connect_bind_of_none (h : (inputs 0).fault = .none) (f : Unit → RefreshProg α) :
    exec refreshAnswer 0 (connect.bind f) m inputs
      = exec refreshAnswer 0 (f ()) m fun n => inputs (n + 1) := by
  unfold connect
  rw [exec_command_bind, h]
  rfl

/-- Without a connection nothing is written, as the program ends there. -/
theorem exec_connect_bind_of_ne (h : (inputs 0).fault ≠ .none) (f : Unit → RefreshProg α) :
    (exec refreshAnswer 0 (connect.bind f) m inputs).2 = m := by
  unfold connect
  rw [exec_command_bind]
  cases hfault : (inputs 0).fault with
  | none => exact absurd hfault h
  | refused e => rfl
  | lostReply e => rfl

theorem exec_utcNow_bind (f : Clock → RefreshProg α) :
    exec refreshAnswer 0 (utcNow.bind f) m inputs
      = exec refreshAnswer 0 (f (inputs 0).clock) m fun n => inputs (n + 1) := rfl

/-- A `store` that does not come to its first write leaves everything as it is. -/
theorem store_unchanged {start : String} {new : NewToken} (h : ¬ StoreTrace inputs) :
    (exec refreshAnswer 0 (store start new) m inputs).2 = m := by
  unfold store
  rw [Prog.bind_eq]
  by_cases hconnect : (inputs 0).fault = .none
  · rw [exec_connect_bind_of_none hconnect, Prog.bind_eq, exec_utcNow_bind, Prog.bind_eq,
      exec_command_bind]
    have hrefused : (inputs (0 + 1 + 1)).fault.takesEffect = false :=
      Bool.eq_false_iff.mpr fun hset => h ⟨hconnect, hset⟩
    cases hfault : (inputs (0 + 1 + 1)).fault with
    | refused e => rfl
    | none =>
      rw [hfault] at hrefused
      cases hrefused
    | lostReply e =>
      rw [hfault] at hrefused
      cases hrefused
  · exact exec_connect_bind_of_ne hconnect _

/-- A command keeps what carrying it out keeps. -/
theorem maintains_command {I : Redis.Keyspace RefreshTokenData → Prop}
    {c : Redis.Command RefreshTokenData}
    (h : ∀ now m m' reply, I m → Redis.carryOut now m c = .ok (m', reply) → I m')
    (context : String) :
    Maintains refreshAnswer (fun _ => True) I 0 (command context c) := by
  unfold command
  refine .call (fun m input _ hm => ?_) fun answer => ?_
  · show I (Redis.answer m 0 ⟨input.clock.millis, input.fault⟩ c).1
    rcases Redis.answer_cases m 0 ⟨input.clock.millis, input.fault⟩ c with
      ⟨heq, -⟩ | ⟨m', reply, hcarry, heq, -⟩
    · rw [heq]
      exact hm
    · rw [heq]
      exact h _ _ _ _ hm hcarry
  · cases answer with
    | ok reply => exact .ret reply
    | error e => exact .fail _

/-- The commands on a set keep what writing its entry keeps. -/
theorem addToIndex_maintains {I : Redis.Keyspace RefreshTokenData → Prop} {start : String}
    {index : TokenIndex} (hput : ∀ m e, I m → I (m.put (index.key start) e))
    (tokenId addContext expireContext : String) {ttl : ℤ} (httl : 0 < ttl) :
    Maintains refreshAnswer (fun _ => True) I 0
      (addToIndex start index tokenId addContext expireContext ttl) := by
  refine (maintains_command ?_ _).bind fun _ => maintains_command ?_ _
  · intro now m m' reply hm hcarry
    simp only [Redis.carryOut, Redis.Keyspace.sadd] at hcarry
    split at hcarry <;> cases hcarry
    · exact hput m _ hm
    · exact hput m _ hm
  · intro now m m' reply hm hcarry
    simp only [Redis.carryOut, Redis.Keyspace.expire, httl, if_true] at hcarry
    split at hcarry
    · split at hcarry <;> cases hcarry
      · exact hm
      · exact hput m _ hm
    · cases hcarry

/-- The commands behind the first write of `store` keep what writing a set's entry keeps. -/
theorem addToIndexes_maintains {I : Redis.Keyspace RefreshTokenData → Prop} {start : String}
    (hput : ∀ m (index : TokenIndex) e, I m → I (m.put (index.key start) e)) (new : NewToken)
    {ttl : ℤ} (httl : 0 < ttl) :
    Maintains refreshAnswer (fun _ => True) I 0 (do
      addToIndex start (.family new.familyId) new.tokenId "Failed to add to family set: "
        "Failed to set family TTL: " ttl
      addToIndex start (.user new.userId) new.tokenId "Failed to add to user set: "
        "Failed to set user TTL: " ttl) :=
  (addToIndex_maintains (fun m => hput m _) _ _ _ httl).bind fun _ =>
    addToIndex_maintains (fun m => hput m _) _ _ _ httl

/-- `store` leaves the entries of other tokens as they are. -/
theorem store_entries_of_ne {start tokenId : String} {new : NewToken} (hid : PlainId tokenId)
    (hne : tokenId ≠ new.tokenId) (m : Redis.Keyspace RefreshTokenData)
    (inputs : ℕ → RefreshInput) :
    (exec refreshAnswer 0 (store start new) m inputs).2.entries (tokenKey start tokenId)
      = m.entries (tokenKey start tokenId) := by
  let I (m' : Redis.Keyspace RefreshTokenData) : Prop :=
    m'.entries (tokenKey start tokenId) = m.entries (tokenKey start tokenId)
  have hput : ∀ m' (index : TokenIndex) e, I m' → I (m'.put (index.key start) e) :=
    fun m' index e hm' =>
      (Redis.Keyspace.entries_put_of_ne _ _ (tokenKey_ne_indexKey hid index)).trans hm'
  have hnew : tokenKey start tokenId ≠ tokenKey start new.tokenId :=
    fun heq => hne (tokenKey_injective start heq)
  have hstore : Maintains refreshAnswer (fun _ => True) I 0 (store start new) := by
    refine (maintains_command ?_ _).bind fun _ => ?_
    · intro now m' m'' reply hm' hcarry
      cases hcarry
      exact hm'
    refine Maintains.bind (.call (fun _ _ _ hm' => hm') .ret) fun now => ?_
    refine (maintains_command ?_ _).bind fun _ =>
      addToIndexes_maintains hput new (ttlSecs_pos _ _)
    intro time m' m'' reply hm' hcarry
    simp only [Redis.carryOut] at hcarry
    split at hcarry <;> cases hcarry
    exact (Redis.Keyspace.entries_put_of_ne _ _ hnew).trans hm'
  exact hstore m inputs rfl fun _ => trivial

/-- After a `store` that has come to its first write the new token's key is taken. -/
theorem store_entries_ne_none {start : String} {new : NewToken} (h : StoreTrace inputs) :
    (exec refreshAnswer 0 (store start new) m inputs).2.entries (tokenKey start new.tokenId)
      ≠ none := by
  let I (m' : Redis.Keyspace RefreshTokenData) : Prop :=
    m'.entries (tokenKey start new.tokenId) ≠ none
  have hput : ∀ m' (key : String) e, I m' → I (m'.put key e) := by
    intro m' key e hm'
    by_cases hkey : tokenKey start new.tokenId = key
    · simp [I, ← hkey]
    · simpa [I, Redis.Keyspace.entries_put_of_ne _ _ hkey] using hm'
  have hwritten : ∀ e, I (m.put (tokenKey start new.tokenId) e) := by
    intro e
    simp [I]
  unfold store
  rw [Prog.bind_eq, exec_connect_bind_of_none h.1, Prog.bind_eq, exec_utcNow_bind, Prog.bind_eq,
    exec_command_bind]
  have hset := carryOut_setEx_ttlSecs m (tokenKey start new.tokenId) (.text new.data)
    new.expiresAt (inputs (0 + 1)).clock (inputs (0 + 1 + 1)).clock
  have htakes : (inputs (0 + 1 + 1)).fault.takesEffect = true := h.2
  cases hfault : (inputs (0 + 1 + 1)).fault with
  | refused e =>
    rw [hfault] at htakes
    cases htakes
  | lostReply e =>
    simp only [Redis.answer, hset]
    exact hwritten _
  | none =>
    simp only [Redis.answer, hset]
    exact addToIndexes_maintains (fun m' index => hput m' _) new (ttlSecs_pos _ _) _ _
      (hwritten _) fun _ => trivial

/-- `rotate` without its first three commands coming through. -/
theorem rotate_unchanged_of_fault {start oldTokenId : String} {new : NewToken}
    (h : ¬ ((inputs 0).fault = .none ∧ (inputs 1).fault = .none ∧ (inputs 2).fault = .none)) :
    (exec refreshAnswer 0 (rotate start oldTokenId new) m inputs).2 = m := by
  unfold rotate revoke get
  simp only [Prog.bind_eq, Prog.bind_assoc]
  by_cases h₀ : (inputs 0).fault = .none
  · rw [exec_connect_bind_of_none h₀]
    by_cases h₁ : (inputs 1).fault = .none
    · rw [exec_connect_bind_of_none h₁, exec_command_bind]
      have h₂ : (inputs (0 + 1 + 1)).fault ≠ .none := fun h₂ => h ⟨h₀, h₁, h₂⟩
      -- `GET` changes nothing, whether or not it reaches the server
      have hget : (Redis.answer m 0 ⟨(inputs (0 + 1 + 1)).clock.millis,
          (inputs (0 + 1 + 1)).fault⟩ (.get (tokenKey start oldTokenId))).1 = m := by
        rcases Redis.answer_cases m 0 ⟨(inputs (0 + 1 + 1)).clock.millis,
          (inputs (0 + 1 + 1)).fault⟩ (.get (tokenKey start oldTokenId)) with
          ⟨heq, -⟩ | ⟨m', reply, hcarry, heq, -⟩
        · exact heq
        · rw [heq]
          simp only [Redis.carryOut] at hcarry
          split at hcarry <;> cases hcarry <;> rfl
      cases hfault : (inputs (0 + 1 + 1)).fault with
      | none => exact absurd hfault h₂
      | refused e => rfl
      | lostReply e =>
        rw [hfault] at hget
        simp only [Redis.answer] at hget ⊢
        cases hcarry : Redis.carryOut (inputs (0 + 1 + 1)).clock.millis m
            (.get (tokenKey start oldTokenId)) with
        | error e => rfl
        | ok r =>
          rw [hcarry] at hget
          exact hget
    · exact exec_connect_bind_of_ne h₁ _
  · exact exec_connect_bind_of_ne h₀ _

/-- `rotate` when its first three commands come through: it goes by what `GET` reads. -/
theorem exec_rotate_of_none {start oldTokenId : String} {new : NewToken}
    (h₀ : (inputs 0).fault = .none) (h₁ : (inputs 1).fault = .none)
    (h₂ : (inputs 2).fault = .none) :
    (exec refreshAnswer 0 (rotate start oldTokenId new) m inputs).2 =
      match m.find? (inputs 2).clock.millis (tokenKey start oldTokenId) with
      | none => (exec refreshAnswer 0 (store start new) m fun n => inputs (n + 3)).2
      | some ⟨.text data, _⟩ =>
        match (inputs 4).fault with
        | .none =>
          (exec refreshAnswer 0 (store start new)
            (m.put (tokenKey start oldTokenId)
              (revokedEntry data (inputs 3).clock (inputs 4).clock))
            fun n => inputs (n + 5)).2
        | .refused _ => m
        | .lostReply _ =>
          m.put (tokenKey start oldTokenId) (revokedEntry data (inputs 3).clock (inputs 4).clock)
      | some _ => m := by
  unfold rotate revoke get
  simp only [Prog.bind_eq, Prog.bind_assoc]
  rw [exec_connect_bind_of_none h₀, exec_connect_bind_of_none h₁, exec_command_bind]
  rw [show (inputs (0 + 1 + 1)).fault = .none from h₂]
  simp only [Redis.answer, Redis.carryOut]
  rcases m.find? (inputs 2).clock.millis (tokenKey start oldTokenId) with _ | ⟨v, x⟩
  · rfl
  cases v with
  | set l => rfl
  | int n => rfl
  | text data =>
    simp only [parseToken, Prog.ret_bind, Prog.bind_assoc, exec_utcNow_bind]
    rw [exec_command_bind]
    simp only [Redis.answer, Nat.reduceAdd, carryOut_setEx_ttlSecs]
    cases (inputs 4).fault with
    | none => rfl
    | refused e => rfl
    | lostReply e => rfl

/-- **What a `rotate` leaves in Redis.**  Without a trace everything is as it was.  With one it is
not, where the two tokens have keys of their own and the new one was absent. -/
theorem rotate_unchanged_iff (start oldTokenId : String) (new : NewToken)
    (m : Redis.Keyspace RefreshTokenData) (inputs : ℕ → RefreshInput) :
    (¬ RedisTrace start m inputs oldTokenId →
      (exec refreshAnswer 0 (rotate start oldTokenId new) m inputs).2 = m) ∧
    (PlainId oldTokenId → oldTokenId ≠ new.tokenId →
      m.entries (tokenKey start new.tokenId) = none → RedisTrace start m inputs oldTokenId →
      (exec refreshAnswer 0 (rotate start oldTokenId new) m inputs).2 ≠ m) := by
  by_cases hreads : (inputs 0).fault = .none ∧ (inputs 1).fault = .none ∧ (inputs 2).fault = .none
  · obtain ⟨h₀, h₁, h₂⟩ := hreads
    simp only [RedisTrace, h₀, h₁, h₂, true_and]
    rw [exec_rotate_of_none h₀ h₁ h₂]
    -- a new token that is written was not there
    have hnew : ∀ {m' : Redis.Keyspace RefreshTokenData} {rest : ℕ → RefreshInput},
        m.entries (tokenKey start new.tokenId) = none → StoreTrace rest →
        (exec refreshAnswer 0 (store start new) m' rest).2 ≠ m := by
      intro m' rest habsent htrace heq
      exact store_entries_ne_none htrace (by rw [heq, habsent])
    -- what the old identifier names decides what `rotate` writes
    cases hfind : m.find? (inputs 2).clock.millis (tokenKey start oldTokenId) with
    | none => exact ⟨store_unchanged, fun _ _ habsent htrace => hnew habsent htrace⟩
    | some entry =>
    obtain ⟨v, x⟩ := entry
    cases v with
    | set l => exact ⟨fun _ => rfl, fun _ _ _ htrace => htrace.elim⟩
    | int n => exact ⟨fun _ => rfl, fun _ _ _ htrace => htrace.elim⟩
    | text data =>
    have hold := (Redis.Keyspace.find?_eq_some_iff.mp hfind).1
    -- writing the entry that is there changes nothing
    have hsame : revokedEntry data (inputs 3).clock (inputs 4).clock = ⟨.text data, x⟩ →
        m.put (tokenKey start oldTokenId)
          (revokedEntry data (inputs 3).clock (inputs 4).clock) = m := by
      intro heq
      rw [heq, Redis.Keyspace.put, ← hold, Function.update_eq_self]
    have hother : ∀ m' : Redis.Keyspace RefreshTokenData,
        m'.entries (tokenKey start oldTokenId)
          = some (revokedEntry data (inputs 3).clock (inputs 4).clock) →
        revokedEntry data (inputs 3).clock (inputs 4).clock ≠ ⟨.text data, x⟩ → m' ≠ m := by
      intro m' hm' hne heq
      rw [heq, hold] at hm'
      exact hne (Option.some.inj hm').symm
    -- a token: its entry is marked as revoked, and then the new token is stored
    cases hset : (inputs 4).fault with
    | refused e => simp [Redis.Fault.takesEffect]
    | lostReply e =>
      simp only [Redis.Fault.takesEffect, reduceCtorEq, true_and, false_and, or_false, not_not]
      exact ⟨hsame, fun _ _ _ hne => hother _ (Redis.Keyspace.entries_put_self _ _ _) hne⟩
    | none =>
      simp only [Redis.Fault.takesEffect, true_and, not_or, not_not]
      refine ⟨fun hnothing => ?_, fun hplain hne habsent htrace => ?_⟩
      · obtain ⟨heq, hstore⟩ := hnothing
        rw [hsame heq]
        exact store_unchanged hstore
      · rcases htrace with hentry | hstore
        · refine hother _ ?_ hentry
          rw [store_entries_of_ne hplain hne]
          exact Redis.Keyspace.entries_put_self _ _ _
        · exact hnew habsent hstore
  · refine ⟨fun _ => rotate_unchanged_of_fault hreads, fun _ _ _ htrace => ?_⟩
    exact absurd ⟨htrace.1, htrace.2.1, htrace.2.2.1⟩ hreads

end RedisRefresh

/-! ### Two calls side by side -/

section TwoRotations

variable {C : Type} {A : C → Type} {ε σ ι : Type}

/-- The first two clients run a program each. -/
def sideBySide (p q : Prog C A ε Unit) : ℕ → Prog C A ε Unit
  | 0 => p
  | 1 => q
  | _ => .ret ()

/-- The pool is reached by two programs that were started in a store, in some order of their
calls; it notes which of them had a call that failed. -/
def TwoRotations (answer : σ → ℕ → ι → (c : C) → σ × A c) (failed : (c : C) → A c → Bool)
    (p q : Prog C A ε Unit) (s : σ) (pool : Pool (σ × (ℕ → Bool)) C A ε) : Prop :=
  Reach (Pool.step (observed answer (noteFailed failed)) fun op : Empty => op.elim)
    (fun _ _ => True) ⟨(s, fun _ => false), sideBySide p q⟩ pool

/-- Both have returned, with success or an error. -/
def BothDone (pool : Pool σ C A ε) : Prop :=
  (pool.threads 0).next? = none ∧ (pool.threads 1).next? = none

/-- Both have returned with success. -/
def BothSucceed (pool : Pool σ C A ε) : Prop :=
  pool.threads 0 = .ret () ∧ pool.threads 1 = .ret ()

/-- Of two programs that fail only with a call, at most one succeeds exactly if a call has
failed. -/
theorem not_bothSucceed_iff {answer : σ → ℕ → ι → (c : C) → σ × A c}
    {failed : (c : C) → A c → Bool} {p q : Prog C A ε Unit} {s : σ}
    {pool : Pool (σ × (ℕ → Bool)) C A ε} (hp : p.FailsOnly failed) (hq : q.FailsOnly failed)
    (h : TwoRotations answer failed p q s pool) (hdone : BothDone pool) :
    ¬ BothSucceed pool ↔ pool.state.2 0 = true ∨ pool.state.2 1 = true := by
  have hthreads : ∀ who, (sideBySide p q who).FailsOnly failed := by
    intro who
    match who with
    | 0 => exact hp
    | 1 => exact hq
    | _ + 2 => trivial
  -- a client that has returned has succeeded exactly if it had no call that failed
  have hclient : ∀ who, (pool.threads who).next? = none →
      (pool.threads who = .ret () ↔ pool.state.2 who = false) := by
    intro who hnext
    have hwho := Pool.fail_iff_noted hthreads h who
    cases hnoted : pool.state.2 who with
    | true =>
      rw [if_pos hnoted] at hwho
      obtain ⟨e, he⟩ := hwho
      simp [he]
    | false =>
      rw [hnoted] at hwho
      cases hthread : pool.threads who with
      | ret u => simp
      | fail e =>
        rw [hthread] at hwho
        exact hwho.elim
      | call c k =>
        rw [hthread] at hnext
        cases hnext
  rw [BothSucceed, hclient 0 hdone.1, hclient 1 hdone.2]
  cases pool.state.2 0 <;> cases pool.state.2 1 <;> simp

end TwoRotations

/-- The statement was answered with an error. -/
def dbFailed (_ : DbCall) : Except String Unit → Bool
  | .ok _ => false
  | .error _ => true

theorem failsOnly_statement (context : String) (c : DbCall) :
    (statement context c).FailsOnly dbFailed := by
  intro answer
  cases answer with
  | ok u => exact trivial
  | error e => exact ⟨_, rfl⟩

theorem failsOnly_dbRotate (b : RefreshBackend) (oldTokenId : String) (new : NewToken) :
    (dbRotate b oldTokenId new).FailsOnly dbFailed := by
  have hsequential : (sequentialRotate oldTokenId new).FailsOnly dbFailed :=
    (failsOnly_statement _ _).bind fun _ => failsOnly_statement _ _
  cases b with
  | postgres =>
    exact (failsOnly_statement _ _).bind fun _ => (failsOnly_statement _ _).bind fun _ =>
      (failsOnly_statement _ _).bind fun _ => failsOnly_statement _ _
  | turso => exact hsequential
  | surrealDb => exact hsequential

/-- `GET` has read what is no token. -/
def notToken : (c : Redis.Command RefreshTokenData) → Redis.Reply c → Bool
  | .get _, some (.set _) => true
  | .get _, some (.int _) => true
  | _, _ => false

/-- The command was answered with an error, or has read what is no token. -/
def refreshFailed : (c : RefreshCall) → c.Answer → Bool
  | .utcNow, _ => false
  | .redis _, .error _ => true
  | .redis c, .ok reply => notToken c reply

namespace RedisRefresh

/-- A command that reads no token fails only with an error. -/
theorem failsOnly_command {c : Redis.Command RefreshTokenData}
    (hc : ∀ reply, notToken c reply = false) (context : String) :
    (command context c).FailsOnly refreshFailed := by
  intro answer
  cases answer with
  | error e => exact ⟨_, rfl⟩
  | ok reply =>
    rw [show refreshFailed (.redis c) (.ok reply) = notToken c reply from rfl, hc]
    exact trivial

theorem failsOnly_get (start tokenId : String) :
    (get start tokenId).FailsOnly refreshFailed := by
  refine (failsOnly_command (c := .connect) (fun _ => rfl) _).bind fun _ => ?_
  intro answer
  match answer with
  | .error e => exact ⟨_, rfl⟩
  | .ok none => exact trivial
  | .ok (some (.text data)) => exact trivial
  | .ok (some (.set l)) => exact ⟨_, rfl⟩
  | .ok (some (.int n)) => exact ⟨_, rfl⟩

theorem failsOnly_revoke (start tokenId : String) :
    (revoke start tokenId).FailsOnly refreshFailed := by
  refine (failsOnly_command (c := .connect) (fun _ => rfl) _).bind fun _ => ?_
  refine (failsOnly_get start tokenId).bind fun found => ?_
  cases found with
  | none => exact trivial
  | some data =>
    have hclock : utcNow.FailsOnly refreshFailed := fun _ => trivial
    exact hclock.bind fun now => failsOnly_command (fun _ => rfl) _

theorem failsOnly_store (start : String) (new : NewToken) :
    (store start new).FailsOnly refreshFailed := by
  have hclock : utcNow.FailsOnly refreshFailed := fun _ => trivial
  have hindex : ∀ index tokenId context context' ttl,
      (addToIndex start index tokenId context context' ttl).FailsOnly refreshFailed :=
    fun _ _ _ _ _ => (failsOnly_command (fun _ => rfl) _).bind fun _ =>
      failsOnly_command (fun _ => rfl) _
  refine (failsOnly_command (c := .connect) (fun _ => rfl) _).bind fun _ => ?_
  refine hclock.bind fun now => ?_
  refine (failsOnly_command (fun _ => rfl) _).bind fun _ => ?_
  exact (hindex _ _ _ _ _).bind fun _ => hindex _ _ _ _ _

theorem failsOnly_rotate (start oldTokenId : String) (new : NewToken) :
    (rotate start oldTokenId new).FailsOnly refreshFailed :=
  (failsOnly_revoke start oldTokenId).bind fun _ => failsOnly_store start new

end RedisRefresh

/-! ### Atomicity -/

/-- **When `rotate` is atomic.**  A `rotate` that fails leaves the store as it was exactly if it
has written nothing that stays, in the databases and, for tokens with keys of their own, in
Redis.  Of two on one old token at most one succeeds exactly if a command of one of them
fails. -/
theorem rotate_atomic_iff (b : RefreshBackend) (start oldTokenId : String)
    (new new₁ new₂ : NewToken) :
    (∀ db faults e,
      (exec (dbAnswer b) 0 (dbRotate b oldTokenId new) db faults).1 = .error e →
        ((exec (dbAnswer b) 0 (dbRotate b oldTokenId new) db faults).2.rows = db.rows
          ↔ ¬ DbTrace b db.rows faults oldTokenId new)) ∧
    (∀ m inputs e,
      (exec refreshAnswer 0 (RedisRefresh.rotate start oldTokenId new) m inputs).1 = .error e →
        (¬ RedisTrace start m inputs oldTokenId →
          (exec refreshAnswer 0 (RedisRefresh.rotate start oldTokenId new) m inputs).2 = m) ∧
        (PlainId oldTokenId → oldTokenId ≠ new.tokenId →
          m.entries (tokenKey start new.tokenId) = none →
          RedisTrace start m inputs oldTokenId →
          (exec refreshAnswer 0 (RedisRefresh.rotate start oldTokenId new) m inputs).2 ≠ m)) ∧
    (∀ db pool,
      TwoRotations (dbAnswer b) dbFailed (dbRotate b oldTokenId new₁)
        (dbRotate b oldTokenId new₂) db pool → BothDone pool →
        (¬ BothSucceed pool ↔ pool.state.2 0 = true ∨ pool.state.2 1 = true)) ∧
    (∀ m pool,
      TwoRotations refreshAnswer refreshFailed (RedisRefresh.rotate start oldTokenId new₁)
        (RedisRefresh.rotate start oldTokenId new₂) m pool → BothDone pool →
        (¬ BothSucceed pool ↔ pool.state.2 0 = true ∨ pool.state.2 1 = true)) := by
  refine ⟨?_, ?_, ?_, ?_⟩
  · intro db faults e _
    exact dbRotate_unchanged_iff b db faults oldTokenId new
  · intro m inputs e _
    exact RedisRefresh.rotate_unchanged_iff start oldTokenId new m inputs
  · intro db pool hpool hdone
    exact not_bothSucceed_iff (failsOnly_dbRotate b oldTokenId new₁)
      (failsOnly_dbRotate b oldTokenId new₂) hpool hdone
  · intro m pool hpool hdone
    exact not_bothSucceed_iff (RedisRefresh.failsOnly_rotate start oldTokenId new₁)
      (RedisRefresh.failsOnly_rotate start oldTokenId new₂) hpool hdone

/-- A table with the token `a`. -/
def sampleRefreshDb : RefreshDb := ⟨[(sampleNewToken "a" "family" 3600).data], fun _ => []⟩

/-- Every statement comes through but the one with that number. -/
def faultAt (n : ℕ) (fault : DbFault) : ℕ → DbFault := fun k => if k = n then fault else .none

/-- PostgreSQL refuses the new token, and the old one stays in force. -/
theorem rotate_atomic_iff_sample :
    (exec (dbAnswer .postgres) 0 (dbRotate .postgres "a" (sampleNewToken "b" "family" 3600))
      sampleRefreshDb (faultAt 2 (.rejected "disk full"))).2.rows = sampleRefreshDb.rows := by
  refine ((rotate_atomic_iff .postgres "rt" "a" (sampleNewToken "b" "family" 3600)
    (sampleNewToken "b" "family" 3600) (sampleNewToken "c" "family" 3600)).1 sampleRefreshDb
    (faultAt 2 (.rejected "disk full")) (.internal "Failed to store new token: disk full")
    rfl).mpr ?_
  rintro ⟨-, -, hinsert, -⟩
  cases hinsert

/-- Turso refuses the new token when the old one is already revoked.  Of two calls, one after the
other, both succeed, and two tokens are in force that the one was exchanged for. -/
theorem not_rotate_atomic :
    (¬ ∀ b db faults oldTokenId new e,
      (exec (dbAnswer b) 0 (dbRotate b oldTokenId new) db faults).1 = .error e →
        (exec (dbAnswer b) 0 (dbRotate b oldTokenId new) db faults).2.rows = db.rows) ∧
    ∃ pool, TwoRotations (dbAnswer .turso) dbFailed
        (dbRotate .turso "a" (sampleNewToken "b" "family" 3600))
        (dbRotate .turso "a" (sampleNewToken "c" "family" 3600)) sampleRefreshDb pool ∧
      BothSucceed pool ∧ inForce "b" pool.state.1.rows = true ∧
      inForce "c" pool.state.1.rows = true := by
  constructor
  · intro h
    have hrows := h .turso sampleRefreshDb (faultAt 1 (.rejected "disk full")) "a"
      (sampleNewToken "b" "family" 3600) _ rfl
    exact absurd (congrArg (inForce "a") hrows) (by decide)
  · let actions : List (Action Empty DbFault) :=
      [0, 0, 1, 1].map fun who => .step who .none
    have hallowed : Allowed (Pool.step (observed (dbAnswer .turso) (noteFailed dbFailed))
        fun op : Empty => op.elim) (fun _ _ => True)
        ⟨(sampleRefreshDb, fun _ => false),
          sideBySide (dbRotate .turso "a" (sampleNewToken "b" "family" 3600))
            (dbRotate .turso "a" (sampleNewToken "c" "family" 3600))⟩ actions :=
      Allowed.of_forall (fun _ _ _ => trivial) _
    exact ⟨_, Reach.foldl .start hallowed, ⟨rfl, rfl⟩, by decide, by decide⟩

end ActonService
