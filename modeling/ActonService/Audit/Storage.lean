import ActonService.Audit.RoundTrip
import Mathlib.Data.List.Sort

/-!
# Audit storage

The operations of the `AuditStorage` trait on the four backends, over the rows of a
table and with what the database does to each statement.  Every driver has an error
channel of its own: `sqlx` and `clickhouse` return the first error of a call, `libsql`
returns one from every `rows.next()`, and a SurrealDB response holds the error of a
rejected statement until `take` or `check` asks for it.

A failed statement has no effect on the table.

## Main definitions

* `Fault` — what can happen to a statement.
* `AuditStorage` — the trait, and `auditStorage`, its four implementations.
* `Honest` — an operation reports success only for work that was done.
* `Swallows` — the cases in which an error is dropped.

## Main results

* `latest_eq_ok` — the lookup a process starts with forwards every error.
* `honest_iff_not_swallows` — **an operation is honest exactly when no error is dropped.**
-/

namespace ActonService

open HashChain

/-! ### Drivers -/

/-- What happens to a statement: nothing, or it does not reach the database, is rejected there, or
loses a row of its result. -/
inductive Fault
  | none
  /-- The statement does not reach the database. -/
  | unreachable (e : String)
  /-- The database rejects the statement. -/
  | rejected (e : String)
  /-- The `n`-th row of the result, counted from zero, cannot be fetched. -/
  | stream (n : ℕ) (e : String)
  deriving DecidableEq

/-- The errors of the storage operations. -/
inductive StorageError
  /-- `Error::Internal` -/
  | internal (message : String)
  /-- `Error::ClickHouse` -/
  | clickHouse (message : String)
  deriving DecidableEq

section Drivers

variable {Row : Type}

/-- What the successive calls for the next row return, the end of the rows apart. -/
def Fault.deliver (rows : List Row) : Fault → List (Except String Row)
  | .stream n e => (rows.take n).map .ok ++ if n ≤ rows.length then [.error e] else []
  | _ => rows.map .ok

/-- `fetch_all` of `sqlx` and `clickhouse`: every error ends the call. -/
def fetchAll (decode : Row → Except String AuditEvent) (rows : List Row) :
    Fault → Except String (List AuditEvent)
  | .unreachable e => .error e
  | .rejected e => .error e
  | fault => (fault.deliver rows).mapM fun item => item >>= decode

/-- `while let Ok(Some(row)) = rows.next().await`: the end of the rows and an error of the
driver end the loop alike. -/
def readLoop (decode : Row → Except String AuditEvent) :
    List (Except String Row) → Except String (List AuditEvent)
  | [] => .ok []
  | .error _ :: _ => .ok []
  | .ok row :: items => do
    let event ← decode row
    let events ← readLoop decode items
    return event :: events

/-- A `libsql` query: connect, run the statement, loop over its rows. -/
def libsqlQuery (connecting running : String) (decode : Row → Except String AuditEvent)
    (rows : List Row) : Fault → Except StorageError (List AuditEvent)
  | .unreachable e => .error (.internal (connecting ++ e))
  | .rejected e => .error (.internal (running ++ e))
  | fault => (readLoop decode (fault.deliver rows)).mapError .internal

/-- `rows.next()` once, with all three of its outcomes. -/
def readFirst (decode : Row → Except String AuditEvent) :
    List (Except String Row) → Except String (Option AuditEvent)
  | [] => .ok none
  | .error e :: _ => .error ("Failed to read audit event row: " ++ e)
  | .ok row :: _ => (decode row).map some

/-- A SurrealDB query and the `take` of its result.  The response arrives whole, so a
failure to fetch a row fails the query. -/
def surrealQuery (running taking : String) (decode : Row → AuditEvent) (rows : List Row) :
    Fault → Except StorageError (List AuditEvent)
  | .none => .ok (rows.map decode)
  | .unreachable e => .error (.internal (running ++ e))
  | .rejected e => .error (.internal (taking ++ e))
  | .stream _ e => .error (.internal (running ++ e))

end Drivers

/-! ### Queries -/

section Queries

variable (b : Backend)

/-- `ORDER BY sequence ASC` -/
def Backend.orderBySequence (rows : List b.Row) : List b.Row :=
  rows.insertionSort fun r s => b.sequence r ≤ b.sequence s

/-- The row `latest` asks for. -/
def Backend.selectLatest (table : List b.Row) : List b.Row :=
  (b.orderBySequence table).getLast?.toList

/-- The rows `query_range` asks for. -/
def Backend.selectRange (start stop : DateTime) (limit : UInt64) (table : List b.Row) :
    List b.Row :=
  (b.orderBySequence
    (table.filter fun row => b.atLeast start row && b.atMost stop row)).take limit.toNat

/-- The rows `query_before` asks for. -/
def Backend.selectBefore (cutoff : DateTime) (limit : UInt64) (table : List b.Row) : List b.Row :=
  (b.orderBySequence (table.filter (b.before cutoff))).take limit.toNat

/-- The rows `verify_chain` asks for. -/
def Backend.selectFrom (fromSequence : UInt64) (table : List b.Row) : List b.Row :=
  b.orderBySequence (table.filter fun row => b.sequenceParam fromSequence ≤ b.sequence row)

end Queries

/-- The `AuditStorage` trait: each operation with the table and what happens to its
statement.  `append` also says what the table holds afterwards. -/
structure AuditStorage extends Backend where
  append : AuditEvent → Fault → List Row → Except StorageError Unit × List Row
  latest : Fault → List Row → Except StorageError (Option AuditEvent)
  queryRange : DateTime → DateTime → UInt64 → Fault → List Row →
    Except StorageError (List AuditEvent)
  queryBefore : DateTime → UInt64 → Fault → List Row → Except StorageError (List AuditEvent)
  /-- The events `verify_chain` reads. -/
  readFrom : UInt64 → Fault → List Row → Except StorageError (List AuditEvent)

/-- `verify_chain` of every backend: read the events, then verify them. -/
def AuditStorage.verifyChain (X : HashExterns) (st : AuditStorage) (fromSequence : UInt64)
    (fault : Fault) (table : List st.Row) : Except StorageError (Option UInt64) :=
  (st.readFrom fromSequence fault table).map fun events =>
    brokenAt (ActonService.verifyChain X events)

/-- The table behind an insert, which writes its row unless something happens to the statement. -/
def insertRow {Row : Type} (row : Row) (fault : Fault) (table : List Row) : List Row :=
  match fault with
  | .none => table ++ [row]
  | _ => table

/-! ### The implementations -/

/-- `impl AuditStorage for PgAuditStorage`. -/
def pgAuditStorage (S : StoreExterns) : AuditStorage where
  toBackend := pgBackend S
  append event fault table :=
    (match fault with
      | .none => .ok ()
      | .unreachable e | .rejected e | .stream _ e =>
        .error (.internal ("Failed to append audit event: " ++ e)),
     insertRow (pgRow S event) fault table)
  latest fault table :=
    ((fetchAll pgEvent ((pgBackend S).selectLatest table) fault).mapError fun e =>
      .internal ("Failed to fetch latest audit event: " ++ e)).map List.head?
  queryRange start stop limit fault table :=
    (fetchAll pgEvent ((pgBackend S).selectRange start stop limit table) fault).mapError
      fun e => .internal ("Failed to query audit events: " ++ e)
  queryBefore cutoff limit fault table :=
    (fetchAll pgEvent ((pgBackend S).selectBefore cutoff limit table) fault).mapError
      fun e => .internal ("Failed to query audit events before cutoff: " ++ e)
  readFrom fromSequence fault table :=
    (fetchAll pgEvent ((pgBackend S).selectFrom fromSequence table) fault).mapError
      fun e => .internal ("Failed to fetch audit events for verification: " ++ e)

/-- `impl AuditStorage for TursoAuditStorage`. -/
def tursoAuditStorage (S : StoreExterns) : AuditStorage where
  toBackend := tursoBackend S
  append event fault table :=
    (match fault with
      | .none => .ok ()
      | .unreachable e => .error (.internal ("Failed to connect for audit append: " ++ e))
      | .rejected e | .stream _ e =>
        .error (.internal ("Failed to append audit event: " ++ e)),
     insertRow (tursoRow S event) fault table)
  latest fault table :=
    match fault with
    | .unreachable e => .error (.internal ("Failed to connect for audit query: " ++ e))
    | .rejected e => .error (.internal ("Failed to query latest audit event: " ++ e))
    | fault =>
      (readFirst (tursoEvent S) (fault.deliver ((tursoBackend S).selectLatest table))).mapError
        .internal
  queryRange start stop limit fault table :=
    libsqlQuery "Failed to connect for audit query: " "Failed to query audit events: "
      (tursoEvent S) ((tursoBackend S).selectRange start stop limit table) fault
  queryBefore cutoff limit fault table :=
    libsqlQuery "Failed to connect for audit query: "
      "Failed to query audit events before cutoff: " (tursoEvent S)
      ((tursoBackend S).selectBefore cutoff limit table) fault
  readFrom fromSequence fault table :=
    libsqlQuery "Failed to connect for chain verify: "
      "Failed to fetch events for verification: " (tursoEvent S)
      ((tursoBackend S).selectFrom fromSequence table) fault

/-- How a reading through SurrealDB or ClickHouse fills in what it cannot read. -/
structure Reading where
  form : RecordIdForm
  newId : Uuid
  now : DateTime

/-- `impl AuditStorage for SurrealAuditStorage`.  The response of the insert is dropped, and
the error of a rejected statement with it. -/
def surrealAuditStorage (S : StoreExterns) (R : Reading) : AuditStorage where
  toBackend := surrealBackend S R.form R.newId R.now
  append event fault table :=
    (match fault with
      | .none | .rejected _ => .ok ()
      | .unreachable e | .stream _ e =>
        .error (.internal ("Failed to append audit event: " ++ e)),
     insertRow (surrealRecord S event) fault table)
  latest fault table :=
    (surrealQuery "Failed to query latest audit event: " "Failed to deserialize audit event: "
      (fun record => surrealEvent S R.newId R.now (surrealRow R.form record))
      ((surrealBackend S R.form R.newId R.now).selectLatest table) fault).map List.head?
  queryRange start stop limit fault table :=
    surrealQuery "Failed to query audit events: " "Failed to deserialize audit events: "
      (fun record => surrealEvent S R.newId R.now (surrealRow R.form record))
      ((surrealBackend S R.form R.newId R.now).selectRange start stop limit table) fault
  queryBefore cutoff limit fault table :=
    surrealQuery "Failed to query audit events before cutoff: "
      "Failed to deserialize audit events: "
      (fun record => surrealEvent S R.newId R.now (surrealRow R.form record))
      ((surrealBackend S R.form R.newId R.now).selectBefore cutoff limit table) fault
  readFrom fromSequence fault table :=
    surrealQuery "Failed to fetch events for verification: "
      "Failed to deserialize audit events: "
      (fun record => surrealEvent S R.newId R.now (surrealRow R.form record))
      ((surrealBackend S R.form R.newId R.now).selectFrom fromSequence table) fault

/-- `impl AuditStorage for ClickHouseAuditStorage`.  An insert is created, written and
flushed. -/
def clickHouseAuditStorage (S : StoreExterns) (R : Reading) : AuditStorage where
  toBackend := clickHouseBackend S R.now
  append event fault table :=
    (match fault with
      | .none => .ok ()
      | .unreachable e => .error (.clickHouse ("Failed to create insert: " ++ e))
      | .stream _ e => .error (.clickHouse ("Failed to write audit event: " ++ e))
      | .rejected e => .error (.clickHouse ("Failed to flush audit event: " ++ e)),
     insertRow (clickHouseRow S event) fault table)
  latest fault table :=
    ((fetchAll (clickHouseBackend S R.now).fromRow
      ((clickHouseBackend S R.now).selectLatest table) fault).mapError fun e =>
      .clickHouse ("Failed to fetch latest audit event: " ++ e)).map List.head?
  queryRange start stop limit fault table :=
    (fetchAll (clickHouseBackend S R.now).fromRow
      ((clickHouseBackend S R.now).selectRange start stop limit table) fault).mapError
      fun e => .clickHouse ("Failed to query audit events: " ++ e)
  queryBefore cutoff limit fault table :=
    (fetchAll (clickHouseBackend S R.now).fromRow
      ((clickHouseBackend S R.now).selectBefore cutoff limit table) fault).mapError
      fun e => .clickHouse ("Failed to query audit events before cutoff: " ++ e)
  readFrom fromSequence fault table :=
    (fetchAll (clickHouseBackend S R.now).fromRow
      ((clickHouseBackend S R.now).selectFrom fromSequence table) fault).mapError
      fun e => .clickHouse ("Failed to fetch audit events for verification: " ++ e)

/-- The four backends of the audit storage. -/
inductive BackendKind
  | postgres
  | turso
  | surrealDb
  | clickHouse
  deriving DecidableEq, Repr

/-- The storage of a backend, with the source's own name for each. -/
def auditStorage (S : StoreExterns) (R : Reading) : BackendKind → AuditStorage
  | .postgres => pgAuditStorage S
  | .turso => tursoAuditStorage S
  | .surrealDb => surrealAuditStorage S R
  | .clickHouse => clickHouseAuditStorage S R

/-! ### What the drivers return -/

section Drivers

variable {Row : Type} {decode : Row → Except String AuditEvent}

theorem mapError_eq_ok_iff {ε ε' α : Type} {f : ε → ε'} {x : Except ε α} {a : α} :
    x.mapError f = .ok a ↔ x = .ok a := by
  cases x <;> simp [Except.mapError]

theorem fetchAll_none_eq_ok_iff {rows : List Row} {events : List AuditEvent} :
    fetchAll decode rows .none = .ok events ↔ rows.mapM decode = .ok events := by
  rw [mapM_eq_ok_iff]
  show (rows.map Except.ok).mapM (fun item : Except String Row => item >>= decode) = _ ↔ _
  rw [mapM_eq_ok_iff, List.forall₂_map_left_iff]
  rfl

/-- **`fetch_all` forwards every error**: what it returns is all the rows. -/
theorem fetchAll_eq_ok {rows : List Row} {fault : Fault} {events : List AuditEvent}
    (h : fetchAll decode rows fault = .ok events) : rows.mapM decode = .ok events := by
  cases fault with
  | none => exact fetchAll_none_eq_ok_iff.mp h
  | unreachable e => simp [fetchAll] at h
  | rejected e => simp [fetchAll] at h
  | stream n e =>
    by_cases hn : n ≤ rows.length
    · -- the item that is an error has no event
      simp only [fetchAll, Fault.deliver, if_pos hn] at h
      obtain ⟨event, -, hevent⟩ := exists_of_mapM_eq_ok h (.error e) (by simp)
      simp [bind, Except.bind] at hevent
    · simp only [fetchAll, Fault.deliver, if_neg hn, List.append_nil] at h
      rw [List.take_of_length_le (by omega)] at h
      exact fetchAll_none_eq_ok_iff.mp h

theorem surrealQuery_none_eq_ok_iff {decode : Row → AuditEvent} (running taking : String)
    {rows : List Row} {events : List AuditEvent} :
    surrealQuery running taking decode rows .none = .ok events ↔
      rows.mapM (fun row => (.ok (decode row) : Except String AuditEvent)) = .ok events := by
  have hall : rows.mapM (fun row => (.ok (decode row) : Except String AuditEvent))
      = .ok (rows.map decode) := by
    rw [mapM_eq_ok_iff, List.forall₂_map_right_iff, List.forall₂_same]
    exact fun _ _ => rfl
  rw [hall, surrealQuery, Except.ok.injEq, Except.ok.injEq]

/-- A SurrealDB query that is taken returns all the rows. -/
theorem surrealQuery_eq_ok {decode : Row → AuditEvent} {running taking : String} {rows : List Row}
    {fault : Fault} {events : List AuditEvent}
    (h : surrealQuery running taking decode rows fault = .ok events) :
    rows.mapM (fun row => (.ok (decode row) : Except String AuditEvent)) = .ok events := by
  cases fault with
  | none => exact (surrealQuery_none_eq_ok_iff running taking).mp h
  | unreachable e => simp [surrealQuery] at h
  | rejected e => simp [surrealQuery] at h
  | stream n e => simp [surrealQuery] at h

theorem readLoop_ok_items (rows : List Row) :
    readLoop decode (rows.map .ok) = rows.mapM decode := by
  induction rows with
  | nil => rfl
  | cons row rows ih =>
    rw [List.map_cons, List.mapM_cons, readLoop, ih]

/-- The loop takes an error of the driver for the end of the rows. -/
theorem readLoop_items_concat (rows : List Row) (e : String) :
    readLoop decode (rows.map .ok ++ [.error e]) = rows.mapM decode := by
  induction rows with
  | nil => rfl
  | cons row rows ih =>
    rw [List.map_cons, List.cons_append, List.mapM_cons, readLoop, ih]

theorem readLoop_deliver_stream (rows : List Row) (n : ℕ) (e : String) :
    readLoop decode ((Fault.stream n e).deliver rows) = (rows.take n).mapM decode := by
  rw [Fault.deliver]
  split
  · exact readLoop_items_concat _ _
  · rw [List.append_nil, readLoop_ok_items]

theorem libsqlQuery_none_eq_ok_iff (connecting running : String) {rows : List Row}
    {events : List AuditEvent} :
    libsqlQuery connecting running decode rows .none = .ok events ↔
      rows.mapM decode = .ok events := by
  rw [← readLoop_ok_items]
  exact mapError_eq_ok_iff

/-- What a `libsql` query returns: all the rows, or those before the one that could not be
fetched. -/
theorem libsqlQuery_eq_ok_iff {connecting running : String} {rows : List Row} {fault : Fault}
    {events : List AuditEvent} :
    libsqlQuery connecting running decode rows fault = .ok events ↔
      (fault = .none ∧ rows.mapM decode = .ok events) ∨
        ∃ n e, fault = .stream n e ∧ (rows.take n).mapM decode = .ok events := by
  cases fault with
  | none =>
    rw [libsqlQuery_none_eq_ok_iff]
    simp
  | unreachable e => simp [libsqlQuery]
  | rejected e => simp [libsqlQuery]
  | stream n e =>
    have hloop : libsqlQuery connecting running decode rows (.stream n e) = .ok events ↔
        (rows.take n).mapM decode = .ok events := by
      rw [← readLoop_deliver_stream rows n e]
      exact mapError_eq_ok_iff
    rw [hloop]
    simp

end Drivers

/-! ### The latest event -/

theorem Backend.length_of_readRows {b : Backend} {rows : List b.Row} {events : List AuditEvent}
    (h : b.readRows rows = .ok events) : rows.length = events.length :=
  (mapM_eq_ok_iff.mp h).length_eq

theorem Backend.length_selectLatest_le (b : Backend) (table : List b.Row) :
    (b.selectLatest table).length ≤ 1 := by
  rw [selectLatest]
  cases (b.orderBySequence table).getLast? <;> simp

/-- The first event of at most one row is the reading of the row. -/
theorem readRows_selectLatest_of_head? {b : Backend} {table : List b.Row}
    {read : Except StorageError (List AuditEvent)} {event : Option AuditEvent}
    (hread : ∀ events, read = .ok events → b.readRows (b.selectLatest table) = .ok events)
    (h : read.map List.head? = .ok event) :
    b.readRows (b.selectLatest table) = .ok event.toList := by
  cases read with
  | error e => simp [Except.map] at h
  | ok events =>
    have hall := hread events rfl
    have hlen := Backend.length_of_readRows hall
    have hle := b.length_selectLatest_le table
    obtain rfl : events.head? = event := Except.ok.inj h
    match events with
    | [] => exact hall
    | [e] => exact hall
    | _ :: _ :: _ => simp at hlen; omega

/-- Reading the first row returns it, unless there is none or it cannot be fetched. -/
theorem readFirst_deliver_eq_ok {Row : Type} {decode : Row → Except String AuditEvent}
    {rows : List Row} {fault : Fault} {event : Option AuditEvent} (hrows : rows.length ≤ 1)
    (h : readFirst decode (fault.deliver rows) = .ok event) :
    rows.mapM decode = .ok event.toList := by
  have hone : ∀ {row : Row}, (decode row).map some = .ok event →
      [row].mapM decode = .ok event.toList := by
    intro row hrow
    cases hd : decode row with
    | error e => simp [hd, Except.map] at hrow
    | ok e =>
      obtain rfl : some e = event := by simpa [hd, Except.map] using hrow
      exact mapM_eq_ok_iff.mpr (.cons hd .nil)
  -- at most one row, so a fetch fails at that row or behind it
  match rows, fault with
  | [], .none | [], .unreachable _ | [], .rejected _ | [], .stream (_ + 1) _ =>
    exact Except.ok.inj h ▸ rfl
  | [], .stream 0 e => simp [Fault.deliver, readFirst] at h
  | [row], .none | [row], .unreachable _ | [row], .rejected _ => exact hone h
  | [row], .stream 0 e => simp [Fault.deliver, readFirst] at h
  | [row], .stream (n + 1) e => exact hone (by simpa [Fault.deliver, readFirst] using h)
  | _ :: _ :: _, _ => simp at hrows

/-- **Every backend's `latest` forwards every error**: what it returns is the event with
the highest sequence, if there is one. -/
theorem latest_eq_ok (S : StoreExterns) (R : Reading) (kind : BackendKind) {fault : Fault}
    {table : List (auditStorage S R kind).Row} {event : Option AuditEvent}
    (h : (auditStorage S R kind).latest fault table = .ok event) :
    (auditStorage S R kind).readRows ((auditStorage S R kind).selectLatest table)
      = .ok event.toList := by
  cases kind with
  | postgres =>
    exact readRows_selectLatest_of_head?
      (fun _ h => fetchAll_eq_ok (mapError_eq_ok_iff.mp h)) h
  | clickHouse =>
    exact readRows_selectLatest_of_head?
      (fun _ h => fetchAll_eq_ok (mapError_eq_ok_iff.mp h)) h
  | surrealDb => exact readRows_selectLatest_of_head? (fun _ h => surrealQuery_eq_ok h) h
  | turso =>
    have hlen := (tursoBackend S).length_selectLatest_le table
    cases fault with
    | unreachable e => simp [auditStorage, tursoAuditStorage] at h
    | rejected e => simp [auditStorage, tursoAuditStorage] at h
    | none => exact readFirst_deliver_eq_ok hlen (mapError_eq_ok_iff.mp h)
    | stream n e => exact readFirst_deliver_eq_ok hlen (mapError_eq_ok_iff.mp h)

/-! ### Honest operations -/

/-- The operations whose success is relied on. -/
inductive StorageOp
  | append (event : AuditEvent)
  | queryRange (start stop : DateTime) (limit : UInt64)
  | queryBefore (cutoff : DateTime) (limit : UInt64)
  | verifyChain (fromSequence : UInt64)

/-- The operation reports success only for work that was done: an appended event is
stored, a query returns every row it selects, and a verification that finds no break
has read and verified every event from the sequence on. -/
def Honest (X : HashExterns) (st : AuditStorage) (fault : Fault) (table : List st.Row) :
    StorageOp → Prop
  | .append event =>
    (st.append event fault table).1 = .ok () → st.toRow event ∈ (st.append event fault table).2
  | .queryRange start stop limit =>
    ∀ events, st.queryRange start stop limit fault table = .ok events →
      st.readRows (st.selectRange start stop limit table) = .ok events
  | .queryBefore cutoff limit =>
    ∀ events, st.queryBefore cutoff limit fault table = .ok events →
      st.readRows (st.selectBefore cutoff limit table) = .ok events
  | .verifyChain fromSequence =>
    st.verifyChain X fromSequence fault table = .ok none →
      ∃ events, st.readFrom fromSequence fault table = .ok events ∧
        st.readRows (st.selectFrom fromSequence table) = .ok events ∧
        verifyChain X events = .ok ()

/-- Fetching fails behind the rows that `events` are read from, with rows left. -/
def CutShort (b : Backend) (rows : List b.Row) (fault : Fault) (events : List AuditEvent) : Prop :=
  ∃ n e, fault = .stream n e ∧ n < rows.length ∧ b.readRows (rows.take n) = .ok events

/-- The cases in which an implementation drops an error: SurrealDB's `append` that of a
rejected statement, and Turso's loops that of a row that cannot be fetched. -/
def Swallows (X : HashExterns) (S : StoreExterns) (R : Reading) (kind : BackendKind)
    (fault : Fault) (table : List (auditStorage S R kind).Row) (op : StorageOp) : Prop :=
  match kind, op with
  | .surrealDb, .append event =>
    (∃ e, fault = .rejected e) ∧ (auditStorage S R .surrealDb).toRow event ∉ table
  | .turso, .queryRange start stop limit =>
    ∃ events, CutShort (tursoBackend S) ((tursoBackend S).selectRange start stop limit table)
      fault events
  | .turso, .queryBefore cutoff limit =>
    ∃ events, CutShort (tursoBackend S) ((tursoBackend S).selectBefore cutoff limit table)
      fault events
  | .turso, .verifyChain fromSequence =>
    ∃ events, CutShort (tursoBackend S) ((tursoBackend S).selectFrom fromSequence table)
      fault events ∧ verifyChain X events = .ok ()
  | _, _ => False

/-- A verification without a break is a reading that verifies. -/
theorem AuditStorage.verifyChain_eq_none_iff (X : HashExterns) (st : AuditStorage)
    (fromSequence : UInt64) (fault : Fault) (table : List st.Row) :
    st.verifyChain X fromSequence fault table = .ok none ↔
      ∃ events, st.readFrom fromSequence fault table = .ok events ∧
        ActonService.verifyChain X events = .ok () := by
  rw [AuditStorage.verifyChain]
  cases st.readFrom fromSequence fault table with
  | error e => simp [Except.map]
  | ok events => simp [Except.map, brokenAt_eq_none_iff]

/-- Every query returns all it selects: where it succeeds, its events are those of all the rows it
asked for. -/
structure AuditStorage.Complete (st : AuditStorage) (fault : Fault) (table : List st.Row) :
    Prop where
  queryRange : ∀ start stop limit events,
    st.queryRange start stop limit fault table = .ok events →
      st.readRows (st.selectRange start stop limit table) = .ok events
  queryBefore : ∀ cutoff limit events, st.queryBefore cutoff limit fault table = .ok events →
    st.readRows (st.selectBefore cutoff limit table) = .ok events
  readFrom : ∀ fromSequence events, st.readFrom fromSequence fault table = .ok events →
    st.readRows (st.selectFrom fromSequence table) = .ok events

theorem AuditStorage.Complete.honest {st : AuditStorage} {fault : Fault} {table : List st.Row}
    (h : st.Complete fault table) (X : HashExterns) {op : StorageOp}
    (happend : ∀ event, op = .append event → Honest X st fault table op) :
    Honest X st fault table op := by
  cases op with
  | append event => exact happend event rfl
  | queryRange start stop limit => exact h.queryRange start stop limit
  | queryBefore cutoff limit => exact h.queryBefore cutoff limit
  | verifyChain fromSequence =>
    intro hnone
    obtain ⟨events, hread, hok⟩ := (st.verifyChain_eq_none_iff X _ _ _).mp hnone
    exact ⟨events, hread, h.readFrom fromSequence events hread, hok⟩

theorem pg_complete (S : StoreExterns) (fault : Fault) (table : List (pgAuditStorage S).Row) :
    (pgAuditStorage S).Complete fault table where
  queryRange _ _ _ _ h := fetchAll_eq_ok (mapError_eq_ok_iff.mp h)
  queryBefore _ _ _ h := fetchAll_eq_ok (mapError_eq_ok_iff.mp h)
  readFrom _ _ h := fetchAll_eq_ok (mapError_eq_ok_iff.mp h)

theorem clickHouse_complete (S : StoreExterns) (R : Reading) (fault : Fault)
    (table : List (clickHouseAuditStorage S R).Row) :
    (clickHouseAuditStorage S R).Complete fault table where
  queryRange _ _ _ _ h := fetchAll_eq_ok (mapError_eq_ok_iff.mp h)
  queryBefore _ _ _ h := fetchAll_eq_ok (mapError_eq_ok_iff.mp h)
  readFrom _ _ h := fetchAll_eq_ok (mapError_eq_ok_iff.mp h)

theorem surreal_complete (S : StoreExterns) (R : Reading) (fault : Fault)
    (table : List (surrealAuditStorage S R).Row) :
    (surrealAuditStorage S R).Complete fault table where
  queryRange _ _ _ _ h := surrealQuery_eq_ok h
  queryBefore _ _ _ h := surrealQuery_eq_ok h
  readFrom _ _ h := surrealQuery_eq_ok h

/-- An insert that went through is stored. -/
theorem mem_insertRow_none {Row : Type} (row : Row) (table : List Row) :
    row ∈ insertRow row .none table := by
  simp [insertRow]

section Turso

variable {S : StoreExterns} {connecting running : String} {fault : Fault} {rows : List TursoRow}
  {events : List AuditEvent}

/-- A Turso query returns all it selects or was cut short. -/
theorem readRows_or_cutShort
    (h : libsqlQuery connecting running (tursoEvent S) rows fault = .ok events) :
    (tursoBackend S).readRows rows = .ok events ∨ CutShort (tursoBackend S) rows fault events := by
  rcases libsqlQuery_eq_ok_iff.mp h with ⟨-, hall⟩ | ⟨n, e, rfl, htake⟩
  · exact .inl hall
  · by_cases hn : n < rows.length
    · exact .inr ⟨n, e, rfl, hn, htake⟩
    · rw [List.take_of_length_le (by omega)] at htake
      exact .inl htake

/-- A query that is cut short succeeds all the same. -/
theorem CutShort.libsqlQuery_eq_ok (h : CutShort (tursoBackend S) rows fault events) :
    libsqlQuery connecting running (tursoEvent S) rows fault = .ok events := by
  obtain ⟨n, e, rfl, -, htake⟩ := h
  exact libsqlQuery_eq_ok_iff.mpr (.inr ⟨n, e, rfl, htake⟩)

/-- A query that is cut short does not return all it selects. -/
theorem CutShort.readRows_ne_ok (h : CutShort (tursoBackend S) rows fault events) :
    (tursoBackend S).readRows rows ≠ .ok events := by
  obtain ⟨n, e, -, hn, htake⟩ := h
  intro hall
  have hlen := Backend.length_of_readRows hall
  have hshort := Backend.length_of_readRows htake
  rw [List.length_take_of_le hn.le] at hshort
  omega

theorem turso_query_iff :
    (∀ events, libsqlQuery connecting running (tursoEvent S) rows fault = .ok events →
        (tursoBackend S).readRows rows = .ok events)
      ↔ ¬ ∃ events, CutShort (tursoBackend S) rows fault events := by
  constructor
  · rintro h ⟨events, hcut⟩
    exact hcut.readRows_ne_ok (h events hcut.libsqlQuery_eq_ok)
  · intro h events hok
    exact (readRows_or_cutShort hok).resolve_right fun hcut => h ⟨events, hcut⟩

/-- A Turso verification is honest unless its reading is cut short and verifies. -/
theorem turso_verifyChain_iff (X : HashExterns) (fromSequence : UInt64) (table : List TursoRow) :
    Honest X (tursoAuditStorage S) fault table (.verifyChain fromSequence)
      ↔ ¬ ∃ events, CutShort (tursoBackend S) ((tursoBackend S).selectFrom fromSequence table)
        fault events ∧ verifyChain X events = .ok () := by
  have hnone := (tursoAuditStorage S).verifyChain_eq_none_iff X fromSequence fault table
  constructor
  · rintro h ⟨events, hcut, hok⟩
    obtain ⟨events', hread, hall, -⟩ := h (hnone.mpr ⟨events, hcut.libsqlQuery_eq_ok, hok⟩)
    have hsame : events = events' := Except.ok.inj (hcut.libsqlQuery_eq_ok.symm.trans hread)
    exact hcut.readRows_ne_ok (hsame ▸ hall)
  · intro h hok
    obtain ⟨events, hread, hok⟩ := hnone.mp hok
    refine ⟨events, hread, ?_, hok⟩
    exact (readRows_or_cutShort hread).resolve_right fun hcut => h ⟨events, hcut, hok⟩

end Turso

/-- A SurrealDB insert is honest unless it is rejected and the event is not there already. -/
theorem surreal_append_iff (X : HashExterns) (S : StoreExterns) (R : Reading) (event : AuditEvent)
    (fault : Fault) (table : List (SurrealRow String)) :
    Honest X (surrealAuditStorage S R) fault table (.append event)
      ↔ ¬ ((∃ e, fault = .rejected e) ∧ surrealRecord S event ∉ table) := by
  cases fault with
  | none => exact iff_of_true (fun _ => mem_insertRow_none _ _) (by simp)
  | rejected e =>
    -- the response is not looked at, so the rejected insert reports success
    have hdropped : ((surrealAuditStorage S R).append event (.rejected e) table).1 = .ok () := rfl
    have htable : ((surrealAuditStorage S R).append event (.rejected e) table).2 = table := rfl
    simp only [Honest, hdropped, htable, not_and_not_right]
    exact ⟨fun h _ => h trivial, fun h _ => h ⟨e, rfl⟩⟩
  | unreachable e => exact iff_of_true (by simp [Honest, surrealAuditStorage]) (by simp)
  | stream n e => exact iff_of_true (by simp [Honest, surrealAuditStorage]) (by simp)

/-- **An operation is honest exactly when no error is dropped**, on every backend, for
every table and whatever happens to its statement. -/
theorem honest_iff_not_swallows (X : HashExterns) (S : StoreExterns) (R : Reading)
    (kind : BackendKind) (fault : Fault) (table : List (auditStorage S R kind).Row)
    (op : StorageOp) :
    Honest X (auditStorage S R kind) fault table op ↔ ¬ Swallows X S R kind fault table op := by
  cases kind with
  | postgres =>
    refine iff_of_true ((pg_complete S fault table).honest X fun event hop => ?_) ?_
    · subst hop
      intro hok
      cases fault with
      | none => exact mem_insertRow_none _ _
      | _ => simp [pgAuditStorage] at hok
    · cases op <;> exact not_false
  | clickHouse =>
    refine iff_of_true ((clickHouse_complete S R fault table).honest X fun event hop => ?_) ?_
    · subst hop
      intro hok
      cases fault with
      | none => exact mem_insertRow_none _ _
      | _ => simp [clickHouseAuditStorage] at hok
    · cases op <;> exact not_false
  | surrealDb =>
    cases op with
    | append event => exact surreal_append_iff X S R event fault table
    | _ => exact iff_of_true ((surreal_complete S R fault table).honest X (by simp)) not_false
  | turso =>
    cases op with
    | append event =>
      refine iff_of_true (fun hok => ?_) not_false
      cases fault with
      | none => exact mem_insertRow_none _ _
      | _ => simp [auditStorage, tursoAuditStorage] at hok
    | queryRange start stop limit => exact turso_query_iff
    | queryBefore cutoff limit => exact turso_query_iff
    | verifyChain fromSequence => exact turso_verifyChain_iff X fromSequence table

/-- A login SurrealDB refuses to store is reported as appended, and a Turso verification
whose first row cannot be fetched finds an unread chain intact. -/
theorem not_honest_surreal_turso :
    ¬ Honest sampleExterns (auditStorage sampleStore ⟨.tagged, sampleUuid, sampleTime 0⟩ .surrealDb)
        (.rejected "Database index `idx_audit_sequence` already contains 1") []
        (.append sampleFirst) ∧
      ¬ Honest sampleExterns (auditStorage sampleStore ⟨.tagged, sampleUuid, sampleTime 0⟩ .turso)
        (.stream 0 "stream closed") [tursoRow sampleStore sampleFirst] (.verifyChain 0) := by
  refine ⟨fun h => List.not_mem_nil (h rfl), fun h => ?_⟩
  obtain ⟨events, hread, hall, -⟩ := h rfl
  have hlen := Backend.length_of_readRows hall
  -- no event was read where one was selected
  rw [← Except.ok.inj hread] at hlen
  revert hlen
  decide

end ActonService
