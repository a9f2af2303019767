import ActonService.Audit.Chain

/-!
# Rows of the audit tables

The row each storage backend writes for an event and how it reads one back
(`audit/storage/pg.rs`, `turso.rs`, `surrealdb_impl.rs`, `clickhouse_impl.rs`).  The four
tables have the same columns at different types, so a row is `EventRow` at the
types of its backend.

A database returns the column values it was given, but for two columns of
PostgreSQL: `TIMESTAMPTZ` keeps microseconds, and `JSONB` returns a value of its own
for the one it was given (`StoreExterns.jsonb`).  A row a database refuses is an error
of `append` and has no reading.

## Main definitions

* `StoreExterns` — the third-party functions rows are written and read with.
* `pgRow`, `tursoRow`, `surrealRecord`, `clickHouseRow` — the rows written for an event.
* `pgEvent`, `tursoEvent`, `surrealEvent`, `clickHouseEvent` — how they are read.
* `Backend` — the four of them at one type.

## Main results

* `fromTimestampMillis_timestampMillis_iff`, `ofTimestamptz_toTimestamptz_iff` — the times
  that survive milliseconds and microseconds.
* `tursoEvent_surrealEvent_seal` — **the text backends return what was sealed.**
-/

namespace ActonService

open Bytes

/-! ### Times as integers -/

/-- `DateTime::from_timestamp`. -/
def DateTime.fromTimestamp (secs : ℤ) (nanos : ℕ) : Option DateTime :=
  if h : nanos < 2000000000 ∧ -8334601228800 ≤ secs ∧ secs ≤ 8210266876799 then
    some ⟨secs, nanos, h.1, h.2.1, h.2.2⟩
  else none

/-- `DateTime::timestamp_millis`. -/
def DateTime.timestampMillis (t : DateTime) : ℤ := t.secs * 1000 + (t.nanos / 1000000 : ℕ)

/-- `DateTime::from_timestamp_millis`. -/
def DateTime.fromTimestampMillis (millis : ℤ) : Option DateTime :=
  fromTimestamp (millis / 1000) ((millis % 1000).toNat * 1000000)

/-- A time as a `TIMESTAMPTZ`: whole microseconds since 2000-01-01, cut towards it. -/
def DateTime.toTimestamptz (t : DateTime) : ℤ :=
  ((t.secs - 946684800) * 1000000000 + t.nanos).tdiv 1000

/-- The time a `TIMESTAMPTZ` stands for. -/
def DateTime.ofTimestamptz (micros : ℤ) : Option DateTime :=
  fromTimestamp (micros / 1000000 + 946684800) ((micros % 1000000).toNat * 1000)

/-- Nanoseconds in a second. -/
def nanosPerSec : ℕ := 1000000000

/-- The whole seconds from `earlier` to `later`, as `num_seconds` rounds them: towards
zero.  A clock reading is never inside a leap second. -/
def DateTime.numSecondsSince (later earlier : DateTime) : ℤ :=
  ((later.secs - earlier.secs) * nanosPerSec + (later.nanos - earlier.nanos)).tdiv nanosPerSec

/-- The time that many seconds later, if `chrono` covers it. -/
def DateTime.addSecs (t : DateTime) (secs : ℤ) : Option DateTime :=
  fromTimestamp (t.secs + secs) t.nanos

/-- The time lies outside a leap second and its nanoseconds are a multiple of `unit`. -/
def DateTime.WholeUnits (unit : ℕ) (t : DateTime) : Prop := t.nanos < 1000000000 ∧ unit ∣ t.nanos

instance (unit : ℕ) (t : DateTime) : Decidable (t.WholeUnits unit) :=
  inferInstanceAs (Decidable (_ ∧ _))

theorem DateTime.fromTimestamp_eq_some_iff (secs : ℤ) (nanos : ℕ) (t : DateTime) :
    fromTimestamp secs nanos = some t ↔ secs = t.secs ∧ nanos = t.nanos := by
  obtain ⟨secs', nanos', h₁, h₂, h₃⟩ := t
  unfold fromTimestamp
  constructor
  · intro h
    split at h
    · rw [Option.some.injEq, DateTime.mk.injEq] at h
      exact h
    · exact absurd h (by simp)
  · rintro ⟨rfl, rfl⟩
    rw [dif_pos ⟨h₁, h₂, h₃⟩]

/-- A time survives milliseconds exactly when it has no smaller part. -/
theorem DateTime.fromTimestampMillis_timestampMillis_iff (t : DateTime) :
    fromTimestampMillis t.timestampMillis = some t ↔ t.WholeUnits 1000000 := by
  have hnanos := t.nanos_lt
  rw [fromTimestampMillis, fromTimestamp_eq_some_iff, timestampMillis, WholeUnits]
  omega

/-- A time survives microseconds exactly when it has no smaller part. -/
theorem DateTime.ofTimestamptz_toTimestamptz_iff (t : DateTime) :
    ofTimestamptz t.toTimestamptz = some t ↔ t.WholeUnits 1000 := by
  have hnanos := t.nanos_lt
  rw [ofTimestamptz, fromTimestamp_eq_some_iff, toTimestamptz, Int.tdiv_eq_ediv, WholeUnits]
  constructor
  · intro h
    split at h <;> omega
  · intro h
    split <;> omega

/-! ### Rows -/

/-- The third-party functions rows are written and read with. -/
structure StoreExterns extends HashExterns where
  /-- `DateTime::parse_from_rfc3339`, or the text of its error. -/
  parseFromRfc3339 : String → Except String DateTime
  /-- `serde_json::from_str`, where it succeeds. -/
  jsonFromStr : String → Option Json
  /-- The hyphenated text of a `Uuid`. -/
  uuidToString : Uuid → String
  /-- `Uuid::parse_str`, or the text of its error. -/
  uuidParseStr : String → Except String Uuid
  /-- What a `JSONB` column returns for a value. -/
  jsonb : Json → Json

/-- A row of `audit_events`, at the types a backend gives the columns. -/
structure EventRow (Id Time Severity Status Metadata Hash Sequence : Type) where
  id : Id
  timestamp : Time
  kind : String
  severity : Severity
  sourceIp : Option String
  sourceUserAgent : Option String
  sourceSubject : Option String
  sourceRequestId : Option String
  method : Option String
  path : Option String
  statusCode : Option Status
  durationMs : Option Int64
  serviceName : String
  metadata : Option Metadata
  hash : Hash
  previousHash : Option String
  sequence : Sequence

/-- The columns every backend writes the same way. -/
def eventRow {Id Time Severity Status Metadata Hash Sequence : Type} (e : AuditEvent) (id : Id)
    (timestamp : Time) (severity : Severity) (statusCode : UInt16 → Status)
    (metadata : Json → Metadata) (hash : Hash) (sequence : Sequence) :
    EventRow Id Time Severity Status Metadata Hash Sequence where
  id := id
  timestamp := timestamp
  kind := e.kind.display
  severity := severity
  sourceIp := e.source.ip
  sourceUserAgent := e.source.userAgent
  sourceSubject := e.source.subject
  sourceRequestId := e.source.requestId
  method := e.method
  path := e.path
  statusCode := e.statusCode.map statusCode
  durationMs := e.durationMs.map UInt64.toInt64
  serviceName := e.serviceName
  metadata := e.metadata.map metadata
  hash := hash
  previousHash := e.previousHash
  sequence := sequence

/-- The fields every backend reads the same way. -/
def rowEvent {Id Time Severity Status Metadata Hash Sequence : Type}
    (row : EventRow Id Time Severity Status Metadata Hash Sequence) (id : Uuid)
    (timestamp : DateTime) (severity : ℤ) (statusCode : Status → UInt16)
    (metadata : Metadata → Option Json) (hash : Option String) (sequence : UInt64) :
    AuditEvent where
  id := id
  timestamp := timestamp
  kind := parseStoredKind row.kind
  severity := parseStoredSeverity severity
  source := ⟨row.sourceIp, row.sourceUserAgent, row.sourceSubject, row.sourceRequestId⟩
  method := row.method
  path := row.path
  statusCode := row.statusCode.map statusCode
  durationMs := row.durationMs.map Int64.toUInt64
  serviceName := row.serviceName
  metadata := row.metadata.bind metadata
  hash := hash
  previousHash := row.previousHash
  sequence := sequence

/-- **Reading the row of an event back** returns the event but for what the columns did
to its time, metadata and hash: the status code, the duration and the severity
survive their casts, and the kind its text. -/
theorem rowEvent_eventRow {Id Time Severity Status Metadata Hash Sequence : Type} (e : AuditEvent)
    (id : Id) (timestamp : Time) (severity : Severity) {toStatus : UInt16 → Status}
    (toMetadata : Json → Metadata) (hash : Hash) (sequence : Sequence) (id' : Uuid)
    (timestamp' : DateTime) {severity' : ℤ} {ofStatus : Status → UInt16}
    (ofMetadata : Metadata → Option Json) (hash' : Option String) (sequence' : UInt64)
    (hseverity : severity' = e.severity.asSyslogSeverity.toNat)
    (hstatus : ∀ code, ofStatus (toStatus code) = code) :
    rowEvent (eventRow e id timestamp severity toStatus toMetadata hash sequence) id' timestamp'
        severity' ofStatus ofMetadata hash' sequence'
      = { e with
          id := id'
          timestamp := timestamp'
          metadata := e.metadata.bind fun v => ofMetadata (toMetadata v)
          hash := hash'
          sequence := sequence' } := by
  have hcode : (e.statusCode.map toStatus).map ofStatus = e.statusCode := by
    cases e.statusCode <;> simp [hstatus]
  have hduration : (e.durationMs.map UInt64.toInt64).map Int64.toUInt64 = e.durationMs := by
    cases e.durationMs <;> simp
  have hmetadata : (e.metadata.map toMetadata).bind ofMetadata
      = e.metadata.bind fun v => ofMetadata (toMetadata v) := by
    cases e.metadata <;> rfl
  simp only [rowEvent, eventRow, hseverity, parseStoredSeverity_asSyslogSeverity,
    parseStoredKind_display, hcode, hduration, hmetadata]

/-- A list is read when each of its items is. -/
theorem mapM_eq_ok_iff {ε α β : Type} {f : α → Except ε β} {xs : List α} {ys : List β} :
    xs.mapM f = .ok ys ↔ List.Forall₂ (fun x y => f x = .ok y) xs ys := by
  induction xs generalizing ys with
  | nil =>
    rw [List.mapM_nil, List.forall₂_nil_left_iff]
    exact ⟨fun h => (Except.ok.inj h).symm, fun h => h ▸ rfl⟩
  | cons x xs ih =>
    rw [List.mapM_cons, List.forall₂_cons_left_iff]
    constructor
    · intro h
      cases hx : f x with
      | error e => simp [hx, bind, Except.bind] at h
      | ok y =>
        cases hxs : xs.mapM f with
        | error e => simp [hx, hxs, bind, Except.bind] at h
        | ok zs =>
          simp only [hx, hxs, bind, Except.bind, pure, Except.pure, Except.ok.injEq] at h
          exact ⟨y, zs, rfl, ih.mp hxs, h.symm⟩
    · rintro ⟨y, zs, hx, hxs, rfl⟩
      rw [hx, ih.mpr hxs]
      rfl

theorem exists_of_mapM_eq_ok {ε α β : Type} {f : α → Except ε β} {xs : List α} {ys : List β}
    (h : xs.mapM f = .ok ys) : ∀ x ∈ xs, ∃ y ∈ ys, f x = .ok y := by
  rw [mapM_eq_ok_iff] at h
  induction h with
  | nil => simp
  | cons hxy _ ih =>
    refine List.forall_mem_cons.mpr ⟨⟨_, List.mem_cons_self, hxy⟩, fun x hx => ?_⟩
    obtain ⟨y, hy, hxy⟩ := ih x hx
    exact ⟨y, List.mem_cons_of_mem _ hy, hxy⟩

theorem exists_of_mem_mapM {ε α β : Type} {f : α → Except ε β} {xs : List α} {ys : List β}
    (h : xs.mapM f = .ok ys) : ∀ y ∈ ys, ∃ x ∈ xs, f x = .ok y := by
  rw [mapM_eq_ok_iff] at h
  induction h with
  | nil => simp
  | cons hxy _ ih =>
    refine List.forall_mem_cons.mpr ⟨⟨_, List.mem_cons_self, hxy⟩, fun y hy => ?_⟩
    rcases ih y hy with ⟨x, hx, hxy⟩
    exact ⟨x, List.mem_cons_of_mem _ hx, hxy⟩

/-! ### PostgreSQL -/

/-- The columns of the PostgreSQL table. -/
abbrev PgRow := EventRow Uuid ℤ Int16 Int16 Json (Option String) Int64

/-- What `PgAuditStorage::append` binds, as the table holds it. -/
def pgRow (S : StoreExterns) (e : AuditEvent) : PgRow :=
  eventRow e e.id e.timestamp.toTimestamptz e.severity.asSyslogSeverity.toUInt16.toInt16
    UInt16.toInt16 S.jsonb e.hash e.sequence.toInt64

/-- `From<AuditEventRow>`; the driver reads the time. -/
def pgEvent (row : PgRow) : Except String AuditEvent :=
  match DateTime.ofTimestamptz row.timestamp with
  | some timestamp =>
    .ok (rowEvent row row.id timestamp row.severity.toInt Int16.toUInt16 some row.hash
      row.sequence.toUInt64)
  | none => .error "timestamp out of range"

/-! ### Turso -/

/-- The columns of the Turso table. -/
abbrev TursoRow := EventRow String String Int64 Int64 String (Option String) Int64

/-- What `TursoAuditStorage::append` binds. -/
def tursoRow (S : StoreExterns) (e : AuditEvent) : TursoRow :=
  eventRow e (S.uuidToString e.id) (S.toRfc3339 e.timestamp)
    e.severity.asSyslogSeverity.toUInt64.toInt64 (fun code => code.toUInt64.toInt64)
    (jsonText S.numberText) e.hash e.sequence.toInt64

/-- `row_to_event`. -/
def tursoEvent (S : StoreExterns) (row : TursoRow) : Except String AuditEvent := do
  let id ← (S.uuidParseStr row.id).mapError ("Failed to parse UUID: " ++ ·)
  let timestamp ← (S.parseFromRfc3339 row.timestamp).mapError ("Failed to parse timestamp: " ++ ·)
  return rowEvent row id timestamp row.severity.toInt16.toInt (fun code => code.toUInt64.toUInt16)
    S.jsonFromStr row.hash row.sequence.toUInt64

/-! ### SurrealDB -/

/-- The columns of the SurrealDB table, at the type of the record's `id`. -/
abbrev SurrealRow (Id : Type) := EventRow Id String Int64 Int64 String String Int64

/-- The `AuditRecord` of `SurrealAuditStorage::append`. -/
def surrealRecord (S : StoreExterns) (e : AuditEvent) : SurrealRow String :=
  eventRow e (S.uuidToString e.id) (S.toRfc3339 e.timestamp)
    e.severity.asSyslogSeverity.toUInt64.toInt64 (fun code => code.toUInt64.toInt64)
    (jsonText S.numberText) (e.hash.getD "") e.sequence.toInt64

/-- The forms in which a query returns a record's identifier. -/
inductive RecordIdForm
  /-- The identifier alone. -/
  | plain
  /-- `"audit_events:uuid"` -/
  | tagged
  /-- `{ "tb": "audit_events", "id": "uuid" }` -/
  | object
  /-- `{ "tb": "audit_events", "id": { "String": "uuid" } }` -/
  | wrapped
  deriving DecidableEq, Repr

def RecordIdForm.json (id : String) : RecordIdForm → Json
  | .plain => .string id
  | .tagged => .string ("audit_events:" ++ id)
  | .object => .object [("tb", .string "audit_events"), ("id", .string id)]
  | .wrapped =>
    .object [("tb", .string "audit_events"), ("id", .object [("String", .string id)])]

/-- The `AuditRow` a query returns for a record. -/
def surrealRow (form : RecordIdForm) (record : SurrealRow String) : SurrealRow Json :=
  { record with id := form.json record.id }

/-- `s.split(':').next_back()`: what stands behind the last colon. -/
def lastSegment (s : String) : String :=
  String.ofList (s.toList.reverse.takeWhile (· ≠ ':')).reverse

/-- The text of the identifier `From<AuditRow>` finds. -/
def surrealIdText : Json → String
  | .string s => lastSegment s
  | .object obj =>
    match obj.lookup "id" with
    | some (.string s) => s
    | some (.object inner) =>
      match inner.lookup "String" with
      | some (.string s) => s
      | _ => ""
    | _ => ""
  | _ => ""

/-- `From<AuditRow>`.  An identifier or a time that does not parse is replaced, by a new
identifier and the time of the reading. -/
def surrealEvent (S : StoreExterns) (newId : Uuid) (now : DateTime) (row : SurrealRow Json) :
    AuditEvent :=
  rowEvent row ((S.uuidParseStr (surrealIdText row.id)).toOption.getD newId)
    ((S.parseFromRfc3339 row.timestamp).toOption.getD now) row.severity.toInt16.toInt
    (fun code => code.toUInt64.toUInt16) S.jsonFromStr (some row.hash) row.sequence.toUInt64

/-! ### ClickHouse -/

/-- The columns of the ClickHouse table. -/
abbrev ClickHouseRow := EventRow Uuid ℤ UInt8 UInt16 String String UInt64

/-- `From<&AuditEvent> for AuditInsertRow`. -/
def clickHouseRow (S : StoreExterns) (e : AuditEvent) : ClickHouseRow :=
  eventRow e e.id e.timestamp.timestampMillis e.severity.asSyslogSeverity id
    (jsonText S.numberText) (e.hash.getD "") e.sequence

/-- `From<AuditQueryRow>`, at the time of the reading. -/
def clickHouseEvent (S : StoreExterns) (now : DateTime) (row : ClickHouseRow) : AuditEvent :=
  rowEvent row row.id ((DateTime.fromTimestampMillis row.timestamp).getD now) row.severity.toNat
    id S.jsonFromStr (some row.hash) row.sequence

/-! ### Backends -/

/-- An audit backend: the rows of its table, how events become rows and rows events, and how
the database compares the columns the queries name. -/
structure Backend where
  Row : Type
  /-- The row `append` writes for an event. -/
  toRow : AuditEvent → Row
  /-- The event a row is read as, or the text of the error. -/
  fromRow : Row → Except String AuditEvent
  /-- The `sequence` column. -/
  sequence : Row → ℤ
  /-- The value a sequence number is bound as. -/
  sequenceParam : UInt64 → ℤ
  /-- `timestamp >= from` -/
  atLeast : DateTime → Row → Bool
  /-- `timestamp <= to` -/
  atMost : DateTime → Row → Bool
  /-- `timestamp < cutoff` -/
  before : DateTime → Row → Bool

/-- `PgAuditStorage`. -/
def pgBackend (S : StoreExterns) : Backend where
  Row := PgRow
  toRow := pgRow S
  fromRow := pgEvent
  sequence row := row.sequence.toInt
  sequenceParam n := n.toInt64.toInt
  atLeast t row := t.toTimestamptz ≤ row.timestamp
  atMost t row := row.timestamp ≤ t.toTimestamptz
  before t row := row.timestamp < t.toTimestamptz

/-- `TursoAuditStorage`.  Times are compared as texts. -/
def tursoBackend (S : StoreExterns) : Backend where
  Row := TursoRow
  toRow := tursoRow S
  fromRow := tursoEvent S
  sequence row := row.sequence.toInt
  sequenceParam n := n.toInt64.toInt
  atLeast t row := S.toRfc3339 t ≤ row.timestamp
  atMost t row := row.timestamp ≤ S.toRfc3339 t
  before t row := row.timestamp < S.toRfc3339 t

/-- `SurrealAuditStorage`, at the form it returns identifiers in and at what a reading
replaces an unreadable identifier or time by. -/
def surrealBackend (S : StoreExterns) (form : RecordIdForm) (newId : Uuid) (now : DateTime) :
    Backend where
  Row := SurrealRow String
  toRow := surrealRecord S
  fromRow record := .ok (surrealEvent S newId now (surrealRow form record))
  sequence row := row.sequence.toInt
  sequenceParam n := n.toInt64.toInt
  atLeast t row := S.toRfc3339 t ≤ row.timestamp
  atMost t row := row.timestamp ≤ S.toRfc3339 t
  before t row := row.timestamp < S.toRfc3339 t

/-- `ClickHouseAuditStorage`, at the time of the reading. -/
def clickHouseBackend (S : StoreExterns) (now : DateTime) : Backend where
  Row := ClickHouseRow
  toRow := clickHouseRow S
  fromRow row := .ok (clickHouseEvent S now row)
  sequence row := row.sequence.toNat
  sequenceParam n := n.toNat
  atLeast t row := t.timestampMillis ≤ row.timestamp
  atMost t row := row.timestamp ≤ t.timestampMillis
  before t row := row.timestamp < t.timestampMillis

/-- The event `append` wrote a row for, as it is read back. -/
def Backend.readBack (b : Backend) (e : AuditEvent) : Except String AuditEvent :=
  b.fromRow (b.toRow e)

/-! ### The text backends -/

/-- The texts of the event's time and identifier parse back to them. -/
structure AuditEvent.StampsRoundTrip (S : StoreExterns) (e : AuditEvent) : Prop where
  timestamp : S.parseFromRfc3339 (S.toRfc3339 e.timestamp) = .ok e.timestamp
  id : S.uuidParseStr (S.uuidToString e.id) = .ok e.id
  id_colon : ':' ∉ (S.uuidToString e.id).toList

/-- The texts of the event's time, metadata and identifier parse back to them. -/
structure AuditEvent.TextsRoundTrip (S : StoreExterns) (e : AuditEvent) : Prop where
  timestamp : S.parseFromRfc3339 (S.toRfc3339 e.timestamp) = .ok e.timestamp
  metadata : ∀ v ∈ e.metadata, S.jsonFromStr (jsonText S.numberText v) = some v
  id : S.uuidParseStr (S.uuidToString e.id) = .ok e.id
  id_colon : ':' ∉ (S.uuidToString e.id).toList

/-- Behind the last colon of a text stands the whole of a tail without one. -/
theorem takeWhile_colon {s : List Char} (h : ':' ∉ s) (r : List Char) :
    (s.reverse ++ r).takeWhile (· ≠ ':') = s.reverse ++ r.takeWhile (· ≠ ':') := by
  refine List.takeWhile_append_of_pos fun c hc => ?_
  rw [List.mem_reverse] at hc
  exact decide_eq_true fun heq => h (heq ▸ hc)

theorem lastSegment_of_notMem {s : String} (h : ':' ∉ s.toList) : lastSegment s = s := by
  have htake := takeWhile_colon h []
  rw [List.append_nil, List.takeWhile_nil, List.append_nil] at htake
  rw [lastSegment, htake, List.reverse_reverse, String.ofList_toList]

theorem lastSegment_append {s : String} (start : String) (h : ':' ∉ s.toList) :
    lastSegment (start ++ ":" ++ s) = s := by
  have hlist : (start ++ ":" ++ s).toList.reverse
      = s.toList.reverse ++ ':' :: start.toList.reverse := by
    simp [String.toList_append]
  rw [lastSegment, hlist, takeWhile_colon h]
  simp

/-- Every form of a record's identifier gives the identifier back. -/
theorem surrealIdText_json {id : String} (h : ':' ∉ id.toList) (form : RecordIdForm) :
    surrealIdText (form.json id) = id := by
  cases form with
  | plain => exact lastSegment_of_notMem h
  | tagged => exact lastSegment_append "audit_events" h
  | object => rfl
  | wrapped => rfl

theorem toInt16_severity (s : AuditSeverity) :
    s.asSyslogSeverity.toUInt64.toInt64.toInt16.toInt = s.asSyslogSeverity.toNat := by
  cases s <;> decide

theorem AuditEvent.TextsRoundTrip.stamps {S : StoreExterns} {e : AuditEvent}
    (h : e.TextsRoundTrip S) : e.StampsRoundTrip S :=
  ⟨h.timestamp, h.id, h.id_colon⟩

/-- The event a text backend returns: its metadata are those `serde_json` reads of their
text, and are dropped where it reads none. -/
def AuditEvent.rereadMetadata (S : StoreExterns) (e : AuditEvent) : AuditEvent :=
  { e with metadata := e.metadata.bind fun v => S.jsonFromStr (jsonText S.numberText v) }

theorem rereadMetadata_eq {S : StoreExterns} {e : AuditEvent} (h : e.TextsRoundTrip S) :
    e.rereadMetadata S = e := by
  have hmetadata : (e.metadata.bind fun v => S.jsonFromStr (jsonText S.numberText v))
      = e.metadata := by
    cases hm : e.metadata with
    | none => rfl
    | some v => exact h.metadata v hm
  rw [AuditEvent.rereadMetadata, hmetadata]

/-- Turso returns everything but the metadata as it was. -/
theorem tursoEvent_tursoRow {S : StoreExterns} {e : AuditEvent} (h : e.StampsRoundTrip S) :
    tursoEvent S (tursoRow S e) = .ok (e.rereadMetadata S) := by
  have hid : S.uuidParseStr (tursoRow S e).id = .ok e.id := h.id
  have htime : S.parseFromRfc3339 (tursoRow S e).timestamp = .ok e.timestamp := h.timestamp
  simp only [tursoEvent, hid, htime, Except.mapError, bind, Except.bind, pure, Except.pure]
  rw [tursoRow, rowEvent_eventRow]
  · simp [AuditEvent.rereadMetadata, eventRow]
  · exact toInt16_severity e.severity
  · intro code
    simp

/-- SurrealDB returns everything but the metadata as it was, whatever form it returns the
record's identifier in. -/
theorem surrealEvent_surrealRow {S : StoreExterns} {e : AuditEvent} (h : e.StampsRoundTrip S)
    (hhash : e.hash ≠ none) (form : RecordIdForm) (newId : Uuid) (now : DateTime) :
    surrealEvent S newId now (surrealRow form (surrealRecord S e)) = e.rereadMetadata S := by
  have hid : surrealIdText (surrealRow form (surrealRecord S e)).id = S.uuidToString e.id :=
    surrealIdText_json h.id_colon form
  have htime : S.parseFromRfc3339 (surrealRow form (surrealRecord S e)).timestamp
      = .ok e.timestamp := h.timestamp
  have hrow : surrealRow form (surrealRecord S e)
      = eventRow e (form.json (S.uuidToString e.id)) (S.toRfc3339 e.timestamp)
          e.severity.asSyslogSeverity.toUInt64.toInt64 (fun code => code.toUInt64.toInt64)
          (jsonText S.numberText) (e.hash.getD "") e.sequence.toInt64 := rfl
  have hsome : some (e.hash.getD "") = e.hash := Option.getD_of_ne_none hhash ""
  rw [surrealEvent, hid, htime, h.id, hrow, rowEvent_eventRow]
  · simp [AuditEvent.rereadMetadata, eventRow, Except.toOption, hsome]
  · exact toInt16_severity e.severity
  · intro code
    simp

/-- The third-party functions at the samples: the hyphenated text of an identifier and the
inverses of the sample texts.  The keys of the sample metadata stand in the order
`JSONB` keeps them in, shorter ones first. -/
def sampleStore : StoreExterns where
  toHashExterns := sampleExterns
  parseFromRfc3339 text :=
    match sampleMoments.find? (·.2 = text) with
    | some moment => .ok moment.1
    | none => .error "input contains invalid characters"
  jsonFromStr text :=
    if text = jsonText sampleTexts.numberText sampleMetadata then some sampleMetadata else none
  uuidToString id :=
    let digits := hexDigits id.bytes
    String.ofList (digits.take 8 ++ '-' :: (digits.drop 8).take 4 ++ '-' :: (digits.drop 12).take 4
      ++ '-' :: (digits.drop 16).take 4 ++ '-' :: digits.drop 20)
  uuidParseStr text :=
    if text = "67e55044-10b1-426f-9247-bb680e5fe0c8" then .ok sampleUuid
    else .error "invalid character"
  jsonb v := v

theorem textsRoundTrip_sampleLogin (t : DateTime) (h : t ∈ sampleMoments.map Prod.fst) :
    (sampleLogin t sampleMetadata).TextsRoundTrip sampleStore where
  timestamp := by
    have hall : ∀ t ∈ sampleMoments.map Prod.fst,
        sampleStore.parseFromRfc3339 (sampleStore.toRfc3339 t) = .ok t := by decide
    exact hall t h
  metadata := by
    intro v hv
    obtain rfl : sampleMetadata = v := Option.some.inj hv
    simp [sampleStore, sampleExterns]
  id := by
    show sampleStore.uuidParseStr (sampleStore.uuidToString sampleUuid) = .ok sampleUuid
    decide
  id_colon := by
    show ':' ∉ (sampleStore.uuidToString sampleUuid).toList
    decide

/-- **The text backends return what was sealed**: Turso's `row_to_event` and SurrealDB's
`From<AuditRow>`, in every form of the record's identifier, read the row `append` writes
for a sealed event as that event, whatever its kind, its numbers, its optional texts
and its metadata. -/
theorem tursoEvent_surrealEvent_seal (S : StoreExterns) (chain : AuditChain) (event : AuditEvent)
    (h : event.TextsRoundTrip S) :
    let sealed := (AuditChain.seal S.toHashExterns chain event).1
    tursoEvent S (tursoRow S sealed) = .ok sealed ∧
      ∀ (form : RecordIdForm) (newId : Uuid) (now : DateTime),
        surrealEvent S newId now (surrealRow form (surrealRecord S sealed)) = sealed := by
  intro sealed
  have hsealed : sealed.TextsRoundTrip S := ⟨h.timestamp, h.metadata, h.id, h.id_colon⟩
  constructor
  · rw [tursoEvent_tursoRow hsealed.stamps, rereadMetadata_eq hsealed]
  · intro form newId now
    rw [surrealEvent_surrealRow hsealed.stamps (Option.some_ne_none _), rereadMetadata_eq hsealed]

theorem tursoEvent_surrealEvent_seal_sample :
    let sealed := (AuditChain.seal sampleExterns (AuditChain.new "billing")
      (sampleLogin (sampleTime 123456789) sampleMetadata)).1
    tursoEvent sampleStore (tursoRow sampleStore sealed) = .ok sealed ∧
      surrealEvent sampleStore ⟨List.replicate 16 0, rfl⟩ (sampleTime 0)
        (surrealRow .wrapped (surrealRecord sampleStore sealed)) = sealed := by
  have h := tursoEvent_surrealEvent_seal sampleStore (AuditChain.new "billing")
    (sampleLogin (sampleTime 123456789) sampleMetadata) (textsRoundTrip_sampleLogin _ (by decide))
  exact ⟨h.1, h.2 .wrapped _ _⟩

end ActonService
