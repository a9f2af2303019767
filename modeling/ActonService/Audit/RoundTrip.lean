import ActonService.Audit.Commitment
import ActonService.Audit.Rows

/-!
# Sealed events through the binary-timestamp backends

The ClickHouse table keeps milliseconds and the PostgreSQL table microseconds, but
`Utc::now()` gives nanoseconds and the hash covers the full RFC 3339 text.  A sealed
chain read back from either table therefore verifies exactly when no event's time has
a part the column drops, and every event's metadata come back with the same canonical
text.

## Main definitions

* `DateTime.Regular` — the times `Utc::now()` gives.
* `MetadataSurvive` — metadata keep their canonical text.

## Main results

* `hashValid_columns_iff` — when an event read back still has the right hash.
* `verifyChain_clickHouse_pg_iff` — **when a chain read back still verifies.**
-/

namespace ActonService

open Bytes HashChain

/-! ### What a column does to an event -/

/-- The time is outside a leap second, as `Utc::now()` always is. -/
def DateTime.Regular (t : DateTime) : Prop := t.nanos < 1000000000

instance (t : DateTime) : Decidable t.Regular := inferInstanceAs (Decidable (_ < _))

/-- The event's metadata, read back with `read`, keep their canonical text. -/
def MetadataSurvive (T : Texts) (read : Json → Option Json) (e : AuditEvent) : Prop :=
  ∀ v ∈ e.metadata,
    (read v).map (canonicalJson T.numberText) = some (canonicalJson T.numberText v)

/-- The event with the time and the metadata its columns return. -/
def AuditEvent.throughColumns (e : AuditEvent) (timestamp : DateTime) (read : Json → Option Json) :
    AuditEvent :=
  { e with timestamp := timestamp, metadata := e.metadata.bind read }

theorem metadata_bytes_eq_iff (T : Texts) (read : Json → Option Json) (e : AuditEvent) :
    ((e.metadata.bind read).map fun v => strBytes (canonicalJson T.numberText v))
        = e.metadata.map (fun v => strBytes (canonicalJson T.numberText v))
      ↔ MetadataSurvive T read e := by
  rw [MetadataSurvive]
  cases e.metadata with
  | none => simp
  | some v =>
    cases hread : read v with
    | none => simp [hread]
    | some w => simp [hread, strBytes_injective.eq_iff]

/-- The columns keep the hashed fields exactly when they keep the text of the time and the
canonical text of the metadata. -/
theorem hashFields_throughColumns_iff (T : Texts) (e : AuditEvent) (t : DateTime)
    (read : Json → Option Json) :
    hashFields T (e.throughColumns t read) = hashFields T e
      ↔ T.toRfc3339 t = T.toRfc3339 e.timestamp ∧ MetadataSurvive T read e := by
  simp only [hashFields, AuditEvent.throughColumns, List.cons.injEq, Option.some.injEq, and_true,
    true_and, strBytes_injective.eq_iff, metadata_bytes_eq_iff]

/-- When a sealed event, read back from columns, still has the right hash. -/
theorem hashValid_throughColumns_iff {X : HashExterns} {S : Set (List UInt8)}
    (hcf : CollisionFree X.blake3 S) (hrfc : Set.InjOn X.toRfc3339 {t | t.Regular})
    {e : AuditEvent} {t : DateTime} {read : Json → Option Json} (he : HashedV2 X e)
    (heS : hashInputV2 X.toTexts e ∈ S)
    (hreadS : hashInputV2 X.toTexts (e.throughColumns t read) ∈ S)
    (hmem : e.InMemory X.toTexts) (hreadmem : (e.throughColumns t read).InMemory X.toTexts)
    (hregular : e.timestamp.Regular) (ht : t.Regular) :
    HashValid X (e.throughColumns t read)
      ↔ t = e.timestamp ∧ MetadataSurvive X.toTexts read e := by
  have hhash : (e.throughColumns t read).hash = e.hash := rfl
  rw [hashValid_iff_hashFields_eq hcf he hhash heS hreadS hmem hreadmem,
    hashFields_throughColumns_iff, hrfc.eq_iff ht hregular]

/-! ### The backends -/

/-- The event `e` is read back as `e'`, with its links. -/
structure Backend.Reads (b : Backend) (e e' : AuditEvent) : Prop where
  readBack : b.readBack e = .ok e'
  hash : e'.hash = e.hash
  previousHash : e'.previousHash = e.previousHash

/-- The rows written for the events, read back. -/
def Backend.readRows (b : Backend) (rows : List b.Row) : Except String (List AuditEvent) :=
  rows.mapM b.fromRow

theorem exists_forall₂ {α β : Type} {P : α → β → Prop} {xs : List α}
    (h : ∀ x ∈ xs, ∃ y, P x y) : ∃ ys, List.Forall₂ P xs ys := by
  induction xs with
  | nil => exact ⟨[], List.Forall₂.nil⟩
  | cons x xs ih =>
    obtain ⟨y, hy⟩ := h x List.mem_cons_self
    obtain ⟨ys, hys⟩ := ih fun z hz => h z (List.mem_cons_of_mem _ hz)
    exact ⟨y :: ys, hys.cons hy⟩

/-- Where every event can be read back, the rows can. -/
theorem Backend.readRows_map_toRow {b : Backend} {es : List AuditEvent}
    (hread : ∀ e ∈ es, ∃ e', b.Reads e e') :
    ∃ es', b.readRows (es.map b.toRow) = .ok es' ∧ List.Forall₂ b.Reads es es' := by
  obtain ⟨es', hall⟩ := exists_forall₂ hread
  refine ⟨es', ?_, hall⟩
  rw [readRows, mapM_eq_ok_iff, List.forall₂_map_left_iff]
  exact hall.imp fun e e' h => h.readBack

/-- A property of all that was read is one of every event's reading. -/
theorem Backend.forall_reads_iff {b : Backend} {es es' : List AuditEvent} {P : AuditEvent → Prop}
    (hall : List.Forall₂ b.Reads es es') :
    (∀ e' ∈ es', P e') ↔ ∀ e ∈ es, ∀ e', b.Reads e e' → P e' := by
  induction hall with
  | nil => simp
  | cons he _ ih =>
    rw [List.forall_mem_cons, List.forall_mem_cons, ih]
    refine and_congr_left fun _ => ⟨fun hP e'' he'' => ?_, fun hP => hP _ he⟩
    rwa [← Except.ok.inj (he.readBack.symm.trans he''.readBack)]

/-- What is read back for the events verifies. -/
def Backend.VerifiesReadBack (X : HashExterns) (b : Backend) (es : List AuditEvent) : Prop :=
  ∃ es', b.readRows (es.map b.toRow) = .ok es' ∧ verifyChain X es' = .ok ()

/-- A linked list of events verifies when read back exactly when every hash is still
right: the links survive every backend. -/
theorem Backend.verifiesReadBack_iff {X : HashExterns} {b : Backend} {es : List AuditEvent}
    (hchained : Chained none es) (hread : ∀ e ∈ es, ∃ e', b.Reads e e') :
    b.VerifiesReadBack X es ↔ ∀ e ∈ es, ∀ e', b.Reads e e' → HashValid X e' := by
  obtain ⟨es', hes', hall⟩ := readRows_map_toRow hread
  -- hashes and links are read back as they were written
  have hlinked : Chained none es' :=
    (linked_iff_of_forall₂ (hall.imp fun e e' h => ⟨h.previousHash, h.hash⟩) none).mpr hchained
  have hverifies : b.VerifiesReadBack X es ↔ ∀ e' ∈ es', HashValid X e' := by
    rw [VerifiesReadBack, hes']
    constructor
    · rintro ⟨_, heq, hok⟩
      obtain rfl : es' = _ := Except.ok.inj heq
      exact ((verifyChain_eq_ok_iff X es').mp hok).2
    · intro hvalid
      exact ⟨es', rfl, (verifyChain_eq_ok_iff X es').mpr ⟨hlinked, hvalid⟩⟩
  rw [hverifies, forall_reads_iff hall]

/-! ### When a chain survives -/

/-- The events hashed when `es` are sealed and when what the backend returns for them is
verified. -/
def Backend.hashedEvents (b : Backend) (es : List AuditEvent) : Set AuditEvent :=
  {x | x ∈ es ∨ ∃ e ∈ es, b.readBack e = .ok x}

/-- BLAKE3 has no collision among the inputs of these events, and each of them is one a
program can hold. -/
structure Backend.SoundHashing (X : HashExterns) (b : Backend) (es : List AuditEvent) : Prop where
  collisionFree : CollisionFree X.blake3 {x | ∃ e ∈ b.hashedEvents es, x = hashInputV2 X.toTexts e}
  inMemory : ∀ e ∈ b.hashedEvents es, e.InMemory X.toTexts

/-- Where a backend returns the events as they were, only they are hashed. -/
theorem Backend.soundHashing_of_readBack_eq {X : HashExterns} {b : Backend} {es : List AuditEvent}
    (hread : ∀ e ∈ es, b.readBack e = .ok e)
    (hcf : CollisionFree X.blake3 {x | ∃ e ∈ es, x = hashInputV2 X.toTexts e})
    (hmem : ∀ e ∈ es, e.InMemory X.toTexts) : b.SoundHashing X es := by
  have hsame : ∀ e ∈ b.hashedEvents es, e ∈ es := by
    rintro e (he | ⟨d, hd, hde⟩)
    · exact he
    · rwa [← Except.ok.inj ((hread d hd).symm.trans hde)]
  refine ⟨hcf.mono ?_, fun e he => hmem e (hsame e he)⟩
  rintro x ⟨e, he, rfl⟩
  exact ⟨e, hsame e he, rfl⟩

/-- The event's time has no part below the unit of its column, and its metadata keep
their canonical text. -/
structure SurvivesColumns (T : Texts) (unit : ℕ) (read : Json → Option Json) (e : AuditEvent) :
    Prop where
  timestamp : unit ∣ e.timestamp.nanos
  metadata : MetadataSurvive T read e

/-- The backend returns the time cut to its unit, the metadata as `read` gives them and
everything else as it was. -/
def Backend.HasColumns (b : Backend) (unit : ℕ) (read : Json → Option Json) (e : AuditEvent) :
    Prop :=
  ∃ t, t.Regular ∧ (t = e.timestamp ↔ unit ∣ e.timestamp.nanos) ∧
    b.Reads e (e.throughColumns t read)

/-- **When a linked chain read back still verifies**: when every event survives the
columns of its backend. -/
theorem Backend.verifiesReadBack_columns_iff {b : Backend} {X : HashExterns} {unit : ℕ}
    {read : Json → Option Json} {es : List AuditEvent}
    (hcolumns : ∀ e ∈ es, b.HasColumns unit read e)
    (hrfc : Set.InjOn X.toRfc3339 {t | t.Regular}) (hregular : ∀ e ∈ es, e.timestamp.Regular)
    (hsound : b.SoundHashing X es) (hchained : Chained none es)
    (hhashed : ∀ e ∈ es, HashedV2 X e) :
    b.VerifiesReadBack X es ↔ ∀ e ∈ es, SurvivesColumns X.toTexts unit read e := by
  have hread : ∀ e ∈ es, ∃ e', b.Reads e e' := by
    intro e he
    obtain ⟨t, -, -, hreads⟩ := hcolumns e he
    exact ⟨_, hreads⟩
  rw [verifiesReadBack_iff hchained hread]
  refine forall₂_congr fun e he => ?_
  obtain ⟨t, ht, hcut, hreads⟩ := hcolumns e he
  have hsealed : e ∈ b.hashedEvents es := .inl he
  have hreading : e.throughColumns t read ∈ b.hashedEvents es := .inr ⟨e, he, hreads.readBack⟩
  -- a hash is right after the reading exactly when the columns lost nothing it covers
  have hvalid := hashValid_throughColumns_iff hsound.collisionFree hrfc (hhashed e he)
    ⟨e, hsealed, rfl⟩ ⟨_, hreading, rfl⟩ (hsound.inMemory e hsealed)
    (hsound.inMemory _ hreading) (hregular e he) ht
  rw [hcut] at hvalid
  constructor
  · intro h
    obtain ⟨hdvd, hmeta⟩ := hvalid.mp (h _ hreads)
    exact ⟨hdvd, hmeta⟩
  · intro h e' he'
    rw [← Except.ok.inj (hreads.readBack.symm.trans he'.readBack)]
    exact hvalid.mpr ⟨h.timestamp, h.metadata⟩

/-- How the text columns return metadata: written as JSON, and read by `serde_json`. -/
def textMetadata (S : StoreExterns) (v : Json) : Option Json :=
  S.jsonFromStr (jsonText S.numberText v)

/-- How the `JSONB` column returns metadata: in the form that PostgreSQL keeps of it. -/
def jsonbMetadata (S : StoreExterns) (v : Json) : Option Json := some (S.jsonb v)

theorem DateTime.fromTimestamp_of_mem {secs : ℤ} {nanos : ℕ} (hmin : -8334601228800 ≤ secs)
    (hmax : secs ≤ 8210266876799) (hnanos : nanos < 1000000000) :
    ∃ t, fromTimestamp secs nanos = some t ∧ t.Regular := by
  refine ⟨⟨secs, nanos, by omega, hmin, hmax⟩, ?_, hnanos⟩
  rw [fromTimestamp_eq_some_iff]
  exact ⟨rfl, rfl⟩

theorem DateTime.wholeUnits_iff_of_regular {t : DateTime} (ht : t.Regular) (unit : ℕ) :
    t.WholeUnits unit ↔ unit ∣ t.nanos :=
  and_iff_right ht

theorem DateTime.fromTimestampMillis_of_regular {t : DateTime} (ht : t.Regular) :
    ∃ t', fromTimestampMillis t.timestampMillis = some t' ∧ t'.Regular ∧
      (t' = t ↔ 1000000 ∣ t.nanos) := by
  have hsome : ∃ t', fromTimestampMillis t.timestampMillis = some t' ∧ t'.Regular := by
    have hmin := t.secs_ge
    have hmax := t.secs_le
    unfold Regular at ht
    refine fromTimestamp_of_mem ?_ ?_ ?_ <;> unfold timestampMillis <;> omega
  obtain ⟨t', htime, ht'⟩ := hsome
  refine ⟨t', htime, ht', ?_⟩
  rw [← wholeUnits_iff_of_regular ht, ← fromTimestampMillis_timestampMillis_iff, htime,
    Option.some.injEq]

theorem DateTime.ofTimestamptz_of_regular {t : DateTime} (ht : t.Regular) :
    ∃ t', ofTimestamptz t.toTimestamptz = some t' ∧ t'.Regular ∧ (t' = t ↔ 1000 ∣ t.nanos) := by
  have hsome : ∃ t', ofTimestamptz t.toTimestamptz = some t' ∧ t'.Regular := by
    have hmin := t.secs_ge
    have hmax := t.secs_le
    have hsign : Int.sign 1000 = 1 := rfl
    unfold Regular at ht
    refine fromTimestamp_of_mem ?_ ?_ ?_ <;>
      rw [toTimestamptz, Int.tdiv_eq_ediv] <;> split <;> omega
  obtain ⟨t', htime, ht'⟩ := hsome
  refine ⟨t', htime, ht', ?_⟩
  rw [← wholeUnits_iff_of_regular ht, ← ofTimestamptz_toTimestamptz_iff, htime,
    Option.some.injEq]

theorem toInt_severity (s : AuditSeverity) :
    s.asSyslogSeverity.toUInt16.toInt16.toInt = s.asSyslogSeverity.toNat := by
  cases s <;> decide

theorem clickHouse_hasColumns (S : StoreExterns) (now : DateTime) {e : AuditEvent}
    (hhash : e.hash ≠ none) (hregular : e.timestamp.Regular) :
    (clickHouseBackend S now).HasColumns 1000000 (textMetadata S) e := by
  obtain ⟨t, htime, ht, hcut⟩ := DateTime.fromTimestampMillis_of_regular hregular
  refine ⟨t, ht, hcut, ?_, rfl, rfl⟩
  have hsome : some (e.hash.getD "") = e.hash := Option.getD_of_ne_none hhash ""
  show Except.ok (clickHouseEvent S now (clickHouseRow S e)) = _
  rw [clickHouseEvent, clickHouseRow, rowEvent_eventRow]
  · simp only [eventRow, htime, hsome, Option.getD_some, AuditEvent.throughColumns]
    rfl
  · rfl
  · intro code
    rfl

theorem pg_hasColumns (S : StoreExterns) {e : AuditEvent} (hregular : e.timestamp.Regular) :
    (pgBackend S).HasColumns 1000 (jsonbMetadata S) e := by
  obtain ⟨t, htime, ht, hcut⟩ := DateTime.ofTimestamptz_of_regular hregular
  refine ⟨t, ht, hcut, ?_, rfl, rfl⟩
  have hrow : DateTime.ofTimestamptz (pgRow S e).timestamp = some t := htime
  show pgEvent (pgRow S e) = _
  rw [pgEvent, hrow]
  simp only
  rw [pgRow, rowEvent_eventRow]
  · simp only [eventRow, UInt64.toUInt64_toInt64, AuditEvent.throughColumns]
    rfl
  · exact toInt_severity e.severity
  · intro code
    simp

/-- A text column keeps the nanoseconds of a time. -/
theorem turso_hasColumns {S : StoreExterns} {e : AuditEvent} (h : e.StampsRoundTrip S)
    (hregular : e.timestamp.Regular) : (tursoBackend S).HasColumns 1 (textMetadata S) e :=
  ⟨e.timestamp, hregular, by simp, tursoEvent_tursoRow h, rfl, rfl⟩

theorem surreal_hasColumns {S : StoreExterns} {e : AuditEvent} (h : e.StampsRoundTrip S)
    (hhash : e.hash ≠ none) (hregular : e.timestamp.Regular) (form : RecordIdForm)
    (newId : Uuid) (now : DateTime) :
    (surrealBackend S form newId now).HasColumns 1 (textMetadata S) e :=
  ⟨e.timestamp, hregular, by simp,
    congrArg Except.ok (surrealEvent_surrealRow h hhash form newId now), rfl, rfl⟩

/-- A backend returns an event that survives its columns, metadata and all, as it was. -/
theorem Backend.HasColumns.readBack_eq {b : Backend} {unit : ℕ} {read : Json → Option Json}
    {e : AuditEvent} (h : b.HasColumns unit read e) (hunit : unit ∣ e.timestamp.nanos)
    (hmeta : e.metadata.bind read = e.metadata) : b.readBack e = .ok e := by
  obtain ⟨t, -, hcut, hreads⟩ := h
  rw [hreads.readBack, hcut.mpr hunit, AuditEvent.throughColumns, hmeta]

/-- Sealing keeps what is said of the contents. -/
theorem forall_content_iff (P : AuditEvent → Prop) (hP : ∀ e, P e.content ↔ P e)
    {es sealed : List AuditEvent} (h : sealed.map AuditEvent.content = es.map AuditEvent.content) :
    (∀ e ∈ sealed, P e) ↔ ∀ e ∈ es, P e := by
  have hcontent : ∀ l : List AuditEvent, (∀ e ∈ l, P e) ↔ ∀ e ∈ l.map AuditEvent.content, P e := by
    intro l
    rw [List.forall_mem_map]
    exact forall₂_congr fun e _ => (hP e).symm
  rw [hcontent, h, ← hcontent]

theorem survivesColumns_content (T : Texts) (unit : ℕ) (read : Json → Option Json)
    (e : AuditEvent) : SurvivesColumns T unit read e.content ↔ SurvivesColumns T unit read e :=
  ⟨fun h => ⟨h.timestamp, h.metadata⟩, fun h => ⟨h.timestamp, h.metadata⟩⟩

/-- **When a sealed chain read back from a binary-timestamp backend still verifies.**
From ClickHouse: exactly when every event was taken at a whole millisecond and its
metadata are parsed back with the same canonical text.  From PostgreSQL: exactly when
every event was taken at a whole microsecond and `JSONB` keeps the canonical text of
its metadata. -/
theorem verifyChain_clickHouse_pg_iff (S : StoreExterns) (serviceName : String)
    (lifetimes : List (List AuditEvent)) (now : DateTime)
    (hrfc : Set.InjOn S.toRfc3339 {t | t.Regular})
    (hnow : ∀ e ∈ lifetimes.flatten, e.timestamp.Regular)
    (hch : (clickHouseBackend S now).SoundHashing S.toHashExterns
      (sealLifetimes S.toHashExterns serviceName [] lifetimes))
    (hpg : (pgBackend S).SoundHashing S.toHashExterns
      (sealLifetimes S.toHashExterns serviceName [] lifetimes)) :
    ((clickHouseBackend S now).VerifiesReadBack S.toHashExterns
        (sealLifetimes S.toHashExterns serviceName [] lifetimes)
      ↔ ∀ e ∈ lifetimes.flatten, SurvivesColumns S.toTexts 1000000 (textMetadata S) e) ∧
    ((pgBackend S).VerifiesReadBack S.toHashExterns
        (sealLifetimes S.toHashExterns serviceName [] lifetimes)
      ↔ ∀ e ∈ lifetimes.flatten, SurvivesColumns S.toTexts 1000 (jsonbMetadata S) e) := by
  have hempty : verifyChain S.toHashExterns [] = .ok () := rfl
  have hspec := sealLifetimes_spec S.toHashExterns serviceName lifetimes hempty
  have hregular := (forall_content_iff (fun e => e.timestamp.Regular) (fun _ => Iff.rfl)
    hspec.content).mpr hnow
  have hsome : ∀ e ∈ sealLifetimes S.toHashExterns serviceName [] lifetimes, e.hash ≠ none :=
    fun e he => (hspec.hashed e he).hashValid.hash_ne_none
  constructor
  · rw [Backend.verifiesReadBack_columns_iff
      (fun e he => clickHouse_hasColumns S now (hsome e he) (hregular e he)) hrfc hregular hch
      hspec.chained hspec.hashed]
    exact forall_content_iff _ (survivesColumns_content _ _ _) hspec.content
  · rw [Backend.verifiesReadBack_columns_iff (fun e he => pg_hasColumns S (hregular e he)) hrfc
      hregular hpg hspec.chained hspec.hashed]
    exact forall_content_iff _ (survivesColumns_content _ _ _) hspec.content

theorem verifyChain_clickHouse_pg_iff_sample :
    (clickHouseBackend sampleStore (sampleTime 0)).VerifiesReadBack sampleExterns
        (sealLifetimes sampleExterns "billing" []
          [[sampleLogin (sampleTime 0) sampleMetadata]]) ∧
      (pgBackend sampleStore).VerifiesReadBack sampleExterns
        (sealLifetimes sampleExterns "billing" []
          [[sampleLogin (sampleTime 0) sampleMetadata]]) := by
  have hsealed : sealLifetimes sampleExterns "billing" []
      [[sampleLogin (sampleTime 0) sampleMetadata]] = [sampleFirst] := by
    simp [sealLifetimes, sealAll, startChain, seal_sampleLogin]
  have hcf : CollisionFree sampleExterns.blake3
      {x | ∃ e ∈ [sampleFirst], x = hashInputV2 sampleTexts e} := by
    rintro _ ⟨d, hd, rfl⟩ _ ⟨e, he, rfl⟩ _
    rw [List.mem_singleton.mp hd, List.mem_singleton.mp he]
  have hmem : ∀ e ∈ [sampleFirst], e.InMemory sampleTexts := by decide +kernel
  have hregular : sampleFirst.timestamp.Regular := by decide
  have htext : textMetadata sampleStore sampleMetadata = some sampleMetadata :=
    (textsRoundTrip_sampleLogin (sampleTime 0) (by decide)).metadata sampleMetadata rfl
  have hch := (clickHouse_hasColumns sampleStore (sampleTime 0) (e := sampleFirst)
    (Option.some_ne_none _) hregular).readBack_eq (by decide) htext
  have hpg := (pg_hasColumns sampleStore hregular).readBack_eq (by decide) rfl
  have hiff := verifyChain_clickHouse_pg_iff sampleStore "billing"
    [[sampleLogin (sampleTime 0) sampleMetadata]] (sampleTime 0)
    sampleTexts_lawful.toRfc3339.injOn (by decide)
    (hsealed ▸ Backend.soundHashing_of_readBack_eq (by simpa using hch) hcf hmem)
    (hsealed ▸ Backend.soundHashing_of_readBack_eq (by simpa using hpg) hcf hmem)
  refine ⟨hiff.1.mpr ?_, hiff.2.mpr ?_⟩
  · intro e he
    obtain rfl : e = sampleLogin (sampleTime 0) sampleMetadata := by simpa using he
    refine ⟨by decide, fun v hv => ?_⟩
    obtain rfl : sampleMetadata = v := Option.some.inj hv
    rw [htext]
    rfl
  · intro e he
    obtain rfl : e = sampleLogin (sampleTime 0) sampleMetadata := by simpa using he
    exact ⟨by decide, fun v _ => rfl⟩

/-- A login at a time of full precision, sealed on a new chain. -/
theorem not_verifiesReadBack_clickHouse_pg :
    ¬ (clickHouseBackend sampleStore (sampleTime 0)).VerifiesReadBack sampleExterns
        (sealLifetimes sampleExterns "billing" []
          [[sampleLogin (sampleTime 123456789) sampleMetadata]]) ∧
      ¬ (pgBackend sampleStore).VerifiesReadBack sampleExterns
        (sealLifetimes sampleExterns "billing" []
          [[sampleLogin (sampleTime 123456789) sampleMetadata]]) := by
  constructor
  · rintro ⟨es, hes, hok⟩
    rw [← Except.ok.inj hes] at hok
    revert hok
    decide +kernel
  · rintro ⟨es, hes, hok⟩
    rw [← Except.ok.inj hes] at hok
    revert hok
    decide +kernel

end ActonService
