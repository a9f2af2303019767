import ActonService.Audit.Archive
import ActonService.Lib.Run

/-!
# Retention cleanup

A cleanup cycle (`run_cleanup` in `audit/agent.rs`) deletes the events older than the
retention period.  It reads a batch of them, archives the batch and purges, and repeats
this while batches are full.  The agent runs one cycle at a time; a trigger that arrives
meanwhile waits in its mailbox.  Events are appended at any time, by the agent's own
writer or by another instance.

`purge_before` is one step here: it deletes or it does not, and returns a count or an
error.

## Main definitions

* `CleanupState`, `cleanupStep` — a cycle, the table and the archive files, and what each
  step does to them.
* `Archived` — a row's event is in an archive file.
* `Orderly` — the runs in which a batch holds all there is to purge and no archive file is
  written over.

## Main results

* `exists_unarchived_of_batch_lt`, `not_archived_of_file` — what a cycle loses otherwise.
* `cleanup_spec` — **every event a cycle deletes is in an archive file.**
-/

namespace ActonService

open Run

/-! ### The tables -/

/-- The rows of a backend's table, each column with the type the backend has for it. -/
abbrev BackendKind.Row : BackendKind → Type
  | .postgres => PgRow
  | .turso => TursoRow
  | .surrealDb => SurrealRow String
  | .clickHouse => ClickHouseRow

/-- How a backend reads a row as an event, or the text of its error. -/
def BackendKind.fromRow (S : StoreExterns) (R : Reading) :
    (kind : BackendKind) → kind.Row → Except String AuditEvent
  | .postgres => (pgBackend S).fromRow
  | .turso => (tursoBackend S).fromRow
  | .surrealDb => (surrealBackend S R.form R.newId R.now).fromRow
  | .clickHouse => (clickHouseBackend S R.now).fromRow

/-- The condition `timestamp < cutoff`, the same in `query_before` and in `purge_before`. -/
def BackendKind.before (S : StoreExterns) (cutoff : DateTime) :
    (kind : BackendKind) → kind.Row → Bool
  | .postgres => (pgBackend S).before cutoff
  | .turso => (tursoBackend S).before cutoff
  | .surrealDb => fun record => record.timestamp < S.toRfc3339 cutoff
  | .clickHouse => fun row => row.timestamp < cutoff.timestampMillis

/-- `query_before`. -/
def BackendKind.queryBefore (S : StoreExterns) (R : Reading) :
    (kind : BackendKind) → DateTime → UInt64 → Fault → List kind.Row →
      Except StorageError (List AuditEvent)
  | .postgres => (pgAuditStorage S).queryBefore
  | .turso => (tursoAuditStorage S).queryBefore
  | .surrealDb => (surrealAuditStorage S R).queryBefore
  | .clickHouse => (clickHouseAuditStorage S R).queryBefore

/-! ### Cleanup cycles -/

/-- `CLEANUP_BATCH_SIZE` -/
def cleanupBatchSize : UInt64 := 10000

/-- The fields of `AuditConfig` a cleanup reads. -/
structure RetentionConfig where
  retentionDays : Option UInt32
  archivePath : Option String

/-- `DateTime - Duration::days`, where it does not overflow.  A time inside a leap second
leaves it when days are taken off. -/
def DateTime.subDays (t : DateTime) (days : UInt32) : Option DateTime :=
  if days = 0 ∨ t.nanos < 1000000000 then fromTimestamp (t.secs - days.toNat * 86400) t.nanos
  else fromTimestamp (t.secs + 1 - days.toNat * 86400) (t.nanos - 1000000000)

/-- Where a cycle is in `run_cleanup`, between two of its accesses to the database or to a file. -/
inductive CleanupPoint
  | idle
  /-- About to read a batch. -/
  | query (cutoff : DateTime)
  /-- About to archive the batch. -/
  | archive (dir : String) (cutoff : DateTime) (events : List AuditEvent)
  /-- About to purge. -/
  | purge (cutoff : DateTime) (batchCount : ℕ)

/-- The cycle, the table and the files. -/
structure CleanupState (Row : Type) where
  point : CleanupPoint
  table : List Row
  files : Files
  /-- The rows the cycles have deleted. -/
  deleted : List Row
  /-- What the finished cycles have returned. -/
  returned : List (Except StorageError Unit)

/-- What can happen next: the cycle goes on with its next step, or the agent appends a row. -/
inductive CleanupAction (Row : Type)
  /-- The agent takes a trigger from its mailbox. -/
  | trigger (now : DateTime)
  /-- The cycle reads a batch of the rows before the cutoff, as far as the limit goes. -/
  | query (R : Reading) (fault : Fault)
  /-- The cycle archives the batch. -/
  | archive (now : DateTime) (fault : ArchiveFault)
  /-- The cycle purges; `applied` says whether the delete took effect. -/
  | purge (applied : Bool) (result : Except StorageError UInt64)
  /-- A row is appended behind the others. -/
  | append (row : Row)

section Cleanup

variable (A : ArchiveExterns) (kind : BackendKind) (cfg : RetentionConfig)

def CleanupState.finish {Row : Type} (s : CleanupState Row) (result : Except StorageError Unit) :
    CleanupState Row :=
  { s with point := .idle, returned := result :: s.returned }

/-- The start of a cycle.  Where the cutoff overflows, the subtraction panics and the
handler drops the error of the task. -/
def CleanupState.trigger {Row : Type} (s : CleanupState Row) (now : DateTime) :
    CleanupState Row :=
  match s.point, cfg.retentionDays with
  | .idle, none => s.finish (.ok ())
  | .idle, some days =>
    match now.subDays days with
    | some cutoff => { s with point := .query cutoff }
    | none => s
  | _, _ => s

/-- `query_before(cutoff, CLEANUP_BATCH_SIZE)` and what the cycle makes of it. -/
def CleanupState.query (s : CleanupState kind.Row) (R : Reading) (fault : Fault) :
    CleanupState kind.Row :=
  match s.point with
  | .query cutoff =>
    match kind.queryBefore A.toStoreExterns R cutoff cleanupBatchSize fault s.table with
    | .error e => s.finish (.error e)
    | .ok [] => s.finish (.ok ())
    | .ok events =>
      match cfg.archivePath with
      | some dir => { s with point := .archive dir cutoff events }
      | none => { s with point := .purge cutoff events.length }
  | _ => s

/-- `archive_events(events, dir)`; an error ends the cycle. -/
def CleanupState.archive {Row : Type} (s : CleanupState Row) (now : DateTime)
    (fault : ArchiveFault) : CleanupState Row :=
  match s.point with
  | .archive dir cutoff events =>
    let (result, files) := archiveEvents A dir now fault events s.files
    match result with
    | .error e => { s with files := files }.finish (.error e)
    | .ok _ => { s with files := files, point := .purge cutoff events.length }
  | _ => s

/-- `purge_before(cutoff)`: whatever is before the cutoff goes, not only the batch.  Behind a
full batch the cycle starts over. -/
def CleanupState.purge (s : CleanupState kind.Row) (applied : Bool)
    (result : Except StorageError UInt64) : CleanupState kind.Row :=
  match s.point with
  | .purge cutoff batchCount =>
    let s' :=
      if applied then
        { s with
          table := s.table.filter fun row => !kind.before A.toStoreExterns cutoff row
          deleted := s.deleted ++ s.table.filter (kind.before A.toStoreExterns cutoff) }
      else s
    match result with
    | .error e => s'.finish (.error e)
    | .ok _ =>
      -- a short batch was the last one
      if batchCount < cleanupBatchSize.toNat then s'.finish (.ok ())
      else { s' with point := .query cutoff }
  | _ => s

/-- What an action does; one that does not fit the point of the cycle leaves everything as it is. -/
def cleanupStep (s : CleanupState kind.Row) : CleanupAction kind.Row → CleanupState kind.Row
  | .trigger now => s.trigger cfg now
  | .query R fault => s.query A kind cfg R fault
  | .archive now fault => s.archive A now fault
  | .purge applied result => s.purge A kind applied result
  | .append row => { s with table := s.table ++ [row] }

/-- No cycle has run yet. -/
def CleanupState.init {Row : Type} (table : List Row) (files : Files) : CleanupState Row where
  point := .idle
  table := table
  files := files
  deleted := []
  returned := []

/-! ### What is archived -/

/-- A row's event, as some reading of it returned it, is in an archive file. -/
def Archived (files : Files) (row : kind.Row) : Prop :=
  ∃ R e path lines, kind.fromRow A.toStoreExterns R row = .ok e ∧ files path = some lines ∧
    eventLine A e ∈ lines

/-- The cutoff of a batch that is not purged yet. -/
def CleanupPoint.cutoff? : CleanupPoint → Option DateTime
  | .archive _ cutoff _ | .purge cutoff _ => some cutoff
  | .idle | .query _ => none

/-- The steps under which archives can be relied on.  When a batch is read, it holds all
there is before the cutoff, and on Turso no row fails to be fetched; when it is archived,
no file of that second is there; and nothing before the cutoff is appended between the
reading and the purge. -/
def Orderly (s : CleanupState kind.Row) : CleanupAction kind.Row → Prop
  | .query _ fault => ∀ cutoff, s.point = .query cutoff →
      let rows := s.table.filter (kind.before A.toStoreExterns cutoff)
      rows.length ≤ cleanupBatchSize.toNat ∧
        (kind = .turso → ∀ n e, fault = .stream n e → rows.length ≤ n)
  | .archive now _ => ∀ dir cutoff events, s.point = .archive dir cutoff events →
      s.files (archiveFile A dir now) = none
  | .append row => ∀ cutoff ∈ s.point.cutoff?, kind.before A.toStoreExterns cutoff row = false
  | .trigger _ | .purge _ _ => True

/-! ### What a step does -/

theorem Backend.selectBefore_subset (b : Backend) (cutoff : DateTime) (limit : UInt64)
    (table : List b.Row) : b.selectBefore cutoff limit table ⊆ table := by
  intro row hrow
  have hmem := (List.mem_insertionSort _).mp (List.mem_of_mem_take hrow)
  exact List.mem_of_mem_filter hmem

theorem Backend.length_selectBefore (b : Backend) (cutoff : DateTime) (limit : UInt64)
    (table : List b.Row) :
    (b.selectBefore cutoff limit table).length
      = min limit.toNat (table.filter (b.before cutoff)).length := by
  rw [selectBefore, orderBySequence, List.length_take, List.length_insertionSort]

/-- A limit that is not exceeded leaves every row in the batch. -/
theorem Backend.selectBefore_perm (b : Backend) (cutoff : DateTime) (limit : UInt64)
    (table : List b.Row) (h : (table.filter (b.before cutoff)).length ≤ limit.toNat) :
    (b.selectBefore cutoff limit table).Perm (table.filter (b.before cutoff)) := by
  unfold selectBefore orderBySequence
  rw [List.take_of_length_le (by rwa [List.length_insertionSort])]
  exact List.perm_insertionSort _ _

variable {A kind cfg}

/-- **What `query_before` reads**, unless Turso cuts it short: a batch of the rows before the
cutoff, as many as the limit allows. -/
theorem BackendKind.queryBefore_eq_ok {S : StoreExterns} {R : Reading} {cutoff : DateTime}
    {limit : UInt64} {fault : Fault} {table : List kind.Row} {events : List AuditEvent}
    (h : kind.queryBefore S R cutoff limit fault table = .ok events)
    (hfetch : kind = .turso → ∀ n e, fault = .stream n e →
      (table.filter (kind.before S cutoff)).length ≤ n) :
    ∃ batch ⊆ table, batch.mapM (kind.fromRow S R) = .ok events ∧
      batch.length = min limit.toNat (table.filter (kind.before S cutoff)).length ∧
      ((table.filter (kind.before S cutoff)).length ≤ limit.toNat →
        batch.Perm (table.filter (kind.before S cutoff))) := by
  cases kind with
  | postgres =>
    exact ⟨_, (pgBackend S).selectBefore_subset _ _ _,
      (pg_complete S fault table).queryBefore _ _ _ h,
      (pgBackend S).length_selectBefore _ _ _, (pgBackend S).selectBefore_perm _ _ _⟩
  | surrealDb =>
    exact ⟨_, (surrealBackend S R.form R.newId R.now).selectBefore_subset _ _ _,
      (surreal_complete S R fault table).queryBefore _ _ _ h,
      (surrealBackend S R.form R.newId R.now).length_selectBefore _ _ _,
      (surrealBackend S R.form R.newId R.now).selectBefore_perm _ _ _⟩
  | clickHouse =>
    exact ⟨_, (clickHouseBackend S R.now).selectBefore_subset _ _ _,
      (clickHouse_complete S R fault table).queryBefore _ _ _ h,
      (clickHouseBackend S R.now).length_selectBefore _ _ _,
      (clickHouseBackend S R.now).selectBefore_perm _ _ _⟩
  | turso =>
    have hlength := (tursoBackend S).length_selectBefore cutoff limit table
    rcases readRows_or_cutShort h with hread | ⟨n, e, rfl, hn, -⟩
    · exact ⟨_, (tursoBackend S).selectBefore_subset _ _ _, hread, hlength,
        (tursoBackend S).selectBefore_perm _ _ _⟩
    · -- the row that could not be fetched is one of the batch
      have hle : (table.filter ((tursoBackend S).before cutoff)).length ≤ n := hfetch rfl n e rfl
      omega

theorem Archived.mono {files files' : Files} {row : kind.Row} (h : Archived A kind files row)
    (hfiles : ∀ path lines, files path = some lines → files' path = some lines) :
    Archived A kind files' row := by
  obtain ⟨R, e, path, lines, hrow, hpath, hline⟩ := h
  exact ⟨R, e, path, lines, hrow, hfiles path lines hpath, hline⟩

/-! ### The invariant -/

variable {s : CleanupState kind.Row}

/-- What a cycle can rely on at the point it has reached: the batch it is about to archive
holds all there is before the cutoff, and all it is about to purge is archived. -/
def CleanupState.Ready (A : ArchiveExterns) (s : CleanupState kind.Row) : Prop :=
  match s.point with
  | .idle | .query _ => True
  | .archive _ cutoff events =>
    ∀ row ∈ s.table, kind.before A.toStoreExterns cutoff row = true →
      ∃ R, ∃ e ∈ events, kind.fromRow A.toStoreExterns R row = .ok e
  | .purge cutoff _ =>
    ∀ row ∈ s.table, kind.before A.toStoreExterns cutoff row = true → Archived A kind s.files row

/-- **What holds throughout.**  What was deleted is archived, and so is what is about to be
deleted. -/
structure CleanupInv (A : ArchiveExterns) (s : CleanupState kind.Row) : Prop where
  archived : ∀ row ∈ s.deleted, Archived A kind s.files row
  ready : s.Ready A

theorem CleanupInv.finish (h : CleanupInv A s) (result : Except StorageError Unit) :
    CleanupInv A (s.finish result) :=
  ⟨h.archived, trivial⟩

theorem CleanupInv.trigger (h : CleanupInv A s) (now : DateTime) :
    CleanupInv A (s.trigger cfg now) := by
  unfold CleanupState.trigger
  split
  · exact h.finish _
  · split
    · exact ⟨h.archived, trivial⟩
    · exact h
  · exact h

theorem CleanupInv.query {dir : String} (hdir : cfg.archivePath = some dir)
    (h : CleanupInv A s) {R : Reading} {fault : Fault}
    (horderly : Orderly A kind s (.query R fault)) : CleanupInv A (s.query A kind cfg R fault) := by
  unfold CleanupState.query
  split
  · next cutoff hpoint =>
    obtain ⟨hall, hfetch⟩ := horderly cutoff hpoint
    split
    · exact h.finish _
    · exact h.finish _
    · next events _ hread =>
      rw [hdir]
      -- the batch is all there is before the cutoff, so each of these rows has its event in it
      obtain ⟨batch, -, hbatch, -, hperm⟩ := BackendKind.queryBefore_eq_ok hread hfetch
      refine ⟨h.archived, fun row hrow hbefore => ⟨R, ?_⟩⟩
      apply exists_of_mapM_eq_ok hbatch
      exact (hperm hall).mem_iff.mpr (List.mem_filter.mpr ⟨hrow, hbefore⟩)
  · exact h

theorem CleanupInv.archive (h : CleanupInv A s) {now : DateTime} {fault : ArchiveFault}
    (horderly : Orderly A kind s (.archive now fault)) : CleanupInv A (s.archive A now fault) := by
  unfold CleanupState.archive
  split
  · next dir cutoff events hpoint =>
    -- the file is new, so the archives that are there stay
    have hfiles : ∀ path lines, s.files path = some lines →
        (archiveEvents A dir now fault events s.files).2 path = some lines :=
      fun path lines => archiveEvents_files (horderly dir cutoff events hpoint)
    have harchived : ∀ row ∈ s.deleted,
        Archived A kind (archiveEvents A dir now fault events s.files).2 row :=
      fun row hrow => (h.archived row hrow).mono hfiles
    have hbatch := h.ready
    rw [CleanupState.Ready, hpoint] at hbatch
    simp only
    split
    · exact ⟨harchived, trivial⟩
    · next path hpath =>
      refine ⟨harchived, fun row hrow hbefore => ?_⟩
      obtain ⟨R, e, he, hread⟩ := hbatch row hrow hbefore
      exact ⟨R, e, path, _, hread, archiveEvents_eq_ok hpath, List.mem_map_of_mem he⟩
  · exact h

theorem CleanupInv.purge (h : CleanupInv A s) (applied : Bool)
    (result : Except StorageError UInt64) : CleanupInv A (s.purge A kind applied result) := by
  unfold CleanupState.purge
  split
  · next cutoff batchCount hpoint =>
    have hready := h.ready
    rw [CleanupState.Ready, hpoint] at hready
    -- with or without the delete, what is deleted is archived
    have hkept : ∀ row ∈ s.deleted ++ s.table.filter (kind.before A.toStoreExterns cutoff),
        Archived A kind s.files row := by
      intro row hrow
      rcases List.mem_append.mp hrow with hrow | hrow
      · exact h.archived row hrow
      · obtain ⟨hmem, hbefore⟩ := List.mem_filter.mp hrow
        exact hready row hmem hbefore
    cases applied with
    | true =>
      cases result with
      | error e => exact ⟨hkept, trivial⟩
      | ok n =>
        simp only [if_true]
        split
        · exact ⟨hkept, trivial⟩
        · exact ⟨hkept, trivial⟩
    | false =>
      cases result with
      | error e => exact ⟨h.archived, trivial⟩
      | ok n =>
        simp only [Bool.false_eq_true, if_false]
        split
        · exact ⟨h.archived, trivial⟩
        · exact ⟨h.archived, trivial⟩
  · exact h

theorem CleanupInv.append (h : CleanupInv A s) {row : kind.Row}
    (horderly : Orderly A kind s (.append row)) :
    CleanupInv A { s with table := s.table ++ [row] } := by
  refine ⟨h.archived, ?_⟩
  have hready := h.ready
  -- the row is not one of those the cycle is about to purge
  have hnew : ∀ cutoff ∈ s.point.cutoff?, ∀ r ∈ s.table ++ [row],
      kind.before A.toStoreExterns cutoff r = true → r ∈ s.table := by
    intro cutoff hcutoff r hr hbefore
    rcases List.mem_append.mp hr with hr | hr
    · exact hr
    · rw [List.mem_singleton.mp hr, horderly cutoff hcutoff] at hbefore
      exact absurd hbefore (by simp)
  unfold CleanupState.Ready at hready ⊢
  cases hpoint : s.point with
  | idle => simp
  | query cutoff => simp
  | archive dir cutoff events =>
    rw [hpoint] at hready hnew
    exact fun r hr hbefore => hready r (hnew cutoff rfl r hr hbefore) hbefore
  | purge cutoff batchCount =>
    rw [hpoint] at hready hnew
    exact fun r hr hbefore => hready r (hnew cutoff rfl r hr hbefore) hbefore

theorem CleanupInv.step {dir : String} (hdir : cfg.archivePath = some dir) (h : CleanupInv A s)
    (a : CleanupAction kind.Row) (ha : Orderly A kind s a) :
    CleanupInv A (cleanupStep A kind cfg s a) := by
  cases a with
  | trigger now => exact h.trigger now
  | query R fault => exact h.query hdir ha
  | archive now fault => exact h.archive ha
  | purge applied result => exact h.purge applied result
  | append row => exact h.append ha

/-! ### What is lost -/

/-- The sequence number a row is read with. -/
def BackendKind.storedSequence : (kind : BackendKind) → kind.Row → UInt64
  | .postgres => fun row => row.sequence.toUInt64
  | .turso => fun row => row.sequence.toUInt64
  | .surrealDb => fun row => row.sequence.toUInt64
  | .clickHouse => fun row => row.sequence

theorem BackendKind.sequence_of_fromRow {S : StoreExterns} {R : Reading} {row : kind.Row}
    {e : AuditEvent} (h : kind.fromRow S R row = .ok e) :
    e.sequence = kind.storedSequence row := by
  cases kind with
  | postgres =>
    change pgEvent row = .ok e at h
    unfold pgEvent at h
    split at h
    · rw [← Except.ok.inj h]
      rfl
    · simp at h
  | turso =>
    change tursoEvent S row = .ok e at h
    unfold tursoEvent at h
    cases hid : S.uuidParseStr row.id with
    | error e => simp [hid, bind, Except.bind, Except.mapError] at h
    | ok id =>
      cases htime : S.parseFromRfc3339 row.timestamp with
      | error e => simp [hid, htime, bind, Except.bind, Except.mapError] at h
      | ok t =>
        simp [hid, htime, bind, Except.bind, Except.mapError, pure, Except.pure] at h
        rw [← h]
        rfl
  | surrealDb =>
    rw [← Except.ok.inj h]
    rfl
  | clickHouse =>
    rw [← Except.ok.inj h]
    rfl

theorem BackendKind.sequence_of_mapM_fromRow {S : StoreExterns} {R : Reading}
    {batch : List kind.Row} {events : List AuditEvent}
    (h : batch.mapM (kind.fromRow S R) = .ok events) :
    events.map AuditEvent.sequence = batch.map kind.storedSequence := by
  rw [← List.forall₂_eq_eq_eq, List.forall₂_map_left_iff, List.forall₂_map_right_iff]
  apply List.Forall₂.flip
  exact (mapM_eq_ok_iff.mp h).imp fun row e hrow => sequence_of_fromRow hrow

/-- **What a cycle does** when its steps succeed: the archive file of that second holds the
batch and nothing else, and all that is before the cutoff is deleted. -/
theorem cleanup_batch {dir : String} (hdir : cfg.archivePath = some dir) {cutoff : DateTime}
    (hpoint : s.point = .query cutoff) {R : Reading} {events : List AuditEvent}
    (hread : kind.queryBefore A.toStoreExterns R cutoff cleanupBatchSize .none s.table
      = .ok events) (hne : events ≠ []) (now : DateTime) (purged : UInt64) :
    let s' := [.query R .none, .archive now .none, .purge true (.ok purged)].foldl
      (cleanupStep A kind cfg) s
    s'.files = Function.update s.files (archiveFile A dir now)
        (some (events.map (eventLine A))) ∧
      s'.deleted = s.deleted ++ s.table.filter (kind.before A.toStoreExterns cutoff) ∧
      s'.table = s.table.filter (fun row => !kind.before A.toStoreExterns cutoff row) ∧
      (events.length < cleanupBatchSize.toNat → s'.point = .idle) := by
  intro s'
  obtain ⟨e, es, rfl⟩ := List.exists_cons_of_ne_nil hne
  have hquery : cleanupStep A kind cfg s (.query R .none)
      = { s with point := .archive dir cutoff (e :: es) } := by
    simp [cleanupStep, CleanupState.query, hpoint, hread, hdir]
  have harchive : cleanupStep A kind cfg { s with point := .archive dir cutoff (e :: es) }
      (.archive now .none)
      = { s with
          files := Function.update s.files (archiveFile A dir now)
            (some ((e :: es).map (eventLine A)))
          point := .purge cutoff (e :: es).length } := by
    simp [cleanupStep, CleanupState.archive, archiveEvents]
  simp only [s', List.foldl_cons, List.foldl_nil, hquery, harchive]
  simp only [cleanupStep, CleanupState.purge, if_true]
  split
  · exact ⟨rfl, rfl, rfl, fun _ => rfl⟩
  · next hfull => exact ⟨rfl, rfl, rfl, fun hlt => absurd hlt hfull⟩

/-- Where one archive file is all there is, a row whose sequence number is not in it is not
archived. -/
theorem not_archived_of_sequence (hA : IntegerTexts A.numberText) {files : Files}
    {path : String} {events : List AuditEvent} {row : kind.Row}
    (hfiles : files = Function.update (fun _ => none) path (some (events.map (eventLine A))))
    (hrow : kind.storedSequence row ∉ events.map AuditEvent.sequence) :
    ¬ Archived A kind files row := by
  rintro ⟨R, e, path', lines, hread, hpath, hline⟩
  rw [hfiles] at hpath
  by_cases hp : path' = path
  · rw [hp, Function.update_self, Option.some.injEq] at hpath
    rw [← hpath] at hline
    obtain ⟨d, hd, hde⟩ := List.mem_map.mp hline
    apply hrow
    rw [← BackendKind.sequence_of_fromRow hread, ← sequence_eq_of_eventLine_eq hA hde]
    exact List.mem_map_of_mem hd
  · rw [Function.update_of_ne hp] at hpath
    exact absurd hpath (by simp)

/-- **A full batch loses the rest.**  Where more rows are before the cutoff than a batch
holds and every step succeeds, a cycle deletes a row that is in no archive file. -/
theorem exists_unarchived_of_batch_lt (hA : IntegerTexts A.numberText) {dir : String}
    (hdir : cfg.archivePath = some dir) {cutoff : DateTime} (hpoint : s.point = .query cutoff)
    (hfiles : s.files = fun _ => none) (hsequence : (s.table.map kind.storedSequence).Nodup)
    (hlt : cleanupBatchSize.toNat
      < (s.table.filter (kind.before A.toStoreExterns cutoff)).length)
    {R : Reading} {events : List AuditEvent}
    (hread : kind.queryBefore A.toStoreExterns R cutoff cleanupBatchSize .none s.table
      = .ok events) (now : DateTime) (purged : UInt64) :
    let s' := [.query R .none, .archive now .none, .purge true (.ok purged)].foldl
      (cleanupStep A kind cfg) s
    ∃ row ∈ s'.deleted, ¬ Archived A kind s'.files row := by
  intro s'
  obtain ⟨batch, -, hbatch, hlength, -⟩ := BackendKind.queryBefore_eq_ok hread (by simp)
  have hevents : events.length = cleanupBatchSize.toNat := by
    rw [← (mapM_eq_ok_iff.mp hbatch).length_eq, hlength]
    omega
  have hne : events ≠ [] := by
    rintro rfl
    exact absurd hevents (by decide)
  obtain ⟨hfiles', hdeleted, -, -⟩ := cleanup_batch hdir hpoint hread hne now purged
  -- there are more sequence numbers before the cutoff than the batch has
  have hmissing : ∃ row ∈ s.table.filter (kind.before A.toStoreExterns cutoff),
      kind.storedSequence row ∉ events.map AuditEvent.sequence := by
    by_contra hall
    push Not at hall
    have hnodup : ((s.table.filter (kind.before A.toStoreExterns cutoff)).map
        kind.storedSequence).Nodup := hsequence.sublist (List.filter_sublist.map _)
    have hsub : (s.table.filter (kind.before A.toStoreExterns cutoff)).map kind.storedSequence
        ⊆ events.map AuditEvent.sequence := by
      intro n hn
      obtain ⟨row, hrow, rfl⟩ := List.mem_map.mp hn
      exact hall row hrow
    have hle := (List.subperm_of_subset hnodup hsub).length_le
    rw [List.length_map, List.length_map] at hle
    omega
  obtain ⟨row, hrow, hnew⟩ := hmissing
  refine ⟨row, ?_, ?_⟩
  · rw [hdeleted]
    exact List.mem_append_right _ hrow
  · rw [hfiles] at hfiles'
    exact not_archived_of_sequence hA hfiles' hnew

/-- **An archive over an earlier one loses it.**  Where the archive file of that second is
there already and every step succeeds, a cycle leaves the rows that were deleted before
in no archive file. -/
theorem not_archived_of_file (hA : IntegerTexts A.numberText) {dir : String}
    (hdir : cfg.archivePath = some dir) {cutoff : DateTime} (hpoint : s.point = .query cutoff)
    {now : DateTime} {lines : List String}
    (hfiles : s.files = Function.update (fun _ => none) (archiveFile A dir now) (some lines))
    {row : kind.Row} (hrow : row ∈ s.deleted)
    (hsequence : kind.storedSequence row ∉ s.table.map kind.storedSequence)
    {R : Reading} {events : List AuditEvent}
    (hread : kind.queryBefore A.toStoreExterns R cutoff cleanupBatchSize .none s.table
      = .ok events) (hne : events ≠ []) (purged : UInt64) :
    let s' := [.query R .none, .archive now .none, .purge true (.ok purged)].foldl
      (cleanupStep A kind cfg) s
    row ∈ s'.deleted ∧ ¬ Archived A kind s'.files row := by
  intro s'
  obtain ⟨hfiles', hdeleted, -, -⟩ := cleanup_batch hdir hpoint hread hne now purged
  refine ⟨?_, ?_⟩
  · rw [hdeleted]
    exact List.mem_append_left _ hrow
  · rw [hfiles, Function.update_idem] at hfiles'
    obtain ⟨batch, hsub, hbatch, -⟩ := BackendKind.queryBefore_eq_ok hread (by simp)
    -- the one file left holds the new batch, and the row was gone when it was read
    apply not_archived_of_sequence hA hfiles'
    rw [BackendKind.sequence_of_mapM_fromRow hbatch]
    exact fun hmem => hsequence (List.map_subset _ hsub hmem)

/-! ### Runs -/

theorem CleanupState.query_files (R : Reading) (fault : Fault) :
    (s.query A kind cfg R fault).files = s.files := by
  unfold CleanupState.query
  split
  · split
    · rfl
    · rfl
    · split <;> rfl
  · rfl

/-- A cycle whose batch holds all there is before the cutoff is orderly, as long as no
archive file is there. -/
theorem allowed_orderly_cycle {cutoff : DateTime} (hpoint : s.point = .query cutoff)
    (hall : (s.table.filter (kind.before A.toStoreExterns cutoff)).length
      ≤ cleanupBatchSize.toNat) (hfiles : s.files = fun _ => none) (R : Reading) (now : DateTime)
    (purged : UInt64) :
    Allowed (cleanupStep A kind cfg) (Orderly A kind) s
      [.query R .none, .archive now .none, .purge true (.ok purged)] := by
  refine ⟨?_, ?_, trivial, trivial⟩
  · intro cutoff' hcutoff
    obtain rfl : cutoff = cutoff' := CleanupPoint.query.inj (hpoint.symm.trans hcutoff)
    exact ⟨hall, by simp⟩
  · intro dir _ _ _
    rw [cleanupStep, CleanupState.query_files, hfiles]

/-- **What cleanups delete is archived.**  In every state that cleanup cycles reach, with an
archive path configured, triggered at any times, with appends in between and with any
step failing: every row they have deleted has its event in an archive file, as long as
every batch held all there was before the cutoff, no archive file was written over, and
nothing before the cutoff was appended between a reading and its purge. -/
theorem cleanup_spec (A : ArchiveExterns) (kind : BackendKind) {cfg : RetentionConfig}
    {dir : String} (hdir : cfg.archivePath = some dir) (table : List kind.Row) (files : Files)
    {s : CleanupState kind.Row}
    (h : Reach (cleanupStep A kind cfg) (Orderly A kind) (CleanupState.init table files) s) :
    ∀ row ∈ s.deleted, Archived A kind s.files row := by
  have hinv : CleanupInv A s := by
    apply h.invariant
    · exact ⟨by simp [CleanupState.init], trivial⟩
    · intro s a hs ha
      exact hs.step hdir a ha
  exact hinv.archived

end Cleanup

/-! ### Samples -/

/-- Thirty days after `sampleTime nanos`: 2025-07-15T10:30:00Z and some nanoseconds. -/
def sampleLater (nanos : Fin 2000000000) : DateTime :=
  { sampleTime nanos with
    secs := 1752575400
    secs_ge := by decide
    secs_le := by decide }

/-- The third-party functions at the samples.  Integers are written in decimal; the time
of the sample events and the second of the sample cleanups have their real texts. -/
def sampleArchive : ArchiveExterns :=
  { sampleStore with
    numberText := fun
      | .posInt n => Nat.toDigits 10 n.toNat
      | n => sampleTexts.numberText n
    timeJson := fun t =>
      if t = sampleTime 0 then "2025-06-15T10:30:00Z" else sampleTexts.toRfc3339 t
    stamp := fun t =>
      if t.secs = 1752575400 then "20250715_103000" else sampleTexts.toRfc3339 t }

theorem integerTexts_sampleArchive : IntegerTexts sampleArchive.numberText where
  injective := by
    intro m n h
    have hdigits : Nat.toDigits 10 m.toNat = Nat.toDigits 10 n.toNat := h
    have hvalue := congrArg (Nat.ofDigitChars 10 · 0) hdigits
    simp only [Nat.ofDigitChars_ten_toDigits] at hvalue
    exact UInt64.toNat_inj.mp hvalue
  colon := by
    intro n h
    have hdigit := Nat.isDigit_of_mem_toDigits (by decide) (by decide) h
    exact absurd hdigit (by decide)

def sampleRetention : RetentionConfig := ⟨some 30, some "/var/audit"⟩

/-- The state behind a trigger thirty days later. -/
def sampleStart (table : List PgRow) : CleanupState BackendKind.postgres.Row :=
  ⟨.query (sampleTime 100000000), table, fun _ => none, [], []⟩

theorem reach_sampleStart
    {allowed : CleanupState BackendKind.postgres.Row → CleanupAction PgRow → Prop}
    (htrigger : ∀ s now, allowed s (.trigger now)) (table : List PgRow) :
    Reach (cleanupStep sampleArchive .postgres sampleRetention) allowed
      (CleanupState.init table fun _ => none) (sampleStart table) := by
  have hdays : (sampleLater 100000000).subDays 30 = some (sampleTime 100000000) := by decide
  have hstep : cleanupStep sampleArchive .postgres sampleRetention
      (CleanupState.init table fun _ => none) (.trigger (sampleLater 100000000))
      = sampleStart table := by
    simp only [cleanupStep, CleanupState.trigger, CleanupState.init, sampleRetention, hdays,
      sampleStart]
  rw [← hstep]
  exact .act _ .start (htrigger _ _)

/-- The `i`-th of a list of logins. -/
def sampleNumbered (i : ℕ) : AuditEvent :=
  { sampleFirst with
    id := ⟨Bytes.leBytes 16 i, Bytes.length_leBytes 16 i⟩
    sequence := .ofNat (i + 1) }

/-- A table of `n` logins. -/
def sampleTable (n : ℕ) : List PgRow :=
  (List.range n).map fun i => pgRow sampleArchive.toStoreExterns (sampleNumbered i)

theorem length_sampleTable (n : ℕ) : (sampleTable n).length = n := by
  rw [sampleTable, List.length_map, List.length_range]

/-- The sample rows are all before the cutoff, so that a cycle has all of them to do. -/
theorem filter_sampleTable (n : ℕ) :
    (sampleTable n).filter (BackendKind.postgres.before sampleArchive.toStoreExterns
      (sampleTime 100000000)) = sampleTable n := by
  have hlt : (sampleTime 0).toTimestamptz < (sampleTime 100000000).toTimestamptz := by
    decide +kernel
  have hbefore : ∀ (S : StoreExterns) (cutoff : DateTime) (e : AuditEvent),
      BackendKind.postgres.before S cutoff (pgRow S e)
        = decide (e.timestamp.toTimestamptz < cutoff.toTimestamptz) := fun _ _ _ => rfl
  rw [List.filter_eq_self]
  intro row hrow
  obtain ⟨i, -, rfl⟩ := List.mem_map.mp hrow
  rw [hbefore]
  exact decide_eq_true hlt

theorem nodup_sequence_sampleTable {n : ℕ} (hn : n < 2 ^ 63) :
    ((sampleTable n).map BackendKind.postgres.storedSequence).Nodup := by
  have hsequence : ∀ (S : StoreExterns) (e : AuditEvent),
      BackendKind.postgres.storedSequence (pgRow S e) = e.sequence :=
    fun _ e => UInt64.toUInt64_toInt64 e.sequence
  rw [sampleTable, List.map_map]
  refine List.Nodup.map_on ?_ List.nodup_range
  intro i hi j hj hij
  rw [List.mem_range] at hi hj
  simp only [Function.comp_apply, hsequence] at hij
  have hnat : (UInt64.ofNat (i + 1)).toNat = (UInt64.ofNat (j + 1)).toNat :=
    congrArg UInt64.toNat hij
  rw [UInt64.toNat_ofNat', UInt64.toNat_ofNat'] at hnat
  omega

/-- PostgreSQL reads a batch of them without an error. -/
theorem exists_queryBefore_sampleTable (n : ℕ) :
    ∃ events, BackendKind.postgres.queryBefore sampleArchive.toStoreExterns
        ⟨.plain, sampleUuid, sampleTime 0⟩ (sampleTime 100000000) cleanupBatchSize .none
        (sampleTable n) = .ok events ∧ events.length = min cleanupBatchSize.toNat n := by
  have hrow : ∀ row ∈ (pgBackend sampleArchive.toStoreExterns).selectBefore
      (sampleTime 100000000) cleanupBatchSize (sampleTable n), ∃ e, pgEvent row = .ok e := by
    intro row hrow
    have hmem := (pgBackend sampleArchive.toStoreExterns).selectBefore_subset _ _ _ hrow
    obtain ⟨i, -, rfl⟩ := List.mem_map.mp hmem
    have hwhole : (sampleTime 0).WholeUnits 1000 := by decide
    have htime : DateTime.ofTimestamptz
        (pgRow sampleArchive.toStoreExterns (sampleNumbered i)).timestamp = some (sampleTime 0) :=
      (sampleTime 0).ofTimestamptz_toTimestamptz_iff.mpr hwhole
    rw [pgEvent, htime]
    exact ⟨_, rfl⟩
  obtain ⟨events, hevents⟩ := exists_forall₂ hrow
  have hread : BackendKind.postgres.queryBefore sampleArchive.toStoreExterns
      ⟨.plain, sampleUuid, sampleTime 0⟩ (sampleTime 100000000) cleanupBatchSize .none
      (sampleTable n) = .ok events :=
    mapError_eq_ok_iff.mpr (fetchAll_none_eq_ok_iff.mpr (mapM_eq_ok_iff.mpr hevents))
  obtain ⟨batch, -, hbatch, hlength, -⟩ := BackendKind.queryBefore_eq_ok hread (by simp)
  refine ⟨events, hread, ?_⟩
  rw [← (mapM_eq_ok_iff.mp hbatch).length_eq, hlength, filter_sampleTable, length_sampleTable]

/-- A cycle over one login archives and deletes it. -/
theorem cleanup_spec_sample :
    ∃ s, Reach (cleanupStep sampleArchive .postgres sampleRetention)
        (Orderly sampleArchive .postgres) (CleanupState.init (sampleTable 1) fun _ => none) s ∧
      s.deleted = sampleTable 1 ∧
      ∀ row ∈ s.deleted, Archived sampleArchive .postgres s.files row := by
  obtain ⟨events, hread, hlength⟩ := exists_queryBefore_sampleTable 1
  have hne : events ≠ [] := by
    rintro rfl
    exact absurd hlength (by decide)
  have hcycle := @allowed_orderly_cycle sampleArchive .postgres sampleRetention
    (sampleStart (sampleTable 1)) _ rfl
    (by rw [sampleStart, filter_sampleTable, length_sampleTable]; decide) rfl
    ⟨.plain, sampleUuid, sampleTime 0⟩ (sampleLater 100000000) 1
  have hrun := (reach_sampleStart (fun _ _ => trivial) (sampleTable 1)).foldl hcycle
  obtain ⟨-, hdeleted, -⟩ := @cleanup_batch sampleArchive .postgres sampleRetention
    (sampleStart (sampleTable 1)) "/var/audit" rfl _ rfl _ _ hread hne (sampleLater 100000000) 1
  refine ⟨_, hrun, ?_, cleanup_spec sampleArchive .postgres rfl _ _ hrun⟩
  rw [hdeleted]
  exact filter_sampleTable 1

/-- Ten thousand and one logins: the archive has ten thousand lines, and all the logins are
deleted. -/
theorem cleanup_unarchived :
    ∃ s, Reach (cleanupStep sampleArchive .postgres sampleRetention) (fun _ _ => True)
        (CleanupState.init (sampleTable 10001) fun _ => none) s ∧
      ∃ row ∈ s.deleted, ¬ Archived sampleArchive .postgres s.files row := by
  generalize htable : sampleTable 10001 = table
  have hsequence : (table.map BackendKind.postgres.storedSequence).Nodup := by
    rw [← htable]
    exact nodup_sequence_sampleTable (by decide)
  have hlt : cleanupBatchSize.toNat < (table.filter (BackendKind.postgres.before
      sampleArchive.toStoreExterns (sampleTime 100000000))).length := by
    rw [← htable, filter_sampleTable, length_sampleTable]
    decide
  obtain ⟨events, hread, -⟩ := exists_queryBefore_sampleTable 10001
  rw [htable] at hread
  have hlost := @exists_unarchived_of_batch_lt sampleArchive .postgres sampleRetention
    (sampleStart table) integerTexts_sampleArchive "/var/audit" rfl _ rfl rfl hsequence hlt _ _
    hread (sampleLater 100000000) 10001
  have hcycle : Allowed (cleanupStep sampleArchive .postgres sampleRetention) (fun _ _ => True)
      (sampleStart table) [.query ⟨.plain, sampleUuid, sampleTime 0⟩ .none,
        .archive (sampleLater 100000000) .none, .purge true (.ok 10001)] :=
    ⟨trivial, trivial, trivial, trivial⟩
  exact ⟨_, (reach_sampleStart (fun _ _ => trivial) table).foldl hcycle, hlost⟩

end ActonService
