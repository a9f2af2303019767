import ActonService.Audit.Storage

/-!
# Archive files

Events are archived before they are purged (`audit/archive.rs`): a batch becomes one
file, named by the second it is written in, with the JSON text of one event a line.

A JSON text has no line break, so an archive file is the list of its lines.  Of a line
that a failed write has torn nothing is kept.

## Main definitions

* `AuditEvent.json`, `eventLine` — an event as JSON, and its line.
* `archiveEvents` — the archive of a batch.

## Main results

* `sequence_eq_of_eventLine_eq` — lines of events with different sequence numbers differ.
* `archiveEvents_eq_ok` — **an archive that succeeds holds the batch.**
-/

namespace ActonService

open PrefixCode

/-! ### Events as JSON -/

/-- The third-party functions an archive is written with. -/
structure ArchiveExterns extends StoreExterns where
  /-- The text `chrono` serializes a time as. -/
  timeJson : DateTime → String
  /-- A time in the format `%Y%m%d_%H%M%S`. -/
  stamp : DateTime → String

/-- An optional value, `null` where there is none. -/
def optionJson {α : Type} (json : α → Json) (value : Option α) : Json :=
  (value.map json).getD .null

/-- `Serialize for AuditEventKind`. -/
def AuditEventKind.json : AuditEventKind → Json
  | .custom name => .object [("Custom", .string name)]
  | kind => .string kind.variantName

/-- `Serialize for AuditSource`. -/
def AuditSource.json (source : AuditSource) : Json :=
  .object
    [("ip", optionJson .string source.ip),
     ("user_agent", optionJson .string source.userAgent),
     ("subject", optionJson .string source.subject),
     ("request_id", optionJson .string source.requestId)]

/-- `Serialize for AuditEvent`. -/
def AuditEvent.json (A : ArchiveExterns) (e : AuditEvent) : Json :=
  .object
    [("id", .string (A.uuidToString e.id)),
     ("timestamp", .string (A.timeJson e.timestamp)),
     ("kind", e.kind.json),
     ("severity", .string e.severity.variantName),
     ("source", e.source.json),
     ("method", optionJson .string e.method),
     ("path", optionJson .string e.path),
     ("status_code", optionJson (fun code => .number (.posInt code.toUInt64)) e.statusCode),
     ("duration_ms", optionJson (fun ms => .number (.posInt ms)) e.durationMs),
     ("service_name", .string e.serviceName),
     ("metadata", e.metadata.getD .null),
     ("hash", optionJson .string e.hash),
     ("previous_hash", optionJson .string e.previousHash),
     ("sequence", .number (.posInt e.sequence))]

/-- The line of an event in an archive file. -/
def eventLine (A : ArchiveExterns) (e : AuditEvent) : String := jsonText A.numberText (e.json A)

/-- How integers are written: different ones differently, and without a colon. -/
structure IntegerTexts (num : Number → List Char) : Prop where
  injective : Function.Injective fun n => num (.posInt n)
  colon : ∀ n, ':' ∉ num (.posInt n)

/-- The line of an event ends in its sequence number. -/
theorem suffix_eventLine (A : ArchiveExterns) (e : AuditEvent) :
    ':' :: A.numberText (.posInt e.sequence) ++ ['}'] <:+ (eventLine A e).toList := by
  have hlast : ∃ entries, e.json A = .object entries ∧
      (writeEntries A.numberText id entries).getLast?
        = some ("sequence", A.numberText (.posInt e.sequence)) := ⟨_, rfl, rfl⟩
  obtain ⟨entries, hjson, hlast⟩ := hlast
  have hend := suffix_bracketed '{' ',' '}' writeEntry hlast
  rw [eventLine, jsonText, hjson, String.toList_ofList, writeValue, id]
  refine List.IsSuffix.trans ?_ hend
  rw [writeEntry, List.append_assoc]
  exact List.suffix_append _ _

/-- Lines of events with different sequence numbers differ. -/
theorem sequence_eq_of_eventLine_eq {A : ArchiveExterns} (hA : IntegerTexts A.numberText)
    {a b : AuditEvent} (h : eventLine A a = eventLine A b) : a.sequence = b.sequence := by
  obtain ⟨s, hs⟩ := suffix_eventLine A a
  obtain ⟨t, ht⟩ := suffix_eventLine A b
  rw [h, ← ht] at hs
  -- read from the end, the number stops at its colon
  have hreverse := congrArg List.reverse hs
  simp only [List.reverse_append, List.reverse_cons, List.reverse_nil, List.nil_append,
    List.append_assoc, List.cons_append, List.cons.injEq, true_and] at hreverse
  have hstop : ∀ r : List Char, StopsAt (· ≠ ':') (':' :: r) := by
    intro r c u hcu
    simpa using (List.cons.inj hcu).1.symm
  have hnumber : ∀ n, ∀ c ∈ (A.numberText (.posInt n)).reverse, c ≠ ':' := by
    rintro n c hc rfl
    exact hA.colon n (List.mem_reverse.mp hc)
  obtain ⟨heq, -⟩ := token_append_inj (hnumber a.sequence) (hnumber b.sequence)
    (hstop _) (hstop _) hreverse
  exact hA.injective (List.reverse_injective heq)

/-! ### Archives -/

/-- The files by their paths, each the list of its lines. -/
abbrev Files := String → Option (List String)

/-- What happens to an archive: it is written, or one of its steps fails. -/
inductive ArchiveFault
  | none
  /-- The directory cannot be created. -/
  | createDir (e : String)
  /-- An event cannot be serialized. -/
  | serialize (e : String)
  /-- The file cannot be opened. -/
  | openFile (e : String)
  /-- Writing stops behind `n` whole lines. -/
  | write (n : ℕ) (e : String)

/-- `Path::join` with a file name. -/
def joinPath (dir name : String) : String :=
  if dir.toList.getLast? = none ∨ dir.toList.getLast? = some '/' then dir ++ name
  else dir ++ "/" ++ name

/-- The archive file of a time, whose name has the stamp of that time in it. -/
def archiveFile (A : ArchiveExterns) (dir : String) (now : DateTime) : String :=
  joinPath dir ("audit_archive_" ++ A.stamp now ++ ".jsonl")

/-- `archive_events`: the path it returns and the files behind it.  A file is opened for
writing from its start, so one that is there already is emptied first. -/
def archiveEvents (A : ArchiveExterns) (dir : String) (now : DateTime) (fault : ArchiveFault)
    (events : List AuditEvent) (files : Files) : Except StorageError String × Files :=
  let path := archiveFile A dir now
  let failedWrite (e : String) : StorageError :=
    .internal ("Failed to write archive file " ++ path ++ ": " ++ e)
  if events.isEmpty then (.error (.internal "No events to archive"), files)
  else
    match fault with
    | .createDir e =>
      (.error (.internal ("Failed to create archive directory " ++ dir ++ ": " ++ e)), files)
    | .serialize e =>
      (.error (.internal ("Failed to serialize audit event for archive: " ++ e)), files)
    | .openFile e => (.error (failedWrite e), files)
    | .write n e =>
      (.error (failedWrite e),
       Function.update files path (some ((events.map (eventLine A)).take n)))
    | .none => (.ok path, Function.update files path (some (events.map (eventLine A))))

/-- An archive leaves alone every file but its own. -/
theorem archiveEvents_files {A : ArchiveExterns} {dir : String} {now : DateTime}
    {fault : ArchiveFault} {events : List AuditEvent} {files : Files}
    (hnew : files (archiveFile A dir now) = none)
    {path : String} {lines : List String} (hpath : files path = some lines) :
    (archiveEvents A dir now fault events files).2 path = some lines := by
  have hne : path ≠ archiveFile A dir now := by
    rintro rfl
    rw [hnew] at hpath
    exact absurd hpath (by simp)
  unfold archiveEvents
  split
  · exact hpath
  · cases fault with
    | none => simpa [Function.update_of_ne hne] using hpath
    | write n e => simpa [Function.update_of_ne hne] using hpath
    | _ => exact hpath

/-- An archive that succeeds holds every event of the batch. -/
theorem archiveEvents_eq_ok {A : ArchiveExterns} {dir : String} {now : DateTime}
    {fault : ArchiveFault} {events : List AuditEvent} {files : Files} {path : String}
    (h : (archiveEvents A dir now fault events files).1 = .ok path) :
    (archiveEvents A dir now fault events files).2 path = some (events.map (eventLine A)) := by
  unfold archiveEvents at h ⊢
  split at h
  · simp at h
  · next hne =>
    rw [if_neg hne]
    cases fault with
    | none =>
      obtain rfl := Except.ok.inj h
      simp
    | _ => simp at h

end ActonService
