import ActonService.Audit.Syslog
import ActonService.Lib.Lines

/-!
# The framing of the syslog stream

What `send` of `audit/syslog.rs` gives to a socket, and what a collector gets by splitting the
stream of the TCP transport at its newlines.  A datagram holds one line; over TCP a newline stands
behind every line, and nothing else tells where a line ends.

`escape_sd_value` escapes what ends a value, a parameter or the structured data, and the newline is
none of these.  The name of an application-defined kind, the service and the application stand in
the header without any escape.  The metadata are the exception: their canonical text writes a
newline as `\n`.

The network is a parameter: an attempt to send is given with what connecting came to.

## Main definitions

* `SyslogSender.send`, `SyslogSender.stream` — what is sent, and what the collector reads.
* `OneLine`, `AuditEvent.freeTexts` — a text without a newline, and the texts of an event that
  reach its line newlines and all.
* `LineTexts` — what is relied on of the third-party texts in a line.

## Main results

* `oneLine_formatRfc5424_iff` — a line is one line exactly if every free text of its event is.
* `SyslogSender.pieces_stream_iff` — **the collector gets the lines that were sent exactly if no
  free text of an event holds a newline.**
-/

namespace ActonService

open Lines Text

/-! ### Sending -/

/-- How lines reach the collector. -/
inductive SyslogTransport
  | udp
  | tcp
  deriving DecidableEq, Repr

section Send

variable {ε : Type} (S : StoreExterns) (headerTime : DateTime → String) (sender : SyslogSender)

/-- What is written to an open socket for a line. -/
def SyslogTransport.framed : SyslogTransport → String → String
  | .udp, message => message
  | .tcp, message => message ++ "\n"

/-- `send`, at what opening the socket came to: the bytes that are written, or the error. -/
def SyslogSender.send (transport : SyslogTransport) (opened : Except ε Unit) (event : AuditEvent) :
    Except ε (List UInt8) :=
  opened.map fun _ => strBytes (transport.framed (sender.formatRfc5424 S headerTime event))

/-- The bytes the collector reads over TCP, of one attempt after the other. -/
def SyslogSender.stream (attempts : List (Except ε Unit × AuditEvent)) : List UInt8 :=
  attempts.flatMap fun a =>
    match sender.send S headerTime .tcp a.1 a.2 with
    | .ok bytes => bytes
    | .error _ => []

/-- The events whose connection was opened. -/
def sentEvents (attempts : List (Except ε Unit × AuditEvent)) : List AuditEvent :=
  attempts.filterMap fun a => if a.1.isOk then some a.2 else none

/-- The line of an event, as bytes. -/
def SyslogSender.line (event : AuditEvent) : List UInt8 :=
  strBytes (sender.formatRfc5424 S headerTime event)

theorem strBytes_append (s t : String) : strBytes (s ++ t) = strBytes s ++ strBytes t := by
  simp [strBytes]

/-- The stream is the lines of the events whose connection was opened, a newline behind each. -/
theorem SyslogSender.stream_eq (attempts : List (Except ε Unit × AuditEvent)) :
    sender.stream S headerTime attempts
      = terminate newline ((sentEvents attempts).map (sender.line S headerTime)) := by
  induction attempts with
  | nil => rfl
  | cons attempt attempts ih =>
    obtain ⟨opened, event⟩ := attempt
    rw [SyslogSender.stream, List.flatMap_cons, ← SyslogSender.stream, ih]
    cases opened with
    | error e => rfl
    | ok _ =>
      have hnewline : strBytes "\n" = [newline] := by decide
      have hsend : sender.send (ε := ε) S headerTime .tcp (.ok ()) event
          = .ok (sender.line S headerTime event ++ [newline]) := by
        rw [← hnewline, SyslogSender.line, ← strBytes_append]
        rfl
      rw [hsend]
      rfl

end Send

/-! ### Texts of one line -/

/-- The text holds no newline, so that it is one line of a stream. -/
def OneLine (s : String) : Prop := '\n' ∉ s.toList

instance decidableOneLine (s : String) : Decidable (OneLine s) :=
  inferInstanceAs (Decidable ('\n' ∉ s.toList))

@[simp] theorem oneLine_append {s t : String} : OneLine (s ++ t) ↔ OneLine s ∧ OneLine t := by
  simp [OneLine, String.toList_append, List.mem_append, not_or]

/-- No escape of a value touches a newline. -/
@[simp] theorem oneLine_escapeSdValue {s : String} : OneLine (escapeSdValue s) ↔ OneLine s := by
  rw [OneLine, OneLine, toList_escapeSdValue, List.mem_flatMap]
  refine not_congr ⟨?_, fun h => ⟨'\n', h, by decide⟩⟩
  rintro ⟨c, hc, hmem⟩
  rw [escapeSdChar] at hmem
  split at hmem
  · -- the backslash before the character is no newline
    have heq : '\n' = c := by simpa using hmem
    rwa [heq]
  · rwa [List.mem_singleton.mp hmem]

@[simp] theorem oneLine_repr (n : ℕ) : OneLine n.repr := notMem_repr (by decide) n

theorem oneLine_sdParam {key : String} (hkey : OneLine key) {value : String} :
    OneLine (sdParam key value) ↔ OneLine value := by
  have hstart : OneLine "=\"" := by decide
  have hend : OneLine "\"" := by decide
  simp [sdParam, hkey, hstart, hend]

theorem oneLine_intercalate {sep : String} (hsep : OneLine sep) {texts : List String} :
    OneLine (sep.intercalate texts) ↔ ∀ s ∈ texts, OneLine s := by
  have hlist : ∀ s rest, '\n' ∉ List.intercalate sep.toList (s :: rest)
      ↔ ∀ t ∈ s :: rest, '\n' ∉ t := by
    intro s rest
    rw [intercalate_cons_eq, List.mem_append, List.mem_flatMap, not_or, List.forall_mem_cons]
    refine and_congr_right fun _ => ⟨fun h t ht hmem => ?_, fun h => ?_⟩
    · exact h ⟨t, ht, List.mem_append_right _ hmem⟩
    · rintro ⟨t, ht, hmem⟩
      rcases List.mem_append.mp hmem with hmem | hmem
      · exact hsep hmem
      · exact h t ht hmem
  cases texts with
  | nil => simp [OneLine]
  | cons s rest =>
    rw [OneLine, String.toList_intercalate, List.map_cons, hlist, ← List.map_cons,
      List.forall_mem_map]
    rfl

/-- A JSON literal escapes newlines, whatever text it is of. -/
theorem newline_notMem_quote (s : String) : '\n' ∉ quote s := by
  have hchar : ∀ c, '\n' ∉ escapeChar c := by
    intro c hmem
    unfold escapeChar at hmem
    split_ifs at hmem with h₁ h₂ h₃ h₄ h₅ h₆ h₇ h₈
    iterate 7 · exact absurd hmem (by decide)
    · -- the digits of a control character are no newline either
      have hdigit : ∀ n < 16, Bytes.hexDigit n ≠ '\n' := by decide
      have hlow := hdigit (c.toNat % 16) (by omega)
      have hhigh := hdigit (c.toNat / 16) (by omega)
      simp [hlow.symm, hhigh.symm] at hmem
    · exact h₅ (List.mem_singleton.mp hmem).symm
  simp [quote, hchar]

/-- The canonical text of a value is one line. -/
theorem oneLine_canonicalJson {num : Number → List Char} (hnum : NumberText num) (v : Json) :
    OneLine (canonicalJson num v) := by
  rw [OneLine, canonicalJson, String.toList_ofList]
  induction v using Json.induction with
  | null => simp [writeValue]
  | bool b => cases b <;> simp [writeValue]
  | number n =>
    intro hmem
    rw [writeValue] at hmem
    exact absurd (hnum.numberChar n _ hmem) (by decide)
  | string s =>
    rw [writeValue]
    exact newline_notMem_quote s
  | array items ih =>
    rw [writeValue_array]
    exact PrefixCode.notMem_bracketed (by decide) (by decide) (by decide) ih
  | object entries ih =>
    rw [writeValue_object]
    refine PrefixCode.notMem_bracketed (by decide) (by decide) (by decide) fun e he => ?_
    have hvalue := ih e ((sortByKey_perm entries).mem_iff.mp he)
    simp [writeEntry, newline_notMem_quote, hvalue]

/-- Only an application can give a kind a newline. -/
theorem oneLine_display {kind : AuditEventKind} :
    OneLine kind.display ↔ ∀ name, kind = .custom name → OneLine name := by
  cases kind
  case custom name =>
    have hprefix : OneLine "custom." := by decide
    simp [AuditEventKind.display, hprefix]
  all_goals
    simp only [reduceCtorEq, false_implies, implies_true, iff_true]
    decide

/-! ### Lines of events -/

/-- The name of an application-defined kind. -/
def AuditEventKind.customName : AuditEventKind → Option String
  | .custom name => some name
  | _ => none

/-- The texts of an event that reach its line newlines and all. -/
def AuditEvent.freeTexts (e : AuditEvent) : List String :=
  e.serviceName :: (e.kind.customName.toList ++ e.source.ip.toList ++ e.source.userAgent.toList
    ++ e.source.subject.toList ++ e.source.requestId.toList ++ e.method.toList ++ e.path.toList
    ++ e.previousHash.toList ++ e.hash.toList)

/-- What is relied on of the third-party texts in a line: none of them holds a newline. -/
structure LineTexts (S : StoreExterns) (headerTime : DateTime → String) : Prop where
  id : ∀ id, OneLine (S.uuidToString id)
  timestamp : ∀ t, OneLine (S.toRfc3339 t)
  headerTime : ∀ t, OneLine (headerTime t)
  number : NumberText S.numberText

theorem oneLine_customName {kind : AuditEventKind} :
    OneLine kind.display ↔ ∀ name ∈ kind.customName.toList, OneLine name := by
  rw [oneLine_display]
  cases kind <;> simp [AuditEventKind.customName]

section Line

variable {S : StoreExterns} {headerTime : DateTime → String}

/-- An optional parameter is one line exactly if its value is. -/
theorem oneLine_optionalParam {α : Type} {key : String} (hkey : OneLine key) (o : Option α)
    (value : α → String) :
    (∀ p ∈ (o.map fun a => sdParam key (value a)).toList, OneLine p)
      ↔ ∀ a ∈ o.toList, OneLine (value a) := by
  cases o <;> simp [oneLine_sdParam hkey]

/-- The parameters of an event are one line each exactly if its free texts are. -/
theorem oneLine_sdParams (htexts : LineTexts S headerTime) (e : AuditEvent) :
    (∀ p ∈ sdParams S e, OneLine p) ↔ ∀ s ∈ e.freeTexts, OneLine s := by
  have hmetadata := oneLine_canonicalJson htexts.number
  simp (disch := decide) only [sdParams, AuditEvent.freeTexts, List.forall_mem_append,
    List.forall_mem_cons, oneLine_optionalParam, oneLine_sdParam, oneLine_escapeSdValue,
    oneLine_customName, Nat.toString_eq_repr, oneLine_repr, htexts.id, htexts.timestamp, hmetadata,
    List.not_mem_nil, false_implies, implies_true, true_and, and_true, and_assoc]
  -- the parameters have the kind before the service
  exact and_left_comm

/-- **A line is one line exactly if every free text of its event is**, and the name of the
application. -/
theorem oneLine_formatRfc5424_iff (htexts : LineTexts S headerTime) (sender : SyslogSender)
    (e : AuditEvent) :
    OneLine (sender.formatRfc5424 S headerTime e)
      ↔ ∀ s ∈ sender.appName :: e.freeTexts, OneLine s := by
  have hdata : structuredData (sdParams S e) = sdMarker ++ " ".intercalate (sdParams S e) ++ "]" :=
    rfl
  have hmarker : OneLine sdMarker := by decide
  have hfixed : ∀ s ∈ ["<", ">1 ", " ", " - ", "]", " seq="], OneLine s := by decide
  simp only [List.forall_mem_cons] at hfixed
  have hfree := oneLine_sdParams htexts e
  rw [List.forall_mem_cons, ← hfree]
  simp only [SyslogSender.formatRfc5424, SyslogSender.header, hdata, oneLine_append, hmarker,
    oneLine_intercalate hfixed.2.2.1, hfixed, Nat.toString_eq_repr, oneLine_repr,
    htexts.headerTime, true_and, and_true]
  constructor
  · rintro ⟨⟨⟨⟨-, happ⟩, -⟩, hparams⟩, -⟩
    exact ⟨happ, hparams⟩
  · rintro ⟨happ, hparams⟩
    -- the header and the body hold texts that the parameters hold too
    have htexts' := hfree.mp hparams
    have hservice : OneLine e.serviceName := htexts' _ (by simp [AuditEvent.freeTexts])
    have hkind : OneLine e.kind.display := by
      refine oneLine_customName.mpr fun name hname => htexts' _ ?_
      simp [AuditEvent.freeTexts, Option.mem_toList.mp hname]
    exact ⟨⟨⟨⟨hservice, happ⟩, hkind⟩, hparams⟩, hkind⟩

/-- **The collector gets the lines that were sent exactly if no free text of an event holds a
newline.** -/
theorem SyslogSender.pieces_stream_iff {ε : Type} (htexts : LineTexts S headerTime)
    (sender : SyslogSender) (attempts : List (Except ε Unit × AuditEvent)) :
    pieces newline (sender.stream S headerTime attempts)
        = (sentEvents attempts).map (sender.line S headerTime)
      ↔ ∀ e ∈ sentEvents attempts, ∀ s ∈ sender.appName :: e.freeTexts, OneLine s := by
  rw [sender.stream_eq, pieces_terminate_iff, List.forall_mem_map]
  refine forall₂_congr fun e _ => ?_
  rw [← oneLine_formatRfc5424_iff htexts, SyslogSender.line, strBytes, newline_mem_toByteArray_iff]
  rfl

end Line

/-! ### Samples -/

theorem newline_notMem_hexDigits (bytes : List UInt8) : '\n' ∉ Bytes.hexDigits bytes := by
  have hdigit : ∀ n < 16, Bytes.hexDigit n ≠ '\n' := by decide
  intro h
  obtain ⟨b, -, hb⟩ := List.mem_flatMap.mp h
  have hlt := b.toNat_lt
  simp only [Bytes.hexByte, List.mem_cons, List.not_mem_nil, or_false] at hb
  rcases hb with hb | hb
  · exact hdigit _ (by omega) hb.symm
  · exact hdigit _ (by omega) hb.symm

/-- The sample texts are of one line. -/
theorem lineTexts_sampleStore (text : String) (htext : OneLine text) :
    LineTexts sampleStore fun _ => text where
  id := by
    intro id hmem
    have hdigits := newline_notMem_hexDigits id.bytes
    have htake : ∀ n m, '\n' ∉ ((Bytes.hexDigits id.bytes).drop n).take m :=
      fun n m h => hdigits (List.mem_of_mem_drop (List.mem_of_mem_take h))
    have hfirst : '\n' ∉ (Bytes.hexDigits id.bytes).take 8 := htake 0 8
    have hlast : '\n' ∉ (Bytes.hexDigits id.bytes).drop 20 :=
      fun h => hdigits (List.mem_of_mem_drop h)
    simp [sampleStore, hfirst, htake, hlast] at hmem
  timestamp := by
    intro t
    have hmoments : ∀ p ∈ sampleMoments, OneLine p.2 := by decide
    have htime : sampleStore.toRfc3339 t = (sampleMoments.lookup t).getD
        (String.ofList (Bytes.hexDigits (Bytes.leBytes 10 t.rank))) := rfl
    rw [htime]
    cases hlookup : sampleMoments.lookup t with
    | none =>
      rw [Option.getD_none, OneLine, String.toList_ofList]
      exact newline_notMem_hexDigits _
    | some text =>
      obtain ⟨l₁, l₂, htable, -⟩ := List.lookup_eq_some_iff.mp hlookup
      exact hmoments (t, text) (by simp [htable])
  headerTime := fun _ => htext
  number := sampleTexts_lawful.numberText

/-- A login of a subject. -/
def sampleLoginOf (subject : String) : AuditEvent :=
  { sampleLogin (sampleTime 0) sampleMetadata with
    source := { ip := some "198.51.100.42", userAgent := some "curl/8.0"
                subject := some subject, requestId := none } }

/-- The line of a login with metadata is read back, behind an attempt that did not connect. -/
theorem SyslogSender.pieces_stream_iff_sample :
    pieces newline ((⟨13, "billing-api"⟩ : SyslogSender).stream sampleStore
        (fun _ => "2025-06-15T10:30:00.000000Z")
        [(.error "refused", sampleLoginOf "carol"), (.ok (), sampleLoginOf "alice")])
      = [(⟨13, "billing-api"⟩ : SyslogSender).line sampleStore
          (fun _ => "2025-06-15T10:30:00.000000Z") (sampleLoginOf "alice")] := by
  have hpieces := SyslogSender.pieces_stream_iff
    (lineTexts_sampleStore "2025-06-15T10:30:00.000000Z" (by decide))
    ⟨13, "billing-api"⟩
    [(.error "refused", sampleLoginOf "carol"), (.ok (), sampleLoginOf "alice")]
  exact hpieces.mpr (by decide)

/-- **A forged line**: a subject that holds a newline is split into two lines. -/
theorem not_forall_pieces_stream :
    ¬ ∀ (S : StoreExterns) (headerTime : DateTime → String), LineTexts S headerTime →
      ∀ (sender : SyslogSender) (events : List AuditEvent),
        pieces newline (sender.stream S headerTime
            (events.map fun e => ((.ok () : Except String Unit), e)))
          = events.map (sender.line S headerTime) := by
  intro hall
  have heq := hall sampleStore (fun _ => "2025-06-15T10:30:00.000000Z")
    (lineTexts_sampleStore _ (by decide)) ⟨13, "billing-api"⟩
    [sampleLoginOf "eve\n<110>1 forged"]
  have hlength := congrArg List.length heq
  revert hlength
  decide +kernel

end ActonService
