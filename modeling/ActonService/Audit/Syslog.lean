import ActonService.Audit.RoundTrip
import ActonService.Lib.Text

/-!
# The syslog export

The RFC 5424 lines of `audit/syslog.rs`, and the reader its tests hold them against.  A line
carries every field the chain hash covers in its structured data, so that the lines alone
suffice to verify the chain.

A value stands between quotes, and a backslash stands before every quote, backslash and
closing bracket of it.  Optional fields that are absent have no parameter at all.  The reader
finds the structured data behind the first `[audit@49610 ` of the line, so the header before
it must not hold a bracket of its own.

The metadata of an event stand in a line as their canonical text, and `serde_json` reads
that text back.  It refuses values nested too deep and may read a long decimal as the
double next to the one that was written, so not every sealed chain can be verified from its
lines.

The reader's panics are errors here.  The text `chrono` writes into the header is a
parameter; nothing reads it.

## Main definitions

* `escapeSdValue`, `formatRfc5424` — how a line is written.
* `parseSdParams`, `eventFromSd` — how it is read.
* `AuditEvent.ExportTexts` — what is relied on of the third-party texts in a line.

## Main results

* `parseSdParams_formatRfc5424` — **the reader finds the parameters that were written.**
* `verifyChain_exported_iff` — **when a sealed chain rebuilt from its lines verifies.**
-/

namespace ActonService

open HashChain Text

/-! ### Writing -/

/-- `escape_sd_value`: three replacements, one after the other. -/
def escapeSdValue (s : String) : String :=
  String.ofList (replaceChar ']' ['\\', ']']
    (replaceChar '"' ['\\', '"'] (replaceChar '\\' ['\\', '\\'] s.toList)))

/-- A parameter of the structured data. -/
def sdParam (key value : String) : String := key ++ "=\"" ++ value ++ "\""

/-- `SyslogSender`, without the socket it writes to. -/
structure SyslogSender where
  facility : UInt8
  appName : String

/-- The parameters `format_rfc5424` collects for an event. -/
def sdParams (S : StoreExterns) (event : AuditEvent) : List String :=
  [sdParam "event_id" (S.uuidToString event.id),
   sdParam "ts" (escapeSdValue (S.toRfc3339 event.timestamp)),
   sdParam "kind" (escapeSdValue event.kind.display),
   sdParam "severity" (toString event.severity.asSyslogSeverity.toNat),
   sdParam "service" (escapeSdValue event.serviceName)]
  ++ (event.source.ip.map fun ip => sdParam "src_ip" (escapeSdValue ip)).toList
  ++ (event.source.userAgent.map fun ua => sdParam "ua" (escapeSdValue ua)).toList
  ++ (event.source.subject.map fun s => sdParam "subject" (escapeSdValue s)).toList
  ++ (event.source.requestId.map fun id => sdParam "request_id" (escapeSdValue id)).toList
  ++ (event.method.map fun m => sdParam "method" (escapeSdValue m)).toList
  ++ (event.path.map fun p => sdParam "path" (escapeSdValue p)).toList
  ++ (event.statusCode.map fun code => sdParam "status" (toString code.toNat)).toList
  ++ (event.durationMs.map fun ms => sdParam "duration_ms" (toString ms.toNat)).toList
  ++ (event.metadata.map fun v =>
      sdParam "metadata" (escapeSdValue (canonicalJson S.numberText v))).toList
  ++ (event.previousHash.map fun h => sdParam "prev_hash" (escapeSdValue h)).toList
  ++ (event.hash.map fun h => sdParam "hash" (escapeSdValue h)).toList
  ++ [sdParam "seq" (toString event.sequence.toNat)]

/-- Where the structured data of an audit line starts. -/
def sdMarker : String := "[audit@49610 "

/-- The structured data of a line. -/
def structuredData (params : List String) : String :=
  if params.isEmpty then "-" else sdMarker ++ " ".intercalate params ++ "]"

/-- What stands before the structured data of a line, at the text `chrono` gives the time in.
The first number is the facility times eight plus the severity; the host is the service. -/
def SyslogSender.header (headerTime : DateTime → String) (sender : SyslogSender)
    (event : AuditEvent) : String :=
  "<" ++ toString (sender.facility.toNat * 8 + event.severity.asSyslogSeverity.toNat) ++ ">1 "
    ++ headerTime event.timestamp ++ " " ++ event.serviceName ++ " " ++ sender.appName ++ " - "
    ++ event.kind.display ++ " "

/-- `format_rfc5424` -/
def SyslogSender.formatRfc5424 (S : StoreExterns) (headerTime : DateTime → String)
    (sender : SyslogSender) (event : AuditEvent) : String :=
  sender.header headerTime event ++ structuredData (sdParams S event) ++ " "
    ++ (event.kind.display ++ " seq=" ++ toString event.sequence.toNat)

/-! ### Reading -/

/-- The parameters of a line, a `HashMap` in the source: under each key a value or none. -/
abbrev SdParams := String → Option String

/-- The characters up to the next `=`, and what stands behind it. -/
def takeKey : List Char → List Char × List Char
  | [] => ([], [])
  | c :: s => if c = '=' then ([], s) else (c :: (takeKey s).1, (takeKey s).2)

/-- The characters up to the closing quote, unescaped, and what stands behind it. -/
def takeValue : List Char → Except String (List Char × List Char)
  | [] => .error "unterminated param value"
  | c :: s =>
    if c = '"' then .ok ([], s)
    else if c = '\\' then
      match s with
      | [] => .error "dangling escape"
      | d :: s' => (takeValue s').map fun (value, rest) => (d :: value, rest)
    else (takeValue s).map fun (value, rest) => (c :: value, rest)

/-- One parameter, and what stands behind it, or the error of a line that is not well formed there.
-/
def takeParam (s : List Char) : Except String ((String × String) × List Char) :=
  match (takeKey s).2 with
  | '"' :: s' =>
    (takeValue s').map fun (value, rest) =>
      ((String.ofList (takeKey s).1, String.ofList value), rest)
  | _ => .error "param value must be quoted"

theorem length_takeKey (s : List Char) : (takeKey s).2.length ≤ s.length := by
  induction s with
  | nil => exact le_rfl
  | cons c s ih =>
    by_cases hc : c = '='
    · simp [takeKey, hc]
    · simp only [takeKey, if_neg hc, List.length_cons]
      omega

/-- What a mapped result comes from. -/
theorem exists_of_map_eq_ok {α β : Type} {f : α → β} {r : Except String α} {b : β}
    (h : r.map f = .ok b) : ∃ a, r = .ok a ∧ f a = b := by
  cases r with
  | error e => simp [Except.map] at h
  | ok a => exact ⟨a, rfl, Except.ok.inj h⟩

theorem length_takeValue {s value rest : List Char} (h : takeValue s = .ok (value, rest)) :
    rest.length < s.length := by
  fun_induction takeValue s generalizing value rest with
  | case1 => contradiction
  | case2 s =>
    cases h
    exact Nat.lt_succ_self _
  | case3 => contradiction
  | case4 d s' hquote ih =>
    obtain ⟨⟨v, r⟩, hv, heq⟩ := exists_of_map_eq_ok h
    have hlt := ih hv
    cases heq
    simp only [List.length_cons]
    omega
  | case5 c s hquote hslash ih =>
    obtain ⟨⟨v, r⟩, hv, heq⟩ := exists_of_map_eq_ok h
    have hlt := ih hv
    cases heq
    simp only [List.length_cons]
    omega

theorem length_takeParam {s rest : List Char} {kv : String × String}
    (h : takeParam s = .ok (kv, rest)) : rest.length < s.length := by
  have hkey := length_takeKey s
  rw [takeParam] at h
  split at h
  · next s' hs' =>
    obtain ⟨⟨v, r⟩, hv, heq⟩ := exists_of_map_eq_ok h
    have hlt := length_takeValue hv
    cases heq
    rw [hs', List.length_cons] at hkey
    omega
  · contradiction

/-- The loop of `parse_sd_params`. -/
def parseParams (s : List Char) (params : SdParams) : Except String SdParams :=
  match s with
  | [] => .error "unterminated structured data"
  | c :: s' =>
    if c = ']' then .ok params
    else if c = ' ' then parseParams s' params
    else
      match _h : takeParam (c :: s') with
      | .error e => .error e
      | .ok ((key, value), rest) => parseParams rest (Function.update params key (some value))
termination_by s.length
decreasing_by
  · exact Nat.lt_succ_self _
  · exact length_takeParam ‹_›

/-- `parse_sd_params` -/
def parseSdParams (message : String) : Except String SdParams :=
  match afterFirst sdMarker.toList message.toList with
  | none => .error "audit structured data present"
  | some s => parseParams s fun _ => none

/-- `severity_from_byte` -/
def severityFromByte (byte : ℕ) : AuditSeverity :=
  match byte with
  | 0 => .emergency
  | 1 => .alert
  | 2 => .critical
  | 3 => .error
  | 4 => .warning
  | 5 => .notice
  | 6 => .informational
  | _ => .debug

theorem severityFromByte_asSyslogSeverity (s : AuditSeverity) :
    severityFromByte s.asSyslogSeverity.toNat = s := by
  cases s <;> rfl

/-- `Option::expect` -/
def expect {α : Type} (message : String) : Option α → Except String α
  | some a => .ok a
  | none => .error message

/-- `event_from_sd` -/
def eventFromSd (S : StoreExterns) (params : SdParams) : Except String AuditEvent := do
  let id ← expect "event_id" (params "event_id")
  let id ← S.uuidParseStr id
  let ts ← expect "ts" (params "ts")
  let timestamp ← S.parseFromRfc3339 ts
  let kind ← expect "kind" (params "kind")
  let kind ← expect "kind is known" (AuditEventKind.fromWire kind)
  let severity ← expect "severity" (params "severity")
  let severity ← expect "severity parses" (parseUnsigned 256 severity.toList)
  let statusCode ← (params "status").mapM fun s =>
    expect "status parses" (parseUnsigned 65536 s.toList)
  let durationMs ← (params "duration_ms").mapM fun s =>
    expect "duration parses" (parseUnsigned 18446744073709551616 s.toList)
  let serviceName ← expect "service" (params "service")
  let metadata ← (params "metadata").mapM fun s => expect "metadata parses" (S.jsonFromStr s)
  let sequence ← expect "seq" (params "seq")
  let sequence ← expect "seq parses" (parseUnsigned 18446744073709551616 sequence.toList)
  return {
    id := id
    timestamp := timestamp
    kind := kind
    severity := severityFromByte severity
    source := {
      ip := params "src_ip"
      userAgent := params "ua"
      subject := params "subject"
      requestId := params "request_id" }
    method := params "method"
    path := params "path"
    statusCode := statusCode.map UInt16.ofNat
    durationMs := durationMs.map UInt64.ofNat
    serviceName := serviceName
    metadata := metadata
    hash := params "hash"
    previousHash := params "prev_hash"
    sequence := UInt64.ofNat sequence }

/-! ### One parameter -/

/-- What `escape_sd_value` makes of a character. -/
def escapeSdChar (c : Char) : List Char :=
  if c = '\\' ∨ c = '"' ∨ c = ']' then ['\\', c] else [c]

/-- The three replacements are one: none of them touches what an earlier one wrote. -/
theorem toList_escapeSdValue (s : String) :
    (escapeSdValue s).toList = s.toList.flatMap escapeSdChar := by
  rw [escapeSdValue, String.toList_ofList, replaceChar, replaceChar, replaceChar,
    List.flatMap_assoc, List.flatMap_assoc]
  congr 1
  funext c
  by_cases hslash : c = '\\'
  · subst hslash
    decide
  · by_cases hquote : c = '"'
    · subst hquote
      decide
    · by_cases hbracket : c = ']'
      · subst hbracket
        decide
      · simp [escapeSdChar, hslash, hquote, hbracket]

/-- A text with nothing to escape is its own escape. -/
theorem escapeSdValue_eq_self {s : String} (h : ∀ c ∈ s.toList, c ≠ '\\' ∧ c ≠ '"' ∧ c ≠ ']') :
    escapeSdValue s = s := by
  have hslash : '\\' ∉ s.toList := fun hc => (h _ hc).1 rfl
  have hquote : '"' ∉ s.toList := fun hc => (h _ hc).2.1 rfl
  have hbracket : ']' ∉ s.toList := fun hc => (h _ hc).2.2 rfl
  rw [escapeSdValue, replaceChar_of_notMem hslash, replaceChar_of_notMem hquote,
    replaceChar_of_notMem hbracket, String.ofList_toList]

/-- A numeral has nothing to escape, as it is made of digits. -/
theorem escapeSdValue_repr (n : ℕ) : escapeSdValue n.repr = n.repr := by
  apply escapeSdValue_eq_self
  intro c hc
  have hdigit := isDigit_of_mem_repr hc
  refine ⟨?_, ?_, ?_⟩ <;>
  · rintro rfl
    exact absurd hdigit (by decide)

theorem takeValue_quote (s : List Char) : takeValue ('"' :: s) = .ok ([], s) := by
  rw [takeValue.eq_def]
  simp

theorem takeValue_plain {c : Char} (hquote : c ≠ '"') (hslash : c ≠ '\\') (s : List Char) :
    takeValue (c :: s) = (takeValue s).map fun (value, rest) => (c :: value, rest) := by
  rw [takeValue.eq_def]
  simp [hquote, hslash]

/-- **Unescaping inverts escaping**: the reader stops at the closing quote and at no other. -/
theorem takeValue_escape (s rest : List Char) :
    takeValue (s.flatMap escapeSdChar ++ '"' :: rest) = .ok (s, rest) := by
  induction s with
  | nil => exact takeValue_quote rest
  | cons c s ih =>
    by_cases hc : c = '\\' ∨ c = '"' ∨ c = ']'
    · simp [escapeSdChar, hc, takeValue, ih, Except.map]
    · have hplain := hc
      rw [not_or, not_or] at hplain
      have hself : escapeSdChar c = [c] := if_neg hc
      rw [List.flatMap_cons, hself, List.singleton_append, List.cons_append,
        takeValue_plain hplain.2.1 hplain.1, ih]
      rfl

theorem takeKey_append {key : List Char} (h : '=' ∉ key) (rest : List Char) :
    takeKey (key ++ '=' :: rest) = (key, rest) := by
  induction key with
  | nil => rfl
  | cons c key ih =>
    rw [List.mem_cons, not_or] at h
    simp [takeKey, Ne.symm h.1, ih h.2]

theorem takeParam_sdParam {key : String} (hkey : '=' ∉ key.toList) (value : String)
    (rest : List Char) :
    takeParam ((sdParam key (escapeSdValue value)).toList ++ rest) = .ok ((key, value), rest) := by
  have hlist : (sdParam key (escapeSdValue value)).toList ++ rest
      = key.toList ++ '=' :: '"' :: (value.toList.flatMap escapeSdChar ++ '"' :: rest) := by
    simp [sdParam, String.toList_append, toList_escapeSdValue]
  rw [hlist, takeParam, takeKey_append hkey]
  simp [takeValue_escape, Except.map]

/-! ### All parameters -/

/-- A key the reader recognises the end of. -/
def KeyOk (key : String) : Prop :=
  '=' ∉ key.toList ∧ ∃ c s, key.toList = c :: s ∧ c ≠ ']' ∧ c ≠ ' '

/-- The parameters a reader has after the given ones. -/
def insertParams (params : SdParams) (kvs : List (String × String)) : SdParams :=
  kvs.foldl (fun params kv => Function.update params kv.1 (some kv.2)) params

/-- Writing a parameter: its name, and its value with the escapes of RFC 5424. -/
def renderParam (kv : String × String) : String := sdParam kv.1 (escapeSdValue kv.2)

theorem parseParams_renderParam {kv : String × String} (hkey : KeyOk kv.1) (params : SdParams)
    (rest : List Char) :
    parseParams ((renderParam kv).toList ++ rest) params
      = parseParams rest (Function.update params kv.1 (some kv.2)) := by
  obtain ⟨heq, c, s, hlist, hbracket, hblank⟩ := hkey
  have hparam := takeParam_sdParam heq kv.2 rest
  have hcons : (sdParam kv.1 (escapeSdValue kv.2)).toList ++ rest
      = c :: (s ++ '=' :: '"' :: (kv.2.toList.flatMap escapeSdChar ++ '"' :: rest)) := by
    simp [sdParam, String.toList_append, toList_escapeSdValue, hlist]
  rw [renderParam, hcons]
  rw [hcons] at hparam
  rw [parseParams]
  simp only [if_neg hbracket, if_neg hblank]
  split
  · next e he =>
    rw [hparam] at he
    contradiction
  · next key value rest' hok =>
    rw [hparam] at hok
    cases hok
    rfl

/-- What the parameters behind the first are written as. -/
theorem parseParams_rest {kvs : List (String × String)} (hkeys : ∀ kv ∈ kvs, KeyOk kv.1)
    (params : SdParams) (rest : List Char) :
    parseParams ((kvs.flatMap fun kv => ' ' :: (renderParam kv).toList) ++ ']' :: rest) params
      = .ok (insertParams params kvs) := by
  induction kvs generalizing params with
  | nil =>
    rw [List.flatMap_nil, List.nil_append, parseParams, if_pos rfl]
    rfl
  | cons kv kvs ih =>
    obtain ⟨hkv, hrest⟩ := List.forall_mem_cons.mp hkeys
    rw [List.flatMap_cons, List.cons_append, List.cons_append, parseParams, if_neg (by decide),
      if_pos rfl, List.append_assoc, parseParams_renderParam hkv, ih hrest]
    rfl

theorem intercalate_cons_eq {sep x : List Char} {xs : List (List Char)} :
    List.intercalate sep (x :: xs) = x ++ xs.flatMap (sep ++ ·) := by
  induction xs generalizing x with
  | nil => simp
  | cons y ys ih =>
    rw [List.intercalate_cons_cons, ih]
    simp

/-- **The reader finds the parameters that were written.** -/
theorem parseParams_intercalate {kv : String × String} {kvs : List (String × String)}
    (hkeys : ∀ p ∈ kv :: kvs, KeyOk p.1) (params : SdParams) (rest : List Char) :
    parseParams ((" ".intercalate ((kv :: kvs).map renderParam)).toList ++ ']' :: rest) params
      = .ok (insertParams params (kv :: kvs)) := by
  obtain ⟨hkv, hrest⟩ := List.forall_mem_cons.mp hkeys
  have hlist : (" ".intercalate ((kv :: kvs).map renderParam)).toList ++ ']' :: rest
      = (renderParam kv).toList
        ++ ((kvs.flatMap fun p => ' ' :: (renderParam p).toList) ++ ']' :: rest) := by
    rw [String.toList_intercalate, List.map_cons, List.map_cons, intercalate_cons_eq]
    simp [List.flatMap_map]
  rw [hlist, parseParams_renderParam hkv, parseParams_rest hrest]
  rfl

/-! ### The parameters of an event -/

/-- The parameters an event may have, each with its value before it is escaped. -/
def sdFields (S : StoreExterns) (e : AuditEvent) : List (String × Option String) :=
  [("event_id", some (S.uuidToString e.id)),
   ("ts", some (S.toRfc3339 e.timestamp)),
   ("kind", some e.kind.display),
   ("severity", some e.severity.asSyslogSeverity.toNat.repr),
   ("service", some e.serviceName),
   ("src_ip", e.source.ip),
   ("ua", e.source.userAgent),
   ("subject", e.source.subject),
   ("request_id", e.source.requestId),
   ("method", e.method),
   ("path", e.path),
   ("status", e.statusCode.map fun code => code.toNat.repr),
   ("duration_ms", e.durationMs.map fun ms => ms.toNat.repr),
   ("metadata", e.metadata.map (canonicalJson S.numberText)),
   ("prev_hash", e.previousHash),
   ("hash", e.hash),
   ("seq", some e.sequence.toNat.repr)]

/-- The parameters of the fields that have a value, in their order. -/
def presentParams (fields : List (String × Option String)) : List (String × String) :=
  fields.flatMap fun f => (f.2.map fun v => (f.1, v)).toList

theorem insertParams_presentParams_cons (params : SdParams) (f : String × Option String)
    (fields : List (String × Option String)) :
    insertParams params (presentParams (f :: fields))
      = insertParams (f.2.elim params fun v => Function.update params f.1 (some v))
          (presentParams fields) := by
  rcases f with ⟨key, _ | v⟩ <;> rfl

theorem insertParams_of_notMem {fields : List (String × Option String)} {key : String}
    (h : key ∉ fields.map Prod.fst) (params : SdParams) :
    insertParams params (presentParams fields) key = params key := by
  induction fields generalizing params with
  | nil => rfl
  | cons f fields ih =>
    rw [List.map_cons, List.mem_cons, not_or] at h
    rw [insertParams_presentParams_cons, ih h.2]
    cases f.2 with
    | none => rfl
    | some v => exact Function.update_of_ne h.1 _ _

/-- A field is found under its key: with its value, or not at all. -/
theorem insertParams_of_mem {fields : List (String × Option String)} {key : String}
    {value : Option String} (hnodup : (fields.map Prod.fst).Nodup) (hmem : (key, value) ∈ fields)
    {params : SdParams} (hparams : params key = none) :
    insertParams params (presentParams fields) key = value := by
  induction fields generalizing params with
  | nil => cases hmem
  | cons f fields ih =>
    rw [List.map_cons, List.nodup_cons] at hnodup
    rw [insertParams_presentParams_cons]
    rcases List.mem_cons.mp hmem with rfl | hmem
    · rw [insertParams_of_notMem hnodup.1]
      cases value with
      | none => exact hparams
      | some v => exact Function.update_self _ _ _
    · apply ih hnodup.2 hmem
      have hne : key ≠ f.1 := by
        rintro rfl
        exact hnodup.1 (List.mem_map.mpr ⟨_, hmem, rfl⟩)
      cases f.2 with
      | none => exact hparams
      | some v =>
        rw [Option.elim_some, Function.update_of_ne hne]
        exact hparams

/-- The keys of the parameters are all different, so that each field is read from its own. -/
theorem nodup_sdFields (S : StoreExterns) (e : AuditEvent) :
    ((sdFields S e).map Prod.fst).Nodup := by
  show List.Nodup ["event_id", "ts", "kind", "severity", "service", "src_ip", "ua", "subject",
    "request_id", "method", "path", "status", "duration_ms", "metadata", "prev_hash", "hash", "seq"]
  decide

/-- The parameters of an event are its fields, escaped. -/
theorem sdParams_eq {S : StoreExterns} {e : AuditEvent}
    (hid : escapeSdValue (S.uuidToString e.id) = S.uuidToString e.id) :
    sdParams S e = (presentParams (sdFields S e)).map renderParam := by
  simp [sdParams, presentParams, sdFields, renderParam, escapeSdValue_repr, hid, Function.comp_def,
    List.map_append, Option.toList_map]

/-- The reader recognises the end of every key. -/
theorem keyOk_of_mem_sdFields {S : StoreExterns} {e : AuditEvent} {f : String × Option String}
    (hf : f ∈ sdFields S e) : KeyOk f.1 := by
  have hkeys : ∀ key ∈ (sdFields S e).map Prod.fst,
      '=' ∉ key.toList ∧ key.toList.head?.any (fun c => c ≠ ']' ∧ c ≠ ' ') = true := by
    show ∀ key ∈ ["event_id", "ts", "kind", "severity", "service", "src_ip", "ua", "subject",
      "request_id", "method", "path", "status", "duration_ms", "metadata", "prev_hash", "hash",
      "seq"], _
    decide
  obtain ⟨heq, hhead⟩ := hkeys f.1 (List.mem_map_of_mem hf)
  refine ⟨heq, ?_⟩
  cases hlist : f.1.toList with
  | nil => simp [hlist] at hhead
  | cons c s => exact ⟨c, s, rfl, by simpa [hlist] using hhead⟩

/-- What the reader makes of the line of an event. -/
def readParams (S : StoreExterns) (e : AuditEvent) : SdParams :=
  insertParams (fun _ => none) (presentParams (sdFields S e))

theorem readParams_of_mem {S : StoreExterns} {e : AuditEvent} {key : String}
    {value : Option String} (h : (key, value) ∈ sdFields S e) : readParams S e key = value :=
  insertParams_of_mem (nodup_sdFields S e) h rfl

/-- The header of a line holds no bracket. -/
structure HeaderPlain (headerTime : DateTime → String) (sender : SyslogSender) (e : AuditEvent) :
    Prop where
  time : '[' ∉ (headerTime e.timestamp).toList
  service : '[' ∉ e.serviceName.toList
  app : '[' ∉ sender.appName.toList
  kind : '[' ∉ e.kind.display.toList

theorem notMem_append {c : Char} {s t : String} (hs : c ∉ s.toList) (ht : c ∉ t.toList) :
    c ∉ (s ++ t).toList := by
  rw [String.toList_append, List.mem_append, not_or]
  exact ⟨hs, ht⟩

theorem HeaderPlain.notMem_header {headerTime : DateTime → String} {sender : SyslogSender}
    {e : AuditEvent} (h : HeaderPlain headerTime sender e) :
    '[' ∉ (sender.header headerTime e).toList := by
  have hpri := notMem_repr (c := '[') (by decide)
    (sender.facility.toNat * 8 + e.severity.asSyslogSeverity.toNat)
  have hstart := notMem_append (notMem_append (s := "<") (by decide) hpri) (t := ">1 ") (by decide)
  have htime := notMem_append (notMem_append hstart h.time) (t := " ") (by decide)
  have hservice := notMem_append (notMem_append htime h.service) (t := " ") (by decide)
  have happ := notMem_append (notMem_append hservice h.app) (t := " - ") (by decide)
  exact notMem_append (notMem_append happ h.kind) (t := " ") (by decide)

/-- **A line is read as the parameters it was written with.** -/
theorem parseSdParams_formatRfc5424 {S : StoreExterns} {headerTime : DateTime → String}
    {sender : SyslogSender} {e : AuditEvent} (hheader : HeaderPlain headerTime sender e)
    (hid : escapeSdValue (S.uuidToString e.id) = S.uuidToString e.id) :
    parseSdParams (sender.formatRfc5424 S headerTime e) = .ok (readParams S e) := by
  have hkeys : ∀ kv ∈ presentParams (sdFields S e), KeyOk kv.1 := by
    intro kv hkv
    obtain ⟨f, hf, hkv⟩ := List.mem_flatMap.mp hkv
    rw [Option.mem_toList, Option.map_eq_some_iff] at hkv
    obtain ⟨v, -, rfl⟩ := hkv
    exact keyOk_of_mem_sdFields hf
  have hdata : structuredData (sdParams S e) = sdMarker ++ " ".intercalate (sdParams S e) ++ "]" :=
    rfl
  -- the first bracket of the line is the one the structured data starts with
  have hline : (sender.formatRfc5424 S headerTime e).toList = (sender.header headerTime e).toList
      ++ (sdMarker.toList ++ ((" ".intercalate (sdParams S e)).toList
        ++ ']' :: (" " ++ (e.kind.display ++ " seq=" ++ toString e.sequence.toNat)).toList)) := by
    rw [SyslogSender.formatRfc5424, hdata]
    simp only [String.toList_append, List.append_assoc]
    rfl
  rw [parseSdParams, hline, show sdMarker.toList = '[' :: "audit@49610 ".toList from rfl,
    afterFirst_append hheader.notMem_header, sdParams_eq hid]
  exact parseParams_intercalate hkeys _ _

/-! ### The chain -/

/-- How a reader gets metadata back from the canonical text a line carries. -/
def exportedMetadata (S : StoreExterns) (v : Json) : Option Json :=
  S.jsonFromStr (canonicalJson S.numberText v)

/-- What is relied on of the third-party texts in a line: those of the identifier and the
time parse back, and an identifier is written without a character that would have to be
escaped. -/
structure AuditEvent.ExportTexts (S : StoreExterns) (e : AuditEvent) : Prop where
  id : S.uuidParseStr (S.uuidToString e.id) = .ok e.id
  id_plain : ∀ c ∈ (S.uuidToString e.id).toList, c ≠ '\\' ∧ c ≠ '"' ∧ c ≠ ']'
  timestamp : S.parseFromRfc3339 (S.toRfc3339 e.timestamp) = .ok e.timestamp

/-- The event of a line: its structured data is parsed, and the event is built from the parameters.
-/
def readLine (S : StoreExterns) (line : String) : Except String AuditEvent :=
  parseSdParams line >>= eventFromSd S

@[simp] theorem expect_some {α : Type} (message : String) (a : α) :
    expect message (some a) = .ok a := rfl

@[simp] theorem ok_bind {α β : Type} (a : α) (f : α → Except String β) :
    (Except.ok a >>= f) = f a := rfl

theorem mapM_expect_repr {n : Type} (toNat : n → ℕ) (bound : ℕ) (message : String)
    (h : ∀ a, toNat a < bound) (o : Option n) :
    ((o.map fun a => (toNat a).repr).mapM fun s =>
      expect message (parseUnsigned bound s.toList)) = .ok (o.map toNat) := by
  cases o with
  | none => rfl
  | some a =>
    simp only [Option.map_some, Option.mapM_some, parseUnsigned_repr (h a), expect]
    rfl

/-- The metadata are read where `serde_json` reads their canonical text, and fail the line
elsewhere. -/
theorem mapM_expect_metadata (S : StoreExterns) (metadata : Option Json) :
    ((metadata.map (canonicalJson S.numberText)).mapM fun s =>
      expect "metadata parses" (S.jsonFromStr s))
      = metadata.mapM fun v => expect "metadata parses" (exportedMetadata S v) := by
  cases metadata <;> rfl

/-- **A line is read as its event**, but for the metadata, which are those of their text. -/
theorem eventFromSd_readParams {S : StoreExterns} {e : AuditEvent} (h : e.ExportTexts S) :
    eventFromSd S (readParams S e)
      = (e.metadata.mapM fun v => expect "metadata parses" (exportedMetadata S v)).map
          fun metadata => { e with metadata := metadata } := by
  have hfields : ∀ f ∈ sdFields S e, readParams S e f.1 = f.2 := fun f hf => readParams_of_mem hf
  simp only [sdFields, List.forall_mem_cons] at hfields
  rcases hfields with ⟨hid, hts, hkind, hsev, hservice, hip, hua, hsubject, hrequest, hmethod,
    hpath, hstatus, hduration, hmetadata, hprev, hhash, hseq, -⟩
  have hsevText : parseUnsigned 256 e.severity.asSyslogSeverity.toNat.repr.toList
      = some e.severity.asSyslogSeverity.toNat :=
    parseUnsigned_repr e.severity.asSyslogSeverity.toNat_lt
  have hseqText : parseUnsigned 18446744073709551616 e.sequence.toNat.repr.toList
      = some e.sequence.toNat := parseUnsigned_repr e.sequence.toNat_lt
  have hstatusText := mapM_expect_repr UInt16.toNat 65536 "status parses" UInt16.toNat_lt
    e.statusCode
  have hdurationText := mapM_expect_repr UInt64.toNat 18446744073709551616 "duration parses"
    UInt64.toNat_lt e.durationMs
  have hmetadataText := mapM_expect_metadata S e.metadata
  simp only [eventFromSd, hid, hts, hkind, hsev, hservice, hip, hua, hsubject, hrequest, hmethod,
    hpath, hstatus, hduration, hmetadata, hprev, hhash, hseq, expect_some, ok_bind,
    fromWire_display, h.id, h.timestamp, hsevText, hseqText, hstatusText, hdurationText,
    hmetadataText]
  -- what is left to read are the metadata
  cases (e.metadata.mapM fun v => expect "metadata parses" (exportedMetadata S v)) with
  | error message => rfl
  | ok metadata =>
    simp [severityFromByte_asSyslogSeverity, pure, Except.pure, Except.map, Function.comp_def]

/-- A line can be read exactly when the text of its metadata can. -/
theorem eventFromSd_readParams_eq_ok_iff {S : StoreExterns} {e e' : AuditEvent}
    (h : e.ExportTexts S) :
    eventFromSd S (readParams S e) = .ok e'
      ↔ (∀ v ∈ e.metadata, exportedMetadata S v ≠ none) ∧
        e.throughColumns e.timestamp (exportedMetadata S) = e' := by
  rw [eventFromSd_readParams h, AuditEvent.throughColumns]
  cases e.metadata with
  | none => simp [Except.map, pure, Except.pure]
  | some v => cases hv : exportedMetadata S v <;> simp [hv, expect, Except.map]

/-- **When the line of an event is read, and as what.** -/
theorem readLine_formatRfc5424 {S : StoreExterns} {headerTime : DateTime → String}
    {sender : SyslogSender} {e e' : AuditEvent} (hheader : HeaderPlain headerTime sender e)
    (h : e.ExportTexts S) :
    readLine S (sender.formatRfc5424 S headerTime e) = .ok e'
      ↔ (∀ v ∈ e.metadata, exportedMetadata S v ≠ none) ∧
        e.throughColumns e.timestamp (exportedMetadata S) = e' := by
  rw [readLine, parseSdParams_formatRfc5424 hheader (escapeSdValue_eq_self h.id_plain)]
  exact eventFromSd_readParams_eq_ok_iff h

theorem exportTexts_content (S : StoreExterns) (e : AuditEvent) :
    e.content.ExportTexts S ↔ e.ExportTexts S :=
  ⟨fun h => ⟨h.id, h.id_plain, h.timestamp⟩, fun h => ⟨h.id, h.id_plain, h.timestamp⟩⟩

theorem metadataSurvive_content (T : Texts) (read : Json → Option Json) (e : AuditEvent) :
    MetadataSurvive T read e.content ↔ MetadataSurvive T read e :=
  Iff.rfl

/-- Metadata that survive are read: the reader refuses none of them. -/
theorem MetadataSurvive.ne_none {T : Texts} {read : Json → Option Json} {e : AuditEvent}
    (h : MetadataSurvive T read e) : ∀ v ∈ e.metadata, read v ≠ none := by
  intro v hv hnone
  have hsome := h v hv
  rw [hnone] at hsome
  contradiction

/-- The events hashed when a chain is sealed and when its lines are verified. -/
def rebuiltEvents (S : StoreExterns) (sealed : List AuditEvent) : Set AuditEvent :=
  {x | x ∈ sealed ∨ ∃ e ∈ sealed, x = e.throughColumns e.timestamp (exportedMetadata S)}

/-- An event rebuilt from its line still has the right hash exactly when its metadata keep
their canonical text. -/
theorem hashValid_rebuilt_iff {S : StoreExterns} {sealed : List AuditEvent}
    (hcf : CollisionFree S.blake3 {x | ∃ e ∈ rebuiltEvents S sealed, x = hashInputV2 S.toTexts e})
    (hmem : ∀ e ∈ rebuiltEvents S sealed, e.InMemory S.toTexts) {e : AuditEvent} (he : e ∈ sealed)
    (hhashed : HashedV2 S.toHashExterns e) :
    HashValid S.toHashExterns (e.throughColumns e.timestamp (exportedMetadata S))
      ↔ MetadataSurvive S.toTexts (exportedMetadata S) e := by
  have hsealed : e ∈ rebuiltEvents S sealed := .inl he
  have hrebuilt : e.throughColumns e.timestamp (exportedMetadata S) ∈ rebuiltEvents S sealed :=
    .inr ⟨e, he, rfl⟩
  have hhash : (e.throughColumns e.timestamp (exportedMetadata S)).hash = e.hash := rfl
  rw [hashValid_iff_hashFields_eq hcf hhashed hhash ⟨e, hsealed, rfl⟩ ⟨_, hrebuilt, rfl⟩
    (hmem e hsealed) (hmem _ hrebuilt), hashFields_throughColumns_iff]
  exact and_iff_right rfl

/-- What a verifier makes of the lines of a chain: they can all be read, and the events read
from them verify. -/
def VerifiesExported (S : StoreExterns) (headerTime : DateTime → String) (sender : SyslogSender)
    (sealed : List AuditEvent) : Prop :=
  ∃ rebuilt, (sealed.map (sender.formatRfc5424 S headerTime)).mapM (readLine S) = .ok rebuilt ∧
    verifyChain S.toHashExterns rebuilt = .ok ()

/-- **When the syslog export is verifiable.**  The lines of a sealed chain, whatever restarts it
saw and whatever its events hold, can all be read, and the events read from them verify,
exactly when the canonical text of every event's metadata is read back as metadata of the
same canonical text. -/
theorem verifyChain_exported_iff (S : StoreExterns) (headerTime : DateTime → String)
    (sender : SyslogSender) (serviceName : String) (lifetimes : List (List AuditEvent))
    (htime : ∀ t, '[' ∉ (headerTime t).toList)
    (htexts : ∀ e ∈ lifetimes.flatten, e.ExportTexts S)
    (hservice : '[' ∉ serviceName.toList) (happ : '[' ∉ sender.appName.toList)
    (hkind : ∀ e ∈ lifetimes.flatten, '[' ∉ e.kind.display.toList)
    (hcf : CollisionFree S.blake3 {x | ∃ e ∈ rebuiltEvents S
      (sealLifetimes S.toHashExterns serviceName [] lifetimes), x = hashInputV2 S.toTexts e})
    (hmem : ∀ e ∈ rebuiltEvents S (sealLifetimes S.toHashExterns serviceName [] lifetimes),
      e.InMemory S.toTexts) :
    VerifiesExported S headerTime sender (sealLifetimes S.toHashExterns serviceName [] lifetimes)
      ↔ ∀ e ∈ lifetimes.flatten, MetadataSurvive S.toTexts (exportedMetadata S) e := by
  have hempty : verifyChain S.toHashExterns [] = .ok () := rfl
  have hspec := sealLifetimes_spec S.toHashExterns serviceName lifetimes hempty
  set sealed := sealLifetimes S.toHashExterns serviceName [] lifetimes with hsealed
  have htexts' := (forall_content_iff _ (exportTexts_content S) hspec.content).mpr htexts
  have hkind' := (forall_content_iff (fun e => '[' ∉ e.kind.display.toList) (fun _ => Iff.rfl)
    hspec.content).mpr hkind
  let rebuild (e : AuditEvent) := e.throughColumns e.timestamp (exportedMetadata S)
  have hread : ∀ e ∈ sealed, ∀ e', readLine S (sender.formatRfc5424 S headerTime e) = .ok e'
      ↔ (∀ v ∈ e.metadata, exportedMetadata S v ≠ none) ∧ rebuild e = e' := by
    intro e he e'
    refine readLine_formatRfc5424 ⟨htime _, ?_, happ, hkind' e he⟩ (htexts' e he)
    rwa [serviceName_of_mem_sealLifetimes he]
  -- hashes and links are read back as they were written
  have hchained : Chained none (sealed.map rebuild) := by
    have hlinks : List.Forall₂ (fun a b : AuditEvent =>
        b.previousHash = a.previousHash ∧ b.hash = a.hash) sealed (sealed.map rebuild) := by
      rw [List.forall₂_map_right_iff, List.forall₂_same]
      exact fun e _ => ⟨rfl, rfl⟩
    exact (linked_iff_of_forall₂ hlinks none).mpr hspec.chained
  rw [← forall_content_iff _ (metadataSurvive_content _ _) hspec.content]
  constructor
  · rintro ⟨rebuilt, hrebuilt, hok⟩ e he
    obtain ⟨e', he', hline⟩ := exists_of_mapM_eq_ok hrebuilt _ (List.mem_map_of_mem he)
    obtain ⟨-, rfl⟩ := (hread e he e').mp hline
    have hvalid := ((verifyChain_eq_ok_iff _ _).mp hok).2 _ he'
    exact (hashValid_rebuilt_iff hcf hmem he (hspec.hashed e he)).mp hvalid
  · intro hsurvive
    refine ⟨sealed.map rebuild, ?_, (verifyChain_eq_ok_iff _ _).mpr ⟨hchained, ?_⟩⟩
    · rw [mapM_eq_ok_iff, List.forall₂_map_left_iff, List.forall₂_map_right_iff,
        List.forall₂_same]
      exact fun e he => (hread e he _).mpr ⟨(hsurvive e he).ne_none, rfl⟩
    · intro e' he'
      obtain ⟨e, he, rfl⟩ := List.mem_map.mp he'
      exact (hashValid_rebuilt_iff hcf hmem he (hspec.hashed e he)).mpr (hsurvive e he)

/-- The identifier and the time of the samples are read back from their texts. -/
theorem exportTexts_sampleLogin (metadata : Json) :
    (sampleLogin (sampleTime 0) metadata).ExportTexts sampleStore where
  id := by
    show sampleStore.uuidParseStr (sampleStore.uuidToString sampleUuid) = .ok sampleUuid
    decide
  id_plain := by
    have hid : sampleStore.uuidToString sampleUuid = "67e55044-10b1-426f-9247-bb680e5fe0c8" := by
      decide
    show ∀ c ∈ (sampleStore.uuidToString sampleUuid).toList, _
    rw [hid]
    simp
  timestamp := by
    show sampleStore.parseFromRfc3339 (sampleStore.toRfc3339 (sampleTime 0)) = .ok (sampleTime 0)
    decide

/-- The third-party functions at the sample metadata: their canonical text parses to an
object with its keys in the order of that text. -/
def exportStore : StoreExterns :=
  { sampleStore with
    jsonFromStr := fun text =>
      if text = canonicalJson sampleTexts.numberText sampleMetadata then
        some (.object [("action", .string "read"), ("roles", .array [.string "auditor"])])
      else none }

theorem verifyChain_exported_iff_sample :
    VerifiesExported exportStore (fun _ => "2025-06-15T10:30:00.000000Z") ⟨13, "billing-api"⟩
      (sealLifetimes sampleExterns "billing" []
        [[sampleLogin (sampleTime 0) sampleMetadata]]) := by
  have hsealed : sealLifetimes sampleExterns "billing" []
      [[sampleLogin (sampleTime 0) sampleMetadata]] = [sampleFirst] := by
    simp [sealLifetimes, sealAll, startChain, seal_sampleLogin]
  -- the keys come back in another order, and the input of the hash is the same
  have hevents : ∀ e ∈ rebuiltEvents exportStore [sampleFirst],
      hashInputV2 sampleTexts e = hashInputV2 sampleTexts sampleFirst ∧
        e.InMemory sampleTexts := by
    rintro e (he | ⟨d, hd, rfl⟩)
    · obtain rfl := List.mem_singleton.mp he
      exact ⟨rfl, by decide +kernel⟩
    · obtain rfl := List.mem_singleton.mp hd
      exact ⟨by decide +kernel, by decide +kernel⟩
  refine (verifyChain_exported_iff exportStore (fun _ => "2025-06-15T10:30:00.000000Z")
    ⟨13, "billing-api"⟩ "billing" [[sampleLogin (sampleTime 0) sampleMetadata]]
    (fun _ => by decide) (fun e he => ?_) (by decide)
    (by decide) (by decide) ?_ ?_).mpr ?_
  · obtain rfl : e = sampleLogin (sampleTime 0) sampleMetadata := by simpa using he
    have htexts := exportTexts_sampleLogin sampleMetadata
    exact ⟨htexts.id, htexts.id_plain, htexts.timestamp⟩
  · rintro _ ⟨d, hd, rfl⟩ _ ⟨e, he, rfl⟩ _
    rw [show sealLifetimes exportStore.toHashExterns "billing" []
      [[sampleLogin (sampleTime 0) sampleMetadata]] = [sampleFirst] from hsealed] at hd he
    exact (hevents d hd).1.trans (hevents e he).1.symm
  · intro e he
    rw [show sealLifetimes exportStore.toHashExterns "billing" []
      [[sampleLogin (sampleTime 0) sampleMetadata]] = [sampleFirst] from hsealed] at he
    exact (hevents e he).2
  · intro e he
    obtain rfl : e = sampleLogin (sampleTime 0) sampleMetadata := by simpa using he
    intro v hv
    rw [show v = sampleMetadata from (Option.some.inj hv).symm]
    decide

/-- The text of a latency and of the number `serde_json` reads it as: without its
`float_roundtrip` feature the digits are scaled in one division, which may round to the double
next to the one that was written. -/
def latencyText : Number → List Char
  | .float 0x405B800000000001 _ => "110.00000000000001".toList
  | .float 0x405B800000000000 _ => "110.0".toList
  | n => sampleTexts.numberText n

/-- Metadata with a latency. -/
def latencyMetadata (bits : UInt64) (finite : bits.toNat / 2 ^ 52 % 2 ^ 11 ≠ 2047) : Json :=
  .object [("latency_ms", .number (.float bits finite))]

/-- A login with a latency on a new chain, but for its hash. -/
def latencyStamped (metadata : Json) : AuditEvent :=
  { sampleLogin (sampleTime 0) metadata with sequence := 1 }

/-- The latency that is written, and the one that is read. -/
def latencyWritten : Json := latencyMetadata 0x405B800000000001 (by decide)

def latencyRead : Json := latencyMetadata 0x405B800000000000 (by decide)

/-- The inputs hashed when the login is sealed and when it is verified. -/
def latencyDigests : List (List UInt8 × Digest) :=
  [(hashInputV2 ⟨sampleTexts.toRfc3339, latencyText⟩ (latencyStamped latencyWritten),
    digestOfHex "7bf1f92c62d6b8ec5bda71ca4bcecc0607646f4dc7198d79a738b718de3f957f"),
   (hashInputV2 ⟨sampleTexts.toRfc3339, latencyText⟩ (latencyStamped latencyRead),
    digestOfHex "112d8461e441c1bbaeb8a0a9282b5744aeb5fa97cddef84323b8fc87e68d92ba")]

/-- The third-party functions at the latency. -/
def latencyStore : StoreExterns :=
  { sampleStore with
    numberText := latencyText
    blake3 := fun input => (latencyDigests.lookup input).getD (digestOfHex "")
    jsonFromStr := fun text =>
      if text = "\x7b\"latency_ms\":110.00000000000001\x7d" then some latencyRead else none }

/-- The login as it is sealed. -/
def latencySealed : AuditEvent :=
  { latencyStamped latencyWritten with
    hash := some "v2:7bf1f92c62d6b8ec5bda71ca4bcecc0607646f4dc7198d79a738b718de3f957f" }

theorem hashedV2_latencySealed : HashedV2 latencyStore.toHashExterns latencySealed := by
  decide +kernel

theorem seal_latency :
    AuditChain.seal latencyStore.toHashExterns (AuditChain.new "billing")
        (sampleLogin (sampleTime 0) latencyWritten)
      = (latencySealed, ⟨latencySealed.hash, 1, "billing"⟩) := by
  have hhash : computeHashV2 latencyStore.toHashExterns (latencyStamped latencyWritten)
      = "v2:7bf1f92c62d6b8ec5bda71ca4bcecc0607646f4dc7198d79a738b718de3f957f" :=
    (Option.some.inj hashedV2_latencySealed).symm
  show (({ latencyStamped latencyWritten with
      hash := some (computeHashV2 latencyStore.toHashExterns
        (latencyStamped latencyWritten)) } : AuditEvent), AuditChain.mk
      (some (computeHashV2 latencyStore.toHashExterns (latencyStamped latencyWritten)))
      1 "billing") = _
  rw [hhash]
  rfl

/-- The chain is broken in the hash of its only event. -/
theorem not_hashValid_latency :
    ¬ HashValid latencyStore.toHashExterns
      (latencySealed.throughColumns latencySealed.timestamp (exportedMetadata latencyStore)) := by
  decide +kernel

/-- A login whose metadata hold a latency of 110.00000000000001 is sealed and exported.  The
number is read as 110.0, and the unaltered export does not verify. -/
theorem not_verifiesExported_latency :
    ¬ VerifiesExported latencyStore (fun _ => "2025-06-15T10:30:00.000000Z")
      ⟨13, "billing-api"⟩ (sealLifetimes latencyStore.toHashExterns "billing" []
        [[sampleLogin (sampleTime 0) latencyWritten]]) := by
  have hsealed : sealLifetimes latencyStore.toHashExterns "billing" []
      [[sampleLogin (sampleTime 0) latencyWritten]] = [latencySealed] := by
    simp [sealLifetimes, sealAll, startChain, seal_latency]
  rw [hsealed]
  rintro ⟨rebuilt, hrebuilt, hok⟩
  obtain ⟨e', he', hline⟩ :=
    exists_of_mapM_eq_ok hrebuilt _ (List.mem_map_of_mem (List.mem_singleton_self latencySealed))
  have htexts : latencySealed.ExportTexts latencyStore := by
    have hlogin := exportTexts_sampleLogin latencyWritten
    exact ⟨hlogin.id, hlogin.id_plain, hlogin.timestamp⟩
  have hheader : HeaderPlain (fun _ => "2025-06-15T10:30:00.000000Z") ⟨13, "billing-api"⟩
      latencySealed := by
    refine ⟨by decide, ?_, by decide, ?_⟩
    · show '[' ∉ "billing".toList
      decide
    · show '[' ∉ AuditEventKind.authLoginSuccess.display.toList
      decide
  obtain ⟨-, rfl⟩ := (readLine_formatRfc5424 hheader htexts).mp hline
  exact not_hashValid_latency (((verifyChain_eq_ok_iff _ _).mp hok).2 _ he')

end ActonService
