import ActonService.Json

/-!
# Audit events

The data of `audit/event.rs`: an event with its kind, severity and source, and
the wire texts of kinds and severities.  The kinds are those of a build with the
`login-lockout` and `accounts` features.

A timestamp is a `chrono::DateTime<Utc>`: seconds since the epoch within the
years `chrono` covers, and the nanoseconds of that second, which exceed a whole
second inside a leap second.

## Main definitions

* `DateTime`, `Uuid` — timestamps and identifiers.
* `AuditEventKind.display`, `AuditEventKind.fromWire`, `parseStoredKind` — the text of a
  kind and the two ways it is parsed.
* `AuditEvent` — the event.

## Main results

* `fromWire_display`, `parseStoredKind_display` — both parsers invert `display`.
* `parseStoredSeverity_asSyslogSeverity` — the same for severities.
-/

namespace ActonService

/-! ### Scalars -/

/-- A `chrono::DateTime<Utc>`. -/
structure DateTime where
  /-- Seconds since the Unix epoch. -/
  secs : ℤ
  /-- Nanoseconds since that second; from a whole second on they lie in a leap second. -/
  nanos : ℕ
  nanos_lt : nanos < 2000000000
  /-- The first second of the year -262143. -/
  secs_ge : -8334601228800 ≤ secs
  /-- The last second of the year 262142. -/
  secs_le : secs ≤ 8210266876799
  deriving DecidableEq, Repr

/-- The order of times, seconds first. -/
instance instLTDateTime : LT DateTime :=
  ⟨fun s t => s.secs < t.secs ∨ s.secs = t.secs ∧ s.nanos < t.nanos⟩

instance instLEDateTime : LE DateTime :=
  ⟨fun s t => s.secs < t.secs ∨ s.secs = t.secs ∧ s.nanos ≤ t.nanos⟩

theorem DateTime.lt_iff (s t : DateTime) :
    s < t ↔ s.secs < t.secs ∨ s.secs = t.secs ∧ s.nanos < t.nanos := Iff.rfl

instance decidableLtDateTime (s t : DateTime) : Decidable (s < t) :=
  inferInstanceAs (Decidable (_ ∨ _))

instance decidableLeDateTime (s t : DateTime) : Decidable (s ≤ t) :=
  inferInstanceAs (Decidable (_ ∨ _))

/-- A `uuid::Uuid`. -/
structure Uuid where
  bytes : List UInt8
  length_eq : bytes.length = 16
  deriving DecidableEq, Repr

/-- The bytes of a string, `str::as_bytes`. -/
def strBytes (s : String) : List UInt8 := s.toByteArray.data.toList

theorem strBytes_injective : Function.Injective strBytes := by
  intro s t h
  exact String.toByteArray_inj.mp (ByteArray.ext (Array.toList_inj.mp h))

/-- `str::starts_with`. -/
def startsWith (s start : String) : Bool := start.toList.isPrefixOf s.toList

/-- `str::strip_prefix`. -/
def stripPrefix (s start : String) : Option String :=
  if startsWith s start then some (String.ofList (s.toList.drop start.length)) else none

@[simp] theorem startsWith_append (start s : String) : startsWith (start ++ s) start = true := by
  simp [startsWith, String.toList_append]

@[simp] theorem stripPrefix_append (start s : String) :
    stripPrefix (start ++ s) start = some s := by
  have hdrop : (start.toList ++ s.toList).drop start.length = s.toList := by
    rw [← String.length_toList, List.drop_left]
  rw [stripPrefix, startsWith_append, if_pos rfl, String.toList_append, hdrop, String.ofList_toList]

/-! ### Kinds -/

/-- Categories of audit events. -/
inductive AuditEventKind
  | authLoginSuccess
  | authLoginFailed
  | authTokenMissing
  | authTokenInvalid
  | authLogout
  | authTokenRefresh
  | authTokenRevoked
  | authPasswordChanged
  | authApiKeyCreated
  | authApiKeyRevoked
  | authOAuthCallback
  | authPermissionDenied
  | authAccountLocked
  | authAccountUnlocked
  | accountCreated
  | accountDisabled
  | accountEnabled
  | accountLocked
  | accountUnlocked
  | accountExpired
  | accountDeleted
  | accountUpdated
  | authKeyRotated
  | authKeyRetired
  | authKeyRotationFailed
  | configLoaded
  | configDriftDetected
  | httpRequest
  | httpRequestDenied
  /-- An application-defined event. -/
  | custom (name : String)
  deriving DecidableEq, Repr

/-- The `Display` text of a kind. -/
def AuditEventKind.display : AuditEventKind → String
  | .authLoginSuccess => "auth.login.success"
  | .authLoginFailed => "auth.login.failed"
  | .authTokenMissing => "auth.token.missing"
  | .authTokenInvalid => "auth.token.invalid"
  | .authLogout => "auth.logout"
  | .authTokenRefresh => "auth.token.refresh"
  | .authTokenRevoked => "auth.token.revoked"
  | .authPasswordChanged => "auth.password.changed"
  | .authApiKeyCreated => "auth.apikey.created"
  | .authApiKeyRevoked => "auth.apikey.revoked"
  | .authOAuthCallback => "auth.oauth.callback"
  | .authPermissionDenied => "auth.permission.denied"
  | .authAccountLocked => "auth.account.locked"
  | .authAccountUnlocked => "auth.account.unlocked"
  | .accountCreated => "account.created"
  | .accountDisabled => "account.disabled"
  | .accountEnabled => "account.enabled"
  | .accountLocked => "account.locked"
  | .accountUnlocked => "account.unlocked"
  | .accountExpired => "account.expired"
  | .accountDeleted => "account.deleted"
  | .accountUpdated => "account.updated"
  | .authKeyRotated => "auth.key.rotated"
  | .authKeyRetired => "auth.key.retired"
  | .authKeyRotationFailed => "auth.key.rotation_failed"
  | .configLoaded => "config.loaded"
  | .configDriftDetected => "config.drift_detected"
  | .httpRequest => "http.request"
  | .httpRequestDenied => "http.request.denied"
  | .custom name => "custom." ++ name

/-- The name of the variant, as the derived `Debug` and `Serialize` write it. -/
def AuditEventKind.variantName : AuditEventKind → String
  | .authLoginSuccess => "AuthLoginSuccess"
  | .authLoginFailed => "AuthLoginFailed"
  | .authTokenMissing => "AuthTokenMissing"
  | .authTokenInvalid => "AuthTokenInvalid"
  | .authLogout => "AuthLogout"
  | .authTokenRefresh => "AuthTokenRefresh"
  | .authTokenRevoked => "AuthTokenRevoked"
  | .authPasswordChanged => "AuthPasswordChanged"
  | .authApiKeyCreated => "AuthApiKeyCreated"
  | .authApiKeyRevoked => "AuthApiKeyRevoked"
  | .authOAuthCallback => "AuthOAuthCallback"
  | .authPermissionDenied => "AuthPermissionDenied"
  | .authAccountLocked => "AuthAccountLocked"
  | .authAccountUnlocked => "AuthAccountUnlocked"
  | .accountCreated => "AccountCreated"
  | .accountDisabled => "AccountDisabled"
  | .accountEnabled => "AccountEnabled"
  | .accountLocked => "AccountLocked"
  | .accountUnlocked => "AccountUnlocked"
  | .accountExpired => "AccountExpired"
  | .accountDeleted => "AccountDeleted"
  | .accountUpdated => "AccountUpdated"
  | .authKeyRotated => "AuthKeyRotated"
  | .authKeyRetired => "AuthKeyRetired"
  | .authKeyRotationFailed => "AuthKeyRotationFailed"
  | .configLoaded => "ConfigLoaded"
  | .configDriftDetected => "ConfigDriftDetected"
  | .httpRequest => "HttpRequest"
  | .httpRequestDenied => "HttpRequestDenied"
  | .custom _ => "Custom"

/-- The kinds with a fixed text, as the parsers match them. -/
def kindTable : List (String × AuditEventKind) :=
  [("auth.login.success", .authLoginSuccess),
   ("auth.login.failed", .authLoginFailed),
   ("auth.token.missing", .authTokenMissing),
   ("auth.token.invalid", .authTokenInvalid),
   ("auth.logout", .authLogout),
   ("auth.token.refresh", .authTokenRefresh),
   ("auth.token.revoked", .authTokenRevoked),
   ("auth.password.changed", .authPasswordChanged),
   ("auth.apikey.created", .authApiKeyCreated),
   ("auth.apikey.revoked", .authApiKeyRevoked),
   ("auth.oauth.callback", .authOAuthCallback),
   ("auth.permission.denied", .authPermissionDenied),
   ("auth.key.rotated", .authKeyRotated),
   ("auth.key.retired", .authKeyRetired),
   ("auth.key.rotation_failed", .authKeyRotationFailed),
   ("auth.account.locked", .authAccountLocked),
   ("auth.account.unlocked", .authAccountUnlocked),
   ("account.created", .accountCreated),
   ("account.disabled", .accountDisabled),
   ("account.enabled", .accountEnabled),
   ("account.locked", .accountLocked),
   ("account.unlocked", .accountUnlocked),
   ("account.expired", .accountExpired),
   ("account.deleted", .accountDeleted),
   ("account.updated", .accountUpdated),
   ("config.loaded", .configLoaded),
   ("config.drift_detected", .configDriftDetected),
   ("http.request", .httpRequest),
   ("http.request.denied", .httpRequestDenied)]

/-- `AuditEventKind::from_wire`. -/
def AuditEventKind.fromWire (s : String) : Option AuditEventKind :=
  match stripPrefix s "custom." with
  | some name => some (.custom name)
  | none => kindTable.lookup s

/-- `parse_custom_kind`: the catch-all of the stored-kind tables. -/
def parseCustomKind (s : String) : String := (stripPrefix s "custom.").getD s

/-- The match every storage backend reads a stored kind with. -/
def parseStoredKind (s : String) : AuditEventKind :=
  match kindTable.lookup s with
  | some kind => kind
  | none => .custom (parseCustomKind s)

/-- No fixed text is the text of a custom kind. -/
theorem kindTable_lookup_custom (name : String) : kindTable.lookup ("custom." ++ name) = none := by
  have htable : ∀ e ∈ kindTable, startsWith e.1 "custom." = false := by decide
  rw [List.lookup_eq_none_iff]
  intro e he
  have hne : "custom." ++ name ≠ e.1 := by
    intro h
    have := htable e he
    rw [← h, startsWith_append] at this
    exact absurd this (by decide)
  simpa using hne

/-- **`from_wire` inverts `Display`**: the text of a kind is read as that kind, custom ones
included. -/
theorem fromWire_display (k : AuditEventKind) : AuditEventKind.fromWire k.display = some k := by
  cases k with
  | custom name => simp [AuditEventKind.fromWire, AuditEventKind.display]
  | _ => decide

/-- **The stored-kind match inverts `Display`.**  A custom name may be anything, the
name of a framework kind included: its text starts with `custom.`, and no other
kind's does. -/
theorem parseStoredKind_display (k : AuditEventKind) : parseStoredKind k.display = k := by
  cases k with
  | custom name =>
    rw [AuditEventKind.display, parseStoredKind, kindTable_lookup_custom]
    simp [parseCustomKind]
  | _ => decide

theorem display_injective : Function.Injective AuditEventKind.display := by
  intro k k' h
  rw [← parseStoredKind_display k, h, parseStoredKind_display]

/-! ### Severities -/

/-- Severities, mapped to syslog values. -/
inductive AuditSeverity
  | emergency
  | alert
  | critical
  | error
  | warning
  | notice
  | informational
  | debug
  deriving DecidableEq, Repr

/-- `as_syslog_severity`: the discriminant of the severity. -/
def AuditSeverity.asSyslogSeverity : AuditSeverity → UInt8
  | .emergency => 0
  | .alert => 1
  | .critical => 2
  | .error => 3
  | .warning => 4
  | .notice => 5
  | .informational => 6
  | .debug => 7

/-- The name of the variant, as the derived `Serialize` writes it. -/
def AuditSeverity.variantName : AuditSeverity → String
  | .emergency => "Emergency"
  | .alert => "Alert"
  | .critical => "Critical"
  | .error => "Error"
  | .warning => "Warning"
  | .notice => "Notice"
  | .informational => "Informational"
  | .debug => "Debug"

/-- The table every storage backend reads a stored severity with.  The backends
hold it in integers of different widths. -/
def parseStoredSeverity (value : ℤ) : AuditSeverity :=
  match value with
  | 0 => .emergency
  | 1 => .alert
  | 2 => .critical
  | 3 => .error
  | 4 => .warning
  | 5 => .notice
  | 7 => .debug
  | _ => .informational

theorem parseStoredSeverity_asSyslogSeverity (s : AuditSeverity) :
    parseStoredSeverity s.asSyslogSeverity.toNat = s := by
  cases s <;> decide

theorem asSyslogSeverity_injective : Function.Injective AuditSeverity.asSyslogSeverity := by
  intro s s' h
  rw [← parseStoredSeverity_asSyslogSeverity s, h, parseStoredSeverity_asSyslogSeverity]

/-! ### Events -/

/-- Where an event came from: address, user agent, subject and request, as far as they are known. -/
structure AuditSource where
  ip : Option String
  userAgent : Option String
  subject : Option String
  requestId : Option String
  deriving DecidableEq, Repr

/-- A single audit trail event. -/
structure AuditEvent where
  id : Uuid
  timestamp : DateTime
  kind : AuditEventKind
  severity : AuditSeverity
  source : AuditSource
  method : Option String
  path : Option String
  statusCode : Option UInt16
  durationMs : Option UInt64
  serviceName : String
  metadata : Option Json
  /-- The hash of this event, set by `AuditChain.seal`. -/
  hash : Option String
  /-- The hash of the previous event in the chain. -/
  previousHash : Option String
  sequence : UInt64
  deriving Repr

/-- `AuditEvent::new`, at the identifier and the time it draws. -/
def AuditEvent.new (id : Uuid) (now : DateTime) (kind : AuditEventKind) (severity : AuditSeverity)
    (serviceName : String) : AuditEvent where
  id := id
  timestamp := now
  kind := kind
  severity := severity
  source := ⟨none, none, none, none⟩
  method := none
  path := none
  statusCode := none
  durationMs := none
  serviceName := serviceName
  metadata := none
  hash := none
  previousHash := none
  sequence := 0

end ActonService
