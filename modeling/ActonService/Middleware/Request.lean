import ActonService.Audit.Event
import ActonService.Middleware.CallerAuth

/-!
# Requests with extensions, and where they came from

A request carries extensions that the listener and the layers insert.  Here are those that layers
of the framework read, the request context of `middleware/request_context.rs`, and the logger of
`audit/logger.rs` with the sources of the events it logs.

Addresses are a type `Ip`, with the texts `std::net::IpAddr` displays and parses.

## Main definitions

* `Request`, `Extensions` — requests.
* `Incoming`, `Incoming.request` — a request as it comes from a connection.
* `extractClientIp`, `RequestContext.resolve`, `auditSourceForRequest` — where it came from.
* `AuditLogger`, `authEvents` — the logger.
-/

namespace ActonService

open Layers

/-! ### Auditing -/

/-- `AuditConfig`, as far as requests are audited. -/
structure AuditConfig where
  enabled : Bool
  auditAllRequests : Bool
  auditAuthEvents : Bool
  auditedRoutes : List String
  excludedRoutes : List String
  deriving DecidableEq, Repr

/-- `AuditConfig::default` -/
def AuditConfig.standard : AuditConfig where
  enabled := true
  auditAllRequests := false
  auditAuthEvents := true
  auditedRoutes := []
  excludedRoutes := ["/health", "/ready", "/metrics"]

/-- `AuditLogger`, but for its handle. -/
structure AuditLogger where
  serviceName : String
  config : AuditConfig
  deriving DecidableEq, Repr

/-- `AuditRoute` -/
structure AuditRoute where
  name : String
  deriving DecidableEq, Repr

/-- The identifier and the time `AuditEvent::new` draws.  For one request an event of a kind is
made at most once. -/
abbrev Stamps := AuditEventKind → Uuid × DateTime

/-- The event of `log_auth`. -/
def logAuth (stamps : Stamps) (logger : AuditLogger) (kind : AuditEventKind)
    (severity : AuditSeverity) (source : AuditSource) : AuditEvent :=
  { AuditEvent.new (stamps kind).1 (stamps kind).2 kind severity logger.serviceName with
    source := source }

/-- The event of `log_auth`, if there is a logger and it logs such events. -/
def authEvents (stamps : Stamps) (logger : Option AuditLogger) (kind : AuditEventKind)
    (severity : AuditSeverity) (source : AuditSource) : List AuditEvent :=
  match logger with
  | some logger =>
    if logger.config.auditAuthEvents then [logAuth stamps logger kind severity source] else []
  | none => []

/-! ### Requests -/

/-- `SocketAddr` -/
structure SocketAddr (Ip : Type) where
  ip : Ip
  port : UInt16
  deriving DecidableEq, Repr

/-- `TlsConnectInfo`: the peer and the leaf of the chain it was verified with. -/
structure TlsConnectInfo (Ip : Type) where
  remoteAddr : SocketAddr Ip
  leaf : Option (List UInt8)
  deriving DecidableEq, Repr

/-- `RequestContext` -/
structure RequestContext (Ip : Type) where
  ip : Option Ip
  requestId : Option String
  userAgent : Option String
  deriving DecidableEq, Repr

/-- `CallerIdentity` -/
structure CallerIdentity where
  san : CallerSan
  waivesBearer : Bool

/-- The extensions of a request that layers of the framework read. -/
structure Extensions (Ip : Type) where
  connectInfo : Option (SocketAddr Ip)
  tlsConnectInfo : Option (TlsConnectInfo Ip)
  /-- `MatchedPath`, which the router inserts. -/
  matchedPath : Option String
  auditLogger : Option AuditLogger
  callerIdentity : Option CallerIdentity
  claims : Option Claims
  requestContext : Option (RequestContext Ip)
  auditRoute : Option AuditRoute

/-- A request, but for its body. -/
structure Request (Ip : Type) where
  method : Method
  path : String
  headers : HeaderMap
  extensions : Extensions Ip

namespace Request

variable {Ip : Type} (r : Request Ip)

/-- `extensions_mut().insert(logger)` -/
def withLogger (logger : AuditLogger) : Request Ip :=
  { r with extensions := { r.extensions with auditLogger := some logger } }

/-- `extensions_mut().insert(identity)` -/
def withIdentity (identity : CallerIdentity) : Request Ip :=
  { r with extensions := { r.extensions with callerIdentity := some identity } }

/-- `extensions_mut().insert(claims)` -/
def withClaims (claims : Claims) : Request Ip :=
  { r with extensions := { r.extensions with claims := some claims } }

/-- `extensions_mut().insert(context)` -/
def withContext (context : RequestContext Ip) : Request Ip :=
  { r with extensions := { r.extensions with requestContext := some context } }

/-- `extensions_mut().insert(route)` -/
def withRoute (route : AuditRoute) : Request Ip :=
  { r with extensions := { r.extensions with auditRoute := some route } }

end Request

/-- What the listener knows of a connection. -/
inductive Connection (Ip : Type)
  | plain (peer : SocketAddr Ip)
  /-- TLS, with the leaf of the chain the listener verified. -/
  | tls (peer : SocketAddr Ip) (leaf : Option (List UInt8))
  deriving DecidableEq, Repr

/-- The peer of a connection, whether it is a plain one or one over TLS. -/
def Connection.peer {Ip : Type} : Connection Ip → SocketAddr Ip
  | .plain peer => peer
  | .tls peer _ => peer

/-- The leaf of the verified chain. -/
def Connection.leaf {Ip : Type} : Connection Ip → Option (List UInt8)
  | .plain _ => none
  | .tls _ leaf => leaf

/-- A request as it comes from a connection and from the router. -/
structure Incoming (Ip : Type) where
  method : Method
  path : String
  headers : HeaderMap
  connection : Connection Ip
  matchedPath : Option String

/-- The extensions a request comes with. -/
def Incoming.extensions {Ip : Type} (r : Incoming Ip) : Extensions Ip where
  connectInfo :=
    match r.connection with
    | .plain peer => some peer
    | .tls _ _ => none
  tlsConnectInfo :=
    match r.connection with
    | .plain _ => none
    | .tls peer leaf => some ⟨peer, leaf⟩
  matchedPath := r.matchedPath
  auditLogger := none
  callerIdentity := none
  claims := none
  requestContext := none
  auditRoute := none

/-- The request the outermost layer gets. -/
def Incoming.request {Ip : Type} (r : Incoming Ip) : Request Ip :=
  ⟨r.method, r.path, r.headers, r.extensions⟩

/-- `leaf_certificate` -/
def Extensions.leafCertificate {Ip : Type} (e : Extensions Ip) : Option (List UInt8) :=
  e.tlsConnectInfo.bind TlsConnectInfo.leaf

@[simp] theorem Incoming.leafCertificate_extensions {Ip : Type} (r : Incoming Ip) :
    r.extensions.leafCertificate = r.connection.leaf := by
  rw [Extensions.leafCertificate, Incoming.extensions]
  cases r.connection <;> rfl

/-- `bearer_waived` -/
def Extensions.bearerWaived {Ip : Type} (e : Extensions Ip) : Bool :=
  e.callerIdentity.any CallerIdentity.waivesBearer

/-- The layers of a service. -/
abbrev HttpLayer (Ip : Type) := Layer (Request Ip) Response AuditEvent

abbrev HttpService (Ip : Type) := Service (Request Ip) Response AuditEvent

abbrev HttpFilter (Ip : Type) := Filter (Request Ip) Response

/-- The error a layer answers with. -/
def refuse {Ip : Type} (trace : List AuditEvent) (e : ServiceError) :
    Handling (Request Ip) Response AuditEvent :=
  .answer trace (.returned e.intoResponse)

/-- A request passed on, with nothing to do when it comes back. -/
def forwardRequest {Ip : Type} (trace : List AuditEvent) (r : Request Ip) :
    Handling (Request Ip) Response AuditEvent :=
  .pass trace r unchanged

section Handled

variable {Ip : Type} {p : AuditEvent → Bool} {trace : List AuditEvent}

theorem silent_refuse (h : trace.filter p = []) (e : ServiceError) :
    (refuse trace e : Handling (Request Ip) Response AuditEvent).Silent p := h

theorem silent_forwardRequest (h : trace.filter p = []) (r : Request Ip) :
    (forwardRequest trace r).Silent p := ⟨h, fun _ => rfl⟩

theorem keepsPanic_refuse (e : ServiceError) :
    (refuse trace e : Handling (Request Ip) Response AuditEvent).KeepsPanic := by
  show Outcome.returned e.intoResponse ≠ .panicked
  simp

theorem keepsPanic_forwardRequest (r : Request Ip) : (forwardRequest trace r).KeepsPanic :=
  fun _ => Iff.rfl

/-- Whether an event is of one of these kinds. -/
def ofKind (P : AuditEventKind → Bool) (event : AuditEvent) : Bool := P event.kind

theorem filter_authEvents {P : AuditEventKind → Bool} {kind : AuditEventKind}
    (h : P kind = false) (stamps : Stamps) (logger : Option AuditLogger) (severity : AuditSeverity)
    (source : AuditSource) :
    (authEvents stamps logger kind severity source).filter (ofKind P) = [] := by
  cases logger with
  | none => rfl
  | some logger =>
    simp only [authEvents]
    split
    · exact List.filter_eq_nil_iff.mpr (by simp [ofKind, logAuth, AuditEvent.new, h])
    · rfl

/-- A logger that is configured to log no events of authentication logs none. -/
theorem authEvents_eq_nil {logger : Option AuditLogger}
    (h : ∀ lg ∈ logger, lg.config.auditAuthEvents = false) (stamps : Stamps) (kind : AuditEventKind)
    (severity : AuditSeverity) (source : AuditSource) :
    authEvents stamps logger kind severity source = [] := by
  cases logger with
  | none => rfl
  | some logger => simp [authEvents, h logger rfl]

end Handled

/-- `axum::Extension(logger)` -/
def loggerExtension {Ip : Type} (logger : AuditLogger) : HttpLayer Ip := fun r =>
  forwardRequest [] (r.withLogger logger)

/-! ### Where requests come from -/

/-- The texts of addresses, as the standard library writes and reads them. -/
structure AddrExterns (Ip : Type) where
  /-- `IpAddr::to_string` -/
  display : Ip → String
  /-- `str::parse::<IpAddr>`, without its error. -/
  parse : String → Option Ip

section Origin

variable {Ip : Type} (A : AddrExterns Ip)

/-- The address that stands first in a header, `s.split(',').next()` trimmed. -/
def firstHop (s : String) : String := String.ofList (Text.trim (Text.firstPart ',' s.toList))

/-- `extract_client_ip` -/
def extractClientIp (headers : HeaderMap) (connectInfo : Option (SocketAddr Ip))
    (trustForwardedHeaders : Bool) : Option Ip :=
  let forwarded := (headerString headers "x-forwarded-for").bind fun s => A.parse (firstHop s)
  let realIp := (headerString headers "x-real-ip").bind fun s =>
    A.parse (String.ofList (Text.trim s.toList))
  let peer := connectInfo.map SocketAddr.ip
  if trustForwardedHeaders then (forwarded.or realIp).or peer else peer

/-- `connect_info_remote_addr` -/
def connectInfoRemoteAddr (e : Extensions Ip) : Option (SocketAddr Ip) :=
  e.connectInfo.or (e.tlsConnectInfo.map TlsConnectInfo.remoteAddr)

/-- `resolve` -/
def RequestContext.resolve (headers : HeaderMap) (connectInfo : Option (SocketAddr Ip))
    (trustForwardedHeaders : Bool) : RequestContext Ip where
  ip := extractClientIp A headers connectInfo trustForwardedHeaders
  requestId := headerString headers "x-request-id"
  userAgent := headerString headers "user-agent"

/-- `audit_source` -/
def RequestContext.auditSource (context : RequestContext Ip) : AuditSource :=
  ⟨context.ip.map A.display, context.userAgent, none, context.requestId⟩

/-- `audit_source_from_headers` -/
def auditSourceFromHeaders (headers : HeaderMap) : AuditSource :=
  ⟨none, headerString headers "user-agent", none, headerString headers "x-request-id"⟩

/-- `audit_source_for_request` -/
def auditSourceForRequest (r : Request Ip) : AuditSource :=
  match r.extensions.requestContext with
  | some context => context.auditSource A
  | none => auditSourceFromHeaders r.headers

/-- `request_context_middleware` -/
def requestContextMiddleware (trustForwardedHeaders : Bool) : HttpLayer Ip := fun r =>
  let context := RequestContext.resolve A r.headers (connectInfoRemoteAddr r.extensions)
    trustForwardedHeaders
  forwardRequest [] (r.withContext context)

/-- **Without a request context an event has no address.** -/
theorem auditSourceForRequest_ip {r : Request Ip} (h : r.extensions.requestContext = none) :
    (auditSourceForRequest A r).ip = none := by
  rw [auditSourceForRequest, h]
  rfl

end Origin

end ActonService
