import ActonService.Middleware.Request

/-!
# Auditing requests

The middleware of `audit/middleware.rs`, which logs an event for a request, and the layer that
annotates a route.

## Main definitions

* `pathMatchesGlob`, `shouldAudit` — which paths are audited.
* `auditMiddleware` — the middleware.
* `auditLayer` — the annotation of a route.
-/

namespace ActonService

open Layers

/-! ### Paths -/

/-- `str::strip_suffix` -/
def stripSuffix (s ending : String) : Option String :=
  if Text.endsWith s.toList ending.toList then
    some (String.ofList (s.toList.take (s.length - ending.length)))
  else none

/-- A path with a start and an ending; they may overlap. -/
def matchesParts (path : String) : List (List Char) → Bool
  | [start, ending] => start.isPrefixOf path.toList && Text.endsWith path.toList ending
  | _ => false

/-- `path_matches_glob` -/
def pathMatchesGlob (path pattern : String) : Bool :=
  if path = pattern then true
  else
    match stripSuffix pattern "/*" with
    | some start => startsWith path start && decide (start.utf8ByteSize < path.utf8ByteSize)
    | none =>
      match stripSuffix pattern "/**" with
      | some start => startsWith path start
      | none =>
        if '*' ∈ pattern.toList then matchesParts path (pattern.toList.splitOn '*') else false

/-- `path_matches_patterns` -/
def pathMatchesPatterns (path : String) (patterns : List String) : Bool :=
  patterns.any (pathMatchesGlob path)

/-- The path is selected by the configuration. -/
def shouldAudit (config : AuditConfig) (path : String) : Bool :=
  if pathMatchesPatterns path config.excludedRoutes then false
  else if config.auditAllRequests then true
  else pathMatchesPatterns path config.auditedRoutes

/-! ### The middleware -/

/-- The severity of a status: an error of the server, one of the client, or neither. -/
def severityOfStatus (status : UInt16) : AuditSeverity :=
  if 500 ≤ status then .error else if 400 ≤ status then .warning else .informational

section Middleware

variable {Ip : Type} (A : AddrExterns Ip) (stamps : Stamps) (durationMs : UInt64)
  (logger : AuditLogger)

/-- The event of a request that was answered. -/
def requestEvent (r : Request Ip) (response : Response) : AuditEvent :=
  let kind : AuditEventKind :=
    match r.extensions.auditRoute with
    | some route => .custom route.name
    | none => .httpRequest
  let source := { auditSourceForRequest A r with subject := r.extensions.claims.map Claims.sub }
  { AuditEvent.new (stamps kind).1 (stamps kind).2 kind (severityOfStatus response.status)
      logger.serviceName with
    source := source
    method := some r.method.asStr
    path := some r.path
    statusCode := some response.status
    durationMs := some durationMs }

/-- The event is logged when the request was answered. -/
def finishRequest (r : Request Ip) : Outcome Response → List AuditEvent × Outcome Response
  | .returned response => ([requestEvent A stamps durationMs logger r response], .returned response)
  | .panicked => ([], .panicked)

/-- `audit_middleware` -/
def auditMiddleware : HttpLayer Ip := fun r =>
  if r.extensions.auditRoute.isSome || shouldAudit logger.config r.path then
    .pass [] r (finishRequest A stamps durationMs logger r)
  else forwardRequest [] r

/-- Everything gets through the audit middleware as it came. -/
theorem auditMiddleware_pass? (r : Request Ip) :
    (auditMiddleware A stamps durationMs logger).pass? r = some r := by
  rw [Layer.pass?, auditMiddleware]
  cases r.extensions.auditRoute.isSome || shouldAudit logger.config r.path <;> rfl

/-- `audit_layer` -/
def auditLayer (name : String) : HttpLayer Ip := fun r => forwardRequest [] (r.withRoute ⟨name⟩)

end Middleware

end ActonService
