import ActonService.Middleware.Authentication
import ActonService.Middleware.Cedar

/-!
# The rate limiter and Cedar as layers

The middlewares of `middleware/governor.rs` and `middleware/cedar.rs`: both judge a request by the
claims that the token middleware left.  What the limiters of the `governor` crate and the policies
say at the time is a parameter of the layers; for Cedar it is computed by `authorize`.

## Main definitions

* `Governor`, `governorMiddleware` — the rate limiter.
* `CedarAuthz`, `cedarMiddleware` — Cedar.
* `CedarAuthz.ofPolicies` — the decision of `middleware`, from `build_principal` to `authorize`.
-/

namespace ActonService

open Layers

variable {Ip : Type}

/-! ### The rate limiter -/

/-- What `check_rate_limit` comes to.  It makes a limiter for a new key, which may panic. -/
inductive RateLimitVerdict
  | admitted
  | refused (e : ServiceError)
  | panicked
  deriving DecidableEq, Repr

/-- `GovernorRateLimit`, with its limiters as they are. -/
structure Governor (Ip : Type) where
  trustForwardedHeaders : Bool
  /-- `check_rate_limit` on the method, the path, the claims and the address of the client. -/
  checkRateLimit : String → String → Option Claims → Option Ip → RateLimitVerdict

/-- The verdict on a request: that of `check_rate_limit` for its method, path, claims and client
address. -/
def Governor.verdict (A : AddrExterns Ip) (governor : Governor Ip) (r : Request Ip) :
    RateLimitVerdict :=
  let clientIp := extractClientIp A r.headers (connectInfoRemoteAddr r.extensions)
    governor.trustForwardedHeaders
  governor.checkRateLimit r.method.asStr r.path r.extensions.claims clientIp

/-- `GovernorRateLimit::middleware` -/
def governorMiddleware (A : AddrExterns Ip) (stamps : Stamps) (governor : Governor Ip) :
    HttpLayer Ip := fun r =>
  match governor.verdict A r with
  | .admitted => forwardRequest [] r
  | .panicked => .answer [] .panicked
  | .refused e =>
    let source :=
      { auditSourceForRequest A r with subject := r.extensions.claims.map Claims.sub }
    refuse
      (if e = .rateLimitExceeded then
        authEvents stamps r.extensions.auditLogger .httpRequestDenied .warning source
      else []) e

/-- What gets through the rate limiter. -/
theorem governorMiddleware_pass? (A : AddrExterns Ip) (stamps : Stamps) (governor : Governor Ip)
    (r : Request Ip) :
    (governorMiddleware A stamps governor).pass? r
      = if governor.verdict A r = .admitted then some r else none := by
  rw [Layer.pass?, governorMiddleware]
  cases governor.verdict A r <;> rfl

/-! ### Cedar -/

/-- `CedarAuthz`, at the time of a request. -/
structure CedarAuthz (Ip : Type) where
  enabled : Bool
  /-- What the policies say of a request. -/
  decision : Request Ip → Claims → Except ServiceError Decision

/-- The source of a denial, with the address the headers give and the subject of the claims. -/
def cedarAuditSource (r : Request Ip) (claims : Claims) : AuditSource where
  ip := (((r.headers.get "x-forwarded-for").or (r.headers.get "x-real-ip")).bind
    HeaderValue.toStr).map firstHop
  userAgent := headerString r.headers "user-agent"
  subject := some claims.sub
  requestId := headerString r.headers "x-request-id"

/-- `CedarAuthz::middleware` -/
def cedarMiddleware (stamps : Stamps) (authz : CedarAuthz Ip) : HttpLayer Ip := fun r =>
  if !authz.enabled then forwardRequest [] r
  else if r.path = "/health" ∨ r.path = "/ready" then forwardRequest [] r
  else
    match r.extensions.claims with
    | none =>
      refuse [] (.unauthorized
        "Missing JWT claims. Ensure JWT middleware runs before Cedar middleware.")
    | some claims =>
      match authz.decision r claims with
      | .error e => refuse [] e
      | .ok .allow => forwardRequest [] r
      | .ok .deny =>
        refuse
          (authEvents stamps r.extensions.auditLogger .authPermissionDenied .warning
            (cedarAuditSource r claims))
          (.forbidden "Access denied by policy")

/-- Without claims only a middleware that is not enabled lets a request through. -/
theorem cedarMiddleware_pass?_noClaims (stamps : Stamps) (authz : CedarAuthz Ip) {r : Request Ip}
    (hclaims : r.extensions.claims = none) (hpath : r.path ≠ "/health" ∧ r.path ≠ "/ready") :
    (cedarMiddleware stamps authz).pass? r = if authz.enabled then none else some r := by
  rw [Layer.pass?, cedarMiddleware]
  cases authz.enabled with
  | false => rfl
  | true =>
    simp only [hclaims, hpath.1, hpath.2]
    rfl

/-- Cedar logs nothing of a request without claims, nor if denials are not logged. -/
theorem cedarMiddleware_silent {p : AuditEvent → Bool} (stamps : Stamps) (authz : CedarAuthz Ip)
    {r : Request Ip} (h : r.extensions.claims = none ∨
      ∀ logger ∈ r.extensions.auditLogger, logger.config.auditAuthEvents = false) :
    (cedarMiddleware stamps authz r).Silent p := by
  rw [cedarMiddleware]
  split
  · exact silent_forwardRequest rfl r
  · split
    · exact silent_forwardRequest rfl r
    · split
      · exact silent_refuse rfl _
      · rename_i claims hclaims
        have hquiet := h.resolve_left (by rw [hclaims]; nofun)
        split
        · exact silent_refuse rfl _
        · exact silent_forwardRequest rfl r
        · refine silent_refuse ?_ _
          rw [authEvents_eq_nil hquiet]
          rfl

/-! ### What the policies are asked -/

/-- `is_client` -/
def Claims.isClient (claims : Claims) : Bool := startsWith claims.sub "client:"

/-- The text of `build_principal`. -/
def principalText (claims : Claims) : String :=
  (if claims.isUser then "User::\"" else if claims.isClient then "Client::\""
    else "Principal::\"") ++ claims.sub ++ "\""

/-- `extract_client_ip` of `cedar.rs`. -/
def cedarClientIp (headers : HeaderMap) : Option String :=
  match headerString headers "x-forwarded-for" with
  | some s => some (firstHop s)
  | none => headerString headers "x-real-ip"

section Policies

variable {Uid Context Policies Entities : Type}

/-- The functions of the Cedar library and of `chrono` that a request is put together with. -/
structure CedarHttpExterns (Uid Context Policies Entities : Type) extends
    CedarExterns Uid Context Policies Entities where
  /-- `str::parse::<EntityUid>`, or the text of its error. -/
  parseUid : String → Except String Uid
  /-- `Context::from_json_value`, or the text of its error. -/
  contextFromJson : Json → Except String Context
  /-- The timestamp, the hour and the day of the week of a time, as JSON. -/
  timestampJson : DateTime → Json

/-- An entity with a text, or the error that names it. -/
def CedarHttpExterns.entity (X : CedarHttpExterns Uid Context Policies Entities)
    (what text : String) : Except ServiceError Uid :=
  (X.parseUid text).mapError fun e => .internal (what ++ ": " ++ e)

/-- The JSON of `build_context_http`. -/
def contextJson (timestamp : Json) (headers : HeaderMap) (claims : Claims) : Json :=
  let optional (key : String) (text : Option String) : List (String × Json) :=
    (text.map fun s => (key, Json.string s)).toList
  .object
    ([("roles", .array (claims.roles.map .string)),
      ("permissions", .array (claims.perms.map .string))]
      ++ optional "email" claims.email ++ optional "username" claims.username
      ++ [("timestamp", timestamp)]
      ++ optional "ip" (cedarClientIp headers)
      ++ optional "requestId" (headerString headers "x-request-id")
      ++ optional "userAgent" (headerString headers "user-agent"))

/-- `CedarError` among the errors of a layer. -/
def CedarError.toServiceError : CedarError → ServiceError
  | .internal message => .internal message

/-- What a Cedar middleware decides: at a time, with its policies and its cache as they are, and
the path normaliser it was built with. -/
def CedarAuthz.ofPolicies (X : CedarHttpExterns Uid Context Policies Entities)
    (normalizePath : String → String) (enabled : Bool) (config : CedarConfig) (cached : Bool)
    (policies : Policies) (input : AuthorizeInput) (redis : DecisionStore) (now : DateTime) :
    CedarAuthz Ip where
  enabled := enabled
  decision r claims := do
    let principal ← X.entity "Invalid principal" (principalText claims)
    let path := r.extensions.matchedPath.getD (normalizePath r.path)
    let action ← X.entity "Invalid action" ("Action::\"" ++ r.method.asStr ++ " " ++ path ++ "\"")
    let context ← (X.contextFromJson (contextJson (X.timestampJson now) r.headers claims)).mapError
      fun e => ServiceError.internal ("Failed to build context: " ++ e)
    let resource ← X.entity "Failed to parse resource" "Resource::\"default\""
    (authorize X.toCedarExterns config cached policies input redis
      ⟨principal, action, resource, context⟩ claims).2.mapError CedarError.toServiceError

end Policies

end ActonService
