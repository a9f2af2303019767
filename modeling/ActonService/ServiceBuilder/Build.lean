import ActonService.Audit.Middleware
import ActonService.Middleware.Authorization

/-!
# The layers of a service

`ServiceBuilder::build` of `service_builder.rs`, as far as requests go: the layers it adds to the
router, in the order it adds them, and the errors that keep the service from starting.  A layer
added later runs earlier.

The layers of `tower-http` and the session layer are third-party: they look at a request before it
is passed on and at a response before it is handed back, and record nothing.  Pools, agents, gRPC
and metrics add no layer here; the errors they record are parameters.

## Main definitions

* `Config`, `Surroundings` — the configuration, and what the builder meets.
* `Circumstances` — what a request meets.
* `applyMiddleware`, `layers` — the layers.
* `startupErrors`, `startupError` — the errors.
* `serve` — a request to the service.

## Main results

* `handled_serve` — what the handler gets.
-/

namespace ActonService

open Layers

/-! ### Configuration -/

/-- `TokenConfig` -/
inductive TokenConfig
  | paseto (config : PasetoConfig)
  | jwt (config : JwtConfig)

/-- The public paths of the section. -/
def TokenConfig.publicPaths : TokenConfig → List String
  | .paseto config => config.publicPaths
  | .jwt config => config.publicPaths

/-- `TlsConfig`, as far as the builder reads it itself. -/
structure TlsConfig where
  enabled : Bool
  certPath : String
  keyPath : String
  clientCaPath : Option String

/-- `MiddlewareConfig` with its `RequestTrackingConfig`, as far as layers depend on it. -/
structure MiddlewareConfig where
  corsMode : String
  compression : Bool
  catchPanic : Bool
  maskSensitiveHeaders : Bool
  propagateHeaders : Bool
  requestIdEnabled : Bool

/-- `RateLimitConfig`, as far as the builder reads it. -/
structure RateLimitConfig where
  autoApply : Bool
  trustForwardedHeaders : Bool

/-- `Config`, as far as layers depend on it. -/
structure Config where
  serviceName : String
  trustForwardedHeaders : Bool
  middleware : MiddlewareConfig
  token : Option TokenConfig
  callerAuth : Option CallerAuthConfig
  tls : Option TlsConfig
  rateLimit : RateLimitConfig
  /-- `[cedar] enabled` -/
  cedar : Option Bool
  audit : Option AuditConfig

/-- `runtime_supports_block_in_place`: the runtime the builder is called in. -/
inductive Runtime
  | multiThreaded
  | singleThreaded
  | absent
  deriving DecidableEq, Repr

/-- What the builder was given beside the configuration, and what it meets. -/
structure Surroundings where
  runtime : Runtime
  /-- `with_cedar`: whether the middleware given is enabled. -/
  cedarGiven : Option Bool
  /-- `CedarAuthz::builder(..).build()`, or the text of its error. -/
  cedarBuild : Except String Unit
  /-- `with_tls_config` -/
  tlsOverride : Bool
  /-- `TlsConfigSource::from_tls_config`, or the text of its error. -/
  loadTls : TlsConfig → Except String Unit
  /-- `AuditAgent::spawn` succeeds. -/
  auditSpawns : Bool
  /-- The errors of pools, agents and extensions. -/
  agentErrors : List ServiceError
  /-- The error of a session store. -/
  sessionErrors : List ServiceError
  /-- The errors of gRPC, credential rotation and metrics. -/
  listenerErrors : List ServiceError

/-- The two policies of `CorsLayer` in use. -/
inductive CorsPolicy
  | permissive
  | none
  deriving DecidableEq, Repr

/-- A route: its handler and the name `audit_layer` gives it. -/
structure Route (Ip : Type) where
  annotation : Option String
  handler : Request Ip → Outcome Response

/-- The third-party layers, as they are configured. -/
structure ExternalLayers (Ip : Type) where
  cors : CorsPolicy → HttpFilter Ip
  securityHeaders : HttpFilter Ip
  compression : HttpFilter Ip
  timeout : HttpFilter Ip
  bodyLimit : HttpFilter Ip
  trace : HttpFilter Ip
  metrics : Option (HttpFilter Ip)
  sensitiveHeaders : HttpFilter Ip
  propagateRequestId : HttpFilter Ip
  setRequestId : HttpFilter Ip
  session : Option (HttpFilter Ip)
  /-- The response of `CatchPanicLayer`. -/
  panicResponse : Response

/-- What a request meets besides the configuration: the time, the keys, and what the limiters and
the policies say. -/
structure Circumstances (Ip : Type) where
  now : DateTime
  /-- The answers of the key manager, if keys are rotated. -/
  keyManager : Option KeyAnswers
  /-- `check_rate_limit`, with the limiters as they are. -/
  checkRateLimit : String → String → Option Claims → Option Ip → RateLimitVerdict
  /-- What the policies say of a request and its claims, an error of theirs included. -/
  cedarDecision : Request Ip → Claims → Except ServiceError Decision
  stamps : Stamps
  durationMs : UInt64

/-! ### What the builder resolves -/

namespace ServiceBuilder

section Resolve

variable (X : TokenExterns) (S : Surroundings) (config : Config)

/-- The configuration of auditing, which is on by default. -/
def auditConfig : AuditConfig := config.audit.getD .standard

/-- The audit logger, where audit is enabled and its agent has been spawned. -/
def auditLogger : Option AuditLogger :=
  if (auditConfig config).enabled ∧ S.runtime = .multiThreaded ∧ S.auditSpawns = true then
    some ⟨config.serviceName, auditConfig config⟩
  else none

def auditErrors : List ServiceError :=
  if (auditConfig config).enabled ∧ S.runtime = .singleThreaded then
    [.internal ("audit logging is enabled (the default) but the tokio runtime is single-threaded, "
      ++ "so the audit agent cannot be spawned from ServiceBuilder::build(); use a multi-threaded "
      ++ "runtime (#[tokio::main], or #[tokio::test(flavor = \"multi_thread\")] in tests) or set "
      ++ "[audit] enabled = false")]
  else []

/-- The Cedar middleware, as whether it is enabled: the one given, or the one configured. -/
def resolveCedar : Except ServiceError (Option Bool) :=
  match S.cedarGiven, config.cedar with
  | some enabled, _ => .ok (some enabled)
  | none, some true =>
    match S.runtime with
    | .multiThreaded =>
      match S.cedarBuild with
      | .ok () => .ok (some true)
      | .error e =>
        .error (.internal ("Cedar authorization is enabled but its initialization failed; refusing "
          ++ "to start rather than serving routes without policy enforcement: " ++ e))
    | .singleThreaded =>
      .error (.internal ("Cedar authorization is enabled but the tokio runtime is "
        ++ "single-threaded, so its policy set cannot be loaded from ServiceBuilder::build(); use "
        ++ "a multi-threaded runtime (#[tokio::main], or #[tokio::test(flavor = "
        ++ "\"multi_thread\")] in tests) or set [cedar] enabled = false. Refusing to start rather "
        ++ "than serving routes without policy enforcement"))
    | .absent =>
      .error (.internal ("Cedar authorization is enabled but no tokio runtime is available to "
        ++ "initialize it; refusing to start rather than serving routes without policy "
        ++ "enforcement"))
  | none, _ => .ok none

/-- The validator of the `[token]` section, at a time. -/
def newTokenAuth : TokenConfig → Except ServiceError (DateTime → Option KeyAnswers → TokenAuth)
  | .paseto settings =>
    match PasetoAuth.new X settings with
    | .ok auth => .ok (auth.tokenAuth X settings.publicPaths)
    | .error e =>
      .error (.internal ("PASETO authentication is configured but its configuration is invalid; "
        ++ "refusing to start rather than serving authenticated routes without authentication: "
        ++ e.display))
  | .jwt settings =>
    match JwtAuth.new X settings with
    | .ok auth => .ok (auth.tokenAuth X settings.publicPaths)
    | .error e =>
      .error (.internal ("JWT authentication is configured but its configuration is invalid; "
        ++ "refusing to start rather than serving authenticated routes without authentication: "
        ++ e.display))

/-- The validators check no revocation and have the public paths of their section. -/
theorem newTokenAuth_ok {settings : TokenConfig} {make : DateTime → Option KeyAnswers → TokenAuth}
    (h : newTokenAuth X settings = .ok make) (now : DateTime) (keyManager : Option KeyAnswers) :
    (make now keyManager).isRevoked = none ∧
      (make now keyManager).publicPaths = settings.publicPaths := by
  cases settings with
  | paseto settings =>
    simp only [newTokenAuth] at h
    cases hnew : PasetoAuth.new X settings with
    | error e =>
      rw [hnew] at h
      contradiction
    | ok auth =>
      rw [hnew] at h
      cases h
      exact ⟨rfl, rfl⟩
  | jwt settings =>
    simp only [newTokenAuth] at h
    cases hnew : JwtAuth.new X settings with
    | error e =>
      rw [hnew] at h
      contradiction
    | ok auth =>
      rw [hnew] at h
      cases h
      exact ⟨rfl, rfl⟩

/-- The validator of the configuration, if it has one. -/
def resolveToken : Except ServiceError (Option (DateTime → Option KeyAnswers → TokenAuth)) :=
  match config.token with
  | none => .ok none
  | some settings => (newTokenAuth X settings).map some

/-- The policy of the `[caller_auth]` section, if there is one. -/
def resolvePolicy : Except ServiceError (Option CallerAuthPolicy) :=
  match config.callerAuth with
  | none => .ok none
  | some settings =>
    match settings.toPolicy with
    | .ok policy => .ok (some policy)
    | .error e =>
      .error (.internal
        ("[caller_auth] is configured but its configuration is invalid; refusing to "
        ++ "start rather than serving mutual-TLS routes without caller authorization: "
        ++ e.display))

def tlsErrors : List ServiceError :=
  match config.tls with
  | none => []
  | some tls =>
    if S.tlsOverride = false ∧ tls.enabled = true then
      match S.loadTls tls with
      | .ok () => []
      | .error e =>
        [.internal ("TLS is enabled but its configuration failed to load; refusing to start a "
          ++ "plaintext listener: " ++ e)]
    else []

/-- `listener_client_ca` -/
def listenerClientCa (tls : Option TlsConfig) : ListenerClientCa :=
  match tls.filter TlsConfig.enabled with
  | some tls => if tls.clientCaPath.isSome then .verified else .notVerified
  | none => .plaintext

/-- The cross-check of the policy against the HTTP listener. -/
def listenerCheck (policy : Option CallerAuthPolicy) : List ServiceError :=
  match policy with
  | none => []
  | some policy =>
    let listener := if S.tlsOverride then .unknown else listenerClientCa config.tls
    match validateListener policy listener "[tls]" with
    | .ok () => []
    | .error e => [.internal e.display]

end Resolve

/-- The error of a step, if it failed. -/
def stepErrors {α : Type} : Except ServiceError α → List ServiceError
  | .ok _ => []
  | .error e => [e]

/-- What a step came to, or nothing. -/
def stepValue {α : Type} : Except ServiceError (Option α) → Option α
  | .ok value => value
  | .error _ => none

section Build

variable {Ip : Type} (X : TokenExterns) (A : AddrExterns Ip) (parse : ParseCertificate)
  (S : Surroundings) (E : ExternalLayers Ip) (config : Config)

/-- The caller policy in force, if the section is there and its policy is built without an error. -/
def callerPolicy : Option CallerAuthPolicy := stepValue (resolvePolicy config)

/-- The token validator in force, at the time and with the keys of the request, if the section gives
one. -/
def tokenAuth (c : Circumstances Ip) : Option TokenAuth :=
  (stepValue (resolveToken X config)).map fun auth => auth c.now c.keyManager

/-- The errors recorded, in the order of the source. -/
def startupErrors : List ServiceError :=
  S.agentErrors ++ auditErrors S config ++ stepErrors (resolveCedar S config) ++ S.sessionErrors
    ++ stepErrors (resolveToken X config) ++ stepErrors (resolvePolicy config)
    ++ tlsErrors S config ++ listenerCheck S config (callerPolicy config) ++ S.listenerErrors

/-- `startup_error`: the first error recorded. -/
def startupError : Option ServiceError := (startupErrors X S config).head?

/-! ### Layers -/

/-- The policy of a `cors_mode`: none for the two names that restrict, and a permissive one for any
other text. -/
def corsPolicy (mode : String) : CorsPolicy :=
  if mode = "restrictive" ∨ mode = "disabled" then .none else .permissive

/-- `apply_middleware` -/
def applyMiddleware : List (HttpLayer Ip) :=
  [(E.cors (corsPolicy config.middleware.corsMode)).layer, E.securityHeaders.layer]
    ++ (if config.middleware.compression then [E.compression.layer] else [])
    ++ [E.timeout.layer, E.bodyLimit.layer, E.trace.layer]
    ++ E.metrics.toList.map Filter.layer
    ++ [requestContextMiddleware A config.trustForwardedHeaders]
    ++ (if config.middleware.maskSensitiveHeaders then [E.sensitiveHeaders.layer] else [])
    ++ (if config.middleware.propagateHeaders then [E.propagateRequestId.layer] else [])
    ++ (if config.middleware.requestIdEnabled then [E.setRequestId.layer] else [])
    ++ (if config.middleware.catchPanic then [catchPanic E.panicResponse] else [])

/-- What stands behind the Cedar middleware. -/
def generalLayers : List (HttpLayer Ip) :=
  applyMiddleware A E config ++ E.session.toList.map Filter.layer

/-- The Cedar middleware, if Cedar was configured and started without an error. -/
def cedarLayers (c : Circumstances Ip) : List (HttpLayer Ip) :=
  (stepValue (resolveCedar S config)).toList.map fun enabled =>
    cedarMiddleware c.stamps ⟨enabled, c.cedarDecision⟩

/-- The audit middleware, if there is a logger for it. -/
def auditLayers (c : Circumstances Ip) : List (HttpLayer Ip) :=
  (auditLogger S config).toList.map fun logger =>
    auditMiddleware A c.stamps c.durationMs logger

/-- The rate limiter of a configuration. -/
def governor (c : Circumstances Ip) : Governor Ip :=
  ⟨config.rateLimit.trustForwardedHeaders, c.checkRateLimit⟩

def governorLayers (c : Circumstances Ip) : List (HttpLayer Ip) :=
  if config.rateLimit.autoApply then [governorMiddleware A c.stamps (governor config c)] else []

/-- The token middleware, if there is a validator for it. -/
def tokenLayers (c : Circumstances Ip) : List (HttpLayer Ip) :=
  (tokenAuth X config c).toList.map (tokenMiddleware A c.stamps)

/-- Caller authorisation, in the modes that use certificates. -/
def callerLayers : List (HttpLayer Ip) :=
  ((callerPolicy config).filter CallerAuthPolicy.requiresClientCa).toList.map
    (callerAuthLayer parse)

/-- The logger as an extension of every request, for the handlers and the middleware that log on
their own. -/
def loggerLayers : List (HttpLayer Ip) := (auditLogger S config).toList.map loggerExtension

/-- **The layers of `build`, in the order they are added.** -/
def layers (c : Circumstances Ip) : List (HttpLayer Ip) :=
  generalLayers A E config ++ cedarLayers S config c ++ auditLayers A S config c
    ++ governorLayers A config c ++ tokenLayers X A config c ++ callerLayers parse config
    ++ loggerLayers S config

/-! ### Requests -/

/-- The handler, behind the annotation of its route. -/
def endpoint (route : Route Ip) : HttpService Ip :=
  stack ( route.annotation.toList.map auditLayer) fun r => ⟨[], route.handler r, some r⟩

/-- A request to the service.  The router has found the route before the layers run. -/
def serve (c : Circumstances Ip) (routes : Method → String → Route Ip) (r : Incoming Ip) :
    Served (Request Ip) Response AuditEvent :=
  stack (layers X A parse S E config c) (endpoint (routes r.method r.path)) r.request

/-! ### What reaches the handler -/

variable {X A parse S E config} {c : Circumstances Ip}

theorem handled_endpoint (route : Route Ip) (r : Request Ip) :
    ((endpoint route r).handled).isSome = true := by
  rw [endpoint, handled_stack]
  cases route.annotation <;> rfl

/-- **The handler is reached by what gets through the layers.** -/
theorem handled_serve (routes : Method → String → Route Ip) (r : Incoming Ip) :
    ((serve X A parse S E config c routes r).handled).isSome
      = (passing (layers X A parse S E config c) r.request).isSome := by
  rw [serve, handled_stack]
  cases passing (layers X A parse S E config c) r.request with
  | none => rfl
  | some r' => exact handled_endpoint _ r'

/-- The request with the logger, if there is one. -/
def logged (S : Surroundings) (config : Config) (r : Incoming Ip) : Request Ip :=
  match auditLogger S config with
  | some logger => r.request.withLogger logger
  | none => r.request

/-- The token validator in force is that of the section. -/
theorem tokenAuth_eq_some {auth : TokenAuth} (h : tokenAuth X config c = some auth) :
    ∃ settings, config.token = some settings ∧ auth.isRevoked = none ∧
      auth.publicPaths = settings.publicPaths := by
  rw [tokenAuth, resolveToken] at h
  cases hsection : config.token with
  | none =>
    rw [hsection] at h
    contradiction
  | some settings =>
    simp only [hsection] at h
    cases hnew : newTokenAuth X settings with
    | error e =>
      rw [hnew] at h
      contradiction
    | ok make =>
      rw [hnew] at h
      cases h
      exact ⟨settings, rfl, newTokenAuth_ok X hnew c.now c.keyManager⟩

section Logged

variable (r : Incoming Ip)

@[simp] theorem logged_method : (logged S config r).method = r.method := by
  rw [logged]
  cases auditLogger S config <;> rfl

@[simp] theorem logged_path : (logged S config r).path = r.path := by
  rw [logged]
  cases auditLogger S config <;> rfl

@[simp] theorem logged_headers : (logged S config r).headers = r.headers := by
  rw [logged]
  cases auditLogger S config <;> rfl

@[simp] theorem logged_extensions : (logged S config r).extensions
    = { r.extensions with auditLogger := auditLogger S config } := by
  rw [logged]
  cases auditLogger S config <;> rfl

end Logged

theorem passing_loggerLayers (r : Incoming Ip) :
    passing (loggerLayers S config) r.request = some (logged S config r) := by
  rw [loggerLayers, logged]
  cases auditLogger S config <;> rfl

/-- The layers between the token middleware and the handler. -/
def authorizedLayers (A : AddrExterns Ip) (S : Surroundings) (E : ExternalLayers Ip)
    (config : Config) (c : Circumstances Ip) : List (HttpLayer Ip) :=
  generalLayers A E config ++ cedarLayers S config c ++ auditLayers A S config c
    ++ governorLayers A config c

/-- **A request meets caller authorisation first, then the token middleware, then the others.** -/
theorem passing_layers (r : Incoming Ip) :
    passing (layers X A parse S E config c) r.request
      = ((passing (callerLayers parse config) (logged S config r)).bind
          (passing (tokenLayers X A config c))).bind
          (passing (authorizedLayers A S E config c)) := by
  have hlayers : layers X A parse S E config c
      = authorizedLayers A S E config c ++ tokenLayers X A config c ++ callerLayers parse config
        ++ loggerLayers S config := rfl
  rw [hlayers, passing_append, passing_loggerLayers, Option.bind_some, passing_append,
    Option.bind_assoc]
  exact Option.bind_congr fun r' _ => passing_append _ _ r'

/-! ### The rate limiter and the audit middleware -/

/-- The rate limiter admits the request, if there is one. -/
def Admits (A : AddrExterns Ip) (config : Config) (c : Circumstances Ip) (r : Request Ip) : Prop :=
  config.rateLimit.autoApply = true → (governor config c).verdict A r = .admitted

theorem passing_governorLayers_of_admits {r : Request Ip} (h : Admits A config c r) :
    passing (governorLayers A config c) r = some r := by
  rw [governorLayers]
  cases hauto : config.rateLimit.autoApply with
  | false => rfl
  | true =>
    rw [if_pos rfl, passing_singleton, governorMiddleware_pass?, if_pos (h hauto)]

theorem passing_governorLayers_of_not_admits {r : Request Ip} (h : ¬ Admits A config c r) :
    passing (governorLayers A config c) r = none := by
  have hauto : config.rateLimit.autoApply = true := by
    by_contra hfalse
    exact h fun htrue => absurd htrue hfalse
  rw [governorLayers, if_pos hauto, passing_singleton, governorMiddleware_pass?, if_neg]
  intro hadmitted
  exact h fun _ => hadmitted

theorem passing_auditLayers (r : Request Ip) :
    passing (auditLayers A S config c) r = some r := by
  rw [auditLayers]
  cases auditLogger S config with
  | none => rfl
  | some logger => exact (passing_singleton _ _).trans (auditMiddleware_pass? _ _ _ _ _)

end Build

/-! ### Samples -/

/-- A key file of zeros, and a PASETO library that accepts no token. -/
def sampleTokenExterns : TokenExterns where
  toPasetoExterns :=
    { samplePasetoExterns OrderedMap.empty with parse := fun _ _ _ _ _ _ _ => .error "decryption" }
  readFile _ := .ok (List.replicate 32 0)
  toUppercase name := name
  decodingKey _ _ := .ok ()
  decodeHeader _ := none
  decode _ _ _ _ _ _ := .error "InvalidToken"

/-- Addresses as their texts. -/
def sampleAddr : AddrExterns String := ⟨fun ip => ip, fun s => some s⟩

/-- External layers that do nothing. -/
def sampleExternal : ExternalLayers String where
  cors _ := .none
  securityHeaders := .none
  compression := .none
  timeout := .none
  bodyLimit := .none
  trace := .none
  metrics := none
  sensitiveHeaders := .none
  propagateRequestId := .none
  setRequestId := .none
  session := none
  panicResponse := ⟨500, none⟩

def sampleSurroundings : Surroundings where
  runtime := .multiThreaded
  cedarGiven := none
  cedarBuild := .ok ()
  tlsOverride := false
  loadTls _ := .ok ()
  auditSpawns := true
  agentErrors := []
  sessionErrors := []
  listenerErrors := []

def sampleCircumstances : Circumstances String where
  now := sampleTime 0
  keyManager := none
  checkRateLimit _ _ _ _ := .admitted
  cedarDecision _ _ := .ok .allow
  stamps _ := (sampleUuid, sampleTime 0)
  durationMs := 3

end ServiceBuilder

end ActonService
