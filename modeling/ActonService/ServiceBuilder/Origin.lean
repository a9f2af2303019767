import ActonService.ServiceBuilder.Events

/-!
# Where the events say a request came from

With `trust_forwarded_headers = false` the events about a request should name the peer of its
connection, whatever the headers `X-Forwarded-For` and `X-Real-IP` say.

The address of the peer is resolved by the request context, which is inserted by the general
middleware, behind every layer that logs an event.  The token middleware, the audit middleware and
the rate limiter fall back to a source without an address, and Cedar reads the headers itself.

## Main definitions

* `reported` — the events that name a source.
* `SameButForwarded` — two requests that differ in the two headers only.
* `SameTrueOrigin` — the events about both name the peer.
* `Recorded` — the layers log an event about a request.

## Main results

* `sameTrueOrigin_iff` — **the events about two requests name the peer exactly if there are
  none.**
-/

namespace ActonService

namespace ServiceBuilder

open Layers

variable {Ip : Type}

/-- The events of token authentication, Cedar and the audit middleware. -/
def isReportedKind : AuditEventKind → Bool
  | .authTokenMissing | .authTokenInvalid | .authTokenRevoked | .authLoginSuccess => true
  | .authPermissionDenied => true
  | .httpRequest => true
  | _ => false

/-- The events among them. -/
def reported (trace : List AuditEvent) : List AuditEvent := trace.filter (ofKind isReportedKind)

/-- The headers that say where a request was forwarded from. -/
def isForwardedHeader (name : String) : Bool :=
  decide (name = "x-forwarded-for") || decide (name = "x-real-ip")

/-- Two requests from one address that differ in these headers only. -/
structure SameButForwarded (r₁ r₂ : Incoming Ip) : Prop where
  method : r₁.method = r₂.method
  path : r₁.path = r₂.path
  matchedPath : r₁.matchedPath = r₂.matchedPath
  headers : (r₁.headers.filter fun header => !isForwardedHeader header.1)
    = r₂.headers.filter fun header => !isForwardedHeader header.1
  peer : r₁.connection.peer.ip = r₂.connection.peer.ip

/-- **The events about both requests name one address, and it is that of the peer.** -/
def SameTrueOrigin (A : AddrExterns Ip) (r₁ : Incoming Ip) (trace₁ trace₂ : List AuditEvent) :
    Prop :=
  (∀ e₁ ∈ reported trace₁, ∀ e₂ ∈ reported trace₂, e₁.source.ip = e₂.source.ip) ∧
    ∀ e ∈ reported trace₁ ++ reported trace₂, e.source.ip = some (A.display r₁.connection.peer.ip)

/-- A token is asked of the request, and that is logged. -/
def AsksToken (X : TokenExterns) (config : Config) (c : Circumstances Ip) (logger : AuditLogger)
    (r : Request Ip) : Prop :=
  logger.config.auditAuthEvents = true ∧ ∃ auth ∈ tokenAuth X config c, auth.asksNone r = false

/-- The path of the request is selected for auditing, and it gets to the audit middleware and is
answered. -/
def LogsRequest (X : TokenExterns) (A : AddrExterns Ip) (S : Surroundings) (E : ExternalLayers Ip)
    (config : Config) (c : Circumstances Ip) (logger : AuditLogger) (route : Route Ip)
    (r : Request Ip) : Prop :=
  shouldAudit logger.config r.path = true ∧
    ∃ r', passing (tokenLayers X A config c) r = some r' ∧ Admits A config c r' ∧
      ¬ Panics A S E config c route r'

/-- The layers log an event about the request. -/
def Recorded (X : TokenExterns) (A : AddrExterns Ip) (parse : ParseCertificate) (S : Surroundings)
    (E : ExternalLayers Ip) (config : Config) (c : Circumstances Ip) (route : Route Ip)
    (r : Incoming Ip) : Prop :=
  ∃ logger ∈ auditLogger S config,
    ∃ r', passing (callerLayers parse config) (logged S config r) = some r' ∧
      (AsksToken X config c logger r' ∨ LogsRequest X A S E config c logger route r')

section Proofs

variable {X : TokenExterns} {A : AddrExterns Ip} {parse : ParseCertificate} {S : Surroundings}
  {E : ExternalLayers Ip} {config : Config} {c : Circumstances Ip} {r : Incoming Ip}
  {r' : Request Ip} {logger : AuditLogger}

/-! ### The layers before the token middleware -/

theorem passing_callerLogger :
    passing (callerLayers parse config ++ loggerLayers S config) r.request
      = passing (callerLayers parse config) (logged S config r) := by
  rw [passing_append, passing_loggerLayers, Option.bind_some]

/-- Caller authorisation and the logger log nothing themselves. -/
theorem reported_serve (routes : Method → String → Route Ip) :
    reported (serve X A parse S E config c routes r).trace
      = ((passing (callerLayers parse config) (logged S config r)).map fun r' =>
          reported (stack (authorizedLayers A S E config c ++ tokenLayers X A config c)
            (endpoint (routes r.method r.path)) r').trace).getD [] := by
  have hlayers : layers X A parse S E config c
      = (authorizedLayers A S E config c ++ tokenLayers X A config c)
        ++ (callerLayers parse config ++ loggerLayers S config) := by
    simp only [layers, authorizedLayers, List.append_assoc]
  rw [reported, serve, hlayers, stack_append, filter_trace_stack, passing_callerLogger]
  · rfl
  · intro l hl
    rcases List.mem_append.mp hl with hl | hl
    · exact silent_callerLayers hl
    · exact silent_loggerLayers hl

theorem claims_callerLayers
    (h : passing (callerLayers parse config) (logged S config r) = some r') :
    r'.extensions.claims = none := by
  have hlogged : (logged S config r).extensions.claims = none := by
    rw [logged_extensions]
    rfl
  refine passing_invariant (P := fun r => r.extensions.claims = none) ?_ h hlogged
  intro l hl a a' ha hclaims
  obtain ⟨policy, -, rfl⟩ := List.mem_map.mp hl
  rw [Layer.pass?, callerAuthLayer] at ha
  grind [forwardRequest, Request.withIdentity]

/-! ### The layers behind it -/

/-- Behind the audit middleware only Cedar logs anything, and only about a request with claims. -/
theorem reported_inner (route : Route Ip)
    (hlogger : r'.extensions.auditLogger = auditLogger S config)
    (hquiet : r'.extensions.claims = none ∨
      ∀ logger ∈ auditLogger S config, logger.config.auditAuthEvents = false) :
    reported (stack (generalLayers A E config ++ cedarLayers S config c) (endpoint route) r').trace
      = [] := by
  have hgeneral : ∀ r₁, (stack (generalLayers A E config) (endpoint route) r₁).trace.filter
      (ofKind isReportedKind) = [] := by
    intro r₁
    rw [filter_trace_stack fun l hl => silent_generalLayers hl]
    cases passing (generalLayers A E config) r₁ with
    | none => rfl
    | some r₂ =>
      rw [Option.map_some, trace_endpoint]
      rfl
  rw [reported, stack_append, cedarLayers]
  cases stepValue (resolveCedar S config) with
  | none => exact hgeneral r'
  | some enabled =>
    rw [← hlogger] at hquiet
    have hsilent := cedarMiddleware_silent (p := ofKind isReportedKind) c.stamps
      ⟨enabled, c.cedarDecision⟩ hquiet
    refine (filter_trace_wrap hsilent _).trans ?_
    cases (cedarMiddleware c.stamps ⟨enabled, c.cedarDecision⟩).pass? r' with
    | none => rfl
    | some r₁ => exact hgeneral r₁

/-- What the layers behind the token middleware log. -/
theorem reported_behind (route : Route Ip) (h : Unresolved S config r r')
    (hquiet : r'.extensions.claims = none ∨
      ∀ logger ∈ auditLogger S config, logger.config.auditAuthEvents = false) :
    reported (stack (authorizedLayers A S E config c) (endpoint route) r').trace = [] ∨
      ∃ logger ∈ auditLogger S config, shouldAudit logger.config r.path = true ∧
        Admits A config c r' ∧ ¬ Panics A S E config c route r' := by
  have hinner := reported_inner (A := A) (E := E) (c := c) route h.logger hquiet
  rw [authorizedLayers, reported, stack_append,
    filter_trace_stack fun l hl => silent_governorLayers rfl hl]
  by_cases hadmits : Admits A config c r'
  · rw [passing_governorLayers_of_admits hadmits, Option.map_some, Option.getD_some, auditLayers]
    cases hlogger : auditLogger S config with
    | none =>
      rw [stack_append]
      exact .inl hinner
    | some logger =>
      rw [stack_append]
      rcases auditMiddleware_trace A c logger
        (stack (generalLayers A E config ++ cedarLayers S config c) (endpoint route)) h with
        ⟨htrace, -⟩ | ⟨event, -, -, -, hselected, houtcome⟩
      · exact .inl ((congrArg reported htrace).trans hinner)
      · rw [ne_eq, panicked_iff] at houtcome
        exact .inr ⟨logger, rfl, hselected, hadmits, houtcome⟩
  · rw [passing_governorLayers_of_not_admits hadmits]
    exact .inl rfl

/-- A request that is audited is logged without an address. -/
theorem exists_reported_behind (route : Route Ip) (hlogger : auditLogger S config = some logger)
    (h : Unresolved S config r r') (hselected : shouldAudit logger.config r.path = true)
    (hadmits : Admits A config c r') (hpanics : ¬ Panics A S E config c route r') :
    ∃ e ∈ (stack (authorizedLayers A S E config c) (endpoint route) r').trace,
      e.kind = .httpRequest ∧ e.source.ip = none := by
  have haudit : auditLayers A S config c = [auditMiddleware A c.stamps c.durationMs logger] := by
    rw [auditLayers, hlogger]
    rfl
  rcases auditMiddleware_trace A c logger
    (stack (generalLayers A E config ++ cedarLayers S config c) (endpoint route)) h with
    ⟨-, hnot⟩ | ⟨event, htrace, hkind, hip, -, -⟩
  · rw [panicked_iff] at hnot
    rcases hnot with hfalse | hpanic
    · exact absurd (hfalse.symm.trans hselected) Bool.false_ne_true
    · exact absurd hpanic hpanics
  · refine ⟨event, ?_, hkind, hip⟩
    rw [authorizedLayers, stack_append]
    refine mem_trace_stack (passing_governorLayers_of_admits hadmits) ?_
    rw [haudit, stack_append, stack_singleton, htrace]
    exact List.mem_append_right _ List.mem_cons_self

/-! ### The token middleware -/

/-- A request that is asked for a token is logged without an address. -/
theorem exists_reported_token (route : Route Ip) (hlogger : auditLogger S config = some logger)
    (h : Unresolved S config r r') (hasks : AsksToken X config c logger r') :
    ∃ e ∈ (stack (authorizedLayers A S E config c ++ tokenLayers X A config c) (endpoint route)
      r').trace, isReportedKind e.kind = true ∧ e.source.ip = none := by
  obtain ⟨hevents, auth, hauth, hnone⟩ := hasks
  obtain ⟨settings, -, hrevoked, -⟩ := tokenAuth_eq_some hauth
  obtain ⟨kind, hkind, severity, source, hip, hcases⟩ :=
    tokenMiddleware_of_asks A c.stamps hrevoked hnone
  rw [auditSourceForRequest_ip A h.context] at hip
  have htrace : authEvents c.stamps r'.extensions.auditLogger kind severity source
      = [logAuth c.stamps logger kind severity source] := by
    rw [h.logger, hlogger]
    simp [authEvents, hevents]
  have htoken : tokenLayers X A config c = [tokenMiddleware A c.stamps auth] := by
    rw [tokenLayers, show tokenAuth X config c = some auth from hauth]
    rfl
  have hreported : ∀ kind ∈ tokenKinds, isReportedKind kind = true := by decide
  refine ⟨logAuth c.stamps logger kind severity source, ?_, hreported kind hkind, hip⟩
  rw [htoken, stack_append, stack_singleton, Layer.wrap]
  rcases hcases with ⟨e, hhandling⟩ | ⟨claims, hhandling⟩
  · rw [hhandling, htrace]
    exact List.mem_cons_self
  · rw [hhandling, htrace]
    exact List.mem_cons_self

/-- **A request that is recorded is recorded without an address.** -/
theorem exists_reported_of_recorded (routes : Method → String → Route Ip)
    (h : Recorded X A parse S E config c (routes r.method r.path) r) :
    ∃ e ∈ reported (serve X A parse S E config c routes r).trace, e.source.ip = none := by
  obtain ⟨logger, hlogger, r₂, hcaller, hcases⟩ := h
  have h₂ := unresolved_callerLayers (unresolved_logged r) hcaller
  rw [reported_serve, hcaller, Option.map_some, Option.getD_some]
  rcases hcases with hasks | ⟨hselected, r₃, htoken, hadmits, hpanics⟩
  · obtain ⟨e, he, hkind, hip⟩ := exists_reported_token (routes r.method r.path) hlogger h₂ hasks
    exact ⟨e, List.mem_filter.mpr ⟨he, hkind⟩, hip⟩
  · rw [h₂.path] at hselected
    obtain ⟨e, he, hkind, hip⟩ := exists_reported_behind (routes r.method r.path) hlogger
      (unresolved_tokenLayers h₂ htoken) hselected hadmits hpanics
    refine ⟨e, List.mem_filter.mpr ⟨?_, ?_⟩, hip⟩
    · rw [stack_append]
      exact mem_trace_stack htoken he
    · rw [ofKind, hkind]
      rfl

/-- Nothing is logged about a token: none is asked for, or such events are off. -/
def TokenQuiet (X : TokenExterns) (config : Config) (c : Circumstances Ip) (r : Request Ip) :
    Prop :=
  ∀ auth ∈ tokenAuth X config c, auth.asksNone r = true ∨
    ∀ logger ∈ r.extensions.auditLogger, logger.config.auditAuthEvents = false

theorem tokenLayers_of_tokenAuth {auth : Option TokenAuth} (h : tokenAuth X config c = auth) :
    tokenLayers X A config c = auth.toList.map (tokenMiddleware A c.stamps) := by
  rw [tokenLayers, h]

/-- The token middleware then reports nothing. -/
theorem silent_of_tokenQuiet (h : TokenQuiet X config c r') {auth : TokenAuth}
    (hauth : tokenAuth X config c = some auth) :
    (tokenMiddleware A c.stamps auth r').Silent (ofKind isReportedKind) := by
  cases hasks : auth.asksNone r' with
  | true =>
    rw [tokenMiddleware_of_asksNone A c.stamps hasks]
    exact silent_forwardRequest rfl r'
  | false =>
    have hoff := (h auth hauth).resolve_left fun hnone =>
      Bool.false_ne_true (hasks.symm.trans hnone)
    obtain ⟨settings, -, hrevoked, -⟩ := tokenAuth_eq_some hauth
    obtain ⟨kind, -, severity, source, -, hcases⟩ :=
      tokenMiddleware_of_asks A c.stamps hrevoked hasks
    rw [authEvents_eq_nil hoff] at hcases
    rcases hcases with ⟨e, hhandling⟩ | ⟨claims, hhandling⟩
    · rw [hhandling]
      exact silent_refuse rfl e
    · rw [hhandling]
      exact silent_forwardRequest rfl _

/-- What is reported is then what the service behind it reports. -/
theorem reported_of_tokenQuiet (h : TokenQuiet X config c r') {inner : HttpService Ip}
    (hinner : ∀ r₃, passing (tokenLayers X A config c) r' = some r₃ →
      reported (inner r₃).trace = []) :
    reported (stack (tokenLayers X A config c) inner r').trace = [] := by
  cases hauth : tokenAuth X config c with
  | none =>
    rw [tokenLayers_of_tokenAuth hauth] at hinner ⊢
    exact hinner r' rfl
  | some auth =>
    rw [tokenLayers_of_tokenAuth hauth] at hinner ⊢
    refine (filter_trace_wrap (silent_of_tokenQuiet h hauth) inner).trans ?_
    cases hpass : (tokenMiddleware A c.stamps auth).pass? r' with
    | none => rfl
    | some r₃ => exact hinner r₃ ((passing_singleton _ r').trans hpass)

/-- A request it passes on has claims only if events about tokens are off. -/
theorem claims_of_tokenQuiet (h : TokenQuiet X config c r') (hclaims : r'.extensions.claims = none)
    {r₃ : Request Ip} (hpass : passing (tokenLayers X A config c) r' = some r₃) :
    r₃.extensions.claims = none ∨
      ∀ logger ∈ r'.extensions.auditLogger, logger.config.auditAuthEvents = false := by
  cases hauth : tokenAuth X config c with
  | none =>
    rw [tokenLayers_of_tokenAuth hauth] at hpass
    obtain rfl : r' = r₃ := Option.some.inj hpass
    exact .inl hclaims
  | some auth =>
    rcases h auth hauth with hnone | hoff
    · rw [tokenLayers_of_tokenAuth hauth, Option.toList_some, List.map_singleton,
        passing_singleton, Layer.pass?, tokenMiddleware_of_asksNone A c.stamps hnone] at hpass
      obtain rfl : r' = r₃ := Option.some.inj hpass
      exact .inl hclaims
    · exact .inr hoff

theorem tokenQuiet_of_not_asksToken (hlogger : r'.extensions.auditLogger = auditLogger S config)
    (h : ∀ logger ∈ auditLogger S config, ¬ AsksToken X config c logger r') :
    TokenQuiet X config c r' := by
  intro auth hauth
  by_cases hasks : auth.asksNone r' = true
  · exact .inl hasks
  · refine .inr fun logger hmem => Bool.eq_false_iff.mpr fun hevents => ?_
    rw [hlogger] at hmem
    exact h logger hmem ⟨hevents, auth, hauth, Bool.eq_false_iff.mpr hasks⟩

/-- **About a request that is not recorded nothing is reported.** -/
theorem reported_eq_nil_of_not_recorded (routes : Method → String → Route Ip)
    (h : ¬ Recorded X A parse S E config c (routes r.method r.path) r) :
    reported (serve X A parse S E config c routes r).trace = [] := by
  rw [reported_serve]
  cases hcaller : passing (callerLayers parse config) (logged S config r) with
  | none => rfl
  | some r₂ =>
    rw [Option.map_some, Option.getD_some, stack_append]
    have h₂ := unresolved_callerLayers (unresolved_logged r) hcaller
    have hquiet : TokenQuiet X config c r₂ := by
      refine tokenQuiet_of_not_asksToken h₂.logger fun logger hlogger hasks => ?_
      exact h ⟨logger, hlogger, r₂, hcaller, .inl hasks⟩
    refine reported_of_tokenQuiet hquiet fun r₃ htoken => ?_
    have hclaims := claims_of_tokenQuiet hquiet (claims_callerLayers hcaller) htoken
    rw [h₂.logger] at hclaims
    -- If the layers behind the token middleware logged something, the request would be recorded.
    refine (reported_behind (routes r.method r.path) (unresolved_tokenLayers h₂ htoken)
      hclaims).resolve_right ?_
    rintro ⟨logger, hlogger, hselected, hadmits, hpanics⟩
    rw [← h₂.path] at hselected
    exact h ⟨logger, hlogger, r₂, hcaller, .inr ⟨hselected, r₃, htoken, hadmits, hpanics⟩⟩

/-- **When events name the true origin.**  For every configuration, whatever it trusts, and every
two requests from one address that differ in the forwarding headers only: the events about them
name one address, that of the peer, exactly if neither is recorded. -/
theorem sameTrueOrigin_iff (X : TokenExterns) (A : AddrExterns Ip) (parse : ParseCertificate)
    (S : Surroundings) (E : ExternalLayers Ip) (config : Config) (c₁ c₂ : Circumstances Ip)
    (routes : Method → String → Route Ip) (r₁ r₂ : Incoming Ip)
    (hsame : SameButForwarded r₁ r₂) :
    SameTrueOrigin A r₁ (serve X A parse S E config c₁ routes r₁).trace
        (serve X A parse S E config c₂ routes r₂).trace
      ↔ ¬ Recorded X A parse S E config c₁ (routes r₁.method r₁.path) r₁ ∧
        ¬ Recorded X A parse S E config c₂ (routes r₁.method r₁.path) r₂ := by
  rw [show routes r₁.method r₁.path = routes r₂.method r₂.path by rw [hsame.method, hsame.path]]
  constructor
  · rintro ⟨-, hpeer⟩
    constructor
    · intro hrecorded
      rw [← hsame.method, ← hsame.path] at hrecorded
      obtain ⟨e, he, hip⟩ := exists_reported_of_recorded routes hrecorded
      exact Option.some_ne_none _ ((hpeer e (List.mem_append_left _ he)).symm.trans hip)
    · intro hrecorded
      obtain ⟨e, he, hip⟩ := exists_reported_of_recorded routes hrecorded
      exact Option.some_ne_none _ ((hpeer e (List.mem_append_right _ he)).symm.trans hip)
  · rintro ⟨h₁, h₂⟩
    rw [← hsame.method, ← hsame.path] at h₁
    rw [SameTrueOrigin, reported_eq_nil_of_not_recorded routes h₁,
      reported_eq_nil_of_not_recorded routes h₂]
    simp

end Proofs

/-! ### Samples -/

/-- A service with JSON Web Tokens and policies, which trusts no forwarding header. -/
def sampleTokenConfig (audit : AuditConfig) : Config where
  serviceName := "billing"
  trustForwardedHeaders := false
  middleware := ⟨"restrictive", true, true, true, true, true⟩
  token := some (.jwt ⟨"./keys/jwt.key", "HS256", none, none, []⟩)
  callerAuth := none
  tls := none
  rateLimit := ⟨false, false⟩
  cedar := some true
  audit := some audit

/-- A library that accepts every token as one of `user:7`. -/
def sampleAccepting : TokenExterns :=
  { sampleTokenExterns with
    decode := fun _ _ _ _ _ _ =>
      .ok ⟨"user:7", none, none, [], [], 4102444800, none, none, none, none, OrderedMap.empty⟩ }

/-- The circumstances when the policies deny everything. -/
def sampleDenying : Circumstances String :=
  { sampleCircumstances with cedarDecision := fun _ _ => .ok .deny }

/-- A request from one address, with a token and a forwarding header or without. -/
def sampleOriginRequest (token : Bool) (forwarded : String) : Incoming String where
  method := .get
  path := "/invoices"
  headers := (if token then [("authorization", strBytes "Bearer t")] else [])
    ++ [("x-forwarded-for", strBytes forwarded)]
  connection := .plain ⟨"192.0.2.9", 40000⟩
  matchedPath := none

/-- What is logged of the request. -/
def sampleOriginTrace (audit : AuditConfig) (token : Bool) (forwarded : String) :
    List AuditEvent :=
  (serve sampleAccepting sampleAddr (fun _ => .ok none) sampleSurroundings sampleExternal
    (sampleTokenConfig audit) sampleDenying (fun _ _ => ⟨none, fun _ => .returned ⟨200, none⟩⟩)
    (sampleOriginRequest token forwarded)).trace

theorem sameButForwarded_sample (token : Bool) (forwarded forwarded' : String) :
    SameButForwarded (sampleOriginRequest token forwarded)
      (sampleOriginRequest token forwarded') := by
  refine ⟨rfl, rfl, rfl, ?_, rfl⟩
  cases token <;> rfl

/-- With auditing off there is nothing to name an address. -/
theorem sameTrueOrigin_iff_sample :
    SameTrueOrigin sampleAddr (sampleOriginRequest true "203.0.113.5")
      (sampleOriginTrace { AuditConfig.standard with enabled := false } true "203.0.113.5")
      (sampleOriginTrace { AuditConfig.standard with enabled := false } true "203.0.113.6") := by
  refine (sameTrueOrigin_iff sampleAccepting sampleAddr (fun _ => .ok none) sampleSurroundings
    sampleExternal (sampleTokenConfig { AuditConfig.standard with enabled := false }) sampleDenying
    sampleDenying _ _ _ (sameButForwarded_sample true "203.0.113.5" "203.0.113.6")).mpr ⟨?_, ?_⟩
  · rintro ⟨logger, hlogger, -⟩
    exact absurd hlogger nofun
  · rintro ⟨logger, hlogger, -⟩
    exact absurd hlogger nofun

/-- Events do not always name the true origin: a request without a token is logged without an
address, and one the policies deny is logged with the address its header gives. -/
theorem not_forall_sameTrueOrigin :
    (sampleTokenConfig .standard).trustForwardedHeaders = false ∧
    SameButForwarded (sampleOriginRequest false "203.0.113.5")
      (sampleOriginRequest false "203.0.113.6") ∧
    ¬ SameTrueOrigin sampleAddr (sampleOriginRequest false "203.0.113.5")
      (sampleOriginTrace .standard false "203.0.113.5")
      (sampleOriginTrace .standard false "203.0.113.6") ∧
    SameButForwarded (sampleOriginRequest true "203.0.113.5")
      (sampleOriginRequest true "203.0.113.6") ∧
    (reported (sampleOriginTrace .standard true "203.0.113.5")).map
        (fun e => (e.kind, e.source.ip))
      = [(.authLoginSuccess, none), (.authPermissionDenied, some "203.0.113.5")] ∧
    (reported (sampleOriginTrace .standard true "203.0.113.6")).map
        (fun e => (e.kind, e.source.ip))
      = [(.authLoginSuccess, none), (.authPermissionDenied, some "203.0.113.6")] := by
  refine ⟨rfl, sameButForwarded_sample _ _ _, ?_, sameButForwarded_sample _ _ _, ?_, ?_⟩
  · rintro ⟨-, hpeer⟩
    have hmissing : (reported (sampleOriginTrace .standard false "203.0.113.5")).map
        (fun e => e.source.ip) = [none] := by
      decide
    obtain ⟨e, he, hip⟩ := List.mem_map.mp (hmissing ▸ List.mem_singleton_self none)
    exact Option.some_ne_none _ ((hpeer e (List.mem_append_left _ he)).symm.trans hip)
  · decide
  · decide

end ServiceBuilder

end ActonService
