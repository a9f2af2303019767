import ActonService.ServiceBuilder.Events

/-!
# Which requests are audited

A request that is authenticated should leave one event: of the kind its route is annotated with,
or of the kind `http.request` if its path is selected by the configuration.

The annotation is inserted behind the audit middleware, which does not see it.  The rate limiter
stands before the audit middleware, which does not see what it refuses.

## Main definitions

* `requestKinds` — the kinds of the request events in a trace.
* `expectedKinds` — the kinds there should be.
* `Authenticated` — the request gets through caller authorisation and the token middleware.

## Main results

* `covered_iff` — **a request is audited as it should be exactly if its route is not annotated
  and, if its path is selected, the rate limiter admits it and nothing panics.**
-/

namespace ActonService

namespace ServiceBuilder

open Layers

variable {Ip : Type}

/-- The kinds of the events for requests. -/
def isRequestKind : AuditEventKind → Bool
  | .httpRequest => true
  | .custom _ => true
  | _ => false

/-- The kinds of the request events in a trace. -/
def requestKinds (trace : List AuditEvent) : List AuditEventKind :=
  (trace.filter (ofKind isRequestKind)).map AuditEvent.kind

/-- The kinds of the request events there should be. -/
def expectedKinds (logger : AuditLogger) (route : Route Ip) (path : String) :
    List AuditEventKind :=
  match route.annotation with
  | some name => [.custom name]
  | none => if shouldAudit logger.config path then [.httpRequest] else []

/-- The request gets through caller authorisation and the token middleware, as `r'`. -/
def Authenticated (X : TokenExterns) (A : AddrExterns Ip) (parse : ParseCertificate)
    (S : Surroundings) (config : Config) (c : Circumstances Ip) (r : Incoming Ip)
    (r' : Request Ip) : Prop :=
  (passing (callerLayers parse config) (logged S config r)).bind
    (passing (tokenLayers X A config c)) = some r'

section Proofs

variable {X : TokenExterns} {A : AddrExterns Ip} {parse : ParseCertificate} {S : Surroundings}
  {E : ExternalLayers Ip} {config : Config} {c : Circumstances Ip} {r : Incoming Ip}
  {r' : Request Ip} {logger : AuditLogger}

/-- The layers from the rate limiter on record no request event. -/
theorem requestKinds_serve (routes : Method → String → Route Ip)
    (h : Authenticated X A parse S config c r r') :
    (serve X A parse S E config c routes r).trace.filter (ofKind isRequestKind)
      = ((passing (governorLayers A config c) r').map fun r₁ =>
          (stack (generalLayers A E config ++ cedarLayers S config c ++ auditLayers A S config c)
            (endpoint (routes r.method r.path)) r₁).trace.filter
            (ofKind isRequestKind)).getD [] := by
  have hlayers : layers X A parse S E config c
      = (generalLayers A E config ++ cedarLayers S config c ++ auditLayers A S config c)
        ++ (governorLayers A config c ++ tokenLayers X A config c ++ callerLayers parse config
          ++ loggerLayers S config) := by
    simp only [layers, List.append_assoc]
  have hpassing : passing (governorLayers A config c ++ tokenLayers X A config c
      ++ callerLayers parse config ++ loggerLayers S config) r.request
        = passing (governorLayers A config c) r' := by
    rw [passing_append, passing_loggerLayers, Option.bind_some, passing_append]
    have hrest : ∀ r₁, passing (governorLayers A config c ++ tokenLayers X A config c) r₁
        = (passing (tokenLayers X A config c) r₁).bind (passing (governorLayers A config c)) :=
      fun r₁ => passing_append _ _ r₁
    rw [funext hrest, ← Option.bind_assoc, h, Option.bind_some]
  rw [serve, hlayers, stack_append, filter_trace_stack, hpassing]
  intro l hl
  simp only [List.mem_append] at hl
  rcases hl with ((hl | hl) | hl) | hl
  · exact silent_governorLayers rfl hl
  · exact silent_tokenLayers (by decide) hl
  · exact silent_callerLayers hl
  · exact silent_loggerLayers hl

theorem unresolved_of_authenticated (h : Authenticated X A parse S config c r r') :
    Unresolved S config r r' := by
  obtain ⟨r₁, hcaller, htoken⟩ := Option.bind_eq_some_iff.mp h
  exact unresolved_tokenLayers (unresolved_callerLayers (unresolved_logged r) hcaller) htoken

/-- The audit middleware logs a request if its path is selected and the layers behind it do not
panic. -/
theorem requestKinds_audit (hlogger : auditLogger S config = some logger) (route : Route Ip)
    (h : Unresolved S config r r') :
    requestKinds (stack (generalLayers A E config ++ cedarLayers S config c
        ++ auditLayers A S config c) (endpoint route) r').trace = [.httpRequest] ∧
        shouldAudit logger.config r.path = true ∧ ¬ Panics A S E config c route r' ∨
      requestKinds (stack (generalLayers A E config ++ cedarLayers S config c
        ++ auditLayers A S config c) (endpoint route) r').trace = [] ∧
        ¬ (shouldAudit logger.config r.path = true ∧ ¬ Panics A S E config c route r') := by
  have hinner : (stack (generalLayers A E config ++ cedarLayers S config c) (endpoint route)
      r').trace.filter (ofKind isRequestKind) = [] := by
    rw [filter_trace_stack]
    · cases passing (generalLayers A E config ++ cedarLayers S config c) r' with
      | none => rfl
      | some r₁ =>
        rw [Option.map_some, trace_endpoint]
        rfl
    · intro l hl
      rcases List.mem_append.mp hl with hl | hl
      · exact silent_generalLayers hl
      · exact silent_cedarLayers rfl hl
  have haudit : auditLayers A S config c = [auditMiddleware A c.stamps c.durationMs logger] := by
    rw [auditLayers, hlogger]
    rfl
  rw [← panicked_iff, haudit, stack_append, stack_singleton, requestKinds]
  rcases auditMiddleware_trace A c logger
    (stack (generalLayers A E config ++ cedarLayers S config c) (endpoint route)) h with
    ⟨htrace, hnot⟩ | ⟨event, htrace, hkind, -, hselected, houtcome⟩
  · refine .inr ⟨by rw [htrace, hinner]; rfl, ?_⟩
    rintro ⟨hselected, houtcome⟩
    rcases hnot with hfalse | hpanic
    · exact Bool.false_ne_true (hfalse.symm.trans hselected)
    · exact houtcome hpanic
  · refine .inl ⟨?_, hselected, houtcome⟩
    rw [htrace, List.filter_append, hinner, List.nil_append]
    simp [ofKind, hkind, isRequestKind]

/-- A middleware that logs a selected path without looking at the annotation does what it should
exactly if there is none and a selected path is logged. -/
theorem eq_expectedKinds_iff {kinds : List AuditEventKind} {route : Route Ip} {path : String}
    {Q : Prop}
    (hkinds : kinds = [.httpRequest] ∧ shouldAudit logger.config path = true ∧ Q ∨
      kinds = [] ∧ ¬ (shouldAudit logger.config path = true ∧ Q)) :
    kinds = expectedKinds logger route path
      ↔ route.annotation = none ∧ (shouldAudit logger.config path = true → Q) := by
  rw [expectedKinds]
  cases route.annotation with
  | some name => rcases hkinds with ⟨rfl, -⟩ | ⟨rfl, -⟩ <;> simp
  | none =>
    cases hselected : shouldAudit logger.config path with
    | false =>
      rw [hselected] at hkinds
      rcases hkinds with ⟨-, htrue, -⟩ | ⟨rfl, -⟩
      · contradiction
      · simp
    | true =>
      rw [hselected] at hkinds
      rcases hkinds with ⟨rfl, -, hQ⟩ | ⟨rfl, hnot⟩
      · simp [hQ]
      · simp only [true_and] at hnot
        simp [hnot]

/-- **Which requests are audited as they should be.**  For every configuration with auditing on,
every set of routes and every request that is authenticated: there is one request event of the
right kind if there should be one, and none otherwise, exactly if its route has no annotation and,
where its path is selected, the rate limiter admits it and the handler does not panic uncaught. -/
theorem covered_iff (X : TokenExterns) (A : AddrExterns Ip) (parse : ParseCertificate)
    (S : Surroundings) (E : ExternalLayers Ip) (config : Config) (logger : AuditLogger)
    (hlogger : auditLogger S config = some logger) (c : Circumstances Ip)
    (routes : Method → String → Route Ip) (r : Incoming Ip) (r' : Request Ip)
    (hauth : Authenticated X A parse S config c r r') :
    requestKinds (serve X A parse S E config c routes r).trace
        = expectedKinds logger (routes r.method r.path) r.path
      ↔ Route.annotation (routes r.method r.path) = none ∧
        (shouldAudit logger.config r.path = true →
          Admits A config c r' ∧ ¬ Panics A S E config c (routes r.method r.path) r') := by
  have hunresolved := unresolved_of_authenticated hauth
  -- What is logged does not depend on the annotation.
  have hkinds : requestKinds (serve X A parse S E config c routes r).trace = [.httpRequest] ∧
        shouldAudit logger.config r.path = true ∧ (Admits A config c r' ∧
          ¬ Panics A S E config c (routes r.method r.path) r') ∨
      requestKinds (serve X A parse S E config c routes r).trace = [] ∧
        ¬ (shouldAudit logger.config r.path = true ∧ (Admits A config c r' ∧
          ¬ Panics A S E config c (routes r.method r.path) r')) := by
    rw [requestKinds, requestKinds_serve routes hauth]
    by_cases hadmits : Admits A config c r'
    · rw [passing_governorLayers_of_admits hadmits, Option.map_some, Option.getD_some]
      rcases requestKinds_audit (E := E) (c := c) (A := A) hlogger (routes r.method r.path)
        hunresolved with ⟨hkinds, hselected, hpanics⟩ | ⟨hkinds, hnot⟩
      · exact .inl ⟨hkinds, hselected, hadmits, hpanics⟩
      · exact .inr ⟨hkinds, fun h => hnot ⟨h.1, h.2.2⟩⟩
    · rw [passing_governorLayers_of_not_admits hadmits]
      exact .inr ⟨rfl, fun h => hadmits h.2.1⟩
  exact eq_expectedKinds_iff hkinds

end Proofs

/-! ### Samples -/

/-- A service that audits everything and asks for no credentials. -/
def sampleAuditConfig (limited : Bool) : Config where
  serviceName := "billing"
  trustForwardedHeaders := false
  middleware := ⟨"restrictive", true, true, true, true, true⟩
  token := none
  callerAuth := none
  tls := none
  rateLimit := ⟨limited, false⟩
  cedar := none
  audit := some { AuditConfig.standard with auditAllRequests := true }

def sampleLogger : AuditLogger :=
  ⟨"billing", { AuditConfig.standard with auditAllRequests := true }⟩

/-- The circumstances when the budget is spent. -/
def sampleSpent : Circumstances String :=
  { sampleCircumstances with checkRateLimit := fun _ _ _ _ => .refused .rateLimitExceeded }

def sampleVisit : Incoming String where
  method := .delete
  path := "/users/7"
  headers := []
  connection := .plain ⟨"192.0.2.9", 40000⟩
  matchedPath := none

/-- The routes of a service, annotated or not. -/
def sampleAnnotated (label : Option String) (_ : Method) (_ : String) : Route String :=
  ⟨label, fun _ => .returned ⟨204, none⟩⟩

/-- What is logged of the request. -/
def sampleKinds (label : Option String) (limited : Bool) (c : Circumstances String) :
    List AuditEventKind :=
  requestKinds (serve sampleTokenExterns sampleAddr (fun _ => .ok none) sampleSurroundings
    sampleExternal (sampleAuditConfig limited) c (sampleAnnotated label) sampleVisit).trace

theorem covered_iff_sample : sampleKinds none true sampleCircumstances = [.httpRequest] := by
  refine (covered_iff sampleTokenExterns sampleAddr (fun _ => .ok none) sampleSurroundings
    sampleExternal (sampleAuditConfig true) sampleLogger rfl sampleCircumstances
    (sampleAnnotated none) sampleVisit (logged sampleSurroundings (sampleAuditConfig true)
      sampleVisit) rfl).mpr ⟨rfl, fun _ => ⟨fun _ => rfl, ?_⟩⟩
  rintro ⟨hcatch, -⟩
  contradiction

/-- Requests are not always audited as they should be: the event of an annotated route is not of
its kind, and what the rate limiter refuses is not logged. -/
theorem not_forall_covered :
    (∀ limited, auditLogger sampleSurroundings (sampleAuditConfig limited) = some sampleLogger ∧
      ∀ c, ∃ r', Authenticated sampleTokenExterns sampleAddr (fun _ => .ok none) sampleSurroundings
        (sampleAuditConfig limited) c sampleVisit r') ∧
    sampleKinds (some "user.delete") false sampleCircumstances
      ≠ expectedKinds sampleLogger (sampleAnnotated (some "user.delete") .delete "/users/7")
        "/users/7" ∧
    sampleKinds none true sampleSpent
      ≠ expectedKinds sampleLogger (sampleAnnotated none .delete "/users/7") "/users/7" := by
  refine ⟨fun limited => ⟨rfl, fun c => ⟨_, rfl⟩⟩, ?_, ?_⟩
  · decide
  · decide

end ServiceBuilder

end ActonService
