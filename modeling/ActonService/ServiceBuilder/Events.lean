import ActonService.ServiceBuilder.Build

/-!
# What the layers record

Which layer of a service logs which events, and what the layers before the request context know of
a request: its path, the logger, and neither a request context nor the annotation of its route,
which are inserted further in.

## Main definitions

* `Unresolved` — a request before the request context is inserted.
* `Panics` — the handler panics and no layer catches it.

## Main results

* `unresolved_logged`, `unresolved_callerLayers`, `unresolved_tokenLayers` — what the layers get.
* `panicked_iff` — when the layers behind the audit middleware panic.
* `auditMiddleware_trace` — what the audit middleware logs of such a request.
-/

namespace ActonService

namespace ServiceBuilder

open Layers

variable {Ip : Type} {X : TokenExterns} {A : AddrExterns Ip} {parse : ParseCertificate}
  {S : Surroundings} {E : ExternalLayers Ip} {config : Config} {c : Circumstances Ip}
  {P : AuditEventKind → Bool}

/-! ### Who logs nothing of a kind -/

theorem silent_loggerLayers {l : HttpLayer Ip} (hl : l ∈ loggerLayers S config) :
    Silent (ofKind P) l := by
  obtain ⟨logger, -, rfl⟩ := List.mem_map.mp hl
  intro r
  exact silent_forwardRequest rfl _

theorem silent_callerAuthLayer (policy : CallerAuthPolicy) :
    Silent (ofKind P) (callerAuthLayer parse policy : HttpLayer Ip) := by
  intro r
  rw [callerAuthLayer]
  split
  · exact silent_forwardRequest rfl r
  · split
    · exact silent_forwardRequest rfl _
    · exact silent_forwardRequest rfl r
    · exact List.filter_nil

theorem silent_callerLayers {l : HttpLayer Ip} (hl : l ∈ callerLayers parse config) :
    Silent (ofKind P) l := by
  obtain ⟨policy, -, rfl⟩ := List.mem_map.mp hl
  exact silent_callerAuthLayer policy

theorem silent_governorLayers (hdenied : P .httpRequestDenied = false) {l : HttpLayer Ip}
    (hl : l ∈ governorLayers A config c) : Silent (ofKind P) l := by
  rw [governorLayers] at hl
  split at hl
  · rw [List.mem_singleton.mp hl]
    intro r
    rw [governorMiddleware]
    split
    · exact silent_forwardRequest rfl r
    · exact List.filter_nil
    · refine silent_refuse ?_ _
      split
      · exact filter_authEvents hdenied _ _ _ _
      · rfl
  · contradiction

theorem silent_tokenLayers
    (hkinds : ∀ kind ∈ [AuditEventKind.authTokenMissing, .authTokenInvalid, .authTokenRevoked,
      .authLoginSuccess], P kind = false) {l : HttpLayer Ip}
    (hl : l ∈ tokenLayers X A config c) : Silent (ofKind P) l := by
  obtain ⟨auth, -, rfl⟩ := List.mem_map.mp hl
  intro r
  rw [tokenMiddleware]
  split
  · exact silent_forwardRequest rfl r
  · split
    · exact silent_refuse (filter_authEvents (hkinds _ (by simp)) _ _ _ _) _
    · split
      · exact silent_refuse (filter_authEvents (hkinds _ (by simp)) _ _ _ _) _
      · split
        · exact silent_refuse rfl _
        · refine silent_refuse ?_ _
          rw [List.filter_map]
          exact List.map_eq_nil_iff.mpr (filter_authEvents (hkinds _ (by simp)) _ _ _ _)
        · exact silent_forwardRequest (filter_authEvents (hkinds _ (by simp)) _ _ _ _) _

theorem silent_cedarLayers (hdenied : P .authPermissionDenied = false) {l : HttpLayer Ip}
    (hl : l ∈ cedarLayers S config c) : Silent (ofKind P) l := by
  obtain ⟨enabled, -, rfl⟩ := List.mem_map.mp hl
  intro r
  rw [cedarMiddleware]
  split
  · exact silent_forwardRequest rfl r
  · split
    · exact silent_forwardRequest rfl r
    · split
      · exact silent_refuse rfl _
      · split
        · exact silent_refuse rfl _
        · exact silent_forwardRequest rfl r
        · exact silent_refuse (filter_authEvents hdenied _ _ _ _) _

/-- The general layers are filters, but for the request context and the catching of panics. -/
theorem generalLayers_cases {l : HttpLayer Ip} (hl : l ∈ generalLayers A E config) :
    (∃ f : HttpFilter Ip, l = f.layer) ∨
      l = requestContextMiddleware A config.trustForwardedHeaders ∨
      config.middleware.catchPanic = true ∧ l = catchPanic E.panicResponse := by
  simp only [generalLayers, applyMiddleware, List.mem_append, List.mem_cons, List.mem_map,
    List.not_mem_nil, or_false, List.mem_ite_nil_right] at hl
  rcases hl with (((((((((h | h) | ⟨-, h⟩) | h | h | h) | ⟨f, -, h⟩) | h) | ⟨-, h⟩) | ⟨-, h⟩) |
    ⟨-, h⟩) | h) | ⟨f, -, h⟩
  · exact .inl ⟨_, h⟩
  · exact .inl ⟨_, h⟩
  · exact .inl ⟨_, h⟩
  · exact .inl ⟨_, h⟩
  · exact .inl ⟨_, h⟩
  · exact .inl ⟨_, h⟩
  · exact .inl ⟨f, h.symm⟩
  · exact .inr (.inl h)
  · exact .inl ⟨_, h⟩
  · exact .inl ⟨_, h⟩
  · exact .inl ⟨_, h⟩
  · exact .inr (.inr h)
  · exact .inl ⟨f, h.symm⟩

theorem silent_generalLayers {l : HttpLayer Ip} (hl : l ∈ generalLayers A E config) :
    Silent (ofKind P) l := by
  rcases generalLayers_cases hl with ⟨f, rfl⟩ | rfl | ⟨-, rfl⟩
  · exact f.silent _
  · exact fun r => silent_forwardRequest rfl _
  · exact silent_catchPanic _ _

theorem trace_endpoint (route : Route Ip) (r : Request Ip) : (endpoint route r).trace = [] := by
  rw [endpoint]
  cases route.annotation <;> rfl

/-! ### What the layers know of a request -/

/-- The request as the layers before the request context see it. -/
structure Unresolved (S : Surroundings) (config : Config) (r : Incoming Ip) (r' : Request Ip) :
    Prop where
  path : r'.path = r.path
  logger : r'.extensions.auditLogger = auditLogger S config
  context : r'.extensions.requestContext = none
  route : r'.extensions.auditRoute = none

theorem unresolved_logged (r : Incoming Ip) : Unresolved S config r (logged S config r) := by
  refine ⟨logged_path r, ?_, ?_, ?_⟩
  · rw [logged_extensions]
  · rw [logged_extensions]
    rfl
  · rw [logged_extensions]
    rfl

theorem unresolved_callerLayers {r : Incoming Ip} {r₁ r₂ : Request Ip}
    (h₁ : Unresolved S config r r₁) (h : passing (callerLayers parse config) r₁ = some r₂) :
    Unresolved S config r r₂ := by
  refine passing_invariant (P := Unresolved S config r) ?_ h h₁
  intro l hl a a' ha hP
  obtain ⟨policy, -, rfl⟩ := List.mem_map.mp hl
  rw [Layer.pass?, callerAuthLayer] at ha
  split at ha
  · contradiction
  · rename_i hpass
    cases ha
    split at hpass
    · cases hpass
      exact hP
    · split at hpass
      · cases hpass
        exact ⟨hP.path, hP.logger, hP.context, hP.route⟩
      · cases hpass
        exact hP
      · contradiction

theorem unresolved_tokenLayers {r : Incoming Ip} {r₂ r₃ : Request Ip}
    (h₂ : Unresolved S config r r₂) (h : passing (tokenLayers X A config c) r₂ = some r₃) :
    Unresolved S config r r₃ := by
  refine passing_invariant (P := Unresolved S config r) ?_ h h₂
  intro l hl a a' ha hP
  obtain ⟨auth, -, rfl⟩ := List.mem_map.mp hl
  rcases tokenMiddleware_pass?_cases ha with ⟨-, rfl⟩ | ⟨token, claims, -, -, rfl⟩
  · exact hP
  · exact ⟨hP.path, hP.logger, hP.context, hP.route⟩

/-! ### Panics -/

theorem keepsPanic_cedarLayers {l : HttpLayer Ip} (hl : l ∈ cedarLayers S config c) :
    KeepsPanic l := by
  obtain ⟨enabled, -, rfl⟩ := List.mem_map.mp hl
  intro r
  rw [cedarMiddleware]
  split
  · exact keepsPanic_forwardRequest r
  · split
    · exact keepsPanic_forwardRequest r
    · split
      · exact keepsPanic_refuse _
      · split
        · exact keepsPanic_refuse _
        · exact keepsPanic_forwardRequest r
        · exact keepsPanic_refuse _

theorem keepsPanic_generalLayers (hcatch : config.middleware.catchPanic = false)
    {l : HttpLayer Ip} (hl : l ∈ generalLayers A E config) : KeepsPanic l := by
  rcases generalLayers_cases hl with ⟨f, rfl⟩ | rfl | ⟨hcatches, -⟩
  · exact f.keepsPanic
  · exact fun r => keepsPanic_forwardRequest _
  · rw [hcatch] at hcatches
    contradiction

/-- The handler panics, and no layer catches it. -/
def Panics (A : AddrExterns Ip) (S : Surroundings) (E : ExternalLayers Ip) (config : Config)
    (c : Circumstances Ip) (route : Route Ip) (r : Request Ip) : Prop :=
  config.middleware.catchPanic = false ∧
    ∃ r', passing (generalLayers A E config ++ cedarLayers S config c) r = some r' ∧
      (endpoint route r').outcome = .panicked

/-- **When the layers behind the audit middleware panic.** -/
theorem panicked_iff (route : Route Ip) (r : Request Ip) :
    (stack (generalLayers A E config ++ cedarLayers S config c) (endpoint route) r).outcome
        = .panicked
      ↔ Panics A S E config c route r := by
  cases hcatch : config.middleware.catchPanic with
  | false =>
    rw [panicked_stack, Panics, hcatch]
    · exact (and_iff_right rfl).symm
    · intro l hl
      rcases List.mem_append.mp hl with hl | hl
      · exact keepsPanic_generalLayers hcatch hl
      · exact keepsPanic_cedarLayers hl
  | true =>
    -- The layer that catches panics is the outermost of `apply_middleware`.
    obtain ⟨inner, hinner⟩ : ∃ inner, applyMiddleware A E config
        = inner ++ [catchPanic E.panicResponse] := by
      rw [applyMiddleware, hcatch]
      exact ⟨_, rfl⟩
    constructor
    · intro hpanic
      rw [generalLayers, hinner, List.append_assoc (inner ++ _), stack_append (inner ++ _),
        stack_append inner, stack_singleton, panicked_stack] at hpanic
      · obtain ⟨r', -, hr'⟩ := hpanic
        exact absurd hr' (outcome_catchPanic _ _ r')
      · intro l hl
        rcases List.mem_append.mp hl with hl | hl
        · obtain ⟨f, -, rfl⟩ := List.mem_map.mp hl
          exact f.keepsPanic
        · exact keepsPanic_cedarLayers hl
    · rintro ⟨hfalse, -⟩
      rw [hcatch] at hfalse
      contradiction

/-! ### The audit middleware -/

/-- The audit middleware around the layers behind it, without an annotation in sight: it logs one
event if the path is selected and they do not panic. -/
theorem auditMiddleware_trace (A : AddrExterns Ip) (c : Circumstances Ip) (logger : AuditLogger)
    (inner : HttpService Ip) {r : Incoming Ip} {r' : Request Ip} (h : Unresolved S config r r') :
    ((auditMiddleware A c.stamps c.durationMs logger).wrap inner r').trace
        = (inner r').trace ∧
        (shouldAudit logger.config r.path = false ∨ (inner r').outcome = .panicked) ∨
      ∃ event, ((auditMiddleware A c.stamps c.durationMs logger).wrap inner r').trace
          = (inner r').trace ++ [event] ∧
        event.kind = .httpRequest ∧ event.source.ip = none ∧
        shouldAudit logger.config r.path = true ∧ (inner r').outcome ≠ .panicked := by
  have hsource := auditSourceForRequest_ip A h.context
  rw [Layer.wrap, auditMiddleware, h.route, h.path]
  cases hselected : shouldAudit logger.config r.path with
  | false =>
    refine .inl ⟨?_, .inl rfl⟩
    exact List.append_nil _
  | true =>
    cases houtcome : (inner r').outcome with
    | panicked =>
      refine .inl ⟨?_, .inr rfl⟩
      simp [houtcome, finishRequest]
    | returned response =>
      refine .inr ⟨requestEvent A c.stamps c.durationMs logger r' response, ?_, ?_, ?_, rfl, ?_⟩
      · simp [houtcome, finishRequest]
      · simp [requestEvent, h.route, AuditEvent.new]
      · exact hsource
      · simp

end ServiceBuilder

end ActonService
