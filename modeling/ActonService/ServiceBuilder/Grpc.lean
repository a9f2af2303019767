import ActonService.Middleware.CallerDecision
import ActonService.ServiceBuilder.Admission

/-!
# The layers of the gRPC router

The part of `ServiceBuilder::build` that puts layers around the registered gRPC services:
`GrpcTokenAuthLayer` of `grpc/middleware.rs`, `CedarAuthzLayer` of `middleware/cedar.rs` and
`CallerAuthLayer::grpc`.  The validator, the caller policy and the Cedar handle are those of the
HTTP router; what differs is what is exempt, how a request is refused and what Cedar is asked.

## Main definitions

* `grpcTokenLayer`, `grpcCallerLayer`, `grpcCedarLayer` — the layers.
* `GrpcCedar.ofPolicies` — the decision of `authorize_grpc_request`.
* `ServiceBuilder.grpcLayers`, `ServiceBuilder.serveGrpc` — the router.
* `ServiceBuilder.GrpcReached` — who is to reach a service.

## Main results

* `ServiceBuilder.grpc_authenticates_as_http` — **both routers make the same of a request's
  credentials.**
* `ServiceBuilder.serveGrpc_handled_iff` — **which requests reach a gRPC service.**
-/

namespace ActonService

open Layers

/-! ### Statuses -/

/-- `tonic::Code`, as far as the layers answer with it. -/
inductive StatusCode
  | unauthenticated
  | permissionDenied
  | internal
  deriving DecidableEq, Repr

/-- `tonic::Status` -/
structure GrpcStatus where
  code : StatusCode
  message : String
  deriving DecidableEq, Repr

/-- The status of a refused caller.  On a gRPC router a refusal has no other shape. -/
def WireRefusal.status : WireRefusal → GrpcStatus
  | .grpc .unauthenticated message => ⟨.unauthenticated, message⟩
  | .grpc .permissionDenied message => ⟨.permissionDenied, message⟩
  | .http _ => ⟨.internal, ""⟩

/-- The layers of a gRPC router. -/
abbrev GrpcLayer (Ip : Type) := Layer (Request Ip) GrpcStatus AuditEvent

variable {Ip : Type}

/-- The status a layer answers with. -/
def refuseGrpc (trace : List AuditEvent) (code : StatusCode) (message : String) :
    Handling (Request Ip) GrpcStatus AuditEvent :=
  .answer trace (.returned ⟨code, message⟩)

/-- A request passed on as it is, with nothing logged and its response left alone. -/
def forwardGrpc (r : Request Ip) : Handling (Request Ip) GrpcStatus AuditEvent :=
  .pass [] r unchanged

/-! ### The layers -/

/-- No token is asked of the request. -/
def TokenAuth.grpcAsksNone (auth : TokenAuth) (r : Request Ip) : Bool :=
  isGrpcInfraPath r.path || isPublicPath auth.publicPaths r.path || r.extensions.bearerWaived

/-- `GrpcTokenAuthLayer` -/
def grpcTokenLayer (auth : TokenAuth) : GrpcLayer Ip := fun r =>
  if auth.grpcAsksNone r then forwardGrpc r
  else
    match (extractToken r.headers).bind auth.validateToken with
    | .ok claims => forwardGrpc (r.withClaims claims)
    | .error e => refuseGrpc [] .unauthenticated e.display

/-- `CallerAuthLayer::grpc` -/
def grpcCallerLayer (parse : ParseCertificate) (policy : CallerAuthPolicy) : GrpcLayer Ip :=
  fun r =>
  match CallerAuthService.call parse ⟨policy, .grpc⟩ r with
  | .forwarded r' => forwardGrpc r'
  | .refused refusal => .answer [] (.returned refusal.status)

/-- `CedarAuthz` in a gRPC layer, at the time of a request. -/
structure GrpcCedar where
  enabled : Bool
  /-- What the policies say of the headers, the method path and the claims. -/
  decision : HeaderMap → String → Claims → Except GrpcStatus Decision

/-- `CedarAuthzLayer`, which calls `authorize_grpc_request`. -/
def grpcCedarLayer (stamps : Stamps) (authz : GrpcCedar) : GrpcLayer Ip := fun r =>
  if !authz.enabled then forwardGrpc r
  else if isGrpcInfraPath r.path then forwardGrpc r
  else
    match r.extensions.claims with
    | none =>
      refuseGrpc [] .unauthenticated ("Missing authentication claims. Ensure a token " ++
        "authentication layer runs before the Cedar layer.")
    | some claims =>
      match authz.decision r.headers r.path claims with
      | .error status => .answer [] (.returned status)
      | .ok .allow => forwardGrpc r
      | .ok .deny =>
        refuseGrpc
          (authEvents stamps r.extensions.auditLogger .authPermissionDenied .warning
            { ip := cedarClientIp r.headers
              userAgent := headerString r.headers "user-agent"
              subject := some claims.sub
              requestId := headerString r.headers "x-request-id" })
          .permissionDenied "Access denied by policy"

/-- `axum::Extension(logger)` -/
def grpcLoggerLayer (logger : AuditLogger) : GrpcLayer Ip := fun r =>
  forwardGrpc (r.withLogger logger)

section Policies

variable {Uid Context Policies Entities : Type}

/-- What `authorize_grpc_request` decides: its errors say less than those of the HTTP middleware. -/
def GrpcCedar.ofPolicies (X : CedarHttpExterns Uid Context Policies Entities) (enabled : Bool)
    (config : CedarConfig) (cached : Bool) (policies : Policies) (input : AuthorizeInput)
    (redis : DecisionStore) (now : DateTime) : GrpcCedar where
  enabled := enabled
  decision headers methodPath claims := do
    let internal (message : String) : GrpcStatus := ⟨.internal, message⟩
    let principal ← (X.parseUid (principalText claims)).mapError
      fun _ => internal "Failed to build principal"
    let action ← (X.parseUid ("Action::\"" ++ methodPath ++ "\"")).mapError
      fun _ => internal "Failed to build action"
    let context ← (X.contextFromJson (contextJson (X.timestampJson now) headers claims)).mapError
      fun _ => internal "Failed to build context"
    let resource ← (X.parseUid "Resource::\"default\"").mapError
      fun _ => internal "Failed to parse resource"
    (authorize X.toCedarExterns config cached policies input redis
      ⟨principal, action, resource, context⟩ claims).2.mapError
      fun e => internal ("Cedar authorization error: " ++ e.toServiceError.display)

end Policies

/-! ### What gets through a layer -/

section Layer

variable {parse : ParseCertificate} {policy : CallerAuthPolicy} {auth : TokenAuth}
  {authz : GrpcCedar} {r r' : Request Ip}

theorem grpcCallerLayer_pass? (parse : ParseCertificate) (policy : CallerAuthPolicy)
    (r : Request Ip) : (grpcCallerLayer parse policy).pass? r
      = match CallerAuthService.call parse ⟨policy, .grpc⟩ r with
        | .forwarded r' => some r'
        | .refused _ => none := by
  rw [Layer.pass?, grpcCallerLayer]
  cases CallerAuthService.call parse ⟨policy, .grpc⟩ r <;> rfl

/-- **What gets through the token layer.** -/
theorem grpcTokenLayer_pass? (auth : TokenAuth) (r : Request Ip) :
    (grpcTokenLayer auth).pass? r
      = if auth.grpcAsksNone r then some r
        else ((extractToken r.headers).bind auth.validateToken).toOption.map r.withClaims := by
  rw [Layer.pass?, grpcTokenLayer]
  cases auth.grpcAsksNone r with
  | true => rfl
  | false =>
    rw [if_neg Bool.false_ne_true, if_neg Bool.false_ne_true]
    cases (extractToken r.headers).bind auth.validateToken <;> rfl

/-- **What gets through Cedar**: everything if it is disabled, requests to the infrastructure, and
those whose claims are allowed. -/
theorem grpcCedarLayer_pass?_iff (stamps : Stamps) :
    ((grpcCedarLayer stamps authz).pass? r).isSome = true ↔
      authz.enabled = true → isGrpcInfraPath r.path = true ∨
        ∃ claims, r.extensions.claims = some claims ∧
          authz.decision r.headers r.path claims = .ok .allow := by
  rw [Layer.pass?, grpcCedarLayer]
  cases authz.enabled with
  | false => exact iff_of_true rfl fun h => (by cases h)
  | true =>
    cases hinfra : isGrpcInfraPath r.path with
    | true => exact iff_of_true rfl fun _ => .inl rfl
    | false =>
      cases hclaims : r.extensions.claims with
      | none =>
        refine iff_of_false (fun h => (by cases h)) fun h => ?_
        rcases h rfl with h | ⟨claims, h, -⟩ <;> cases h
      | some claims =>
        have hsame : (∃ claims', some claims = some claims' ∧
            authz.decision r.headers r.path claims' = .ok .allow)
              ↔ authz.decision r.headers r.path claims = .ok .allow := by
          simp
        rw [hsame]
        cases hdecision : authz.decision r.headers r.path claims with
        | error status => simp [hdecision]
        | ok decision => cases decision <;> simp [hdecision, forwardGrpc, refuseGrpc]

end Layer

/-! ### The router -/

namespace ServiceBuilder

section Router

variable (X : TokenExterns) (parse : ParseCertificate) (S : Surroundings) (config : Config)

def grpcCedarLayers (c : Circumstances Ip)
    (decision : HeaderMap → String → Claims → Except GrpcStatus Decision) : List (GrpcLayer Ip) :=
  (stepValue (resolveCedar S config)).toList.map fun enabled =>
    grpcCedarLayer c.stamps ⟨enabled, decision⟩

def grpcTokenLayers (c : Circumstances Ip) : List (GrpcLayer Ip) :=
  (tokenAuth X config c).toList.map grpcTokenLayer

def grpcCallerLayers : List (GrpcLayer Ip) :=
  ((callerPolicy config).filter CallerAuthPolicy.requiresClientCa).toList.map
    (grpcCallerLayer parse)

def grpcLoggerLayers : List (GrpcLayer Ip) := (auditLogger S config).toList.map grpcLoggerLayer

/-- **The layers around the gRPC services, in the order they are added.** -/
def grpcLayers (c : Circumstances Ip)
    (decision : HeaderMap → String → Claims → Except GrpcStatus Decision) : List (GrpcLayer Ip) :=
  grpcCedarLayers S config c decision ++ grpcTokenLayers X config c
    ++ grpcCallerLayers parse config ++ grpcLoggerLayers S config

/-- A request to the gRPC router. -/
def serveGrpc (c : Circumstances Ip)
    (decision : HeaderMap → String → Claims → Except GrpcStatus Decision)
    (services : Request Ip → Outcome GrpcStatus) (r : Incoming Ip) :
    Served (Request Ip) GrpcStatus AuditEvent :=
  stack (grpcLayers X parse S config c decision) (fun r => ⟨[], services r, some r⟩) r.request

end Router

section Proofs

variable {X : TokenExterns} {parse : ParseCertificate} {S : Surroundings} {config : Config}
  {c : Circumstances Ip}

/-! ### The same credentials -/

/-- What the HTTP router makes of the credentials of a request. -/
def authenticate (X : TokenExterns) (A : AddrExterns Ip) (parse : ParseCertificate)
    (config : Config) (c : Circumstances Ip) (r : Request Ip) : Option (Request Ip) :=
  (passing (callerLayers parse config) r).bind (passing (tokenLayers X A config c))

/-- What the gRPC router makes of them. -/
def authenticateGrpc (X : TokenExterns) (parse : ParseCertificate) (config : Config)
    (c : Circumstances Ip) (r : Request Ip) : Option (Request Ip) :=
  (passing (grpcCallerLayers parse config) r).bind (passing (grpcTokenLayers X config c))

/-- The caller layers agree where the same paths are exempt. -/
theorem passing_grpcCallerLayers {r : Request Ip}
    (hinfra : isGrpcInfraPath r.path = isInfraPath r.path) :
    passing (grpcCallerLayers parse config) r = passing (callerLayers parse config) r := by
  rw [grpcCallerLayers, callerLayers]
  cases (callerPolicy config).filter CallerAuthPolicy.requiresClientCa with
  | none => rfl
  | some policy =>
    simp only [Option.toList_some, List.map_cons, List.map_nil, passing_singleton]
    rw [grpcCallerLayer_pass?, callerAuthLayer_eq]
    have hexempt : CallerAuthService.isExempt ⟨policy, .grpc⟩ r.path
        = CallerAuthService.isExempt ⟨policy, .http⟩ r.path := by
      simp only [CallerAuthService.isExempt, hinfra]
    simp only [CallerAuthService.call, hexempt]
    by_cases hpass : policy.mode = .bearer ∨
        CallerAuthService.isExempt ⟨policy, .http⟩ r.path = true
    · simp only [if_pos hpass]
    · simp only [if_neg hpass]
      rcases policy.authorize parse r.extensions.leafCertificate (hasBearerCredential r.headers)
        with e | (san | _) <;> rfl

/-- The caller layer leaves the method and the path of a request as they are. -/
theorem same_of_passing_callerLayers {r r' : Request Ip}
    (h : passing (callerLayers parse config) r = some r') :
    r'.method = r.method ∧ r'.path = r.path := by
  rw [callerLayers] at h
  cases hpolicy : (callerPolicy config).filter CallerAuthPolicy.requiresClientCa with
  | none =>
    rw [hpolicy] at h
    cases h
    exact ⟨rfl, rfl⟩
  | some policy =>
    simp only [hpolicy, Option.toList_some, List.map_cons, List.map_nil, passing_singleton] at h
    have hmode : policy.requiresClientCa = true := (Option.filter_eq_some_iff.mp hpolicy).2
    rcases callerAuthLayer_pass?_cases hmode h with
      ⟨-, rfl⟩ | ⟨-, identity, -, rfl⟩ | ⟨-, -, rfl⟩ <;> exact ⟨rfl, rfl⟩

/-- The token layers agree too, on what is no `OPTIONS` request. -/
theorem grpcTokenLayer_pass?_eq {A : AddrExterns Ip} {stamps : Stamps} {auth : TokenAuth}
    {r : Request Ip} (hrevoked : auth.isRevoked = none) (hmethod : r.method ≠ .options)
    (hinfra : isGrpcInfraPath r.path = isInfraPath r.path) :
    (grpcTokenLayer auth).pass? r = (tokenMiddleware A stamps auth).pass? r := by
  have hasks : auth.grpcAsksNone r = auth.asksNone r := by
    simp only [TokenAuth.grpcAsksNone, TokenAuth.asksNone, hinfra, hmethod, decide_false,
      Bool.false_or]
  rw [grpcTokenLayer_pass?, hasks, Layer.pass?, tokenMiddleware]
  cases auth.asksNone r with
  | true => rfl
  | false =>
    simp only [Bool.false_eq_true, if_false]
    cases extractToken r.headers with
    | error e => rfl
    | ok token =>
      cases hclaims : auth.validateToken token with
      | error e => simp only [Except.bind, hclaims]; rfl
      | ok claims =>
        simp only [Except.bind, hclaims, TokenAuth.revokedJti, hrevoked]
        rfl

/-- **Both routers make the same of a request's credentials**: they let the same requests through,
with the same identity and the same claims.  What they differ in are `OPTIONS` requests, of which
the HTTP router asks no token, and the infrastructure paths of either. -/
theorem grpc_authenticates_as_http (A : AddrExterns Ip) {r : Request Ip}
    (hmethod : r.method ≠ .options) (hinfra : isGrpcInfraPath r.path = isInfraPath r.path) :
    authenticateGrpc X parse config c r = authenticate X A parse config c r := by
  rw [authenticateGrpc, authenticate, passing_grpcCallerLayers hinfra]
  refine Option.bind_congr fun r₁ hr₁ => ?_
  have hsame := same_of_passing_callerLayers hr₁
  rw [grpcTokenLayers, tokenLayers]
  cases hauth : tokenAuth X config c with
  | none => rfl
  | some auth =>
    obtain ⟨-, -, hrevoked, -⟩ := tokenAuth_eq_some hauth
    simp only [Option.toList_some, List.map_cons, List.map_nil, passing_singleton]
    exact grpcTokenLayer_pass?_eq hrevoked (hsame.1 ▸ hmethod) (by rw [hsame.2]; exact hinfra)

/-- A made-up token gets through neither router. -/
theorem grpc_authenticates_as_http_sample :
    authenticateGrpc sampleTokenExterns (fun _ => .ok none)
      (sampleConfig (some samplePasetoSection)) sampleCircumstances sampleForged.request = none :=
  (grpc_authenticates_as_http sampleAddr (by decide) (by decide)).trans rfl

/-! ### Who reaches a service -/

/-- The caller layer has waived the token: the caller's certificate has named it. -/
def GrpcWaived (parse : ParseCertificate) (config : Config) (r : Incoming Ip) : Prop :=
  ∃ policy ∈ callerPolicy config, policy.mode = .mtlsOrBearer ∧
    CallerAuthService.isExempt ⟨policy, .grpc⟩ r.path = false ∧
    ∃ san, Names parse policy r.connection.leaf san

/-- No token is asked of the request. -/
def GrpcAsksNone (parse : ParseCertificate) (config : Config) (auth : TokenAuth)
    (r : Incoming Ip) : Prop :=
  isGrpcInfraPath r.path = true ∨ isPublicPath auth.publicPaths r.path = true ∨
    GrpcWaived parse config r

/-- The request comes with a token that the validator accepts, for those claims. -/
def Presents (auth : TokenAuth) (r : Incoming Ip) (claims : Claims) : Prop :=
  (extractToken r.headers).bind auth.validateToken = .ok claims

/-- **The request is to reach a service.** -/
structure GrpcReached (X : TokenExterns) (parse : ParseCertificate) (S : Surroundings)
    (config : Config) (c : Circumstances Ip)
    (decision : HeaderMap → String → Claims → Except GrpcStatus Decision) (r : Incoming Ip) :
    Prop where
  /-- Its certificate is allowlisted, or nothing is asked of it. -/
  caller : ∀ policy ∈ callerPolicy config, policy.mode = .bearer ∨
    CallerAuthService.isExempt ⟨policy, .grpc⟩ r.path = true ∨
    (∃ san, Names parse policy r.connection.leaf san) ∨
    policy.mode = .mtlsOrBearer ∧ hasBearerCredential r.headers = true
  /-- So is its token, if there is a validator and the request does not waive it. -/
  token : ∀ auth ∈ tokenAuth X config c,
    GrpcAsksNone parse config auth r ∨ ∃ claims, Presents auth r claims
  /-- Cedar asks the policies of the claims of a token, and of nothing else. -/
  cedar : stepValue (resolveCedar S config) = some true → isGrpcInfraPath r.path = true ∨
    ∃ auth ∈ tokenAuth X config c, ¬ GrpcAsksNone parse config auth r ∧
      ∃ claims, Presents auth r claims ∧ decision r.headers r.path claims = .ok .allow

/-- What the caller layer hands on is the request, with an identity that waives the token exactly
if a certificate has. -/
structure HandsOn (parse : ParseCertificate) (config : Config) (r : Incoming Ip)
    (r' : Request Ip) : Prop where
  path : r'.path = r.path
  headers : r'.headers = r.headers
  claims : r'.extensions.claims = none
  waived : r'.extensions.bearerWaived = true ↔ GrpcWaived parse config r

theorem handsOn_logged {r : Incoming Ip} (h : ¬ GrpcWaived parse config r) :
    HandsOn parse config r (logged S config r) := by
  refine ⟨logged_path r, logged_headers r, ?_, iff_of_false ?_ h⟩
  · rw [logged_extensions]
    rfl
  · rw [logged_extensions]
    exact Bool.false_ne_true

/-- What the service of the caller layer does in a certificate mode, with the identity it
attaches. -/
theorem grpcCall_cases {policy : CallerAuthPolicy} (hne : policy.mode ≠ .bearer) (r : Request Ip) :
    (CallerAuthService.isExempt ⟨policy, .grpc⟩ r.path = true ∧
        CallerAuthService.call parse ⟨policy, .grpc⟩ r = .forwarded r) ∨
      CallerAuthService.isExempt ⟨policy, .grpc⟩ r.path = false ∧
        ((∃ san, Names parse policy r.extensions.leafCertificate san ∧
            CallerAuthService.call parse ⟨policy, .grpc⟩ r
              = .forwarded (r.withIdentity ⟨san, decide (policy.mode = .mtlsOrBearer)⟩)) ∨
          (∀ san, ¬ Names parse policy r.extensions.leafCertificate san) ∧
            ((policy.mode = .mtlsOrBearer ∧ hasBearerCredential r.headers = true) ∧
                CallerAuthService.call parse ⟨policy, .grpc⟩ r = .forwarded r ∨
              ¬ (policy.mode = .mtlsOrBearer ∧ hasBearerCredential r.headers = true) ∧
                ∃ refusal, CallerAuthService.call parse ⟨policy, .grpc⟩ r = .refused refusal)) := by
  have hjust := justified_authorize parse policy r.extensions.leafCertificate
    (hasBearerCredential r.headers)
  rw [CallerAuthService.call]
  cases hexempt : CallerAuthService.isExempt ⟨policy, .grpc⟩ r.path with
  | true => exact .inl ⟨rfl, if_pos (.inr rfl)⟩
  | false =>
    refine .inr ⟨rfl, ?_⟩
    simp only [hne, Bool.false_eq_true, or_self, if_false]
    rcases hauth : policy.authorize parse r.extensions.leafCertificate
      (hasBearerCredential r.headers) with e | (san | _)
    · rw [hauth] at hjust
      exact .inr ⟨hjust.2.2.1, .inr ⟨hjust.2.1, _, rfl⟩⟩
    · rw [hauth] at hjust
      exact .inl ⟨san, hjust.2, rfl⟩
    · rw [hauth] at hjust
      exact .inr ⟨hjust.2, .inl ⟨hjust.1.resolve_left hne, rfl⟩⟩

/-- What the layer of a policy that asks for certificates does with a request. -/
theorem passing_grpcCallerLayer_cases {policy : CallerAuthPolicy}
    (hpolicy : callerPolicy config = some policy) (hbearer : policy.mode ≠ .bearer)
    (r : Incoming Ip) :
    let admits := CallerAuthService.isExempt ⟨policy, .grpc⟩ r.path = true ∨
      (∃ san, Names parse policy r.connection.leaf san) ∨
      policy.mode = .mtlsOrBearer ∧ hasBearerCredential r.headers = true
    (admits ∧ ∃ r', passing [grpcCallerLayer parse policy] (logged S config r) = some r' ∧
        HandsOn parse config r r') ∨
      ¬ admits ∧ passing [grpcCallerLayer parse policy] (logged S config r) = none := by
  intro admits
  -- the token is waived where the certificate was asked for and has named the caller
  have hwaived : GrpcWaived parse config r ↔ policy.mode = .mtlsOrBearer ∧
      CallerAuthService.isExempt ⟨policy, .grpc⟩ r.path = false ∧
      ∃ san, Names parse policy r.connection.leaf san := by
    simp [GrpcWaived, hpolicy]
  -- the path is exempt, the certificate names the caller, or a bearer token is left to the next
  -- layer
  have hcall := @grpcCall_cases _ parse _ hbearer (logged S config r)
  rw [logged_path, logged_headers, leafCertificate_logged] at hcall
  rw [passing_singleton, grpcCallerLayer_pass?]
  rcases hcall with ⟨hexempt, hcall⟩ | ⟨hexempt, ⟨san, hsan, hcall⟩ | ⟨hnot, hrest⟩⟩
  · -- exempt: the certificate was not looked at, and the token is still asked for
    rw [hcall]
    refine .inl ⟨.inl hexempt, _, rfl, handsOn_logged ?_⟩
    rw [hwaived, hexempt]
    exact fun h => Bool.false_ne_true h.2.1.symm
  · -- the certificate names the caller
    rw [hcall]
    refine .inl ⟨.inr (.inl ⟨san, hsan⟩), _, rfl, logged_path r, logged_headers r, ?_, ?_⟩
    · show (logged S config r).extensions.claims = none
      rw [logged_extensions]
      rfl
    · rw [hwaived]
      show decide (policy.mode = .mtlsOrBearer) = true ↔ _
      rw [decide_eq_true_eq]
      exact (and_iff_left ⟨hexempt, san, hsan⟩).symm
  · have hunwaived : ¬ GrpcWaived parse config r := by
      rw [hwaived]
      rintro ⟨-, -, san, hsan⟩
      exact hnot san hsan
    rcases hrest with ⟨hdefers, hcall⟩ | ⟨hdefers, refusal, hcall⟩
    · -- left to the token layer, which will ask for the token
      rw [hcall]
      exact .inl ⟨.inr (.inr hdefers), _, rfl, handsOn_logged hunwaived⟩
    · -- refused, as none of the three holds
      rw [hcall]
      refine .inr ⟨?_, rfl⟩
      rintro (h | ⟨san, hsan⟩ | h)
      · rw [hexempt] at h
        cases h
      · exact hnot san hsan
      · exact hdefers h

/-- **What the caller layer does with a request.** -/
theorem passing_grpcCallerLayers_cases (r : Incoming Ip) :
    let admits := ∀ policy ∈ callerPolicy config, policy.mode = .bearer ∨
      CallerAuthService.isExempt ⟨policy, .grpc⟩ r.path = true ∨
      (∃ san, Names parse policy r.connection.leaf san) ∨
      policy.mode = .mtlsOrBearer ∧ hasBearerCredential r.headers = true
    (admits ∧ ∃ r', passing (grpcCallerLayers parse config) (logged S config r) = some r' ∧
        HandsOn parse config r r') ∨
      ¬ admits ∧ passing (grpcCallerLayers parse config) (logged S config r) = none := by
  intro admits
  rw [grpcCallerLayers]
  cases hpolicy : callerPolicy config with
  -- no policy, no layer, and nothing to satisfy
  | none =>
    have hnone : ∀ policy, policy ∉ callerPolicy config := by simp [hpolicy]
    refine .inl ⟨fun policy h => (hnone policy h).elim, _, rfl, handsOn_logged ?_⟩
    rintro ⟨policy, h, -⟩
    exact hnone policy h
  | some policy =>
    -- there is one policy
    have hsame : ∀ policy' ∈ callerPolicy config, policy' = policy := by
      intro policy' h
      rw [hpolicy] at h
      exact (Option.mem_some_iff.mp h).symm
    by_cases hbearer : policy.mode = .bearer
    · -- the mode asks for no certificate, and no layer is installed
      have hmode : policy.requiresClientCa = false := by
        rw [CallerAuthPolicy.requiresClientCa, hbearer]
        rfl
      simp only [Option.filter_some, hmode]
      refine .inl ⟨fun policy' h => .inl (hsame policy' h ▸ hbearer), _, rfl, handsOn_logged ?_⟩
      rintro ⟨policy', h, hwaives, -⟩
      rw [hsame policy' h, hbearer] at hwaives
      cases hwaives
    · have hmode : policy.requiresClientCa = true := by
        rw [CallerAuthPolicy.requiresClientCa]
        cases hm : policy.mode with
        | bearer => exact (hbearer hm).elim
        | _ => rfl
      -- the mode asks for a certificate, and there is one layer
      have hadmits : admits ↔ CallerAuthService.isExempt ⟨policy, .grpc⟩ r.path = true ∨
          (∃ san, Names parse policy r.connection.leaf san) ∨
          policy.mode = .mtlsOrBearer ∧ hasBearerCredential r.headers = true := by
        simp [admits, hpolicy, hbearer]
      simp only [Option.filter_some, hmode, if_true, Option.toList_some, List.map_cons,
        List.map_nil]
      rw [hadmits]
      exact passing_grpcCallerLayer_cases hpolicy hbearer r

theorem HandsOn.asksNone_iff {r : Incoming Ip} {r' : Request Ip} (h : HandsOn parse config r r')
    (auth : TokenAuth) : auth.grpcAsksNone r' = true ↔ GrpcAsksNone parse config auth r := by
  rw [TokenAuth.grpcAsksNone, h.path, Bool.or_eq_true, Bool.or_eq_true, h.waived, or_assoc]
  rfl

/-- What the token layer hands on is the request, with the claims of its token exactly if it was
asked for one. -/
structure HandsOnClaims (X : TokenExterns) (parse : ParseCertificate) (config : Config)
    (c : Circumstances Ip) (r : Incoming Ip) (r' : Request Ip) : Prop where
  path : r'.path = r.path
  headers : r'.headers = r.headers
  claims : ∀ claims, r'.extensions.claims = some claims ↔
    ∃ auth ∈ tokenAuth X config c, ¬ GrpcAsksNone parse config auth r ∧ Presents auth r claims

/-- **What the token layer does with a request.** -/
theorem passing_grpcTokenLayers_cases {r : Incoming Ip} {r' : Request Ip}
    (h : HandsOn parse config r r') :
    let admits := ∀ auth ∈ tokenAuth X config c,
      GrpcAsksNone parse config auth r ∨ ∃ claims, Presents auth r claims
    (admits ∧ ∃ r₂, passing (grpcTokenLayers X config c) r' = some r₂ ∧
        HandsOnClaims X parse config c r r₂) ∨
      ¬ admits ∧ passing (grpcTokenLayers X config c) r' = none := by
  intro admits
  rw [grpcTokenLayers]
  cases hauth : tokenAuth X config c with
  | none =>
    refine .inl ⟨by simp [admits, hauth], r', rfl, h.path, h.headers, fun claims => ?_⟩
    simp [h.claims, hauth]
  | some auth =>
    have hadmits : admits ↔
        GrpcAsksNone parse config auth r ∨ ∃ claims, Presents auth r claims := by
      simp [admits, hauth]
    rw [hadmits]
    simp only [Option.toList_some, List.map_cons, List.map_nil, passing_singleton,
      grpcTokenLayer_pass?, h.headers]
    by_cases hnone : GrpcAsksNone parse config auth r
    · rw [if_pos ((h.asksNone_iff auth).mpr hnone)]
      refine .inl ⟨.inl hnone, r', rfl, h.path, h.headers, fun claims => ?_⟩
      simp [h.claims, hauth, hnone]
    · rw [if_neg (mt (h.asksNone_iff auth).mp hnone)]
      cases hclaims : (extractToken r.headers).bind auth.validateToken with
      | error e =>
        refine .inr ⟨?_, rfl⟩
        rintro (hasks | ⟨claims, hpresents⟩)
        · exact hnone hasks
        · rw [Presents, hclaims] at hpresents
          cases hpresents
      | ok claims =>
        refine .inl ⟨.inr ⟨claims, hclaims⟩, _, rfl, h.path, h.headers, fun claims' => ?_⟩
        show some claims = some claims' ↔ _
        simp [hauth, hnone, Presents, hclaims]

/-- **A request reaches a gRPC service** exactly if its caller, its token and the policies let it:
there is no way around a layer, and a layer that is passed hands on what the next one asks for. -/
theorem serveGrpc_handled_iff (X : TokenExterns) (parse : ParseCertificate) (S : Surroundings)
    (config : Config) (c : Circumstances Ip)
    (decision : HeaderMap → String → Claims → Except GrpcStatus Decision)
    (services : Request Ip → Outcome GrpcStatus) (r : Incoming Ip) :
    (serveGrpc X parse S config c decision services r).handled.isSome = true ↔
      GrpcReached X parse S config c decision r := by
  -- the loggers let every request through
  have hlogged : passing (grpcLoggerLayers S config) r.request = some (logged S config r) := by
    rw [grpcLoggerLayers, logged]
    cases auditLogger S config <;> rfl
  -- what is left are the layers of the caller, of the token and of Cedar, one behind the other
  have hhandled : (serveGrpc X parse S config c decision services r).handled.isSome
      = (((passing (grpcCallerLayers parse config) (logged S config r)).bind
          (passing (grpcTokenLayers X config c))).bind
          (passing (grpcCedarLayers S config c decision))).isSome := by
    rw [serveGrpc, handled_stack]
    show ((passing (grpcLayers X parse S config c decision) r.request).bind some).isSome = _
    rw [Option.bind_fun_some, grpcLayers, passing_append, hlogged, Option.bind_some,
      passing_append, Option.bind_assoc]
    exact congrArg Option.isSome (Option.bind_congr fun r' _ => passing_append _ _ r')
  rw [hhandled]
  -- the caller's layers
  rcases @passing_grpcCallerLayers_cases _ parse S config r with
    ⟨hcaller, r₁, hr₁, hon⟩ | ⟨hcaller, hnone⟩
  swap
  · rw [hnone]
    exact iff_of_false (fun h => (by cases h)) fun h => hcaller h.caller
  rw [hr₁, Option.bind_some]
  -- the token's layers
  rcases passing_grpcTokenLayers_cases (X := X) (c := c) hon with
    ⟨htoken, r₂, hr₂, hclaims⟩ | ⟨htoken, hnone⟩
  swap
  · rw [hnone]
    exact iff_of_false (fun h => (by cases h)) fun h => htoken h.token
  rw [hr₂, Option.bind_some, grpcCedarLayers]
  -- Cedar, where it is configured
  cases hcedar : stepValue (resolveCedar S config) with
  | none =>
    refine iff_of_true rfl ⟨hcaller, htoken, fun h => ?_⟩
    rw [hcedar] at h
    cases h
  | some enabled =>
    simp only [Option.toList_some, List.map_cons, List.map_nil, passing_singleton]
    rw [grpcCedarLayer_pass?_iff, hclaims.path, hclaims.headers]
    -- the claims that Cedar finds are those that the token layer has put there
    have hask : (∃ claims, r₂.extensions.claims = some claims ∧
          decision r.headers r.path claims = .ok .allow) ↔
        ∃ auth ∈ tokenAuth X config c, ¬ GrpcAsksNone parse config auth r ∧
          ∃ claims, Presents auth r claims ∧ decision r.headers r.path claims = .ok .allow := by
      simp only [hclaims.claims]
      constructor
      · rintro ⟨claims, ⟨auth, hauth, hasks, hpresents⟩, hallow⟩
        exact ⟨auth, hauth, hasks, claims, hpresents, hallow⟩
      · rintro ⟨auth, hauth, hasks, claims, hpresents, hallow⟩
        exact ⟨claims, ⟨auth, hauth, hasks, hpresents⟩, hallow⟩
    rw [hask]
    constructor
    · intro h
      exact ⟨hcaller, htoken, fun henabled => h (Option.some.inj (hcedar.symm.trans henabled))⟩
    · intro h henabled
      exact h.cedar (hcedar.trans (congrArg some henabled))

end Proofs

end ServiceBuilder

end ActonService
