import ActonService.ServiceBuilder.Build

/-!
# Who reaches the handler

A configuration that asks for credentials has a `[token]` section or a `[caller_auth]` section in a
certificate mode.  A request that reaches the handler of a service with such a configuration
should be exempt by its path or its method, or come with a token the validator accepts or a
certificate with an allowlisted name.

In the mode `mtls-or-bearer` the caller layer lets a request through on a bearer credential that
it does not look at, and leaves it to the token middleware.  There is one only if the
configuration has a `[token]` section.

## Main definitions

* `Guarded` — the configuration asks for credentials.
* `Entitled` — the request may reach the handler.
* `Unjudged`, `LetThrough` — nobody judges its bearer credential, and nothing else stops it.

## Main results

* `entitled_iff` — **a request reaches the handler without being entitled exactly if it is
  unjudged and let through.**
-/

namespace ActonService

namespace ServiceBuilder

open Layers

variable {Ip : Type}

/-- The configuration asks for credentials: it has a token section, or a caller section whose mode
uses client certificates. -/
def Guarded (config : Config) : Prop :=
  config.token.isSome = true ∨
    ∃ settings ∈ config.callerAuth, settings.mode.usesClientCertificates = true

/-- The public prefixes of the configuration. -/
def publicPaths (config : Config) : List String :=
  (config.token.map TokenConfig.publicPaths).getD []
    ++ (config.callerAuth.map CallerAuthConfig.publicPaths).getD []

/-- The request is exempt, or comes with a token that the validator accepts or a certificate with
an allowlisted name. -/
def Credential (X : TokenExterns) (parse : ParseCertificate) (config : Config)
    (c : Circumstances Ip) (r : Incoming Ip) : Prop :=
  isInfraPath r.path = true ∨ isPublicPath (publicPaths config) r.path = true ∨
    r.method = .options ∨
    (∃ auth ∈ tokenAuth X config c, ∃ token claims,
      extractToken r.headers = .ok token ∧ auth.validateToken token = .ok claims) ∨
    ∃ policy ∈ callerPolicy config, Allowlisted parse policy r.connection.leaf

/-- **The request may reach the handler.** -/
structure Entitled (X : TokenExterns) (parse : ParseCertificate) (config : Config)
    (c : Circumstances Ip) (r : Incoming Ip) : Prop where
  credential : Credential X parse config c r
  /-- In the mode `mtls` nothing replaces the certificate. -/
  mtls : ∀ policy ∈ callerPolicy config, policy.mode = .mtls →
    policy.isExempt r.path = true ∨ Allowlisted parse policy r.connection.leaf

/-- Nobody judges the credential of the request: the caller layer leaves it to a token middleware
that is not there. -/
structure Unjudged (parse : ParseCertificate) (config : Config) (r : Incoming Ip) : Prop where
  noToken : config.token = none
  deferred : ∃ policy ∈ callerPolicy config, policy.isExempt r.path = false ∧
    policy.Defers parse r.request
  method : r.method ≠ .options

/-- No other layer stops the request. -/
structure LetThrough (A : AddrExterns Ip) (S : Surroundings) (E : ExternalLayers Ip)
    (config : Config) (c : Circumstances Ip) (r : Incoming Ip) : Prop where
  rateLimiter : Admits A config c (logged S config r)
  /-- Cedar lets nothing through that has no claims. -/
  cedar : stepValue (resolveCedar S config) ≠ some true
  general : (passing (generalLayers A E config) (logged S config r)).isSome = true

section Proofs

variable {X : TokenExterns} {A : AddrExterns Ip} {parse : ParseCertificate} {S : Surroundings}
  {E : ExternalLayers Ip} {config : Config} {c : Circumstances Ip} {r : Incoming Ip}

/-! ### What the builder has checked -/

/-- A policy has the mode and the public paths of its section. -/
theorem toPolicy_ok {settings : CallerAuthConfig} {policy : CallerAuthPolicy}
    (h : settings.toPolicy = .ok policy) :
    policy.mode = settings.mode ∧ policy.publicPaths = settings.publicPaths := by
  rw [CallerAuthConfig.toPolicy, CallerAuthConfig.modePolicy] at h
  cases hmode : settings.mode with
  | bearer =>
    simp only [hmode] at h
    split at h
    · cases h
      exact ⟨rfl, rfl⟩
    · contradiction
  | mtls =>
    simp only [hmode] at h
    cases hlist : CallerAllowlist.fromEntries settings.allowlist with
    | error e =>
      rw [hlist] at h
      contradiction
    | ok allowlist =>
      rw [hlist] at h
      cases h
      exact ⟨rfl, rfl⟩
  | mtlsOrBearer =>
    simp only [hmode] at h
    cases hlist : CallerAllowlist.fromEntries settings.allowlist with
    | error e =>
      rw [hlist] at h
      contradiction
    | ok allowlist =>
      rw [hlist] at h
      cases h
      exact ⟨rfl, rfl⟩

/-- The policy in force is that of the section. -/
theorem callerPolicy_eq_some {policy : CallerAuthPolicy} (h : callerPolicy config = some policy) :
    ∃ settings, config.callerAuth = some settings ∧ policy.mode = settings.mode ∧
      policy.publicPaths = settings.publicPaths := by
  rw [callerPolicy, resolvePolicy] at h
  cases hsection : config.callerAuth with
  | none =>
    rw [hsection] at h
    contradiction
  | some settings =>
    simp only [hsection] at h
    cases hpolicy : settings.toPolicy with
    | error e =>
      simp only [hpolicy] at h
      contradiction
    | ok policy' =>
      simp only [hpolicy] at h
      cases h
      exact ⟨settings, rfl, toPolicy_ok hpolicy⟩

theorem startupErrors_eq_nil (hstart : startupError X S config = none) :
    stepErrors (resolveToken X config) = [] ∧ stepErrors (resolvePolicy config) = [] := by
  have hnil : startupErrors X S config = [] := List.head?_eq_none_iff.mp hstart
  simp only [startupErrors, List.append_eq_nil_iff] at hnil
  obtain ⟨⟨⟨⟨⟨-, htoken⟩, hpolicy⟩, -⟩, -⟩, -⟩ := hnil
  exact ⟨htoken, hpolicy⟩

/-- Without a startup error every token section has a validator. -/
theorem tokenAuth_of_section (hstart : startupError X S config = none) {settings : TokenConfig}
    (hsection : config.token = some settings) : ∃ auth, tokenAuth X config c = some auth := by
  have htoken := (startupErrors_eq_nil hstart).1
  rw [tokenAuth]
  simp only [resolveToken, hsection] at htoken ⊢
  cases hnew : newTokenAuth X settings with
  | error e =>
    rw [hnew] at htoken
    contradiction
  | ok make => exact ⟨make c.now c.keyManager, rfl⟩

theorem tokenAuth_of_none (hsection : config.token = none) : tokenAuth X config c = none := by
  rw [tokenAuth, resolveToken, hsection]
  rfl

/-! ### Requests that get through authentication -/

theorem isPublicPath_append (paths paths' : List String) (path : String) :
    isPublicPath (paths ++ paths') path = (isPublicPath paths path || isPublicPath paths' path) :=
  List.any_append

/-- What is exempt from caller authorisation is exempt. -/
theorem credential_of_isExempt {policy : CallerAuthPolicy}
    (hpolicy : callerPolicy config = some policy)
    (hexempt : policy.isExempt r.path = true) : Credential X parse config c r := by
  obtain ⟨settings, hsection, -, hpaths⟩ := callerPolicy_eq_some hpolicy
  rcases Bool.or_eq_true_iff.mp hexempt with hinfra | hpublic
  · exact .inl hinfra
  · refine .inr (.inl ?_)
    rw [publicPaths, isPublicPath_append, hsection]
    show (_ || isPublicPath settings.publicPaths r.path) = true
    rw [← hpaths, hpublic, Bool.or_true]

/-- What gets through the token middleware without a certificate is exempt or has a token. -/
theorem credential_of_token (hstart : startupError X S config = none) {settings : TokenConfig}
    (hsection : config.token = some settings) {r' : Request Ip}
    (h : passing (tokenLayers X A config c) (logged S config r) = some r') :
    Credential X parse config c r := by
  obtain ⟨auth, hauth⟩ := tokenAuth_of_section (c := c) hstart hsection
  obtain ⟨settings', hsection', -, hpaths⟩ := tokenAuth_eq_some hauth
  cases hsection.symm.trans hsection'
  rw [tokenLayers, hauth] at h
  rcases tokenMiddleware_pass?_cases ((passing_singleton _ _).symm.trans h) with
    ⟨hasks, -⟩ | ⟨token, claims, htoken, hclaims, -⟩
  · simp only [TokenAuth.asksNone, Bool.or_eq_true, decide_eq_true_eq, logged_method, logged_path]
      at hasks
    rcases hasks with ((hoptions | hinfra) | hpublic) | hwaived
    · exact .inr (.inr (.inl hoptions))
    · exact .inl hinfra
    · refine .inr (.inl ?_)
      rw [publicPaths, isPublicPath_append, hsection]
      show (isPublicPath settings.publicPaths r.path || _) = true
      rw [← hpaths, hpublic, Bool.true_or]
    · rw [logged_extensions] at hwaived
      contradiction
  · rw [logged_headers] at htoken
    exact .inr (.inr (.inr (.inl ⟨auth, hauth, token, claims, htoken, hclaims⟩)))

theorem leafCertificate_logged : (logged S config r).extensions.leafCertificate
    = r.connection.leaf := by
  rw [logged_extensions]
  exact r.leafCertificate_extensions

/-- The logger makes no difference to the caller layer. -/
theorem defers_logged {policy : CallerAuthPolicy} :
    policy.Defers parse (logged S config r) ↔ policy.Defers parse r.request := by
  have hleaf : (logged S config r).extensions.leafCertificate
      = r.request.extensions.leafCertificate := by
    rw [leafCertificate_logged]
    exact r.leafCertificate_extensions.symm
  constructor
  · rintro ⟨hmode, hbearer, hnot⟩
    rw [logged_headers] at hbearer
    rw [hleaf] at hnot
    exact ⟨hmode, hbearer, hnot⟩
  · rintro ⟨hmode, hbearer, hnot⟩
    refine ⟨hmode, ?_, ?_⟩
    · rw [logged_headers]
      exact hbearer
    · rw [hleaf]
      exact hnot

/-- A certificate mode in the configuration is in force, unless there is a startup error. -/
theorem callerPolicy_of_section (hstart : startupError X S config = none)
    {settings : CallerAuthConfig} (hsection : config.callerAuth = some settings) :
    ∃ policy, callerPolicy config = some policy ∧ policy.mode = settings.mode := by
  have hpolicy := (startupErrors_eq_nil hstart).2
  rw [callerPolicy]
  simp only [resolvePolicy, hsection] at hpolicy ⊢
  cases hto : settings.toPolicy with
  | error e =>
    simp only [hto] at hpolicy
    contradiction
  | ok policy => exact ⟨policy, rfl, (toPolicy_ok hto).1⟩

variable (Ip) in
/-- The caller layer, if it is installed. -/
theorem callerLayers_cases (parse : ParseCertificate) (config : Config) :
    (callerLayers parse config : List (HttpLayer Ip)) = [] ∧
        (∀ policy ∈ callerPolicy config, policy.requiresClientCa = false) ∨
      ∃ policy, callerPolicy config = some policy ∧ policy.requiresClientCa = true ∧
        (callerLayers parse config : List (HttpLayer Ip)) = [callerAuthLayer parse policy] := by
  rw [callerLayers]
  cases hpolicy : callerPolicy config with
  | none => exact .inl ⟨rfl, nofun⟩
  | some policy =>
    cases hmode : policy.requiresClientCa with
    | false =>
      refine .inl ⟨by simp [Option.filter, hmode], ?_⟩
      rintro policy' hpolicy'
      cases hpolicy'
      exact hmode
    | true => exact .inr ⟨policy, rfl, hmode, by simp [Option.filter, hmode]⟩

/-- **What gets through authentication is entitled or unjudged.** -/
theorem entitled_or_unjudged (hstart : startupError X S config = none)
    (hguarded : Guarded config) {r' : Request Ip}
    (h : (passing (callerLayers parse config) (logged S config r)).bind
      (passing (tokenLayers X A config c)) = some r') :
    Entitled X parse config c r ∨ Unjudged parse config r := by
  rcases callerLayers_cases Ip parse config with
    ⟨hnone, hmodes⟩ | ⟨policy, hpolicy, hmode, hlayers⟩
  · -- without a caller layer that asks for a certificate there is a token section
    rw [hnone, passing_nil, Option.bind_some] at h
    have htoken : ∃ settings, config.token = some settings := by
      rcases hguarded with htoken | ⟨settings, hsection, hcert⟩
      · exact Option.isSome_iff_exists.mp htoken
      · obtain ⟨policy, hpolicy, hmode⟩ := callerPolicy_of_section hstart hsection
        have hfalse := hmodes policy hpolicy
        rw [CallerAuthPolicy.requiresClientCa, hmode, hcert] at hfalse
        contradiction
    obtain ⟨settings, hsection⟩ := htoken
    refine .inl ⟨credential_of_token hstart hsection h, ?_⟩
    intro policy hpolicy hmtls
    have hfalse := hmodes policy hpolicy
    rw [CallerAuthPolicy.requiresClientCa, hmtls] at hfalse
    contradiction
  · -- with such a layer there are three ways through it: an exempt path, an allowed certificate,
    -- and a bearer token
    rw [hlayers, passing_singleton] at h
    obtain ⟨r₂, hcaller, htoken⟩ := Option.bind_eq_some_iff.mp h
    have hsame : ∀ policy' ∈ callerPolicy config, policy' = policy := by
      intro policy' hpolicy'
      exact Option.some.inj (hpolicy'.symm.trans hpolicy)
    rcases callerAuthLayer_pass?_cases hmode hcaller with
      ⟨hexempt, -⟩ | ⟨hallow, -⟩ | ⟨hexempt, hdefers, rfl⟩
    · rw [logged_path] at hexempt
      refine .inl ⟨credential_of_isExempt hpolicy hexempt, fun policy' hpolicy' _ => .inl ?_⟩
      rw [hsame policy' hpolicy']
      exact hexempt
    · rw [leafCertificate_logged] at hallow
      refine .inl ⟨.inr (.inr (.inr (.inr ⟨policy, hpolicy, hallow⟩))), ?_⟩
      intro policy' hpolicy' _
      rw [hsame policy' hpolicy']
      exact .inr hallow
    · -- left to the token middleware, which may not be there
      rw [logged_path] at hexempt
      have hmtls : ∀ policy' ∈ callerPolicy config, policy'.mode ≠ .mtls := by
        intro policy' hpolicy'
        rw [hsame policy' hpolicy', hdefers.mode]
        decide
      have hentitled : Credential X parse config c r → Entitled X parse config c r := fun hcred =>
        ⟨hcred, fun policy' hpolicy' h => absurd h (hmtls policy' hpolicy')⟩
      cases hsection : config.token with
      | some settings => exact .inl (hentitled (credential_of_token hstart hsection htoken))
      | none =>
        by_cases hoptions : r.method = .options
        · exact .inl (hentitled (.inr (.inr (.inl hoptions))))
        · exact .inr ⟨hsection, ⟨policy, hpolicy, hexempt, defers_logged.mp hdefers⟩, hoptions⟩

/-- An unjudged request is not entitled. -/
theorem Unjudged.not_credential (h : Unjudged parse config r) :
    ¬ Credential X parse config c r := by
  obtain ⟨hsection, ⟨policy, hpolicy, hexempt, hdefers⟩, hmethod⟩ := h
  obtain ⟨settings, hcaller, -, hpaths⟩ := callerPolicy_eq_some hpolicy
  obtain ⟨hinfra, hpublic⟩ := Bool.or_eq_false_iff.mp hexempt
  rintro (h | h | h | ⟨auth, hauth, -⟩ | ⟨policy', hpolicy', hallow⟩)
  · rw [hinfra] at h
    contradiction
  · rw [publicPaths, hsection, hcaller] at h
    rw [hpaths] at hpublic
    exact Bool.false_ne_true (hpublic.symm.trans h)
  · exact hmethod h
  · rw [tokenAuth_of_none hsection] at hauth
    contradiction
  · cases hpolicy'.symm.trans hpolicy
    have hnot := hdefers.notAllowlisted
    rw [show r.request.extensions.leafCertificate = r.connection.leaf
      from r.leafCertificate_extensions] at hnot
    exact hnot hallow

/-- It gets through authentication as it is. -/
theorem Unjudged.passing (h : Unjudged parse config r) :
    (passing (callerLayers parse config) (logged S config r)).bind
      (passing (tokenLayers X A config c)) = some (logged S config r) := by
  obtain ⟨hsection, ⟨policy, hpolicy, hexempt, hdefers⟩, hmethod⟩ := h
  have hmode : policy.requiresClientCa = true := by
    rw [CallerAuthPolicy.requiresClientCa, hdefers.mode]
    rfl
  have hcaller : (callerLayers parse config : List (HttpLayer Ip))
      = [callerAuthLayer parse policy] := by
    rw [callerLayers, show callerPolicy config = some policy from hpolicy]
    simp [Option.filter, hmode]
  have htoken : tokenLayers X A config c = [] := by
    rw [tokenLayers, tokenAuth_of_none hsection]
    rfl
  rw [hcaller, htoken, passing_singleton,
    callerAuthLayer_pass?_of_defers (defers_logged.mpr hdefers)]
  rfl

/-! ### The other layers -/

/-- Cedar stops a request without claims if it is enabled. -/
theorem passing_cedarLayers_noClaims {r₁ : Request Ip} (hclaims : r₁.extensions.claims = none)
    (hpath : r₁.path ≠ "/health" ∧ r₁.path ≠ "/ready") :
    passing (cedarLayers S config c) r₁
      = if stepValue (resolveCedar S config) = some true then none else some r₁ := by
  rw [cedarLayers]
  rcases stepValue (resolveCedar S config) with _ | _ | _
  · rfl
  · exact (passing_singleton _ _).trans (cedarMiddleware_pass?_noClaims _ _ hclaims hpath)
  · exact (passing_singleton _ _).trans (cedarMiddleware_pass?_noClaims _ _ hclaims hpath)

/-- What the other layers let through of a request without claims. -/
theorem passing_authorizedLayers_iff (hinfra : isInfraPath r.path = false) :
    (passing (authorizedLayers A S E config c) (logged S config r)).isSome = true
      ↔ LetThrough A S E config c r := by
  have hclaims : (logged S config r).extensions.claims = none := by
    rw [logged_extensions]
    rfl
  have hpath : (logged S config r).path ≠ "/health" ∧ (logged S config r).path ≠ "/ready" := by
    rw [logged_path]
    constructor <;>
      · intro h
        rw [h] at hinfra
        contradiction
  rw [authorizedLayers, passing_append]
  -- the governor comes first; behind it the audit lets everything through, and then Cedar
  -- decides
  by_cases hadmits : Admits A config c (logged S config r)
  · rw [passing_governorLayers_of_admits hadmits, Option.bind_some, passing_append,
      passing_auditLayers, Option.bind_some, passing_append,
      passing_cedarLayers_noClaims hclaims hpath]
    split
    · rename_i hcedar
      constructor
      · intro h
        contradiction
      · intro h
        exact absurd hcedar h.cedar
    · rename_i hcedar
      rw [Option.bind_some]
      constructor
      · intro h
        exact ⟨hadmits, hcedar, h⟩
      · intro h
        exact h.general
  · rw [passing_governorLayers_of_not_admits hadmits]
    constructor
    · intro h
      contradiction
    · intro h
      exact absurd h.rateLimiter hadmits

/-- **Who reaches the handler.**  For every configuration that asks for credentials and starts,
and for every request: it reaches the handler only if it is entitled, exactly if it is not one
that nobody judges and nothing else stops. -/
theorem entitled_iff (X : TokenExterns) (A : AddrExterns Ip) (parse : ParseCertificate)
    (S : Surroundings) (E : ExternalLayers Ip) (config : Config)
    (hstart : startupError X S config = none) (hguarded : Guarded config) (c : Circumstances Ip)
    (routes : Method → String → Route Ip) (r : Incoming Ip) :
    ((serve X A parse S E config c routes r).handled.isSome = true →
        Entitled X parse config c r)
      ↔ ¬ (Unjudged parse config r ∧ LetThrough A S E config c r) := by
  rw [handled_serve, passing_layers]
  constructor
  · rintro hentitled ⟨hunjudged, hthrough⟩
    obtain ⟨policy, -, hexempt, -⟩ := hunjudged.deferred
    have hinfra := (Bool.or_eq_false_iff.mp hexempt).1
    refine hunjudged.not_credential (hentitled ?_).credential
    rw [hunjudged.passing, Option.bind_some]
    exact (passing_authorizedLayers_iff hinfra).mpr hthrough
  · intro hnot hreached
    obtain ⟨r', hr'⟩ := Option.isSome_iff_exists.mp hreached
    obtain ⟨r₁, hauth, hrest⟩ := Option.bind_eq_some_iff.mp hr'
    rcases entitled_or_unjudged hstart hguarded hauth with hentitled | hunjudged
    · exact hentitled
    · obtain ⟨policy, -, hexempt, -⟩ := hunjudged.deferred
      have hinfra := (Bool.or_eq_false_iff.mp hexempt).1
      rw [hunjudged.passing] at hauth
      cases hauth
      have hthrough := (passing_authorizedLayers_iff hinfra).mp (by rw [hrest]; rfl)
      exact absurd ⟨hunjudged, hthrough⟩ hnot

end Proofs

/-! ### Samples -/

/-- A service for callers with a certificate or a bearer credential. -/
def sampleConfig (token : Option TokenConfig) : Config where
  serviceName := "billing"
  trustForwardedHeaders := false
  middleware := ⟨"restrictive", true, true, true, true, true⟩
  token := token
  callerAuth := some ⟨.mtlsOrBearer, ["reporter.internal"], []⟩
  tls := some ⟨true, "server.crt", "server.key", some "ca.crt"⟩
  rateLimit := ⟨false, false⟩
  cedar := none
  audit := none

def samplePasetoSection : TokenConfig :=
  .paseto ⟨"v4", "local", "./keys/paseto.key", none, none, []⟩

/-- A caller without a certificate sends a token it made up. -/
def sampleForged : Incoming String where
  method := .get
  path := "/admin"
  headers := [("authorization", strBytes "Bearer forged")]
  connection := .tls ⟨"192.0.2.9", 40000⟩ none
  matchedPath := none

def sampleRoutes (_ : Method) (_ : String) : Route String := ⟨none, fun _ => .returned ⟨200, none⟩⟩

/-- With a `[token]` section the made-up token does not get it to the handler. -/
theorem entitled_iff_sample :
    ¬ (serve sampleTokenExterns sampleAddr (fun _ => .ok none) sampleSurroundings sampleExternal
        (sampleConfig (some samplePasetoSection)) sampleCircumstances sampleRoutes
        sampleForged).handled.isSome = true := by
  have hnot : ¬ Entitled sampleTokenExterns (fun _ => .ok none)
      (sampleConfig (some samplePasetoSection)) sampleCircumstances sampleForged := by
    rintro ⟨hcredential, -⟩
    rcases hcredential with
      h | h | h | ⟨auth, hauth, token, claims, htoken, hclaims⟩ | ⟨policy, -, der, hder, -⟩
    · exact absurd h (by decide)
    · exact absurd h (by decide)
    · exact absurd h (by decide)
    · cases hauth
      cases htoken
      cases hclaims
    · contradiction
  refine fun hhandled => hnot ((entitled_iff sampleTokenExterns sampleAddr (fun _ => .ok none)
    sampleSurroundings sampleExternal (sampleConfig (some samplePasetoSection)) ?_ (.inl rfl)
    sampleCircumstances sampleRoutes sampleForged).mpr ?_ hhandled)
  · decide
  · rintro ⟨hunjudged, -⟩
    exact absurd hunjudged.noToken nofun

/-- Without a `[token]` section a made-up token gets a caller to the handler. -/
theorem not_forall_entitled :
    startupError sampleTokenExterns sampleSurroundings (sampleConfig none) = none ∧
    Guarded (sampleConfig none) ∧
    (serve sampleTokenExterns sampleAddr (fun _ => .ok none) sampleSurroundings sampleExternal
      (sampleConfig none) sampleCircumstances sampleRoutes sampleForged).handled.isSome = true ∧
    ¬ Entitled sampleTokenExterns (fun _ => .ok none) (sampleConfig none) sampleCircumstances
      sampleForged := by
  refine ⟨by decide, .inr ⟨_, rfl, rfl⟩, by decide, ?_⟩
  rintro ⟨hcredential, -⟩
  rcases hcredential with h | h | h | ⟨auth, hauth, -⟩ | ⟨policy, -, der, hder, -⟩
  · exact absurd h (by decide)
  · exact absurd h (by decide)
  · exact absurd h (by decide)
  · contradiction
  · contradiction

end ServiceBuilder

end ActonService
