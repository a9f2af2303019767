import ActonService.ServiceBuilder.Admission

/-!
# Preflights and public paths

An `OPTIONS` request carries no credentials, and the token middleware passes it on so that the CORS
layer can answer it.  A path under one of the `public_paths` of the `[token]` section is passed on
without a token too.  The CORS layer is the first that `build` adds: a request meets every other
layer before it, and the router behind it.

The rate limiter may refuse either.  Cedar refuses both, unless the path is `/health` or `/ready`:
it asks for the claims of a token that nobody was asked for.

Of the third-party layers two may answer a request themselves: the CORS layer answers preflights,
and the body limit refuses what is announced to be too large.  The others pass everything on.

## Main definitions

* `layersBeforeCors` — the layers between the listener and the CORS layer.
* `PublicPath`, `Refuses`, `CedarEnabled` — which requests, and what may stop them.
* `transparentLayers`, `Documented` — what is relied on of the third-party layers.
* `Clear` — nothing but the rate limiter is in the way.

## Main results

* `passing_exempt` — how far a request gets that no token is asked of.
* `exempt_reaches_iff` — **a preflight reaches the CORS layer, and a public path the router, exactly
  if the way is clear.**
-/

namespace ActonService

namespace ServiceBuilder

open Layers

variable {Ip : Type}

/-! ### The way of a request -/

section Way

variable (X : TokenExterns) (A : AddrExterns Ip) (parse : ParseCertificate)
  (S : Surroundings) (E : ExternalLayers Ip) (config : Config) (c : Circumstances Ip)

/-- The layers a request meets before the CORS layer, which is added first. -/
def layersBeforeCors : List (HttpLayer Ip) := (layers X A parse S E config c).tail

/-- The general layers a request meets before the CORS layer. -/
def generalBeforeCors : List (HttpLayer Ip) := (generalLayers A E config).tail

theorem generalLayers_eq_cons :
    generalLayers A E config = (E.cors (corsPolicy config.middleware.corsMode)).layer
      :: generalBeforeCors A E config := by
  simp [generalBeforeCors, generalLayers, applyMiddleware]

end Way

/-- The path starts with a prefix that the token section makes public. -/
def PublicPath (config : Config) (path : String) : Prop :=
  ∃ settings ∈ config.token, isPublicPath settings.publicPaths path = true

/-- The rate limiter refuses the request. -/
def Refuses (A : AddrExterns Ip) (config : Config) (c : Circumstances Ip) (r : Request Ip) :
    Prop :=
  config.rateLimit.autoApply = true ∧ ∃ e, (governor config c).verdict A r = .refused e

/-- Making a limiter for the request panics. -/
def LimiterPanics (A : AddrExterns Ip) (config : Config) (c : Circumstances Ip) (r : Request Ip) :
    Prop :=
  config.rateLimit.autoApply = true ∧ (governor config c).verdict A r = .panicked

/-- Cedar is enabled: the middleware given, or else the configured one. -/
def CedarEnabled (S : Surroundings) (config : Config) : Prop :=
  (S.cedarGiven.or config.cedar) = some true

/-- What a layer that lets everything through leaves as it is: the method, and whether the body
limit allows the length that the headers announce. -/
structure Keeps (fits : HeaderMap → Bool) (r r' : Request Ip) : Prop where
  method : r'.method = r.method
  fits : fits r'.headers = fits r.headers

/-- The third-party layers that let everything through. -/
def transparentLayers (E : ExternalLayers Ip) : List (HttpFilter Ip) :=
  [E.securityHeaders, E.compression, E.timeout, E.trace, E.sensitiveHeaders, E.propagateRequestId,
    E.setRequestId] ++ E.metrics.toList ++ E.session.toList

/-- What is relied on of the third-party layers, at what the body limit says of headers. -/
structure Documented (E : ExternalLayers Ip) (fits : HeaderMap → Bool) : Prop where
  /-- The CORS layer answers an `OPTIONS` request itself. -/
  cors_options : ∀ policy r, r.method = .options →
    ∃ response, (E.cors policy).before r = .error response
  cors_other : ∀ policy r, r.method ≠ .options → ∃ r', (E.cors policy).before r = .ok r'
  bodyLimit_fits : ∀ r, fits r.headers = true →
    ∃ r', E.bodyLimit.before r = .ok r' ∧ r'.method = r.method
  bodyLimit_large : ∀ r, fits r.headers = false →
    ∃ response, E.bodyLimit.before r = .error response
  transparent : ∀ f ∈ transparentLayers E, ∀ r, ∃ r', f.before r = .ok r' ∧ Keeps fits r r'

/-- Nothing but the rate limiter is in the way of a request that no token is asked of. -/
structure Clear (A : AddrExterns Ip) (S : Surroundings) (config : Config) (c : Circumstances Ip)
    (fits : HeaderMap → Bool) (r : Incoming Ip) : Prop where
  /-- Cedar passes on without claims what it does not ask for any. -/
  cedar : CedarEnabled S config → r.path = "/health" ∨ r.path = "/ready"
  limiter : ¬ LimiterPanics A config c r.request
  bodyLimit : fits r.headers = true

section Proofs

variable {X : TokenExterns} {A : AddrExterns Ip} {parse : ParseCertificate} {S : Surroundings}
  {E : ExternalLayers Ip} {config : Config} {c : Circumstances Ip} {r : Incoming Ip}
  {fits : HeaderMap → Bool}

/-! ### Authentication -/

/-- Without a section in a certificate mode there is no caller layer. -/
theorem callerLayers_eq_nil
    (hcaller : ∀ settings ∈ config.callerAuth, settings.mode.usesClientCertificates = false) :
    (callerLayers parse config : List (HttpLayer Ip)) = [] := by
  rcases callerLayers_cases Ip parse config with ⟨hnil, -⟩ | ⟨policy, hpolicy, hmode, -⟩
  · exact hnil
  · obtain ⟨settings, hsection, hsame, -⟩ := callerPolicy_eq_some hpolicy
    rw [CallerAuthPolicy.requiresClientCa, hsame, hcaller settings hsection] at hmode
    contradiction

/-- The token middleware passes on what no token is asked of. -/
theorem passing_tokenLayers_of_exempt (h : r.method = .options ∨ PublicPath config r.path) :
    passing (tokenLayers X A config c) (logged S config r) = some (logged S config r) := by
  rw [tokenLayers]
  cases hauth : tokenAuth X config c with
  | none => rfl
  | some auth =>
    have hasks : auth.asksNone (logged S config r) = true := by
      rw [TokenAuth.asksNone, logged_method, logged_path]
      rcases h with hoptions | ⟨settings, hsection, hpublic⟩
      · simp [hoptions]
      · obtain ⟨settings', hsection', -, hpaths⟩ := tokenAuth_eq_some hauth
        cases (show some settings = some settings' from hsection.symm.trans hsection')
        simp [hpaths, hpublic]
    refine (passing_singleton _ _).trans ?_
    rw [Layer.pass?, tokenMiddleware_of_asksNone _ _ hasks]
    rfl

/-! ### Rate limiter and Cedar -/

theorem verdict_logged :
    (governor config c).verdict A (logged S config r)
      = (governor config c).verdict A r.request := by
  rw [Governor.verdict, Governor.verdict, logged_headers, logged_method, logged_path,
    logged_extensions]
  rfl

/-- A limiter that does not refuse a request admits it, or panics. -/
theorem admits_iff (hrefuses : ¬ Refuses A config c r.request) :
    Admits A config c (logged S config r) ↔ ¬ LimiterPanics A config c r.request := by
  rw [Admits, LimiterPanics, verdict_logged, not_and]
  refine forall_congr' fun hauto => ?_
  cases hverdict : (governor config c).verdict A r.request with
  | admitted => simp
  | refused e => exact absurd ⟨hauto, e, hverdict⟩ hrefuses
  | panicked => simp

/-- A builder without errors has the Cedar middleware that is enabled. -/
theorem resolveCedar_enabled_iff (hstart : startupError X S config = none) :
    stepValue (resolveCedar S config) = some true ↔ CedarEnabled S config := by
  have hnil : startupErrors X S config = [] := List.head?_eq_none_iff.mp hstart
  simp only [startupErrors, List.append_eq_nil_iff] at hnil
  obtain ⟨⟨⟨⟨⟨⟨⟨-, hcedar⟩, -⟩, -⟩, -⟩, -⟩, -⟩, -⟩ := hnil
  rw [CedarEnabled]
  rw [resolveCedar] at hcedar ⊢
  cases hgiven : S.cedarGiven with
  | some enabled => rfl
  | none =>
    rcases hconfig : config.cedar with _ | _ | _
    · rfl
    · simp [stepValue]
    · -- an initialisation that fails would be an error
      simp only [hgiven, hconfig] at hcedar
      cases hruntime : S.runtime with
      | singleThreaded =>
        rw [hruntime] at hcedar
        contradiction
      | absent =>
        rw [hruntime] at hcedar
        contradiction
      | multiThreaded =>
        cases hbuild : S.cedarBuild with
        | error e =>
          simp only [hruntime, hbuild] at hcedar
          contradiction
        | ok _ => rfl

/-- What Cedar lets through of a request without claims. -/
theorem passing_cedarLayers_of_noClaims (hstart : startupError X S config = none)
    [Decidable (CedarEnabled S config → r.path = "/health" ∨ r.path = "/ready")] :
    passing (cedarLayers S config c) (logged S config r)
      = if CedarEnabled S config → r.path = "/health" ∨ r.path = "/ready" then
          some (logged S config r) else none := by
  have hclaims : (logged S config r).extensions.claims = none := by
    rw [logged_extensions]
    rfl
  by_cases hpath : r.path = "/health" ∨ r.path = "/ready"
  · have hpass : ∀ enabled,
        (cedarMiddleware c.stamps ⟨enabled, c.cedarDecision⟩).pass? (logged S config r)
          = some (logged S config r) := by
      intro enabled
      rw [Layer.pass?, cedarMiddleware]
      simp only [logged_path, if_pos hpath]
      cases enabled <;> rfl
    rw [if_pos fun _ => hpath, cedarLayers]
    cases stepValue (resolveCedar S config) with
    | none => rfl
    | some enabled => exact (passing_singleton _ _).trans (hpass enabled)
  · have hne : (logged S config r).path ≠ "/health" ∧ (logged S config r).path ≠ "/ready" := by
      rw [logged_path]
      exact not_or.mp hpath
    rw [passing_cedarLayers_noClaims hclaims hne]
    by_cases henabled : CedarEnabled S config
    · rw [if_pos ((resolveCedar_enabled_iff hstart).mpr henabled),
        if_neg fun h => hpath (h henabled)]
    · rw [if_neg fun h => henabled ((resolveCedar_enabled_iff hstart).mp h),
        if_pos fun h => absurd h henabled]

/-- **How far a request gets that no token is asked of.**  Before the layers that are added first
only the rate limiter and Cedar may stop it. -/
theorem passing_exempt (hstart : startupError X S config = none)
    (hcaller : ∀ settings ∈ config.callerAuth, settings.mode.usesClientCertificates = false)
    (h : r.method = .options ∨ PublicPath config r.path)
    (hrefuses : ¬ Refuses A config c r.request) (first : List (HttpLayer Ip)) :
    (passing (first ++ cedarLayers S config c ++ auditLayers A S config c
        ++ governorLayers A config c ++ tokenLayers X A config c ++ callerLayers parse config
        ++ loggerLayers S config) r.request).isSome = true
      ↔ (CedarEnabled S config → r.path = "/health" ∨ r.path = "/ready") ∧
        ¬ LimiterPanics A config c r.request ∧
        (passing first (logged S config r)).isSome = true := by
  classical
  rw [passing_append, passing_loggerLayers, Option.bind_some, callerLayers_eq_nil hcaller,
    List.append_nil, passing_append, passing_tokenLayers_of_exempt h, Option.bind_some,
    passing_append, ← admits_iff (S := S) hrefuses]
  by_cases hadmits : Admits A config c (logged S config r)
  · rw [passing_governorLayers_of_admits hadmits, Option.bind_some, passing_append,
      passing_auditLayers, Option.bind_some, passing_append,
      passing_cedarLayers_of_noClaims hstart]
    split
    · rename_i hcedar
      rw [Option.bind_some]
      exact ⟨fun hfirst => ⟨hcedar, hadmits, hfirst⟩, fun hall => hall.2.2⟩
    · rename_i hcedar
      exact ⟨fun hnone => by contradiction, fun hall => absurd hall.1 hcedar⟩
  · rw [passing_governorLayers_of_not_admits hadmits]
    exact ⟨fun hnone => by contradiction, fun hall => absurd hall.2.1 hadmits⟩

/-! ### The general layers -/

theorem Keeps.refl (r : Request Ip) : Keeps fits r r := ⟨rfl, rfl⟩

theorem Keeps.trans {r r' r'' : Request Ip} (h : Keeps fits r r') (h' : Keeps fits r' r'') :
    Keeps fits r r'' := ⟨h'.method.trans h.method, h'.fits.trans h.fits⟩

/-- A third-party layer that lets everything through. -/
theorem Documented.pass? (hE : Documented E fits) {f : HttpFilter Ip} (hf : f ∈ transparentLayers E)
    (r : Request Ip) :
    ∃ r', (f.layer : HttpLayer Ip).pass? r = some r' ∧ Keeps fits r r' := by
  obtain ⟨r', hr', hkeeps⟩ := hE.transparent f hf r
  exact ⟨r', by rw [Layer.pass?, Filter.layer, hr'], hkeeps⟩

/-- The layers behind the body limit, but for the CORS layer. -/
def behindLimit (E : ExternalLayers Ip) (config : Config) : List (HttpLayer Ip) :=
  E.securityHeaders.layer :: ((if config.middleware.compression then [E.compression.layer] else [])
    ++ [E.timeout.layer])

/-- The general layers before the body limit. -/
def beforeLimit (A : AddrExterns Ip) (E : ExternalLayers Ip) (config : Config) :
    List (HttpLayer Ip) :=
  E.trace.layer :: (E.metrics.toList.map Filter.layer
    ++ [requestContextMiddleware A config.trustForwardedHeaders]
    ++ (if config.middleware.maskSensitiveHeaders then [E.sensitiveHeaders.layer] else [])
    ++ (if config.middleware.propagateHeaders then [E.propagateRequestId.layer] else [])
    ++ (if config.middleware.requestIdEnabled then [E.setRequestId.layer] else [])
    ++ (if config.middleware.catchPanic then [catchPanic E.panicResponse] else [])
    ++ E.session.toList.map Filter.layer)

theorem generalBeforeCors_eq :
    generalBeforeCors A E config
      = behindLimit E config ++ [E.bodyLimit.layer] ++ beforeLimit A E config := by
  simp [generalBeforeCors, generalLayers, applyMiddleware, behindLimit, beforeLimit]

/-- The layers before and behind the body limit let everything through. -/
theorem Documented.keeps (hE : Documented E fits) (A : AddrExterns Ip) (config : Config) :
    ∀ l ∈ behindLimit E config ++ beforeLimit A E config, ∀ r,
      ∃ r', l.pass? r = some r' ∧ Keeps fits r r' := by
  have hfixed : ∀ f ∈ [E.securityHeaders, E.compression, E.timeout, E.trace, E.sensitiveHeaders,
      E.propagateRequestId, E.setRequestId], ∀ r,
      ∃ r', (f.layer : HttpLayer Ip).pass? r = some r' ∧ Keeps fits r r' :=
    fun f hf => hE.pass? (List.mem_append_left _ (List.mem_append_left _ hf))
  simp only [List.forall_mem_cons] at hfixed
  obtain ⟨hsecurity, hcompression, htimeout, htrace, hsensitive, hpropagate, hset, -⟩ := hfixed
  have hmetrics : ∀ l ∈ (E.metrics.toList.map Filter.layer : List (HttpLayer Ip)), ∀ r,
      ∃ r', l.pass? r = some r' ∧ Keeps fits r r' :=
    List.forall_mem_map.mpr fun f hf =>
      hE.pass? (List.mem_append_left _ (List.mem_append_right _ hf))
  have hsession : ∀ l ∈ (E.session.toList.map Filter.layer : List (HttpLayer Ip)), ∀ r,
      ∃ r', l.pass? r = some r' ∧ Keeps fits r r' :=
    List.forall_mem_map.mpr fun f hf => hE.pass? (List.mem_append_right _ hf)
  have hif : ∀ (b : Bool) (l : HttpLayer Ip), (∀ r, ∃ r', l.pass? r = some r' ∧ Keeps fits r r') →
      ∀ l' ∈ (if b then [l] else []), ∀ r, ∃ r', l'.pass? r = some r' ∧ Keeps fits r r' := by
    intro b l hl
    cases b with
    | false => exact List.forall_mem_nil _
    | true => exact List.forall_mem_singleton.mpr hl
  have hcontext : ∀ r, ∃ r', (requestContextMiddleware A config.trustForwardedHeaders).pass? r
      = some r' ∧ Keeps fits r r' := fun r => ⟨_, rfl, rfl, rfl⟩
  have hpanic : ∀ r, ∃ r', (catchPanic E.panicResponse : HttpLayer Ip).pass? r = some r' ∧
      Keeps fits r r' := fun r => ⟨r, rfl, Keeps.refl r⟩
  simp only [behindLimit, beforeLimit, List.forall_mem_append, List.forall_mem_cons]
  exact ⟨⟨hsecurity, hif _ _ hcompression, htimeout, List.forall_mem_nil _⟩,
    htrace, ⟨⟨⟨⟨⟨hmetrics, hcontext, List.forall_mem_nil _⟩, hif _ _ hsensitive⟩,
      hif _ _ hpropagate⟩, hif _ _ hset⟩, hif _ _ hpanic⟩, hsession⟩

/-- **Before the CORS layer only the body limit stops a request**, among the general layers. -/
theorem passing_generalBeforeCors (hE : Documented E fits) (A : AddrExterns Ip) (config : Config)
    (r : Request Ip) :
    ((passing (generalBeforeCors A E config) r).isSome = true ↔ fits r.headers = true) ∧
      ∀ r', passing (generalBeforeCors A E config) r = some r' → r'.method = r.method := by
  have hbefore := passing_of_forall Keeps.refl Keeps.trans
    (fun l hl => hE.keeps A config l (List.mem_append_right _ hl))
  have hbehind := passing_of_forall Keeps.refl Keeps.trans
    (fun l hl => hE.keeps A config l (List.mem_append_left _ hl))
  obtain ⟨r₁, hr₁, hkeeps₁⟩ := hbefore r
  rw [generalBeforeCors_eq, passing_append, hr₁, Option.bind_some, passing_append,
    passing_singleton, Layer.pass?, Filter.layer]
  cases hfits : fits r.headers with
  | false =>
    obtain ⟨response, hlarge⟩ := hE.bodyLimit_large r₁ (hkeeps₁.fits.trans hfits)
    rw [hlarge]
    simp
  | true =>
    obtain ⟨r₂, hr₂, hmethod⟩ := hE.bodyLimit_fits r₁ (hkeeps₁.fits.trans hfits)
    obtain ⟨r₃, hr₃, hkeeps₃⟩ := hbehind r₂
    rw [hr₂]
    simp only [Option.bind_some, hr₃, Option.isSome_some, Option.some.injEq]
    refine ⟨trivial, ?_⟩
    rintro r' rfl
    exact hkeeps₃.method.trans (hmethod.trans hkeeps₁.method)

/-- **The CORS layer stops preflights only.** -/
theorem passing_generalLayers (hE : Documented E fits) (r : Request Ip) :
    (passing (generalLayers A E config) r).isSome = true
      ↔ fits r.headers = true ∧ r.method ≠ .options := by
  obtain ⟨hfits, hmethod⟩ := passing_generalBeforeCors hE A config r
  have hcons : generalLayers A E config
      = [(E.cors (corsPolicy config.middleware.corsMode)).layer] ++ generalBeforeCors A E config :=
    generalLayers_eq_cons A E config
  rw [hcons, passing_append, ← hfits]
  cases hpassing : passing (generalBeforeCors A E config) r with
  | none => simp
  | some r' =>
    rw [← hmethod r' hpassing, Option.bind_some, passing_singleton, Layer.pass?, Filter.layer]
    by_cases hoptions : r'.method = .options
    · obtain ⟨response, hcors⟩ :=
        hE.cors_options (corsPolicy config.middleware.corsMode) r' hoptions
      rw [hcors]
      simp [hoptions]
    · obtain ⟨r'', hcors⟩ := hE.cors_other (corsPolicy config.middleware.corsMode) r' hoptions
      rw [hcors]
      simp [hoptions]

/-- **A preflight reaches the CORS layer, and a public path the router, exactly if the way is
clear**, for every configuration that starts and has no certificate-mode caller section, unless the
rate limiter refuses the request.  An `OPTIONS` request stops at the CORS layer, which answers
it. -/
theorem exempt_reaches_iff (X : TokenExterns) (A : AddrExterns Ip) (parse : ParseCertificate)
    (S : Surroundings) (E : ExternalLayers Ip) (config : Config) (c : Circumstances Ip)
    (routes : Method → String → Route Ip) (r : Incoming Ip) (hE : Documented E fits)
    (hstart : startupError X S config = none)
    (hcaller : ∀ settings ∈ config.callerAuth, settings.mode.usesClientCertificates = false)
    (hrefuses : ¬ Refuses A config c r.request) :
    (r.method = .options →
        ((passing (layersBeforeCors X A parse S E config c) r.request).isSome = true
          ↔ Clear A S config c fits r)) ∧
      (PublicPath config r.path →
        ((serve X A parse S E config c routes r).handled.isSome = true
          ↔ Clear A S config c fits r ∧ r.method ≠ .options)) := by
  constructor
  · intro hoptions
    have hlayers : layersBeforeCors X A parse S E config c
        = generalBeforeCors A E config ++ cedarLayers S config c ++ auditLayers A S config c
          ++ governorLayers A config c ++ tokenLayers X A config c ++ callerLayers parse config
          ++ loggerLayers S config := rfl
    rw [hlayers, passing_exempt hstart hcaller (.inl hoptions) hrefuses,
      (passing_generalBeforeCors hE _ _ _).1, logged_headers]
    exact ⟨fun h => ⟨h.1, h.2.1, h.2.2⟩, fun h => ⟨h.cedar, h.limiter, h.bodyLimit⟩⟩
  · intro hpublic
    rw [handled_serve, layers, passing_exempt hstart hcaller (.inr hpublic) hrefuses,
      passing_generalLayers hE, logged_headers, logged_method]
    exact ⟨fun h => ⟨⟨h.1, h.2.1, h.2.2.1⟩, h.2.2.2⟩,
      fun h => ⟨h.1.cedar, h.1.limiter, h.1.bodyLimit, h.2⟩⟩

end Proofs

/-! ### Samples -/

/-- A body limit of one mebibyte, as it reads the announced length. -/
def sampleFits (headers : HeaderMap) : Bool :=
  match (headerString headers "content-length").bind fun s =>
      Text.parseUnsigned 18446744073709551616 s.toList with
  | some length => decide (length ≤ 1048576)
  | none => true

/-- External layers that do nothing, but for a CORS layer and a body limit. -/
def sampleCors : ExternalLayers String :=
  { sampleExternal with
    cors := fun _ =>
      ⟨fun r => if r.method = .options then .error ⟨200, none⟩ else .ok r,
        fun _ response => response⟩
    bodyLimit :=
      ⟨fun r => if sampleFits r.headers then .ok r else .error ⟨413, none⟩,
        fun _ response => response⟩ }

theorem documented_sampleCors : Documented sampleCors sampleFits where
  cors_options := fun _ r h => ⟨⟨200, none⟩, if_pos h⟩
  cors_other := fun _ r h => ⟨r, if_neg h⟩
  bodyLimit_fits := fun r h => ⟨r, if_pos h, rfl⟩
  bodyLimit_large := fun r h => ⟨⟨413, none⟩, if_neg (by simp [h])⟩
  transparent := by
    intro f hf r
    have hnone : f = Filter.none := by
      simpa [transparentLayers, sampleCors, sampleExternal] using hf
    rw [hnone]
    exact ⟨r, rfl, Keeps.refl r⟩

/-- A service with a public login page, with Cedar or without. -/
def sampleLoginConfig (cedar : Option Bool) : Config :=
  { sampleConfig (some (.paseto ⟨"v4", "local", "./keys/paseto.key", none, none, ["/login"]⟩)) with
    callerAuth := none
    cedar := cedar }

/-- A request of a browser, without credentials. -/
def sampleBrowser (method : Method) (path : String) : Incoming String where
  method := method
  path := path
  headers := [("origin", strBytes "https://app.internal")]
  connection := .plain ⟨"192.0.2.9", 40000⟩
  matchedPath := none

/-- Without Cedar a preflight reaches the CORS layer, and the login page is served. -/
theorem exempt_reaches_iff_sample :
    (passing (layersBeforeCors sampleTokenExterns sampleAddr (fun _ => .ok none) sampleSurroundings
        sampleCors (sampleLoginConfig none) sampleCircumstances)
        (sampleBrowser .options "/api/orders").request).isSome = true ∧
      (serve sampleTokenExterns sampleAddr (fun _ => .ok none) sampleSurroundings sampleCors
        (sampleLoginConfig none) sampleCircumstances sampleRoutes
        (sampleBrowser .get "/login")).handled.isSome = true := by
  have hrefuses : ∀ r, ¬ Refuses sampleAddr (sampleLoginConfig none) sampleCircumstances r := by
    rintro r ⟨hauto, -⟩
    contradiction
  have hclear : ∀ method path, Clear sampleAddr sampleSurroundings (sampleLoginConfig none)
      sampleCircumstances sampleFits (sampleBrowser method path) := by
    intro method path
    refine ⟨fun h => absurd h (by simp [CedarEnabled, sampleSurroundings, sampleLoginConfig]), ?_,
      rfl⟩
    rintro ⟨hauto, -⟩
    contradiction
  have hstart : startupError sampleTokenExterns sampleSurroundings (sampleLoginConfig none)
      = none := by
    decide
  have hcaller : ∀ settings ∈ (sampleLoginConfig none).callerAuth,
      settings.mode.usesClientCertificates = false := by
    intro settings hsection
    cases hsection
  constructor
  · obtain ⟨hpreflight, -⟩ := exempt_reaches_iff sampleTokenExterns sampleAddr (fun _ => .ok none)
      sampleSurroundings sampleCors (sampleLoginConfig none) sampleCircumstances sampleRoutes
      (sampleBrowser .options "/api/orders") documented_sampleCors hstart hcaller (hrefuses _)
    exact (hpreflight rfl).mpr (hclear _ _)
  · obtain ⟨-, hpublic⟩ := exempt_reaches_iff sampleTokenExterns sampleAddr (fun _ => .ok none)
      sampleSurroundings sampleCors (sampleLoginConfig none) sampleCircumstances sampleRoutes
      (sampleBrowser .get "/login") documented_sampleCors hstart hcaller (hrefuses _)
    exact (hpublic ⟨_, rfl, by decide⟩).mpr ⟨hclear _ _, by decide⟩

/-- **Cedar refuses preflights and public paths**, where the limiter refuses nothing. -/
theorem not_forall_exempt_reaches :
    startupError sampleTokenExterns sampleSurroundings (sampleLoginConfig (some true)) = none ∧
    (sampleLoginConfig (some true)).callerAuth = none ∧
    PublicPath (sampleLoginConfig (some true)) "/login" ∧
    (∀ r, ¬ Refuses sampleAddr (sampleLoginConfig (some true)) sampleCircumstances r) ∧
    (passing (layersBeforeCors sampleTokenExterns sampleAddr (fun _ => .ok none) sampleSurroundings
        sampleCors (sampleLoginConfig (some true)) sampleCircumstances)
        (sampleBrowser .options "/api/orders").request).isSome = false ∧
    (serve sampleTokenExterns sampleAddr (fun _ => .ok none) sampleSurroundings sampleCors
        (sampleLoginConfig (some true)) sampleCircumstances sampleRoutes
        (sampleBrowser .get "/login")).handled.isSome = false := by
  refine ⟨by decide, rfl, ⟨_, rfl, by decide⟩, ?_, by decide, by decide⟩
  rintro r ⟨hauto, -⟩
  contradiction

end ServiceBuilder

end ActonService
