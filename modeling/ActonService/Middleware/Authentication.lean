import ActonService.Auth.PasetoTokens
import ActonService.Middleware.Request

/-!
# The authentication layers

Two layers decide who may call: the layer of `caller_auth.rs`, which judges the certificate of the
caller, and the token middleware of `middleware/paseto.rs` or `middleware/jwt.rs`, which judges a
bearer token.  The two token middlewares differ in how a token is validated only.

## Main definitions

* `callerAuthLayer`, `hasBearerCredential` — the first layer.
* `tokenMiddleware`, `extractToken` — the second.
* `PasetoAuth.new`, `JwtAuth.new`, `JwtAuth.validateToken` — the two kinds of tokens.

## Main results

* `callerAuthLayer_pass?_cases`, `tokenMiddleware_pass?_cases` — **what gets through the
  layers.**
* `tokenMiddleware_of_asks` — a request that is asked for a token is logged.
-/

namespace ActonService

open Layers

/-! ### Exempt paths -/

/-- `HTTP_PROBE_PATHS` -/
def httpProbePaths : List String := ["/health", "/ready"]

/-- `HTTP_DOC_PATH_PREFIXES` -/
def httpDocPathPrefixes : List String := ["/swagger-ui", "/api-docs"]

/-- A built-in infrastructure path.  The token middlewares name the same paths. -/
def isInfraPath (path : String) : Bool :=
  httpProbePaths.contains path || httpDocPathPrefixes.any (startsWith path)

/-- A path that starts with one of the public ones. -/
def isPublicPath (publicPaths : List String) (path : String) : Bool :=
  publicPaths.any (startsWith path)

/-! ### Caller authorisation -/

/-- `has_bearer_credential` -/
def hasBearerCredential (headers : HeaderMap) : Bool :=
  match headerString headers "authorization" with
  | none => false
  | some value =>
    match Text.splitOnce ' ' value.toList with
    | none => false
    | some (scheme, rest) => decide (scheme.map Char.toLower = "bearer".toList) && !rest.isEmpty

/-- `is_exempt` on an HTTP router. -/
def CallerAuthPolicy.isExempt (policy : CallerAuthPolicy) (path : String) : Bool :=
  isInfraPath path || isPublicPath policy.publicPaths path

/-- The layer of `CallerAuthLayer::http`. -/
def callerAuthLayer {Ip : Type} (parse : ParseCertificate) (policy : CallerAuthPolicy) :
    HttpLayer Ip := fun r =>
  if policy.mode = .bearer ∨ policy.isExempt r.path = true then forwardRequest [] r
  else
    match policy.authorize parse r.extensions.leafCertificate (hasBearerCredential r.headers) with
    | .ok (.certificate san) =>
      forwardRequest [] (r.withIdentity ⟨san, decide (policy.mode = .mtlsOrBearer)⟩)
    | .ok .bearerDeferred => forwardRequest [] r
    | .error e => .answer [] (.returned e.rejection)

/-! ### Tokens -/

/-- `extract_token` -/
def extractToken (headers : HeaderMap) : Except ServiceError String :=
  match headerString headers "authorization" with
  | none => .error (.unauthorized "Missing Authorization header")
  | some value =>
    match stripPrefix value "Bearer " with
    | some token => .ok token
    | none => .error (.unauthorized "Invalid Authorization header format")

/-- `PasetoAuth` or `JwtAuth`, as the middleware uses it. -/
structure TokenAuth where
  /-- `TokenValidator::validate_token` -/
  validateToken : String → Except ServiceError Claims
  /-- `TokenRevocation::is_revoked`, if there is a checker. -/
  isRevoked : Option (String → Except ServiceError Bool)
  publicPaths : List String

/-- The identifier of a token that was revoked. -/
def TokenAuth.revokedJti (auth : TokenAuth) (claims : Claims) :
    Except ServiceError (Option String) :=
  match auth.isRevoked, claims.jti with
  | some isRevoked, some jti =>
    match isRevoked jti with
    | .error e => .error e
    | .ok revoked => .ok (if revoked then some jti else none)
  | _, _ => .ok none

/-- The middleware asks no token of the request. -/
def TokenAuth.asksNone {Ip : Type} (auth : TokenAuth) (r : Request Ip) : Bool :=
  decide (r.method = .options) || isInfraPath r.path || isPublicPath auth.publicPaths r.path ||
    r.extensions.bearerWaived

/-- `PasetoAuth::middleware` and `JwtAuth::middleware`. -/
def tokenMiddleware {Ip : Type} (A : AddrExterns Ip) (stamps : Stamps) (auth : TokenAuth) :
    HttpLayer Ip := fun r =>
  if auth.asksNone r then forwardRequest [] r
  else
    let source := auditSourceForRequest A r
    let logger := r.extensions.auditLogger
    match extractToken r.headers with
    | .error e => refuse (authEvents stamps logger .authTokenMissing .informational source) e
    | .ok token =>
      match auth.validateToken token with
      | .error e => refuse (authEvents stamps logger .authTokenInvalid .warning source) e
      | .ok claims =>
        match auth.revokedJti claims with
        | .error e => refuse [] e
        | .ok (some jti) =>
          let events := authEvents stamps logger .authTokenRevoked .warning
            { source with subject := some claims.sub }
          refuse
            (events.map fun event =>
              { event with metadata := some (.object [("jti", .string jti)]) })
            (.unauthorized "Token has been revoked")
        | .ok none =>
          forwardRequest
            (authEvents stamps logger .authLoginSuccess .notice
              { source with subject := some claims.sub })
            (r.withClaims claims)

/-! ### PASETO and JWT -/

/-- `jsonwebtoken::Algorithm`, as far as it is supported. -/
inductive JwtAlgorithm
  | rs256
  | rs384
  | rs512
  | es256
  | es384
  | hs256
  | hs384
  | hs512
  deriving DecidableEq, Repr

/-- The functions tokens are validated with. -/
structure TokenExterns extends PasetoExterns where
  /-- `fs::read`, or the text of its error. -/
  readFile : String → Except String (List UInt8)
  /-- `str::to_uppercase` -/
  toUppercase : String → String
  /-- `DecodingKey::from_rsa_pem`, `from_ec_pem` or `from_secret`: whether the bytes are a key for
  the algorithm, or the text of the error. -/
  decodingKey : JwtAlgorithm → List UInt8 → Except String Unit
  /-- `decode_header`, without its error: the `kid` of the header. -/
  decodeHeader : String → Option (Option String)
  /-- `decode::<Claims>` with a key, on the issuer and the audience expected, at a time. -/
  decode : JwtAlgorithm → List UInt8 → Option String → Option String → DateTime → String →
    Except String Claims

/-- `PasetoConfig` -/
structure PasetoConfig where
  version : String
  purpose : String
  keyPath : String
  issuer : Option String
  audience : Option String
  publicPaths : List String

/-- What a key manager answers while a token is validated. -/
structure KeyAnswers where
  /-- `get_verification_key` -/
  verificationKey : String → Except KeyError (Option CachedKey)
  /-- `get_all_verification_keys` -/
  allVerificationKeys : Except KeyError (List CachedKey)

section Constructors

variable (X : TokenExterns)

/-- What both constructors say of a key file that cannot be read. -/
def unreadableKey (what path hints e : String) : ServiceError :=
  .config ("Failed to read " ++ what ++ " from path '" ++ path ++ "'\n\nTroubleshooting:\n"
    ++ "1. Verify the file exists: ls -la " ++ path ++ "\n"
    ++ "2. Check file permissions (must be readable)\n"
    ++ "3. Verify the path is correct in configuration\n" ++ hints ++ "\n\nError: " ++ e)

/-- The key of a purpose: 32 bytes. -/
def PasetoAuth.ofKey (config : PasetoConfig) (purpose : PasetoPurpose) (requires : String)
    (key : List UInt8) : Except ServiceError PasetoAuth :=
  if h : key.length = 32 then .ok ⟨purpose, key, h, config.issuer, config.audience⟩
  else .error (.config (requires ++ ", got " ++ Nat.repr key.length ++ " bytes"))

/-- `PasetoAuth::new` -/
def PasetoAuth.new (config : PasetoConfig) : Except ServiceError PasetoAuth :=
  match X.readFile config.keyPath with
  | .error e =>
    .error (unreadableKey "PASETO key" config.keyPath
      ("4. For v4.local: Use a 32-byte symmetric key\n"
        ++ "5. For v4.public: Use a 32-byte Ed25519 public key") e)
  | .ok key =>
    match config.version, config.purpose with
    | "v4", "local" =>
      PasetoAuth.ofKey config .v4Local "PASETO v4.local requires a 32-byte symmetric key" key
    | "v4", "public" =>
      PasetoAuth.ofKey config .v4Public "PASETO v4.public requires a 32-byte Ed25519 public key" key
    | version, purpose =>
      .error (.config ("Unsupported PASETO version/purpose: " ++ version ++ "." ++ purpose
        ++ "\nSupported combinations: v4.local, v4.public"))

/-- A PASETO validator as the service builder makes it, at a time: without revocation. -/
def PasetoAuth.tokenAuth (auth : PasetoAuth) (publicPaths : List String) (now : DateTime)
    (keyManager : Option KeyAnswers) : TokenAuth where
  validateToken token :=
    (auth.validateToken X.toPasetoExterns now token
      (keyManager.map KeyAnswers.allVerificationKeys)).mapError PasetoError.toServiceError
  isRevoked := none
  publicPaths := publicPaths

/-- `JwtConfig` -/
structure JwtConfig where
  publicKeyPath : String
  algorithm : String
  issuer : Option String
  audience : Option String
  publicPaths : List String

/-- `JwtAuth`, but for its key manager. -/
structure JwtAuth where
  algorithm : JwtAlgorithm
  key : List UInt8
  issuer : Option String
  audience : Option String

/-- The algorithm of a name in upper case. -/
def JwtAlgorithm.ofName (name : String) : Option JwtAlgorithm :=
  [("RS256", .rs256), ("RS384", .rs384), ("RS512", .rs512), ("ES256", .es256), ("ES384", .es384),
   ("HS256", .hs256), ("HS384", .hs384), ("HS512", .hs512)].lookup name

/-- `JwtAuth::new` -/
def JwtAuth.new (config : JwtConfig) : Except ServiceError JwtAuth :=
  match X.readFile config.publicKeyPath with
  | .error e =>
    .error (unreadableKey "JWT public key" config.publicKeyPath
      "4. For RS256/ES256: Use PEM format public key\n5. For HS256: Use raw secret file" e)
  | .ok key =>
    let name := X.toUppercase config.algorithm
    match JwtAlgorithm.ofName name with
    | none => .error (.config ("Unsupported JWT algorithm: " ++ name))
    | some algorithm =>
      match X.decodingKey algorithm key with
      | .error e => .error (.jwt e)
      | .ok () => .ok ⟨algorithm, key, config.issuer, config.audience⟩

/-- Decoding a token with the key of some bytes. -/
def JwtAuth.decodeWith (auth : JwtAuth) (now : DateTime) (token : String) (key : List UInt8) :
    Except ServiceError Claims :=
  match X.decodingKey auth.algorithm key with
  | .error e => .error (.jwt e)
  | .ok () =>
    (X.decode auth.algorithm key auth.issuer auth.audience now token).mapError .jwt

/-- Decoding it with the static key. -/
def JwtAuth.decodeStatic (auth : JwtAuth) (now : DateTime) (token : String) :
    Except ServiceError Claims :=
  (X.decode auth.algorithm auth.key auth.issuer auth.audience now token).mapError .jwt

/-- A token whose `kid` names no key: every key is tried, then the static one. -/
def JwtAuth.decodeAny (auth : JwtAuth) (now : DateTime) (token : String) (keys : KeyAnswers) :
    Except ServiceError Claims :=
  match keys.allVerificationKeys with
  | .error e => .error e.toServiceError
  | .ok all =>
    match all.findSome? fun key => (auth.decodeWith X now token key.keyMaterial).toOption with
    | some claims => .ok claims
    | none => auth.decodeStatic X now token

/-- `validate_token` -/
def JwtAuth.validateToken (auth : JwtAuth) (now : DateTime) (keyManager : Option KeyAnswers)
    (token : String) : Except ServiceError Claims :=
  match keyManager, X.decodeHeader token with
  | some keys, some (some kid) =>
    match keys.verificationKey kid with
    | .error e => .error e.toServiceError
    | .ok (some cached) => auth.decodeWith X now token cached.keyMaterial
    | .ok none => auth.decodeAny X now token keys
  | _, _ => auth.decodeStatic X now token

/-- A JWT validator as the service builder makes it, at a time: without revocation. -/
def JwtAuth.tokenAuth (auth : JwtAuth) (publicPaths : List String) (now : DateTime)
    (keyManager : Option KeyAnswers) : TokenAuth where
  validateToken := auth.validateToken X now keyManager
  isRevoked := none
  publicPaths := publicPaths

end Constructors

/-! ### What gets through -/

section PassedOn

variable {Ip : Type} {parse : ParseCertificate} {policy : CallerAuthPolicy} {r r' : Request Ip}

/-- The caller layer leaves a request to the token middleware: it has a bearer credential and no
allowlisted certificate. -/
structure CallerAuthPolicy.Defers (parse : ParseCertificate) (policy : CallerAuthPolicy)
    (r : Request Ip) : Prop where
  mode : policy.mode = .mtlsOrBearer
  bearer : hasBearerCredential r.headers = true
  notAllowlisted : ¬ Allowlisted parse policy r.extensions.leafCertificate

/-- **What gets through the caller layer** in a certificate mode: what is exempt, what comes with
an allowlisted certificate, and what is left to the token middleware. -/
theorem callerAuthLayer_pass?_cases (hmode : policy.requiresClientCa = true)
    (h : (callerAuthLayer parse policy).pass? r = some r') :
    policy.isExempt r.path = true ∧ r' = r ∨
      Allowlisted parse policy r.extensions.leafCertificate ∧
        (∃ identity, identity.waivesBearer = decide (policy.mode = .mtlsOrBearer) ∧
          r' = r.withIdentity identity) ∨
      policy.isExempt r.path = false ∧ policy.Defers parse r ∧ r' = r := by
  -- the mode `bearer` lets everything pass and asks for no certificate
  have hne : policy.mode ≠ .bearer := by
    intro hbearer
    rw [CallerAuthPolicy.requiresClientCa, hbearer] at hmode
    contradiction
  rw [Layer.pass?, callerAuthLayer] at h
  cases hexempt : policy.isExempt r.path with
  | true =>
    rw [if_pos (.inr hexempt)] at h
    cases h
    exact .inl ⟨rfl, rfl⟩
  | false =>
    rw [if_neg (by simp [hne, hexempt])] at h
    cases hauth : policy.authorize parse r.extensions.leafCertificate
        (hasBearerCredential r.headers) with
    | error e =>
      rw [hauth] at h
      contradiction
    | ok caller =>
      rw [hauth] at h
      rcases policy.authorize_cases hmode hauth with ⟨⟨san, rfl⟩, hallow⟩ | ⟨rfl, hm, hb, hnot⟩
      · cases h
        exact .inr (.inl ⟨hallow, ⟨san, _⟩, rfl, rfl⟩)
      · cases h
        exact .inr (.inr ⟨rfl, ⟨hm, hb, hnot⟩, rfl⟩)

/-- What is left to the token middleware gets through as it is. -/
theorem callerAuthLayer_pass?_of_defers (h : policy.Defers parse r) :
    (callerAuthLayer parse policy).pass? r = some r := by
  have hauth := policy.authorize_of_not_allowlisted h.mode h.notAllowlisted
  have hlayer : callerAuthLayer parse policy r = forwardRequest [] r := by
    simp only [callerAuthLayer, h.bearer, hauth, ite_self]
  rw [Layer.pass?, hlayer]
  rfl

variable {A : AddrExterns Ip} {stamps : Stamps} {auth : TokenAuth}

/-- **What gets through the token middleware**: what no token is asked of, and what comes with a
token that the validator accepts. -/
theorem tokenMiddleware_pass?_cases (h : (tokenMiddleware A stamps auth).pass? r = some r') :
    auth.asksNone r = true ∧ r' = r ∨
      ∃ token claims, extractToken r.headers = .ok token ∧ auth.validateToken token = .ok claims ∧
        r' = r.withClaims claims := by
  rw [Layer.pass?, tokenMiddleware] at h
  cases hasks : auth.asksNone r with
  | true =>
    rw [hasks, if_pos rfl] at h
    cases h
    exact .inl ⟨rfl, rfl⟩
  | false =>
    rw [hasks, if_neg Bool.false_ne_true] at h
    cases htoken : extractToken r.headers with
    | error e =>
      simp only [htoken] at h
      contradiction
    | ok token =>
      cases hclaims : auth.validateToken token with
      | error e =>
        simp only [htoken, hclaims] at h
        contradiction
      | ok claims =>
        simp only [htoken, hclaims] at h
        rcases hrevoked : auth.revokedJti claims with e | _ | jti
        · rw [hrevoked] at h
          contradiction
        · rw [hrevoked] at h
          cases h
          exact .inr ⟨token, claims, rfl, hclaims, rfl⟩
        · rw [hrevoked] at h
          contradiction

/-! ### What the token middleware logs -/

theorem tokenMiddleware_of_asksNone (A : AddrExterns Ip) (stamps : Stamps)
    (h : auth.asksNone r = true) :
    tokenMiddleware A stamps auth r = forwardRequest [] r := by
  rw [tokenMiddleware, if_pos h]

/-- The kinds the token middleware logs without a revocation checker. -/
def tokenKinds : List AuditEventKind := [.authTokenMissing, .authTokenInvalid, .authLoginSuccess]

/-- **A request that is asked for a token is logged**, whether it is refused or passed on. -/
theorem tokenMiddleware_of_asks (A : AddrExterns Ip) (stamps : Stamps)
    (hrevoked : auth.isRevoked = none) (h : auth.asksNone r = false) :
    ∃ kind ∈ tokenKinds, ∃ severity source, source.ip = (auditSourceForRequest A r).ip ∧
      ((∃ e, tokenMiddleware A stamps auth r
          = refuse (authEvents stamps r.extensions.auditLogger kind severity source) e) ∨
        ∃ claims, tokenMiddleware A stamps auth r
          = forwardRequest (authEvents stamps r.extensions.auditLogger kind severity source)
            (r.withClaims claims)) := by
  have hnone : ∀ claims, auth.revokedJti claims = .ok none := by
    intro claims
    rw [TokenAuth.revokedJti, hrevoked]
  cases htoken : extractToken r.headers with
  | error e =>
    refine ⟨.authTokenMissing, by decide, .informational, _, rfl, .inl ⟨e, ?_⟩⟩
    simp only [tokenMiddleware, h, Bool.false_eq_true, if_false, htoken]
  | ok token =>
    cases hclaims : auth.validateToken token with
    | error e =>
      refine ⟨.authTokenInvalid, by decide, .warning, _, rfl, .inl ⟨e, ?_⟩⟩
      simp only [tokenMiddleware, h, Bool.false_eq_true, if_false, htoken, hclaims]
    | ok claims =>
      refine ⟨.authLoginSuccess, by decide, .notice,
        { auditSourceForRequest A r with subject := some claims.sub }, rfl, .inr ⟨claims, ?_⟩⟩
      simp only [tokenMiddleware, h, Bool.false_eq_true, if_false, htoken, hclaims, hnone]

end PassedOn

end ActonService
