import ActonService.Middleware.Http

/-!
# Caller authorisation

The names, the policy and the decision of `caller_auth.rs`: a caller is named by the subject
alternative names of the certificate it presented, and a name has to be on an allowlist.  The
listener has verified the certificate; parsing it is third-party.

## Main definitions

* `CallerSan`, `CallerAllowlist`, `CallerAuthPolicy` — names, allowlists and policies, each with
  what its constructors check.
* `CallerAuthConfig.toPolicy`, `validateListener` — the policy of a configuration, and whether a
  listener can satisfy it.
* `authorize` of a policy, in `CallerAuthPolicy.authorize` — the decision.
* `Allowlisted` — some name of the certificate is on the allowlist.

## Main results

* `authorizeCertificate_ok_iff` — a certificate is accepted for a name that is on the allowlist.
* `authorize_cases` — what it takes to be let through.
-/

namespace ActonService

/-! ### Names -/

/-- `SanKind` -/
inductive SanKind
  | dns
  | uri
  deriving DecidableEq, Repr

def SanKind.display : SanKind → String
  | .dns => "DNS"
  | .uri => "URI"

/-- `MAX_SAN_LEN` -/
def maxSanLen : ℕ := 1024

/-- `CallerSanError` -/
inductive CallerSanError
  | empty
  | tooLong (len max : ℕ)
  | wildcard (value : String)
  | illegalCharacter (value : String)
  deriving DecidableEq, Repr

def CallerSanError.display : CallerSanError → String
  | .empty => "subjectAltName is empty"
  | .tooLong len max =>
    "subjectAltName is " ++ Nat.repr len ++ " bytes, over the " ++ Nat.repr max ++ "-byte limit"
  | .wildcard value =>
    "subjectAltName '" ++ value ++ "' contains a wildcard; a wildcard names a set of hosts, not a "
      ++ "caller identity"
  | .illegalCharacter value =>
    "subjectAltName '" ++ value ++ "' contains whitespace or control characters"

/-- What `CallerSan::new` checks of a value. -/
def checkSan (value : String) : Except CallerSanError Unit :=
  if value = "" then .error .empty
  else if maxSanLen < value.utf8ByteSize then .error (.tooLong value.utf8ByteSize maxSanLen)
  else if '*' ∈ value.toList then .error (.wildcard value)
  else if value.toList.any fun c => Text.isWhitespace c || Text.isControl c || c == '\ufeff' then
    .error (.illegalCharacter value)
  else .ok ()

/-- `CallerSan` -/
structure CallerSan where
  kind : SanKind
  value : String
  usable : checkSan value = .ok ()
  deriving DecidableEq

def CallerSan.display (san : CallerSan) : String := san.kind.display ++ ":" ++ san.value

/-- `CallerSan::new` -/
def CallerSan.new (kind : SanKind) (value : String) : Except CallerSanError CallerSan :=
  match h : checkSan value with
  | .error e => .error e
  | .ok () => .ok ⟨kind, value, h⟩

/-- `CallerSan::parse` -/
def CallerSan.parse (entry : String) : Except CallerSanError CallerSan :=
  if (Text.afterFirst "://".toList entry.toList).isSome then CallerSan.new .uri entry
  else CallerSan.new .dns entry

/-! ### Policies -/

/-- `CallerAuthMode` -/
inductive CallerAuthMode
  | bearer
  | mtls
  | mtlsOrBearer
  deriving DecidableEq, Repr

/-- `uses_client_certificates` -/
def CallerAuthMode.usesClientCertificates : CallerAuthMode → Bool
  | .bearer => false
  | .mtls => true
  | .mtlsOrBearer => true

def CallerAuthMode.display : CallerAuthMode → String
  | .bearer => "bearer"
  | .mtls => "mtls"
  | .mtlsOrBearer => "mtls-or-bearer"

/-- `CallerAuthConfigError` -/
inductive CallerAuthConfigError
  | emptyAllowlist
  | allowlistWithoutCertificateMode
  | invalidEntry (entry : String) (source : CallerSanError)
  | missingClientCa (mode : CallerAuthMode) (listener : String)
  | noTlsListener (mode : CallerAuthMode) (listener : String)
  deriving DecidableEq, Repr

def CallerAuthConfigError.display : CallerAuthConfigError → String
  | .emptyAllowlist =>
    "[caller_auth].allowlist is empty; a certificate mode with no allowed callers cannot "
      ++ "admit anyone, and an allowlist that admits everyone is not an allowlist"
  | .allowlistWithoutCertificateMode =>
    "[caller_auth].allowlist is set but mode is 'bearer', so it is never consulted; either "
      ++ "set mode to 'mtls' or 'mtls-or-bearer', or remove the allowlist"
  | .invalidEntry entry source =>
    "[caller_auth].allowlist entry '" ++ entry ++ "' is not a usable caller name: "
      ++ source.display
  | .missingClientCa mode listener =>
    "[caller_auth].mode = '" ++ mode.display ++ "' requires verified client certificates, but "
      ++ listener ++ " has no client_ca_path, so no certificate is ever requested and every caller "
      ++ "would be rejected"
  | .noTlsListener mode listener =>
    "[caller_auth].mode = '" ++ mode.display ++ "' requires verified client certificates, but "
      ++ listener ++ " terminates no TLS; caller certificates cannot exist on a plaintext listener"

/-- `CallerAllowlist`: a set of names, never empty. -/
structure CallerAllowlist where
  entries : List CallerSan
  nonempty : entries ≠ []

/-- `CallerAllowlist::new` -/
def CallerAllowlist.new (entries : List CallerSan) :
    Except CallerAuthConfigError CallerAllowlist :=
  if h : entries = [] then .error .emptyAllowlist else .ok ⟨entries, h⟩

/-- `from_entries` -/
def CallerAllowlist.fromEntries (entries : List String) :
    Except CallerAuthConfigError CallerAllowlist := do
  let parsed ← entries.mapM fun entry =>
    match CallerSan.parse entry with
    | .ok san => Except.ok san
    | .error e => .error (.invalidEntry entry e)
  CallerAllowlist.new parsed

/-- `contains` -/
def CallerAllowlist.contains (allowlist : CallerAllowlist) (san : CallerSan) : Bool :=
  decide (san ∈ allowlist.entries)

/-- `CallerAuthPolicy` -/
structure CallerAuthPolicy where
  mode : CallerAuthMode
  allowlist : Option CallerAllowlist
  publicPaths : List String
  /-- A certificate mode has an allowlist, and only such a mode. -/
  paired : allowlist.isSome = mode.usesClientCertificates

namespace CallerAuthPolicy

/-- `bearer` -/
def bearer : CallerAuthPolicy := ⟨.bearer, none, [], rfl⟩

/-- `mtls` -/
def mtls (allowlist : CallerAllowlist) : CallerAuthPolicy := ⟨.mtls, some allowlist, [], rfl⟩

/-- `mtls_or_bearer` -/
def mtlsOrBearer (allowlist : CallerAllowlist) : CallerAuthPolicy :=
  ⟨.mtlsOrBearer, some allowlist, [], rfl⟩

/-- `with_public_paths` -/
def withPublicPaths (policy : CallerAuthPolicy) (paths : List String) : CallerAuthPolicy :=
  { policy with publicPaths := paths }

/-- `requires_client_ca` -/
def requiresClientCa (policy : CallerAuthPolicy) : Bool := policy.mode.usesClientCertificates

end CallerAuthPolicy

/-- `CallerAuthConfig` -/
structure CallerAuthConfig where
  mode : CallerAuthMode
  allowlist : List String
  publicPaths : List String

/-- `to_policy`, but for the public paths. -/
def CallerAuthConfig.modePolicy (config : CallerAuthConfig) :
    Except CallerAuthConfigError CallerAuthPolicy :=
  match config.mode with
  | .bearer =>
    if config.allowlist = [] then .ok .bearer else .error .allowlistWithoutCertificateMode
  | .mtls => (CallerAllowlist.fromEntries config.allowlist).map .mtls
  | .mtlsOrBearer => (CallerAllowlist.fromEntries config.allowlist).map .mtlsOrBearer

/-- `to_policy` -/
def CallerAuthConfig.toPolicy (config : CallerAuthConfig) :
    Except CallerAuthConfigError CallerAuthPolicy :=
  config.modePolicy.map fun policy => policy.withPublicPaths config.publicPaths

/-- `ListenerClientCa` -/
inductive ListenerClientCa
  | verified
  | notVerified
  | plaintext
  | unknown
  deriving DecidableEq, Repr

/-- `validate_listener` -/
def validateListener (policy : CallerAuthPolicy) (listener : ListenerClientCa) (name : String) :
    Except CallerAuthConfigError Unit :=
  if policy.requiresClientCa then
    match listener with
    | .verified | .unknown => .ok ()
    | .notVerified => .error (.missingClientCa policy.mode name)
    | .plaintext => .error (.noTlsListener policy.mode name)
  else .ok ()

/-! ### The decision -/

/-- `GeneralName`, as far as a caller is named by it. -/
inductive GeneralName
  | dnsName (value : String)
  | uri (value : String)
  | other

/-- The `x509_parser` crate: the subject alternative names of a certificate, if it has the
extension, or the text of an error. -/
abbrev ParseCertificate := List UInt8 → Except String (Option (List GeneralName))

/-- `AuthenticatedCaller` -/
inductive AuthenticatedCaller
  | certificate (san : CallerSan)
  | bearerDeferred
  deriving DecidableEq

/-- `CallerAuthError` -/
inductive CallerAuthError
  | noClientCertificate
  | noCredential
  | malformedCertificate (e : String)
  | noUsableSan
  | notAllowlisted (san : CallerSan)
  deriving DecidableEq

namespace CallerAuthError

def display : CallerAuthError → String
  | .noClientCertificate => "no client certificate presented"
  | .noCredential => "no client certificate and no bearer credential presented"
  | .malformedCertificate e => "client certificate could not be parsed: " ++ e
  | .noUsableSan => "client certificate carries no DNS or URI subjectAltName"
  | .notAllowlisted san => "caller " ++ san.display ++ " is not on the allowlist"

/-- `is_authentication_failure` -/
def isAuthenticationFailure : CallerAuthError → Bool
  | .noClientCertificate | .noCredential | .malformedCertificate _ => true
  | .noUsableSan | .notAllowlisted _ => false

/-- `status` -/
def status (e : CallerAuthError) : UInt16 := if e.isAuthenticationFailure then 401 else 403

/-- `code` -/
def code : CallerAuthError → String
  | .noClientCertificate => "CLIENT_CERT_REQUIRED"
  | .noCredential => "CALLER_CREDENTIAL_REQUIRED"
  | .malformedCertificate _ => "CLIENT_CERT_UNPARSABLE"
  | .noUsableSan => "CLIENT_CERT_NO_SAN"
  | .notAllowlisted _ => "CALLER_NOT_ALLOWED"

/-- `rejection` on an HTTP router. -/
def rejection (e : CallerAuthError) : Response := .withCode e.status e.code e.display

end CallerAuthError

/-- A general name that can name a caller. -/
def GeneralName.callerSan : GeneralName → Option CallerSan
  | .dnsName value => (CallerSan.new .dns value).toOption
  | .uri value => (CallerSan.new .uri value).toOption
  | .other => none

section Decision

variable (parse : ParseCertificate)

/-- `subject_alt_names` -/
def subjectAltNames (leaf : List UInt8) : Except CallerAuthError (List CallerSan) :=
  match parse leaf with
  | .error e => .error (.malformedCertificate e)
  | .ok none => .ok []
  | .ok (some names) => .ok (names.filterMap GeneralName.callerSan)

/-- `authorize_certificate` -/
def authorizeCertificate (policy : CallerAuthPolicy) (leaf : List UInt8) :
    Except CallerAuthError CallerSan := do
  match ← subjectAltNames parse leaf with
  | [] => .error .noUsableSan
  | first :: rest =>
    match policy.allowlist with
    | none => .error (.notAllowlisted first)
    | some allowlist =>
      match (first :: rest).find? allowlist.contains with
      | some san => .ok san
      | none => .error (.notAllowlisted first)

/-- `authorize` -/
def CallerAuthPolicy.authorize (policy : CallerAuthPolicy) (leaf : Option (List UInt8))
    (bearerPresent : Bool) : Except CallerAuthError AuthenticatedCaller :=
  match policy.mode with
  | .bearer => .ok .bearerDeferred
  | .mtls =>
    match leaf with
    | none => .error .noClientCertificate
    | some leaf => (authorizeCertificate parse policy leaf).map .certificate
  | .mtlsOrBearer =>
    let certOutcome := match leaf with
      | some leaf => authorizeCertificate parse policy leaf
      | none => .error .noClientCertificate
    match certOutcome with
    | .ok san => .ok (.certificate san)
    | .error e =>
      if bearerPresent then .ok .bearerDeferred
      else
        match e with
        | .noClientCertificate => .error .noCredential
        | e => .error e

/-- **The caller presented a certificate with an allowlisted name.** -/
def Allowlisted (policy : CallerAuthPolicy) (leaf : Option (List UInt8)) : Prop :=
  ∃ der ∈ leaf, ∃ names, parse der = .ok (some names) ∧
    ∃ san ∈ names.filterMap GeneralName.callerSan, ∃ allowlist ∈ policy.allowlist,
      san ∈ allowlist.entries

variable {parse} {policy : CallerAuthPolicy}

/-- **What `authorizeCertificate` can do**: it accepts a certificate for a name of it that is on the
allowlist, and refuses it because it cannot be parsed or because it has no such name. -/
theorem authorizeCertificate_cases (parse : ParseCertificate) (policy : CallerAuthPolicy)
    (leaf : List UInt8) :
    (∃ text, parse leaf = .error text ∧
        authorizeCertificate parse policy leaf = .error (.malformedCertificate text)) ∨
      (∃ names, parse leaf = .ok (some names) ∧ ∃ san ∈ names.filterMap GeneralName.callerSan,
        (∃ allowlist ∈ policy.allowlist, san ∈ allowlist.entries) ∧
        authorizeCertificate parse policy leaf = .ok san) ∨
      (∃ names, parse leaf = .ok names) ∧ ¬ Allowlisted parse policy (some leaf) ∧
        ∃ e, authorizeCertificate parse policy leaf = .error e ∧
          e.isAuthenticationFailure = false := by
  simp only [Allowlisted, Option.mem_some_iff, exists_eq_left']
  rw [authorizeCertificate, subjectAltNames]
  rcases parse leaf with text | _ | names
  · exact .inl ⟨text, rfl, rfl⟩
  · exact .inr (.inr ⟨⟨none, rfl⟩, by simp, _, rfl, rfl⟩)
  · simp only [bind, Except.bind, Except.ok.injEq, Option.some.injEq, exists_eq_left']
    cases hsans : names.filterMap GeneralName.callerSan with
    | nil => exact .inr (.inr ⟨⟨_, rfl⟩, by simp, _, rfl, rfl⟩)
    | cons first rest =>
      cases hallow : policy.allowlist with
      | none => exact .inr (.inr ⟨⟨_, rfl⟩, by simp, _, rfl, rfl⟩)
      | some allowlist =>
        cases hfind : (first :: rest).find? allowlist.contains with
        | none =>
          have hnone := List.find?_eq_none.mp hfind
          refine .inr (.inr ⟨⟨_, rfl⟩, ?_, _, by simp only [hfind]; rfl, rfl⟩)
          rintro ⟨san, hmem, allowlist', hallow', hin⟩
          cases hallow'
          exact hnone san hmem (decide_eq_true hin)
        | some san =>
          have hcontains := List.find?_some hfind
          have hmem := List.mem_of_find?_eq_some hfind
          exact .inr (.inl ⟨san, hmem, ⟨allowlist, rfl, of_decide_eq_true hcontains⟩,
            by simp only [hfind]⟩)

/-- **A certificate is accepted for a name of it that is on the allowlist.** -/
theorem authorizeCertificate_ok_iff (leaf : List UInt8) :
    (∃ san, authorizeCertificate parse policy leaf = .ok san)
      ↔ Allowlisted parse policy (some leaf) := by
  rcases authorizeCertificate_cases parse policy leaf with
    ⟨text, hparse, hcert⟩ | ⟨names, hparse, san, hmem, hallow, hcert⟩ | ⟨-, hnot, e, hcert, -⟩
  · simp [hcert, Allowlisted, hparse]
  · exact iff_of_true ⟨san, hcert⟩ ⟨leaf, rfl, names, hparse, san, hmem, hallow⟩
  · exact iff_of_false (by simp [hcert]) hnot

/-- In a certificate mode a caller is let through with an allowlisted certificate, or, if the mode
permits it, with a bearer credential that nothing is known of. -/
theorem CallerAuthPolicy.authorize_cases {leaf : Option (List UInt8)} {bearerPresent : Bool}
    {caller : AuthenticatedCaller} (hmode : policy.requiresClientCa = true)
    (h : policy.authorize parse leaf bearerPresent = .ok caller) :
    (∃ san, caller = .certificate san) ∧ Allowlisted parse policy leaf ∨
      caller = .bearerDeferred ∧ policy.mode = .mtlsOrBearer ∧ bearerPresent = true ∧
        ¬ Allowlisted parse policy leaf := by
  rw [CallerAuthPolicy.authorize.eq_def] at h
  -- the mode decides whether a bearer token may stand in for the certificate
  cases hm : policy.mode with
  | bearer =>
    rw [CallerAuthPolicy.requiresClientCa, hm] at hmode
    contradiction
  | mtls =>
    rw [hm] at h
    cases leaf with
    | none => contradiction
    | some der =>
      cases hcert : authorizeCertificate parse policy der with
      | error e =>
        simp only [hcert] at h
        contradiction
      | ok san =>
        simp only [hcert] at h
        cases h
        exact .inl ⟨⟨san, rfl⟩, (authorizeCertificate_ok_iff der).mp ⟨san, hcert⟩⟩
  | mtlsOrBearer =>
    rw [hm] at h
    cases leaf with
    | none =>
      cases bearerPresent with
      | false => contradiction
      | true =>
        cases h
        exact .inr ⟨rfl, rfl, rfl, by rintro ⟨der, hder, -⟩; contradiction⟩
    | some der =>
      cases hcert : authorizeCertificate parse policy der with
      | ok san =>
        simp only [hcert] at h
        cases h
        exact .inl ⟨⟨san, rfl⟩, (authorizeCertificate_ok_iff der).mp ⟨san, hcert⟩⟩
      | error e =>
        -- the certificate is refused, which does not yet refuse the caller
        have hnot : ¬ Allowlisted parse policy (some der) := by
          rw [← authorizeCertificate_ok_iff, hcert]
          rintro ⟨san, hsan⟩
          contradiction
        simp only [hcert] at h
        cases bearerPresent with
        | false => cases e <;> contradiction
        | true =>
          cases h
          exact .inr ⟨rfl, rfl, rfl, hnot⟩

/-- Without an allowlisted certificate a caller may still be let through on a bearer credential. -/
theorem CallerAuthPolicy.authorize_of_not_allowlisted {leaf : Option (List UInt8)}
    (hmode : policy.mode = .mtlsOrBearer) (hnot : ¬ Allowlisted parse policy leaf) :
    policy.authorize parse leaf true = .ok .bearerDeferred := by
  rw [CallerAuthPolicy.authorize.eq_def, hmode]
  cases leaf with
  | none => rfl
  | some der =>
    rw [← authorizeCertificate_ok_iff] at hnot
    cases hcert : authorizeCertificate parse policy der with
    | ok san => exact absurd ⟨san, hcert⟩ hnot
    | error e => simp only [hcert, if_true]

end Decision

end ActonService
