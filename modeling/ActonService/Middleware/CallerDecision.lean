import ActonService.Middleware.Authentication

/-!
# What the caller layer decides

The service of `CallerAuthLayer` on an HTTP and on a gRPC router: whom it lets through to the
service behind it, with which identity, and how it refuses the others.  The two routers differ in
the infrastructure paths that are exempt and in the shape of a refusal.

In the mode `mtls-or-bearer` the layer looks for a bearer credential itself.  The token middleware
behind it has its own reader of the same header, which is stricter about the name of the scheme
and less strict about what follows it.

## Main definitions

* `CallerAuthService`, `CallerAuthService.call` — the service on either router.
* `Names` — a certificate names an allowlisted caller.
* `CallerDecision` — what is decided about a request.
* `PlainScheme` — how the two readers of the header come to agree.

## Main results

* `callerAuthLayer_eq` — the HTTP layer is this service.
* `CallerAuthService.call_decision` — **whom the layer lets through, as whom, and how it refuses.**
* `hasBearerCredential_iff` — **the two readers agree exactly on plain headers.**
-/

namespace ActonService

open Layers

/-! ### The service on either router -/

/-- `RejectionStyle` -/
inductive RejectionStyle
  | http
  | grpc
  deriving DecidableEq, Repr

/-- `tonic::Code`, as far as a caller is refused with it. -/
inductive GrpcCode
  | permissionDenied
  | unauthenticated
  deriving DecidableEq, Repr

/-- A refusal on the wire: an HTTP response, or a gRPC status. -/
inductive WireRefusal
  | http (response : Response)
  | grpc (code : GrpcCode) (message : String)
  deriving DecidableEq, Repr

/-- `CallerAuthService`, but for the service behind it. -/
structure CallerAuthService where
  policy : CallerAuthPolicy
  style : RejectionStyle

/-- `is_grpc_infra_path` -/
def isGrpcInfraPath (path : String) : Bool :=
  startsWith path "/grpc.health.v1.Health/" || startsWith path "/grpc.reflection."

/-- What comes of a request: it is passed on, or refused. -/
inductive Called (Ip : Type)
  | forwarded (r : Request Ip)
  | refused (response : WireRefusal)

namespace CallerAuthService

/-- `is_exempt` -/
def isExempt (service : CallerAuthService) (path : String) : Bool :=
  let infra :=
    match service.style with
    | .http => isInfraPath path
    | .grpc => isGrpcInfraPath path
  infra || isPublicPath service.policy.publicPaths path

/-- `rejection` -/
def rejection (service : CallerAuthService) (error : CallerAuthError) : WireRefusal :=
  match service.style with
  | .http => .http error.rejection
  | .grpc =>
    let message := error.display ++ " (" ++ error.code ++ ")"
    if error.isAuthenticationFailure then .grpc .unauthenticated message
    else .grpc .permissionDenied message

/-- `call` -/
def call {Ip : Type} (parse : ParseCertificate) (service : CallerAuthService) (r : Request Ip) :
    Called Ip :=
  if service.policy.mode = .bearer ∨ service.isExempt r.path = true then .forwarded r
  else
    match service.policy.authorize parse r.extensions.leafCertificate
      (hasBearerCredential r.headers) with
    | .ok (.certificate san) =>
      .forwarded (r.withIdentity ⟨san, decide (service.policy.mode = .mtlsOrBearer)⟩)
    | .ok .bearerDeferred => .forwarded r
    | .error e => .refused (service.rejection e)

end CallerAuthService

/-- **The HTTP layer is this service** on an HTTP router. -/
theorem callerAuthLayer_eq {Ip : Type} (parse : ParseCertificate) (policy : CallerAuthPolicy)
    (r : Request Ip) :
    (callerAuthLayer parse policy).pass? r
      = match CallerAuthService.call parse ⟨policy, .http⟩ r with
        | .forwarded r' => some r'
        | .refused _ => none := by
  have hexempt : CallerAuthService.isExempt ⟨policy, .http⟩ r.path = policy.isExempt r.path := rfl
  simp only [Layer.pass?, callerAuthLayer, CallerAuthService.call, hexempt]
  by_cases hpass : policy.mode = .bearer ∨ policy.isExempt r.path = true
  · simp only [if_pos hpass]
    rfl
  · simp only [if_neg hpass]
    rcases policy.authorize parse r.extensions.leafCertificate (hasBearerCredential r.headers)
      with e | (san | _) <;> rfl

/-! ### The decision -/

section Decision

variable {Ip : Type} {parse : ParseCertificate} {service : CallerAuthService} {r : Request Ip}

/-- A general name of a kind. -/
def SanKind.generalName : SanKind → String → GeneralName
  | .dns => .dnsName
  | .uri => .uri

/-- **A certificate names an allowlisted caller**: an entry of the allowlist is a name of the
certificate, of the same kind and letter by letter. -/
def Names (parse : ParseCertificate) (policy : CallerAuthPolicy) (leaf : Option (List UInt8))
    (san : CallerSan) : Prop :=
  ∃ der ∈ leaf, ∃ names, parse der = .ok (some names) ∧
    san.kind.generalName san.value ∈ names ∧
    ∃ allowlist ∈ policy.allowlist, san ∈ allowlist.entries

/-- What `CallerSan::new` makes of a value, if it makes a name of it. -/
theorem toOption_callerSan_new {kind : SanKind} {value : String} {san : CallerSan} :
    (CallerSan.new kind value).toOption = some san ↔ san.kind = kind ∧ san.value = value := by
  rw [CallerSan.new]
  constructor
  · intro h
    split at h
    · contradiction
    · cases h
      exact ⟨rfl, rfl⟩
  · rintro ⟨rfl, rfl⟩
    split
    · rename_i e he
      rw [san.usable] at he
      contradiction
    · rfl

/-- A general name names a caller as it stands. -/
theorem callerSan_eq_some_iff {name : GeneralName} {san : CallerSan} :
    name.callerSan = some san ↔ name = san.kind.generalName san.value := by
  cases name with
  | dnsName value =>
    rw [GeneralName.callerSan, toOption_callerSan_new]
    cases san.kind <;> simp [SanKind.generalName, eq_comm]
  | uri value =>
    rw [GeneralName.callerSan, toOption_callerSan_new]
    cases san.kind <;> simp [SanKind.generalName, eq_comm]
  | other => cases san.kind <;> simp [GeneralName.callerSan, SanKind.generalName]

/-- A certificate is allowlisted exactly if it names an allowlisted caller. -/
theorem allowlisted_iff {policy : CallerAuthPolicy} {leaf : Option (List UInt8)} :
    Allowlisted parse policy leaf ↔ ∃ san, Names parse policy leaf san := by
  constructor
  · rintro ⟨der, hder, names, hnames, san, hsan, hallow⟩
    obtain ⟨name, hmem, hname⟩ := List.mem_filterMap.mp hsan
    rw [callerSan_eq_some_iff] at hname
    exact ⟨san, der, hder, names, hnames, hname ▸ hmem, hallow⟩
  · rintro ⟨san, der, hder, names, hnames, hmem, hallow⟩
    exact ⟨der, hder, names, hnames, san,
      List.mem_filterMap.mpr ⟨_, hmem, callerSan_eq_some_iff.mpr rfl⟩, hallow⟩

/-- No empty value and no wildcard names a caller. -/
theorem CallerSan.value_usable (san : CallerSan) : san.value ≠ "" ∧ '*' ∉ san.value.toList := by
  have husable := san.usable
  rw [checkSan] at husable
  split at husable
  · contradiction
  · split at husable
    · contradiction
    · split at husable
      · contradiction
      · exact ⟨‹_›, ‹_›⟩

/-- The name a certificate is accepted for is one it names an allowlisted caller with. -/
theorem names_of_authorizeCertificate {policy : CallerAuthPolicy} {der : List UInt8}
    {san : CallerSan} (h : authorizeCertificate parse policy der = .ok san) :
    Names parse policy (some der) san := by
  rcases authorizeCertificate_cases parse policy der with
    ⟨text, -, hcert⟩ | ⟨names, hparse, san', hmem, hallow, hcert⟩ | ⟨-, -, e, hcert, -⟩
  · rw [hcert] at h
    contradiction
  · rw [hcert] at h
    cases h
    obtain ⟨name, hname, hsan⟩ := List.mem_filterMap.mp hmem
    rw [callerSan_eq_some_iff] at hsan
    exact ⟨der, rfl, names, hparse, hsan ▸ hname, hallow⟩
  · rw [hcert] at h
    contradiction

/-- A certificate is refused because it cannot be parsed, which leaves the caller unknown, or
because it names no allowlisted caller. -/
theorem authorizeCertificate_error {policy : CallerAuthPolicy} {der : List UInt8}
    {e : CallerAuthError} (h : authorizeCertificate parse policy der = .error e) :
    (∀ san, ¬ Names parse policy (some der) san) ∧
      (e.isAuthenticationFailure = true ↔ ∃ text, parse der = .error text) := by
  constructor
  · intro san hsan
    obtain ⟨san', hok⟩ :=
      (authorizeCertificate_ok_iff der).mpr (allowlisted_iff.mpr ⟨san, hsan⟩)
    rw [hok] at h
    contradiction
  · rcases authorizeCertificate_cases parse policy der with
      ⟨text, hparse, hcert⟩ | ⟨-, -, san, -, -, hcert⟩ | ⟨⟨names, hparse⟩, -, e', hcert, hdenied⟩
    · rw [hcert] at h
      cases h
      exact iff_of_true rfl ⟨text, hparse⟩
    · rw [hcert] at h
      contradiction
    · rw [hcert] at h
      cases h
      simp [hdenied, hparse]

/-- What stands behind each verdict of `authorize`: the mode, the names of the certificate and the
token that justify it. -/
def Justified (parse : ParseCertificate) (policy : CallerAuthPolicy) (leaf : Option (List UInt8))
    (bearerPresent : Bool) : Except CallerAuthError AuthenticatedCaller → Prop
  | .ok (.certificate san) => policy.mode ≠ .bearer ∧ Names parse policy leaf san
  | .ok .bearerDeferred =>
    (policy.mode = .bearer ∨ policy.mode = .mtlsOrBearer ∧ bearerPresent = true) ∧
      ∀ san, ¬ Names parse policy leaf san
  | .error e =>
    policy.mode ≠ .bearer ∧ ¬ (policy.mode = .mtlsOrBearer ∧ bearerPresent = true) ∧
      (∀ san, ¬ Names parse policy leaf san) ∧
      (leaf = none → e.isAuthenticationFailure = true) ∧
      ∀ der ∈ leaf, e.isAuthenticationFailure = true ↔ ∃ text, parse der = .error text

theorem not_names_none {policy : CallerAuthPolicy} (san : CallerSan) :
    ¬ Names parse policy none san := by
  rintro ⟨der, hder, -⟩
  contradiction

theorem not_names_of_bearer {policy : CallerAuthPolicy} (hmode : policy.mode = .bearer)
    {leaf : Option (List UInt8)} (san : CallerSan) : ¬ Names parse policy leaf san := by
  rintro ⟨der, -, names, -, -, allowlist, hallow, -⟩
  have hpaired := policy.paired
  rw [hmode, hallow] at hpaired
  contradiction

theorem justified_authorize (parse : ParseCertificate) (policy : CallerAuthPolicy)
    (leaf : Option (List UInt8)) (bearerPresent : Bool) :
    Justified parse policy leaf bearerPresent (policy.authorize parse leaf bearerPresent) := by
  rw [CallerAuthPolicy.authorize.eq_def]
  cases hmode : policy.mode with
  -- bearer: the certificate is not looked at
  | bearer => exact ⟨.inl hmode, not_names_of_bearer hmode⟩
  -- mtls: the certificate decides alone
  | mtls =>
    have hne : policy.mode ≠ .bearer := by simp [hmode]
    have hnot : ¬ (policy.mode = .mtlsOrBearer ∧ bearerPresent = true) := by simp [hmode]
    cases leaf with
    | none => exact ⟨hne, hnot, not_names_none, fun _ => rfl, by simp⟩
    | some der =>
      cases hcert : authorizeCertificate parse policy der with
      | ok san =>
        simp only [hcert]
        exact ⟨hne, names_of_authorizeCertificate hcert⟩
      | error e =>
        obtain ⟨hnames, hfailure⟩ := authorizeCertificate_error hcert
        simp only [hcert]
        exact ⟨hne, hnot, hnames, by simp, by simpa using hfailure⟩
  -- either: a token is enough where the certificate names nobody
  | mtlsOrBearer =>
    have hne : policy.mode ≠ .bearer := by simp [hmode]
    cases leaf with
    | none =>
      cases bearerPresent with
      | true => exact ⟨.inr ⟨hmode, rfl⟩, not_names_none⟩
      | false => exact ⟨hne, by simp, not_names_none, fun _ => rfl, by simp⟩
    | some der =>
      cases hcert : authorizeCertificate parse policy der with
      | ok san =>
        simp only [hcert]
        exact ⟨hne, names_of_authorizeCertificate hcert⟩
      | error e =>
        obtain ⟨hnames, hfailure⟩ := authorizeCertificate_error hcert
        cases bearerPresent with
        | true =>
          simp only [hcert, if_true]
          exact ⟨.inr ⟨hmode, rfl⟩, hnames⟩
        | false =>
          have herror : ∀ e', Justified parse policy (some der) false (.error e') ↔
              (e'.isAuthenticationFailure = true ↔ ∃ text, parse der = .error text) := by
            intro e'
            simp [Justified, hmode, hnames]
          cases e <;> simp only [hcert, Bool.false_eq_true, if_false] <;>
            exact (herror _).mpr hfailure

/-- A refusal of somebody unknown: `401`, and on a gRPC router `UNAUTHENTICATED`. -/
def WireRefusal.Unauthenticated : WireRefusal → Prop
  | .http response => response.status = 401
  | .grpc code _ => code = .unauthenticated

/-- A refusal of somebody known: `403`, and on a gRPC router `PERMISSION_DENIED`. -/
def WireRefusal.Denied : WireRefusal → Prop
  | .http response => response.status = 403
  | .grpc code _ => code = .permissionDenied

/-- A refusal says what kind of error it is of. -/
theorem rejection_kind (service : CallerAuthService) (e : CallerAuthError) :
    (e.isAuthenticationFailure = true → (service.rejection e).Unauthenticated) ∧
      (e.isAuthenticationFailure = false → (service.rejection e).Denied) := by
  rw [CallerAuthService.rejection]
  cases service.style with
  | http =>
    constructor <;> intro h <;>
      simp [CallerAuthError.rejection, CallerAuthError.status, Response.withCode,
        WireRefusal.Unauthenticated, WireRefusal.Denied, h]
  | grpc =>
    constructor <;> intro h <;> simp [WireRefusal.Unauthenticated, WireRefusal.Denied, h]

/-- **What is decided about a request.** -/
structure CallerDecision (parse : ParseCertificate) (service : CallerAuthService) (r : Request Ip) :
    Prop where
  /-- Who reaches the service behind the layer. -/
  reached : (∃ r', service.call parse r = .forwarded r') ↔
    service.policy.mode = .bearer ∨ service.isExempt r.path = true ∨
      (∃ san, Names parse service.policy r.extensions.leafCertificate san) ∨
      service.policy.mode = .mtlsOrBearer ∧ hasBearerCredential r.headers = true
  /-- An identity is attached to a request of an allowlisted caller, and is one of its names. -/
  attached : service.isExempt r.path = false →
    (∃ san, Names parse service.policy r.extensions.leafCertificate san) →
    ∃ identity, service.call parse r = .forwarded (r.withIdentity identity) ∧
      Names parse service.policy r.extensions.leafCertificate identity.san
  /-- Every other request that is passed on is left as it is. -/
  unattached : (service.isExempt r.path = true ∨
      ∀ san, ¬ Names parse service.policy r.extensions.leafCertificate san) →
    ∀ r', service.call parse r = .forwarded r' → r' = r
  /-- No empty name and no wildcard is anybody's. -/
  usable : ∀ san, Names parse service.policy r.extensions.leafCertificate san →
    san.value ≠ "" ∧ '*' ∉ san.value.toList
  /-- Without a certificate a caller is unknown. -/
  missing : r.extensions.leafCertificate = none →
    ∀ response, service.call parse r = .refused response → response.Unauthenticated
  /-- With a certificate that can be parsed it is known. -/
  unlisted : ∀ der ∈ r.extensions.leafCertificate, (∃ names, parse der = .ok names) →
    ∀ response, service.call parse r = .refused response → response.Denied
  /-- A certificate does not turn away who would get through without. -/
  cutover : service.policy.mode = .mtlsOrBearer → ∀ r₀ : Request Ip, r₀.path = r.path →
    r₀.headers = r.headers → r₀.extensions.leafCertificate = none →
    (∃ r', service.call parse r₀ = .forwarded r') → ∃ r', service.call parse r = .forwarded r'

/-- **What `call` can do**: it passes on what no certificate is asked of; else it attaches the name
of an allowlisted caller, leaves the request to the token middleware, or refuses it. -/
theorem call_cases (parse : ParseCertificate) (service : CallerAuthService) (r : Request Ip) :
    (service.policy.mode = .bearer ∨ service.isExempt r.path = true) ∧
        service.call parse r = .forwarded r ∨
      ¬ (service.policy.mode = .bearer ∨ service.isExempt r.path = true) ∧
        ((∃ identity, Names parse service.policy r.extensions.leafCertificate identity.san ∧
            service.call parse r = .forwarded (r.withIdentity identity)) ∨
          (service.policy.mode = .mtlsOrBearer ∧ hasBearerCredential r.headers = true) ∧
            (∀ san, ¬ Names parse service.policy r.extensions.leafCertificate san) ∧
            service.call parse r = .forwarded r ∨
          ∃ e, Justified parse service.policy r.extensions.leafCertificate
              (hasBearerCredential r.headers) (.error e) ∧
            service.call parse r = .refused (service.rejection e)) := by
  by_cases hpass : service.policy.mode = .bearer ∨ service.isExempt r.path = true
  · exact .inl ⟨hpass, by rw [CallerAuthService.call, if_pos hpass]⟩
  · refine .inr ⟨hpass, ?_⟩
    have hjust := justified_authorize parse service.policy r.extensions.leafCertificate
      (hasBearerCredential r.headers)
    rw [CallerAuthService.call, if_neg hpass]
    rcases hauth : service.policy.authorize parse r.extensions.leafCertificate
      (hasBearerCredential r.headers) with e | (san | _)
    · rw [hauth] at hjust
      exact .inr (.inr ⟨e, hjust, rfl⟩)
    · rw [hauth] at hjust
      exact .inl ⟨_, hjust.2, rfl⟩
    · rw [hauth] at hjust
      exact .inr (.inl ⟨hjust.1.resolve_left fun h => hpass (.inl h), hjust.2, rfl⟩)

/-- Who reaches the service behind the layer. -/
theorem call_forwarded_iff : (∃ r', service.call parse r = .forwarded r') ↔
    service.policy.mode = .bearer ∨ service.isExempt r.path = true ∨
      (∃ san, Names parse service.policy r.extensions.leafCertificate san) ∨
      service.policy.mode = .mtlsOrBearer ∧ hasBearerCredential r.headers = true := by
  rcases call_cases parse service r with
    ⟨hpass, hcall⟩ | ⟨hpass, ⟨identity, hnames, hcall⟩ | ⟨hbearer, -, hcall⟩ | ⟨e, he, hcall⟩⟩
  · exact iff_of_true ⟨r, hcall⟩ (hpass.imp_right .inl)
  · exact iff_of_true ⟨_, hcall⟩ (.inr (.inr (.inl ⟨_, hnames⟩)))
  · exact iff_of_true ⟨r, hcall⟩ (.inr (.inr (.inr hbearer)))
  · obtain ⟨-, hbearer, hnames, -, -⟩ := he
    rw [not_or] at hpass
    simp [hcall, hpass.1, hpass.2, hnames, hbearer]

/-- A refusal is of a caller that is unknown or of one that is not allowlisted. -/
theorem call_refused {response : WireRefusal} (h : service.call parse r = .refused response) :
    ∃ e, response = service.rejection e ∧
      (r.extensions.leafCertificate = none → e.isAuthenticationFailure = true) ∧
      ∀ der ∈ r.extensions.leafCertificate,
        e.isAuthenticationFailure = true ↔ ∃ text, parse der = .error text := by
  rcases call_cases parse service r with
    ⟨-, hcall⟩ | ⟨-, ⟨identity, -, hcall⟩ | ⟨-, -, hcall⟩ | ⟨e, he, hcall⟩⟩
  · rw [hcall] at h
    contradiction
  · rw [hcall] at h
    contradiction
  · rw [hcall] at h
    contradiction
  · rw [hcall] at h
    exact ⟨e, (Called.refused.inj h).symm, he.2.2.2.1, he.2.2.2.2⟩

/-- **Whom the layer lets through, as whom, and how it refuses**: for every policy, on an HTTP and
on a gRPC router, whatever certificate the caller presents and whatever headers it sends. -/
theorem CallerAuthService.call_decision (parse : ParseCertificate) (service : CallerAuthService)
    (r : Request Ip) : CallerDecision parse service r where
  reached := call_forwarded_iff
  -- of the four ways a call goes, only that of a named caller is left
  attached := by
    rintro hexempt ⟨san, hsan⟩
    rcases call_cases parse service r with
      ⟨hpass, -⟩ | ⟨-, ⟨identity, hnames, hcall⟩ | ⟨-, hnot, -⟩ | ⟨e, he, -⟩⟩
    · rcases hpass with hbearer | hexempt'
      · exact absurd hsan (not_names_of_bearer hbearer san)
      · rw [hexempt] at hexempt'
        contradiction
    · exact ⟨identity, hcall, hnames⟩
    · exact absurd hsan (hnot san)
    · exact absurd hsan (he.2.2.1 san)
  -- where nobody is named, the request goes on as it came or not at all
  unattached := by
    intro hnot r' hforwarded
    rcases call_cases parse service r with
      ⟨-, hcall⟩ | ⟨hpass, ⟨identity, hnames, -⟩ | ⟨-, -, hcall⟩ | ⟨e, -, hcall⟩⟩
    · rw [hcall] at hforwarded
      exact (Called.forwarded.inj hforwarded).symm
    · rcases hnot with hexempt | hnot
      · exact absurd (.inr hexempt) hpass
      · exact absurd hnames (hnot identity.san)
    · rw [hcall] at hforwarded
      exact (Called.forwarded.inj hforwarded).symm
    · rw [hcall] at hforwarded
      contradiction
  usable san _ := san.value_usable
  -- the kind of the refusal follows the certificate: none at all, or one that names nobody
  -- listed
  missing := by
    intro hleaf response hcall
    obtain ⟨e, rfl, hmissing, -⟩ := call_refused hcall
    exact (rejection_kind service e).1 (hmissing hleaf)
  unlisted := by
    rintro der hder ⟨names, hnames⟩ response hcall
    obtain ⟨e, rfl, -, hmalformed⟩ := call_refused hcall
    refine (rejection_kind service e).2 (Bool.eq_false_iff.mpr fun hfailure => ?_)
    obtain ⟨text, htext⟩ := (hmalformed der hder).mp hfailure
    rw [hnames] at htext
    contradiction
  -- a client without a certificate is let through in this mode by its token alone
  cutover := by
    intro hmode r₀ hpath hheaders hleaf hreached
    rw [call_forwarded_iff] at hreached ⊢
    rw [hpath, hheaders, hleaf] at hreached
    rcases hreached with hbearer | hexempt | ⟨san, hsan⟩ | hdeferred
    · exact .inl hbearer
    · exact .inr (.inl hexempt)
    · exact absurd hsan (not_names_none san)
    · exact .inr (.inr (.inr hdeferred))

end Decision

/-- A caller without a certificate and without a credential. -/
def sampleAnonymous : Request String :=
  ⟨.get, "/admin", [], ⟨none, none, none, none, none, none, none, none⟩⟩

/-- In the mode `bearer` everybody gets through, without a certificate and without a credential. -/
theorem not_forall_reached :
    ¬ ∀ (parse : ParseCertificate) (service : CallerAuthService) (r : Request String),
      (∃ r', service.call parse r = .forwarded r') ↔
        service.isExempt r.path = true ∨
          service.policy.mode = .mtls ∧
            (∃ san, Names parse service.policy r.extensions.leafCertificate san) ∨
          service.policy.mode = .mtlsOrBearer ∧
            ((∃ san, Names parse service.policy r.extensions.leafCertificate san) ∨
              hasBearerCredential r.headers = true) := by
  intro h
  rcases (h (fun _ => .ok none) ⟨.bearer, .http⟩ sampleAnonymous).mp ⟨_, rfl⟩ with
    hexempt | ⟨hmode, -⟩ | ⟨hmode, -⟩
  · exact absurd hexempt (by decide)
  · exact absurd hmode (by decide)
  · exact absurd hmode (by decide)

/-! ### The two readers of the header -/

section Bearer

variable {headers : HeaderMap}

/-- The `Authorization` header is plain: where its scheme is that of a bearer credential, it is
written `Bearer` exactly if something stands behind the space. -/
def PlainScheme (headers : HeaderMap) : Prop :=
  ∀ value ∈ headerString headers "authorization", ∀ scheme rest,
    Text.splitOnce ' ' value.toList = some (scheme, rest) →
    scheme.map Char.toLower = "bearer".toList → (scheme = "Bearer".toList ↔ rest ≠ [])

theorem hasBearerCredential_iff_split :
    hasBearerCredential headers = true ↔
      ∃ value, headerString headers "authorization" = some value ∧ ∃ scheme rest,
        Text.splitOnce ' ' value.toList = some (scheme, rest) ∧
        scheme.map Char.toLower = "bearer".toList ∧ rest ≠ [] := by
  rw [hasBearerCredential]
  cases headerString headers "authorization" with
  | none => simp
  | some value =>
    rcases hsplit : Text.splitOnce ' ' value.toList with _ | ⟨scheme, rest⟩
    · simp [hsplit]
    · simp [hsplit]

/-- The token middleware finds a token behind the scheme `Bearer`, which may be empty. -/
theorem extractToken_ok_iff_split :
    (∃ token, extractToken headers = .ok token) ↔
      ∃ value, headerString headers "authorization" = some value ∧ ∃ rest,
        Text.splitOnce ' ' value.toList = some ("Bearer".toList, rest) := by
  rw [extractToken]
  cases headerString headers "authorization" with
  | none => simp
  | some value =>
    have hstarts : startsWith value "Bearer " = true ↔
        ∃ rest, Text.splitOnce ' ' value.toList = some ("Bearer".toList, rest) := by
      rw [startsWith, List.isPrefixOf_iff_prefix]
      constructor
      · rintro ⟨rest, hrest⟩
        refine ⟨rest, Text.splitOnce_eq_some_iff.mpr ⟨?_, by decide⟩⟩
        rw [← hrest]
        rfl
      · rintro ⟨rest, hrest⟩
        refine ⟨rest, ?_⟩
        rw [(Text.splitOnce_eq_some_iff.mp hrest).1]
        rfl
    simp only [Option.some.injEq, exists_eq_left', ← hstarts, stripPrefix]
    cases startsWith value "Bearer " <;> simp

/-- **The two readers agree exactly on plain headers**: the caller layer sees a bearer credential
where the token middleware finds a token. -/
theorem hasBearerCredential_iff (headers : HeaderMap) :
    (hasBearerCredential headers = true ↔ ∃ token, extractToken headers = .ok token)
      ↔ PlainScheme headers := by
  rw [hasBearerCredential_iff_split, extractToken_ok_iff_split, PlainScheme]
  cases headerString headers "authorization" with
  | none => simp
  | some value =>
    simp only [Option.some.injEq, exists_eq_left', Option.mem_some_iff, forall_eq']
    rcases Text.splitOnce ' ' value.toList with _ | ⟨scheme, rest⟩
    · simp
    · simp only [Option.some.injEq, Prod.mk.injEq, and_imp]
      constructor
      · rintro hagree _ _ rfl rfl hlower
        constructor
        · intro hscheme
          obtain ⟨_, _, ⟨-, rfl⟩, -, hrest⟩ := hagree.mpr ⟨rest, hscheme, rfl⟩
          exact hrest
        · intro hrest
          obtain ⟨_, hscheme, -⟩ := hagree.mp ⟨scheme, rest, ⟨rfl, rfl⟩, hlower, hrest⟩
          exact hscheme
      · intro hplain
        constructor
        · rintro ⟨_, _, ⟨rfl, rfl⟩, hlower, hrest⟩
          exact ⟨rest, (hplain _ _ rfl rfl hlower).mpr hrest, rfl⟩
        · rintro ⟨_, hscheme, rfl⟩
          have hlower : scheme.map Char.toLower = "bearer".toList := by
            rw [hscheme]
            decide
          exact ⟨scheme, rest, ⟨rfl, rfl⟩, hlower, (hplain _ _ rfl rfl hlower).mp hscheme⟩

/-- A scheme in lower case is a credential to the caller layer only, and an empty credential one to
the token middleware only. -/
theorem not_forall_hasBearerCredential_iff :
    hasBearerCredential [("authorization", strBytes "bearer abc")] = true ∧
    (∀ token, extractToken [("authorization", strBytes "bearer abc")] ≠ .ok token) ∧
    hasBearerCredential [("authorization", strBytes "Bearer ")] = false ∧
    extractToken [("authorization", strBytes "Bearer ")] = .ok "" := by
  have hnone : extractToken [("authorization", strBytes "bearer abc")]
      = .error (.unauthorized "Invalid Authorization header format") := by decide
  refine ⟨by decide, fun token htoken => ?_, by decide, by decide⟩
  rw [hnone] at htoken
  contradiction

end Bearer

end ActonService
