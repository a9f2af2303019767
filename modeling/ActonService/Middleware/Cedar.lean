import ActonService.Auth.Paseto
import ActonService.Lib.ExpiringMap
import ActonService.Lib.Run

/-!
# Cedar authorisation with a cache of decisions

The `CedarAuthz` of `middleware/cedar.rs`, with the cache in Redis that several instances may
share.  Cedar itself is third-party: a request, the policies and the entities determine its
decision.  A cached decision is found under the principal, the action and the resource alone.

A run is a sequence of requests, of reloads of the policies and of evictions by Redis.  It notes
what each decision in the cache was made on, and each answer beside the one without a cache.

## Main definitions

* `buildEntities`, `cacheKey`, `cacheGet`, `cacheSet`, `authorize`, `reloadPolicies` — the
  functions.
* `CedarState`, `cedarStep` — a run.
* `CacheTransparent` — every answer is the one without a cache.
* `HitsOwn` — the cache answers with decisions made on the same only.

## Main results

* `cacheTransparent_of_reach` — **the cache is transparent as long as it does.**
-/

namespace ActonService

open Run

/-! ### Cedar -/

/-- `Decision` -/
inductive Decision
  | allow
  | deny
  deriving DecidableEq, Repr

/-- `Error`, as far as Cedar returns it. -/
inductive CedarError
  | internal (message : String)
  deriving DecidableEq, Repr

/-- A Cedar request. -/
structure CedarRequest (Uid Context : Type) where
  principal : Uid
  action : Uid
  resource : Uid
  context : Context

/-- The functions of the Cedar library. -/
structure CedarExterns (Uid Context Policies Entities : Type) where
  /-- `Request::new` without a schema, or the text of its error. -/
  checkRequest : CedarRequest Uid Context → Except String Unit
  /-- The text of an `EntityUid`. -/
  uidText : Uid → String
  /-- `Entities::from_json_value`, or the text of its error. -/
  entitiesFromJson : Json → Except String Entities
  /-- `Authorizer::is_authorized` -/
  isAuthorized : CedarRequest Uid Context → Policies → Entities → Decision
  /-- The policies of a text, or the text of the error. -/
  parsePolicies : String → Except String Policies

/-- `CedarConfig`, as far as a request reads it. -/
structure CedarConfig where
  cacheTtlSecs : UInt64
  failOpen : Bool

/-- `is_user` -/
def Claims.isUser (claims : Claims) : Bool := "user:".toList.isPrefixOf claims.sub.toList

variable {Uid Context Policies Entities : Type}

section Functions

variable (X : CedarExterns Uid Context Policies Entities)

/-- The principal, as `build_entities` describes it. -/
def principalEntity (claims : Claims) : Json :=
  .object
    [("uid", .object
      [("type", .string (if claims.isUser then "User" else "Client")), ("id", .string claims.sub)]),
     ("attrs", .object
      [("email", .string (claims.email.getD "")), ("roles", .array (claims.roles.map .string)),
       ("permissions", .array (claims.perms.map .string)), ("sub", .string claims.sub)]),
     ("parents", .array [])]

/-- `build_entities` -/
def buildEntities (claims : Claims) : Except CedarError Entities :=
  match X.entitiesFromJson (.array [principalEntity claims]) with
  | .ok entities => .ok entities
  | .error e => .error (.internal ("Failed to build entities: " ++ e))

/-- `apply_fail_open` -/
def CedarConfig.applyFailOpen (config : CedarConfig) : Decision → Decision
  | .allow => .allow
  | .deny => if config.failOpen then .allow else .deny

/-! ### The cache -/

/-- The decisions in Redis: a text under each key, until it expires. -/
abbrev DecisionStore := ExpiringMap String String

/-- What a command meets on the way to Redis. -/
inductive RedisFault
  | none
  | connection (e : String)
  | command (e : String)
  /-- It takes effect, but the answer is lost. -/
  | lostReply (e : String)
  deriving DecidableEq, Repr

/-- `cache_key` -/
def cacheKey (request : CedarRequest Uid Context) : String :=
  "cedar:authz:" ++ X.uidText request.principal ++ ":" ++ X.uidText request.action ++ ":"
    ++ X.uidText request.resource

/-- How a decision is written to the cache. -/
def Decision.text : Decision → String
  | .allow => "allow"
  | .deny => "deny"

/-- How a cached decision is read; any other text is none. -/
def Decision.ofText (text : String) : Option Decision :=
  if text = "allow" then some .allow else if text = "deny" then some .deny else none

theorem Decision.ofText_text (decision : Decision) :
    Decision.ofText decision.text = some decision := by
  cases decision <;> rfl

/-- `RedisPolicyCache::get`, at a time in milliseconds. -/
def cacheGet (fault : RedisFault) (now : ℕ) (redis : DecisionStore)
    (request : CedarRequest Uid Context) : Except CedarError (Option Decision) :=
  match fault with
  | .none => .ok ((redis.get? now (cacheKey X request)).bind Decision.ofText)
  | .connection e => .error (.internal ("Redis connection failed: " ++ e))
  | .command e | .lostReply e => .error (.internal ("Redis GET failed: " ++ e))

/-- Redis takes the time to live: it is positive, and the expiry fits a 64-bit time. -/
def validTtl (now : ℕ) (ttlSecs : UInt64) : Bool :=
  decide (0 < ttlSecs.toNat) && decide (now + 1000 * ttlSecs.toNat < 9223372036854775808)

/-- The command comes through and is carried out. -/
def setsEntry (fault : RedisFault) (now : ℕ) (ttlSecs : UInt64) : Bool :=
  validTtl now ttlSecs &&
    match fault with
    | .none | .lostReply _ => true
    | .connection _ | .command _ => false

/-- `RedisPolicyCache::set` -/
def cacheSet (fault : RedisFault) (now : ℕ) (redis : DecisionStore)
    (request : CedarRequest Uid Context) (decision : Decision) (ttlSecs : UInt64) :
    DecisionStore × Except CedarError Unit :=
  let redis' :=
    if setsEntry fault now ttlSecs then
      redis.setEx (cacheKey X request) decision.text (now + 1000 * ttlSecs.toNat)
    else redis
  let answer : Except CedarError Unit :=
    match fault with
    | .none =>
      if validTtl now ttlSecs then .ok ()
      else .error (.internal "Redis SETEX failed: invalid expire time in 'setex' command")
    | .connection e => .error (.internal ("Redis connection failed: " ++ e))
    | .command e | .lostReply e => .error (.internal ("Redis SETEX failed: " ++ e))
  (redis', answer)

/-! ### Authorisation -/

/-- What a request cannot know: when it is made, how long it takes, and how its commands to Redis
end. -/
structure AuthorizeInput where
  /-- When the cache is asked, in milliseconds. -/
  instant : ℕ
  /-- How long it takes until a decision is put there. -/
  elapsed : ℕ
  getFault : RedisFault
  setFault : RedisFault

/-- `authorize`, with or without a cache.  That a decision could not be put there is ignored. -/
def authorize (config : CedarConfig) (cached : Bool) (policies : Policies) (input : AuthorizeInput)
    (redis : DecisionStore) (request : CedarRequest Uid Context) (claims : Claims) :
    DecisionStore × Except CedarError Decision :=
  match X.checkRequest request with
  | .error e => (redis, .error (.internal ("Failed to build Cedar request: " ++ e)))
  | .ok () =>
    let hit : Except CedarError (Option Decision) :=
      if cached then cacheGet X input.getFault input.instant redis request else .ok none
    match hit with
    | .error e => (redis, .error e)
    | .ok (some decision) => (redis, .ok (config.applyFailOpen decision))
    | .ok none =>
      match buildEntities X claims with
      | .error e => (redis, .error e)
      | .ok entities =>
        let rawDecision := X.isAuthorized request policies entities
        let redis' :=
          if cached then (cacheSet X input.setFault (input.instant + input.elapsed) redis request
            rawDecision config.cacheTtlSecs).1
          else redis
        (redis', .ok (config.applyFailOpen rawDecision))

/-- What comes of reading the policy file. -/
inductive PolicyFile
  | text (policies : String)
  | unreadable (e : String)
  | joinError (e : String)

/-- `reload_policies`.  The cache is left as it is. -/
def reloadPolicies (file : PolicyFile) (policies : Policies) :
    Policies × Except CedarError Unit :=
  match file with
  | .joinError e => (policies, .error (.internal ("Task join error: " ++ e)))
  | .unreadable e => (policies, .error (.internal ("Failed to read policy file: " ++ e)))
  | .text text =>
    match X.parsePolicies text with
    | .error e => (policies, .error (.internal ("Failed to parse policies: " ++ e)))
    | .ok policies' => (policies', .ok ())

end Functions

/-! ### Runs -/

/-- What a decision was made on. -/
structure Basis (Uid Context Policies Entities : Type) where
  request : CedarRequest Uid Context
  policies : Policies
  entities : Entities

/-- An answer, and what it would be without a cache. -/
structure Answered where
  withCache : Except CedarError Decision
  without : Except CedarError Decision

/-- The instances with their policies, the store they share, and what a run notes. -/
structure CedarState (Uid Context Policies Entities : Type) where
  policies : ℕ → Policies
  redis : DecisionStore
  /-- What the decision last put under each key was made on. -/
  basis : String → Option (Basis Uid Context Policies Entities)
  answers : List Answered

/-- A start with any policies and any content of the store. -/
def CedarState.start (policies : ℕ → Policies) (redis : DecisionStore) :
    CedarState Uid Context Policies Entities :=
  ⟨policies, redis, fun _ => none, []⟩

/-- What happens next: an instance answers a request or reloads its policies, or Redis evicts a
decision. -/
inductive CedarAction (Uid Context : Type)
  | authorize (inst : ℕ) (request : CedarRequest Uid Context) (claims : Claims)
      (input : AuthorizeInput)
  | reload (inst : ℕ) (file : PolicyFile)
  | evict (key : String)

section Runs

variable (X : CedarExterns Uid Context Policies Entities) (configs : ℕ → CedarConfig)

/-- What is noted of the cache after a request. -/
def nextBasis (config : CedarConfig) (policies : Policies) (input : AuthorizeInput)
    (redis : DecisionStore) (request : CedarRequest Uid Context) (claims : Claims)
    (basis : String → Option (Basis Uid Context Policies Entities)) :
    String → Option (Basis Uid Context Policies Entities) :=
  match X.checkRequest request, cacheGet X input.getFault input.instant redis request,
    buildEntities X claims with
  | .ok (), .ok none, .ok entities =>
    if setsEntry input.setFault (input.instant + input.elapsed) config.cacheTtlSecs then
      Function.update basis (cacheKey X request) (some ⟨request, policies, entities⟩)
    else basis
  | _, _, _ => basis

/-- One action: an instance authorizes a request or loads its policies anew, or Redis evicts a key.
-/
def cedarStep (s : CedarState Uid Context Policies Entities) :
    CedarAction Uid Context → CedarState Uid Context Policies Entities
  | .authorize inst request claims input =>
    let answer := authorize X (configs inst) true (s.policies inst) input s.redis request claims
    let plain := authorize X (configs inst) false (s.policies inst) input s.redis request claims
    { s with
      redis := answer.1
      basis := nextBasis X (configs inst) (s.policies inst) input s.redis request claims s.basis
      answers := s.answers ++ [⟨answer.2, plain.2⟩] }
  | .reload inst file =>
    { s with
      policies := Function.update s.policies inst (reloadPolicies X file (s.policies inst)).1 }
  | .evict key => { s with redis := s.redis.erase key }

/-- **The cache is transparent**: every answer is the one without a cache, that is the decision
of the policies loaded at that time on that request. -/
def CacheTransparent (s : CedarState Uid Context Policies Entities) : Prop :=
  ∀ answer ∈ s.answers, answer.withCache = answer.without

/-- Redis can be asked, and a decision it has was made on the same request with the same
entities, and on the policies that are loaded. -/
def HitsOwn (s : CedarState Uid Context Policies Entities) : CedarAction Uid Context → Prop
  | .authorize inst request claims input =>
    input.getFault = .none ∧
      ∀ decision, cacheGet X .none input.instant s.redis request = .ok (some decision) →
        ∃ basis, s.basis (cacheKey X request) = some basis ∧ basis.request = request ∧
          basis.policies = s.policies inst ∧ buildEntities X claims = .ok basis.entities
  | .reload _ _ => True
  | .evict _ => True

/-- What is kept: a decision in the store is the one on what it was made on. -/
structure CacheInv (s : CedarState Uid Context Policies Entities) : Prop where
  sound : ∀ key text basis, s.redis.Stores key text → s.basis key = some basis →
    text = (X.isAuthorized basis.request basis.policies basis.entities).text
  transparent : CacheTransparent s

variable {X configs}

/-- A request that hits a decision made on the same gets the answer it would get without. -/
theorem authorize_eq_of_hitsOwn {s : CedarState Uid Context Policies Entities}
    (hs : CacheInv X s) {inst : ℕ} {request : CedarRequest Uid Context} {claims : Claims}
    {input : AuthorizeInput} (h : HitsOwn X s (.authorize inst request claims input)) :
    (authorize X (configs inst) true (s.policies inst) input s.redis request claims).2
      = (authorize X (configs inst) false (s.policies inst) input s.redis request claims).2 := by
  obtain ⟨hfault, hbasis⟩ := h
  simp only [authorize, hfault, if_true, Bool.false_eq_true, if_false]
  cases X.checkRequest request with
  | error e => rfl
  | ok u =>
    rcases hget : cacheGet X .none input.instant s.redis request with e | _ | decision
    · contradiction
    · cases buildEntities X claims with
      | error e => rfl
      | ok entities => rfl
    · obtain ⟨basis, hnoted, hrequest, hpolicies, hentities⟩ := hbasis decision hget
      obtain ⟨text, htext, hdecision⟩ := Option.bind_eq_some_iff.mp (Except.ok.inj hget)
      rw [hs.sound _ _ _ (ExpiringMap.stores_of_get? htext) hnoted, Decision.ofText_text, hrequest,
        hpolicies] at hdecision
      cases hdecision
      simp only [hentities]

/-- A request leaves the store as it is and its notes too, or puts there the decision on what it
notes. -/
theorem authorize_store_cases (config : CedarConfig) (policies : Policies) (input : AuthorizeInput)
    (redis : DecisionStore) (request : CedarRequest Uid Context) (claims : Claims)
    (basis : String → Option (Basis Uid Context Policies Entities)) :
    (authorize X config true policies input redis request claims).1 = redis ∧
        nextBasis X config policies input redis request claims basis = basis ∨
      ∃ entities expiresAt,
        (authorize X config true policies input redis request claims).1
          = redis.setEx (cacheKey X request) (X.isAuthorized request policies entities).text
            expiresAt ∧
        nextBasis X config policies input redis request claims basis
          = Function.update basis (cacheKey X request) (some ⟨request, policies, entities⟩) := by
  simp only [authorize, nextBasis, if_true]
  cases X.checkRequest request with
  | error e => exact .inl ⟨rfl, rfl⟩
  | ok u =>
    rcases cacheGet X input.getFault input.instant redis request with e | _ | decision
    · exact .inl ⟨rfl, rfl⟩
    · cases buildEntities X claims with
      | error e => exact .inl ⟨rfl, rfl⟩
      | ok entities =>
        simp only [cacheSet]
        cases setsEntry input.setFault (input.instant + input.elapsed) config.cacheTtlSecs with
        | false => exact .inl ⟨rfl, rfl⟩
        | true => exact .inr ⟨entities, _, rfl, rfl⟩
    · exact .inl ⟨rfl, rfl⟩

/-- What one action keeps: a cached decision is the one on what it was made on, and nobody notices
the cache. -/
theorem CacheInv.step {s : CedarState Uid Context Policies Entities} (hs : CacheInv X s)
    {a : CedarAction Uid Context} (ha : HitsOwn X s a) : CacheInv X (cedarStep X configs s a) := by
  cases a with
  | authorize inst request claims input =>
    constructor
    · intro key text basis hstores hnoted
      simp only [cedarStep] at hstores hnoted
      rcases authorize_store_cases (X := X) (configs inst) (s.policies inst) input s.redis request
        claims s.basis with ⟨hredis, hbasis⟩ | ⟨entities, expiresAt, hredis, hbasis⟩
      · rw [hredis] at hstores
        rw [hbasis] at hnoted
        exact hs.sound key text basis hstores hnoted
      · rw [hredis] at hstores
        rw [hbasis] at hnoted
        -- what is stored now is the decision just made, or was stored before
        rcases ExpiringMap.stores_setEx hstores with ⟨rfl, rfl⟩ | ⟨hkey, hold⟩
        · rw [Function.update_self] at hnoted
          cases hnoted
          rfl
        · rw [Function.update_of_ne hkey] at hnoted
          exact hs.sound key text basis hold hnoted
    · intro answer hanswer
      rcases List.mem_append.mp hanswer with hold | hnew
      · exact hs.transparent answer hold
      · rw [List.mem_singleton.mp hnew]
        exact authorize_eq_of_hitsOwn hs ha
  | reload inst file => exact ⟨hs.sound, hs.transparent⟩
  | evict key =>
    refine ⟨fun k text basis hstores hnoted => ?_, hs.transparent⟩
    exact hs.sound k text basis (ExpiringMap.stores_erase hstores) hnoted

/-- **When the cache is transparent.**  In every run, of any instances and requests, interleaved
with any reloads and evictions, in which Redis can be asked and every decision it answers with
was made on the same request, the same entities and the policies now loaded, every answer is the
one without a cache. -/
theorem cacheTransparent_of_reach (X : CedarExterns Uid Context Policies Entities)
    (configs : ℕ → CedarConfig) (policies : ℕ → Policies) (redis : DecisionStore)
    (s : CedarState Uid Context Policies Entities)
    (h : Reach (cedarStep X configs) (HitsOwn X) (.start policies redis) s) :
    CacheTransparent s := by
  have hinit : CacheInv X (.start policies redis : CedarState Uid Context Policies Entities) :=
    ⟨nofun, nofun⟩
  exact (h.invariant hinit fun s a hs ha => hs.step ha).transparent

end Runs

instance decidableCacheTransparent (s : CedarState Uid Context Policies Entities) :
    Decidable (CacheTransparent s) :=
  inferInstanceAs (Decidable (∀ answer ∈ s.answers, answer.withCache = answer.without))

/-! ### Samples -/

/-- Two policy files: one permits what administrators ask for, one forbids everything. -/
inductive SamplePolicies
  | adminsOnly
  | nobody

/-- The roles of the principal among the entities. -/
def sampleRoles : Json → List String
  | .array [principal] =>
    match (principal.get "attrs").get "roles" with
    | .array roles => roles.filterMap Json.asStr
    | _ => []
  | _ => []

/-- Cedar at the samples. -/
def sampleCedar : CedarExterns String Json SamplePolicies Json where
  checkRequest _ := .ok ()
  uidText uid := uid
  entitiesFromJson json := .ok json
  isAuthorized _ policies entities :=
    match policies with
    | .adminsOnly => if "admin" ∈ sampleRoles entities then .allow else .deny
    | .nobody => .deny
  parsePolicies text :=
    if text = "forbid (principal, action, resource);" then .ok .nobody
    else .error "unexpected token"

/-- A user with the roles given asks for the invoices. -/
def sampleRequest (roles : List String) : CedarRequest String Json where
  principal := "User::\"user:123\""
  action := "Action::\"GET /invoices\""
  resource := "Resource::\"default\""
  context := .object [("roles", .array (roles.map .string))]

/-- The request as an action, some seconds after the start. -/
def sampleAuthorize (roles : List String) (secs : ℕ) : CedarAction String Json :=
  .authorize 0 (sampleRequest roles) (sampleClaims roles OrderedMap.empty)
    ⟨1000 * secs, 1, .none, .none⟩

def sampleCedarStart : CedarState String Json SamplePolicies Json :=
  .start (fun _ => .adminsOnly) ExpiringMap.empty

/-- A run of one instance that keeps decisions for five minutes. -/
def sampleCedarRun (actions : List (CedarAction String Json)) :
    CedarState String Json SamplePolicies Json :=
  actions.foldl (cedarStep sampleCedar fun _ => ⟨300, false⟩) sampleCedarStart

theorem cacheTransparent_of_reach_sample :
    CacheTransparent (sampleCedarRun
      [sampleAuthorize ["admin"] 0, sampleAuthorize ["admin"] 60]) := by
  apply cacheTransparent_of_reach sampleCedar (fun _ => ⟨300, false⟩) (fun _ => .adminsOnly)
    ExpiringMap.empty
  have hfirst : Reach (cedarStep sampleCedar fun _ => ⟨300, false⟩) (HitsOwn sampleCedar)
      sampleCedarStart (sampleCedarRun [sampleAuthorize ["admin"] 0]) :=
    .act (sampleAuthorize ["admin"] 0) .start ⟨rfl, nofun⟩
  refine hfirst.act (sampleAuthorize ["admin"] 60) ⟨rfl, fun _ _ => ?_⟩
  exact ⟨⟨sampleRequest ["admin"], .adminsOnly, _⟩, rfl, rfl, rfl, rfl⟩

/-- The cache is not always transparent: one who is no longer an administrator gets what one got
as such, and so does an administrator after the policies no longer permit it. -/
theorem not_forall_cacheTransparent :
    ¬ CacheTransparent (sampleCedarRun [sampleAuthorize ["admin"] 0, sampleAuthorize [] 60]) ∧
    ¬ CacheTransparent (sampleCedarRun [sampleAuthorize ["admin"] 0,
      .reload 0 (.text "forbid (principal, action, resource);"),
      sampleAuthorize ["admin"] 60]) := by
  decide

end ActonService
