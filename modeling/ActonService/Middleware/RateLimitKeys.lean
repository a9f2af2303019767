import ActonService.Middleware.Authorization
import ActonService.Middleware.RateLimit
import ActonService.Middleware.RouteMatcher

/-!
# The counters of requests

Both rate limiters count a request under a text: `check_rate_limit_with_route` of
`middleware/rate_limit.rs` as a key in Redis, `check_rate_limit` of `middleware/governor.rs` as a
key of one of its two maps of limiters.  A request that is matched to a configured entry is counted
under the normalised path, and under its user if the limit is per user; any other under its user,
its client or its address.

The text is put together with `:` between its parts, and a path or a subject may hold one itself.
Nor is the method part of the text, which may have decided on the entry.

## Main definitions

* `RateLimits`, `RateRequest` — the configuration, and what a request is counted by.
* `RateLimit.counter`, `RateLimit.checkRateLimitWithRoute` — the key in Redis, and the function.
* `GovernorRateLimit.limiterFor` — the map and the key of a limiter.
* `RateLimit.Independent`, `RateLimit.Separate` — no counter is shared, and what that takes; so for
  the limiters.

## Main results

* `independent_iff_separate` — **no counter is shared exactly if no path has two entries and none
  goes on behind a per-user one with `:user`.**
* `owner_split` — what a key tells.
-/

namespace ActonService

/-! ### Requests and configuration -/

/-- `RateLimitConfig`, as far as requests are counted by it. -/
structure RateLimits where
  perUserRpm : UInt32
  perClientRpm : UInt32
  windowSecs : ℕ
  routes : List RouteEntry

/-- What a limiter is asked about. -/
structure RateRequest (Ip : Type) where
  method : String
  path : String
  claims : Option Claims
  clientIp : Option Ip

section Keys

variable {Ip : Type} (X : RegexExterns) (A : AddrExterns Ip) (config : RateLimits)

/-- The entry for a method and a path, which is normalised before `match_route` normalises it. -/
def RateLimits.entryFor (method path : String) : Option RouteEntry :=
  (CompiledRoutePatterns.compile config.routes).matchEntry X method (normalizePath X path)

/-- The entry a request is matched to. -/
def RateRequest.entry (r : RateRequest Ip) : Option RouteEntry :=
  config.entryFor X r.method r.path

/-- The subject of a request, if it has claims. -/
def RateRequest.user (r : RateRequest Ip) : Option String := r.claims.map Claims.sub

/-- The key of a request with claims and without an entry, and its limit. -/
def RateLimits.claimsKey (limiter : String) (claims : Claims) : String × UInt32 :=
  if claims.isUser then (limiter ++ ":user:" ++ claims.sub, config.perUserRpm)
  else if claims.isClient then (limiter ++ ":client:" ++ claims.sub, config.perClientRpm)
  else (limiter ++ ":unknown:" ++ claims.sub, config.perUserRpm)

/-! ### Redis -/

namespace RateLimit

/-- The key of a request that is matched to an entry. -/
def routeKey (route : RouteRateLimitConfig) (normalized : String) (claims : Option Claims) :
    String :=
  if route.perUser then
    match claims with
    | some claims => "route:" ++ normalized ++ ":user:" ++ claims.sub
    | none => "route:" ++ normalized ++ ":global"
  else "route:" ++ normalized ++ ":global"

/-- The key of any other request with claims, and its limit. -/
def claimsKey : Claims → String × UInt32 := config.claimsKey "ratelimit"

/-- The key a request is counted under and its limit, if it is counted. -/
def counter (r : RateRequest Ip) : Option (String × UInt32) :=
  match r.entry X config with
  | some e =>
    some (routeKey e.config (normalizePath X r.path) r.claims, e.config.requestsPerMinute)
  | none => r.claims.map (claimsKey config)

/-- `check_rate_limit_with_route` -/
def checkRateLimitWithRoute (r : RateRequest Ip) : RateLimitProg RateLimitResult :=
  match counter X config r with
  | some (key, limit) => checkAndIncrement key limit.toNat config.windowSecs
  | none => .ret ⟨config.perUserRpm.toNat, 0, config.windowSecs⟩

end RateLimit

/-! ### Limiters in memory -/

namespace GovernorRateLimit

/-- `route_limiters` and `global_limiters`. -/
inductive LimiterMap
  | route
  | global
  deriving DecidableEq, Repr

/-- The limiter of a request: the map it is in, its key there, and the requests a minute and the
burst it is made with if it is new. -/
structure LimiterFor where
  map : LimiterMap
  key : String
  requestsPerMinute : ℕ
  burstSize : ℕ
  deriving DecidableEq, Repr

/-- The key of a request that is matched to an entry. -/
def routeKey (route : RouteRateLimitConfig) (normalized : String) (claims : Option Claims)
    (clientIp : Option Ip) : String :=
  if route.perUser then
    match claims, clientIp with
    | some claims, _ => "route:" ++ normalized ++ ":user:" ++ claims.sub
    | none, some ip => "route:" ++ normalized ++ ":ip:" ++ A.display ip
    | none, none => "route:" ++ normalized ++ ":ip:unknown"
  else "route:" ++ normalized ++ ":global"

/-- The key of any other request with claims, and its limit. -/
def claimsKey : Claims → String × UInt32 := config.claimsKey "governor"

/-- The key of a request without claims. -/
def addressKey : Option Ip → String
  | some ip => "governor:ip:" ++ A.display ip
  | none => "governor:ip:unknown"

/-- The limiter that `check_rate_limit` checks. -/
def limiterFor (r : RateRequest Ip) : LimiterFor :=
  match r.entry X config with
  | some e =>
    ⟨.route, routeKey A e.config (normalizePath X r.path) r.claims r.clientIp,
      e.config.requestsPerMinute.toNat, e.config.burstSize.toNat⟩
  | none =>
    match r.claims with
    | some claims =>
      let (key, limit) := claimsKey config claims
      ⟨.global, key, limit.toNat, max (limit.toNat / 10) 1⟩
    | none =>
      ⟨.global, addressKey A r.clientIp, config.perUserRpm.toNat,
        max (config.perUserRpm.toNat / 10) 1⟩

end GovernorRateLimit

/-! ### Independence -/

/-- Who a request is counted for: its subject, or else its address. -/
inductive Identity (Ip : Type)
  | subject (sub : String)
  | address (ip : Option Ip)
  deriving DecidableEq, Repr

def RateRequest.identity (r : RateRequest Ip) : Identity Ip :=
  match r.claims with
  | some claims => .subject claims.sub
  | none => .address r.clientIp

/-- The limit is one for each user; so are the limits of requests without an entry. -/
def isPerUser : Option RouteEntry → Bool
  | some e => e.config.perUser
  | none => true

/-- **No counter in Redis is shared** by requests of two entries, or of two users where the limit
is per user. -/
def RateLimit.Independent : Prop :=
  ∀ (r r' : RateRequest Ip) (counted counted' : String × UInt32),
    RateLimit.counter X config r = some counted → RateLimit.counter X config r' = some counted' →
    counted.1 = counted'.1 →
    r.entry X config = r'.entry X config ∧
      (isPerUser (r.entry X config) = true → r.user = r'.user)

/-- **No limiter is shared** by requests of two entries, or of two users where the limit is per
user. -/
def GovernorRateLimit.Independent : Prop :=
  ∀ r r' : RateRequest Ip,
    (GovernorRateLimit.limiterFor X A config r).map
        = (GovernorRateLimit.limiterFor X A config r').map →
    (GovernorRateLimit.limiterFor X A config r).key
        = (GovernorRateLimit.limiterFor X A config r').key →
    r.entry X config = r'.entry X config ∧
      (isPerUser (r.entry X config) = true → r.identity = r'.identity)

/-- A path that goes on behind another one with `:user`. -/
def GoesOn (normalized normalized' : String) : Prop :=
  (normalized ++ ":user:").toList <+: (normalized' ++ ":").toList

/-- No path that an entry matches goes on behind one that a per-user entry matches. -/
def NoneGoesOn : Prop :=
  ∀ method method' path path' e e', config.entryFor X method path = some e →
    e.config.perUser = true → config.entryFor X method' path' = some e' →
    ¬ GoesOn (normalizePath X path) (normalizePath X path')

/-- **What independent counters in Redis take**: no path has two entries, for different methods. -/
structure RateLimit.Separate : Prop where
  method : ∀ method method' path e e', config.entryFor X method path = some e →
    config.entryFor X method' path = some e' → e = e'
  path : NoneGoesOn X config

/-- **What independent limiters take**: no path has two per-user entries, or two others, for
different methods. -/
structure GovernorRateLimit.Separate : Prop where
  method : ∀ method method' path e e', config.entryFor X method path = some e →
    config.entryFor X method' path = some e' → e.config.perUser = e'.config.perUser → e = e'
  path : NoneGoesOn X config

end Keys

/-! ### Texts with separators -/

section Texts

variable {n n' s t y : List Char}

/-- What ends before a separator that `:user:` goes on into has `:user` behind it. -/
theorem user_prefix (h : ":user:".toList ++ s = y ++ ':' :: t) (hy : y ≠ []) :
    ":user:".toList <+: y ++ [':'] := by
  -- inside of `:user:` no character but the last is a separator
  rcases y with _ | ⟨a, _ | ⟨b, _ | ⟨c, _ | ⟨d, _ | ⟨e, y⟩⟩⟩⟩⟩
  · contradiction
  all_goals simp at h
  obtain ⟨rfl, rfl, rfl, rfl, rfl, h⟩ := h
  rcases y with _ | ⟨f, y⟩
  · exact ⟨[], rfl⟩
  · rw [List.cons_append, List.cons.injEq] at h
    rw [← h.1]
    exact ⟨y ++ [':'], rfl⟩

/-- Where a text with `:user:` in it may split at another separator: there, or behind it, or
before it. -/
theorem user_split (h : n ++ (":user:".toList ++ s) = n' ++ ':' :: t) :
    n = n' ∧ ":user:".toList ++ s = ':' :: t ∨ n ++ ":user:".toList <+: n' ++ [':'] ∨
      ∃ y, n = n' ++ y ∧ y ≠ [] ∧ y ++ (":user:".toList ++ s) = ':' :: t := by
  rcases List.append_eq_append_iff.mp h with ⟨y, rfl, hy⟩ | ⟨y, rfl, hy⟩
  · by_cases hnil : y = []
    · subst hnil
      exact .inl ⟨(List.append_nil n).symm, hy⟩
    · obtain ⟨rest, hrest⟩ := user_prefix hy hnil
      exact .inr (.inl ⟨rest, by rw [List.append_assoc, hrest, List.append_assoc]⟩)
  · by_cases hnil : y = []
    · subst hnil
      exact .inl ⟨List.append_nil n', by simpa using hy.symm⟩
    · exact .inr (.inr ⟨y, rfl, hnil, hy.symm⟩)

theorem user_user (h : n ++ (":user:".toList ++ s) = n' ++ (":user:".toList ++ t)) :
    n = n' ∧ s = t ∨ n ++ ":user:".toList <+: n' ++ [':'] ∨
      n' ++ ":user:".toList <+: n ++ [':'] := by
  rcases user_split (t := "user:".toList ++ t) h with ⟨hn, hs⟩ | hbehind | ⟨y, rfl, hy, hsplit⟩
  · exact .inl ⟨hn, by simpa using hs⟩
  · exact .inr (.inl hbehind)
  · obtain ⟨rest, hrest⟩ := user_prefix (s := t) (t := "user:".toList ++ s) hsplit.symm hy
    exact .inr (.inr ⟨rest, by rw [List.append_assoc, hrest, List.append_assoc]⟩)

theorem user_global (h : n ++ (":user:".toList ++ s) = n' ++ ":global".toList) :
    n ++ ":user:".toList <+: n' ++ [':'] := by
  rcases user_split (t := "global".toList) h with ⟨-, hs⟩ | hbehind | ⟨y, -, hy, hsplit⟩
  · simp at hs
  · exact hbehind
  · -- there is no separator in `global`
    rcases y with _ | ⟨a, y⟩
    · contradiction
    · rw [List.cons_append, List.cons.injEq] at hsplit
      have hmem : ':' ∈ "global".toList := by
        rw [← hsplit.2]
        simp
      exact absurd hmem (by decide)

theorem user_ip (ht : 's' ∉ t)
    (h : n ++ (":user:".toList ++ s) = n' ++ (":ip:".toList ++ t)) :
    n ++ ":user:".toList <+: n' ++ [':'] := by
  rcases user_split (t := "ip:".toList ++ t) h with ⟨-, hs⟩ | hbehind | ⟨y, -, -, hsplit⟩
  · simp at hs
  · exact hbehind
  · have hmem : 's' ∈ ':' :: ("ip:".toList ++ t) := by
      rw [← hsplit]
      simp
    simp [ht] at hmem

theorem ip_global (ht : 'l' ∉ t) : n ++ (":ip:".toList ++ t) ≠ n' ++ ":global".toList := by
  intro h
  rcases List.append_eq_append_iff.mp h with ⟨y, rfl, hy⟩ | ⟨y, rfl, hy⟩
  · have hmem : 'l' ∈ ":ip:".toList ++ t := by
      rw [hy]
      simp
    simp [ht] at hmem
  · have hmem : 'p' ∈ ":global".toList := by
      rw [hy]
      simp
    exact absurd hmem (by decide)

/-- The text of an address holds no `:ip:`, so the last one is where it starts. -/
theorem ip_ip_of_prefix (ht : 'p' ∉ s) (h : ":ip:".toList ++ s = y ++ (":ip:".toList ++ t)) :
    y = [] := by
  rcases y with _ | ⟨a, _ | ⟨b, _ | ⟨c, y⟩⟩⟩
  · rfl
  all_goals simp at h
  have hmem : 'p' ∈ ':' :: s := by
    rw [h.2.2.2]
    simp
  simp [ht] at hmem

theorem ip_ip (hs : 'p' ∉ s) (ht : 'p' ∉ t)
    (h : n ++ (":ip:".toList ++ s) = n' ++ (":ip:".toList ++ t)) : n = n' ∧ s = t := by
  rcases List.append_eq_append_iff.mp h with ⟨y, rfl, hy⟩ | ⟨y, rfl, hy⟩
  · have hnil := ip_ip_of_prefix hs hy
    subst hnil
    exact ⟨(List.append_nil n).symm, by simpa using hy⟩
  · have hnil := ip_ip_of_prefix ht hy
    subst hnil
    exact ⟨List.append_nil n', by simpa using hy.symm⟩

end Texts

/-! ### What stands behind a path -/

/-- Whom a key of an entry names behind the path. -/
inductive Owner
  | user (sub : String)
  /-- The text of an address, or `unknown`. -/
  | address (text : String)
  | everyone
  deriving DecidableEq, Repr

/-- What a key has behind the path. -/
def Owner.text : Owner → String
  | .user sub => ":user:" ++ sub
  | .address text => ":ip:" ++ text
  | .everyone => ":global"

/-- What the texts of addresses do not hold. -/
def Owner.Plain : Owner → Prop
  | .address text => 's' ∉ text.toList ∧ 'l' ∉ text.toList ∧ 'p' ∉ text.toList
  | _ => True

theorem goesOn_iff {n n' : String} :
    GoesOn n n' ↔ n.toList ++ ":user:".toList <+: n'.toList ++ [':'] := by
  rw [GoesOn, String.toList_append, String.toList_append]
  rfl

/-- What stands behind a path that goes on behind another. -/
theorem GoesOn.exists_rest {n n' : String} (h : GoesOn n n') :
    ∃ rest : String, n' ++ ":" = n ++ ":user:" ++ rest := by
  obtain ⟨rest, hrest⟩ := h
  exact ⟨String.ofList rest, by rw [← String.toList_inj]; simpa using hrest.symm⟩

/-- Where a path goes on behind another, some user of that is counted with anyone of the first. -/
theorem GoesOn.exists_sub {n n' : String} (h : GoesOn n n') (o : Owner) :
    ∃ sub, n ++ (Owner.user sub).text = n' ++ o.text := by
  obtain ⟨rest, hrest⟩ := h.exists_rest
  obtain ⟨tail, htail⟩ : ∃ tail, o.text = ":" ++ tail := by
    cases o with
    | user sub => exact ⟨"user:" ++ sub, by rw [← String.append_assoc]; rfl⟩
    | address text => exact ⟨"ip:" ++ text, by rw [← String.append_assoc]; rfl⟩
    | everyone => exact ⟨"global", rfl⟩
  refine ⟨rest ++ tail, ?_⟩
  calc n ++ (":user:" ++ (rest ++ tail)) = (n ++ ":user:" ++ rest) ++ tail := by
        simp only [String.append_assoc]
    _ = n' ++ o.text := by rw [← hrest, htail, String.append_assoc]

/-- **A key tells the path and whom it names**, unless one path goes on behind the other and names a
user. -/
theorem owner_split {n n' : String} {o o' : Owner} (ho : o.Plain) (ho' : o'.Plain)
    (h : n ++ o.text = n' ++ o'.text) :
    n = n' ∧ o = o' ∨ (∃ sub, o = .user sub) ∧ GoesOn n n' ∨
      (∃ sub, o' = .user sub) ∧ GoesOn n' n := by
  have hlist := congrArg String.toList h
  rw [goesOn_iff, goesOn_iff]
  -- each kind of owner against each; two of one kind are told apart by their texts, and a user
  -- may end in what looks like any other kind
  cases o with
  | user sub =>
    cases o' with
    | user sub' =>
      simp only [Owner.text, String.toList_append] at hlist
      rcases user_user hlist with ⟨hn, hsub⟩ | hbehind | hbehind
      · exact .inl ⟨String.toList_inj.mp hn, congrArg Owner.user (String.toList_inj.mp hsub)⟩
      · exact .inr (.inl ⟨⟨sub, rfl⟩, hbehind⟩)
      · exact .inr (.inr ⟨⟨sub', rfl⟩, hbehind⟩)
    | address text =>
      simp only [Owner.text, String.toList_append] at hlist
      exact .inr (.inl ⟨⟨sub, rfl⟩, user_ip ho'.1 hlist⟩)
    | everyone =>
      simp only [Owner.text, String.toList_append] at hlist
      exact .inr (.inl ⟨⟨sub, rfl⟩, user_global hlist⟩)
  | address text =>
    cases o' with
    | user sub' =>
      simp only [Owner.text, String.toList_append] at hlist
      exact .inr (.inr ⟨⟨sub', rfl⟩, user_ip ho.1 hlist.symm⟩)
    | address text' =>
      simp only [Owner.text, String.toList_append] at hlist
      obtain ⟨hn, htext⟩ := ip_ip ho.2.2 ho'.2.2 hlist
      exact .inl ⟨String.toList_inj.mp hn, congrArg Owner.address (String.toList_inj.mp htext)⟩
    | everyone =>
      simp only [Owner.text, String.toList_append] at hlist
      exact absurd hlist (ip_global ho.2.1)
  | everyone =>
    cases o' with
    | user sub' =>
      simp only [Owner.text, String.toList_append] at hlist
      exact .inr (.inr ⟨⟨sub', rfl⟩, user_global hlist.symm⟩)
    | address text' =>
      simp only [Owner.text, String.toList_append] at hlist
      exact absurd hlist.symm (ip_global ho'.2.1)
    | everyone =>
      simp only [Owner.text, String.toList_append] at hlist
      exact .inl ⟨String.toList_inj.mp (List.append_cancel_right hlist), rfl⟩

/-- Whom the key of an entry names: nobody, if the limit is not per user, or else the user, or what
stands for requests without one. -/
def owner (route : RouteRateLimitConfig) (claims : Option Claims) (anonymous : Owner) : Owner :=
  if route.perUser then
    match claims with
    | some claims => .user claims.sub
    | none => anonymous
  else .everyone

section OwnerOf

variable {route route' : RouteRateLimitConfig} {claims claims' : Option Claims}
  {anonymous anonymous' : Owner}

theorem owner_plain (route : RouteRateLimitConfig) (claims : Option Claims)
    (h : anonymous.Plain) : (owner route claims anonymous).Plain := by
  unfold owner
  split_ifs
  · cases claims with
    | some claims => exact trivial
    | none => exact h
  · exact trivial

/-- Only an entry that limits per user has a key that names one. -/
theorem perUser_of_owner {sub : String} (h : owner route claims anonymous = .user sub) :
    route.perUser = true := by
  unfold owner at h
  split_ifs at h with hper
  exact hper

/-- Whom a key of a per-user entry names tells the subject, and what stands for none. -/
theorem owner_inj (hper : route.perUser = true) (hanon : ∀ sub, anonymous ≠ .user sub)
    (hanon' : ∀ sub, anonymous' ≠ .user sub)
    (h : owner route claims anonymous = owner route claims' anonymous') :
    claims.map Claims.sub = claims'.map Claims.sub ∧ (claims = none → anonymous = anonymous') := by
  unfold owner at h
  rw [hper, if_pos rfl, if_pos rfl] at h
  cases claims with
  | some claims =>
    cases claims' with
    | some claims' =>
      rw [Owner.user.injEq] at h
      refine ⟨congrArg some h, fun hnone => ?_⟩
      cases hnone
    | none => exact absurd h.symm (hanon' _)
  | none =>
    cases claims' with
    | some claims' => exact absurd h (hanon _)
    | none => exact ⟨rfl, fun _ => h⟩

/-- Entries under which the same is named are both per user, or both not. -/
theorem perUser_eq_of_owner_eq (hanon : anonymous ≠ .everyone) (hanon' : anonymous' ≠ .everyone)
    (h : owner route claims anonymous = owner route' claims' anonymous') :
    route.perUser = route'.perUser := by
  unfold owner at h
  cases hper : route.perUser <;> cases hper' : route'.perUser <;> cases claims <;>
    cases claims' <;> simp_all

end OwnerOf

/-- Claims with a subject and nothing else. -/
def Claims.ofSub (sub : String) : Claims where
  sub := sub
  email := none
  username := none
  roles := []
  perms := []
  exp := 0
  iat := none
  jti := none
  iss := none
  aud := none
  custom := OrderedMap.empty

section Independence

variable {Ip : Type} {X : RegexExterns} {A : AddrExterns Ip} {config : RateLimits}

/-- Where no path goes on behind another, the keys of two entries tell the path and whom they
name. -/
theorem NoneGoesOn.owner_split (h : NoneGoesOn X config) {r r' : RateRequest Ip} {e e' : RouteEntry}
    {a a' : Owner} (he : r.entry X config = some e) (he' : r'.entry X config = some e')
    (hkey : normalizePath X r.path ++ (owner e.config r.claims a).text
      = normalizePath X r'.path ++ (owner e'.config r'.claims a').text)
    (ha : a.Plain) (ha' : a'.Plain) :
    normalizePath X r.path = normalizePath X r'.path ∧
      owner e.config r.claims a = owner e'.config r'.claims a' := by
  rcases ActonService.owner_split (owner_plain _ _ ha) (owner_plain _ _ ha') hkey with
    hsame | ⟨⟨sub, ho⟩, hon⟩ | ⟨⟨sub, ho'⟩, hon⟩
  · exact hsame
  · exact absurd hon (h _ _ _ _ e e' he (perUser_of_owner ho) he')
  · exact absurd hon (h _ _ _ _ e' e he' (perUser_of_owner ho') he)

/-- The key of claims tells the subject: those of one key have one. -/
theorem RateLimits.claimsKey_inj {limiter : String} {claims claims' : Claims}
    (h : (config.claimsKey limiter claims).1 = (config.claimsKey limiter claims').1) :
    claims.sub = claims'.sub := by
  have hlist := congrArg String.toList h
  unfold RateLimits.claimsKey at hlist
  split_ifs at hlist
  all_goals simp at hlist
  all_goals exact String.toList_inj.mp hlist

/-! ### Independent counters in Redis -/

namespace RateLimit

theorem routeKey_eq (route : RouteRateLimitConfig) (n : String) (claims : Option Claims) :
    routeKey route n claims = "route:" ++ (n ++ (owner route claims .everyone).text) := by
  unfold routeKey owner
  cases route.perUser <;> cases claims <;> simp [Owner.text, String.append_assoc]

/-- No key of an entry is one of claims. -/
theorem route_ne_claimsKey (text : String) (claims : Claims) :
    "route:" ++ text ≠ (claimsKey config claims).1 := by
  intro h
  have hlist := congrArg String.toList h
  unfold claimsKey RateLimits.claimsKey at hlist
  split_ifs at hlist
  all_goals simp at hlist

theorem counter_some {r : RateRequest Ip} {e : RouteEntry} (h : r.entry X config = some e) :
    counter X config r = some (routeKey e.config (normalizePath X r.path) r.claims,
      e.config.requestsPerMinute) := by
  rw [counter, h]

theorem counter_none {r : RateRequest Ip} (h : r.entry X config = none) :
    counter X config r = r.claims.map (claimsKey config) := by
  rw [counter, h]

/-- **Separate entries have counters of their own**: requests of one counter have one entry, and one
user where this matters. -/
theorem Separate.independent (h : Separate X config) : @Independent Ip X config := by
  intro r r' counted counted' hcounted hcounted' hkey
  cases he : r.entry X config with
  | some e =>
    rw [counter_some he, Option.some.injEq] at hcounted
    cases he' : r'.entry X config with
    | some e' =>
      rw [counter_some he', Option.some.injEq] at hcounted'
      rw [← hcounted, ← hcounted', routeKey_eq, routeKey_eq, String.append_right_inj] at hkey
      obtain ⟨hpath, howner⟩ := h.path.owner_split he he' hkey trivial trivial
      have hsame : e = e' := by
        refine h.method r.method r'.method r.path e e' he ?_
        rw [RateLimits.entryFor, hpath]
        exact he'
      subst hsame
      exact ⟨rfl, fun hper => (owner_inj hper (by simp) (by simp) howner).1⟩
    | none =>
      rw [counter_none he'] at hcounted'
      obtain ⟨claims, hclaims, heq⟩ := Option.map_eq_some_iff.mp hcounted'
      rw [← hcounted, ← heq, routeKey_eq] at hkey
      exact absurd hkey (route_ne_claimsKey _ _)
  | none =>
    rw [counter_none he] at hcounted
    obtain ⟨claims, hclaims, heq⟩ := Option.map_eq_some_iff.mp hcounted
    cases he' : r'.entry X config with
    | some e' =>
      rw [counter_some he', Option.some.injEq] at hcounted'
      rw [← hcounted', ← heq, routeKey_eq] at hkey
      exact absurd hkey.symm (route_ne_claimsKey _ _)
    | none =>
      rw [counter_none he'] at hcounted'
      obtain ⟨claims', hclaims', heq'⟩ := Option.map_eq_some_iff.mp hcounted'
      rw [← heq, ← heq'] at hkey
      refine ⟨rfl, fun _ => ?_⟩
      rw [RateRequest.user, RateRequest.user, hclaims, hclaims', Option.map_some, Option.map_some,
        RateLimits.claimsKey_inj hkey]

/-- Requests that one counter counts have the same route entry and, where this counts by users, the
same user. -/
theorem Independent.agree (h : @Independent Ip X config) (r r' : RateRequest Ip) {e e' : RouteEntry}
    (he : r.entry X config = some e) (he' : r'.entry X config = some e')
    (hkey : routeKey e.config (normalizePath X r.path) r.claims
      = routeKey e'.config (normalizePath X r'.path) r'.claims) :
    e = e' ∧ (e.config.perUser = true → r.user = r'.user) := by
  have hsame := h r r' _ _ (counter_some he) (counter_some he') hkey
  rw [he, he', Option.some.injEq] at hsame
  exact hsame

/-- **Counters of their own take separate entries**: if two of them are not, two requests of theirs
share a counter. -/
theorem Independent.separate (h : @Independent Ip X config) : Separate X config where
  method := by
    intro method method' path e e' he he'
    refine (h.agree ⟨method, path, none, none⟩ ⟨method', path, none, none⟩ he he' ?_).1
    unfold routeKey
    cases e.config.perUser <;> cases e'.config.perUser <;> rfl
  path := by
    intro method method' path path' e e' he hper he' hon
    obtain ⟨sub, hsub⟩ := hon.exists_sub (owner e'.config none .everyone)
    have hagree := h.agree ⟨method, path, some (Claims.ofSub sub), none⟩
      ⟨method', path', none, none⟩ he he' (by
        rw [routeKey_eq, routeKey_eq, ← hsub, owner, if_pos hper]
        rfl)
    cases hagree.2 hper

theorem independent_iff : @Independent Ip X config ↔ Separate X config :=
  ⟨Independent.separate, Separate.independent⟩

end RateLimit

/-! ### Independent limiters -/

/-- **The texts of addresses** hold digits, letters up to `f`, dots and colons, and can be read
back. -/
structure AddrExterns.Numeric (A : AddrExterns Ip) : Prop where
  parse_display : ∀ ip, A.parse (A.display ip) = some ip
  display : ∀ ip, ∀ c ∈ (A.display ip).toList, c ∈ "0123456789abcdef.:".toList

theorem AddrExterns.Numeric.display_inj (h : A.Numeric) {ip ip' : Ip}
    (heq : A.display ip = A.display ip') : ip = ip' := by
  have hparse := h.parse_display ip
  rw [heq, h.parse_display, Option.some.injEq] at hparse
  exact hparse.symm

/-- The text of an address holds none of the other letters. -/
theorem AddrExterns.Numeric.notMem (h : A.Numeric) (ip : Ip) {c : Char}
    (hc : c ∉ "0123456789abcdef.:".toList) : c ∉ (A.display ip).toList :=
  fun hmem => hc (h.display ip c hmem)

theorem AddrExterns.Numeric.ne_unknown (h : A.Numeric) (ip : Ip) : A.display ip ≠ "unknown" := by
  intro heq
  have hnot := h.notMem (c := 'u') ip (by decide)
  rw [heq] at hnot
  exact hnot (by decide)

namespace GovernorRateLimit

/-- How an address is written in a key. -/
def addressText (A : AddrExterns Ip) : Option Ip → String
  | some ip => A.display ip
  | none => "unknown"

theorem addressText_inj (hA : A.Numeric) {ip ip' : Option Ip}
    (h : addressText A ip = addressText A ip') : ip = ip' := by
  cases ip with
  | none =>
    cases ip' with
    | none => rfl
    | some ip' => exact absurd h.symm (hA.ne_unknown ip')
  | some ip =>
    cases ip' with
    | none => exact absurd h (hA.ne_unknown ip)
    | some ip' => rw [hA.display_inj h]

theorem addressText_plain (hA : A.Numeric) (ip : Option Ip) :
    (Owner.address (addressText A ip)).Plain := by
  cases ip with
  | some ip => exact ⟨hA.notMem ip (by decide), hA.notMem ip (by decide), hA.notMem ip (by decide)⟩
  | none =>
    rw [addressText]
    exact ⟨by decide, by decide, by decide⟩

theorem routeKey_eq (route : RouteRateLimitConfig) (n : String) (claims : Option Claims)
    (ip : Option Ip) :
    routeKey A route n claims ip
      = "route:" ++ (n ++ (owner route claims (.address (addressText A ip))).text) := by
  unfold routeKey owner
  cases route.perUser <;> cases claims <;> cases ip <;>
    simp [Owner.text, addressText, String.append_assoc]

theorem identity_of_owner_eq (hA : A.Numeric) {route : RouteRateLimitConfig} {r r' : RateRequest Ip}
    (hper : route.perUser = true)
    (h : owner route r.claims (.address (addressText A r.clientIp))
      = owner route r'.claims (.address (addressText A r'.clientIp))) :
    r.identity = r'.identity := by
  obtain ⟨huser, haddress⟩ := owner_inj hper (by simp) (by simp) h
  rw [RateRequest.identity, RateRequest.identity]
  cases hc : r.claims with
  | some claims =>
    rw [hc, Option.map_some] at huser
    obtain ⟨claims', hc', hsub⟩ := Option.map_eq_some_iff.mp huser.symm
    rw [hc']
    exact congrArg Identity.subject hsub.symm
  | none =>
    rw [hc, Option.map_none] at huser
    rw [Option.map_eq_none_iff.mp huser.symm]
    exact congrArg Identity.address (addressText_inj hA (Owner.address.inj (haddress hc)))

/-- The key of a request without an entry. -/
def globalKey (A : AddrExterns Ip) (config : RateLimits) (r : RateRequest Ip) : String :=
  match r.claims with
  | some claims => (claimsKey config claims).1
  | none => addressKey A r.clientIp

theorem addressKey_eq (ip : Option Ip) : addressKey A ip = "governor:ip:" ++ addressText A ip := by
  cases ip <;> rfl

theorem claimsKey_ne_addressKey (claims : Claims) (ip : Option Ip) :
    (claimsKey config claims).1 ≠ addressKey A ip := by
  intro h
  rw [addressKey_eq] at h
  have hlist := congrArg String.toList h
  unfold claimsKey RateLimits.claimsKey at hlist
  split_ifs at hlist
  all_goals simp at hlist

theorem identity_of_globalKey_eq (hA : A.Numeric) {r r' : RateRequest Ip}
    (h : globalKey A config r = globalKey A config r') : r.identity = r'.identity := by
  rw [RateRequest.identity, RateRequest.identity]
  unfold globalKey at h
  cases hc : r.claims with
  | some claims =>
    cases hc' : r'.claims with
    | some claims' =>
      simp only [hc, hc'] at h
      exact congrArg Identity.subject (RateLimits.claimsKey_inj h)
    | none =>
      simp only [hc, hc'] at h
      exact absurd h (claimsKey_ne_addressKey _ _)
  | none =>
    cases hc' : r'.claims with
    | some claims' =>
      simp only [hc, hc'] at h
      exact absurd h.symm (claimsKey_ne_addressKey _ _)
    | none =>
      simp only [hc, hc', addressKey_eq, String.append_right_inj] at h
      rw [addressText_inj hA h]

theorem limiterFor_some {r : RateRequest Ip} {e : RouteEntry} (h : r.entry X config = some e) :
    limiterFor X A config r = ⟨.route,
      routeKey A e.config (normalizePath X r.path) r.claims r.clientIp,
      e.config.requestsPerMinute.toNat, e.config.burstSize.toNat⟩ := by
  rw [limiterFor, h]

theorem limiterFor_none {r : RateRequest Ip} (h : r.entry X config = none) :
    (limiterFor X A config r).map = .global ∧
      (limiterFor X A config r).key = globalKey A config r := by
  rw [limiterFor, h, globalKey]
  cases r.claims <;> exact ⟨rfl, rfl⟩

/-- **Separate entries have limiters of their own**: requests of one limiter have one entry, and one
identity where this matters. -/
theorem Separate.independent (hA : A.Numeric) (h : Separate X config) : Independent X A config := by
  intro r r' hmap hkey
  cases he : r.entry X config with
  | some e =>
    cases he' : r'.entry X config with
    | some e' =>
      rw [limiterFor_some he, limiterFor_some he', routeKey_eq, routeKey_eq,
        String.append_right_inj] at hkey
      obtain ⟨hpath, howner⟩ := h.path.owner_split he he' hkey (addressText_plain hA _)
        (addressText_plain hA _)
      have hsame : e = e' := by
        refine h.method r.method r'.method r.path e e' he ?_ 
          (perUser_eq_of_owner_eq (by simp) (by simp) howner)
        rw [RateLimits.entryFor, hpath]
        exact he'
      subst hsame
      exact ⟨rfl, fun hper => identity_of_owner_eq hA hper howner⟩
    | none =>
      rw [limiterFor_some he, (limiterFor_none he').1] at hmap
      cases hmap
  | none =>
    cases he' : r'.entry X config with
    | some e' =>
      rw [(limiterFor_none he).1, limiterFor_some he'] at hmap
      cases hmap
    | none =>
      rw [(limiterFor_none he).2, (limiterFor_none he').2] at hkey
      exact ⟨rfl, fun _ => identity_of_globalKey_eq hA hkey⟩

/-- Requests that one limiter counts have the same route entry and, where this counts by users, the
same identity. -/
theorem Independent.agree (h : Independent X A config) (r r' : RateRequest Ip) {e e' : RouteEntry}
    (he : r.entry X config = some e) (he' : r'.entry X config = some e')
    (hkey : routeKey A e.config (normalizePath X r.path) r.claims r.clientIp
      = routeKey A e'.config (normalizePath X r'.path) r'.claims r'.clientIp) :
    e = e' ∧ (e.config.perUser = true → r.identity = r'.identity) := by
  have hsame := h r r' (by rw [limiterFor_some he, limiterFor_some he'])
    (by rw [limiterFor_some he, limiterFor_some he', hkey])
  rw [he, he', Option.some.injEq] at hsame
  exact hsame

/-- **Limiters of their own take separate entries**: if two of them are not, two requests of theirs
share a limiter. -/
theorem Independent.separate (h : Independent X A config) : Separate X config where
  method := by
    intro method method' path e e' he he' hper
    refine (h.agree ⟨method, path, none, none⟩ ⟨method', path, none, none⟩ he he' ?_).1
    unfold routeKey
    rw [hper]
  path := by
    intro method method' path path' e e' he hper he' hon
    obtain ⟨sub, hsub⟩ := hon.exists_sub (owner e'.config none (.address (addressText A none)))
    have hagree := h.agree ⟨method, path, some (Claims.ofSub sub), none⟩
      ⟨method', path', none, none⟩ he he' (by
        rw [routeKey_eq, routeKey_eq, ← hsub, owner, if_pos hper]
        rfl)
    cases hagree.2 hper

theorem independent_iff (hA : A.Numeric) : Independent X A config ↔ Separate X config :=
  ⟨Independent.separate, Separate.independent hA⟩

end GovernorRateLimit

end Independence

/-- **No counter is shared exactly if no path has two entries and none goes on behind a per-user one
with `:user`.** -/
theorem independent_iff_separate {Ip : Type} (X : RegexExterns) (A : AddrExterns Ip)
    (config : RateLimits) (hA : A.Numeric) :
    (@RateLimit.Independent Ip X config ↔ RateLimit.Separate X config) ∧
      (GovernorRateLimit.Independent X A config ↔ GovernorRateLimit.Separate X config) :=
  ⟨RateLimit.independent_iff, GovernorRateLimit.independent_iff hA⟩

/-- The loopback addresses. -/
def loopbackAddr : AddrExterns Bool where
  display v6 := if v6 then "::1" else "127.0.0.1"
  parse s := if s = "::1" then some true else if s = "127.0.0.1" then some false else none

/-- Expressions that match nothing. -/
def emptyRegex : RegexExterns where
  isMatch _ _ := false
  replaceAll _ text _ := text

/-- Entries without a limit per user. -/
def sampleRateLimits (patterns : List String) : RateLimits where
  perUserRpm := 200
  perClientRpm := 1000
  windowSecs := 60
  routes := patterns.map fun pattern => ⟨pattern, ⟨100, 10, false⟩⟩

theorem loopbackAddr_numeric : loopbackAddr.Numeric where
  parse_display := by
    intro ip
    cases ip <;> rfl
  display := by
    intro ip c hc
    have hall : (loopbackAddr.display ip).toList.all
        (fun c => "0123456789abcdef.:".toList.contains c) = true := by
      cases ip <;> decide
    exact List.contains_iff_mem.mp (List.all_eq_true.mp hall c hc)

/-- One entry's counters are its own. -/
theorem independent_iff_separate_sample :
    @RateLimit.Independent Bool emptyRegex (sampleRateLimits ["/upload"]) ∧
      GovernorRateLimit.Independent emptyRegex loopbackAddr (sampleRateLimits ["/upload"]) := by
  have hmem : ∀ {method path e}, (sampleRateLimits ["/upload"]).entryFor emptyRegex method path
      = some e → e = ⟨"/upload", ⟨100, 10, false⟩⟩ := fun he =>
    List.mem_singleton.mp (CompiledRoutePatterns.mem_of_matchEntry he)
  have hpath : NoneGoesOn emptyRegex (sampleRateLimits ["/upload"]) := by
    intro method method' path path' e e' he hper _ _
    rw [hmem he] at hper
    cases hper
  have hiff := independent_iff_separate emptyRegex loopbackAddr (sampleRateLimits ["/upload"])
    loopbackAddr_numeric
  refine ⟨hiff.1.mpr ⟨fun _ _ _ e e' he he' => ?_, hpath⟩,
    hiff.2.mpr ⟨fun _ _ _ e e' he he' _ => ?_, hpath⟩⟩
  · rw [hmem he, hmem he']
  · rw [hmem he, hmem he']

/-- **Uploads and listings have one budget**, though they are two entries. -/
theorem not_independent_methods :
    ¬ @RateLimit.Independent Bool emptyRegex (sampleRateLimits ["GET /files", "POST /files"]) ∧
      ¬ GovernorRateLimit.Independent emptyRegex loopbackAddr
        (sampleRateLimits ["GET /files", "POST /files"]) := by
  have hget : (sampleRateLimits ["GET /files", "POST /files"]).entryFor emptyRegex "GET" "/files"
      = some ⟨"GET /files", ⟨100, 10, false⟩⟩ := by decide
  have hpost : (sampleRateLimits ["GET /files", "POST /files"]).entryFor emptyRegex "POST" "/files"
      = some ⟨"POST /files", ⟨100, 10, false⟩⟩ := by decide
  constructor
  · intro h
    have hsame := h.separate.method _ _ _ _ _ hget hpost
    exact absurd hsame (by decide)
  · intro h
    have hsame := h.separate.method _ _ _ _ _ hget hpost rfl
    exact absurd hsame (by decide)

end ActonService
