import ActonService.Lib.Tickets
import ActonService.Middleware.Limiters

/-!
# The cap of a route

An entry that is not per user is one budget for all requests that are matched to it.  Both limiters
keep it under the normalised path of the request, and not under the pattern: an entry with a
wildcard has a budget for each path.  The limiter in memory also takes its quota from whatever
request comes first.

Requests to the limiter in Redis run side by side.  A window is the time that is set from a moment
at which the counter is not there.

## Main definitions

* `RateLimit.middleware` — a request that is passed on if it is not over the limit.
* `RateLimit.InWindow`, `RateLimit.OneCounter` — the steps of a window, and what a cap takes of
  them.

## Main results

* `route_capped` — **if the requests of an entry come under one path, no more of them are let
  through than configured**, by either limiter.
* `RateLimits.path_of_exact` — the requests of an entry without a wildcard do.
-/

namespace ActonService

open Effect Run Throttle

namespace RateLimit

variable {Ip : Type} (X : RegexExterns) (config : RateLimits)

/-! ### The middleware -/

/-- The calls of a request: those of the limiter, and passing it on. -/
abbrev Call (Ip : Type) := Redis.Call String (RateRequest Ip)

/-- A call of the limiter. -/
def limiterCall : Redis.Call String Empty → Call Ip
  | .redis c => .redis c
  | .clock => .clock
  | .notify event => event.elim

/-- The answer of the limiter's own call, out of that of the middleware's. -/
def limiterAnswer : (c : Redis.Call String Empty) → (limiterCall c : Call Ip).Answer → c.Answer
  | .redis _, answer => answer
  | .clock, answer => answer
  | .notify event, _ => event.elim

/-- `middleware`, as far as a request is passed on. -/
def middleware (r : RateRequest Ip) : Prog (Call Ip) Redis.Call.Answer RateLimitError Unit :=
  ((checkRateLimitWithRoute X config r).lift limiterCall limiterAnswer).bind fun _ =>
    .call (.notify r) .ret

/-- Requests side by side, with the requests that were passed on. -/
abbrev Requests (Ip : Type) :=
  Pool (Redis.Server String × List (RateRequest Ip)) (Call Ip) Redis.Call.Answer RateLimitError

/-- One step of one of them. -/
def step : Requests Ip → Action (RateRequest Ip) Redis.Moment → Requests Ip :=
  Pool.step (observed Redis.serve Redis.noteEvent) (middleware X config)

/-- Nothing is running, and nothing was passed on. -/
def idle (start : ℕ) (keys : Redis.Keyspace String) : Requests Ip := Pool.idle (⟨start, keys⟩, [])

/-- The requests of an entry that were passed on. -/
def passedOn (e : RouteEntry) (requests : Requests Ip) : ℕ :=
  requests.state.2.countP fun r => decide (r.entry X config = some e)

/-! ### Windows -/

/-- The step is in the window. -/
def InWindow (start : ℕ) (requests : Requests Ip) : Action (RateRequest Ip) Redis.Moment → Prop
  | .start _ _ => True
  | .step _ moment => requests.state.1.now + moment.elapsed < start + 1000 * config.windowSecs

/-- The counter of an entry that is not per user, under a path. -/
def routeCounter (normalized : String) : String := "route:" ++ normalized ++ ":global"

/-- One more fits 32 bits, in which the limiter reads the counter. -/
def fitsCount : Option (Redis.Entry String) → Bool
  | some ⟨.int c, _⟩ => decide (c < 4294967295)
  | _ => true

/-- **The entry has one counter**: its requests come under one path, and the count fits 32 bits. -/
def OneCounter (e : RouteEntry) (normalized : String) (requests : Requests Ip) :
    Action (RateRequest Ip) Redis.Moment → Prop
  | .start _ r => r.entry X config = some e → normalizePath X r.path = normalized
  | .step _ _ => fitsCount (requests.state.1.keys.entries (routeCounter normalized)) = true

instance decidableInWindow (start : ℕ) (requests : Requests Ip) :
    ∀ a, Decidable (InWindow config start requests a)
  | .start _ _ => .isTrue trivial
  | .step _ _ => inferInstanceAs (Decidable (_ < _))

instance decidableOneCounter (e : RouteEntry) (normalized : String) (requests : Requests Ip) :
    ∀ a, Decidable (OneCounter X config e normalized requests a)
  | .start _ r =>
    inferInstanceAs (Decidable (r.entry X config = some e → normalizePath X r.path = normalized))
  | .step _ _ => inferInstanceAs (Decidable (_ = true))

/-! ### Tickets -/

/-- The counts up to the limit are tickets for requests of the entry. -/
def routeTickets (e : RouteEntry) (normalized : String) : Redis.Tickets (RateRequest Ip) where
  key := routeCounter normalized
  secs := asI64 config.windowSecs
  grants reply := decide (asU32 reply ≤ e.config.requestsPerMinute.toNat)
  spends r := decide (r.entry X config = some e)

variable {X config}

/-- A window that is started is the one of the configuration. -/
theorem pays_startWindow {K : Redis.Tickets (RateRequest Ip)}
    (hsecs : K.secs = asI64 config.windowSecs) {ticket : Bool} (key : String) (count : ℕ)
    {p : Unit → RateLimitProg RateLimitResult}
    {k : RateLimitResult → Prog (Call Ip) Redis.Call.Answer RateLimitError Unit}
    (h : K.Pays ticket (((p ()).lift limiterCall limiterAnswer).bind k)) :
    K.Pays ticket ((((startWindow key count config.windowSecs).bind p).lift limiterCall
      limiterAnswer).bind k) := by
  unfold startWindow
  split_ifs
  · refine ⟨fun _ => hsecs.symm, fun answer => ?_⟩
    rcases answer with e | _
    · trivial
    · exact h
  · exact h

/-- `check_and_increment` gets a ticket if it is one for the counter, and it goes on only with a
count up to its limit. -/
theorem pays_checkAndIncrement {K : Redis.Tickets (RateRequest Ip)}
    (hsecs : K.secs = asI64 config.windowSecs) {key : String} {limit : ℕ}
    {k : RateLimitResult → Prog (Call Ip) Redis.Call.Answer RateLimitError Unit}
    (hk : ∀ reply result, asU32 reply ≤ limit →
      K.Pays (decide (key = K.key) && K.grants reply) (k result)) :
    K.Pays false (((checkAndIncrement key limit config.windowSecs).lift limiterCall
      limiterAnswer).bind k) := by
  refine ⟨trivial, fun answer => ?_⟩
  rcases answer with e | _
  · trivial
  refine ⟨trivial, fun answer => ?_⟩
  rcases answer with e | reply
  · trivial
  -- behind the count: the time to live, and the verdict
  have hverdict : ∀ reset, K.Pays (decide (key = K.key) && K.grants reply)
      (((if limit < asU32 reply then .fail .rateLimitExceeded
        else .ret ⟨limit, asU32 reply, reset⟩ : RateLimitProg RateLimitResult).lift
          limiterCall limiterAnswer).bind k) := by
    intro reset
    split_ifs with hlimit
    · trivial
    · exact hk reply _ (Nat.not_lt.mp hlimit)
  have htail : K.Pays (decide (key = K.key) && K.grants reply)
      (((Redis.askOr (.ttl key) (asI64 config.windowSecs) >>= fun ttl =>
        let resetSecs := if 0 < ttl then ttl.toNat else config.windowSecs
        if limit < asU32 reply then .fail .rateLimitExceeded
        else .ret ⟨limit, asU32 reply, resetSecs⟩ : RateLimitProg RateLimitResult).lift
          limiterCall limiterAnswer).bind k) := by
    refine ⟨trivial, fun answer => ?_⟩
    rcases answer with e | ttl
    · exact hverdict _
    · exact hverdict _
  exact pays_startWindow hsecs key (asU32 reply) htail

/-- **A request of the entry is passed on with a ticket only.** -/
theorem pays_middleware {e : RouteEntry} {normalized : String} (hper : e.config.perUser = false)
    {r : RateRequest Ip}
    (hpath : r.entry X config = some e → normalizePath X r.path = normalized) :
    (routeTickets X config e normalized).Pays false (middleware X config r) := by
  have hnotify : ∀ ticket, (r.entry X config = some e → ticket = true) →
      (routeTickets X config e normalized).Pays ticket
        (.call (.notify r) .ret : Prog (Call Ip) Redis.Call.Answer RateLimitError Unit) :=
    fun ticket hticket => ⟨fun hspends => hticket (of_decide_eq_true hspends), fun _ => trivial⟩
  rw [middleware, checkRateLimitWithRoute]
  cases hentry : r.entry X config with
  | none =>
    rw [counter_none hentry]
    cases r.claims with
    | none =>
      refine hnotify false fun he => ?_
      rw [hentry] at he
      cases he
    | some claims =>
      refine pays_checkAndIncrement rfl fun reply result hle => hnotify _ fun he => ?_
      rw [hentry] at he
      cases he
  | some e' =>
    rw [counter_some hentry]
    refine pays_checkAndIncrement rfl fun reply result hle => hnotify _ fun he => ?_
    rw [hentry, Option.some.injEq] at he
    subst he
    have hkey : routeKey e'.config (normalizePath X r.path) r.claims = routeCounter normalized := by
      unfold routeKey
      rw [hper, hpath hentry]
      rfl
    rw [Bool.and_eq_true, decide_eq_true_eq]
    exact ⟨hkey, decide_eq_true hle⟩

/-! ### The cap -/

/-- A count that fits 32 bits is what the limiter takes it for. -/
theorem le_of_asU32_le {c : ℤ} {limit : ℕ} (hc : c < 4294967295) (h : asU32 (c + 1) ≤ limit) :
    c + 1 ≤ limit := by
  unfold asU32 at h
  omega

/-- **In a window no more requests of an entry are passed on than its limit says.** -/
theorem passedOn_le {e : RouteEntry} {normalized : String} (hper : e.config.perUser = false)
    (hwindow : config.windowSecs < 9223372036854775808) {start : ℕ} {keys : Redis.Keyspace String}
    (hnew : keys.find? start (routeCounter normalized) = none) {requests : Requests Ip}
    (h : Reach (step X config)
      (fun s a => InWindow config start s a ∧ OneCounter X config e normalized s a)
      (idle start keys) requests) :
    passedOn X config e requests ≤ e.config.requestsPerMinute.toNat := by
  let K : Redis.Tickets (RateRequest Ip) := routeTickets X config e normalized
  have hsecs : K.secs = config.windowSecs := asI64_of_lt hwindow
  have hstop : ((start + 1000 * config.windowSecs : ℕ) : ℤ) ≤ start + 1000 * K.secs := by
    rw [hsecs]
    omega
  refine Redis.Tickets.spent_le hnew hstop ?_ ?_ ?_ h
  · exact fun hone => of_decide_eq_true hone
  · rintro s who r ⟨-, hpath⟩
    exact pays_middleware hper hpath
  · rintro s who moment ⟨hnow, hfits⟩
    refine ⟨hnow, fun c expiresAt hentry hgrants => ?_⟩
    have hfits' : fitsCount (s.state.1.keys.entries (routeCounter normalized)) = true := hfits
    rw [show s.state.1.keys.entries (routeCounter normalized) = _ from hentry] at hfits'
    exact le_of_asU32_le (of_decide_eq_true hfits') (of_decide_eq_true hgrants)

end RateLimit

/-- **A route is capped if its requests come under one path**: in a window of the limiter in Redis
no more of them are passed on than its limit says, and in a minute of the limiter in memory no more
than its limit and its burst. -/
theorem route_capped {Ip L : Type} (X : RegexExterns) (A : AddrExterns Ip) (G : GovernorExterns L)
    (config : RateLimits) (e : RouteEntry) (normalized : String) (hper : e.config.perUser = false) :
    (config.windowSecs < 9223372036854775808 → ∀ start keys,
      keys.find? start (RateLimit.routeCounter normalized) = none →
      ∀ requests : RateLimit.Requests Ip,
        Reach (RateLimit.step X config)
          (fun s a => RateLimit.InWindow config start s a ∧
            RateLimit.OneCounter X config e normalized s a)
          (RateLimit.idle start keys) requests →
        RateLimit.passedOn X config e requests ≤ e.config.requestsPerMinute.toNat) ∧
      (G.Enforces → GovernorRateLimit.QuotaFits e.config → ∀ requests : List (RateRequest Ip × ℕ),
        (requests.map Prod.snd).Pairwise (· ≤ ·) →
        (∀ a ∈ requests, GovernorRateLimit.OneLimiter X A config e normalized a.1) → ∀ start,
        (GovernorRateLimit.admitted X A G config (fun _ => none) requests).countP
            (fun a => decide (a.1.entry X config = some e) &&
              inInterval start GovernorRateLimit.minute a.2)
          ≤ e.config.requestsPerMinute.toNat + e.config.burstSize.toNat) := by
  constructor
  · intro hwindow start keys hnew requests h
    exact RateLimit.passedOn_le hper hwindow hnew h
  · intro hG hfits requests hsorted hone start
    exact GovernorRateLimit.countP_admitted_le hG hper hfits hsorted hone rfl start

/-- **An entry without a wildcard comes under one path**, its own, where normalising a path again
changes nothing. -/
theorem RateLimits.path_of_exact {X : RegexExterns} {config : RateLimits} {e : RouteEntry}
    {method path : String} (hmethod : ' ' ∉ method.toList) (hexact : isWildcard e.path = false)
    (hagain : normalizePath X (normalizePath X path) = normalizePath X path)
    (h : config.entryFor X method path = some e) : normalizePath X path = e.path := by
  rw [RateLimits.entryFor] at h
  have hpath := (CompiledRoutePatterns.matchEntry_compile hmethod h).2.exact hexact
  rw [hpath, hagain]

/-- The limiters of the crate, as the algorithm they are said to be. -/
def gcraGovernor : GovernorExterns Gcra where
  direct quota := Gcra.new quota.maxBurst quota.replenish1Per
  check := Gcra.check

theorem gcraGovernor_enforces : gcraGovernor.Enforces :=
  fun _ hburst hperiod => Gcra.enforces hperiod hburst

/-- Expressions that match nothing but the segments behind `/api/`. -/
def segmentRegex : RegexExterns where
  isMatch regex text := decide (regex = "^/api/[^/]+$") &&
    match stripPrefix text "/api/" with
    | some segment => decide (segment ≠ "") && !segment.toList.contains '/'
    | none => false
  replaceAll _ text _ := text

/-- One entry, with this many requests a minute for all and a burst of one. -/
def cappedRateLimits (pattern : String) (requestsPerMinute : UInt32) : RateLimits where
  perUserRpm := 200
  perClientRpm := 1000
  windowSecs := 60
  routes := [⟨pattern, ⟨requestsPerMinute, 1, false⟩⟩]

/-- A request without a user and without an address. -/
def anonymousGet (path : String) : RateRequest Bool := ⟨"GET", path, none, none⟩

/-- A request that is served alone, all of its commands coming through. -/
def aloneRequest (who : ℕ) (path : String) : List (Action (RateRequest Bool) Redis.Moment) :=
  .start who (anonymousGet path) :: List.replicate 5 (.step who ⟨0, .none⟩)

/-- Three reports with a limit of two: Redis refuses the third, and half a minute apart all of them
are within the limit and the burst. -/
theorem route_capped_sample :
    let config := cappedRateLimits "/report" 2
    let e : RouteEntry := ⟨"/report", ⟨2, 1, false⟩⟩
    let run := ((List.range 3).flatMap fun who => aloneRequest who "/report").foldl
      (RateLimit.step segmentRegex config) (RateLimit.idle 0 .empty)
    let requests := [0, 30, 60].map fun secs => (anonymousGet "/report", secs * 1000000000)
    RateLimit.passedOn segmentRegex config e run ≤ 2 ∧
      (GovernorRateLimit.admitted segmentRegex loopbackAddr gcraGovernor config (fun _ => none)
        requests).countP (fun a => decide (a.1.entry segmentRegex config = some e) &&
          inInterval 0 GovernorRateLimit.minute a.2) ≤ 3 := by
  intro config e run requests
  constructor
  · have hallowed : Allowed (RateLimit.step segmentRegex config)
        (fun s a => RateLimit.InWindow config 0 s a ∧
          RateLimit.OneCounter segmentRegex config e "/report" s a)
        (RateLimit.idle 0 .empty)
        ((List.range 3).flatMap fun who => aloneRequest who "/report") := by decide +kernel
    exact (route_capped segmentRegex loopbackAddr gcraGovernor config e "/report" rfl).1 (by decide)
      0 .empty rfl run (Reach.foldl .start hallowed)
  · have hone : GovernorRateLimit.OneLimiter segmentRegex loopbackAddr config e "/report"
        (anonymousGet "/report") := ⟨fun _ => by decide +kernel, fun _ _ => by decide +kernel⟩
    have hfits : GovernorRateLimit.QuotaFits e.config := by
      show _ ≤ _
      decide
    refine (route_capped segmentRegex loopbackAddr gcraGovernor config e "/report" rfl).2
      gcraGovernor_enforces hfits requests (by decide) (fun a ha => ?_) 0
    obtain ⟨secs, -, heq⟩ := List.mem_map.mp ha
    rw [← heq]
    exact hone

/-- **A wildcard entry has a budget for each path**: with a limit of one and a burst of one, two
paths get through to Redis, and three in memory. -/
theorem not_forall_route_capped :
    let config := cappedRateLimits "/api/*" 1
    let e : RouteEntry := ⟨"/api/*", ⟨1, 1, false⟩⟩
    (¬ ∀ requests : RateLimit.Requests Bool,
      Reach (RateLimit.step segmentRegex config) (RateLimit.InWindow config 0)
        (RateLimit.idle 0 .empty) requests →
      RateLimit.passedOn segmentRegex config e requests ≤ e.config.requestsPerMinute.toNat) ∧
    ¬ ∀ requests : List (RateRequest Bool × ℕ), (requests.map Prod.snd).Pairwise (· ≤ ·) →
      ∀ start, (GovernorRateLimit.admitted segmentRegex loopbackAddr gcraGovernor config
          (fun _ => none) requests).countP
        (fun a => decide (a.1.entry segmentRegex config = some e) &&
          inInterval start GovernorRateLimit.minute a.2)
        ≤ e.config.requestsPerMinute.toNat + e.config.burstSize.toNat := by
  intro config e
  constructor
  · intro h
    have hallowed : Allowed (RateLimit.step segmentRegex config) (RateLimit.InWindow config 0)
        (RateLimit.idle 0 .empty) (aloneRequest 0 "/api/a" ++ aloneRequest 0 "/api/b") := by
      decide +kernel
    exact absurd (h _ (Reach.foldl .start hallowed)) (by decide +kernel)
  · intro h
    have hle := h (["/api/a", "/api/b", "/api/c"].map fun path => (anonymousGet path, 0))
      (by decide) 0
    exact absurd hle (by decide +kernel)

end ActonService
