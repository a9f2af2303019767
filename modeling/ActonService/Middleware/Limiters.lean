import ActonService.Lib.Throttle
import ActonService.Middleware.RateLimitKeys

/-!
# Limiters in memory

`check_with_limiter` and `create_limiter` of `middleware/governor.rs`.  A limiter is made when its
key is first seen, with the requests a minute and the burst that the request of the time has, and
the cells come a whole number of milliseconds apart.  The limiters themselves are those of the
`governor` crate, a parameter.

## Main definitions

* `Quota`, `GovernorExterns`, `GovernorExterns.Enforces` — the crate, and what is relied on.
* `GovernorRateLimit.createLimiter`, `GovernorRateLimit.checkRateLimit` — the functions.
* `GovernorRateLimit.admitted` — the requests of a sequence that are let through.
* `OneLimiter`, `QuotaFits` — what a cap for a route takes.

## Main results

* `checkRateLimit_eq` — the limiters are a table that is filled as keys are seen.
* `countP_admitted_le` — **the requests of an entry that are let through in a minute are at most its
  limit and its burst**, if all of them come under one limiter.
-/

namespace ActonService

open Throttle

/-! ### The crate -/

/-- `Quota`, with its period in nanoseconds. -/
structure Quota where
  maxBurst : ℕ
  replenish1Per : ℕ
  deriving DecidableEq, Repr

/-- `Quota::with_period` -/
def Quota.withPeriod (replenish1Per : ℕ) : Option Quota :=
  if replenish1Per = 0 then none else some ⟨1, replenish1Per⟩

/-- `Quota::allow_burst` -/
def Quota.allowBurst (quota : Quota) (maxBurst : ℕ) : Quota := { quota with maxBurst }

/-- The functions of the `governor` crate. -/
structure GovernorExterns (L : Type) where
  /-- `RateLimiter::direct` -/
  direct : Quota → L
  /-- `RateLimiter::check`, with what the clock says. -/
  check : L → ℕ → L × Bool

/-- **Every limiter enforces its quota**: in no interval does it let more through than the burst and
what is replenished meanwhile. -/
def GovernorExterns.Enforces {L : Type} (G : GovernorExterns L) : Prop :=
  ∀ quota : Quota, 0 < quota.maxBurst → 0 < quota.replenish1Per →
    Throttle.Enforces G.check (G.direct quota) quota.maxBurst quota.replenish1Per

/-! ### Checking -/

namespace GovernorRateLimit

variable {Ip L : Type} (X : RegexExterns) (A : AddrExterns Ip) (G : GovernorExterns L)
  (config : RateLimits)

/-- The maps, by the map and the key. -/
abbrev Limiters (L : Type) := LimiterMap × String → Option L

/-- The milliseconds between two cells. -/
def replenishIntervalMs (requestsPerMinute : ℕ) : ℕ := 60000 / max requestsPerMinute 1

/-- `create_limiter`, if it does not panic. -/
def createLimiter (requestsPerMinute burstSize : ℕ) : Option L :=
  (Quota.withPeriod (replenishIntervalMs requestsPerMinute * 1000000)).map fun quota =>
    G.direct (quota.allowBurst (max burstSize 1))

/-- `check_with_limiter` -/
def checkWithLimiter (limiters : Limiters L) (l : LimiterFor) (now : ℕ) :
    Limiters L × RateLimitVerdict :=
  match (limiters (l.map, l.key)).or (createLimiter G l.requestsPerMinute l.burstSize) with
  | none => (limiters, .panicked)
  | some limiter =>
    let checked := G.check limiter now
    (Function.update limiters (l.map, l.key) (some checked.1),
      if checked.2 then .admitted else .refused .rateLimitExceeded)

/-- `check_rate_limit` -/
def checkRateLimit (limiters : Limiters L) (r : RateRequest Ip) (now : ℕ) :
    Limiters L × RateLimitVerdict :=
  checkWithLimiter G limiters (limiterFor X A config r) now

/-- The requests that are let through, of some that come one after the other. -/
def admitted : Limiters L → List (RateRequest Ip × ℕ) → List (RateRequest Ip × ℕ)
  | _, [] => []
  | limiters, a :: later =>
    let checked := checkRateLimit X A G config limiters a.1 a.2
    if checked.2 = .admitted then a :: admitted checked.1 later else admitted checked.1 later

/-! ### The limiters as a table -/

/-- How requests are throttled: each by the limiter that stands under its key, which is made for the
first of them. -/
def table : Table (RateRequest Ip) (LimiterMap × String) L where
  key r := ((limiterFor X A config r).map, (limiterFor X A config r).key)
  make r := createLimiter G (limiterFor X A config r).requestsPerMinute
    (limiterFor X A config r).burstSize
  check := G.check

/-- The verdict on a request whose check was let through or not. -/
def verdictOf : Option Bool → RateLimitVerdict
  | none => .panicked
  | some true => .admitted
  | some false => .refused .rateLimitExceeded

variable {X A G config}

theorem table_key (r : RateRequest Ip) :
    (table X A G config).key r = ((limiterFor X A config r).map, (limiterFor X A config r).key) :=
  rfl

theorem table_make (r : RateRequest Ip) :
    (table X A G config).make r = createLimiter G (limiterFor X A config r).requestsPerMinute
      (limiterFor X A config r).burstSize := rfl

theorem verdictOf_eq_admitted_iff {passed : Option Bool} :
    verdictOf passed = .admitted ↔ passed = some true := by
  rcases passed with _ | _ | _ <;> simp [verdictOf]

/-- **The limiters are a table** that is filled as keys are seen. -/
theorem checkRateLimit_eq (limiters : Limiters L) (r : RateRequest Ip) (now : ℕ) :
    checkRateLimit X A G config limiters r now
      = (((table X A G config).serve limiters r now).1,
        verdictOf ((table X A G config).serve limiters r now).2) := by
  simp only [checkRateLimit, checkWithLimiter, Table.serve, table]
  cases (limiters ((limiterFor X A config r).map, (limiterFor X A config r).key)).or
      (createLimiter G (limiterFor X A config r).requestsPerMinute
        (limiterFor X A config r).burstSize) with
  | none => rfl
  | some l =>
    dsimp only
    cases (G.check l now).2 <;> rfl

theorem admitted_eq (limiters : Limiters L) (requests : List (RateRequest Ip × ℕ)) :
    admitted X A G config limiters requests
      = (table X A G config).admitted limiters requests := by
  induction requests generalizing limiters with
  | nil => rfl
  | cons a later ih =>
    simp only [admitted, Table.admitted, checkRateLimit_eq, verdictOf_eq_admitted_iff, ih]

/-- A limiter that can be made enforces what it is made with. -/
theorem enforces_createLimiter (hG : G.Enforces) {requestsPerMinute burstSize : ℕ} {l : L}
    (h : createLimiter G requestsPerMinute burstSize = some l) :
    Throttle.Enforces G.check l (max burstSize 1)
      (replenishIntervalMs requestsPerMinute * 1000000) := by
  obtain ⟨quota, hquota, heq⟩ := Option.map_eq_some_iff.mp h
  rw [Quota.withPeriod] at hquota
  split_ifs at hquota with hzero
  cases hquota
  rw [← heq]
  exact hG _ (Nat.lt_of_lt_of_le Nat.zero_lt_one (Nat.le_max_right _ _)) (Nat.pos_of_ne_zero hzero)

/-! ### The cap of a route -/

/-- The nanoseconds of a minute. -/
def minute : ℕ := 60000 * 1000000

/-- The limiter of an entry that is not per user, under a path. -/
def routeLimiter (e : RouteEntry) (normalized : String) : LimiterFor :=
  ⟨.route, "route:" ++ normalized ++ ":global", e.config.requestsPerMinute.toNat,
    e.config.burstSize.toNat⟩

/-- **The entry has one limiter**: its requests come under one path, and whatever else comes under
the limiter has the limit and the burst of the entry. -/
structure OneLimiter (X : RegexExterns) (A : AddrExterns Ip) (config : RateLimits) (e : RouteEntry)
    (normalized : String) (r : RateRequest Ip) : Prop where
  path : r.entry X config = some e → normalizePath X r.path = normalized
  quota : (limiterFor X A config r).map = .route →
    (limiterFor X A config r).key = (routeLimiter e normalized).key →
    limiterFor X A config r = routeLimiter e normalized

/-- **The cells of a minute and the burst are no more than is configured**, though they come a whole
number of milliseconds apart and the burst is at least one. -/
def QuotaFits (route : RouteRateLimitConfig) : Prop :=
  60000 / replenishIntervalMs route.requestsPerMinute.toNat + max route.burstSize.toNat 1
    ≤ route.requestsPerMinute.toNat + route.burstSize.toNat

/-- A request of the entry comes under its limiter. -/
theorem OneLimiter.limiterFor_eq {e : RouteEntry} {normalized : String} {r : RateRequest Ip}
    (h : OneLimiter X A config e normalized r) (hper : e.config.perUser = false)
    (he : r.entry X config = some e) :
    limiterFor X A config r = routeLimiter e normalized := by
  rw [limiterFor_some he, h.path he]
  unfold routeKey
  rw [hper]
  rfl

/-- **The requests of an entry that are let through in a minute are at most its limit and its
burst.** -/
theorem countP_admitted_le (hG : G.Enforces) {e : RouteEntry} {normalized : String}
    (hper : e.config.perUser = false) (hfits : QuotaFits e.config)
    {requests : List (RateRequest Ip × ℕ)} (hsorted : (requests.map Prod.snd).Pairwise (· ≤ ·))
    (hone : ∀ a ∈ requests, OneLimiter X A config e normalized a.1) {limiters : Limiters L}
    (hnew : limiters (.route, (routeLimiter e normalized).key) = none) (start : ℕ) :
    (admitted X A G config limiters requests).countP
        (fun a => decide (a.1.entry X config = some e) && inInterval start minute a.2)
      ≤ e.config.requestsPerMinute.toNat + e.config.burstSize.toNat := by
  let key := (LimiterMap.route, (routeLimiter e normalized).key)
  have hmade : ∀ a ∈ requests, (table X A G config).key a.1 = key →
      (table X A G config).make a.1
        = createLimiter G e.config.requestsPerMinute.toNat e.config.burstSize.toNat := by
    intro a ha hkey
    rw [table_key, Prod.mk.injEq] at hkey
    rw [table_make, (hone a ha).quota hkey.1 hkey.2]
    rfl
  have hcount := Table.countP_admitted_le hmade hnew (fun l hl => enforces_createLimiter hG hl)
    hsorted start minute
  rw [minute, Nat.mul_div_mul_right _ _ (by decide), Nat.add_comm] at hcount
  refine Nat.le_trans (Nat.le_trans ?_ hcount) hfits
  rw [admitted_eq]
  refine List.countP_mono_left fun a ha hcounted => ?_
  rw [Bool.and_eq_true, decide_eq_true_eq] at hcounted ⊢
  have hlimiter := (hone a (Table.mem_of_mem_admitted ha)).limiterFor_eq hper hcounted.1
  refine ⟨?_, hcounted.2⟩
  rw [table_key, hlimiter]
  rfl

end GovernorRateLimit

end ActonService
