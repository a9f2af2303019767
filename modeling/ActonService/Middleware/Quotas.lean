import ActonService.Middleware.Limiters

/-!
# The quotas of rate limits

The quota that `create_limiter` of `middleware/governor.rs` makes of requests a minute and a burst,
and the one that `GrpcRateLimitLayer::new` of `grpc/middleware.rs` makes of requests in a period and
a burst.  Both put a whole number of milliseconds between two cells, rounded down.  Where that is
nothing the first panics, and the second takes one.

## Main definitions

* `GovernorExterns.IsGcra` — what is relied on of the crate.
* `LocalRateLimitConfig`, `GrpcRateLimitLayer.new` — the layer of a gRPC server.

## Main results

* `createLimiter_eq_none_iff`, `GrpcRateLimitLayer.exists_new` — which of them panics.
* `quotas_exact_iff` — **which quotas are exact.**
-/

namespace ActonService

open Throttle

/-- The limiters of the crate are those of the generic cell rate algorithm: a cell is replenished
every period, and as many are held as the burst. -/
def GovernorExterns.IsGcra {L : Type} (G : GovernorExterns L) : Prop :=
  ∀ quota : Quota, 0 < quota.maxBurst → 0 < quota.replenish1Per →
    Throttle.IsGcra G.check (G.direct quota) quota.maxBurst quota.replenish1Per

/-- The nanoseconds of a millisecond. -/
def nanosPerMilli : ℕ := 1000000

/-! ### The layer of a gRPC server -/

/-- `LocalRateLimitConfig` -/
structure LocalRateLimitConfig where
  enabled : Bool
  requestsPerPeriod : UInt32
  periodSecs : UInt64
  burstSize : UInt32
  deriving DecidableEq, Repr

/-- The milliseconds of `period`. -/
def LocalRateLimitConfig.periodMillis (config : LocalRateLimitConfig) : ℕ :=
  config.periodSecs.toNat * 1000

/-- `GrpcRateLimitLayer` -/
structure GrpcRateLimitLayer (L : Type) where
  enabled : Bool
  limiter : L

namespace GrpcRateLimitLayer

/-- The milliseconds between two cells; those of the period are cut off at 64 bits. -/
def replenishInterval (config : LocalRateLimitConfig) : ℕ :=
  let requests := max config.requestsPerPeriod.toNat 1
  max (config.periodMillis % 2 ^ 64 / requests) 1

/-- The quota, if it can be made. -/
def quota (config : LocalRateLimitConfig) : Option Quota :=
  (Quota.withPeriod (replenishInterval config * nanosPerMilli)).map fun quota =>
    quota.allowBurst (max config.burstSize.toNat 1)

/-- `new`, if it does not panic. -/
def new {L : Type} (G : GovernorExterns L) (config : LocalRateLimitConfig) :
    Option (GrpcRateLimitLayer L) :=
  (quota config).map fun quota => ⟨config.enabled, G.direct quota⟩

end GrpcRateLimitLayer

/-! ### The limiter of an HTTP server -/

namespace GovernorRateLimit

/-- The quota of `create_limiter`, if it can be made. -/
def quota (requestsPerMinute burstSize : ℕ) : Option Quota :=
  (Quota.withPeriod (replenishIntervalMs requestsPerMinute * nanosPerMilli)).map fun quota =>
    quota.allowBurst (max burstSize 1)

theorem createLimiter_eq {L : Type} (G : GovernorExterns L) (requestsPerMinute burstSize : ℕ) :
    createLimiter G requestsPerMinute burstSize
      = (quota requestsPerMinute burstSize).map G.direct := by
  rw [quota, Option.map_map]
  rfl

end GovernorRateLimit

/-! ### Which quotas are exact -/

section Exact

variable {L : Type} (G : GovernorExterns L)

/-- **The limiter of an HTTP server is made and keeps to its rate.** -/
def GovernorRateLimit.Exact (requestsPerMinute burstSize : UInt32) : Prop :=
  ∃ l, createLimiter G requestsPerMinute.toNat burstSize.toNat = some l ∧
    KeepsTo G.check l burstSize.toNat requestsPerMinute.toNat minute

/-- **The limiter of a gRPC server is made and keeps to its rate**, which is unbounded in a period
of no length. -/
def GrpcRateLimitLayer.Exact (config : LocalRateLimitConfig) : Prop :=
  ∃ layer, new G config = some layer ∧
    (0 < config.periodMillis → KeepsTo G.check layer.limiter config.burstSize.toNat
      config.requestsPerPeriod.toNat (config.periodMillis * nanosPerMilli))

variable {G}

theorem Quota.withPeriod_of_pos {period : ℕ} (h : 0 < period) :
    Quota.withPeriod period = some ⟨1, period⟩ := if_neg h.ne'

/-- The cells of a number of them make the whole up exactly if the number divides it. -/
theorem le_mul_div_iff_dvd {n k : ℕ} (hn : 0 < n) : n ≤ k * (n / max k 1) ↔ k ∣ n := by
  cases k with
  | zero =>
    rw [Nat.zero_mul, Nat.zero_dvd]
    omega
  | succ k =>
    rw [Nat.max_eq_left (Nat.le_add_left 1 k)]
    constructor
    · intro hle
      have hge := Nat.mul_div_le n (k + 1)
      exact ⟨_, Nat.le_antisymm hle hge⟩
    · intro hdvd
      rw [Nat.mul_div_cancel' hdvd]

/-- A rate whose cells are counted in milliseconds. -/
theorem mul_nanosPerMilli_le_iff {n k cell : ℕ} :
    n * nanosPerMilli ≤ k * (cell * nanosPerMilli) ↔ n ≤ k * cell := by
  rw [← Nat.mul_assoc]
  exact Nat.mul_le_mul_right_iff (by decide)

namespace GovernorRateLimit

theorem replenishIntervalMs_pos {requestsPerMinute : ℕ} (h : requestsPerMinute ≤ 60000) :
    0 < replenishIntervalMs requestsPerMinute :=
  Nat.div_pos (Nat.max_le.mpr ⟨h, by decide⟩)
    (Nat.lt_of_lt_of_le Nat.zero_lt_one (Nat.le_max_right _ _))

theorem quota_of_le {requestsPerMinute : ℕ} (h : requestsPerMinute ≤ 60000) (burstSize : ℕ) :
    quota requestsPerMinute burstSize
      = some ⟨max burstSize 1, replenishIntervalMs requestsPerMinute * nanosPerMilli⟩ := by
  have hpos := Nat.mul_pos (replenishIntervalMs_pos h) (show 0 < nanosPerMilli by decide)
  rw [quota, Quota.withPeriod_of_pos hpos]
  rfl

theorem quota_of_lt {requestsPerMinute : ℕ} (h : 60000 < requestsPerMinute) (burstSize : ℕ) :
    quota requestsPerMinute burstSize = none := by
  have hzero : replenishIntervalMs requestsPerMinute = 0 :=
    Nat.div_eq_of_lt (Nat.lt_of_lt_of_le h (Nat.le_max_left _ _))
  rw [quota, hzero]
  rfl

/-- **A limiter cannot be made for more than 60000 requests a minute.** -/
theorem createLimiter_eq_none_iff (requestsPerMinute burstSize : ℕ) :
    createLimiter G requestsPerMinute burstSize = none ↔ 60000 < requestsPerMinute := by
  rw [createLimiter_eq, Option.map_eq_none_iff]
  constructor
  · intro hnone
    by_contra hle
    rw [quota_of_le (Nat.le_of_not_lt hle)] at hnone
    contradiction
  · intro hlt
    exact quota_of_lt hlt burstSize

theorem exact_iff (hG : G.IsGcra) (requestsPerMinute burstSize : UInt32) :
    Exact G requestsPerMinute burstSize
      ↔ 0 < burstSize.toNat ∧ requestsPerMinute.toNat ∣ 60000 := by
  by_cases hle : requestsPerMinute.toNat ≤ 60000
  · have hmake := createLimiter_eq G requestsPerMinute.toNat burstSize.toNat
    have hcell := Nat.mul_pos (replenishIntervalMs_pos hle) (show 0 < nanosPerMilli by decide)
    have hgcra := hG ⟨max burstSize.toNat 1, _⟩
      (Nat.lt_of_lt_of_le Nat.zero_lt_one (Nat.le_max_right _ _)) hcell
    rw [quota_of_le hle] at hmake
    have hkeeps := hgcra.keepsTo_iff hcell requestsPerMinute.toNat
      (show 0 < minute by decide)
    rw [show minute = 60000 * nanosPerMilli from rfl, mul_nanosPerMilli_le_iff,
      replenishIntervalMs, le_mul_div_iff_dvd (by decide)] at hkeeps
    rw [← hkeeps, Exact, hmake]
    simp [minute, nanosPerMilli, replenishIntervalMs]
  · refine iff_of_false ?_ fun h => hle (Nat.le_of_dvd (by decide) h.2)
    rintro ⟨l, hmake, -⟩
    rw [(createLimiter_eq_none_iff _ _).mpr (Nat.lt_of_not_le hle)] at hmake
    contradiction

end GovernorRateLimit

namespace GrpcRateLimitLayer

theorem replenishInterval_pos (config : LocalRateLimitConfig) : 0 < replenishInterval config :=
  Nat.lt_of_lt_of_le Nat.zero_lt_one (Nat.le_max_right _ _)

/-- **The layer of a gRPC server can always be made.** -/
theorem quota_eq (config : LocalRateLimitConfig) :
    quota config
      = some ⟨max config.burstSize.toNat 1, replenishInterval config * nanosPerMilli⟩ := by
  have hpos := Nat.mul_pos (replenishInterval_pos config) (show 0 < nanosPerMilli by decide)
  rw [quota, Quota.withPeriod_of_pos hpos]
  rfl

/-- The cells do not come faster than the requests exactly if the requests divide the milliseconds
of the period, or there are no fewer of them. -/
theorem periodMillis_le_iff {config : LocalRateLimitConfig} (hperiod : 0 < config.periodMillis) :
    config.periodMillis ≤ config.requestsPerPeriod.toNat * replenishInterval config
      ↔ config.periodMillis ≤ config.requestsPerPeriod.toNat ∨
        config.periodMillis < 2 ^ 64 ∧ config.requestsPerPeriod.toNat ∣ config.periodMillis := by
  have hrequests := config.requestsPerPeriod.toNat_lt
  rw [replenishInterval]
  generalize config.periodMillis = period at *
  generalize config.requestsPerPeriod.toNat = requests at *
  by_cases hle : period ≤ requests
  · refine iff_of_true ?_ (.inl hle)
    calc period ≤ requests * 1 := by omega
      _ ≤ requests * max (period % 2 ^ 64 / max requests 1) 1 :=
        Nat.mul_le_mul_left _ (Nat.le_max_right _ _)
  · rw [or_iff_right hle]
    by_cases hfits : period < 2 ^ 64
    · have hcells : 1 ≤ period / max requests 1 := Nat.div_pos (by omega) (by omega)
      rw [Nat.mod_eq_of_lt hfits, Nat.max_eq_left hcells, le_mul_div_iff_dvd hperiod]
      exact (and_iff_right hfits).symm
    · -- what is left of the period is shorter than the period
      refine iff_of_false (fun hcells => ?_) fun h => hfits h.1
      have hmod : period % 2 ^ 64 < 2 ^ 64 := Nat.mod_lt _ (by decide)
      have hdiv : requests * (period % 2 ^ 64 / max requests 1) ≤ period % 2 ^ 64 := by
        calc requests * (period % 2 ^ 64 / max requests 1)
            ≤ max requests 1 * (period % 2 ^ 64 / max requests 1) :=
              Nat.mul_le_mul_right _ (Nat.le_max_left _ _)
          _ ≤ period % 2 ^ 64 := Nat.mul_div_le _ _
      rcases Nat.le_total (period % 2 ^ 64 / max requests 1) 1 with hone | hone
      · rw [Nat.max_eq_right hone] at hcells
        omega
      · rw [Nat.max_eq_left hone] at hcells
        omega

theorem exact_iff (hG : G.IsGcra) (config : LocalRateLimitConfig) :
    Exact G config ↔ config.periodMillis = 0 ∨ 0 < config.burstSize.toNat ∧
      (config.periodMillis ≤ config.requestsPerPeriod.toNat ∨
        config.periodMillis < 2 ^ 64 ∧
          config.requestsPerPeriod.toNat ∣ config.periodMillis) := by
  have hcell := Nat.mul_pos (replenishInterval_pos config) (show 0 < nanosPerMilli by decide)
  have hgcra := hG ⟨max config.burstSize.toNat 1, _⟩
    (Nat.lt_of_lt_of_le Nat.zero_lt_one (Nat.le_max_right _ _)) hcell
  have hnew : new G config = some ⟨config.enabled, G.direct
      ⟨max config.burstSize.toNat 1, replenishInterval config * nanosPerMilli⟩⟩ := by
    rw [new, quota_eq]
    rfl
  rw [Exact, hnew]
  simp only [Option.some.injEq, exists_eq_left']
  rcases Nat.eq_zero_or_pos config.periodMillis with hzero | hpos
  · simp [hzero]
  · have hkeeps := hgcra.keepsTo_iff hcell config.requestsPerPeriod.toNat
      (Nat.mul_pos hpos (show 0 < nanosPerMilli by decide))
    rw [mul_nanosPerMilli_le_iff, periodMillis_le_iff hpos] at hkeeps
    rw [← hkeeps]
    simp [hpos, hpos.ne']

end GrpcRateLimitLayer

/-- The same requests a minute and the same burst, for a gRPC server. -/
def perMinute (enabled : Bool) (requestsPerMinute burstSize : UInt32) : LocalRateLimitConfig :=
  ⟨enabled, requestsPerMinute, 60, burstSize⟩

/-- The two quotas are the same exactly if the first can be made. -/
theorem quota_eq_iff (enabled : Bool) (requestsPerMinute burstSize : UInt32) :
    GovernorRateLimit.quota requestsPerMinute.toNat burstSize.toNat
        = GrpcRateLimitLayer.quota (perMinute enabled requestsPerMinute burstSize)
      ↔ requestsPerMinute.toNat ≤ 60000 := by
  rw [GrpcRateLimitLayer.quota_eq]
  by_cases hle : requestsPerMinute.toNat ≤ 60000
  · rw [GovernorRateLimit.quota_of_le hle]
    refine iff_of_true ?_ hle
    have hinterval : GrpcRateLimitLayer.replenishInterval
        (perMinute enabled requestsPerMinute burstSize)
          = GovernorRateLimit.replenishIntervalMs requestsPerMinute.toNat := by
      have hmillis : (perMinute enabled requestsPerMinute burstSize).periodMillis % 2 ^ 64
          = 60000 := by
        change (60 : UInt64).toNat * 1000 % 2 ^ 64 = 60000
        decide
      rw [GrpcRateLimitLayer.replenishInterval, hmillis]
      exact Nat.max_eq_left (GovernorRateLimit.replenishIntervalMs_pos hle)
    rw [hinterval]
    rfl
  · rw [GovernorRateLimit.quota_of_lt (Nat.lt_of_not_le hle)]
    exact iff_of_false (by simp) hle

/-- **Which quotas are exact**: those of a burst and of a rate whose cells are whole milliseconds,
and on a gRPC server also those of rates beyond one request a millisecond.  There the two servers
agree only while the first has a quota at all. -/
theorem quotas_exact_iff (hG : G.IsGcra) :
    (∀ requestsPerMinute burstSize : UInt32,
        GovernorRateLimit.Exact G requestsPerMinute burstSize
          ↔ 0 < burstSize.toNat ∧ requestsPerMinute.toNat ∣ 60000) ∧
      (∀ config : LocalRateLimitConfig, GrpcRateLimitLayer.Exact G config ↔
        config.periodMillis = 0 ∨ 0 < config.burstSize.toNat ∧
          (config.periodMillis ≤ config.requestsPerPeriod.toNat ∨
            config.periodMillis < 2 ^ 64 ∧
              config.requestsPerPeriod.toNat ∣ config.periodMillis)) ∧
      ∀ (enabled : Bool) (requestsPerMinute burstSize : UInt32),
        GovernorRateLimit.quota requestsPerMinute.toNat burstSize.toNat
            = GrpcRateLimitLayer.quota (perMinute enabled requestsPerMinute burstSize)
          ↔ requestsPerMinute.toNat ≤ 60000 :=
  ⟨GovernorRateLimit.exact_iff hG, GrpcRateLimitLayer.exact_iff hG, quota_eq_iff⟩

end Exact

/-- The crate, with nothing but the algorithm. -/
def sampleGovernor : GovernorExterns Gcra where
  direct quota := Gcra.new quota.maxBurst quota.replenish1Per
  check := Gcra.check

theorem sampleGovernor_isGcra : sampleGovernor.IsGcra := by
  intro quota _ _ moments _
  rfl

/-- One request a second, with a burst of ten. -/
theorem quotas_exact_iff_sample : GovernorRateLimit.Exact sampleGovernor 60 10 :=
  ((quotas_exact_iff sampleGovernor_isGcra).1 60 10).mpr ⟨by decide, by decide⟩

/-- No limiter is made for 70000 requests a minute, and that for seven lets more than seven
through in the long run. -/
theorem not_forall_exact :
    GovernorRateLimit.createLimiter sampleGovernor 70000 10 = none ∧
      ¬ GovernorRateLimit.Exact sampleGovernor 7 10 := by
  constructor
  · exact (GovernorRateLimit.createLimiter_eq_none_iff _ _).mpr (by decide)
  · rw [GovernorRateLimit.exact_iff sampleGovernor_isGcra]
    decide

end ActonService
