import ActonService.Health.Checks
import ActonService.Lib.OrderedMap

/-!
# Liveness, readiness and gRPC health

The probes of `health.rs` and of `grpc/health.rs`.  `/health` asks the liveness checks; `/ready`
asks every backend that is configured and then the readiness checks; the gRPC health service asks
some of the backends.  A backend that is optional may be down.

The dependencies of a response are a `HashMap`, in which a check takes the place of a backend, or of
another check, of its name.

## Main definitions

* `BackendsConfig`, `BackendProbes` — the backends, and what asking them comes to.
* `readiness`, `health`, `checkDependencies` — the probes.
* `BackendsConfig.down` — the backends that hold the service back.

## Main results

* `readiness_ready_iff` — when a service is ready.
* `get?_dependencies` — what a response says of a name.
* `readinessHandler_iff` — **when `/ready` answers 503**, however the checks are polled.
* `serving_iff` — **when the gRPC service answers `SERVING`**, and how the two differ.
-/

namespace ActonService

open Deadline

/-! ### Backends -/

/-- What the probes read of the section of a backend. -/
structure BackendConfig where
  optional : Bool
  lazyInit : Bool
  deriving DecidableEq, Repr

/-- `GrpcConfig`, as far as `/ready` reads it. -/
structure GrpcConfig where
  enabled : Bool
  healthCheckEnabled : Bool
  reflectionEnabled : Bool
  deriving DecidableEq, Repr

/-- The sections of `Config` that the probes read. -/
structure BackendsConfig where
  service : String
  database : Option BackendConfig
  redis : Option BackendConfig
  nats : Option BackendConfig
  turso : Option BackendConfig
  surrealdb : Option BackendConfig
  clickhouse : Option BackendConfig
  grpc : Option GrpcConfig
  deriving DecidableEq, Repr

/-- `async_nats::connection::State`: connected, or another one with its `Debug` text. -/
inductive NatsState
  | connected
  | other (debug : String)
  deriving DecidableEq, Repr

/-- What asking the backends comes to, where the service has a client of them.  An error is its
text. -/
structure BackendProbes where
  /-- `SELECT 1` -/
  database : Option (Except String Unit)
  /-- A connection of the pool, and `PING`. -/
  redis : Option (Except String (Except String Unit))
  nats : Option NatsState
  /-- A connection, and `SELECT 1`. -/
  turso : Option (Except String (Except String Unit))
  /-- `RETURN true` -/
  surrealdb : Option (Except String Unit)
  /-- `SELECT 1` -/
  clickhouse : Option (Except String Unit)

/-- What a probe of one backend comes to. -/
inductive ProbeOutcome
  | connected
  | failed (message : String)
  /-- There is no client of it. -/
  | absent
  deriving DecidableEq, Repr

/-- A query on a client. -/
def ProbeOutcome.ofQuery (text : String) : Option (Except String Unit) → ProbeOutcome
  | some (.ok _) => .connected
  | some (.error e) => .failed (text ++ ": " ++ e)
  | none => .absent

/-- A query on a connection that has to be made first. -/
def ProbeOutcome.ofConnection (connecting text : String) :
    Option (Except String (Except String Unit)) → ProbeOutcome
  | some (.ok answer) => ofQuery text (some answer)
  | some (.error e) => .failed (connecting ++ ": " ++ e)
  | none => .absent

/-- The state of a client. -/
def ProbeOutcome.ofNats : Option NatsState → ProbeOutcome
  | some .connected => .connected
  | some (.other debug) => .failed ("Connection state: " ++ debug)
  | none => .absent

namespace BackendProbes

variable (probes : BackendProbes)

def databaseOutcome : ProbeOutcome := .ofQuery "Connection failed" probes.database
def redisOutcome : ProbeOutcome :=
  .ofConnection "Connection pool error" "Ping failed" probes.redis
def natsOutcome : ProbeOutcome := .ofNats probes.nats
def tursoOutcome : ProbeOutcome := .ofConnection "Connection error" "Query failed" probes.turso
def surrealdbOutcome : ProbeOutcome := .ofQuery "Query failed" probes.surrealdb
def clickhouseOutcome : ProbeOutcome := .ofQuery "Query failed" probes.clickhouse

end BackendProbes

/-! ### Responses -/

/-- `DependencyStatus` -/
structure DependencyStatus where
  healthy : Bool
  message : Option String
  deriving DecidableEq, Repr

/-- `HealthResponse`, but for the version. -/
structure HealthResponse where
  status : String
  service : String
  deriving DecidableEq, Repr

/-- `ReadinessResponse` -/
structure ReadinessResponse where
  ready : Bool
  service : String
  dependencies : OrderedMap String DependencyStatus

/-- What the probe has found so far. -/
structure ReadinessReport where
  dependencies : OrderedMap String DependencyStatus
  allReady : Bool

/-- The status the readiness response gives of a backend, after what its probe has found. -/
def ProbeOutcome.status (config : BackendConfig) : ProbeOutcome → DependencyStatus
  | .connected => ⟨true, some "Connected"⟩
  | .failed message => ⟨false, some message⟩
  | .absent =>
    ⟨false, some (if config.lazyInit then "Connection initializing (lazy mode)"
      else "Not connected")⟩

namespace ReadinessReport

/-- A dependency is reported; it may hold the service back. -/
def add (report : ReadinessReport) (name : String) (status : DependencyStatus) (holds : Bool) :
    ReadinessReport where
  dependencies := report.dependencies.insert name status
  allReady := if holds then false else report.allReady

/-- A backend is asked, if it is configured. -/
def checkBackend (name : String) (config : Option BackendConfig) (outcome : ProbeOutcome)
    (report : ReadinessReport) : ReadinessReport :=
  match config with
  | none => report
  | some config =>
    report.add name (outcome.status config) (decide (outcome ≠ .connected) && !config.optional)

/-- The status of gRPC, which is always healthy. -/
def checkGrpc (config : Option GrpcConfig) (report : ReadinessReport) : ReadinessReport :=
  match config with
  | none => report
  | some config =>
    let message :=
      if config.enabled then
        "Enabled (health: " ++ toString config.healthCheckEnabled ++ ", reflection: "
          ++ toString config.reflectionEnabled ++ ")"
      else "Disabled"
    report.add "grpc" ⟨true, some message⟩ false

/-- The status the readiness response gives of a check, after its outcome. -/
def checkStatus : CheckOutcome → DependencyStatus
  | .ready => ⟨true, none⟩
  | .readyWithMessage message => ⟨true, some message⟩
  | .degraded message => ⟨false, some message⟩
  | .unready message => ⟨false, some message⟩

/-- The outcome of a check. -/
def addCheck (report : ReadinessReport) (check : String × CheckOutcome) : ReadinessReport :=
  report.add check.1 (checkStatus check.2) check.2.isUnready

end ReadinessReport

section Probes

variable (config : BackendsConfig) (probes : BackendProbes)

/-- The backends of a service, each with its section and what asking it comes to. -/
def BackendsConfig.backends : List (String × Option BackendConfig × ProbeOutcome) :=
  [("database", config.database, probes.databaseOutcome),
   ("redis", config.redis, probes.redisOutcome),
   ("nats", config.nats, probes.natsOutcome),
   ("turso", config.turso, probes.tursoOutcome),
   ("surrealdb", config.surrealdb, probes.surrealdbOutcome),
   ("clickhouse", config.clickhouse, probes.clickhouseOutcome)]

/-- What the backends come to, one after another. -/
def backendReport : ReadinessReport :=
  ((config.backends probes).foldl
    (fun (report : ReadinessReport) b => report.checkBackend b.1 b.2.1 b.2.2)
    (⟨.empty, true⟩ : ReadinessReport)).checkGrpc config.grpc

/-- `readiness`: the status code and the body, given the outcomes of the checks. -/
def readiness (outcomes : List (String × CheckOutcome)) : UInt16 × ReadinessResponse :=
  let report := outcomes.foldl ReadinessReport.addCheck (backendReport config probes)
  (if report.allReady then 200 else 503,
    ⟨report.allReady, config.service, report.dependencies⟩)

/-- `readiness`, with the checks after some polls. -/
def readinessHandler (checks : HealthChecks) (polls : List Poll) :
    Option (UInt16 × ReadinessResponse) :=
  (checks.readinessOutcomes polls).map (readiness config probes)

/-- `health`, with the checks after some polls. -/
def health (checks : HealthChecks) (polls : List Poll) : Option (UInt16 × HealthResponse) :=
  (checks.livenessOk polls).map fun alive =>
    (if alive then 200 else 503, ⟨if alive then "healthy" else "unhealthy", config.service⟩)

/-- A backend is asked by the gRPC service, if it is configured. -/
def dependencyHealthy (config : Option BackendConfig) (outcome : ProbeOutcome) (healthy : Bool) :
    Bool :=
  match config with
  | none => healthy
  | some config => if decide (outcome ≠ .connected) && !config.optional then false else healthy

/-- `check_dependencies` -/
def checkDependencies : Bool :=
  dependencyHealthy config.surrealdb probes.surrealdbOutcome
    (dependencyHealthy config.nats probes.natsOutcome
      (dependencyHealthy config.redis probes.redisOutcome
        (dependencyHealthy config.database probes.databaseOutcome true)))

/-- `ServingStatus` -/
inductive ServingStatus
  | serving
  | notServing
  deriving DecidableEq, Repr

/-- `check` of the gRPC health service, for every name of a service. -/
def grpcHealthCheck (_service : String) : ServingStatus :=
  if checkDependencies config probes then .serving else .notServing

/-- The backend holds the service back. -/
def holdsBack (b : String × Option BackendConfig × ProbeOutcome) : Bool :=
  match b.2.1 with
  | none => false
  | some config => decide (b.2.2 ≠ .connected) && !config.optional

/-- The backends that hold the service back. -/
def BackendsConfig.down : List String :=
  ((config.backends probes).filter holdsBack).map Prod.fst

/-- The names of what is configured. -/
def BackendsConfig.names : List String :=
  ((config.backends probes).filter fun b => b.2.1.isSome).map Prod.fst
    ++ (config.grpc.map fun _ => "grpc").toList

/-! ### What is reported -/

/-- What is reported of one name: its status, and whether it holds the service back. -/
structure ReportItem where
  name : String
  status : DependencyStatus
  holds : Bool

/-- What is reported of a backend, if it is configured. -/
def backendItem (b : String × Option BackendConfig × ProbeOutcome) : Option ReportItem :=
  b.2.1.map fun config => ⟨b.1, b.2.2.status config, holdsBack b⟩

/-- What is reported of gRPC, if it is configured. -/
def grpcItem (config : GrpcConfig) : ReportItem :=
  ⟨"grpc", ⟨true, some (if config.enabled then
    "Enabled (health: " ++ toString config.healthCheckEnabled ++ ", reflection: "
      ++ toString config.reflectionEnabled ++ ")"
    else "Disabled")⟩, false⟩

/-- What is reported of a check: its name, its status, and whether it holds the service back. -/
def checkItem (check : String × CheckOutcome) : ReportItem :=
  ⟨check.1, ReadinessReport.checkStatus check.2, check.2.isUnready⟩

/-- What is reported, in its order. -/
def reportItems (outcomes : List (String × CheckOutcome)) : List ReportItem :=
  (config.backends probes).filterMap backendItem ++ (config.grpc.map grpcItem).toList
    ++ outcomes.map checkItem

/-- An item is reported: it joins the response, and the service is not ready if it holds it back. -/
def ReadinessReport.addItem (report : ReadinessReport) (item : ReportItem) : ReadinessReport :=
  report.add item.name item.status item.holds

end Probes

/-! ### The probes -/

section Results

variable {config : BackendsConfig} {probes : BackendProbes}
  {outcomes : List (String × CheckOutcome)}

theorem foldl_checkBackend (bs : List (String × Option BackendConfig × ProbeOutcome))
    (report : ReadinessReport) :
    bs.foldl (fun (report : ReadinessReport) b => report.checkBackend b.1 b.2.1 b.2.2) report
      = (bs.filterMap backendItem).foldl ReadinessReport.addItem report := by
  induction bs generalizing report with
  | nil => rfl
  | cons b bs ih =>
    obtain ⟨name, _ | section', outcome⟩ := b
    · exact ih report
    · exact ih _

/-- The report is made of its items, one after another. -/
theorem report_eq_foldl : outcomes.foldl ReadinessReport.addCheck (backendReport config probes)
    = (reportItems config probes outcomes).foldl ReadinessReport.addItem ⟨.empty, true⟩ := by
  have hchecks : ∀ report : ReadinessReport, outcomes.foldl ReadinessReport.addCheck report
      = (outcomes.map checkItem).foldl ReadinessReport.addItem report := by
    intro report
    rw [List.foldl_map]
    rfl
  have hgrpc : ∀ report : ReadinessReport, report.checkGrpc config.grpc
      = (config.grpc.map grpcItem).toList.foldl ReadinessReport.addItem report := by
    intro report
    cases config.grpc <;> rfl
  rw [reportItems, List.foldl_append, List.foldl_append, ← hchecks, ← hgrpc, ← foldl_checkBackend]
  rfl

theorem allReady_foldl (items : List ReportItem) (report : ReadinessReport) :
    (items.foldl ReadinessReport.addItem report).allReady
      = (report.allReady && items.all fun item => !item.holds) := by
  induction items generalizing report with
  | nil => simp
  | cons item items ih =>
    rw [List.foldl_cons, ih, List.all_cons, ← Bool.and_assoc]
    congr 1
    rw [ReadinessReport.addItem, ReadinessReport.add]
    cases item.holds <;> simp

/-- The last item of a name is what is reported of it. -/
theorem get?_foldl (items : List ReportItem) (report : ReadinessReport) (name : String) :
    (items.foldl ReadinessReport.addItem report).dependencies.get? name
      = ((items.reverse.find? fun item => item.name == name).map ReportItem.status).or
          (report.dependencies.get? name) := by
  induction items generalizing report with
  | nil => rfl
  | cons item items ih =>
    rw [List.foldl_cons, ih, List.reverse_cons, List.find?_append]
    rcases hfind : items.reverse.find? (fun item => item.name == name) with _ | found
    · rw [hfind, ReadinessReport.addItem, ReadinessReport.add, OrderedMap.get?_insert]
      by_cases h : name = item.name
      · simp [h]
      · have hne : ¬ item.name = name := fun heq => h heq.symm
        simp [h, hne]
    · rw [hfind]
      rfl

/-- What a response says of a name: what was reported of it last. -/
theorem get?_dependencies (name : String) :
    (readiness config probes outcomes).2.dependencies.get? name
      = ((reportItems config probes outcomes).reverse.find? fun item => item.name == name).map
          ReportItem.status := by
  have hdependencies : (readiness config probes outcomes).2.dependencies
      = (outcomes.foldl ReadinessReport.addCheck (backendReport config probes)).dependencies := rfl
  rw [hdependencies, report_eq_foldl, get?_foldl]
  exact Option.or_none

theorem allReady_iff :
    (outcomes.foldl ReadinessReport.addCheck (backendReport config probes)).allReady = true ↔
      ∀ item ∈ reportItems config probes outcomes, item.holds = false := by
  rw [report_eq_foldl, allReady_foldl, Bool.true_and, List.all_eq_true]
  simp

/-- **When a service is ready**: no backend holds it back, and no check answers `Unready`. -/
theorem readiness_ready_iff :
    (readiness config probes outcomes).2.ready = true ↔
      config.down probes = [] ∧ ∀ o ∈ outcomes, o.2.isUnready = false := by
  have hready : (readiness config probes outcomes).2.ready
      = (outcomes.foldl ReadinessReport.addCheck (backendReport config probes)).allReady := rfl
  have hdown : config.down probes = [] ↔
      ∀ item ∈ (config.backends probes).filterMap backendItem, item.holds = false := by
    rw [BackendsConfig.down, List.map_eq_nil_iff, List.filter_eq_nil_iff]
    constructor
    · intro h item hitem
      obtain ⟨b, hb, hsome⟩ := List.mem_filterMap.mp hitem
      obtain ⟨section', -, rfl⟩ := Option.map_eq_some_iff.mp hsome
      exact Bool.eq_false_iff.mpr (h b hb)
    · intro h b hb hholds
      obtain ⟨name, _ | section', outcome⟩ := b
      · cases hholds
      · have := h _ (List.mem_filterMap.mpr ⟨_, hb, rfl⟩)
        rw [hholds] at this
        cases this
  rw [hready, allReady_iff, hdown, reportItems]
  simp only [List.forall_mem_append, List.forall_mem_map, checkItem]
  have hgrpc : ∀ item ∈ (config.grpc.map grpcItem).toList, item.holds = false := by
    intro item hitem
    obtain ⟨grpc, -, rfl⟩ := Option.map_eq_some_iff.mp (Option.mem_toList.mp hitem)
    rfl
  constructor
  · rintro ⟨⟨hbackends, -⟩, hchecks⟩
    exact ⟨hbackends, hchecks⟩
  · rintro ⟨hbackends, hchecks⟩
    exact ⟨⟨hbackends, hgrpc⟩, hchecks⟩

/-- What holds a service back is unhealthy. -/
theorem healthy_of_holds {item : ReportItem} (h : item ∈ reportItems config probes outcomes)
    (hholds : item.holds = true) : item.status.healthy = false := by
  rw [reportItems, List.mem_append, List.mem_append] at h
  rcases h with (h | h) | h
  · obtain ⟨b, -, hsome⟩ := List.mem_filterMap.mp h
    obtain ⟨section', hsection, rfl⟩ := Option.map_eq_some_iff.mp hsome
    obtain ⟨name, _, outcome⟩ := b
    cases hsection
    cases outcome with
    | connected => simp [holdsBack] at hholds
    | failed message => rfl
    | absent => rfl
  · obtain ⟨grpc, -, rfl⟩ := Option.map_eq_some_iff.mp (Option.mem_toList.mp h)
    cases hholds
  · obtain ⟨⟨name, outcome⟩, -, rfl⟩ := List.mem_map.mp h
    cases outcome with
    | unready message => rfl
    | _ => cases hholds

/-- The names of what is reported: of what is configured, and of the checks. -/
theorem map_name_reportItems : (reportItems config probes outcomes).map ReportItem.name
    = config.names probes ++ outcomes.map Prod.fst := by
  have hbackends : ∀ bs : List (String × Option BackendConfig × ProbeOutcome),
      (bs.filterMap backendItem).map ReportItem.name
        = (bs.filter fun b => b.2.1.isSome).map Prod.fst := by
    intro bs
    induction bs with
    | nil => rfl
    | cons b bs ih =>
      obtain ⟨name, _ | section', outcome⟩ := b
      · exact ih
      · exact congrArg (name :: ·) ih
  have hgrpc : (config.grpc.map grpcItem).toList.map ReportItem.name
      = (config.grpc.map fun _ => "grpc").toList := by
    cases config.grpc <;> rfl
  rw [reportItems, BackendsConfig.names, List.map_append, List.map_append, hbackends, hgrpc,
    List.map_map]
  rfl

/-- A response has an entry for what is configured and for the checks, and for nothing else. -/
theorem isSome_get?_dependencies (name : String) :
    ((readiness config probes outcomes).2.dependencies.get? name).isSome = true ↔
      name ∈ config.names probes ∨ name ∈ outcomes.map Prod.fst := by
  rw [get?_dependencies, Option.isSome_map, List.find?_isSome, ← List.mem_append,
    ← map_name_reportItems, List.mem_map]
  simp

/-- If all names are different, a response says of each item what was reported of it. -/
theorem get?_of_mem
    (hnames : (config.names probes ++ outcomes.map Prod.fst).Nodup) {item : ReportItem}
    (hitem : item ∈ reportItems config probes outcomes) :
    (readiness config probes outcomes).2.dependencies.get? item.name = some item.status := by
  rw [← map_name_reportItems] at hnames
  rw [get?_dependencies]
  rcases hfound : (reportItems config probes outcomes).reverse.find?
    (fun i => i.name == item.name) with _ | found
  · have := List.find?_eq_none.mp hfound item (List.mem_reverse.mpr hitem)
    simp at this
  · have hname := List.find?_some hfound
    have hmem := List.mem_reverse.mp (List.mem_of_find?_eq_some hfound)
    rw [hfound, List.inj_on_of_nodup_map hnames hmem hitem (by simpa using hname)]
    rfl

/-- If all names are different, a service that is not ready names a dependency that is unhealthy. -/
theorem exists_unhealthy (hnames : (config.names probes ++ outcomes.map Prod.fst).Nodup)
    (h : (readiness config probes outcomes).2.ready = false) :
    ∃ name status, (readiness config probes outcomes).2.dependencies.get? name = some status ∧
      status.healthy = false := by
  have hready : (readiness config probes outcomes).2.ready
      = (outcomes.foldl ReadinessReport.addCheck (backendReport config probes)).allReady := rfl
  have hitem : ∃ item ∈ reportItems config probes outcomes, item.holds = true := by
    by_contra hnone
    rw [hready, ← Bool.not_eq_true, allReady_iff] at h
    exact h fun item hitem => Bool.eq_false_iff.mpr fun hholds => hnone ⟨item, hitem, hholds⟩
  obtain ⟨item, hitem, hholds⟩ := hitem
  exact ⟨item.name, item.status, get?_of_mem hnames hitem, healthy_of_holds hitem hholds⟩

theorem readiness_status : (readiness config probes outcomes).1
    = if (readiness config probes outcomes).2.ready then 200 else 503 := rfl

end Results

/-! ### However the checks are polled -/

section Handlers

variable {config : BackendsConfig} {probes : BackendProbes} {checks : HealthChecks} {start : ℕ}
  {polls : List Poll} {status : UInt16}

/-- What `/ready` answers is made of the outcomes of the checks: a response that is ready comes with
a 200, and one that is not with a 503. -/
theorem readinessHandler_outcomes {response : ReadinessResponse}
    (h : readinessHandler config probes checks polls = some (status, response)) :
    ∃ outcomes, runConcurrent checks.readiness polls = some outcomes ∧
      response = (readiness config probes outcomes).2 ∧
      status = (if response.ready then 200 else 503) ∧
      (status = 503 ↔ config.down probes ≠ [] ∨ ∃ o ∈ outcomes, o.2.isUnready = true) := by
  obtain ⟨outcomes, houtcomes, heq⟩ := Option.map_eq_some_iff.mp h
  have hresponse : response = (readiness config probes outcomes).2 :=
    (congrArg Prod.snd heq).symm
  have hstatus : status = if response.ready then 200 else 503 := by
    rw [hresponse, ← readiness_status]
    exact (congrArg Prod.fst heq).symm
  have hunready : status = 503 ↔ response.ready = false := by
    rw [hstatus]
    cases response.ready <;> decide
  refine ⟨outcomes, houtcomes, hresponse, hstatus, ?_⟩
  rw [hunready, hresponse, ← Bool.not_eq_true, readiness_ready_iff, not_and_or]
  simp

/-- **When `/ready` answers 503**, however the checks are polled: a required backend is down, or a
check comes to an outcome that is unready, as a timeout is.  A response has an entry for each
backend that is configured and each check; if their names are different, one that goes with a 503
is unhealthy. -/
theorem readinessHandler_iff {response : ReadinessResponse}
    (hpolls : Punctual (start + checks.deadline) polls)
    (h : readinessHandler config probes checks polls = some (status, response)) :
    ∃ outcomes : List (String × CheckOutcome),
      outcomes.map Prod.fst = checks.readiness.map (fun check => check.name) ∧
      (∀ (i : ℕ) check, checks.readiness[i]? = some check →
        ∃ o, outcomes[i]? = some (check.name, o) ∧
          check.ComesTo (start + checks.deadline) polls o) ∧
      status = (if response.ready then 200 else 503) ∧
      (status = 503 ↔ config.down probes ≠ [] ∨ ∃ o ∈ outcomes, o.2.isUnready = true) ∧
      (∀ name, (response.dependencies.get? name).isSome = true ↔
        name ∈ config.names probes ∨ ∃ check ∈ checks.readiness, check.name = name) ∧
      ((config.names probes ++ checks.readiness.map fun check => check.name).Nodup →
        status = 503 → ∃ name dependency, response.dependencies.get? name = some dependency ∧
          dependency.healthy = false) := by
  obtain ⟨outcomes, houtcomes, hresponse, hstatus, h503⟩ := readinessHandler_outcomes h
  obtain ⟨hnames, hcomes⟩ := runConcurrent_outcomes hpolls houtcomes
  refine ⟨outcomes, hnames, hcomes, hstatus, h503, fun name => ?_, fun hdifferent hdown => ?_⟩
  · rw [hresponse, isSome_get?_dependencies, hnames]
    simp
  · have hunready : response.ready = false := by
      rw [hdown] at hstatus
      cases hready : response.ready with
      | false => rfl
      | true =>
        rw [hready] at hstatus
        cases hstatus
    rw [hresponse] at hunready ⊢
    exact exists_unhealthy (by rwa [hnames]) hunready

/-- A service with a database and ClickHouse, of which it needs both. -/
def sampleBackends : BackendsConfig where
  service := "api"
  database := some ⟨false, true⟩
  redis := none
  nats := none
  turso := none
  surrealdb := none
  clickhouse := some ⟨false, true⟩
  grpc := none

/-- The database answers, and there is no client of ClickHouse yet. -/
def sampleProbes : BackendProbes := ⟨some (.ok ()), none, none, none, none, none⟩

/-- Two readiness checks, of which one never answers. -/
def sampleHealthChecks : HealthChecks := ⟨[], [sampleAnswering, sampleStalling], 2000⟩

theorem punctual_samplePolls : Punctual (0 + sampleHealthChecks.deadline) samplePolls := by
  simp [Punctual, samplePolls, sampleHealthChecks]

theorem readinessHandler_iff_sample : ∃ status response,
    readinessHandler sampleBackends sampleProbes sampleHealthChecks samplePolls
        = some (status, response) ∧
      ∃ name dependency, response.dependencies.get? name = some dependency ∧
        dependency.healthy = false := by
  have hanswer : ∃ response, readinessHandler sampleBackends sampleProbes sampleHealthChecks
      samplePolls = some (503, response) := ⟨_, rfl⟩
  obtain ⟨response, hresponse⟩ := hanswer
  obtain ⟨outcomes, -, -, -, h503, -, hnamed⟩ := readinessHandler_iff punctual_samplePolls hresponse
  exact ⟨503, response, hresponse, hnamed (by decide) (h503.mpr (.inl (by decide)))⟩

/-- **When `/health` answers 503**, however the checks are polled: a check comes to an outcome that
is unready. -/
theorem health_iff {response : HealthResponse}
    (hpolls : Punctual (start + checks.deadline) polls)
    (h : health config checks polls = some (status, response)) :
    ∃ outcomes : List (String × CheckOutcome),
      outcomes.map Prod.fst = checks.liveness.map (fun check => check.name) ∧
      (∀ (i : ℕ) check, checks.liveness[i]? = some check →
        ∃ o, outcomes[i]? = some (check.name, o) ∧
          check.ComesTo (start + checks.deadline) polls o) ∧
      (status = 503 ↔ ∃ o ∈ outcomes, o.2.isUnready = true) := by
  obtain ⟨alive, halive, heq⟩ := Option.map_eq_some_iff.mp h
  obtain ⟨outcomes, houtcomes, rfl⟩ := Option.map_eq_some_iff.mp halive
  obtain ⟨hstatus, -⟩ := Prod.mk.inj heq
  obtain ⟨hnames, hcomes⟩ := runConcurrent_outcomes hpolls houtcomes
  refine ⟨outcomes, hnames, hcomes, ?_⟩
  have hunready : status = 503 ↔ ¬ outcomes.all (fun o => !o.2.isUnready) = true := by
    rw [← hstatus]
    split <;> simp [*]
  rw [hunready]
  simp

theorem dependencyHealthy_iff {section' : Option BackendConfig} {outcome : ProbeOutcome}
    {healthy : Bool} (name : String) : dependencyHealthy section' outcome healthy = true ↔
      healthy = true ∧ holdsBack (name, section', outcome) = false := by
  rcases section' with _ | section'
  · simp [dependencyHealthy, holdsBack]
  · have hholds : dependencyHealthy (some section') outcome healthy
        = if holdsBack (name, some section', outcome) then false else healthy := rfl
    rw [hholds]
    cases holdsBack (name, some section', outcome) <;> simp

/-- The gRPC service asks the backends but for two. -/
theorem checkDependencies_iff : checkDependencies config probes = true ↔
    ∀ name ∈ config.down probes, name = "turso" ∨ name = "clickhouse" := by
  have hdown : (∀ name ∈ config.down probes, name = "turso" ∨ name = "clickhouse") ↔
      ∀ b ∈ config.backends probes, holdsBack b = true → b.1 = "turso" ∨ b.1 = "clickhouse" := by
    rw [BackendsConfig.down, List.forall_mem_map]
    simp
  rw [hdown, checkDependencies, dependencyHealthy_iff "surrealdb", dependencyHealthy_iff "nats",
    dependencyHealthy_iff "redis", dependencyHealthy_iff "database", BackendsConfig.backends]
  simp
  tauto

/-- **When the gRPC service answers `SERVING`**: when `/ready` answers 200, and when it answers 503
on account of the checks, of Turso or of ClickHouse alone. -/
theorem serving_iff {response : ReadinessResponse}
    (h : readinessHandler config probes checks polls = some (status, response))
    (service : String) : grpcHealthCheck config probes service = .serving ↔
      status = 200 ∨
        (status = 503 ∧ ∀ name ∈ config.down probes, name = "turso" ∨ name = "clickhouse") := by
  obtain ⟨outcomes, -, -, hstatus, h503⟩ := readinessHandler_outcomes h
  have hserving : grpcHealthCheck config probes service = .serving ↔
      ∀ name ∈ config.down probes, name = "turso" ∨ name = "clickhouse" := by
    rw [← checkDependencies_iff, grpcHealthCheck]
    cases checkDependencies config probes <;> simp
  rw [hserving]
  constructor
  · intro hdown
    cases hready : response.ready with
    | false => exact .inr ⟨by rw [hstatus, hready]; rfl, hdown⟩
    | true => exact .inl (by rw [hstatus, hready]; rfl)
  · rintro (h200 | ⟨-, hdown⟩)
    · have hnone : config.down probes = [] := by
        by_contra hne
        rw [h503.mpr (.inl hne)] at h200
        cases h200
      rw [hnone]
      exact fun name hname => absurd hname List.not_mem_nil
    · exact hdown

theorem serving_iff_sample : grpcHealthCheck sampleBackends sampleProbes "api" = .serving := by
  have hanswer : ∃ response, readinessHandler sampleBackends sampleProbes sampleHealthChecks
      samplePolls = some (503, response) := ⟨_, rfl⟩
  obtain ⟨response, hresponse⟩ := hanswer
  exact (serving_iff hresponse "api").mpr
    (.inr ⟨rfl, by decide⟩)

end Handlers

end ActonService
