import ActonService.Connections.Urls
import Mathlib.Data.Option.Basic

/-!
# Pool health and the credentials of a connection URL

What `pool_health.rs` and `AppState::pool_health` show of the configured connections, and the
error text of `clickhouse_backend.rs`.  Two configurations may differ in the user-info of their
URLs, and what is shown of them is compared.

## Main definitions

* `ConnectionsConfig` — the sections of `Config` that name a backend.
* `PoolHealthSummary`, `AppState.poolHealth`, `poolMetrics` — what the metrics endpoint answers.
* `ClickHouse.tryCreateClient` — one attempt to connect, and its error text.
* `ConnectionsConfig.SameButUserInfo` — the configurations differ in user-infos only.
* `HealthAlike` — the health entries and the error text are the same.

## Main results

* `healthAlike_iff` — **when two such configurations are shown alike.**
* `poolMetrics_eq` — what the metrics endpoint then answers.
-/

namespace ActonService

/-! ### The configuration -/

/-- `TursoMode` -/
inductive TursoMode
  | local
  | remote
  | embeddedReplica
  deriving DecidableEq, Repr

/-- `format!("{:?}", mode).to_lowercase()` -/
def TursoMode.text : TursoMode → String
  | .local => "local"
  | .remote => "remote"
  | .embeddedReplica => "embeddedreplica"

/-- `DatabaseConfig`, what the health entry reads -/
structure DatabaseConfig where
  maxConnections : ℕ
  minConnections : ℕ
  deriving DecidableEq, Repr

/-- `RedisConfig`, what the health entry reads -/
structure RedisConfig where
  maxConnections : ℕ
  deriving DecidableEq, Repr

/-- `NatsConfig` -/
structure NatsConfig where
  url : List Char
  name : Option String
  deriving DecidableEq, Repr

/-- `TursoConfig` -/
structure TursoConfig where
  mode : TursoMode
  path : Option String
  url : Option (List Char)
  deriving DecidableEq, Repr

/-- `SurrealDbConfig` -/
structure SurrealDbConfig where
  url : List Char
  nameSpace : String
  database : String
  deriving DecidableEq, Repr

/-- `ClickHouseConfig` -/
structure ClickHouseConfig where
  url : List Char
  database : String
  username : Option String
  password : Option String
  deriving DecidableEq, Repr

/-- The sections of `Config` that name a backend. -/
structure ConnectionsConfig where
  database : Option DatabaseConfig
  redis : Option RedisConfig
  nats : Option NatsConfig
  turso : Option TursoConfig
  surrealdb : Option SurrealDbConfig
  clickhouse : Option ClickHouseConfig
  deriving DecidableEq, Repr

/-! ### Health entries -/

/-- What a `PgPool` answers: `size()` and `num_idle()`. -/
structure PgPool where
  size : ℕ
  numIdle : ℕ
  deriving DecidableEq, Repr

/-- `DatabasePoolHealth`, without the share of the pool that is in use -/
structure DatabasePoolHealth where
  size : ℕ
  idle : ℕ
  maxSize : ℕ
  minSize : ℕ
  healthy : Bool
  deriving DecidableEq, Repr

/-- `DatabasePoolHealth::from_pool` -/
def DatabasePoolHealth.fromPool (pool : PgPool) (config : DatabaseConfig) : DatabasePoolHealth where
  size := pool.size
  idle := pool.numIdle
  maxSize := config.maxConnections
  minSize := config.minConnections
  healthy := pool.size < config.maxConnections

/-- The `status()` of a Redis pool. -/
structure RedisPool where
  size : ℕ
  available : ℕ
  deriving DecidableEq, Repr

/-- `RedisPoolHealth` -/
structure RedisPoolHealth where
  maxSize : ℕ
  available : Bool
  status : String
  deriving DecidableEq, Repr

/-- `RedisPoolHealth::from_pool` -/
def RedisPoolHealth.fromPool (pool : RedisPool) (config : RedisConfig) : RedisPoolHealth where
  maxSize := config.maxConnections
  available := pool.size > 0 || pool.available > 0
  status := "size=" ++ pool.size.repr ++ ", available=" ++ pool.available.repr

/-- `NatsClientHealth` -/
structure NatsClientHealth where
  connected : Bool
  serverUrl : List Char
  clientName : Option String
  deriving DecidableEq, Repr

/-- `NatsClientHealth::from_client` of a client that is `connected`, or is not -/
def NatsClientHealth.fromClient (connected : Bool) (config : NatsConfig) : NatsClientHealth where
  connected := connected
  serverUrl := config.url
  clientName := config.name

/-- `TursoDbHealth` -/
structure TursoDbHealth where
  mode : String
  connected : Bool
  localPath : Option String
  remoteUrl : Option (List Char)
  deriving DecidableEq, Repr

/-- `TursoDbHealth::from_config` -/
def TursoDbHealth.fromConfig (connected : Bool) (config : TursoConfig) : TursoDbHealth where
  mode := config.mode.text
  connected := connected
  localPath := config.path
  remoteUrl := config.url

/-- `SurrealDbHealth` -/
structure SurrealDbHealth where
  url : List Char
  nameSpace : String
  database : String
  connected : Bool
  deriving DecidableEq, Repr

/-- `SurrealDbHealth::from_config` -/
def SurrealDbHealth.fromConfig (connected : Bool) (config : SurrealDbConfig) :
    Option SurrealDbHealth := do
  let url ← SurrealDb.sanitizeUrl config.url
  some { url, nameSpace := config.nameSpace, database := config.database, connected }

/-- `ClickHouseHealth` -/
structure ClickHouseHealth where
  url : List Char
  database : String
  connected : Bool
  deriving DecidableEq, Repr

/-- `ClickHouseHealth::from_config` -/
def ClickHouseHealth.fromConfig (connected : Bool) (config : ClickHouseConfig) :
    Option ClickHouseHealth := do
  let url ← ClickHouse.sanitizeUrl config.url
  some { url, database := config.database, connected }

/-! ### The summary -/

/-- `PoolHealthSummary` -/
structure PoolHealthSummary where
  database : Option DatabasePoolHealth
  redis : Option RedisPoolHealth
  nats : Option NatsClientHealth
  turso : Option TursoDbHealth
  surrealdb : Option SurrealDbHealth
  clickhouse : Option ClickHouseHealth
  healthy : Bool
  deriving DecidableEq, Repr

/-- `is_healthy` -/
def PoolHealthSummary.isHealthy (s : PoolHealthSummary) : Bool :=
  s.database.all (·.healthy) && s.redis.all (·.available) && s.nats.all (·.connected)
    && s.turso.all (·.connected) && s.surrealdb.all (·.connected) && s.clickhouse.all (·.connected)

/-- The connections the service holds: a pool or client that is there, and whether the NATS client
is connected. -/
structure Connections where
  db : Option PgPool
  redis : Option RedisPool
  nats : Option Bool
  turso : Bool
  surrealdb : Bool
  clickhouse : Bool
  deriving DecidableEq, Repr

/-- `pool_health`: an entry for each connection that is there and configured. -/
def AppState.poolHealth (conns : Connections) (config : ConnectionsConfig) :
    Option PoolHealthSummary := do
  let surrealdb ←
    if conns.surrealdb then config.surrealdb.mapM (SurrealDbHealth.fromConfig true) else some none
  let clickhouse ←
    if conns.clickhouse then config.clickhouse.mapM (ClickHouseHealth.fromConfig true)
    else some none
  let summary : PoolHealthSummary :=
    { database := conns.db.bind fun pool => config.database.map (DatabasePoolHealth.fromPool pool)
      redis := conns.redis.bind fun pool => config.redis.map (RedisPoolHealth.fromPool pool)
      nats := conns.nats.bind fun connected =>
        config.nats.map (NatsClientHealth.fromClient connected)
      turso := if conns.turso then config.turso.map (TursoDbHealth.fromConfig true) else none
      surrealdb, clickhouse, healthy := true }
  some { summary with healthy := summary.isHealthy }

/-- `pool_metrics`: the status code and the body. -/
def poolMetrics (conns : Connections) (config : ConnectionsConfig) :
    Option (ℕ × PoolHealthSummary) := do
  let health ← AppState.poolHealth conns config
  some (if health.healthy then 200 else 503, health)

/-! ### The ClickHouse error -/

/-- A `clickhouse::Client`. -/
structure ClickHouse.Client where
  url : List Char
  database : String
  user : Option String
  password : Option String
  deriving DecidableEq, Repr

/-- The client `try_create_client` asks. -/
def ClickHouse.client (config : ClickHouseConfig) : ClickHouse.Client where
  url := config.url
  database := config.database
  user := config.username
  password := config.password

/-- `Error::ClickHouse` as text -/
def ClickHouse.errorText (message : List Char) : List Char := "ClickHouse error: ".toList ++ message

/-- What a failed connection's message says to do. -/
def ClickHouse.troubleshooting : List Char :=
  ("'\n\nTroubleshooting:\n"
    ++ "1. Verify ClickHouse server is running\n"
    ++ "2. Check HTTP interface is enabled (default port 8123)\n"
    ++ "3. Verify credentials and database name\n"
    ++ "4. Check network connectivity\n\n"
    ++ "Error: ").toList

/-- The message of a failed connection. -/
def ClickHouse.connectMessage (url e : List Char) : List Char :=
  "Failed to connect to ClickHouse at '".toList ++ (url ++ (ClickHouse.troubleshooting ++ e))

/-- `try_create_client`: `execute` asks the server. -/
def ClickHouse.tryCreateClient (execute : ClickHouse.Client → String → Except (List Char) Unit)
    (config : ClickHouseConfig) : Except (List Char) ClickHouse.Client :=
  match execute (ClickHouse.client config) "SELECT 1" with
  | .ok () => .ok (ClickHouse.client config)
  | .error e => .error (ClickHouse.errorText (ClickHouse.connectMessage config.url e))

/-! ### Configurations that differ in user-infos -/

/-- `scheme://userinfo@host` -/
def userInfoUrl (scheme userInfo host : List Char) : List Char :=
  scheme ++ schemeMark ++ userInfo ++ '@' :: host

/-- Two URLs are the same, up to a user-info without `@`. -/
inductive SameButUserInfo : List Char → List Char → Prop
  | same (url : List Char) : SameButUserInfo url url
  | userInfo (scheme userInfo userInfo' host : List Char) (h : '@' ∉ userInfo)
      (h' : '@' ∉ userInfo') :
      SameButUserInfo (userInfoUrl scheme userInfo host) (userInfoUrl scheme userInfo' host)

/-- Two configurations differ in the user-infos of their URLs only. -/
structure ConnectionsConfig.SameButUserInfo (config config' : ConnectionsConfig) : Prop where
  database : config.database = config'.database
  redis : config.redis = config'.redis
  nats : Option.Rel (fun c c' => ActonService.SameButUserInfo c.url c'.url ∧
    c' = { c with url := c'.url }) config.nats config'.nats
  turso : Option.Rel (fun c c' => Option.Rel ActonService.SameButUserInfo c.url c'.url ∧
    c' = { c with url := c'.url }) config.turso config'.turso
  surrealdb : Option.Rel (fun c c' => ActonService.SameButUserInfo c.url c'.url ∧
    c' = { c with url := c'.url }) config.surrealdb config'.surrealdb
  clickhouse : Option.Rel (fun c c' => ActonService.SameButUserInfo c.url c'.url ∧
    c' = { c with url := c'.url }) config.clickhouse config'.clickhouse

/-- The health entries of two configurations are the same, and so is the text of a failed
ClickHouse connection, for one error of the driver. -/
structure HealthAlike (config config' : ConnectionsConfig) : Prop where
  nats : ∀ connected, config.nats.map (NatsClientHealth.fromClient connected)
    = config'.nats.map (NatsClientHealth.fromClient connected)
  turso : ∀ connected, config.turso.map (TursoDbHealth.fromConfig connected)
    = config'.turso.map (TursoDbHealth.fromConfig connected)
  surrealdb : ∀ connected, config.surrealdb.map (SurrealDbHealth.fromConfig connected)
    = config'.surrealdb.map (SurrealDbHealth.fromConfig connected)
  clickhouse : ∀ connected, config.clickhouse.map (ClickHouseHealth.fromConfig connected)
    = config'.clickhouse.map (ClickHouseHealth.fromConfig connected)
  connectError : ∀ c ∈ config.clickhouse, ∀ c' ∈ config'.clickhouse, ∀ execute e,
    execute (ClickHouse.client c) "SELECT 1" = .error e →
    execute (ClickHouse.client c') "SELECT 1" = .error e →
    ClickHouse.tryCreateClient execute c = ClickHouse.tryCreateClient execute c'

/-! ### URLs -/

variable {url url' : List Char}

theorem fromAt_userInfoUrl {scheme : List Char} (hscheme : '@' ∉ scheme) {userInfo : List Char}
    (huserInfo : '@' ∉ userInfo) (host : List Char) :
    fromAt (userInfoUrl scheme userInfo host) = '@' :: host := by
  rw [userInfoUrl, fromAt_eq]
  simp [schemeMark, hscheme, huserInfo]

/-- **A sanitizer that does not look in front of the `@`** shows the scheme, and the URL from its
first `@` on. -/
theorem sanitize_userInfoUrl {s : UrlSanitizer} (hs : s.looksBetween = false)
    (scheme : List Char) : ∃ front, ∀ userInfo host,
      s.sanitize (userInfoUrl scheme userInfo host)
        = some (front ++ fromAt (userInfoUrl scheme userInfo host)) := by
  obtain ⟨schemeEnd, hfind⟩ :=
    Find.exists_find_of_infix (List.suffix_append scheme schemeMark).isInfix
  have hle : schemeEnd + 3 ≤ (scheme ++ schemeMark).length := Find.length_le_of_find hfind
  refine ⟨s.front schemeEnd (scheme ++ schemeMark) [], ?_⟩
  intro userInfo host
  have hurl : userInfoUrl scheme userInfo host
      = (scheme ++ schemeMark) ++ (userInfo ++ '@' :: host) := by
    rw [userInfoUrl, List.append_assoc (scheme ++ schemeMark)]
  have hmark : Find.find schemeMark (userInfoUrl scheme userInfo host) = some schemeEnd := by
    rw [hurl]
    exact Find.find_append_left hfind _
  obtain ⟨before, behind, hsplit, hbefore⟩ := List.eq_append_cons_of_mem
    (show '@' ∈ userInfoUrl scheme userInfo host by simp [userInfoUrl])
  have hfront : s.front schemeEnd (userInfoUrl scheme userInfo host) before
      = s.front schemeEnd (scheme ++ schemeMark) [] := by
    rw [hurl, front_append_right s hle]
    cases s with
    | postgres => cases hs
    | redis => cases hs
    | turso => rfl
    | clickHouse => rfl
  rw [hsplit] at hmark hfront ⊢
  rw [sanitize_eq_some s hbefore hmark (by simp [hs]), hfront, fromAt_eq hbefore]

/-- Such a sanitizer shows two URLs alike when they are the same from their first `@` on. -/
theorem sanitize_eq_iff {s : UrlSanitizer} (hs : s.looksBetween = false)
    (hsame : SameButUserInfo url url') :
    s.sanitize url = s.sanitize url' ↔ fromAt url = fromAt url' := by
  cases hsame with
  | same => simp
  | userInfo scheme userInfo userInfo' host h h' =>
    obtain ⟨front, hshown⟩ := sanitize_userInfoUrl hs scheme
    rw [hshown, hshown, Option.some.injEq, List.append_cancel_left_eq]

/-- **Such a sanitizer hides the user-info** behind a scheme without `@`. -/
theorem sanitize_hides_userInfo {s : UrlSanitizer} (hs : s.looksBetween = false)
    {scheme userInfo userInfo' : List Char} (hscheme : '@' ∉ scheme) (h : '@' ∉ userInfo)
    (h' : '@' ∉ userInfo') (host : List Char) :
    s.sanitize (userInfoUrl scheme userInfo host)
      = s.sanitize (userInfoUrl scheme userInfo' host) := by
  rw [sanitize_eq_iff hs (.userInfo scheme userInfo userInfo' host h h'),
    fromAt_userInfoUrl hscheme h, fromAt_userInfoUrl hscheme h']

theorem surrealDb_sanitizeUrl_eq_iff (hsame : SameButUserInfo url url') :
    SurrealDb.sanitizeUrl url = SurrealDb.sanitizeUrl url' ↔ fromAt url = fromAt url' :=
  sanitize_eq_iff (s := .turso) rfl hsame

theorem clickHouse_sanitizeUrl_eq_iff (hsame : SameButUserInfo url url') :
    ClickHouse.sanitizeUrl url = ClickHouse.sanitizeUrl url' ↔ fromAt url = fromAt url' :=
  sanitize_eq_iff (s := .clickHouse) rfl hsame

/-! ### What is shown -/

/-- The error text shows the URL. -/
theorem errorText_inj {message message' : List Char}
    (h : ClickHouse.errorText message = ClickHouse.errorText message') : message = message' :=
  List.append_cancel_left h

theorem connectMessage_inj {e : List Char}
    (h : ClickHouse.connectMessage url e = ClickHouse.connectMessage url' e) : url = url' :=
  List.append_cancel_right (List.append_cancel_left h)

section Entries

variable (connected : Bool)

/-- The NATS entry shows the URL. -/
theorem natsClientHealth_eq_iff (c c' : NatsConfig) (hrest : c' = { c with url := c'.url }) :
    NatsClientHealth.fromClient connected c = NatsClientHealth.fromClient connected c'
      ↔ c.url = c'.url := by
  rw [hrest]
  simp [NatsClientHealth.fromClient]

/-- The Turso entry shows the URL. -/
theorem tursoDbHealth_eq_iff (c c' : TursoConfig) (hrest : c' = { c with url := c'.url }) :
    TursoDbHealth.fromConfig connected c = TursoDbHealth.fromConfig connected c'
      ↔ c.url = c'.url := by
  rw [hrest]
  simp [TursoDbHealth.fromConfig]

/-- The SurrealDB entry shows the URL from its first `@` on. -/
theorem surrealDbHealth_eq_iff (c c' : SurrealDbConfig) (hurl : SameButUserInfo c.url c'.url)
    (hrest : c' = { c with url := c'.url }) :
    SurrealDbHealth.fromConfig connected c = SurrealDbHealth.fromConfig connected c'
      ↔ fromAt c.url = fromAt c'.url := by
  rw [← surrealDb_sanitizeUrl_eq_iff hurl]
  generalize c'.url = url' at hrest ⊢
  subst hrest
  cases hone : SurrealDb.sanitizeUrl c.url <;> cases htwo : SurrealDb.sanitizeUrl url' <;>
    simp [SurrealDbHealth.fromConfig, hone, htwo]

/-- The ClickHouse entry shows the URL from its first `@` on. -/
theorem clickHouseHealth_eq_iff (c c' : ClickHouseConfig) (hurl : SameButUserInfo c.url c'.url)
    (hrest : c' = { c with url := c'.url }) :
    ClickHouseHealth.fromConfig connected c = ClickHouseHealth.fromConfig connected c'
      ↔ fromAt c.url = fromAt c'.url := by
  rw [← clickHouse_sanitizeUrl_eq_iff hurl]
  generalize c'.url = url' at hrest ⊢
  subst hrest
  cases hone : ClickHouse.sanitizeUrl c.url <;> cases htwo : ClickHouse.sanitizeUrl url' <;>
    simp [ClickHouseHealth.fromConfig, hone, htwo]

end Entries

/-- What is shown of an optional section is the same when what it shows is. -/
theorem map_eq_map_iff {α β γ : Type} {R : α → α → Prop} {f : α → β} {g : α → γ}
    (hiff : ∀ c c', R c c' → (f c = f c' ↔ g c = g c')) {o o' : Option α}
    (hrel : Option.Rel R o o') : o.map f = o'.map f ↔ o.map g = o'.map g := by
  cases hrel with
  | some h => simp [hiff _ _ h]
  | none => simp

variable {config config' : ConnectionsConfig}

/-- A failed ClickHouse connection has one text for one URL only. -/
theorem connectError_eq_iff (hrel : Option.Rel (fun c c' : ClickHouseConfig =>
      SameButUserInfo c.url c'.url ∧ c' = { c with url := c'.url })
      config.clickhouse config'.clickhouse) :
    (∀ c ∈ config.clickhouse, ∀ c' ∈ config'.clickhouse, ∀ execute e,
      execute (ClickHouse.client c) "SELECT 1" = .error e →
      execute (ClickHouse.client c') "SELECT 1" = .error e →
      ClickHouse.tryCreateClient execute c = ClickHouse.tryCreateClient execute c')
      ↔ config.clickhouse.map ClickHouseConfig.url
          = config'.clickhouse.map ClickHouseConfig.url := by
  generalize config.clickhouse = o at hrel ⊢
  generalize config'.clickhouse = o' at hrel ⊢
  cases hrel with
  | none => simp
  | @some c c' h =>
    rw [Option.map_some, Option.map_some, Option.some.injEq]
    constructor
    · intro hsame
      have htext := hsame c rfl c' rfl (fun _ _ => .error []) [] rfl rfl
      exact connectMessage_inj (errorText_inj (Except.error.inj htext))
    · intro hurl c₁ hc₁ c₂ hc₂ execute e he he'
      obtain rfl := Option.some.inj hc₁
      obtain rfl := Option.some.inj hc₂
      rw [ClickHouse.tryCreateClient, ClickHouse.tryCreateClient, he, he', hurl]

/-- **When two configurations are shown alike**: the Turso, NATS and ClickHouse URLs are the same,
and so are the SurrealDB URLs from their first `@` on. -/
theorem healthAlike_iff (hsame : config.SameButUserInfo config') :
    HealthAlike config config' ↔
      config.nats.map NatsConfig.url = config'.nats.map NatsConfig.url ∧
      config.turso.map TursoConfig.url = config'.turso.map TursoConfig.url ∧
      config.surrealdb.map (fromAt ·.url) = config'.surrealdb.map (fromAt ·.url) ∧
      config.clickhouse.map ClickHouseConfig.url
        = config'.clickhouse.map ClickHouseConfig.url := by
  have hnats (connected : Bool) := map_eq_map_iff
    (fun c c' h => natsClientHealth_eq_iff connected c c' h.2) hsame.nats
  have hturso (connected : Bool) := map_eq_map_iff
    (fun c c' h => tursoDbHealth_eq_iff connected c c' h.2) hsame.turso
  have hsurrealdb (connected : Bool) := map_eq_map_iff (g := fun c => fromAt c.url)
    (fun c c' h => surrealDbHealth_eq_iff connected c c' h.1 h.2) hsame.surrealdb
  have hclickhouse (connected : Bool) := map_eq_map_iff (g := fun c => fromAt c.url)
    (fun c c' h => clickHouseHealth_eq_iff connected c c' h.1 h.2) hsame.clickhouse
  constructor
  · intro h
    exact ⟨(hnats true).mp (h.nats true), (hturso true).mp (h.turso true),
      (hsurrealdb true).mp (h.surrealdb true),
      (connectError_eq_iff hsame.clickhouse).mp h.connectError⟩
  · rintro ⟨h1, h2, h3, h4⟩
    have hurls : config.clickhouse.map (fromAt ·.url) = config'.clickhouse.map (fromAt ·.url) := by
      simpa [Function.comp_def] using congrArg (Option.map fromAt) h4
    exact ⟨fun connected => (hnats connected).mpr h1, fun connected => (hturso connected).mpr h2,
      fun connected => (hsurrealdb connected).mpr h3,
      fun connected => (hclickhouse connected).mpr hurls,
      (connectError_eq_iff hsame.clickhouse).mpr h4⟩

/-- A configuration of the four backends, by the user-info for SurrealDB and for the others. -/
def connectionsSample (surrealdb others : List Char) : ConnectionsConfig where
  database := none
  redis := none
  nats := some { url := userInfoUrl "nats".toList others "bus".toList, name := none }
  turso := some
    { mode := .remote, path := none, url := some (userInfoUrl "libsql".toList others "db".toList) }
  surrealdb := some
    { url := userInfoUrl "ws".toList surrealdb "db".toList, nameSpace := "app", database := "app" }
  clickhouse := some
    { url := userInfoUrl "http".toList others "ch".toList, database := "default",
      username := none, password := none }

theorem connectionsSample_same {a a' b b' : List Char} (ha : '@' ∉ a) (ha' : '@' ∉ a')
    (hb : '@' ∉ b) (hb' : '@' ∉ b') :
    (connectionsSample a b).SameButUserInfo (connectionsSample a' b') where
  database := rfl
  redis := rfl
  nats := .some ⟨.userInfo _ b b' _ hb hb', rfl⟩
  turso := .some ⟨.some (.userInfo _ b b' _ hb hb'), rfl⟩
  surrealdb := .some ⟨.userInfo _ a a' _ ha ha', rfl⟩
  clickhouse := .some ⟨.userInfo _ b b' _ hb hb', rfl⟩

theorem healthAlike_iff_sample :
    HealthAlike (connectionsSample "u:a".toList "v".toList)
      (connectionsSample "u:b".toList "v".toList) :=
  (healthAlike_iff (connectionsSample_same (by decide) (by decide) (by decide) (by decide))).mpr
    (by decide)

/-- The NATS entry shows the password. -/
theorem not_forall_healthAlike :
    ¬ ∀ config config' : ConnectionsConfig, config.SameButUserInfo config' →
      HealthAlike config config' := by
  intro h
  have hnats := (h (connectionsSample "u".toList "u:a".toList)
    (connectionsSample "u".toList "u:b".toList)
    (connectionsSample_same (by decide) (by decide) (by decide) (by decide))).nats true
  revert hnats
  decide

/-- What the metrics endpoint answers is then the same too. -/
theorem poolMetrics_eq (hsame : config.SameButUserInfo config') (h : HealthAlike config config')
    (conns : Connections) : poolMetrics conns config = poolMetrics conns config' := by
  have hmapM {α β : Type} {o o' : Option α} {f : α → Option β} (hf : o.map f = o'.map f) :
      o.mapM f = o'.mapM f := by
    cases o <;> cases o' <;> simp_all
  simp only [poolMetrics, AppState.poolHealth, hsame.database, hsame.redis, h.nats, h.turso,
    hmapM (h.surrealdb true), hmapM (h.clickhouse true)]

end ActonService
