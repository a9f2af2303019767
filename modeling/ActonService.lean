import ActonService.Lib.PrefixCode
import ActonService.Lib.Bytes
import ActonService.Lib.HashChain
import ActonService.Lib.Run
import ActonService.Lib.Effect
import ActonService.Lib.Text
import ActonService.Lib.OrderedMap
import ActonService.Lib.ExpiringMap
import ActonService.Lib.Redis
import ActonService.Lib.Counter
import ActonService.Lib.Layers
import ActonService.Lib.Table
import ActonService.Lib.FiniteMaps
import ActonService.Json
import ActonService.JsonReading
import ActonService.Audit.Event
import ActonService.Audit.Chain
import ActonService.Audit.Commitment
import ActonService.Audit.Rows
import ActonService.Audit.RoundTrip
import ActonService.Audit.Storage
import ActonService.Audit.StoredChain
import ActonService.Audit.Purge
import ActonService.Audit.Archive
import ActonService.Audit.Cleanup
import ActonService.Audit.Agent
import ActonService.Audit.FailureTracker
import ActonService.Audit.Syslog
import ActonService.Auth.KeyStore
import ActonService.Auth.KeyManager
import ActonService.Auth.DrainWindow
import ActonService.Auth.Rotation
import ActonService.Auth.SigningCache
import ActonService.Auth.VerificationCache
import ActonService.Auth.Paseto
import ActonService.Auth.RotatedKeys
import ActonService.Auth.PasetoTokens
import ActonService.Auth.PasetoRoundTrip
import ActonService.Middleware.Cedar
import ActonService.Auth.RefreshTokens
import ActonService.Auth.RefreshRevocation
import ActonService.Auth.RefreshRotation
import ActonService.Auth.ApiKeys
import ActonService.Lockout.Service
import ActonService.Middleware.RateLimit
import ActonService.Lockout.Counters
import ActonService.Lockout.Middleware
import ActonService.Lockout.Safety
import ActonService.Middleware.Http
import ActonService.Middleware.CallerAuth
import ActonService.Middleware.Request
import ActonService.Middleware.Authentication
import ActonService.Middleware.Authorization
import ActonService.Audit.Middleware
import ActonService.ServiceBuilder.Build
import ActonService.ServiceBuilder.Admission
import ActonService.ServiceBuilder.Events
import ActonService.ServiceBuilder.Coverage
import ActonService.ServiceBuilder.Origin
import ActonService.Accounts.Types
import ActonService.Accounts.Storage
import ActonService.Accounts.Service
import ActonService.Accounts.Steps
import ActonService.Accounts.Lifecycle
import ActonService.Accounts.Login
import ActonService.Accounts.Concurrency
import ActonService.Accounts.Invariants
import ActonService.Accounts.Verification
import ActonService.Tls.Credentials
import ActonService.Tls.Reload
import ActonService.Tls.ClientIdentity
import ActonService.Websocket.Rooms
import ActonService.Agents.BackgroundWorker
import ActonService.Agents.WorkerProtocol
import ActonService.Agents.WorkerOutcomes
import ActonService.Agents.WorkerBookkeeping
import ActonService.Lib.Lines
import ActonService.Middleware.CallerDecision
import ActonService.Auth.JwtTokens
import ActonService.Audit.ConfigAudit
import ActonService.Lib.Throttle
import ActonService.Lib.Tickets
import ActonService.Audit.SyslogFraming
import ActonService.ServiceBuilder.Preflight
import ActonService.Middleware.RouteMatcher
import ActonService.Middleware.RateLimitKeys
import ActonService.Middleware.Limiters
import ActonService.Middleware.RouteCaps
import ActonService.Lib.Blocks
import ActonService.Handlers.Pagination
import ActonService.Lib.Segments
import ActonService.Audit.RouteGlobs
import ActonService.Middleware.Quotas
import ActonService.Lib.RegexSyntax
import ActonService.Middleware.RoutePatterns
import ActonService.Lib.Priority
import ActonService.Middleware.RouteOrder
import ActonService.Middleware.PathNormalizers
import ActonService.Middleware.RouteCompleteness
import ActonService.Middleware.CedarPrincipals
import ActonService.Lib.Decimal
import ActonService.Lib.Calendar
import ActonService.Audit.Timestamps
import ActonService.Auth.RefreshExpiry
import ActonService.Lib.Latch
import ActonService.Agents.Pool
import ActonService.Lib.Find
import ActonService.Connections.Urls
import ActonService.Connections.Health
import ActonService.Lib.Retry
import ActonService.Connections.Retry
import ActonService.Auth.ApiKeyLookup
import ActonService.ServiceBuilder.Versioning
import ActonService.Htmx.Triggers
import ActonService.Accounts.Handlers
import ActonService.Lib.TwoRuns
import ActonService.Lib.Columns
import ActonService.Accounts.PasswordHashes
import ActonService.Accounts.PatchBodies
import ActonService.Accounts.Rows
import ActonService.Accounts.RowRoundTrip
import ActonService.Lib.Once
import ActonService.Audit.LazyStorage
import ActonService.Lib.BitString
import ActonService.Auth.Base32
import ActonService.Middleware.RepeatedNormalization
import ActonService.Lib.Channel
import ActonService.Lib.FairLock
import ActonService.Websocket.Broadcaster
import ActonService.Websocket.Backpressure
import ActonService.Lib.Traces
import ActonService.Lib.Ledger
import ActonService.Middleware.Revocation
import ActonService.Auth.OAuthState
import ActonService.ServiceBuilder.Grpc
import ActonService.Lib.FairChannel
import ActonService.Tls.Listener
import ActonService.Tls.Stalled
import ActonService.Lib.Contracts
import ActonService.Lib.Html
import ActonService.Session.Store
import ActonService.Session.Csrf
import ActonService.Session.Flash
import ActonService.Session.Extractors
import ActonService.Session.Runs
import ActonService.Session.Pages
import ActonService.Session.Histories
import ActonService.Lib.Deadline
import ActonService.Lib.Fanout
import ActonService.Health.Checks
import ActonService.Health.Probes
import ActonService.Sse.Broadcaster
