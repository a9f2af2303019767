import ActonService.Auth.KeyStore
import ActonService.Lib.Effect

/-!
# The key manager and the rotation check

The `KeyManager` of `auth/key_rotation/manager.rs` with its cache, and the rotation check of
`auth/key_rotation/agent.rs`.  Every function is a program over the calls it makes: statements
of the key store, the lock of the cache, the clocks and the random generator.  Everything
between two calls is local to the function, so an interleaving of functions, of one instance
or of several that share a store, is an interleaving of calls.

The arithmetic of a release build wraps.  A panic of `chrono`, where a time leaves its range,
ends the function as an error does.

## Main definitions

* `KeyCall`, `KeyProg` — the calls and the programs over them.
* `KeyManager.refreshCache`, `KeyManager.getSigningKey`, `KeyManager.getVerificationKey`,
  `KeyManager.getAllVerificationKeys`, `KeyManager.rotate`, `KeyManager.retireExpired`,
  `performRotationCheck` — the functions.
* `KeyWorld`, `KeyWorld.answer` — the store, the caches and the clocks, and how they answer.
* `KeyOp.program` — what an instance may run.
-/

namespace ActonService

open Effect

/-! ### Caches -/

/-- `CachedKey` -/
structure CachedKey where
  kid : String
  format : KeyFormat
  keyMaterial : List UInt8
  status : KeyStatus
  deriving DecidableEq, Repr

/-- `decode_key_metadata` -/
def decodeKeyMetadata (X : KeyExterns) (key : SigningKeyMetadata) : Except KeyError CachedKey :=
  match X.base64Decode key.keyMaterial with
  | .ok material => .ok ⟨key.kid, key.format, material, key.status⟩
  | .error e => .error (.internal ("failed to decode base64 key material for kid '" ++ key.kid
      ++ "': " ++ e))

/-- `KeyCache`.  The keys of the map are those of its values. -/
structure KeyCache where
  activeKey : Option CachedKey
  verificationKeys : List CachedKey
  /-- An `Instant`, in nanoseconds. -/
  lastRefresh : ℕ
  deriving DecidableEq

/-- `KeyCache::empty`, at the time it is called. -/
def KeyCache.empty (now : ℕ) : KeyCache := ⟨none, [], now⟩

/-- `verification_keys.get` -/
def findKey (keys : List CachedKey) (kid : String) : Option CachedKey :=
  keys.find? fun key => decide (key.kid = kid)

/-- `verification_keys.insert` -/
def insertKey (keys : List CachedKey) (key : CachedKey) : List CachedKey :=
  key :: keys.filter fun old => decide (old.kid ≠ key.kid)

/-! ### Calls -/

/-- What a reading of the cache is for. -/
inductive CacheUse
  /-- `is_cache_stale` -/
  | staleness
  /-- the result of `get_signing_key` -/
  | signingKey
  /-- `get_verification_key` -/
  | verificationKey (kid : String)
  /-- the result of `get_all_verification_keys` -/
  | allVerificationKeys
  deriving DecidableEq

/-- What a new key is made of. -/
structure FreshKey where
  /-- `Uuid::now_v7()` -/
  uuid : Uuid
  /-- `rand::fill` of 32 bytes -/
  bytes : List UInt8
  length_eq : bytes.length = 32

/-- The calls.  A cache belongs to the manager of the given number. -/
inductive KeyCall
  | getActiveKey (service : String)
  | getKeyByKid (kid : String)
  | getVerificationKeys (service : String)
  | updateKeyStatus (kid : String) (newStatus : KeyStatus) (timestamp : DateTime)
  | storeKey (key : SigningKeyMetadata)
  | countExpired (now : DateTime)
  | retireExpired (now : DateTime)
  | createCache (manager : ℕ)
  | readCache (manager : ℕ) (use : CacheUse)
  | replaceCache (manager : ℕ) (activeKey : Option CachedKey) (verificationKeys : List CachedKey)
  | insertCache (manager : ℕ) (key : CachedKey)
  | utcNow
  | freshKey
  /-- the message that there is no active key, before one is made -/
  | bootstrapping (service : String)

/-- What a call answers.  A reading of the cache comes with the time of it. -/
@[reducible] def KeyCall.Answer : KeyCall → Type
  | .getActiveKey _ => Except KeyError (Option SigningKeyMetadata)
  | .getKeyByKid _ => Except KeyError (Option SigningKeyMetadata)
  | .getVerificationKeys _ => Except KeyError (List SigningKeyMetadata)
  | .updateKeyStatus _ _ _ => Except KeyError Unit
  | .storeKey _ => Except KeyError Unit
  | .countExpired _ => Except KeyError ℕ
  | .retireExpired _ => Except KeyError ℕ
  | .createCache _ => Unit
  | .readCache _ _ => KeyCache × ℕ
  | .replaceCache _ _ _ => Unit
  | .insertCache _ _ => Unit
  | .utcNow => DateTime
  | .freshKey => FreshKey
  | .bootstrapping _ => Unit

/-- A program over these calls. -/
abbrev KeyProg := Prog KeyCall KeyCall.Answer KeyError

namespace KeyProg

def getActiveKey (service : String) : KeyProg (Option SigningKeyMetadata) :=
  .call (.getActiveKey service) Prog.ofExcept

def getKeyByKid (kid : String) : KeyProg (Option SigningKeyMetadata) :=
  .call (.getKeyByKid kid) Prog.ofExcept

def getVerificationKeys (service : String) : KeyProg (List SigningKeyMetadata) :=
  .call (.getVerificationKeys service) Prog.ofExcept

def updateKeyStatus (kid : String) (newStatus : KeyStatus) (timestamp : DateTime) :
    KeyProg Unit :=
  .call (.updateKeyStatus kid newStatus timestamp) Prog.ofExcept

def storeKey (key : SigningKeyMetadata) : KeyProg Unit := .call (.storeKey key) Prog.ofExcept

/-- A reading of the manager's cache, and the time of it. -/
def readCache (manager : ℕ) (use : CacheUse) : KeyProg (KeyCache × ℕ) :=
  .call (.readCache manager use) .ret

def replaceCache (manager : ℕ) (activeKey : Option CachedKey)
    (verificationKeys : List CachedKey) : KeyProg Unit :=
  .call (.replaceCache manager activeKey verificationKeys) .ret

def insertCache (manager : ℕ) (key : CachedKey) : KeyProg Unit :=
  .call (.insertCache manager key) .ret

def utcNow : KeyProg DateTime := .call .utcNow .ret

def freshKey : KeyProg FreshKey := .call .freshKey .ret

def bootstrapping (service : String) : KeyProg Unit := .call (.bootstrapping service) .ret

/-- `retire_expired_draining_keys` -/
def retireExpiredDrainingKeys (b : KeyBackend) (now : DateTime) : KeyProg ℕ :=
  match b with
  | .surrealDb =>
    .bind (.call (.countExpired now) Prog.ofExcept) fun total =>
      .bind (.call (.retireExpired now) Prog.ofExcept) fun _ => .ret total
  | _ => .call (.retireExpired now) Prog.ofExcept

end KeyProg

/-! ### The manager -/

/-- `KeyRotationConfig`, as far as the manager and the check read it. -/
structure KeyRotationConfig where
  rotationPeriodSecs : UInt64
  drainGracePeriodSecs : UInt64
  checkIntervalSecs : UInt64
  deriving DecidableEq

/-- `KeyManager`, with the number its cache goes by. -/
structure KeyManager where
  id : ℕ
  serviceName : String
  config : KeyRotationConfig
  deriving DecidableEq

/-- The end of the drain window of a key demoted at a time. -/
def KeyRotationConfig.drainExpiresAt (config : KeyRotationConfig) (now : DateTime) :
    Except KeyError DateTime :=
  -- the sum of two `u64` values, as an `i64`
  let secs := (config.rotationPeriodSecs + config.drainGracePeriodSecs).toInt64.toInt
  if secs.natAbs ≤ 9223372036854775 then
    match now.addSecs secs with
    | some t => .ok t
    | none => .error (.internal "`DateTime + TimeDelta` overflowed")
  else .error (.internal "TimeDelta::seconds out of bounds")

/-- The same where a rotation gets that far. -/
def KeyRotationConfig.drainDeadline (config : KeyRotationConfig) (now : DateTime) :
    Option DateTime :=
  (config.drainExpiresAt now).toOption

namespace KeyManager

variable (X : KeyExterns) (b : KeyBackend) (mgr : KeyManager)

/-- The key `rotate` makes. -/
def newKey (now : DateTime) (fresh : FreshKey) : SigningKeyMetadata where
  kid := X.uuidToString fresh.uuid
  format := .pasetoV4Local
  keyMaterial := X.base64Encode fresh.bytes
  status := .active
  createdAt := now
  activatedAt := some now
  drainingSince := none
  retiredAt := none
  drainExpiresAt := none
  serviceName := mgr.serviceName
  keyHash := (X.blake3 fresh.bytes).toHex

/-- `refresh_cache` -/
def refreshCache : KeyProg Unit := do
  let activeMeta ← KeyProg.getActiveKey mgr.serviceName
  let verificationMetas ← KeyProg.getVerificationKeys mgr.serviceName
  let activeCached ← Prog.ofExcept (activeMeta.mapM (decodeKeyMetadata X))
  let verificationKeys ← Prog.ofExcept (verificationMetas.mapM (decodeKeyMetadata X))
  KeyProg.replaceCache mgr.id activeCached (verificationKeys.foldl insertKey [])

/-- `is_cache_stale` -/
def isCacheStale : KeyProg Bool := do
  let (cache, now) ← KeyProg.readCache mgr.id .staleness
  return decide (mgr.config.checkIntervalSecs.toNat ≤ (now - cache.lastRefresh) / nanosPerSec)

/-- The start of both functions that look at how old the cache is. -/
def ensureCacheFresh : KeyProg Unit := do
  if ← mgr.isCacheStale then mgr.refreshCache X else return ()

/-- `get_signing_key` -/
def getSigningKey : KeyProg (Option CachedKey) := do
  mgr.ensureCacheFresh X
  let (cache, _) ← KeyProg.readCache mgr.id .signingKey
  return cache.activeKey

/-- `get_verification_key` -/
def getVerificationKey (kid : String) : KeyProg (Option CachedKey) := do
  let (cache, _) ← KeyProg.readCache mgr.id (.verificationKey kid)
  match findKey cache.verificationKeys kid with
  | some cached => return some cached
  | none =>
    match ← KeyProg.getKeyByKid kid with
    | some m =>
      if m.status = .active ∨ m.status = .draining then
        let cached ← Prog.ofExcept (decodeKeyMetadata X m)
        KeyProg.insertCache mgr.id cached
        return some cached
      else return none
    | none => return none

/-- `get_all_verification_keys` -/
def getAllVerificationKeys : KeyProg (List CachedKey) := do
  mgr.ensureCacheFresh X
  let (cache, _) ← KeyProg.readCache mgr.id .allVerificationKeys
  return cache.verificationKeys

/-- The old active key of `rotate`, if there is one, goes into draining.  The end of its
drain window is computed, and only logged. -/
def demote (now : DateTime) : Option SigningKeyMetadata → KeyProg Unit
  | some old => do
    let _drainExpiresAt ← Prog.ofExcept (mgr.config.drainExpiresAt now)
    KeyProg.updateKeyStatus old.kid .draining now
  | none => return ()

/-- `rotate` -/
def rotate : KeyProg SigningKeyMetadata := do
  let now ← KeyProg.utcNow
  let fresh ← KeyProg.freshKey
  let oldActive ← KeyProg.getActiveKey mgr.serviceName
  mgr.demote now oldActive
  KeyProg.storeKey (mgr.newKey X now fresh)
  mgr.refreshCache X
  return mgr.newKey X now fresh

/-- `retire_expired` -/
def retireExpired : KeyProg ℕ := do
  let now ← KeyProg.utcNow
  let retiredCount ← KeyProg.retireExpiredDrainingKeys b now
  if 0 < retiredCount then mgr.refreshCache X
  return retiredCount

end KeyManager

/-! ### The rotation check -/

section Check

variable (X : KeyExterns) (b : KeyBackend) (mgr : KeyManager)

/-- The key with these metadata has served its rotation period. -/
def needsRotation (key : SigningKeyMetadata) : KeyProg Bool :=
  match key.activatedAt with
  | some activatedAt => do
    let now ← KeyProg.utcNow
    let ageSecs := now.numSecondsSince activatedAt
    return decide (0 ≤ ageSecs ∧ mgr.config.rotationPeriodSecs.toNat ≤ ageSecs.toNat)
  -- no activation time recorded
  | none => return true

/-- The second step of the check: is a new key due? -/
def rotationDue : KeyProg Bool := do
  match ← (mgr.getSigningKey X).attempt with
  | .ok (some activeKey) =>
    match ← (KeyProg.getKeyByKid activeKey.kid).attempt with
    | .ok (some key) => needsRotation mgr key
    | .ok none => return true
    | .error _ => return false
  | .ok none =>
    KeyProg.bootstrapping mgr.serviceName
    return true
  | .error _ => return false

/-- `perform_rotation_check` -/
def performRotationCheck (force : Bool) : KeyProg Unit := do
  let _retired ← (mgr.retireExpired X b).attempt
  let due ← if force then pure true else rotationDue X mgr
  if due then
    let _oldKid ← (mgr.getSigningKey X).attempt
    let _rotated ← (mgr.rotate X).attempt
    return ()
  else return ()

/-- What an instance may run: the public functions of its manager, each a program of its own. -/
inductive KeyOp
  | new (mgr : KeyManager)
  | refreshCache (mgr : KeyManager)
  | getSigningKey (mgr : KeyManager)
  | getVerificationKey (mgr : KeyManager) (kid : String)
  | getAllVerificationKeys (mgr : KeyManager)
  | rotate (mgr : KeyManager)
  | retireExpired (mgr : KeyManager)
  | rotationCheck (mgr : KeyManager) (force : Bool)

def KeyOp.manager : KeyOp → KeyManager
  | .new mgr | .refreshCache mgr | .getSigningKey mgr | .getVerificationKey mgr _
  | .getAllVerificationKeys mgr | .rotate mgr | .retireExpired mgr | .rotationCheck mgr _ => mgr

def KeyOp.program : KeyOp → KeyProg Unit
  | .new mgr => .call (.createCache mgr.id) .ret
  | .refreshCache mgr => mgr.refreshCache X
  | .getSigningKey mgr => do let _ ← mgr.getSigningKey X
  | .getVerificationKey mgr kid => do let _ ← mgr.getVerificationKey X kid
  | .getAllVerificationKeys mgr => do let _ ← mgr.getAllVerificationKeys X
  | .rotate mgr => do let _ ← mgr.rotate X
  | .retireExpired mgr => do let _ ← mgr.retireExpired X b
  | .rotationCheck mgr force => performRotationCheck X b mgr force

end Check

/-! ### The world -/

/-- The store, the cache of every manager and the clocks. -/
structure KeyWorld where
  table : KeyTable
  caches : ℕ → KeyCache
  /-- The monotonic clock, which never runs backwards. -/
  instant : ℕ
  /-- The last reading of the wall clock. -/
  utc : DateTime

/-- What a call cannot know of itself: the clocks, the fault it meets, what is picked of several
rows, and fresh random bytes. -/
structure KeyInput where
  /-- When it is made. -/
  instant : ℕ
  /-- What the wall clock shows. -/
  utc : DateTime
  fault : KeyFault
  /-- Which of several rows the database picks. -/
  pick : ℕ
  fresh : FreshKey

/-- The later of two times. -/
def DateTime.latest (s t : DateTime) : DateTime := if s ≤ t then t else s

/-- The world in which the cache of this manager is another one. -/
def KeyWorld.setCache (w : KeyWorld) (manager : ℕ) (cache : KeyCache) : KeyWorld :=
  { w with caches := Function.update w.caches manager cache }

@[simp] theorem KeyWorld.setCache_caches_self (w : KeyWorld) (manager : ℕ) (cache : KeyCache) :
    (w.setCache manager cache).caches manager = cache :=
  Function.update_self _ _ _

theorem KeyWorld.setCache_caches_of_ne {manager owner : ℕ} (h : manager ≠ owner) (w : KeyWorld)
    (cache : KeyCache) : (w.setCache owner cache).caches manager = w.caches manager :=
  Function.update_of_ne h _ _

/-- The answer to a call that comes at the world's time. -/
def KeyWorld.answerNow (X : KeyExterns) (b : KeyBackend) (w : KeyWorld) (input : KeyInput) :
    (c : KeyCall) → KeyWorld × c.Answer
  | .getActiveKey service => (w, ActonService.getActiveKey b input.fault input.pick service w.table)
  | .getKeyByKid kid => (w, ActonService.getKeyByKid b input.fault kid w.table)
  | .getVerificationKeys service =>
    (w, ActonService.getVerificationKeys b input.fault service w.table)
  | .updateKeyStatus kid newStatus timestamp =>
    let r := ActonService.updateKeyStatus b input.fault kid newStatus timestamp w.table
    ({ w with table := r.1 }, r.2)
  | .storeKey key =>
    let r := ActonService.storeKey X b input.fault key w.table
    ({ w with table := r.1 }, r.2)
  | .countExpired now => (w, ActonService.countExpired X b input.fault now w.table)
  | .retireExpired now =>
    let r := ActonService.retireExpired X b input.fault now w.table
    ({ w with table := r.1 }, r.2)
  | .createCache manager => (w.setCache manager (KeyCache.empty w.instant), ())
  | .readCache manager _ => (w, (w.caches manager, w.instant))
  | .replaceCache manager activeKey verificationKeys =>
    (w.setCache manager ⟨activeKey, verificationKeys, w.instant⟩, ())
  | .insertCache manager key =>
    let cache := w.caches manager
    (w.setCache manager
      { cache with verificationKeys := insertKey cache.verificationKeys key }, ())
  | .utcNow =>
    -- the wall clock is not set back
    let now := w.utc.latest input.utc
    ({ w with utc := now }, now)
  | .freshKey => (w, input.fresh)
  | .bootstrapping _ => (w, ())

/-- How the world answers a call; its time moves on. -/
def KeyWorld.answer (X : KeyExterns) (b : KeyBackend) (w : KeyWorld) (_who : ℕ) (input : KeyInput)
    (c : KeyCall) : KeyWorld × c.Answer :=
  KeyWorld.answerNow X b { w with instant := max w.instant input.instant } input c

/-! ### The protocol of a manager -/

/-- Where a program stands between the reading of `rotate`, or of the check before it, and the
new key. -/
inductive RotateStep
  | quiet
  /-- The cache has just told it that there is no active key. -/
  | keyless
  /-- It has just found this active key. -/
  | found (old : SigningKeyMetadata)
  /-- It has just found none, or demoted the one it found. -/
  | clear
  deriving DecidableEq

/-- What a program has been answered so far, as far as its later calls depend on it. -/
structure Stage where
  activeMeta : Option (Option SigningKeyMetadata)
  verificationMetas : Option (List SigningKeyMetadata)
  byKid : Option SigningKeyMetadata
  step : RotateStep

/-- The stage of a program that has not begun. -/
def Stage.start : Stage := ⟨none, none, none, .quiet⟩

/-- The stage after a call and its answer.  All keys are read after the active one. -/
def Stage.next (s : Stage) : (c : KeyCall) → c.Answer → Stage
  | .getActiveKey _, .ok none =>
    { s with activeMeta := some none, verificationMetas := none, step := .clear }
  | .getActiveKey _, .ok (some old) =>
    { s with activeMeta := some (some old), verificationMetas := none, step := .found old }
  | .getVerificationKeys _, .ok metas =>
    { s with verificationMetas := some metas, step := .quiet }
  | .getKeyByKid _, .ok m => { s with byKid := m, step := .quiet }
  | .updateKeyStatus _ _ _, .ok () => { s with step := .clear }
  | .readCache _ .signingKey, (⟨none, _, _⟩, _) => { s with step := .keyless }
  | _, _ => { s with step := .quiet }

theorem Stage.next_readCache_signingKey (s : Stage) (manager : ℕ) (reading : KeyCache × ℕ) :
    s.next (.readCache manager .signingKey) reading
      = { s with step := if reading.1.activeKey = none then .keyless else .quiet } := by
  rcases reading with ⟨⟨_ | activeKey, keys, lastRefresh⟩, now⟩ <;> rfl

/-- What was read stays so until it is read again, or forgotten. -/
theorem Stage.next_frame (s : Stage) (c : KeyCall) (a : c.Answer) :
    ((∀ service, c ≠ .getActiveKey service) → (s.next c a).activeMeta = s.activeMeta) ∧
    ((∀ service, c ≠ .getVerificationKeys service) → (s.next c a).verificationMetas = none ∨
      (s.next c a).verificationMetas = s.verificationMetas ∧
        (s.next c a).activeMeta = s.activeMeta) ∧
    ((∀ kid, c ≠ .getKeyByKid kid) → (s.next c a).byKid = s.byKid) := by
  have hquiet : ∀ t : Stage, t.activeMeta = s.activeMeta →
      t.verificationMetas = s.verificationMetas →
      t.verificationMetas = none ∨
        t.verificationMetas = s.verificationMetas ∧ t.activeMeta = s.activeMeta :=
    fun t hactive hall => .inr ⟨hall, hactive⟩
  cases c with
  | getActiveKey service =>
    refine ⟨fun h => absurd rfl (h service), fun _ => ?_, fun _ => ?_⟩
    · rcases a with e | _ | old
      · exact hquiet _ rfl rfl
      · exact .inl rfl
      · exact .inl rfl
    · rcases a with e | _ | old <;> rfl
  | getVerificationKeys service =>
    refine ⟨fun _ => ?_, fun h => absurd rfl (h service), fun _ => ?_⟩ <;> cases a <;> rfl
  | getKeyByKid kid =>
    refine ⟨fun _ => ?_, fun _ => ?_, fun h => absurd rfl (h kid)⟩
    · cases a <;> rfl
    · cases a <;> exact hquiet _ rfl rfl
  | updateKeyStatus kid newStatus timestamp =>
    refine ⟨fun _ => ?_, fun _ => ?_, fun _ => ?_⟩
    · cases a <;> rfl
    · cases a <;> exact hquiet _ rfl rfl
    · cases a <;> rfl
  | readCache manager use =>
    cases use with
    | signingKey =>
      rw [Stage.next_readCache_signingKey]
      exact ⟨fun _ => rfl, fun _ => hquiet _ rfl rfl, fun _ => rfl⟩
    | _ => exact ⟨fun _ => rfl, fun _ => hquiet _ rfl rfl, fun _ => rfl⟩
  | _ => exact ⟨fun _ => rfl, fun _ => hquiet _ rfl rfl, fun _ => rfl⟩

/-- The calls a manager makes at a stage.  A key is demoted right after it was found active;
the new one is stored right after that, or after none was found; the cache is filled with what
was read before; and the check speaks of bootstrapping right after a cache without a key. -/
def KeyManager.MayCall (X : KeyExterns) (mgr : KeyManager) (s : Stage) : KeyCall → Prop
  | .getActiveKey service => service = mgr.serviceName
  | .getVerificationKeys service => service = mgr.serviceName
  | .updateKeyStatus kid newStatus timestamp =>
    newStatus = .draining ∧ (∃ old, s.step = .found old ∧ old.kid = kid) ∧
      ∃ d, mgr.config.drainExpiresAt timestamp = .ok d
  | .storeKey key => s.step = .clear ∧ ∃ now fresh, key = mgr.newKey X now fresh
  | .createCache manager | .readCache manager _ => manager = mgr.id
  | .replaceCache manager activeKey verificationKeys =>
    manager = mgr.id ∧
      (∃ m, s.activeMeta = some m ∧ m.mapM (decodeKeyMetadata X) = .ok activeKey) ∧
      ∃ ms keys, s.verificationMetas = some ms ∧ ms.mapM (decodeKeyMetadata X) = .ok keys ∧
        verificationKeys = keys.foldl insertKey []
  | .insertCache manager key =>
    manager = mgr.id ∧ ∃ m, s.byKid = some m ∧ (m.status = .active ∨ m.status = .draining) ∧
      decodeKeyMetadata X m = .ok key
  | .bootstrapping service => service = mgr.serviceName ∧ s.step = .keyless
  | .getKeyByKid _ | .countExpired _ | .retireExpired _ | .utcNow | .freshKey => True

/-- The program keeps to the manager's protocol. -/
abbrev KeyManager.Keeps {α : Type} (X : KeyExterns) (mgr : KeyManager) (s : Stage)
    (p : KeyProg α) : Prop :=
  p.Follows (mgr.MayCall X) Stage.next s

section Protocol

variable {X : KeyExterns} {mgr : KeyManager}

theorem keeps_refreshCache (s : Stage) : mgr.Keeps X s (mgr.refreshCache X) := by
  refine ⟨rfl, fun activeAnswer => ?_⟩
  rcases activeAnswer with e | activeMeta
  · trivial
  refine ⟨rfl, fun verificationAnswer => ?_⟩
  rcases verificationAnswer with e | metas
  · trivial
  have hstage : ((s.next (.getActiveKey mgr.serviceName) (.ok activeMeta)).next
      (.getVerificationKeys mgr.serviceName) (.ok metas)).activeMeta = some activeMeta := by
    cases activeMeta <;> rfl
  simp only [Prog.ofExcept, Prog.bind_eq, Prog.ret_bind]
  cases hactive : activeMeta.mapM (decodeKeyMetadata X) with
  | error e => trivial
  | ok activeCached =>
    cases hkeys : metas.mapM (decodeKeyMetadata X) with
    | error e => trivial
    | ok keys =>
      exact ⟨⟨rfl, ⟨activeMeta, hstage, hactive⟩, metas, keys, rfl, hkeys, rfl⟩, fun _ => trivial⟩

theorem keeps_ensureCacheFresh (s : Stage) : mgr.Keeps X s (mgr.ensureCacheFresh X) := by
  refine ⟨rfl, fun reading => ?_⟩
  simp only [Prog.ret_bind, Prog.pure_eq]
  split
  · exact keeps_refreshCache _
  · trivial

theorem keeps_getSigningKey (s : Stage) : mgr.Keeps X s (mgr.getSigningKey X) := by
  apply Prog.Follows.bind keeps_ensureCacheFresh
  exact fun _ _ => ⟨rfl, fun _ => trivial⟩

theorem keeps_getAllVerificationKeys (s : Stage) :
    mgr.Keeps X s (mgr.getAllVerificationKeys X) := by
  apply Prog.Follows.bind keeps_ensureCacheFresh
  exact fun _ _ => ⟨rfl, fun _ => trivial⟩

theorem keeps_getVerificationKey (kid : String) (s : Stage) :
    mgr.Keeps X s (mgr.getVerificationKey X kid) := by
  refine ⟨rfl, fun reading => ?_⟩
  simp only [Prog.ret_bind]
  cases findKey reading.1.verificationKeys kid with
  | some cached => trivial
  | none =>
    refine ⟨trivial, fun byKidAnswer => ?_⟩
    rcases byKidAnswer with e | _ | m
    · trivial
    · trivial
    · simp only [Prog.ofExcept, Prog.ret_bind]
      by_cases hstatus : m.status = .active ∨ m.status = .draining
      · rw [if_pos hstatus]
        cases hkey : decodeKeyMetadata X m with
        | error e => trivial
        | ok key => exact ⟨⟨rfl, m, rfl, hstatus, hkey⟩, fun _ => trivial⟩
      · rw [if_neg hstatus]
        trivial

/-- What `rotate` does once the old key is out of the way. -/
theorem keeps_storeNew {now : DateTime} {fresh : FreshKey} {s : Stage} (h : s.step = .clear) :
    mgr.Keeps X s ((KeyProg.storeKey (mgr.newKey X now fresh)).bind fun _ =>
      (mgr.refreshCache X).bind fun _ => Prog.ret (mgr.newKey X now fresh)) := by
  refine ⟨⟨h, now, fresh, rfl⟩, fun storeAnswer => ?_⟩
  rcases storeAnswer with e | ⟨⟩
  · trivial
  · apply Prog.Follows.bind keeps_refreshCache
    exact fun _ _ => trivial

theorem keeps_rotate (s : Stage) : mgr.Keeps X s (mgr.rotate X) := by
  refine ⟨trivial, fun now => ⟨trivial, fun fresh => ⟨rfl, fun activeAnswer => ?_⟩⟩⟩
  rcases activeAnswer with e | _ | old
  · trivial
  · exact keeps_storeNew rfl
  · simp only [Prog.ofExcept, Prog.ret_bind, KeyManager.demote, Prog.bind_eq]
    cases hdrain : mgr.config.drainExpiresAt now with
    | error e => trivial
    | ok d =>
      refine ⟨⟨rfl, ⟨old, rfl, rfl⟩, d, hdrain⟩, fun updateAnswer => ?_⟩
      rcases updateAnswer with e | ⟨⟩
      · trivial
      · exact keeps_storeNew rfl

theorem keeps_retireExpiredDrainingKeys (b : KeyBackend) (now : DateTime) (s : Stage) :
    mgr.Keeps X s (KeyProg.retireExpiredDrainingKeys b now) := by
  have hstatement : ∀ s : Stage, mgr.Keeps X s
      (.call (.retireExpired now) Prog.ofExcept : KeyProg ℕ) :=
    fun s => ⟨trivial, fun answer => Prog.follows_ofExcept answer _⟩
  cases b with
  | postgres => exact hstatement s
  | turso => exact hstatement s
  | surrealDb =>
    refine ⟨trivial, fun countAnswer => ?_⟩
    rcases countAnswer with e | total
    · trivial
    · apply Prog.Follows.bind hstatement
      exact fun _ _ => trivial

theorem keeps_retireExpired (b : KeyBackend) (s : Stage) :
    mgr.Keeps X s (mgr.retireExpired X b) := by
  refine ⟨trivial, fun now => ?_⟩
  apply Prog.Follows.bind (keeps_retireExpiredDrainingKeys b now)
  intro retiredCount s
  simp only [Prog.bind_eq, Prog.pure_eq]
  split
  · apply Prog.Follows.bind keeps_refreshCache
    exact fun _ _ => trivial
  · trivial

theorem keeps_needsRotation (key : SigningKeyMetadata) (s : Stage) :
    mgr.Keeps X s (needsRotation mgr key) := by
  rw [needsRotation]
  cases key.activatedAt with
  | none => trivial
  | some activatedAt => exact ⟨trivial, fun _ => trivial⟩

theorem keeps_rotationDue (s : Stage) : mgr.Keeps X s (rotationDue X mgr) := by
  apply Prog.Follows.bind_attempt keeps_ensureCacheFresh
  · refine fun _ s => ⟨rfl, fun reading => ?_⟩
    rcases reading with ⟨⟨_ | activeKey, keys, lastRefresh⟩, now⟩
    · exact ⟨⟨rfl, rfl⟩, fun _ => trivial⟩
    · refine ⟨trivial, fun byKidAnswer => ?_⟩
      rcases byKidAnswer with e | _ | key
      · trivial
      · trivial
      · exact keeps_needsRotation key _
  · exact fun _ _ => trivial

theorem keeps_performRotationCheck (b : KeyBackend) (force : Bool) (s : Stage) :
    mgr.Keeps X s (performRotationCheck X b mgr force) := by
  have hrotate : ∀ due s, mgr.Keeps X s (if due = true then
      (mgr.getSigningKey X).attempt.bind fun _ => (mgr.rotate X).attempt.bind fun _ => Prog.ret ()
      else Prog.ret ()) := by
    intro due s
    split
    · apply Prog.Follows.bind fun s => (keeps_getSigningKey s).attempt
      intro _ s
      apply Prog.Follows.bind fun s => (keeps_rotate s).attempt
      exact fun _ _ => trivial
    · trivial
  apply Prog.Follows.bind fun s => (keeps_retireExpired b s).attempt
  intro _ s
  cases force with
  | true => exact hrotate true s
  | false => exact Prog.Follows.bind keeps_rotationDue hrotate s

/-- Dropping the result of a program changes none of its calls. -/
theorem keeps_discard {α : Type} {p : KeyProg α} (h : ∀ s, mgr.Keeps X s p) (s : Stage) :
    mgr.Keeps X s (p.bind fun _ => Prog.ret ()) :=
  Prog.Follows.bind h (fun _ _ => Prog.follows_ret _ _) s

/-- **Every function of a manager keeps to its protocol.** -/
theorem keeps_program (X : KeyExterns) (b : KeyBackend) (op : KeyOp) (s : Stage) :
    op.manager.Keeps X s (op.program X b) := by
  cases op with
  | new mgr => exact ⟨rfl, fun _ => trivial⟩
  | refreshCache mgr => exact keeps_refreshCache s
  | getSigningKey mgr => exact keeps_discard keeps_getSigningKey s
  | getVerificationKey mgr kid => exact keeps_discard (keeps_getVerificationKey kid) s
  | getAllVerificationKeys mgr => exact keeps_discard keeps_getAllVerificationKeys s
  | rotate mgr => exact keeps_discard keeps_rotate s
  | retireExpired mgr => exact keeps_discard (keeps_retireExpired b) s
  | rotationCheck mgr force => exact keeps_performRotationCheck b force s

/-- **Where a call can leave its program**: on the way to a new key it is after a reading of the
active key, after a demotion that succeeded, and after a cache that had no key. -/
theorem KeyWorld.step_next_cases (X : KeyExterns) (b : KeyBackend) (s : Stage) (c : KeyCall)
    (w : KeyWorld) (who : ℕ) (input : KeyInput) :
    (s.next c (w.answer X b who input c).2).step = .quiet ∨
      (∃ service, c = .getActiveKey service ∧
        ActonService.getActiveKey b input.fault input.pick service w.table = .ok none ∧
        (s.next c (w.answer X b who input c).2).step = .clear) ∨
      (∃ service old, c = .getActiveKey service ∧
        ActonService.getActiveKey b input.fault input.pick service w.table = .ok (some old) ∧
        (s.next c (w.answer X b who input c).2).step = .found old) ∨
      (∃ kid newStatus timestamp, c = .updateKeyStatus kid newStatus timestamp ∧
        (ActonService.updateKeyStatus b input.fault kid newStatus timestamp w.table).2 = .ok () ∧
        (s.next c (w.answer X b who input c).2).step = .clear) ∨
      ∃ manager, c = .readCache manager .signingKey ∧ (w.caches manager).activeKey = none ∧
        (s.next c (w.answer X b who input c).2).step = .keyless := by
  -- only three of the calls move the step, each by its answer
  cases c with
  | getActiveKey service =>
    simp only [KeyWorld.answer, KeyWorld.answerNow]
    rcases hread : ActonService.getActiveKey b input.fault input.pick service w.table with
      e | _ | old
    · exact .inl rfl
    · exact .inr (.inl ⟨service, rfl, hread, rfl⟩)
    · exact .inr (.inr (.inl ⟨service, old, rfl, hread, rfl⟩))
  | updateKeyStatus kid newStatus timestamp =>
    simp only [KeyWorld.answer, KeyWorld.answerNow]
    rcases hanswer : (ActonService.updateKeyStatus b input.fault kid newStatus timestamp
      w.table).2 with e | _
    · exact .inl rfl
    · exact .inr (.inr (.inr (.inl ⟨kid, newStatus, timestamp, rfl, hanswer, rfl⟩)))
  | readCache manager use =>
    cases use with
    | signingKey =>
      rw [Stage.next_readCache_signingKey]
      by_cases hkey : (w.caches manager).activeKey = none
      · exact .inr (.inr (.inr (.inr ⟨manager, rfl, hkey, if_pos hkey⟩)))
      · exact .inl (if_neg hkey)
    | _ => exact .inl rfl
  | getVerificationKeys service =>
    simp only [KeyWorld.answer, KeyWorld.answerNow]
    cases ActonService.getVerificationKeys b input.fault service w.table <;> exact .inl rfl
  | getKeyByKid kid =>
    simp only [KeyWorld.answer, KeyWorld.answerNow]
    cases ActonService.getKeyByKid b input.fault kid w.table <;> exact .inl rfl
  | _ => exact .inl rfl

/-- **What a call of a manager can do to the table**: nothing, or make one more key, or take
the status of some keys that are not retired further. -/
theorem KeyWorld.answer_table_cases {b : KeyBackend} {s : Stage} {c : KeyCall}
    (hmay : mgr.MayCall X s c) (w : KeyWorld) (who : ℕ) (input : KeyInput) :
    (w.answer X b who input c).1.table = w.table ∨
      (∃ key, c = .storeKey key ∧
        w.table.insert (b.row key) = some (w.answer X b who input c).1.table) ∨
      ∃ p newStatus timestamp, newStatus ≠ .active ∧ (∀ r, p r = true → r.status ≠ .retired) ∧
        (w.answer X b who input c).1.table = w.table.update p (withStatus b newStatus timestamp)
          (withStatus_kid b newStatus timestamp) := by
  cases c with
  | storeKey key =>
    rcases storeKey_cases X b input.fault key w.table with h | h
    · exact .inl h
    · exact .inr (.inl ⟨key, rfl, h⟩)
  | updateKeyStatus kid newStatus timestamp =>
    obtain ⟨rfl, -⟩ := hmay
    rcases updateKeyStatus_cases b input.fault kid .draining timestamp w.table with h | h
    · exact .inl h
    · refine .inr (.inr ⟨_, .draining, timestamp, nofun, fun r hr => ?_, h⟩)
      simp only [updatesStatus, Bool.and_eq_true, decide_eq_true_eq] at hr
      simp [hr.2]
  | retireExpired now =>
    rcases retireExpired_cases X b input.fault now w.table with h | h
    · exact .inl h
    · refine .inr (.inr ⟨_, .retired, now, nofun, fun r hr => ?_, h⟩)
      simp only [retires, Bool.and_eq_true, decide_eq_true_eq] at hr
      simp [hr.1]
  | _ => exact .inl rfl

end Protocol

/-! ### Samples -/

/-- The material of sample keys, with its base64 text and its digest. -/
def sampleMaterial : List (List UInt8 × String × Digest) :=
  [(List.replicate 32 0, "AAAAAAAAAAAAAAAAAAAAAAAAAAAAAAAAAAAAAAAAAAA=",
    digestOfHex "2ada83c1819a5372dae1238fc1ded123c8104fdaa15862aaee69428a1820fcda"),
   (List.replicate 32 1, "AQEBAQEBAQEBAQEBAQEBAQEBAQEBAQEBAQEBAQEBAQE=",
    digestOfHex "9515049071ed913149a80d3bb7891fcd4c6c1e3d14ad878939a80f9b9a91e08c"),
   (List.replicate 32 2, "AgICAgICAgICAgICAgICAgICAgICAgICAgICAgICAgI=",
    digestOfHex "e4d60b4531b114100aab5f9907d1718c613e603482a15bee8ccda17e5c9bb3ea")]

/-- The third-party functions at the samples.  SurrealDB orders `NONE` below every text. -/
def sampleKeyExterns : KeyExterns where
  toStoreExterns :=
    { sampleStore with
      blake3 := fun bytes =>
        ((sampleMaterial.find? fun m => decide (m.1 = bytes)).map (·.2.2)).getD (digestOfHex "") }
  base64Encode bytes := ((sampleMaterial.find? fun m => decide (m.1 = bytes)).map (·.2.1)).getD ""
  base64Decode text :=
    match sampleMaterial.find? fun m => decide (m.2.1 = text) with
    | some m => .ok m.1
    | none => .error "Invalid symbol"
  uniqueViolation _ := "duplicate key value violates unique constraint"
  surrealNoneLe := true

/-- A day between rotations, five minutes of grace, a check a minute: the defaults. -/
def sampleConfig : KeyRotationConfig := ⟨86400, 300, 60⟩

/-- The managers of two instances of one service. -/
def sampleManager (id : ℕ) : KeyManager := ⟨id, "billing", sampleConfig⟩

/-- The new key with the given number. -/
def sampleFresh (n : UInt8) : FreshKey :=
  ⟨⟨[1, 145, 0, 0, 0, 0, 112, 0, 128, 0, 0, 0, 0, 0, 0, n], rfl⟩, List.replicate 32 n,
    List.length_replicate⟩

/-- The time that many seconds after the sample time. -/
def sampleAfter (secs : ℕ) : DateTime := ((sampleTime 0).addSecs secs).getD (sampleTime 0)

/-- A call some seconds after the sample time that meets no fault. -/
def sampleInput (secs : ℕ) (n : UInt8) : KeyInput :=
  ⟨secs * nanosPerSec, sampleAfter secs, .none, 0, sampleFresh n⟩

/-- A world with an empty store, at the sample time. -/
def sampleWorld : KeyWorld :=
  ⟨⟨[], List.nodup_nil⟩, fun _ => KeyCache.empty 0, 0, sampleTime 0⟩

/-- The program's next calls, all with one input. -/
def sampleSteps (who count : ℕ) (input : KeyInput) : List (Action KeyOp KeyInput) :=
  List.replicate count (.step who input)

end ActonService
