import ActonService.Audit.Rows
import ActonService.Lib.Redis

/-!
# Refresh tokens in Redis

The refresh tokens of `auth/tokens/refresh.rs` and `RedisRefreshStorage`.  A token is stored
under a key of its own, and its identifier is put into two sets, one for its user and one for
its family, from which the tokens to revoke are taken.  Every entry has a time to live; each
`store` sets that of both sets to the one of its own token.

The keys are texts with a common start, so a token called `family:x` has the key of a family's
set.  What `serde_json` writes it reads back, so a stored text is the token itself.

## Main definitions

* `RefreshTokenData` — a token as it is stored.
* `tokenKey`, `familyKey`, `userKey` — the keys.
* `RedisRefresh.store`, `get`, `revoke`, `revokeFamily`, `revokeAllForUser`, `rotate` — the
  functions, as programs that make one command at a time.

## Main results

* `tokenKey_injective`, `tokenKey_ne_indexKey` — when keys differ.
* `exec_store`, `exec_get`, `exec_revoke` — what the functions do when every command comes
  through.
-/

namespace ActonService

open Effect

/-! ### Tokens -/

/-- `RefreshTokenMetadata` -/
structure RefreshTokenMetadata where
  userAgent : Option String
  ipAddress : Option String
  deviceId : Option String
  createdAt : DateTime
  deriving DecidableEq, Repr

/-- `RefreshTokenData` -/
structure RefreshTokenData where
  tokenId : String
  userId : String
  familyId : String
  isRevoked : Bool
  expiresAt : DateTime
  metadata : RefreshTokenMetadata
  deriving DecidableEq, Repr

/-- `Error::Internal` -/
inductive RefreshError
  | internal (message : String)
  deriving DecidableEq, Repr

/-- The parameters of `store`. -/
structure NewToken where
  tokenId : String
  userId : String
  familyId : String
  expiresAt : DateTime
  metadata : RefreshTokenMetadata
  deriving DecidableEq, Repr

/-- The token `store` writes: with the parameters it is given, and not revoked. -/
def NewToken.data (new : NewToken) : RefreshTokenData :=
  ⟨new.tokenId, new.userId, new.familyId, false, new.expiresAt, new.metadata⟩

/-! ### The clock -/

/-- A reading of the clock, to the millisecond. -/
structure Clock where
  /-- Milliseconds since the Unix epoch. -/
  millis : ℕ
  /-- The end of the year 262142. -/
  millis_lt : millis < 8210266876800000
  deriving DecidableEq

theorem Clock.nanos_lt (t : Clock) : t.millis % 1000 * 1000000 < 2000000000 := by
  omega

theorem Clock.secs_ge (t : Clock) : (-8334601228800 : ℤ) ≤ (t.millis / 1000 : ℕ) := by
  omega

theorem Clock.secs_le (t : Clock) : ((t.millis / 1000 : ℕ) : ℤ) ≤ 8210266876799 := by
  have := t.millis_lt
  omega

/-- `Utc::now` -/
def Clock.utc (t : Clock) : DateTime :=
  ⟨(t.millis / 1000 : ℕ), t.millis % 1000 * 1000000, t.nanos_lt, t.secs_ge, t.secs_le⟩

/-- The later of two readings of the clock. -/
def Clock.latest (s t : Clock) : Clock := if s.millis ≤ t.millis then t else s

theorem Clock.le_latest (s t : Clock) : s.millis ≤ (s.latest t).millis := by
  unfold Clock.latest
  split
  · assumption
  · exact Nat.le_refl _

/-- The time to live a token gets: the whole seconds it has left, and at least one. -/
def ttlSecs (expiresAt : DateTime) (now : Clock) : ℤ := max 1 (expiresAt.numSecondsSince now.utc)

theorem ttlSecs_pos (expiresAt : DateTime) (now : Clock) : 0 < ttlSecs expiresAt now :=
  Int.lt_of_lt_of_le Int.one_pos (Int.le_max_left 1 _)

/-- Redis takes the time to live of every token, also a while after it was computed. -/
theorem fitsExpire_ttlSecs (expiresAt : DateTime) (now later : Clock) :
    Redis.fitsExpire later.millis (ttlSecs expiresAt now) = true := by
  have hlater := later.millis_lt
  have hnow := now.millis_lt
  have hsecs := expiresAt.secs_le
  have hnanos := expiresAt.nanos_lt
  have hle : expiresAt.numSecondsSince now.utc ≤ 8210266876801 := by
    have hnanosNow := now.nanos_lt
    unfold DateTime.numSecondsSince nanosPerSec Clock.utc
    dsimp only
    have hdiff : (expiresAt.secs - (now.millis / 1000 : ℕ)) * (1000000000 : ℕ)
        + (expiresAt.nanos - (now.millis % 1000 * 1000000 : ℕ)) ≤ 8210266876801000000000 := by
      omega
    exact Int.tdiv_le_tdiv (by decide) hdiff
  have hpos := ttlSecs_pos expiresAt now
  unfold Redis.fitsExpire ttlSecs at *
  rw [decide_eq_true_eq]
  omega

/-- `SETEX` with the time to live of a token is carried out. -/
theorem carryOut_setEx_ttlSecs (m : Redis.Keyspace RefreshTokenData) (key : String)
    (v : Redis.Value RefreshTokenData) (expiresAt : DateTime) (now later : Clock) :
    Redis.carryOut later.millis m (.setEx key v (ttlSecs expiresAt now))
      = .ok (m.put key ⟨v, some (Redis.deadline later.millis (ttlSecs expiresAt now))⟩, ()) := by
  simp only [Redis.carryOut, fitsExpire_ttlSecs, ttlSecs_pos, decide_true, Bool.and_self, if_true]

/-! ### Keys -/

/-- `token_key` -/
def tokenKey (start tokenId : String) : String := start ++ ":" ++ tokenId

/-- `family_key` -/
def familyKey (start familyId : String) : String := start ++ ":family:" ++ familyId

/-- `user_key` -/
def userKey (start userId : String) : String := start ++ ":user:" ++ userId

/-- The set a token is listed in. -/
inductive TokenIndex
  | family (id : String)
  | user (id : String)
  deriving DecidableEq, Repr

def TokenIndex.key (start : String) : TokenIndex → String
  | .family id => familyKey start id
  | .user id => userKey start id

/-- The token is listed in the set. -/
def TokenIndex.covers (index : TokenIndex) (data : RefreshTokenData) : Prop :=
  match index with
  | .family id => data.familyId = id
  | .user id => data.userId = id

/-- The token's identifier gives it no key of a set. -/
def PlainId (tokenId : String) : Prop :=
  startsWith tokenId "family:" = false ∧ startsWith tokenId "user:" = false

instance decidablePlainId (tokenId : String) : Decidable (PlainId tokenId) :=
  inferInstanceAs (Decidable (_ ∧ _))

theorem tokenKey_injective (start : String) : Function.Injective (tokenKey start) := by
  intro s t h
  simp only [tokenKey, String.append_right_inj] at h
  exact h

/-- The set of a family or a user has the key of a token whose identifier is not plain. -/
theorem TokenIndex.key_eq_tokenKey (start : String) (index : TokenIndex) :
    ∃ tokenId, index.key start = tokenKey start tokenId ∧ ¬ PlainId tokenId := by
  cases index with
  | family id =>
    refine ⟨"family:" ++ id, ?_, fun h => ?_⟩
    · simp only [TokenIndex.key, familyKey, tokenKey, String.append_assoc]
      rfl
    · simpa using h.1
  | user id =>
    refine ⟨"user:" ++ id, ?_, fun h => ?_⟩
    · simp only [TokenIndex.key, userKey, tokenKey, String.append_assoc]
      rfl
    · simpa using h.2

theorem exists_of_startsWith {s start : String} (h : startsWith s start = true) :
    ∃ rest, s = start ++ rest := by
  obtain ⟨rest, hrest⟩ := List.isPrefixOf_iff_prefix.mp h
  refine ⟨String.ofList rest, String.toList_inj.mp ?_⟩
  rw [String.toList_append, String.toList_ofList, hrest]

/-- A token whose identifier is not plain has the key of a set. -/
theorem exists_indexKey_of_not_plainId {tokenId : String} (start : String)
    (h : ¬ PlainId tokenId) : ∃ index : TokenIndex, tokenKey start tokenId = index.key start := by
  rw [PlainId, not_and_or, Bool.not_eq_false, Bool.not_eq_false] at h
  rcases h with h | h
  · obtain ⟨rest, rfl⟩ := exists_of_startsWith h
    refine ⟨.family rest, ?_⟩
    simp only [TokenIndex.key, familyKey, tokenKey, String.append_assoc]
    rfl
  · obtain ⟨rest, rfl⟩ := exists_of_startsWith h
    refine ⟨.user rest, ?_⟩
    simp only [TokenIndex.key, userKey, tokenKey, String.append_assoc]
    rfl

/-- A plain identifier gives a token a key of its own. -/
theorem tokenKey_ne_indexKey {start tokenId : String} (h : PlainId tokenId) (index : TokenIndex) :
    tokenKey start tokenId ≠ index.key start := by
  intro heq
  obtain ⟨other, hkey, hother⟩ := index.key_eq_tokenKey start
  rw [hkey] at heq
  exact hother (tokenKey_injective start heq ▸ h)

theorem TokenIndex.key_injective (start : String) :
    Function.Injective (TokenIndex.key start) := by
  intro i j h
  cases i with
  | family a =>
    cases j with
    | family b =>
      simp only [TokenIndex.key, familyKey, String.append_right_inj] at h
      rw [h]
    | user b =>
      simp only [TokenIndex.key, familyKey, userKey, String.append_assoc,
        String.append_right_inj] at h
      simpa using congrArg String.toList h
  | user a =>
    cases j with
    | family b =>
      simp only [TokenIndex.key, familyKey, userKey, String.append_assoc,
        String.append_right_inj] at h
      simpa using congrArg String.toList h
    | user b =>
      simp only [TokenIndex.key, userKey, String.append_right_inj] at h
      rw [h]

theorem TokenIndex.user_key_ne_family_key (start userId familyId : String) :
    TokenIndex.key start (.user userId) ≠ TokenIndex.key start (.family familyId) :=
  fun heq => TokenIndex.noConfusion (TokenIndex.key_injective start heq)

/-! ### Programs -/

/-- The calls the storage makes: commands to Redis, and readings of the clock. -/
inductive RefreshCall
  | redis (c : Redis.Command RefreshTokenData)
  /-- `Utc::now` -/
  | utcNow

/-- The type of an answer. -/
def RefreshCall.Answer : RefreshCall → Type
  | .redis c => Except String (Redis.Reply c)
  | .utcNow => Clock

/-- What a call cannot know of itself: the reading of the clock, and the fault its command meets. -/
structure RefreshInput where
  clock : Clock
  fault : Redis.Fault

/-- The answer to a call. -/
def refreshAnswer (m : Redis.Keyspace RefreshTokenData) (who : ℕ) (input : RefreshInput) :
    (c : RefreshCall) → Redis.Keyspace RefreshTokenData × c.Answer
  | .redis c => Redis.answer m who ⟨input.clock.millis, input.fault⟩ c
  | .utcNow => (m, input.clock)

/-- Programs over the calls. -/
abbrev RefreshProg (α : Type) := Prog RefreshCall RefreshCall.Answer RefreshError α

namespace RedisRefresh

/-- A command, whose error becomes `Error::Internal` with a text before it. -/
def command (context : String) (c : Redis.Command RefreshTokenData) :
    RefreshProg (Redis.Reply c) :=
  .call (.redis c) fun answer =>
    match answer with
    | .ok reply => .ret reply
    | .error e => .fail (.internal (context ++ e))

/-- `self.pool.get()` -/
def connect : RefreshProg Unit := command "Failed to get Redis connection: " .connect

def utcNow : RefreshProg Clock := .call .utcNow .ret

variable (start : String)

/-- The token is put into a set, which then lives as long as the token. -/
def addToIndex (index : TokenIndex) (tokenId addContext expireContext : String) (ttl : ℤ) :
    RefreshProg Unit := do
  let _ ← command addContext (.sadd (index.key start) tokenId)
  command expireContext (.expire (index.key start) ttl)

/-- `store` -/
def store (new : NewToken) : RefreshProg Unit := do
  connect
  let now ← utcNow
  let ttl := ttlSecs new.expiresAt now
  let _ ← command "Failed to store refresh token: "
    (.setEx (tokenKey start new.tokenId) (.text new.data) ttl)
  addToIndex start (.family new.familyId) new.tokenId "Failed to add to family set: "
    "Failed to set family TTL: " ttl
  addToIndex start (.user new.userId) new.tokenId "Failed to add to user set: "
    "Failed to set user TTL: " ttl

/-- `serde_json::from_str` on what `GET` answers. -/
def parseToken : Option (Redis.Value RefreshTokenData) → RefreshProg (Option RefreshTokenData)
  | none => .ret none
  | some (.text data) => .ret (some data)
  | some _ => .fail (.internal "Failed to parse token: invalid type")

/-- `get` -/
def get (tokenId : String) : RefreshProg (Option RefreshTokenData) := do
  connect
  let json ← command "Failed to get refresh token: " (.get (tokenKey start tokenId))
  parseToken json

/-- `revoke` -/
def revoke (tokenId : String) : RefreshProg Unit := do
  connect
  match ← get start tokenId with
  | none => .ret ()
  | some data =>
    let now ← utcNow
    command "Failed to revoke token: "
      (.setEx (tokenKey start tokenId) (.text { data with isRevoked := true })
        (ttlSecs data.expiresAt now))

/-- The loop over the tokens of a set, with the number of tokens already revoked. -/
def revokeEach : List String → ℕ → RefreshProg ℕ
  | [], revoked => .ret revoked
  | tokenId :: rest, revoked => do
    revoke start tokenId
    revokeEach rest (revoked + 1)

/-- The tokens of a set are revoked one after the other, and counted. -/
def revokeIndex (index : TokenIndex) (context : String) : RefreshProg ℕ := do
  connect
  let tokenIds ← command context (.smembers (index.key start))
  revokeEach start tokenIds 0

/-- `revoke_family` -/
def revokeFamily (familyId : String) : RefreshProg ℕ :=
  revokeIndex start (.family familyId) "Failed to get family members: "

/-- `revoke_all_for_user` -/
def revokeAllForUser (userId : String) : RefreshProg ℕ :=
  revokeIndex start (.user userId) "Failed to get user tokens: "

/-- `rotate` -/
def rotate (oldTokenId : String) (new : NewToken) : RefreshProg Unit := do
  revoke start oldTokenId
  store start new

/-! ### Running the programs -/

/-- The program run alone at a time, with every command coming through. -/
def runAt {α : Type} (now : Clock) (p : RefreshProg α) (m : Redis.Keyspace RefreshTokenData) :
    Except RefreshError α × Redis.Keyspace RefreshTokenData :=
  exec refreshAnswer 0 p m fun _ => ⟨now, .none⟩

variable {start : String} {now : Clock} {m m' : Redis.Keyspace RefreshTokenData}

@[simp] theorem runAt_ret {α : Type} (a : α) : runAt now (.ret a) m = (.ok a, m) := rfl

theorem runAt_bind {α β : Type} (p : RefreshProg α) (f : α → RefreshProg β) :
    runAt now (p.bind f) m =
      match runAt now p m with
      | (.ok a, m') => runAt now (f a) m'
      | (.error e, m') => (.error e, m') := by
  unfold runAt
  rw [exec_bind_const]
  rcases exec refreshAnswer 0 p m fun _ => ⟨now, .none⟩ with ⟨_ | _, _⟩ <;> rfl

/-- What comes behind a program that succeeds runs on the keys it leaves. -/
theorem runAt_bind_ok {α β : Type} {p : RefreshProg α} {a : α} (h : runAt now p m = (.ok a, m'))
    (f : α → RefreshProg β) : runAt now (p.bind f) m = runAt now (f a) m' := by
  rw [runAt_bind, h]

theorem runAt_bind_error {α β : Type} {p : RefreshProg α} {e : RefreshError}
    (h : runAt now p m = (.error e, m')) (f : α → RefreshProg β) :
    runAt now (p.bind f) m = (.error e, m') := by
  rw [runAt_bind, h]

@[simp] theorem runAt_utcNow : runAt now utcNow m = (.ok now, m) := rfl

/-- A command that is carried out, when no fault is met. -/
theorem runAt_command {c : Redis.Command RefreshTokenData} {reply : Redis.Reply c}
    (h : Redis.carryOut now.millis m c = .ok (m', reply)) (context : String) :
    runAt now (command context c) m = (.ok reply, m') := by
  simp only [runAt, command, exec, refreshAnswer, Redis.answer_ok h]

theorem runAt_command_error {c : Redis.Command RefreshTokenData} {e : String}
    (h : Redis.carryOut now.millis m c = .error e) (context : String) :
    runAt now (command context c) m = (.error (.internal (context ++ e)), m) := by
  simp only [runAt, command, exec, refreshAnswer, Redis.answer, h]

@[simp] theorem runAt_connect : runAt now connect m = (.ok (), m) :=
  runAt_command (c := .connect) rfl _

/-- The key has no entry, or one that is a token. -/
def TokenOrNone (m : Redis.Keyspace RefreshTokenData) (now : Clock) (key : String) : Prop :=
  m.find? now.millis key = none ∨ ∃ data x, m.find? now.millis key = some ⟨.text data, x⟩

/-- The key has no entry, or one that is a set. -/
def SetOrNone (m : Redis.Keyspace RefreshTokenData) (now : Clock) (key : String) : Prop :=
  m.find? now.millis key = none ∨ ∃ l x, m.find? now.millis key = some ⟨.set l, x⟩

/-- The token a key holds at a time; none if it has expired or holds something else. -/
def tokenAt (m : Redis.Keyspace RefreshTokenData) (now : Clock) (key : String) :
    Option RefreshTokenData :=
  match m.find? now.millis key with
  | some ⟨.text data, _⟩ => some data
  | _ => none

/-- `get` reads the token and changes nothing. -/
theorem exec_get {tokenId : String} (h : TokenOrNone m now (tokenKey start tokenId)) :
    runAt now (get start tokenId) m = (.ok (tokenAt m now (tokenKey start tokenId)), m) := by
  unfold get
  rw [Prog.bind_eq, runAt_bind_ok runAt_connect, Prog.bind_eq]
  rcases h with h | ⟨data, x, h⟩
  · have hget : Redis.carryOut now.millis m (.get (tokenKey start tokenId)) = .ok (m, none) := by
      simp only [Redis.carryOut, h]
    rw [runAt_bind_ok (runAt_command hget _), tokenAt, h]
    rfl
  · have hget : Redis.carryOut now.millis m (.get (tokenKey start tokenId))
        = .ok (m, some (.text data)) := by
      simp only [Redis.carryOut, h]
    rw [runAt_bind_ok (runAt_command hget _), tokenAt, h]
    rfl

/-- A key with a set is refused, and nothing changes. -/
theorem exec_get_of_set {tokenId : String} {l : List String} {x : Option ℕ}
    (h : m.find? now.millis (tokenKey start tokenId) = some ⟨.set l, x⟩) :
    ∃ e, runAt now (get start tokenId) m = (.error e, m) := by
  have hget : Redis.carryOut now.millis m (.get (tokenKey start tokenId))
      = .error Redis.wrongType := by
    simp only [Redis.carryOut, h]
  unfold get
  rw [Prog.bind_eq, runAt_bind_ok runAt_connect, Prog.bind_eq,
    runAt_bind_error (runAt_command_error hget _)]
  exact ⟨_, rfl⟩

/-- The keys after the token of one was revoked. -/
def revokedAt (now : Clock) (m : Redis.Keyspace RefreshTokenData) (key : String) :
    Redis.Keyspace RefreshTokenData :=
  match tokenAt m now key with
  | some data =>
    m.put key ⟨.text { data with isRevoked := true },
      some (Redis.deadline now.millis (ttlSecs data.expiresAt now))⟩
  | none => m

/-- `revoke` marks the token as revoked, where there is one, and keeps the rest of it. -/
theorem exec_revoke {tokenId : String} (h : TokenOrNone m now (tokenKey start tokenId)) :
    runAt now (revoke start tokenId) m
      = (.ok (), revokedAt now m (tokenKey start tokenId)) := by
  unfold revoke revokedAt
  rw [Prog.bind_eq, runAt_bind_ok runAt_connect, Prog.bind_eq, runAt_bind_ok (exec_get h)]
  cases tokenAt m now (tokenKey start tokenId) with
  | none => rfl
  | some data => exact runAt_command (carryOut_setEx_ttlSecs _ _ _ _ _ _) _

/-- `revoke` of a set's key fails and changes nothing. -/
theorem exec_revoke_of_set {tokenId : String} {l : List String} {x : Option ℕ}
    (h : m.find? now.millis (tokenKey start tokenId) = some ⟨.set l, x⟩) :
    ∃ e, runAt now (revoke start tokenId) m = (.error e, m) := by
  obtain ⟨e, hget⟩ := exec_get_of_set h
  refine ⟨e, ?_⟩
  unfold revoke
  rw [Prog.bind_eq, runAt_bind_ok runAt_connect, Prog.bind_eq, runAt_bind_error hget]

/-- The keys after a token was put into a set that lives until a time. -/
def listedAt (now : Clock) (m : Redis.Keyspace RefreshTokenData) (key tokenId : String) (x : ℕ) :
    Redis.Keyspace RefreshTokenData :=
  let l := m.members now.millis key
  m.put key ⟨.set (if tokenId ∈ l then l else l ++ [tokenId]), some x⟩

theorem mem_listed (tokenId : String) (l : List String) :
    tokenId ∈ if tokenId ∈ l then l else l ++ [tokenId] := by
  split
  · assumption
  · simp

theorem mem_listed_of_mem {t : String} {l : List String} (h : t ∈ l) (tokenId : String) :
    t ∈ if tokenId ∈ l then l else l ++ [tokenId] := by
  split
  · exact h
  · exact List.mem_append_left _ h

/-- The two commands put the token into the set and set its time to live. -/
theorem exec_addToIndex {index : TokenIndex} (h : SetOrNone m now (index.key start))
    (tokenId addContext expireContext : String) (expiresAt : DateTime) :
    runAt now (addToIndex start index tokenId addContext expireContext (ttlSecs expiresAt now)) m
      = (.ok (), listedAt now m (index.key start) tokenId
          (Redis.deadline now.millis (ttlSecs expiresAt now))) := by
  -- `EXPIRE` gives the set the lifetime of the token
  have hexpire : ∀ (m₁ : Redis.Keyspace RefreshTokenData) e,
      m₁.find? now.millis (index.key start) = some e →
      Redis.carryOut now.millis m₁ (.expire (index.key start) (ttlSecs expiresAt now))
        = .ok (m₁.put (index.key start)
            ⟨e.value, some (Redis.deadline now.millis (ttlSecs expiresAt now))⟩, ()) := by
    intro m₁ e he
    simp only [Redis.carryOut, Redis.Keyspace.expire, fitsExpire_ttlSecs, he, ttlSecs_pos, if_true]
    rfl
  unfold addToIndex listedAt Redis.Keyspace.members
  rw [Prog.bind_eq]
  rcases h with h | ⟨l, x, h⟩
  · -- there is no set yet, and `SADD` makes one of a single member
    have hadd : Redis.carryOut now.millis m (.sadd (index.key start) tokenId)
        = .ok (m.put (index.key start) ⟨.set [tokenId], none⟩, ()) := by
      simp only [Redis.carryOut, Redis.Keyspace.sadd, h]
      rfl
    rw [runAt_bind_ok (runAt_command hadd _), h]
    refine (runAt_command (hexpire _ ⟨.set [tokenId], none⟩ ?_) _).trans ?_
    · rw [Redis.Keyspace.find?_put_self]
      rfl
    · rw [Redis.Keyspace.put_put]
      rfl
  · -- there is a set, and `SADD` puts the identifier behind its members if it is not among them
    have hadd : Redis.carryOut now.millis m (.sadd (index.key start) tokenId)
        = .ok (m.put (index.key start)
            ⟨.set (if tokenId ∈ l then l else l ++ [tokenId]), x⟩, ()) := by
      simp only [Redis.carryOut, Redis.Keyspace.sadd, h]
      rfl
    rw [runAt_bind_ok (runAt_command hadd _), h]
    have hlive : Redis.Entry.live (τ := RefreshTokenData)
        ⟨.set (if tokenId ∈ l then l else l ++ [tokenId]), x⟩ now.millis = true :=
      (Redis.Keyspace.find?_eq_some_iff.mp h).2
    refine (runAt_command
      (hexpire _ ⟨.set (if tokenId ∈ l then l else l ++ [tokenId]), x⟩ ?_) _).trans ?_
    · rw [Redis.Keyspace.find?_put_self, if_pos hlive]
    · rw [Redis.Keyspace.put_put]

/-- The keys after a token was stored. -/
def storedAt (start : String) (now : Clock) (m : Redis.Keyspace RefreshTokenData)
    (new : NewToken) : Redis.Keyspace RefreshTokenData :=
  let x := Redis.deadline now.millis (ttlSecs new.expiresAt now)
  let m₁ := m.put (tokenKey start new.tokenId) ⟨.text new.data, some x⟩
  let m₂ := listedAt now m₁ (TokenIndex.key start (.family new.familyId)) new.tokenId x
  listedAt now m₂ (TokenIndex.key start (.user new.userId)) new.tokenId x

theorem SetOrNone.put {key k : String} {e : Redis.Entry RefreshTokenData}
    (h : SetOrNone m now k) (hne : k ≠ key) : SetOrNone (m.put key e) now k := by
  unfold SetOrNone
  rw [Redis.Keyspace.find?_put_of_ne _ _ _ hne]
  exact h

/-- `store` writes the token and lists it. -/
theorem exec_store {new : NewToken} (hid : PlainId new.tokenId)
    (h : ∀ index : TokenIndex, SetOrNone m now (index.key start)) :
    runAt now (store start new) m = (.ok (), storedAt start now m new) := by
  have hne : ∀ index : TokenIndex, index.key start ≠ tokenKey start new.tokenId :=
    fun index => (tokenKey_ne_indexKey hid index).symm
  have hkeys : TokenIndex.key start (.user new.userId)
      ≠ TokenIndex.key start (.family new.familyId) := TokenIndex.user_key_ne_family_key _ _ _
  unfold store
  rw [Prog.bind_eq, runAt_bind_ok runAt_connect, Prog.bind_eq, runAt_bind_ok runAt_utcNow]
  dsimp only
  rw [Prog.bind_eq, runAt_bind_ok (runAt_command (carryOut_setEx_ttlSecs _ _ _ _ _ _) _),
    Prog.bind_eq, runAt_bind_ok (exec_addToIndex ((h (.family new.familyId)).put (hne _)) _ _ _ _)]
  exact exec_addToIndex (((h (.user new.userId)).put (hne _)).put hkeys) _ _ _ _

end RedisRefresh

end ActonService
