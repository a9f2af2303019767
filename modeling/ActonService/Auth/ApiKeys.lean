import ActonService.Auth.RefreshRevocation

/-!
# API keys in Redis

`RedisApiKeyStorage` of `auth/api_keys/mod.rs`.  A key is stored as one record under its
identifier, and its lookup start leads to the identifier.  `revoke` and `update_last_used` both
read the record, change a field of it and write the whole record back, with other clients'
commands in between.

A text in Redis that is the JSON of a record is the record itself here; any other text is plain.

## Main definitions

* `ApiKey`, `ApiKeyText` — a key, and the texts stored.
* `keyPrefixForLookup` — the start a key is looked up by.
* `RedisApiKeys.getByKey`, `updateLastUsed`, `revoke` — the functions, as programs that make one
  command at a time.
* `WritesStale` — the client is about to write an unrevoked record it has read.
* `Undisturbed` — no client does when a `revoke` has written.

## Main results

* `always_program` — what every command of the functions does, and what it leads to.
* `revoked_of_reach` — **in every interleaving whose steps are undisturbed, what is read after a
  `revoke` has returned is revoked.**
-/

namespace ActonService

open Effect Run

/-! ### Keys -/

/-- `ApiKey` -/
structure ApiKey where
  id : String
  userId : String
  name : String
  keyPrefix : String
  keyHash : String
  scopes : List String
  rateLimit : Option ℕ
  isRevoked : Bool
  lastUsedAt : Option DateTime
  expiresAt : Option DateTime
  createdAt : DateTime
  deriving DecidableEq, Repr

/-- A text in Redis: the record of a key, or any other text, such as the identifier a prefix leads
to. -/
inductive ApiKeyText
  | record (key : ApiKey)
  | plain (s : String)
  deriving DecidableEq, Repr

/-- The errors; a panic ends the call as well. -/
inductive ApiKeyError
  | validationError (message : String)
  | internal (message : String)
  | auth (message : String)
  | panicked
  deriving DecidableEq, Repr

/-- The characters that make up the first `n` bytes, if a character ends there. -/
def takeBytes : ℕ → List Char → Option (List Char)
  | 0, _ => some []
  | _ + 1, [] => none
  | n + 1, c :: s =>
    if c.utf8Size ≤ n + 1 then (takeBytes (n + 1 - c.utf8Size) s).map (c :: ·) else none

/-- `rsplitn(2, '_')`: what stands before the last underscore and behind it. -/
def splitLast (s : List Char) : Option (List Char × List Char) :=
  let behind := (s.reverse.takeWhile (· ≠ '_')).reverse
  if behind.length < s.length then some (s.take (s.length - behind.length - 1), behind) else none

/-- `key_prefix_for_lookup`.  A slice that does not end at a character panics. -/
def keyPrefixForLookup (key : String) : Except ApiKeyError (Option String) :=
  match splitLast key.toList with
  | none => .ok none
  | some (start, random) =>
    if 8 ≤ (String.ofList random).utf8ByteSize then
      match takeBytes 8 random with
      | some first => .ok (some (String.ofList start ++ "_" ++ String.ofList first))
      | none => .error .panicked
    else .ok none

example : keyPrefixForLookup "sk_live_abcdefghij" = .ok (some "sk_live_abcdefgh") := by decide

/-! ### Programs -/

/-- The calls of the functions: Redis commands, the clock, and a note of what a `revoke` has
returned. -/
inductive ApiKeyCall
  | redis (c : Redis.Command ApiKeyText)
  /-- `Utc::now` -/
  | utcNow
  /-- The caller of `revoke` sees that it has succeeded. -/
  | revokeReturned (id : String)

/-- The type of an answer. -/
def ApiKeyCall.Answer : ApiKeyCall → Type
  | .redis c => Except String (Redis.Reply c)
  | .utcNow => Clock
  | .revokeReturned _ => Unit

/-- Programs over the calls. -/
abbrev ApiKeyProg (α : Type) := Prog ApiKeyCall ApiKeyCall.Answer ApiKeyError α

namespace RedisApiKeys

/-- `id_key` -/
def idKey (id : String) : String := "api_key:id:" ++ id

/-- `prefix_key` -/
def prefixKey (start : String) : String := "api_key:prefix:" ++ start

theorem idKey_injective : Function.Injective idKey := by
  intro s t h
  simp only [idKey, String.append_right_inj] at h
  exact h

/-- A command, whose error becomes `Error::Internal` with a text before it. -/
def command (context : String) (c : Redis.Command ApiKeyText) : ApiKeyProg (Redis.Reply c) :=
  .call (.redis c) fun answer =>
    match answer with
    | .ok reply => .ret reply
    | .error e => .fail (.internal (context ++ e))

/-- `self.pool.get()` -/
def connect : ApiKeyProg Unit := command "Failed to get Redis connection: " .connect

def utcNow : ApiKeyProg Clock := .call .utcNow .ret

/-- `serde_json::from_str` on what `GET` answers. -/
def parseRecord : Option (Redis.Value ApiKeyText) → ApiKeyProg (Option ApiKey)
  | none => .ret none
  | some (.text (.record key)) => .ret (some key)
  | some _ => .fail (.internal "Failed to parse API key: invalid type")

/-- `get_by_id` -/
def getById (id : String) : ApiKeyProg (Option ApiKey) := do
  connect
  let json ← command "Failed to get API key: " (.get (idKey id))
  parseRecord json

/-- `serde_json::to_string` of a record, and the generator's `verify` of a key against a hash. -/
structure ApiKeyCodec where
  json : ApiKey → String
  verify : (key hash : String) → Except String Bool

variable (codec : ApiKeyCodec)

/-- A value as `GET` gives it for a `String`. -/
def asString : Redis.Value ApiKeyText → String
  | .text (.plain s) => s
  | .text (.record key) => codec.json key
  | .int n => toString n
  | .set _ => ""

/-- `get_by_prefix` -/
def getByPrefix (start : String) : ApiKeyProg (Option ApiKey) := do
  connect
  match ← command "Failed to get API key prefix: " (.get (prefixKey start)) with
  | some v => getById (asString codec v)
  | none => .ret none

/-- The record that was looked up is given out if the whole key matches its hash. -/
def verifyFound (key : String) : Option ApiKey → Except ApiKeyError (Option ApiKey)
  | none => .ok none
  | some apiKey =>
    match codec.verify key apiKey.keyHash with
    | .ok true => .ok (some apiKey)
    | .ok false => .ok none
    | .error e => .error (.auth e)

/-- `get_by_key` -/
def getByKey (key : String) : ApiKeyProg (Option ApiKey) := do
  match ← Prog.ofExcept (keyPrefixForLookup key) with
  | none => .fail (.validationError "Invalid API key format")
  | some start =>
    let found ← getByPrefix codec start
    Prog.ofExcept (verifyFound codec key found)

/-- The record is written back under its identifier, whatever stands there by now. -/
def writeBack (context id : String) (key : ApiKey) : ApiKeyProg Unit := do
  connect
  command context (.set (idKey id) (.text (.record key)))

/-- `update_last_used` -/
def updateLastUsed (id : String) : ApiKeyProg Unit := do
  match ← getById id with
  | none => .ret ()
  | some key =>
    let now ← utcNow
    writeBack "Failed to update API key: " id { key with lastUsedAt := some now.utc }

/-- `revoke` -/
def revoke (id : String) : ApiKeyProg Unit := do
  match ← getById id with
  | none => .ret ()
  | some key => writeBack "Failed to revoke API key: " id { key with isRevoked := true }

/-! ### The server and its clients -/

/-- What happens at the server and at its clients: a `GET` is answered with a record, a `revoke`
returns. -/
inductive ApiKeyEvent
  | read (redisKey : String) (key : ApiKey)
  | revoked (id : String)
  deriving DecidableEq

/-- A server, its clock and what has happened. -/
structure ApiKeyServer where
  now : Clock
  keys : Redis.Keyspace ApiKeyText
  log : List ApiKeyEvent

/-- The record a `GET` is answered with. -/
def readEvent : (c : Redis.Command ApiKeyText) → Except String (Redis.Reply c) → List ApiKeyEvent
  | .get redisKey, .ok (some (.text (.record key))) => [.read redisKey key]
  | _, _ => []

/-- The answer to a call.  The clock does not go back. -/
def apiKeyAnswer (s : ApiKeyServer) (who : ℕ) (input : RefreshInput) :
    (c : ApiKeyCall) → ApiKeyServer × c.Answer
  | .redis c =>
    let now := s.now.latest input.clock
    let r := Redis.answer s.keys who ⟨now.millis, input.fault⟩ c
    (⟨now, r.1, s.log ++ readEvent c r.2⟩, r.2)
  | .utcNow =>
    let now := s.now.latest input.clock
    ({ s with now := now }, now)
  | .revokeReturned id => ({ s with log := s.log ++ [.revoked id] }, ())

/-- What a client calls: the look-up of a key, the note of its use, or its revocation. -/
inductive ApiKeyOp
  | getByKey (key : String)
  | updateLastUsed (id : String)
  | revoke (id : String)

/-- The client's program. -/
def apiKeyProgram : ApiKeyOp → ApiKeyProg Unit
  | .getByKey key => do
    let _ ← getByKey codec key
  | .updateLastUsed id => updateLastUsed id
  | .revoke id => do
    revoke id
    .call (.revokeReturned id) .ret

/-! ### Stale records -/

/-- The client writes an unrevoked record without reading it again. -/
def WritesStale (id : String) : ApiKeyProg Unit → Prop
  | .call (.redis (.set redisKey (.text (.record key)))) _ =>
    redisKey = idKey id ∧ key.isRevoked = false
  | .call (.redis .connect) k => WritesStale id (k (.ok ()))
  | .call .utcNow k => ∃ now, WritesStale id (k now)
  | _ => False

/-- The client's `revoke` has succeeded, and the client is about to see it. -/
def AboutToReturn (id : String) (p : ApiKeyProg Unit) : Prop :=
  p.next? = some (.revokeReturned id)

/-- When a `revoke` has written its record, or found none, no client is about to write an
unrevoked record of that key. -/
def Undisturbed (pool : Pool ApiKeyServer ApiKeyCall ApiKeyCall.Answer ApiKeyError)
    (a : Action ApiKeyOp RefreshInput) : Prop :=
  ∀ id, AboutToReturn id ((pool.step apiKeyAnswer (apiKeyProgram codec) a).threads a.who) →
    ∀ who, ¬ WritesStale id (pool.threads who)

/-- The records a call has read. -/
def callEvents : (c : ApiKeyCall) → c.Answer → List ApiKeyEvent
  | .redis c, answer => readEvent c answer
  | _, _ => []

/-- The functions take connections, read, and write records. -/
inductive ReadsOrWrites : ApiKeyCall → Prop
  | connect : ReadsOrWrites (.redis .connect)
  | get (redisKey : String) : ReadsOrWrites (.redis (.get redisKey))
  | set (redisKey : String) (key : ApiKey) :
      ReadsOrWrites (.redis (.set redisKey (.text (.record key))))
  | utcNow : ReadsOrWrites .utcNow
  | revokeReturned (id : String) : ReadsOrWrites (.revokeReturned id)

/-- The call has written a revoked record, or has found none. -/
inductive Settles (id : String) : (c : ApiKeyCall) → c.Answer → Prop
  | found_none : Settles id (.redis (.get (idKey id))) (.ok none)
  | written (key : ApiKey) (h : key.isRevoked = true) :
      Settles id (.redis (.set (idKey id) (.text (.record key)))) (.ok ())

/-- What a call does, and what it leads to: a client gets to write an unrevoked record only by
reading one, and a `revoke` returns only when it has written a revoked record or found none. -/
structure Contract (c : ApiKeyCall) (k : c.Answer → ApiKeyProg Unit) : Prop where
  readsOrWrites : ReadsOrWrites c
  stale : ∀ id a, WritesStale id (k a) → WritesStale id (.call c k) ∨
    ∃ key, key.isRevoked = false ∧ .read (idKey id) key ∈ callEvents c a
  settles : ∀ id a, AboutToReturn id (k a) → Settles id c a

/-- A command that fails ends the program, so only its replies matter. -/
theorem always_command_bind {context : String} {c : Redis.Command ApiKeyText}
    {f : Redis.Reply c → ApiKeyProg Unit} (hc : ReadsOrWrites (.redis c))
    (hstale : ∀ id reply, WritesStale id (f reply) →
      WritesStale id ((command context c).bind f) ∨
        ∃ key, key.isRevoked = false ∧ .read (idKey id) key ∈ readEvent c (.ok reply))
    (hsettles : ∀ id reply, AboutToReturn id (f reply) → Settles id (.redis c) (.ok reply))
    (hf : ∀ reply, (f reply).Always Contract) :
    ((command context c).bind f).Always Contract := by
  refine ⟨⟨hc, fun id answer => ?_, fun id answer => ?_⟩, fun answer => ?_⟩
  · cases answer with
    | ok reply => exact hstale id reply
    | error e => exact fun h => h.elim
  · cases answer with
    | ok reply => exact hsettles id reply
    | error e =>
      intro h
      cases h
  · cases answer with
    | ok reply => exact hf reply
    | error e => exact trivial

theorem not_aboutToReturn_command (id context : String) (c : Redis.Command ApiKeyText)
    (f : Redis.Reply c → ApiKeyProg Unit) : ¬ AboutToReturn id ((command context c).bind f) := by
  intro h
  cases h

/-- A connection leads on to what comes behind it. -/
theorem always_connect_bind {f : Unit → ApiKeyProg Unit}
    (hreturn : ∀ id, ¬ AboutToReturn id (f ())) (hf : (f ()).Always Contract) :
    (connect.bind f).Always Contract :=
  always_command_bind .connect (fun _ _ h => .inl h)
    (fun id _ h => (hreturn id h).elim) fun _ => hf

/-- Reading a record, and what comes behind it. -/
theorem always_getById_bind {id : String} {f : Option ApiKey → ApiKeyProg Unit}
    (hnone : ∀ other, ¬ WritesStale other (f none))
    (hstale : ∀ other key, WritesStale other (f (some key)) →
      other = id ∧ key.isRevoked = false)
    (hreturnNone : ∀ other, AboutToReturn other (f none) → other = id)
    (hreturn : ∀ other key, ¬ AboutToReturn other (f (some key)))
    (hf : ∀ found, (f found).Always Contract) :
    ((getById id).bind f).Always Contract := by
  unfold getById
  simp only [Prog.bind_eq, Prog.bind_assoc]
  refine always_connect_bind (fun other => not_aboutToReturn_command _ _ _ _) ?_
  refine always_command_bind (.get (idKey id)) ?_ ?_ ?_
  · intro other reply h
    match reply with
    | none => exact (hnone other h).elim
    | some (.text (.record key)) =>
      obtain ⟨rfl, hkey⟩ := hstale other key h
      exact .inr ⟨key, hkey, List.mem_singleton_self _⟩
    | some (.text (.plain s)) => exact h.elim
    | some (.int n) => exact h.elim
    | some (.set l) => exact h.elim
  · intro other reply h
    match reply with
    | none =>
      rw [hreturnNone other h]
      exact .found_none
    | some (.text (.record key)) => exact (hreturn other key h).elim
    | some (.text (.plain s)) => cases h
    | some (.int n) => cases h
    | some (.set l) => cases h
  · intro reply
    match reply with
    | none => exact hf none
    | some (.text (.record key)) => exact hf (some key)
    | some (.text (.plain s)) => exact trivial
    | some (.int n) => exact trivial
    | some (.set l) => exact trivial

/-- Writing a record back keeps to the contract, if what follows does. -/
theorem always_writeBack_bind {context id : String} {key : ApiKey} {f : Unit → ApiKeyProg Unit}
    (hstale : ∀ other, ¬ WritesStale other (f ()))
    (hreturn : ∀ other, AboutToReturn other (f ()) → other = id ∧ key.isRevoked = true)
    (hf : (f ()).Always Contract) : ((writeBack context id key).bind f).Always Contract := by
  unfold writeBack
  simp only [Prog.bind_eq, Prog.bind_assoc]
  refine always_connect_bind (fun other => not_aboutToReturn_command _ _ _ _) ?_
  refine always_command_bind (.set (idKey id) key) ?_ ?_ fun _ => hf
  · exact fun other _ h => (hstale other h).elim
  · intro other _ h
    obtain ⟨rfl, hkey⟩ := hreturn other h
    exact .written key hkey

/-- A client that writes a record back writes a stale one only if that is unrevoked. -/
theorem writesStale_writeBack_bind {context id other : String} {key : ApiKey}
    {f : Unit → ApiKeyProg Unit} (h : WritesStale other ((writeBack context id key).bind f)) :
    other = id ∧ key.isRevoked = false :=
  ⟨(idKey_injective h.1).symm, h.2⟩

theorem always_revoke (id : String) :
    (apiKeyProgram codec (.revoke id)).Always Contract := by
  unfold apiKeyProgram revoke
  simp only [Prog.bind_eq, Prog.bind_assoc]
  have hreturned : Prog.Always Contract (.call (.revokeReturned id) .ret) :=
    ⟨⟨.revokeReturned id, fun _ _ h => h.elim, fun _ _ h => by cases h⟩, fun _ => trivial⟩
  refine always_getById_bind (fun _ h => h) ?_ ?_ ?_ fun found => ?_
  · intro other key h
    have hstale := writesStale_writeBack_bind h
    exact ⟨hstale.1, Bool.noConfusion hstale.2⟩
  · intro other h
    cases h
    rfl
  · exact fun other key h => by cases h
  · cases found with
    | none => exact hreturned
    | some key =>
      refine always_writeBack_bind (fun _ h => h) ?_ hreturned
      intro other h
      cases h
      exact ⟨rfl, rfl⟩

theorem always_updateLastUsed (id : String) :
    (apiKeyProgram codec (.updateLastUsed id)).Always Contract := by
  unfold apiKeyProgram updateLastUsed
  simp only [Prog.bind_eq]
  refine always_getById_bind (fun _ h => h) ?_ ?_ ?_ fun found => ?_
  · rintro other key ⟨now, h⟩
    exact ⟨(idKey_injective h.1).symm, h.2⟩
  · exact fun other h => by cases h
  · exact fun other key h => by cases h
  · cases found with
    | none => exact trivial
    | some key =>
      refine ⟨⟨.utcNow, fun other now h => .inl ⟨now, h⟩, fun other now h => by cases h⟩,
        fun now => ?_⟩
      show Prog.Always Contract (writeBack _ id _)
      rw [← Prog.bind_ret (writeBack _ id _)]
      exact always_writeBack_bind (fun _ h => h) (fun _ h => by cases h) trivial

theorem always_getByKey (key : String) :
    (apiKeyProgram codec (.getByKey key)).Always Contract := by
  unfold apiKeyProgram getByKey
  simp only [Prog.bind_eq, Prog.bind_assoc]
  match keyPrefixForLookup key with
  | .error e => exact trivial
  | .ok none => exact trivial
  | .ok (some start) =>
    show Prog.Always Contract (((getByPrefix codec start).bind _).bind _)
    unfold getByPrefix
    simp only [Prog.bind_eq, Prog.bind_assoc]
    refine always_connect_bind (fun other => not_aboutToReturn_command _ _ _ _) ?_
    -- the look-up of the prefix reads an index, which says nothing of a key
    refine always_command_bind (.get (prefixKey start)) ?_ ?_ ?_
    · intro other reply h
      cases reply <;> exact h.elim
    · intro other reply h
      cases reply <;> cases h
    · intro reply
      cases reply with
      | none => exact trivial
      | some v =>
        -- behind the last read nothing is called
        refine always_getById_bind (fun _ h => h) ?_ (fun _ h => by cases h) ?_ ?_
        · intro other apiKey h
          cases hfound : verifyFound codec key (some apiKey) with
          | ok r =>
            rw [hfound] at h
            exact h.elim
          | error e =>
            rw [hfound] at h
            exact h.elim
        · intro other apiKey h
          cases hfound : verifyFound codec key (some apiKey) with
          | ok r =>
            rw [hfound] at h
            cases h
          | error e =>
            rw [hfound] at h
            cases h
        · intro found
          cases verifyFound codec key found <;> exact trivial

/-- **Every command of the functions keeps the contract.** -/
theorem always_program (op : ApiKeyOp) : (apiKeyProgram codec op).Always Contract := by
  cases op with
  | getByKey key => exact always_getByKey codec key
  | updateLastUsed id => exact always_updateLastUsed codec id
  | revoke id => exact always_revoke codec id

/-- A client that starts has read nothing yet, and so is not about to write a stale record. -/
theorem not_writesStale_program (op : ApiKeyOp) (id : String) :
    ¬ WritesStale id (apiKeyProgram codec op) := by
  intro h
  cases op with
  | getByKey key =>
    unfold apiKeyProgram getByKey at h
    simp only [Prog.bind_eq, Prog.bind_assoc] at h
    match hlookup : keyPrefixForLookup key, h with
    | .error e, h => exact h.elim
    | .ok none, h => exact h.elim
    | .ok (some start), h => exact h.elim
  | updateLastUsed other => exact h.elim
  | revoke other => exact h.elim

/-- Nor is it about to return the success of a `revoke`. -/
theorem not_aboutToReturn_program (op : ApiKeyOp) (id : String) :
    ¬ AboutToReturn id (apiKeyProgram codec op) := by
  intro h
  cases op with
  | getByKey key =>
    unfold apiKeyProgram getByKey at h
    simp only [Prog.bind_eq, Prog.bind_assoc] at h
    match hlookup : keyPrefixForLookup key, h with
    | .error e, h => cases h
    | .ok none, h => cases h
    | .ok (some start), h => cases h
  | updateLastUsed other => cases h
  | revoke other => cases h

/-! ### One step -/

/-- What `GET` reads of the key is revoked. -/
def Safe (id : String) (s : ApiKeyServer) : Prop :=
  ∀ key x, s.keys.find? s.now.millis (idKey id) = some ⟨.text (.record key), x⟩ →
    key.isRevoked = true

variable {codec} {id : String} {s : ApiKeyServer} {who : ℕ} {input : RefreshInput}

/-- Time passing does not make a key unsafe. -/
theorem Safe.later (h : Safe id s) (now : Clock) (log : List ApiKeyEvent) :
    Safe id ⟨s.now.latest now, s.keys, log⟩ :=
  fun key x hfind => h key x (Redis.Keyspace.find?_of_le hfind (Clock.le_latest s.now now))

/-- A `GET` that is answered with a record has found it. -/
theorem find?_of_readEvent {c : Redis.Command ApiKeyText} {now : ℕ} {key : ApiKey}
    {redisKey : String} {keys : Redis.Keyspace ApiKeyText}
    (h : .read redisKey key ∈ readEvent c (Redis.answer keys who ⟨now, input.fault⟩ c).2) :
    ∃ x, keys.find? now redisKey = some ⟨.text (.record key), x⟩ := by
  rcases Redis.answer_cases keys who ⟨now, input.fault⟩ c with
    ⟨-, e, he⟩ | ⟨keys', reply, hcarry, -, hreply | ⟨e, he⟩⟩
  · rw [he] at h
    cases c <;> cases h
  · rw [hreply] at h
    cases c <;> try cases h
    next other =>
    match reply with
    | none => cases h
    | some (.int n) => cases h
    | some (.set l) => cases h
    | some (.text (.plain s)) => cases h
    | some (.text (.record found)) =>
      obtain ⟨rfl, rfl⟩ := ApiKeyEvent.read.inj (List.mem_singleton.mp h)
      simp only [Redis.carryOut] at hcarry
      split at hcarry
      · cases hcarry
      · cases hcarry
      · next e _ hfind =>
        obtain ⟨v, x⟩ := e
        cases hcarry
        exact ⟨x, hfind⟩
  · rw [he] at h
    cases c <;> cases h

/-- What a client reads of a safe key is revoked. -/
theorem Safe.read (h : Safe id s) {c : ApiKeyCall} {key : ApiKey}
    (hread : .read (idKey id) key ∈ callEvents c (apiKeyAnswer s who input c).2) :
    key.isRevoked = true := by
  cases c with
  | redis c =>
    obtain ⟨x, hfind⟩ := find?_of_readEvent hread
    exact h key x (Redis.Keyspace.find?_of_le hfind (Clock.le_latest s.now input.clock))
  | utcNow => cases hread
  | revokeReturned other => cases hread

/-- What the functions' commands do to the keys. -/
theorem answer_keys_cases {c : Redis.Command ApiKeyText} (hc : ReadsOrWrites (.redis c))
    (keys : Redis.Keyspace ApiKeyText) (input : Redis.Input) :
    (Redis.answer keys who input c).1 = keys ∨
      ∃ redisKey key, c = .set redisKey (.text (.record key)) ∧
        (Redis.answer keys who input c).1 = keys.put redisKey ⟨.text (.record key), none⟩ := by
  rcases Redis.answer_cases keys who input c with ⟨heq, -⟩ | ⟨keys', reply, hcarry, heq, -⟩
  · exact .inl heq
  · rw [heq]
    cases hc with
    | connect =>
      cases hcarry
      exact .inl rfl
    | get redisKey =>
      simp only [Redis.carryOut] at hcarry
      split at hcarry <;> cases hcarry <;> exact .inl rfl
    | set redisKey key =>
      cases hcarry
      exact .inr ⟨redisKey, key, rfl, rfl⟩

/-- A safe key stays safe under a call that writes no unrevoked record of it. -/
theorem Safe.answer (h : Safe id s) {c : ApiKeyCall} {k : c.Answer → ApiKeyProg Unit}
    (hc : ReadsOrWrites c) (hstale : ¬ WritesStale id (.call c k)) :
    Safe id (apiKeyAnswer s who input c).1 := by
  cases c with
  | utcNow => exact h.later input.clock s.log
  | revokeReturned other => exact h
  | redis c =>
    intro key x hfind
    simp only [apiKeyAnswer] at hfind
    rcases answer_keys_cases hc s.keys ⟨(s.now.latest input.clock).millis, input.fault⟩
      with heq | ⟨redisKey, written, rfl, heq⟩
    · rw [heq] at hfind
      exact h.later input.clock s.log key x hfind
    · rw [heq] at hfind
      by_cases hkey : idKey id = redisKey
      · -- the record of this key was written, and it is a revoked one
        subst hkey
        simp only [Redis.Keyspace.find?_put_self, Redis.Entry.live, if_true] at hfind
        cases hfind
        cases hrevoked : key.isRevoked with
        | true => rfl
        | false => exact absurd ⟨rfl, hrevoked⟩ hstale
      · rw [Redis.Keyspace.find?_put_of_ne _ _ _ hkey] at hfind
        exact h.later input.clock s.log key x hfind

/-- When a `revoke` has written or found nothing, its key is safe. -/
theorem Safe.of_settles {c : ApiKeyCall} (h : Settles id c (apiKeyAnswer s who input c).2) :
    Safe id (apiKeyAnswer s who input c).1 := by
  generalize hanswer : (apiKeyAnswer s who input c).2 = a at h
  intro key x hfind
  cases h with
  | found_none =>
    -- the key was not there when it was read
    have hcarry := Redis.carryOut_of_answer_ok hanswer
    simp only [apiKeyAnswer] at hfind
    simp only [Redis.carryOut] at hcarry
    split at hcarry
    · next hnone =>
      rw [← (Prod.mk.inj (Except.ok.inj hcarry)).1, hnone] at hfind
      cases hfind
    · cases hcarry
    · exact absurd (Prod.mk.inj (Except.ok.inj hcarry)).2 (Option.some_ne_none _)
  | written written hwritten =>
    have hcarry := Redis.carryOut_of_answer_ok hanswer
    simp only [apiKeyAnswer] at hfind
    rw [← (Prod.mk.inj (Except.ok.inj hcarry)).1] at hfind
    simp only [Redis.Keyspace.find?_put_self, Redis.Entry.live, if_true] at hfind
    cases hfind
    exact hwritten

/-! ### Interleavings -/

/-- A `revoke` of the key has succeeded: it has returned, or is about to. -/
def Succeeded (id : String)
    (pool : Pool ApiKeyServer ApiKeyCall ApiKeyCall.Answer ApiKeyError) : Prop :=
  .revoked id ∈ pool.state.log ∨ ∃ who, AboutToReturn id (pool.threads who)

/-- What is read of a key after a `revoke` of it has returned is revoked. -/
def ReadsRevoked (log : List ApiKeyEvent) : Prop :=
  ∀ pre event post, log = pre ++ event :: post →
    ∀ id key, event = .read (idKey id) key → .revoked id ∈ pre → key.isRevoked = true

/-- The invariant of every interleaving: the callers keep to the contract, and a key whose
revocation has succeeded is safe from then on. -/
structure RevokedInv
    (pool : Pool ApiKeyServer ApiKeyCall ApiKeyCall.Answer ApiKeyError) : Prop where
  contract : ∀ who, (pool.threads who).Always Contract
  safe : ∀ id, Succeeded id pool → Safe id pool.state
  not_stale : ∀ id, Succeeded id pool → ∀ who, ¬ WritesStale id (pool.threads who)
  reads : ReadsRevoked pool.state.log

/-- What an action leads to: the log grows by what a call has read, or by the return of a
`revoke`. -/
theorem apiKeyAnswer_log (s : ApiKeyServer) (who : ℕ) (input : RefreshInput) (c : ApiKeyCall) :
    (apiKeyAnswer s who input c).1.log = s.log ∨
      (∃ redisKey key, (apiKeyAnswer s who input c).1.log = s.log ++ [.read redisKey key] ∧
        .read redisKey key ∈ callEvents c (apiKeyAnswer s who input c).2) ∨
      ∃ id, c = .revokeReturned id ∧
        (apiKeyAnswer s who input c).1.log = s.log ++ [.revoked id] := by
  cases c with
  | utcNow => exact .inl rfl
  | revokeReturned id => exact .inr (.inr ⟨id, rfl, rfl⟩)
  | redis c =>
    simp only [apiKeyAnswer, callEvents]
    generalize (Redis.answer s.keys who ⟨(s.now.latest input.clock).millis, input.fault⟩ c).2
      = answer
    unfold readEvent
    split
    · next redisKey key => exact .inr (.inl ⟨redisKey, key, rfl, List.mem_singleton_self _⟩)
    · exact .inl (List.append_nil _)

theorem RevokedInv.start {pool : Pool ApiKeyServer ApiKeyCall ApiKeyCall.Answer ApiKeyError}
    (h : RevokedInv pool) (who : ℕ) (op : ApiKeyOp) :
    RevokedInv (pool.step apiKeyAnswer (apiKeyProgram codec)
      (.start who op : Action ApiKeyOp RefreshInput)) := by
  rcases Pool.step_start_cases apiKeyAnswer (apiKeyProgram codec) pool who op with heq | ⟨-, heq⟩
  · rw [heq]
    exact h
  rw [heq]
  -- a client that starts has neither succeeded nor read anything
  have hsucceeded : ∀ id, Succeeded id
      { pool with threads := Function.update pool.threads who (apiKeyProgram codec op) } →
      Succeeded id pool := by
    rintro id (hlog | hreturn)
    · exact .inl hlog
    · rcases (Function.exists_update_iff _ fun _ p => AboutToReturn id p).mp hreturn with
        hstarted | ⟨j, -, hj⟩
      · exact absurd hstarted (not_aboutToReturn_program codec op id)
      · exact .inr ⟨j, hj⟩
  refine ⟨?_, fun id hid => h.safe id (hsucceeded id hid), fun id hid => ?_, h.reads⟩
  · exact (Function.forall_update_iff _ fun _ p => Prog.Always Contract p).mpr
      ⟨always_program codec op, fun j _ => h.contract j⟩
  · exact (Function.forall_update_iff _ fun _ p => ¬ WritesStale id p).mpr
      ⟨not_writesStale_program codec op id, fun j _ => h.not_stale id (hsucceeded id hid) j⟩

theorem not_writesStale_of_aboutToReturn {p : ApiKeyProg Unit} (h : AboutToReturn id p)
    (other : String) : ¬ WritesStale other p := by
  cases p with
  | ret u => cases h
  | fail e => cases h
  | call c k =>
    cases h
    exact fun hstale => hstale

/-- What a call adds to the log is read from keys that are safe where they have to be. -/
theorem ReadsRevoked.answer {pool : Pool ApiKeyServer ApiKeyCall ApiKeyCall.Answer ApiKeyError}
    (h : RevokedInv pool) (who : ℕ) (input : RefreshInput) (c : ApiKeyCall) :
    ReadsRevoked (apiKeyAnswer pool.state who input c).1.log := by
  rcases apiKeyAnswer_log pool.state who input c with
    hlog | ⟨redisKey, read, hlog, hread⟩ | ⟨id, -, hlog⟩
  · rw [hlog]
    exact h.reads
  · rw [hlog]
    refine forall_split_concat h.reads fun id key hevent hrevoked => ?_
    obtain ⟨rfl, rfl⟩ := ApiKeyEvent.read.inj hevent
    exact (h.safe id (.inl hrevoked)).read hread
  · rw [hlog]
    exact forall_split_concat h.reads fun id key hevent => by cases hevent

/-- **A call keeps the invariant**, if it is undisturbed. -/
theorem RevokedInv.call {pool : Pool ApiKeyServer ApiKeyCall ApiKeyCall.Answer ApiKeyError}
    (h : RevokedInv pool) {who : ℕ} {input : RefreshInput}
    (hundisturbed : Undisturbed codec pool (.step who input)) :
    RevokedInv (pool.step apiKeyAnswer (apiKeyProgram codec)
      (.step who input : Action ApiKeyOp RefreshInput)) := by
  unfold Undisturbed Action.who at hundisturbed
  rcases Pool.step_step_cases apiKeyAnswer (apiKeyProgram codec) pool who input with
    ⟨-, heq⟩ | ⟨c, k, hthread, heq⟩
  · rw [heq]
    exact h
  rw [heq] at hundisturbed ⊢
  simp only [Function.update_self] at hundisturbed
  -- what the caller still does keeps to the contract, and so does this call
  have hcontract := h.contract who
  rw [hthread] at hcontract
  obtain ⟨hcall, hrest⟩ := hcontract
  let r := apiKeyAnswer pool.state who input c
  -- a `revoke` had succeeded before, or has with this call
  have hsucceeded : ∀ id, Succeeded id ⟨r.1, Function.update pool.threads who (k r.2)⟩ →
      Succeeded id pool ∨ AboutToReturn id (k r.2) := by
    rintro id (hlog | hreturn)
    · refine .inl ?_
      rcases apiKeyAnswer_log pool.state who input c with
        heq | ⟨redisKey, read, heq, -⟩ | ⟨other, rfl, heq⟩
      · exact .inl (heq ▸ hlog)
      · have hmem : .revoked id ∈ pool.state.log ++ [.read redisKey read] := heq ▸ hlog
        exact .inl (by simpa using hmem)
      · have hmem : .revoked id ∈ pool.state.log ++ [.revoked other] := heq ▸ hlog
        rcases List.mem_append.mp hmem with hmem | hmem
        · exact .inl hmem
        · cases List.mem_singleton.mp hmem
          exact .inr ⟨who, by rw [hthread]; rfl⟩
    · rcases (Function.exists_update_iff _ fun _ p => AboutToReturn id p).mp hreturn with
        hown | ⟨j, -, hj⟩
      · exact .inr hown
      · exact .inl (.inr ⟨j, hj⟩)
  refine ⟨?_, fun id hid => ?_, fun id hid => ?_, ReadsRevoked.answer h who input c⟩
  · -- the programs keep to the contract
    exact (Function.forall_update_iff _ fun _ p => Prog.Always Contract p).mpr
      ⟨hrest _, fun j _ => h.contract j⟩
  · -- what is stored is safe: it was, and this call writes nothing stale, or this call has made
    -- it so
    rcases hsucceeded id hid with hbefore | hnow
    · have hstale := h.not_stale id hbefore who
      rw [hthread] at hstale
      exact (h.safe id hbefore).answer hcall.readsOrWrites hstale
    · exact .of_settles (hcall.settles id _ hnow)
  · -- nobody is about to write a stale record: this caller because it would have read one
    refine (Function.forall_update_iff _ fun _ p => ¬ WritesStale id p).mpr ?_
    rcases hsucceeded id hid with hbefore | hnow
    · refine ⟨fun hstale => ?_, fun j _ => h.not_stale id hbefore j⟩
      rcases hcall.stale id _ hstale with hcall | ⟨key, hkey, hread⟩
      · exact h.not_stale id hbefore who (hthread ▸ hcall)
      · rw [(h.safe id hbefore).read hread] at hkey
        cases hkey
    · exact ⟨not_writesStale_of_aboutToReturn hnow id, fun j _ => hundisturbed id hnow j⟩

/-- **Revocation is permanent** in every interleaving in which no client is about to write an
unrevoked record of a key when a `revoke` of it succeeds: what is read of the key afterwards is
revoked. -/
theorem revoked_of_reach {now : Clock} {keys : Redis.Keyspace ApiKeyText}
    {pool : Pool ApiKeyServer ApiKeyCall ApiKeyCall.Answer ApiKeyError}
    (h : Reach (Pool.step apiKeyAnswer (apiKeyProgram codec)) (Undisturbed codec)
      (Pool.idle ⟨now, keys, []⟩) pool) : ReadsRevoked pool.state.log := by
  have hinit : RevokedInv (Pool.idle ⟨now, keys, []⟩) := by
    refine ⟨fun _ => trivial, ?_, ?_, ?_⟩
    · rintro id (hlog | ⟨who, hwho⟩)
      · cases hlog
      · cases hwho
    · exact fun _ _ _ hstale => hstale
    · intro pre event post hnil
      simp [Pool.idle] at hnil
  have hinv : RevokedInv pool := h.invariant hinit fun pool a hpool ha => by
    cases a with
    | start who op => exact hpool.start who op
    | step who input => exact hpool.call ha
  exact hinv.reads

/-- A key of the sample user, which is not revoked and does not expire. -/
def sampleApiKey : ApiKey :=
  { id := "key_1", userId := "user:1", name := "ci", keyPrefix := "sk_live_abcdefgh",
    keyHash := "$argon2id$", scopes := [], rateLimit := none, isRevoked := false,
    lastUsedAt := none, expiresAt := none, createdAt := (sampleClock 0).utc }

/-- A store with the key under its identifier, and with the identifier under its prefix. -/
def sampleApiKeys : Redis.Keyspace ApiKeyText :=
  (Redis.Keyspace.empty.put (idKey "key_1") ⟨.text (.record sampleApiKey), none⟩).put
    (prefixKey "sk_live_abcdefgh") ⟨.text (.plain "key_1"), none⟩

/-- A codec that knows one key and its hash. -/
def sampleCodec : ApiKeyCodec where
  json key := key.id
  verify key hash := .ok (key == "sk_live_abcdefghij" && hash == "$argon2id$")

/-- Client `who` makes that many calls. -/
def calls (who n : ℕ) : List (Action ApiKeyOp RefreshInput) :=
  List.replicate n (.step who ⟨sampleClock 0, .none⟩)

/-- The pool of clients after these actions on the sample store. -/
def sampleApiKeyRun (actions : List (Action ApiKeyOp RefreshInput)) :
    Pool ApiKeyServer ApiKeyCall ApiKeyCall.Answer ApiKeyError :=
  actions.foldl (Pool.step apiKeyAnswer (apiKeyProgram sampleCodec))
    (Pool.idle ⟨sampleClock 0, sampleApiKeys, []⟩)

/-- A client that is alone is undisturbed if it does not write stale records itself. -/
theorem undisturbed_alone {actions : List (Action ApiKeyOp RefreshInput)}
    (hactions : ∀ a ∈ actions, a.who = 1)
    (hown : ∀ id, ¬ WritesStale id ((sampleApiKeyRun actions).threads 1))
    (a : Action ApiKeyOp RefreshInput) :
    Undisturbed sampleCodec (sampleApiKeyRun actions) a := by
  intro id _ who
  by_cases hwho : who = 1
  · subst hwho
    exact hown id
  · have hidle : (sampleApiKeyRun actions).threads who = .ret () :=
      Pool.foldl_threads_of_ne fun b hb => hactions b hb ▸ hwho
    rw [hidle]
    exact fun hstale => hstale

/-- A client revokes a key and reads it again. -/
def sampleRevokeThenRead : List (Action ApiKeyOp RefreshInput) :=
  .start 1 (.revoke "key_1") :: calls 1 5 ++ .start 1 (.updateLastUsed "key_1") :: calls 1 2

/-- What it reads the second time is revoked. -/
theorem revoked_of_reach_sample :
    (sampleApiKeyRun sampleRevokeThenRead).state.log = [.read (idKey "key_1") sampleApiKey,
        .revoked "key_1", .read (idKey "key_1") { sampleApiKey with isRevoked := true }] ∧
      ReadsRevoked (sampleApiKeyRun sampleRevokeThenRead).state.log := by
  have hallowed : Allowed (Pool.step apiKeyAnswer (apiKeyProgram sampleCodec))
      (Undisturbed sampleCodec) (Pool.idle ⟨sampleClock 0, sampleApiKeys, []⟩)
      sampleRevokeThenRead := by
    refine Allowed.of_take fun n hn => undisturbed_alone (fun a ha => ?_) fun id hstale => ?_
    · have hall : ∀ a ∈ sampleRevokeThenRead, a.who = 1 := by decide
      exact hall a (List.mem_of_mem_take ha)
    · -- it holds a record only when that is revoked
      match n, hn with
      | 0, _ => exact hstale
      | 1, _ => exact hstale
      | 2, _ => exact hstale
      | 3, _ => cases hstale.2
      | 4, _ => cases hstale.2
      | 5, _ => exact hstale
      | 6, _ => exact hstale
      | 7, _ => exact hstale
      | 8, _ => exact hstale
  exact ⟨by decide +kernel, revoked_of_reach (Reach.foldl .start hallowed)⟩

/-- One client has read the record to set its `last_used_at`; a second revokes the key, and then
the first writes the record it had read.  A third reads the key, and it is not revoked. -/
theorem not_forall_readsRevoked : ¬ ∀ (codec : ApiKeyCodec) (now : Clock)
    (keys : Redis.Keyspace ApiKeyText)
    (pool : Pool ApiKeyServer ApiKeyCall ApiKeyCall.Answer ApiKeyError),
    Reach (Pool.step apiKeyAnswer (apiKeyProgram codec)) (fun _ _ => True)
      (Pool.idle ⟨now, keys, []⟩) pool → ReadsRevoked pool.state.log := by
  intro h
  have hreach : Reach (Pool.step apiKeyAnswer (apiKeyProgram sampleCodec)) (fun _ _ => True)
      (Pool.idle ⟨sampleClock 0, sampleApiKeys, []⟩)
      (sampleApiKeyRun ([.start 0 (.updateLastUsed "key_1")] ++ calls 0 4 ++
        [.start 1 (.revoke "key_1")] ++ calls 1 5 ++ calls 0 1 ++
        [.start 2 (.getByKey "sk_live_abcdefghij")] ++ calls 2 4)) :=
    Reach.foldl .start (Allowed.of_forall (fun _ _ _ => trivial) _)
  have hread := h _ _ _ _ hreach
    [.read (idKey "key_1") sampleApiKey, .read (idKey "key_1") sampleApiKey, .revoked "key_1"]
    (.read (idKey "key_1") { sampleApiKey with lastUsedAt := some (sampleClock 0).utc }) []
    (by decide +kernel) "key_1" _ rfl (by decide)
  cases hread

end RedisApiKeys

end ActonService
