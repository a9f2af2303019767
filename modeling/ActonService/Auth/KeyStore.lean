import ActonService.Audit.Rows

/-!
# The signing-key store

The metadata of `auth/key_rotation/key_metadata.rs` and the operations the three storage
backends offer on the table `signing_keys`.  Every operation is one statement and takes
effect at once, except that SurrealDB counts the keys it is about to retire beforehand.

A statement may not reach the database, may be refused by it, or may take effect while its
answer is lost.  Where a backend does not look at the answer, a refusal goes unnoticed: so
SurrealDB's `store_key` reports success.  Turso takes a result stream that breaks off for
one that has ended.

The texts kept in the columns `format` and `status` parse back, so a row is its metadata.
PostgreSQL keeps times to the microsecond.  SurrealDB stores an absent time as `NONE`, and
what it makes of `NONE <= text` is a parameter.

## Main definitions

* `SigningKeyMetadata`, `KeyTable` — a key and the table, whose identifiers differ.
* `storeKey`, `updateKeyStatus`, `retireExpired` — the writing statements.
* `getActiveKey`, `getKeyByKid`, `getVerificationKeys` — the reading ones.

## Main results

* `KeyFormat.fromStr_display`, `KeyStatus.fromStr_display` — the column texts parse back.
* `storeKey_cases`, `updateKeyStatus_cases`, `retireExpired_cases` — what a statement can do to
  the table.
-/

namespace ActonService

/-! ### Metadata -/

/-- `KeyFormat` -/
inductive KeyFormat
  | pasetoV4Local
  | pasetoV4Public
  | jwtRs256
  | jwtEs256
  deriving DecidableEq, Repr

def KeyFormat.display : KeyFormat → String
  | .pasetoV4Local => "paseto_v4_local"
  | .pasetoV4Public => "paseto_v4_public"
  | .jwtRs256 => "jwt_rs256"
  | .jwtEs256 => "jwt_es256"

/-- `KeyFormat::from_str`, or the text of its error. -/
def KeyFormat.fromStr (s : String) : Except String KeyFormat :=
  if s = "paseto_v4_local" then .ok .pasetoV4Local
  else if s = "paseto_v4_public" then .ok .pasetoV4Public
  else if s = "jwt_rs256" then .ok .jwtRs256
  else if s = "jwt_es256" then .ok .jwtEs256
  else .error ("invalid key format '" ++ s ++ "': expected one of "
    ++ "paseto_v4_local, paseto_v4_public, jwt_rs256, jwt_es256")

theorem KeyFormat.fromStr_display (f : KeyFormat) : fromStr f.display = .ok f := by
  cases f <;> rfl

/-- `KeyStatus` -/
inductive KeyStatus
  | active
  | draining
  | retired
  deriving DecidableEq, Repr

def KeyStatus.display : KeyStatus → String
  | .active => "active"
  | .draining => "draining"
  | .retired => "retired"

/-- `KeyStatus::from_str`, or the text of its error. -/
def KeyStatus.fromStr (s : String) : Except String KeyStatus :=
  if s = "active" then .ok .active
  else if s = "draining" then .ok .draining
  else if s = "retired" then .ok .retired
  else .error ("invalid key status '" ++ s ++ "': expected one of active, draining, retired")

theorem KeyStatus.fromStr_display (s : KeyStatus) : fromStr s.display = .ok s := by
  cases s <;> rfl

/-- `SigningKeyMetadata` -/
structure SigningKeyMetadata where
  kid : String
  format : KeyFormat
  /-- The key material, in base64. -/
  keyMaterial : String
  status : KeyStatus
  createdAt : DateTime
  activatedAt : Option DateTime
  drainingSince : Option DateTime
  retiredAt : Option DateTime
  drainExpiresAt : Option DateTime
  serviceName : String
  keyHash : String
  deriving DecidableEq, Repr

/-- `Error`, as far as the key store returns it. -/
inductive KeyError
  | internal (message : String)
  | conflict (message : String)
  deriving DecidableEq, Repr

/-- The third-party functions keys are stored and read with. -/
structure KeyExterns extends StoreExterns where
  base64Encode : List UInt8 → String
  /-- `BASE64.decode`, or the text of its error. -/
  base64Decode : String → Except String (List UInt8)
  /-- What a driver says of an identifier that is taken. -/
  uniqueViolation : String → String
  /-- What SurrealDB makes of `NONE <= text`. -/
  surrealNoneLe : Bool

/-- The storage backends. -/
inductive KeyBackend
  | postgres
  | turso
  | surrealDb
  deriving DecidableEq, Repr

/-- What a time column returns for a time. -/
def KeyBackend.column : KeyBackend → DateTime → DateTime
  | .postgres, t => (DateTime.ofTimestamptz t.toTimestamptz).getD t
  | .turso, t => t
  | .surrealDb, t => t

/-- What a row returns for the metadata written to it. -/
def KeyBackend.row (b : KeyBackend) (key : SigningKeyMetadata) : SigningKeyMetadata :=
  { key with
    createdAt := b.column key.createdAt
    activatedAt := key.activatedAt.map b.column
    drainingSince := key.drainingSince.map b.column
    retiredAt := key.retiredAt.map b.column
    drainExpiresAt := key.drainExpiresAt.map b.column }

/-! ### The table -/

/-- The table `signing_keys`.  `kid` is its primary key. -/
structure KeyTable where
  rows : List SigningKeyMetadata
  nodup : (rows.map SigningKeyMetadata.kid).Nodup

namespace KeyTable

theorem nodup_append {rows : List SigningKeyMetadata} {key : SigningKeyMetadata}
    (h : (rows.map SigningKeyMetadata.kid).Nodup)
    (hkey : key.kid ∉ rows.map SigningKeyMetadata.kid) :
    ((rows ++ [key]).map SigningKeyMetadata.kid).Nodup := by
  rw [List.map_append, List.map_singleton, List.nodup_append]
  refine ⟨h, List.nodup_singleton _, ?_⟩
  rintro a ha b hb rfl
  rw [List.mem_singleton] at hb
  exact hkey (hb ▸ ha)

/-- The table with one more row, if its identifier is not taken. -/
def insert (t : KeyTable) (key : SigningKeyMetadata) : Option KeyTable :=
  if h : key.kid ∈ t.rows.map SigningKeyMetadata.kid then none
  else some ⟨t.rows ++ [key], nodup_append t.nodup h⟩

theorem map_kid_map (rows : List SigningKeyMetadata) (p : SigningKeyMetadata → Bool)
    {f : SigningKeyMetadata → SigningKeyMetadata} (hf : ∀ r, (f r).kid = r.kid) :
    (rows.map fun r => if p r then f r else r).map SigningKeyMetadata.kid
      = rows.map SigningKeyMetadata.kid := by
  rw [List.map_map]
  apply List.map_congr_left
  intro r _
  simp only [Function.comp_apply]
  split
  · exact hf r
  · rfl

theorem nodup_update {rows : List SigningKeyMetadata} (p : SigningKeyMetadata → Bool)
    {f : SigningKeyMetadata → SigningKeyMetadata} (hf : ∀ r, (f r).kid = r.kid)
    (h : (rows.map SigningKeyMetadata.kid).Nodup) :
    ((rows.map fun r => if p r then f r else r).map SigningKeyMetadata.kid).Nodup := by
  rw [map_kid_map rows p hf]
  exact h

/-- An update that leaves identifiers as they are. -/
def update (t : KeyTable) (p : SigningKeyMetadata → Bool)
    (f : SigningKeyMetadata → SigningKeyMetadata) (hf : ∀ r, (f r).kid = r.kid) : KeyTable :=
  ⟨t.rows.map fun r => if p r then f r else r, nodup_update p hf t.nodup⟩

theorem mem_update {t : KeyTable} {p : SigningKeyMetadata → Bool}
    {f : SigningKeyMetadata → SigningKeyMetadata} {hf : ∀ r, (f r).kid = r.kid}
    {r : SigningKeyMetadata} :
    r ∈ (t.update p f hf).rows ↔ ∃ r' ∈ t.rows, (if p r' then f r' else r') = r :=
  List.mem_map

theorem map_kid_update {t : KeyTable} {p : SigningKeyMetadata → Bool}
    {f : SigningKeyMetadata → SigningKeyMetadata} {hf : ∀ r, (f r).kid = r.kid} :
    (t.update p f hf).rows.map SigningKeyMetadata.kid = t.rows.map SigningKeyMetadata.kid :=
  map_kid_map t.rows p hf

theorem mem_insert {t t' : KeyTable} {key r : SigningKeyMetadata} (h : t.insert key = some t') :
    r ∈ t'.rows ↔ r ∈ t.rows ∨ r = key := by
  rw [insert] at h
  split at h
  · contradiction
  · cases h
    rw [List.mem_append, List.mem_singleton]

/-- A row is known by its identifier: two rows of one identifier are the same. -/
theorem eq_of_kid_eq {t : KeyTable} {r r' : SigningKeyMetadata} (hr : r ∈ t.rows)
    (hr' : r' ∈ t.rows) (h : r.kid = r'.kid) : r = r' :=
  List.inj_on_of_nodup_map t.nodup hr hr' h

end KeyTable

/-! ### Statements -/

/-- What a statement meets: nothing, or one of the ways in which it may fail; of these, a lost reply
lets it take effect. -/
inductive KeyFault
  | none
  /-- It does not reach the database. -/
  | unreachable (e : String)
  /-- It takes effect, but the answer is lost. -/
  | lostReply (e : String)
  /-- The database refuses it. -/
  | rejected (e : String)
  /-- The rows of its result break off behind those with these identifiers. -/
  | cut (kept : List String) (e : String)
  deriving DecidableEq, Repr

section Statements

variable (X : KeyExterns) (b : KeyBackend)

/-- `store_key` -/
def storeKey (fault : KeyFault) (key : SigningKeyMetadata) (t : KeyTable) :
    KeyTable × Except KeyError Unit :=
  let failed (e : String) : Except KeyError Unit :=
    .error (.internal ("Failed to store signing key: " ++ e))
  -- SurrealDB returns the refusal inside a response that nobody looks into
  let refused (e : String) : Except KeyError Unit := if b = .surrealDb then .ok () else failed e
  match fault with
  | .unreachable e => (t, failed e)
  | .lostReply e => ((t.insert (b.row key)).getD t, failed e)
  | .rejected e => (t, refused e)
  | .none | .cut _ _ =>
    match t.insert (b.row key) with
    | some t' => (t', .ok ())
    | none => (t, refused (X.uniqueViolation key.kid))

/-- The rows `update_key_status` names: the one of the identifier, if its status may change to the
new one. -/
def updatesStatus (kid : String) (newStatus : KeyStatus) (r : SigningKeyMetadata) : Bool :=
  decide (r.kid = kid) &&
    match newStatus with
    | .active => true
    | .draining => decide (r.status = .active)
    | .retired => decide (r.status = .draining)

/-- A row with a new status and the time of it. -/
def withStatus (newStatus : KeyStatus) (timestamp : DateTime) (r : SigningKeyMetadata) :
    SigningKeyMetadata :=
  match newStatus with
  | .active => { r with status := .active, activatedAt := some (b.column timestamp) }
  | .draining => { r with status := .draining, drainingSince := some (b.column timestamp) }
  | .retired => { r with status := .retired, retiredAt := some (b.column timestamp) }

theorem withStatus_kid (newStatus : KeyStatus) (timestamp : DateTime) (r : SigningKeyMetadata) :
    (withStatus b newStatus timestamp r).kid = r.kid := by
  cases newStatus <;> rfl

/-- `update_key_status` -/
def updateKeyStatus (fault : KeyFault) (kid : String) (newStatus : KeyStatus)
    (timestamp : DateTime) (t : KeyTable) : KeyTable × Except KeyError Unit :=
  let failed (e : String) : Except KeyError Unit :=
    .error (.internal ("Failed to update signing key status: " ++ e))
  let conflict : Except KeyError Unit := .error (.conflict ("Key '" ++ kid
    ++ "' was not updated to '" ++ newStatus.display
    ++ "' -- it may not exist or is not in the expected state"))
  let t' := t.update (updatesStatus kid newStatus) (withStatus b newStatus timestamp)
    (withStatus_kid b newStatus timestamp)
  match fault with
  | .unreachable e => (t, failed e)
  | .lostReply e => (t', failed e)
  -- SurrealDB reads a refusal as an update of no row
  | .rejected e => (t, if b = .surrealDb then conflict else failed e)
  | .none | .cut _ _ =>
    (t', if t.rows.any (updatesStatus kid newStatus) then .ok () else conflict)

/-- `drain_expires_at <= now`, as the backend compares.  A `NULL` is not less than anything. -/
def KeyBackend.expired (now : DateTime) (r : SigningKeyMetadata) : Bool :=
  match r.drainExpiresAt with
  | none => decide (b = .surrealDb) && X.surrealNoneLe
  | some t =>
    match b with
    | .postgres => decide (t.toTimestamptz ≤ now.toTimestamptz)
    | .turso | .surrealDb => decide (X.toRfc3339 t ≤ X.toRfc3339 now)

/-- The rows `retire_expired_draining_keys` names: those that are draining and whose expiry is over
by the backend's own comparison. -/
def retires (now : DateTime) (r : SigningKeyMetadata) : Bool :=
  decide (r.status = .draining) && b.expired X now r

/-- SurrealDB's count of the keys it is about to retire.  A refused count is none. -/
def countExpired (fault : KeyFault) (now : DateTime) (t : KeyTable) : Except KeyError ℕ :=
  match fault with
  | .unreachable e | .lostReply e =>
    .error (.internal ("Failed to count expired draining keys: " ++ e))
  | .rejected _ | .cut _ _ => .ok 0
  | .none => .ok (t.rows.countP (retires X b now))

/-- The update of `retire_expired_draining_keys`, and the number of its rows. -/
def retireExpired (fault : KeyFault) (now : DateTime) (t : KeyTable) :
    KeyTable × Except KeyError ℕ :=
  let failed (e : String) : Except KeyError ℕ :=
    .error (.internal ("Failed to retire expired draining keys: " ++ e))
  let t' := t.update (retires X b now) (withStatus b .retired now) (withStatus_kid b .retired now)
  match fault with
  | .unreachable e => (t, failed e)
  | .lostReply e => (t', failed e)
  | .rejected e => (t, if b = .surrealDb then .ok 0 else failed e)
  | .none | .cut _ _ => (t', .ok (t.rows.countP (retires X b now)))

/-- The error of a reading statement: SurrealDB finds a refusal when it takes the rows out of
the response, Turso a break when it asks for the next row. -/
def readError (what taken : String) : KeyFault → KeyError
  | .unreachable e | .lostReply e => .internal (what ++ e)
  | .rejected e => .internal ((if b = .surrealDb then taken else what) ++ e)
  | .cut _ e => .internal ((if b = .turso then "Failed to read signing key row: " else what) ++ e)
  | .none => .internal what

/-- The key may sign for the service. -/
def isActiveFor (service : String) (r : SigningKeyMetadata) : Bool :=
  decide (r.serviceName = service) && decide (r.status = .active)

/-- The key may verify for the service. -/
def verifiesFor (service : String) (r : SigningKeyMetadata) : Bool :=
  decide (r.serviceName = service) && (decide (r.status = .active) || decide (r.status = .draining))

/-- `get_active_key`.  The database picks one of the rows that qualify. -/
def getActiveKey (fault : KeyFault) (pick : ℕ) (service : String) (t : KeyTable) :
    Except KeyError (Option SigningKeyMetadata) :=
  match fault with
  | .none =>
    let found := t.rows.filter (isActiveFor service)
    .ok found[pick % found.length]?
  | fault => .error (readError b "Failed to get active signing key: "
      "Failed to deserialize signing key: " fault)

/-- `get_key_by_kid` -/
def getKeyByKid (fault : KeyFault) (kid : String) (t : KeyTable) :
    Except KeyError (Option SigningKeyMetadata) :=
  match fault with
  | .none => .ok (t.rows.find? fun r => decide (r.kid = kid))
  | fault => .error (readError b "Failed to get signing key by kid: "
      "Failed to deserialize signing key: " fault)

/-- `get_verification_keys`.  The order of the keys is lost in the cache. -/
def getVerificationKeys (fault : KeyFault) (service : String) (t : KeyTable) :
    Except KeyError (List SigningKeyMetadata) :=
  let found := t.rows.filter (verifiesFor service)
  let failed := Except.error (readError b "Failed to get verification keys: "
    "Failed to deserialize verification keys: " fault)
  match fault with
  | .none => .ok found
  -- Turso stops reading at the first row it does not get
  | .cut kept _ => if b = .turso then .ok (found.filter fun r => decide (r.kid ∈ kept)) else failed
  | _ => failed

/-! ### What a statement does to the table -/

variable {X b} {fault : KeyFault} {t : KeyTable}

/-- A key is stored or it is not. -/
theorem storeKey_cases (X : KeyExterns) (b : KeyBackend) (fault : KeyFault)
    (key : SigningKeyMetadata) (t : KeyTable) :
    (storeKey X b fault key t).1 = t ∨
      t.insert (b.row key) = some (storeKey X b fault key t).1 := by
  have hinsert : ∀ o : Option KeyTable, o.getD t = t ∨ o = some (o.getD t) := by
    intro o
    cases o with
    | none => exact .inl rfl
    | some t' => exact .inr rfl
  cases fault with
  | lostReply e => exact hinsert _
  | unreachable e => exact .inl rfl
  | rejected e => exact .inl rfl
  | none =>
    rw [storeKey]
    cases t.insert (b.row key) with
    | none => exact .inl rfl
    | some t' => exact .inr rfl
  | cut kept e =>
    rw [storeKey]
    cases t.insert (b.row key) with
    | none => exact .inl rfl
    | some t' => exact .inr rfl

/-- A status is updated or it is not. -/
theorem updateKeyStatus_cases (b : KeyBackend) (fault : KeyFault) (kid : String)
    (newStatus : KeyStatus) (timestamp : DateTime) (t : KeyTable) :
    (updateKeyStatus b fault kid newStatus timestamp t).1 = t ∨
      (updateKeyStatus b fault kid newStatus timestamp t).1 =
        t.update (updatesStatus kid newStatus) (withStatus b newStatus timestamp)
          (withStatus_kid b newStatus timestamp) := by
  cases fault with
  | unreachable e => exact .inl rfl
  | rejected e => exact .inl rfl
  | none => exact .inr rfl
  | lostReply e => exact .inr rfl
  | cut kept e => exact .inr rfl

/-- An update that reports success updated a row. -/
theorem exists_of_updateKeyStatus_ok {kid : String} {newStatus : KeyStatus}
    {timestamp : DateTime}
    (h : (updateKeyStatus b fault kid newStatus timestamp t).2 = .ok ()) :
    (∃ r ∈ t.rows, updatesStatus kid newStatus r = true) ∧
      (updateKeyStatus b fault kid newStatus timestamp t).1 =
        t.update (updatesStatus kid newStatus) (withStatus b newStatus timestamp)
          (withStatus_kid b newStatus timestamp) := by
  cases fault with
  | unreachable e => simp [updateKeyStatus] at h
  | lostReply e => simp [updateKeyStatus] at h
  | rejected e => cases b <;> simp [updateKeyStatus] at h
  | none =>
    by_cases hany : t.rows.any (updatesStatus kid newStatus) = true
    · exact ⟨List.any_eq_true.mp hany, rfl⟩
    · simp [updateKeyStatus, hany] at h
  | cut kept e =>
    by_cases hany : t.rows.any (updatesStatus kid newStatus) = true
    · exact ⟨List.any_eq_true.mp hany, rfl⟩
    · simp [updateKeyStatus, hany] at h

/-- Keys are retired or they are not: the table is as it was, or all of those that are due are
retired in it. -/
theorem retireExpired_cases (X : KeyExterns) (b : KeyBackend) (fault : KeyFault) (now : DateTime)
    (t : KeyTable) :
    (retireExpired X b fault now t).1 = t ∨
      (retireExpired X b fault now t).1 =
        t.update (retires X b now) (withStatus b .retired now) (withStatus_kid b .retired now) := by
  cases fault with
  | unreachable e => exact .inl rfl
  | rejected e => exact .inl rfl
  | none => exact .inr rfl
  | lostReply e => exact .inr rfl
  | cut kept e => exact .inr rfl

/-- A service for which no active key is found has none. -/
theorem getActiveKey_eq_ok_none {pick : ℕ} {service : String}
    (h : getActiveKey b fault pick service t = .ok none) :
    ∀ r ∈ t.rows, isActiveFor service r = false := by
  cases fault with
  | none =>
    have hnone := Except.ok.inj h
    simp only [List.getElem?_eq_none_iff] at hnone
    have hlen : (t.rows.filter (isActiveFor service)).length = 0 := by
      by_contra hne
      have := Nat.mod_lt pick (Nat.pos_of_ne_zero hne)
      omega
    rw [List.length_eq_zero_iff, List.filter_eq_nil_iff] at hlen
    intro r hr
    exact Bool.eq_false_iff.mpr (hlen r hr)
  | unreachable e => simp [getActiveKey] at h
  | lostReply e => simp [getActiveKey] at h
  | rejected e => simp [getActiveKey] at h
  | cut kept e => simp [getActiveKey] at h

/-- An active key that is found is one of the service. -/
theorem getActiveKey_eq_ok_some {pick : ℕ} {service : String} {r : SigningKeyMetadata}
    (h : getActiveKey b fault pick service t = .ok (some r)) :
    r ∈ t.rows ∧ isActiveFor service r = true := by
  cases fault with
  | none => exact List.mem_filter.mp (List.mem_of_getElem? (Except.ok.inj h))
  | unreachable e => simp [getActiveKey] at h
  | lostReply e => simp [getActiveKey] at h
  | rejected e => simp [getActiveKey] at h
  | cut kept e => simp [getActiveKey] at h

end Statements

end ActonService
