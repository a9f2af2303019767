import ActonService.JsonReading
import ActonService.Middleware.Authentication

/-!
# JWT tokens

The generator of `auth/tokens/jwt_generator.rs`, and the validator of `middleware/jwt.rs` with the
keys it may check a token with.  Signing, verifying and the JSON in between are third-party.  The
generator writes the standard claims and the custom ones into one object, and the validator takes
every name it knows out of that object for a standard claim.

The arithmetic of a release build wraps.

## Main definitions

* `JwtGenerator`, `jwtEntries`, `generateInternal` — making a token.
* `Claims.ofEntries`, `acceptsClaims` — what the claims of a token are read as, and when they
  are accepted.
* `Signed` — a token that is read as what it was made of.
* `RoundTrips` — the claims come back.
* `KeySet`, `Selected` — the keys of a rotation, and those a token should be checked with.

## Main results

* `accepted_iff` — **a token is accepted until it expires, with the claims it was made of, exactly
  if the claims come back.**
* `validateToken_iff_selected` — **the documented fallback is followed exactly for tokens that name
  a key, and for those without whose acceptance rests on the static key.**
-/

namespace ActonService

/-! ### Making a token -/

/-- The third-party functions tokens are made with. -/
structure JwtExterns extends TokenExterns where
  /-- `EncodingKey::from_rsa_pem`, `from_ec_pem` or `from_secret`: whether the bytes are a key for
  the algorithm, or the text of the error. -/
  encodingKey : JwtAlgorithm → List UInt8 → Except String Unit
  /-- `encode` with a key, on the `kid` of the header and the entries of the claims. -/
  encode : JwtAlgorithm → List UInt8 → Option String → List (String × Json) → Except String String

/-- `JwtGenerationConfig` -/
structure JwtGenerationConfig where
  privateKeyPath : String
  algorithm : String
  issuer : Option String
  audience : Option String

/-- `TokenGenerationConfig` -/
structure TokenGenerationConfig where
  accessTokenLifetimeSecs : Int64
  issuer : Option String
  audience : Option String
  includeJti : Bool

/-- `JwtGenerator`, but for its key manager. -/
structure JwtGenerator where
  algorithm : JwtAlgorithm
  encodingKey : List UInt8
  config : TokenGenerationConfig
  issuer : Option String
  audience : Option String

/-- `std::time::Duration` -/
structure Duration where
  secs : UInt64
  nanos : ℕ
  nanos_lt : nanos < 1000000000
  deriving DecidableEq, Repr

/-- A field that is skipped if it is `None`. -/
def textEntry (key : String) (text : Option String) : List (String × Json) :=
  (text.map fun s => (key, Json.string s)).toList

/-- A field that is skipped if it is empty. -/
def textsEntry (key : String) (texts : List String) : List (String × Json) :=
  if texts = [] then [] else [(key, .array (texts.map .string))]

section Generate

variable (X : JwtExterns)

/-- `parse_algorithm` -/
def parseAlgorithm (alg : String) : Except ServiceError JwtAlgorithm :=
  match JwtAlgorithm.ofName (X.toUppercase alg) with
  | some algorithm => .ok algorithm
  | none => .error (.config ("Unsupported JWT algorithm: " ++ alg))

/-- `create_encoding_key` -/
def createEncodingKey (keyBytes : List UInt8) (algorithm : JwtAlgorithm) :
    Except ServiceError (List UInt8) :=
  match X.encodingKey algorithm keyBytes with
  | .ok () => .ok keyBytes
  | .error e => .error (.jwt e)

namespace JwtGenerator

/-- `JwtGenerator::new` -/
def new (jwtConfig : JwtGenerationConfig) (tokenConfig : TokenGenerationConfig) :
    Except ServiceError JwtGenerator :=
  match X.readFile jwtConfig.privateKeyPath with
  | .error e =>
    .error (.config ("Failed to read JWT private key '" ++ jwtConfig.privateKeyPath ++ "': " ++ e))
  | .ok keyBytes => do
    let algorithm ← parseAlgorithm X jwtConfig.algorithm
    let encodingKey ← createEncodingKey X keyBytes algorithm
    return ⟨algorithm, encodingKey, tokenConfig, jwtConfig.issuer.or tokenConfig.issuer,
      jwtConfig.audience.or tokenConfig.audience⟩

/-- The time of expiry that `generate_internal` computes. -/
def exp (now : DateTime) (expiresIn : Duration) : Int64 := now.timestamp + expiresIn.secs.toInt64

/-- The standard claims of a `JwtClaims`, as it is serialised. -/
def standardEntries (gen : JwtGenerator) (claims : Claims) (expiresIn : Duration) (now : DateTime)
    (uuid : Uuid) : List (String × Json) :=
  let jti := if gen.config.includeJti then some (X.uuidToString uuid) else claims.jti
  [("sub", .string claims.sub), ("exp", Json.ofInt64 (exp now expiresIn)),
    ("iat", Json.ofInt64 now.timestamp)]
    ++ textEntry "jti" jti ++ textEntry "iss" (gen.issuer.or claims.iss)
    ++ textEntry "aud" (gen.audience.or claims.aud) ++ textEntry "email" claims.email
    ++ textEntry "username" claims.username ++ textsEntry "roles" claims.roles
    ++ textsEntry "perms" claims.perms

/-- The `JwtClaims` of `generate_internal`, as they are serialised: the custom claims are
flattened. -/
def jwtEntries (gen : JwtGenerator) (claims : Claims) (expiresIn : Duration) (now : DateTime)
    (uuid : Uuid) : List (String × Json) :=
  gen.standardEntries X claims expiresIn now uuid ++ claims.custom.entries

/-- `generate_internal`, with what the key manager says to `get_signing_key` if there is one. -/
def generateInternal (gen : JwtGenerator) (claims : Claims) (expiresIn : Duration)
    (now : DateTime) (uuid : Uuid) (signing : Option (Except KeyError (Option CachedKey))) :
    Except ServiceError String :=
  let entries := gen.jwtEntries X claims expiresIn now uuid
  let static := (X.encode gen.algorithm gen.encodingKey none entries).mapError .jwt
  match signing with
  | none => static
  | some (.error e) => .error e.toServiceError
  | some (.ok none) => static
  | some (.ok (some cached)) =>
    match createEncodingKey X cached.keyMaterial gen.algorithm with
    | .error e => .error e
    | .ok key => (X.encode gen.algorithm key (some cached.kid) entries).mapError .jwt

end JwtGenerator

end Generate

/-! ### Reading its claims -/

/-- The value of a field: an object that has it twice cannot be read. -/
def fieldOf (entries : List (String × Json)) (key : String) : Option (Option Json) :=
  match entries.filter fun e => decide (e.1 = key) with
  | [] => some none
  | [e] => some (some e.2)
  | _ => none

/-- A field that has to be there. -/
def requiredField {α : Type} (read : Json → Option α) (entries : List (String × Json))
    (key : String) : Option α :=
  (fieldOf entries key).bind fun value => value.bind read

/-- A field of an `Option` type, which may be absent or `null`. -/
def optionalField {α : Type} (read : Json → Option α) (entries : List (String × Json))
    (key : String) : Option (Option α) :=
  (fieldOf entries key).bind fun
    | none => some none
    | some .null => some none
    | some value => (read value).map some

/-- The texts of an array; none if it is another value or one of its items is no text. -/
def Json.asTexts : Json → Option (List String)
  | .array items => items.mapM Json.asStr
  | _ => none

/-- A field with `#[serde(default)]`. -/
def textsField (entries : List (String × Json)) (key : String) : Option (List String) :=
  (fieldOf entries key).bind fun
    | none => some []
    | some value => value.asTexts

/-- `Claims` as they are deserialised from the entries of an object, without the error.  What is
no field goes to the custom claims. -/
def Claims.ofEntries (entries : List (String × Json)) : Option Claims := do
  let sub ← requiredField Json.asStr entries "sub"
  let email ← optionalField Json.asStr entries "email"
  let username ← optionalField Json.asStr entries "username"
  let roles ← textsField entries "roles"
  let perms ← textsField entries "perms"
  let exp ← requiredField Json.asI64 entries "exp"
  let iat ← optionalField Json.asI64 entries "iat"
  let jti ← optionalField Json.asStr entries "jti"
  let iss ← optionalField Json.asStr entries "iss"
  let aud ← optionalField Json.asStr entries "aud"
  return {
    sub := sub
    email := email
    username := username
    roles := roles
    perms := perms
    exp := exp
    iat := iat
    jti := jti
    iss := iss
    aud := aud
    custom := OrderedMap.empty.insertAll (entries.filter fun e => decide (e.1 ∉ knownKeys)) }

/-- What `jsonwebtoken` checks of claims with a `Validation::new` that an issuer or an audience may
be set on: the time of expiry with a leeway of a minute, the issuer if one is expected, and the
audience, which must not be there if none is expected. -/
def acceptsClaims (issuer audience : Option String) (now : DateTime) (claims : Claims) : Bool :=
  decide (0 ≤ claims.exp.toInt ∧ now.secs ≤ claims.exp.toInt + 60) &&
    (match issuer, claims.iss with
      | some expected, some iss => decide (iss = expected)
      | _, _ => true) &&
    match audience, claims.aud with
    | none, some _ => false
    | some expected, some aud => decide (aud = expected)
    | _, none => true

/-! ### The claims that are read of what was written -/

theorem Json.asI64_ofInt64 (n : Int64) : (Json.ofInt64 n).asI64 = some n := by
  rw [Json.ofInt64]
  by_cases hn : n < 0
  · simp [hn, Json.asI64]
  · have hnonneg : 0 ≤ n := Int64.not_lt.mp hn
    have hlt : n.toUInt64.toNat < 9223372036854775808 := by
      have hle : n.toInt ≤ 9223372036854775807 := n.toInt_le
      have htoNat := Int64.toNat_toUInt64_of_le hnonneg
      have hclamp : n.toNatClampNeg = n.toInt.toNat := rfl
      omega
    simp [hn, Json.asI64, hlt]

theorem Json.asTexts_map (texts : List String) : (Json.array (texts.map .string)).asTexts
    = some texts := by
  rw [Json.asTexts]
  induction texts with
  | nil => rfl
  | cons s texts ih => simp [Json.asStr, ih]

section Written

variable {X : JwtExterns} {reads : Json → Option Json} {gen : JwtGenerator} {claims : Claims}
  {expiresIn : Duration} {now : DateTime} {uuid : Uuid}

theorem filter_textEntry (p : String → Bool) (key : String) (text : Option String) :
    (textEntry key text).filter (fun e => p e.1) = if p key then textEntry key text else [] := by
  cases text with
  | none => simp [textEntry]
  | some s => by_cases hp : p key = true <;> simp [textEntry, hp]

theorem filter_textsEntry (p : String → Bool) (key : String) (texts : List String) :
    (textsEntry key texts).filter (fun e => p e.1)
      = if p key then textsEntry key texts else [] := by
  by_cases ht : texts = []
  · simp [textsEntry, ht]
  · by_cases hp : p key = true <;> simp [textsEntry, ht, hp]

/-- The standard claims are read as they were written. -/
theorem readEntries_standardEntries (hreads : ReadsBack reads) :
    readEntries reads (gen.standardEntries X claims expiresIn now uuid)
      = some (gen.standardEntries X claims expiresIn now uuid) := by
  have htext : ∀ key text, ∀ e ∈ textEntry key text, reads e.2 = some e.2 := by
    intro key text e he
    cases text with
    | none => contradiction
    | some s =>
      rw [List.mem_singleton.mp he]
      exact hreads.text s
  have htexts : ∀ key texts, ∀ e ∈ textsEntry key texts, reads e.2 = some e.2 := by
    intro key texts e he
    rw [textsEntry] at he
    split at he
    · contradiction
    · rw [List.mem_singleton.mp he]
      exact hreads.texts texts
  apply readEntries_eq_self
  intro e he
  simp only [JwtGenerator.standardEntries, List.mem_append, List.mem_cons, List.not_mem_nil,
    or_false] at he
  rcases he with (((((((rfl | rfl | rfl) | h) | h) | h) | h) | h) | h) | h
  · exact hreads.text _
  · exact hreads.integer _
  · exact hreads.integer _
  · exact htext _ _ e h
  · exact htext _ _ e h
  · exact htext _ _ e h
  · exact htext _ _ e h
  · exact htext _ _ e h
  · exact htexts _ _ e h
  · exact htexts _ _ e h

/-- The standard claims under a choice of names. -/
theorem filter_standardEntries (p : String → Bool) :
    (gen.standardEntries X claims expiresIn now uuid).filter (fun e => p e.1)
      = (if p "sub" then [("sub", .string claims.sub)] else [])
        ++ (if p "exp" then [("exp", Json.ofInt64 (JwtGenerator.exp now expiresIn))] else [])
        ++ (if p "iat" then [("iat", Json.ofInt64 now.timestamp)] else [])
        ++ (if p "jti" then textEntry "jti"
          (if gen.config.includeJti then some (X.uuidToString uuid) else claims.jti) else [])
        ++ (if p "iss" then textEntry "iss" (gen.issuer.or claims.iss) else [])
        ++ (if p "aud" then textEntry "aud" (gen.audience.or claims.aud) else [])
        ++ (if p "email" then textEntry "email" claims.email else [])
        ++ (if p "username" then textEntry "username" claims.username else [])
        ++ (if p "roles" then textsEntry "roles" claims.roles else [])
        ++ (if p "perms" then textsEntry "perms" claims.perms else []) := by
  simp only [JwtGenerator.standardEntries, List.filter_append, filter_textEntry, filter_textsEntry,
    List.filter_cons, List.filter_nil]
  cases p "sub" <;> cases p "exp" <;> cases p "iat" <;> simp

/-- The standard claims have no other names than the known ones, so that none of them is a custom
claim. -/
theorem filter_standardEntries_of_notMem :
    (gen.standardEntries X claims expiresIn now uuid).filter (fun e => decide (e.1 ∉ knownKeys))
      = [] := by
  rw [filter_standardEntries fun key => decide (key ∉ knownKeys)]
  simp [knownKeys]

/-- A field does not depend on the entries under other names. -/
theorem fieldOf_eq {es es' : List (String × Json)} {key : String}
    (h : es.filter (fun e => decide (e.1 = key)) = es'.filter fun e => decide (e.1 = key)) :
    fieldOf es key = fieldOf es' key := by
  rw [fieldOf, fieldOf, h]

theorem fieldOf_append {es custom : List (String × Json)} {key : String}
    (h : ∀ e ∈ custom, e.1 ≠ key) : fieldOf (es ++ custom) key = fieldOf es key := by
  have hnil : custom.filter (fun e => decide (e.1 = key)) = [] :=
    List.filter_eq_nil_iff.mpr fun e he => by simpa using h e he
  exact fieldOf_eq (by rw [List.filter_append, hnil, List.append_nil])

theorem fieldOf_textEntry (key : String) (text : Option String) :
    fieldOf (textEntry key text) key = some (text.map .string) := by
  cases text <;> simp [fieldOf, textEntry]

theorem fieldOf_textsEntry (key : String) (texts : List String) :
    fieldOf (textsEntry key texts) key
      = some (if texts = [] then none else some (.array (texts.map .string))) := by
  by_cases ht : texts = [] <;> simp [fieldOf, textsEntry, ht]

section Fields

variable {custom : List (String × Json)}

/-- A standard claim is the field of its name, with entries of other names beside it. -/
theorem fieldOf_written (h : ∀ e ∈ custom, e.1 ∉ knownKeys) {key : String}
    (hkey : key ∈ knownKeys) {es : List (String × Json)}
    (hes : (gen.standardEntries X claims expiresIn now uuid).filter (fun e => decide (e.1 = key))
      = es.filter fun e => decide (e.1 = key)) :
    fieldOf (gen.standardEntries X claims expiresIn now uuid ++ custom) key = fieldOf es key := by
  rw [fieldOf_append fun e he heq => h e he (heq ▸ hkey)]
  exact fieldOf_eq hes

/-- A standard claim that is always written is the one field of its name. -/
theorem fieldOf_single (h : ∀ e ∈ custom, e.1 ∉ knownKeys) {key : String}
    (hkey : key ∈ knownKeys) (v : Json)
    (hes : (gen.standardEntries X claims expiresIn now uuid).filter (fun e => decide (e.1 = key))
      = [(key, v)]) :
    fieldOf (gen.standardEntries X claims expiresIn now uuid ++ custom) key = some (some v) := by
  have hself : [(key, v)].filter (fun e => decide (e.1 = key)) = [(key, v)] := by simp
  rw [fieldOf_written h hkey (hes.trans hself.symm), fieldOf, hself]

theorem optionalField_written (h : ∀ e ∈ custom, e.1 ∉ knownKeys) {key : String}
    (hkey : key ∈ knownKeys) {text : Option String}
    (hes : (gen.standardEntries X claims expiresIn now uuid).filter (fun e => decide (e.1 = key))
      = textEntry key text) :
    optionalField Json.asStr (gen.standardEntries X claims expiresIn now uuid ++ custom) key
      = some text := by
  have hself : (textEntry key text).filter (fun e => decide (e.1 = key)) = textEntry key text := by
    rw [filter_textEntry fun k => decide (k = key)]
    simp
  rw [optionalField, fieldOf_written h hkey (hes.trans hself.symm), fieldOf_textEntry]
  cases text <;> rfl

theorem textsField_written (h : ∀ e ∈ custom, e.1 ∉ knownKeys) {key : String}
    (hkey : key ∈ knownKeys) {texts : List String}
    (hes : (gen.standardEntries X claims expiresIn now uuid).filter (fun e => decide (e.1 = key))
      = textsEntry key texts) :
    textsField (gen.standardEntries X claims expiresIn now uuid ++ custom) key = some texts := by
  have hself : (textsEntry key texts).filter (fun e => decide (e.1 = key))
      = textsEntry key texts := by
    rw [filter_textsEntry fun k => decide (k = key)]
    simp
  rw [textsField, fieldOf_written h hkey (hes.trans hself.symm), fieldOf_textsEntry]
  by_cases ht : texts = []
  · simp [ht]
  · simp [ht, Json.asTexts_map]

/-- The claims that are written, with these custom claims. -/
def JwtGenerator.writtenClaims (gen : JwtGenerator) (X : JwtExterns) (claims : Claims)
    (expiresIn : Duration) (now : DateTime) (uuid : Uuid) (custom : List (String × Json)) :
    Claims where
  sub := claims.sub
  email := claims.email
  username := claims.username
  roles := claims.roles
  perms := claims.perms
  exp := JwtGenerator.exp now expiresIn
  iat := some now.timestamp
  jti := if gen.config.includeJti then some (X.uuidToString uuid) else claims.jti
  iss := gen.issuer.or claims.iss
  aud := gen.audience.or claims.aud
  custom := OrderedMap.empty.insertAll custom

/-- **What is read of the standard claims**, with entries of other names beside them. -/
theorem ofEntries_standardEntries (h : ∀ e ∈ custom, e.1 ∉ knownKeys) :
    Claims.ofEntries (gen.standardEntries X claims expiresIn now uuid ++ custom)
      = some (gen.writtenClaims X claims expiresIn now uuid custom) := by
  -- among the standard claims every name stands once at most, and the custom ones have other
  -- names
  have hfilter : ∀ key, (gen.standardEntries X claims expiresIn now uuid).filter
      (fun e => decide (e.1 = key)) = _ := fun key =>
    filter_standardEntries fun k => decide (k = key)
  -- the claims a token always has
  have hsub : requiredField Json.asStr
      (gen.standardEntries X claims expiresIn now uuid ++ custom) "sub" = some claims.sub := by
    rw [requiredField, fieldOf_single h (by decide) (.string claims.sub) (by rw [hfilter]; simp)]
    rfl
  have hexp : requiredField Json.asI64
      (gen.standardEntries X claims expiresIn now uuid ++ custom) "exp"
        = some (JwtGenerator.exp now expiresIn) := by
    rw [requiredField, fieldOf_single h (by decide) (Json.ofInt64 (JwtGenerator.exp now expiresIn))
      (by rw [hfilter]; simp)]
    exact Json.asI64_ofInt64 _
  have hiat : optionalField Json.asI64
      (gen.standardEntries X claims expiresIn now uuid ++ custom) "iat"
        = some (some now.timestamp) := by
    rw [optionalField, fieldOf_single h (by decide) (Json.ofInt64 now.timestamp)
      (by rw [hfilter]; simp)]
    show ((Json.ofInt64 now.timestamp).asI64).map some = _
    rw [Json.asI64_ofInt64]
    rfl
  -- the claims that are written if they are there
  have hjti : optionalField Json.asStr
      (gen.standardEntries X claims expiresIn now uuid ++ custom) "jti"
        = some (if gen.config.includeJti then some (X.uuidToString uuid) else claims.jti) :=
    optionalField_written h (by decide) (by rw [hfilter]; simp)
  have hiss : optionalField Json.asStr
      (gen.standardEntries X claims expiresIn now uuid ++ custom) "iss"
        = some (gen.issuer.or claims.iss) :=
    optionalField_written h (by decide) (by rw [hfilter]; simp)
  have haud : optionalField Json.asStr
      (gen.standardEntries X claims expiresIn now uuid ++ custom) "aud"
        = some (gen.audience.or claims.aud) :=
    optionalField_written h (by decide) (by rw [hfilter]; simp)
  have hemail : optionalField Json.asStr
      (gen.standardEntries X claims expiresIn now uuid ++ custom) "email" = some claims.email :=
    optionalField_written h (by decide) (by rw [hfilter]; simp)
  have husername : optionalField Json.asStr
      (gen.standardEntries X claims expiresIn now uuid ++ custom) "username"
        = some claims.username :=
    optionalField_written h (by decide) (by rw [hfilter]; simp)
  have hroles : textsField (gen.standardEntries X claims expiresIn now uuid ++ custom) "roles"
      = some claims.roles :=
    textsField_written h (by decide) (by rw [hfilter]; simp)
  have hperms : textsField (gen.standardEntries X claims expiresIn now uuid ++ custom) "perms"
      = some claims.perms :=
    textsField_written h (by decide) (by rw [hfilter]; simp)
  -- what is left over is what the service has put in
  have hcustom : (gen.standardEntries X claims expiresIn now uuid ++ custom).filter
      (fun e => decide (e.1 ∉ knownKeys)) = custom := by
    rw [List.filter_append, filter_standardEntries_of_notMem, List.nil_append]
    exact List.filter_eq_self.mpr fun e he => decide_eq_true (h e he)
  simp only [Claims.ofEntries, JwtGenerator.writtenClaims, hsub, hexp, hiat, hjti, hiss, haud,
    hemail, husername, hroles, hperms, hcustom, bind, Option.bind_some, pure]

/-- What is read as a custom claim is what has no known name. -/
theorem custom_of_ofEntries {es : List (String × Json)} {claims' : Claims}
    (h : Claims.ofEntries es = some claims') :
    claims'.custom = OrderedMap.empty.insertAll (es.filter fun e => decide (e.1 ∉ knownKeys)) := by
  simp only [Claims.ofEntries, bind, Option.bind_eq_some_iff, pure, Option.some.injEq] at h
  obtain ⟨_, -, _, -, _, -, _, -, _, -, _, -, _, -, _, -, _, -, _, -, rfl⟩ := h
  rfl

end Fields

end Written

/-! ### The round trip -/

/-- A token that was made of entries with one key, and with the other is read as what was written:
`jsonwebtoken` verifies what it signed, deserialises it and checks the claims. -/
structure Signed (X : JwtExterns) (reads : Json → Option Json) (algorithm : JwtAlgorithm)
    (encodingKey decodingKey : List UInt8) (entries : List (String × Json)) (token : String) :
    Prop where
  encoded : X.encode algorithm encodingKey none entries = .ok token
  decoded : ∀ issuer audience t,
    (X.decode algorithm decodingKey issuer audience t token).toOption
      = ((readEntries reads entries).bind Claims.ofEntries).filter
          (acceptsClaims issuer audience t)

/-- The time is before the time of issue plus the expiry. -/
def Before (t now : DateTime) (expiresIn : Duration) : Prop :=
  t.secs * 1000000000 + t.nanos
    < (now.secs + expiresIn.secs.toNat) * 1000000000 + now.nanos + expiresIn.nanos

/-- The clock reads a time after the epoch, and not in the last minute `chrono` has. -/
def ClockInRange (now : DateTime) : Prop := 0 ≤ now.secs ∧ now.secs + 60 ≤ 8210266876799

/-- **The claims come back**: the condition under which a token that was issued is read as what it
was issued for. -/
structure RoundTrips (reads : Json → Option Json) (gen : JwtGenerator) (claims : Claims)
    (expiresIn : Duration) (now : DateTime) : Prop where
  /-- No custom claim has the name of a standard one. -/
  notKnown : ∀ e ∈ claims.custom.entries, e.1 ∉ knownKeys
  /-- `serde_json` reads every custom claim as it wrote it. -/
  survives : ∀ e ∈ claims.custom.entries, reads e.2 = some e.2
  /-- The time of expiry does not wrap. -/
  expiry : now.secs + expiresIn.secs.toNat < 2 ^ 63
  /-- There is no audience in the claims that the validator does not expect. -/
  audience : gen.audience = none → claims.aud = none

section RoundTrip

variable {X : JwtExterns} {reads : Json → Option Json} {gen : JwtGenerator} {auth : JwtAuth}
  {claims : Claims} {expiresIn : Duration} {now : DateTime} {uuid : Uuid} {token : String}

/-- What the validator makes of a token that was signed. -/
theorem validateToken_ok_iff {entries : List (String × Json)} {encodingKey : List UInt8}
    (hsigned : Signed X reads auth.algorithm encodingKey auth.key entries token)
    (t : DateTime) (claims' : Claims) :
    auth.validateToken X.toTokenExterns t none token = .ok claims'
      ↔ (readEntries reads entries).bind Claims.ofEntries = some claims' ∧
        acceptsClaims auth.issuer auth.audience t claims' = true := by
  have hdecoded := hsigned.decoded auth.issuer auth.audience t
  have hvalidate : auth.validateToken X.toTokenExterns t none token
      = (X.decode auth.algorithm auth.key auth.issuer auth.audience t token).mapError .jwt := rfl
  rw [hvalidate, ← Option.filter_eq_some_iff, ← hdecoded]
  cases X.decode auth.algorithm auth.key auth.issuer auth.audience t token with
  | error e => simp [Except.mapError, Except.toOption]
  | ok c => simp [Except.mapError, Except.toOption]

/-- The time of expiry in a token: the sum, unless it wraps. -/
theorem toInt_exp (now : DateTime) (expiresIn : Duration) :
    (JwtGenerator.exp now expiresIn).toInt
      = (now.secs + expiresIn.secs.toNat : ℤ).bmod (2 ^ 64) := by
  have hsecs : expiresIn.secs.toInt64.toInt = (expiresIn.secs.toNat : ℤ).bmod (2 ^ 64) := by
    rw [Int64.toInt, UInt64.toBitVec_toInt64, BitVec.toInt_eq_toNat_bmod]
    rfl
  have hnow : now.timestamp.toInt = now.secs.bmod (2 ^ 64) := by
    rw [DateTime.timestamp, Int64.toInt_ofInt]
    rfl
  rw [JwtGenerator.exp, Int64.toInt_add, hsecs, hnow, Int.bmod_add_bmod, Int.add_bmod_bmod]

/-- Before the sum of the times a token is accepted for its time of expiry exactly if the sum does
not wrap. -/
theorem forall_before_iff (hclock : ClockInRange now) :
    (∀ t, Before t now expiresIn → 0 ≤ (JwtGenerator.exp now expiresIn).toInt ∧
        t.secs ≤ (JwtGenerator.exp now expiresIn).toInt + 60)
      ↔ now.secs + expiresIn.secs.toNat < 2 ^ 63 := by
  obtain ⟨hepoch, hlast⟩ := hclock
  have hsecs := expiresIn.secs.toNat_lt
  have hnanos := expiresIn.nanos_lt
  have hnow := now.nanos_lt
  rw [toInt_exp]
  constructor
  · intro h
    by_contra hwrap
    -- the time of issue and a minute later, long before the expiry
    have hbefore : ∀ t : DateTime, t.secs ≤ now.secs + 60 → Before t now expiresIn := by
      intro t ht
      have htn := t.nanos_lt
      rw [Before]
      omega
    have hlater : 0 ≤ (now.secs + expiresIn.secs.toNat : ℤ).bmod (2 ^ 64) ∧
        now.secs + 60 ≤ (now.secs + expiresIn.secs.toNat : ℤ).bmod (2 ^ 64) + 60 :=
      h ⟨now.secs + 60, now.nanos, now.nanos_lt, by omega, by omega⟩ (hbefore _ le_rfl)
    -- the sum wraps below zero, or to a time before the time of issue
    have hmod : (now.secs + expiresIn.secs.toNat : ℤ).bmod (2 ^ 64)
        = now.secs + expiresIn.secs.toNat - 2 ^ 64 := by
      rw [Int.bmod_def]
      omega
    rw [hmod] at hlater
    omega
  · intro hsum t ht
    rw [Int.bmod_eq_of_le (by omega) (by omega)]
    have htn := t.nanos_lt
    rw [Before] at ht
    omega

/-- The validator's check of a time of expiry, an issuer and an audience, on the claims of a
token. -/
theorem acceptsClaims_iff {issuer audience : Option String} {t : DateTime} {c : Claims} :
    acceptsClaims issuer audience t c = true ↔
      (0 ≤ c.exp.toInt ∧ t.secs ≤ c.exp.toInt + 60) ∧
      (∀ expected ∈ issuer, ∀ iss ∈ c.iss, iss = expected) ∧
      ∀ aud ∈ c.aud, some aud = audience := by
  rw [acceptsClaims.eq_def]
  cases issuer <;> cases c.iss <;> cases audience <;> cases c.aud <;> simp [and_assoc]

/-- What is read of a token that was signed: the standard claims as they were written, and beside
them what is read of the custom ones. -/
theorem readEntries_jwtEntries (hreads : ReadsBack reads) :
    (readEntries reads (gen.jwtEntries X claims expiresIn now uuid)).bind Claims.ofEntries
      = (readEntries reads claims.custom.entries).bind fun custom =>
        Claims.ofEntries (gen.standardEntries X claims expiresIn now uuid ++ custom) := by
  rw [JwtGenerator.jwtEntries, readEntries_append, readEntries_standardEntries hreads,
    Option.bind_some, Option.bind_map]
  rfl

/-- A custom claim that is read as it was written has no known name. -/
theorem survives_of_ofEntries {custom : List (String × Json)} {claims' : Claims}
    (hcustom : readEntries reads claims.custom.entries = some custom)
    (hclaims : Claims.ofEntries (gen.standardEntries X claims expiresIn now uuid ++ custom)
      = some claims')
    (hsame : ∀ key, claims'.custom.get? key = claims.custom.get? key) {e : String × Json}
    (he : e ∈ claims.custom.entries) : e.1 ∉ knownKeys ∧ reads e.2 = some e.2 := by
  obtain ⟨hkeys, hlookup⟩ := lookup_readEntries hcustom e.1
  have hwritten : claims.custom.entries.lookup e.1 = some e.2 :=
    OrderedMap.get?_eq_some_iff.mpr he
  have hnodup : ((custom.filter fun e => decide (e.1 ∉ knownKeys)).map Prod.fst).Nodup := by
    refine List.Nodup.sublist (List.filter_sublist.map _) ?_
    rw [hkeys]
    exact claims.custom.nodup
  have hfound := hsame e.1
  rw [custom_of_ofEntries hclaims, List.filter_append, filter_standardEntries_of_notMem,
    List.nil_append, OrderedMap.get?_insertAll hnodup, OrderedMap.get?_empty, Option.or_none,
    OrderedMap.lookup_filter_fst fun key => decide (key ∉ knownKeys), OrderedMap.get?, hlookup,
    hwritten, Option.bind_some] at hfound
  by_cases hknown : e.1 ∈ knownKeys
  · simp [hknown] at hfound
  · rw [if_pos (decide_eq_true hknown)] at hfound
    exact ⟨hknown, hfound⟩

/-- Some time lies before the expiry: a second before the time of issue is one. -/
theorem exists_before (hclock : ClockInRange now) (expiresIn : Duration) :
    ∃ t, Before t now expiresIn := by
  obtain ⟨hepoch, hlast⟩ := hclock
  refine ⟨⟨now.secs - 1, 0, by omega, by omega, by omega⟩, ?_⟩
  rw [Before]
  push_cast
  omega

/-- **The written claims are accepted before the expiry** exactly if it does not wrap and there is
no audience where none is expected. -/
theorem forall_accepts_written_iff (X : JwtExterns) (hclock : ClockInRange now) (uuid : Uuid)
    (custom : List (String × Json)) :
    (∀ t, Before t now expiresIn → acceptsClaims gen.issuer gen.audience t
        (gen.writtenClaims X claims expiresIn now uuid custom) = true)
      ↔ now.secs + expiresIn.secs.toNat < 2 ^ 63 ∧ (gen.audience = none → claims.aud = none) := by
  have hissuer : ∀ expected ∈ gen.issuer, ∀ iss ∈ gen.issuer.or claims.iss, iss = expected := by
    intro expected hexpected iss hiss
    rw [Option.mem_def.mp hexpected] at hiss
    exact (Option.some.inj hiss).symm
  have haudience : (∀ aud ∈ gen.audience.or claims.aud, some aud = gen.audience)
      ↔ (gen.audience = none → claims.aud = none) := by
    cases gen.audience with
    | none => simp [Option.eq_none_iff_forall_not_mem]
    | some expected => simp
  simp only [acceptsClaims_iff, JwtGenerator.writtenClaims, haudience, ← forall_before_iff hclock]
  constructor
  · intro h
    obtain ⟨t, ht⟩ := exists_before hclock expiresIn
    exact ⟨fun t ht => (h t ht).1, (h t ht).2.2⟩
  · rintro ⟨hexp, haud⟩ t ht
    exact ⟨hexp t ht, hissuer, haud⟩

/-- **A token is accepted until it expires, with the claims it was made of, exactly if the claims
come back.**  The generator and the validator have the same key, issuer and audience. -/
theorem accepted_iff (X : JwtExterns) (reads : Json → Option Json) (hreads : ReadsBack reads)
    (gen : JwtGenerator) (auth : JwtAuth) (halgorithm : auth.algorithm = gen.algorithm)
    (hissuer : auth.issuer = gen.issuer) (haudience : auth.audience = gen.audience)
    (claims : Claims) (expiresIn : Duration) (now : DateTime) (hclock : ClockInRange now)
    (uuid : Uuid) (token : String)
    (hsigned : Signed X reads gen.algorithm gen.encodingKey auth.key
      (gen.jwtEntries X claims expiresIn now uuid) token) :
    (gen.generateInternal X claims expiresIn now uuid none = .ok token ∧
      ∀ t, Before t now expiresIn → ∃ claims',
        auth.validateToken X.toTokenExterns t none token = .ok claims' ∧
          SameIdentity claims claims')
      ↔ RoundTrips reads gen claims expiresIn now := by
  -- the token is issued, since it is the one `encode` has made
  have hgenerated : gen.generateInternal X claims expiresIn now uuid none = .ok token := by
    simp only [JwtGenerator.generateInternal, hsigned.encoded]
    rfl
  rw [← halgorithm] at hsigned
  simp only [validateToken_ok_iff hsigned, readEntries_jwtEntries hreads, hissuer, haudience]
  constructor
  · -- at one moment of its life, the claims are read back as they were, and so none was lost
    rintro ⟨-, haccepted⟩
    obtain ⟨t, ht⟩ := exists_before hclock expiresIn
    obtain ⟨claims', ⟨hread, -⟩, hsame⟩ := haccepted t ht
    obtain ⟨custom, hcustom, hclaims⟩ := Option.bind_eq_some_iff.mp hread
    have hsurvives : ∀ e ∈ claims.custom.entries, e.1 ∉ knownKeys ∧ reads e.2 = some e.2 :=
      fun e he => survives_of_ofEntries hcustom hclaims hsame.custom he
    have hnotKnown := fun e he => (hsurvives e he).1
    have hself := readEntries_eq_self fun e he => (hsurvives e he).2
    -- and at every such moment, the checks of issuer, audience and times are passed
    have haccepts : ∀ t, Before t now expiresIn → acceptsClaims gen.issuer gen.audience t
        (gen.writtenClaims X claims expiresIn now uuid claims.custom.entries) = true := by
      intro t ht
      obtain ⟨c, ⟨hc, haccept⟩, -⟩ := haccepted t ht
      rw [hself, Option.bind_some, ofEntries_standardEntries hnotKnown] at hc
      cases hc
      exact haccept
    obtain ⟨hexpiry, haud⟩ := (forall_accepts_written_iff X hclock uuid _).mp haccepts
    exact ⟨hnotKnown, fun e he => (hsurvives e he).2, hexpiry, haud⟩
  · -- conversely, the claims come back as they are, and their custom part is what the token
    -- holds
    intro h
    have haccepts := (forall_accepts_written_iff X hclock uuid claims.custom.entries).mpr
      ⟨h.expiry, h.audience⟩
    refine ⟨hgenerated, fun t ht => ?_⟩
    rw [readEntries_eq_self h.survives, Option.bind_some, ofEntries_standardEntries h.notKnown]
    refine ⟨_, ⟨rfl, haccepts t ht⟩, rfl, rfl, rfl, rfl, rfl, fun key => ?_⟩
    rw [JwtGenerator.writtenClaims, OrderedMap.get?_insertAll claims.custom.nodup,
      OrderedMap.get?_empty, Option.or_none]
    rfl

end RoundTrip

/-! ### Samples -/

def sampleJwtText : String := "header.claims.signature"

/-- The third-party functions at one sample token, of the entries given. -/
def sampleJwt (entries : List (String × Json)) : JwtExterns where
  toPasetoExterns := samplePasetoExterns OrderedMap.empty
  readFile _ := .ok [1, 2, 3]
  toUppercase name := name
  decodingKey _ _ := .ok ()
  decodeHeader _ := some none
  decode _ _ issuer audience now token :=
    match ((readEntries some entries).bind Claims.ofEntries).filter
      (acceptsClaims issuer audience now) with
    | some claims => if token = sampleJwtText then .ok claims else .error "InvalidToken"
    | none => .error "InvalidToken"
  encodingKey _ _ := .ok ()
  encode _ _ _ _ := .ok sampleJwtText

def sampleJwtGenerator : JwtGenerator :=
  ⟨.hs256, [1, 2, 3], ⟨900, none, none, true⟩, some "https://auth.example.com", none⟩

def sampleJwtAuth : JwtAuth := ⟨.hs256, [1, 2, 3], some "https://auth.example.com", none⟩

/-- What the sample generator writes of claims. -/
def sampleJwtEntries (claims : Claims) (expiresIn : Duration) : List (String × Json) :=
  sampleJwtGenerator.jwtEntries (sampleJwt []) claims expiresIn (sampleTime 0) sampleUuid

/-- The sample validator accepts the token of claims until it expires, with the same identity. -/
def SampleAccepted (claims : Claims) (expiresIn : Duration) : Prop :=
  ∀ t, Before t (sampleTime 0) expiresIn → ∃ claims',
    sampleJwtAuth.validateToken (sampleJwt (sampleJwtEntries claims expiresIn)).toTokenExterns t
      none sampleJwtText = .ok claims' ∧ SameIdentity claims claims'

theorem readsBack_some : ReadsBack some := ⟨fun _ => rfl, fun _ => rfl, fun _ => rfl⟩

theorem signed_sample (entries : List (String × Json)) :
    Signed (sampleJwt entries) some .hs256 [1, 2, 3] [1, 2, 3] entries sampleJwtText := by
  refine ⟨rfl, fun issuer audience t => ?_⟩
  simp only [sampleJwt]
  cases ((readEntries some entries).bind Claims.ofEntries).filter
    (acceptsClaims issuer audience t) <;> rfl

/-- A lifetime of an hour. -/
def sampleHour : Duration := ⟨3600, 0, by decide⟩

/-- Claims with a custom claim of their own come back. -/
theorem accepted_iff_sample :
    SampleAccepted (sampleClaims ["admin"] (OrderedMap.empty.insert "tenant" (.string "acme")))
      sampleHour :=
  ((accepted_iff (sampleJwt (sampleJwtEntries _ sampleHour)) some readsBack_some sampleJwtGenerator
    sampleJwtAuth rfl rfl rfl _ sampleHour (sampleTime 0) (by constructor <;> decide) sampleUuid
    sampleJwtText (signed_sample _)).mpr
      ⟨by decide, fun _ _ => rfl, by decide, fun _ => rfl⟩).2

/-- Claims do not come back with a custom claim that is named as a standard one, with an audience
that is not configured, or with an expiry that wraps. -/
theorem not_forall_accepted :
    ¬ SampleAccepted (sampleClaims [] (OrderedMap.empty.insert "sub" (.string "admin")))
      sampleHour ∧
    ¬ SampleAccepted { sampleClaims [] OrderedMap.empty with aud := some "billing" } sampleHour ∧
    ¬ SampleAccepted (sampleClaims [] OrderedMap.empty) ⟨9223372036854775808, 0, by decide⟩ := by
  have hbefore : ∀ expiresIn : Duration, 0 < expiresIn.secs.toNat →
      Before (sampleTime 0) (sampleTime 0) expiresIn := by
    intro expiresIn h
    rw [Before]
    omega
  -- what the validator reads of the token, and whether it accepts it at the time of issue
  have hread : ∀ {claims expiresIn}, SampleAccepted claims expiresIn → 0 < expiresIn.secs.toNat →
      (((readEntries some (sampleJwtEntries claims expiresIn)).bind Claims.ofEntries).any
        (acceptsClaims sampleJwtAuth.issuer sampleJwtAuth.audience (sampleTime 0))) = true := by
    intro claims expiresIn h hsecs
    obtain ⟨c, hc, -⟩ := h (sampleTime 0) (hbefore _ hsecs)
    obtain ⟨hclaims, haccept⟩ := (validateToken_ok_iff (signed_sample _) _ _).mp hc
    rw [hclaims]
    exact haccept
  refine ⟨fun h => ?_, fun h => ?_, fun h => ?_⟩
  · exact absurd (hread h (by decide)) (by decide)
  · exact absurd (hread h (by decide)) (by decide)
  · exact absurd (hread h (by decide)) (by decide)

/-! ### Which key a token is checked with -/

/-- The keys of a rotation: those that can be looked up, and the current verification keys. -/
structure KeySet where
  named : String → Option CachedKey
  all : List CachedKey

/-- What a key manager with these keys answers. -/
def KeySet.answers (keys : KeySet) : KeyAnswers := ⟨fun kid => .ok (keys.named kid), .ok keys.all⟩

/-- No rotated keys: the manager knows none, so that the static key is the only one. -/
def KeySet.empty : KeySet := ⟨fun _ => none, []⟩

section Selection

variable (X : TokenExterns) (auth : JwtAuth) (now : DateTime) (token : String)

/-- The token verifies under a key of the rotation. -/
def VerifiesUnder (key : CachedKey) : Prop :=
  ∃ claims, auth.decodeWith X now token key.keyMaterial = .ok claims

/-- The token verifies under the static key. -/
def VerifiesStatic : Prop := ∃ claims, auth.decodeStatic X now token = .ok claims

/-- **The documented fallback**: a token verifies under the key its header names; if it names none,
or none that is there, under some verification key or the static key. -/
def Selected (keys : KeySet) (kid : Option String) : Prop :=
  match kid.bind keys.named with
  | some key => VerifiesUnder X auth now token key
  | none => (∃ key ∈ keys.all, VerifiesUnder X auth now token key) ∨ VerifiesStatic X auth now token

variable {X auth now token}

/-- Trying every key, then the static one: the token is accepted if it verifies under one of them.
-/
theorem decodeAny_ok_iff (keys : KeySet) :
    (∃ claims, auth.decodeAny X now token keys.answers = .ok claims)
      ↔ (∃ key ∈ keys.all, VerifiesUnder X auth now token key) ∨
        VerifiesStatic X auth now token := by
  have hany : (keys.all.findSome? fun key =>
      (auth.decodeWith X now token key.keyMaterial).toOption).isSome = true
        ↔ ∃ key ∈ keys.all, VerifiesUnder X auth now token key := by
    rw [List.findSome?_isSome_iff]
    refine exists_congr fun key => and_congr_right fun _ => ?_
    rw [VerifiesUnder]
    cases auth.decodeWith X now token key.keyMaterial <;> simp [Except.toOption]
  simp only [JwtAuth.decodeAny, KeySet.answers]
  rw [← hany]
  cases keys.all.findSome? fun key => (auth.decodeWith X now token key.keyMaterial).toOption with
  | none => simp [VerifiesStatic]
  | some claims => simp

/-- A token that names no key is checked with the static key alone. -/
theorem validateToken_ok_iff_unnamed (hheader : X.decodeHeader token = some none)
    (keyManager : Option KeySet) :
    (∃ claims, auth.validateToken X now (keyManager.map KeySet.answers) token = .ok claims)
      ↔ VerifiesStatic X auth now token := by
  rw [JwtAuth.validateToken.eq_def, hheader]
  cases keyManager <;> rfl

/-- A token that names a key is checked as documented. -/
theorem validateToken_ok_iff_named {kid : String} (hheader : X.decodeHeader token = some (some kid))
    (keyManager : Option KeySet) :
    (∃ claims, auth.validateToken X now (keyManager.map KeySet.answers) token = .ok claims)
      ↔ Selected X auth now token (keyManager.getD .empty) (some kid) := by
  rw [JwtAuth.validateToken.eq_def, hheader]
  cases keyManager with
  | none => simp [Selected, KeySet.empty, VerifiesStatic]
  | some keys =>
    simp only [Option.map_some, Option.getD_some, Selected, Option.bind_some]
    have hlookup : keys.answers.verificationKey kid = .ok (keys.named kid) := rfl
    rw [hlookup]
    cases keys.named kid with
    | some key => rfl
    | none => exact decodeAny_ok_iff keys

/-- **The documented fallback is followed exactly for tokens that name a key, and for those without
whose acceptance rests on the static key**: whatever keys the rotation has, if there is one, and
whatever the token's header says. -/
theorem validateToken_iff_selected (X : TokenExterns) (auth : JwtAuth) (now : DateTime)
    (keyManager : Option KeySet) (token : String) (kid : Option String)
    (hheader : X.decodeHeader token = some kid) :
    ((∃ claims, auth.validateToken X now (keyManager.map KeySet.answers) token = .ok claims)
        ↔ Selected X auth now token (keyManager.getD .empty) kid)
      ↔ (kid = none → (∃ keys ∈ keyManager, ∃ key ∈ keys.all, VerifiesUnder X auth now token key) →
          VerifiesStatic X auth now token) := by
  cases kid with
  | some kid =>
    rw [validateToken_ok_iff_named hheader]
    simp
  | none =>
    rw [validateToken_ok_iff_unnamed hheader]
    cases keyManager with
    | none => simp [Selected, KeySet.empty]
    | some keys => simp [Selected]

end Selection

/-! ### Samples of keys -/

/-- A key of the rotation, which is being drained. -/
def sampleCachedKey : CachedKey := ⟨"key-1", .jwtRs256, [7, 7, 7], .draining⟩

def sampleRsAuth : JwtAuth := ⟨.rs256, [1, 2, 3], none, none⟩

/-- Tokens that verify under the key of the rotation only, with the `kid` given. -/
def sampleRotatedJwt (kid : Option String) : TokenExterns where
  toPasetoExterns := samplePasetoExterns OrderedMap.empty
  readFile _ := .ok [1, 2, 3]
  toUppercase name := name
  decodingKey _ _ := .ok ()
  decodeHeader _ := some kid
  decode _ key _ _ _ _ :=
    if key = [7, 7, 7] then .ok (sampleClaims ["admin"] OrderedMap.empty)
    else .error "InvalidSignature"

/-- A rotation that knows the key under its name. -/
def sampleKeySet : KeySet :=
  ⟨fun kid => if kid = "key-1" then some sampleCachedKey else none, [sampleCachedKey]⟩

/-- A token that names an unknown key is accepted on the key of the rotation. -/
theorem validateToken_iff_selected_sample :
    ∃ claims, sampleRsAuth.validateToken (sampleRotatedJwt (some "key-0")) (sampleTime 0)
      (some sampleKeySet.answers) sampleJwtText = .ok claims :=
  ((validateToken_iff_selected (sampleRotatedJwt (some "key-0")) sampleRsAuth (sampleTime 0)
    (some sampleKeySet) sampleJwtText (some "key-0") rfl).mpr (by simp)).mpr
    (.inl ⟨sampleCachedKey, List.mem_singleton_self _, _, rfl⟩)

/-- A token that names no key is not. -/
theorem not_forall_selected :
    Selected (sampleRotatedJwt none) sampleRsAuth (sampleTime 0) sampleJwtText sampleKeySet none ∧
    ¬ ∃ claims, sampleRsAuth.validateToken (sampleRotatedJwt none) (sampleTime 0)
      (some sampleKeySet.answers) sampleJwtText = .ok claims := by
  refine ⟨.inl ⟨sampleCachedKey, List.mem_singleton_self _, _, rfl⟩, ?_⟩
  rintro ⟨claims, hclaims⟩
  cases hclaims

end ActonService
