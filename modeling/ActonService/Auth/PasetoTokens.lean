import ActonService.Auth.Paseto
import ActonService.Auth.RotatedKeys

/-!
# PASETO tokens under rotated keys

The generator of `auth/tokens/paseto_generator.rs` and the validator of `middleware/paseto.rs`,
both with a key manager.  Building and parsing a token are third-party functions: a builder has
claims of its own, which the generator's replace, and a parser checks the times, the issuer and
the audience.

## Main definitions

* `PasetoExterns` — the third-party functions.
* `populateBuilderClaims`, `generateInternal` — making a token.
* `validateToken` — accepting one.
* `WritableClaims` — claims that can be written to a token and read back.
* `Signs`, `InTime` — a token that is read as what it was built with, and when.
* `Issue.Works` — a token that is issued, and accepted as long as it should be.

## Main results

* `works_iff_of_reach` — **a token of a rotated key works, whatever rotations come in between,
  exactly if it is a symmetric one.**
-/

namespace ActonService

open Bytes Effect Run

/-! ### Making a token -/

/-- The purposes of version 4. -/
inductive PasetoPurpose
  | v4Local
  | v4Public
  deriving DecidableEq, Repr

/-- The third-party functions tokens are made and read with. -/
structure PasetoExterns extends KeyExterns where
  /-- The time a claim's text stands for, or the text of the error. -/
  claimTime : String → Except String DateTime
  /-- The text a builder gives a time. -/
  builderTime : DateTime → String
  /-- `CustomClaim::try_from`, or the text of its error: some names are reserved. -/
  customClaim : String → Except String Unit
  /-- `PasetoBuilder::build` on a key, the claims, a footer and random bytes. -/
  build : PasetoPurpose → List UInt8 → Payload → String → List UInt8 → Except String String
  /-- `PasetoParser::parse` with a key, on the issuer, the audience and the footer expected, at
  a time. -/
  parse : PasetoPurpose → List UInt8 → Option String → Option String → Option String →
    DateTime → String → Except String Json
  /-- `Footer::try_from_token` -/
  footer : String → Option String

/-- `PasetoGeneratorKey` -/
inductive PasetoGeneratorKey
  | v4Local (keyBytes : List UInt8) (length_eq : keyBytes.length = 32)
  | v4Public (privateKeyBytes : List UInt8) (length_eq : privateKeyBytes.length = 64)

def PasetoGeneratorKey.purpose : PasetoGeneratorKey → PasetoPurpose
  | .v4Local _ _ => .v4Local
  | .v4Public _ _ => .v4Public

/-- `PasetoGenerator`, but for its key manager. -/
structure PasetoGenerator where
  key : PasetoGeneratorKey
  config : PayloadConfig

/-- What the generator cannot know: the time, a fresh identifier and a nonce. -/
structure GenerateInput where
  now : DateTime
  uuid : Uuid
  /-- When the builder is made, which sets its default times then. -/
  built : DateTime
  nonce : List UInt8

/-- The text of a builder's own time of expiry, an hour after it is made. -/
def builderExpiry (X : PasetoExterns) (built : DateTime) : String :=
  X.builderTime ((built.addSecs 3600).getD built)

/-- `PasetoBuilder::default` -/
def builderDefaults (X : PasetoExterns) (built : DateTime) : Payload :=
  ((OrderedMap.empty.insert "exp" (.string (builderExpiry X built))).insert "iat"
    (.string (X.builderTime built))).insert "nbf" (.string (X.builderTime built))

/-- `payload.get(key).and_then(as_str)` -/
def textAt (payload : Payload) (key : String) : Option String := (payload.get? key).bind Json.asStr

/-- Setting the claim of a time, if there is a text. -/
def setTime (X : PasetoExterns) (key message : String) (builder : Payload) :
    Option String → Except PasetoError Payload
  | none => .ok builder
  | some text =>
    match X.claimTime text with
    | .ok _ => .ok (builder.insert key (.string text))
    | .error e => .error (.paseto (message ++ e))

/-- Setting a claim that is not a standard one. -/
def setCustom (X : PasetoExterns) (builder : Payload) (claim : String × Json) :
    Except PasetoError Payload :=
  if claim.1 ∈ pasetoStandardKeys then .ok builder
  else
    match claim.2.asStr with
    | none => .error (.paseto ("Custom claim '" ++ claim.1
        ++ "' is not a string after normalization"))
    | some text =>
      match X.customClaim claim.1 with
      | .error e => .error (.paseto ("Invalid '" ++ claim.1 ++ "' claim: " ++ e))
      | .ok () => .ok (builder.insert claim.1 (.string text))

/-- `populate_builder_claims` -/
def populateBuilderClaims (X : PasetoExterns) (builder payload : Payload) :
    Except PasetoError Payload := do
  let builder := setText builder "sub" (textAt payload "sub")
  let builder ← setTime X "exp" "Invalid expiration: " builder (textAt payload "exp")
  let builder ← setTime X "iat" "Invalid issued at: " builder (textAt payload "iat")
  let builder := setText builder "jti" (textAt payload "jti")
  let builder := setText builder "iss" (textAt payload "iss")
  let builder := setText builder "aud" (textAt payload "aud")
  payload.entries.foldlM (setCustom X) builder

/-- The claims a token is built with. -/
def tokenClaims (X : PasetoExterns) (payload : Payload) (built : DateTime) :
    Except PasetoError Payload :=
  populateBuilderClaims X (builderDefaults X built) (normalizeCustomClaims X.numberText payload)

/-- `generate_v4_local_with_footer` and `generate_v4_public_with_footer` -/
def generateWithFooter (X : PasetoExterns) (purpose : PasetoPurpose) (keyBytes : List UInt8)
    (payload : Payload) (footer : String) (input : GenerateInput) : Except PasetoError String :=
  match tokenClaims X payload input.built with
  | .error e => .error e
  | .ok claims =>
    match X.build purpose keyBytes claims footer input.nonce with
    | .ok token => .ok token
    | .error e => .error (.paseto ("Failed to build PASETO token: " ++ e))

/-- `to_32_byte_array` and `to_64_byte_array` -/
def toByteArray (length : ℕ) (bytes : List UInt8) : Except PasetoError (List UInt8) :=
  if bytes.length = length then .ok bytes
  else .error (.internal ("key material must be exactly " ++ Nat.repr length ++ " bytes, got "
    ++ Nat.repr bytes.length))

/-- The time a token expires. -/
def expiresAt (now : DateTime) (expiresInSecs : UInt64) : Except PasetoError DateTime :=
  let secs := expiresInSecs.toInt64.toInt
  if secs.natAbs ≤ 9223372036854775 then
    match now.addSecs secs with
    | some t => .ok t
    | none => .error (.internal "`DateTime + TimeDelta` overflowed")
  else .error (.internal "TimeDelta::seconds out of bounds")

/-- The footer that names a key. -/
def kidFooter (X : PasetoExterns) (kid : String) : String :=
  jsonText X.numberText (.object [("kid", .string kid)])

/-- The token of the generator's own key. -/
def generateStatic (X : PasetoExterns) (gen : PasetoGenerator) (payload : Payload)
    (input : GenerateInput) : Except PasetoError String :=
  match gen.key with
  | .v4Local keyBytes _ => generateWithFooter X .v4Local keyBytes payload "" input
  | .v4Public keyBytes _ => generateWithFooter X .v4Public keyBytes payload "" input

/-- The token of a key of the rotation system. -/
def generateRotated (X : PasetoExterns) (gen : PasetoGenerator) (payload : Payload)
    (input : GenerateInput) (cached : CachedKey) : Except PasetoError String := do
  match gen.key with
  | .v4Local _ _ =>
    let keyBytes ← toByteArray 32 cached.keyMaterial
    generateWithFooter X .v4Local keyBytes payload (kidFooter X cached.kid) input
  | .v4Public _ _ =>
    let keyBytes ← toByteArray 64 cached.keyMaterial
    generateWithFooter X .v4Public keyBytes payload (kidFooter X cached.kid) input

/-- `generate_internal`, with what the key manager says to `get_signing_key` if there is one. -/
def generateInternal (X : PasetoExterns) (gen : PasetoGenerator) (claims : Claims)
    (expiresInSecs : UInt64) (input : GenerateInput)
    (signing : Option (Except KeyError (Option CachedKey))) : Except PasetoError String := do
  let exp ← expiresAt input.now expiresInSecs
  let payload := generatePayload X.toStoreExterns gen.config claims input.now exp input.uuid
  match signing with
  | none => generateStatic X gen payload input
  | some (.error e) => .error (.key e)
  | some (.ok none) => generateStatic X gen payload input
  | some (.ok (some cached)) => generateRotated X gen payload input cached

/-! ### Accepting one -/

/-- `PasetoAuth`, but for its key manager. -/
structure PasetoAuth where
  purpose : PasetoPurpose
  keyBytes : List UInt8
  length_eq : keyBytes.length = 32
  issuer : Option String
  audience : Option String

/-- Validating with one key: the token is parsed with it, and its claims are read. -/
def PasetoAuth.validateWith (X : PasetoExterns) (auth : PasetoAuth) (now : DateTime)
    (token : String) (keyBytes : List UInt8) : Except PasetoError Claims :=
  match X.parse auth.purpose keyBytes auth.issuer auth.audience (X.footer token) now token with
  | .error e => .error (.paseto ("Invalid PASETO token: " ++ e))
  | .ok json => jsonToClaims X.toStoreExterns json

/-- `validate_with_static_key` -/
def PasetoAuth.validateWithStaticKey (X : PasetoExterns) (auth : PasetoAuth) (now : DateTime)
    (token : String) : Except PasetoError Claims :=
  auth.validateWith X now token auth.keyBytes

/-- `validate_with_key_bytes` -/
def PasetoAuth.validateWithKeyBytes (X : PasetoExterns) (auth : PasetoAuth) (now : DateTime)
    (token : String) (keyBytes : List UInt8) : Except PasetoError Claims :=
  if keyBytes.length = 32 then auth.validateWith X now token keyBytes
  else .error (.internal ("rotated key material must be 32 bytes, got "
    ++ Nat.repr keyBytes.length))

/-- `validate_token`, with what the key manager says to `get_all_verification_keys` if there is
one. -/
def PasetoAuth.validateToken (X : PasetoExterns) (auth : PasetoAuth) (now : DateTime)
    (token : String) (keys : Option (Except KeyError (List CachedKey))) :
    Except PasetoError Claims :=
  match auth.validateWithStaticKey X now token with
  | .ok claims => .ok claims
  | .error e =>
    match keys with
    | none => .error e
    | some (.error keyError) => .error (.key keyError)
    | some (.ok keys) =>
      match keys.findSome? fun key =>
        (auth.validateWithKeyBytes X now token key.keyMaterial).toOption with
      | some claims => .ok claims
      | none => .error e

/-! ### The claims of a token -/

section TokenClaims

variable {X : PasetoExterns} {payload : Payload}

theorem foldlM_setCustom {entries : List (String × Json)}
    (h : ∀ claim ∈ entries, claim.1 ∉ pasetoStandardKeys →
      (∃ text, claim.2 = .string text) ∧ X.customClaim claim.1 = .ok ()) (builder : Payload) :
    entries.foldlM (setCustom X) builder = .ok (builder.insertAll
      (entries.filter fun claim => decide (claim.1 ∉ pasetoStandardKeys))) := by
  induction entries generalizing builder with
  | nil => rfl
  | cons claim entries ih =>
    have hrest := ih fun c hc => h c (List.mem_cons_of_mem _ hc)
    rw [List.foldlM_cons]
    by_cases hkey : claim.1 ∈ pasetoStandardKeys
    · have hset : setCustom X builder claim = .ok builder := if_pos hkey
      rw [hset, List.filter_cons_of_neg (by simpa using hkey)]
      exact hrest builder
    · obtain ⟨⟨text, htext⟩, hclaim⟩ := h claim List.mem_cons_self hkey
      have hset : setCustom X builder claim = .ok (builder.insert claim.1 claim.2) := by
        simp [setCustom, hkey, htext, Json.asStr, hclaim]
      rw [hset, List.filter_cons_of_pos (by simpa using hkey)]
      exact hrest _

theorem setTime_ok {key message : String} {builder : Payload} {text : Option String}
    (h : ∀ s ∈ text, ∃ t, X.claimTime s = .ok t) :
    setTime X key message builder text = .ok (setText builder key text) := by
  cases text with
  | none => rfl
  | some s =>
    obtain ⟨t, ht⟩ := h s rfl
    simp [setTime, ht, setText]

theorem textAt_normalized {key : String} (hkey : key ∈ pasetoStandardKeys) :
    textAt (normalizeCustomClaims X.numberText payload) key = textAt payload key := by
  rw [textAt, textAt, normalizeCustomClaims, OrderedMap.get?_map]
  cases payload.get? key with
  | none => rfl
  | some v => simp [hkey]

/-- A builder with the standard texts of a payload. -/
def setStandardTexts (builder payload : Payload) : Payload :=
  pasetoStandardKeys.foldl (fun builder key => setText builder key (textAt payload key)) builder

theorem populateBuilderClaims_ok {builder : Payload}
    (hexp : ∀ s ∈ textAt payload "exp", ∃ t, X.claimTime s = .ok t)
    (hiat : ∀ s ∈ textAt payload "iat", ∃ t, X.claimTime s = .ok t)
    (hcustom : ∀ claim ∈ payload.entries, claim.1 ∉ pasetoStandardKeys →
      (∃ text, claim.2 = .string text) ∧ X.customClaim claim.1 = .ok ()) :
    populateBuilderClaims X builder payload = .ok ((setStandardTexts builder payload).insertAll
      (payload.entries.filter fun claim => decide (claim.1 ∉ pasetoStandardKeys))) := by
  rw [populateBuilderClaims]
  simp only [setTime_ok hexp, setTime_ok hiat, bind, Except.bind]
  exact foldlM_setCustom hcustom _

/-- The other claims do not touch the standard ones. -/
theorem get?_populated {builder : Payload} {key : String} (hkey : key ∈ pasetoStandardKeys) :
    ((setStandardTexts builder payload).insertAll (payload.entries.filter fun claim =>
      decide (claim.1 ∉ pasetoStandardKeys))).get? key
      = ((textAt payload key).map Json.string).or (builder.get? key) := by
  have hnone : (payload.entries.filter fun claim =>
      decide (claim.1 ∉ pasetoStandardKeys)).lookup key = none := by
    rw [OrderedMap.lookup_filter_fst fun key => decide (key ∉ pasetoStandardKeys)]
    simp [hkey]
  have hnodup : ((payload.entries.filter fun claim =>
      decide (claim.1 ∉ pasetoStandardKeys)).map Prod.fst).Nodup :=
    payload.nodup.sublist (List.filter_sublist.map _)
  rw [OrderedMap.get?_insertAll hnodup, hnone, Option.none_or]
  simp only [pasetoStandardKeys, List.mem_cons, List.not_mem_nil, or_false] at hkey
  rcases hkey with rfl | rfl | rfl | rfl | rfl | rfl <;>
    simp [setStandardTexts, pasetoStandardKeys, get?_setText]

/-- Where the texts of the times can be read and no other claim has a reserved name, a token can
be built, and it has the standard texts of the payload. -/
theorem exists_tokenClaims_of_readable (built : DateTime)
    (hexp : ∀ s ∈ textAt payload "exp", ∃ t, X.claimTime s = .ok t)
    (hiat : ∀ s ∈ textAt payload "iat", ∃ t, X.claimTime s = .ok t)
    (hcustom : ∀ claim ∈ payload.entries, claim.1 ∉ pasetoStandardKeys →
      X.customClaim claim.1 = .ok ()) :
    ∃ claims, tokenClaims X payload built = .ok claims ∧ ∀ key ∈ pasetoStandardKeys,
      claims.get? key
        = ((textAt payload key).map Json.string).or ((builderDefaults X built).get? key) := by
  rw [← textAt_normalized (by decide)] at hexp hiat
  have hwritten : ∀ claim ∈ (normalizeCustomClaims X.numberText payload).entries,
      claim.1 ∉ pasetoStandardKeys →
        (∃ text, claim.2 = .string text) ∧ X.customClaim claim.1 = .ok () := by
    intro claim hclaim hkey
    obtain ⟨old, hold, rfl⟩ := List.mem_map.mp hclaim
    refine ⟨?_, hcustom old hold hkey⟩
    cases old.2 <;> simp [hkey, Json.isString]
  refine ⟨_, populateBuilderClaims_ok hexp hiat hwritten, fun key hkey => ?_⟩
  rw [get?_populated hkey, textAt_normalized hkey]

end TokenClaims

/-! ### Claims that can be written -/

/-- The text of a custom claim. -/
def Claims.customText (claims : Claims) (key : String) : Option String :=
  (claims.custom.get? key).bind Json.asStr

/-- The text under a standard name: a custom claim takes the place of what the generator wrote,
and counts only if it is a text. -/
def Claims.standardText (claims : Claims) (key written : String) : Option String :=
  match claims.custom.get? key with
  | none => some written
  | some value => value.asStr

/-- The claims can be written to a token and read back: a custom claim in the place of the
subject is a text, one in the place of a time is a text that can be read, or no text at all, and
none has a reserved name. -/
structure WritableClaims (X : PasetoExterns) (claims : Claims) (exp : DateTime)
    (input : GenerateInput) : Prop where
  sub : claims.standardText "sub" claims.sub ≠ none
  expTime : ∀ text ∈ claims.standardText "exp" (X.toRfc3339 exp), ∃ t, X.claimTime text = .ok t
  expRead : ∃ t, X.parseFromRfc3339 ((claims.standardText "exp" (X.toRfc3339 exp)).getD
    (builderExpiry X input.built)) = .ok t
  iatTime : ∀ text ∈ claims.standardText "iat" (X.toRfc3339 input.now),
    ∃ t, X.claimTime text = .ok t
  custom : ∀ claim ∈ claims.custom.entries, claim.1 ∉ pasetoStandardKeys →
    X.customClaim claim.1 = .ok ()

section Writable

variable (X : PasetoExterns) (config : PayloadConfig) (claims : Claims) (now exp : DateTime)
  (uuid : Uuid)

/-- What the payload has under the names the generator always writes. -/
theorem textAt_generatePayload :
    let payload := generatePayload X.toStoreExterns config claims now exp uuid
    textAt payload "sub" = claims.standardText "sub" claims.sub ∧
      textAt payload "exp" = claims.standardText "exp" (X.toRfc3339 exp) ∧
      textAt payload "iat" = claims.standardText "iat" (X.toRfc3339 now) := by
  have htext : ∀ key written, key ≠ "iss" → key ≠ "aud" →
      (standardClaims X.toStoreExterns config claims now exp uuid).get? key
        = some (.string written) →
      textAt (generatePayload X.toStoreExterns config claims now exp uuid) key
        = claims.standardText key written := by
    intro key written hiss haud hwritten
    rw [textAt, get?_generatePayload hiss haud, hwritten, Claims.standardText]
    cases claims.custom.get? key with
    | none => rfl
    | some value => rfl
  refine ⟨htext "sub" _ (by decide) (by decide) ?_, htext "exp" _ (by decide) (by decide) ?_,
    htext "iat" _ (by decide) (by decide) ?_⟩
  all_goals simp [standardClaims, get?_setTexts, get?_setText, OrderedMap.get?_insert]

/-- What the payload has for the issuer and the audience. -/
theorem textAt_generatePayload_expected :
    let payload := generatePayload X.toStoreExterns config claims now exp uuid
    textAt payload "iss" = (config.issuer.or claims.iss).or (claims.customText "iss") ∧
      textAt payload "aud" = (config.audience.or claims.aud).or (claims.customText "aud") := by
  have htext : ∀ (key : String) (text : Option String),
      (standardClaims X.toStoreExterns config claims now exp uuid).get? key = none →
      ((text.map Json.string).or (((standardClaims X.toStoreExterns config claims now exp
        uuid).insertAll claims.custom.entries).get? key)).bind Json.asStr
        = text.or (claims.customText key) := by
    intro key text hstandard
    rw [OrderedMap.get?_insertAll claims.custom.nodup, hstandard, Option.or_none]
    cases text <;> rfl
  constructor
  · simp only [textAt, generatePayload, get?_setText]
    exact htext "iss" _ (by simp [standardClaims, get?_setTexts, get?_setText,
      OrderedMap.get?_insert])
  · simp only [textAt, generatePayload, get?_setText]
    exact htext "aud" _ (by simp [standardClaims, get?_setTexts, get?_setText,
      OrderedMap.get?_insert])

variable {X config claims exp uuid}

/-- No claim of the payload that the builder takes for a custom one has a reserved name. -/
theorem customClaim_generatePayload {now : DateTime}
    (hcustom : ∀ claim ∈ claims.custom.entries, claim.1 ∉ pasetoStandardKeys →
      X.customClaim claim.1 = .ok ())
    (hknown : ∀ key ∈ ["email", "username", "roles", "perms"], X.customClaim key = .ok ()) :
    ∀ claim ∈ (generatePayload X.toStoreExterns config claims now exp uuid).entries,
      claim.1 ∉ pasetoStandardKeys → X.customClaim claim.1 = .ok () := by
  intro claim hclaim hkey
  have hfound := OrderedMap.get?_eq_some_iff.mpr hclaim
  rw [get?_generatePayload (ne_of_mem_of_not_mem (by decide) hkey).symm
    (ne_of_mem_of_not_mem (by decide) hkey).symm] at hfound
  cases hget : claims.custom.get? claim.1 with
  | some v => exact hcustom (claim.1, v) (OrderedMap.get?_eq_some_iff.mp hget) hkey
  | none =>
    rw [hget, Option.none_or] at hfound
    have hmem : claim.1 ∈ knownKeys := by
      by_contra hmem
      rw [get?_standardClaims_of_notMem hmem] at hfound
      contradiction
    have hsplit : knownKeys = pasetoStandardKeys ++ ["email", "username", "roles", "perms"] := rfl
    rw [hsplit, List.mem_append] at hmem
    exact hknown claim.1 (hmem.resolve_left hkey)

/-- **Claims that can be written are.**  It is assumed that the names of the claims the generator
knows itself are not reserved. -/
theorem WritableClaims.exists_tokenClaims {input : GenerateInput}
    (h : WritableClaims X claims exp input) (config : PayloadConfig) (uuid : Uuid)
    (hknown : ∀ key ∈ ["email", "username", "roles", "perms"], X.customClaim key = .ok ()) :
    ∃ token, tokenClaims X (generatePayload X.toStoreExterns config claims input.now exp uuid)
        input.built = .ok token ∧
      (∃ sub, token.get? "sub" = some (.string sub)) ∧
      (∃ text t, token.get? "exp" = some (.string text) ∧ X.parseFromRfc3339 text = .ok t) ∧
      (∀ issuer, (config.issuer.or claims.iss).or (claims.customText "iss") = some issuer →
        token.get? "iss" = some (.string issuer)) ∧
      ∀ audience, (config.audience.or claims.aud).or (claims.customText "aud") = some audience →
        token.get? "aud" = some (.string audience) := by
  obtain ⟨hsub, hexp, hiat⟩ := textAt_generatePayload X config claims input.now exp uuid
  obtain ⟨hiss, haud⟩ := textAt_generatePayload_expected X config claims input.now exp uuid
  rcases exists_tokenClaims_of_readable input.built (hexp ▸ h.expTime) (hiat ▸ h.iatTime)
    (customClaim_generatePayload h.custom hknown) with ⟨token, htoken, hget⟩
  refine ⟨token, htoken, ?_, ?_, fun issuer hissuer => ?_, fun audience haudience => ?_⟩
  · rw [hget "sub" (by decide), hsub]
    obtain ⟨sub, hsome⟩ := Option.ne_none_iff_exists'.mp h.sub
    exact ⟨sub, by rw [hsome]; rfl⟩
  · rw [hget "exp" (by decide), hexp]
    obtain ⟨t, ht⟩ := h.expRead
    cases htext : claims.standardText "exp" (X.toRfc3339 exp) with
    | some text =>
      rw [htext] at ht
      exact ⟨text, t, rfl, ht⟩
    | none =>
      rw [htext] at ht
      exact ⟨builderExpiry X input.built, t, rfl, ht⟩
  · rw [hget "iss" (by decide), hiss, hissuer]
    rfl
  · rw [hget "aud" (by decide), haud, haudience]
    rfl

end Writable

/-! ### End to end -/

/-- The time is one at which the token may be used: not before its first, and before it expires. -/
structure InTime (X : PasetoExterns) (token : Payload) (now : DateTime) : Prop where
  started : ∀ text t, token.get? "nbf" = some (.string text) → X.claimTime text = .ok t → t ≤ now
  unexpired : ∀ text t, token.get? "exp" = some (.string text) → X.claimTime text = .ok t → now < t

/-- The primitives verify what they signed: with a symmetric key, a token is built that keeps its
footer, and at every time it may be used it is read with the key as the claims it was built with,
by everyone who expects its issuer and its audience, or none. -/
def Signs (X : PasetoExterns) (keyBytes : List UInt8) (claims : Payload) (footer : String)
    (nonce : List UInt8) : Prop :=
  ∃ token, X.build .v4Local keyBytes claims footer nonce = .ok token ∧
    X.footer token = some footer ∧
    ∀ issuer audience now, (∀ i ∈ issuer, claims.get? "iss" = some (.string i)) →
      (∀ a ∈ audience, claims.get? "aud" = some (.string a)) → InTime X claims now →
      X.parse .v4Local keyBytes issuer audience (some footer) now token
        = .ok (.object claims.entries)

/-- What a token of the generator says. -/
def tokenContent (X : PasetoExterns) (gen : PasetoGenerator) (claims : Claims)
    (expiresInSecs : UInt64) (input : GenerateInput) : Except PasetoError Payload := do
  let exp ← expiresAt input.now expiresInSecs
  tokenClaims X (generatePayload X.toStoreExterns gen.config claims input.now exp input.uuid)
    input.built

/-- The manager asked for the key to sign with, and the world after that. -/
def askSigningKey (X : PasetoExterns) (b : KeyBackend) (mgr : KeyManager) (w : KeyWorld)
    (inputs : ℕ → KeyInput) : Except KeyError (Option CachedKey) × KeyWorld :=
  exec (KeyWorld.answer X.toKeyExterns b) mgr.id (mgr.getSigningKey X.toKeyExterns) w inputs

/-- The manager asked for the keys to verify with. -/
def askVerificationKeys (X : PasetoExterns) (b : KeyBackend) (mgr : KeyManager) (w : KeyWorld)
    (inputs : ℕ → KeyInput) : Except KeyError (List CachedKey) :=
  (exec (KeyWorld.answer X.toKeyExterns b) mgr.id (mgr.getAllVerificationKeys X.toKeyExterns) w
    inputs).1

/-- A generator and a validator with a manager, and what a token is made of. -/
structure Issue where
  mgr : KeyManager
  gen : PasetoGenerator
  auth : PasetoAuth
  claims : Claims
  expiresInSecs : UInt64
  input : GenerateInput
  /-- of the calls that ask for the key -/
  inputs : ℕ → KeyInput

/-- **A token works end to end**: it is issued with the manager's signing key, and after every
further run the validator accepts it, at every time it may be used, as long as the key is not
retired. -/
def Issue.Works (X : PasetoExterns) (b : KeyBackend) (w : KeyWorld) (kid : String)
    (i : Issue) : Prop :=
  ∃ token, generateInternal X i.gen i.claims i.expiresInSecs i.input
      (some (askSigningKey X b i.mgr w i.inputs).1) = .ok token ∧
    ∀ later, Reach (opStep X.toKeyExterns b) (Serving i.mgr) (askSigningKey X b i.mgr w i.inputs).2
      later → ∀ (inputs : ℕ → KeyInput) (now : DateTime), (∀ n, (inputs n).Faultless) →
      (∀ content, tokenContent X i.gen i.claims i.expiresInSecs i.input = .ok content →
        InTime X content now) →
      Unretired kid later.table →
      ∃ claims, i.auth.validateToken X now token
        (some (askVerificationKeys X b i.mgr later inputs)) = .ok claims

/-- The claims can be written, and the validator expects the issuer and the audience of the
token, or none. -/
structure Issue.Fits (X : PasetoExterns) (i : Issue) : Prop where
  writable : ∃ exp, expiresAt i.input.now i.expiresInSecs = .ok exp ∧
    WritableClaims X i.claims exp i.input
  issuer : ∀ issuer ∈ i.auth.issuer,
    (i.gen.config.issuer.or i.claims.iss).or (i.claims.customText "iss") = some issuer
  audience : ∀ audience ∈ i.auth.audience,
    (i.gen.config.audience.or i.claims.aud).or (i.claims.customText "aud") = some audience

section EndToEnd

variable {X : PasetoExterns} {auth : PasetoAuth} {now : DateTime} {token : String}

/-- A token that one of the manager's keys validates is accepted. -/
theorem exists_validateToken {keys : List CachedKey} {key : CachedKey} (hkey : key ∈ keys)
    {claims : Claims} (h : auth.validateWithKeyBytes X now token key.keyMaterial = .ok claims) :
    ∃ claims', auth.validateToken X now token (some (.ok keys)) = .ok claims' := by
  rw [PasetoAuth.validateToken]
  cases auth.validateWithStaticKey X now token with
  | ok claims' => exact ⟨claims', rfl⟩
  | error e =>
    have hsome : (keys.findSome? fun key =>
        (auth.validateWithKeyBytes X now token key.keyMaterial).toOption).isSome = true := by
      rw [List.findSome?_isSome_iff]
      exact ⟨key, hkey, by rw [h]; rfl⟩
    obtain ⟨claims', hfound⟩ := Option.isSome_iff_exists.mp hsome
    exact ⟨claims', by simp only [hfound]⟩

/-- Claims with a subject and a time of expiry are read. -/
theorem exists_jsonToClaims {claims : Payload}
    (hsub : ∃ sub, claims.get? "sub" = some (.string sub))
    (hexp : ∃ text t, claims.get? "exp" = some (.string text) ∧ X.parseFromRfc3339 text = .ok t) :
    ∃ claims', jsonToClaims X.toStoreExterns (.object claims.entries) = .ok claims' := by
  obtain ⟨sub, hsub⟩ := hsub
  obtain ⟨text, t, hexp, ht⟩ := hexp
  rw [OrderedMap.get?] at hsub hexp
  refine ⟨_, jsonToClaims_eq_ok_iff.mpr ⟨sub, t.timestamp, ?_, ?_, rfl⟩⟩
  · rw [Json.get, hsub]
    rfl
  · rw [Json.get, hexp, parseExp]
    simp [Json.asStr, ht]

variable {gen : PasetoGenerator} {claims : Claims} {expiresInSecs : UInt64} {input : GenerateInput}
  {cached : CachedKey}

/-- A rotated key, which has 32 bytes, is none that a private key has to have. -/
theorem generateInternal_of_public (hpurpose : gen.key.purpose = .v4Public)
    (hlength : cached.keyMaterial.length = 32) (token : String) :
    generateInternal X gen claims expiresInSecs input (some (.ok (some cached))) ≠ .ok token := by
  rcases gen with ⟨_ | ⟨privateKeyBytes, hprivate⟩, config⟩
  · contradiction
  · intro htoken
    rw [generateInternal] at htoken
    cases hexp : expiresAt input.now expiresInSecs with
    | error e => simp [hexp, bind, Except.bind] at htoken
    | ok exp => simp [hexp, generateRotated, toByteArray, hlength, bind, Except.bind] at htoken

/-- A rotated key is one for symmetric tokens. -/
theorem generateInternal_of_local (hpurpose : gen.key.purpose = .v4Local)
    (hlength : cached.keyMaterial.length = 32) {content : Payload}
    (hcontent : tokenContent X gen claims expiresInSecs input = .ok content) {token : String}
    (hbuild : X.build .v4Local cached.keyMaterial content (kidFooter X cached.kid) input.nonce
      = .ok token) :
    generateInternal X gen claims expiresInSecs input (some (.ok (some cached))) = .ok token := by
  rcases gen with ⟨⟨keyBytes, hkey⟩ | _, config⟩
  · rw [tokenContent] at hcontent
    rw [generateInternal]
    cases hexp : expiresAt input.now expiresInSecs with
    | error e => simp [hexp, bind, Except.bind] at hcontent
    | ok exp =>
      simp only [hexp, bind, Except.bind] at hcontent
      simp [generateRotated, toByteArray, hlength, generateWithFooter, hcontent, hbuild, bind,
        Except.bind]
  · contradiction

end EndToEnd

/-- **When tokens of rotated keys work.**  In every state that functions without faults lead to
from one in which the manager has not signed yet, a token that fits, issued with the key the
manager then signs with, works exactly if it is of a symmetric key.  It is assumed that base64
can be decoded, that the names of the claims the generator knows itself are not reserved, and
that the primitives verify what they signed. -/
theorem works_iff_of_reach (X : PasetoExterns) (b : KeyBackend)
    (hbase64 : ∀ fresh : FreshKey, X.base64Decode (X.base64Encode fresh.bytes) = .ok fresh.bytes)
    (hknown : ∀ key ∈ ["email", "username", "roles", "perms"], X.customClaim key = .ok ())
    (i : Issue) (hpurpose : i.auth.purpose = i.gen.key.purpose) (hfits : i.Fits X)
    (hinputs : ∀ n, (i.inputs n).Faultless) (init w : KeyWorld)
    (hmade : ∀ r ∈ init.table.rows, MadeKey X.toKeyExterns r)
    (hinit : (init.caches i.mgr.id).activeKey = none)
    (h : Reach (opStep X.toKeyExterns b) (Serving i.mgr) init w) (cached : CachedKey)
    (hcached : (askSigningKey X b i.mgr w i.inputs).1 = .ok (some cached))
    (hsigns : ∀ content, tokenContent X i.gen i.claims i.expiresInSecs i.input = .ok content →
      Signs X cached.keyMaterial content (kidFooter X cached.kid) i.input.nonce) :
    i.Works X b w cached.kid ↔ i.gen.key.purpose = .v4Local := by
  -- no key that was issued with has to be kept yet
  have hstart : ManagerInv X.toKeyExterns i.mgr (fun _ _ => False) init :=
    ⟨hmade, fun key hkey => by rw [hinit] at hkey; contradiction, fun _ _ => False.elim⟩
  rcases exec_getSigningKey (managerInv_of_reach hbase64 hstart h) hinputs b i.mgr.id with
    ⟨w₁, hsigning, -, hI⟩
  rw [askSigningKey, hsigning] at hcached
  have hactive : (w₁.caches i.mgr.id).activeKey = some cached := Except.ok.inj hcached
  have hverifiable := hI.signing cached hactive
  have hlength := hverifiable.length_eq hI.made
  -- what the token holds, which the claims and the configuration determine
  obtain ⟨exp, hexp, hwritable⟩ := hfits.writable
  rcases hwritable.exists_tokenClaims i.gen.config i.input.uuid hknown with
    ⟨content, hclaims, hsub, hread, hiss, haud⟩
  have hcontent : tokenContent X i.gen i.claims i.expiresInSecs i.input = .ok content := by
    simpa [tokenContent, hexp, bind, Except.bind] using hclaims
  obtain ⟨token, hbuild, hfooter, hparse⟩ := hsigns content hcontent
  -- a public key is thirty-two bytes long, and PASETO refuses to sign with it
  constructor
  · rintro ⟨token, hgenerated, -⟩
    by_contra hpublic
    rw [askSigningKey, hsigning, hactive] at hgenerated
    refine generateInternal_of_public ?_ hlength token hgenerated
    cases hkey : i.gen.key.purpose with
    | v4Local => exact absurd hkey hpublic
    | v4Public => rfl
  · intro hlocal
    refine ⟨token, ?_, ?_⟩
    · rw [askSigningKey, hsigning, hactive]
      exact generateInternal_of_local hlocal hlength hcontent hbuild
    · intro later hlater inputs now hinputs' htime hunretired
      -- the key the token was issued with is kept by the rest of the run
      have hissued : ManagerInv X.toKeyExterns i.mgr
          (fun kid material => kid = cached.kid ∧ material = cached.keyMaterial) w₁ := by
        refine ⟨hI.made, hI.signing, ?_⟩
        rintro _ _ ⟨rfl, rfl⟩
        exact hverifiable
      rw [askSigningKey, hsigning] at hlater
      rcases exec_getAllVerificationKeys (managerInv_of_reach hbase64 hissued hlater) hinputs' b
        i.mgr.id with ⟨w₂, hverifying, htable, hI₂⟩
      rcases (hI₂.verifiable _ _ ⟨rfl, rfl⟩).exists_of_unretired (htable ▸ hunretired) with
        ⟨key, hkey, hmaterial⟩
      rw [askVerificationKeys, hverifying]
      obtain ⟨claims, hclaims⟩ := exists_jsonToClaims hsub hread
      have haccepted : i.auth.validateWithKeyBytes X now token key.keyMaterial = .ok claims := by
        rw [PasetoAuth.validateWithKeyBytes, hmaterial, if_pos hlength, PasetoAuth.validateWith,
          hpurpose, hlocal, hfooter, hparse i.auth.issuer i.auth.audience now
            (fun issuer h => hiss issuer (hfits.issuer issuer h))
            (fun audience h => haud audience (hfits.audience audience h)) (htime content hcontent)]
        exact hclaims
      exact exists_validateToken hkey haccepted

/-! ### Samples -/

/-- Base64 at the sample keys; other keys have made-up texts. -/
def sampleBase64Encode (bytes : List UInt8) : String :=
  ((sampleMaterial.find? fun m => decide (m.1 = bytes)).map (·.2.1)).getD
    (String.ofList (hexDigits bytes))

def sampleBase64Decode (text : String) : Except String (List UInt8) :=
  .ok (((sampleMaterial.find? fun m => decide (m.2.1 = text)).map (·.1)).getD
    (bytesOfHex text.toList))

theorem bytesOfHex_hexDigits (bytes : List UInt8) : bytesOfHex (hexDigits bytes) = bytes := by
  induction bytes with
  | nil => rfl
  | cons b bytes ih =>
    have hb := b.toNat_lt
    have hdigits : hexDigits (b :: bytes)
        = hexDigit (b.toNat / 16) :: hexDigit (b.toNat % 16) :: hexDigits bytes := rfl
    rw [hdigits, bytesOfHex, hexValue_hexDigit _ (by omega), hexValue_hexDigit _ (by omega), ih,
      Nat.div_add_mod, UInt8.ofNat_toNat]

theorem sampleBase64_roundTrip (fresh : FreshKey) :
    sampleBase64Decode (sampleBase64Encode fresh.bytes) = .ok fresh.bytes := by
  rw [sampleBase64Encode]
  cases hfind : sampleMaterial.find? fun m => decide (m.1 = fresh.bytes) with
  | some m =>
    have hbytes := of_decide_eq_true (List.find?_some
      (p := fun m : List UInt8 × String × Digest => decide (m.1 = fresh.bytes)) hfind)
    have hall : ∀ m ∈ sampleMaterial, sampleBase64Decode m.2.1 = .ok m.1 := by decide
    rw [← hbytes]
    exact hall m (List.mem_of_find?_eq_some hfind)
  | none =>
    -- the texts of the samples are shorter
    have hnone : sampleMaterial.find? (fun m => decide (m.2.1 = String.ofList
        (hexDigits fresh.bytes))) = none := by
      have hlength : ∀ m ∈ sampleMaterial, m.2.1.toList.length = 44 := by decide
      rw [List.find?_eq_none]
      intro m hm heq
      have := hlength m hm
      rw [of_decide_eq_true heq, String.toList_ofList, length_hexDigits, fresh.length_eq] at this
      contradiction
    rw [Option.map_none, Option.getD_none, sampleBase64Decode, hnone, Option.map_none,
      Option.getD_none, String.toList_ofList, bytesOfHex_hexDigits]

/-- The times of the texts in sample tokens, those of the builder among them. -/
def sampleClaimTimes : List (String × DateTime) :=
  [("2025-06-15T10:30:00+00:00", sampleTime 0), ("2025-06-15T10:45:00+00:00", sampleExpiry),
   ("2025-06-15T10:30:00Z", sampleTime 0), ("2025-06-15T11:30:00Z", sampleAfter 3600)]

/-- The identifier of the sample key. -/
def sampleRotatedKid : String := "01910000-0000-7000-8000-000000000001"

def sampleTokenText : String := "v4.local.c2FtcGxl.eyJraWQiOiIwMTkxIn0"

/-- The third-party functions at one sample token, of the claims given. -/
def samplePasetoExterns (content : Payload) : PasetoExterns where
  toStoreExterns := { samplePaseto with blake3 := sampleKeyExterns.blake3 }
  base64Encode := sampleBase64Encode
  base64Decode := sampleBase64Decode
  uniqueViolation := sampleKeyExterns.uniqueViolation
  surrealNoneLe := true
  claimTime text :=
    match sampleClaimTimes.lookup text with
    | some t => .ok t
    | none => .error "The value is a malformed RFC3339 date"
  builderTime t := if t = sampleTime 0 then "2025-06-15T10:30:00Z" else "2025-06-15T11:30:00Z"
  customClaim key :=
    if key ∈ ["iss", "sub", "aud", "exp", "nbf", "iat", "jti"] then
      .error ("The key " ++ key ++ " is a reserved for use within PASETO")
    else .ok ()
  build _ _ _ _ _ := .ok sampleTokenText
  parse purpose keyBytes _ _ _ now token :=
    if purpose = .v4Local ∧ keyBytes = List.replicate 32 1 ∧ token = sampleTokenText ∧
      sampleTime 0 ≤ now ∧ now < sampleExpiry then .ok (.object content.entries)
    else .error "A cipher error occurred"
  footer _ := some (jsonText samplePaseto.numberText (.object [("kid", .string sampleRotatedKid)]))

/-- A token for the sample claims, of a generator with the key given. -/
def sampleIssue (key : PasetoGeneratorKey) (custom : OrderedMap String Json) : Issue where
  mgr := sampleManager 0
  gen := ⟨key, samplePayloadConfig⟩
  auth := ⟨key.purpose, List.replicate 32 0, List.length_replicate, none, none⟩
  claims := sampleClaims ["admin"] custom
  expiresInSecs := 900
  input := ⟨sampleTime 0, sampleUuid, sampleTime 0, List.replicate 32 9⟩
  inputs _ := sampleInput 0 1

/-- A generator of symmetric tokens. -/
def sampleLocalKey : PasetoGeneratorKey := .v4Local (List.replicate 32 0) List.length_replicate

/-- What the token of the sample claims says. -/
def sampleContent (custom : OrderedMap String Json) : Payload :=
  let i := sampleIssue sampleLocalKey custom
  match tokenContent (samplePasetoExterns OrderedMap.empty) i.gen i.claims i.expiresInSecs
    i.input with
  | .ok content => content
  | .error _ => OrderedMap.empty

/-- The world after a first rotation. -/
def sampleRotated (X : KeyExterns) : KeyWorld :=
  opStep X .postgres sampleWorld (.rotate (sampleManager 0), fun _ => sampleInput 0 1)

def sampleRotatedKey : CachedKey :=
  ⟨sampleRotatedKid, .pasetoV4Local, List.replicate 32 1, .active⟩

theorem reach_sampleRotated (X : KeyExterns) :
    Reach (opStep X .postgres) (Serving (sampleManager 0)) sampleWorld (sampleRotated X) := by
  refine .act _ .start ⟨fun _ => rfl, fun _ => ⟨rfl, fun m h => ?_⟩⟩
  cases h

theorem works_iff_of_reach_sample :
    (sampleIssue sampleLocalKey sampleCustom).Works
      (samplePasetoExterns (sampleContent sampleCustom)) .postgres
      (sampleRotated (samplePasetoExterns (sampleContent sampleCustom)).toKeyExterns)
      sampleRotatedKid := by
  refine (works_iff_of_reach (samplePasetoExterns (sampleContent sampleCustom)) .postgres
    sampleBase64_roundTrip (by decide) (sampleIssue _ _) rfl ?_ (fun _ => rfl) sampleWorld _
    (fun _ hr => absurd hr List.not_mem_nil) rfl (reach_sampleRotated _) sampleRotatedKey rfl
    ?_).mpr rfl
  · refine ⟨⟨sampleExpiry, rfl, by decide, ?_, ⟨sampleExpiry, by decide⟩, ?_, ?_⟩, nofun, nofun⟩
    · rintro _ ⟨⟩
      exact ⟨sampleExpiry, by decide⟩
    · rintro _ ⟨⟩
      exact ⟨sampleTime 0, by decide⟩
    · intro claim hclaim _
      rcases List.mem_cons.mp hclaim with rfl | hclaim
      · rfl
      · rw [List.mem_singleton.mp hclaim]
        rfl
  · intro content hcontent
    have hsame : tokenContent (samplePasetoExterns (sampleContent sampleCustom))
        (sampleIssue sampleLocalKey sampleCustom).gen (sampleClaims ["admin"] sampleCustom) 900
        (sampleIssue sampleLocalKey sampleCustom).input = .ok (sampleContent sampleCustom) := rfl
    cases Except.ok.inj (hcontent.symm.trans hsame)
    refine ⟨sampleTokenText, rfl, rfl, fun issuer audience now _ _ htime => ?_⟩
    have hstarted := htime.started "2025-06-15T10:30:00Z" (sampleTime 0) rfl (by decide)
    have hunexpired := htime.unexpired "2025-06-15T10:45:00+00:00" sampleExpiry rfl (by decide)
    exact if_pos ⟨rfl, rfl, rfl, hstarted, hunexpired⟩

/-- A generator of signed tokens. -/
def samplePublicKey : PasetoGeneratorKey := .v4Public (List.replicate 64 0) List.length_replicate

/-- A custom claim in the place of the subject, and not a text. -/
def sampleSubjectClaim : OrderedMap String Json :=
  OrderedMap.empty.insert "sub" (.number (.posInt 7))

/-- Tokens of rotated keys do not always work: after a rotation no signed token is issued at all,
and a symmetric one with such a subject is issued but not accepted. -/
theorem not_forall_works :
    (¬ (sampleIssue samplePublicKey sampleCustom).Works
      (samplePasetoExterns (sampleContent sampleCustom)) .postgres
      (sampleRotated (samplePasetoExterns (sampleContent sampleCustom)).toKeyExterns)
      sampleRotatedKid) ∧
    ¬ (sampleIssue sampleLocalKey sampleSubjectClaim).Works
      (samplePasetoExterns (sampleContent sampleSubjectClaim)) .postgres
      (sampleRotated (samplePasetoExterns (sampleContent sampleSubjectClaim)).toKeyExterns)
      sampleRotatedKid := by
  constructor
  · rintro ⟨token, htoken, -⟩
    have hlength : sampleRotatedKey.keyMaterial.length = 32 := List.length_replicate
    exact generateInternal_of_public rfl hlength token htoken
  · rintro ⟨token, htoken, haccepted⟩
    cases htoken
    have htime : ∀ content, tokenContent (samplePasetoExterns (sampleContent sampleSubjectClaim))
        (sampleIssue sampleLocalKey sampleSubjectClaim).gen
        (sampleClaims ["admin"] sampleSubjectClaim) 900
        (sampleIssue sampleLocalKey sampleSubjectClaim).input = .ok content →
        InTime (samplePasetoExterns (sampleContent sampleSubjectClaim)) content (sampleTime 0) := by
      intro content hcontent
      cases hcontent
      refine ⟨?_, ?_⟩
      · rintro _ t ⟨⟩ ht
        cases ht
        decide
      · rintro _ t ⟨⟩ ht
        cases ht
        decide
    rcases haccepted _ .start (fun _ => sampleInput 0 1) (sampleTime 0) (fun _ => rfl) htime
      (by decide) with ⟨claims, hclaims⟩
    cases hclaims

end ActonService
