import ActonService.Auth.PasetoTokens

/-!
# Claims through a PASETO token

What the middleware rebuilds of the claims that a token was made of.  Between the payload of the
generator and the object the middleware reads stands the builder.  It takes the standard texts
from the payload, and every other name as a custom claim unless the name is reserved.  It also
sets a time of its own before which the token is not valid, and the generator never replaces
that one.  The middleware does not know the name and returns it among the custom claims.

So no claims come back as they were.  What is settled here besides is which claims come back but
for that one addition.

## Main definitions

* `Buildable`, `builtClaims` — a payload that a token can be built of, and what the token says.
* `SameIdentityBut` — the same bearer, and the same custom claims but one.
* `ComesBack` — the claims that come back so.

## Main results

* `tokenClaims_eq_ok_iff` — when a token can be built, and what it says.
* `sameIdentity_tokenContent` — **no claims come back as they were, and which come back but for
  the time the builder sets.**
-/

namespace ActonService

/-! ### What a token says -/

/-- A token can be built of the payload: the texts of its times are times, and no claim with a
name of its own has a reserved one. -/
structure Buildable (X : PasetoExterns) (payload : Payload) : Prop where
  exp : ∀ text ∈ textAt payload "exp", ∃ t, X.claimTime text = .ok t
  iat : ∀ text ∈ textAt payload "iat", ∃ t, X.claimTime text = .ok t
  custom : ∀ claim ∈ payload.entries, claim.1 ∉ pasetoStandardKeys →
    X.customClaim claim.1 = .ok ()

/-- What a token says that is built of the payload. -/
def builtClaims (X : PasetoExterns) (payload : Payload) (built : DateTime) : Payload :=
  let normalized := normalizeCustomClaims X.numberText payload
  (setStandardTexts (builderDefaults X built) normalized).insertAll
    (normalized.entries.filter fun claim => decide (claim.1 ∉ pasetoStandardKeys))

section Built

variable {X : PasetoExterns} {payload : Payload} {built : DateTime}

theorem setTime_eq_ok {key message : String} {builder builder' : Payload} {text : Option String}
    (h : setTime X key message builder text = .ok builder') :
    ∀ s ∈ text, ∃ t, X.claimTime s = .ok t := by
  rintro s rfl
  rw [setTime] at h
  cases ht : X.claimTime s with
  | error e => simp [ht] at h
  | ok t => exact ⟨t, rfl⟩

/-- The builder refuses a reserved name wherever it stands. -/
theorem customClaim_of_foldlM_setCustom {entries : List (String × Json)} {builder token : Payload}
    (h : entries.foldlM (setCustom X) builder = .ok token) :
    ∀ claim ∈ entries, claim.1 ∉ pasetoStandardKeys → X.customClaim claim.1 = .ok () := by
  induction entries generalizing builder with
  | nil => simp
  | cons claim entries ih =>
    rw [List.foldlM_cons] at h
    cases hset : setCustom X builder claim with
    | error e => simp [hset, bind, Except.bind] at h
    | ok builder' =>
      rw [hset] at h
      refine List.forall_mem_cons.mpr ⟨fun hkey => ?_, ih h⟩
      rw [setCustom, if_neg hkey] at hset
      cases htext : claim.2.asStr with
      | none => simp [htext] at hset
      | some text =>
        cases hclaim : X.customClaim claim.1 with
        | error e => simp [htext, hclaim] at hset
        | ok u => rfl

/-- Every value that is no standard one is a text in the end. -/
theorem isString_normalized {claim : String × Json}
    (h : claim ∈ (normalizeCustomClaims X.numberText payload).entries)
    (hkey : claim.1 ∉ pasetoStandardKeys) : ∃ text, claim.2 = .string text := by
  obtain ⟨old, -, rfl⟩ := List.mem_map.mp h
  cases old.2 <;> simp [show old.1 ∉ pasetoStandardKeys from hkey, Json.isString]

/-- Normalizing changes the values of the claims, and keeps their names. -/
theorem forall_normalized_iff (P : String → Prop) :
    (∀ claim ∈ (normalizeCustomClaims X.numberText payload).entries, P claim.1)
      ↔ ∀ claim ∈ payload.entries, P claim.1 := by
  rw [normalizeCustomClaims, OrderedMap.map]
  exact List.forall_mem_map

/-- **When a token can be built, and what it says.** -/
theorem tokenClaims_eq_ok_iff {token : Payload} :
    tokenClaims X payload built = .ok token
      ↔ Buildable X payload ∧ token = builtClaims X payload built := by
  have hkeys : (∀ claim ∈ (normalizeCustomClaims X.numberText payload).entries,
      claim.1 ∉ pasetoStandardKeys → X.customClaim claim.1 = .ok ()) ↔
        ∀ claim ∈ payload.entries, claim.1 ∉ pasetoStandardKeys →
          X.customClaim claim.1 = .ok () :=
    forall_normalized_iff fun key => key ∉ pasetoStandardKeys → X.customClaim key = .ok ()
  have hexp : textAt (normalizeCustomClaims X.numberText payload) "exp" = textAt payload "exp" :=
    textAt_normalized (by decide)
  have hiat : textAt (normalizeCustomClaims X.numberText payload) "iat" = textAt payload "iat" :=
    textAt_normalized (by decide)
  have hbuild : Buildable X payload →
      tokenClaims X payload built = .ok (builtClaims X payload built) := by
    intro h
    refine populateBuilderClaims_ok (hexp ▸ h.exp) (hiat ▸ h.iat) fun claim hclaim hkey => ?_
    exact ⟨isString_normalized hclaim hkey, hkeys.mpr h.custom claim hclaim hkey⟩
  constructor
  · intro h
    have hbuildable : Buildable X payload := by
      rw [tokenClaims, populateBuilderClaims, hexp, hiat] at h
      cases hset : setTime X "exp" "Invalid expiration: "
          (setText (builderDefaults X built) "sub"
            (textAt (normalizeCustomClaims X.numberText payload) "sub"))
          (textAt payload "exp") with
      | error e => simp [hset, bind, Except.bind] at h
      | ok builder =>
        cases hset' : setTime X "iat" "Invalid issued at: " builder (textAt payload "iat") with
        | error e => simp [hset, hset', bind, Except.bind] at h
        | ok builder' =>
          simp only [hset, hset', bind, Except.bind] at h
          exact ⟨setTime_eq_ok hset, setTime_eq_ok hset',
            hkeys.mp (customClaim_of_foldlM_setCustom h)⟩
    exact ⟨hbuildable, Except.ok.inj (h.symm.trans (hbuild hbuildable))⟩
  · rintro ⟨h, rfl⟩
    exact hbuild h

/-- A standard text is the one of the payload, or the builder's own. -/
theorem get?_builtClaims {key : String} (hkey : key ∈ pasetoStandardKeys) :
    (builtClaims X payload built).get? key
      = ((textAt payload key).map Json.string).or ((builderDefaults X built).get? key) := by
  rw [builtClaims, get?_populated hkey, textAt_normalized hkey]

/-- Any other claim is the one of the payload, as a text, or the builder's own. -/
theorem get?_builtClaims_of_notMem {key : String} (hkey : key ∉ pasetoStandardKeys) :
    (builtClaims X payload built).get? key
      = ((payload.get? key).map (writtenCustom X.numberText)).or
          ((builderDefaults X built).get? key) := by
  have hnodup : (((normalizeCustomClaims X.numberText payload).entries.filter fun claim =>
      decide (claim.1 ∉ pasetoStandardKeys)).map Prod.fst).Nodup :=
    (normalizeCustomClaims X.numberText payload).nodup.sublist (List.filter_sublist.map _)
  have hdefault : (setStandardTexts (builderDefaults X built)
      (normalizeCustomClaims X.numberText payload)).get? key
      = (builderDefaults X built).get? key := by
    simp only [pasetoStandardKeys, List.mem_cons, List.not_mem_nil, or_false, not_or] at hkey
    simp [setStandardTexts, pasetoStandardKeys, get?_setText, hkey]
  have hwritten : (normalizeCustomClaims X.numberText payload).get? key
      = (payload.get? key).map (writtenCustom X.numberText) := by
    rw [normalizeCustomClaims, OrderedMap.get?_map]
    congr 1
    funext v
    simp [hkey, writtenCustom]
  rw [builtClaims, OrderedMap.get?_insertAll hnodup, hdefault,
    OrderedMap.lookup_filter_fst fun key => decide (key ∉ pasetoStandardKeys)]
  rw [← hwritten]
  simp [hkey, OrderedMap.get?]

end Built

/-! ### Claims that come back -/

/-- The claims that say who the bearer is are the same, but for one custom claim. -/
structure SameIdentityBut (name : String) (claims claims' : Claims) : Prop where
  sub : claims'.sub = claims.sub
  email : claims'.email = claims.email
  username : claims'.username = claims.username
  roles : claims'.roles = claims.roles
  perms : claims'.perms = claims.perms
  custom : ∀ key, key ≠ name → claims'.custom.get? key = claims.custom.get? key

theorem SameIdentity.but {claims claims' : Claims} (h : SameIdentity claims claims')
    (name : String) : SameIdentityBut name claims claims' :=
  ⟨h.sub, h.email, h.username, h.roles, h.perms, fun key _ => h.custom key⟩

/-- The claims come back but for the time the builder sets: no custom claim has a standard name or
a reserved one, every custom value survives, and the texts of the times are ones that can be
written and read. -/
structure ComesBack (X : PasetoExterns) (claims : Claims) (expiresInSecs : UInt64)
    (now : DateTime) : Prop where
  expiry : ∃ exp, expiresAt now expiresInSecs = .ok exp ∧
    (∃ t, X.claimTime (X.toRfc3339 exp) = .ok t) ∧
    ∃ t, X.parseFromRfc3339 (X.toRfc3339 exp) = .ok t
  issued : ∃ t, X.claimTime (X.toRfc3339 now) = .ok t
  custom : ∀ claim ∈ claims.custom.entries,
    claim.1 ∉ knownKeys ∧ X.customClaim claim.1 = .ok () ∧ Survives X.toStoreExterns claim.2

section RoundTrip

variable {X : PasetoExterns} {config : PayloadConfig} {claims : Claims} {now exp built : DateTime}
  {uuid : Uuid}

/-- What a token says under a standard name, if no custom claim has it. -/
theorem get?_builtClaims_standard {key text : String} (hiss : key ≠ "iss") (haud : key ≠ "aud")
    (hkey : key ∈ pasetoStandardKeys) (hcustom : claims.custom.get? key = none)
    (hstandard : (standardClaims X.toStoreExterns config claims now exp uuid).get? key
      = some (.string text)) :
    (builtClaims X (generatePayload X.toStoreExterns config claims now exp uuid) built).get? key
      = some (.string text) := by
  rw [get?_builtClaims hkey, textAt, get?_generatePayload hiss haud, hcustom, Option.none_or,
    hstandard]
  rfl

/-- What a token says under a name the generator knows and the builder does not, if no custom
claim has it. -/
theorem get?_builtClaims_known {key : String} (hknown : key ∈ ["email", "username", "roles",
    "perms"]) (hcustom : claims.custom.get? key = none) :
    (builtClaims X (generatePayload X.toStoreExterns config claims now exp uuid) built).get? key
      = ((standardClaims X.toStoreExterns config claims now exp uuid).get? key).map
          (writtenCustom X.numberText) := by
  have hdefault : (builderDefaults X built).get? key = none := by
    simp only [List.mem_cons, List.not_mem_nil, or_false] at hknown
    rcases hknown with rfl | rfl | rfl | rfl <;> rfl
  have hkeys : ∀ key ∈ ["email", "username", "roles", "perms"],
      key ∉ pasetoStandardKeys ∧ key ≠ "iss" ∧ key ≠ "aud" := by
    decide
  obtain ⟨hkey, hiss, haud⟩ := hkeys key hknown
  rw [get?_builtClaims_of_notMem hkey, get?_generatePayload hiss haud, hcustom, Option.none_or,
    hdefault, Option.or_none]

/-- **What the middleware makes of the standard claims**, if no custom one takes their name. -/
theorem get_builtClaims (config : PayloadConfig) (now exp built : DateTime) (uuid : Uuid)
    (hroles : ReadsTexts X.toStoreExterns claims.roles)
    (hperms : ReadsTexts X.toStoreExterns claims.perms)
    (hcustom : ∀ key ∈ knownKeys, claims.custom.get? key = none) :
    let json := Json.object (builtClaims X
      (generatePayload X.toStoreExterns config claims now exp uuid) built).entries
    (json.get "sub").asStr = some claims.sub ∧ (json.get "exp").asStr = some (X.toRfc3339 exp) ∧
      (json.get "email").asStr = claims.email ∧ (json.get "username").asStr = claims.username ∧
      parseStringOrArray X.toStoreExterns (json.get "roles") = claims.roles ∧
      parseStringOrArray X.toStoreExterns (json.get "perms") = claims.perms := by
  intro json
  -- a claim is looked up in what the builder has made of the payload
  have hget : ∀ key, json.get key = ((builtClaims X (generatePayload X.toStoreExterns config
      claims now exp uuid) built).get? key).getD .null := fun key => rfl
  -- a text that is there is read as it is, and `null` as none
  have htext : ∀ text : Option String, (((text.map Json.string).map
      (writtenCustom X.numberText)).getD .null).asStr = text := by
    intro text
    cases text <;> rfl
  -- a list is a claim of its JSON text, which is read back as the list; an empty one is left
  -- out
  have htexts : ∀ texts : List String, ReadsTexts X.toStoreExterns texts →
      parseStringOrArray X.toStoreExterns (((if texts = [] then none else
        some (Json.array (texts.map .string))).map (writtenCustom X.numberText)).getD .null)
        = texts := by
    intro texts hreads
    by_cases h : texts = []
    · simp [h, parseStringOrArray]
    · have hread := stringsFromStr_jsonText hreads
      simp [h, writtenCustom, Json.isString, parseStringOrArray, hread]
  obtain ⟨hsub, hexp, hemail, husername, hrole, hperm⟩ :=
    get?_standardClaims X.toStoreExterns config claims now exp uuid
  refine ⟨?_, ?_, ?_, ?_, ?_, ?_⟩
  · rw [hget, get?_builtClaims_standard (by decide) (by decide) (by decide)
      (hcustom _ (by decide)) hsub]
    rfl
  · rw [hget, get?_builtClaims_standard (by decide) (by decide) (by decide)
      (hcustom _ (by decide)) hexp]
    rfl
  · rw [hget, get?_builtClaims_known (by decide) (hcustom _ (by decide)), hemail]
    exact htext claims.email
  · rw [hget, get?_builtClaims_known (by decide) (hcustom _ (by decide)), husername]
    exact htext claims.username
  · rw [hget, get?_builtClaims_known (by decide) (hcustom _ (by decide)), hrole]
    exact htexts claims.roles hroles
  · rw [hget, get?_builtClaims_known (by decide) (hcustom _ (by decide)), hperm]
    exact htexts claims.perms hperms

/-- **The custom claims that are read**: those that were written, as texts, none with a standard
name, and the time the builder sets. -/
theorem get?_customClaims_builtClaims (key : String) :
    (customClaims X.toStoreExterns (.object (builtClaims X
        (generatePayload X.toStoreExterns config claims now exp uuid) built).entries)).get? key
      = if key ∈ knownKeys then none
        else ((claims.custom.get? key).map fun v =>
          parseCustom X.toStoreExterns (writtenCustom X.numberText v)).or
            (if key = "nbf" then
              some (parseCustom X.toStoreExterns (.string (X.builderTime built))) else none) := by
  rw [get?_customClaims]
  by_cases h : key ∈ knownKeys
  · rw [if_pos h, if_pos h]
  · have hkey : key ∉ pasetoStandardKeys := fun hmem => h (List.mem_append_left
      ["email", "username", "roles", "perms"] hmem)
    have hiss : key ≠ "iss" := (ne_of_mem_of_not_mem (by decide) hkey).symm
    have haud : key ≠ "aud" := (ne_of_mem_of_not_mem (by decide) hkey).symm
    have hexp : key ≠ "exp" := (ne_of_mem_of_not_mem (by decide) hkey).symm
    have hiat : key ≠ "iat" := (ne_of_mem_of_not_mem (by decide) hkey).symm
    rw [if_neg h, if_neg h, get?_builtClaims_of_notMem hkey, get?_generatePayload hiss haud,
      get?_standardClaims_of_notMem h, Option.or_none, builderDefaults]
    simp only [OrderedMap.get?_insert, OrderedMap.get?_empty, if_neg hexp, if_neg hiat]
    cases claims.custom.get? key with
    | some v => rfl
    | none => by_cases hnbf : key = "nbf" <;> simp [hnbf]

/-- No custom claim of a payload that a token can be built of has a reserved name. -/
theorem Buildable.customClaim_ok
    (h : Buildable X (generatePayload X.toStoreExterns config claims now exp uuid))
    {claim : String × Json} (hclaim : claim ∈ claims.custom.entries)
    (hkey : claim.1 ∉ pasetoStandardKeys) : X.customClaim claim.1 = .ok () := by
  refine h.custom claim (OrderedMap.get?_eq_some_iff.mp ?_) hkey
  rw [get?_generatePayload (ne_of_mem_of_not_mem (by decide) hkey).symm
    (ne_of_mem_of_not_mem (by decide) hkey).symm, OrderedMap.get?_eq_some_iff.mpr hclaim,
    Option.some_or]

/-- A custom claim named `nbf` would be refused by the builder, so that there is none. -/
theorem Buildable.ne_nbf (hreserved : X.customClaim "nbf" ≠ .ok ())
    (h : Buildable X (generatePayload X.toStoreExterns config claims now exp uuid)) :
    ∀ claim ∈ claims.custom.entries, claim.1 ≠ "nbf" := by
  intro claim hclaim heq
  have hok := h.customClaim_ok hclaim (by rw [heq]; decide)
  rw [heq] at hok
  exact hreserved hok

theorem notMem_standard_of_notMem_known {key : String} (h : key ∉ knownKeys) :
    key ∉ pasetoStandardKeys :=
  fun hmem => h (List.mem_append_left ["email", "username", "roles", "perms"] hmem)

theorem get?_custom_eq_none (h : ∀ claim ∈ claims.custom.entries, claim.1 ∉ knownKeys) :
    ∀ key ∈ knownKeys, claims.custom.get? key = none := by
  intro key hkey
  refine Option.eq_none_iff_forall_ne_some.mpr fun v hv => ?_
  exact h (key, v) (OrderedMap.get?_eq_some_iff.mp hv) hkey

/-- If no custom claim has a standard name, a token can be built exactly if the times of expiry and
of issue can be written and no custom claim has a reserved name. -/
theorem buildable_iff
    (hknown : ∀ key ∈ ["email", "username", "roles", "perms"], X.customClaim key = .ok ())
    (hcustom : ∀ claim ∈ claims.custom.entries, claim.1 ∉ knownKeys) :
    Buildable X (generatePayload X.toStoreExterns config claims now exp uuid)
      ↔ (∃ t, X.claimTime (X.toRfc3339 exp) = .ok t) ∧
        (∃ t, X.claimTime (X.toRfc3339 now) = .ok t) ∧
        ∀ claim ∈ claims.custom.entries, X.customClaim claim.1 = .ok () := by
  obtain ⟨-, hexp, hiat⟩ := textAt_generatePayload X config claims now exp uuid
  have htext : ∀ key written, key ∈ knownKeys → claims.standardText key written = some written := by
    intro key written hkey
    rw [Claims.standardText, get?_custom_eq_none hcustom key hkey]
  rw [htext _ _ (by decide)] at hexp hiat
  constructor
  · intro h
    refine ⟨h.exp _ hexp, h.iat _ hiat, fun claim hclaim => ?_⟩
    exact h.customClaim_ok hclaim (notMem_standard_of_notMem_known (hcustom claim hclaim))
  · rintro ⟨hexpiry, hissued, hclaims⟩
    refine ⟨?_, ?_, customClaim_generatePayload (fun claim hclaim _ => hclaims claim hclaim) hknown⟩
    · rw [hexp]
      rintro _ ⟨⟩
      exact hexpiry
    · rw [hiat]
      rintro _ ⟨⟩
      exact hissued

theorem tokenContent_eq_ok_iff {gen : PasetoGenerator} {expiresInSecs : UInt64}
    {input : GenerateInput} {content : Payload} :
    tokenContent X gen claims expiresInSecs input = .ok content
      ↔ ∃ exp, expiresAt input.now expiresInSecs = .ok exp ∧
        Buildable X (generatePayload X.toStoreExterns gen.config claims input.now exp input.uuid) ∧
        content = builtClaims X (generatePayload X.toStoreExterns gen.config claims input.now exp
          input.uuid) input.built := by
  rw [tokenContent]
  cases hexp : expiresAt input.now expiresInSecs with
  | error e => simp [bind, Except.bind]
  | ok exp => simp [bind, Except.bind, tokenClaims_eq_ok_iff]

/-- The middleware returns the time that the builder sets as a custom claim. -/
theorem not_sameIdentity_builtClaims (hreserved : X.customClaim "nbf" ≠ .ok ())
    (h : Buildable X (generatePayload X.toStoreExterns config claims now exp uuid))
    {claims' : Claims} (hread : jsonToClaims X.toStoreExterns (.object (builtClaims X
      (generatePayload X.toStoreExterns config claims now exp uuid) built).entries)
      = .ok claims') : ¬ SameIdentity claims claims' := by
  intro hsame
  obtain ⟨sub, exp', -, -, rfl⟩ := jsonToClaims_eq_ok_iff.mp hread
  have hnone : claims.custom.get? "nbf" = none := by
    refine Option.eq_none_iff_forall_ne_some.mpr fun v hv => ?_
    exact h.ne_nbf hreserved ("nbf", v) (OrderedMap.get?_eq_some_iff.mp hv) rfl
  have hnbf := hsame.custom "nbf"
  rw [claimsOf, get?_customClaims_builtClaims, if_neg (by decide), hnone, if_pos rfl] at hnbf
  contradiction

/-- Custom claims come back, all but one, exactly if none has a standard name and every value
survives. -/
theorem custom_builtClaims_iff (h : ∀ claim ∈ claims.custom.entries, claim.1 ≠ "nbf") :
    (∀ key, key ≠ "nbf" → (customClaims X.toStoreExterns (.object (builtClaims X
        (generatePayload X.toStoreExterns config claims now exp uuid) built).entries)).get? key
          = claims.custom.get? key)
      ↔ ∀ claim ∈ claims.custom.entries,
        claim.1 ∉ knownKeys ∧ Survives X.toStoreExterns claim.2 := by
  simp only [get?_customClaims_builtClaims]
  constructor
  · intro hsame claim hclaim
    have heq := hsame claim.1 (h claim hclaim)
    rw [OrderedMap.get?_eq_some_iff.mpr hclaim] at heq
    by_cases hknown : claim.1 ∈ knownKeys
    · simp [hknown] at heq
    · rw [if_neg hknown, Option.map_some, Option.some_or, Option.some.injEq] at heq
      exact ⟨hknown, (parseCustom_writtenCustom_iff claim.2).mp heq⟩
  · intro hclaims key hkey
    cases hget : claims.custom.get? key with
    | none => simp [hkey]
    | some v =>
      obtain ⟨hknown, hsurvives⟩ := hclaims (key, v) (OrderedMap.get?_eq_some_iff.mp hget)
      rw [if_neg hknown, Option.map_some, (parseCustom_writtenCustom_iff v).mpr hsurvives,
        Option.some_or]

/-- A token that was issued is read as the same identity but for `nbf` only if the claims are such
that they come back. -/
theorem comesBack_of_sameIdentityBut {gen : PasetoGenerator} {expiresInSecs : UInt64}
    {input : GenerateInput} (hreserved : X.customClaim "nbf" ≠ .ok ())
    (hknown : ∀ key ∈ ["email", "username", "roles", "perms"], X.customClaim key = .ok ())
    (hroles : ReadsTexts X.toStoreExterns claims.roles)
    (hperms : ReadsTexts X.toStoreExterns claims.perms) {content : Payload} {claims' : Claims}
    (hcontent : tokenContent X gen claims expiresInSecs input = .ok content)
    (hread : jsonToClaims X.toStoreExterns (.object content.entries) = .ok claims')
    (hsame : SameIdentityBut "nbf" claims claims') :
    ComesBack X claims expiresInSecs input.now := by
  obtain ⟨exp, hexp, hbuildable, rfl⟩ := tokenContent_eq_ok_iff.mp hcontent
  obtain ⟨sub, exp', -, hexpiry, rfl⟩ := jsonToClaims_eq_ok_iff.mp hread
  have hclaims := (custom_builtClaims_iff (hbuildable.ne_nbf hreserved)).mp hsame.custom
  have hnotKnown := fun claim hclaim => (hclaims claim hclaim).1
  obtain ⟨hexpTime, hissued, hcustom⟩ := (buildable_iff hknown hnotKnown).mp hbuildable
  -- the time of expiry is read as it was written
  have hstandard := get_builtClaims gen.config input.now exp input.built input.uuid hroles hperms
    (get?_custom_eq_none hnotKnown)
  rw [parseExp, hstandard.2.1] at hexpiry
  refine ⟨⟨exp, hexp, hexpTime, ?_⟩, hissued, fun claim hclaim => ?_⟩
  · cases hparse : X.parseFromRfc3339 (X.toRfc3339 exp) with
    | error e => simp [hparse] at hexpiry
    | ok t => exact ⟨t, rfl⟩
  · exact ⟨hnotKnown claim hclaim, hcustom claim hclaim, (hclaims claim hclaim).2⟩

/-- Such claims are issued, and read as the same identity but for `nbf`. -/
theorem ComesBack.exists_content {gen : PasetoGenerator} {expiresInSecs : UInt64}
    {input : GenerateInput} (hreserved : X.customClaim "nbf" ≠ .ok ())
    (hknown : ∀ key ∈ ["email", "username", "roles", "perms"], X.customClaim key = .ok ())
    (hroles : ReadsTexts X.toStoreExterns claims.roles)
    (hperms : ReadsTexts X.toStoreExterns claims.perms)
    (h : ComesBack X claims expiresInSecs input.now) :
    ∃ content claims', tokenContent X gen claims expiresInSecs input = .ok content ∧
      jsonToClaims X.toStoreExterns (.object content.entries) = .ok claims' ∧
        SameIdentityBut "nbf" claims claims' := by
  obtain ⟨exp, hexp, hexpTime, t, ht⟩ := h.expiry
  have hnotKnown := fun claim hclaim => (h.custom claim hclaim).1
  -- the builder takes every claim, and each of them is read back by its own name
  have hbuildable : Buildable X
      (generatePayload X.toStoreExterns gen.config claims input.now exp input.uuid) :=
    (buildable_iff hknown hnotKnown).mpr
      ⟨hexpTime, h.issued, fun claim hclaim => (h.custom claim hclaim).2.1⟩
  obtain ⟨hsub, hexpText, hemail, husername, hroles', hperms'⟩ :=
    get_builtClaims gen.config input.now exp input.built input.uuid hroles hperms
      (get?_custom_eq_none hnotKnown)
  have hcustom := fun claim hclaim =>
    And.intro (hnotKnown claim hclaim) (h.custom claim hclaim).2.2
  refine ⟨_, claimsOf X.toStoreExterns _ claims.sub t.timestamp,
    tokenContent_eq_ok_iff.mpr ⟨exp, hexp, hbuildable, rfl⟩,
    jsonToClaims_eq_ok_iff.mpr ⟨claims.sub, t.timestamp, hsub, ?_, rfl⟩,
    rfl, hemail, husername, hroles', hperms',
    (custom_builtClaims_iff (hbuildable.ne_nbf hreserved)).mpr hcustom⟩
  rw [parseExp, hexpText]
  simp [ht]

end RoundTrip

/-- **No claims come back as they were, and which come back but for the time the builder sets.**
For all claims, every generator and every time: what the middleware rebuilds from what a token
says has a custom claim `nbf` that the claims cannot have had.  Everything else is the same
exactly if no custom claim has the name of a standard one or a reserved one, every custom value
survives, and the times of issue and of expiry have texts that can be written and read.  It is
assumed that `nbf` is reserved and the names the generator knows are not, and that `serde_json`
reads the texts of the roles and of the permissions back. -/
theorem sameIdentity_tokenContent (X : PasetoExterns) (hreserved : X.customClaim "nbf" ≠ .ok ())
    (hknown : ∀ key ∈ ["email", "username", "roles", "perms"], X.customClaim key = .ok ())
    (gen : PasetoGenerator) (claims : Claims) (expiresInSecs : UInt64) (input : GenerateInput)
    (hroles : ReadsTexts X.toStoreExterns claims.roles)
    (hperms : ReadsTexts X.toStoreExterns claims.perms) :
    (∀ content claims', tokenContent X gen claims expiresInSecs input = .ok content →
      jsonToClaims X.toStoreExterns (.object content.entries) = .ok claims' →
        ¬ SameIdentity claims claims') ∧
    ((∃ content claims', tokenContent X gen claims expiresInSecs input = .ok content ∧
        jsonToClaims X.toStoreExterns (.object content.entries) = .ok claims' ∧
          SameIdentityBut "nbf" claims claims')
      ↔ ComesBack X claims expiresInSecs input.now) := by
  refine ⟨fun content claims' hcontent hread => ?_, ?_, ?_⟩
  · -- `nbf` comes back as a custom claim, which no token can be issued with
    obtain ⟨exp, -, hbuildable, rfl⟩ := tokenContent_eq_ok_iff.mp hcontent
    exact not_sameIdentity_builtClaims hreserved hbuildable hread
  · rintro ⟨content, claims', hcontent, hread, hsame⟩
    exact comesBack_of_sameIdentityBut hreserved hknown hroles hperms hcontent hread hsame
  · exact ComesBack.exists_content hreserved hknown hroles hperms

/-! ### Samples -/

/-- A generator of symmetric tokens, at the sample configuration. -/
def sampleGenerator : PasetoGenerator := ⟨sampleLocalKey, samplePayloadConfig⟩

/-- The token of some claims is read as the claims they are compared with. -/
def SampleComesBack (same : Claims → Claims → Prop) (claims : Claims) : Prop :=
  ∃ content claims',
    tokenContent (samplePasetoExterns .empty) sampleGenerator claims 900
      ⟨sampleTime 0, sampleUuid, sampleTime 0, List.replicate 32 9⟩ = .ok content ∧
    jsonToClaims samplePaseto (.object content.entries) = .ok claims' ∧ same claims claims'

theorem sameIdentity_tokenContent_sample :
    SampleComesBack (SameIdentityBut "nbf") (sampleClaims ["admin"] sampleCustom) := by
  refine (sameIdentity_tokenContent (samplePasetoExterns .empty) (by decide) (by decide)
    sampleGenerator (sampleClaims ["admin"] sampleCustom) 900
    ⟨sampleTime 0, sampleUuid, sampleTime 0, List.replicate 32 9⟩ rfl rfl).2.mpr
    ⟨⟨sampleExpiry, rfl, ⟨sampleExpiry, by decide⟩, sampleExpiry, by decide⟩,
      ⟨sampleTime 0, by decide⟩, ?_⟩
  intro claim hclaim
  rcases List.mem_cons.mp hclaim with rfl | hclaim
  · exact ⟨by decide, by decide, nofun⟩
  · rw [List.mem_singleton.mp hclaim]
    exact ⟨by decide, by decide, rfl⟩

/-- A custom claim that takes the name of a standard one. -/
def sampleRolesClaim : OrderedMap String Json :=
  OrderedMap.empty.insert "roles" (.array [.string "admin"])

/-- A custom claim whose text is a number. -/
def sampleNumberClaim : OrderedMap String Json :=
  OrderedMap.empty.insert "account" (.string "42")

/-- Claims do not come back: those without a custom claim have one, `nbf`, a custom claim named
`roles` gives the bearer roles, and a custom text that is a number becomes one. -/
theorem not_forall_sameIdentity :
    ¬ SampleComesBack SameIdentity (sampleClaims ["admin"] .empty) ∧
      ¬ SampleComesBack (SameIdentityBut "nbf") (sampleClaims [] sampleRolesClaim) ∧
      ¬ SampleComesBack (SameIdentityBut "nbf") (sampleClaims [] sampleNumberClaim) := by
  refine ⟨?_, ?_, ?_⟩
  · rintro ⟨content, claims', hcontent, hread, hsame⟩
    obtain rfl := Except.ok.inj hcontent
    obtain ⟨sub, exp, -, -, rfl⟩ := jsonToClaims_eq_ok_iff.mp hread
    cases hsame.custom "nbf"
  · rintro ⟨content, claims', hcontent, hread, hsame⟩
    obtain rfl := Except.ok.inj hcontent
    obtain ⟨sub, exp, -, -, rfl⟩ := jsonToClaims_eq_ok_iff.mp hread
    cases hsame.roles
  · rintro ⟨content, claims', hcontent, hread, hsame⟩
    obtain rfl := Except.ok.inj hcontent
    obtain ⟨sub, exp, -, -, rfl⟩ := jsonToClaims_eq_ok_iff.mp hread
    cases hsame.custom "account" (by decide)

end ActonService
