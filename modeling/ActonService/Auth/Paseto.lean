import ActonService.Auth.KeyStore
import ActonService.Lib.OrderedMap

/-!
# The claims of PASETO tokens

How the generator of `auth/tokens/paseto_generator.rs` writes claims into the payload of a
token, and how the middleware of `middleware/paseto.rs` reads them.  Standard and custom claims
share the keys of one object.  The custom ones are written as texts, and on reading every text
that is JSON is taken for the value it writes.

## Main definitions

* `Claims` — the claims of a token.
* `generatePayload`, `normalizeCustomClaims` — what is written.
* `jsonToClaims` — what is read.
* `Survives` — custom values that are read as they were written.

## Main results

* `parseCustom_writtenCustom_iff` — the custom values that are read as they were written.
* `get?_customClaims` — the custom claims that are read of an object.
-/

namespace ActonService

/-! ### Claims -/

/-- `Claims`.  The custom claims are a `HashMap`, in the order of a traversal. -/
structure Claims where
  sub : String
  email : Option String
  username : Option String
  roles : List String
  perms : List String
  exp : Int64
  iat : Option Int64
  jti : Option String
  iss : Option String
  aud : Option String
  custom : OrderedMap String Json

/-- `Error`, as far as tokens return it. -/
inductive PasetoError
  | paseto (message : String)
  | internal (message : String)
  /-- an error of the key store -/
  | key (e : KeyError)
  deriving DecidableEq, Repr

/-- A JSON object under construction, with the names in the order in which they are put in. -/
abbrev Payload := OrderedMap String Json

/-- `payload[key] = json!(text)`, if there is a text. -/
def setText (payload : Payload) (key : String) : Option String → Payload
  | some text => payload.insert key (.string text)
  | none => payload

/-- `payload[key] = json!(texts)`, if there are texts. -/
def setTexts (payload : Payload) (key : String) (texts : List String) : Payload :=
  if texts = [] then payload else payload.insert key (.array (texts.map .string))

/-! ### Writing -/

/-- What the payload takes from a `PasetoGenerator`. -/
structure PayloadConfig where
  includeJti : Bool
  issuer : Option String
  audience : Option String

/-- The standard claims, as `generate_internal` sets them first. -/
def standardClaims (S : StoreExterns) (config : PayloadConfig) (claims : Claims)
    (now exp : DateTime) (uuid : Uuid) : Payload :=
  let jti := if config.includeJti then some (S.uuidToString uuid) else claims.jti
  let payload := ((OrderedMap.empty.insert "sub" (.string claims.sub)).insert "exp"
    (.string (S.toRfc3339 exp))).insert "iat" (.string (S.toRfc3339 now))
  let payload := setText payload "jti" jti
  let payload := setText payload "email" claims.email
  let payload := setText payload "username" claims.username
  let payload := setTexts payload "roles" claims.roles
  setTexts payload "perms" claims.perms

/-- The payload of `generate_internal`, before the key is chosen. -/
def generatePayload (S : StoreExterns) (config : PayloadConfig) (claims : Claims)
    (now exp : DateTime) (uuid : Uuid) : Payload :=
  let payload := (standardClaims S config claims now exp uuid).insertAll claims.custom.entries
  let payload := setText payload "iss" (config.issuer.or claims.iss)
  setText payload "aud" (config.audience.or claims.aud)

/-- The claims PASETO itself knows, `paseto_standard_keys`. -/
def pasetoStandardKeys : List String := ["sub", "exp", "iat", "jti", "iss", "aud"]

/-- `is_string` -/
def Json.isString : Json → Bool
  | .string _ => true
  | _ => false

/-- `normalize_custom_claims` -/
def normalizeCustomClaims (num : Number → List Char) (payload : Payload) : Payload :=
  payload.map fun key value =>
    if key ∈ pasetoStandardKeys ∨ value.isString = true then value
    else .string (jsonText num value)

/-! ### Reading -/

/-- `value[key]` -/
def Json.get : Json → String → Json
  | .object entries, key => (entries.lookup key).getD .null
  | _, _ => .null

/-- `as_str` -/
def Json.asStr : Json → Option String
  | .string s => some s
  | _ => none

/-- `as_i64` -/
def Json.asI64 : Json → Option Int64
  | .number (.posInt n) => if n.toNat < 9223372036854775808 then some n.toInt64 else none
  | .number (.negInt i _) => some i
  | _ => none

/-- `serde_json::from_str::<Vec<String>>`, where it succeeds. -/
def stringsFromStr (S : StoreExterns) (s : String) : Option (List String) :=
  match S.jsonFromStr s with
  | some (.array items) => items.mapM Json.asStr
  | _ => none

/-- `parse_string_or_array` -/
def parseStringOrArray (S : StoreExterns) : Json → List String
  | .array items => items.filterMap Json.asStr
  | .string s => (stringsFromStr S s).getD []
  | _ => []

/-- The claims the middleware knows, `known_keys`. -/
def knownKeys : List String :=
  ["sub", "exp", "iat", "jti", "iss", "aud", "email", "username", "roles", "perms"]

/-- A custom claim as it is read: a text that is JSON is the value it writes. -/
def parseCustom (S : StoreExterns) : Json → Json
  | .string s => (S.jsonFromStr s).getD (.string s)
  | v => v

/-- `DateTime::timestamp` -/
def DateTime.timestamp (t : DateTime) : Int64 := Int64.ofInt t.secs

/-- The time of expiry, as `json_to_claims` reads it. -/
def parseExp (S : StoreExterns) (exp : Json) : Except PasetoError Int64 :=
  match exp.asStr with
  | some text =>
    match S.parseFromRfc3339 text with
    | .ok t => .ok t.timestamp
    | .error _ => .error (.paseto "Invalid 'exp' claim format")
  | none =>
    match exp.asI64 with
    | some n => .ok n
    | none => .error (.paseto "Missing or invalid 'exp' claim")

/-- The time of issue, as `json_to_claims` reads it. -/
def parseIat (S : StoreExterns) (iat : Json) : Option Int64 :=
  match iat.asStr with
  | some text => ((S.parseFromRfc3339 text).toOption).map DateTime.timestamp
  | none => iat.asI64

/-- The custom claims of an object. -/
def customClaims (S : StoreExterns) : Json → OrderedMap String Json
  | .object entries => OrderedMap.empty.insertAll
      ((entries.filter fun e => decide (e.1 ∉ knownKeys)).map fun e => (e.1, parseCustom S e.2))
  | _ => OrderedMap.empty

/-- The claims of an object, with the two that have to be there. -/
def claimsOf (S : StoreExterns) (json : Json) (sub : String) (exp : Int64) : Claims where
  sub := sub
  email := (json.get "email").asStr
  username := (json.get "username").asStr
  roles := parseStringOrArray S (json.get "roles")
  perms := parseStringOrArray S (json.get "perms")
  exp := exp
  iat := parseIat S (json.get "iat")
  jti := (json.get "jti").asStr
  iss := (json.get "iss").asStr
  aud := (json.get "aud").asStr
  custom := customClaims S json

/-- `json_to_claims` -/
def jsonToClaims (S : StoreExterns) (json : Json) : Except PasetoError Claims :=
  match (json.get "sub").asStr with
  | none => .error (.paseto "Missing 'sub' claim")
  | some sub =>
    match parseExp S (json.get "exp") with
    | .error e => .error e
    | .ok exp => .ok (claimsOf S json sub exp)

theorem jsonToClaims_eq_ok_iff {S : StoreExterns} {json : Json} {claims : Claims} :
    jsonToClaims S json = .ok claims ↔ ∃ sub exp, (json.get "sub").asStr = some sub ∧
      parseExp S (json.get "exp") = .ok exp ∧ claims = claimsOf S json sub exp := by
  rw [jsonToClaims]
  cases (json.get "sub").asStr with
  | none => simp
  | some sub =>
    cases parseExp S (json.get "exp") with
    | error e => simp
    | ok exp => simp [eq_comm]

/-! ### The round trip -/

/-- The claims that say who the bearer is are the same. -/
structure SameIdentity (claims claims' : Claims) : Prop where
  sub : claims'.sub = claims.sub
  email : claims'.email = claims.email
  username : claims'.username = claims.username
  roles : claims'.roles = claims.roles
  perms : claims'.perms = claims.perms
  custom : ∀ key, claims'.custom.get? key = claims.custom.get? key

/-- The custom value is read as it was written: a text is not JSON of anything else, and any
other value is what its text is read as. -/
def Survives (S : StoreExterns) : Json → Prop
  | .string s => ∀ v, S.jsonFromStr s = some v → v = .string s
  | v => S.jsonFromStr (jsonText S.numberText v) = some v

/-- `serde_json` reads the text of a list of strings back as that list. -/
def ReadsTexts (S : StoreExterns) (texts : List String) : Prop :=
  S.jsonFromStr (jsonText S.numberText (.array (texts.map .string)))
    = some (.array (texts.map .string))

section RoundTrip

variable {S : StoreExterns} {config : PayloadConfig} {claims : Claims} {now exp : DateTime}
  {uuid : Uuid}

theorem get?_setText (payload : Payload) (key k : String) (text : Option String) :
    (setText payload key text).get? k
      = if k = key then (text.map Json.string).or (payload.get? k) else payload.get? k := by
  cases text with
  | none => simp [setText]
  | some text =>
    rw [setText, OrderedMap.get?_insert]
    split <;> rfl

theorem get?_setTexts (payload : Payload) (key k : String) (texts : List String) :
    (setTexts payload key texts).get? k
      = if k = key ∧ texts ≠ [] then some (.array (texts.map .string)) else payload.get? k := by
  rw [setTexts]
  by_cases h : texts = []
  · simp [h]
  · simp only [if_neg h, OrderedMap.get?_insert]
    by_cases hk : k = key <;> simp [hk, h]

/-- What is found in the payload, but for issuer and audience: a custom claim, or else a
standard one. -/
theorem get?_generatePayload {key : String} (hiss : key ≠ "iss") (haud : key ≠ "aud") :
    (generatePayload S config claims now exp uuid).get? key
      = (claims.custom.get? key).or ((standardClaims S config claims now exp uuid).get? key) := by
  simp only [generatePayload, get?_setText, if_neg hiss, if_neg haud]
  exact OrderedMap.get?_insertAll claims.custom.nodup _ key

theorem get?_standardClaims_of_notMem {key : String} (h : key ∉ knownKeys) :
    (standardClaims S config claims now exp uuid).get? key = none := by
  simp only [knownKeys, List.mem_cons, List.not_mem_nil, or_false, not_or] at h
  simp [standardClaims, get?_setTexts, get?_setText, OrderedMap.get?_insert, h]

/-- What the generator makes of a custom value. -/
def writtenCustom (num : Number → List Char) (value : Json) : Json :=
  if value.isString = true then value else .string (jsonText num value)

/-- The middleware reads back exactly those custom claims that survive. -/
theorem parseCustom_writtenCustom_iff (v : Json) :
    parseCustom S (writtenCustom S.numberText v) = v ↔ Survives S v := by
  have hother : ∀ v : Json, v.isString = false →
      (parseCustom S (writtenCustom S.numberText v) = v ↔
        S.jsonFromStr (jsonText S.numberText v) = some v) := by
    intro v hv
    simp only [writtenCustom, hv, Bool.false_eq_true, if_false, parseCustom]
    cases S.jsonFromStr (jsonText S.numberText v) with
    | none =>
      refine iff_of_false ?_ nofun
      rintro heq
      rw [← heq] at hv
      contradiction
    | some w => simp
  cases v with
  | string s =>
    have hwritten : writtenCustom S.numberText (.string s) = .string s := rfl
    rw [hwritten, parseCustom, Survives]
    cases S.jsonFromStr s with
    | none => exact iff_of_true rfl nofun
    | some w => simp
  | null => exact hother _ rfl
  | bool b => exact hother _ rfl
  | number n => exact hother _ rfl
  | array items => exact hother _ rfl
  | object entries => exact hother _ rfl

theorem get?_customClaims (payload : Payload) (key : String) :
    (customClaims S (.object payload.entries)).get? key
      = if key ∈ knownKeys then none else (payload.get? key).map (parseCustom S) := by
  have hnodup : (((payload.entries.filter fun e => decide (e.1 ∉ knownKeys)).map
      fun e => (e.1, parseCustom S e.2)).map Prod.fst).Nodup := by
    rw [OrderedMap.keys_map_snd fun _ => parseCustom S]
    exact payload.nodup.sublist (List.filter_sublist.map _)
  rw [customClaims, OrderedMap.get?_insertAll hnodup, OrderedMap.get?_empty, Option.or_none,
    OrderedMap.lookup_map_snd fun _ => parseCustom S,
    OrderedMap.lookup_filter_fst fun key => decide (key ∉ knownKeys)]
  by_cases h : key ∈ knownKeys <;> simp [h, OrderedMap.get?]

/-- A list of texts is read back from its JSON. -/
theorem stringsFromStr_jsonText {texts : List String} (h : ReadsTexts S texts) :
    stringsFromStr S (jsonText S.numberText (.array (texts.map .string))) = some texts := by
  rw [stringsFromStr, h]
  clear h
  induction texts with
  | nil => rfl
  | cons text texts ih =>
    simp only [List.map_cons, List.mapM_cons, Json.asStr]
    simp only at ih
    simp [ih]

/-- The standard claims that say who the bearer is, and the time of expiry. -/
theorem get?_standardClaims (S : StoreExterns) (config : PayloadConfig) (claims : Claims)
    (now exp : DateTime) (uuid : Uuid) :
    let standard := standardClaims S config claims now exp uuid
    standard.get? "sub" = some (.string claims.sub) ∧
      standard.get? "exp" = some (.string (S.toRfc3339 exp)) ∧
      standard.get? "email" = claims.email.map .string ∧
      standard.get? "username" = claims.username.map .string ∧
      (standard.get? "roles" = if claims.roles = [] then none
        else some (.array (claims.roles.map .string))) ∧
      standard.get? "perms" = if claims.perms = [] then none
        else some (.array (claims.perms.map .string)) := by
  simp [standardClaims, get?_setTexts, get?_setText, OrderedMap.get?_insert]

end RoundTrip

/-- A quarter of an hour after the sample time. -/
def sampleExpiry : DateTime := ((sampleTime 0).addSecs 900).getD (sampleTime 0)

/-- The texts of the times the sample tokens use. -/
def samplePasetoMoments : List (DateTime × String) :=
  [(sampleTime 0, "2025-06-15T10:30:00+00:00"), (sampleExpiry, "2025-06-15T10:45:00+00:00")]

/-- What `serde_json` makes of the texts of the samples. -/
def sampleJsonTexts : List (String × Json) :=
  [("[]", .array []), ("[\"admin\"]", .array [.string "admin"]), ("42", .number (.posInt 42)),
   ("[\"beta\",\"dark_mode\"]", .array [.string "beta", .string "dark_mode"])]

/-- The third-party functions at the sample tokens. -/
def samplePaseto : StoreExterns :=
  { sampleStore with
    toRfc3339 := fun t => (samplePasetoMoments.lookup t).getD ""
    numberText := fun n =>
      match n with
      | .posInt n => (Nat.repr n.toNat).toList
      | .negInt i _ => '-' :: (Nat.repr i.toInt.natAbs).toList
      | .float _ _ => []
    parseFromRfc3339 := fun text =>
      match samplePasetoMoments.find? (·.2 = text) with
      | some moment => .ok moment.1
      | none => .error "input contains invalid characters"
    jsonFromStr := fun text => sampleJsonTexts.lookup text }

/-- The default configuration of a generator. -/
def samplePayloadConfig : PayloadConfig := ⟨true, none, none⟩

/-- The claims of a user with the roles and custom claims given. -/
def sampleClaims (roles : List String) (custom : OrderedMap String Json) : Claims where
  sub := "user:123"
  email := some "user@example.com"
  username := none
  roles := roles
  perms := []
  exp := 0
  iat := none
  jti := none
  iss := none
  aud := none
  custom := custom

/-- Custom claims of a user, one a text and one a list. -/
def sampleCustom : OrderedMap String Json :=
  (OrderedMap.empty.insert "tenant_id" (.string "org-42")).insert "features"
    (.array [.string "beta", .string "dark_mode"])

end ActonService
