import ActonService.Auth.JwtTokens
import ActonService.Lib.OrderedMap
import ActonService.Session.Store

/-!
# Typed session data

`session/extractors.rs`: a value of a type of the service is kept in the session, an extractor has a
copy of it, and what is changed in the copy is kept once it is saved.  `AuthSession` is the type for
a user who logs in.

## Main definitions

* `TypedSession.load`, `TypedSession.save`, `TypedSession.clear`, … — the extractor and its
  functions.
* `AuthSession`, `AuthSession.login`, `AuthSession.logout` — a user.
* `TypedSession.logout` — logging out with an audit event.
* `SessionData.getValue`, … — values under names of the service's own.

## Main results

* `AuthSession.ofJson_json` — a user is read back.
* `ensures_load`, `ensures_save`, `ensures_clearData`, `ensures_logout` — what the functions do with
  the data of a session.
-/

namespace ActonService

open Effect

/-! ### Typed data -/

/-- `DATA_KEY`, which is the same for every type. -/
def typedDataKey : String := "_typed_session_data"

namespace TypedSession

variable {T : Type} (codec : Codec T) (fallback : T)

/-- The data the extractor has, on a request with or without a session. -/
def load (hasSession : Bool) : SessionProg T :=
  if hasSession then do
    let found ← Session.get codec "Failed to read session data" typedDataKey
    pure (found.getD fallback)
  else
    .fail ⟨"Session not found in request extensions. Is SessionManagerLayer configured?"⟩

/-- `TypedSession::save` -/
def save (data : T) : SessionProg Unit :=
  Session.insert codec "Failed to save session data" typedDataKey data

/-- `TypedSession::update`, with the data it leaves in the extractor. -/
def update (data : T) (f : T → T) : T × SessionProg Unit := (f data, save codec (f data))

/-- `TypedSession::clear`.  The extractor is left with the default. -/
def clear : T × SessionProg Unit :=
  (fallback, (Session.remove codec "Failed to clear session data" typedDataKey).bind fun _ =>
    .ret ())

/-- `TypedSession::destroy` -/
def destroy : SessionProg Unit := Session.flush "Failed to destroy session"

/-- `TypedSession::regenerate` -/
def regenerate : SessionProg Unit := Session.cycleId "Failed to regenerate session ID"

end TypedSession

/-! ### Users -/

/-- `AuthSession` -/
structure AuthSession where
  userId : Option String
  roles : List String
  authenticatedAt : Option Int64
  extra : OrderedMap String String

namespace AuthSession

/-- `AuthSession::default` -/
def standard : AuthSession := ⟨none, [], none, .empty⟩

/-- `is_authenticated` -/
def isAuthenticated (auth : AuthSession) : Bool := auth.userId.isSome

/-- `AuthSession::login`, at that time. -/
def login (auth : AuthSession) (userId : String) (roles : List String) (now : Int64) :
    AuthSession :=
  { auth with userId := some userId, roles := roles, authenticatedAt := some now }

/-- `AuthSession::logout`: every field is cleared. -/
def logout (auth : AuthSession) : AuthSession :=
  { auth with userId := none, roles := [], authenticatedAt := none, extra := .empty }

/-- A `HashMap<String, String>`, in the order it is visited in. -/
def extraJson (extra : OrderedMap String String) : Json :=
  .object (extra.map fun _ value => .string value).entries

/-- A `HashMap<String, String>`, where the value is one. -/
def extraOfJson : Json → Option (OrderedMap String String)
  | .object entries =>
    (entries.mapM fun e => (stringOfJson e.2).map (e.1, ·)).map OrderedMap.empty.insertAll
  | _ => none

/-- `Serialize for AuthSession` -/
def json (auth : AuthSession) : Json :=
  .object
    [("user_id", optionJson .string auth.userId),
     ("roles", stringsJson auth.roles),
     ("authenticated_at", optionJson Json.ofInt64 auth.authenticatedAt),
     ("extra", extraJson auth.extra)]

/-- The fields of an `AuthSession`.  One that is missing is none, but for `roles`. -/
def ofFields (userId roles authenticatedAt extra : Option Json) : Option AuthSession := do
  let userId ← optionField stringOfJson userId
  let roles ← roles.bind stringsOfJson
  let authenticatedAt ← optionField Json.asI64 authenticatedAt
  let extra ← match extra with
    | none => some .empty
    | some v => extraOfJson v
  some { userId, roles, authenticatedAt, extra }

/-- `Deserialize for AuthSession`, where it succeeds.  An array has the fields in their order, and
may lack the last one. -/
def ofJson : Json → Option AuthSession
  | .object entries =>
    ofFields (entries.lookup "user_id") (entries.lookup "roles")
      (entries.lookup "authenticated_at") (entries.lookup "extra")
  | .array [userId, roles, authenticatedAt] =>
    ofFields (some userId) (some roles) (some authenticatedAt) none
  | .array [userId, roles, authenticatedAt, extra] =>
    ofFields (some userId) (some roles) (some authenticatedAt) (some extra)
  | _ => none

theorem mapM_stringOfJson (es : List (String × String)) :
    (es.map fun e => (e.1, Json.string e.2)).mapM (fun e => (stringOfJson e.2).map (e.1, ·))
      = some es := by
  induction es with
  | nil => rfl
  | cons e es ih =>
    rw [List.map_cons, List.mapM_cons, ih]
    rfl

theorem extraOfJson_extraJson (extra : OrderedMap String String) :
    extraOfJson (extraJson extra) = some extra := by
  have hentries : ((OrderedMap.empty : OrderedMap String String).insertAll extra.entries).entries
      = extra.entries := OrderedMap.entries_insertAll extra.nodup
  have hmap : (extra.map fun _ value => Json.string value).entries
      = extra.entries.map fun e => (e.1, Json.string e.2) := rfl
  obtain ⟨entries, nodup⟩ := extra
  rw [extraJson, extraOfJson, hmap, mapM_stringOfJson, Option.map_some, Option.some.injEq]
  generalize hresult : (OrderedMap.empty : OrderedMap String String).insertAll entries = result
  rw [hresult] at hentries
  obtain ⟨kept, _⟩ := result
  cases hentries
  rfl

/-- **A user is read back** as it was written: with the same identifier, roles, time and further
data. -/
theorem ofJson_json (auth : AuthSession) : ofJson auth.json = some auth := by
  have huserId : optionOfJson stringOfJson (optionJson .string auth.userId) = some auth.userId := by
    cases auth.userId <;> rfl
  have htime : optionOfJson Json.asI64 (optionJson Json.ofInt64 auth.authenticatedAt)
      = some auth.authenticatedAt := by
    cases auth.authenticatedAt with
    | none => rfl
    | some n =>
      show (Json.asI64 (Json.ofInt64 n)).map some = some (some n)
      rw [Json.asI64_ofInt64]
      rfl
  rw [json, ofJson, ofFields]
  simp only [List.lookup_cons, beq_self_eq_true, show ("roles" == "user_id") = false by decide,
    show ("authenticated_at" == "user_id") = false by decide,
    show ("authenticated_at" == "roles") = false by decide,
    show ("extra" == "user_id") = false by decide, show ("extra" == "roles") = false by decide,
    show ("extra" == "authenticated_at") = false by decide, Option.bind_some, optionField, huserId,
    stringsOfJson_stringsJson, htime, extraOfJson_extraJson]
  rfl

end AuthSession

/-- `AuthSession` -/
def authCodec (dataError : Json → String) : Codec AuthSession :=
  .ofOption dataError AuthSession.json AuthSession.ofJson AuthSession.ofJson_json

/-! ### Logging out -/

/-- The event of a user who logs out. -/
def logoutEvent (stamp : Uuid × DateTime) (logger : AuditLogger) (source : AuditSource)
    (auth : AuthSession) : AuditEvent :=
  { AuditEvent.new stamp.1 stamp.2 .authLogout .notice logger.serviceName with
    source := { source with subject := auth.userId } }

/-- The event is logged, if there is a logger and it logs such events. -/
def logLogout (audit : Option (AuditLogger × AuditSource)) (auth : AuthSession) :
    SessionProg Unit :=
  match audit with
  | some (logger, source) =>
    if logger.config.auditAuthEvents then
      .call .stamp fun stamp => .call (.log (logoutEvent stamp logger source auth)) fun _ => .ret ()
    else .ret ()
  | none => .ret ()

/-- `TypedSession::logout`, with the data it leaves in the extractor. -/
def TypedSession.logout (dataError : Json → String) (audit : Option (AuditLogger × AuditSource))
    (auth : AuthSession) : AuthSession × SessionProg Unit :=
  (auth.logout, (save (authCodec dataError) auth.logout).bind fun _ => logLogout audit auth)

/-! ### Values of the service's own -/

namespace SessionData

variable {α : Type} (codec : Codec α)

/-- `get_value` -/
def getValue (key : String) : SessionProg (Option α) := Session.get codec "Session get error" key

/-- `set_value` -/
def setValue (key : String) (value : α) : SessionProg Unit :=
  Session.insert codec "Session set error" key value

/-- `remove_value` -/
def removeValue (key : String) : SessionProg (Option α) :=
  Session.remove codec "Session remove error" key

/-- `has_key` -/
def hasKey (dataError : Json → String) (key : String) : SessionProg Bool :=
  (Session.get (valueCodec dataError) "Session check error" key).bind fun found =>
    .ret found.isSome

end SessionData

/-! ### What the functions do -/

section Specifications

variable {T : Type} {codec : Codec T} {fallback : T} {r : SessionRecord} {x : Option T}

/-- What is kept is loaded, or the default if there is nothing. -/
theorem ensures_load (h : HoldsValue codec r typedDataKey x) :
    (TypedSession.load codec fallback true).Ensures sessionContract
      (fun result r' => r' = r ∧ ReturnsValue result (x.getD fallback)) r := by
  refine (ensures_get h).bind ?_ ?_
  · rintro found r' ⟨rfl, hfound | ⟨e, he⟩⟩
    · cases hfound
      exact ⟨rfl, .inl rfl⟩
    · cases he
  · rintro e r' ⟨rfl, -⟩
    exact ⟨rfl, .inr ⟨e, rfl⟩⟩

/-- The data is kept, or nothing has changed. -/
theorem ensures_save (data : T) :
    (TypedSession.save codec data).Ensures sessionContract
      (fun result r' => (result = .ok () ∧
          ∃ v, codec.write data = .ok v ∧ r' = r.set typedDataKey (some v)) ∨
        ((∃ e, result = .error e) ∧ r' = r)) r :=
  ensures_insert data

/-- The data is dropped, or nothing has changed. -/
theorem ensures_clearData (h : HoldsValue codec r typedDataKey x) :
    (TypedSession.clear codec fallback).2.Ensures sessionContract
      (fun result r' => (result = .ok () ∧ r' = r.set typedDataKey none) ∨
        ((∃ e, result = .error e) ∧ r' = r)) r := by
  refine (ensures_remove h).bind ?_ ?_
  · rintro found r' (⟨-, rfl⟩ | ⟨⟨e, he⟩, -⟩)
    · exact .inl ⟨rfl, rfl⟩
    · cases he
  · rintro e r' (⟨he, -⟩ | ⟨-, rfl⟩)
    · cases he
    · exact .inr ⟨⟨e, rfl⟩, rfl⟩

/-- The events of a user who logs out. -/
def IsLogoutOf (audit : Option (AuditLogger × AuditSource)) (auth : AuthSession)
    (events : List AuditEvent) : Prop :=
  match audit with
  | some (logger, source) =>
    if logger.config.auditAuthEvents then ∃ stamp, events = [logoutEvent stamp logger source auth]
    else events = []
  | none => events = []

theorem ensures_logLogout (audit : Option (AuditLogger × AuditSource)) (auth : AuthSession) :
    (logLogout audit auth).Ensures sessionContract
      (fun result r' => result = .ok () ∧
        ∃ events, IsLogoutOf audit auth events ∧
          r' = { r with logged := r.logged ++ events }) r := by
  have hquiet : r = { r with logged := r.logged ++ [] } := by rw [List.append_nil]
  rcases audit with _ | ⟨logger, source⟩
  · exact ⟨rfl, [], rfl, hquiet⟩
  · by_cases hlogs : logger.config.auditAuthEvents = true
    · rw [logLogout, if_pos hlogs]
      rintro stamp _ rfl answer r' rfl
      refine ⟨rfl, [logoutEvent stamp logger source auth], ?_, rfl⟩
      rw [IsLogoutOf, if_pos hlogs]
      exact ⟨stamp, rfl⟩
    · rw [logLogout, if_neg hlogs]
      refine ⟨rfl, [], ?_, hquiet⟩
      rw [IsLogoutOf, if_neg hlogs]

/-- A user whose logout is saved is logged out, and the event of it is logged; otherwise nothing has
changed. -/
theorem ensures_logout {dataError : Json → String} (audit : Option (AuditLogger × AuditSource))
    (auth : AuthSession) :
    (TypedSession.logout dataError audit auth).2.Ensures sessionContract
      (fun result r' => (result = .ok () ∧ ∃ events, IsLogoutOf audit auth events ∧
          r' = { r.set typedDataKey (some auth.logout.json) with logged := r.logged ++ events }) ∨
        ((∃ e, result = .error e) ∧ r' = r)) r := by
  refine (ensures_save auth.logout).bind ?_ ?_
  · rintro u r' (⟨-, v, hwrite, rfl⟩ | ⟨⟨e, he⟩, -⟩)
    · cases hwrite
      refine (ensures_logLogout audit auth).mono ?_
      rintro result r' ⟨rfl, events, hevents, rfl⟩
      exact .inl ⟨rfl, events, hevents, rfl⟩
    · cases he
  · rintro e r' (⟨he, -⟩ | ⟨-, rfl⟩)
    · cases he
    · exact .inr ⟨⟨e, rfl⟩, rfl⟩

/-- Whether there is a value under a name is told without reading it. -/
theorem ensures_hasKey {dataError : Json → String} (key : String) :
    (SessionData.hasKey dataError key).Ensures sessionContract
      (fun result r' => r' = r ∧ ReturnsValue result (r.values key).isSome) r := by
  intro answer r' hcall
  cases answer with
  | error e => exact ⟨hcall, .inr ⟨_, rfl⟩⟩
  | ok v =>
    obtain ⟨rfl, rfl⟩ := hcall
    cases r'.values key with
    | none => exact ⟨rfl, .inl rfl⟩
    | some v => exact ⟨rfl, .inl rfl⟩

end Specifications

end ActonService
