import ActonService.Accounts.Handlers
import ActonService.JsonReading

/-!
# Updates sent over REST

An `UpdateAccount` is sent as the JSON it serializes to, and the PATCH handler takes what it reads
of the body to `update_account`.  A field that is absent, `null` or set is one of three things in
the expiry of an update, and `null` is a value of its own in the metadata.  Both are read as
absent.  Metadata of any other shape come back where `serde_json` reads their text as the value
it was written from, which it does not do for every decimal and every depth.

## Main definitions

* `UpdateAccount.body` — the body an update is sent as.
* `UpdateAccount.received` — the update that is read of it.
* `AccountHandlers.patchAccount` — a PATCH request with a body.
* `SentOverRest` — the request does what the update does.

## Main results

* `ofJson_json` — what is read of the JSON of an update.
* `ofBody_body` — what is read of the body of an update.
* `expiresAt_ne_of_ofJson` — no body asks for the expiry to be cleared.
* `sentOverRest_iff` — **which updates can be sent.**
-/

namespace ActonService

open Effect AccountService AccountWorld

section Bodies

variable (A : RestExterns)

/-- The body an update is sent as: the compact JSON text of what is serialized of it. -/
def UpdateAccount.body (data : UpdateAccount) : String := jsonText A.numberText (data.json A)

/-- `Json<UpdateAccount>`: the update a body is read as, if the extractor accepts it. -/
def UpdateAccount.ofBody (body : String) : Option UpdateAccount :=
  (A.jsonFromStr body).bind (ofJson A)

/-- The update that is read of the body of another: `null` is absence. -/
def UpdateAccount.received (data : UpdateAccount) : UpdateAccount :=
  { data with
    expiresAt := if data.expiresAt = some none then none else data.expiresAt
    metadata := match data.metadata with
      | some .null => none
      | metadata => metadata }

/-- A PATCH request, unless its body is rejected. -/
def AccountHandlers.patchAccount (id body : String) : Option (AccountProg RestResponse) :=
  (UpdateAccount.ofBody A body).map (AccountHandlers.updateAccount A id)

/-- The body of an update is read as the update, and the request changes every store as
`update_account` does, and replies with its result. -/
structure SentOverRest (data : UpdateAccount) : Prop where
  roundTrip : UpdateAccount.ofBody A (data.body A) = some data
  sameChange : ∀ id, ∃ p, AccountHandlers.patchAccount A id (data.body A) = some p ∧
    ∀ b s inputs,
      let r := run A.toAccountExterns b (updateAccount A.toAccountExterns id data) s inputs
      run A.toAccountExterns b p s inputs = (r.1.map fun account => ⟨200, account.json A⟩, r.2)

/-! ### Reading -/

theorem optionOfJson_optionJson {α : Type} {read : Json → Option α} {json : α → Json}
    {value : Option α} (hread : ∀ a ∈ value, read (json a) = some a)
    (hnull : ∀ a ∈ value, json a ≠ .null) :
    optionOfJson read (optionJson json value) = some value := by
  cases value with
  | none => rfl
  | some a =>
    have ha := hread a rfl
    have hne := hnull a rfl
    show optionOfJson read (json a) = some (some a)
    rw [optionOfJson, ha]
    · rfl
    · exact hne

/-- **What is read of the JSON of an update.** -/
theorem ofJson_json {data : UpdateAccount}
    (htime : ∀ t, data.expiresAt = some (some t) → A.timeFromJson (A.timeJson t) = some t) :
    UpdateAccount.ofJson A (data.json A) = some data.received := by
  have hemail : optionOfJson stringOfJson (optionJson Json.string data.email) = some data.email :=
    optionOfJson_optionJson (fun _ _ => rfl) fun _ _ => nofun
  have husername : optionOfJson stringOfJson (optionJson Json.string data.username)
      = some data.username :=
    optionOfJson_optionJson (fun _ _ => rfl) fun _ _ => nofun
  have hroles : optionOfJson stringsOfJson (optionJson stringsJson data.roles)
      = some data.roles :=
    optionOfJson_optionJson (fun strings _ => stringsOfJson_stringsJson strings) fun _ _ => nofun
  have hexpiresAt : optionOfJson (optionOfJson (dateTimeOfJson A))
      (optionJson (optionJson (dateTimeJson A)) data.expiresAt) = some data.received.expiresAt := by
    -- both absences are written as `null`, which is read as the outer one
    rcases hdata : data.expiresAt with _ | _ | t
    · simp [UpdateAccount.received, hdata, optionJson, optionOfJson]
    · simp [UpdateAccount.received, hdata, optionJson, optionOfJson]
    · simp [UpdateAccount.received, hdata, optionJson, optionOfJson, dateTimeJson, dateTimeOfJson,
        stringOfJson, htime t hdata]
  have hmetadata : optionOfJson some (optionJson (fun v => v) data.metadata)
      = some data.received.metadata := by
    rcases hdata : data.metadata with _ | v
    · simp [UpdateAccount.received, hdata, optionJson, optionOfJson]
    · cases v <;> simp [UpdateAccount.received, hdata, optionJson, optionOfJson]
  have hfields : UpdateAccount.ofJson A (data.json A)
      = UpdateAccount.ofFields A (some (optionJson .string data.email))
        (some (optionJson .string data.username)) (some (optionJson stringsJson data.roles))
        (some (optionJson (optionJson (dateTimeJson A)) data.expiresAt))
        (some (optionJson (fun v => v) data.metadata)) := rfl
  rw [hfields, UpdateAccount.ofFields]
  simp only [optionField, hemail, husername, hroles, hexpiresAt, hmetadata, Option.bind_eq_bind,
    Option.bind_some]
  rfl

/-- What a field of type `Option` is read as is never a `null` of its own. -/
theorem optionField_ne {α : Type} {read : Json → Option α} {a : α} {field : Option Json}
    {value : Option α} (hread : ∀ v, v ≠ .null → read v ≠ some a)
    (h : optionField read field = some value) : value ≠ some a := by
  rintro rfl
  cases field with
  | none => cases h
  | some v =>
    by_cases hv : v = .null
    · subst hv
      cases h
    · rw [optionField, optionOfJson] at h
      · exact hread v hv (by simpa using h)
      · exact hv

/-- **No body asks for the expiry to be cleared**, or for metadata that are `null`. -/
theorem expiresAt_ne_of_ofJson {v : Json} {data : UpdateAccount}
    (h : UpdateAccount.ofJson A v = some data) :
    data.expiresAt ≠ some none ∧ data.metadata ≠ some .null := by
  have hfields : ∃ email username roles expiresAt metadata,
      UpdateAccount.ofFields A email username roles expiresAt metadata = some data := by
    unfold UpdateAccount.ofJson at h
    split at h
    · exact ⟨_, _, _, _, _, h⟩
    · exact ⟨_, _, _, _, _, h⟩
    · contradiction
  obtain ⟨email, username, roles, expiresAt, metadata, hdata⟩ := hfields
  simp only [UpdateAccount.ofFields, Option.bind_eq_bind, Option.bind_eq_some_iff] at hdata
  obtain ⟨_, -, _, -, _, -, expiry, hexpiry, value, hvalue, heq⟩ := hdata
  obtain rfl := Option.some.inj heq
  constructor
  · refine optionField_ne (fun v hv hnone => ?_) hexpiry
    rw [optionOfJson] at hnone
    · simp at hnone
    · exact hv
  · exact optionField_ne (fun v hv hnull => hv (Option.some.inj hnull)) hvalue

theorem received_eq_iff (data : UpdateAccount) :
    data.received = data ↔ data.expiresAt ≠ some none ∧ data.metadata ≠ some .null := by
  obtain ⟨email, username, roles, expiresAt, metadata⟩ := data
  rw [UpdateAccount.received, UpdateAccount.mk.injEq]
  have hexpiresAt : (if expiresAt = some none then none else expiresAt) = expiresAt
      ↔ expiresAt ≠ some none := by
    split
    · next h => simp [h]
    · next h => simp [h]
  have hmetadata : (match metadata with
      | some .null => none
      | metadata => metadata) = metadata ↔ metadata ≠ some .null := by
    split
    · simp
    · next h => exact iff_of_true rfl h
  simp only [true_and, hexpiresAt, hmetadata]

/-- A PATCH request makes the update that is read of its body. -/
theorem patchAccount_of_ofBody {body : String} {data : UpdateAccount}
    (h : UpdateAccount.ofBody A body = some data) (id : String) :
    AccountHandlers.patchAccount A id body = some (AccountHandlers.updateAccount A id data) := by
  rw [AccountHandlers.patchAccount, h, Option.map_some]

/-- A field whose value is read as it was written, or as `null` if it is absent. -/
theorem reads_optionJson {reads : Json → Option Json} (hnull : reads .null = some .null)
    {α : Type} {json : α → Json} (hvalue : ∀ a, reads (json a) = some (json a))
    (value : Option α) : reads (optionJson json value) = some (optionJson json value) := by
  cases value with
  | none => exact hnull
  | some a => exact hvalue a

/-- Of the JSON of an update everything is read as it was written but for the metadata. -/
theorem readObject_json {reads : Json → Option Json} (hreads : ReadsBack reads)
    (hnull : reads .null = some .null) (data : UpdateAccount) :
    readObject reads (data.json A)
      = (data.metadata.mapM reads).map fun metadata =>
          { data with metadata := metadata }.json A := by
  have hemail := reads_optionJson hnull hreads.text data.email
  have husername := reads_optionJson hnull hreads.text data.username
  have hroles : reads (optionJson stringsJson data.roles)
      = some (optionJson stringsJson data.roles) :=
    reads_optionJson hnull hreads.texts data.roles
  have hexpiresAt : reads (optionJson (optionJson (dateTimeJson A)) data.expiresAt)
      = some (optionJson (optionJson (dateTimeJson A)) data.expiresAt) :=
    reads_optionJson hnull (reads_optionJson hnull fun t => hreads.text (A.timeJson t))
      data.expiresAt
  have hmetadata : reads (optionJson (fun v => v) data.metadata)
      = (data.metadata.mapM reads).map (optionJson fun v => v) := by
    cases hdata : data.metadata with
    | none => exact hnull
    | some v =>
      show reads v = _
      cases hv : reads v <;> simp [hv, optionJson]
  rw [UpdateAccount.json, readObject]
  simp only [readEntries, List.mapM_cons, List.mapM_nil, hemail, husername, hroles, hexpiresAt,
    hmetadata, Option.map_some]
  cases data.metadata.mapM reads <;> rfl

/-- **What is read of the body of an update.** -/
theorem ofBody_body {reads : Json → Option Json} (hreads : ReadsBack reads)
    (hnull : reads .null = some .null) {data : UpdateAccount}
    (htime : ∀ t, data.expiresAt = some (some t) → A.timeFromJson (A.timeJson t) = some t)
    (hjson : A.jsonFromStr (data.body A) = readObject reads (data.json A)) :
    UpdateAccount.ofBody A (data.body A)
      = (data.metadata.mapM reads).map fun metadata =>
          { data with metadata := metadata }.received := by
  rw [UpdateAccount.ofBody, hjson, readObject_json A hreads hnull]
  cases data.metadata.mapM reads with
  | none => rfl
  | some metadata =>
    rw [Option.map_some, Option.map_some, Option.bind_some]
    exact ofJson_json A htime

/-- The metadata come back exactly if they are not `null` and are read as they were written. -/
theorem received_reread_eq_iff (reads : Json → Option Json) (data : UpdateAccount) :
    (data.metadata.mapM reads).map (fun metadata => { data with metadata := metadata }.received)
        = some data
      ↔ data.expiresAt ≠ some none ∧ ∀ v ∈ data.metadata, v ≠ .null ∧ reads v = some v := by
  obtain ⟨email, username, roles, expiresAt, metadata⟩ := data
  cases metadata with
  | none => simpa using received_eq_iff ⟨email, username, roles, expiresAt, none⟩
  | some v =>
    have hmap : (some v).mapM reads = (reads v).map some := by
      cases hv : reads v <;> simp [hv]
    simp only [hmap, Option.map_map, Option.mem_some_iff, forall_eq']
    constructor
    · intro h
      obtain ⟨w, hw, heq⟩ := Option.map_eq_some_iff.mp h
      -- what is received has the metadata `w`, unless they are `null`
      have hmetadata := congrArg UpdateAccount.metadata heq
      have hexpiresAt := congrArg UpdateAccount.expiresAt heq
      have hne : w ≠ .null := by
        rintro rfl
        cases hmetadata
      have hwv : w = v := by
        cases w <;> first | exact absurd rfl hne | exact Option.some.inj hmetadata
      subst hwv
      have hself := (received_eq_iff ⟨email, username, roles, expiresAt, some w⟩).mp heq
      exact ⟨hself.1, hne, hw⟩
    · rintro ⟨hexpiresAt, hne, hv⟩
      have hself := (received_eq_iff ⟨email, username, roles, expiresAt, some v⟩).mpr
        ⟨hexpiresAt, fun h => hne (Option.some.inj h)⟩
      rw [hv]
      exact congrArg some hself

/-- **Which updates can be sent over REST.**  For every update: the body it serializes to is read
as the update, and the PATCH handler does with it what `update_account` does with the update,
exactly if the update does not clear the expiry and its metadata, if it sets any, are not `null`
and are read by `serde_json` as they were written.  Of `chrono` and `serde_json` it is relied on
that a time, a text, a list of texts and `null` come back, and that an object is read entry by
entry. -/
theorem sentOverRest_iff (A : RestExterns) (reads : Json → Option Json) (hreads : ReadsBack reads)
    (hnull : reads .null = some .null) (data : UpdateAccount)
    (htime : ∀ t, data.expiresAt = some (some t) → A.timeFromJson (A.timeJson t) = some t)
    (hjson : A.jsonFromStr (data.body A) = readObject reads (data.json A)) :
    SentOverRest A data
      ↔ data.expiresAt ≠ some none ∧ ∀ v ∈ data.metadata, v ≠ .null ∧ reads v = some v := by
  have hread := ofBody_body A hreads hnull htime hjson
  rw [← received_reread_eq_iff]
  constructor
  · intro h
    exact hread.symm.trans h.roundTrip
  · intro hself
    rw [hself] at hread
    refine ⟨hread, fun id => ⟨_, patchAccount_of_ofBody A hread id, ?_⟩⟩
    intro b s inputs
    exact AccountHandlers.run_reply A b (updateAccount A.toAccountExterns id data) 200
      (Account.json A) s inputs

end Bodies

/-! ### Samples -/

/-- Externs whose `serde_json` reads one text as one value and refuses every other. -/
def sampleReading (text : String) (v : Json) : RestExterns :=
  { sampleRest with jsonFromStr := fun text' => if text' = text then some v else none }

theorem sampleReading_jsonFromStr (text : String) (v : Json) :
    (sampleReading text v).jsonFromStr text = some v :=
  if_pos rfl

/-- Externs whose `serde_json` reads the body of this update as the value it was written of. -/
def sampleReader (data : UpdateAccount) : RestExterns :=
  sampleReading (data.body sampleRest) (data.json sampleRest)

/-- The JSON of an update depends on how times are written only. -/
theorem UpdateAccount.json_congr {A A' : RestExterns} (h : A.timeJson = A'.timeJson)
    (data : UpdateAccount) : data.json A = data.json A' := by
  have htime : dateTimeJson A = dateTimeJson A' := by
    funext t
    rw [dateTimeJson, dateTimeJson, h]
  rw [UpdateAccount.json, UpdateAccount.json, htime]

theorem sampleReader_jsonFromStr (data : UpdateAccount) :
    (sampleReader data).jsonFromStr (data.body (sampleReader data))
      = some (data.json (sampleReader data)) := by
  have htime : (sampleReader data).timeJson = sampleRest.timeJson := by
    rw [sampleReader, sampleReading]
  have hnumber : (sampleReader data).numberText = sampleRest.numberText := by
    rw [sampleReader, sampleReading]
  have hjson := data.json_congr htime
  have hbody : data.body (sampleReader data) = data.body sampleRest := by
    rw [UpdateAccount.body, UpdateAccount.body, hjson, hnumber]
  rw [hbody, hjson]
  exact sampleReading_jsonFromStr _ _

/-- A new address, new roles and a new expiry. -/
def sampleChanges : UpdateAccount :=
  ⟨some "c@example.com", none, some ["admin", "auditor"], some (some (sampleTime 0)), none⟩

/-- An update that clears the expiry of an account and leaves everything else as it is. -/
def sampleClear : UpdateAccount := ⟨none, none, none, some none, none⟩

/-- A store with one account, which has an expiry. -/
def sampleExpiring : AccountTable where
  rows := [sampleStored "acct_1" "a@example.com" "$argon2id$a" (some (sampleTime 0))]
  key_nodup := by decide
  unique_nodup := by decide

/-- Reading every value as it was written reads the JSON of an update so. -/
theorem readObject_some (A : RestExterns) (data : UpdateAccount) :
    readObject some (data.json A) = some (data.json A) := by
  rw [UpdateAccount.json, readObject, readEntries_eq_self fun _ _ => rfl, Option.map_some]

theorem sentOverRest_iff_sample : SentOverRest (sampleReader sampleChanges) sampleChanges := by
  have hjson := sampleReader_jsonFromStr sampleChanges
  rw [← readObject_some] at hjson
  refine (sentOverRest_iff (sampleReader sampleChanges) some ⟨fun _ => rfl, fun _ => rfl,
    fun _ => rfl⟩ rfl sampleChanges ?_ hjson).mpr ⟨by decide, nofun⟩
  intro t ht
  cases ht
  rfl

/-- A request to clear the expiry is read as one that leaves it, and the account keeps it. -/
theorem not_forall_sentOverRest :
    ¬ SentOverRest (sampleReader sampleClear) sampleClear ∧
      ∃ p, AccountHandlers.patchAccount (sampleReader sampleClear) "acct_1"
          (sampleClear.body (sampleReader sampleClear)) = some p ∧
        ((run sampleAccountExterns .turso p (sampleExpiring, []) fun _ =>
          ⟨sampleTime 0, .none, "", ""⟩).2.1.find "acct_1").map Account.expiresAt
          = some (some (sampleTime 0)) ∧
        ((run sampleAccountExterns .turso (updateAccount sampleAccountExterns "acct_1" sampleClear)
          (sampleExpiring, []) fun _ => ⟨sampleTime 0, .none, "", ""⟩).2.1.find "acct_1").map
            Account.expiresAt = some none := by
  have htime : ∀ t, sampleClear.expiresAt = some (some t) →
      (sampleReader sampleClear).timeFromJson ((sampleReader sampleClear).timeJson t)
        = some t := by
    intro t ht
    simp [sampleClear] at ht
  have hread : UpdateAccount.ofBody (sampleReader sampleClear)
      (sampleClear.body (sampleReader sampleClear)) = some sampleClear.received := by
    rw [UpdateAccount.ofBody, sampleReader_jsonFromStr, Option.bind_some, ofJson_json _ htime]
  have hpatch := patchAccount_of_ofBody (sampleReader sampleClear) hread "acct_1"
  refine ⟨fun h => ?_, _, hpatch, by decide +kernel, by decide +kernel⟩
  have hreceived := Option.some.inj (hread.symm.trans h.roundTrip)
  exact ((received_eq_iff sampleClear).mp hreceived).1 rfl

end ActonService
