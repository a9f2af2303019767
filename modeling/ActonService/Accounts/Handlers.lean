import ActonService.Accounts.Steps
import ActonService.Audit.Archive

/-!
# The REST handlers of accounts

The handlers of `accounts/handlers.rs` that answer with accounts, and the JSON of
`accounts/types.rs` they answer with: `Account` and `UpdateAccount` are serialized field by field.
An error goes through `Error` and its `ErrorResponse`.

A handler is a program: the calls are those of the account service.

## Main definitions

* `RestExterns` — how `chrono` writes a time, and reads one.
* `Account.json`, `UpdateAccount.json`, `UpdateAccount.ofJson` — the derived texts.
* `AccountHandlers.createAccount`, `getAccount`, `updateAccount`, `listAccounts` — the handlers.
* `AccountRequest`, `AccountHandlers.response` — a request, and what it is answered with.

## Main results

* `AccountHandlers.run_reply` — a handler that replies with the result of an operation does what
  the operation does.
* `AccountHandlers.response_create`, `response_get`, `response_update`, `response_list` — what the
  requests are answered with.
-/

namespace ActonService

open Effect AccountProg AccountService AccountWorld

/-! ### Accounts as JSON -/

/-- The functions JSON is written and read with that are not under the source. -/
structure RestExterns extends AccountExterns where
  /-- The text `chrono` serializes a `DateTime<Utc>` as in JSON. -/
  timeJson : DateTime → String
  /-- The time `chrono` deserializes from a text, where it does. -/
  timeFromJson : String → Option DateTime

section Json

variable (A : RestExterns)

/-- The JSON of a `DateTime<Utc>`, which is a string. -/
def dateTimeJson (t : DateTime) : Json := .string (A.timeJson t)

/-- `Serialize for Account`. -/
def Account.json (account : Account) : Json :=
  .object
    [("id", .string account.id),
     ("email", .string account.email),
     ("username", optionJson .string account.username),
     ("password_hash", optionJson .string account.passwordHash),
     ("status", .string account.status.display),
     ("roles", stringsJson account.roles),
     ("email_verified", .bool account.emailVerified),
     ("email_verified_at", optionJson (dateTimeJson A) account.emailVerifiedAt),
     ("last_login_at", optionJson (dateTimeJson A) account.lastLoginAt),
     ("locked_at", optionJson (dateTimeJson A) account.lockedAt),
     ("locked_reason", optionJson .string account.lockedReason),
     ("disabled_at", optionJson (dateTimeJson A) account.disabledAt),
     ("disabled_reason", optionJson .string account.disabledReason),
     ("expires_at", optionJson (dateTimeJson A) account.expiresAt),
     ("password_changed_at", optionJson (dateTimeJson A) account.passwordChangedAt),
     ("failed_login_count", .number (.posInt account.failedLoginCount.toUInt64)),
     ("metadata", optionJson (fun v => v) account.metadata),
     ("created_at", dateTimeJson A account.createdAt),
     ("updated_at", dateTimeJson A account.updatedAt)]

/-- `Serialize for UpdateAccount`. -/
def UpdateAccount.json (data : UpdateAccount) : Json :=
  .object
    [("email", optionJson .string data.email),
     ("username", optionJson .string data.username),
     ("roles", optionJson stringsJson data.roles),
     ("expires_at", optionJson (optionJson (dateTimeJson A)) data.expiresAt),
     ("metadata", optionJson (fun v => v) data.metadata)]

/-! ### Updates read from JSON -/

/-- The `DateTime<Utc>` of a JSON value, where it is a string that `chrono` reads as a time. -/
def dateTimeOfJson (v : Json) : Option DateTime := (stringOfJson v).bind A.timeFromJson

/-- An `Option`, where what stands there can be read.  `null` is `None`. -/
def optionOfJson {α : Type} (read : Json → Option α) : Json → Option (Option α)
  | .null => some none
  | v => (read v).map some

/-- A field of type `Option`.  One that is missing is `None`. -/
def optionField {α : Type} (read : Json → Option α) : Option Json → Option (Option α)
  | none => some none
  | some v => optionOfJson read v

/-- An `UpdateAccount` of its fields, each of which may be missing; a field of the wrong type fails
the whole. -/
def UpdateAccount.ofFields (email username roles expiresAt metadata : Option Json) :
    Option UpdateAccount := do
  let email ← optionField stringOfJson email
  let username ← optionField stringOfJson username
  let roles ← optionField stringsOfJson roles
  let expiresAt ← optionField (optionOfJson (dateTimeOfJson A)) expiresAt
  let metadata ← optionField some metadata
  some { email, username, roles, expiresAt, metadata }

/-- `Deserialize for UpdateAccount`, where it succeeds.  An array has the fields in their order. -/
def UpdateAccount.ofJson : Json → Option UpdateAccount
  | .object entries =>
    ofFields A (entries.lookup "email") (entries.lookup "username") (entries.lookup "roles")
      (entries.lookup "expires_at") (entries.lookup "metadata")
  | .array [email, username, roles, expiresAt, metadata] =>
    ofFields A (some email) (some username) (some roles) (some expiresAt) (some metadata)
  | _ => none

end Json

/-! ### Responses -/

/-- `Serialize for ErrorResponse`: there may be no `code`. -/
def ErrorResponse.json (e : ErrorResponse) : Json :=
  .object (("error", .string e.error) :: e.code.toList.map (fun code => ("code", .string code))
    ++ [("status", .number (.posInt e.status.toUInt64))])

/-- `From<AccountError> for Error`, and `into_response` -/
def AccountError.intoResponse (e : AccountError) : Response :=
  match e with
  | .notFound _ => .withCode 404 "NOT_FOUND" e.display
  | .alreadyExists _ => (ServiceError.conflict e.display).intoResponse
  | .invalidTransition _ _ => (ServiceError.validationError e.display).intoResponse
  | .invalidCredentials => (ServiceError.unauthorized e.display).intoResponse
  | .accountInactive _ _ => (ServiceError.forbidden e.display).intoResponse
  | .validation _ => .withCode 400 "BAD_REQUEST" e.display
  | .storage _ => (ServiceError.internal e.display).intoResponse

/-- A response of the account API: a status code and a JSON body. -/
structure RestResponse where
  status : UInt16
  body : Json

/-- An error as the API sends it: the status code and the body that `into_response` gives it. -/
def RestResponse.ofError (e : AccountError) : RestResponse where
  status := e.intoResponse.status
  body := optionJson ErrorResponse.json e.intoResponse.error

/-! ### Handlers -/

/-- `ListAccountsQuery` -/
structure ListAccountsQuery where
  status : Option String
  limit : Option UInt64
  offset : Option UInt64

namespace ListAccountsQuery

variable (query : ListAccountsQuery)

/-- The limit of the page: 50, and 200 at most. -/
def pageLimit : UInt64 := min (query.limit.getD 50) 200

def pageOffset : UInt64 := query.offset.getD 0

/-- The status asked for; a text that is none asks for all. -/
def statusFilter : Option AccountStatus :=
  query.status.bind fun s => (AccountStatus.fromStr s).toOption

end ListAccountsQuery

/-- `AccountListResponse` -/
structure AccountListResponse where
  accounts : List Json
  total : UInt64
  limit : UInt64
  offset : UInt64

/-- `Serialize for AccountListResponse`. -/
def AccountListResponse.json (r : AccountListResponse) : Json :=
  .object
    [("accounts", .array r.accounts),
     ("total", .number (.posInt r.total)),
     ("limit", .number (.posInt r.limit)),
     ("offset", .number (.posInt r.offset))]

/-- A request to one of the handlers that answer with accounts. -/
inductive AccountRequest
  | create (data : CreateAccount)
  | get (id : String)
  | update (id : String) (data : UpdateAccount)
  | list (query : ListAccountsQuery)

namespace AccountHandlers

section Handlers

variable (A : RestExterns) (b : KeyBackend) (service : AccountService)

/-- A reply with this status, whose body is the JSON of the result. -/
def reply {α : Type} (status : UInt16) (json : α → Json) (a : α) : AccountProg RestResponse :=
  .ret ⟨status, json a⟩

/-- `create_account` -/
def createAccount (data : CreateAccount) : AccountProg RestResponse := do
  let account ← service.createAccount A.toAccountExterns data
  reply 201 (Account.json A) account

/-- `get_account` -/
def getAccount (id : String) : AccountProg RestResponse := do
  let account ← AccountService.getAccount id
  let account ← orNotFound id account
  reply 200 (Account.json A) account

/-- `update_account` -/
def updateAccount (id : String) (data : UpdateAccount) : AccountProg RestResponse := do
  let account ← AccountService.updateAccount A.toAccountExterns id data
  reply 200 (Account.json A) account

/-- `list_accounts` -/
def listAccounts (query : ListAccountsQuery) : AccountProg RestResponse := do
  let accounts ← AccountService.listAccounts query.statusFilter query.pageLimit query.pageOffset
  let total ← countAccounts query.statusFilter
  reply 200 AccountListResponse.json
    { accounts := accounts.map (Account.json A)
      total := total.toUInt64
      limit := query.pageLimit
      offset := query.pageOffset }

/-- The handler that `account_routes` has for a request. -/
def program : AccountRequest → AccountProg RestResponse
  | .create data => createAccount A service data
  | .get id => getAccount A id
  | .update id data => updateAccount A id data
  | .list query => listAccounts A query

/-- What a request is answered with, given what its calls meet. -/
def response (request : AccountRequest) (t : AccountTable) (inputs : ℕ → AccountInput) :
    RestResponse :=
  match (run A.toAccountExterns b (program A service request) (t, []) inputs).1 with
  | .ok r => r
  | .error e => .ofError e

/-- **A handler that replies with the result of an operation** does what the operation does. -/
theorem run_reply {α : Type} (p : AccountProg α) (status : UInt16) (json : α → Json)
    (s : AccountTable × List StatusChange) (inputs : ℕ → AccountInput) :
    run A.toAccountExterns b (p.bind (reply status json)) s inputs
      = ((run A.toAccountExterns b p s inputs).1.map fun a => ⟨status, json a⟩,
        (run A.toAccountExterns b p s inputs).2) := by
  obtain ⟨used, h⟩ :=
    exec_bind (AccountWorld.answer A.toAccountExterns b) 0 p (reply status json) s inputs
  rw [run, h, run]
  rcases exec (AccountWorld.answer A.toAccountExterns b) 0 p s inputs with ⟨_ | a, s'⟩
  · rfl
  · rfl

/-- A result as it is sent: a reply with its JSON, or the response for the error. -/
def sent {α : Type} (status : UInt16) (json : α → Json) : Except AccountError α → RestResponse
  | .ok a => ⟨status, json a⟩
  | .error e => .ofError e

section Responses

variable {request : AccountRequest} (t : AccountTable) (inputs : ℕ → AccountInput)

/-- A handler that replies with the result of an operation sends it. -/
theorem response_eq_sent {α : Type} {p : AccountProg α} {status : UInt16} {json : α → Json}
    (h : program A service request = p.bind (reply status json)) :
    response A b service request t inputs
      = sent status json (run A.toAccountExterns b p (t, []) inputs).1 := by
  rw [response, h, run_reply]
  rcases run A.toAccountExterns b p (t, []) inputs with ⟨_ | a, s'⟩
  · rfl
  · rfl

theorem response_create (data : CreateAccount) :
    response A b service (.create data) t inputs
      = sent 201 (Account.json A)
        (run A.toAccountExterns b (service.createAccount A.toAccountExterns data) (t, [])
          inputs).1 :=
  response_eq_sent A b service t inputs rfl

theorem response_get (id : String) :
    response A b service (.get id) t inputs
      = sent 200 (Account.json A)
        (run A.toAccountExterns b ((AccountService.getAccount id).bind (orNotFound id)) (t, [])
          inputs).1 := by
  refine response_eq_sent A b service t inputs ?_
  rw [Prog.bind_assoc]
  rfl

theorem response_update (id : String) (data : UpdateAccount) :
    response A b service (.update id data) t inputs
      = sent 200 (Account.json A)
        (run A.toAccountExterns b (AccountService.updateAccount A.toAccountExterns id data) (t, [])
          inputs).1 :=
  response_eq_sent A b service t inputs rfl

/-- The page and the count of a listing. -/
def listing (query : ListAccountsQuery) (fault fault' : KeyFault) :
    Except ServiceError AccountListResponse := do
  let accounts ← AccountStorage.list A.toAccountExterns b fault query.statusFilter query.pageLimit
    query.pageOffset t
  let total ← AccountStorage.count b fault' query.statusFilter t
  .ok
    { accounts := accounts.map (Account.json A)
      total := total.toUInt64
      limit := query.pageLimit
      offset := query.pageOffset }

theorem response_list (query : ListAccountsQuery) :
    response A b service (.list query) t inputs
      = sent 200 AccountListResponse.json
        ((listing A b t query (inputs 0).fault (inputs 1).fault).mapError
          fun e => .storage e.display) := by
  have hrun : run A.toAccountExterns b (program A service (.list query)) (t, []) inputs
      = run A.toAccountExterns b
        ((ofStorage (AccountStorage.list A.toAccountExterns b (inputs 0).fault query.statusFilter
          query.pageLimit query.pageOffset t)).bind fun accounts =>
            (countAccounts query.statusFilter).bind fun total =>
              reply 200 AccountListResponse.json ⟨accounts.map (Account.json A), total.toUInt64,
                query.pageLimit, query.pageOffset⟩) (t, []) (later inputs) :=
    run_call_of_table (s := (t, [])) rfl
  rw [response, hrun, listing]
  cases AccountStorage.list A.toAccountExterns b (inputs 0).fault query.statusFilter
    query.pageLimit query.pageOffset t with
  | error e => rfl
  | ok accounts =>
    have hcount : ∀ k : ℕ → AccountProg RestResponse,
        run A.toAccountExterns b ((countAccounts query.statusFilter).bind k) (t, []) (later inputs)
          = run A.toAccountExterns b
            ((ofStorage (AccountStorage.count b (inputs 1).fault query.statusFilter t)).bind k)
            (t, []) (later (later inputs)) :=
      fun k => run_call_of_table (s := (t, [])) rfl
    show (match (run A.toAccountExterns b ((countAccounts query.statusFilter).bind _) (t, [])
      (later inputs)).1 with
      | .ok r => r
      | .error e => RestResponse.ofError e) = _
    rw [hcount]
    cases AccountStorage.count b (inputs 1).fault query.statusFilter t with
    | error e => rfl
    | ok total => rfl

end Responses

end Handlers

end AccountHandlers

/-! ### Samples -/

/-- Serialization with a text of its own for one time, as `chrono` writes it, and with those of the
sample store for the others. -/
def sampleRest : RestExterns where
  toAccountExterns := sampleAccountExterns
  timeJson t := if t = sampleTime 0 then "2025-06-15T10:30:00Z" else sampleStore.toRfc3339 t
  timeFromJson text := if text = "2025-06-15T10:30:00Z" then some (sampleTime 0) else none

/-- An active account with a password hash and an expiry. -/
def sampleStored (id email : String) (hash : String) (expiresAt : Option DateTime) : Account where
  id := id
  email := email
  username := none
  passwordHash := some hash
  status := .active
  roles := ["admin"]
  emailVerified := true
  emailVerifiedAt := some (sampleTime 0)
  lastLoginAt := none
  lockedAt := none
  lockedReason := none
  disabledAt := none
  disabledReason := none
  expiresAt := expiresAt
  passwordChangedAt := some (sampleTime 0)
  failedLoginCount := 0
  metadata := none
  createdAt := sampleTime 0
  updatedAt := sampleTime 0

end ActonService
