import ActonService.Accounts.Storage

/-!
# The account service

`AccountService` of `accounts/mod.rs`: every operation as a program that makes one call at a time.

## Main definitions

* `AccountService` — the hasher and the configuration.
* `AccountService.createAccount`, `getAccount`, `updateAccount`, … — the operations.
* `AccountOp`, `AccountService.program` — an operation with its arguments, and its program.
-/

namespace ActonService

open Effect

/-- Programs that call the store, the hasher and the notifications of the account service. -/
abbrev AccountProg (α : Type) := Prog AccountCall AccountCall.Answer AccountError α

namespace AccountProg

/-- The answer of the storage; its error becomes `AccountError::Storage`. -/
def ofStorage {α : Type} (r : Except ServiceError α) : AccountProg α :=
  .ofExcept (r.mapError fun e => .storage e.display)

def create (account : Account) : AccountProg Unit := .call (.create account) ofStorage

def getById (id : String) : AccountProg (Option Account) := .call (.getById id) ofStorage

def getByEmail (email : String) : AccountProg (Option Account) :=
  .call (.getByEmail email) ofStorage

def getByUsername (username : String) : AccountProg (Option Account) :=
  .call (.getByUsername username) ofStorage

def update (account : Account) : AccountProg Unit := .call (.update account) ofStorage

def updateStatus (id : String) (status : AccountStatus) (reason : Option String) :
    AccountProg Unit :=
  .call (.updateStatus id status reason) ofStorage

def deleteRow (id : String) : AccountProg Bool := .call (.deleteRow id) ofStorage

def utcNow : AccountProg DateTime := .call .utcNow .ret

def newId : AccountProg String := .call .newId .ret

def salt : AccountProg String := .call .salt .ret

def notify (event : AccountEvent) : AccountProg Unit := .call (.notify event) .ret

/-- `delete` of a backend.  SurrealDB looks for the record first. -/
def delete (b : KeyBackend) (id : String) : AccountProg Bool :=
  match b with
  | .surrealDb => do
    let found ← getById id
    match found with
    | none => .ret false
    | some _ => do
      let _ ← deleteRow id
      .ret true
  | _ => deleteRow id

/-- `ok_or_else(|| AccountError::NotFound(..))` -/
def orNotFound (what : String) : Option Account → AccountProg Account
  | some account => .ret account
  | none => .fail (.notFound what)

/-- The program that goes on if the condition holds and fails with the error if it does not. -/
def ensure (ok : Bool) (e : AccountError) : AccountProg Unit := if ok then .ret () else .fail e

end AccountProg

open AccountProg

/-- `AccountService`, but for its storage and its notifications. -/
structure AccountService where
  hasher : PasswordHasher
  config : AccountsConfig

namespace AccountService

section Operations

variable (X : AccountExterns) (b : KeyBackend) (service : AccountService)

/-- `trim().to_lowercase()` -/
def normalizeEmail (email : String) : String :=
  X.toLowercase (String.ofList (Text.trim email.toList))

/-- The program that fails with a validation error unless the address has the form the service
accepts. -/
def checkEmail (email : String) : AccountProg Unit :=
  ensure (isValidEmail email) (.validation ("invalid email format: " ++ email))

/-- The hash of a new password; its error becomes `AccountError::Validation`. -/
def hashPassword (password : String) : AccountProg String := do
  let salt ← salt
  .ofExcept ((service.hasher.hash salt password).mapError fun e => .validation e.display)

/-- The hash of a password, if there is one. -/
def hashNewPassword : Option String → AccountProg (Option String)
  | none => .ret none
  | some password => do
    let hash ← service.hashPassword password
    .ret (some hash)

/-- The check for a duplicate username, which is made only if the service is configured to keep them
unique. -/
def checkUsername : Option String → AccountProg Unit
  | none => .ret ()
  | some username =>
    if service.config.uniqueUsernames then do
      let existing ← getByUsername username
      ensure existing.isNone (.alreadyExists ("username: " ++ username))
    else .ret ()

/-- The account that `create_account` makes of a request, before it is stored. -/
def newAccount (data : CreateAccount) (email : String) (passwordHash : Option String)
    (id : String) (now : DateTime) : Account :=
  let requireVerification :=
    data.requireEmailVerification.getD service.config.requireEmailVerification
  { id := id
    email := email
    username := data.username
    passwordHash := passwordHash
    status := if requireVerification then .pendingVerification else .active
    roles := data.roles
    emailVerified := !requireVerification
    emailVerifiedAt := if requireVerification then none else some now
    lastLoginAt := none
    lockedAt := none
    lockedReason := none
    disabledAt := none
    disabledReason := none
    expiresAt := data.expiresAt
    passwordChangedAt := data.password.map fun _ => now
    failedLoginCount := 0
    metadata := data.metadata
    createdAt := now
    updatedAt := now }

/-- `create_account` -/
def createAccount (data : CreateAccount) : AccountProg Account := do
  let email := normalizeEmail X data.email
  checkEmail email
  let existing ← getByEmail email
  ensure existing.isNone (.alreadyExists email)
  service.checkUsername data.username
  let passwordHash ← service.hashNewPassword data.password
  let now ← utcNow
  let id ← newId
  let account := service.newAccount data email passwordHash id now
  create account
  notify (.created account.id account.email)
  .ret account

/-- The automatic expiry of `get_account`.  Whether it is stored, nobody looks. -/
def expire (id : String) (account : Account) : AccountProg Account :=
  .call (.updateStatus id .expired none) fun _ => do
    notify (.expired id)
    .ret { account with status := .expired }

/-- The account that was read, expired if it is past its time. -/
def expireIfPast (id : String) (account : Account) : AccountProg Account :=
  if account.status = .expired then .ret account
  else
    match account.expiresAt with
    | none => .ret account
    | some expiresAt => do
      let now ← utcNow
      if expiresAt < now then expire id account else .ret account

/-- `get_account` -/
def getAccount (id : String) : AccountProg (Option Account) := do
  let account ← getById id
  match account with
  | none => .ret none
  | some account => do
    let account ← expireIfPast id account
    .ret (some account)

/-- `get_account_by_email` -/
def getAccountByEmail (email : String) : AccountProg (Option Account) := getByEmail email

/-- `require_account` -/
def requireAccount (id : String) : AccountProg Account := do
  let account ← getById id
  orNotFound id account

/-- The new address of `update_account`, which may be taken by the account itself. -/
def updatedEmail (account : Account) : Option String → AccountProg String
  | none => .ret account.email
  | some email => do
    let email := normalizeEmail X email
    checkEmail email
    let existing ← getByEmail email
    match existing with
    | some existing => ensure (existing.id = account.id) (.alreadyExists email)
    | none => .ret ()
    .ret email

/-- The announcement of new roles, which is sent if an update changes them. -/
def notifyRoles (id : String) (account : Account) : Option (List String) → AccountProg Unit
  | some roles => if account.roles ≠ roles then notify (.rolesUpdated id roles) else .ret ()
  | none => .ret ()

/-- The account that `update_account` writes: the row it has read, with the fields of the request.
-/
def updatedAccount (account : Account) (data : UpdateAccount) (email : String) (now : DateTime) :
    Account :=
  { account with
    email := email
    username := data.username.or account.username
    roles := data.roles.getD account.roles
    expiresAt := data.expiresAt.getD account.expiresAt
    metadata := data.metadata.or account.metadata
    updatedAt := now }

/-- `update_account` -/
def updateAccount (id : String) (data : UpdateAccount) : AccountProg Account := do
  let account ← requireAccount id
  let email ← updatedEmail X account data.email
  notifyRoles id account data.roles
  let now ← utcNow
  let account := updatedAccount account data email now
  update account
  notify (.profileUpdated id)
  .ret account

/-- `validate_transition` -/
def validateTransition (account : Account) (target : AccountStatus) : AccountProg Unit :=
  ensure (account.status.canTransitionTo target) (.invalidTransition account.status target)

/-- A change of status with the check of the transition. -/
def changeStatus (id : String) (target : AccountStatus) (reason : Option String)
    (event : AccountEvent) : AccountProg Unit := do
  let account ← requireAccount id
  validateTransition account target
  updateStatus id target reason
  notify event

/-- `disable_account` -/
def disableAccount (id reason : String) : AccountProg Unit :=
  changeStatus id .disabled (some reason) (.disabled id reason)

/-- `enable_account` -/
def enableAccount (id : String) : AccountProg Unit := changeStatus id .active none (.activated id)

/-- `lock_account` -/
def lockAccount (id reason : String) : AccountProg Unit :=
  changeStatus id .locked (some reason) (.locked id reason)

/-- `unlock_account` -/
def unlockAccount (id : String) : AccountProg Unit := changeStatus id .active none (.unlocked id)

/-- `suspend_account` -/
def suspendAccount (id reason : String) : AccountProg Unit :=
  changeStatus id .suspended (some reason) (.suspended id reason)

/-- The account that `verify_email` writes: the row it has read, with the address verified. -/
def verifiedAccount (account : Account) (verifiedAt updatedAt : DateTime) : Account :=
  { account with
    emailVerified := true
    emailVerifiedAt := some verifiedAt
    updatedAt := updatedAt
    status := if account.status = .pendingVerification then .active else account.status }

/-- `verify_email` -/
def verifyEmail (id : String) : AccountProg Unit := do
  let account ← requireAccount id
  if account.emailVerified then .ret ()
  else do
    let verifiedAt ← utcNow
    let updatedAt ← utcNow
    let account := verifiedAccount account verifiedAt updatedAt
    update account
    notify (.emailVerified id)
    if account.status = .active then notify (.activated id) else .ret ()

/-- The account that `change_password` writes: the row it has read, with another hash. -/
def passwordChanged (account : Account) (hash : String) (changedAt updatedAt : DateTime) :
    Account :=
  { account with
    passwordHash := some hash
    passwordChangedAt := some changedAt
    updatedAt := updatedAt }

/-- `change_password` -/
def changePassword (id newPassword : String) : AccountProg Unit := do
  let account ← requireAccount id
  let hash ← service.hashPassword newPassword
  let changedAt ← utcNow
  let updatedAt ← utcNow
  update (passwordChanged account hash changedAt updatedAt)
  notify (.passwordChanged id)

/-- `delete_account` -/
def deleteAccount (id : String) : AccountProg Unit := do
  let deleted ← delete b id
  ensure deleted (.notFound id)
  notify (.deleted id)

/-- `list_accounts` -/
def listAccounts (status : Option AccountStatus) (limit offset : UInt64) :
    AccountProg (List Account) :=
  .call (.list status limit offset) ofStorage

/-- `count_accounts` -/
def countAccounts (status : Option AccountStatus) : AccountProg ℕ :=
  .call (.count status) ofStorage

/-- Why an account that is not active is refused. -/
def inactiveReason (account : Account) : String :=
  match account.status with
  | .pendingVerification => "email not verified"
  | .disabled => account.disabledReason.getD "administratively disabled"
  | .locked => account.lockedReason.getD "account locked"
  | .expired => "account expired"
  | .suspended => "account suspended"
  | .active => "account not active"

/-- Everything `authenticate` checks of the account it finds. -/
def checkCredentials (account : Account) (password : String) : Except AccountError Unit :=
  if account.status = .active then
    match account.passwordHash with
    | none => .error .invalidCredentials
    | some hash =>
      match service.hasher.verify password hash with
      | .error e => .error (.storage e.display)
      | .ok false => .error .invalidCredentials
      | .ok true => .ok ()
  else .error (.accountInactive account.status (inactiveReason account))

/-- `authenticate`.  Whether the login is recorded, nobody looks. -/
def authenticate (email password : String) : AccountProg Account := do
  let email := normalizeEmail X email
  let found ← getByEmail email
  let account ← orNotFound email found
  .ofExcept (service.checkCredentials account password)
  .call (.recordLogin account.id) fun _ => .ret account

end Operations

/-! ### Operations with their arguments -/

end AccountService

/-- An operation of the account service, with its arguments. -/
inductive AccountOp
  | createAccount (data : CreateAccount)
  | getAccount (id : String)
  | getAccountByEmail (email : String)
  | updateAccount (id : String) (data : UpdateAccount)
  | disableAccount (id reason : String)
  | enableAccount (id : String)
  | lockAccount (id reason : String)
  | unlockAccount (id : String)
  | suspendAccount (id reason : String)
  | verifyEmail (id : String)
  | changePassword (id newPassword : String)
  | deleteAccount (id : String)
  | listAccounts (status : Option AccountStatus) (limit offset : UInt64)
  | countAccounts (status : Option AccountStatus)
  | authenticate (email password : String)

/-- The program of an operation, whose result is dropped: what counts in a run is what it does to
the store. -/
def AccountService.program (X : AccountExterns) (b : KeyBackend) (service : AccountService) :
    AccountOp → AccountProg Unit
  | .createAccount data => (service.createAccount X data).bind fun _ => .ret ()
  | .getAccount id => (getAccount id).bind fun _ => .ret ()
  | .getAccountByEmail email => (getAccountByEmail email).bind fun _ => .ret ()
  | .updateAccount id data => (updateAccount X id data).bind fun _ => .ret ()
  | .disableAccount id reason => disableAccount id reason
  | .enableAccount id => enableAccount id
  | .lockAccount id reason => lockAccount id reason
  | .unlockAccount id => unlockAccount id
  | .suspendAccount id reason => suspendAccount id reason
  | .verifyEmail id => verifyEmail id
  | .changePassword id newPassword => service.changePassword id newPassword
  | .deleteAccount id => deleteAccount b id
  | .listAccounts status limit offset => (listAccounts status limit offset).bind fun _ => .ret ()
  | .countAccounts status => (countAccounts status).bind fun _ => .ret ()
  | .authenticate email password => (service.authenticate X email password).bind fun _ => .ret ()

end ActonService
