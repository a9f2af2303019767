import ActonService.Auth.KeyStore
import ActonService.Lib.Text
import ActonService.Middleware.Http

/-!
# Accounts

The types of `accounts/types.rs`, `accounts/config.rs`, `accounts/error.rs` and
`accounts/notification.rs`, with the checks the account service makes on them.  An identifier of
an account is its text.

Argon2 is third-party.  The Unicode table behind `str::to_lowercase` is a parameter as well.

## Main definitions

* `AccountStatus`, `AccountStatus.canTransitionTo` — the states of an account, and the moves
  between them.
* `Account`, `CreateAccount`, `UpdateAccount` — an account, and the requests about one.
* `AccountError`, `AccountEvent` — what the service answers and announces.
* `PasswordHasher`, `isValidEmail` — the checks.

## Main results

* `AccountStatus.fromStr_display` — the text of a state parses back.
* `stringsOfJson_stringsJson` — roles are read back from their JSON.
-/

namespace ActonService

/-! ### States -/

/-- `AccountStatus` -/
inductive AccountStatus
  | pendingVerification
  | active
  | disabled
  | locked
  | expired
  | suspended
  deriving DecidableEq, Repr

namespace AccountStatus

/-- `can_transition_to` -/
def canTransitionTo : AccountStatus → AccountStatus → Bool
  | .pendingVerification, .active => true
  | .pendingVerification, .disabled => true
  | .pendingVerification, .expired => true
  | .active, .disabled => true
  | .active, .locked => true
  | .active, .expired => true
  | .active, .suspended => true
  | .disabled, .active => true
  | .locked, .active => true
  | .locked, .disabled => true
  | .expired, .active => true
  | .expired, .disabled => true
  | .suspended, .active => true
  | .suspended, .disabled => true
  | _, _ => false

def display : AccountStatus → String
  | .pendingVerification => "pending_verification"
  | .active => "active"
  | .disabled => "disabled"
  | .locked => "locked"
  | .expired => "expired"
  | .suspended => "suspended"

/-- `from_str`, or the text of its error. -/
def fromStr (s : String) : Except String AccountStatus :=
  if s = "pending_verification" then .ok .pendingVerification
  else if s = "active" then .ok .active
  else if s = "disabled" then .ok .disabled
  else if s = "locked" then .ok .locked
  else if s = "expired" then .ok .expired
  else if s = "suspended" then .ok .suspended
  else .error ("unknown account status: " ++ s)

theorem fromStr_display (status : AccountStatus) : fromStr status.display = .ok status := by
  cases status <;> rfl

/-- A state from which an account does not expire. -/
def isStopped : AccountStatus → Bool
  | .disabled | .locked | .suspended => true
  | _ => false

/-- An account expires from the states in which it is not stopped. -/
theorem canTransitionTo_expired {status : AccountStatus} (h : status ≠ .expired) :
    status.canTransitionTo .expired = true ↔ status.isStopped = false := by
  cases status <;> simp_all [canTransitionTo, isStopped]

end AccountStatus

/-! ### Accounts -/

/-- `Account` -/
structure Account where
  id : String
  email : String
  username : Option String
  passwordHash : Option String
  status : AccountStatus
  roles : List String
  emailVerified : Bool
  emailVerifiedAt : Option DateTime
  lastLoginAt : Option DateTime
  lockedAt : Option DateTime
  lockedReason : Option String
  disabledAt : Option DateTime
  disabledReason : Option String
  expiresAt : Option DateTime
  passwordChangedAt : Option DateTime
  failedLoginCount : UInt32
  metadata : Option Json
  createdAt : DateTime
  updatedAt : DateTime

/-- `CreateAccount` -/
structure CreateAccount where
  email : String
  username : Option String
  password : Option String
  roles : List String
  expiresAt : Option DateTime
  metadata : Option Json
  requireEmailVerification : Option Bool

/-- `UpdateAccount` -/
structure UpdateAccount where
  email : Option String
  username : Option String
  roles : Option (List String)
  /-- The new expiry, if there is one in the request: the inner absence clears it. -/
  expiresAt : Option (Option DateTime)
  metadata : Option Json

/-- `AccountsConfig`, as far as the service reads it. -/
structure AccountsConfig where
  requireEmailVerification : Bool
  uniqueUsernames : Bool
  deriving DecidableEq, Repr

/-- `AccountsConfig::default` -/
def AccountsConfig.standard : AccountsConfig := ⟨true, false⟩

/-- `AccountError`, but for `InvalidId`, which the service does not return. -/
inductive AccountError
  | notFound (what : String)
  | alreadyExists (what : String)
  | invalidTransition (source target : AccountStatus)
  | invalidCredentials
  | accountInactive (status : AccountStatus) (reason : String)
  | validation (message : String)
  | storage (message : String)
  deriving DecidableEq, Repr

def AccountError.display : AccountError → String
  | .notFound what => "account not found: " ++ what
  | .alreadyExists what => "account already exists with email: " ++ what
  | .invalidTransition source target =>
    "invalid status transition from " ++ source.display ++ " to " ++ target.display
  | .invalidCredentials => "invalid credentials"
  | .accountInactive status reason => "account is " ++ status.display ++ ": " ++ reason
  | .validation message => "validation error: " ++ message
  | .storage message => "storage error: " ++ message

/-- `AccountEvent` -/
inductive AccountEvent
  | created (accountId email : String)
  | activated (accountId : String)
  | disabled (accountId reason : String)
  | locked (accountId reason : String)
  | unlocked (accountId : String)
  | suspended (accountId reason : String)
  | expired (accountId : String)
  | deleted (accountId : String)
  | emailVerified (accountId : String)
  | passwordChanged (accountId : String)
  | rolesUpdated (accountId : String) (roles : List String)
  | profileUpdated (accountId : String)
  deriving DecidableEq, Repr

/-! ### Roles as JSON -/

/-- The JSON of a `Vec<String>`, which is an array of strings. -/
def stringsJson (strings : List String) : Json := .array (strings.map .string)

/-- The `String` of a JSON value, where it is a string. -/
def stringOfJson : Json → Option String
  | .string s => some s
  | _ => none

/-- The `Vec<String>` of a JSON value, where it is an array of strings. -/
def stringsOfJson : Json → Option (List String)
  | .array items => items.mapM stringOfJson
  | _ => none

theorem stringsOfJson_stringsJson (strings : List String) :
    stringsOfJson (stringsJson strings) = some strings := by
  show (strings.map Json.string).mapM stringOfJson = some strings
  induction strings with
  | nil => rfl
  | cons s strings ih =>
    rw [List.map_cons, List.mapM_cons, ih]
    rfl

/-! ### Checks -/

/-- `is_valid_email` -/
def isValidEmail (email : String) : Bool :=
  match email.toList.splitOn '@' with
  | [user, domain] => !user.isEmpty && !domain.isEmpty && domain.contains '.'
  | _ => false

example : (["user@example.com", "user@", "@example.com", "a@b@c.d", "user@example", ""].map
    isValidEmail) = [true, false, false, false, false, false] := by
  decide

/-- What `verify_password` of Argon2 comes to: the password is the one of the hash, or another one,
or the hash cannot be read. -/
inductive Argon2Verdict
  | same
  | other
  /-- `PasswordHash::new` fails. -/
  | invalidHash (e : String)
  | failed (e : String)

/-- `PasswordHasher`, with Argon2 at its parameters. -/
structure PasswordHasher where
  minPasswordLength : ℕ
  /-- `hash_password` with a salt, or the text of its error. -/
  hashPassword : String → String → Except String String
  /-- The verdict of Argon2 on a password against a hash. -/
  verifyPassword : String → String → Argon2Verdict

/-- `hash`, with the salt it draws. -/
def PasswordHasher.hash (hasher : PasswordHasher) (salt password : String) :
    Except ServiceError String :=
  if password.utf8ByteSize < hasher.minPasswordLength then
    .error (.validationError ("Password must be at least " ++ Nat.repr hasher.minPasswordLength
      ++ " characters"))
  else (hasher.hashPassword salt password).mapError fun e =>
    .auth ("Failed to hash password: " ++ e)

/-- `verify` -/
def PasswordHasher.verify (hasher : PasswordHasher) (password hash : String) :
    Except ServiceError Bool :=
  match hasher.verifyPassword password hash with
  | .same => .ok true
  | .other => .ok false
  | .invalidHash e => .error (.auth ("Invalid password hash format: " ++ e))
  | .failed e => .error (.auth ("Password verification failed: " ++ e))

end ActonService
