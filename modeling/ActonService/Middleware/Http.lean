import ActonService.Auth.KeyStore
import ActonService.Auth.Paseto
import ActonService.Lib.Layers
import ActonService.Lib.Text

/-!
# Requests and responses

The types of the `http` crate that the layers of a service read and write, and `Error` of
`error.rs` with the responses it turns into.  Of a response only the status and an error body are
kept: no layer reads anything else.

## Main definitions

* `Method`, `HeaderMap`, `headerString` — methods and headers.
* `Response`, `ServiceError`, `ServiceError.intoResponse` — responses and errors.
-/

namespace ActonService

/-! ### Methods and headers -/

/-- `http::Method` -/
inductive Method
  | options
  | get
  | post
  | put
  | delete
  | head
  | trace
  | connect
  | patch
  | extension (name : String)
  deriving DecidableEq, Repr

/-- `as_str` -/
def Method.asStr : Method → String
  | .options => "OPTIONS"
  | .get => "GET"
  | .post => "POST"
  | .put => "PUT"
  | .delete => "DELETE"
  | .head => "HEAD"
  | .trace => "TRACE"
  | .connect => "CONNECT"
  | .patch => "PATCH"
  | .extension name => name

/-- `http::HeaderValue` -/
abbrev HeaderValue := List UInt8

/-- A byte that `to_str` accepts: visible ASCII, a space or a tab. -/
def isVisibleAscii (b : UInt8) : Bool := (decide (32 ≤ b) && decide (b < 127)) || b == 9

/-- `to_str`, without its error. -/
def HeaderValue.toStr (value : HeaderValue) : Option String :=
  if value.all isVisibleAscii then some (String.ofList (value.map fun b => Char.ofNat b.toNat))
  else none

/-- `http::HeaderMap`: the headers under their names in lower case, in order. -/
abbrev HeaderMap := List (String × HeaderValue)

/-- `get`: the first value under a name. -/
def HeaderMap.get (headers : HeaderMap) (name : String) : Option HeaderValue := headers.lookup name

/-- `header_string` -/
def headerString (headers : HeaderMap) (name : String) : Option String :=
  (headers.get name).bind HeaderValue.toStr

/-! ### Responses -/

/-- `ErrorResponse` -/
structure ErrorResponse where
  error : String
  code : Option String
  status : UInt16
  deriving DecidableEq, Repr

/-- A response, as far as the layers look at it. -/
structure Response where
  status : UInt16
  /-- The body, if a layer of the framework made it. -/
  error : Option ErrorResponse
  deriving DecidableEq, Repr

/-- A response with `ErrorResponse::with_code`. -/
def Response.withCode (status : UInt16) (code error : String) : Response :=
  ⟨status, some ⟨error, some code, status⟩⟩

/-- `Error`, as far as the layers and the account service return it. -/
inductive ServiceError
  | config (message : String)
  | redis (message : String)
  | paseto (message : String)
  | auth (message : String)
  | jwt (message : String)
  | unauthorized (message : String)
  | forbidden (message : String)
  | conflict (message : String)
  | rateLimitExceeded
  | validationError (message : String)
  | internal (message : String)
  deriving DecidableEq, Repr

def ServiceError.display : ServiceError → String
  | .config message => "Configuration error: " ++ message
  | .redis message => "Redis error: " ++ message
  | .paseto message => "PASETO error: " ++ message
  | .auth message => "Auth error: " ++ message
  | .jwt message => "JWT error: " ++ message
  | .unauthorized message => "Authentication failed: " ++ message
  | .forbidden message => "Forbidden: " ++ message
  | .conflict message => "Conflict: " ++ message
  | .rateLimitExceeded => "Rate limit exceeded"
  | .validationError message => "Validation error: " ++ message
  | .internal message => "Internal server error: " ++ message

/-- `into_response` -/
def ServiceError.intoResponse : ServiceError → Response
  | .config message => .withCode 500 "CONFIG_ERROR" message
  | .redis _ => .withCode 500 "CACHE_ERROR" "Cache operation failed"
  | .paseto message => .withCode 401 "INVALID_TOKEN" message
  | .auth message => .withCode 401 "AUTH_ERROR" message
  | .jwt message => .withCode 401 "INVALID_TOKEN" message
  | .unauthorized message => .withCode 401 "UNAUTHORIZED" message
  | .forbidden message => .withCode 403 "FORBIDDEN" message
  | .conflict message => .withCode 409 "CONFLICT" message
  | .rateLimitExceeded => .withCode 429 "RATE_LIMIT_EXCEEDED" "Too many requests"
  | .validationError message => .withCode 422 "VALIDATION_ERROR" message
  | .internal _ => .withCode 500 "INTERNAL_ERROR" "Internal server error"

/-- The errors of the key store. -/
def KeyError.toServiceError : KeyError → ServiceError
  | .internal message => .internal message
  | .conflict message => .conflict message

/-- The errors of PASETO tokens. -/
def PasetoError.toServiceError : PasetoError → ServiceError
  | .paseto message => .paseto message
  | .internal message => .internal message
  | .key e => e.toServiceError

end ActonService
