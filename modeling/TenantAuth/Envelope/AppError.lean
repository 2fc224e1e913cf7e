import TenantAuth.Envelope.ErrorEnvelope
import TenantAuth.Identity.AuthError

/-!
# Application errors

Failures of a request, each with its code. The detail of an internal error stays inside: its
envelope says the same whatever went wrong.
-/
namespace TenantAuth

/-- A failure of a request. -/
inductive AppError where
  | badRequest (reason : String)
  | unauthorized (reason : String)
  | forbidden (reason : String)
  | notFound (reason : String)
  | conflict (reason : String)
  | internal (detail : String)
  deriving DecidableEq

/-- A failure with the correlation id of the request it ended. -/
structure Rejection where
  error : AppError
  correlationId : Option String
  deriving DecidableEq

namespace AppError

/-- The words for a failure. -/
def message : AppError → String
  | .badRequest reason => s!"Bad request: {reason}"
  | .unauthorized reason => s!"Unauthorized: {reason}"
  | .forbidden reason => s!"Forbidden: {reason}"
  | .notFound reason => s!"Not found: {reason}"
  | .conflict reason => s!"Conflict: {reason}"
  | .internal _ => "Internal server error"

/-- The code of a failure. -/
def code : AppError → ErrorCode
  | .badRequest _ => .badRequest
  | .unauthorized _ => .unauthorized
  | .forbidden _ => .forbidden
  | .notFound _ => .notFound
  | .conflict _ => .conflict
  | .internal _ => .internalError

/-- What the envelope says. -/
def publicMessage : AppError → String
  | .badRequest reason | .unauthorized reason | .forbidden reason | .notFound reason
  | .conflict reason => reason
  | .internal _ => "Internal server error"

/-- The envelope of a failure. -/
def toEnvelope (e : AppError) (correlationId : Option String) : ErrorEnvelope :=
  .failure e.code e.publicMessage correlationId

/-- The answer to a request that failed before it had a correlation id. -/
def toResponse (e : AppError) : Response := (e.toEnvelope none).toResponse

/-- The failure of a request with the given correlation id. -/
def tagged (e : AppError) (correlationId : Option String) : Rejection := ⟨e, correlationId⟩

/-- The failure of a request whose authentication failed. -/
def ofAuthError (e : AuthError) : AppError :=
  match e with
  | .invalidToken | .expiredToken | .missingCredential _ => .unauthorized e.message
  | .missingTenant => .badRequest e.message
  | .permissionDenied => .forbidden e.message
  | .signing detail => .internal detail
  | .internal detail => .internal detail

end AppError

/-- The answer to a request that failed. -/
def Rejection.toResponse (r : Rejection) : Response :=
  (r.error.toEnvelope r.correlationId).toResponse

end TenantAuth
