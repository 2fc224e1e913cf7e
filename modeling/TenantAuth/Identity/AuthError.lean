/-!
# Authentication errors

Why an operation on an identity is refused. A token that is forged and one that has expired read
the same to the caller.
-/
namespace TenantAuth

/-- What is wrong with the credential of a request. -/
inductive CredentialDefect where
  | absent
  | malformed
  deriving DecidableEq

/-- The words for a defect. -/
def CredentialDefect.message : CredentialDefect → String
  | .absent => "Authorization header required"
  | .malformed => "Invalid authorization header format"

/-- Why an operation is refused. -/
inductive AuthError where
  | invalidToken
  | expiredToken
  | missingCredential (defect : CredentialDefect)
  | missingTenant
  | permissionDenied
  | signing (detail : String)
  | internal (detail : String)
  deriving DecidableEq

namespace AuthError

/-- The words for an error. -/
def message : AuthError → String
  | .invalidToken => "Invalid or expired token"
  | .expiredToken => "Invalid or expired token"
  | .missingCredential defect => defect.message
  | .missingTenant => "Tenant ID required"
  | .permissionDenied => "Insufficient permissions"
  | .signing detail => s!"Token signing error: {detail}"
  | .internal detail => s!"Internal error: {detail}"

/-- The request carries no identity that could be verified. -/
def isUnauthenticated : AuthError → Bool
  | .invalidToken | .expiredToken | .missingCredential _ => true
  | _ => false

end AuthError

end TenantAuth
