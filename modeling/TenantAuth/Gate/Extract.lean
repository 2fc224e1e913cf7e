import TenantAuth.Gate.Context
import TenantAuth.Envelope.AppError

/-!
# Extractors

What a handler may ask of the context of its request. Each either gives a value or rejects the
request, tagged with its correlation id.
-/
namespace TenantAuth.Context

/-- The rejection of the request. -/
def reject (c : Context) (e : AuthError) : Rejection :=
  (AppError.ofAuthError e).tagged c.correlationId

/-- The principal of a request that has to have one. -/
def currentPrincipal (c : Context) : Except Rejection Principal :=
  match c.principal with
  | some p => .ok p
  | none => .error (c.reject (.missingCredential .absent))

/-- The tenant of a request that has to have one. -/
def tenantScope (c : Context) : Except Rejection String :=
  match c.tenantId with
  | some t => .ok t
  | none => .error (c.reject .missingTenant)

end TenantAuth.Context
