import TenantAuth.Identity.Principal

/-!
# Request context

What the gates have found out about a request. The principal is written once; a tenant can be added
to it only while none is known, and gives way to the tenant of a principal that comes later.
-/
namespace TenantAuth

/-- What is known about a request: its principal, a tenant from elsewhere, and its id. -/
structure Context where
  principal : Option Principal
  scopedTenant : Option String
  correlationId : Option String
  deriving DecidableEq

namespace Context

/-- Nothing is known. -/
def empty : Context := ⟨none, none, none⟩

/-- Attaches a principal; refused (`false`) if there is one already. -/
def attach (c : Context) (p : Principal) : Context × Bool :=
  match c.principal with
  | some _ => (c, false)
  | none => ({ c with principal := some p }, true)

/-- The roles of the principal, none without one. -/
def roles (c : Context) : RoleSet :=
  match c.principal with
  | some p => p.roles
  | none => .empty

/-- The principal has one of the required roles. -/
def hasAnyRole (c : Context) (required : List String) : Bool := c.roles.hasAny required

/-- The principal has all of the required roles. -/
def hasAllRoles (c : Context) (required : List String) : Bool := c.roles.hasAll required

/-- The tenant of the request: the principal's, or else the one that was added. -/
def tenantId (c : Context) : Option String :=
  (c.principal.bind Principal.tenant?).or c.scopedTenant

/-- Adds a tenant; refused (`false`) if one is known already. -/
def scopeTenant (c : Context) (tenant : String) : Context × Bool :=
  match c.tenantId with
  | some _ => (c, false)
  | none => ({ c with scopedTenant := some tenant }, true)

/-- Sets the correlation id. -/
def withCorrelationId (c : Context) (id : String) : Context := { c with correlationId := some id }

end Context

end TenantAuth
