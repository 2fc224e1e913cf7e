import TenantAuth.Identity.RoleSet
import TenantAuth.Json.Record
import TenantAuth.Json.Write

/-!
# Principals

The authenticated identity that one request is made for.
-/
namespace TenantAuth

/-- Who a request is made for, within which tenant, and with which roles. -/
structure Principal where
  userId : String
  tenantId : String
  email : String
  roles : RoleSet
  deriving DecidableEq

namespace Principal

/-- The principal has one of the required roles. -/
def hasAnyRole (p : Principal) (required : List String) : Bool := p.roles.hasAny required

/-- The principal has all of the required roles. -/
def hasAllRoles (p : Principal) (required : List String) : Bool := p.roles.hasAll required

/-- The principal's tenant, if it names one. -/
def tenant? (p : Principal) : Option String :=
  if p.tenantId.isEmpty then none else some p.tenantId

/-- A list of texts as a value. -/
def textsJson (texts : List String) : Json := .arr (texts.map Json.str)

/-- The principal as a record. -/
def toJson (p : Principal) : Json :=
  .obj [("user_id", .str p.userId), ("tenant_id", .str p.tenantId), ("email", .str p.email),
    ("roles", textsJson p.roles.toList)]

end Principal

namespace RoleSet

open Json.Reader in
/-- Reads a set from a list of names. -/
def reader : Json.Reader RoleSet := do return ofList (← list string)

/-- A set as the list of its members. -/
def toJson (roles : RoleSet) : Json := Principal.textsJson roles.toList

end RoleSet

end TenantAuth
