import TenantAuth.Identity.Principal

/-!
# Role gates

A gate that lets a principal through who has one, or all, of the required roles.
-/
namespace TenantAuth

/-- How many of the required roles a principal has to have. -/
inductive RoleMatch where
  | any
  | all
  deriving DecidableEq

/-- The required roles, and how many of them it takes. -/
structure RoleGate where
  mode : RoleMatch
  roles : RoleSet
  deriving DecidableEq

namespace RoleGate

/-- The gate that one of the roles opens. -/
def anyOf (roles : List String) : RoleGate := ⟨.any, RoleSet.ofList roles⟩

/-- The gate that takes all of the roles. -/
def allOf (roles : List String) : RoleGate := ⟨.all, RoleSet.ofList roles⟩

/-- The gate lets the principal through; nobody passes anonymously. -/
def permits (g : RoleGate) : Option Principal → Bool
  | none => false
  | some p =>
    match g.mode with
    | .any => p.hasAnyRole g.roles.toList
    | .all => p.hasAllRoles g.roles.toList

end RoleGate

end TenantAuth
