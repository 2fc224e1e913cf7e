import TenantAuth.Service.Refresh

/-!
# Handlers

The handlers that an application mounts. Each reads the identity of its request through the context
only.
-/
namespace TenantAuth

/-- A handler. -/
inductive Handler where
  | ok
  | whoami
  | current
  | tenant
  | maybe
  | correlated
  | counted
  | refresh
  deriving DecidableEq

namespace Handler

/-- The members that tell who a principal is. -/
def identityMembers (p : Principal) (tenant : String) : List (String × Json) :=
  [("email", .str p.email), ("roles", Principal.textsJson p.roles.toList),
    ("tenant_id", .str tenant), ("user_id", .str p.userId)]

/-- A principal with its members in the order of their names. -/
def identityJson (p : Principal) : Json := .obj (identityMembers p p.tenantId)

/-- The answer of a handler, or its rejection. -/
def answerOf (r : Except Rejection Response) : Response :=
  match r with
  | .ok answer => answer
  | .error rejection => rejection.toResponse

/-- Answers a request. -/
def run (env : Env) (h : Handler) (r : Request) : StateM World Response := do
  let c := r.context
  match h with
  | .ok => return .plain "ok"
  | .whoami => return answerOf do
      let p ← c.currentPrincipal
      let tenant ← c.tenantScope
      return .json 200 (Json.obj (identityMembers p tenant)).text
  | .current => return answerOf do
      let p ← c.currentPrincipal
      return (ApiResponse.ok p).toResponse identityJson
  | .tenant => return answerOf do
      let tenant ← c.tenantScope
      return .json 200 (Json.obj [("tenant", .str tenant)]).text
  | .maybe =>
    let p := match c.principal with
      | some p => identityJson p
      | none => .null
    return .json 200 (Json.obj [("principal", p)]).text
  | .correlated =>
    return ((ApiResponse.created "made").withCorrelationId c.correlationId).toResponse .str
  | .counted =>
    let w ← get
    set { w with hits := w.hits + 1 }
    let tenant := match c.tenantId with
      | some t => Json.str t
      | none => .null
    return .json 200 (Json.obj
      [("attached", .bool c.principal.isSome), ("hits", .int (w.hits + 1)),
        ("roles", Principal.textsJson c.roles.toList), ("tenant", tenant)]).text
  | .refresh => return Refresh.handle env r

/-- The methods that a handler is for: certain ones, or any that no other handler is for. -/
inductive Methods where
  | any
  | get
  | post
  deriving DecidableEq

/-- The methods that each handler is for. -/
def methods : Handler → Methods
  | .maybe => .any
  | .correlated | .refresh => .post
  | _ => .get

/-- The methods by name; a handler that is for `GET` serves `HEAD` too. -/
def Methods.names : Methods → List String
  | .any => []
  | .get => ["GET", "HEAD"]
  | .post => ["POST"]

end Handler

end TenantAuth
