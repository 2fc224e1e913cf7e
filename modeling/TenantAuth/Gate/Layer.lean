import TenantAuth.Gate.Bearer
import TenantAuth.Gate.RoleGate
import TenantAuth.Gate.Correlation
import TenantAuth.Gate.Extract

/-!
# Layers

The gates that stand around a service. On the way in, `Layer.enter` rejects a request or passes it
on with more in its context; on the way out, `Layer.leave` may add to the answer. `Layer.wrapAll`
puts a stack of layers around a service, the first one outermost.
-/
namespace TenantAuth

/-- A request on its way to a handler. -/
structure Request where
  method : String
  target : String
  headers : Headers
  body : Bytes
  context : Context

/-- What changes while requests are served: the correlation ids made, and the calls counted. -/
structure World where
  minted : Nat
  hits : Nat

/-- What the layers and handlers share: the tokens, the time, and a supply of fresh ids. -/
structure Env where
  tokens : TokenManager
  now : Instant
  fresh : Nat → String

/-- Something that answers requests. -/
abbrev Service := Request → StateM World Response

/-- A gate around a service. -/
inductive Layer where
  | requireAuth
  | optionalAuth
  | requireTenant
  | correlationId
  | requireRoles (gate : RoleGate)
  deriving DecidableEq

namespace Layer

/-- The tenant that a request names in its first `X-Tenant-ID` field. -/
def tenantField (h : Headers) : Option String := do
  let value ← h.first? "x-tenant-id"
  let tenant := Text.trim (← Headers.visibleText? value)
  if tenant.isEmpty then none else some tenant

/-- The id for a request: the one it brings, or else a fresh one. -/
def chooseId (env : Env) (h : Headers) : StateM World String := do
  match Correlation.inbound h with
  | some id => return id
  | none =>
    let w ← get
    set { w with minted := w.minted + 1 }
    return env.fresh w.minted

/-- The way in: a rejection, or the request with what the layer found out. -/
def enter (env : Env) (layer : Layer) (r : Request) : StateM World (Except Rejection Request) := do
  match layer with
  | .requireAuth =>
    match Bearer.authenticate env.tokens env.now r.headers with
    | .ok p => return .ok { r with context := (r.context.attach p).1 }
    | .error e => return .error (r.context.reject e)
  | .optionalAuth =>
    match Bearer.authenticate env.tokens env.now r.headers with
    | .ok p => return .ok { r with context := (r.context.attach p).1 }
    | .error _ => return .ok r
  | .requireTenant =>
    match r.context.tenantId with
    | some _ => return .ok r
    | none =>
      match tenantField r.headers with
      | some tenant => return .ok { r with context := (r.context.scopeTenant tenant).1 }
      | none => return .error (r.context.reject .missingTenant)
  | .correlationId =>
    let id ← chooseId env r.headers
    return .ok { r with context := r.context.withCorrelationId id }
  | .requireRoles gate =>
    if gate.permits r.context.principal then return .ok r
    else return .error (r.context.reject .permissionDenied)

/-- The way out: the answer to the request that the layer passed on. An id that cannot stand in a
field is not named. -/
def leave (layer : Layer) (r : Request) (answer : Response) : Response :=
  match layer, r.context.correlationId with
  | .correlationId, some id =>
    if Headers.isValue (Text.bytes id) then
      answer.setHeader Correlation.fieldName (Text.bytes id)
    else answer
  | _, _ => answer

/-- The service with a layer around it. -/
def wrap (env : Env) (layer : Layer) (service : Service) : Service := fun r => do
  match ← layer.enter env r with
  | .error rejection => return rejection.toResponse
  | .ok r => return layer.leave r (← service r)

/-- The service with a stack of layers around it, the first one outermost. -/
def wrapAll (env : Env) (layers : List Layer) (service : Service) : Service :=
  layers.foldr (wrap env) service

end Layer

end TenantAuth
