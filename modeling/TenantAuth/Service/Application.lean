import TenantAuth.Service.Handler
import TenantAuth.Service.PathPattern
import TenantAuth.Http.Target

/-!
# Applications

Routes with layers around each, and perhaps a correlation layer around all. The routes at one path
make up its table of methods; a method that none of them is for is answered inside the layers of the
last of them. A path that no route has is answered inside the layers of the route that was added
last.
-/
namespace TenantAuth

/-- A handler at the paths of a pattern, with the layers around it, the first one outermost. -/
structure Route where
  path : String
  handler : Handler
  layers : List Layer

/-- Routes, and whether the correlation layer stands around all of them. -/
structure Application where
  routes : List Route
  correlated : Bool

/-- The path of the token exchange. -/
def refreshPath : String := "/auth/refresh"

/-- The route of the token exchange. -/
def authRoute : Route := ⟨refreshPath, .refresh, []⟩

namespace Route

/-- The route is for the path. -/
def fits (route : Route) (path : String) : Bool :=
  (PathPattern.ofText route.path).fits (Text.bytes path)

/-- The more specific of two routes, the first one if neither is. -/
def best (a b : Route) : Route :=
  if (PathPattern.ofText b.path).moreSpecific (PathPattern.ofText a.path) then b else a

/-- The handler of the route inside its layers. -/
def service (env : Env) (route : Route) : Service :=
  Layer.wrapAll env route.layers (route.handler.run env)

/-- The layers of the last route around an empty answer. -/
def refusal (env : Env) (routes : List Route) (status : Nat) : Service :=
  let layers := match routes.getLast? with
    | some route => route.layers
    | none => []
  Layer.wrapAll env layers fun _ => return .empty status

end Route

namespace Application

/-- The routes at the most specific pattern that the path fits. -/
def routesAt (app : Application) (path : String) : List Route :=
  match app.routes.filter (·.fits path) with
  | [] => []
  | route :: others =>
    let best := others.foldl Route.best route
    app.routes.filter (·.path = best.path)

/-- The answer without a body, as the method demands it. -/
def trimmed (method : String) (answer : Response) : Response :=
  if method = "HEAD" || (method = "CONNECT" && answer.isSuccess) then { answer with body := [] }
  else answer

/-- Answers a request by the routes at its path. -/
def answer (env : Env) (routes : List Route) : Service := fun r => do
  let named := routes.find? fun route => r.method ∈ route.handler.methods.names
  match named <|> routes.find? fun route => route.handler.methods = .any with
  | some route => return trimmed r.method (← route.service env r)
  | none =>
    let answer ← Route.refusal env routes 405 r
    let allowed := ",".intercalate (routes.flatMap (·.handler.methods.names))
    return trimmed r.method (answer.setDefaultHeader "allow" (Text.bytes allowed))

/-- Answers a request for a path that no route has. A body that a layer puts there stays, whatever
the method, unless the target is no path at all. -/
def notFound (env : Env) (app : Application) : Service := fun r => do
  let answer ← Route.refusal env app.routes 404 r
  return if (Target.path r.target).startsWith "/" then answer else trimmed r.method answer

/-- Answers a request by its path. -/
def dispatch (env : Env) (app : Application) : Service := fun r =>
  match app.routesAt (Target.path r.target) with
  | [] => app.notFound env r
  | routes => answer env routes r

/-- Answers a request. -/
def serve (env : Env) (app : Application) : Service :=
  if app.correlated then Layer.wrap env .correlationId (app.dispatch env) else app.dispatch env

end Application

end TenantAuth
