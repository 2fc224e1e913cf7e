import TenantAuth.Proofs.Gate.Nested
import TenantAuth.Proofs.Service.Correlation

/-!
# Applications with correlation layers inside one another

An application answers a request inside a stack of layers (`Application.stack`): its own correlation
layer, if it has one, and the layers of the route in question. Once that is said, what the answer
names and what its body tells are what they are for the stack.
-/
namespace TenantAuth

open Correlation (fieldName)
open Json.Reader (whole)
open Layer (wrapAll wrap enterAll Reaches depth told chosen)

variable {env : Env} {app : Application} {layers : List Layer} {r : Request} {w : World}
  {id? : Option String}

/-! ## Answers that are finished -/

/-- The answer is what a service has said, but for fields other than the id, and perhaps without its
body. -/
structure Finishes (said answer : Response) : Prop where
  status : answer.status = said.status
  field : answer.headers.filter (·.1 = fieldName) = said.headers.filter (·.1 = fieldName)
  body : answer.body = said.body ∨ answer.body = []

namespace Finishes

variable {said answer : Response}

theorem refl (said : Response) : Finishes said said := ⟨rfl, rfl, .inl rfl⟩

/-- Leaving out the body does not unfinish an answer. -/
theorem trimmed (h : Finishes said answer) (method : String) :
    Finishes said (Application.trimmed method answer) := by
  unfold Application.trimmed
  split
  · exact ⟨h.status, h.field, .inr rfl⟩
  · exact h

/-- Neither does the field that lists the methods. -/
theorem allowing (h : Finishes said answer) (methods : Bytes) :
    Finishes said (answer.setDefaultHeader "allow" methods) := by
  refine ⟨?_, ?_, ?_⟩
  · rw [Response.status_setDefaultHeader, h.status]
  · rw [← h.field]
    unfold Response.setDefaultHeader
    split
    · rfl
    · exact Headers.filter_set_of_ne (by decide) _ _
  · rw [Response.body_setDefaultHeader]
    exact h.body

/-- A correlation layer puts its id into what is said, finished or not. -/
theorem leave (h : Finishes said answer) (r : Request) :
    Finishes (Layer.leave .correlationId r said) (Layer.leave .correlationId r answer) := by
  refine ⟨?_, ?_, ?_⟩
  · rw [Layer.status_leave, Layer.status_leave, h.status]
  · unfold Layer.leave
    -- the layer sets the field on both answers, or on neither
    cases r.context.correlationId with
    | none => exact h.field
    | some id =>
      dsimp only
      split
      · exact (Headers.filter_set _ _ _).trans (Headers.filter_set _ _ _).symm
      · exact h.field
  · rw [Layer.body_leave, Layer.body_leave]
    exact h.body

end Finishes

/-! ## The stack of an application -/

namespace Application

/-- The one of the routes at a path that answers a request. -/
def routeFor (routes : List Route) (r : Request) : Option Route :=
  (routes.find? fun route => r.method ∈ route.handler.methods.names) <|>
    routes.find? fun route => route.handler.methods = .any

/-- The route that answers a request, if there is one for its path and its method. -/
def routed (app : Application) (r : Request) : Option Route :=
  routeFor (app.routesAt (Target.path r.target)) r

/-- The layers of the last of some routes. -/
def lastLayers (routes : List Route) : List Layer :=
  match routes.getLast? with
  | some route => route.layers
  | none => []

/-- The layers that a request finds behind the correlation layer of the application: those of the
route that answers it, or else of the last one for its path, or of all. -/
def inner (app : Application) (r : Request) : List Layer :=
  match app.routed r, app.routesAt (Target.path r.target) with
  | some route, _ => route.layers
  | none, [] => lastLayers app.routes
  | none, routes => lastLayers routes

/-- What stands behind these layers. -/
def behind (env : Env) (app : Application) (r : Request) : Service :=
  match app.routed r, app.routesAt (Target.path r.target) with
  | some route, _ => route.handler.run env
  | none, [] => fun _ => return .empty 404
  | none, _ => fun _ => return .empty 405

/-- The layers around the answer to a request, the first one outermost. -/
def stack (app : Application) (r : Request) : List Layer :=
  if app.correlated then .correlationId :: app.inner r else app.inner r

/-- What is dispatched is what the layers of the route say. -/
theorem finishes_dispatch (env : Env) (app : Application) (r : Request) (w : World) :
    Finishes (wrapAll env (app.inner r) (app.behind env r) r w).1 (app.dispatch env r w).1 := by
  unfold dispatch inner behind routed
  cases app.routesAt (Target.path r.target) with
  | nil =>
    show Finishes (Route.refusal env app.routes 404 r w).1
      (if (Target.path r.target).startsWith "/" then (Route.refusal env app.routes 404 r w).1
        else trimmed r.method _)
    split
    · exact .refl _
    · exact (Finishes.refl _).trimmed r.method
  | cons first others =>
    show Finishes _ (answer env (first :: others) r w).1
    unfold answer
    cases hroute : routeFor (first :: others) r with
    | some route =>
      -- the route that is chosen is the one whose layers were counted
      unfold routeFor at hroute
      rw [hroute]
      exact (Finishes.refl _).trimmed r.method
    | none =>
      unfold routeFor at hroute
      rw [hroute]
      exact ((Finishes.refl _).allowing _).trimmed r.method

/-- **An application says what its stack of layers says.** -/
theorem finishes_serve (env : Env) (app : Application) (r : Request) (w : World) :
    Finishes (wrapAll env (app.stack r) (app.behind env r) r w).1 (app.serve env r w).1 := by
  unfold stack serve
  cases app.correlated with
  | false => exact finishes_dispatch env app r w
  | true =>
    obtain ⟨w', henter, -⟩ := Layer.exists_enter_correlationId env r w
    show Finishes (wrap env .correlationId (wrapAll env (app.inner r) (app.behind env r)) r w).1
      (wrap env .correlationId (app.dispatch env) r w).1
    rw [Layer.wrap_of_ok henter, Layer.wrap_of_ok henter]
    -- the route is found by the target and the method, which the layer leaves alone
    let inside := { r with context := r.context.withCorrelationId (chosen env r.headers w 0) }
    exact (finishes_dispatch env app inside w').leave inside

end Application

/-! ## What is told inside a stack -/

/-- No handler names an id in the fields of its answer. -/
theorem Handler.field_run (env : Env) (h : Handler) (r : Request) (w : World) :
    (h.run env r w).1.headers.filter (·.1 = fieldName) = [] := by
  -- an answer has the field only if the handler sets it, and a refusal never has
  have hanswer : ∀ x : Except Rejection Response,
      (∀ a, x = .ok a → a.headers.filter (·.1 = fieldName) = []) →
      (answerOf x).headers.filter (·.1 = fieldName) = [] := by
    intro x hx
    cases x with
    | error rejection => rfl
    | ok a => exact hx a rfl
  cases h with
  | ok => rfl
  | whoami =>
    refine hanswer _ fun a ha => ?_
    obtain ⟨p, -, ha⟩ := Outcome.bind_eq_ok.1 ha
    obtain ⟨t, -, ha⟩ := Outcome.bind_eq_ok.1 ha
    cases ha
    rfl
  | current =>
    refine hanswer _ fun a ha => ?_
    obtain ⟨p, -, ha⟩ := Outcome.bind_eq_ok.1 ha
    cases ha
    rfl
  | tenant =>
    refine hanswer _ fun a ha => ?_
    obtain ⟨t, -, ha⟩ := Outcome.bind_eq_ok.1 ha
    cases ha
    rfl
  | maybe => rfl
  | correlated => rfl
  | counted => rfl
  | refresh =>
    show (Refresh.handle env r).headers.filter _ = _
    unfold Refresh.handle
    cases Refresh.exchange env r with
    | error rejection => rfl
    | ok answer => rfl

namespace Application

/-- Behind the layers stands a handler, or an answer without a body. -/
theorem behind_cases (env : Env) (app : Application) (r : Request) :
    (∃ h : Handler, app.behind env r = h.run env) ∨
      ∃ status, app.behind env r = fun _ => return .empty status := by
  unfold behind
  cases app.routed r with
  | some route => exact .inl ⟨route.handler, rfl⟩
  | none =>
    cases app.routesAt (Target.path r.target) with
    | nil => exact .inr ⟨404, rfl⟩
    | cons first others => exact .inr ⟨405, rfl⟩

/-- What stands behind the layers is tagged with the id that it sees. -/
theorem tagged_behind (env : Env) (app : Application) (r : Request) {seen : Request}
    (hne : seen.context.correlationId ≠ some "") (w : World) :
    Tagged seen.context.correlationId (app.behind env r seen w).1 := by
  rcases behind_cases env app r with ⟨h, hbehind⟩ | ⟨status, hbehind⟩
  · rw [hbehind]
    exact h.tagged_run env hne
  · rw [hbehind]
    exact fun _ => .inl rfl

/-- It leaves the field of the id to the layers. -/
theorem field_behind (env : Env) (app : Application) (r seen : Request) (w : World) :
    (app.behind env r seen w).1.headers.filter (·.1 = fieldName) = [] := by
  rcases behind_cases env app r with ⟨h, hbehind⟩ | ⟨status, hbehind⟩
  · rw [hbehind]
    exact h.field_run env seen w
  · rw [hbehind]
    rfl

section Told

variable (hfresh : ∀ n, ∃ bs : Bytes, bs.length = 16 ∧ env.fresh n = Correlation.uuid bs)
  (hnew : r.context.correlationId = none)

include hfresh hnew

/-- A request is never told an empty id. -/
theorem told_ne_empty (n : Nat) : told env r w n ≠ some "" := by
  cases n with
  | zero =>
    unfold told
    rw [hnew]
    exact nofun
  | succ n =>
    intro h
    have hword := Layer.isWord_chosen hfresh r.headers w n
    rw [Option.some.inj h] at hword
    exact absurd hword.nonempty (by decide)

/-- A failure is told under the id of the innermost correlation layer. -/
theorem tagged_serve (app : Application) :
    Tagged (told env r w (depth env (app.stack r) r w)) (app.serve env r w).1 := by
  have hfinishes := finishes_serve env app r w
  have hne := told_ne_empty hfresh hnew (w := w) (depth env (app.stack r) r w)
  -- what the application does to the answer at last leaves status and body
  refine Tagged.congr ?_ hfinishes.status hfinishes.body
  rcases hway : enterAll env (app.stack r) r w with ⟨result, w'⟩
  cases result with
  | error rejection =>
    obtain ⟨answer, hstatus, hbody, hwrap⟩ := Layer.wrapAll_of_enterAll_error hway
    rw [hwrap]
    exact (tagged_of_rejection (Layer.rejected_under_told hway) hne).congr hstatus (.inl hbody)
  | ok seen =>
    obtain ⟨hstatus, hbody⟩ := Layer.wrapAll_of_enterAll_ok (app.behind env r) hway
    rw [← Layer.correlationId_of_enterAll hway] at hne ⊢
    exact (app.tagged_behind env r hne w').congr hstatus (.inl hbody)

/-- So is a success of the token exchange. -/
theorem reads_grant_of_serve {route : Route} (hroute : app.routed r = some route)
    (hrefresh : route.handler = .refresh) (hstatus : (app.serve env r w).1.status = 200) :
    (app.serve env r w).1.body = [] ∨ ∃ read,
      whole (ApiResponse.reader AccessTokenResponse.reader) (app.serve env r w).1.body = .ok read ∧
        read.correlationId = told env r w (depth env (app.stack r) r w) := by
  have hfinishes := finishes_serve env app r w
  -- behind the layers of the route stands the exchange alone
  have hbehind : app.behind env r = Handler.refresh.run env := by
    unfold behind
    rw [hroute, ← hrefresh]
  rw [hbehind] at hfinishes
  rw [hfinishes.status] at hstatus
  obtain ⟨seen, w', a, hway, hbody⟩ := Refresh.exists_grant_of_success hstatus
  have hseen := Layer.correlationId_of_enterAll hway
  rcases hfinishes.body with hsaid | hnone
  · refine .inr ?_
    rw [hsaid, hbody, ← hseen]
    refine Refresh.reads_grant ?_ a
    rw [hseen]
    exact told_ne_empty hfresh hnew _
  · exact .inl hnone

omit hnew in
/-- The answer names the id of the outermost correlation layer. -/
theorem field_serve (app : Application) :
    (app.serve env r w).1.headers.filter (·.1 = fieldName) =
      if depth env (app.stack r) r w = 0 then [] else
        [(fieldName, Text.bytes (chosen env r.headers w 0))] := by
  rw [(finishes_serve env app r w).field]
  split
  · next hzero => exact Layer.field_of_depth_zero hzero (app.field_behind env r)
  · next hpos => exact Layer.field_of_depth_pos hfresh (Nat.pos_of_ne_zero hpos) _

end Told

/-- **Behind several correlation layers a request is told the id of the innermost, and its answer
names the id of the outermost.** So it is for every stack and whatever stands behind it, for gates,
extractors and the token exchange; and so it is for every application. The two ids are the same
where the request goes through one such layer only, or brings an id, and otherwise just where two
fresh ids are. -/
theorem nested_correlation_ids (env : Env)
    (hfresh : ∀ n, ∃ bs : Bytes, bs.length = 16 ∧ env.fresh n = Correlation.uuid bs) (r : Request)
    (hnew : r.context.correlationId = none) (w : World) :
    (∀ n, told env r w (n + 1) = some (chosen env r.headers w 0) ↔
      (Correlation.inbound r.headers).isSome ∨ env.fresh w.minted = env.fresh (w.minted + n)) ∧
    (∀ (layers : List Layer) (service : Service),
      (0 < depth env layers r w →
        (wrapAll env layers service r w).1.headers.filter (·.1 = fieldName)
          = [(fieldName, Text.bytes (chosen env r.headers w 0))]) ∧
      ((∃ rejection : Rejection, rejection.correlationId = told env r w (depth env layers r w) ∧
          (wrapAll env layers service r w).1.body = rejection.toResponse.body) ∨
        ∃ seen w', Reaches env layers r w seen w' ∧
          seen.context.correlationId = told env r w (depth env layers r w) ∧
          ∀ id, told env r w (depth env layers r w) = some id → Tells env id seen)) ∧
    ∀ app : Application,
      (app.serve env r w).1.headers.filter (·.1 = fieldName) =
          (if depth env (app.stack r) r w = 0 then [] else
            [(fieldName, Text.bytes (chosen env r.headers w 0))]) ∧
        Tagged (told env r w (depth env (app.stack r) r w)) (app.serve env r w).1 ∧
        ∀ route, app.routed r = some route → route.handler = .refresh →
          (app.serve env r w).1.status = 200 →
          (app.serve env r w).1.body = [] ∨ ∃ read,
            whole (ApiResponse.reader AccessTokenResponse.reader)
              (app.serve env r w).1.body = .ok read ∧
              read.correlationId = told env r w (depth env (app.stack r) r w) := by
  refine ⟨fun n => ?_, fun layers service => ⟨fun hdepth => ?_, ?_⟩, fun app => ⟨?_, ?_, ?_⟩⟩
  · rw [← Layer.chosen_eq_iff]
    exact ⟨fun h => (Option.some.inj h).symm, fun h => congrArg some h.symm⟩
  · exact Layer.field_of_depth_pos hfresh hdepth service
  · rcases hway : enterAll env layers r w with ⟨result, w'⟩
    cases result with
    -- a layer that refuses does so under the id of the layers around it
    | error rejection =>
      obtain ⟨answer, -, hbody, hwrap⟩ := Layer.wrapAll_of_enterAll_error hway
      refine .inl ⟨rejection, Layer.rejected_under_told hway, ?_⟩
      rw [hwrap, hbody]
    | ok seen =>
      have hseen := Layer.correlationId_of_enterAll hway
      refine .inr ⟨seen, w', Layer.reaches_of_enterAll hway, hseen, fun id hid => ?_⟩
      refine tells_of_correlationId (hseen.trans hid) ?_
      rintro rfl
      exact told_ne_empty hfresh hnew _ hid
  · exact field_serve hfresh app
  · exact tagged_serve hfresh hnew app
  · intro route hroute hrefresh hstatus
    exact reads_grant_of_serve hfresh hnew hroute hrefresh hstatus

/-- A correlation layer around everything, and another one around the only route. -/
def twiceCorrelated : Application := ⟨[⟨"/me", .whoami, [.correlationId, .requireAuth]⟩], true⟩

/-- An id that a request brings is told everywhere. -/
theorem nested_correlation_ids_supplied :
    let answer := (twiceCorrelated.serve supplied (askingUnder (Text.bytes "req-1")) ⟨0, 0⟩).1
    answer.headers.filter (·.1 = fieldName) = [(fieldName, Text.bytes "req-1")] ∧
      ErrorEnvelope.Names answer.body "req-1" := by
  intro answer
  obtain ⟨-, -, happ⟩ := nested_correlation_ids supplied (Correlation.fresh_eq_uuid 7)
    (askingUnder (Text.bytes "req-1")) rfl ⟨0, 0⟩
  obtain ⟨hfield, htagged, -⟩ := happ twiceCorrelated
  have hdepth : depth supplied (twiceCorrelated.stack (askingUnder (Text.bytes "req-1")))
      (askingUnder (Text.bytes "req-1")) ⟨0, 0⟩ = 2 := by decide +kernel
  have hchosen :
      ∀ n, chosen supplied (askingUnder (Text.bytes "req-1")).headers ⟨0, 0⟩ n = "req-1" := by
    have hinbound :
        Correlation.inbound (askingUnder (Text.bytes "req-1")).headers = some "req-1" := by
      decide +kernel
    intro n
    rw [chosen, hinbound]
    rfl
  rw [hdepth, if_neg (by decide), hchosen] at hfield
  rw [hdepth, told, hchosen] at htagged
  refine ⟨hfield, ?_⟩
  rcases htagged (by decide +kernel) with hempty | hnames
  · have hbody : answer.body ≠ [] := by decide +kernel
    exact absurd hempty hbody
  · exact hnames

/-- A request that brings neither an id nor a token. -/
def asking : Request := { askingUnder [] with headers := [] }

/-- A context on which two layers have stored their ids, the outer one first. -/
def twiceNamed : Context := (Context.empty.withCorrelationId "outer").withCorrelationId "inner"

/-- Without an id of its own, a request behind two correlation layers has two: the error envelope
names the one of the inner layer and the answer's field the one of the outer. The layers store their
ids on the context of the request one after the other, and an extractor that rejects it names the
last. -/
theorem nested_ids_differ :
    (2 ≤ (twiceCorrelated.stack asking).count .correlationId ∧
      ∃ id, ErrorEnvelope.Names (twiceCorrelated.serve supplied asking ⟨0, 0⟩).1.body id ∧
        (twiceCorrelated.serve supplied asking ⟨0, 0⟩).1.headers.filter (·.1 = fieldName)
          ≠ [(fieldName, Text.bytes id)]) ∧
    ∃ rejection, twiceNamed.currentPrincipal = .error rejection ∧
      rejection.correlationId = some "inner" ∧
      ErrorEnvelope.Names rejection.toResponse.body "inner" := by
  have hfresh : ∀ n, ∃ bs : Bytes, bs.length = 16 ∧ supplied.fresh n = Correlation.uuid bs :=
    Correlation.fresh_eq_uuid 7
  -- one layer is around the application and one on the route, and each makes an id
  have hdepth : depth supplied (twiceCorrelated.stack asking) asking ⟨0, 0⟩ = 2 := by decide +kernel
  have hfield := field_serve hfresh twiceCorrelated (r := asking) (w := ⟨0, 0⟩)
  have htagged := tagged_serve hfresh (r := asking) (w := ⟨0, 0⟩) rfl twiceCorrelated
  rw [hdepth, if_neg (by decide)] at hfield
  rw [hdepth] at htagged
  refine ⟨⟨by decide +kernel, Correlation.fresh 7 1, ?_, ?_⟩, _, rfl, rfl, ?_⟩
  · rcases htagged (by decide +kernel) with hempty | hnames
    · have hbody : (twiceCorrelated.serve supplied asking ⟨0, 0⟩).1.body ≠ [] := by decide +kernel
      exact absurd hempty hbody
    · exact hnames
  · rw [hfield]
    decide +kernel
  · exact Rejection.names rfl (by decide +kernel)

end Application

end TenantAuth
