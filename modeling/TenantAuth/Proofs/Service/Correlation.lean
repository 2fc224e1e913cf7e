import TenantAuth.Proofs.Gate.Tagging
import TenantAuth.Proofs.Service.Exchange

/-!
# One id for each request

An application inside a correlation layer answers under one id: the field of the answer names it,
and so does every envelope, whether a gate, an extractor or the token exchange has written it.
-/
namespace TenantAuth

open ErrorEnvelope (Names)
open Json.Reader (whole)
open Layer (wrapAll enterAll Reaches)
open Outcome

variable {env : Env} {layers : List Layer} {r : Request} {w : World} {id : String}
  {id? : Option String}

/-! ## What is told inside -/

/-- Whatever rejects the request from here on names the id, and so does the token exchange. -/
structure Tells (env : Env) (id : String) (seen : Request) : Prop where
  gate : ∀ layer w rejection w', Layer.enter env layer seen w = (.error rejection, w') →
    Names rejection.toResponse.body id
  principal : ∀ rejection, seen.context.currentPrincipal = .error rejection →
    Names rejection.toResponse.body id
  tenant : ∀ rejection, seen.context.tenantScope = .error rejection →
    Names rejection.toResponse.body id
  refusal : ∀ rejection, Refresh.exchange env seen = .error rejection →
    Names rejection.toResponse.body id
  grant : ∀ answer, Refresh.exchange env seen = .ok answer → ∃ read,
    whole (ApiResponse.reader AccessTokenResponse.reader)
        (answer.toResponse AccessTokenResponse.toJson).body = .ok read ∧
      read.correlationId = some id

/-- A request without a principal is rejected under its id. -/
theorem Context.correlationId_of_currentPrincipal {c : Context} {rejection : Rejection}
    (h : c.currentPrincipal = .error rejection) : rejection.correlationId = c.correlationId := by
  rw [currentPrincipal] at h
  split at h
  · cases h
  · cases h
    rfl

/-- So is a request without a tenant. -/
theorem Context.correlationId_of_tenantScope {c : Context} {rejection : Rejection}
    (h : c.tenantScope = .error rejection) : rejection.correlationId = c.correlationId := by
  rw [tenantScope] at h
  split at h
  · cases h
  · cases h
    rfl

namespace Refresh

/-- So is a request whose refresh token is not exchanged. -/
theorem correlationId_of_exchange {rejection : Rejection} (h : exchange env r = .error rejection) :
    rejection.correlationId = r.context.correlationId := by
  rcases bind_eq_error.1 h with hbody | ⟨token, -, h⟩
  · obtain ⟨fault, -, rfl⟩ := mapError_eq_error.1 hbody
    rfl
  · rcases bind_eq_error.1 h with hrefused | ⟨a, -, h⟩
    · obtain ⟨e, -, rfl⟩ := mapError_eq_error.1 hrefused
      rfl
    · cases h

/-- What is answered to an exchange is a grant under the id of the request. -/
theorem exists_grant_of_exchange {answer : ApiResponse AccessTokenResponse}
    (h : exchange env r = .ok answer) : ∃ a, answer = grant env r a := by
  obtain ⟨token, -, h⟩ := bind_eq_ok.1 h
  obtain ⟨a, -, h⟩ := bind_eq_ok.1 h
  cases h
  exact ⟨a, rfl⟩

/-- The body of a grant names the id of its request. -/
theorem reads_grant (hne : r.context.correlationId ≠ some "") (a : String) :
    ∃ read, whole (ApiResponse.reader AccessTokenResponse.reader)
        ((grant env r a).toResponse AccessTokenResponse.toJson).body = .ok read ∧
      read.correlationId = r.context.correlationId :=
  ⟨_, (ApiResponse.reads_reader (AccessTokenResponse.reads_reader _)).whole, filter_nonempty hne⟩

end Refresh

/-- A request with an id is told that id, whatever becomes of it. -/
theorem tells_of_correlationId {seen : Request} (hid : seen.context.correlationId = some id)
    (hne : id ≠ "") : Tells env id seen where
  gate := fun layer w rejection w' h =>
    Rejection.names ((Layer.correlationId_of_enter_error h).trans hid) hne
  principal := fun rejection h =>
    Rejection.names ((Context.correlationId_of_currentPrincipal h).trans hid) hne
  tenant := fun rejection h =>
    Rejection.names ((Context.correlationId_of_tenantScope h).trans hid) hne
  refusal := fun rejection h =>
    Rejection.names ((Refresh.correlationId_of_exchange h).trans hid) hne
  grant := fun answer h => by
    -- a grant is made for the id of the context, and is written with it
    obtain ⟨a, rfl⟩ := Refresh.exists_grant_of_exchange h
    rw [← hid]
    refine Refresh.reads_grant ?_ a
    rw [hid]
    simpa using hne

/-- A success is the grant for the request that the layers let through. -/
theorem Refresh.exists_grant_of_success
    (hstatus : (wrapAll env layers (Handler.refresh.run env) r w).1.status = 200) :
    ∃ seen w' a, enterAll env layers r w = (.ok seen, w') ∧
      (wrapAll env layers (Handler.refresh.run env) r w).1.body =
        ((grant env seen a).toResponse AccessTokenResponse.toJson).body := by
  rcases hway : enterAll env layers r w with ⟨result, w'⟩
  cases result with
  | error rejection =>
    -- a gate that rejects answers with a failure
    obtain ⟨answer, hanswer, -, hwrap⟩ := Layer.wrapAll_of_enterAll_error hway
    have hfailed := rejection.status_toResponse
    rw [hwrap, hanswer] at hstatus
    omega
  | ok seen =>
    obtain ⟨hinner, hbody⟩ := Layer.wrapAll_of_enterAll_ok (Handler.refresh.run env) hway
    rw [hinner] at hstatus
    change (handle env seen).status = 200 at hstatus
    rw [handle] at hstatus
    cases hexchange : exchange env seen with
    | error rejection =>
      have hfailed := rejection.status_toResponse
      rw [hexchange] at hstatus
      dsimp only at hstatus
      omega
    | ok answer =>
      obtain ⟨a, rfl⟩ := exists_grant_of_exchange hexchange
      refine ⟨seen, w', a, rfl, ?_⟩
      rw [hbody]
      show (handle env seen).body = _
      rw [handle, hexchange]

/-- Behind layers that keep ids, a token that is exchanged comes with the id of its request. -/
theorem Refresh.reads_of_success (hfree : .correlationId ∉ layers)
    (hid : r.context.correlationId = some id) (hne : id ≠ "")
    (hstatus : (wrapAll env layers (Handler.refresh.run env) r w).1.status = 200) :
    ∃ read, whole (ApiResponse.reader AccessTokenResponse.reader)
        (wrapAll env layers (Handler.refresh.run env) r w).1.body = .ok read ∧
      read.correlationId = some id := by
  obtain ⟨seen, w', a, hway, hbody⟩ := exists_grant_of_success hstatus
  have hseen := (Layer.correlationId_of_enterAll_ok hway hfree).trans hid
  rw [hbody, ← hseen]
  refine reads_grant ?_ a
  rw [hseen]
  simpa using hne

/-! ## Failures of services -/

/-- A failure that has a body at all is an envelope with this id, or with none. -/
def Tagged (id? : Option String) (answer : Response) : Prop :=
  400 ≤ answer.status → answer.body = [] ∨
    ∃ e, whole ErrorEnvelope.reader answer.body = .ok e ∧ e.correlationId = id?

/-- A failure that has a body at all names the id. -/
def Reports (id : String) (answer : Response) : Prop :=
  400 ≤ answer.status → answer.body = [] ∨ Names answer.body id

/-- The service names the id of a request in every failure. -/
def NamesIds (service : Service) : Prop :=
  ∀ r w id, r.context.correlationId = some id → id ≠ "" → Reports id (service r w).1

theorem reports_iff {answer : Response} : Reports id answer ↔ Tagged (some id) answer := Iff.rfl

/-- Tagging is about the status and the body, and an answer without a body is tagged with
anything. -/
theorem Tagged.congr {a b : Response} (h : Tagged id? a) (hstatus : b.status = a.status)
    (hbody : b.body = a.body ∨ b.body = []) : Tagged id? b := by
  intro hfailed
  rcases hbody with hbody | hbody
  · rw [hbody]
    exact h (hstatus ▸ hfailed)
  · exact .inl hbody

/-- An answer that is no failure need not name an id. -/
theorem tagged_of_success {answer : Response} (h : answer.status < 400) : Tagged id? answer :=
  fun hfailed => absurd hfailed (Nat.not_le.2 h)

/-- A rejection is tagged with its id. -/
theorem tagged_of_rejection {rejection : Rejection} (hid : rejection.correlationId = id?)
    (hne : id? ≠ some "") : Tagged id? rejection.toResponse := by
  subst hid
  exact fun _ => .inr (rejection.reads hne)

/-- Layers that keep ids name them, if what they stand around does. -/
theorem namesIds_wrapAll {service : Service} (hfree : .correlationId ∉ layers)
    (hservice : NamesIds service) : NamesIds (wrapAll env layers service) := by
  intro r w id hid hne
  rcases hway : enterAll env layers r w with ⟨result, w'⟩
  cases result with
  -- a refusal on the way has the id of the layers before it, which is the one that is known
  | error rejection =>
    obtain ⟨answer, hstatus, hbody, hwrap⟩ := Layer.wrapAll_of_enterAll_error hway
    have hrejection := (Layer.correlationId_of_enterAll_error hway hfree).trans hid
    rw [hwrap]
    exact (tagged_of_rejection hrejection (by simpa using hne)).congr hstatus (.inl hbody)
  | ok seen =>
    obtain ⟨hstatus, hbody⟩ := Layer.wrapAll_of_enterAll_ok service hway
    have hseen := (Layer.correlationId_of_enterAll_ok hway hfree).trans hid
    exact (reports_iff.1 (hservice seen w' id hseen hne)).congr hstatus (.inl hbody)

namespace Handler

/-- A handler that asks an extractor first is rejected by it or goes on. -/
theorem tagged_bind {α : Type} {x : Except Rejection α} {f : α → Except Rejection Response}
    (hne : id? ≠ some "")
    (hx : ∀ rejection, x = .error rejection → rejection.correlationId = id?)
    (hf : ∀ a, Tagged id? (answerOf (f a))) : Tagged id? (answerOf (x >>= f)) := by
  cases x with
  | error rejection => exact tagged_of_rejection (hx rejection rfl) hne
  | ok a => exact hf a

/-- A handler fails under the id of its request. -/
theorem tagged_run (env : Env) (h : Handler) (hne : r.context.correlationId ≠ some "") :
    Tagged r.context.correlationId (h.run env r w).1 := by
  have hprincipal : ∀ rejection, r.context.currentPrincipal = .error rejection →
      rejection.correlationId = r.context.correlationId := fun _ =>
    Context.correlationId_of_currentPrincipal
  have htenant : ∀ rejection, r.context.tenantScope = .error rejection →
      rejection.correlationId = r.context.correlationId := fun _ =>
    Context.correlationId_of_tenantScope
  have hsuccess : (200 : Nat) < 400 := by decide
  have hcreated : (201 : Nat) < 400 := by decide
  cases h with
  | ok => exact tagged_of_success hsuccess
  -- each value that is asked of the context may be missing, and then the refusal names the id
  | whoami =>
    refine tagged_bind hne hprincipal fun p => ?_
    exact tagged_bind hne htenant fun t => tagged_of_success hsuccess
  | current => exact tagged_bind hne hprincipal fun p => tagged_of_success hsuccess
  | tenant => exact tagged_bind hne htenant fun t => tagged_of_success hsuccess
  | maybe => exact tagged_of_success hsuccess
  | correlated => exact tagged_of_success hcreated
  | counted => exact tagged_of_success hsuccess
  | refresh =>
    show Tagged _ (Refresh.handle env r)
    rw [Refresh.handle]
    cases h : Refresh.exchange env r with
    | error rejection => exact tagged_of_rejection (Refresh.correlationId_of_exchange h) hne
    | ok answer =>
      obtain ⟨a, rfl⟩ := Refresh.exists_grant_of_exchange h
      exact tagged_of_success hsuccess

/-- Every handler names the id of the request in its failures. -/
theorem namesIds_run (env : Env) (h : Handler) : NamesIds (h.run env) := by
  intro r w id hid hne
  rw [reports_iff, ← hid]
  refine h.tagged_run env ?_
  rw [hid]
  simpa using hne

end Handler

namespace Application

variable {app : Application} {routes : List Route}

/-- So does the answer to a request for the fields only. -/
theorem tagged_trimmed {answer : Response} (h : Tagged id? answer) (method : String) :
    Tagged id? (trimmed method answer) := by
  unfold trimmed
  split
  · exact h.congr rfl (.inr rfl)
  · exact h

/-- The refusals of the router are tagged in this way too. -/
theorem namesIds_refusal (hfree : ∀ route ∈ routes, .correlationId ∉ route.layers) (status : Nat) :
    NamesIds (Route.refusal env routes status) := by
  have hempty : NamesIds fun _ => return .empty status := fun _ _ _ _ _ _ => .inl rfl
  unfold Route.refusal
  cases hlast : routes.getLast? with
  | none => exact namesIds_wrapAll List.not_mem_nil hempty
  | some route => exact namesIds_wrapAll (hfree route (List.mem_of_getLast? hlast)) hempty

/-- So is whatever the routes at a path answer. -/
theorem namesIds_answer (hfree : ∀ route ∈ routes, .correlationId ∉ route.layers) :
    NamesIds (answer env routes) := by
  intro r w id hid hne
  unfold answer
  cases hnamed : (routes.find? fun route => r.method ∈ route.handler.methods.names) <|>
      routes.find? fun route => route.handler.methods = .any with
  | some route =>
    -- the route is for the method by its name, or else for any that is left
    have hroute : route ∈ routes := by
      cases hfirst : routes.find? fun route => r.method ∈ route.handler.methods.names with
      | some first =>
        rw [hfirst] at hnamed
        cases hnamed
        exact List.mem_of_find?_eq_some hfirst
      | none =>
        rw [hfirst] at hnamed
        exact List.mem_of_find?_eq_some hnamed
    have hservice : Reports id (route.service env r w).1 :=
      namesIds_wrapAll (hfree route hroute) (route.handler.namesIds_run env) r w id hid hne
    exact tagged_trimmed (reports_iff.1 hservice) r.method
  | none =>
    have hrefusal : Reports id (Route.refusal env routes 405 r w).1 :=
      namesIds_refusal hfree 405 r w id hid hne
    exact tagged_trimmed ((reports_iff.1 hrefusal).congr (Response.status_setDefaultHeader _ _ _)
      (.inl (Response.body_setDefaultHeader _ _ _))) r.method

theorem mem_of_mem_routesAt {route : Route} {path : String} (h : route ∈ app.routesAt path) :
    route ∈ app.routes := by
  unfold routesAt at h
  split at h
  · cases h
  · exact (List.mem_filter.1 h).1

/-- An application whose routes keep ids names them in its failures. -/
theorem namesIds_dispatch (hfree : ∀ route ∈ app.routes, .correlationId ∉ route.layers) :
    NamesIds (app.dispatch env) := by
  intro r w id hid hne
  unfold dispatch
  cases hroutes : app.routesAt (Target.path r.target) with
  | nil =>
    have hrefusal : Reports id (Route.refusal env app.routes 404 r w).1 :=
      namesIds_refusal hfree 404 r w id hid hne
    show Reports id (if (Target.path r.target).startsWith "/" then
      (Route.refusal env app.routes 404 r w).1 else trimmed r.method _)
    -- only a path that starts with a slash is answered by the refusal of the routes
    split
    · exact hrefusal
    · exact tagged_trimmed (reports_iff.1 hrefusal) r.method
  | cons route others =>
    have hmem : ∀ o ∈ route :: others, o ∈ app.routes := by
      intro o ho
      rw [← hroutes] at ho
      exact mem_of_mem_routesAt ho
    exact namesIds_answer (fun o ho => hfree o (hmem o ho)) r w id hid hne

/-! ## Inside the correlation layer -/

section Inside

variable {inside : Request} {w₀ : World}
  (henter : Layer.enter env .correlationId r w = (.ok inside, w₀))
  (hknown : inside.context.correlationId = some id)

include henter hknown

/-- A correlation layer puts its id, and no other, into the answer. -/
theorem field_of_enter (hword : Correlation.IsWord (Text.bytes id)) (service : Service) :
    (Layer.wrap env .correlationId service r w).1.headers.filter (·.1 = Correlation.fieldName)
      = [(Correlation.fieldName, Text.bytes id)] := by
  rw [Layer.wrap_of_ok henter]
  exact Layer.leave_correlationId hknown hword _

/-- A request is rejected under its id, or reaches the service and is told its id there. -/
theorem names_or_reaches (hne : id ≠ "") (hfree : .correlationId ∉ layers) (service : Service) :
    Names (wrapAll env (.correlationId :: layers) service r w).1.body id ∨
      ∃ seen w', Reaches env (.correlationId :: layers) r w seen w' ∧ Tells env id seen := by
  -- from the outermost layer on the id is known and stays what it is
  rcases hway : enterAll env layers inside w₀ with ⟨result, w'⟩
  have hall : enterAll env (.correlationId :: layers) r w = (result, w') := by
    rw [Layer.enterAll_of_ok henter, hway]
  cases result with
  | error rejection =>
    obtain ⟨answer, -, hbody, hwrap⟩ := Layer.wrapAll_of_enterAll_error hall
    have hrejection := (Layer.correlationId_of_enterAll_error hway hfree).trans hknown
    refine .inl ?_
    rw [hwrap, hbody]
    exact Rejection.names hrejection hne
  | ok seen =>
    have hseen := (Layer.correlationId_of_enterAll_ok hway hfree).trans hknown
    exact .inr ⟨seen, w', Layer.reaches_of_enterAll hall, tells_of_correlationId hseen hne⟩

/-- An application with one correlation layer, around everything, reports the id of that layer. -/
theorem reports_serve (hne : id ≠ "") (happ : app.correlated = true)
    (hfree : ∀ route ∈ app.routes, .correlationId ∉ route.layers) :
    Reports id (app.serve env r w).1 := by
  have hinner : Reports id (app.dispatch env inside w₀).1 :=
    namesIds_dispatch hfree inside w₀ id hknown hne
  rw [serve, if_pos happ, Layer.wrap_of_ok henter]
  exact (reports_iff.1 hinner).congr (Layer.status_leave _ _ _) (.inl (Layer.body_leave _ _ _))

/-- A `POST` to the token exchange that succeeds is answered with the id. -/
theorem reads_serve {route : Route} (hne : id ≠ "") (happ : app.correlated = true)
    (hunambiguous : app.Unambiguous) (hroute : route ∈ app.routes)
    (hfree : .correlationId ∉ route.layers)
    (hrefresh : route.path = refreshPath ∧ route.handler = .refresh) (hmethod : r.method = "POST")
    (hpath : Target.path r.target = refreshPath) (hstatus : (app.serve env r w).1.status = 200) :
    ∃ read, whole (ApiResponse.reader AccessTokenResponse.reader)
        (app.serve env r w).1.body = .ok read ∧ read.correlationId = some id := by
  have hframe := (Layer.passes_of_enter henter).frame
  have hpost : inside.method = "POST" := by rw [hframe, ← hmethod]
  have hat : Target.path inside.target = refreshPath := by rw [hframe, ← hpath]
  rw [serve, if_pos happ, Layer.wrap_of_ok henter] at hstatus ⊢
  rw [Layer.status_leave, dispatch_refresh hunambiguous hroute hrefresh hpost hat] at hstatus
  rw [Layer.body_leave, dispatch_refresh hunambiguous hroute hrefresh hpost hat]
  exact Refresh.reads_of_success hfree hknown hne hstatus

end Inside

/-- **One id goes with a request wherever it is told.** Inside the correlation layer every request
has one id, the inbound one if that is a word and a fresh one otherwise; the answer names it in its
one field, whatever the service; and gates, extractors and the token exchange name no other. -/
theorem correlation_id_propagates (env : Env)
    (hfresh : ∀ n, ∃ bs : Bytes, bs.length = 16 ∧ env.fresh n = Correlation.uuid bs) (r : Request)
    (w : World) :
    ∃ id w₀, Layer.Chooses env r.headers w id w₀ ∧
      Reaches env [.correlationId] r w { r with context := r.context.withCorrelationId id } w₀ ∧
      (∀ service : Service,
        (Layer.wrap env .correlationId service r w).1.headers.filter (·.1 = Correlation.fieldName)
          = [(Correlation.fieldName, Text.bytes id)]) ∧
      (∀ (layers : List Layer) (service : Service), .correlationId ∉ layers →
        Names (wrapAll env (.correlationId :: layers) service r w).1.body id ∨
          ∃ seen w', Reaches env (.correlationId :: layers) r w seen w' ∧ Tells env id seen) ∧
      ∀ app : Application, app.correlated = true →
        (∀ route ∈ app.routes, .correlationId ∉ route.layers) →
        (app.serve env r w).1.headers.filter (·.1 = Correlation.fieldName)
            = [(Correlation.fieldName, Text.bytes id)] ∧
          Reports id (app.serve env r w).1 ∧
          ∀ route ∈ app.routes, route.path = refreshPath ∧ route.handler = .refresh →
            app.Unambiguous → r.method = "POST" → Target.path r.target = refreshPath →
            (app.serve env r w).1.status = 200 →
            ∃ read, whole (ApiResponse.reader AccessTokenResponse.reader)
                (app.serve env r w).1.body = .ok read ∧ read.correlationId = some id := by
  rcases hid : Layer.chooseId env r.headers w with ⟨id, w₀⟩
  have hchooses := Layer.chooses_of_chooseId hfresh hid
  have hne := hchooses.ne_empty
  obtain ⟨inside, hinside⟩ : ∃ inside : Request,
      inside = { r with context := r.context.withCorrelationId id } := ⟨_, rfl⟩
  have hknown : inside.context.correlationId = some id := by
    rw [hinside]
    rfl
  have henter : Layer.enter env .correlationId r w = (.ok inside, w₀) := by
    rw [hinside]
    exact Layer.enter_correlationId hid
  -- whatever is answered inside, the outermost layer sets the field
  have hfield := field_of_enter henter hknown hchooses.word
  refine ⟨id, w₀, hchooses, ?_, hfield, ?_, fun app happ hfree => ⟨?_, ?_, ?_⟩⟩
  · rw [← hinside]
    exact Layer.reaches_cons.2 ⟨_, _, henter, ⟨fun answer => answer, fun _ => rfl⟩⟩
  · intro layers service hfree
    exact names_or_reaches henter hknown hne hfree service
  · rw [serve, if_pos happ]
    exact hfield (app.dispatch env)
  · exact reports_serve henter hknown hne happ hfree
  · intro route hroute hrefresh hunambiguous hmethod hpath hstatus
    exact reads_serve henter hknown hne happ hunambiguous hroute (hfree route hroute) hrefresh
      hmethod hpath hstatus

/-- The epoch, with a supply of fresh ids. -/
def supplied : Env := { Layer.atEpoch with fresh := Correlation.fresh 7 }

/-- A request that brings an id and no token. -/
def askingUnder (id : Bytes) : Request where
  method := "GET"
  target := "/me"
  headers := [("x-correlation-id", id)]
  body := []
  context := .empty

theorem correlation_id_propagates_supplied :
    (∃ id, Text.bytes id = Text.bytes "req-1" ∧
      (exchanging.serve supplied (askingUnder (Text.bytes " req-1\t")) ⟨0, 0⟩).1.headers.filter
          (·.1 = Correlation.fieldName) = [(Correlation.fieldName, Text.bytes "req-1")] ∧
      Names (wrapAll supplied [.correlationId, .requireAuth] (Handler.whoami.run supplied)
        (askingUnder (Text.bytes " req-1\t")) ⟨0, 0⟩).1.body id) ∧
    ∃ token id read, Correlation.IsUuid id ∧
      whole (ApiResponse.reader AccessTokenResponse.reader)
        (exchanging.serve supplied (exchangeOf token) ⟨0, 0⟩).1.body = .ok read ∧
      read.correlationId = some id := by
  have hfresh : ∀ n, ∃ bs : Bytes, bs.length = 16 ∧ supplied.fresh n = Correlation.uuid bs :=
    Correlation.fresh_eq_uuid 7
  have hfree : ∀ route ∈ exchanging.routes, .correlationId ∉ route.layers := by decide
  constructor
  · obtain ⟨id, w₀, hchooses, -, -, hstack, happ⟩ := correlation_id_propagates supplied hfresh
      (askingUnder (Text.bytes " req-1\t")) ⟨0, 0⟩
    have hword : Correlation.IsWord (Text.bytes "req-1") :=
      ⟨by decide, by decide, by decide +kernel⟩
    obtain ⟨hid, -⟩ := hchooses.kept _ rfl hword
    have hfield := (happ exchanging rfl hfree).1
    rw [hid] at hfield
    refine ⟨id, hid, hfield, ?_⟩
    -- without a token nobody gets past the gate
    rcases hstack [.requireAuth] (Handler.whoami.run supplied) (by decide) with
      hnames | ⟨seen, w', hreach, -⟩
    · exact hnames
    · obtain ⟨p, hp⟩ := hreach.passesAll.bearer_of_requireAuth (by decide)
      cases hp
  · obtain ⟨c, hc⟩ : ∃ c, c = TokenManager.handMade TokenManager.epoch ⟨3600, by decide⟩ := ⟨_, rfl⟩
    obtain ⟨token, htoken⟩ : ∃ token, token = SignedToken.encode TokenManager.hourly.secret c :=
      ⟨_, rfl⟩
    have hkind := TokenManager.verifyKind_handMade TokenManager.epoch ⟨3600, by decide⟩
      (by decide) (by decide)
    have hrefresh := TokenManager.refresh_eq_ok.2
      ⟨_, hkind, TokenManager.sign_eq_ok.2 ⟨⟨60, by decide⟩, rfl, rfl⟩⟩
    rw [← hc, ← htoken] at hrefresh
    obtain ⟨id, w₀, hchooses, -, -, -, happ⟩ := correlation_id_propagates supplied hfresh
      (exchangeOf token) ⟨0, 0⟩
    obtain ⟨-, huuid, -⟩ := hchooses.minted fun value hvalue => by cases hvalue
    have hstatus : (exchanging.serve supplied (exchangeOf token) ⟨0, 0⟩).1.status = 200 := by
      have hpresents : Refresh.Presents (exchanging.received supplied (exchangeOf token) ⟨0, 0⟩)
          token := by
        rw [htoken, hc]
        exact presents_exchangeOf (by decide +kernel) _
      have hgranted : Refresh.handle supplied _ = _ :=
        Refresh.handle_of_refresh_ok (Refresh.presentedToken_eq_ok.2 hpresents) hrefresh
      rw [(serve_eq_handle exchanging_unambiguous List.mem_cons_self rfl (exchangeOf_path token)
        ⟨0, 0⟩).1, hgranted]
      rfl
    obtain ⟨read, hread, hnamed⟩ := (happ exchanging rfl hfree).2.2 authRoute List.mem_cons_self
      ⟨rfl, rfl⟩ exchanging_unambiguous rfl (exchangeOf_path token) hstatus
    exact ⟨token, id, read, huuid, hread, hnamed⟩

end Application

end TenantAuth
