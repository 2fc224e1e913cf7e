import TenantAuth.Proofs.Gate.LookAlike
import TenantAuth.Proofs.Service.Exchange
import TenantAuth.Proofs.Service.Handler

/-!
# What a caller learns of a rejected token

Nothing but that it is rejected. A token is rejected as forged, expired, early, of the wrong kind,
or as no token at all, and the caller is told the same each time: two requests that differ in the
rejected tokens that they carry look alike to every layer, so that no stack of layers and no
application answers them differently. Neither does the token exchange.
-/
namespace TenantAuth

open Layer (LookAlike wrapAll)

/-- To the caller, every rejected token is unauthorized for the same reason. -/
theorem AppError.ofAuthError_of_rejected {e : AuthError}
    (h : e = .invalidToken ∨ e = .expiredToken) :
    AppError.ofAuthError e = .unauthorized "Invalid or expired token" := by
  rcases h with rfl | rfl
  · rfl
  · rfl

variable {env : Env} {layers : List Layer} {r₁ r₂ : Request} {w : World}

/-! ## Access tokens -/

/-- The requests agree on everything but their credentials. -/
structure SameButCredential (r₁ r₂ : Request) : Prop where
  method : r₁.method = r₂.method
  target : r₁.target = r₂.target
  headers : r₁.headers.without "authorization" = r₂.headers.without "authorization"
  body : r₁.body = r₂.body
  context : r₁.context = r₂.context

/-- Requests stay the same but for their credential when their contexts are the same. -/
theorem SameButCredential.withContext (h : SameButCredential r₁ r₂) (c : Context) :
    SameButCredential { r₁ with context := c } { r₂ with context := c } :=
  { h with context := rfl }

/-- The service learns from the context alone who asks: it looks at no credential. -/
def IgnoresCredential (service : Service) : Prop :=
  ∀ r₁ r₂ w, SameButCredential r₁ r₂ → service r₁ w = service r₂ w

/-- No handler looks at the credential itself. -/
theorem Handler.ignoresCredential_run (env : Env) (h : Handler) :
    IgnoresCredential (h.run env) := by
  intro r₁ r₂ w hsame
  refine h.run_congr ?_ ?_ ?_ (Headers.first?_congr hsame.headers (by decide)) hsame.body
  · rw [hsame.context]
  · rw [hsame.context]
  · rw [hsame.context]

/-- What the caller is told of a token that is rejected does not depend on the token. -/
theorem verdict_of_rejected {r : Request} {tok : String} {e : AuthError}
    (hoffers : Bearer.Offers r.headers tok) (hrejected : env.tokens.verify env.now tok = .error e) :
    Layer.verdict env r = .error (.unauthorized "Invalid or expired token") := by
  have herror := AppError.ofAuthError_of_rejected (TokenManager.error_of_verify hrejected)
  rw [Layer.verdict, Bearer.authenticate_of_carries hoffers.carries, hrejected, ← herror]
  rfl

/-- Requests that differ in rejected tokens look alike to layers. -/
theorem SameButCredential.lookAlike (h : SameButCredential r₁ r₂)
    (hverdict : Layer.verdict env r₁ = Layer.verdict env r₂) : LookAlike env r₁ r₂ :=
  Layer.lookAlike_of_without hverdict h.headers (by decide) (by decide) h.context

/-- Behind layers that cannot tell the requests apart the answers are the same. -/
theorem SameButCredential.wrapAll_eq {service : Service} (h : SameButCredential r₁ r₂)
    (halike : LookAlike env r₁ r₂) (hservice : IgnoresCredential service) :
    wrapAll env layers service r₁ w = wrapAll env layers service r₂ w :=
  halike.wrapAll_eq fun c w => hservice _ _ w (h.withContext c)

/-! ## Applications -/

namespace Application

variable {app : Application} {routes : List Route}

/-- The correlation layer around an application is a stack of one layer. -/
theorem serve_eq_wrapAll :
    app.serve env = wrapAll env (if app.correlated then [.correlationId] else [])
      (app.dispatch env) := by
  unfold serve
  cases app.correlated with
  | false => rfl
  | true => rfl

/-- So they are for the routes at a path. -/
theorem answer_congr (h : SameButCredential r₁ r₂) (halike : LookAlike env r₁ r₂) :
    answer env routes r₁ w = answer env routes r₂ w := by
  have hservice : ∀ route : Route, route.service env r₁ w = route.service env r₂ w := fun route =>
    h.wrapAll_eq halike (route.handler.ignoresCredential_run env)
  have hrefusal : Route.refusal env routes 405 r₁ w = Route.refusal env routes 405 r₂ w :=
    h.wrapAll_eq halike fun _ _ _ _ => rfl
  unfold answer
  rw [h.method]
  cases (routes.find? fun route => r₂.method ∈ route.handler.methods.names) <|>
      routes.find? fun route => route.handler.methods = .any with
  | some route => exact Layer.bind_congr (hservice route) _
  | none => exact Layer.bind_congr hrefusal _

/-- So they are for whatever is dispatched. -/
theorem dispatch_congr (h : SameButCredential r₁ r₂) (halike : LookAlike env r₁ r₂) :
    app.dispatch env r₁ w = app.dispatch env r₂ w := by
  have hrefusal : Route.refusal env app.routes 404 r₁ w = Route.refusal env app.routes 404 r₂ w :=
    h.wrapAll_eq halike fun _ _ _ _ => rfl
  unfold dispatch notFound
  rw [h.target, h.method]
  cases app.routesAt (Target.path r₂.target) with
  | nil => exact Layer.bind_congr hrefusal _
  | cons route others => exact answer_congr h halike

/-- Requests that layers cannot tell apart are served alike where they are dispatched alike. -/
theorem serve_congr (halike : LookAlike env r₁ r₂)
    (hdispatch : ∀ c w, app.dispatch env { r₁ with context := c } w
      = app.dispatch env { r₂ with context := c } w) :
    app.serve env r₁ w = app.serve env r₂ w := by
  rw [serve_eq_wrapAll]
  exact halike.wrapAll_eq hdispatch

end Application

/-! ## Refresh tokens -/

/-- The requests agree on everything but their bodies, and how long those are. -/
structure SameButBody (r₁ r₂ : Request) : Prop where
  method : r₁.method = r₂.method
  target : r₁.target = r₂.target
  headers : r₁.headers.without "content-length" = r₂.headers.without "content-length"
  context : r₁.context = r₂.context

/-- Requests stay the same but for their body when their contexts are the same. -/
theorem SameButBody.withContext (h : SameButBody r₁ r₂) (c : Context) :
    SameButBody { r₁ with context := c } { r₂ with context := c } :=
  { h with context := rfl }

/-- No layer looks at a body. -/
theorem SameButBody.lookAlike (h : SameButBody r₁ r₂) : LookAlike env r₁ r₂ := by
  have hverdict : Layer.verdict env r₁ = Layer.verdict env r₂ := by
    rw [Layer.verdict, Layer.verdict, Bearer.authenticate, Bearer.authenticate, Bearer.token,
      Bearer.token, Headers.first?_congr h.headers (by decide)]
  exact Layer.lookAlike_of_without hverdict h.headers (by decide) (by decide) h.context

namespace Refresh

/-- The request presents a refresh token, and that is rejected. -/
def Refused (env : Env) (r : Request) : Prop :=
  ∃ token e, Presents r token ∧ env.tokens.verifyRefresh env.now token = .error e

/-- A token is refused in any context. -/
theorem Refused.withContext {r : Request} (h : Refused env r) (c : Context) :
    Refused env { r with context := c } := by
  obtain ⟨token, e, ⟨hjson, hshort, hreads⟩, hrejected⟩ := h
  exact ⟨token, e, ⟨hjson, hshort, hreads⟩, hrejected⟩

/-- The answer to a rejected refresh token does not depend on the token. -/
theorem handle_of_refused {r : Request} (h : Refused env r) :
    handle env r = ((AppError.unauthorized "Invalid or expired token").tagged
      r.context.correlationId).toResponse := by
  obtain ⟨token, e, hpresents, hrejected⟩ := h
  have hexchange := TokenManager.refresh_of_refused hrejected
  rw [handle_of_refresh_error (presentedToken_eq_ok.2 hpresents) hexchange, Context.reject,
    AppError.ofAuthError_of_rejected (TokenManager.error_of_verifyRefresh hrejected)]

/-- Refused tokens are answered alike by the exchange. -/
theorem run_congr (h : SameButBody r₁ r₂) (h₁ : Refused env r₁) (h₂ : Refused env r₂) :
    Handler.refresh.run env r₁ w = Handler.refresh.run env r₂ w := by
  show (handle env r₁, w) = (handle env r₂, w)
  rw [handle_of_refused h₁, handle_of_refused h₂, h.context]

/-- Behind any layers, two rejected refresh tokens are answered alike. -/
theorem wrapAll_congr (h : SameButBody r₁ r₂) (h₁ : Refused env r₁) (h₂ : Refused env r₂) :
    wrapAll env layers (Handler.refresh.run env) r₁ w
      = wrapAll env layers (Handler.refresh.run env) r₂ w :=
  h.lookAlike.wrapAll_eq fun c _ =>
    run_congr (h.withContext c) (h₁.withContext c) (h₂.withContext c)

end Refresh

namespace Application

variable {app : Application} {route : Route}

/-- So they are through the router. -/
theorem dispatch_refresh_congr (happ : app.Unambiguous) (hroute : route ∈ app.routes)
    (hrefresh : route.path = refreshPath ∧ route.handler = .refresh) (hmethod : r₁.method = "POST")
    (hpath : Target.path r₁.target = refreshPath) (h : SameButBody r₁ r₂)
    (h₁ : Refresh.Refused env r₁) (h₂ : Refresh.Refused env r₂) :
    app.dispatch env r₁ w = app.dispatch env r₂ w := by
  rw [dispatch_refresh happ hroute hrefresh hmethod hpath,
    dispatch_refresh happ hroute hrefresh (h.method ▸ hmethod) (h.target ▸ hpath)]
  exact Refresh.wrapAll_congr h h₁ h₂

/-- **Whatever is wrong with a token, the caller learns no more than that it is rejected.** Requests
that differ in rejected tokens alone have the same answer and the same effect, whether these are
access tokens that layers look for or refresh tokens that are to be exchanged. -/
theorem rejected_tokens_look_alike (env : Env) (r₁ r₂ : Request) (w : World) :
    (∀ a b e₁ e₂, SameButCredential r₁ r₂ →
      Bearer.Offers r₁.headers a → Bearer.Offers r₂.headers b →
      env.tokens.verify env.now a = .error e₁ → env.tokens.verify env.now b = .error e₂ →
      (∀ layers service, IgnoresCredential service →
        wrapAll env layers service r₁ w = wrapAll env layers service r₂ w) ∧
      ∀ app : Application, app.serve env r₁ w = app.serve env r₂ w) ∧
    (SameButBody r₁ r₂ → Refresh.Refused env r₁ → Refresh.Refused env r₂ →
      (∀ layers, wrapAll env layers (Handler.refresh.run env) r₁ w
        = wrapAll env layers (Handler.refresh.run env) r₂ w) ∧
      ∀ (app : Application) (route : Route), app.Unambiguous → route ∈ app.routes →
        route.path = refreshPath ∧ route.handler = .refresh → r₁.method = "POST" →
        Target.path r₁.target = refreshPath → app.serve env r₁ w = app.serve env r₂ w) := by
  refine ⟨fun a b e₁ e₂ hsame h₁ h₂ hrejected₁ hrejected₂ => ?_, fun hsame h₁ h₂ => ?_⟩
  · have halike : LookAlike env r₁ r₂ := hsame.lookAlike <| by
      rw [verdict_of_rejected h₁ hrejected₁, verdict_of_rejected h₂ hrejected₂]
    refine ⟨fun layers service hservice => hsame.wrapAll_eq halike hservice, fun app => ?_⟩
    exact serve_congr halike fun c w => dispatch_congr (hsame.withContext c) (halike.withContext c)
  · refine ⟨fun layers => Refresh.wrapAll_congr hsame h₁ h₂, ?_⟩
    intro app route happ hroute hrefresh hmethod hpath
    exact serve_congr hsame.lookAlike fun c w =>
      dispatch_refresh_congr happ hroute hrefresh hmethod hpath (hsame.withContext c)
        (h₁.withContext c) (h₂.withContext c)

/-- Two minutes after the epoch, when the access tokens of the epoch have expired. -/
def minutesLater : Env := { Layer.atEpoch with now := ⟨120, by decide⟩ }

/-- The request of those who ask who they are, with the token. -/
def askingWith (token : String) : Request where
  method := "GET"
  target := "/me"
  headers := [("authorization", Text.bytes ("Bearer " ++ token))]
  body := []
  context := .empty

/-- An expired token and a word that is no token get the same answers. -/
theorem rejected_tokens_look_alike_minutesLater :
    ∃ old, minutesLater.tokens.verify minutesLater.now old = .error .expiredToken ∧
      minutesLater.tokens.verify minutesLater.now "x" = .error .invalidToken ∧
      wrapAll minutesLater [.optionalAuth] (Handler.maybe.run minutesLater) (askingWith old) ⟨0, 0⟩
        = wrapAll minutesLater [.optionalAuth] (Handler.maybe.run minutesLater) (askingWith "x")
          ⟨0, 0⟩ ∧
      exchanging.serve minutesLater (askingWith old) ⟨0, 0⟩
        = exchanging.serve minutesLater (askingWith "x") ⟨0, 0⟩ ∧
      exchanging.serve minutesLater (exchangeOf old) ⟨0, 0⟩
        = exchanging.serve minutesLater (exchangeOf "x") ⟨0, 0⟩ := by
  obtain ⟨old, hold⟩ : ∃ old,
      old = SignedToken.encode TokenManager.hourly.secret Layer.adaClaims := ⟨_, rfl⟩
  have hclaims : minutesLater.tokens.claims old .access = .ok Layer.adaClaims := by
    rw [hold]
    exact Layer.hourly_claims
  have hexpired : minutesLater.tokens.verify minutesLater.now old = .error .expiredToken :=
    (TokenManager.lives_of_claims hclaims).after _ (by decide)
  have hinvalid : minutesLater.tokens.verify minutesLater.now "x" = .error .invalidToken := rfl
  have hofferOld : Bearer.Offers (askingWith old).headers old := by
    rw [hold]
    exact Bearer.offers_encode _ _ rfl
  have hofferX : Bearer.Offers (askingWith "x").headers "x" := by
    refine ⟨rfl, by decide, fun c hc => ?_⟩
    rw [List.mem_singleton.1 hc]
    decide
  have hcredential : SameButCredential (askingWith old) (askingWith "x") :=
    ⟨rfl, rfl, rfl, rfl, rfl⟩
  obtain ⟨hstack, hserve⟩ := (rejected_tokens_look_alike minutesLater _ _ ⟨0, 0⟩).1 old "x" _ _
    hcredential hofferOld hofferX hexpired hinvalid
  refine ⟨old, hexpired, hinvalid, ?_, hserve exchanging, ?_⟩
  · exact hstack [.optionalAuth] _ (Handler.maybe.ignoresCredential_run minutesLater)
  · have hsame : SameButBody (exchangeOf old) (exchangeOf "x") := ⟨rfl, rfl, rfl, rfl⟩
    -- an access token is no refresh token, and `x` is no token
    have hrefusedOld : Refresh.Refused minutesLater (exchangeOf old) := by
      refine ⟨old, .invalidToken, ?_, ?_⟩
      · rw [hold]
        exact presents_exchangeOf (by decide +kernel) .empty
      · rw [TokenManager.verifyRefresh, TokenManager.verifyKind_of_other hclaims (by decide)]
        rfl
    have hrefusedX : Refresh.Refused minutesLater (exchangeOf "x") :=
      ⟨"x", .invalidToken, Refresh.presents_of_body (by decide) rfl (by decide), rfl⟩
    exact ((rejected_tokens_look_alike minutesLater _ _ ⟨0, 0⟩).2 hsame hrefusedOld hrefusedX).2
      exchanging authRoute exchanging_unambiguous List.mem_cons_self ⟨rfl, rfl⟩ rfl
      (exchangeOf_path old)

end Application

end TenantAuth
