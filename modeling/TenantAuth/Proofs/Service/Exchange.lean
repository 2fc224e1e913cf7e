import TenantAuth.Proofs.Service.Refresh
import TenantAuth.Proofs.Service.Routing

/-!
# The endpoint of the token exchange

A `POST` to the path of the token exchange is answered by the exchange itself, whatever other routes
an application has and whether or not it tells requests apart by correlation ids
(`serve_eq_handle`). So the answer is that of one of the four ways in which an exchange ends.
-/
namespace TenantAuth

namespace Application

variable {app : Application} {env : Env} {r : Request} {w : World}

/-- The request as the routes of the application receive it: with its correlation id, where the
application gives it one. -/
def received (env : Env) (app : Application) (r : Request) (w : World) : Request :=
  if app.correlated then
    { r with context := r.context.withCorrelationId (Layer.chooseId env r.headers w).1 }
  else r

theorem refreshPath_plain : PathPattern.Plain (Text.bytes refreshPath) := by
  have hall : (Text.bytes refreshPath).all (fun b => b ≠ 0x7B && b ≠ 0x7D) = true := by decide
  intro b hb
  simpa using List.all_eq_true.1 hall b hb

/-- A `POST` to the path of the token exchange is answered by the exchange, behind the layers of its
route. -/
theorem dispatch_refresh {route : Route} (happ : app.Unambiguous) (hroute : route ∈ app.routes)
    (hrefresh : route.path = refreshPath ∧ route.handler = .refresh) (hmethod : r.method = "POST")
    (hpath : Target.path r.target = refreshPath) :
    app.dispatch env r w = Layer.wrapAll env route.layers (Handler.refresh.run env) r w := by
  obtain ⟨hrefreshPath, hhandler⟩ := hrefresh
  have hplain : PathPattern.Plain (Text.bytes route.path) := by
    rw [hrefreshPath]
    exact refreshPath_plain
  -- the handler takes the method of the request, so the route answers
  have hnamed : r.method ∈ route.handler.methods.names := by
    rw [hmethod, hhandler]
    decide
  have htrimmed : ∀ answer, trimmed r.method answer = answer := by
    intro answer
    simp [trimmed, hmethod]
  rw [dispatch_of_mem happ hroute hplain (hpath.trans hrefreshPath.symm) hnamed, htrimmed,
    Route.service, hhandler]
  rfl

/-- A request to exchange a refresh token gets to the handler that does it. -/
theorem dispatch_authRoute (happ : app.Unambiguous) (hroute : authRoute ∈ app.routes)
    (hmethod : r.method = "POST") (hpath : Target.path r.target = refreshPath) (w : World) :
    (app.dispatch env r w).1 = Refresh.handle env r := by
  rw [dispatch_refresh happ hroute ⟨rfl, rfl⟩ hmethod hpath]
  rfl

/-- The application answers as the exchange does, but for the field that names the correlation
id. -/
theorem serve_eq_handle (happ : app.Unambiguous) (hroute : authRoute ∈ app.routes)
    (hmethod : r.method = "POST") (hpath : Target.path r.target = refreshPath) (w : World) :
    (app.serve env r w).1.status = (Refresh.handle env (app.received env r w)).status ∧
      (app.serve env r w).1.body = (Refresh.handle env (app.received env r w)).body := by
  rcases hid : Layer.chooseId env r.headers w with ⟨id, w'⟩
  unfold serve received
  rw [hid]
  cases app.correlated with
  | false =>
    have hdispatch : (app.dispatch env r w).1 = Refresh.handle env r :=
      dispatch_authRoute happ hroute hmethod hpath w
    simp [hdispatch]
  | true =>
    -- the layer around the application only gives the request an id
    obtain ⟨seen, hseen⟩ : ∃ seen : Request,
        seen = { r with context := r.context.withCorrelationId id } := ⟨_, rfl⟩
    have henter : Layer.enter env .correlationId r w = (.ok seen, w') := by
      rw [hseen]
      exact Layer.enter_correlationId hid
    have hseenMethod : seen.method = "POST" := by rw [hseen, ← hmethod]
    have hseenPath : Target.path seen.target = refreshPath := by rw [hseen, ← hpath]
    have hdispatch : (app.dispatch env seen w').1 = Refresh.handle env seen :=
      dispatch_authRoute happ hroute hseenMethod hseenPath w'
    simp only [if_true, ← hseen]
    rw [Layer.wrap_of_ok henter, Layer.status_leave, Layer.body_leave, hdispatch]
    exact ⟨rfl, rfl⟩

/-- **The token exchange of an application ends in exactly one of four ways.** It is a bad request,
refused, an internal error that tells nothing, or an access token that opens whatever `requireAuth`
guards for the identity of the refresh token; and the request alone decides which. -/
theorem exchange_ends (env : Env) (app : Application) (r : Request) (w : World)
    (happ : app.Unambiguous) (hroute : authRoute ∈ app.routes) (hmethod : r.method = "POST")
    (hpath : Target.path r.target = refreshPath) :
    ∃ e : Refresh.Ending, (app.serve env r w).1.status = e.status ∧
      Refresh.Ends env (app.received env r w) (app.serve env r w).1.body e ∧
      ∀ body e', Refresh.Ends env (app.received env r w) body e' → e' = e := by
  obtain ⟨e, hanswered, hends⟩ := Refresh.handle_ends env (app.received env r w)
  obtain ⟨hstatus, hbody⟩ := serve_eq_handle happ hroute hmethod hpath w
  rw [hstatus, hbody]
  exact ⟨e, hanswered, hends, fun body e' hends' => hends'.unique hends⟩

/-- An application that exchanges tokens, and tells those who bear one who they are. -/
def exchanging : Application := ⟨[authRoute, ⟨"/me", .whoami, [.requireAuth]⟩], true⟩

/-- No other route takes the requests of the exchange. -/
theorem exchanging_unambiguous : exchanging.Unambiguous := by
  intro a ha b hb hpath method _ _
  simp only [exchanging, List.mem_cons, List.not_mem_nil, or_false] at ha hb
  have hne : refreshPath ≠ "/me" := by decide
  rcases ha with rfl | rfl
  · rcases hb with rfl | rfl
    · rfl
    · exact absurd hpath hne
  · rcases hb with rfl | rfl
    · exact absurd hpath.symm hne
    · rfl

/-- The request that presents the token. -/
def exchangeOf (token : String) : Request where
  method := "POST"
  target := "/auth/refresh?from=cli"
  headers := [("content-type", Text.bytes "application/json; charset=utf-8")]
  body := (Json.obj [("refresh_token", .str token)]).text
  context := .empty

/-- A request for an exchange presents its token. -/
theorem presents_exchangeOf {secret : Bytes} {c : TokenClaims}
    (hshort : (SignedToken.message c).length ≤ 1000) (context : Context) :
    Refresh.Presents { exchangeOf (SignedToken.encode secret c) with context := context }
      (SignedToken.encode secret c) := by
  have hjson : Refresh.declaresJson
      [("content-type", Text.bytes "application/json; charset=utf-8")] = true := by decide
  refine Refresh.presents_of_body hjson rfl ?_
  rw [SignedToken.bytes_encode, List.length_append, List.length_cons, SignedToken.length_signature]
  omega

theorem exchangeOf_path (token : String) : Target.path (exchangeOf token).target = refreshPath := by
  have hpath : Target.path "/auth/refresh?from=cli" = refreshPath := by decide
  exact hpath

/-- A refresh token that is valid is exchanged for an access token of the same principal. -/
theorem exchange_ends_atEpoch :
    ∃ token p, Layer.atEpoch.tokens.verifyRefresh Layer.atEpoch.now token = .ok p ∧
      (exchanging.serve Layer.atEpoch (exchangeOf token) ⟨0, 0⟩).1.status = 200 ∧
      Refresh.Grants Layer.atEpoch p
        (exchanging.serve Layer.atEpoch (exchangeOf token) ⟨0, 0⟩).1.body := by
  obtain ⟨c, hc⟩ : ∃ c, c = TokenManager.handMade TokenManager.epoch ⟨3600, by decide⟩ := ⟨_, rfl⟩
  obtain ⟨token, htoken⟩ : ∃ token, token = SignedToken.encode TokenManager.hourly.secret c :=
    ⟨_, rfl⟩
  have hverify : Layer.atEpoch.tokens.verifyRefresh Layer.atEpoch.now token = .ok c.principal := by
    have hkind := TokenManager.verifyKind_handMade TokenManager.epoch ⟨3600, by decide⟩
      (by decide) (by decide)
    rw [← hc, ← htoken] at hkind
    unfold TokenManager.verifyRefresh Layer.atEpoch
    rw [hkind]
    rfl
  have hlength : (Text.bytes token).length ≤ 0x40000 := by
    have hmessage : (SignedToken.message c).length ≤ 1000 := by
      rw [hc]
      decide +kernel
    rw [htoken, SignedToken.bytes_encode, List.length_append, List.length_cons,
      SignedToken.length_signature]
    omega
  have hjson : Refresh.declaresJson
      [("content-type", Text.bytes "application/json; charset=utf-8")] = true := by decide
  have hpath : Target.path "/auth/refresh?from=cli" = refreshPath := by decide
  have hpresents : Refresh.Presents
      (exchanging.received Layer.atEpoch (exchangeOf token) ⟨0, 0⟩) token :=
    Refresh.presents_of_body hjson rfl hlength
  refine ⟨token, c.principal, hverify, ?_⟩
  obtain ⟨e, hstatus, hends, -⟩ := exchange_ends Layer.atEpoch exchanging (exchangeOf token) ⟨0, 0⟩
    exchanging_unambiguous List.mem_cons_self rfl hpath
  -- the other endings are for requests without a token, refused tokens, and the end of time
  cases hends with
  | unreadable hnone => exact absurd hpresents (hnone token)
  | refused hpresents' hrefused => nomatch hpresents.same_verdict hpresents' hverify hrefused
  | overflown _ _ hexpiry => exact absurd hexpiry (by decide)
  | granted hpresents' hverify' _ hgrants =>
    cases hpresents.same_verdict hpresents' hverify hverify'
    exact ⟨hstatus, hgrants⟩

end Application

end TenantAuth
