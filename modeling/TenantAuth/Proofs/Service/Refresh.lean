import TenantAuth.Service.Refresh
import TenantAuth.Proofs.Envelope.ApiResponse
import TenantAuth.Proofs.Gate.Admission
import TenantAuth.Proofs.Token.Refresh

/-!
# How a token exchange ends

An exchange ends in one of four ways. `Presents` says which requests present a refresh token at all,
`Ends` what the answer to a request says in each of the ways, and `handle_ends` that the answer
always says one of these things. The conditions of the ways exclude each other (`Ends.unique`).
-/
namespace TenantAuth

open Json (objectText intText)
open Json.Reader (Reads Folds whole reads_record reads_string whole_eq_ok)
open Outcome

/-! ## The answer -/

namespace AccessTokenResponse

/-- A grant reads back. -/
theorem reads_reader (r : AccessTokenResponse) : Reads reader r.toJson.text r := by
  have htext : r.toJson.text = objectText [("access_token", Json.stringText r.accessToken),
      ("token_type", Json.stringText r.tokenType),
      ("expires_in", intText r.expiresIn.seconds)] := by
    simp [toJson, Json.text, Json.memberTexts]
  have hfolds : Folds Draft.member ⟨none, none, none⟩
      [("access_token", Json.stringText r.accessToken), ("token_type", Json.stringText r.tokenType),
        ("expires_in", intText r.expiresIn.seconds)]
      ⟨some r.accessToken, some r.tokenType, some r.expiresIn⟩ := by
    refine .cons (((reads_string r.accessToken).once "access_token").bind fun _ => rfl) ?_
    refine .cons (((reads_string r.tokenType).once "token_type").bind fun _ => rfl) ?_
    exact .cons (((TokenClaims.reads_instant r.expiresIn).once "expires_in").bind fun _ => rfl)
      (.nil _)
  rw [htext]
  exact reads_record "struct AccessTokenResponse" _ hfolds fun _ => rfl

end AccessTokenResponse

namespace Refresh

variable {env : Env} {r : Request} {token token' : String} {body body' : Bytes}

/-! ## The request -/

/-- The request says that its body is JSON, and its body is the record of a refresh token and no
longer than a body may be. -/
structure Presents (r : Request) (token : String) : Prop where
  json : declaresJson r.headers = true
  short : r.body.length ≤ maxBody
  reads : whole bodyReader r.body = .ok token

/-- A request presents one token at most. -/
theorem Presents.unique (h : Presents r token) (h' : Presents r token') : token = token' := by
  have hreads := h.reads
  rw [h'.reads] at hreads
  exact (Except.ok.inj hreads).symm

/-- There is one verdict on the token that a request presents. -/
theorem Presents.same_verdict {x y : Except AuthError Principal} (h : Presents r token)
    (h' : Presents r token') (hx : env.tokens.verifyRefresh env.now token = x)
    (hy : env.tokens.verifyRefresh env.now token' = y) : x = y := by
  rw [← hx, ← hy, h.unique h']

/-- The token of a request is the one that it presents. -/
theorem presentedToken_eq_ok : presentedToken r = .ok token ↔ Presents r token := by
  unfold presentedToken
  constructor
  · intro h
    split at h
    · cases h
    · next hjson =>
      split at h
      · cases h
      · next hlong =>
        refine ⟨by simpa using hjson, Nat.not_lt.1 hlong, whole_eq_ok.2 ?_⟩
        split at h
        · cases h
        · next t rest hread =>
          split at h
          · cases h
          -- the reader is asked first and the end of the text second, as for a whole text
          · next u last hlast =>
            cases h
            exact ⟨rest, hread, last, hlast⟩
  · rintro ⟨hjson, hshort, hreads⟩
    obtain ⟨rest, hread, last, hlast⟩ := whole_eq_ok.1 hreads
    have hdeclared : ¬ (!declaresJson r.headers) = true := by simp [hjson]
    rw [if_neg hdeclared, if_neg (Nat.not_lt.2 hshort), hread]
    dsimp only
    rw [hlast]

/-- A body with a refresh token and nothing else reads back as the token. -/
theorem reads_bodyReader (token : String) :
    Reads bodyReader (Json.obj [("refresh_token", .str token)]).text token := by
  have hfolds : Folds (fun (given : Option String) name =>
      if name = "refresh_token" then Json.Reader.once name given Json.Reader.string
      else do
        Json.Reader.skipMember name
        return given)
      none [("refresh_token", Json.stringText token)] (some token) := by
    refine .cons ?_ (.nil _)
    rw [if_pos rfl]
    exact (reads_string token).once "refresh_token"
  exact reads_record "struct RefreshRequest" _ hfolds fun _ => rfl

/-- A token of a quarter of a mebibyte can be presented, whatever has to be escaped in it. -/
theorem presents_of_body (hjson : declaresJson r.headers = true)
    (hbody : r.body = (Json.obj [("refresh_token", .str token)]).text)
    (hlength : (Text.bytes token).length ≤ 0x40000) : Presents r token := by
  -- the name, the colon and the braces take eighteen bytes
  have htext : (Json.obj [("refresh_token", .str token)]).text.length
      = 17 + (Json.stringText token).length + 1 := by
    simp only [Json.text, Json.memberTexts, Json.objectText, List.map_cons, List.map_nil,
      Json.commaSeparated, List.length_append, List.length_cons, List.length_nil]
    have hname : (Json.stringText "refresh_token").length = 15 := by decide
    omega
  have hshort := Json.Reader.length_stringText_le token
  refine ⟨hjson, ?_, ?_⟩
  · rw [hbody, htext]
    unfold maxBody
    omega
  · rw [hbody]
    exact (reads_bodyReader token).whole

/-! ## The four ways -/

/-- How an exchange ends. -/
inductive Ending where
  | unreadable
  | refused
  | overflown
  | granted
  deriving DecidableEq

/-- The status of the answer. -/
def Ending.status : Ending → Nat
  | .unreadable => 400
  | .refused => 401
  | .overflown => 500
  | .granted => 200

/-- The body of an answer that grants nothing. -/
def failureBody (r : Request) (code : ErrorCode) (message : String) : Bytes :=
  (ErrorEnvelope.failure code message r.context.correlationId).toJson.text

/-- The answer grants a token: its body reads as one, which lives for as long as the answer says and
opens what `requireAuth` guards for the principal. -/
def Grants (env : Env) (p : Principal) (body : Bytes) : Prop :=
  ∃ answer c, whole (ApiResponse.reader AccessTokenResponse.reader) body = .ok answer ∧
    answer.success = true ∧ answer.data.tokenType = "Bearer" ∧
    SignedToken.decode env.tokens.secret answer.data.accessToken = .ok c ∧
    answer.data.expiresIn.seconds = c.expiry.seconds - c.issuedAt.seconds ∧
    Layer.Opens env answer.data.accessToken p

/-- When an exchange ends in each of the ways, and what the body of the answer says then. -/
inductive Ends (env : Env) (r : Request) (body : Bytes) : Ending → Prop
  | unreadable {fault : BodyFault} (hnone : ∀ token, ¬ Presents r token)
      (hfault : presentedToken r = .error fault)
      (hbody : body = failureBody r .badRequest s!"Invalid request body: {fault.message}") :
      Ends env r body .unreadable
  | refused {token : String} {e : AuthError} (hpresents : Presents r token)
      (hverify : env.tokens.verifyRefresh env.now token = .error e)
      (hbody : body = failureBody r .unauthorized "Invalid or expired token") :
      Ends env r body .refused
  | overflown {token : String} {p : Principal} (hpresents : Presents r token)
      (hverify : env.tokens.verifyRefresh env.now token = .ok p)
      (hexpiry : int64Max < env.now.seconds + env.tokens.accessTtl)
      (hbody : body = failureBody r .internalError "Internal server error") :
      Ends env r body .overflown
  | granted {token : String} {p : Principal} (hpresents : Presents r token)
      (hverify : env.tokens.verifyRefresh env.now token = .ok p)
      (hexpiry : env.now.seconds + env.tokens.accessTtl ≤ int64Max)
      (hbody : Grants env p body) :
      Ends env r body .granted

/-- Whatever the answers say, the request alone decides in which way an exchange ends. -/
theorem Ends.unique {a b : Ending} (ha : Ends env r body a) (hb : Ends env r body' b) : a = b := by
  cases ha with
  -- a body presents one token at most, and the verifier has one verdict on it
  | unreadable hnone =>
    cases hb with
    | unreadable => rfl
    | refused hpresents | overflown hpresents | granted hpresents =>
      exact absurd hpresents (hnone _)
  | refused hpresents hverify =>
    cases hb with
    | unreadable hnone => exact absurd hpresents (hnone _)
    | refused => rfl
    | overflown hpresents' hverify' | granted hpresents' hverify' =>
      nomatch hpresents.same_verdict hpresents' hverify hverify'
  | overflown hpresents hverify hexpiry =>
    cases hb with
    | unreadable hnone => exact absurd hpresents (hnone _)
    | refused hpresents' hverify' => nomatch hpresents.same_verdict hpresents' hverify hverify'
    | overflown => rfl
    | granted hpresents' hverify' hexpiry' => omega
  | granted hpresents hverify hexpiry =>
    cases hb with
    | unreadable hnone => exact absurd hpresents (hnone _)
    | refused hpresents' hverify' => nomatch hpresents.same_verdict hpresents' hverify hverify'
    | overflown hpresents' hverify' hexpiry' => omega
    | granted => rfl

/-! ## The endpoint -/

/-- A request whose body cannot be read is told why. -/
theorem handle_of_unreadable {fault : BodyFault} (h : presentedToken r = .error fault) :
    handle env r = .json 400
      (failureBody r .badRequest s!"Invalid request body: {fault.message}") := by
  unfold handle exchange
  rw [h]
  rfl

/-- A token that is refused rejects the request. -/
theorem handle_of_refresh_error {e : AuthError} (h : presentedToken r = .ok token)
    (he : env.tokens.refresh env.now token = .error e) :
    handle env r = (r.context.reject e).toResponse := by
  have hrejected : (env.tokens.refresh env.now token).mapError r.context.reject
      = .error (r.context.reject e) := by
    rw [he]
    rfl
  have hexchange : exchange env r = .error (r.context.reject e) :=
    bind_eq_error.2 (.inr ⟨token, mapError_eq_ok.2 h, bind_eq_error.2 (.inl hrejected)⟩)
  rw [handle, hexchange]

/-- The answer to an exchange that gives the access token `a`. -/
def grant (env : Env) (r : Request) (a : String) : ApiResponse AccessTokenResponse :=
  (ApiResponse.ok ⟨a, "Bearer", expiresIn env.tokens⟩).withCorrelationId r.context.correlationId

/-- A token that is taken is answered with a grant. -/
theorem handle_of_refresh_ok {a : String} (h : presentedToken r = .ok token)
    (ha : env.tokens.refresh env.now token = .ok a) :
    handle env r = .json 200 ((grant env r a).toJson AccessTokenResponse.toJson).text := by
  have hexchange : exchange env r = .ok (grant env r a) :=
    bind_eq_ok.2 ⟨token, mapError_eq_ok.2 h, bind_eq_ok.2 ⟨a, mapError_eq_ok.2 ha, rfl⟩⟩
  rw [handle, hexchange]
  rfl

/-- What an exchange gives opens what `requireAuth` guards for the identity of the refresh token. -/
theorem grants_of_refresh {a : String} (ha : env.tokens.refresh env.now token = .ok a) :
    ∃ p, env.tokens.verifyRefresh env.now token = .ok p ∧
      env.now.seconds + env.tokens.accessTtl ≤ int64Max ∧
      Grants env p ((grant env r a).toJson AccessTokenResponse.toJson).text := by
  obtain ⟨c, hverify, hsign⟩ := TokenManager.refresh_eq_ok.1 ha
  have hnow := TokenManager.now_nonneg hverify
  obtain ⟨hclaims, -, -⟩ := TokenManager.verifyKind_eq_ok.1 hverify
  obtain ⟨-, -, huser, -, -⟩ := TokenManager.claims_eq_ok.1 hclaims
  obtain ⟨expiry, hexpiry, htoken⟩ := TokenManager.sign_eq_ok.1 hsign
  have hpos := env.tokens.accessTtl_pos
  have hend : env.now ≤ expiry := by
    rw [Instant.le_def, hexpiry, TokenManager.ttl]
    omega
  -- the claims are those that verification finds in the token that is minted
  have haccess := TokenManager.claims_encode (m := env.tokens)
    (c := ⟨c.userId, c.tenantId, c.email, c.roles, .access, env.now, env.now, expiry⟩)
    hnow huser (Int.le_refl _) hend
  refine ⟨c.principal, TokenManager.verifyRefresh_of_ok hverify, ?_, (grant env r a).written,
    ⟨c.userId, c.tenantId, c.email, c.roles, .access, env.now, env.now, expiry⟩,
    ?_, rfl, rfl, ?_, ?_, ?_⟩
  · have hmax := expiry.inRange.2
    rw [hexpiry] at hmax
    exact hmax
  · exact (ApiResponse.reads_reader (AccessTokenResponse.reads_reader _)).whole
  · show SignedToken.decode _ a = _
    rw [htoken]
    exact (TokenManager.claims_eq_ok.1 haccess).1
  · show env.tokens.accessTtl = expiry.seconds - env.now.seconds
    rw [hexpiry, TokenManager.ttl]
    omega
  · show Layer.Opens env a _
    rw [htoken]
    exact Layer.opens_encode haccess (Int.le_refl _) hend

/-- **Every exchange ends in one of the four ways.** -/
theorem handle_ends (env : Env) (r : Request) :
    ∃ e : Ending, (handle env r).status = e.status ∧ Ends env r (handle env r).body e := by
  cases hpresented : presentedToken r with
  | error fault =>
    have hnone : ∀ token, ¬ Presents r token := by
      intro token hpresents
      rw [presentedToken_eq_ok.2 hpresents] at hpresented
      cases hpresented
    rw [handle_of_unreadable hpresented]
    exact ⟨.unreadable, rfl, .unreadable hnone hpresented rfl⟩
  | ok token =>
    have hpresents := presentedToken_eq_ok.1 hpresented
    cases hrefresh : env.tokens.refresh env.now token with
    | ok a =>
      obtain ⟨p, hverify, hexpiry, hgrants⟩ := grants_of_refresh (r := r) hrefresh
      rw [handle_of_refresh_ok hpresented hrefresh]
      exact ⟨.granted, rfl, .granted hpresents hverify hexpiry hgrants⟩
    | error e =>
      rw [handle_of_refresh_error hpresented hrefresh]
      rcases TokenManager.refresh_eq_error.1 hrefresh with hrefused | ⟨c, hverify, hsign⟩
      · have hverify := TokenManager.verifyRefresh_of_error hrefused
        -- the two causes for which a token is refused read the same
        rcases TokenManager.error_of_verifyKind hrefused with rfl | rfl
        · exact ⟨.refused, rfl, .refused hpresents hverify rfl⟩
        · exact ⟨.refused, rfl, .refused hpresents hverify rfl⟩
      · obtain ⟨⟨detail, rfl⟩, hexpiry⟩ := TokenManager.sign_eq_error hsign
        exact ⟨.overflown, rfl,
          .overflown hpresents (TokenManager.verifyRefresh_of_ok hverify) hexpiry rfl⟩

end Refresh

end TenantAuth
