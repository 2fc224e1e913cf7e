import TenantAuth.Proofs.Token.Refresh

/-!
# Sessions end

A session is what a refresh token gives rise to: the access tokens that it is exchanged for. The
clock is in the hands of the caller, who may turn it forwards and backwards and over its end between
any two calls. Since an access token is exchanged for nothing, and a refresh token only between its
start and its expiry, no order of calls and clock settings makes a session outlive both lifetimes.
-/
namespace TenantAuth.TokenManager

variable {m : TokenManager} {start now t t₀ : Instant} {calls : List Call} {r a tok : String}

/-! ## Runs -/

/-- What a caller can ask of a manager and its clock. -/
inductive Call where
  | issueAccess (userId tenantId email : String) (roles : List String)
  | issueRefresh (userId tenantId : String)
  | refresh (token : String)
  | verify (token : String)
  | verifyRefresh (token : String)
  | setClock (now : Instant)
  | advanceClock (secs : Int)

/-- What a call answers. -/
inductive Answer where
  | token (result : Except AuthError String)
  | identity (result : Except AuthError Principal)
  | done

/-- The answer to a call at the instant `now`. -/
def Call.answer (m : TokenManager) (now : Instant) : Call → Answer
  | .issueAccess userId tenantId email roles =>
    .token (m.issueAccess now userId tenantId email roles)
  | .issueRefresh userId tenantId => .token (m.issueRefresh now userId tenantId)
  | .refresh token => .token (m.refresh now token)
  | .verify token => .identity (m.verify now token)
  | .verifyRefresh token => .identity (m.verifyRefresh now token)
  | .setClock _ | .advanceClock _ => .done

/-- The clock after a call, which showed `now` before. -/
def Call.clock (now : Instant) : Call → Instant
  | .setClock t => t
  | .advanceClock secs => now.advance secs
  | _ => now

/-- A call with the instant of its making and its answer. -/
structure Event where
  time : Instant
  call : Call
  answer : Answer

/-- The events of a run, whose clock shows `now` at first. -/
def history (m : TokenManager) (now : Instant) : List Call → List Event
  | [] => []
  | call :: rest => ⟨now, call, call.answer m now⟩ :: history m (call.clock now) rest

/-- However the clock is turned, each call of a run is answered by what the clock shows then. -/
theorem answer_of_mem_history {e : Event} (h : e ∈ history m start calls) :
    e.answer = e.call.answer m e.time := by
  induction calls generalizing start with
  | nil => cases h
  | cons call rest ih =>
    rcases List.mem_cons.1 h with rfl | h
    · rfl
    · exact ih h

/-- The tokens that a run has made of `r` by exchanges, of `r` itself or of what came of it. -/
inductive Descends (events : List Event) (r : String) : String → Prop where
  | first {now : Instant} {a : String} (h : ⟨now, .refresh r, .token (.ok a)⟩ ∈ events) :
      Descends events r a
  | next {now : Instant} {a b : String} (ha : Descends events r a)
      (h : ⟨now, .refresh a, .token (.ok b)⟩ ∈ events) : Descends events r b

theorem refresh_of_mem_history
    (h : ⟨now, .refresh r, .token (.ok a)⟩ ∈ history m start calls) : m.refresh now r = .ok a := by
  have hanswer : Answer.token (.ok a) = .token (m.refresh now r) := answer_of_mem_history h
  exact (Answer.token.inj hanswer).symm

/-! ## Where a token counts -/

/-- Some use of the token succeeds at the instant `t`. -/
def Accepts (m : TokenManager) (t : Instant) (token : String) : Prop :=
  (∃ p, m.verify t token = .ok p) ∨ (∃ p, m.verifyRefresh t token = .ok p) ∨
    ∃ a, m.refresh t token = .ok a

/-- No use succeeds outside the window of the claims that the token carries. -/
theorem Accepts.window (h : m.Accepts t tok) :
    ∃ c, SignedToken.decode m.secret tok = .ok c ∧ c.notBefore ≤ t ∧ t ≤ c.expiry := by
  have hverified : ∃ kind c, m.verifyKind t tok kind = .ok c := by
    rcases h with ⟨p, hp⟩ | ⟨p, hp⟩ | ⟨a, ha⟩
    · exact ⟨.access, exists_principal_iff.1 ⟨p, hp⟩⟩
    · exact ⟨.refresh, exists_principal_iff.1 ⟨p, hp⟩⟩
    · obtain ⟨c, hc, -⟩ := refresh_eq_ok.1 ha
      exact ⟨.refresh, c, hc⟩
  obtain ⟨kind, c, hc⟩ := hverified
  obtain ⟨hclaims, hwindow⟩ := verifyKind_eq_ok.1 hc
  exact ⟨c, (claims_eq_ok.1 hclaims).1, hwindow⟩

/-- A refresh token carries what it was issued with, if it carries anything. -/
theorem claims_of_issueRefresh {userId tenantId : String} {c : TokenClaims}
    (hr : m.issueRefresh t₀ userId tenantId = .ok r)
    (h : SignedToken.decode m.secret r = .ok c) :
    c.kind = .refresh ∧ c.notBefore = t₀ ∧ c.expiry.seconds = t₀.seconds + m.refreshTtl := by
  obtain ⟨expiry, hexpiry, rfl⟩ := sign_eq_ok.1 hr
  cases SignedToken.eq_of_decode_encode h
  exact ⟨rfl, rfl, hexpiry⟩

/-- The claims of an access token of the session that starts at `t₀`. -/
structure InSession (m : TokenManager) (t₀ : Instant) (c : TokenClaims) : Prop where
  kind_eq : c.kind = .access
  start_le : t₀ ≤ c.issuedAt
  issued_le : c.issuedAt.seconds ≤ t₀.seconds + m.refreshTtl
  notBefore_eq : c.notBefore = c.issuedAt
  expiry_eq : c.expiry.seconds = c.issuedAt.seconds + m.accessTtl

/-- Whatever comes of a refresh token was issued while it lasted. -/
theorem Descends.claims {userId tenantId : String}
    (hr : m.issueRefresh t₀ userId tenantId = .ok r) (h : Descends (history m start calls) r a) :
    ∃ c, m.claims a .access = .ok c ∧ m.InSession t₀ c := by
  induction h with
  | first h =>
    obtain ⟨c, c', hc, hlow, hhigh, hc', -, hissued, hstart, hexpiry⟩ :=
      claims_of_refresh (refresh_of_mem_history h)
    obtain ⟨-, hstart₀, hexpiry₀⟩ := claims_of_issueRefresh hr (claims_eq_ok.1 hc).1
    refine ⟨c', hc', (claims_eq_ok.1 hc').2.1, ?_, ?_, ?_, ?_⟩
    · rw [hissued, ← hstart₀]
      exact hlow
    · rw [hissued, ← hexpiry₀]
      exact hhigh
    · rw [hissued, hstart]
    · rw [hissued, hexpiry]
  | next ha h ih =>
    -- an access token is exchanged for nothing
    obtain ⟨c, hc, -⟩ := ih
    obtain ⟨c', hc', -⟩ := refresh_eq_ok.1 (refresh_of_mem_history h)
    rw [verifyKind_of_access hc] at hc'
    cases hc'

/-- **A session ends with its refresh token and the last access token got for it.** In every run,
what comes of a refresh token are access tokens that were issued while it lasted and come to nothing
themselves, and no token of the session counts before its start or once both lifetimes are over. -/
theorem session_is_bounded (m : TokenManager) (start : Instant) (calls : List Call) (t₀ : Instant)
    (userId tenantId r : String)
    (hr : ⟨t₀, .issueRefresh userId tenantId, .token (.ok r)⟩ ∈ history m start calls) :
    (∀ a, Descends (history m start calls) r a →
      (∃ c, SignedToken.decode m.secret a = .ok c ∧ m.InSession t₀ c) ∧
        ∀ t, m.refresh t a = .error .invalidToken) ∧
    ∀ token, token = r ∨ Descends (history m start calls) r token →
      ∀ t : Instant, t < t₀ ∨ t₀.seconds + m.refreshTtl + m.accessTtl < t.seconds →
        ¬ m.Accepts t token := by
  have hissue : m.issueRefresh t₀ userId tenantId = .ok r := by
    have hanswer : Answer.token (.ok r) = .token (m.issueRefresh t₀ userId tenantId) :=
      answer_of_mem_history hr
    exact (Answer.token.inj hanswer).symm
  constructor
  · intro a ha
    obtain ⟨c, hc, hsession⟩ := ha.claims hissue
    refine ⟨⟨c, (claims_eq_ok.1 hc).1, hsession⟩, fun t => ?_⟩
    rw [refresh, verifyKind_of_access hc]
    rfl
  · intro token htoken t ht haccepts
    obtain ⟨c, hdecode, hlow, hhigh⟩ := haccepts.window
    have haccess := m.accessTtl_pos
    rw [Instant.le_def] at hlow hhigh
    rw [Instant.lt_def] at ht
    -- the refresh token itself, or an access token that descends from it
    rcases htoken with rfl | ha
    · obtain ⟨-, hstart, hexpiry⟩ := claims_of_issueRefresh hissue hdecode
      rw [hstart] at hlow
      omega
    · obtain ⟨c', hc', hsession⟩ := ha.claims hissue
      rw [(claims_eq_ok.1 hc').1] at hdecode
      cases hdecode
      have hstart := hsession.start_le
      have hissued := hsession.issued_le
      have hexpiry := hsession.expiry_eq
      rw [hsession.notBefore_eq] at hlow
      rw [Instant.le_def] at hstart
      omega

/-- The claims of the refresh token in a session that starts at the epoch. -/
def adaSession : TokenClaims :=
  ⟨"ada", "acme", "", [], .refresh, epoch, epoch, epoch.advance 3600⟩

/-- A session that is refreshed after a hundred seconds, whereupon the clock is turned back. -/
theorem session_is_bounded_hourly :
    ∃ r a calls, ⟨epoch, .issueRefresh "ada" "acme", .token (.ok r)⟩ ∈ history hourly epoch calls ∧
      Descends (history hourly epoch calls) r a ∧
      (∃ c, SignedToken.decode hourly.secret a = .ok c ∧ hourly.InSession epoch c) ∧
      ¬ hourly.Accepts ⟨3661, by decide⟩ a := by
  let r := SignedToken.encode hourly.secret adaSession
  have hissue : hourly.issueRefresh epoch "ada" "acme" = .ok r :=
    sign_eq_ok.2 ⟨epoch.advance 3600, by decide, rfl⟩
  have hclaims : hourly.claims r .refresh = .ok adaSession :=
    claims_encode (by decide) (by decide) (by decide) (by decide)
  have hverify : hourly.verifyKind (epoch.advance 100) r .refresh = .ok adaSession :=
    verifyKind_eq_ok.2 ⟨hclaims, by decide, by decide⟩
  -- the refresh token is exchanged once, while it lives
  obtain ⟨a, hsign⟩ : ∃ a, hourly.sign (epoch.advance 100) "ada" "acme" "" [] .access = .ok a :=
    ⟨_, sign_eq_ok.2 ⟨⟨160, by decide⟩, by decide, rfl⟩⟩
  have hrefresh : hourly.refresh (epoch.advance 100) r = .ok a :=
    refresh_eq_ok.2 ⟨adaSession, hverify, hsign⟩
  let calls : List Call :=
    [.issueRefresh "ada" "acme", .advanceClock 100, .refresh r, .setClock epoch]
  have hr : ⟨epoch, .issueRefresh "ada" "acme", .token (.ok r)⟩ ∈ history hourly epoch calls := by
    rw [← hissue]
    exact List.mem_cons_self
  have hexchange :
      ⟨epoch.advance 100, .refresh r, .token (.ok a)⟩ ∈ history hourly epoch calls := by
    rw [← hrefresh]
    exact List.mem_cons_of_mem _ (List.mem_cons_of_mem _ List.mem_cons_self)
  have ha : Descends (history hourly epoch calls) r a := .first hexchange
  obtain ⟨hsession, hbounds⟩ := session_is_bounded hourly epoch calls epoch "ada" "acme" r hr
  exact ⟨r, a, calls, hr, ha, (hsession a ha).1, hbounds a (.inr ha) _ (.inr (by decide))⟩

end TenantAuth.TokenManager
