import TenantAuth.Proofs.Token.LifeCycle
import TenantAuth.Proofs.Token.Registered

/-!
# Exchanging refresh tokens

A refresh token is exchanged for an access token of the same identity, whoever wrote its payload.
What its claims say is signed once more as it was read, and no start before the epoch is ever read,
so that the new token is one that verifies.
-/
namespace TenantAuth.TokenManager

open Outcome

variable {m : TokenManager} {now : Instant} {r a : String}

/-- What is exchanged is the claims of a refresh token that is valid now. -/
theorem refresh_eq_ok :
    m.refresh now r = .ok a ↔ ∃ c, m.verifyKind now r .refresh = .ok c ∧
      m.sign now c.userId c.tenantId c.email c.roles .access = .ok a := by
  rw [refresh, bind_eq_ok]

/-- An exchange fails when the refresh token does, or when signing does. -/
theorem refresh_eq_error {e : AuthError} :
    m.refresh now r = .error e ↔ m.verifyKind now r .refresh = .error e ∨
      ∃ c, m.verifyKind now r .refresh = .ok c ∧
        m.sign now c.userId c.tenantId c.email c.roles .access = .error e := by
  rw [refresh, bind_eq_error]

/-- A refresh token that is refused is exchanged for nothing. -/
theorem refresh_of_refused {e : AuthError} (h : m.verifyRefresh now r = .error e) :
    m.refresh now r = .error e :=
  refresh_eq_error.2 (.inl (map_eq_error.1 h))

/-- A token that is valid now is so at or after the epoch. -/
theorem now_nonneg {kind : TokenKind} {c : TokenClaims} (h : m.verifyKind now r kind = .ok c) :
    0 ≤ now.seconds := by
  obtain ⟨hclaims, hstart, -⟩ := verifyKind_eq_ok.1 h
  obtain ⟨hdecode, -⟩ := claims_eq_ok.1 hclaims
  exact Int.le_trans (SignedToken.notBefore_nonneg hdecode) hstart

/-- An access token is no refresh token, whatever the time. -/
theorem verifyKind_of_access {c : TokenClaims} (h : m.claims a .access = .ok c) (t : Instant) :
    m.verifyKind t a .refresh = .error .invalidToken :=
  verifyKind_of_other h (by decide) t

/-- An exchange needs a refresh token that is valid now, and gives an access token that lives from
now on, for the same identity. -/
theorem claims_of_refresh (h : m.refresh now r = .ok a) :
    ∃ c c', m.claims r .refresh = .ok c ∧ c.notBefore ≤ now ∧ now ≤ c.expiry ∧
      m.claims a .access = .ok c' ∧ c'.principal = c.principal ∧ c'.issuedAt = now ∧
      c'.notBefore = now ∧ c'.expiry.seconds = now.seconds + m.accessTtl := by
  obtain ⟨c, hverify, hsign⟩ := refresh_eq_ok.1 h
  obtain ⟨hclaims, hstart, hend⟩ := verifyKind_eq_ok.1 hverify
  obtain ⟨-, -, huser, -, -⟩ := claims_eq_ok.1 hclaims
  obtain ⟨expiry, hexpiry, hminted⟩ := claims_of_sign (now_nonneg hverify) huser hsign
  exact ⟨c, _, hclaims, hstart, hend, hminted, rfl, rfl, rfl, hexpiry⟩

/-- **An exchange keeps the identity and escalates nothing.** The access token stands for what the
refresh token stands for, lives from now on, and is itself not exchanged. An exchange only fails
where the refresh token is refused, or where the expiry of the access token would not fit. -/
theorem refresh_keeps_identity (m : TokenManager) (now : Instant) (r : String) :
    (∀ a, m.refresh now r = .ok a →
      ∃ p c, m.verify now a = .ok p ∧ m.verifyRefresh now r = .ok p ∧
        SignedToken.decode m.secret a = .ok c ∧ c.kind = .access ∧
        c.issuedAt = now ∧ c.notBefore = now ∧ c.expiry.seconds = now.seconds + m.accessTtl ∧
        (∀ t, m.verifyRefresh t a = .error .invalidToken) ∧
        ∀ t, m.refresh t a = .error .invalidToken) ∧
    ∀ e, m.refresh now r = .error e →
      m.verifyRefresh now r = .error e ∨
        ∃ p detail, m.verifyRefresh now r = .ok p ∧ e = .signing detail ∧
          int64Max < now.seconds + m.accessTtl := by
  constructor
  · intro a ha
    obtain ⟨c, hverify, hsign⟩ := refresh_eq_ok.1 ha
    -- no start before the epoch is read, and the refresh token has started
    have hnow : 0 ≤ now.seconds := now_nonneg hverify
    obtain ⟨hclaims, -, -⟩ := verifyKind_eq_ok.1 hverify
    obtain ⟨-, -, huser, -, -⟩ := claims_eq_ok.1 hclaims
    obtain ⟨expiry, hexpiry, hminted⟩ := claims_of_sign hnow huser hsign
    obtain ⟨hdecode, -⟩ := claims_eq_ok.1 hminted
    have hwithin : now.seconds ≤ expiry.seconds := by
      have hpos := m.accessTtl_pos
      rw [hexpiry, ttl]
      omega
    have hlives := (lives_of_claims hminted).within now (Int.le_refl _) hwithin
    refine ⟨c.principal, _, hlives, ?_, hdecode,
      rfl, rfl, rfl, hexpiry, fun t => ?_, fun t => ?_⟩
    · rw [verifyRefresh, hverify]
      rfl
    · rw [verifyRefresh, verifyKind_of_access hminted]
      rfl
    · rw [refresh, verifyKind_of_access hminted]
      rfl
  · intro e he
    rcases refresh_eq_error.1 he with hrefused | ⟨c, hverify, hsign⟩
    · left
      rw [verifyRefresh, hrefused]
      rfl
    · right
      obtain ⟨⟨detail, hdetail⟩, hend⟩ := sign_eq_error hsign
      refine ⟨c.principal, detail, ?_, hdetail, hend⟩
      rw [verifyRefresh, hverify]
      rfl

/-- The claims of a refresh token that nobody issues: they name an email, and a role twice. -/
def handMade (start expiry : Instant) : TokenClaims :=
  ⟨"ada", "acme", "ada@acme", ["b", "a", "b"], .refresh, start, start, expiry⟩

theorem verifyKind_handMade (start expiry : Instant) (hstart : 0 ≤ start.seconds)
    (hend : start ≤ expiry) :
    hourly.verifyKind start (SignedToken.encode hourly.secret (handMade start expiry)) .refresh
      = .ok (handMade start expiry) :=
  have huser : "ada" ≠ "" := by decide
  verifyKind_eq_ok.2 ⟨claims_encode hstart huser (Int.le_refl _) hend, Int.le_refl _, hend⟩

theorem refresh_keeps_identity_hourly :
    (∃ r a p c, hourly.refresh epoch r = .ok a ∧
      hourly.verify epoch a = .ok p ∧ hourly.verifyRefresh epoch r = .ok p ∧
      SignedToken.decode hourly.secret a = .ok c ∧ c.kind = .access ∧ c.expiry.seconds = 60) ∧
    ∃ r p detail, hourly.refresh ⟨int64Max - 30, by decide⟩ r = .error (.signing detail) ∧
      hourly.verifyRefresh ⟨int64Max - 30, by decide⟩ r = .ok p := by
  constructor
  · have hverify := verifyKind_handMade epoch ⟨3600, by decide⟩ (by decide) (by decide)
    have hrefresh := refresh_eq_ok.2 ⟨_, hverify, sign_eq_ok.2 ⟨⟨60, by decide⟩, rfl, rfl⟩⟩
    obtain ⟨p, c, haccess, hp, hdecode, hkind, -, -, hexpiry, -⟩ :=
      (refresh_keeps_identity hourly _ _).1 _ hrefresh
    exact ⟨_, _, p, c, hrefresh, haccess, hp, hdecode, hkind, hexpiry⟩
  -- half a minute before the last instant the access token would outlive it
  · have hverify := verifyKind_handMade ⟨int64Max - 30, by decide⟩ ⟨int64Max, by decide⟩ (by decide)
      (by decide)
    have hrefresh := refresh_eq_error.2 (.inr ⟨_, hverify, rfl⟩)
    have hfails := (refresh_keeps_identity hourly _ _).2 _ hrefresh
    rcases hfails with hrefused | ⟨p, detail, hp, hdetail, -⟩
    · rw [verifyRefresh, hverify] at hrefused
      cases hrefused
    · rw [hdetail] at hrefresh
      exact ⟨_, p, detail, hrefresh, hp⟩

end TenantAuth.TokenManager
