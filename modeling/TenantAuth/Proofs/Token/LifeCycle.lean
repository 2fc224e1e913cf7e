import TenantAuth.Proofs.Identity.RoleSet
import TenantAuth.Proofs.Token.Decode
import TenantAuth.Proofs.Token.Verify

/-!
# The life of a token

A token that a manager signs is one that the manager reads back: from the instant of its issue up to
and including its expiry it stands for the identity it was issued for, before it is invalid, and
afterwards it has expired.
-/
namespace TenantAuth

open Outcome

theorem Instant.add?_eq_some {t u : Instant} {secs : Int} :
    t.add? secs = some u ↔ u.seconds = t.seconds + secs := ofInt?_eq_some_iff

/-- An expiry exists as long as it fits 64 bits. -/
theorem Instant.exists_add? {t : Instant} {secs : Int} (hpos : 0 ≤ secs)
    (hfits : t.seconds + secs ≤ int64Max) :
    ∃ u, t.add? secs = some u ∧ u.seconds = t.seconds + secs := by
  have hlow : int64Min ≤ t.seconds := t.inRange.1
  have hrange : IsInt64 (t.seconds + secs) := ⟨by omega, hfits⟩
  exact ⟨⟨t.seconds + secs, hrange⟩, Instant.add?_eq_some.2 rfl, rfl⟩

/-! ## Windows -/

/-- The verdicts on a token that stands for `p` from `start` up to and including `stop`. -/
structure Lives (verdict : Instant → Except AuthError Principal) (p : Principal)
    (start stop : Int) : Prop where
  before : ∀ t : Instant, t.seconds < start → verdict t = .error .invalidToken
  within : ∀ t : Instant, start ≤ t.seconds → t.seconds ≤ stop → verdict t = .ok p
  after : ∀ t : Instant, stop < t.seconds → verdict t = .error .expiredToken

/-- A token of the right kind lives from its start to its expiry. -/
theorem TokenManager.lives_of_claims {m : TokenManager} {token : String} {kind : TokenKind}
    {c : TokenClaims} (h : m.claims token kind = .ok c) :
    Lives (fun t => (m.verifyKind t token kind).map TokenClaims.principal) c.principal
      c.notBefore.seconds c.expiry.seconds := by
  obtain ⟨-, -, -, hissued, hend⟩ := claims_eq_ok.1 h
  -- claims that are accepted have a window that is not empty
  have hwindow : c.notBefore.seconds ≤ c.expiry.seconds := Int.le_trans hissued hend
  constructor
  · intro t ht
    rw [verifyKind_of_claims h, TokenClaims.outcomeAt_before (Instant.lt_def.2 ht)]
    rfl
  · intro t hlow hhigh
    rw [verifyKind_of_claims h,
      TokenClaims.outcomeAt_within (Instant.le_def.2 hlow) (Instant.le_def.2 hhigh)]
    rfl
  · intro t ht
    have hstart : c.notBefore.seconds ≤ t.seconds := by omega
    rw [verifyKind_of_claims h,
      TokenClaims.outcomeAt_after (Instant.le_def.2 hstart) (Instant.lt_def.2 ht)]
    rfl

/-! ## Issued tokens -/

namespace TokenManager

theorem ttl_pos (m : TokenManager) (kind : TokenKind) : 0 < m.ttl kind := by
  have haccess := m.accessTtl_pos
  have hrefresh := m.accessTtl_le_refreshTtl
  cases kind with
  | access => exact haccess
  | refresh => exact Int.lt_of_lt_of_le haccess hrefresh

/-- Signing gives a token exactly where its expiry fits. -/
theorem sign_eq_ok {m : TokenManager} {now : Instant} {userId tenantId email : String}
    {roles : List String} {kind : TokenKind} {token : String} :
    m.sign now userId tenantId email roles kind = .ok token ↔
      ∃ expiry, expiry.seconds = now.seconds + m.ttl kind ∧
        token = SignedToken.encode m.secret
          { userId, tenantId, email, roles, kind, issuedAt := now, notBefore := now, expiry } := by
  rw [sign]
  -- signing fails only where the expiry is past the last instant
  cases hadd : now.add? (m.ttl kind) with
  | none =>
    constructor
    · nofun
    · rintro ⟨expiry, hexpiry, -⟩
      rw [Instant.add?_eq_some.2 hexpiry] at hadd
      cases hadd
  | some expiry =>
    constructor
    · intro h
      cases h
      exact ⟨expiry, Instant.add?_eq_some.1 hadd, rfl⟩
    · rintro ⟨expiry', hexpiry, rfl⟩
      rw [Instant.add?_eq_some.2 hexpiry] at hadd
      cases hadd
      rfl

/-- Signing only fails where the expiry does not fit. -/
theorem sign_eq_error {m : TokenManager} {now : Instant} {userId tenantId email : String}
    {roles : List String} {kind : TokenKind} {e : AuthError}
    (h : m.sign now userId tenantId email roles kind = .error e) :
    (∃ detail, e = .signing detail) ∧ int64Max < now.seconds + m.ttl kind := by
  rw [sign] at h
  cases hadd : now.add? (m.ttl kind) with
  | some expiry =>
    rw [hadd] at h
    cases h
  | none =>
    rw [hadd] at h
    cases h
    -- an expiry that fits could have been added
    refine ⟨⟨_, rfl⟩, Int.not_le.1 fun hfits => ?_⟩
    obtain ⟨expiry, hexpiry, -⟩ := Instant.exists_add? (Int.le_of_lt (m.ttl_pos kind)) hfits
    rw [hadd] at hexpiry
    cases hexpiry

/-- **A token passes the checks it was signed for,** if it names a user and starts at or after the
epoch. -/
theorem claims_encode {m : TokenManager} {c : TokenClaims} (hstart : 0 ≤ c.notBefore.seconds)
    (huser : c.userId ≠ "") (hissued : c.notBefore ≤ c.issuedAt) (hend : c.issuedAt ≤ c.expiry) :
    m.claims (SignedToken.encode m.secret c) c.kind = .ok c := by
  have hexpiry : 0 ≤ c.expiry.seconds := by
    rw [Instant.le_def] at hissued hend
    omega
  have hdecode := SignedToken.decode_encode m.secret hstart hexpiry
  exact claims_eq_ok.2 ⟨hdecode, rfl, huser, hissued, hend⟩

/-- What a freshly signed token carries. -/
theorem claims_of_sign {m : TokenManager} {now : Instant} {userId tenantId email : String}
    {roles : List String} {kind : TokenKind} {token : String} (hnow : 0 ≤ now.seconds)
    (huser : userId ≠ "") (h : m.sign now userId tenantId email roles kind = .ok token) :
    ∃ expiry, expiry.seconds = now.seconds + m.ttl kind ∧
      m.claims token kind = .ok ⟨userId, tenantId, email, roles, kind, now, now, expiry⟩ := by
  obtain ⟨expiry, hexpiry, rfl⟩ := sign_eq_ok.1 h
  have hend : now ≤ expiry := by
    have hpos := m.ttl_pos kind
    rw [Instant.le_def]
    omega
  exact ⟨expiry, hexpiry, claims_encode hnow huser (Int.le_refl _) hend⟩

/-- A freshly signed token stands for its identity from the instant of signing on. -/
theorem sign_life_cycle (m : TokenManager) {now : Instant} {userId : String}
    (tenantId email : String)
    (roles : List String) (kind : TokenKind) (hnow : 0 ≤ now.seconds) (huser : userId ≠ "")
    (hfits : now.seconds + m.ttl kind ≤ int64Max) :
    ∃ token, m.sign now userId tenantId email roles kind = .ok token ∧
      Lives (fun t => (m.verifyKind t token kind).map TokenClaims.principal)
        ⟨userId, tenantId, email, RoleSet.ofList roles⟩ now.seconds (now.seconds + m.ttl kind) := by
  obtain ⟨expiry, -, hexpiry⟩ := Instant.exists_add? (Int.le_of_lt (m.ttl_pos kind)) hfits
  obtain ⟨token, hsign⟩ : ∃ token, m.sign now userId tenantId email roles kind = .ok token :=
    ⟨_, sign_eq_ok.2 ⟨expiry, hexpiry, rfl⟩⟩
  obtain ⟨expiry', hexpiry', hclaims⟩ := claims_of_sign hnow huser hsign
  rw [← hexpiry']
  exact ⟨token, hsign, lives_of_claims hclaims⟩

/-- **A token stands for the identity it was issued for throughout its window and nowhere else.**
An access token carries the whole identity, a refresh token only the user and the tenant. -/
theorem issue_life_cycle (m : TokenManager) (now : Instant) (userId tenantId email : String)
    (roles : List String) (hnow : 0 ≤ now.seconds) (huser : userId ≠ "") :
    (now.seconds + m.accessTtl ≤ int64Max →
      ∃ token, m.issueAccess now userId tenantId email roles = .ok token ∧
        Lives (m.verify · token) ⟨userId, tenantId, email, RoleSet.ofList roles⟩
          now.seconds (now.seconds + m.accessTtl)) ∧
    (now.seconds + m.refreshTtl ≤ int64Max →
      ∃ token, m.issueRefresh now userId tenantId = .ok token ∧
        Lives (m.verifyRefresh · token) ⟨userId, tenantId, "", RoleSet.empty⟩
          now.seconds (now.seconds + m.refreshTtl)) := by
  constructor
  · intro hfits
    obtain ⟨token, hsign, hlives⟩ := m.sign_life_cycle tenantId email
      (RoleSet.ofList roles).toList .access hnow huser hfits
    rw [RoleSet.ofList_toList] at hlives
    exact ⟨token, hsign, hlives⟩
  · intro hfits
    obtain ⟨token, hsign, hlives⟩ := m.sign_life_cycle tenantId "" [] .refresh hnow huser hfits
    exact ⟨token, hsign, hlives⟩

/-- The instant from which seconds are counted. -/
def epoch : Instant := .wrap 0

/-- A manager whose access tokens live for a minute and whose refresh tokens for an hour. -/
def hourly : TokenManager where
  secret := [0x6B, 0x65, 0x79]
  accessTtl := 60
  refreshTtl := 3600
  secret_ne_nil := nofun
  accessTtl_pos := by decide
  accessTtl_le_refreshTtl := by decide
  refreshTtl_le_max := by decide

theorem issue_life_cycle_hourly :
    (∃ token, hourly.issueAccess epoch "ada" "acme" "ada@acme" ["b", "a", "b"] = .ok token ∧
      Lives (hourly.verify · token) ⟨"ada", "acme", "ada@acme", RoleSet.ofList ["b", "a", "b"]⟩
        0 (0 + 60)) ∧
    ∃ token, hourly.issueRefresh epoch "ada" "acme" = .ok token ∧
      Lives (hourly.verifyRefresh · token) ⟨"ada", "acme", "", RoleSet.empty⟩ 0 (0 + 3600) := by
  have h := issue_life_cycle hourly epoch "ada" "acme" "ada@acme" ["b", "a", "b"]
    (by decide) (by decide)
  exact ⟨h.1 (by decide), h.2 (by decide)⟩

end TokenManager

end TenantAuth
