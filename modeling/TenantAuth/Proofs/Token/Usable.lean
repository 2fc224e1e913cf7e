import TenantAuth.Proofs.Token.Refresh

/-!
# Which minted tokens are of use

Signing takes any user and any instant; a verifier wants a user with a name, and reads no start
before the epoch. So what is minted for a named user at or after the epoch is accepted at once, and
what is minted for nobody, or before the epoch, is accepted by no verifier at any instant
(`verifyKind_of_useless`). Minting does not tell the two apart: it only fails where the expiry does
not fit.
-/
namespace TenantAuth.TokenManager

variable {m : TokenManager} {now : Instant} {userId tenantId email token : String}
  {roles : List String} {kind : TokenKind}

/-- A token can be minted whenever its expiry fits, whoever it is for. -/
theorem exists_sign_iff :
    (∃ token, m.sign now userId tenantId email roles kind = .ok token) ↔
      now.seconds + m.ttl kind ≤ int64Max := by
  constructor
  · rintro ⟨token, hsign⟩
    obtain ⟨expiry, hexpiry, -⟩ := sign_eq_ok.1 hsign
    have hfits := expiry.inRange.2
    omega
  · intro hfits
    obtain ⟨expiry, -, hexpiry⟩ := Instant.exists_add? (Int.le_of_lt (m.ttl_pos kind)) hfits
    exact ⟨_, sign_eq_ok.2 ⟨expiry, hexpiry, rfl⟩⟩

/-- A token for a named user that starts at or after the epoch is accepted as it is minted. -/
theorem verifyKind_of_sign (hsign : m.sign now userId tenantId email roles kind = .ok token)
    (huser : userId ≠ "") (hnow : 0 ≤ now.seconds) : ∃ c, m.verifyKind now token kind = .ok c := by
  obtain ⟨expiry, hexpiry, hclaims⟩ := claims_of_sign hnow huser hsign
  have hend : now ≤ expiry := by
    have hpos := m.ttl_pos kind
    rw [Instant.le_def]
    omega
  exact ⟨_, verifyKind_eq_ok.2 ⟨hclaims, Int.le_refl _, hend⟩⟩

/-- **A token for nobody, or from before the epoch, is accepted by no verifier.** -/
theorem verifyKind_of_useless (hsign : m.sign now userId tenantId email roles kind = .ok token)
    (huseless : userId = "" ∨ now.seconds < 0) (t : Instant) :
    m.verifyKind t token kind = .error .invalidToken := by
  obtain ⟨expiry, -, rfl⟩ := sign_eq_ok.1 hsign
  cases hclaims : m.claims _ kind with
  | error r => exact verifyKind_of_error hclaims t
  | ok c =>
    -- whatever the token carries is what it was signed for
    obtain ⟨hdecode, -, huser, -⟩ := claims_eq_ok.1 hclaims
    have hepoch : 0 ≤ c.notBefore.seconds := SignedToken.notBefore_nonneg hdecode
    cases SignedToken.eq_of_decode_encode hdecode
    rcases huseless with hnobody | hearly
    · exact absurd hnobody huser
    · exact absurd hearly (Int.not_lt.2 hepoch)

/-- A minted token is accepted as it is minted just when it is for a named user and starts at or
after the epoch; any other is refused for good. -/
theorem usable_of_sign (hsign : m.sign now userId tenantId email roles kind = .ok token) :
    ((∃ p, (m.verifyKind now token kind).map TokenClaims.principal = .ok p) ↔
      userId ≠ "" ∧ 0 ≤ now.seconds) ∧
    ((∃ p, (m.verifyKind now token kind).map TokenClaims.principal = .ok p) ∨
      ∀ t, (m.verifyKind t token kind).map TokenClaims.principal = .error .invalidToken) := by
  rw [exists_principal_iff]
  by_cases hgood : userId ≠ "" ∧ 0 ≤ now.seconds
  · have haccepted := verifyKind_of_sign hsign hgood.1 hgood.2
    exact ⟨⟨fun _ => hgood, fun _ => haccepted⟩, .inl haccepted⟩
  -- a token that is not good at once is not good later either
  · have huseless : userId = "" ∨ now.seconds < 0 := by
      by_cases huser : userId = ""
      · exact .inl huser
      · exact .inr (Int.not_le.1 fun hnow => hgood ⟨huser, hnow⟩)
    have hrefused := verifyKind_of_useless hsign huseless
    refine ⟨⟨?_, fun h => absurd h hgood⟩, .inr fun t => ?_⟩
    · rintro ⟨c, hc⟩
      rw [hrefused] at hc
      cases hc
    · rw [hrefused]
      rfl

/-- **A minted token is of use just when it is for a named user and starts at or after the epoch.**
Then its verifier accepts it at once; otherwise it is invalid at every instant, and yet it is
minted: nothing but an expiry that does not fit is refused. -/
theorem minted_token_usable_iff (m : TokenManager) (now : Instant) (userId tenantId email : String)
    (roles : List String) :
    ((∃ token, m.issueAccess now userId tenantId email roles = .ok token) ↔
      now.seconds + m.accessTtl ≤ int64Max) ∧
    (∀ token, m.issueAccess now userId tenantId email roles = .ok token →
      ((∃ p, m.verify now token = .ok p) ↔ userId ≠ "" ∧ 0 ≤ now.seconds) ∧
      ((∃ p, m.verify now token = .ok p) ∨ ∀ t, m.verify t token = .error .invalidToken)) ∧
    ((∃ token, m.issueRefresh now userId tenantId = .ok token) ↔
      now.seconds + m.refreshTtl ≤ int64Max) ∧
    (∀ token, m.issueRefresh now userId tenantId = .ok token →
      ((∃ p, m.verifyRefresh now token = .ok p) ↔ userId ≠ "" ∧ 0 ≤ now.seconds) ∧
      ((∃ p, m.verifyRefresh now token = .ok p) ∨
        ∀ t, m.verifyRefresh t token = .error .invalidToken)) :=
  ⟨exists_sign_iff, fun _ hsign => usable_of_sign hsign,
    exists_sign_iff, fun _ hsign => usable_of_sign hsign⟩

theorem minted_token_usable_iff_hourly :
    ∃ token p, hourly.issueAccess epoch "ada" "acme" "ada@acme" ["admin"] = .ok token ∧
      hourly.verify epoch token = .ok p := by
  obtain ⟨hmint, haccess, -⟩ :=
    minted_token_usable_iff hourly epoch "ada" "acme" "ada@acme" ["admin"]
  obtain ⟨token, htoken⟩ := hmint.2 (by decide)
  obtain ⟨p, hp⟩ := (haccess token htoken).1.2 ⟨by decide, by decide⟩
  exact ⟨token, p, htoken, hp⟩

/-- Tokens are minted that are of no use: for nobody, and at an instant before the epoch. -/
theorem useless_token_is_minted :
    (∃ token, hourly.issueAccess epoch "" "acme" "ada@acme" ["admin"] = .ok token ∧
      ∀ t, hourly.verify t token = .error .invalidToken) ∧
    ∃ token, hourly.issueRefresh ⟨-1, by decide⟩ "ada" "acme" = .ok token ∧
      ∀ t, hourly.verifyRefresh t token = .error .invalidToken := by
  have hnobody : ∃ token, hourly.issueAccess epoch "" "acme" "ada@acme" ["admin"] = .ok token :=
    exists_sign_iff.2 (by decide)
  -- signing looks at neither the name of the user nor the sign of the clock
  have hearly : ∃ token, hourly.issueRefresh ⟨-1, by decide⟩ "ada" "acme" = .ok token :=
    exists_sign_iff.2 (by decide)
  constructor
  · obtain ⟨token, hsign⟩ := hnobody
    refine ⟨token, hsign, fun t => ?_⟩
    rw [verify, verifyKind_of_useless hsign (.inl rfl) t]
    rfl
  · obtain ⟨token, hsign⟩ := hearly
    refine ⟨token, hsign, fun t => ?_⟩
    rw [verifyRefresh, verifyKind_of_useless hsign (.inr (by decide)) t]
    rfl

end TenantAuth.TokenManager
