import TenantAuth.Proofs.Token.Refresh

/-!
# The window of a string

What a verifier says of one string, at all instants. The clock decides only between the start and
the expiry of the claims that the string carries; that it carries claims, and of which kind, is
settled by the secret alone (`claims_congr`). So a string has either one window or none at all.
-/
namespace TenantAuth.TokenManager

variable {m m' : TokenManager} {token : String} {kind : TokenKind}

/-- The string is taken for a token, be it one that has expired. -/
def Recognised (verdict : Except AuthError TokenClaims) : Prop :=
  (∃ c, verdict = .ok c) ∨ verdict = .error .expiredToken

/-- The verdicts on a string that carries the claims `c` of a kind, as the clock ranges over all
instants. -/
structure Window (verdict : Instant → Except AuthError TokenClaims) (kind : TokenKind)
    (c : TokenClaims) : Prop where
  kind_eq : c.kind = kind
  user_ne : c.userId ≠ ""
  epoch_le : 0 ≤ c.notBefore.seconds
  start_le : c.notBefore ≤ c.issuedAt
  issued_le : c.issuedAt ≤ c.expiry
  before : ∀ t, t < c.notBefore → verdict t = .error .invalidToken
  within : ∀ t, c.notBefore ≤ t → t ≤ c.expiry → verdict t = .ok c
  after : ∀ t, c.expiry < t → verdict t = .error .expiredToken

/-- Claims are accepted in their window and nowhere else. -/
theorem window_of_claims {c : TokenClaims} (h : m.claims token kind = .ok c) :
    Window (m.verifyKind · token kind) kind c := by
  obtain ⟨hdecode, hkind, huser, hstart, hend⟩ := claims_eq_ok.1 h
  have hepoch : 0 ≤ c.notBefore.seconds := SignedToken.notBefore_nonneg hdecode
  refine ⟨hkind, huser, hepoch, hstart, hend, ?_, ?_, ?_⟩
  · intro t ht
    simp only [verifyKind_of_claims h]
    exact TokenClaims.outcomeAt_before ht
  · intro t hlow hhigh
    simp only [verifyKind_of_claims h]
    exact TokenClaims.outcomeAt_within hlow hhigh
  · intro t ht
    -- after the expiry is also after the start
    have hlow : c.notBefore ≤ t := by
      rw [Instant.le_def] at hstart hend ⊢
      rw [Instant.lt_def] at ht
      omega
    simp only [verifyKind_of_claims h]
    exact TokenClaims.outcomeAt_after hlow ht

/-- A string is recognised only where it carries claims of the kind, and has started. -/
theorem claims_of_recognised {t : Instant} (h : Recognised (m.verifyKind t token kind)) :
    ∃ c, m.claims token kind = .ok c ∧ c.notBefore ≤ t := by
  cases hclaims : m.claims token kind with
  | error r =>
    rw [verifyKind_of_error hclaims] at h
    rcases h with ⟨c, hc⟩ | hc <;> cases hc
  | ok c =>
    refine ⟨c, rfl, Instant.not_lt.1 fun hbefore => ?_⟩
    rw [(window_of_claims hclaims).before t hbefore] at h
    rcases h with ⟨c, hc⟩ | hc <;> cases hc

/-- The lifetimes of a manager play no part in what its tokens carry. -/
theorem claims_congr (h : m'.secret = m.secret) : m'.claims token kind = m.claims token kind := by
  unfold claims
  rw [h]

theorem verifyKind_congr (h : m'.secret = m.secret) (t : Instant) :
    m'.verifyKind t token kind = m.verifyKind t token kind := by
  unfold verifyKind claimsAt
  rw [claims_congr h]

/-- No string carries claims of two kinds. -/
theorem kind_unique {kind' : TokenKind} {c c' : TokenClaims} (h : m.claims token kind = .ok c)
    (h' : m.claims token kind' = .ok c') : kind = kind' := by
  obtain ⟨hdecode, hkind, -⟩ := claims_eq_ok.1 h
  obtain ⟨hdecode', hkind', -⟩ := claims_eq_ok.1 h'
  have hsame : c = c' := by
    rw [hdecode] at hdecode'
    cases hdecode'
    rfl
  rw [← hkind, ← hkind', hsame]

/-- **A string is either invalid at every instant or has one window.** Which of the two, and where
the window lies, depends on the secret and the kind asked for, and not on the lifetimes; no string
has a window for both kinds; and whatever is reported as expired was accepted before. -/
theorem acceptance_window (m : TokenManager) (token : String) (kind : TokenKind) :
    (((∀ t, m.verifyKind t token kind = .error .invalidToken) ∨
        ∃ c, Window (m.verifyKind · token kind) kind c) ∧
      ¬ ((∀ t, m.verifyKind t token kind = .error .invalidToken) ∧
        ∃ c, Window (m.verifyKind · token kind) kind c)) ∧
    (∀ m' : TokenManager, m'.secret = m.secret →
      ∀ t, m'.verifyKind t token kind = m.verifyKind t token kind) ∧
    (∀ t t', ¬ (Recognised (m.verifyKind t token .access) ∧
      Recognised (m.verifyKind t' token .refresh))) ∧
    (∀ t, m.verifyKind t token kind = .error .expiredToken →
      ∃ t' c, t' < t ∧ m.verifyKind t' token kind = .ok c) := by
  refine ⟨⟨?_, ?_⟩, fun m' hsecret t => verifyKind_congr hsecret t, ?_, ?_⟩
  · cases hclaims : m.claims token kind with
    | error r => exact .inl fun t => verifyKind_of_error hclaims t
    | ok c => exact .inr ⟨c, window_of_claims hclaims⟩
  · rintro ⟨hinvalid, c, hwindow⟩
    -- the window is not empty: the start lies in it
    have hstart : m.verifyKind c.notBefore token kind = .ok c :=
      hwindow.within c.notBefore (Int.le_refl _) (Int.le_trans hwindow.start_le hwindow.issued_le)
    rw [hinvalid] at hstart
    cases hstart
  · rintro t t' ⟨haccess, hrefresh⟩
    obtain ⟨c, hc, -⟩ := claims_of_recognised haccess
    obtain ⟨c', hc', -⟩ := claims_of_recognised hrefresh
    cases kind_unique hc hc'
  · intro t hexpired
    obtain ⟨c, hc, hstarted⟩ := claims_of_recognised (.inr hexpired)
    have hwindow := window_of_claims hc
    have hlast : m.verifyKind c.expiry token kind = .ok c :=
      hwindow.within c.expiry (Int.le_trans hwindow.start_le hwindow.issued_le) (Int.le_refl _)
    -- up to the expiry the string is accepted, so that `t` is later
    have hlater : c.expiry < t := by
      refine Int.not_le.1 fun hle => ?_
      have hok : m.verifyKind t token kind = .ok c := hwindow.within t hstarted hle
      rw [hexpired] at hok
      cases hok
    exact ⟨c.expiry, c, hlater, hlast⟩

/-- The same secret as `hourly`, with other lifetimes. -/
def daily : TokenManager :=
  { hourly with
    accessTtl := 3600
    refreshTtl := 86400
    accessTtl_pos := by decide
    accessTtl_le_refreshTtl := by decide
    refreshTtl_le_max := by decide }

theorem acceptance_window_hourly :
    ∃ token, (∃ c, Window (hourly.verifyKind · token .refresh) .refresh c) ∧
      (∀ t, daily.verifyKind t token .refresh = hourly.verifyKind t token .refresh) ∧
      hourly.verifyKind ⟨3601, by decide⟩ token .refresh = .error .expiredToken ∧
      ∃ t c, t < ⟨3601, by decide⟩ ∧ hourly.verifyKind t token .refresh = .ok c := by
  let token := SignedToken.encode hourly.secret (handMade epoch ⟨3600, by decide⟩)
  have hok := verifyKind_handMade epoch ⟨3600, by decide⟩ (by decide) (by decide)
  obtain ⟨⟨hwindow, -⟩, hcongr, -, hbefore⟩ := acceptance_window hourly token .refresh
  have hexpired : hourly.verifyKind ⟨3601, by decide⟩ token .refresh = .error .expiredToken := by
    rw [verifyKind_of_claims (verifyKind_eq_ok.1 hok).1]
    exact TokenClaims.outcomeAt_after (by decide) (by decide)
  rcases hwindow with hinvalid | hwindow
  · rw [hinvalid epoch] at hok
    cases hok
  · exact ⟨token, hwindow, hcongr daily rfl, hexpired, hbefore _ hexpired⟩

end TenantAuth.TokenManager
