import TenantAuth.Proofs.Outcome
import TenantAuth.Token.Manager

/-!
# Verifying tokens

`TokenManager.claims` looks at a token without the clock, `TokenClaims.outcomeAt` at the clock
without the token. A token whose claims are right is worth what its window says, and any other
token is invalid at every instant.
-/
namespace TenantAuth

open Outcome

namespace Instant

theorem lt_def {s t : Instant} : s < t ↔ s.seconds < t.seconds := Iff.rfl

theorem le_def {s t : Instant} : s ≤ t ↔ s.seconds ≤ t.seconds := Iff.rfl

theorem not_lt {s t : Instant} : ¬ s < t ↔ t ≤ s := by
  rw [lt_def, le_def, Int.not_lt]

end Instant

namespace TokenClaims

/-- What a verifier says at `now` of a token that carries the claims. -/
def outcomeAt (c : TokenClaims) (now : Instant) : Except AuthError TokenClaims :=
  if now < c.notBefore then .error .invalidToken
  else if c.expiry < now then .error .expiredToken
  else .ok c

theorem outcomeAt_before {c : TokenClaims} {now : Instant} (h : now < c.notBefore) :
    c.outcomeAt now = .error .invalidToken := if_pos h

theorem outcomeAt_within {c : TokenClaims} {now : Instant} (hstart : c.notBefore ≤ now)
    (hend : now ≤ c.expiry) : c.outcomeAt now = .ok c := by
  rw [outcomeAt, if_neg (Instant.not_lt.2 hstart), if_neg (Instant.not_lt.2 hend)]

theorem outcomeAt_after {c : TokenClaims} {now : Instant} (hstart : c.notBefore ≤ now)
    (hend : c.expiry < now) : c.outcomeAt now = .error .expiredToken := by
  rw [outcomeAt, if_neg (Instant.not_lt.2 hstart), if_pos hend]

theorem outcomeAt_eq_ok {c c' : TokenClaims} {now : Instant} :
    c.outcomeAt now = .ok c' ↔ c.notBefore ≤ now ∧ now ≤ c.expiry ∧ c = c' := by
  constructor
  · intro h
    rw [outcomeAt] at h
    split at h
    · cases h
    · next hstart =>
      split at h
      · cases h
      · next hend =>
        cases h
        exact ⟨Instant.not_lt.1 hstart, Instant.not_lt.1 hend, rfl⟩
  · rintro ⟨hstart, hend, rfl⟩
    exact outcomeAt_within hstart hend

end TokenClaims

namespace TokenManager

variable {m : TokenManager} {token : String} {kind : TokenKind}

/-- What has to hold for a token to be of a kind, whatever the time. -/
theorem claims_eq_ok {c : TokenClaims} :
    m.claims token kind = .ok c ↔
      SignedToken.decode m.secret token = .ok c ∧ c.kind = kind ∧ c.userId ≠ "" ∧
        c.notBefore ≤ c.issuedAt ∧ c.issuedAt ≤ c.expiry := by
  have hempty : ∀ s : String, ¬ s.isEmpty = true ↔ s ≠ "" := fun s => by
    rw [String.isEmpty_iff]
  simp only [claims, bind_eq_ok, throw_eq, guard_eq_ok, pure_eq, mapError_eq_ok, Except.ok.injEq,
    ne_eq, Decidable.not_not, hempty]
  constructor
  · rintro ⟨c', hdecode, hkind, huser, htimes, rfl⟩
    exact ⟨hdecode, hkind, huser, htimes⟩
  · rintro ⟨hdecode, hkind, huser, htimes⟩
    exact ⟨c, hdecode, hkind, huser, htimes, rfl⟩

/-- Only the clock makes a token expire. -/
theorem error_of_claims {r : Rejection} (h : m.claims token kind = .error r) :
    r.error = .invalidToken := by
  rw [claims] at h
  cases hdecode : SignedToken.decode m.secret token with
  | error fault =>
    rw [hdecode] at h
    cases h
    rfl
  | ok c =>
    rw [hdecode] at h
    -- the kind, the user and the order of the instants are checked in turn
    change (if c.kind ≠ kind then _ else if c.userId.isEmpty = true then _ else
      if ¬ (c.notBefore ≤ c.issuedAt ∧ c.issuedAt ≤ c.expiry) then _ else _) = _ at h
    split at h
    · cases h
      rfl
    · split at h
      · cases h
        rfl
      · split at h
        · cases h
          rfl
        · cases h

/-- A token that is not of the kind is invalid at every instant. -/
theorem verifyKind_of_error {r : Rejection} (h : m.claims token kind = .error r) (now : Instant) :
    m.verifyKind now token kind = .error .invalidToken := by
  rw [verifyKind, claimsAt, h, error_bind]
  show Except.error r.error = _
  rw [error_of_claims h]

/-- A token of the kind is worth what its window says. -/
theorem verifyKind_of_claims {c : TokenClaims} (h : m.claims token kind = .ok c) (now : Instant) :
    m.verifyKind now token kind = c.outcomeAt now := by
  rw [verifyKind, claimsAt, h, ok_bind, TokenClaims.outcomeAt]
  -- the window is looked at in the same order on both sides
  by_cases hstart : now < c.notBefore
  · rw [if_pos hstart, if_pos hstart]
    rfl
  · rw [if_neg hstart, if_neg hstart]
    by_cases hend : c.expiry < now
    · rw [if_pos hend]
      dsimp only
      rw [if_pos hend]
      rfl
    · rw [if_neg hend]
      dsimp only
      rw [if_neg hend]
      rfl

/-- A token is verified if it has claims of its kind and the instant lies in their window. -/
theorem verifyKind_eq_ok {c : TokenClaims} {now : Instant} :
    m.verifyKind now token kind = .ok c ↔
      m.claims token kind = .ok c ∧ c.notBefore ≤ now ∧ now ≤ c.expiry := by
  cases h : m.claims token kind with
  -- claims that are refused are refused at every instant
  | error r =>
    rw [verifyKind_of_error h]
    exact ⟨nofun, fun ⟨h, _⟩ => nomatch h⟩
  | ok c' =>
    rw [verifyKind_of_claims h, TokenClaims.outcomeAt_eq_ok]
    constructor
    · rintro ⟨hstart, hend, rfl⟩
      exact ⟨rfl, hstart, hend⟩
    · rintro ⟨hc, hstart, hend⟩
      cases hc
      exact ⟨hstart, hend, rfl⟩

/-- Verification fails in two ways only. -/
theorem error_of_verifyKind {now : Instant} {e : AuthError}
    (h : m.verifyKind now token kind = .error e) : e = .invalidToken ∨ e = .expiredToken := by
  unfold verifyKind at h
  cases hclaims : m.claimsAt now token kind with
  | ok c =>
    rw [hclaims] at h
    cases h
  | error rejection =>
    rw [hclaims] at h
    cases h
    cases rejection <;> simp [Rejection.error]

theorem error_of_verify {now : Instant} {e : AuthError} (h : m.verify now token = .error e) :
    e = .invalidToken ∨ e = .expiredToken :=
  error_of_verifyKind (map_eq_error.1 h)

theorem error_of_verifyRefresh {now : Instant} {e : AuthError}
    (h : m.verifyRefresh now token = .error e) : e = .invalidToken ∨ e = .expiredToken :=
  error_of_verifyKind (map_eq_error.1 h)

/-- There is a principal in a verdict just when there are claims in it. -/
theorem exists_principal_iff {verdict : Except AuthError TokenClaims} :
    (∃ p, verdict.map TokenClaims.principal = .ok p) ↔ ∃ c, verdict = .ok c := by
  cases verdict with
  | error e =>
    constructor
    · rintro ⟨p, hp⟩
      cases hp
    · rintro ⟨c, hc⟩
      cases hc
  | ok c => exact ⟨fun _ => ⟨c, rfl⟩, fun _ => ⟨c.principal, rfl⟩⟩

theorem verifyRefresh_of_ok {now : Instant} {c : TokenClaims}
    (h : m.verifyKind now token .refresh = .ok c) :
    m.verifyRefresh now token = .ok c.principal := by
  rw [verifyRefresh, h]
  rfl

theorem verifyRefresh_of_error {now : Instant} {e : AuthError}
    (h : m.verifyKind now token .refresh = .error e) : m.verifyRefresh now token = .error e := by
  rw [verifyRefresh, h]
  rfl

/-- Neither kind of token passes for the other. -/
theorem verifyKind_of_other {c : TokenClaims} (h : m.claims token kind = .ok c) {other : TokenKind}
    (hne : other ≠ kind) (now : Instant) :
    m.verifyKind now token other = .error .invalidToken := by
  cases hother : m.claims token other with
  | error r => exact verifyKind_of_error hother now
  | ok c' =>
    obtain ⟨hdecode, hkind, -⟩ := claims_eq_ok.1 h
    obtain ⟨hdecode', hkind', -⟩ := claims_eq_ok.1 hother
    rw [hdecode] at hdecode'
    cases hdecode'
    exact absurd (hkind'.symm.trans hkind) hne

end TokenManager

end TenantAuth
