import TenantAuth.Proofs.Token.Usable
import TenantAuth.Settings.Validate
import TenantAuth.Tls.Credentials

/-!
# Settings that can be started with

Validation passes settings just when three things hold that can be said without it
(`validate_eq_ok`): the section of the tokens is `Fit`, the files of the mutual-TLS material are all
named or none is, and the level of the log says something. The first is what a token manager asks
for (`ofSettings_eq_ok`), and it leaves room for every expiry up to ten years before the end of
time.
-/
namespace TenantAuth

open Outcome

variable {a : AuthSettings} {t : TlsSettings} {s : Settings} {m : TokenManager}

/-! ## The section of the tokens -/

/-- There is a secret, and the lifetimes ascend from a positive one to at most ten years. -/
structure AuthSettings.Fit (a : AuthSettings) : Prop where
  secret : a.jwtSecret ≠ ""
  access_pos : 0 < a.accessTtlSecs.seconds
  ascending : a.accessTtlSecs.seconds ≤ a.refreshTtlSecs.seconds
  bounded : a.refreshTtlSecs.seconds ≤ maxTtlSecs

theorem Text.bytes_eq_nil {s : String} : Text.bytes s = [] ↔ s = "" := by
  constructor
  · intro h
    exact Text.bytes_injective (h.trans (by decide))
  · rintro rfl
    decide

namespace TokenManager

/-- The manager has the secret and the lifetimes of the settings. -/
structure Serves (m : TokenManager) (a : AuthSettings) : Prop where
  secret : m.secret = Text.bytes a.jwtSecret
  accessTtl : m.accessTtl = a.accessTtlSecs.seconds
  refreshTtl : m.refreshTtl = a.refreshTtlSecs.seconds

/-- **There is a manager just for a section that is fit,** and it is the one for its values. -/
theorem ofSettings_eq_ok : ofSettings a = .ok m ↔ a.Fit ∧ m.Serves a := by
  unfold ofSettings create
  simp only [dite_error_eq_ok, Text.bytes_eq_nil, Except.ok.injEq]
  constructor
  · rintro ⟨hsecret, haccess, hrefresh, hmax, rfl⟩
    refine ⟨⟨hsecret, ?_, ?_, ?_⟩, rfl, rfl, rfl⟩
    · omega
    · omega
    · omega
  · rintro ⟨hfit, hserves⟩
    have hpos := hfit.access_pos
    have hascending := hfit.ascending
    have hbounded := hfit.bounded
    refine ⟨hfit.secret, by omega, by omega, by omega, ?_⟩
    obtain ⟨secret, accessTtl, refreshTtl⟩ := m
    obtain ⟨rfl, rfl, rfl⟩ := hserves
    rfl

/-- There is a token manager just for settings that are fit for one. -/
theorem exists_ofSettings_iff : (∃ m, ofSettings a = .ok m) ↔ a.Fit := by
  constructor
  · rintro ⟨m, hm⟩
    exact (ofSettings_eq_ok.1 hm).1
  · intro hfit
    have hsecret : Text.bytes a.jwtSecret ≠ [] := fun h => hfit.secret (Text.bytes_eq_nil.1 h)
    exact ⟨⟨_, _, _, hsecret, hfit.access_pos, hfit.ascending, hfit.bounded⟩,
      ofSettings_eq_ok.2 ⟨hfit, rfl, rfl, rfl⟩⟩

/-! ## Signing with the lifetimes -/

section Signing

variable {now : Instant} {userId tenantId email token : String} {roles : List String}
  {kind : TokenKind}

/-- Signing fails just where the expiry does not fit. -/
theorem sign_fails_iff :
    (∃ detail, m.sign now userId tenantId email roles kind = .error (.signing detail)) ↔
      int64Max < now.seconds + m.ttl kind := by
  constructor
  · rintro ⟨detail, hsign⟩
    exact (sign_eq_error hsign).2
  · intro hend
    cases hsign : m.sign now userId tenantId email roles kind with
    | ok token => exact absurd hend (Int.not_lt.2 (exists_sign_iff.1 ⟨token, hsign⟩))
    | error e =>
      obtain ⟨⟨detail, rfl⟩, -⟩ := sign_eq_error hsign
      exact ⟨detail, rfl⟩

/-- An exchange fails to sign just where the refresh token is accepted and the expiry does not
fit. -/
theorem refresh_fails_iff :
    (∃ detail, m.refresh now token = .error (.signing detail)) ↔
      (∃ p, m.verifyRefresh now token = .ok p) ∧ int64Max < now.seconds + m.accessTtl := by
  constructor
  · rintro ⟨detail, hrefresh⟩
    -- what the verifier refuses is no failure to sign
    rcases refresh_eq_error.1 hrefresh with hrefused | ⟨c, hverify, hsign⟩
    · rcases error_of_verifyKind hrefused with h | h
      · cases h
      · cases h
    · exact ⟨exists_principal_iff.2 ⟨c, hverify⟩, (sign_eq_error hsign).2⟩
  · rintro ⟨hverify, hend⟩
    obtain ⟨c, hclaims⟩ := exists_principal_iff.1 hverify
    have hoverflow : int64Max < now.seconds + m.ttl .access := hend
    obtain ⟨detail, hsign⟩ := sign_fails_iff.2 hoverflow
    exact ⟨detail, refresh_eq_error.2 (.inr ⟨c, hclaims, hsign⟩)⟩

/-- A lifetime is at most ten years. -/
theorem ttl_le_max (m : TokenManager) (kind : TokenKind) : m.ttl kind ≤ maxTtlSecs := by
  have hrefresh := m.refreshTtl_le_max
  cases kind with
  | access => exact Int.le_trans m.accessTtl_le_refreshTtl hrefresh
  | refresh => exact hrefresh

end Signing

end TokenManager

/-! ## The other sections -/

/-- None of the three files is named. -/
def TlsSettings.Unset (t : TlsSettings) : Prop :=
  t.certPath = none ∧ t.keyPath = none ∧ t.caPath = none

theorem TlsSettings.paths_of_unset (h : t.Unset) : t.paths = none := by
  obtain ⟨hcert, -, -⟩ := h
  unfold paths
  rw [hcert]

/-- What is not incomplete is all there, or not there at all. -/
theorem Settings.tlsIncomplete_eq_false :
    tlsIncomplete t = false ↔ t.Unset ∨ t.paths.isSome := by
  obtain ⟨cert, key, ca⟩ := t
  unfold tlsIncomplete TlsSettings.Unset TlsSettings.paths
  cases cert <;> cases key <;> cases ca <;> simp

/-- Credentials are left out just where no three files are named. -/
theorem Credentials.ofSettings_eq_none {d : Directory}
    {build : Directory → String → String → String → Except ConfigError Credentials} :
    ofSettings build d t = .ok none ↔ t.paths = none := by
  unfold ofSettings
  cases t.paths with
  | none => exact ⟨fun _ => rfl, fun _ => rfl⟩
  | some paths =>
    obtain ⟨cert, key, ca⟩ := paths
    show (build d cert key ca).map some = .ok none ↔ _
    cases build d cert key ca with
    | error e => exact ⟨nofun, nofun⟩
    | ok c => exact ⟨nofun, nofun⟩

namespace Settings

/-- **What validation passes.** -/
theorem validate_eq_ok :
    s.validate = .ok () ↔
      s.auth.Fit ∧ (s.tls.Unset ∨ s.tls.paths.isSome) ∧ Text.trim s.log.level ≠ "" := by
  unfold validate
  simp only [ite_error_eq_ok, String.isEmpty_iff, ← tlsIncomplete_eq_false, Bool.not_eq_true,
    and_true]
  constructor
  · rintro ⟨hsecret, haccess, hrefresh, hmax, htls, hlevel⟩
    refine ⟨⟨hsecret, ?_, ?_, ?_⟩, htls, hlevel⟩
    · omega
    · omega
    · omega
  · rintro ⟨hfit, htls, hlevel⟩
    have hpos := hfit.access_pos
    have hascending := hfit.ascending
    have hbounded := hfit.bounded
    exact ⟨hfit.secret, by omega, by omega, by omega, htls, hlevel⟩

/-- **Validation asks of the tokens what their manager asks.** With nothing else to object to, it
passes settings just when there is a manager for them. A manager for settings that it passes has
their lifetimes and fails to sign only where an expiry does not fit, which is never so ten years
before the end of time; and the files of settings that it passes are left out only where none is
named. -/
theorem validation_agrees_with_consumers (s : Settings) :
    (∀ level, Text.trim level ≠ "" →
      ((∃ m, TokenManager.ofSettings s.auth = .ok m) ↔
        validate { s with tls := .default, log.level := level } = .ok ())) ∧
    (s.validate = .ok () →
      (∃ m, TokenManager.ofSettings s.auth = .ok m ∧ m.Serves s.auth ∧
        (∀ now : Instant,
          (∀ userId tenantId email roles,
            (∃ detail, m.issueAccess now userId tenantId email roles = .error (.signing detail)) ↔
              int64Max < now.seconds + m.accessTtl) ∧
          (∀ userId tenantId,
            (∃ detail, m.issueRefresh now userId tenantId = .error (.signing detail)) ↔
              int64Max < now.seconds + m.refreshTtl) ∧
          ∀ token, (∃ detail, m.refresh now token = .error (.signing detail)) ↔
            (∃ p, m.verifyRefresh now token = .ok p) ∧ int64Max < now.seconds + m.accessTtl) ∧
        ∀ now : Instant, now.seconds ≤ int64Max - maxTtlSecs →
          (∀ userId tenantId email roles,
            ∃ token, m.issueAccess now userId tenantId email roles = .ok token) ∧
          (∀ userId tenantId, ∃ token, m.issueRefresh now userId tenantId = .ok token) ∧
          ∀ token detail, m.refresh now token ≠ .error (.signing detail)) ∧
      (s.tls.paths = none ↔ s.tls.Unset) ∧
      ∀ build d, Credentials.ofSettings build d s.tls = .ok none ↔ s.tls.Unset) := by
  refine ⟨fun level hlevel => ?_, fun hvalid => ?_⟩
  · have hunset : TlsSettings.default.Unset := ⟨rfl, rfl, rfl⟩
    rw [TokenManager.exists_ofSettings_iff, validate_eq_ok]
    exact ⟨fun hfit => ⟨hfit, .inl hunset, hlevel⟩, fun h => h.1⟩
  · obtain ⟨hfit, htls, -⟩ := validate_eq_ok.1 hvalid
    obtain ⟨m, hm⟩ := TokenManager.exists_ofSettings_iff.2 hfit
    have hserves := (TokenManager.ofSettings_eq_ok.1 hm).2
    have hpaths : s.tls.paths = none ↔ s.tls.Unset := by
      refine ⟨fun hnone => ?_, TlsSettings.paths_of_unset⟩
      rcases htls with hunset | hsome
      · exact hunset
      · rw [hnone] at hsome
        cases hsome
    refine ⟨⟨m, hm, hserves, fun now => ⟨fun _ _ _ _ => TokenManager.sign_fails_iff,
      fun _ _ => TokenManager.sign_fails_iff, fun _ => TokenManager.refresh_fails_iff⟩,
      fun now hnow => ?_⟩, hpaths, fun build d => Credentials.ofSettings_eq_none.trans hpaths⟩
    -- ten years before the end every expiry fits
    have hfits : ∀ kind, now.seconds + m.ttl kind ≤ int64Max := by
      intro kind
      have hmax := m.ttl_le_max kind
      omega
    refine ⟨fun _ _ _ _ => TokenManager.exists_sign_iff.2 (hfits .access),
      fun _ _ => TokenManager.exists_sign_iff.2 (hfits .refresh), fun token detail hrefresh => ?_⟩
    obtain ⟨-, hend⟩ := TokenManager.refresh_fails_iff.1 ⟨detail, hrefresh⟩
    exact absurd hend (Int.not_lt.2 (hfits .access))

/-- Settings with the longest lifetimes there are and all three files. -/
def longLived : Settings where
  service := .default
  log := .default
  auth := ⟨"key", ⟨maxTtlSecs, by decide⟩, ⟨maxTtlSecs, by decide⟩⟩
  tls := ⟨some "cert.pem", some "key.pem", some "ca.pem"⟩
  oauth := []

/-- Settings whose tokens live very long are valid, and signing fails only near the end of time. -/
theorem validation_agrees_with_consumers_longLived :
    validate { longLived with tls := .default, log.level := "debug" } = .ok () ∧
    longLived.validate = .ok () ∧
    ∃ m, TokenManager.ofSettings longLived.auth = .ok m ∧ m.accessTtl = 315360000 ∧
      (∃ token, m.issueAccess ⟨int64Max - maxTtlSecs, by decide⟩ "ada" "acme" "" [] = .ok token) ∧
      (∃ detail, m.issueRefresh ⟨int64Max - maxTtlSecs + 1, by decide⟩ "ada" "acme"
        = .error (.signing detail)) ∧
      ∀ d, Credentials.ofSettings Credentials.server d longLived.tls ≠ .ok none := by
  have hfit : longLived.auth.Fit := ⟨by decide, by decide, by decide, by decide⟩
  have hvalid : longLived.validate = .ok () :=
    validate_eq_ok.2 ⟨hfit, .inr rfl, by decide +kernel⟩
  obtain ⟨hsame, hconsumers⟩ := validation_agrees_with_consumers longLived
  obtain ⟨⟨m, hm, hserves, hfails, hsigns⟩, -, hleft⟩ := hconsumers hvalid
  -- the last instant from which a refresh token may still be issued has passed by one
  have hrefreshTtl : m.refreshTtl = 315360000 := hserves.refreshTtl
  refine ⟨(hsame "debug" (by decide +kernel)).1 ⟨m, hm⟩, hvalid, m, hm, hserves.accessTtl,
    (hsigns _ (by decide)).1 _ _ _ _, ((hfails _).2.1 _ _).2 ?_, fun d h => ?_⟩
  · rw [hrefreshTtl]
    decide
  · obtain ⟨hcert, -⟩ := (hleft _ d).1 h
    cases hcert

end Settings

end TenantAuth
