import TenantAuth.Settings.Basic
import TenantAuth.Token.Manager
import TenantAuth.Text.Blank

/-!
# Validation of settings

Refuses settings with which a service cannot start: the first defect counts.
-/
namespace TenantAuth

namespace Settings

/-- Why a service cannot start with settings. -/
inductive Defect where
  | secretMissing
  | accessTtlNotPositive (access : Int)
  | refreshTtlShorter (refresh access : Int)
  | ttlTooLong (refresh : Int)
  | tlsPathsIncomplete
  | logLevelBlank
  deriving DecidableEq

/-- The words for a defect. -/
def Defect.message : Defect → String
  | .secretMissing => "auth.jwt_secret is required (set KEEL_JWT_SECRET)"
  | .accessTtlNotPositive access => s!"auth.access_ttl_secs must be positive, got {access}"
  | .refreshTtlShorter refresh access =>
    s!"auth.refresh_ttl_secs ({refresh}) must not be shorter than auth.access_ttl_secs ({access})"
  | .ttlTooLong refresh => s!"auth TTLs must not exceed {maxTtlSecs} seconds, got {refresh}"
  | .tlsPathsIncomplete => "tls requires cert_path, key_path and ca_path together"
  | .logLevelBlank => "log.level must not be empty"

/-- Some but not all of the three files are named. -/
def tlsIncomplete (t : TlsSettings) : Bool :=
  let named := [t.certPath, t.keyPath, t.caPath].countP Option.isSome
  named ≠ 0 && named ≠ 3

/-- The settings are fit to start with. -/
def validate (s : Settings) : Except Defect Unit :=
  let access := s.auth.accessTtlSecs.seconds
  let refresh := s.auth.refreshTtlSecs.seconds
  if s.auth.jwtSecret.isEmpty then .error .secretMissing
  else if access ≤ 0 then .error (.accessTtlNotPositive access)
  else if refresh < access then .error (.refreshTtlShorter refresh access)
  else if maxTtlSecs < refresh then .error (.ttlTooLong refresh)
  else if tlsIncomplete s.tls then .error .tlsPathsIncomplete
  else if (Text.trim s.log.level).isEmpty then .error .logLevelBlank
  else .ok ()

end Settings

/-- The manager for the tokens of a service. -/
def TokenManager.ofSettings (a : AuthSettings) : Except TokenManager.Defect TokenManager :=
  TokenManager.create (Text.bytes a.jwtSecret) a.accessTtlSecs.seconds a.refreshTtlSecs.seconds

end TenantAuth
