import TenantAuth.Json.Write
import TenantAuth.Token.Instant
import TenantAuth.Text.Blank

/-!
# Settings

What a service is configured with, and the values that count where nothing is said.
-/
namespace TenantAuth

/-- How log lines are laid out. -/
inductive LogFormat where
  | pretty
  | compact
  | json
  deriving DecidableEq

namespace LogFormat

/-- The name of a format. -/
def name : LogFormat → String
  | .pretty => "pretty"
  | .compact => "compact"
  | .json => "json"

/-- The formats with their names. -/
def names : List (String × LogFormat) :=
  [("pretty", .pretty), ("compact", .compact), ("json", .json)]

/-- The format of a name, in letters of either case. -/
def ofName? (s : String) : Option LogFormat := names.lookup (Text.lowerAscii s)

end LogFormat

/-- The identity and the address of the service. -/
structure ServiceSettings where
  name : String
  environment : String
  bindAddr : String
  deriving DecidableEq

/-- What is logged, and how. -/
structure LogSettings where
  level : String
  format : LogFormat
  deriving DecidableEq

/-- The secret of the tokens, and their lifetimes in seconds. -/
structure AuthSettings where
  jwtSecret : String
  accessTtlSecs : Instant
  refreshTtlSecs : Instant
  deriving DecidableEq

/-- The files of the mutual-TLS material. -/
structure TlsSettings where
  certPath : Option String
  keyPath : Option String
  caPath : Option String
  deriving DecidableEq

/-- A provider of identities. -/
structure OAuthProvider where
  clientId : String
  clientSecret : String
  redirectUrl : String
  deriving DecidableEq

/-- All settings of a service; the providers are sorted by name. -/
structure Settings where
  service : ServiceSettings
  log : LogSettings
  auth : AuthSettings
  tls : TlsSettings
  oauth : List (String × OAuthProvider)
  deriving DecidableEq

/-- The defaults of the service. -/
def ServiceSettings.default : ServiceSettings := ⟨"keel-service", "development", "127.0.0.1:8080"⟩

/-- The defaults of the log. -/
def LogSettings.default : LogSettings := ⟨"info", .pretty⟩

/-- The defaults of the tokens: no secret, an hour and a week. -/
def AuthSettings.default : AuthSettings := ⟨"", ⟨3600, by decide⟩, ⟨604800, by decide⟩⟩

/-- No files. -/
def TlsSettings.default : TlsSettings := ⟨none, none, none⟩

/-- The settings of which nothing is said. -/
def Settings.default : Settings := ⟨.default, .default, .default, .default, []⟩

/-- The three files, if all are named. -/
def TlsSettings.paths (t : TlsSettings) : Option (String × String × String) :=
  match t.certPath, t.keyPath, t.caPath with
  | some cert, some key, some ca => some (cert, key, ca)
  | _, _, _ => none

/-- The section in words, without the secret. -/
def AuthSettings.describe (a : AuthSettings) : String :=
  "AuthSettings \x7b jwt_secret: \"<redacted>\", " ++
    s!"access_ttl_secs: {a.accessTtlSecs.seconds}, " ++
    s!"refresh_ttl_secs: {a.refreshTtlSecs.seconds} \x7d"

namespace Settings

/-- A path that may be left out, as a value. -/
def pathJson : Option String → Json
  | none => .null
  | some p => .str p

/-- A provider as a record. -/
def providerJson (p : OAuthProvider) : Json :=
  .obj [("client_id", .str p.clientId), ("client_secret", .str p.clientSecret),
    ("redirect_url", .str p.redirectUrl)]

/-- The settings as a record. -/
def toJson (s : Settings) : Json :=
  .obj [
    ("service", .obj [("name", .str s.service.name), ("environment", .str s.service.environment),
      ("bind_addr", .str s.service.bindAddr)]),
    ("log", .obj [("level", .str s.log.level), ("format", .str s.log.format.name)]),
    ("auth", .obj [("jwt_secret", .str s.auth.jwtSecret),
      ("access_ttl_secs", .int s.auth.accessTtlSecs.seconds),
      ("refresh_ttl_secs", .int s.auth.refreshTtlSecs.seconds)]),
    ("tls", .obj [("cert_path", pathJson s.tls.certPath), ("key_path", pathJson s.tls.keyPath),
      ("ca_path", pathJson s.tls.caPath)]),
    ("oauth", .obj (s.oauth.map fun (name, p) => (name, providerJson p)))]

end Settings

end TenantAuth
