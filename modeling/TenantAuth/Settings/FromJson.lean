import TenantAuth.Settings.Basic
import TenantAuth.Token.Claims

/-!
# Settings in JSON

Reads settings from a record, section by section. A field that is left out takes its default.
-/
namespace TenantAuth

open Json.Reader

namespace ServiceSettings

/-- The fields read so far. -/
structure Draft where
  name : Option String
  environment : Option String
  bindAddr : Option String

/-- Reads one member. -/
def Draft.member (d : Draft) (name : String) : Json.Reader Draft :=
  match name with
  | "name" => do return { d with name := ← once name d.name string }
  | "environment" => do return { d with environment := ← once name d.environment string }
  | "bind_addr" => do return { d with bindAddr := ← once name d.bindAddr string }
  | _ => do
    skipMember name
    return d

/-- Reads the section. -/
def reader : Json.Reader ServiceSettings :=
  let d := ServiceSettings.default
  record "struct ServiceSettings"
    (do return {
          name := ← itemOr 0 d.name string
          environment := ← itemOr 1 d.environment string
          bindAddr := ← itemOr 2 d.bindAddr string })
    (do
      let r ← fields Draft.member ⟨none, none, none⟩
      return {
        name := r.name.getD d.name
        environment := r.environment.getD d.environment
        bindAddr := r.bindAddr.getD d.bindAddr })

end ServiceSettings

namespace LogSettings

/-- The fields read so far. -/
structure Draft where
  level : Option String
  format : Option LogFormat

/-- Reads the name of a format. -/
def formatReader : Json.Reader LogFormat := variant LogFormat.names

/-- Reads one member. -/
def Draft.member (d : Draft) (name : String) : Json.Reader Draft :=
  match name with
  | "level" => do return { d with level := ← once name d.level string }
  | "format" => do return { d with format := ← once name d.format formatReader }
  | _ => do
    skipMember name
    return d

/-- Reads the section. -/
def reader : Json.Reader LogSettings :=
  let d := LogSettings.default
  record "struct LogSettings"
    (do return { level := ← itemOr 0 d.level string, format := ← itemOr 1 d.format formatReader })
    (do
      let r ← fields Draft.member ⟨none, none⟩
      return { level := r.level.getD d.level, format := r.format.getD d.format })

end LogSettings

namespace AuthSettings

/-- The fields read so far. -/
structure Draft where
  jwtSecret : Option String
  accessTtlSecs : Option Instant
  refreshTtlSecs : Option Instant

/-- Reads one member. -/
def Draft.member (d : Draft) (name : String) : Json.Reader Draft :=
  match name with
  | "jwt_secret" => do return { d with jwtSecret := ← once name d.jwtSecret string }
  | "access_ttl_secs" => do
    return { d with accessTtlSecs := ← once name d.accessTtlSecs TokenClaims.instant }
  | "refresh_ttl_secs" => do
    return { d with refreshTtlSecs := ← once name d.refreshTtlSecs TokenClaims.instant }
  | _ => do
    skipMember name
    return d

/-- Reads the section. -/
def reader : Json.Reader AuthSettings :=
  let d := AuthSettings.default
  record "struct AuthSettings"
    (do return {
          jwtSecret := ← itemOr 0 d.jwtSecret string
          accessTtlSecs := ← itemOr 1 d.accessTtlSecs TokenClaims.instant
          refreshTtlSecs := ← itemOr 2 d.refreshTtlSecs TokenClaims.instant })
    (do
      let r ← fields Draft.member ⟨none, none, none⟩
      return {
        jwtSecret := r.jwtSecret.getD d.jwtSecret
        accessTtlSecs := r.accessTtlSecs.getD d.accessTtlSecs
        refreshTtlSecs := r.refreshTtlSecs.getD d.refreshTtlSecs })

end AuthSettings

namespace TlsSettings

/-- The fields read so far. -/
structure Draft where
  certPath : Option (Option String)
  keyPath : Option (Option String)
  caPath : Option (Option String)

/-- Reads the path of a file. -/
def path : Json.Reader String := stringCalled "path string"

/-- Reads one member. -/
def Draft.member (d : Draft) (name : String) : Json.Reader Draft :=
  match name with
  | "cert_path" => do return { d with certPath := ← once name d.certPath (optional path) }
  | "key_path" => do return { d with keyPath := ← once name d.keyPath (optional path) }
  | "ca_path" => do return { d with caPath := ← once name d.caPath (optional path) }
  | _ => do
    skipMember name
    return d

/-- Reads the section. -/
def reader : Json.Reader TlsSettings :=
  record "struct TlsSettings"
    (do return {
          certPath := ← itemOr 0 none (optional path)
          keyPath := ← itemOr 1 none (optional path)
          caPath := ← itemOr 2 none (optional path) })
    (do
      let r ← fields Draft.member ⟨none, none, none⟩
      return {
        certPath := r.certPath.getD none
        keyPath := r.keyPath.getD none
        caPath := r.caPath.getD none })

end TlsSettings

namespace OAuthProvider

/-- The fields read so far. -/
structure Draft where
  clientId : Option String
  clientSecret : Option String
  redirectUrl : Option String

/-- Reads one member. -/
def Draft.member (d : Draft) (name : String) : Json.Reader Draft :=
  match name with
  | "client_id" => do return { d with clientId := ← once name d.clientId string }
  | "client_secret" => do return { d with clientSecret := ← once name d.clientSecret string }
  | "redirect_url" => do return { d with redirectUrl := ← once name d.redirectUrl string }
  | _ => do
    skipMember name
    return d

/-- Reads a provider. -/
def reader : Json.Reader OAuthProvider :=
  record "struct OAuthProvider"
    (do return {
          clientId := ← itemOr 0 "" string
          clientSecret := ← itemOr 1 "" string
          redirectUrl := ← itemOr 2 "" string })
    (do
      let r ← fields Draft.member ⟨none, none, none⟩
      return {
        clientId := r.clientId.getD ""
        clientSecret := r.clientSecret.getD ""
        redirectUrl := r.redirectUrl.getD "" })

end OAuthProvider

namespace Settings

/-- The sections read so far. -/
structure Draft where
  service : Option ServiceSettings
  log : Option LogSettings
  auth : Option AuthSettings
  tls : Option TlsSettings
  oauth : Option (List (String × OAuthProvider))

/-- Reads one section. -/
def Draft.member (d : Draft) (name : String) : Json.Reader Draft :=
  match name with
  | "service" => do return { d with service := ← once name d.service ServiceSettings.reader }
  | "log" => do return { d with log := ← once name d.log LogSettings.reader }
  | "auth" => do return { d with auth := ← once name d.auth AuthSettings.reader }
  | "tls" => do return { d with tls := ← once name d.tls TlsSettings.reader }
  | "oauth" => do return { d with oauth := ← once name d.oauth (table OAuthProvider.reader) }
  | _ => do
    skipMember name
    return d

/-- The settings, of which all may be left out. -/
def Draft.finish (d : Draft) : Settings where
  service := d.service.getD .default
  log := d.log.getD .default
  auth := d.auth.getD .default
  tls := d.tls.getD .default
  oauth := d.oauth.getD []

/-- Reads settings. -/
def reader : Json.Reader Settings :=
  record "struct Settings"
    (do return {
          service := ← itemOr 0 .default ServiceSettings.reader
          log := ← itemOr 1 .default LogSettings.reader
          auth := ← itemOr 2 .default AuthSettings.reader
          tls := ← itemOr 3 .default TlsSettings.reader
          oauth := ← itemOr 4 [] (table OAuthProvider.reader) })
    (do return (← fields Draft.member ⟨none, none, none, none, none⟩).finish)

end Settings

end TenantAuth
