import TenantAuth.Settings.FromJson
import TenantAuth.Proofs.Json.Yields
import TenantAuth.Proofs.Token.Payload

/-!
# Reading back settings

The text of settings reads back as the settings (`Settings.reads_reader`), section by section, if
the providers stand in the order of their names. Settings that have been read have them in that
order (`Settings.yields_reader`), however they were written.
-/
namespace TenantAuth

open Json (Ascending objectText stringText intText optionText)
open Json.Reader
open TokenClaims (reads_instant)

namespace ServiceSettings

/-- The members of the section with their texts. -/
def memberTexts (s : ServiceSettings) : List (String × Bytes) :=
  [("name", stringText s.name), ("environment", stringText s.environment),
    ("bind_addr", stringText s.bindAddr)]

/-- The settings of the service read back. -/
theorem reads_reader (s : ServiceSettings) : Reads reader (objectText s.memberTexts) s := by
  have hfolds : Folds Draft.member ⟨none, none, none⟩ s.memberTexts
      ⟨some s.name, some s.environment, some s.bindAddr⟩ := by
    refine .cons (((reads_string s.name).once "name").bind fun _ => rfl) ?_
    refine .cons (((reads_string s.environment).once "environment").bind fun _ => rfl) ?_
    exact .cons (((reads_string s.bindAddr).once "bind_addr").bind fun _ => rfl) (.nil _)
  exact reads_record "struct ServiceSettings" _ hfolds fun _ => rfl

end ServiceSettings

namespace LogSettings

def memberTexts (s : LogSettings) : List (String × Bytes) :=
  [("level", stringText s.level), ("format", stringText s.format.name)]

/-- A layout reads back from its name. -/
theorem reads_formatReader (f : LogFormat) : Reads formatReader (stringText f.name) f := by
  refine reads_variant ?_
  cases f with
  | pretty => rfl
  | compact => rfl
  | json => rfl

/-- The settings of the log read back. -/
theorem reads_reader (s : LogSettings) : Reads reader (objectText s.memberTexts) s := by
  have hfolds : Folds Draft.member ⟨none, none⟩ s.memberTexts ⟨some s.level, some s.format⟩ := by
    refine .cons (((reads_string s.level).once "level").bind fun _ => rfl) ?_
    exact .cons (((reads_formatReader s.format).once "format").bind fun _ => rfl) (.nil _)
  exact reads_record "struct LogSettings" _ hfolds fun _ => rfl

end LogSettings

namespace AuthSettings

def memberTexts (s : AuthSettings) : List (String × Bytes) :=
  [("jwt_secret", stringText s.jwtSecret), ("access_ttl_secs", intText s.accessTtlSecs.seconds),
    ("refresh_ttl_secs", intText s.refreshTtlSecs.seconds)]

/-- The settings of the tokens read back. -/
theorem reads_reader (s : AuthSettings) : Reads reader (objectText s.memberTexts) s := by
  have hfolds : Folds Draft.member ⟨none, none, none⟩ s.memberTexts
      ⟨some s.jwtSecret, some s.accessTtlSecs, some s.refreshTtlSecs⟩ := by
    refine .cons (((reads_string s.jwtSecret).once "jwt_secret").bind fun _ => rfl) ?_
    refine .cons (((reads_instant s.accessTtlSecs).once "access_ttl_secs").bind fun _ => rfl) ?_
    have hvalue := (reads_instant s.refreshTtlSecs).once "refresh_ttl_secs"
    exact .cons (hvalue.bind fun _ => rfl) (.nil _)
  exact reads_record "struct AuthSettings" _ hfolds fun _ => rfl

end AuthSettings

namespace TlsSettings

def memberTexts (s : TlsSettings) : List (String × Bytes) :=
  [("cert_path", optionText stringText s.certPath), ("key_path", optionText stringText s.keyPath),
    ("ca_path", optionText stringText s.caPath)]

/-- A path, or none, reads back. -/
theorem reads_path (path : Option String) :
    Reads (optional TlsSettings.path) (optionText stringText path) path := by
  cases path with
  | none => exact reads_optional_null TlsSettings.path
  | some path => exact (reads_stringCalled "path string" path).optional rfl rfl (by decide)

/-- The paths of TLS read back. -/
theorem reads_reader (s : TlsSettings) : Reads reader (objectText s.memberTexts) s := by
  have hfolds : Folds Draft.member ⟨none, none, none⟩ s.memberTexts
      ⟨some s.certPath, some s.keyPath, some s.caPath⟩ := by
    refine .cons (((reads_path s.certPath).once "cert_path").bind fun _ => rfl) ?_
    refine .cons (((reads_path s.keyPath).once "key_path").bind fun _ => rfl) ?_
    exact .cons (((reads_path s.caPath).once "ca_path").bind fun _ => rfl) (.nil _)
  exact reads_record "struct TlsSettings" _ hfolds fun _ => rfl

end TlsSettings

namespace OAuthProvider

def memberTexts (p : OAuthProvider) : List (String × Bytes) :=
  [("client_id", stringText p.clientId), ("client_secret", stringText p.clientSecret),
    ("redirect_url", stringText p.redirectUrl)]

/-- A provider reads back. -/
theorem reads_reader (p : OAuthProvider) : Reads reader (objectText p.memberTexts) p := by
  have hfolds : Folds Draft.member ⟨none, none, none⟩ p.memberTexts
      ⟨some p.clientId, some p.clientSecret, some p.redirectUrl⟩ := by
    refine .cons (((reads_string p.clientId).once "client_id").bind fun _ => rfl) ?_
    refine .cons (((reads_string p.clientSecret).once "client_secret").bind fun _ => rfl) ?_
    exact .cons (((reads_string p.redirectUrl).once "redirect_url").bind fun _ => rfl) (.nil _)
  exact reads_record "struct OAuthProvider" _ hfolds fun _ => rfl

end OAuthProvider

namespace Settings

/-- The sections with their texts. -/
def memberTexts (s : Settings) : List (String × Bytes) :=
  [("service", objectText s.service.memberTexts), ("log", objectText s.log.memberTexts),
    ("auth", objectText s.auth.memberTexts), ("tls", objectText s.tls.memberTexts),
    ("oauth", objectText (s.oauth.map fun m => (m.1, objectText m.2.memberTexts)))]

theorem text_pathJson (path : Option String) :
    (pathJson path).text = optionText stringText path := by
  cases path with
  | none => rfl
  | some path => simp [pathJson, Json.text, optionText]

theorem text_providerJson (p : OAuthProvider) :
    (providerJson p).text = objectText p.memberTexts := by
  simp [providerJson, Json.text, Json.memberTexts, OAuthProvider.memberTexts]

/-- Providers are written under their names. -/
theorem text_providers {member : String × OAuthProvider → String × Json}
    (hmember : ∀ m, member m = (m.1, providerJson m.2))
    (providers : List (String × OAuthProvider)) :
    (Json.obj (providers.map member)).text
      = objectText (providers.map fun m => (m.1, objectText m.2.memberTexts)) := by
  rw [Json.text, Json.memberTexts_eq_map, List.map_map]
  refine congrArg objectText (List.map_congr_left fun m _ => ?_)
  rw [Function.comp_apply, hmember, text_providerJson]

/-- Settings are written section by section. -/
theorem text_toJson (s : Settings) : s.toJson.text = objectText s.memberTexts := by
  rw [toJson, Json.text, memberTexts]
  simp only [Json.memberTexts, text_providers fun _ => rfl]
  simp only [Json.text, Json.memberTexts, text_pathJson, ServiceSettings.memberTexts,
    LogSettings.memberTexts, AuthSettings.memberTexts, TlsSettings.memberTexts]

/-- **Settings read back.** -/
theorem reads_reader {s : Settings} (hnames : Ascending s.oauth) :
    Reads reader s.toJson.text s := by
  have hproviders := reads_table (fun p : OAuthProvider => objectText p.memberTexts)
    (fun m _ => OAuthProvider.reads_reader m.2) hnames
  have hfolds : Folds Draft.member ⟨none, none, none, none, none⟩ s.memberTexts
      ⟨some s.service, some s.log, some s.auth, some s.tls, some s.oauth⟩ := by
    refine .cons ((s.service.reads_reader.once "service").bind fun _ => rfl) ?_
    refine .cons ((s.log.reads_reader.once "log").bind fun _ => rfl) ?_
    refine .cons ((s.auth.reads_reader.once "auth").bind fun _ => rfl) ?_
    refine .cons ((s.tls.reads_reader.once "tls").bind fun _ => rfl) ?_
    exact .cons ((hproviders.once "oauth").bind fun _ => rfl) (.nil _)
  rw [text_toJson]
  exact reads_record "struct Settings" _ hfolds fun _ => rfl

/-- What has been read of the settings so far has its providers in order. -/
def Draft.Ordered (d : Draft) : Prop := ∀ providers ∈ d.oauth, Ascending providers

/-- Reading a section leaves the providers in order. -/
theorem yields_member (d : Draft) (name : String) (hd : d.Ordered) :
    Yields (d.member name) Draft.Ordered := by
  unfold Draft.member
  split
  · exact .after fun _ => yields_pure hd
  · exact .after fun _ => yields_pure hd
  · exact .after fun _ => yields_pure hd
  · exact .after fun _ => yields_pure hd
  -- only the table of providers says something of their order
  · exact ((yields_table _).once _ _).bind fun _ hproviders => yields_pure hproviders
  · exact .after fun _ => yields_pure hd

/-- The providers of settings that have been read are in order. -/
theorem yields_reader : Yields reader fun s => Ascending s.oauth := by
  refine yields_record ?_ ?_
  · refine .after fun service => .after fun log => .after fun auth => .after fun tls => ?_
    exact ((yields_table _).itemOr 4 .nil).bind fun providers h => yields_pure h
  · have hfields := yields_fields yields_member (s := ⟨none, none, none, none, none⟩) nofun
    refine hfields.bind fun d hd => ?_
    refine yields_pure ?_
    unfold Draft.finish
    cases hproviders : d.oauth with
    | none => exact .nil
    | some providers => exact hd providers hproviders

end Settings

end TenantAuth
