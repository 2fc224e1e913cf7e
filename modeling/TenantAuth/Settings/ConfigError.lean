import TenantAuth.Settings.Validate
import TenantAuth.Files.Directory
import TenantAuth.Log.Directive
import TenantAuth.Tls.Fault

/-!
# Configuration errors

Why a service cannot be configured. All of them are fatal when it starts.
-/
namespace TenantAuth

/-- What is wrong with a value of the configuration. -/
inductive ConfigFault where
  | tokens (defect : TokenManager.Defect)
  | settings (defect : Settings.Defect)
  | unknownLogFormat (name : String)
  | notAnInteger (name value : String)
  | logLevel (level : String) (fault : DirectiveFault)
  | loggingStarted

/-- The words for what is wrong. -/
def ConfigFault.message : ConfigFault → String
  | .tokens d => d.message
  | .settings d => d.message
  | .unknownLogFormat name => s!"unknown log format '{Text.lowerAscii name}'"
  | .notAnInteger name value => s!"{name} must be an integer, got '{value}'"
  | .logLevel level f => s!"log.level '{level}': {f.message}"
  | .loggingStarted =>
    "logging already initialised: a global default trace dispatcher has already been set"

/-- The error of the YAML library for a document that holds no settings. Which error it is depends
on the document alone, so the document stands for it. -/
structure YamlError where
  document : String
  deriving DecidableEq

/-- The words that the YAML library has for its errors. They are its own, and so a parameter of all
that prints them. -/
abbrev YamlWords := YamlError → String

/-- Why a service cannot be configured. -/
inductive ConfigError where
  | invalid (fault : ConfigFault)
  | read (path : String) (fault : FileFault)
  | parse (path : String) (error : YamlError)
  | tls (fault : TlsFault)

/-- The words for an error. -/
def ConfigError.message (yaml : YamlWords) : ConfigError → String
  | .invalid f => "Invalid configuration: " ++ f.message
  | .read path f => s!"Failed to read {path}: {f.message}"
  | .parse path e => s!"Failed to parse {path}: {yaml e}"
  | .tls f => "TLS error: " ++ f.message

end TenantAuth
