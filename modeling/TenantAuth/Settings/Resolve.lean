import TenantAuth.Settings.ConfigError
import TenantAuth.Settings.FromYaml

/-!
# Resolution of settings

Settings in layers: the defaults, over them a file, over both the environment. Empty variables count
as unset.
-/
namespace TenantAuth

/-- The values of the environment by name. -/
abbrev Environment := String → Option String

namespace Environment

/-- The value of a variable that is not empty. -/
def value? (env : Environment) (name : String) : Option String :=
  (env name).filter fun v => !v.isEmpty

/-- The environment with one variable given another value. -/
def set (env : Environment) (name : String) (value : Option String) : Environment :=
  fun n => if n = name then value else env n

/-- The environment that a list of names and values describes; the first one of a name counts. -/
def ofList (values : List (String × String)) : Environment := fun name =>
  values.lookup name

end Environment

namespace Settings

/-- The variable that names the file. -/
def fileVariable : String := "KEEL_CONFIG"

/-- The variable that holds the secret. -/
def secretVariable : String := "KEEL_JWT_SECRET"

/-- The path of the file: the one that is given, else that of the environment. -/
def filePath (path : Option String) (env : Environment) : Option String :=
  path <|> env.value? fileVariable

/-- The settings of a file; one that is blank says nothing. -/
def ofFile (d : Directory) (path : String) : Except ConfigError Settings := do
  let source ← (d.readText path).mapError (.read path)
  if (Text.trim source).isEmpty then return .default
  match ofYaml source with
  | some s => return s
  | none => throw (.parse path ⟨source⟩)

/-- A variable that overrides a field: its name, and how its value changes settings. -/
structure Variable where
  name : String
  apply : String → Settings → Except ConfigError Settings

namespace Variable

/-- A variable whose value is taken as it is. -/
def text (name : String) (set : String → Settings → Settings) : Variable :=
  ⟨name, fun v s => .ok (set v s)⟩

/-- A variable that holds an integer of 64 bits; blanks around it do not count. -/
def integer (name : String) (set : Instant → Settings → Settings) : Variable where
  name
  apply v s :=
    match (Text.Decimal.parse? int64Min int64Max (Text.trim v)).bind Instant.ofInt? with
    | some n => .ok (set n s)
    | none => .error (.invalid (.notAnInteger name v))

/-- A variable that names a log format. -/
def logFormat (name : String) : Variable where
  name
  apply v s :=
    match LogFormat.ofName? v with
    | some f => .ok { s with log.format := f }
    | none => .error (.invalid (.unknownLogFormat v))

/-- All variables, in the order in which they are looked at. -/
def all : List Variable := [
  text "KEEL_SERVICE_NAME" fun v s => { s with service.name := v },
  text "KEEL_ENVIRONMENT" fun v s => { s with service.environment := v },
  text "KEEL_BIND_ADDR" fun v s => { s with service.bindAddr := v },
  text "KEEL_LOG_LEVEL" fun v s => { s with log.level := v },
  logFormat "KEEL_LOG_FORMAT",
  text secretVariable fun v s => { s with auth.jwtSecret := v },
  integer "KEEL_ACCESS_TTL_SECS" fun v s => { s with auth.accessTtlSecs := v },
  integer "KEEL_REFRESH_TTL_SECS" fun v s => { s with auth.refreshTtlSecs := v },
  text "KEEL_TLS_CERT" fun v s => { s with tls.certPath := some v },
  text "KEEL_TLS_KEY" fun v s => { s with tls.keyPath := some v },
  text "KEEL_TLS_CA" fun v s => { s with tls.caPath := some v }]

/-- The settings after one variable. -/
def override (env : Environment) (s : Settings) (v : Variable) : Except ConfigError Settings :=
  match env.value? v.name with
  | some value => v.apply value s
  | none => .ok s

end Variable

/-- The layers before validation. -/
def layered (d : Directory) (path : Option String) (env : Environment) :
    Except ConfigError Settings := do
  let base ← match filePath path env with
    | some p => ofFile d p
    | none => .ok .default
  Variable.all.foldlM (Variable.override env) base

/-- The settings for a path and an environment. -/
def load (d : Directory) (path : Option String) (env : Environment) :
    Except ConfigError Settings := do
  let s ← layered d path env
  match s.validate with
  | .ok _ => return s
  | .error e => throw (.invalid (.settings e))

end Settings

end TenantAuth
