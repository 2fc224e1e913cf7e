import TenantAuth.CommandLine.Invocation
import TenantAuth.CommandLine.Console
import TenantAuth.CommandLine.EnvFile
import TenantAuth.Tls.Credentials
import TenantAuth.Password.Hash
import TenantAuth.Random

/-!
# Sessions

One run of the program, from its surroundings and its arguments to what it prints and its exit
status. Results go to the output, and only when all went well; what goes wrong is an event of the
log.
-/
namespace TenantAuth

/-- What a run can see: files, variables, the time, a source of random numbers, and the words of the
YAML library that it is linked with. -/
structure Surroundings where
  directory : Directory
  inherited : EnvFile.Variables
  now : Instant
  random : RandomSource
  yamlWords : YamlWords

/-- What a run leaves: its exit status and the texts that it printed. -/
structure RunResult where
  exit : Nat
  stdout : String
  stderr : String
  deriving DecidableEq

/-- Why a command fails. -/
inductive CommandError where
  | config (error : ConfigError)
  | auth (error : AuthError)
  | passwordMismatch
  | tlsNotConfigured

/-- The words for an error. -/
def CommandError.message (yaml : YamlWords) : CommandError → String
  | .config e => "Config: " ++ e.message yaml
  | .auth e => "Auth: " ++ e.message
  | .passwordMismatch => "password does not match"
  | .tlsNotConfigured => "TLS is not configured"

namespace Session

/-- A step of a run, which may log events. -/
abbrev Step (α : Type) := ExceptT CommandError (StateM (List LogEvent)) α

/-- Logs an event. -/
def log (level : LogLevel) (target message : String) : Step Unit :=
  modify fun es => es ++ [⟨level, target, message⟩]

/-- A step that only has a result. -/
def result (error : ε → CommandError) (r : Except ε α) : Step α :=
  match r with
  | .ok a => return a
  | .error e => throw (error e)

/-- The file that is looked at for variables. -/
def envFile : String := ".env"

/-- The variables of a run, with those of the environment file. -/
def allVariables (s : Surroundings) : EnvFile.Variables :=
  match s.directory.read envFile with
  | .ok file => EnvFile.extend s.inherited file
  | .error _ => s.inherited

/-- The environment of a run; the secret is that of the invocation. -/
def environment (s : Surroundings) (i : CommandLine.Invocation) : Environment :=
  (Environment.ofList (allVariables s)).set Settings.secretVariable i.secret

/-- The settings of a run. -/
def settings (s : Surroundings) (i : CommandLine.Invocation) : Step Settings := do
  let env := environment s i
  match (Settings.filePath i.config env).map fun p => (p, s.directory.readText p) with
  | some (path, .ok _) =>
    log .debug "keel_core::config::resolver" s!"loaded settings file path={path}"
  | _ => pure ()
  let loaded ← result .config (Settings.load s.directory i.config env)
  log .debug "keel"
    s!"settings resolved for service {loaded.service.name} ({loaded.service.environment})"
  return loaded

/-- The token manager of a run. -/
def tokens (s : Surroundings) (i : CommandLine.Invocation) : Step TokenManager := do
  let loaded ← settings s i
  result (fun d => .config (.invalid (.tokens d))) (TokenManager.ofSettings loaded.auth)

/-- The claims of a token; the cause of a rejection is logged. -/
def claims (s : Surroundings) (m : TokenManager) (token : String) (kind : TokenKind) :
    Step TokenClaims := do
  match m.claimsAt s.now token kind with
  | .ok c => return c
  | .error r =>
    log .debug "keel_core::auth::token" r.logLine
    throw (.auth r.error)

/-- Checks a password; a hash that is too cheap is logged. -/
def checkPassword (password hash : String) : Step String := do
  if !(← result .auth (Password.verify password hash)) then throw .passwordMismatch
  if ← result .auth (Password.needsRehash hash) then
    log .warn "keel" "hash cost is below the current default; rehash it"
  return "ok"

/-- Builds the credentials of one side. -/
def credentials (s : Surroundings) (settings : Settings) (side : Side) : Step Credentials := do
  let build := match side with
    | .server => Credentials.server
    | .client => Credentials.client
  match ← result .config (Credentials.ofSettings build s.directory settings.tls) with
  | none => throw .tlsNotConfigured
  | some c =>
    let cert := settings.tls.certPath.getD ""
    log .info "keel_core::tls"
      s!"built {side.name} mTLS credentials cert={cert} trust_anchors={c.trustAnchors.length}"
    return c

/-- Builds the credentials of both sides from the configured files. -/
def checkTls (s : Surroundings) (i : CommandLine.Invocation) : Step String := do
  let loaded ← settings s i
  let server ← credentials s loaded .server
  let _client ← credentials s loaded .client
  return s!"ok: {server.policy.name}, minimum {minProtocolVersion}, " ++
    s!"{server.trustAnchors.length} trust anchor(s)"

/-- The version of the program and of its library. -/
def versionLine : String := s!"keel_cli {version} (keel_core {version})"

/-- Carries a command out: its result is one text. -/
def perform (s : Surroundings) (i : CommandLine.Invocation) : Step String := do
  match i.command with
  | .version => return versionLine
  | .issueAccess user tenant email roles =>
    result .auth ((← tokens s i).issueAccess s.now user tenant email roles)
  | .issueRefresh user tenant => result .auth ((← tokens s i).issueRefresh s.now user tenant)
  | .verify token kind =>
    let c ← claims s (← tokens s i) token kind
    return (Text.ofBytes? (c.principal.toJson.pretty 0)).getD ""
  | .refresh token =>
    let m ← tokens s i
    let _claims ← claims s m token .refresh
    result .auth (m.refresh s.now token)
  | .hashPassword password => result .auth (Password.hash password (s.random.bytes 16).1)
  | .checkPassword password hash => checkPassword password hash
  | .genSecret length => return (s.random.tokenUrlSafe length).1
  | .checkTls => checkTls s i

/-- Runs a command that the arguments ask for. -/
def runCommand (s : Surroundings) (i : CommandLine.Invocation) : RunResult :=
  let console := ConsoleFilter.choose ((allVariables s).lookup "RUST_LOG")
  match (perform s i).run.run [] with
  | (.ok text, events) => ⟨0, text ++ "\n", console.output events⟩
  | (.error e, events) =>
    ⟨1, "", console.output (events ++ [⟨.error, "keel", e.message s.yamlWords⟩])⟩

/-- Runs the program with arguments. -/
def run (s : Surroundings) (args : List String) : RunResult :=
  match CommandLine.Invocation.ofArguments (.ofList (allVariables s)) args with
  | .error (.help text) => ⟨0, text, ""⟩
  | .error .version => ⟨0, s!"{CommandLine.Help.program} {version}\n", ""⟩
  | .error .usage => ⟨2, "", CommandLine.Help.usage ++ "\n"⟩
  | .ok i => runCommand s i

/-- The paths of the files that a run may read, as far as the files that are there tell. -/
def paths (s : Surroundings) (args : List String) : List String :=
  match CommandLine.Invocation.ofArguments (.ofList (allVariables s)) args with
  | .error _ => [envFile]
  | .ok i =>
    let env := environment s i
    let tls := match Settings.layered s.directory i.config env with
      | .ok loaded => [loaded.tls.certPath, loaded.tls.keyPath, loaded.tls.caPath].filterMap id
      | .error _ => []
    envFile :: (Settings.filePath i.config env).toList ++ tls

end Session

end TenantAuth
