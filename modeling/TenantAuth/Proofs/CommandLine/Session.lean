import TenantAuth.CommandLine.Session
import TenantAuth.Proofs.CommandLine.Invocation
import TenantAuth.Proofs.Settings.Layers

/-!
# Settings of a run

A command that needs settings does with them what the library would (`use?`). All that it logs
besides is of no note, so what a run leaves is the outcome of the command alone
(`runCommand_eq_report`), and that is the outcome of loading the settings and of using them
(`quietly_perform`).
-/
namespace TenantAuth.Session

open Outcome

variable {α β : Type} {s : Surroundings} {i : CommandLine.Invocation} {args : List String}
  {yaml : YamlWords}

/-! ## Steps that show nothing -/

/-- The step comes out like this, and nothing that it logs is a warning or an error. -/
def Quietly (x : Step α) (r : Except CommandError α) : Prop :=
  ∀ logged, ∃ more, x.run.run logged = (r, logged ++ more) ∧
    ∀ e ∈ more, ConsoleFilter.warnings.shows e = false

/-- Steps that are quiet one by one are quiet one after the other. -/
theorem Quietly.bind {x : Step α} {f : α → Step β} {r : Except CommandError α}
    {g : α → Except CommandError β} (hx : Quietly x r)
    (hf : ∀ a, r = .ok a → Quietly (f a) (g a)) : Quietly (x >>= f) (r >>= g) := by
  intro logged
  obtain ⟨more, hrun, hmore⟩ := hx logged
  rw [ExceptT.run_bind, StateT.run_bind, hrun]
  cases r with
  -- the first step fails: the second is not taken, and its rest of the log is not written
  | error e => exact ⟨more, rfl, hmore⟩
  | ok a =>
    obtain ⟨more', hrun', hmore'⟩ := hf a rfl (logged ++ more)
    refine ⟨more ++ more', ?_, fun e he => ?_⟩
    · rw [← List.append_assoc]
      exact hrun'
    · rcases List.mem_append.1 he with he | he
      · exact hmore e he
      · exact hmore' e he

/-- A step that only logs does not show. -/
theorem Quietly.and_then {x : Step Unit} {f : Unit → Step β} {r : Except CommandError β}
    (hx : Quietly x (.ok ())) (hf : Quietly (f ()) r) : Quietly (x >>= f) r :=
  hx.bind fun _ _ => hf

/-- Nor does one that logs and passes its value on. -/
theorem Quietly.passing {x : Step α} {f : α → Step α} {r : Except CommandError α}
    (hx : Quietly x r) (hf : ∀ a, Quietly (f a) (.ok a)) : Quietly (x >>= f) r := by
  -- the second step gives back what it is given, in a failure as in a success
  have h := hx.bind fun a _ => hf a
  cases r <;> exact h

theorem quietly_pure (a : α) : Quietly (pure a) (.ok a) := fun logged =>
  ⟨[], by rw [List.append_nil]; rfl, nofun⟩

theorem quietly_throw (e : CommandError) : Quietly (throw e : Step α) (.error e) := fun logged =>
  ⟨[], by rw [List.append_nil]; rfl, nofun⟩

/-- A result of the library is quiet, with its error as an error of the command. -/
theorem quietly_result {ε : Type} (error : ε → CommandError) (r : Except ε α) :
    Quietly (result error r) (r.mapError error) := by
  cases r with
  | ok a => exact quietly_pure a
  | error e => exact quietly_throw (error e)

/-- Where no filter is asked for, warnings and errors are shown. -/
theorem shows_warnings (e : LogEvent) :
    ConsoleFilter.warnings.shows e = decide (e.level.rank ≤ LogLevel.warn.rank) := by
  have hrule : [("", LogLevel.warn)].find? (fun r => e.target.startsWith r.1) = some ("", .warn) :=
    List.find?_cons_of_pos (by simp)
  unfold ConsoleFilter.shows ConsoleFilter.warnings
  dsimp only
  rw [hrule]
  exact Bool.and_true _

/-- Anything below a warning may be logged. -/
theorem quietly_log {level : LogLevel} (hlevel : LogLevel.warn.rank < level.rank)
    (target message : String) : Quietly (log level target message) (.ok ()) := by
  intro logged
  refine ⟨[⟨level, target, message⟩], rfl, fun e he => ?_⟩
  rw [List.mem_singleton.1 he, shows_warnings]
  exact decide_eq_false (Nat.not_le.2 hlevel)

/-- What a run leaves of a command that logs nothing of note. -/
def report (yaml : YamlWords) : Except CommandError String → RunResult
  | .ok text => ⟨0, text ++ "\n", ""⟩
  | .error e => ⟨1, "", LogEvent.line ⟨.error, "keel", e.message yaml⟩⟩

/-- Without a filter in the environment, a quiet command leaves what it comes to and nothing
else. -/
theorem runCommand_eq_report {r : Except CommandError String}
    (hlog : (allVariables s).lookup "RUST_LOG" = none) (h : Quietly (perform s i) r) :
    runCommand s i = report s.yamlWords r := by
  obtain ⟨events, hrun, hhidden⟩ := h []
  -- all that is logged on the way falls through the filter, the error at the end does not
  have hnone : events.filter ConsoleFilter.warnings.shows = [] :=
    List.filter_eq_nil_iff.2 fun e he => by simp [hhidden e he]
  unfold runCommand
  rw [hlog, hrun]
  cases r with
  | ok text =>
    show RunResult.mk 0 _ (ConsoleFilter.warnings.output events) = _
    rw [ConsoleFilter.output, hnone]
    rfl
  | error e =>
    have hshown : ConsoleFilter.warnings.shows ⟨.error, "keel", e.message s.yamlWords⟩ = true := by
      rw [shows_warnings]
      rfl
    show RunResult.mk 1 "" (ConsoleFilter.warnings.output (events ++ [_])) = _
    rw [ConsoleFilter.output, List.filter_append, hnone, List.nil_append,
      List.filter_cons_of_pos hshown]
    simp [report]

/-! ## Settings -/

/-- Settings are loaded quietly: that no file is asked for is only logged for those who debug. -/
theorem quietly_settings : Quietly (settings s i)
    ((Settings.load s.directory i.config (environment s i)).mapError .config) := by
  have hhidden : LogLevel.warn.rank < LogLevel.debug.rank := by decide
  have hloaded : Quietly (do
      let loaded ← result .config (Settings.load s.directory i.config (environment s i))
      log .debug "keel"
        s!"settings resolved for service {loaded.service.name} ({loaded.service.environment})"
      return loaded)
      ((Settings.load s.directory i.config (environment s i)).mapError .config) := by
    refine (quietly_result _ _).passing fun loaded => ?_
    exact (quietly_log hhidden _ _).and_then (quietly_pure loaded)
  unfold settings
  dsimp only
  -- a file that is not asked for is logged first, below what is shown
  split
  · exact (quietly_log hhidden _ _).and_then hloaded
  · exact hloaded

/-- The token manager of settings. -/
def manager (loaded : Settings) : Except CommandError TokenManager :=
  (TokenManager.ofSettings loaded.auth).mapError fun d => .config (.invalid (.tokens d))

/-- The credentials of a side, if the settings name any. -/
def side (s : Surroundings) (loaded : Settings)
    (build : Directory → String → String → String → Except ConfigError Credentials) :
    Except CommandError Credentials := do
  match ← (Credentials.ofSettings build s.directory loaded.tls).mapError .config with
  | none => throw .tlsNotConfigured
  | some c => return c

/-- The identity in a token as it is printed. -/
def printed (p : Principal) : String := (Text.ofBytes? (p.toJson.pretty 0)).getD ""

/-- What a command does with settings. Some commands need none. -/
def use? (s : Surroundings) : Command → Option (Settings → Except CommandError String)
  | .issueAccess user tenant email roles => some fun loaded => do
    ((← manager loaded).issueAccess s.now user tenant email roles).mapError .auth
  | .issueRefresh user tenant => some fun loaded => do
    ((← manager loaded).issueRefresh s.now user tenant).mapError .auth
  | .verify token .access => some fun loaded => do
    return printed (← ((← manager loaded).verify s.now token).mapError .auth)
  | .verify token .refresh => some fun loaded => do
    return printed (← ((← manager loaded).verifyRefresh s.now token).mapError .auth)
  | .refresh token => some fun loaded => do
    ((← manager loaded).refresh s.now token).mapError .auth
  | .checkTls => some fun loaded => do
    let server ← side s loaded Credentials.server
    let _client ← side s loaded Credentials.client
    return s!"ok: {server.policy.name}, minimum {minProtocolVersion}, " ++
      s!"{server.trustAnchors.length} trust anchor(s)"
  | .version | .hashPassword _ | .checkPassword _ _ | .genSecret _ => none

/-- A command that works with tokens loads settings and makes the manager of them first. -/
theorem quietly_tokens {f : TokenManager → Step α} {g : TokenManager → Except CommandError α}
    (h : ∀ m, Quietly (f m) (g m)) : Quietly (tokens s i >>= f)
      ((Settings.load s.directory i.config (environment s i)).mapError .config >>= fun loaded =>
        manager loaded >>= g) := by
  unfold tokens
  rw [bind_assoc]
  refine quietly_settings.bind fun loaded _ => ?_
  exact (quietly_result _ (TokenManager.ofSettings loaded.auth)).bind fun m _ => h m

theorem quietly_claims (m : TokenManager) (token : String) (kind : TokenKind) :
    Quietly (claims s m token kind) ((m.verifyKind s.now token kind).mapError .auth) := by
  have hhidden : LogLevel.warn.rank < LogLevel.debug.rank := by decide
  unfold claims TokenManager.verifyKind
  cases m.claimsAt s.now token kind with
  | ok c => exact quietly_pure c
  | error r => exact (quietly_log hhidden _ _).and_then (quietly_throw _)

/-- The identity in a token is printed quietly. -/
theorem quietly_verify (m : TokenManager) (token : String) (kind : TokenKind) :
    Quietly (do return printed (← claims s m token kind).principal)
      (do return printed (←
        ((m.verifyKind s.now token kind).map TokenClaims.principal).mapError .auth)) := by
  have h := (quietly_claims (s := s) m token kind).bind fun c _ =>
    quietly_pure (printed c.principal)
  -- the manager maps the claims to the identity, the command reads it off them
  cases hkind : m.verifyKind s.now token kind with
  | ok c =>
    rw [hkind] at h
    exact h
  | error e =>
    rw [hkind] at h
    exact h

/-- The claims of a refresh token are looked at twice, with the same outcome. -/
theorem quietly_refresh (m : TokenManager) (token : String) :
    Quietly (do
        let _claims ← claims s m token .refresh
        result .auth (m.refresh s.now token))
      ((m.refresh s.now token).mapError .auth) := by
  have h := (quietly_claims (s := s) m token .refresh).bind fun _ _ =>
    quietly_result .auth (m.refresh s.now token)
  -- the manager starts over with the claims that the command has seen already
  have hrefresh : m.refresh s.now token = (m.verifyKind s.now token .refresh >>= fun c =>
      m.sign s.now c.userId c.tenantId c.email c.roles .access) := rfl
  cases hkind : m.verifyKind s.now token .refresh with
  | ok c =>
    rw [hkind] at h
    exact h
  | error e =>
    rw [hkind] at h hrefresh
    rw [hrefresh] at h ⊢
    exact h

/-- The credentials of a side are built quietly. -/
theorem quietly_credentials (loaded : Settings) (which : Side) :
    Quietly (credentials s loaded which)
      (side s loaded
        (match which with | .server => Credentials.server | .client => Credentials.client)) := by
  have hhidden : LogLevel.warn.rank < LogLevel.info.rank := by decide
  unfold credentials side
  refine (quietly_result _ _).bind fun c _ => ?_
  cases c with
  | none => exact quietly_throw _
  | some c => exact (quietly_log hhidden _ _).and_then (quietly_pure c)

/-- The check of the TLS settings builds both sides and describes the server. -/
theorem quietly_checkTls : Quietly (checkTls s i)
    ((Settings.load s.directory i.config (environment s i)).mapError .config >>= fun loaded => do
      let server ← side s loaded Credentials.server
      let _client ← side s loaded Credentials.client
      return s!"ok: {server.policy.name}, minimum {minProtocolVersion}, " ++
        s!"{server.trustAnchors.length} trust anchor(s)") := by
  unfold checkTls
  refine quietly_settings.bind fun loaded _ => ?_
  refine (quietly_credentials loaded .server).bind fun server _ => ?_
  exact (quietly_credentials loaded .client).bind fun _ _ => quietly_pure _

/-- **A command that needs settings is carried out with those that are loaded.** -/
theorem quietly_perform {use : Settings → Except CommandError String}
    (huse : use? s i.command = some use) : Quietly (perform s i)
      ((Settings.load s.directory i.config (environment s i)).mapError .config >>= use) := by
  unfold perform
  -- only the commands that `use?` says something of load settings
  generalize i.command = command at huse ⊢
  cases command with
  | version => cases huse
  | hashPassword password => cases huse
  | checkPassword password hash => cases huse
  | genSecret length => cases huse
  | issueAccess user tenant email roles =>
    cases huse
    exact quietly_tokens fun m => quietly_result _ _
  | issueRefresh user tenant =>
    cases huse
    exact quietly_tokens fun m => quietly_result _ _
  | verify token kind =>
    cases kind with
    | access =>
      cases huse
      exact quietly_tokens fun m => quietly_verify m token .access
    | refresh =>
      cases huse
      exact quietly_tokens fun m => quietly_verify m token .refresh
  | refresh token =>
    cases huse
    exact quietly_tokens fun m => quietly_refresh m token
  | checkTls =>
    cases huse
    exact quietly_checkTls

/-! ## Runs -/

/-- The environment with the secret of the arguments, if they give one. -/
def withSecret (env : Environment) : Option String → Environment
  | none => env
  | some key => env.set Settings.secretVariable (some key)

theorem set_self (env : Environment) (name : String) : env.set name (env name) = env := by
  funext n
  unfold Environment.set
  split
  · next hname => rw [hname]
  · rfl

/-- Environments that agree on what is set still agree under a secret from the arguments. -/
theorem value?_withSecret {env env' : Environment} (h : ∀ name, env.value? name = env'.value? name)
    (secret : Option String) (name : String) :
    (withSecret env secret).value? name = (withSecret env' secret).value? name := by
  cases secret with
  | none => exact h name
  | some key =>
    have hname := h name
    unfold Environment.value? at hname ⊢
    dsimp only [withSecret, Environment.set]
    split
    · rfl
    · exact hname

/-- A settings file with a name counts alike as given and as one of the environment. -/
theorem filePath_of_variable {env : Environment} (h : env Settings.fileVariable ≠ some "") :
    Settings.filePath (env Settings.fileVariable) env = Settings.filePath none env := by
  unfold Settings.filePath Environment.value?
  cases hvalue : env Settings.fileVariable with
  | none => rfl
  | some path =>
    -- only an empty name would count as none in one place and as given in the other
    have hpath : path ≠ "" := by
      rintro rfl
      exact h hvalue
    have hfilled : path.isEmpty = false := by simp [hpath]
    rw [Option.filter_some, hfilled]
    rfl

variable {fault : FileFault} {secret : Option String}
  {use : Settings → Except CommandError String}

/-- Without a file of variables there are those that the program was started with. -/
theorem allVariables_of_error (hfile : s.directory.read envFile = .error fault) :
    allVariables s = s.inherited := by
  unfold allVariables
  rw [hfile]

/-- The environment of a run whose arguments leave the secret to the environment, or not. -/
theorem environment_eq_withSecret (hfile : s.directory.read envFile = .error fault)
    (hsecret : i.secret = (secret <|> Environment.ofList s.inherited Settings.secretVariable)) :
    environment s i = withSecret (.ofList s.inherited) secret := by
  unfold environment
  rw [allVariables_of_error hfile, hsecret]
  cases secret with
  | none => exact set_self _ _
  | some key => rfl

/-- A secret from the arguments does not touch the name of the settings file. -/
theorem withSecret_fileVariable (env : Environment) (secret : Option String) :
    withSecret env secret Settings.fileVariable = env Settings.fileVariable := by
  cases secret with
  | none => rfl
  | some key =>
    have hother : Settings.fileVariable ≠ Settings.secretVariable := by decide
    dsimp only [withSecret, Environment.set]
    rw [if_neg hother]

/-- What a run leaves whose arguments are well-formed and give no settings file, where there is no
environment file and no filter for the log. -/
theorem run_eq_report (hfile : s.directory.read envFile = .error fault)
    (hlog : s.inherited.lookup "RUST_LOG" = none)
    (hargs : CommandLine.Invocation.ofArguments (fun _ => none) args = .ok i)
    (hconfig : i.config = none) (huse : use? s i.command = some use)
    (hnamed : Environment.ofList s.inherited Settings.fileVariable ≠ some "") :
    run s args = report s.yamlWords ((Settings.load s.directory none
      (withSecret (.ofList s.inherited) i.secret)).mapError .config >>= use) := by
  have hvariables := allVariables_of_error hfile
  -- the program takes the name of the file from the environment as if it were an argument
  have hload : Settings.load s.directory (Environment.ofList s.inherited Settings.fileVariable)
      (withSecret (.ofList s.inherited) i.secret) =
        Settings.load s.directory none (withSecret (.ofList s.inherited) i.secret) := by
    refine Settings.load_congr ?_ fun _ => rfl
    have hfileVariable := withSecret_fileVariable (.ofList s.inherited) i.secret
    rw [← hfileVariable] at hnamed ⊢
    exact filePath_of_variable hnamed
  unfold run
  rw [hvariables, CommandLine.Invocation.ofArguments_of_unset hargs hconfig, if_neg hnamed, ← hload,
    ← environment_eq_withSecret (i := { i with
      config := Environment.ofList s.inherited Settings.fileVariable
      secret := i.secret <|> Environment.ofList s.inherited Settings.secretVariable }) hfile rfl]
  exact runCommand_eq_report (by rw [hvariables]; exact hlog) (quietly_perform huse)

/-- **The program resolves settings as the library does,** where its arguments name no settings
file, but for an environment that names one by no name: that is an error of usage, and not one the
library has. Otherwise a command that needs settings is carried out with those that are loaded for
the environment, or for the environment with the secret of the arguments, and fails with the error
of loading where there are none. Empty variables count as unset. -/
theorem run_resolves_settings (hfile : s.directory.read envFile = .error fault)
    (hlog : s.inherited.lookup "RUST_LOG" = none)
    (hargs : CommandLine.Invocation.ofArguments (fun _ => none) args = .ok i)
    (hconfig : i.config = none) (huse : use? s i.command = some use) :
    let env := Environment.ofList s.inherited
    (env Settings.fileVariable = some "" →
      run s args = ⟨2, "", CommandLine.Help.usage ++ "\n"⟩) ∧
    (env Settings.fileVariable ≠ some "" →
      (∀ loaded, Settings.load s.directory none (withSecret env i.secret) = .ok loaded →
        run s args = report s.yamlWords (use loaded)) ∧
      (∀ e, Settings.load s.directory none (withSecret env i.secret) = .error e →
        run s args =
          ⟨1, "", LogEvent.line ⟨.error, "keel", (CommandError.config e).message s.yamlWords⟩⟩) ∧
      ∀ inherited : EnvFile.Variables, inherited.lookup "RUST_LOG" = none →
        Environment.ofList inherited Settings.fileVariable ≠ some "" →
        (∀ name, (Environment.ofList inherited).value? name = env.value? name) →
        run { s with inherited := inherited } args = run s args) := by
  intro env
  refine ⟨fun hempty => ?_, fun hnamed => ⟨fun loaded hload => ?_, fun e hload => ?_, ?_⟩⟩
  · unfold run
    rw [allVariables_of_error hfile, CommandLine.Invocation.ofArguments_of_unset hargs hconfig,
      if_pos hempty]
  · rw [run_eq_report hfile hlog hargs hconfig huse hnamed, hload]
    rfl
  · rw [run_eq_report hfile hlog hargs hconfig huse hnamed, hload]
    rfl
  · intro inherited hlog' hnamed' hsame
    rw [run_eq_report hfile hlog hargs hconfig huse hnamed,
      run_eq_report (s := { s with inherited := inherited }) hfile hlog' hargs hconfig huse hnamed']
    -- loading looks at variables only through `value?`, so what agrees there loads alike
    have hvalues := value?_withSecret hsame i.secret
    have hpath : Settings.filePath none (withSecret (.ofList inherited) i.secret) =
        Settings.filePath none (withSecret env i.secret) := hvalues Settings.fileVariable
    dsimp only
    rw [Settings.load_congr hpath hvalues]

/-- Surroundings with nothing but variables. No document is read in them, so no YAML error has
words. -/
def among (inherited : EnvFile.Variables) : Surroundings :=
  ⟨⟨[], []⟩, inherited, .wrap 0, ⟨0⟩, fun _ => ""⟩

/-- The settings of which only the secret is said. -/
def keyed : Settings := { Settings.default with auth.jwtSecret := "key" }

/-- A secret among the arguments, and a variable that is empty. -/
theorem run_resolves_settings_checkTls :
    run (among [("KEEL_SERVICE_NAME", "")]) ["--secret", "key", "check-tls"] =
      report (fun _ => "") (.error .tlsNotConfigured) := by
  have hfile : (among [("KEEL_SERVICE_NAME", "")]).directory.read envFile = .error .notFound := by
    decide +kernel
  have hargs : CommandLine.Invocation.ofArguments (fun _ => none) ["--secret", "key", "check-tls"] =
      .ok ⟨none, some "key", .checkTls⟩ := toOption_eq_some.1 (by decide +kernel)
  have hload : Settings.load (among [("KEEL_SERVICE_NAME", "")]).directory none
      (withSecret (.ofList [("KEEL_SERVICE_NAME", "")]) (some "key")) = .ok keyed :=
    toOption_eq_some.1 (by decide +kernel)
  obtain ⟨-, hnamed⟩ := run_resolves_settings hfile rfl hargs rfl rfl
  exact (hnamed (by decide)).1 keyed hload

/-- The library has settings where the environment names the settings file by no name, as it has
where the environment names none; the program has them in the second case only. -/
theorem empty_file_name_is_refused :
    (Settings.load (among []).directory none
        (.ofList [("KEEL_CONFIG", ""), ("KEEL_JWT_SECRET", "key")])).toOption = some keyed ∧
    run (among [("KEEL_CONFIG", ""), ("KEEL_JWT_SECRET", "key")]) ["check-tls"] =
      ⟨2, "", CommandLine.Help.usage ++ "\n"⟩ ∧
    (Settings.load (among []).directory none
        (.ofList [("KEEL_JWT_SECRET", "key")])).toOption = some keyed ∧
    run (among [("KEEL_JWT_SECRET", "key")]) ["check-tls"] =
      report (fun _ => "") (.error .tlsNotConfigured) := by
  refine ⟨?_, ?_, ?_, ?_⟩
  · decide +kernel
  · decide +kernel
  · decide +kernel
  · decide +kernel

end TenantAuth.Session
