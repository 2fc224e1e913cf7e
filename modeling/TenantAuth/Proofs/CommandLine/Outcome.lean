import TenantAuth.Proofs.CommandLine.Session
import TenantAuth.Proofs.Json.Pretty
import TenantAuth.Proofs.Password.Hash
import TenantAuth.Proofs.Settings.Fitness

/-!
# What a run prints

A command comes to what the operations of the library come to (`outcome`), and none of what it logs
on the way is an error (`mildly_perform`). So a run prints the result of the library or nothing, and
the one error among its events is the one that it fails with (`run_eq_leave`).
-/
namespace TenantAuth.Session

open Outcome

variable {α : Type} {s : Surroundings} {i : CommandLine.Invocation} {args : List String}

/-! ## Outcomes -/

/-- What a command comes to: settings are loaded where it needs them, and the library does the
rest. -/
def outcome (s : Surroundings) (i : CommandLine.Invocation) : Except CommandError String :=
  match use? s i.command, i.command with
  | some use, _ => (Settings.load s.directory i.config (environment s i)).mapError .config >>= use
  | none, .hashPassword password => (Password.hash password (s.random.bytes 16).1).mapError .auth
  | none, .checkPassword password hash => do
    if ← (Password.verify password hash).mapError .auth then return "ok"
    else throw .passwordMismatch
  | none, .genSecret length => .ok (s.random.tokenUrlSafe length).1
  | none, _ => .ok versionLine

/-- The step comes to an outcome, and logs no error on the way. -/
def Mildly (x : Step α) (r : Except CommandError α) : Prop :=
  ∃ events, x.run.run [] = (r, events) ∧ ∀ e ∈ events, e.level ≠ .error

/-- What is logged quietly is no error. -/
theorem Quietly.mildly {x : Step α} {r : Except CommandError α} (h : Quietly x r) : Mildly x r := by
  obtain ⟨events, hrun, hhidden⟩ := h []
  refine ⟨events, hrun, fun e he herror => ?_⟩
  have hshown : ConsoleFilter.warnings.shows e = true := by
    rw [shows_warnings, herror]
    decide
  rw [hhidden e he] at hshown
  cases hshown

/-- A password check comes to whether the password matches. That the cost of the hash is asked for
afterwards cannot make it fail. -/
theorem mildly_checkPassword (password hash : String) :
    Mildly (checkPassword password hash) (do
      if ← (Password.verify password hash).mapError .auth then return "ok"
      else throw .passwordMismatch) := by
  unfold checkPassword
  cases hverify : Password.verify password hash with
  | error e => exact ⟨[], rfl, nofun⟩
  | ok matched =>
    cases matched with
    | false => exact ⟨[], rfl, nofun⟩
    | true =>
      -- the cost is asked for after the match, and that cannot fail any more
      obtain ⟨weak, hweak⟩ := Password.needsRehash_of_verify hverify
      rw [hweak]
      cases weak with
      | false => exact ⟨[], rfl, nofun⟩
      | true =>
        refine ⟨[⟨.warn, "keel", "hash cost is below the current default; rehash it"⟩], rfl, ?_⟩
        intro e he
        rw [List.mem_singleton.1 he]
        decide

/-- **Every command comes to its outcome,** and logs no error on the way. -/
theorem mildly_perform (s : Surroundings) (i : CommandLine.Invocation) :
    Mildly (perform s i) (outcome s i) := by
  unfold outcome
  cases huse : use? s i.command with
  | some use => exact (quietly_perform huse).mildly
  | none =>
    unfold perform
    generalize i.command = command at huse ⊢
    -- what is left are the commands that need no settings
    cases command with
    | version => exact (quietly_pure versionLine).mildly
    | hashPassword password => exact (quietly_result _ _).mildly
    | checkPassword password hash => exact mildly_checkPassword password hash
    | genSecret length => exact (quietly_pure _).mildly
    | issueAccess user tenant email roles => cases huse
    | issueRefresh user tenant => cases huse
    | verify token kind => cases kind <;> cases huse
    | refresh token => cases huse
    | checkTls => cases huse

/-! ## Runs -/

/-- The filter of a run. -/
def console (s : Surroundings) : ConsoleFilter := .choose ((allVariables s).lookup "RUST_LOG")

/-- The event that a run fails with. -/
def failure (yaml : YamlWords) (e : CommandError) : LogEvent := ⟨.error, "keel", e.message yaml⟩

/-- What is left of a run: the text that it comes to, or the error after all that was logged. -/
def leave (yaml : YamlWords) (f : ConsoleFilter) (logged : List LogEvent) :
    Except CommandError String → RunResult
  | .ok text => ⟨0, text ++ "\n", f.output logged⟩
  | .error e => ⟨1, "", f.output (logged ++ [failure yaml e])⟩

/-- The arguments are accepted as those of a command. -/
def Accepts (s : Surroundings) (args : List String) (i : CommandLine.Invocation) : Prop :=
  CommandLine.Invocation.ofArguments (.ofList (allVariables s)) args = .ok i

/-- A run with accepted arguments leaves what its command comes to, and the error of the command is
the only one in what it logs. -/
theorem run_eq_leave (hargs : Accepts s args i) :
    ∃ logged, run s args = leave s.yamlWords (console s) logged (outcome s i) ∧
      ∀ e ∈ logged, e.level ≠ .error := by
  have hread : CommandLine.Invocation.ofArguments (.ofList (allVariables s)) args = .ok i := hargs
  obtain ⟨logged, hrun, hmild⟩ := mildly_perform s i
  refine ⟨logged, ?_, hmild⟩
  unfold run
  -- the arguments are those of a command, so it is run
  rw [hread]
  show runCommand s i = _
  unfold runCommand
  rw [hrun]
  cases outcome s i with
  | ok text => rfl
  | error e => rfl

/-- A run succeeds just when its command does. -/
theorem exit_eq_zero_iff (hargs : Accepts s args i) :
    (run s args).exit = 0 ↔ ∃ text, outcome s i = .ok text := by
  obtain ⟨logged, hrun, -⟩ := run_eq_leave hargs
  rw [hrun]
  cases outcome s i with
  | ok text => exact ⟨fun _ => ⟨text, rfl⟩, fun _ => rfl⟩
  | error e => exact ⟨nofun, nofun⟩

/-- A password check succeeds just when the password matches. -/
theorem outcome_checkPassword {password hash : String}
    (hcommand : i.command = .checkPassword password hash) :
    (∃ text, outcome s i = .ok text) ↔ Password.verify password hash = .ok true := by
  unfold outcome
  rw [hcommand]
  show (∃ text, (Except.mapError _ _ >>= _) = Except.ok text) ↔ _
  cases Password.verify password hash with
  | error e => exact ⟨nofun, nofun⟩
  | ok matched =>
    cases matched with
    | false => exact ⟨nofun, nofun⟩
    | true => exact ⟨fun _ => rfl, fun _ => ⟨"ok", rfl⟩⟩

/-- What is printed for an identity are its four members, over several lines. -/
theorem bytes_printed (p : Principal) :
    Text.bytes (printed p) = Json.pretty 0 (.obj [("user_id", .str p.userId),
      ("tenant_id", .str p.tenantId), ("email", .str p.email),
      ("roles", .arr (p.roles.toList.map .str))]) :=
  (Json.isText_pretty 0 p.toJson).bytes_getD

/-- The members of an identity, in the order of their names. -/
theorem sortMembers_identity {α : Type} (userId tenantId email roles : α) :
    Json.sortMembers [("user_id", userId), ("tenant_id", tenantId), ("email", email),
        ("roles", roles)]
      = [("email", email), ("roles", roles), ("tenant_id", tenantId), ("user_id", userId)] := by
  have htenant : Text.Before "tenant_id" "user_id" := by decide +kernel
  have hemail : Text.Before "email" "tenant_id" := by decide +kernel
  have hroles : ¬ Text.Before "roles" "email" ∧ "roles" ≠ "email" ∧
      Text.Before "roles" "tenant_id" := by decide +kernel
  obtain ⟨hafter, hother, hbefore⟩ := hroles
  simp only [Json.sortMembers, List.foldl_cons, List.foldl_nil, Json.setMember, htenant, hemail,
    hafter, hother, hbefore, if_true, if_false]

/-- What is printed for an identity stands for the object of its four members. -/
theorem parse_printed (p : Principal) :
    Json.parse (Text.bytes (printed p)) = .ok (.obj [("email", .str p.email),
      ("roles", .arr (p.roles.toList.map .str)), ("tenant_id", .str p.tenantId),
      ("user_id", .str p.userId)]) := by
  -- the roles are strings, so they neither nest nor have members to sort
  have hrole : ∀ v ∈ p.roles.toList.map Json.str, v.Integral ∧ v.nesting ≤ 0 ∧ v.sorted = v := by
    intro v hv
    obtain ⟨role, -, rfl⟩ := List.mem_map.1 hv
    exact ⟨.str role, Nat.le_refl 0, rfl⟩
  generalize hroles : p.roles.toList.map Json.str = roles at hrole ⊢
  have hintegral : Json.Integral (.obj [("user_id", .str p.userId), ("tenant_id", .str p.tenantId),
      ("email", .str p.email), ("roles", .arr roles)]) := by
    refine .obj fun m hm => ?_
    simp only [List.mem_cons, List.not_mem_nil, or_false] at hm
    rcases hm with rfl | rfl | rfl | rfl
    · exact .str p.userId
    · exact .str p.tenantId
    · exact .str p.email
    · exact .arr fun v hv => (hrole v hv).1
  have hdepth : Json.nesting (.obj [("user_id", .str p.userId), ("tenant_id", .str p.tenantId),
      ("email", .str p.email), ("roles", .arr roles)]) < Json.Reader.maxDepth := by
    have hitems : Json.itemsNesting roles = 0 :=
      Nat.le_zero.1 (Json.itemsNesting_le.2 fun v hv => (hrole v hv).2.1)
    simp only [Json.nesting, Json.membersNesting, hitems]
    decide
  have hsame : Json.sortedItems roles = roles := by
    rw [Json.sortedItems_eq_map, List.map_congr_left fun v hv => (hrole v hv).2.2, List.map_id']
  rw [bytes_printed, hroles, Json.parse_pretty hintegral hdepth]
  simp only [Json.sorted, Json.sortedMembers, hsame, sortMembers_identity]

/-- The arguments for an access token. -/
def issuing : List String := ["issue-access", "--user", "ada", "--secret", "key"]

end TenantAuth.Session
