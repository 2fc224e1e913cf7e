import TenantAuth.CommandLine.Help

/-!
# Invocations

Reads arguments by the grammar. The options of all commands may stand before the command and after
it; the later one counts, and the environment where neither is given.
-/
namespace TenantAuth.CommandLine

/-- A command with the settings file and the secret to use for it. -/
structure Invocation where
  config : Option String
  secret : Option String
  command : Command
  deriving DecidableEq

/-- Why reading arguments ends without a command. -/
inductive Stop where
  | help (text : String)
  | version
  | usage
  deriving DecidableEq

/-- A place in the arguments: the options and the number of operands that are taken there, the help
that is shown, and whether the version is. -/
structure Level where
  options : List OptionSpec
  operands : Nat
  help : String
  showsVersion : Bool

namespace Level

/-- An argument that cannot be the value of the option before it. -/
def looksLikeOption (s : String) : Bool := s.startsWith "-" && s ≠ "-"

/-- Adds an option with a value that it takes. -/
def addOption (o : OptionSpec) (v : String) (m : Matches) : Except Stop Matches :=
  if m.has o.name && !o.repeatable then .error .usage
  else if o.value.all (·.accepts v) then .ok { m with options := m.options ++ [(o.name, v)] }
  else .error .usage

/-- Adds an operand, if there is room for one. -/
def addOperand (l : Level) (s : String) (m : Matches) : Except Stop Matches :=
  if m.operands.length < l.operands then .ok { m with operands := m.operands ++ [s] }
  else .error .usage

/-- The name and the value of an argument `--name=value`, of which the value may be left out. -/
def long? (s : String) : Option (String × Option String) :=
  match s.toList with
  | '-' :: '-' :: cs =>
    let name := String.ofList (cs.takeWhile (· ≠ '='))
    match cs.dropWhile (· ≠ '=') with
    | _ :: v => some (name, some (String.ofList v))
    | [] => some (name, none)
  | _ => none

/-- An option without a value of its own: help, the version, or nothing that is known. -/
def builtIn (l : Level) (isHelp isVersion : Bool) : Stop :=
  if isHelp then .help l.help else if isVersion && l.showsVersion then .version else .usage

/-- Reads arguments after an option that lacks its value, if there is one; where operands are not
taken, the first one and what follows it are left. -/
def readAfter (l : Level) : Option OptionSpec → List String → Matches →
    Except Stop (Matches × List String)
  | none, [], m => .ok (m, [])
  | some _, [], _ => .error .usage
  | some o, v :: rest, m =>
    if looksLikeOption v then .error .usage
    else do readAfter l none rest (← addOption o v m)
  | none, a :: rest, m =>
    if a = "--" then do return (← rest.foldlM (fun m s => l.addOperand s m) m, [])
    else
      match long? a with
      | some (name, attached) =>
        match l.options.find? fun o => o.name = name with
        | none =>
          .error (if attached.isSome then .usage else l.builtIn (name = "help") (name = "version"))
        | some o =>
          match o.value, attached with
          | none, none => do readAfter l none rest (← addOption o "" m)
          | none, some _ => .error .usage
          | some _, some v => do readAfter l none rest (← addOption o v m)
          | some _, none => readAfter l (some o) rest m
      | none =>
        if looksLikeOption a then
          let short := a.toList.getD 1 ' '
          .error (l.builtIn (short = 'h') (short = 'V'))
        else if l.operands = 0 then .ok (m, a :: rest)
        else do readAfter l none rest (← l.addOperand a m)

/-- Reads arguments. -/
def read (l : Level) (args : List String) : Except Stop (Matches × List String) :=
  l.readAfter none args .none

end Level

/-- All that a command needs was given. -/
def complete (c : CommandSpec) (m : Matches) : Bool :=
  c.options.all (fun o => !o.required || m.has o.name) && m.operands.length = c.operands.length

/-- A level where no settings file is given falls back on the environment, which must not name an
empty one. -/
def fallsBack (env : Environment) (m : Matches) : Bool :=
  m.has configOption.name || env Settings.fileVariable ≠ some ""

/-- Shows the help that is asked for by the names of commands. -/
def helpFor (env : Environment) : List String → Stop
  | [] => .help (Help.general env)
  | [name] =>
    if name = Help.helpName then .help Help.ofHelp
    else
      match command? name with
      | some c => .help (Help.ofCommand env c)
      | none => .usage
  | _ => .usage

/-- Reads what follows the name of a command after the options `outer`. -/
def Invocation.ofCommand (env : Environment) (outer : Matches) (c : CommandSpec)
    (args : List String) : Except Stop Invocation := do
  let level : Level := ⟨c.allOptions, c.operands.length, Help.ofCommand env c, false⟩
  let (inner, rest) ← level.read args
  if !rest.isEmpty then throw .usage
  if !complete c inner || !fallsBack env inner || !fallsBack env outer then throw .usage
  let global (o : OptionSpec) (name : String) : Option String :=
    inner.value? o.name <|> outer.value? o.name <|> env name
  return {
    config := global configOption Settings.fileVariable
    secret := global secretOption Settings.secretVariable
    command := c.command inner }

/-- Reads the arguments of the program. -/
def Invocation.ofArguments (env : Environment) (args : List String) : Except Stop Invocation := do
  let level : Level := ⟨globalOptions, 0, Help.general env, true⟩
  let (outer, rest) ← level.read args
  match rest with
  | [] => throw .usage
  | name :: rest =>
    if name = Help.helpName then throw (helpFor env rest)
    match command? name with
    | none => throw .usage
    | some c => ofCommand env outer c rest

end TenantAuth.CommandLine
