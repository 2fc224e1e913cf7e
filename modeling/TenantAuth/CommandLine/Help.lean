import TenantAuth.CommandLine.Grammar
import TenantAuth.Settings.Resolve

/-!
# Help

What the program says about itself and its commands: a sentence, the usage, and tables of commands,
operands and options.
-/
namespace TenantAuth.CommandLine.Help

/-- The name of the program. -/
def program : String := "keel"

/-- What the program is for. -/
def about : String := "Issue and inspect Keel tokens"

/-- The name of the command that shows help. -/
def helpName : String := "help"

/-- What that command does. -/
def helpAbout : String := "Print this message or the help of the given subcommand(s)"

/-- Rows with their first column filled up to its longest entry, two columns apart. -/
def table (rows : List (String × String)) : List String :=
  let width := (rows.map fun r => r.1.length).foldl max 0
  rows.map fun (left, right) => left ++ "".pushn ' ' (width + 2 - left.length) ++ right

/-- An option as it is written, with a placeholder for its value. -/
def form (o : OptionSpec) : String :=
  match o.value with
  | some v => s!"--{o.name} <{v.placeholder}>"
  | none => "--" ++ o.name

/-- What is said of an option: its purpose, the variable that it stands for, and its default. -/
def remarks (env : Environment) (o : OptionSpec) : String :=
  let source :=
    if o.name = configOption.name then
      let current := (env Settings.fileVariable).getD ""
      [s!"[env: {Settings.fileVariable}={current}]"]
    else if o.name = secretOption.name then [s!"[env: {Settings.secretVariable}]"]
    else []
  let fallback := match o.value.bind ValueSpec.fallback with
    | some d => [s!"[default: {d}]"]
    | none => []
  " ".intercalate ((if o.help.isEmpty then [] else [o.help]) ++ source ++ fallback)

/-- The order of options: by their place, then by name. -/
def before (a b : OptionSpec) : Bool := a.order < b.order || (a.order = b.order && a.name ≤ b.name)

/-- The table of options, the one for help last but for that for the version. -/
def optionLines (env : Environment) (options : List OptionSpec) (version : Bool) : List String :=
  let rows := (options.mergeSort before).map fun o => ("      " ++ form o, remarks env o)
  let rows := rows ++ [("  -h, --help", "Print help")]
  "Options:" :: table (if version then rows ++ [("  -V, --version", "Print version")] else rows)

/-- Lines as a text. -/
def page (lines : List String) : String := "\n".intercalate lines ++ "\n"

/-- The usage of the program. -/
def usage : String := s!"Usage: {program} [OPTIONS] <COMMAND>"

/-- The help of the program. -/
def general (env : Environment) : String :=
  let rows := (commands.map fun c => ("  " ++ c.name, c.about)) ++ [("  " ++ helpName, helpAbout)]
  page ([about, "", usage, "", "Commands:"] ++ table rows ++ [""] ++
    optionLines env globalOptions true)

/-- The help of a command. -/
def ofCommand (env : Environment) (c : CommandSpec) : String :=
  let needed := (c.options.filter OptionSpec.required).map form
  let operands := c.operands.map fun o => s!"<{o}>"
  let usage := " ".intercalate (["Usage:", program, c.name, "[OPTIONS]"] ++ needed ++ operands)
  let arguments := if operands.isEmpty then []
    else "Arguments:" :: table (operands.map fun o => ("  " ++ o, "")) ++ [""]
  page ([c.about, "", usage, ""] ++ arguments ++ optionLines env c.allOptions false)

/-- The help of the command that shows help. -/
def ofHelp : String :=
  page [helpAbout, "", s!"Usage: {program} {helpName} [COMMAND]...", "", "Arguments:",
    "  [COMMAND]...  Print help for the subcommand(s)"]

end TenantAuth.CommandLine.Help
