import TenantAuth.Log.Level
import TenantAuth.Regex.Pattern
import TenantAuth.Regex.Match

/-!
# The console log

Lines for the operator on the error stream, each with a level and the part of the program that it
comes from. A filter names parts of the program by how their names begin; the longest name that fits
decides, and lines from elsewhere are not shown. A pattern may narrow down the messages.
-/
namespace TenantAuth

/-- A line for the operator. -/
structure LogEvent where
  level : LogLevel
  target : String
  message : String
  deriving DecidableEq

namespace LogEvent

/-- The label of a level, five characters wide. -/
def label : LogLevel → String
  | .off => "OFF  "
  | .error => "ERROR"
  | .warn => "WARN "
  | .info => "INFO "
  | .debug => "DEBUG"
  | .trace => "TRACE"

/-- The number of the colour of a level in the palette of 256; some have none. -/
def colour? : LogLevel → Option Nat
  | .error => some 196
  | .warn => some 208
  | .debug => some 27
  | .trace => some 8
  | _ => none

/-- A text in the colour of a level. -/
def paint (level : LogLevel) (s : String) : String :=
  match colour? level with
  | some n => s!"\x1b[38;5;{n}m{s}\x1b[0m"
  | none => s

/-- The event as a line: its level and its message, each in colour. -/
def line (e : LogEvent) : String :=
  paint e.level (label e.level) ++ " " ++ paint e.level e.message ++ "\n"

end LogEvent

/-- The levels of parts of the program, the longest name first, and an expression that messages have
to have a match of. -/
structure ConsoleFilter where
  rules : List (String × LogLevel)
  pattern : Option Regex

namespace ConsoleFilter

/-- The level of a name in letters of either case. -/
def level? (s : String) : Option LogLevel := LogLevel.all.find? fun l => Text.lowerAscii s = l.name

/-- The rule that a part of a filter states. A level alone holds for all, a name alone shows all. -/
def rule? (s : String) : Option (String × LogLevel) :=
  match (Text.parts '=' s).map Text.trim with
  | [name] =>
    if name.toList.any Text.isBlank then none
    else
      match level? name with
      | some l => some ("", l)
      | none => some (name, .trace)
  | [name, level] =>
    if name.toList.any Text.isBlank then none
    else if level.isEmpty then some (name, .trace)
    else (level? level).map fun l => (name, l)
  | _ => none

/-- The room that the expression of a filter may take. -/
def patternRoom : Nat := 0xA00000

/-- The room that the way into an expression and out of it takes. -/
def frameRoom : Nat := 224

/-- The expression of a pattern, if it does not take too much room. -/
def pattern? (s : String) : Option Regex := do
  let p ← Regex.Pattern.ofText? s
  if p.room + frameRoom ≤ patternRoom then return p.regex else none

/-- The filter that a text describes: rules with commas between them, and a pattern after a
slash. -/
def ofText? (s : String) : Option ConsoleFilter := do
  let (rules, pattern) ← match Text.parts '/' s with
    | [rules] => some (rules, none)
    | [rules, pattern] => (pattern? pattern).map fun r => (rules, some r)
    | _ => none
  let parts := ((Text.parts ',' rules).map Text.trim).filter (!·.isEmpty)
  let rules ← parts.mapM rule?
  return ⟨rules.mergeSort fun a b => b.1.utf8ByteSize ≤ a.1.utf8ByteSize, pattern⟩

/-- Warnings and errors from everywhere. -/
def warnings : ConsoleFilter := ⟨[("", .warn)], none⟩

/-- The filter for a description, if there is one that is understood. -/
def choose (description : Option String) : ConsoleFilter := (description.bind ofText?).getD warnings

/-- The event is shown. -/
def shows (f : ConsoleFilter) (e : LogEvent) : Bool :=
  (match f.rules.find? fun r => e.target.startsWith r.1 with
    | some r => e.level.rank ≤ r.2.rank
    | none => false) && f.pattern.all (·.isMatch e.message)

/-- The lines of the events that are shown. -/
def output (f : ConsoleFilter) (events : List LogEvent) : String :=
  String.join ((events.filter f.shows).map LogEvent.line)

end ConsoleFilter

end TenantAuth
