import TenantAuth.Text.Blank
import TenantAuth.Text.Decimal

/-!
# Log levels

How much is logged: nothing, or the lines up to a level of detail.
-/
namespace TenantAuth

/-- A level of detail. -/
inductive LogLevel where
  | off
  | error
  | warn
  | info
  | debug
  | trace
  deriving DecidableEq

namespace LogLevel

/-- All levels, the least detailed first. -/
def all : List LogLevel := [.off, .error, .warn, .info, .debug, .trace]

/-- The place of a level among all. -/
def rank : LogLevel → Nat
  | .off => 0
  | .error => 1
  | .warn => 2
  | .info => 3
  | .debug => 4
  | .trace => 5

/-- The name of a level. -/
def name : LogLevel → String
  | .off => "off"
  | .error => "error"
  | .warn => "warn"
  | .info => "info"
  | .debug => "debug"
  | .trace => "trace"

/-- The more detailed of two levels. -/
def max (a b : LogLevel) : LogLevel := if a.rank < b.rank then b else a

/-- The level of a name in letters of either case, or of a number; an empty text is `error`. -/
def ofText? (s : String) : Option LogLevel :=
  match Text.Decimal.parse? 0 uint64Max s with
  | some n => all[n.toNat]?
  | none => if s.isEmpty then some .error else all.find? fun l => Text.lowerAscii s = l.name

end LogLevel

end TenantAuth
