import TenantAuth.Text.Decimal
import TenantAuth.Token.Claims

/-!
# The grammar of the command line

The commands, their options and their operands, as data: reading arguments and writing help go
through the same table.
-/
namespace TenantAuth

/-- What the program is asked to do. -/
inductive Command where
  | version
  | issueAccess (user tenant email : String) (roles : List String)
  | issueRefresh (user tenant : String)
  | verify (token : String) (kind : TokenKind)
  | refresh (token : String)
  | hashPassword (password : String)
  | checkPassword (password hash : String)
  | genSecret (length : Nat)
  | checkTls
  deriving DecidableEq

namespace CommandLine

/-- What stands for the value of an option in help, and which values it takes. -/
structure ValueSpec where
  placeholder : String
  accepts : String → Bool
  fallback : Option String

/-- An option; one without a value is a switch. -/
structure OptionSpec where
  name : String
  value : Option ValueSpec
  repeatable : Bool
  required : Bool
  help : String
  order : Nat

/-- What was read for a command: options with their values, and operands, as they came. -/
structure Matches where
  options : List (String × String)
  operands : List String

namespace Matches

/-- Nothing was read. -/
def none : Matches := ⟨[], []⟩

/-- The option was given. -/
def has (m : Matches) (name : String) : Bool := m.options.any fun o => o.1 = name

/-- The value of an option. -/
def value? (m : Matches) (name : String) : Option String := m.options.lookup name

/-- All values of an option. -/
def values (m : Matches) (name : String) : List String :=
  (m.options.filter fun o => o.1 = name).map Prod.snd

/-- The operand at a place. -/
def operand (m : Matches) (i : Nat) : String := m.operands.getD i ""

end Matches

/-- A command: its name, its options and operands, and what they ask for. -/
structure CommandSpec where
  name : String
  about : String
  options : List OptionSpec
  operands : List String
  command : Matches → Command

/-- A value that may be any text. -/
def anyText (placeholder : String) : ValueSpec := ⟨placeholder, fun _ => true, none⟩

/-- The number of characters that a text names. -/
def length? (s : String) : Option Nat := (Text.Decimal.parse? 0 uint64Max s).map Int.toNat

/-- The option for the settings file. -/
def configOption : OptionSpec where
  name := "config"
  value := some { anyText "CONFIG" with accepts := fun v => !v.isEmpty }
  repeatable := false
  required := false
  help := "YAML settings file"
  order := 0

/-- The option for the secret. -/
def secretOption : OptionSpec where
  name := "secret"
  value := some (anyText "SECRET")
  repeatable := false
  required := false
  help := "HMAC signing secret; overrides the settings file"
  order := 1

/-- The options that every command has. -/
def globalOptions : List OptionSpec := [configOption, secretOption]

/-- The option for the user. -/
def userOption : OptionSpec := ⟨"user", some (anyText "USER"), false, true, "", 0⟩

/-- The option for the tenant. -/
def tenantOption : OptionSpec :=
  ⟨"tenant", some { anyText "TENANT" with fallback := some "" }, false, false, "", 1⟩

/-- The option for the email. -/
def emailOption : OptionSpec :=
  ⟨"email", some { anyText "EMAIL" with fallback := some "" }, false, false, "", 2⟩

/-- The option for roles. -/
def roleOption : OptionSpec :=
  ⟨"role", some (anyText "ROLES"), true, false, "Repeat for several roles", 3⟩

/-- The switch for refresh tokens. -/
def refreshOption : OptionSpec :=
  ⟨"refresh", none, false, false, "Expect a refresh token instead", 0⟩

/-- The length of a secret of which nothing is said. -/
def defaultLength : Nat := 48

/-- The option for the length of a secret. -/
def lenOption : OptionSpec :=
  ⟨"len", some ⟨"LEN", fun v => (length? v).isSome, some (toString defaultLength)⟩, false, false,
    "", 0⟩

/-- All commands. -/
def commands : List CommandSpec := [
  ⟨"version", "Print the version", [], [], fun _ => .version⟩,
  ⟨"issue-access", "Issue an access token", [userOption, tenantOption, emailOption, roleOption], [],
    fun m => .issueAccess ((m.value? "user").getD "") ((m.value? "tenant").getD "")
      ((m.value? "email").getD "") (m.values "role")⟩,
  ⟨"issue-refresh", "Issue a refresh token", [userOption, tenantOption], [],
    fun m => .issueRefresh ((m.value? "user").getD "") ((m.value? "tenant").getD "")⟩,
  ⟨"verify", "Verify an access token and print its principal as JSON", [refreshOption], ["TOKEN"],
    fun m => .verify (m.operand 0) (if m.has "refresh" then .refresh else .access)⟩,
  ⟨"refresh", "Exchange a refresh token for an access token", [], ["TOKEN"],
    fun m => .refresh (m.operand 0)⟩,
  ⟨"hash-password", "Print a bcrypt hash of a password", [], ["PASSWORD"],
    fun m => .hashPassword (m.operand 0)⟩,
  ⟨"check-password", "Check a password against a bcrypt hash. Exits non-zero on mismatch", [],
    ["PASSWORD", "HASH"], fun m => .checkPassword (m.operand 0) (m.operand 1)⟩,
  ⟨"gen-secret", "Print a random URL-safe secret", [lenOption], [],
    fun m => .genSecret (((m.value? "len").bind length?).getD defaultLength)⟩,
  ⟨"check-tls", "Load the configured mTLS material and report what was loaded", [], [],
    fun _ => .checkTls⟩]

/-- The command of a name. -/
def command? (name : String) : Option CommandSpec := commands.find? fun c => c.name = name

/-- The options of a command, those of all commands included. -/
def CommandSpec.allOptions (c : CommandSpec) : List OptionSpec := c.options ++ globalOptions

end CommandLine

end TenantAuth
