import TenantAuth.Text.Printable

/-!
# Quoted text

A text in double quotes as messages show it: quotes, backslashes and control characters escaped,
characters that do not print as `\u{…}` with their hexadecimal code.
-/
namespace TenantAuth.Text

/-- The hexadecimal numeral of `n`, in lower case. -/
def hexadecimal (n : Nat) : String := String.ofList (Nat.toDigits 16 n)

/-- How a character is shown inside double quotes. -/
def quoteChar (c : Char) : String :=
  if c = '"' then "\\\""
  else if c = '\\' then "\\\\"
  else if c = '\n' then "\\n"
  else if c = '\r' then "\\r"
  else if c = '\t' then "\\t"
  else if c.toNat = 0 then "\\0"
  else if isPrintable c then c.toString
  else "\\u\x7b" ++ hexadecimal c.toNat ++ "\x7d"

/-- The text in double quotes. -/
def quoted (s : String) : String := "\"" ++ String.join (s.toList.map quoteChar) ++ "\""

end TenantAuth.Text
