import TenantAuth.Http.Message
import TenantAuth.Token.Manager

/-!
# Bearer credentials

The token in the `Authorization` field of a request: the word `Bearer`, one space, and a token
without spaces, all in visible ASCII characters.
-/
namespace TenantAuth.Bearer

/-- The scheme and the space after it. -/
def scheme : List Char := ['B', 'e', 'a', 'r', 'e', 'r', ' ']

/-- The token of a field value in words. -/
def tokenOf? (value : String) : Option String :=
  let cs := value.toList
  let token := cs.drop scheme.length
  if scheme.isPrefixOf cs && !token.isEmpty && !token.contains ' ' then some (String.ofList token)
  else none

/-- The token of the first `Authorization` field. -/
def token (h : Headers) : Except AuthError String :=
  match h.first? "authorization" with
  | none => .error (.missingCredential .absent)
  | some value =>
    match (Headers.visibleText? value).bind tokenOf? with
    | none => .error (.missingCredential .malformed)
    | some t => .ok t

/-- The principal whose access token the request carries. -/
def authenticate (m : TokenManager) (now : Instant) (h : Headers) : Except AuthError Principal := do
  m.verify now (← token h)

end TenantAuth.Bearer
