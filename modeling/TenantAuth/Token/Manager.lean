import TenantAuth.Token.Signed
import TenantAuth.Identity.AuthError

/-!
# Token manager

Issues and verifies tokens under one secret, with one lifetime for each kind of token. The clock is
an argument: an operation says what happens at the instant `now`. `TokenManager.claimsAt` accepts a
token from its start up to and including its expiry.
-/
namespace TenantAuth

/-- The longest lifetime of a token, in seconds: ten years. -/
def maxTtlSecs : Int := 315360000

/-- A secret and the lifetimes of the tokens signed with it, in seconds. -/
structure TokenManager where
  secret : Bytes
  accessTtl : Int
  refreshTtl : Int
  secret_ne_nil : secret ≠ []
  accessTtl_pos : 0 < accessTtl
  accessTtl_le_refreshTtl : accessTtl ≤ refreshTtl
  refreshTtl_le_max : refreshTtl ≤ maxTtlSecs

namespace TokenManager

/-- Why there is no manager for a secret and two lifetimes. -/
inductive Defect where
  | emptySecret
  | accessTtlNotPositive (access : Int)
  | refreshTtlTooShort (access refresh : Int)
  | ttlTooLong (refresh : Int)
  deriving DecidableEq

/-- The words for a defect. -/
def Defect.message : Defect → String
  | .emptySecret => "token secret must not be empty"
  | .accessTtlNotPositive access => s!"access token TTL must be positive, got {access}"
  | .refreshTtlTooShort access refresh =>
    s!"refresh token TTL must be positive and at least the access TTL ({access}), got {refresh}"
  | .ttlTooLong refresh => s!"token TTL must not exceed {maxTtlSecs} seconds, got {refresh}"

/-- The manager for a secret that is not empty and lifetimes in ascending order. -/
def create (secret : Bytes) (accessTtl refreshTtl : Int) : Except Defect TokenManager :=
  if hs : secret = [] then .error .emptySecret
  else if ha : accessTtl ≤ 0 then .error (.accessTtlNotPositive accessTtl)
  else if hr : refreshTtl ≤ 0 ∨ refreshTtl < accessTtl then
    .error (.refreshTtlTooShort accessTtl refreshTtl)
  else if hm : maxTtlSecs < refreshTtl then .error (.ttlTooLong refreshTtl)
  else .ok {
    secret, accessTtl, refreshTtl
    secret_ne_nil := hs
    accessTtl_pos := by omega
    accessTtl_le_refreshTtl := by omega
    refreshTtl_le_max := by omega }

/-- The lifetime of the tokens of a kind. -/
def ttl (m : TokenManager) : TokenKind → Int
  | .access => m.accessTtl
  | .refresh => m.refreshTtl

/-- A token for an identity, valid from `now` for the lifetime of its kind. -/
def sign (m : TokenManager) (now : Instant) (userId tenantId email : String) (roles : List String)
    (kind : TokenKind) : Except AuthError String :=
  match now.add? (m.ttl kind) with
  | none => .error (.signing s!"expiry overflows: now {now.seconds} + ttl {m.ttl kind}")
  | some expiry =>
    .ok (SignedToken.encode m.secret
      { userId, tenantId, email, roles, kind, issuedAt := now, notBefore := now, expiry })

/-- An access token, which carries the whole identity. -/
def issueAccess (m : TokenManager) (now : Instant) (userId tenantId email : String)
    (roles : List String) : Except AuthError String :=
  m.sign now userId tenantId email (RoleSet.ofList roles).toList .access

/-- A refresh token, which carries neither email nor roles. -/
def issueRefresh (m : TokenManager) (now : Instant) (userId tenantId : String) :
    Except AuthError String :=
  m.sign now userId tenantId "" [] .refresh

/-- Why a token is not accepted. -/
inductive Rejection where
  | malformed (fault : SignedToken.Fault)
  | wrongKind (expected found : TokenKind)
  | emptyUser
  | inconsistentTimes (claims : TokenClaims)
  | notYetValid (now notBefore : Instant)
  | expired (now expiry : Instant)

namespace Rejection

/-- Only the end of the lifetime is told apart from the other causes. -/
def error : Rejection → AuthError
  | .expired .. => .expiredToken
  | _ => .invalidToken

/-- The line for the operator's log. -/
def logLine : Rejection → String
  | .malformed .algorithm => "token rejected: algorithm not allowed"
  | .malformed .signature => "token rejected: bad signature"
  | .malformed fault => s!"token rejected: malformed error={fault.detail}"
  | .wrongKind expected found =>
    s!"token rejected: wrong kind expected={expected.title} found={found.title}"
  | .emptyUser => "token rejected: empty user_id"
  | .inconsistentTimes c =>
    s!"token rejected: inconsistent time claims nbf={c.notBefore.seconds} " ++
      s!"iat={c.issuedAt.seconds} exp={c.expiry.seconds}"
  | .notYetValid now notBefore =>
    s!"token rejected: not yet valid now={now.seconds} nbf={notBefore.seconds}"
  | .expired now expiry => s!"token rejected: expired now={now.seconds} exp={expiry.seconds}"

end Rejection

/-- The claims of a token of the expected kind, whatever the time. -/
def claims (m : TokenManager) (token : String) (expected : TokenKind) :
    Except Rejection TokenClaims := do
  let c ← (SignedToken.decode m.secret token).mapError .malformed
  if c.kind ≠ expected then throw (.wrongKind expected c.kind)
  if c.userId.isEmpty then throw .emptyUser
  if ¬ (c.notBefore ≤ c.issuedAt ∧ c.issuedAt ≤ c.expiry) then throw (.inconsistentTimes c)
  return c

/-- The claims of a token of the expected kind that is valid at `now`. -/
def claimsAt (m : TokenManager) (now : Instant) (token : String) (expected : TokenKind) :
    Except Rejection TokenClaims := do
  let c ← m.claims token expected
  if now < c.notBefore then throw (.notYetValid now c.notBefore)
  if c.expiry < now then throw (.expired now c.expiry)
  return c

/-- The claims of a token of the expected kind, or the error for the caller. -/
def verifyKind (m : TokenManager) (now : Instant) (token : String) (expected : TokenKind) :
    Except AuthError TokenClaims :=
  (m.claimsAt now token expected).mapError Rejection.error

/-- The identity in an access token. -/
def verify (m : TokenManager) (now : Instant) (token : String) : Except AuthError Principal :=
  (m.verifyKind now token .access).map TokenClaims.principal

/-- The identity that a refresh token was issued for. -/
def verifyRefresh (m : TokenManager) (now : Instant) (token : String) :
    Except AuthError Principal :=
  (m.verifyKind now token .refresh).map TokenClaims.principal

/-- An access token for the identity in a refresh token. -/
def refresh (m : TokenManager) (now : Instant) (token : String) : Except AuthError String := do
  let c ← m.verifyKind now token .refresh
  m.sign now c.userId c.tenantId c.email c.roles .access

/-- The manager in words, with the instant that its clock shows and without its secret. -/
def describe (m : TokenManager) (now : Instant) : String :=
  s!"TokenManager \x7b access_ttl: {m.accessTtl}, refresh_ttl: {m.refreshTtl}, " ++
    s!"clock: ManualClock({now.seconds}), .. \x7d"

end TokenManager

end TenantAuth
