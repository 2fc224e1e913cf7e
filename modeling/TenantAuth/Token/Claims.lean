import TenantAuth.Token.Instant
import TenantAuth.Identity.Principal
import TenantAuth.Json.Record

/-!
# Token claims

The payload of a token: an identity, the kind of token, and the instants between which it counts.
`TokenClaims.toJson` lists the claims in the order in which a token carries them, and
`TokenClaims.reader` reads them back from any order.
-/
namespace TenantAuth

/-- The two forms of token, of which neither can stand in for the other. -/
inductive TokenKind where
  | access
  | refresh
  deriving DecidableEq

namespace TokenKind

/-- The name of a kind in a payload. -/
def name : TokenKind → String
  | .access => "access"
  | .refresh => "refresh"

/-- The name of a kind in a message. -/
def title : TokenKind → String
  | .access => "Access"
  | .refresh => "Refresh"

/-- Reads the name of a kind. -/
def reader : Json.Reader TokenKind :=
  Json.Reader.variant [("access", .access), ("refresh", .refresh)]

end TokenKind

/-- The payload of a token. -/
structure TokenClaims where
  userId : String
  tenantId : String
  email : String
  roles : List String
  kind : TokenKind
  issuedAt : Instant
  notBefore : Instant
  expiry : Instant
  deriving DecidableEq

namespace TokenClaims

/-- The identity the claims are about. -/
def principal (c : TokenClaims) : Principal :=
  ⟨c.userId, c.tenantId, c.email, RoleSet.ofList c.roles⟩

/-- The claims as a record. -/
def toJson (c : TokenClaims) : Json :=
  .obj [("user_id", .str c.userId), ("tenant_id", .str c.tenantId), ("email", .str c.email),
    ("roles", Principal.textsJson c.roles), ("typ", .str c.kind.name),
    ("iat", .int c.issuedAt.seconds), ("nbf", .int c.notBefore.seconds),
    ("exp", .int c.expiry.seconds)]

open Json.Reader in
/-- Reads an instant. -/
def instant : Json.Reader Instant := do
  let n ← int64
  match Instant.ofInt? n with
  | some t => return t
  | none => failData (.invalidValue (.int n) "i64")

/-- The claims read so far. -/
structure Draft where
  userId : Option String
  tenantId : Option String
  email : Option String
  roles : Option (List String)
  kind : Option TokenKind
  issuedAt : Option Instant
  notBefore : Option Instant
  expiry : Option Instant

/-- No claim read. -/
def Draft.empty : Draft := ⟨none, none, none, none, none, none, none, none⟩

open Json.Reader in
/-- Reads one member. -/
def Draft.member (d : Draft) (name : String) : Json.Reader Draft :=
  match name with
  | "user_id" => do return { d with userId := ← once name d.userId string }
  | "tenant_id" => do return { d with tenantId := ← once name d.tenantId string }
  | "email" => do return { d with email := ← once name d.email string }
  | "roles" => do return { d with roles := ← once name d.roles (list string) }
  | "typ" => do return { d with kind := ← once name d.kind TokenKind.reader }
  | "iat" => do return { d with issuedAt := ← once name d.issuedAt instant }
  | "nbf" => do return { d with notBefore := ← once name d.notBefore instant }
  | "exp" => do return { d with expiry := ← once name d.expiry instant }
  | _ => do
    skipMember name
    return d

open Json.Reader in
/-- The claims, of which only the email and the roles may be left out. -/
def Draft.finish (d : Draft) : Json.Reader TokenClaims := do
  return {
    userId := ← required "user_id" d.userId
    tenantId := ← required "tenant_id" d.tenantId
    email := d.email.getD ""
    roles := d.roles.getD []
    kind := ← required "typ" d.kind
    issuedAt := ← required "iat" d.issuedAt
    notBefore := ← required "nbf" d.notBefore
    expiry := ← required "exp" d.expiry }

open Json.Reader in
/-- Reads the claims from a record. -/
def reader : Json.Reader TokenClaims :=
  let expected := "struct TokenClaims with 8 elements"
  record "struct TokenClaims"
    (do return {
          userId := ← item 0 expected string
          tenantId := ← item 1 expected string
          email := ← itemOr 2 "" string
          roles := ← itemOr 3 [] (list string)
          kind := ← item 4 expected TokenKind.reader
          issuedAt := ← item 5 expected instant
          notBefore := ← item 6 expected instant
          expiry := ← item 7 expected instant })
    (do (← fields Draft.member .empty).finish)

end TokenClaims

end TenantAuth
