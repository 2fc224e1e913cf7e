import TenantAuth.Gate.Layer
import TenantAuth.Envelope.ApiResponse
import TenantAuth.Http.MediaType

/-!
# Token exchange

The endpoint that exchanges a refresh token for an access token. A body that cannot be read is a
bad request, whatever is wrong with it.
-/
namespace TenantAuth

/-- What the endpoint answers. -/
structure AccessTokenResponse where
  accessToken : String
  tokenType : String
  expiresIn : Instant
  deriving DecidableEq

namespace AccessTokenResponse

/-- The answer as a record. -/
def toJson (r : AccessTokenResponse) : Json :=
  .obj [("access_token", .str r.accessToken), ("token_type", .str r.tokenType),
    ("expires_in", .int r.expiresIn.seconds)]

/-- The fields read so far. -/
structure Draft where
  accessToken : Option String
  tokenType : Option String
  expiresIn : Option Instant

open Json.Reader in
/-- Reads one member. -/
def Draft.member (d : Draft) (name : String) : Json.Reader Draft :=
  match name with
  | "access_token" => do return { d with accessToken := ← once name d.accessToken string }
  | "token_type" => do return { d with tokenType := ← once name d.tokenType string }
  | "expires_in" => do
    return { d with expiresIn := ← once name d.expiresIn TokenClaims.instant }
  | _ => do
    skipMember name
    return d

open Json.Reader in
/-- Reads an answer from a record. -/
def reader : Json.Reader AccessTokenResponse :=
  let expected := "struct AccessTokenResponse with 3 elements"
  record "struct AccessTokenResponse"
    (do return {
          accessToken := ← item 0 expected string
          tokenType := ← item 1 expected string
          expiresIn := ← item 2 expected TokenClaims.instant })
    (do
      let d ← fields Draft.member ⟨none, none, none⟩
      return {
        accessToken := ← required "access_token" d.accessToken
        tokenType := ← required "token_type" d.tokenType
        expiresIn := ← required "expires_in" d.expiresIn })

end AccessTokenResponse

namespace Refresh

open Json.Reader in
/-- Reads the refresh token out of the body of a request. -/
def bodyReader : Json.Reader String :=
  record "struct RefreshRequest"
    (item 0 "struct RefreshRequest with 1 element" string)
    (do
      let token ← fields
        (fun (token : Option String) name =>
          if name = "refresh_token" then once name token string
          else do
            skipMember name
            return token)
        none
      required "refresh_token" token)

/-- Why there is no token in a request. -/
inductive BodyFault where
  | notJson
  | tooLong
  | value (body : Bytes) (refusal : Json.Refusal)
  | trailing (body : Bytes) (refusal : Json.Refusal)

/-- The words for a body that cannot be read: a fault of the data is told apart from one of the
text. -/
def BodyFault.message : BodyFault → String
  | .notJson => "Expected request with `Content-Type: application/json`"
  | .tooLong => "Failed to buffer the request body: length limit exceeded"
  | .value body refusal =>
    match refusal.fault.kind with
    | .data =>
      "Failed to deserialize the JSON body into the target type: " ++ refusal.messageWithPath body
    | .syntactic | .eof =>
      "Failed to parse the request body as JSON: " ++ refusal.messageWithPath body
  | .trailing body refusal => "Failed to parse the request body as JSON: " ++ refusal.message body

/-- The request says that its body is JSON. -/
def declaresJson (h : Headers) : Bool :=
  match (h.first? "content-type").bind Headers.visibleText? with
  | some value => MediaType.isJson value
  | none => false

/-- The most bytes that a body may have: two mebibytes. -/
def maxBody : Nat := 2 * 1024 * 1024

/-- The refresh token that a request presents. -/
def presentedToken (r : Request) : Except BodyFault String :=
  if !declaresJson r.headers then .error .notJson
  else if maxBody < r.body.length then .error .tooLong
  else
    match bodyReader (Json.Cursor.start r.body) with
    | (.error e, _) => .error (.value r.body e)
    | (.ok token, rest) =>
      match Json.Reader.endOfText rest with
      | (.error e, _) => .error (.trailing r.body e)
      | (.ok _, _) => .ok token

/-- The lifetime of an access token as the answer states it. -/
def expiresIn (m : TokenManager) : Instant :=
  ⟨m.accessTtl, by
    have := m.accessTtl_pos
    have := m.accessTtl_le_refreshTtl
    have := m.refreshTtl_le_max
    unfold IsInt64 int64Min int64Max
    unfold maxTtlSecs at this
    omega⟩

/-- The answer to a request for an access token. -/
def exchange (env : Env) (r : Request) : Except Rejection (ApiResponse AccessTokenResponse) := do
  let token ← (presentedToken r).mapError fun fault =>
    (AppError.badRequest s!"Invalid request body: {fault.message}").tagged r.context.correlationId
  let accessToken ← (env.tokens.refresh env.now token).mapError r.context.reject
  let granted : AccessTokenResponse :=
    { accessToken, tokenType := "Bearer", expiresIn := expiresIn env.tokens }
  return (ApiResponse.ok granted).withCorrelationId r.context.correlationId

/-- The endpoint. -/
def handle (env : Env) (r : Request) : Response :=
  match exchange env r with
  | .error rejection => rejection.toResponse
  | .ok answer => answer.toResponse AccessTokenResponse.toJson

end Refresh

end TenantAuth
