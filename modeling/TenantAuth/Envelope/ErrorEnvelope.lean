import TenantAuth.Json.Record
import TenantAuth.Json.Write
import TenantAuth.Http.Message

/-!
# Error envelopes

The one shape in which every failure is answered: a code, a message, and the correlation id of the
request where there is one.
-/
namespace TenantAuth

/-- The code of a failure. -/
inductive ErrorCode where
  | unauthorized
  | forbidden
  | badRequest
  | notFound
  | conflict
  | internalError
  deriving DecidableEq

namespace ErrorCode

/-- The code in an envelope. -/
def name : ErrorCode → String
  | .unauthorized => "UNAUTHORIZED"
  | .forbidden => "FORBIDDEN"
  | .badRequest => "BAD_REQUEST"
  | .notFound => "NOT_FOUND"
  | .conflict => "CONFLICT"
  | .internalError => "INTERNAL_ERROR"

/-- The status of an answer with the code. -/
def status : ErrorCode → Nat
  | .unauthorized => 401
  | .forbidden => 403
  | .badRequest => 400
  | .notFound => 404
  | .conflict => 409
  | .internalError => 500

/-- All codes. -/
def all : List ErrorCode :=
  [.unauthorized, .forbidden, .badRequest, .notFound, .conflict, .internalError]

/-- Reads the name of a code. -/
def reader : Json.Reader ErrorCode := Json.Reader.variant (all.map fun c => (c.name, c))

end ErrorCode

/-- A correlation id as a member: nothing is written for none and for the empty id. -/
def correlationMember : Option String → List (String × Json)
  | none => []
  | some id => if id.isEmpty then [] else [("correlation_id", .str id)]

/-- What went wrong. -/
structure ErrorBody where
  code : ErrorCode
  message : String
  deriving DecidableEq

/-- A failure in its envelope. -/
structure ErrorEnvelope where
  success : Bool
  error : ErrorBody
  correlationId : Option String
  deriving DecidableEq

namespace ErrorBody

/-- The body as a record. -/
def toJson (b : ErrorBody) : Json := .obj [("code", .str b.code.name), ("message", .str b.message)]

/-- The fields read so far. -/
structure Draft where
  code : Option ErrorCode
  message : Option String

open Json.Reader in
/-- Reads one member. -/
def Draft.member (d : Draft) (name : String) : Json.Reader Draft :=
  match name with
  | "code" => do return { d with code := ← once name d.code ErrorCode.reader }
  | "message" => do return { d with message := ← once name d.message string }
  | _ => do
    skipMember name
    return d

open Json.Reader in
/-- Reads a body from a record. -/
def reader : Json.Reader ErrorBody :=
  let expected := "struct ErrorBody with 2 elements"
  record "struct ErrorBody"
    (do return { code := ← item 0 expected ErrorCode.reader, message := ← item 1 expected string })
    (do
      let d ← fields Draft.member ⟨none, none⟩
      return { code := ← required "code" d.code, message := ← required "message" d.message })

end ErrorBody

namespace ErrorEnvelope

/-- The envelope of a failure. -/
def failure (code : ErrorCode) (message : String) (correlationId : Option String) : ErrorEnvelope :=
  ⟨false, ⟨code, message⟩, correlationId⟩

/-- The envelope as a record. -/
def toJson (e : ErrorEnvelope) : Json :=
  .obj ([("success", .bool e.success), ("error", e.error.toJson)] ++
    correlationMember e.correlationId)

/-- The answer that carries the envelope. -/
def toResponse (e : ErrorEnvelope) : Response := .json e.error.code.status e.toJson.text

/-- The fields read so far. -/
structure Draft where
  success : Option Bool
  error : Option ErrorBody
  correlationId : Option (Option String)

open Json.Reader in
/-- Reads one member. -/
def Draft.member (d : Draft) (name : String) : Json.Reader Draft :=
  match name with
  | "success" => do return { d with success := ← once name d.success bool }
  | "error" => do return { d with error := ← once name d.error ErrorBody.reader }
  | "correlation_id" => do
    return { d with correlationId := ← once name d.correlationId (optional string) }
  | _ => do
    skipMember name
    return d

open Json.Reader in
/-- Reads an envelope from a record. -/
def reader : Json.Reader ErrorEnvelope :=
  let expected := "struct ErrorEnvelope with 3 elements"
  record "struct ErrorEnvelope"
    (do return {
          success := ← item 0 expected bool
          error := ← item 1 expected ErrorBody.reader
          correlationId := ← itemOr 2 none (optional string) })
    (do
      let d ← fields Draft.member ⟨none, none, none⟩
      return {
        success := ← required "success" d.success
        error := ← required "error" d.error
        correlationId := d.correlationId.getD none })

end ErrorEnvelope

end TenantAuth
