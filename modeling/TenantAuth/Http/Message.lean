import TenantAuth.Text.Blank

/-!
# HTTP messages

Header fields, and the response as the gates and handlers make it. Header names are compared up to
the case of letters.
-/
namespace TenantAuth

/-- The header fields of a message in order, names in lower case. -/
abbrev Headers := List (String × Bytes)

namespace Headers

/-- The fields with their names in lower case. -/
def ofFields (fields : List (String × Bytes)) : Headers :=
  fields.map fun f => (Text.lowerAscii f.1, f.2)

/-- The value of the first field of a name. -/
def first? (h : Headers) (name : String) : Option Bytes := h.lookup name

/-- The fields with `name` set to one value, in place of all its values. -/
def set (h : Headers) (name : String) (value : Bytes) : Headers :=
  h.filter (·.1 ≠ name) ++ [(name, value)]

/-- The bytes may stand in a field as its value: there is no control character other than a tab in
them. -/
def isValue (value : Bytes) : Bool := value.all fun b => b = 0x09 || (0x20 ≤ b && b ≠ 0x7F)

/-- A byte that a field value in words may hold: a visible ASCII character, a space or a tab. -/
def isVisible (b : UInt8) : Bool := b = 0x09 || (0x20 ≤ b && b ≤ 0x7E)

/-- A field value in words. -/
def visibleText? (value : Bytes) : Option String :=
  if value.all isVisible then some (Text.ofAscii value) else none

end Headers

/-- An answer to a request. -/
structure Response where
  status : Nat
  headers : Headers
  body : Bytes
  deriving DecidableEq

namespace Response

/-- An answer without a body. -/
def empty (status : Nat) : Response := ⟨status, [], []⟩

/-- An answer whose body is JSON text. -/
def json (status : Nat) (body : Bytes) : Response :=
  ⟨status, [("content-type", Text.bytes "application/json")], body⟩

/-- An answer in plain text. -/
def plain (body : String) : Response :=
  ⟨200, [("content-type", Text.bytes "text/plain; charset=utf-8")], Text.bytes body⟩

/-- The answer with a header field set. -/
def setHeader (r : Response) (name : String) (value : Bytes) : Response :=
  { r with headers := r.headers.set name value }

/-- The answer with a header field set unless it is there already. -/
def setDefaultHeader (r : Response) (name : String) (value : Bytes) : Response :=
  if (r.headers.first? name).isSome then r else r.setHeader name value

/-- The request succeeded. -/
def isSuccess (r : Response) : Bool := 200 ≤ r.status && r.status < 300

/-- The value of a header field in words. -/
def header? (r : Response) (name : String) : Option String :=
  (r.headers.first? name).bind Headers.visibleText?

end Response

end TenantAuth
