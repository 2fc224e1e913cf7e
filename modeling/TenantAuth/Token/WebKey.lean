import TenantAuth.Json.Record

/-!
# Web keys

A public or symmetric key as a JSON object, such as the header of a token may hold. Members that
every key may have are checked first, in the order in which they are written; the others have to
include the parameters of one family of keys.
-/
namespace TenantAuth.WebKey

/-- What a value has to be. -/
abbrev Check := Json → Except Json.Fault Unit

/-- A text. -/
def text : Check
  | .str _ => .ok ()
  | v => .error (.invalidType (.ofJson v) "a string")

/-- A list of texts. -/
def texts : Check
  | .arr vs => vs.forM text
  | v => .error (.invalidType (.ofJson v) "a sequence")

/-- Null, or a value of which `c` holds. -/
def optional (c : Check) : Check
  | .null => .ok ()
  | v => c v

/-- One of the names, alone or as the only member of an object, whose value is then `empty`. -/
def variant (empty : Json → Bool) (names : List String) : Check
  | .str name => named name
  | .obj [(name, v)] => do
    named name
    if !empty v then throw (.invalidType (.ofJson v) "unit")
  | .obj _ => .error (.invalidValue .map "map with a single key")
  | v => .error (.invalidType (.ofJson v) "string or map")
where
  /-- The name is one of the names. -/
  named (name : String) : Except Json.Fault Unit :=
    if name ∈ names then .ok () else .error (.unknownVariant name names)

/-- Null. -/
def isNull : Json → Bool
  | .null => true
  | _ => false

/-- Null or an object without members. -/
def isNullOrBlank : Json → Bool
  | .null => true
  | .obj [] => true
  | _ => false

/-- The algorithms that a key may be for. -/
def algorithms : List String :=
  ["HS256", "HS384", "HS512", "ES256", "ES384", "RS256", "RS384", "RS512", "PS256", "PS384",
    "PS512", "EdDSA", "RSA1_5", "RSA-OAEP", "RSA-OAEP-256"]

/-- The members that every key may have, with their types. -/
def commonMember? : String → Option Check
  | "use" => some (optional text)
  | "key_ops" => some (optional texts)
  | "alg" => some (optional (variant isNullOrBlank algorithms))
  | "kid" => some (optional text)
  | "x5u" => some (optional text)
  | "x5c" => some (optional texts)
  | "x5t" => some (optional text)
  | "x5t#S256" => some (optional text)
  | _ => none

/-- Common members are of their types, and none comes twice; `seen` are the names before. -/
def checkCommon (seen : List String) : List (String × Json) → Except Json.Fault Unit
  | [] => .ok ()
  | (name, v) :: rest =>
    match commonMember? name with
    | none => checkCommon seen rest
    | some c => do
      if name ∈ seen then throw (.duplicateField name)
      c v
      checkCommon (name :: seen) rest

/-- Each of the members is there once and of its type. -/
def hasMembers (wanted : List (String × Check)) (members : List (String × Json)) : Bool :=
  wanted.all fun w =>
    match members.filter (·.1 == w.1) with
    | [(_, v)] => (w.2 v).isOk
    | _ => false

/-- The name of an elliptic curve. -/
def curve : Check := variant isNull ["P-256", "P-384", "P-521", "Ed25519"]

/-- The parameters of the four families of keys. -/
def families : List (List (String × Check)) :=
  let kty (name : String) : String × Check := ("kty", variant isNull [name])
  [[kty "EC", ("crv", curve), ("x", text), ("y", text)],
    [kty "RSA", ("n", text), ("e", text)],
    [kty "oct", ("k", text)],
    [kty "OKP", ("crv", curve), ("x", text)]]

/-- The members make up a key. -/
def check (members : List (String × Json)) : Except Json.Fault Unit := do
  checkCommon [] members
  if !families.any (hasMembers · members) then
    throw (.custom "data did not match any variant of untagged enum AlgorithmParameters")

open Json.Reader in
/-- Passes over a key, which stands inside another object. -/
def reader : Json.Reader Unit := located do
  match ← peekToken with
  | none => failNext .eofValue
  | some b =>
    if b = 0x7B then
      advance
      closedBy
        (do
          let ms ← fields (fun ms name => do
            let v ← memberValue name (writtenValue (maxDepth - 2))
            return (name, v) :: ms) []
          match check ms.reverse with
          | .ok _ => return
          | .error e => failData e)
        endObject
    else wrongType "struct Jwk"

end TenantAuth.WebKey
