import TenantAuth.Json.Write
import TenantAuth.Token.WebKey

/-!
# Token headers

The header of a signed token names the algorithm. The other registered members may be left out or
null, but have to be of their type when they are given; unknown members are passed over.
-/
namespace TenantAuth

/-- The signature algorithms a header may name. -/
inductive SignatureAlgorithm where
  | hs256 | hs384 | hs512
  | es256 | es384
  | rs256 | rs384 | rs512
  | ps256 | ps384 | ps512
  | edDsa
  deriving DecidableEq

namespace SignatureAlgorithm

/-- The algorithms with their names. -/
def names : List (String × SignatureAlgorithm) :=
  [("HS256", .hs256), ("HS384", .hs384), ("HS512", .hs512), ("ES256", .es256), ("ES384", .es384),
    ("RS256", .rs256), ("RS384", .rs384), ("RS512", .rs512), ("PS256", .ps256),
    ("PS384", .ps384), ("PS512", .ps512), ("EdDSA", .edDsa)]

end SignatureAlgorithm

namespace TokenHeader

open Json.Reader

/-- The registered members other than the algorithm, in the order of a header written as an array,
with what reads them. -/
def memberReader? : String → Option (Json.Reader Unit)
  | "typ" => some text
  | "cty" => some text
  | "jku" => some text
  | "jwk" => some (do let _ ← optional WebKey.reader)
  | "kid" => some text
  | "x5u" => some text
  | "x5c" => some (do let _ ← optional (list string))
  | "x5t" => some text
  | "x5t#S256" => some text
  | _ => none
where
  text : Json.Reader Unit := do let _ ← optional string

/-- What has been read of a header: the names of the members, and the algorithm. -/
structure Draft where
  seen : List String
  algorithm : Option SignatureAlgorithm

/-- Reads one member. -/
def Draft.member (d : Draft) (name : String) : Json.Reader Draft :=
  if name = "alg" then do
    return { d with algorithm := ← once name d.algorithm (variant SignatureAlgorithm.names) }
  else
    match memberReader? name with
    | none => do
      skipMember name
      return d
    | some r =>
      if name ∈ d.seen then failData (.duplicateField name)
      else do
        memberValue name r
        return { d with seen := name :: d.seen }

/-- Reads the member at `index` of a header written as an array. -/
def memberAt (index : Nat) (name : String) : Json.Reader Unit :=
  item index "struct Header with 10 elements" ((memberReader? name).getD skip)

/-- Reads a header and gives the algorithm. -/
def reader : Json.Reader SignatureAlgorithm :=
  record "struct Header"
    (do
      memberAt 0 "typ"
      let alg ← item 1 "struct Header with 10 elements" (variant SignatureAlgorithm.names)
      memberAt 2 "cty"
      memberAt 3 "jku"
      memberAt 4 "jwk"
      memberAt 5 "kid"
      memberAt 6 "x5u"
      memberAt 7 "x5c"
      memberAt 8 "x5t"
      memberAt 9 "x5t#S256"
      return alg)
    (do required "alg" (← fields Draft.member ⟨[], none⟩).algorithm)

/-- The header of the tokens that are signed here. -/
def toJson : Json := .obj [("typ", .str "JWT"), ("alg", .str "HS256")]

end TokenHeader

end TenantAuth
