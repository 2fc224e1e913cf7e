import TenantAuth.Token.Claims
import TenantAuth.Token.Header
import TenantAuth.Base64
import TenantAuth.Hash.Sha256

/-!
# Signed tokens

A token is three base64url segments joined by dots: the header, the payload, and the keyed hash of
the text before the last dot. `SignedToken.encode` writes one for given claims, and
`SignedToken.decode` gives the claims of one whose signature is, character for character, the one
that `signature` computes.
-/
namespace TenantAuth.SignedToken

/-- The dot between segments. -/
def dot : UInt8 := 0x2E

/-- The signature segment for the text before the last dot. -/
def signature (secret message : Bytes) : Bytes := Base64.url.encode (Sha256.hmac secret message)

/-- The first two segments, with the dot between them. -/
def message (claims : TokenClaims) : Bytes :=
  Base64.url.encode TokenHeader.toJson.text ++ dot :: Base64.url.encode claims.toJson.text

/-- The token that carries the claims, signed with the secret. -/
def encode (secret : Bytes) (claims : TokenClaims) : String :=
  let m := message claims
  Text.ofAscii (m ++ dot :: signature secret m)

/-- Why a token carries no claims. -/
inductive Fault where
  | segments
  | base64 (fault : Base64.Fault)
  | json (input : Bytes) (refusal : Json.Refusal)
  | algorithm
  | signature
  | missingClaim (name : String)

/-- The words for a cause that lies in the form of the token. -/
def Fault.detail : Fault → String
  | .segments => "InvalidToken"
  | .base64 fault => s!"Base64 error: {fault.message}"
  | .json input refusal => "JSON error: " ++ refusal.message input
  | .algorithm => "InvalidAlgorithm"
  | .signature => "InvalidSignature"
  | .missingClaim name => s!"Missing required claim: {name}"

/-- The parts before and after the last dot. -/
def splitLast (text : Bytes) : Option (Bytes × Bytes) :=
  let after := (text.reverse.takeWhile (· ≠ dot)).reverse
  if after.length = text.length then none
  else some (text.take (text.length - after.length - 1), after)

/-- The three segments: what follows the last dot, what stands between the last two, and the
rest. -/
def segments (token : Bytes) : Option (Bytes × Bytes × Bytes) := do
  let (message, signature) ← splitLast token
  let (header, payload) ← splitLast message
  return (header, payload, signature)

/-- The bytes of a segment. -/
def bytesOf (segment : Bytes) : Except Fault Bytes := (Base64.url.decode segment).mapError .base64

/-- A whole JSON text as a value of a known type. -/
def valueOf (r : Json.Reader α) (input : Bytes) : Except Fault α :=
  (Json.Reader.whole r input).mapError (.json input)

namespace Registered

open Json.Reader

/-- The registered claims that are read a second time: the names seen, and the two instants where
they are numbers that are not negative. -/
structure Draft where
  seen : List String
  expiry : Option Nat
  notBefore : Option Nat

/-- A number that is not negative; any other value gives none. -/
def moment : Json.Reader (Option Nat) := do
  match ← attempt (value 127) with
  | some (.int (.ofNat n)) => return some n
  | _ => return none

/-- Reads a text or `null` as far as it goes. -/
def looseText : Json.Reader Unit := do let _ ← attempt (optional string)

/-- Reads any value as far as it goes. -/
def looseValue : Json.Reader Unit := do let _ ← attempt (value 127)

/-- Reads one member; a registered one may be given once. -/
def Draft.member (d : Draft) (name : String) : Json.Reader Draft :=
  let fresh (read : Json.Reader Draft) : Json.Reader Draft := do
    if name ∈ d.seen then failData (.duplicateField name)
    else
      let d ← memberValue name read
      return { d with seen := name :: d.seen }
  match name with
  | "exp" => fresh do return { d with expiry := ← moment }
  | "nbf" => fresh do return { d with notBefore := ← moment }
  | "sub" => fresh do looseText; return d
  | "iss" => fresh do looseValue; return d
  | "aud" => fresh do looseValue; return d
  | _ => do
    skipMember name
    return d

/-- Reads the registered claims of a payload: an array of them has only these five. -/
def reader : Json.Reader Draft :=
  let expected := "struct ClaimsForValidation with 5 elements"
  record "struct ClaimsForValidation"
    (do
      let expiry ← itemOr 0 none moment
      let notBefore ← itemOr 1 none moment
      item 2 expected looseText
      item 3 expected looseValue
      item 4 expected looseValue
      return ⟨[], expiry, notBefore⟩)
    (fields Draft.member ⟨[], none, none⟩)

end Registered

/-- The claims of a payload, whose expiry and start must be given and not negative. -/
def claimsOf (payload : Bytes) : Except Fault TokenClaims := do
  let input ← bytesOf payload
  let claims ← valueOf TokenClaims.reader input
  let registered ← valueOf Registered.reader input
  if registered.expiry.isNone then throw (.missingClaim "exp")
  if registered.notBefore.isNone then throw (.missingClaim "nbf")
  return claims

/-- The claims that a token carries, if its header names HS256 and its signature is right. -/
def decode (secret : Bytes) (token : String) : Except Fault TokenClaims := do
  match segments (Text.bytes token) with
  | none => throw .segments
  | some (header, payload, mark) =>
    let algorithm ← valueOf TokenHeader.reader (← bytesOf header)
    if algorithm ≠ .hs256 then throw .algorithm
    if mark ≠ signature secret (header ++ dot :: payload) then throw .signature
    claimsOf payload

end TenantAuth.SignedToken
