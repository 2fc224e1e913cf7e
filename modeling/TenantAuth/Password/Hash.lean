import TenantAuth.Password.Blowfish
import TenantAuth.Base64
import TenantAuth.Identity.AuthError
import TenantAuth.Text.Decimal

/-!
# Password hashes

Stored passwords in the form `$2b$cost$salt…digest…`. `StoredHash.text` writes one and
`StoredHash.parse` reads the forms that are accepted; a password counts up to its first 72 bytes,
the zero byte that ends it included.
-/
namespace TenantAuth

/-- A stored hash: its cost, and the salt and the digest as base64 text. -/
structure StoredHash where
  cost : Nat
  salt : Bytes
  digest : Bytes
  deriving DecidableEq

namespace StoredHash

/-- Why a password cannot be hashed or checked. -/
inductive Fault where
  | invalidHash (text : String)
  | invalidPrefix (name : String)
  | invalidCost (text : String)
  | costNotAllowed (cost : Nat)
  | base64 (fault : Base64.Fault)
  deriving DecidableEq

/-- The least and the greatest cost. -/
def minCost : Nat := 4

def maxCost : Nat := 31

/-- The words for a fault. -/
def Fault.message : Fault → String
  | .invalidHash text => s!"Invalid hash: {text}"
  | .invalidPrefix name => s!"Invalid Prefix: {name}"
  | .invalidCost text => s!"Invalid Cost: {text}"
  | .costNotAllowed cost => s!"Cost needs to be between {minCost} and {maxCost}, got {cost}"
  | .base64 fault => s!"Base64 error: {fault.message}"

/-- The dollar sign between the parts of a stored hash. -/
def dollar : UInt8 := 0x24

/-- The variants of the algorithm that are accepted. -/
def variants : List Bytes := ["2y", "2b", "2a", "2x"].map Text.bytes

/-- The byte does not go on with a character begun before it. -/
def startsChar (b : UInt8) : Bool := b < 0x80 || 0xC0 ≤ b

/-- Reads a stored hash. -/
def parse (stored : String) : Except Fault StoredHash :=
  let text (b : Bytes) : String := (Text.ofBytes? b).getD ""
  match ((Text.bytes stored).splitOn dollar).filter (· ≠ []) with
  | [variant, cost, rest] =>
    if variant ∉ variants then .error (.invalidPrefix (text variant))
    else
      match Text.Decimal.parse? 0 0xFFFFFFFF (text cost) with
      | none => .error (.invalidCost (text cost))
      | some c =>
        if rest.length = 53 ∧ startsChar (rest.getD 22 0) then
          .ok ⟨c.toNat, rest.take 22, rest.drop 22⟩
        else .error (.invalidHash stored)
  | _ => .error (.invalidHash stored)

/-- Two digits for a cost. -/
def costText (cost : Nat) : Bytes :=
  if cost < 10 then 0x30 :: Text.Decimal.ofNat cost else Text.Decimal.ofNat cost

/-- Writes a stored hash. -/
def text (h : StoredHash) : String :=
  Text.ofAscii ([dollar, 0x32, 0x62, dollar] ++ costText h.cost ++ dollar :: h.salt ++ h.digest)

end StoredHash

namespace Password

/-- The cost of new hashes. -/
def defaultCost : Nat := 10

/-- The key that a password is: its bytes and a zero byte, cut to 72 bytes. -/
def key (password : String) : Bytes := (Text.bytes password ++ [0]).take 72

/-- The hash of a password under a salt of sixteen bytes. -/
def hashed (password : String) (cost : Nat) (salt : Bytes) : Except StoredHash.Fault StoredHash :=
  if StoredHash.minCost ≤ cost ∧ cost ≤ StoredHash.maxCost then
    .ok ⟨cost, Base64.crypt.encode salt,
      Base64.crypt.encode (Blowfish.digest cost salt (key password))⟩
  else .error (.costNotAllowed cost)

/-- The hash of a password, to be stored. -/
def hashWithCost (password : String) (cost : Nat) (salt : Bytes) : Except AuthError String :=
  match hashed password cost salt with
  | .ok h => .ok h.text
  | .error fault => .error (.internal s!"password hash: {fault.message}")

/-- The hash of a password with the cost of new hashes. -/
def hash (password : String) (salt : Bytes) : Except AuthError String :=
  hashWithCost password defaultCost salt

/-- The stored hash is one of the password. -/
def check (password stored : String) : Except StoredHash.Fault Bool := do
  let h ← StoredHash.parse stored
  let salt ← (Base64.crypt.decode h.salt).mapError .base64
  let made ← hashed password h.cost salt
  let digest ← (Base64.crypt.decode h.digest).mapError .base64
  return (Base64.crypt.encode digest = made.digest : Bool)

/-- The stored hash is one of the password, or the error for the caller. -/
def verify (password stored : String) : Except AuthError Bool :=
  (check password stored).mapError fun fault => .internal s!"password verify: {fault.message}"

/-- The stored hash is weaker than new ones. -/
def needsRehash (stored : String) : Except AuthError Bool :=
  match StoredHash.parse stored with
  | .ok h => .ok (decide (h.cost < defaultCost))
  | .error fault => .error (.internal s!"password hash parse: {fault.message}")

end Password

end TenantAuth
