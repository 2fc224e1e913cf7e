import TenantAuth.Http.Message
import TenantAuth.Random

/-!
# Correlation ids

The id under which a request is handled: the one it brings in its `X-Correlation-ID` field, if that
is a short word of safe characters, or else a random UUID.
-/
namespace TenantAuth.Correlation

/-- The field that carries the id. -/
def fieldName : String := "x-correlation-id"

/-- The greatest length of an id. -/
def maxLength : Nat := 128

/-- A character of an id. -/
def isIdChar (c : Char) : Bool := c.isAlphanum || c = '-' || c = '_' || c = '.' || c = ':'

/-- The text may be an id. -/
def isId (s : String) : Bool :=
  !s.isEmpty && s.toList.length ≤ maxLength && s.toList.all isIdChar

/-- The id in a field value, without the blanks around it. -/
def accept (value : Bytes) : Option String := do
  let s ← Headers.visibleText? value
  let id := Text.trim s
  if isId id then some id else none

/-- The id that a request brings. -/
def inbound (h : Headers) : Option String := (h.first? fieldName).bind accept

/-- Two lower-case hexadecimal digits. -/
def hexPair (b : UInt8) : List Char := (Nat.toDigits 16 (256 + b.toNat)).drop 1

/-- The random UUID made from sixteen bytes, of which six bits mark its version and variant. -/
def uuid (b : Bytes) : String :=
  let digits (i n : Nat) : List Char := ((b.drop i).take n).flatMap hexPair
  let version := hexPair (((b.getD 6 0) &&& 0x0F) ||| 0x40)
  let variant := hexPair (((b.getD 8 0) &&& 0x3F) ||| 0x80)
  String.ofList (digits 0 4 ++ '-' :: digits 4 2 ++ '-' :: version ++ digits 7 1 ++
    '-' :: variant ++ digits 9 1 ++ '-' :: digits 10 6)

/-- The id number `n` of a stream of random ids. -/
def fresh (seed : UInt64) (n : Nat) : String :=
  uuid (RandomSource.bytes ⟨seed + UInt64.ofNat (16 * n) * 0x9E3779B97F4A7C15⟩ 16).1

end TenantAuth.Correlation
