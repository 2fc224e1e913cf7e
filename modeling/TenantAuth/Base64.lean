import TenantAuth.Text.Utf8

/-!
# Base64

Three bytes as four symbols of six bits, without padding, over a given alphabet. Decoding is
strict: `decode` refuses foreign symbols, padding, a lone last symbol and bits that no byte takes,
so every byte sequence has one text.
-/
namespace TenantAuth

/-- Sixty-four symbols; `value?` finds the place of a symbol. -/
structure Base64 where
  symbol : Nat → UInt8
  value? : UInt8 → Option Nat

namespace Base64

/-- The alphabet for URLs: letters, digits, `-` and `_`. -/
def url : Base64 where
  symbol n :=
    UInt8.ofNat (if n < 26 then 0x41 + n else if n < 52 then 0x61 + (n - 26)
      else if n < 62 then 0x30 + (n - 52) else if n = 62 then 0x2D else 0x5F)
  value? b :=
    let n := b.toNat
    if 0x41 ≤ n ∧ n ≤ 0x5A then some (n - 0x41)
    else if 0x61 ≤ n ∧ n ≤ 0x7A then some (n - 0x61 + 26)
    else if 0x30 ≤ n ∧ n ≤ 0x39 then some (n - 0x30 + 52)
    else if n = 0x2D then some 62
    else if n = 0x5F then some 63
    else none

/-- The standard alphabet: letters, digits, `+` and `/`. -/
def standard : Base64 where
  symbol n :=
    UInt8.ofNat (if n < 26 then 0x41 + n else if n < 52 then 0x61 + (n - 26)
      else if n < 62 then 0x30 + (n - 52) else if n = 62 then 0x2B else 0x2F)
  value? b :=
    let n := b.toNat
    if 0x41 ≤ n ∧ n ≤ 0x5A then some (n - 0x41)
    else if 0x61 ≤ n ∧ n ≤ 0x7A then some (n - 0x61 + 26)
    else if 0x30 ≤ n ∧ n ≤ 0x39 then some (n - 0x30 + 52)
    else if n = 0x2B then some 62
    else if n = 0x2F then some 63
    else none

/-- The alphabet of password hashes: `.`, `/`, letters, digits. -/
def crypt : Base64 where
  symbol n :=
    UInt8.ofNat (if n = 0 then 0x2E else if n = 1 then 0x2F else if n < 28 then 0x41 + (n - 2)
      else if n < 54 then 0x61 + (n - 28) else 0x30 + (n - 54))
  value? b :=
    let n := b.toNat
    if n = 0x2E then some 0
    else if n = 0x2F then some 1
    else if 0x41 ≤ n ∧ n ≤ 0x5A then some (n - 0x41 + 2)
    else if 0x61 ≤ n ∧ n ≤ 0x7A then some (n - 0x61 + 28)
    else if 0x30 ≤ n ∧ n ≤ 0x39 then some (n - 0x30 + 54)
    else none

/-- The text of a byte sequence. -/
def encode (a : Base64) : Bytes → Bytes
  | x :: y :: z :: rest =>
    let n := (x.toNat * 256 + y.toNat) * 256 + z.toNat
    a.symbol (n / 262144) :: a.symbol (n / 4096 % 64) :: a.symbol (n / 64 % 64) ::
      a.symbol (n % 64) :: a.encode rest
  | [x, y] =>
    let n := (x.toNat * 256 + y.toNat) * 4
    [a.symbol (n / 4096), a.symbol (n / 64 % 64), a.symbol (n % 64)]
  | [x] =>
    let n := x.toNat * 16
    [a.symbol (n / 64), a.symbol (n % 64)]
  | [] => []

/-- Why a text is no base64 text. -/
inductive Fault where
  | invalidSymbol (offset : Nat) (symbol : UInt8)
  | invalidLength (length : Nat)
  | invalidLastSymbol (offset : Nat) (symbol : UInt8)
  | invalidPadding
  deriving DecidableEq

/-- The words for a cause. -/
def Fault.message : Fault → String
  | .invalidSymbol offset b => s!"Invalid symbol {b.toNat}, offset {offset}."
  | .invalidLength n => s!"Invalid input length: {n}"
  | .invalidLastSymbol offset b => s!"Invalid last symbol {b.toNat}, offset {offset}."
  | .invalidPadding => "Invalid padding"

/-- The equals sign, which pads a text to full quads. -/
def padding : UInt8 := 0x3D

/-- The value of the symbol at `offset`. -/
def valueAt (a : Base64) (offset : Nat) (b : UInt8) : Except Fault Nat :=
  match a.value? b with
  | some v => .ok v
  | none => .error (.invalidSymbol offset b)

/-- The symbols of the last quad, which starts at `start`, with their values, and how many padding
characters follow them. -/
def lastSymbols (a : Base64) (start : Nat) (quad : Bytes) :
    Except Fault (List (UInt8 × Nat) × Nat) :=
  go 0 quad
where
  go (index : Nat) : Bytes → Except Fault (List (UInt8 × Nat) × Nat)
    | [] => .ok ([], 0)
    | b :: rest =>
      if b = padding then
        if index < 2 || rest.any (· ≠ padding) then .error (.invalidSymbol (start + index) b)
        else .ok ([], rest.length + 1)
      else do
        let v ← a.valueAt (start + index) b
        let (symbols, pads) ← go (index + 1) rest
        return ((b, v) :: symbols, pads)

/-- The bytes of the last quad, of at most four symbols, which starts at `start`. -/
def decodeLast (a : Base64) (start : Nat) (quad : Bytes) : Except Fault Bytes := do
  let (symbols, pads) ← a.lastSymbols start quad
  match symbols with
  | [] => if pads = 0 ∧ start = 0 then return [] else throw (.invalidLength start)
  | [_] => throw (.invalidLength (start + 1))
  | (_, u) :: (c, v) :: more =>
    if pads ≠ 0 then throw .invalidPadding
    let first := UInt8.ofNat (u * 4 + v / 16)
    match more with
    | [] =>
      if v % 16 ≠ 0 then throw (.invalidLastSymbol (start + 1) c)
      return [first]
    | (d, w) :: more =>
      let second := UInt8.ofNat (v % 16 * 16 + w / 4)
      match more with
      | [] =>
        if w % 4 ≠ 0 then throw (.invalidLastSymbol (start + 2) d)
        return [first, second]
      | (_, x) :: _ => return [first, second, UInt8.ofNat (w % 4 * 64 + x)]

/-- The bytes of a text whose first byte stands at `start`, quad by quad. -/
def decodeQuads (a : Base64) (start : Nat) : Bytes → Except Fault Bytes
  | p :: q :: r :: s :: t :: rest => do
    let u ← a.valueAt start p
    let v ← a.valueAt (start + 1) q
    let w ← a.valueAt (start + 2) r
    let x ← a.valueAt (start + 3) s
    let more ← a.decodeQuads (start + 4) (t :: rest)
    return UInt8.ofNat (u * 4 + v / 16) :: UInt8.ofNat (v % 16 * 16 + w / 4) ::
      UInt8.ofNat (w % 4 * 64 + x) :: more
  | quad => a.decodeLast start quad

/-- The bytes of a text. A foreign last symbol after full quads is reported before all else. -/
def decode (a : Base64) (text : Bytes) : Except Fault Bytes :=
  match text.getLast? with
  | some b =>
    if text.length % 4 = 1 ∧ b ≠ padding ∧ a.value? b = none then
      .error (.invalidSymbol (text.length - 1) b)
    else a.decodeQuads 0 text
  | none => .ok []

end Base64

end TenantAuth
