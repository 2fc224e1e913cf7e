import TenantAuth.Json.Reader

/-!
# Reading words, numbers and strings

The values that hold no others. An integer that fits 64 bits is exact, any other number is the
floating-point number of its first digits; a string has to be valid UTF-8.
-/
namespace TenantAuth.Json.Reader

/-! ## Words and numbers -/

/-- Passes over the given letters. -/
def ident : Bytes → Reader Unit
  | [] => return
  | b :: rest => do
    match ← next with
    | none => failHere .eofValue
    | some x => if x = b then ident rest else failHere .expectedIdent

/-- Passes over a run of digits and gives it. -/
def digits : Reader Bytes := do
  let c ← get
  let ds := c.rest.takeWhile Text.Decimal.isDigit
  set (Cursor.mk (c.rest.drop ds.length) (c.offset + ds.length))
  return ds

/-- A number as it was read: an integer of a 64-bit range, or a floating-point number. -/
inductive Number where
  | int (n : Int)
  | float (x : Binary64)

/-- The number as a value. -/
def Number.toJson : Number → Json
  | .int n => .int n
  | .float x => .float x

/-- The number as something found. -/
def Number.found : Number → Found
  | .int n => .int n
  | .float x => .float x

/-- The floating-point number for a decimal, refused if it is too great. -/
def decimal (negative : Bool) (significand : Nat) (exponent : Int) : Reader Binary64 :=
  match Binary64.ofDecimal significand exponent with
  | none => failHere .numberOutOfRange
  | some x => return { x with negative := negative }

/-- Adds digits to a number while it stays in 64 bits: the number, how many digits were added, and
whether all were. -/
def gather (n : Nat) (ds : Bytes) : Nat × Nat × Bool :=
  match ds with
  | [] => (n, 0, true)
  | d :: rest =>
    let m := n * 10 + (d.toNat - 0x30)
    if m < 0x10000000000000000 then
      let (r, k, all) := gather m rest
      (r, k + 1, all)
    else (n, 0, false)

/-- The digits of an exponent, refused midway when they pass 31 bits for a number that would be
too great. -/
def exponentDigits (mayOverflow : Bool) : Nat → Nat → Reader (Option Nat)
  | 0, e => return some e
  | steps + 1, e => do
    match ← peek with
    | some d =>
      if Text.Decimal.isDigit d then
        advance
        let e' := e * 10 + (d.toNat - 0x30)
        if 0x80000000 ≤ e' then
          if mayOverflow then failHere .numberOutOfRange
          else
            let _ ← digits
            return none
        else exponentDigits mayOverflow steps e'
      else return some e
    | none => return some e

/-- The exponent after its letter. -/
def exponent (negative : Bool) (significand : Nat) (point : Int) : Reader Binary64 := do
  advance
  let positive ← match ← peek with
    | some 0x2B => do advance; pure true
    | some 0x2D => do advance; pure false
    | _ => pure true
  match ← next with
  | none => failHere .eofValue
  | some d =>
    if !Text.Decimal.isDigit d then failHere .invalidNumber
    else
      match ← exponentDigits (significand != 0 && positive) (← stepsLeft) (d.toNat - 0x30) with
      | none => return Binary64.zero negative
      | some e =>
        let e : Int := if positive then point + e else point - e
        decimal negative significand (max (-0x80000000) (min 0x7FFFFFFF e))

/-- An exponent or the end of a number. -/
def exponentOrEnd (negative : Bool) (significand : Nat) (point : Int) : Reader Binary64 := do
  match ← peek with
  | some 0x65 | some 0x45 => exponent negative significand point
  | _ => decimal negative significand point

/-- The digits after the point and what follows them. -/
def fraction (negative : Bool) (significand : Nat) (point : Int) : Reader Binary64 := do
  advance
  let ds ← digits
  if ds.isEmpty then
    match ← peek with
    | none => failNext .eofValue
    | some _ => failNext .invalidNumber
  else
    let (n, k, _) := gather significand ds
    exponentOrEnd negative n (point - k)

/-- What follows the digits of an integer. -/
def afterInteger (negative : Bool) (significand : Nat) : Reader Number := do
  match ← peek with
  | some 0x2E => .float <$> fraction negative significand 0
  | some 0x65 | some 0x45 => .float <$> exponent negative significand 0
  | _ =>
    if !negative then return .int significand
    else if significand = 0 || 0x8000000000000000 < significand then
      .float <$> decimal true significand 0
    else return .int (-significand)

/-- A number after its sign. -/
def number (negative : Bool) : Reader Number := do
  match ← next with
  | none => failHere .eofValue
  | some d =>
    if d = 0x30 then
      match ← peek with
      | some b =>
        if Text.Decimal.isDigit b then failNext .invalidNumber else afterInteger negative 0
      | none => afterInteger negative 0
    else if Text.Decimal.isDigit d then
      let ds ← digits
      let (n, k, all) := gather (d.toNat - 0x30) ds
      if all then afterInteger negative n
      else
        let more : Int := ds.length - k
        match ← peek with
        | some 0x2E => .float <$> fraction negative n more
        | _ => .float <$> exponentOrEnd negative n more
    else failHere .invalidNumber

/-! ## Strings -/

/-- The value of a hexadecimal digit. -/
def hexValue? (b : UInt8) : Option Nat :=
  if 0x30 ≤ b && b ≤ 0x39 then some (b.toNat - 0x30)
  else if 0x41 ≤ b && b ≤ 0x46 then some (b.toNat - 0x37)
  else if 0x61 ≤ b && b ≤ 0x66 then some (b.toNat - 0x57)
  else none

/-- Four hexadecimal digits. -/
def hexEscape : Reader Nat := do
  let c ← get
  match c.rest with
  | x :: y :: z :: w :: rest =>
    set (Cursor.mk rest (c.offset + 4))
    match hexValue? x, hexValue? y, hexValue? z, hexValue? w with
    | some a, some b, some c, some d => return ((a * 16 + b) * 16 + c) * 16 + d
    | _, _, _, _ => failHere .invalidEscape
  | rest =>
    set (Cursor.mk [] (c.offset + rest.length))
    failHere .eofString

/-- The UTF-8 form of a code point. -/
def utf8 (n : Nat) : Bytes := Text.bytes (Char.ofNat n).toString

/-- The byte `b`, or the refusal of a high surrogate without its partner. -/
def surrogateMark (b : UInt8) : Reader Unit := do
  match ← peek with
  | none => failHere .eofString
  | some x =>
    advance
    if x = b then return else failHere .unexpectedEndOfHexEscape

/-- A code point after `\u`, which takes two escapes beyond the basic plane. -/
def unicodeEscape : Reader Bytes := do
  let n ← hexEscape
  if 0xDC00 ≤ n && n ≤ 0xDFFF then failHere .loneSurrogate
  else if 0xD800 ≤ n && n ≤ 0xDBFF then
    surrogateMark 0x5C
    surrogateMark 0x75
    let m ← hexEscape
    if 0xDC00 ≤ m && m ≤ 0xDFFF then
      return utf8 (0x10000 + (n - 0xD800) * 0x400 + (m - 0xDC00))
    else failHere .loneSurrogate
  else return utf8 n

/-- What an escape after its backslash stands for. -/
def escape : Reader Bytes := do
  match ← next with
  | none => failHere .eofString
  | some b =>
    match b with
    | 0x22 => return [0x22]
    | 0x5C => return [0x5C]
    | 0x2F => return [0x2F]
    | 0x62 => return [0x08]
    | 0x66 => return [0x0C]
    | 0x6E => return [0x0A]
    | 0x72 => return [0x0D]
    | 0x74 => return [0x09]
    | 0x75 => unicodeEscape
    | _ => failHere .invalidEscape

/-- The bytes of a string up to its closing quote, added to `read`, which is in reverse. -/
def stringBytes : Nat → Bytes → Reader Bytes
  | 0, _ => failHere .eofString
  | steps + 1, read => do
    match ← peek with
    | none => failHere .eofString
    | some b =>
      advance
      if b = 0x22 then return read.reverse
      else if b = 0x5C then
        let e ← escape
        stringBytes steps (e.reverse ++ read)
      else if b < 0x20 then failHere .controlCharacter
      else stringBytes steps (b :: read)

/-- The text of a string after its opening quote. -/
def stringText : Reader String := do
  let b ← stringBytes (← stepsLeft) []
  match Text.ofBytes? b with
  | some s => return s
  | none => failHere .invalidUnicode

end TenantAuth.Json.Reader
