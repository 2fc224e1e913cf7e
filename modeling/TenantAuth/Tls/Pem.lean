import TenantAuth.Base64

/-!
# PEM

A text with sections of binary material between `-----BEGIN LABEL-----` and `-----END LABEL-----`.
`Pem.read` gives the sections up to the first fault; what stands outside of sections and sections
with a label that is not known are passed over.
-/
namespace TenantAuth.Pem

/-- What a section holds. -/
inductive Label where
  | certificate
  | publicKey
  | rsaPrivateKey
  | privateKey
  | ecPrivateKey
  | revocationList
  | certificateRequest
  | helloConfig
  deriving DecidableEq

/-- A section: its label and its content. -/
structure Section where
  label : Label
  content : Bytes
  deriving DecidableEq

/-- Why a body is not the text of bytes. -/
inductive BodyFault where
  | foreignSymbol (symbol : UInt8)
  | prematurePadding
  | badTrailingPadding
  deriving DecidableEq

/-- Why sections cannot be read. -/
inductive Fault where
  | illegalStart (line : Bytes)
  | missingEnd (label : Bytes)
  | body (fault : BodyFault)
  deriving DecidableEq

/-- The words for a fault of a body. -/
def BodyFault.message : BodyFault → String
  | .foreignSymbol b => s!"InvalidCharacter({b.toNat})"
  | .prematurePadding => "PrematurePadding"
  | .badTrailingPadding => "InvalidTrailingPadding"

/-- Bytes as a list of numbers. -/
def numbers (bs : Bytes) : String :=
  "[" ++ ", ".intercalate (bs.map fun b => toString b.toNat) ++ "]"

/-- The words for a fault. -/
def Fault.message : Fault → String
  | .illegalStart line => "illegal section start: " ++ numbers line
  | .missingEnd label => "missing section end marker: " ++ numbers label
  | .body f => "base64 decode error: " ++ f.message

namespace Label

/-- The words of a label. -/
def text : Label → String
  | .certificate => "CERTIFICATE"
  | .publicKey => "PUBLIC KEY"
  | .rsaPrivateKey => "RSA PRIVATE KEY"
  | .privateKey => "PRIVATE KEY"
  | .ecPrivateKey => "EC PRIVATE KEY"
  | .revocationList => "X509 CRL"
  | .certificateRequest => "CERTIFICATE REQUEST"
  | .helloConfig => "ECHCONFIG"

/-- All labels. -/
def all : List Label :=
  [.certificate, .publicKey, .rsaPrivateKey, .privateKey, .ecPrivateKey, .revocationList,
    .certificateRequest, .helloConfig]

/-- The label with the given words. -/
def ofText? (words : Bytes) : Option Label := all.find? fun l => Text.bytes l.text = words

end Label

/-! ## Bodies -/

/-- A symbol of a body: six bits, or padding. -/
inductive Symbol where
  | bits (n : Nat)
  | padding
  deriving DecidableEq

namespace Symbol

/-- The symbol that a byte stands for. -/
def ofByte? (b : UInt8) : Option Symbol :=
  if b = 0x3D then some .padding else (Base64.standard.value? b).map .bits

/-- A byte that stands between symbols and means nothing. -/
def isSpace (b : UInt8) : Bool := b = 0x20 || (0x09 ≤ b && b ≤ 0x0D)

/-- The last four or fewer symbols: whole bytes, with or without padding. Bits that fill no byte are
dropped. -/
def lastBytes : List Symbol → Except BodyFault Bytes
  | [] => .ok []
  | [.bits a, .bits b, .bits c, .bits d] =>
    let n := ((a * 64 + b) * 64 + c) * 64 + d
    .ok [UInt8.ofNat (n / 65536), UInt8.ofNat (n / 256), UInt8.ofNat n]
  | [.bits a, .bits b, .bits c, .padding] | [.bits a, .bits b, .bits c] =>
    let n := (a * 64 + b) * 64 + c
    .ok [UInt8.ofNat (n / 1024), UInt8.ofNat (n / 4)]
  | [.bits a, .bits b, .padding, .padding] | [.bits a, .bits b] =>
    .ok [UInt8.ofNat ((a * 64 + b) / 16)]
  | _ => .error .badTrailingPadding

/-- Symbols that others follow: there must be no padding among them. -/
def innerBytes (symbols : List Symbol) : Except BodyFault Bytes :=
  if symbols.contains .padding then .error .prematurePadding else lastBytes symbols

/-- The bytes of at most eight symbols at the end of a body. -/
def finalBytes (symbols : List Symbol) : Except BodyFault Bytes :=
  if symbols.length ≤ 4 then lastBytes symbols
  else do return (← innerBytes (symbols.take 4)) ++ (← lastBytes (symbols.drop 4))

/-- The bytes of eight symbols that others follow. -/
def chunkBytes (symbols : List Symbol) : Except BodyFault Bytes :=
  if symbols.contains .padding then .error .prematurePadding
  else do return (← lastBytes (symbols.take 4)) ++ (← lastBytes (symbols.drop 4))

end Symbol

/-- Decodes a body after the symbols `pending`, which are at most eight. -/
def decodeFrom (pending : List Symbol) : Bytes → Except BodyFault Bytes
  | [] => Symbol.finalBytes pending
  | b :: rest =>
    if Symbol.isSpace b then decodeFrom pending rest
    else
      match Symbol.ofByte? b with
      | none => .error (.foreignSymbol b)
      | some s =>
        if pending.length = 8 then do
          let front ← Symbol.chunkBytes pending
          return front ++ (← decodeFrom [s] rest)
        else decodeFrom (pending ++ [s]) rest

/-- The bytes that a body stands for. -/
def decodeBody (body : Bytes) : Except BodyFault Bytes := decodeFrom [] body

/-! ## Sections -/

/-- How a line that opens a section begins. -/
def startMark : Bytes := Text.bytes "-----BEGIN "

/-- How a line that closes a section begins. -/
def endMark : Bytes := Text.bytes "-----END "

/-- The five dashes after a label. -/
def dashes : Bytes := List.replicate 5 0x2D

/-- The words between the mark and the dashes of a line that opens a section. The dashes are the
last five signs of the line but for spaces. -/
def labelOf? (line : Bytes) : Option Bytes :=
  let tail := (line.reverse.takeWhile fun b => b = 0x2D || b = 0x20).reverse.dropWhile (· ≠ 0x2D)
  if tail.count 0x2D = 5 then some ((line.take (line.length - tail.length)).drop startMark.length)
  else none

/-- The line closes a section with the given words as its label. -/
def closes (label line : Bytes) : Bool := (endMark ++ label ++ dashes).isPrefixOf line

/-- Lines, which end at each line feed and each carriage return. -/
def lines : Bytes → List Bytes
  | [] => [[]]
  | b :: rest =>
    if b = 0x0A || b = 0x0D then [] :: lines rest
    else
      match lines rest with
      | line :: more => (b :: line) :: more
      | [] => [[b]]

/-- Reads lines inside the section that is open, if one is, with its body so far. -/
def readLines : Option Bytes → Bytes → List Bytes → List Section × Option Fault
  | none, _, [] => ([], none)
  | some label, _, [] => ([], some (.missingEnd label))
  | current, body, line :: rest =>
    if startMark.isPrefixOf line then
      match labelOf? line with
      | none => ([], some (.illegalStart line))
      | some label => readLines (some label) body rest
    else
      match current with
      | none => readLines none body rest
      | some label =>
        if closes label line then
          match Label.ofText? label with
          | none => readLines none [] rest
          | some l =>
            match decodeBody body with
            | .error f => ([], some (.body f))
            | .ok content =>
              let (sections, fault) := readLines none [] rest
              (⟨l, content⟩ :: sections, fault)
        else readLines current (body ++ line) rest

/-- The sections of a file up to the first fault. -/
def read (file : Bytes) : List Section × Option Fault := readLines none [] (lines file)

end TenantAuth.Pem
