import TenantAuth.Tls.Der

/-!
# Certificates

The parts of an X.509 certificate that matter for a key pair and for a trust anchor, and what makes
a certificate unreadable.
-/
namespace TenantAuth

/-- Why a certificate is refused. -/
inductive CertificateFault where
  | badEncoding
  | unsupportedVersion
  | signatureAlgorithmMismatch
  | extensionValueInvalid
  | unsupportedCriticalExtension
  deriving DecidableEq

/-- The words for a fault. -/
def CertificateFault.message : CertificateFault → String
  | .badEncoding => "invalid peer certificate: BadEncoding"
  | .unsupportedVersion => "invalid peer certificate: Other(OtherError(UnsupportedCertVersion))"
  | .signatureAlgorithmMismatch =>
    "invalid peer certificate: Other(OtherError(SignatureAlgorithmMismatch))"
  | .extensionValueInvalid => "invalid peer certificate: Other(OtherError(ExtensionValueInvalid))"
  | .unsupportedCriticalExtension =>
    "invalid peer certificate: Other(OtherError(UnsupportedCriticalExtension))"

/-- A certificate: its subject and its public key, as the contents of their elements. -/
structure Certificate where
  subject : Bytes
  publicKeyInfo : Bytes
  deriving DecidableEq

namespace Certificate

open Der

/-- A reader of parts of a certificate. -/
abbrev PartReader (α : Type) := Der.Reader CertificateFault α

/-- An element whose absence is bad encoding. -/
def part (tag : Tag) : PartReader Bytes := element .badEncoding tag

/-- A mark that is false where it is left out. -/
def mark : PartReader Bool := do
  if ← next .boolean then
    match ← part .boolean with
    | [0xFF] => return true
    | [0x00] => return false
    | _ => throw .badEncoding
  else return false

/-- The version: only the third is read. -/
def version : PartReader Unit :=
  nested .unsupportedVersion (.constructed 0) do
    if (← small .badEncoding) ≠ 2 then throw .unsupportedVersion

/-- The last numbers of the identifiers `2.5.29.n` of extensions that are understood. -/
def understood : List UInt8 := [15, 17, 19, 30, 31, 37]

/-- One extension after those whose numbers are `seen`. Those that are understood are sequences, but
for the usage of the key (15), and come at most once; others must not be critical, unless the
certificate is trusted as it is. -/
def extension (trusted : Bool) (seen : List UInt8) : PartReader (List UInt8) := do
  let id ← part .objectId
  let critical ← mark
  let value ← part .octetString
  let unknown : PartReader (List UInt8) :=
    if critical && !trusted then throw .unsupportedCriticalExtension else pure seen
  match id with
  | [0x55, 0x1D, n] =>
    if n ∉ understood then unknown
    else if n ∈ seen then throw .extensionValueInvalid
    else if n = 15 then return n :: seen
    else
      match whole .badEncoding (part .sequence) value with
      | .ok _ => return n :: seen
      | .error e => throw e
  | _ => unknown

/-- All extensions, if there are any. -/
def extensions (trusted : Bool) : PartReader Unit := do
  if !(← atEnd) then
    nested .badEncoding (.constructed 3) do
      let content ← part .sequence
      let one (seen : List UInt8) := whole .badEncoding (extension trusted seen)
      match foldElements .badEncoding .sequence one [] content with
      | .ok _ => return ()
      | .error e => throw e

/-- The signed part of a certificate, whose signature is said to be of the given algorithm. -/
def signedPart (trusted : Bool) (algorithm : Bytes) : PartReader Certificate := do
  version
  let _serial ← part .integer
  let signature ← part .sequence
  if signature ≠ algorithm then throw .signatureAlgorithmMismatch
  let _issuer ← part .sequence
  let _validity ← part .sequence
  let subject ← part .sequence
  let publicKeyInfo ← part .sequence
  extensions trusted
  return { subject, publicKeyInfo }

/-- A certificate of the third version, perhaps one that is trusted as it is. -/
def ofDer (trusted : Bool) (der : Bytes) : Except CertificateFault Certificate := do
  let (body, algorithm) ← whole .badEncoding (nested .badEncoding .sequence do
    let body ← part .sequence
    let algorithm ← part .sequence
    let _signature ← bits .badEncoding .bitString
    return (body, algorithm)) der
  whole .badEncoding (signedPart trusted algorithm) body

/-- A certificate of the first version, which has no version number and no extensions. -/
def firstVersion : PartReader Certificate :=
  nested .badEncoding .sequence do
    let anchor ← nested .badEncoding .sequence do
      let _serial ← part .integer
      let _signature ← part .sequence
      let _issuer ← part .sequence
      let _validity ← part .sequence
      let subject ← part .sequence
      let publicKeyInfo ← part .sequence
      return { subject, publicKeyInfo }
    let _algorithm ← part .sequence
    let _signature ← part .bitString
    return anchor

/-- A certificate that is trusted as it is: one of the first version will do. -/
def trustAnchor (der : Bytes) : Except CertificateFault Certificate :=
  match ofDer true der with
  | .error .unsupportedVersion => whole .badEncoding firstVersion der
  | r => r

end Certificate

end TenantAuth
