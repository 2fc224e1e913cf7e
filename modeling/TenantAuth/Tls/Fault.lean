import TenantAuth.Tls.Pem
import TenantAuth.Tls.Certificate

/-!
# Faults of credentials

Why the material of a side of a link is of no use.
-/
namespace TenantAuth

/-- A side of a link. -/
inductive Side where
  | server
  | client
  deriving DecidableEq

/-- The name of a side. -/
def Side.name : Side → String
  | .server => "server"
  | .client => "client"

/-- Why a chain and a key are no pair. -/
inductive KeyPairFault where
  | unknownKey
  | noChain
  | badCertificate (fault : CertificateFault)
  | keyMismatch
  deriving DecidableEq

/-- The words for a fault. -/
def KeyPairFault.message : KeyPairFault → String
  | .unknownKey => "unexpected error: failed to parse private key as RSA, ECDSA, or EdDSA"
  | .noChain => "no certificates found"
  | .badCertificate f => f.message
  | .keyMismatch => "keys may not be consistent: KeyMismatch"

/-- Why credentials cannot be built. -/
inductive TlsFault where
  | noCertificates (path : String)
  | badPem (path : String) (fault : Pem.Fault)
  | noPrivateKey (path : String) (fault : Option Pem.Fault)
  | badTrustAnchor (path : String) (fault : CertificateFault)
  | noTrustAnchors
  | badKeyPair (side : Side) (cert key : String) (fault : KeyPairFault)
  deriving DecidableEq

/-- The words for a fault. -/
def TlsFault.message : TlsFault → String
  | .noCertificates path => s!"{path}: no certificates found"
  | .badPem path f => s!"{path}: {f.message}"
  | .noPrivateKey path (some f) => s!"{path}: no usable private key: {f.message}"
  | .noPrivateKey path none => s!"{path}: no usable private key: no items found"
  | .badTrustAnchor path f => s!"{path}: {f.message}"
  | .noTrustAnchors => "client verifier: no root trust anchors were provided"
  | .badKeyPair side cert key f => s!"{side.name} key pair {cert} / {key}: {f.message}"

end TenantAuth
