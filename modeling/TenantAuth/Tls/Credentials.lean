import TenantAuth.Tls.Certificate
import TenantAuth.Tls.SigningKey
import TenantAuth.Settings.ConfigError

/-!
# Credentials

The material with which both sides of a link prove who they are: a chain of certificates, the key
of the first one, and the certificates that the chain of the peer has to end in. The server demands
a certificate of its clients; both sides speak TLS 1.3 only.
-/
namespace TenantAuth

/-- How a side makes sure of its peer. -/
inductive PeerPolicy where
  | requireAndVerifyClientCert
  | verifyServerCert
  deriving DecidableEq

/-- The name of a policy. -/
def PeerPolicy.name : PeerPolicy → String
  | .requireAndVerifyClientCert => "RequireAndVerifyClientCert"
  | .verifyServerCert => "VerifyServerCert"

/-- The version of the protocol that is spoken at least. -/
def minProtocolVersion : String := "TLSv1_3"

/-- The identity of a side, and the certificates that it trusts. -/
structure Credentials where
  chain : List Bytes
  key : SigningKey
  trustAnchors : List Certificate
  policy : PeerPolicy

namespace Credentials

/-- The content of a file. -/
def readFile (d : Directory) (path : String) : Except ConfigError Bytes :=
  (d.read path).mapError (.read path)

/-- The certificates of a file, which has at least one. -/
def loadCertificates (d : Directory) (path : String) : Except ConfigError (List Bytes) := do
  let (sections, fault) := Pem.read (← readFile d path)
  match fault with
  | some f => throw (.tls (.badPem path f))
  | none =>
    let certs := (sections.filter (·.label = .certificate)).map Pem.Section.content
    if certs.isEmpty then throw (.tls (.noCertificates path)) else return certs

/-- The key of a section, if it holds one. -/
def keyOfSection? (s : Pem.Section) : Option PrivateKey :=
  (KeyForm.ofLabel? s.label).map fun form => ⟨form, s.content⟩

/-- The first private key of a file. -/
def loadPrivateKey (d : Directory) (path : String) : Except ConfigError PrivateKey := do
  let (sections, fault) := Pem.read (← readFile d path)
  match sections.findSome? keyOfSection? with
  | some k => return k
  | none => throw (.tls (.noPrivateKey path fault))

/-- The trusted certificates of a file. -/
def loadTrustAnchors (d : Directory) (path : String) : Except ConfigError (List Certificate) := do
  (← loadCertificates d path).mapM fun der =>
    (Certificate.trustAnchor der).mapError fun f => .tls (.badTrustAnchor path f)

/-- The signing key of an identity: the key has to belong to the first certificate. -/
def signingKey (chain : List Bytes) (key : PrivateKey) : Except KeyPairFault SigningKey := do
  match SigningKey.ofPrivateKey? key with
  | none => throw .unknownKey
  | some k =>
    match chain with
    | [] => throw .noChain
    | first :: _ =>
      let cert ← (Certificate.ofDer false first).mapError .badCertificate
      if cert.publicKeyInfo = k.publicKeyInfo then return k else throw .keyMismatch

/-- The credentials of a server, which checks clients against the trusted certificates: without any
there is nothing to check against. -/
def server (d : Directory) (cert key ca : String) : Except ConfigError Credentials := do
  let chain ← loadCertificates d cert
  let secretKey ← loadPrivateKey d key
  let trustAnchors ← loadTrustAnchors d ca
  if trustAnchors.isEmpty then throw (.tls .noTrustAnchors)
  let key ← (signingKey chain secretKey).mapError fun f => .tls (.badKeyPair .server cert key f)
  return { chain, key, trustAnchors, policy := .requireAndVerifyClientCert }

/-- The credentials of a client. -/
def client (d : Directory) (cert key ca : String) : Except ConfigError Credentials := do
  let chain ← loadCertificates d cert
  let secretKey ← loadPrivateKey d key
  let trustAnchors ← loadTrustAnchors d ca
  let key ← (signingKey chain secretKey).mapError fun f => .tls (.badKeyPair .client cert key f)
  return { chain, key, trustAnchors, policy := .verifyServerCert }

/-- Credentials from settings, if all three files are named. -/
def ofSettings (build : Directory → String → String → String → Except ConfigError Credentials)
    (d : Directory) (t : TlsSettings) : Except ConfigError (Option Credentials) :=
  match t.paths with
  | none => .ok none
  | some (cert, key, ca) => (build d cert key ca).map some

end Credentials

end TenantAuth
