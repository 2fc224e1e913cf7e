import TenantAuth.Tls.Credentials
import TenantAuth.Proofs.Outcome

/-!
# Credentials of the two sides

Both sides are built in one way (`server_eq_assemble`, `client_eq_assemble`): from three files and
one pair of certificate and key, of which the first that is defective decides on the error
(`assemble_eq_error`). Each section of the file of trusted certificates counts, and there is at
least one (`loadTrustAnchors_eq_ok`).
-/
namespace TenantAuth.Credentials

open Outcome

variable {d : Directory} {path cert key ca : String} {side : Side} {c : Credentials}
  {e : ConfigError}

/-! ## Files -/

/-- The sections of a file that hold certificates. -/
def certificateSections (file : Bytes) : List Pem.Section :=
  (Pem.read file).1.filter (·.label = .certificate)

theorem loadCertificates_eq_ok {certs : List Bytes} :
    loadCertificates d path = .ok certs ↔
      ∃ file, d.read path = .ok file ∧ (Pem.read file).2 = none ∧
        certs = (certificateSections file).map Pem.Section.content ∧ certs ≠ [] := by
  unfold loadCertificates readFile certificateSections
  rw [bind_eq_ok]
  refine exists_congr fun file => ?_
  rw [mapError_eq_ok]
  refine and_congr_right fun _ => ?_
  dsimp only
  -- a section that is no PEM spoils the file, whatever comes before it
  cases (Pem.read file).2 with
  | some f => exact ⟨nofun, nofun⟩
  | none =>
    dsimp only
    rw [throw_eq, pure_eq, ite_error_eq_ok, List.isEmpty_iff]
    constructor
    · rintro ⟨hcerts, h⟩
      cases h
      exact ⟨rfl, rfl, hcerts⟩
    · rintro ⟨-, rfl, hcerts⟩
      exact ⟨hcerts, rfl⟩

/-- An error of a file: it cannot be read, or what stands in it is of no use. -/
def OfFile (path : String) : ConfigError → Prop
  | .read p _ => p = path
  | .tls (.badPem p _) | .tls (.noCertificates p) | .tls (.noPrivateKey p _) => p = path
  | .tls (.badTrustAnchor p _) => p = path
  | _ => False

theorem ofFile_of_readFile (h : readFile d path = .error e) : OfFile path e := by
  obtain ⟨fault, -, rfl⟩ := mapError_eq_error.1 h
  rfl

theorem ofFile_of_loadCertificates (h : loadCertificates d path = .error e) : OfFile path e := by
  unfold loadCertificates at h
  rcases bind_eq_error.1 h with h | ⟨file, -, h⟩
  · exact ofFile_of_readFile h
  · dsimp only at h
    -- a file that is no PEM, or one without certificates
    split at h
    · cases h
      rfl
    · split at h
      · cases h
        rfl
      · cases h

theorem ofFile_of_loadPrivateKey (h : loadPrivateKey d path = .error e) : OfFile path e := by
  unfold loadPrivateKey at h
  rcases bind_eq_error.1 h with h | ⟨file, -, h⟩
  · exact ofFile_of_readFile h
  · dsimp only at h
    split at h
    · cases h
    · cases h
      rfl

/-- **Every section counts:** the trusted certificates of a file are those of its sections, one by
one. -/
theorem loadTrustAnchors_eq_ok {anchors : List Certificate} :
    loadTrustAnchors d path = .ok anchors ↔
      ∃ file, d.read path = .ok file ∧ (Pem.read file).2 = none ∧
        (certificateSections file).map (fun s => Certificate.trustAnchor s.content)
          = anchors.map .ok ∧
        anchors ≠ [] := by
  unfold loadTrustAnchors
  rw [bind_eq_ok]
  simp only [mapM_mapError, mapError_eq_ok, mapM_eq_ok]
  constructor
  · rintro ⟨certs, hcerts, h⟩
    obtain ⟨file, hfile, hfault, rfl, hne⟩ := loadCertificates_eq_ok.1 hcerts
    -- the anchors are the certificates, each of them read
    rw [List.map_map] at h
    refine ⟨file, hfile, hfault, h, ?_⟩
    rintro rfl
    rw [List.map_nil, List.map_eq_nil_iff] at h
    exact hne (List.map_eq_nil_iff.2 h)
  · rintro ⟨file, hfile, hfault, h, hne⟩
    refine ⟨_, loadCertificates_eq_ok.2 ⟨file, hfile, hfault, rfl, ?_⟩, ?_⟩
    · rw [Ne, List.map_eq_nil_iff]
      intro hnil
      rw [hnil, List.map_nil, eq_comm, List.map_eq_nil_iff] at h
      exact hne h
    · rw [List.map_map]
      exact h

theorem ofFile_of_loadTrustAnchors (h : loadTrustAnchors d path = .error e) : OfFile path e := by
  unfold loadTrustAnchors at h
  rcases bind_eq_error.1 h with h | ⟨certs, -, h⟩
  · exact ofFile_of_loadCertificates h
  · obtain ⟨-, der, -, -, -, h⟩ := mapM_eq_error.1 h
    obtain ⟨fault, -, rfl⟩ := mapError_eq_error.1 h
    rfl

/-! ## One way to build -/

/-- How a side makes sure of its peer. -/
def policyOf : Side → PeerPolicy
  | .server => .requireAndVerifyClientCert
  | .client => .verifyServerCert

/-- The credentials of a side. -/
def assemble (side : Side) (d : Directory) (cert key ca : String) :
    Except ConfigError Credentials := do
  let chain ← loadCertificates d cert
  let secretKey ← loadPrivateKey d key
  let trustAnchors ← loadTrustAnchors d ca
  let key ← (signingKey chain secretKey).mapError fun f => .tls (.badKeyPair side cert key f)
  return { chain, key, trustAnchors, policy := policyOf side }

theorem client_eq_assemble (d : Directory) (cert key ca : String) :
    client d cert key ca = assemble .client d cert key ca := rfl

/-- The server never lacks certificates to trust: a file without any is refused before. -/
theorem server_eq_assemble (d : Directory) (cert key ca : String) :
    server d cert key ca = assemble .server d cert key ca := by
  unfold server assemble
  refine bind_congr fun chain => bind_congr fun secretKey => ?_
  cases htrust : loadTrustAnchors d ca with
  | error e => rfl
  | ok anchors =>
    obtain ⟨-, -, -, -, hne⟩ := loadTrustAnchors_eq_ok.1 htrust
    rw [ok_bind, ok_bind, if_neg (by simpa using hne)]
    rfl

/-- What the files of a side are when its credentials are built from them. -/
structure BuiltFrom (d : Directory) (cert key ca : String) (side : Side) (c : Credentials) :
    Prop where
  chain : loadCertificates d cert = .ok c.chain
  key : ∃ secretKey, loadPrivateKey d key = .ok secretKey ∧ signingKey c.chain secretKey = .ok c.key
  trustAnchors : loadTrustAnchors d ca = .ok c.trustAnchors
  policy : c.policy = policyOf side

/-- What is defective first: the file of the certificate, that of the key, that of the trusted
certificates, or the pair of certificate and key. -/
inductive Defective (d : Directory) (cert key ca : String) (side : Side) : ConfigError → Prop where
  | certificates {e : ConfigError} (h : loadCertificates d cert = .error e) :
      Defective d cert key ca side e
  | key {chain : List Bytes} {e : ConfigError} (hchain : loadCertificates d cert = .ok chain)
      (h : loadPrivateKey d key = .error e) : Defective d cert key ca side e
  | trustAnchors {chain : List Bytes} {secretKey : PrivateKey} {e : ConfigError}
      (hchain : loadCertificates d cert = .ok chain) (hkey : loadPrivateKey d key = .ok secretKey)
      (h : loadTrustAnchors d ca = .error e) : Defective d cert key ca side e
  | keyPair {chain : List Bytes} {secretKey : PrivateKey} {anchors : List Certificate}
      {fault : KeyPairFault} (hchain : loadCertificates d cert = .ok chain)
      (hkey : loadPrivateKey d key = .ok secretKey) (htrust : loadTrustAnchors d ca = .ok anchors)
      (h : signingKey chain secretKey = .error fault) :
      Defective d cert key ca side (.tls (.badKeyPair side cert key fault))

/-- Credentials are assembled just when they can be built from the files. -/
theorem assemble_eq_ok :
    assemble side d cert key ca = .ok c ↔ BuiltFrom d cert key ca side c := by
  unfold assemble
  simp only [bind_eq_ok, mapError_eq_ok, pure_eq, Except.ok.injEq]
  constructor
  · rintro ⟨chain, hchain, secretKey, hkey, anchors, htrust, signing, hsigning, rfl⟩
    exact ⟨hchain, ⟨secretKey, hkey, hsigning⟩, htrust, rfl⟩
  · rintro ⟨hchain, ⟨secretKey, hkey, hsigning⟩, htrust, hpolicy⟩
    obtain ⟨chain, signing, anchors, policy⟩ := c
    cases hpolicy
    exact ⟨chain, hchain, secretKey, hkey, anchors, htrust, signing, hsigning, rfl⟩

/-- Otherwise the first defect is the error. -/
theorem assemble_eq_error :
    assemble side d cert key ca = .error e ↔ Defective d cert key ca side e := by
  unfold assemble
  simp only [bind_eq_error, mapError_eq_error]
  constructor
  · rintro (h | ⟨chain, hchain, h | ⟨secretKey, hkey, h | ⟨anchors, htrust, h⟩⟩⟩)
    · exact .certificates h
    · exact .key hchain h
    · exact .trustAnchors hchain hkey h
    -- the pair is put together last, and nothing fails after it
    · rcases h with ⟨fault, h, rfl⟩ | ⟨signing, -, h⟩
      · exact .keyPair hchain hkey htrust h
      · cases h
  · intro h
    cases h with
    | certificates h => exact .inl h
    | key hchain h => exact .inr ⟨_, hchain, .inl h⟩
    | trustAnchors hchain hkey h => exact .inr ⟨_, hchain, .inr ⟨_, hkey, .inl h⟩⟩
    | keyPair hchain hkey htrust h =>
      exact .inr ⟨_, hchain, .inr ⟨_, hkey, .inr ⟨_, htrust, .inl ⟨_, h, rfl⟩⟩⟩⟩

end TenantAuth.Credentials
