import TenantAuth.Proofs.Tls.Credentials
import TenantAuth.Proofs.CommandLine.Outcome

/-!
# The two sides of a link agree

From the same files both sides come to the same credentials but for how they make sure of their
peer, or to the same error but for the side that an error of a key pair names (`assemble_onSide`).
So settings that do for one side do for the other (`ofSettings_onSide`), and the check of the TLS
settings, which builds the server first, has nothing left to object to when it comes to the client
(`outcome_checkTls`).
-/
namespace TenantAuth

open Outcome

/-- The error as it is on a side. Only an error of a key pair names one. -/
def ConfigError.onSide (side : Side) : ConfigError → ConfigError
  | .tls (.badKeyPair _ cert key fault) => .tls (.badKeyPair side cert key fault)
  | e => e

namespace Credentials

variable {d : Directory} {path cert key ca : String} {side other : Side} {c : Credentials}
  {e : ConfigError}

/-- The credentials as they are on a side. -/
def onSide (side : Side) (c : Credentials) : Credentials := { c with policy := policyOf side }

/-- How a side builds its credentials. -/
def build : Side → Directory → String → String → String → Except ConfigError Credentials
  | .server => server
  | .client => client

theorem build_eq_assemble (side : Side) (d : Directory) (cert key ca : String) :
    build side d cert key ca = assemble side d cert key ca := by
  cases side with
  | server => exact server_eq_assemble d cert key ca
  | client => exact client_eq_assemble d cert key ca

/-! ## From one side to the other -/

/-- An error of a file names no side. -/
theorem OfFile.onSide (h : OfFile path e) (side : Side) : e.onSide side = e := by
  cases e with
  | tls fault =>
    cases fault with
    | badKeyPair _ cert key fault => cases h
    | _ => rfl
  | _ => rfl

/-- What is built for one side is built for the other but for how the peer is made sure of. -/
theorem BuiltFrom.onSide (h : BuiltFrom d cert key ca side c) (other : Side) :
    BuiltFrom d cert key ca other (c.onSide other) :=
  ⟨h.chain, h.key, h.trustAnchors, rfl⟩

/-- What is defective does not depend on the side that looks at it. -/
theorem Defective.onSide (h : Defective d cert key ca side e) (other : Side) :
    Defective d cert key ca other (e.onSide other) := by
  -- a defect of a file names the side only in its message
  cases h with
  | certificates h =>
    rw [(ofFile_of_loadCertificates h).onSide other]
    exact .certificates h
  | key hchain h =>
    rw [(ofFile_of_loadPrivateKey h).onSide other]
    exact .key hchain h
  | trustAnchors hchain hkey h =>
    rw [(ofFile_of_loadTrustAnchors h).onSide other]
    exact .trustAnchors hchain hkey h
  | keyPair hchain hkey htrust h => exact .keyPair hchain hkey htrust h

theorem Defective.ofFile_or_keyPair (h : Defective d cert key ca side e) :
    (∃ path, OfFile path e) ∨ ∃ fault, e = .tls (.badKeyPair side cert key fault) := by
  cases h with
  | certificates h => exact .inl ⟨cert, ofFile_of_loadCertificates h⟩
  | key _ h => exact .inl ⟨key, ofFile_of_loadPrivateKey h⟩
  | trustAnchors _ _ h => exact .inl ⟨ca, ofFile_of_loadTrustAnchors h⟩
  | keyPair _ _ _ _ => exact .inr ⟨_, rfl⟩

/-- The words for an error are the same on both sides, but for the name of the side in an error of a
key pair. -/
theorem Defective.message_onSide (h : Defective d cert key ca side e) (other : Side) :
    e.onSide other = e ∨ ∃ words, ∀ yaml, e.message yaml = "TLS error: " ++ side.name ++ words ∧
      (e.onSide other).message yaml = "TLS error: " ++ other.name ++ words := by
  rcases h.ofFile_or_keyPair with ⟨path, hfile⟩ | ⟨fault, rfl⟩
  · exact .inl (hfile.onSide other)
  -- apart from the name of the side the words are the same
  · let words := s!" key pair {cert} / {key}: {fault.message}"
    have hmessage : ∀ which : Side, (TlsFault.badKeyPair which cert key fault).message =
        which.name ++ words := by
      intro which
      show s!"{which.name} key pair {cert} / {key}: {fault.message}" = _
      simp [words, String.append_assoc, toString]
    refine .inr ⟨words, fun yaml => ⟨?_, ?_⟩⟩
    · show "TLS error: " ++ (TlsFault.badKeyPair side cert key fault).message = _
      rw [hmessage, String.append_assoc]
    · show "TLS error: " ++ (TlsFault.badKeyPair other cert key fault).message = _
      rw [hmessage, String.append_assoc]

/-- **The sides agree,** whatever the files are. -/
theorem assemble_onSide (side other : Side) (d : Directory) (cert key ca : String) :
    assemble other d cert key ca =
      ((assemble side d cert key ca).map (onSide other)).mapError (ConfigError.onSide other) := by
  cases houtcome : assemble side d cert key ca with
  | ok c => exact assemble_eq_ok.2 ((assemble_eq_ok.1 houtcome).onSide other)
  | error e => exact assemble_eq_error.2 ((assemble_eq_error.1 houtcome).onSide other)

theorem BuiltFrom.length_trustAnchors (h : BuiltFrom d cert key ca side c) :
    1 ≤ c.trustAnchors.length ∧ ∃ file, d.read ca = .ok file ∧
      c.trustAnchors.length = (certificateSections file).length := by
  obtain ⟨file, hfile, -, hanchors, hne⟩ := loadTrustAnchors_eq_ok.1 h.trustAnchors
  -- one trust anchor for each section: none is dropped and no two are merged
  have hlength := congrArg List.length hanchors
  rw [List.length_map, List.length_map] at hlength
  exact ⟨List.length_pos_iff.2 hne, file, hfile, hlength.symm⟩

/-! ## Settings -/

/-- What settings ask for is the same on both sides in this way. -/
theorem ofSettings_onSide (side other : Side) (d : Directory) (t : TlsSettings) :
    ofSettings (build other) d t =
      ((ofSettings (build side) d t).map (Option.map (onSide other))).mapError
        (ConfigError.onSide other) := by
  unfold ofSettings
  cases t.paths with
  -- without paths there is nothing to build on either side
  | none => rfl
  | some paths =>
    obtain ⟨cert, key, ca⟩ := paths
    show (build other d cert key ca).map some = _
    rw [build_eq_assemble, assemble_onSide side other, ← build_eq_assemble]
    show _ = (((build side d cert key ca).map some).map _).mapError _
    cases build side d cert key ca with
    | ok c => rfl
    | error e => rfl

/-- Once the server is built the check of the TLS settings succeeds. -/
theorem outcome_checkTls {s : Surroundings} {i : CommandLine.Invocation} {loaded : Settings}
    (hcommand : i.command = .checkTls)
    (hload : Settings.load s.directory i.config (Session.environment s i) = .ok loaded)
    (hserver : ofSettings (build .server) s.directory loaded.tls = .ok (some c)) :
    Session.outcome s i = .ok (s!"ok: {c.policy.name}, minimum {minProtocolVersion}, " ++
      s!"{c.trustAnchors.length} trust anchor(s)") := by
  -- the client is built from the same files as the server
  have hclient :
      ofSettings (build .client) s.directory loaded.tls = .ok (some (c.onSide .client)) := by
    rw [ofSettings_onSide .server .client, hserver]
    rfl
  have hbuilt : ∀ (which : Side) (c : Credentials),
      ofSettings (build which) s.directory loaded.tls = .ok (some c) →
        Session.side s loaded (build which) = .ok c := by
    intro which c h
    unfold Session.side
    rw [h]
    rfl
  unfold Session.outcome
  rw [hcommand]
  refine bind_eq_ok.2 ⟨loaded, mapError_eq_ok.2 hload, ?_⟩
  refine bind_eq_ok.2 ⟨c, hbuilt .server c hserver, ?_⟩
  exact bind_eq_ok.2 ⟨_, hbuilt .client _ hclient, rfl⟩

/-- **The builders of both sides agree,** whatever the files are. The client comes to the
credentials of the server with its own policy, or to the error of the server with its own name in
it, if the error names a side; its words are otherwise the same. There is a trust anchor for each
section of the file of trusted certificates, and at least one. The first of the files and the pair
that is defective decides on the error. The same holds of what settings ask for, and a check of the
TLS settings whose server is built succeeds. -/
theorem sides_agree (d : Directory) (cert key ca : String) :
    ((∃ c, server d cert key ca = .ok c) ↔ ∃ c, client d cert key ca = .ok c) ∧
    client d cert key ca =
      ((server d cert key ca).map (onSide .client)).mapError (ConfigError.onSide .client) ∧
    (∀ side c, build side d cert key ca = .ok c →
      1 ≤ c.trustAnchors.length ∧ ∃ file, d.read ca = .ok file ∧
        c.trustAnchors.length = (certificateSections file).length) ∧
    (∀ side e, build side d cert key ca = .error e ↔ Defective d cert key ca side e) ∧
    (∀ e, server d cert key ca = .error e →
      e.onSide .client = e ∨ ∃ words, ∀ yaml, e.message yaml = "TLS error: server" ++ words ∧
        (e.onSide .client).message yaml = "TLS error: client" ++ words) ∧
    (∀ t : TlsSettings, ofSettings client d t =
      ((ofSettings server d t).map (Option.map (onSide .client))).mapError
        (ConfigError.onSide .client)) ∧
    ∀ (s : Surroundings) (args : List String) (i : CommandLine.Invocation) (loaded : Settings)
      (c : Credentials), Session.Accepts s args i → i.command = .checkTls →
        Settings.load s.directory i.config (Session.environment s i) = .ok loaded →
        ofSettings server s.directory loaded.tls = .ok (some c) →
          (Session.run s args).exit = 0 ∧
            (Session.run s args).stdout = s!"ok: {c.policy.name}, minimum {minProtocolVersion}, " ++
              s!"{c.trustAnchors.length} trust anchor(s)" ++ "\n" := by
  -- both sides are assembled alike, and differ in the name of the side
  have hagree : client d cert key ca = ((server d cert key ca).map (onSide .client)).mapError
      (ConfigError.onSide .client) := by
    rw [server_eq_assemble, client_eq_assemble]
    exact assemble_onSide .server .client d cert key ca
  refine ⟨?_, hagree, ?_, ?_, ?_, ofSettings_onSide .server .client d, ?_⟩
  · rw [hagree]
    cases server d cert key ca with
    | ok c => exact ⟨fun _ => ⟨_, rfl⟩, fun _ => ⟨_, rfl⟩⟩
    | error e => exact ⟨nofun, nofun⟩
  · intro side c h
    rw [build_eq_assemble] at h
    exact (assemble_eq_ok.1 h).length_trustAnchors
  · intro side e
    rw [build_eq_assemble]
    exact assemble_eq_error
  · intro e h
    rw [server_eq_assemble] at h
    exact (assemble_eq_error.1 h).message_onSide .client
  · intro s args i loaded c hargs hcommand hload hserver
    have houtcome := outcome_checkTls hcommand hload hserver
    obtain ⟨logged, hrun, -⟩ := Session.run_eq_leave hargs
    rw [hrun, houtcome]
    exact ⟨rfl, rfl⟩

/-! ## A file of both -/

section Sample

open Der

/-- The base point of a curve: the public key for the number one. -/
def samplePoint : Bytes :=
  (Weierstrass.p256.pointBytes? (some (Weierstrass.p256.baseX, Weierstrass.p256.baseY))).getD []

/-- A private key: the number one. -/
def sampleKey : Bytes :=
  write .sequence (write .integer [1] ++ write .octetString (List.replicate 31 0 ++ [1]) ++
    write (.constructed 1) (write .bitString (0 :: samplePoint)))

/-- A certificate for its public key that says nothing else. -/
def sampleCertificate : Bytes :=
  let nothing := write .sequence []
  let body := write (.constructed 0) (write .integer [2]) ++ write .integer [1] ++ nothing ++
    nothing ++ nothing ++ nothing ++
    write .sequence (SigningKey.ecdsa SigningKey.p256Id samplePoint).publicKeyInfo
  write .sequence (write .sequence body ++ nothing ++ write .bitString [0])

/-- A section of a file. -/
def sampleSection (label : Pem.Label) (content : Bytes) : Bytes :=
  let words := Text.bytes label.text ++ Pem.dashes ++ [0x0A]
  Pem.startMark ++ words ++ Base64.standard.encode content ++ [0x0A] ++ Pem.endMark ++ words

/-- Surroundings with a file of the certificate and the key, which is all of the TLS settings. -/
def sample : Surroundings where
  directory := ⟨[("a.pem", sampleSection .certificate sampleCertificate ++
    sampleSection .ecPrivateKey sampleKey)], []⟩
  inherited := [("KEEL_JWT_SECRET", "key"), ("KEEL_TLS_CERT", "a.pem"), ("KEEL_TLS_KEY", "a.pem"),
    ("KEEL_TLS_CA", "a.pem")]
  now := .wrap 0
  random := ⟨0⟩
  yamlWords := fun _ => ""

/-- The settings in these surroundings. -/
def sampleSettings : Settings :=
  { Session.keyed with tls := ⟨some "a.pem", some "a.pem", some "a.pem"⟩ }

/-- Both sides are built from the file, and the check of the TLS settings says so. -/
theorem sides_agree_sample : ∃ c, server sample.directory "a.pem" "a.pem" "a.pem" = .ok c ∧
    client sample.directory "a.pem" "a.pem" "a.pem" = .ok (c.onSide .client) ∧
    (Session.run sample ["check-tls"]).stdout =
      "ok: RequireAndVerifyClientCert, minimum TLSv1_3, 1 trust anchor(s)\n" := by
  have hbuilt : (server sample.directory "a.pem" "a.pem" "a.pem").toOption.isSome = true := by
    decide +kernel
  obtain ⟨c, hc⟩ := Option.isSome_iff_exists.1 hbuilt
  have hserver := toOption_eq_some.1 hc
  obtain ⟨-, hclient, hanchors, -, -, -, hcheck⟩ :=
    sides_agree sample.directory "a.pem" "a.pem" "a.pem"
  rw [hserver] at hclient
  refine ⟨c, hserver, hclient, ?_⟩
  have hpolicy : c.policy = .requireAndVerifyClientCert := by
    rw [server_eq_assemble] at hserver
    exact (assemble_eq_ok.1 hserver).policy
  -- the file has one section with a certificate
  have hlength : c.trustAnchors.length = 1 := by
    obtain ⟨-, file, hfile, hlength⟩ := hanchors .server c hserver
    have hsections : (sample.directory.read "a.pem").map (fun f => (certificateSections f).length) =
        .ok 1 := toOption_eq_some.1 (by decide +kernel)
    rw [hfile] at hsections
    rw [hlength]
    exact Except.ok.inj hsections
  have hargs : Session.Accepts sample ["check-tls"] ⟨none, some "key", .checkTls⟩ :=
    toOption_eq_some.1 (by decide +kernel)
  have hload : Settings.load sample.directory none
      (Session.environment sample ⟨none, some "key", .checkTls⟩) = .ok sampleSettings :=
    toOption_eq_some.1 (by decide +kernel)
  have hsettings : ofSettings server sample.directory sampleSettings.tls = .ok (some c) := by
    show (server sample.directory "a.pem" "a.pem" "a.pem").map some = _
    rw [hserver]
    rfl
  rw [(hcheck sample _ _ sampleSettings c hargs rfl hload hsettings).2, hpolicy, hlength]
  decide +kernel

end Sample

end Credentials

end TenantAuth
