import TenantAuth.Proofs.Tls.Credentials
import TenantAuth.Proofs.Tls.Sections

/-!
# The material in files

What certificates and keys are loaded from a file is said of the sections as they are written, by
the words of their labels (`certificates`, `firstKey?`). Sections of other kinds between them change
nothing, and an illegible certificate takes all the others with it.
-/
namespace TenantAuth.Credentials

open Outcome
open Pem (Armor Frame Illegible Joins Label Part)

/-! ## By the words of a label -/

theorem ofText?_eq_some {words : Bytes} {l : Label} :
    Label.ofText? words = some l ↔ Text.bytes l.text = words := by
  constructor
  · intro h
    rw [Label.ofText?] at h
    have hfound := List.find?_some (p := fun l : Label => Text.bytes l.text = words) h
    exact of_decide_eq_true hfound
  · rintro rfl
    cases l <;> decide

/-- The words of the label of a certificate. -/
def certificateWords : Bytes := Text.bytes "CERTIFICATE"

/-- The form of key that the words of a label name. -/
def keyForm? (words : Bytes) : Option KeyForm :=
  if words = Text.bytes "PRIVATE KEY" then some .pkcs8
  else if words = Text.bytes "RSA PRIVATE KEY" then some .pkcs1
  else if words = Text.bytes "EC PRIVATE KEY" then some .sec1
  else none

/-- The certificate that a part is. -/
def certificate? : Part → Option Bytes
  | .line .. => none
  | .armored a => if a.label = certificateWords then some a.content else none

/-- The private key that a part is. -/
def privateKey? : Part → Option PrivateKey
  | .line .. => none
  | .armored a => (keyForm? a.label).map fun form => ⟨form, a.content⟩

/-- The certificates among parts, in their order. -/
def certificates (parts : List Part) : List Bytes := parts.filterMap certificate?

/-- The first private key among parts. -/
def firstKey? (parts : List Part) : Option PrivateKey := parts.findSome? privateKey?

theorem keyForm?_eq (words : Bytes) :
    keyForm? words = (Label.ofText? words).bind KeyForm.ofLabel? := by
  cases h : Label.ofText? words with
  | some l =>
    rw [← ofText?_eq_some.1 h]
    cases l <;> decide
  | none =>
    -- words that are no label are not those of a key either
    have hwords : ∀ l : Label, words ≠ Text.bytes l.text := by
      intro l hl
      rw [ofText?_eq_some.2 hl.symm] at h
      cases h
    have hpkcs8 : words ≠ Text.bytes "PRIVATE KEY" := hwords .privateKey
    have hpkcs1 : words ≠ Text.bytes "RSA PRIVATE KEY" := hwords .rsaPrivateKey
    have hsec1 : words ≠ Text.bytes "EC PRIVATE KEY" := hwords .ecPrivateKey
    rw [keyForm?, if_neg hpkcs8, if_neg hpkcs1, if_neg hsec1]
    rfl

theorem privateKey?_eq (part : Part) : privateKey? part = part.section?.bind keyOfSection? := by
  cases part with
  | line text plain => rfl
  | armored a =>
    rw [privateKey?, keyForm?_eq, Part.section?]
    cases Label.ofText? a.label <;> rfl

/-- The certificates are what the sections of certificates hold. -/
theorem certificates_eq (parts : List Part) : certificates parts =
    ((parts.filterMap Part.section?).filter (·.label = .certificate)).map Pem.Section.content := by
  induction parts with
  | nil => rfl
  | cons part rest ih =>
    rw [certificates] at ih ⊢
    cases part with
    | line text plain => exact ih
    | armored a =>
      rw [List.filterMap_cons, List.filterMap_cons, certificate?, Part.section?]
      by_cases hwords : a.label = certificateWords
      · have hlabel : Label.ofText? a.label = some .certificate := ofText?_eq_some.2 hwords.symm
        rw [if_pos hwords, hlabel]
        simp [ih]
      · rw [if_neg hwords]
        cases hlabel : Label.ofText? a.label with
        | none => exact ih
        | some l =>
          -- a label has one text only, so another text is another label
          have hl : l ≠ .certificate := by
            rintro rfl
            exact hwords (ofText?_eq_some.1 hlabel).symm
          simp [ih, hl]

/-- The first key of a file is that of the first section that has one. -/
theorem firstKey?_eq (parts : List Part) :
    firstKey? parts = (parts.filterMap Part.section?).findSome? keyOfSection? := by
  induction parts with
  | nil => rfl
  | cons part rest ih =>
    rw [firstKey?] at ih ⊢
    rw [List.findSome?_cons, List.filterMap_cons, privateKey?_eq, ih]
    cases part.section? with
    | none => rfl
    | some s => rw [List.findSome?_cons]; rfl

/-! ## Loading -/

variable {d : Directory} {path : String} {file : Bytes} {parts : List Part}

theorem readFile_of_read (hfile : d.read path = .ok file) : readFile d path = .ok file :=
  mapError_eq_ok.2 hfile

/-- What loading certificates comes to where sections are read without a fault. -/
theorem loadCertificates_of_read {sections : List Pem.Section} (hfile : d.read path = .ok file)
    (hread : Pem.read file = (sections, none)) :
    loadCertificates d path =
      let certs := (sections.filter (·.label = .certificate)).map Pem.Section.content
      if certs = [] then .error (.tls (.noCertificates path)) else .ok certs := by
  unfold loadCertificates
  rw [readFile_of_read hfile]
  simp only [ok_bind, hread, List.isEmpty_iff]
  rfl

theorem loadCertificates_of_fault {sections : List Pem.Section} {fault : Pem.Fault}
    (hfile : d.read path = .ok file) (hread : Pem.read file = (sections, some fault)) :
    loadCertificates d path = .error (.tls (.badPem path fault)) := by
  unfold loadCertificates
  rw [readFile_of_read hfile]
  simp only [ok_bind, hread]
  rfl

theorem loadPrivateKey_of_read {sections : List Pem.Section} {fault : Option Pem.Fault}
    (hfile : d.read path = .ok file) (hread : Pem.read file = (sections, fault)) :
    loadPrivateKey d path = match sections.findSome? keyOfSection? with
      | some k => .ok k
      | none => .error (.tls (.noPrivateKey path fault)) := by
  unfold loadPrivateKey
  rw [readFile_of_read hfile]
  simp only [ok_bind, hread]
  rfl

/-- **Neither lost nor invented.** Of a file that is made of sections with any labels and of lines
between them, loading gives the certificates in their order, all of them, and the first private key
with the form that its label names; without any it fails. Where the body of a certificate is
illegible, loading certificates fails, whatever stands before it and after it. -/
theorem loads_what_is_written (hfile : d.read path = .ok file) :
    (∀ parts, Joins (parts.flatMap Part.lines) file →
      (loadCertificates d path =
        if certificates parts = [] then .error (.tls (.noCertificates path))
        else .ok (certificates parts)) ∧
      loadPrivateKey d path = match firstKey? parts with
        | some k => .ok k
        | none => .error (.tls (.noPrivateKey path none))) ∧
    ∀ (parts : List Part) (f : Frame) (rest : List Bytes), f.label = certificateWords → f.Delimits →
      Illegible f.body.flatten → Joins (parts.flatMap Part.lines ++ (f.lines ++ rest)) file →
        ∃ fault, loadCertificates d path = .error (.tls (.badPem path (.body fault))) := by
  constructor
  · intro parts hjoins
    have hread := Pem.read_parts hjoins
    constructor
    · rw [loadCertificates_of_read hfile hread, certificates_eq]
    · rw [loadPrivateKey_of_read hfile hread, firstKey?_eq]
  · intro parts f rest hlabel hf hbody hjoins
    have hknown : Label.ofText? f.label = some .certificate := ofText?_eq_some.2 hlabel.symm
    obtain ⟨fault, hread⟩ := Pem.read_of_illegible hf hknown hbody hjoins
    exact ⟨fault, loadCertificates_of_fault hfile hread⟩

section Bundle

/-- A section whose body is one line. -/
def armored (words : String) (h : Pem.EndsLabel (Text.bytes words)) (content : Bytes) : Armor where
  label := Text.bytes words
  body := [Pem.padded content]
  opening := 0
  closing := 0
  content := content
  endsLabel := h
  encodes := by
    rw [List.flatten_singleton, List.filter_eq_self]
    intro b hb
    rw [(Pem.of_mem_padded hb).2]
    rfl

/-- A certificate, a key, and another certificate, with a remark and the parameters of the key
between them. -/
def bundle : List Part :=
  [.armored (armored "CERTIFICATE" (by unfold Pem.EndsLabel; decide +kernel) [1, 2, 3, 4]),
    .line (Text.bytes "the key:") (by decide +kernel),
    .armored (armored "EC PARAMETERS" (by unfold Pem.EndsLabel; decide +kernel) [6]),
    .armored (armored "EC PRIVATE KEY" (by unfold Pem.EndsLabel; decide +kernel) [7, 8]),
    .armored (armored "CERTIFICATE" (by unfold Pem.EndsLabel; decide +kernel) [5])]

/-- A certificate with a sign that is not of the alphabet. -/
def damaged : Frame := ⟨certificateWords, [Text.bytes "AQ@D"], 0, 0⟩

theorem illegible_damaged : Illegible damaged.body.flatten := by
  rintro ⟨ss, content, hspells, -⟩
  have hnone : none ∈ ss.map some := by
    rw [← hspells]
    decide +kernel
  obtain ⟨s, -, hs⟩ := List.mem_map.1 hnone
  cases hs

/-- The bundle as it is, and with the damaged certificate after it. -/
def shelf : Directory where
  files :=
    [("whole.pem", List.intercalate [0x0D, 0x0A] (bundle.flatMap Part.lines)),
      ("damaged.pem", List.intercalate [0x0A] (bundle.flatMap Part.lines ++ (damaged.lines ++ [])))]
  directories := []

/-- Both certificates and the key are loaded from the bundle, and no certificate where one is
damaged. -/
theorem loads_what_is_written_bundle :
    loadCertificates shelf "whole.pem" = .ok [[1, 2, 3, 4], [5]] ∧
    loadPrivateKey shelf "whole.pem" = .ok ⟨.sec1, [7, 8]⟩ ∧
    ∃ fault, loadCertificates shelf "damaged.pem"
      = .error (.tls (.badPem "damaged.pem" (.body fault))) := by
  have hunbroken :
      ∀ line ∈ bundle.flatMap Part.lines ++ (damaged.lines ++ []), Pem.Unbroken line := by
    unfold Pem.Unbroken
    decide +kernel
  have hwhole : Joins (bundle.flatMap Part.lines)
      (List.intercalate [0x0D, 0x0A] (bundle.flatMap Part.lines)) :=
    Pem.joins_intercalate (by decide) (by decide +kernel)
      fun line hline => hunbroken line (List.mem_append_left _ hline)
  have hdamaged : Joins (bundle.flatMap Part.lines ++ (damaged.lines ++ []))
      (List.intercalate [0x0A] (bundle.flatMap Part.lines ++ (damaged.lines ++ []))) :=
    Pem.joins_intercalate (by decide) (by decide +kernel) hunbroken
  have hdelimits : damaged.Delimits := by
    constructor
    · unfold Pem.EndsLabel
      decide +kernel
    · intro line hline
      rw [List.mem_singleton.1 hline]
      exact Pem.plain_of_not_mem (by decide +kernel)
  -- line breaks have two bytes in the one file and a single one in the other
  have hread :
      shelf.read "whole.pem" = .ok (List.intercalate [0x0D, 0x0A] (bundle.flatMap Part.lines)) :=
    toOption_eq_some.1 (by decide +kernel)
  have hread' : shelf.read "damaged.pem" = .ok (List.intercalate [0x0A]
      (bundle.flatMap Part.lines ++ (damaged.lines ++ []))) :=
    toOption_eq_some.1 (by decide +kernel)
  obtain ⟨hcerts, hkey⟩ := (loads_what_is_written hread).1 bundle hwhole
  refine ⟨?_, ?_, ?_⟩
  · have hbundle : certificates bundle = [[1, 2, 3, 4], [5]] := by decide +kernel
    rw [hcerts, hbundle]
    rfl
  · have hfirst : firstKey? bundle = some ⟨.sec1, [7, 8]⟩ := by decide +kernel
    rw [hkey, hfirst]
  · exact (loads_what_is_written hread').2 bundle damaged [] rfl hdelimits illegible_damaged
      hdamaged

end Bundle

end TenantAuth.Credentials
