import TenantAuth.Proofs.Outcome
import TenantAuth.Proofs.Settings.Fields

/-!
# The settings file

Why a file does not give settings (`ofFile?_eq_error`), and what it gives each field otherwise
(`fileValue_of_ofFile?`).
-/
namespace TenantAuth.Settings

open Outcome
open Yaml (NodeReader)

variable {d : Directory} {file : Option String} {base : Settings} {f : Field}

/-- Why the settings file does not give settings: it cannot be read, or it says something that is no
document of settings. -/
inductive FileFails (d : Directory) : Option String → ConfigError → Prop
  | unread {p : String} {fault : FileFault} (h : d.readText p = .error fault) :
      FileFails d (some p) (.read p fault)
  | unparsed {p source : String} (hread : d.readText p = .ok source)
      (hfilled : Text.trim source ≠ "") (hyaml : ofYaml source = none) :
      FileFails d (some p) (.parse p ⟨source⟩)

/-- The document in the settings file; a blank one says nothing, and neither does none. -/
def document? (d : Directory) (file : Option String) : Option Yaml.Document := do
  let source ← (d.readText (← file)).toOption
  if Text.trim source = "" then none else (Yaml.Document.parse source).toOption

/-- What the settings file gives at a place, the default if it has nothing there. -/
def fileValue {α : Type} (d : Directory) (file : Option String) (r : NodeReader α) (fallback : α)
    (place : List String) : Option α :=
  match document? d file with
  | none => some fallback
  | some doc => doc.readOr r fallback (doc.at? doc.root place)

/-- The providers are those that the settings file gives; without a document there are none. -/
def FileProviders (d : Directory) (file : Option String) (ps : List (String × OAuthProvider)) :
    Prop :=
  match document? d file with
  | none => ps = []
  | some doc => ProvidersOf doc doc.root ps

/-- A settings file gives one list of providers. -/
theorem FileProviders.unique {ps ps' : List (String × OAuthProvider)} (h : FileProviders d file ps)
    (h' : FileProviders d file ps') : ps = ps' := by
  unfold FileProviders at h h'
  cases hdoc : document? d file with
  | none =>
    rw [hdoc] at h h'
    exact h.trans h'.symm
  | some doc =>
    rw [hdoc] at h h'
    exact h.unique h'

/-- The settings that a file gives, those of no file being the defaults. -/
def ofFile? (d : Directory) : Option String → Except ConfigError Settings
  | none => .ok .default
  | some p => ofFile d p

/-- Settings are not had of a file just when the file fails. -/
theorem ofFile?_eq_error {e : ConfigError} : ofFile? d file = .error e ↔ FileFails d file e := by
  cases file with
  | none => exact ⟨nofun, nofun⟩
  | some p =>
    -- a file that cannot be read, or one that is not blank and is no document of settings
    unfold ofFile? ofFile
    rw [bind_eq_error, mapError_eq_error]
    constructor
    · rintro (⟨fault, hread, rfl⟩ | ⟨source, hread, h⟩)
      · exact .unread hread
      · rw [mapError_eq_ok] at hread
        split at h
        · cases h
        · next hfilled =>
          cases hyaml : ofYaml source with
          | some s =>
            rw [hyaml] at h
            cases h
          | none =>
            rw [hyaml] at h
            cases h
            exact .unparsed hread (fun hblank => hfilled (String.isEmpty_iff.2 hblank)) hyaml
    · intro h
      cases h with
      | unread hread => exact .inl ⟨_, hread, rfl⟩
      | unparsed hread hfilled hyaml =>
        refine .inr ⟨_, mapError_eq_ok.2 hread, ?_⟩
        rw [if_neg fun hblank => hfilled (String.isEmpty_iff.1 hblank), hyaml]
        rfl

/-- Settings of a file are those of its document, or the defaults where it has none. -/
theorem of_document? (h : ofFile? d file = .ok base) :
    (document? d file = none ∧ base = .default) ∨
      ∃ doc, document? d file = some doc ∧ ofNode doc doc.root = some base := by
  cases file with
  | none =>
    cases h
    exact .inl ⟨rfl, rfl⟩
  | some p =>
    unfold ofFile? ofFile at h
    obtain ⟨source, hread, h⟩ := bind_eq_ok.1 h
    rw [mapError_eq_ok] at hread
    have hdocument : document? d (some p) =
        if Text.trim source = "" then none else (Yaml.Document.parse source).toOption := by
      show (d.readText p).toOption.bind _ = _
      rw [hread]
      rfl
    rw [hdocument]
    split at h
    -- a blank file counts as one that says nothing
    · next hblank =>
      cases h
      exact .inl ⟨if_pos (String.isEmpty_iff.1 hblank), rfl⟩
    · next hfilled =>
      rw [if_neg fun hblank => hfilled (String.isEmpty_iff.2 hblank)]
      cases hyaml : ofYaml source with
      | none =>
        rw [hyaml] at h
        cases h
      | some s =>
        rw [hyaml] at h
        cases h
        unfold ofYaml at hyaml
        cases hparse : Yaml.Document.parse source with
        | error fault =>
          rw [hparse] at hyaml
          cases hyaml
        | ok doc =>
          rw [hparse] at hyaml
          exact .inr ⟨doc, rfl, hyaml⟩

/-- A file that is read gives each field what it has at its place, or else the default. -/
theorem fileValue_of_ofFile? (h : ofFile? d file = .ok base) :
    (∀ f ∈ fields, fileValue d file f.reader f.fallback f.place = some (f.get base)) ∧
      FileProviders d file base.oauth := by
  unfold fileValue FileProviders
  rcases of_document? h with ⟨hnone, rfl⟩ | ⟨doc, hdoc, hnode⟩
  · rw [hnone]
    exact ⟨fun f hf => congrArg some (get_default hf).symm, rfl⟩
  · rw [hdoc]
    exact ofNode_fields hnode

end TenantAuth.Settings
