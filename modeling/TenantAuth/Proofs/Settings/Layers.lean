import TenantAuth.Proofs.Settings.File
import TenantAuth.Proofs.Settings.Override

/-!
# Settings in layers

Over the file, or the defaults where there is none, each field is replaced by its own variable. So
the layers make up at most one settings (`Merged.unique`), and loading gives just these where they
are valid (`load_eq_ok`); where it fails, the file counts before the variables and these before what
is wrong with the layers as a whole (`load_eq_error`).
-/
namespace TenantAuth.Settings

open Outcome

variable {d : Directory} {path file : Option String} {env env' : Environment} {base s s' : Settings}
  {f : Field}

/-! ## Layers -/

/-- The field has the value of its variable where that is set to something, and else what the file
gives. -/
def Field.Takes (f : Field) (d : Directory) (file : Option String) (env : Environment)
    (s : Settings) : Prop :=
  match env.value? f.variableName with
  | some value => f.parse value = .ok (f.get s)
  | none => fileValue d file f.reader f.fallback f.place = some (f.get s)

/-- The settings that the layers make up before they are validated. -/
def Merged (d : Directory) (file : Option String) (env : Environment) (s : Settings) : Prop :=
  (∀ f ∈ fields, f.Takes d file env s) ∧ FileProviders d file s.oauth

/-- A field depends on its own variable and on the file. -/
theorem Field.Takes.get_eq (h : f.Takes d file env s) (h' : f.Takes d file env' s')
    (hsame : env.value? f.variableName = env'.value? f.variableName) : f.get s = f.get s' := by
  unfold Field.Takes at h h'
  rw [← hsame] at h'
  cases hvalue : env.value? f.variableName with
  | some value =>
    rw [hvalue] at h h'
    exact Except.ok.inj (h.symm.trans h')
  | none =>
    rw [hvalue] at h h'
    exact Option.some.inj (h.symm.trans h')

/-- The layers make up one record of settings. -/
theorem Merged.unique (h : Merged d file env s) (h' : Merged d file env s') : s = s' := by
  exact ext_fields (fun f hf => (h.1 f hf).get_eq (h'.1 f hf) rfl) (h.2.unique h'.2)

/-- The variables are looked at one by one, over what the file gives. -/
theorem layered_eq_bind : layered d path env =
    ofFile? d (filePath path env) >>= Variable.all.foldlM (Variable.override env) := by
  unfold layered
  cases filePath path env <;> rfl

/-- A file that is read and variables that are understood make up settings. -/
theorem layered_of_firstFault_eq_none (hbase : ofFile? d (filePath path env) = .ok base)
    (hfault : firstFault env fields = none) :
    ∃ s, layered d path env = .ok s ∧ Merged d (filePath path env) env s := by
  obtain ⟨hfields, hproviders⟩ := fileValue_of_ofFile? hbase
  obtain ⟨s, hrun, hreplaced, hunchanged⟩ :=
    foldlM_override forall₂_sets nodup_variableNames (List.Subset.refl _) hfault base
  refine ⟨s, ?_, fun f hf => ?_, ?_⟩
  · rw [layered_eq_bind, hbase]
    exact hrun
  · have hf' := hreplaced f hf
    unfold Field.Replaced at hf'
    unfold Field.Takes
    -- a field that has no variable keeps the value of the file
    cases hvalue : env.value? f.variableName with
    | some value =>
      rw [hvalue] at hf'
      exact hf'
    | none =>
      rw [hvalue] at hf'
      exact (hfields f hf).trans (congrArg some hf'.symm)
  · rw [hunchanged.2]
    exact hproviders

/-- Where the layers make up settings every variable was understood. -/
theorem firstFault_eq_none_of_merged (h : Merged d file env s) : firstFault env fields = none := by
  refine List.findSome?_eq_none_iff.2 fun f hf => ?_
  have hf' := h.1 f hf
  unfold Field.Takes at hf'
  unfold Field.fault?
  cases hvalue : env.value? f.variableName with
  | some value =>
    rw [hvalue] at hf'
    dsimp only at hf' ⊢
    rw [hf']
  | none => rfl

/-- The first variable that is not understood is what loading fails for. -/
theorem layered_of_firstFault (hbase : ofFile? d (filePath path env) = .ok base)
    {fault : ConfigFault} (hfault : firstFault env fields = some fault) :
    layered d path env = .error (.invalid fault) := by
  rw [layered_eq_bind, hbase]
  exact foldlM_of_firstFault forall₂_sets hfault base

/-- Layered settings are those that the layers make up. -/
theorem layered_eq_ok : layered d path env = .ok s ↔
    (¬ ∃ e, FileFails d (filePath path env) e) ∧ Merged d (filePath path env) env s := by
  constructor
  · intro h
    -- the file comes first, and then the first variable at fault
    cases hbase : ofFile? d (filePath path env) with
    | error e =>
      rw [layered_eq_bind, hbase] at h
      cases h
    | ok base =>
      refine ⟨fun ⟨e, he⟩ => ?_, ?_⟩
      · rw [ofFile?_eq_error.2 he] at hbase
        cases hbase
      · cases hfault : firstFault env fields with
        | some fault =>
          rw [layered_of_firstFault hbase hfault] at h
          cases h
        | none =>
          obtain ⟨s', hrun, hmerged⟩ := layered_of_firstFault_eq_none hbase hfault
          rw [hrun] at h
          cases h
          exact hmerged
  · rintro ⟨hreads, hmerged⟩
    cases hbase : ofFile? d (filePath path env) with
    | error e => exact absurd ⟨e, ofFile?_eq_error.1 hbase⟩ hreads
    | ok base =>
      obtain ⟨s', hrun, hmerged'⟩ :=
        layered_of_firstFault_eq_none hbase (firstFault_eq_none_of_merged hmerged)
      rw [hrun, hmerged'.unique hmerged]

/-- They fail for the file first, and then for the first variable that is not understood. -/
theorem layered_eq_error {e : ConfigError} : layered d path env = .error e ↔
    FileFails d (filePath path env) e ∨ (¬ ∃ e, FileFails d (filePath path env) e) ∧
      ∃ fault, firstFault env fields = some fault ∧ e = .invalid fault := by
  cases hbase : ofFile? d (filePath path env) with
  | error e' =>
    have hfails := ofFile?_eq_error.1 hbase
    rw [layered_eq_bind, hbase, ← ofFile?_eq_error, hbase, error_bind]
    refine ⟨.inl, ?_⟩
    rintro (h | ⟨hreads, -⟩)
    · exact h
    · exact absurd ⟨e', hfails⟩ hreads
  | ok base =>
    -- the file was read, so the error is that of a variable
    have hreads : ¬ ∃ e, FileFails d (filePath path env) e := by
      rintro ⟨e', he'⟩
      rw [ofFile?_eq_error.2 he'] at hbase
      cases hbase
    constructor
    · intro h
      refine .inr ⟨hreads, ?_⟩
      cases hfault : firstFault env fields with
      | none =>
        obtain ⟨s, hrun, -⟩ := layered_of_firstFault_eq_none hbase hfault
        rw [hrun] at h
        cases h
      | some fault =>
        rw [layered_of_firstFault hbase hfault] at h
        exact ⟨fault, rfl, (Except.error.inj h).symm⟩
    · rintro (he | ⟨-, fault, hfault, rfl⟩)
      · exact absurd ⟨e, he⟩ hreads
      · exact layered_of_firstFault hbase hfault

/-! ## Loading -/

/-- Loaded settings are layered, and then validated. -/
theorem load_eq_bind : load d path env = layered d path env >>= fun s =>
    match s.validate with
    | .ok _ => .ok s
    | .error defect => .error (.invalid (.settings defect)) := by
  rfl

/-- **Loading gives the settings that the layers make up, if they are valid.** -/
theorem load_eq_ok : load d path env = .ok s ↔ (¬ ∃ e, FileFails d (filePath path env) e) ∧
    Merged d (filePath path env) env s ∧ s.validate = .ok () := by
  rw [load_eq_bind, bind_eq_ok, ← and_assoc, ← layered_eq_ok]
  constructor
  · rintro ⟨s', hlayered, h⟩
    -- settings are loaded if they pass validation, and are not changed by it
    split at h
    · next hvalid =>
      cases h
      exact ⟨hlayered, hvalid⟩
    · cases h
  · rintro ⟨hlayered, hvalid⟩
    refine ⟨s, hlayered, ?_⟩
    rw [hvalid]

/-- Loading fails for the file, for a variable, or for what the layers make up. -/
theorem load_eq_error {e : ConfigError} : load d path env = .error e ↔
    FileFails d (filePath path env) e ∨ (¬ ∃ e, FileFails d (filePath path env) e) ∧
      ((∃ fault, firstFault env fields = some fault ∧ e = .invalid fault) ∨
        ∃ s defect, Merged d (filePath path env) env s ∧ s.validate = .error defect ∧
          e = .invalid (.settings defect)) := by
  rw [load_eq_bind, bind_eq_error, layered_eq_error, and_or_left, or_assoc]
  refine or_congr_right (or_congr_right ⟨?_, ?_⟩)
  · rintro ⟨s, hlayered, h⟩
    obtain ⟨hreads, hmerged⟩ := layered_eq_ok.1 hlayered
    split at h
    · cases h
    · next defect hdefect => exact ⟨hreads, s, defect, hmerged, hdefect, (Except.error.inj h).symm⟩
  · rintro ⟨hreads, s, defect, hmerged, hdefect, rfl⟩
    refine ⟨s, layered_eq_ok.2 ⟨hreads, hmerged⟩, ?_⟩
    rw [hdefect]

/-- Leaving out the empty variables once is enough. -/
theorem value?_value? (env : Environment) (name : String) :
    Environment.value? env.value? name = env.value? name := by
  unfold Environment.value?
  rw [Option.filter_filter]
  simp

/-- The settings file and the variables that are set to something are all that matters. -/
theorem load_congr {path' : Option String} (hfile : filePath path env = filePath path' env')
    (h : ∀ name, env.value? name = env'.value? name) : load d path env = load d path' env' := by
  have hoverride : Variable.override env = Variable.override env' := by
    funext s v
    unfold Variable.override
    rw [h]
  rw [load_eq_bind, load_eq_bind, layered_eq_bind, layered_eq_bind, hfile, hoverride]

/-- A file with a lifetime that is no use, and with a provider of which little is said. -/
def shortLived : Directory :=
  ⟨[("keel.yaml", Text.bytes ("auth:\n  jwt_secret: key\n  access_ttl_secs: 0\n" ++
    "oauth:\n  github:\n    client_id: abc\n"))], []⟩

/-- Settings of which only the secret, a lifetime and the provider are said. -/
def lasting (access : Instant) : Settings :=
  { Settings.default with
    auth := { AuthSettings.default with jwtSecret := "key", accessTtlSecs := access }
    oauth := [("github", ⟨"abc", "", ""⟩)] }

end TenantAuth.Settings
