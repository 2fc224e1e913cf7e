import TenantAuth.Log.Start
import TenantAuth.Proofs.Log.Directive
import TenantAuth.Proofs.Settings.Fitness

/-!
# Starting the log of validated settings

Validation asks of the level only that it is not blank (`validate_of_level`). The log starts just
when each part of the level that is not empty is a directive (`LogFilter.exists_ofText_iff`), and so
there are settings that are passed and do not start.
-/
namespace TenantAuth

open Outcome

namespace LogFilter

variable {level : String} {fault : DirectiveFault}

/-- The parts of a level that say something. -/
def directives (level : String) : List String := (Text.parts ',' level).filter (!·.isEmpty)

/-- Each of them is a directive. -/
def Legible (level : String) : Prop :=
  ∀ part ∈ directives level, LogDirective.Legible (Text.bytes part) (Text.trim part).toList

/-- A filter is made of a text just when each part of the text is legible. -/
theorem exists_ofText_iff : (∃ f, ofText level = .ok f) ↔ Legible level := by
  -- a filter is read part by part, and empty parts are left out
  have hparts : (∃ ds, (directives level).mapM LogDirective.ofText = .ok ds) ↔ Legible level := by
    rw [exists_mapM_eq_ok]
    exact forall₂_congr fun part _ => LogDirective.exists_ofText_iff
  rw [← hparts]
  show (∃ f, ((directives level).mapM LogDirective.ofText >>= fun ds => pure (ofDirectives ds)) =
    .ok f) ↔ _
  simp only [bind_eq_ok, pure_eq]
  constructor
  · rintro ⟨f, ds, hds, -⟩
    exact ⟨ds, hds⟩
  · rintro ⟨ds, hds⟩
    exact ⟨_, ds, hds, rfl⟩

/-- The first part that is no directive decides on the fault. -/
theorem ofText_eq_error : ofText level = .error fault ↔
    ∃ before part after, directives level = before ++ part :: after ∧
      (∀ p ∈ before, ∃ d, LogDirective.ofText p = .ok d) ∧
        LogDirective.ofText part = .error fault := by
  rw [← mapM_eq_error]
  show ((directives level).mapM LogDirective.ofText >>= fun ds => pure (ofDirectives ds)) = _ ↔ _
  rw [bind_eq_error]
  constructor
  · rintro (h | ⟨ds, -, h⟩)
    · exact h
    · cases h
  · exact .inl

/-- Without an override the level of the settings is read. -/
theorem ofSettings_none (s : LogSettings) :
    ofSettings none s = (ofText s.level).mapError fun f => .invalid (.logLevel s.level f) := rfl

end LogFilter

/-- In a fresh process the log starts if there is a filter for it. -/
theorem ProcessLog.start_fresh_eq_ok {override : Option String} {s : LogSettings} :
    (fresh.start override s).1 = .ok () ↔ ∃ f, LogFilter.ofSettings override s = .ok f := by
  unfold start fresh
  cases LogFilter.ofSettings override s with
  | error e => exact ⟨nofun, nofun⟩
  | ok f => exact ⟨fun _ => ⟨f, rfl⟩, fun _ => rfl⟩

namespace Settings

/-- Validation does not look at a level that is not blank. -/
theorem validate_of_level {s : Settings} (hvalid : s.validate = .ok ()) {level : String}
    (hlevel : Text.trim level ≠ "") : validate { s with log.level := level } = .ok () := by
  obtain ⟨hauth, htls, -⟩ := validate_eq_ok.1 hvalid
  exact validate_eq_ok.2 ⟨hauth, htls, hlevel⟩

/-- **Which validated settings start the log.** Without an override the log starts just when each
part of the level is a directive; otherwise the first part that is none is what the error is about,
or the panic. Validation takes no part in this: whatever level is not blank passes it. -/
theorem log_of_validated_settings {s : Settings} (hvalid : s.validate = .ok ()) :
    ((∃ f, LogFilter.ofSettings none s.log = .ok f) ↔ LogFilter.Legible s.log.level) ∧
    ((ProcessLog.fresh.start none s.log).1 = .ok () ↔ LogFilter.Legible s.log.level) ∧
    (∀ e, LogFilter.ofSettings none s.log = .error e ↔
      ∃ before part after fault, LogFilter.directives s.log.level = before ++ part :: after ∧
        (∀ p ∈ before, ∃ d, LogDirective.ofText p = .ok d) ∧
        LogDirective.ofText part = .error fault ∧ e = .invalid (.logLevel s.log.level fault)) ∧
    ∀ level, Text.trim level ≠ "" → validate { s with log.level := level } = .ok () := by
  -- the error is put into other words, which does not change when there is one
  have hfilter :
      (∃ f, LogFilter.ofSettings none s.log = .ok f) ↔ LogFilter.Legible s.log.level := by
    rw [LogFilter.ofSettings_none, ← LogFilter.exists_ofText_iff]
    exact exists_congr fun f => mapError_eq_ok
  refine ⟨hfilter, ProcessLog.start_fresh_eq_ok.trans hfilter, fun e => ?_, fun level hlevel =>
    validate_of_level hvalid hlevel⟩
  rw [LogFilter.ofSettings_none, mapError_eq_error]
  constructor
  · rintro ⟨fault, hfault, rfl⟩
    obtain ⟨before, part, after, hparts, hbefore, hpart⟩ := LogFilter.ofText_eq_error.1 hfault
    exact ⟨before, part, after, fault, hparts, hbefore, hpart, rfl⟩
  · rintro ⟨before, part, after, fault, hparts, hbefore, hpart, rfl⟩
    exact ⟨fault, LogFilter.ofText_eq_error.2 ⟨before, part, after, hparts, hbefore, hpart⟩, rfl⟩

/-- Settings with a secret and a level. -/
def leveled (level : String) : Settings :=
  { Settings.default with auth.jwtSecret := "key", log.level := level }

/-- Any level that is not blank passes the validation. -/
theorem validate_leveled {level : String} (hlevel : Text.trim level ≠ "") :
    (leveled level).validate = .ok () := by
  have hfit : (leveled "info").auth.Fit := by
    constructor
    all_goals decide
  have hdefault : (leveled "info").validate = .ok () :=
    validate_eq_ok.2 ⟨hfit, .inl ⟨rfl, rfl, rfl⟩, by decide +kernel⟩
  exact validate_of_level hdefault hlevel

/-- The log starts with a level whose parts are directives. -/
theorem log_of_validated_settings_leveled :
    (ProcessLog.fresh.start none (leveled "info,keel_api=debug").log).1 = .ok () := by
  have hvalid : (leveled "info,keel_api=debug").validate = .ok () :=
    validate_leveled (by decide +kernel)
  obtain ⟨hfilter, hstart, -⟩ := log_of_validated_settings hvalid
  refine hstart.2 (hfilter.1 ?_)
  have hsome : (LogFilter.ofSettings none (leveled "info,keel_api=debug").log).toOption.isSome =
      true := by decide +kernel
  obtain ⟨f, hf⟩ := Option.isSome_iff_exists.1 hsome
  exact ⟨f, toOption_eq_some.1 hf⟩

/-- A level that is not one passes validation, and the log does not start. -/
theorem validated_settings_do_not_start :
    (leveled "info,keel_api=verbose").validate = .ok () ∧
    LogFilter.ofSettings none (leveled "info,keel_api=verbose").log =
      .error (.invalid (.logLevel "info,keel_api=verbose" .unknownLevel)) := by
  refine ⟨validate_leveled (by decide +kernel), ?_⟩
  -- the first part is fine, and the second one names no level
  have hparts :
      LogFilter.directives "info,keel_api=verbose" = ["info"] ++ ["keel_api=verbose"] := by
    decide +kernel
  have hinfo : (LogDirective.ofText "info").toOption.isSome = true := by decide +kernel
  obtain ⟨d, hd⟩ := Option.isSome_iff_exists.1 hinfo
  have hverbose : LogDirective.ofText "keel_api=verbose" = .error .unknownLevel := by
    rfl
  have hfault : LogFilter.ofText "info,keel_api=verbose" = .error .unknownLevel := by
    refine LogFilter.ofText_eq_error.2 ⟨_, _, _, hparts, fun p hp => ?_, hverbose⟩
    rw [List.mem_singleton.1 hp]
    exact ⟨d, toOption_eq_some.1 hd⟩
  rw [LogFilter.ofSettings_none]
  exact mapError_eq_error.2 ⟨_, hfault, rfl⟩

end Settings

end TenantAuth
