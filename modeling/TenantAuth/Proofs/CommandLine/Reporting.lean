import TenantAuth.Proofs.CommandLine.Outcome

/-!
# What a failing run says

The error of a failing run is an event like others, and the filter for the log decides whether it is
shown (`shows_failure_iff`, `output_append_failure`). It is where no filter is asked for, or none
that is understood (`hears_of_not_understood`); a filter that names other parts of the program only
leaves the run without a word.
-/
namespace TenantAuth.Session

open Outcome

variable {s : Surroundings} {i : CommandLine.Invocation} {args : List String} {f : ConsoleFilter}
  {yaml : YamlWords} {e : CommandError}

/-- The line for an error: its words in red. -/
def errorLine (words : String) : String :=
  "\x1b[38;5;196mERROR\x1b[0m " ++ ("\x1b[38;5;196m" ++ words ++ "\x1b[0m") ++ "\n"

theorem line_failure (yaml : YamlWords) (e : CommandError) :
    (failure yaml e).line = errorLine (e.message yaml) := by
  -- an error is painted in its colour, label and words each for itself
  have hlabel : LogEvent.paint .error "ERROR" ++ " " = "\x1b[38;5;196mERROR\x1b[0m " := by
    decide +kernel
  have hcolour : "\x1b[38;5;" ++ toString 196 ++ "m" = "\x1b[38;5;196m" := by
    decide +kernel
  have hmessage : LogEvent.paint .error (e.message yaml) =
      "\x1b[38;5;196m" ++ e.message yaml ++ "\x1b[0m" := by
    rw [← hcolour]
    rfl
  show LogEvent.paint .error "ERROR" ++ " " ++ LogEvent.paint .error (e.message yaml) ++ "\n" = _
  rw [hlabel, hmessage]
  rfl

/-- Errors of the program with these words are shown: the first rule whose name the name of the
program begins with does not switch them off, and the pattern, if there is one, occurs in the
words. -/
def Hears (f : ConsoleFilter) (words : String) : Prop :=
  (∃ rule, f.rules.find? (fun r => "keel".startsWith r.1) = some rule ∧ rule.2 ≠ .off) ∧
    ∀ p, f.pattern = some p → p.isMatch words = true

/-- The filter of the console decides on the error of a run by the name of the program and by its
words. -/
theorem shows_failure_iff : f.shows (failure yaml e) = true ↔ Hears f (e.message yaml) := by
  have hpattern : f.pattern.all (·.isMatch (e.message yaml)) = true ↔
      ∀ p, f.pattern = some p → p.isMatch (e.message yaml) = true := by
    cases f.pattern with
    | none => simp
    | some p => simp
  -- an error is below no level but the one that is switched off
  have hlevel : ∀ l : LogLevel, LogLevel.error.rank ≤ l.rank ↔ l ≠ .off := by
    intro l
    cases l <;> decide
  have htarget : (failure yaml e).target = "keel" := rfl
  unfold ConsoleFilter.shows Hears
  rw [Bool.and_eq_true, htarget]
  refine and_congr ?_ hpattern
  cases f.rules.find? (fun r => "keel".startsWith r.1) with
  | none => simp
  | some rule => simp [failure, hlevel]

/-- The event that a run fails with comes last, if it is shown at all. -/
theorem output_append_failure (yaml : YamlWords) (logged : List LogEvent) :
    (Hears f (e.message yaml) → f.output (logged ++ [failure yaml e]) =
      f.output logged ++ errorLine (e.message yaml)) ∧
    (¬ Hears f (e.message yaml) → f.output (logged ++ [failure yaml e]) = f.output logged) := by
  rw [← shows_failure_iff]
  unfold ConsoleFilter.output
  rw [List.filter_append]
  constructor
  · intro hshown
    rw [List.filter_cons_of_pos hshown, List.filter_nil, List.map_append, String.join_append]
    simp [line_failure]
  · intro hhidden
    rw [List.filter_cons_of_neg hhidden, List.filter_nil, List.append_nil]

/-- Without a filter that is understood, errors are shown. -/
theorem hears_of_not_understood
    (h : ((allVariables s).lookup "RUST_LOG").bind ConsoleFilter.ofText? = none) (yaml : YamlWords)
    (e : CommandError) : Hears (console s) (e.message yaml) := by
  have hwarnings : console s = ConsoleFilter.warnings := by
    unfold console ConsoleFilter.choose
    rw [h]
    rfl
  rw [← shows_failure_iff, hwarnings, shows_warnings]
  rfl

/-- **What a failing run says.** A run that fails does so with status 1 and with the error that its
command comes to. The error ends what is shown just when the filter for the log lets it through, as
it does where there is no filter that is understood; else nothing is shown but events that are no
errors. -/
theorem failing_run_reports (hargs : Accepts s args i) (hfails : (run s args).exit ≠ 0) :
    ∃ e logged, outcome s i = .error e ∧ (run s args).exit = 1 ∧
      (∀ event ∈ logged, event.level ≠ .error) ∧
      (Hears (console s) (e.message s.yamlWords) →
        (run s args).stderr = (console s).output logged ++ errorLine (e.message s.yamlWords)) ∧
      (¬ Hears (console s) (e.message s.yamlWords) →
        (run s args).stderr = (console s).output logged) ∧
      (((allVariables s).lookup "RUST_LOG").bind ConsoleFilter.ofText? = none →
        Hears (console s) (e.message s.yamlWords)) := by
  obtain ⟨logged, hrun, hmild⟩ := run_eq_leave hargs
  rw [hrun] at hfails ⊢
  cases houtcome : outcome s i with
  | ok text =>
    rw [houtcome] at hfails
    exact absurd rfl hfails
  -- the error comes after all that was logged, and nothing of that is an error
  | error e =>
    obtain ⟨hheard, hunheard⟩ :=
      output_append_failure (f := console s) (e := e) s.yamlWords logged
    exact ⟨e, logged, rfl, rfl, hmild, hheard, hunheard, fun h => hears_of_not_understood h _ e⟩

/-- Surroundings with a secret and a filter, but without settings for TLS. -/
def filtered (filter : String) : Surroundings :=
  among [("KEEL_JWT_SECRET", "key"), ("RUST_LOG", filter)]

/-- The check of the TLS settings, with the secret of those surroundings. -/
def checking : CommandLine.Invocation := ⟨none, some "key", .checkTls⟩

theorem outcome_checking {filter : String}
    (hload : (Settings.load (filtered filter).directory none
      (environment (filtered filter) checking)).toOption = some keyed) :
    outcome (filtered filter) checking = .error .tlsNotConfigured := by
  have hbuilds : side (filtered filter) keyed Credentials.server = .error .tlsNotConfigured := rfl
  refine bind_eq_error.2 (.inr ⟨keyed, mapError_eq_ok.2 (toOption_eq_some.1 hload), ?_⟩)
  exact bind_eq_error.2 (.inl hbuilds)

/-- Where the filter asks for all that is worth a note, a run that checks for TLS settings in vain
says so. -/
theorem failing_run_reports_checking : ∃ e logged,
    outcome (filtered "info") checking = .error e ∧
      (run (filtered "info") ["check-tls"]).stderr =
        (console (filtered "info")).output logged ++
          errorLine (e.message (filtered "info").yamlWords) := by
  have hargs : Accepts (filtered "info") ["check-tls"] checking :=
    toOption_eq_some.1 (by decide +kernel)
  have hfails : (run (filtered "info") ["check-tls"]).exit ≠ 0 := by decide +kernel
  obtain ⟨e, logged, houtcome, -, -, hheard, -⟩ := failing_run_reports hargs hfails
  refine ⟨e, logged, houtcome, hheard ?_⟩
  -- the one rule is for every target, so it is the one that decides on the program
  have hrules : (console (filtered "info")).rules = [("", .info)] := by decide +kernel
  have hpattern : (console (filtered "info")).pattern = none :=
    Option.isNone_iff_eq_none.1 (by decide +kernel)
  refine ⟨⟨("", .info), ?_, by decide⟩, ?_⟩
  · rw [hrules]
    exact List.find?_cons_of_pos (by simp)
  · rw [hpattern]
    exact nofun

/-- A filter that asks for more of what the library does hides the error of the program: the run
fails, and says nothing. -/
theorem failing_run_is_silent :
    Accepts (filtered "keel_core=debug") ["check-tls"] checking ∧
    outcome (filtered "keel_core=debug") checking = .error .tlsNotConfigured ∧
    run (filtered "keel_core=debug") ["check-tls"] = ⟨1, "", ""⟩ := by
  refine ⟨toOption_eq_some.1 ?_, outcome_checking ?_, ?_⟩
  · decide +kernel
  · decide +kernel
  · decide +kernel

end TenantAuth.Session
