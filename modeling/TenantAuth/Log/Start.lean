import TenantAuth.Log.Filter
import TenantAuth.Settings.ConfigError

/-!
# Starting the log

The filter of the log comes from an override or from settings; the log of a process is started once.
-/
namespace TenantAuth

/-- The filter for log settings. -/
def LogFilter.ofSettings (override : Option String) (s : LogSettings) :
    Except ConfigError LogFilter :=
  (choose override s.level).mapError fun f => .invalid (.logLevel s.level f)

/-- The log of a process: the filter and the format it was started with, if it was. -/
structure ProcessLog where
  started : Option (LogFilter × LogFormat)

/-- The log of a fresh process. -/
def ProcessLog.fresh : ProcessLog := ⟨none⟩

/-- Starts the log; a process whose log runs keeps it. -/
def ProcessLog.start (log : ProcessLog) (override : Option String) (s : LogSettings) :
    Except ConfigError Unit × ProcessLog :=
  match LogFilter.ofSettings override s, log.started with
  | .error e, _ => (.error e, log)
  | .ok _, some _ => (.error (.invalid .loggingStarted), log)
  | .ok f, none => (.ok (), ⟨some (f, s.format)⟩)

end TenantAuth
