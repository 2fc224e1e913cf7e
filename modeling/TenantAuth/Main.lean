import TenantAuth.CommandLine.Session
import Std.Time.DateTime.Timestamp

/-!
# The program

Gathers what a run can see, carries it out, and prints what it leaves.
-/
namespace TenantAuth

/-- The variables of the process that a run looks at. -/
def processVariables : IO EnvFile.Variables := do
  let names :=
    "RUST_LOG" :: Settings.fileVariable :: Settings.Variable.all.map Settings.Variable.name
  names.filterMapM fun name => return (← IO.getEnv name).map fun v => (name, v)

/-- A directory with one more path: its content, or that it is a directory. -/
def withPath (d : Directory) (path : String) : IO Directory := do
  try
    let content ← IO.FS.readBinFile path
    return { d with files := (path, content.toList) :: d.files }
  catch _ =>
    try
      let _metadata ← IO.FS.withFile path .read fun h => h.read 1
      return d
    catch
      | .inappropriateType .. => return { d with directories := path :: d.directories }
      | _ => return d

/-- The instant that the clock of the system shows. -/
def systemInstant : IO Instant := do
  let seconds := (← Std.Time.Timestamp.now).toSecondsSinceUnixEpoch.val
  return (Instant.ofInt? seconds).getD ⟨0, by decide⟩

/-- A source of random numbers with a seed of the system. -/
def systemRandom : IO RandomSource := do
  let seed ← IO.getRandomBytes 8
  return ⟨seed.toList.foldl (fun n b => n * 256 + b.toUInt64) 0⟩

/-- The words for a document that holds no settings, where no YAML library is linked that would say
what is wrong with it. -/
def unspecificWords : YamlWords := fun _ => "not a document of settings"

/-- Adds the files that a run may read: each file can name further ones, three times at most. -/
def surroundings (args : List String) : IO Surroundings := do
  let bare : Surroundings :=
    ⟨⟨[], []⟩, ← processVariables, ← systemInstant, ← systemRandom, unspecificWords⟩
  let gather (s : Surroundings) : IO Surroundings := do
    let directory ← (Session.paths s args).eraseDups.foldlM withPath ⟨[], []⟩
    return { s with directory }
  gather (← gather (← gather bare))

end TenantAuth

open TenantAuth in
/-- Runs the program. -/
def main (args : List String) : IO UInt32 := do
  let r := Session.run (← surroundings args) args
  IO.print r.stdout
  IO.eprint r.stderr
  return UInt32.ofNat r.exit
