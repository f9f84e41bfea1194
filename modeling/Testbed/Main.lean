import Std.Time.DateTime.Timestamp
import Testbed.Log.Timestamp
import Testbed.Program
import Testbed.Rehearsal.Machine

/-!
# The program from the shell

The command line is rehearsed: it runs on a machine in memory, which has the variables, the
configuration file and the scripts of the real one, and a server that lets every database be
used. Nothing outside the program is changed.
-/

namespace Testbed.Main

open Rehearsal

/-- The variables that matter to a rehearsal. -/
def variableNames : List String :=
  ["PATH", "TMPDIR", "USER", "PGHOST", "PGPORT", "PGUSER", "PGPASSWORD"] ++
    (CommandLine.OptionName.workingDirectory :: CommandLine.OptionName.everywhere).filterMap
      CommandLine.OptionName.standIn?

def environment : IO Dictionary := do
  let found ← variableNames.filterMapM fun name => do
    return (← IO.getEnv name).map fun value => (name, value)
  return Dictionary.ofPairs found

def bareMachine (environment : Dictionary) (workingDirectory : String) : Machine where
  server := { socket := "/var/run/postgresql", lenient := true }
  disk :=
    { files := FileTree.standard.makeDirectories (Path.segments workingDirectory)
      temporary := "/tmp"
      workingDirectory }
  environment

def withFile (m : Machine) (path : String) : IO Machine := do
  let absolute := Path.absolute m.disk.workingDirectory path
  try
    let content ← IO.FS.readBinFile absolute
    let files := m.disk.files.putFile (Path.segments absolute) content.toList
    return { m with disk := { m.disk with files } }
  catch _ => return m

def withConfigFile (m : Machine) (l : CommandLine) : IO Machine :=
  match l.configFile with
  | some path => withFile m path
  | none => return m

def withScripts (m : Machine) (l : CommandLine) : IO Machine := do
  match l.resolve m.disk.read with
  | .error _ => return m
  | .ok config =>
    match config.launcher? with
    | none => return m
    | some launcher =>
      [Script.Name.setup, Script.Name.update].foldlM (fun m script =>
        match launcher.scriptPath (.ok m.disk.workingDirectory) config.buildDirectory
            script.text with
        | .ok path => withFile m path
        | .error _ => return m) m

def withFiles (m : Machine) (arguments : List String) : IO Machine := do
  match CommandLine.parse m.environment.get? arguments with
  | .error _ => return m
  | .ok l => withScripts (← withConfigFile m l) l

end Testbed.Main

open Testbed in
def main (arguments : List String) : IO UInt32 := do
  let bare := Main.bareMachine (← Main.environment) (← IO.currentDir).toString
  let machine ← Main.withFiles bare arguments
  let now ← Std.Time.Timestamp.now
  let (outcome, _) := Program.run Rehearsal.Machine.system arguments machine
  (← IO.getStdout).putStr outcome.printed
  (← IO.getStderr).putStr (outcome.told (Log.timestamp now.toSecondsSinceUnixEpoch.val.toNat))
  return UInt32.ofNat outcome.exitCode
