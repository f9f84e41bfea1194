import Testbed.Command.Stage
import Testbed.Live.Server

/-!
# The stage in a system

Commands are run as processes of a system, and everything else that a fixture asks for is asked
of the same system.
-/

namespace Testbed.Live

variable {σ Client : Type} (S : System σ Client) (params : Connection.Params)

/-- Runs a command. The log is told what is run and every line that it writes. -/
def runCommand (invocation : Script.Invocation) (w : σ) :
    (List Log.Record × Except Failure Job.Status) × σ :=
  match invocation.command with
  | [] => (([], .error .noCommand), w)
  | program :: _ =>
    let announced := Log.info "running command"
      [("command", String.intercalate " " invocation.command), ("cwd", invocation.directory)]
    match S.start invocation w with
    | (.error reason, w) => (([announced], .error (.notStarted program reason)), w)
    | (.ok job, w) => ((announced :: job.records, job.status.mapError .notAwaited), w)

def scriptResult (command : List String) : Except Failure Job.Status → Except Failure Unit
  | .error e => .error e
  | .ok status =>
    match status.failure? with
    | some how => .error (.scriptEnded command how)
    | none => .ok ()

def runScript (invocation : Script.Invocation) (w : σ) :
    (List Log.Record × Except Failure Unit) × σ :=
  let ((records, result), w) := runCommand S invocation w
  ((records, scriptResult invocation.command result), w)

/-- The stage for the given connection settings. A session is a client of the server. -/
def stage : Stage σ Client where
  directoryFault := S.directoryFault
  databaseExists := databaseExists S params
  dropDatabase := dropDatabase S params
  createDatabase := createDatabase S params
  truncateTables := truncateTables S params
  openSession := connect S params
  closeSession := S.disconnect
  runScript := runScript S
  makeDirectory := S.makeDirectory
  makeFile := S.makeFile
  writeFile := S.writeFile
  removeDirectory := S.removeDirectory
  removeFile := S.removeFile
  runCommand := runCommand S

end Testbed.Live
