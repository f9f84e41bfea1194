import Testbed.Config
import Testbed.Job.Status
import Testbed.ServerFault

/-!
# Why the tool fails

Every cause of a failure, from a faulty configuration to a server that refuses. The wording is
in one place.
-/

namespace Testbed

inductive Failure where
  /-- In the words of whoever stands in for the outside. -/
  | told (text : String)
  | config (fault : Config.Fault)
  | noScriptCommand
  | token (fault : Script.TokenFault)
  | noScriptArguments
  | noScenarioCommand
  | noDatabaseName
  | noCommand
  | notStarted (program : String) (reason : SystemFault)
  | scriptEnded (command : List String) (how : Job.Failure)
  | scenarioEnded (how : Job.Failure)
  | notAwaited (reason : SystemFault)
  | noWorkingDirectory (reason : SystemFault)
  | scriptPath (fault : Script.PathFault)
  | script (name : Script.Name) (cause : Failure)
  | websiteDirectory (reason : TemporaryFault)
  | dotenv (path : String) (reason : SystemFault)
  | osmFile (reason : TemporaryFault)
  | osmContent (reason : SystemFault)
  | port (fault : Connection.BadPort)
  | server (task : ServerTask) (fault : ClientFault)
  deriving DecidableEq, Repr

namespace Failure

def message : Failure → String
  | told text => text
  | config fault => fault.message
  | noScriptCommand => Script.emptyCommandMessage
  | token fault => fault.message
  | noScriptArguments => "script arguments are required after \"--\""
  | noScenarioCommand => "command is required after \"--\""
  | noDatabaseName => "--name must not be empty"
  | noCommand => "command is required"
  | notStarted program reason =>
    "starting command " ++ Text.quoted program ++ ": " ++ reason.message
  | scriptEnded command how =>
    "script " ++ Text.quoted (String.intercalate " " command) ++ " " ++ how.reason
  | scenarioEnded how => "scenario command " ++ how.reason
  | notAwaited reason => "waiting for command: " ++ reason.message
  | noWorkingDirectory reason => "getting cwd: " ++ reason.message
  | scriptPath fault => fault.message
  | script name cause => name.text ++ " script failed: " ++ cause.message
  | websiteDirectory reason => "creating website directory: " ++ reason.message
  | dotenv path reason => "writing " ++ Text.quoted path ++ ": " ++ reason.message
  | osmFile reason => "creating empty OSM file: " ++ reason.message
  | osmContent reason => "writing empty OSM file: " ++ reason.message
  | port fault => fault.message
  | server task fault => task.text ++ ": " ++ fault.message

end Failure

end Testbed
