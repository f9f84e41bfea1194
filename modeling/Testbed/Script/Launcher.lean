import Testbed.Dictionary
import Testbed.Path
import Testbed.Script.Arguments
import Testbed.Text.Blank

/-!
# Starting a script

A script is started by the words of an interpreter's command line, followed by the absolute
path of the script and its arguments. Scripts live in the directory `utils` of the build
directory.
-/

namespace Testbed.Script

inductive Name where
  | setup
  | update
  deriving DecidableEq, Repr

def Name.text : Name → String
  | setup => "setup"
  | update => "update"

/-- The words that start the interpreter, and the extension of script files. -/
structure Launcher where
  program : List String
  extension : String
  deriving DecidableEq, Repr

/-- The launcher for an interpreter's command line, or `none` if that has no words. Dots in front
of the extension are dropped. -/
def Launcher.ofCommand? (command extension : String) : Option Launcher :=
  let program := (Text.words command.toList).map String.ofList
  if program.isEmpty then none
  else some ⟨program, String.ofList (extension.toList.dropWhile (· = '.'))⟩

def emptyCommandMessage : String :=
  "script command must not be empty"

structure PathFault where
  script : String
  reason : SystemFault
  deriving DecidableEq, Repr

def PathFault.message (e : PathFault) : String :=
  "resolving script path for '" ++ e.script ++ "': " ++ e.reason.message

namespace Launcher

def fileName (l : Launcher) (script : String) : String :=
  if l.extension.isEmpty then script else script ++ "." ++ l.extension

def scriptPath (l : Launcher) (workingDirectory : Except SystemFault String)
    (buildDirectory script : String) : Except PathFault String :=
  (Path.resolve workingDirectory
    (Path.join (Path.join buildDirectory "utils") (l.fileName script))).mapError (.mk script)

def commandLine (l : Launcher) (workingDirectory : Except SystemFault String)
    (buildDirectory script : String) (args : Arguments) : Except PathFault (List String) := do
  let path ← l.scriptPath workingDirectory buildDirectory script
  return l.program ++ path :: args.toWords

end Launcher

/-- A process to be started: its command line, its working directory, and the variables added
to the inherited ones. -/
structure Invocation where
  command : List String
  directory : String
  environment : Dictionary

end Testbed.Script
