import Testbed.Job.Output
import Testbed.Rehearsal.Shell.Eval

/-!
# Processes

A program is run as a process of its own. It is known how the process ends, what it writes, and
how it leaves the files.
-/

namespace Testbed.Rehearsal.Shell

/-- How deep commands may lie in each other and how often loops may turn. -/
def fuel : Nat := 20000

def statusOfResult (s : State) : Except Stop Unit → Job.Status
  | .ok () | .error (.leave _) | .error (.again _) => .exited s.status
  | .error (.exit status) | .error (.returned status) => .exited status
  | .error (.killed signal) => .killed signal
  | .error .spent => .killed 9

/-- What the program of a name does with a command line. A shell is the process itself, so a
signal to it ends the process. -/
def processCommands (name : String) (words : List Octets) : Eval Unit := do
  if name = "sh" || name = "dash" then
    match openShell (← get) (words.headD []) words.tail with
    | .ok (inner, script) =>
      change fun _ => inner
      source fuel (Source.ofText script)
    | .error text =>
      let _ ← write 2 (Octets.ofText (text ++ "\n"))
      setStatus 2
  else program fuel 0 name words

def runProcess (files : FileTree) (directory : List String) (environment : Dictionary)
    (name : String) (command : List String) : Job.Finished × FileTree :=
  let words := command.map Octets.ofText
  let start : State :=
    { files, directory, name := words.headD []
      bindings := environment.entries.map fun (k, v) => ⟨Octets.ofText k, Octets.ofText v, true⟩ }
  let (result, s) := (processCommands name words).run start
  ({ stdout := (s.content 0).toBytes, stderr := (s.content 1).toBytes
     status := .ok (statusOfResult s result) }, s.files)

end Testbed.Rehearsal.Shell
