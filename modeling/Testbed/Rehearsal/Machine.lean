import Testbed.Live.System
import Testbed.Rehearsal.Disk
import Testbed.Rehearsal.Server
import Testbed.Rehearsal.Shell.Start

/-!
# A rehearsal machine

A system made of a scripted server, a disk, and a shell with the usual programs. Whatever the
tool does on it is a function of its first state, so a whole run can be rehearsed.
-/

namespace Testbed.Rehearsal

def FileTree.standard : FileTree :=
  let directories := [["usr", "local", "bin"], ["usr", "bin"], ["bin"], ["dev"], ["tmp"]]
  let places := [["bin"], ["usr", "bin"]]
  let empty := directories.foldl FileTree.makeDirectories ⟨[]⟩
  let withPrograms := places.foldl
    (fun t place => Shell.Utility.programs.foldl
      (fun t name => t.put (place ++ [name]) (.program name)) t) empty
  ((withPrograms.put ["dev", "null"] .nullDevice).put ["dev", "zero"] .zeroDevice).putFile
    ["etc", "passwd"] []

structure Machine where
  server : Server
  disk : Disk
  /-- The variables of the tool's process. -/
  environment : Dictionary

namespace Machine

def isPlain (s : String) : Bool :=
  !s.toList.contains (Char.ofNat 0)

def accepts (i : Script.Invocation) : Bool :=
  i.command.all isPlain && isPlain i.directory &&
    i.environment.entries.all fun (k, v) => isPlain k && isPlain v

def startFault : Shell.StartFault → SystemFault
  | .refused => .permissionDenied
  | .missing => .noSuchEntry
  | .notADirectory => .notADirectory

def locate (m : Machine) (i : Script.Invocation) (environment : Dictionary) :
    Except SystemFault (List String × String) := do
  if !accepts i then throw .nulInText
  let (place, entry) ← m.disk.files.open_ m.disk.here i.directory
  if entry ≠ .directory then throw .notADirectory
  let path := ((environment.get? "PATH").map Shell.Octets.ofText).getD Shell.standardPath
  match Shell.findProgram m.disk.files place path (i.command.headD "") with
  | .ok name => return (place, name)
  | .error e => throw (startFault e)

def start (i : Script.Invocation) (m : Machine) : Except SystemFault Job.Finished × Machine :=
  let environment := m.environment.putAll i.environment.entries
  match m.locate i environment with
  | .error e => (.error e, m)
  | .ok (place, name) =>
    let (job, files) := Shell.runProcess m.disk.files place environment name i.command
    (.ok job, { m with disk := { m.disk with files } })

def onServer {α : Type} (f : Server → α × Server) (m : Machine) : α × Machine :=
  let (result, server) := f m.server
  (result, { m with server })

def onDisk {α : Type} (f : Disk → α × Disk) (m : Machine) : α × Machine :=
  let (result, disk) := f m.disk
  (result, { m with disk })

/-- The machine as a system. A client is the name of its database. -/
def system : System Machine String where
  environment m := m.environment.get?
  workingDirectory m := m.disk.workingDirectory
  directoryFault _ := none
  connect target := onServer (Server.connect target)
  execute _ statement := onServer (Server.execute statement)
  countDatabases _ name := onServer (Server.countDatabases name)
  tablesAmong _ names := onServer (Server.tablesAmong names)
  disconnect _ m := m
  start := start
  readFile path m := m.disk.read path
  makeDirectory stem := onDisk (Disk.makeDirectory stem)
  makeFile stem ending := onDisk (Disk.makeFile stem ending)
  writeFile path content := onDisk (Disk.writeFile path content)
  removeDirectory path m := { m with disk := m.disk.remove path }
  removeFile path m := { m with disk := m.disk.remove path }

end Machine

end Testbed.Rehearsal
