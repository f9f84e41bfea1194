import Testbed.Connection
import Testbed.Job.Output
import Testbed.Script.Launcher
import Testbed.ServerFault
import Testbed.Sql
import Testbed.SystemFault

/-!
# The outside of the tool

A system answers the requests that leave the tool: it lets clients connect to the database
server, starts processes, and keeps files. Everything it does is a function on its state, so a
run of the tool is a function too.
-/

namespace Testbed

/-- The outside with states `σ` and clients of the server `Client`. -/
structure System (σ Client : Type) where
  /-- The variables of the tool's own process. -/
  environment : σ → Variables
  workingDirectory : σ → String
  /-- Why the working directory cannot be told at the moment, if it cannot. -/
  directoryFault : σ → Option SystemFault
  connect : Connection.Resolved → σ → Except ClientFault Client × σ
  execute : Client → Sql.Statement → σ → Except ClientFault Unit × σ
  /-- How often a name is listed among the databases. -/
  countDatabases : Client → (name : String) → σ → Except ClientFault Nat × σ
  /-- Those of the given tables that exist, in the server's order. -/
  tablesAmong : Client → (names : List String) → σ → Except ClientFault (List String) × σ
  disconnect : Client → σ → σ
  /-- Starts a process with at least one word and waits for its end. -/
  start : Script.Invocation → σ → Except SystemFault Job.Finished × σ
  readFile : (path : String) → σ → Except SystemFault (List UInt8)
  makeDirectory : (stem : String) → σ → Except TemporaryFault String × σ
  makeFile : (stem ending : String) → σ → Except TemporaryFault String × σ
  writeFile : (path content : String) → σ → Except SystemFault Unit × σ
  removeDirectory : (path : String) → σ → σ
  removeFile : (path : String) → σ → σ

end Testbed
