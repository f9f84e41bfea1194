import Testbed.Fixture.Backend
import Testbed.Job.Status

/-!
# What commands need from the outside

A command of the tool works with a fixture, and may run any program against its database.
-/

namespace Testbed

/-- A backend that also runs programs. -/
structure Stage (σ Session : Type) extends Backend σ Session where
  /-- Runs a program and gives what it told the log and how it ended. -/
  runCommand : Script.Invocation → σ → (List Log.Record × Except Failure Job.Status) × σ

end Testbed
