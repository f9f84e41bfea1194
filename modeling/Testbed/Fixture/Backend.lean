import Testbed.Failure
import Testbed.Log.Record

/-!
# What a fixture needs from the outside

A backend answers requests and changes the world while it does so. It may fail at any request.
A fixture knows nothing else of the world, so whatever holds for all backends holds for every
course of failures.
-/

namespace Testbed

/-- Something done in a world `σ`, which changes it, and may fail. -/
abbrev Action (σ α : Type) := σ → Except Failure α × σ

/-- The requests of a fixture. -/
structure Backend (σ Session : Type) where
  /-- Why the working directory cannot be told at the moment, if it cannot. -/
  directoryFault : σ → Option SystemFault
  databaseExists : (name : String) → Action σ Bool
  /-- Dropping a database that does not exist is no failure. -/
  dropDatabase : (name : String) → Action σ Unit
  createDatabase : (name template : String) → Action σ Unit
  /-- Empties those of the candidates that exist, and tells which ones. -/
  truncateTables : (database : String) → (candidates : List String) → Action σ (List String)
  openSession : (database : String) → Action σ Session
  closeSession : Session → σ → σ
  /-- Runs a script and gives what it told the log. -/
  runScript : Script.Invocation → σ → (List Log.Record × Except Failure Unit) × σ
  /-- Makes an empty directory whose name starts as given. -/
  makeDirectory : (stem : String) → σ → Except TemporaryFault String × σ
  /-- Makes an empty file whose name starts and ends as given. -/
  makeFile : (stem ending : String) → σ → Except TemporaryFault String × σ
  writeFile : (path content : String) → σ → Except SystemFault Unit × σ
  removeDirectory : (path : String) → σ → σ
  removeFile : (path : String) → σ → σ

end Testbed
