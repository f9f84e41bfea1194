import Testbed.Command.Stage
import Testbed.Fixture

/-!
# The commands of the tool

What each command does with a fixture of its own. A command checks its arguments first, so that
a rejected one has no effect, and whatever comes of it, the website directory is left at the end.
-/

namespace Testbed

/-- The database at which the application is to be pointed. -/
inductive Target where
  | test
  | api
  | unknown
  | named (database : String)
  deriving DecidableEq, Repr

/-- A name comes before the flags, and the interface database before the unknown one. -/
def Target.ofFlags (name : Option String) (api unknown : Bool) : Target :=
  match name with
  | some database => .named database
  | none => if api then .api else if unknown then .unknown else .test

/-- What the tool is asked to do. -/
inductive Command where
  | setupTemplate
  | setupDatabase
  | teardownDatabase
  | dropDatabase (name : String)
  | writeConfig (target : Target)
  | runScript (script : Script.Name) (target : Target) (tokens : List String)
  | scenario (target : Target) (directory : String) (command : List String)
  deriving DecidableEq, Repr

namespace Command

open Fixture Work

/-- The variable that tells a scenario where to put its coverage dump. -/
def coverageName : String := "GEOFIXTURE_COVERAGE_FILE"

variable {σ Session : Type} (p : Plan) (S : Stage σ Session)

def aim : Target → Work σ Unit
  | .test => Fixture.writeConfig p S.toBackend p.config.testDatabase
  | .api => setupApiDatabase p S.toBackend
  | .unknown => setupUnknownDatabase p S.toBackend
  | .named database => Fixture.writeConfig p S.toBackend database

/-- Runs a program as one scenario. It has to succeed. -/
def play (command : List String) (directory : String) (environment : Dictionary) :
    Work σ Unit := do
  tell (Log.info "starting scenario" [("command", command.headD "")])
  let status ← running (S.runCommand { command, directory, environment })
  match status.failure? with
  | some how => throw (.scenarioEnded how)
  | none => pure ()

/-- The fresh database of a scenario that needs one. Any other scenario only has the application
pointed at its target. -/
def openScenario : Target → Work σ (Option Session)
  | .test => return some (← Fixture.setupDatabase p S.toBackend)
  | target => do
    aim p S target
    return none

/-- Removes the fresh database of a scenario that has one. -/
def closeScenario : Option Session → Work σ Unit
  | some session => teardown p S.toBackend (some session)
  | none => pure ()

/-- Runs a program against a target. A fresh database is removed afterwards whatever came of the
program, whose failure counts before one of the removal. -/
def playScenario (target : Target) (directory : String) (command : List String) :
    Work σ Unit := do
  let session ← openScenario p S target
  let inherited := (← fixture).childVariables
  let environment := match ← nextCoverageFile p S.toBackend with
    | some file => inherited.put coverageName file
    | none => inherited
  let outcome ← attempt (play S command directory environment)
  match outcome, ← attempt (closeScenario p S session) with
  | .ok (), .ok () => tell (Log.info "scenario completed successfully" [])
  | .ok (), .error e => throw e
  | .error e, .ok () => throw e
  | .error e, .error second =>
    tell (Log.error "scenario teardown failed" [("error", second.message)])
    throw e

def showConfig (target : Target) : Work σ String := do
  aim p S target
  match (← fixture).website with
  | some path => tell (Log.debug "website directory is removed on exit" [("website_dir", path)])
  | none => pure ()
  return Dotenv.render (← fixture).childVariables

/-- Makes a fresh scenario database and leaves it for others to use. -/
def prepareDatabase : Work σ Unit := do
  let session ← Fixture.setupDatabase p S.toBackend
  change (S.closeSession session)
  tell (Log.info "scenario database ready" [("database", p.config.testDatabase)])

def useScript (script : Script.Name) (target : Target) (tokens : List String) : Work σ Unit := do
  let args ← ofExcept ((Script.Arguments.ofTokens tokens).mapError .token)
  aim p S target
  Fixture.runScript p S.toBackend script args
  tell (Log.info "script completed successfully" [])

/-- Whether a command takes place in the working directory. -/
def isLocal : Command → Bool
  | .scenario _ directory _ => directory.isEmpty
  | _ => false

/-- Why a command is rejected before anything is done. -/
def rejection? : Command → Option Failure
  | .dropDatabase name => if name.isEmpty then some .noDatabaseName else none
  | .runScript _ _ tokens =>
    if tokens.isEmpty then some .noScriptArguments
    else
      match Script.Arguments.ofTokens tokens with
      | .error fault => some (.token fault)
      | .ok _ => none
  | .scenario _ _ command => if command.isEmpty then some .noScenarioCommand else none
  | .setupTemplate | .setupDatabase | .teardownDatabase | .writeConfig _ => none

/-- Does what is asked, and gives the text that it prints. A scenario without a directory takes
place in the working directory. -/
def perform : Command → Work σ String
  | .setupTemplate => do
    Fixture.setupTemplate p S.toBackend
    return ""
  | .setupDatabase => do
    prepareDatabase p S
    return ""
  | .teardownDatabase => do
    teardown p S.toBackend none
    return ""
  | .dropDatabase name => do
    Fixture.dropDatabase S.toBackend name
    return ""
  | .writeConfig target => showConfig p S target
  | .runScript script target tokens => do
    useScript p S script target tokens
    return ""
  | .scenario target directory command => do
    playScenario p S target (if directory.isEmpty then p.workingDirectory else directory) command
    return ""

/-- Why a command is refused in a world. One that takes place in the working directory has to
know it. -/
def refusal? (command : Command) (w : σ) : Option Failure :=
  command.rejection?.or
    (if command.isLocal then (S.directoryFault w).map .noWorkingDirectory else none)

/-- Runs a command with a fixture of its own, and gives the text that it prints. -/
def run (config : Config) (workingDirectory : String) (command : Command) : Work σ String := do
  match ← look (command.refusal? S) with
  | some e => throw e
  | none =>
    let plan ← ofExcept (Plan.ofConfig config workingDirectory)
    finally_ (command.perform plan S) (leaveWebsite S.toBackend)

end Command

end Testbed
