import Testbed.AppEnv
import Testbed.Dotenv
import Testbed.Fixture.Backend

/-!
# The fixture of a test run

A fixture points the application at one database at a time, builds the template database at
most once, and makes fresh scenario databases from it. Its operations work on a bench, which
holds the fixture's own state, the log so far, and the world in which the backend acts.
-/

namespace Testbed

namespace Fixture

/-- The database of scenarios that run without one. -/
def unknownDatabase : String := "UNKNOWN_DATABASE_NAME"

/-- Tables with bulky external data, which are emptied so that indexing stays fast. -/
def externalTables : List String := ["gb_postcode", "us_postcode"]

def importSteps : List String :=
  ["import-data", "ignore-errors", "create-functions", "create-tables",
    "create-partition-tables", "create-partition-functions", "load-data",
    "create-search-indices"]

def emptyOsm : String := "<osm version=\"0.6\"></osm>"

def websiteStem : String := "geofixture-website-"
def osmStem : String := "geofixture-"
def osmEnding : String := ".xml"

/-- What stays the same during a run. -/
structure Plan where
  config : Config
  launcher : Script.Launcher
  workingDirectory : String

def Plan.directory (p : Plan) : Option SystemFault → Except SystemFault String
  | some reason => .error reason
  | none => .ok p.workingDirectory

def Plan.ofConfig (config : Config) (workingDirectory : String) : Except Failure Plan :=
  match config.launcher? with
  | some launcher => .ok { config, launcher, workingDirectory }
  | none => .error .noScriptCommand

structure State where
  /-- The variables added for every script, once a configuration was written. -/
  environment : Option Dictionary := none
  /-- The directory with the application's current configuration. -/
  website : Option String := none
  templateReady : Bool := false
  coverageNumber : UInt32 := 1

def State.childVariables (s : State) : Dictionary :=
  s.environment.getD .empty

def State.pointsAt (s : State) (dsn : String) : Bool :=
  s.website.isSome && s.childVariables.get? AppEnv.dsnName = some dsn

end Fixture

/-- A fixture at work in a world. -/
structure Bench (σ : Type) where
  fixture : Fixture.State := {}
  log : List Log.Record := []
  world : σ

/-- Work at a bench, which may fail. -/
abbrev Work (σ α : Type) := ExceptT Failure (StateM (Bench σ)) α

namespace Work

variable {σ α : Type}

def act (a : Action σ α) : Work σ α := fun b =>
  let (result, world) := a b.world
  (result, { b with world })

def look (f : σ → α) : Work σ α := fun b =>
  (.ok (f b.world), b)

/-- Does something in the world that fails for reasons of its own. -/
def doing {ε : Type} (reason : ε → Failure) (a : σ → Except ε α × σ) : Work σ α := fun b =>
  let (result, world) := a b.world
  (result.mapError reason, { b with world })

def change (f : σ → σ) : Work σ Unit := fun b =>
  (.ok (), { b with world := f b.world })

def tell (r : Log.Record) : Work σ Unit := fun b =>
  (.ok (), { b with log := b.log ++ [r] })

def fixture : Work σ Fixture.State := fun b =>
  (.ok b.fixture, b)

def setFixture (f : Fixture.State → Fixture.State) : Work σ Unit := fun b =>
  (.ok (), { b with fixture := f b.fixture })

/-- Does some work and gives its result, so that failing is no end. -/
def attempt (w : Work σ α) : Work σ (Except Failure α) := fun b =>
  let (result, b) := w b
  (.ok result, b)

/-- Does some work and afterwards, whatever came of it, some that cannot fail. -/
def finally_ (w : Work σ α) (last : Work σ Unit) : Work σ α := fun b =>
  let (result, b) := w b
  (result, (last b).2)

/-- Runs something that tells the log what it does. -/
def running (a : σ → (List Log.Record × Except Failure α) × σ) : Work σ α := fun b =>
  let ((records, result), world) := a b.world
  (result, { b with log := b.log ++ records, world })

end Work

namespace Fixture

open Work

variable {σ Session : Type} (p : Plan) (B : Backend σ Session)

def leaveWebsite : Work σ Unit := do
  match (← fixture).website with
  | some path =>
    change (B.removeDirectory path)
    setFixture fun s => { s with website := none }
  | none => pure ()

def workingDirectory : Work σ (Except SystemFault String) :=
  look fun w => p.directory (B.directoryFault w)

/-- Runs a script in the website directory or, where there is none, in the build directory. A
script without a path is not run. -/
def runScript (script : Script.Name) (args : Script.Arguments) : Work σ Unit := do
  match p.launcher.commandLine (← workingDirectory p B) p.config.buildDirectory script.text args with
  | .error fault => throw (.scriptPath fault)
  | .ok command =>
    let s ← fixture
    let invocation : Script.Invocation :=
      { command
        directory := s.website.getD p.config.buildDirectory
        environment := s.childVariables }
    match ← attempt (running (B.runScript invocation)) with
    | .ok () => pure ()
    | .error cause => throw (.script script cause)

def makeWebsite (environment : Dictionary) : Work σ String := do
  let path ← doing .websiteDirectory (B.makeDirectory websiteStem)
  let file := Path.join path ".env"
  match ← attempt (doing (.dotenv file) (B.writeFile file (Dotenv.render environment))) with
  | .ok () => return path
  | .error e =>
    change (B.removeDirectory path)
    throw e

/-- Points the application at a database. Nothing is done if it points there already. -/
def writeConfig (database : String) : Work σ Unit := do
  let dsn := p.config.connection.dsn database
  if (← fixture).pointsAt dsn then
    tell (Log.debug "application config unchanged" [("database", database)])
  else
    let environment := AppEnv.environment dsn p.config.serverModulePath
    leaveWebsite B
    let path ← makeWebsite B environment
    tell (Log.info "wrote application config"
      [("database", database), ("dsn", dsn), ("website_dir", path)])
    setFixture fun s => { s with environment := some environment, website := some path }
    match ← attempt (runScript p B .setup { flags := ["setup-website"] }) with
    | .ok () => pure ()
    | .error e =>
      leaveWebsite B
      throw e

def dropDatabase (name : String) : Work σ Unit := do
  tell (Log.info "dropping database" [("database", name)])
  act (B.dropDatabase name)

def importArguments (osmPath : String) : Script.Arguments where
  flags := importSteps
  options := [("osm_file", osmPath), ("osm2pgsql_cache", "200")]

/-- Imports data without objects from a file that is removed again. -/
def importNothing : Work σ Unit := do
  let path ← doing .osmFile (B.makeFile osmStem osmEnding)
  finally_
    (do
      doing .osmContent (B.writeFile path emptyOsm)
      runScript p B .setup (importArguments path))
    (change (B.removeFile path))

def buildTemplate (template : String) : Work σ Unit := do
  writeConfig p B template
  runScript p B .setup { flags := ["create-db", "setup-db"] }
  for table in ← act (B.truncateTables template externalTables) do
    tell (Log.info "truncated external data" [("table", table)])
  importNothing p B

/-- Builds the template. After a failure the database is dropped, and the failure of the build
counts even if that fails too. -/
def rebuildTemplate (template : String) : Work σ Unit := do
  tell (Log.info "building template database" [("database", template)])
  match ← attempt (buildTemplate p B template) with
  | .ok () =>
    setFixture fun s => { s with templateReady := true }
    tell (Log.info "template database ready" [("database", template)])
  | .error e =>
    tell (Log.error "template database setup failed"
      [("database", template), ("error", e.message)])
    match ← attempt (act (B.dropDatabase template)) with
    | .ok () => pure ()
    | .error second =>
      tell (Log.warn "could not remove partial template database"
        [("database", template), ("error", second.message)])
    throw e

/-- Makes sure that there is a template. An existing one is taken as it is, unless templates
are always to be rebuilt. -/
def setupTemplate : Work σ Unit := do
  if (← fixture).templateReady then pure ()
  else
    let template := p.config.templateDatabase
    if p.config.reuseTemplate then
      if ← act (B.databaseExists template) then
        tell (Log.info "reusing existing template database" [("database", template)])
        setFixture fun s => { s with templateReady := true }
      else rebuildTemplate p B template
    else
      dropDatabase B template
      rebuildTemplate p B template

def setupApiDatabase : Work σ Unit :=
  writeConfig p B p.config.apiDatabase

def setupUnknownDatabase : Work σ Unit :=
  writeConfig p B unknownDatabase

/-- Closes the session and removes the scenario database, unless it is to be kept. -/
def teardown (session : Option Session) : Work σ Unit := do
  match session with
  | some session => change (B.closeSession session)
  | none => pure ()
  let database := p.config.testDatabase
  if p.config.keepTestDatabase then
    tell (Log.info "keeping scenario database" [("database", database)])
  else dropDatabase B database

/-- Replaces the scenario database by a copy of the template and connects to it. A database to
which no connection can be made is removed again. -/
def copyTemplate : Work σ Session := do
  let database := p.config.testDatabase
  let template := p.config.templateDatabase
  act (B.dropDatabase database)
  act (B.createDatabase database template)
  tell (Log.info "created scenario database" [("database", database), ("template", template)])
  match ← attempt (act (B.openSession database)) with
  | .ok session => return session
  | .error e =>
    match ← attempt (teardown p B none) with
    | .ok () => pure ()
    | .error second =>
      tell (Log.warn "could not remove scenario database"
        [("database", database), ("error", second.message)])
    throw e

/-- Makes a fresh scenario database, at which the application is then pointed. -/
def setupDatabase : Work σ Session := do
  setupTemplate p B
  writeConfig p B p.config.testDatabase
  copyTemplate p B

/-- The path of the coverage dump with a number. It stays as it is where it cannot be made
absolute. -/
def coveragePath (workingDirectory : Except SystemFault String) (directory : String)
    (number : UInt32) : String :=
  let file := Path.join directory (String.ofList (Text.padded 6 number.toNat) ++ ".cov")
  match Path.resolve workingDirectory file with
  | .ok path => path
  | .error _ => file

def nextCoverageFile : Work σ (Option String) := do
  match p.config.coverageDirectory with
  | none => return none
  | some directory =>
    let number := (← fixture).coverageNumber
    setFixture fun s => { s with coverageNumber := number + 1 }
    return some (coveragePath (← workingDirectory p B) directory number)

end Fixture

end Testbed
