import Testbed.AppEnv
import Testbed.Fixture.Backend
import Testbed.Rehearsal.Disk
import Testbed.Rehearsal.Rule
import Testbed.Text.Split

/-!
# A backend that records

The server is a list of names and no script is run. Every request is recorded and then fails if
a rule says so. A script that is asked to create the database creates the one that its
connection string names.
-/

namespace Testbed.Rehearsal

inductive Request where
  | told (text : String)
  /-- A script, with the dotenv file of its directory and the import data that it was given. -/
  | ran (invocation : Script.Invocation) (dotenv osm : Option String)

structure Recorder where
  requests : List Request := []
  databases : List String
  tables : List String
  rules : List Rule
  disk : Disk

namespace Recorder

def record (r : Recorder) (request : Request) : Recorder :=
  { r with requests := r.requests ++ [request] }

def judge (r : Recorder) (text : String) : Except Failure Unit × Recorder :=
  match applyRules text r.rules with
  | (some error, rules) => (.error (.told error), { r with rules })
  | (none, rules) => (.ok (), { r with rules })

/-- Records a request, and answers it unless a rule makes it fail. -/
def request {α : Type} (text : String) (answer : Recorder → Except Failure α × Recorder) :
    Action Recorder α := fun r =>
  match (r.record (.told text)).judge text with
  | (.error e, r) => (.error e, r)
  | (.ok (), r) => answer r

def argumentOf? (flag : String) : List String → Option String
  | word :: rest => if word = flag then rest.head? else argumentOf? flag rest
  | [] => none

def databaseOf (dsn : String) : String :=
  let rest := (Text.after? "pgsql:dbname=".toList dsn.toList).getD dsn.toList
  String.ofList (rest.takeWhile (· ≠ ';'))

def created (r : Recorder) (invocation : Script.Invocation) : Recorder :=
  match invocation.environment.get? AppEnv.dsnName with
  | some dsn =>
    if invocation.command.contains "--create-db" then
      { r with databases := r.databases ++ [databaseOf dsn] }
    else r
  | none => r

def runScript (invocation : Script.Invocation) (r : Recorder) :
    (List Log.Record × Except Failure Unit) × Recorder :=
  let dotenv := r.disk.readText? (Path.join invocation.directory ".env")
  let osm := (argumentOf? "--osm-file" invocation.command).bind r.disk.readText?
  let text := "run " ++ String.intercalate " " invocation.command
  match (r.record (.ran invocation dotenv osm)).judge text with
  | (.error e, r) => (([], .error e), r)
  | (.ok (), r) => (([], .ok ()), r.created invocation)

def onDisk {α : Type} (f : Disk → α × Disk) (r : Recorder) : α × Recorder :=
  let (result, disk) := f r.disk
  (result, { r with disk })

/-- A session is the name of its database. -/
def backend : Backend Recorder String where
  directoryFault _ := none
  databaseExists name := request ("exists " ++ name) fun r => (.ok (r.databases.contains name), r)
  dropDatabase name := request ("drop " ++ name) fun r =>
    (.ok (), { r with databases := r.databases.filter (· ≠ name) })
  createDatabase name template := request ("create " ++ name ++ " from " ++ template) fun r =>
    if r.databases.contains template then
      (.ok (), { r with databases := r.databases ++ [name] })
    else (.error (.told ("template '" ++ template ++ "' does not exist")), r)
  truncateTables database candidates :=
    request ("truncate " ++ database ++ " " ++ String.intercalate "," candidates) fun r =>
      (.ok (r.tables.filter candidates.contains), r)
  openSession database := request ("open " ++ database) fun r => (.ok database, r)
  closeSession session r := r.record (.told ("close " ++ session))
  runScript := runScript
  makeDirectory stem := onDisk (Disk.makeDirectory stem)
  makeFile stem ending := onDisk (Disk.makeFile stem ending)
  writeFile path content := onDisk (Disk.writeFile path content)
  removeDirectory path r := { r with disk := r.disk.remove path }
  removeFile path r := { r with disk := r.disk.remove path }

end Recorder

end Testbed.Rehearsal
