import Testbed.Fixture.Backend
import Testbed.Live.System

/-!
# Requests to the database server

Databases are looked up, made and dropped over a connection to the maintenance database, which
cannot be the one that is made or dropped. Every request connects anew. Tables are emptied in one
transaction over a connection to their own database.
-/

namespace Testbed.Live

/-- The database that is there on every server. -/
def maintenanceDatabase : String := "postgres"

variable {σ Client α : Type} (S : System σ Client) (params : Connection.Params)

/-- Does something on the server, and says what it was for if it fails. -/
def asking (task : ServerTask) (request : σ → Except ClientFault α × σ) : Action σ α := fun w =>
  let (result, w) := request w
  (result.mapError (.server task), w)

/-- Connects to a database with the settings and the variables of the process. -/
def connect (database : String) : Action σ Client := fun w =>
  match params.resolve (S.environment w) database with
  | .error fault => (.error (.port fault), w)
  | .ok target => asking (.connect database) (S.connect target) w

/-- Connects to a database, does some work there, and disconnects whatever came of it. -/
def withClient (database : String) (work : Client → Action σ α) : Action σ α := fun w =>
  match connect S params database w with
  | (.error e, w) => (.error e, w)
  | (.ok client, w) =>
    let (result, w) := work client w
    (result, S.disconnect client w)

def databaseExists (name : String) : Action σ Bool :=
  withClient S params maintenanceDatabase fun client w =>
    let (result, w) := asking (.lookUp name) (S.countDatabases client name) w
    (result.map (· == 1), w)

def dropDatabase (name : String) : Action σ Unit :=
  withClient S params maintenanceDatabase fun client =>
    asking (.drop name) (S.execute client (.dropDatabase name))

def createDatabase (name template : String) : Action σ Unit :=
  withClient S params maintenanceDatabase fun client =>
    asking (.create name template) (S.execute client (.createDatabase name template))

/-- Sends statements one after the other, each with the task it serves, up to the first that
fails. -/
def executeAll (client : Client) : List (ServerTask × Sql.Statement) → Action σ Unit
  | [], w => (.ok (), w)
  | (task, statement) :: rest, w =>
    match asking task (S.execute client statement) w with
    | (.ok (), w) => executeAll client rest w
    | (.error e, w) => (.error e, w)

/-- Sends statements in one transaction. If one fails the transaction is rolled back. -/
def transaction (client : Client) (work : List (ServerTask × Sql.Statement)) :
    Action σ Unit := fun w =>
  match executeAll S client ((.begin, .begin) :: work) w with
  | (.ok (), w) => asking .commit (S.execute client .commit) w
  | (.error e, w) => (.error e, (S.execute client .rollback w).2)

/-- Empties those of the candidates that exist, all or none. -/
def truncateTables (database : String) (candidates : List String) : Action σ (List String) :=
  withClient S params database fun client w =>
    match asking (.listTables database) (S.tablesAmong client candidates) w with
    | (.error e, w) => (.error e, w)
    | (.ok tables, w) =>
      let (result, w) :=
        transaction S client (tables.map fun t => (.truncate t, .truncateTable t)) w
      (result.map fun _ => tables, w)

end Testbed.Live
