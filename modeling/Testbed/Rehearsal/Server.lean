import Testbed.Connection
import Testbed.Path
import Testbed.Rehearsal.Rule
import Testbed.ServerFault
import Testbed.Sql

/-!
# A scripted database server

The server is a list of databases and a list of tables. It keeps a journal of what it is asked,
and fails where a rule says so. A connection is the name of its database. Statements that change
no list of names always succeed.
-/

namespace Testbed.Rehearsal

inductive Parameter where
  | text (value : String)
  | texts (values : List String)
  deriving DecidableEq, Repr

/-- What the server was asked. The parameter of a query that a rule made fail is not seen. -/
inductive Exchange where
  | connect (database user : String)
  | batch (sql : String)
  | query (sql : String) (parameter : Option Parameter)
  deriving DecidableEq, Repr

structure Server where
  /-- The directory of the socket on which the server listens. -/
  socket : String
  databases : List String := []
  tables : List String := []
  /-- Whether databases may be used that are not listed. -/
  lenient : Bool := false
  password : Option String := none
  /-- The user of a client that names none. -/
  systemUser : String := "root"
  rules : List Rule := []
  journal : List Exchange := []

namespace Server

def standardPort : Nat := 5432

def isInPlace (s : Server) : Connection.Host → Bool
  | .tcp _ => false
  | .socket directory => Path.segments directory = Path.segments s.socket

def listensAt (s : Server) (target : Connection.Resolved) : Bool :=
  s.isInPlace target.host && target.port.getD standardPort = standardPort

def record (s : Server) (e : Exchange) : Server :=
  { s with journal := s.journal ++ [e] }

def judge (s : Server) (request : String) : Bool × Server :=
  let (error, rules) := applyRules request s.rules
  (error.isSome, { s with rules })

def admits (s : Server) (database : String) : Bool :=
  database = "postgres" || s.databases.contains database || s.lenient

def passwordFault? (s : Server) (given : Option String) : Option ClientFault :=
  match s.password, given with
  | none, _ => none
  | some _, none => some .incomplete
  | some right, some given => if given = right then none else some .refused

def connect (target : Connection.Resolved) (s : Server) : Except ClientFault String × Server :=
  if !s.listensAt target then (.error .unreachable, s)
  else
    let (fails, s) :=
      (s.record (.connect target.database (target.user.getD s.systemUser))).judge
        ("connect " ++ target.database)
    if fails || !s.admits target.database then (.error .refused, s)
    else
      match s.passwordFault? target.password with
      | some fault => (.error fault, s)
      | none => (.ok target.database, s)

/-- The databases after a statement, or `none` if it is refused. -/
def after? (s : Server) : Sql.Statement → Option (List String)
  | .dropDatabase name => some (s.databases.filter (· ≠ name))
  | .createDatabase name template =>
    if (s.lenient || s.databases.contains template) && !s.databases.contains name then
      some (s.databases ++ [name])
    else none
  | .truncateTable _ | .begin | .commit | .rollback => some s.databases

def execute (statement : Sql.Statement) (s : Server) : Except ClientFault Unit × Server :=
  let (fails, s) := (s.record (.batch statement.text)).judge statement.text
  if fails then (.error .refused, s)
  else
    match s.after? statement with
    | some databases => (.ok (), { s with databases })
    | none => (.error .refused, s)

def query {α : Type} (sql : String) (parameter : Parameter) (answer : Server → α) (s : Server) :
    Except ClientFault α × Server :=
  let (fails, s) := s.judge sql
  if fails then (.error .refused, s.record (.query sql none))
  else (.ok (answer s), s.record (.query sql (some parameter)))

def countDatabases (name : String) : Server → Except ClientFault Nat × Server :=
  query Sql.databaseCount (.text name) fun s => s.databases.count name

def tablesAmong (names : List String) : Server → Except ClientFault (List String) × Server :=
  query Sql.tablesAmong (.texts names) fun s =>
    (s.tables.filter names.contains).mergeSort fun a b => !(b < a)

end Server

end Testbed.Rehearsal
