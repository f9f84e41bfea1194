/-!
# Statements for the server

The statements and queries that the tool sends, with their text. Names are quoted as
identifiers, so that any text may be a name.
-/

namespace Testbed.Sql

def escape (c : Char) : List Char :=
  if c = '"' then ['"', '"'] else [c]

/-- A name between double quotes, with the quotes inside it doubled. -/
def identifier (name : String) : String :=
  String.ofList ('"' :: name.toList.flatMap escape ++ ['"'])

/-- Statements without an answer. -/
inductive Statement where
  | dropDatabase (name : String)
  | createDatabase (name template : String)
  | truncateTable (name : String)
  | begin
  | commit
  | rollback
  deriving DecidableEq, Repr

def Statement.text : Statement → String
  | dropDatabase name => "DROP DATABASE IF EXISTS " ++ identifier name
  | createDatabase name template =>
    "CREATE DATABASE " ++ identifier name ++ " TEMPLATE = " ++ identifier template
  | truncateTable name => "TRUNCATE TABLE " ++ identifier name
  | begin => "START TRANSACTION"
  | commit => "COMMIT"
  | rollback => "ROLLBACK"

def databaseCount : String :=
  "SELECT count(*) FROM pg_database WHERE datname = $1"

def tablesAmong : String :=
  "SELECT tablename::text FROM pg_tables WHERE tablename = ANY($1) ORDER BY tablename"

end Testbed.Sql
