/-!
# Faults of the database server

What a client of the server was doing when it failed, and in which of three ways it failed.
-/

namespace Testbed

/-- How a client fails: the server refuses, something is not configured, or no server is there. -/
inductive ClientFault where
  | refused
  | incomplete
  | unreachable
  deriving DecidableEq, Repr

def ClientFault.message : ClientFault → String
  | refused => "db error"
  | incomplete => "invalid configuration"
  | unreachable => "error connecting to server"

inductive ServerTask where
  | connect (database : String)
  | lookUp (database : String)
  | drop (database : String)
  | create (database template : String)
  | listTables (database : String)
  | begin
  | truncate (table : String)
  | commit
  deriving DecidableEq, Repr

def ServerTask.text : ServerTask → String
  | connect database => "connecting to database '" ++ database ++ "'"
  | lookUp database => "looking up database '" ++ database ++ "'"
  | drop database => "dropping database '" ++ database ++ "'"
  | create database template =>
    "creating database '" ++ database ++ "' from template '" ++ template ++ "'"
  | listTables database => "listing tables in '" ++ database ++ "'"
  | begin => "beginning transaction"
  | truncate table => "truncating table '" ++ table ++ "'"
  | commit => "committing transaction"

end Testbed
