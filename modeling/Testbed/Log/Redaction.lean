import Testbed.Text.LowerCase
import Testbed.Text.Split

/-!
# Secrets in a log

The value under a key that names a secret is replaced as a whole. The value under a key that
names a connection string loses its password segments. Keys are compared in lower case.
-/

namespace Testbed.Log

open Text

/-- Keys whose whole value is secret. -/
def secretKeys : List String :=
  ["password", "db_pass", "db-pass", "secret", "token"]

def connectionKeys : List String :=
  ["dsn", "nominatim_database_dsn"]

def isPasswordSegment (segment : List Char) : Bool :=
  (after? "password=".toList segment).isSome

def maskSegment (segment : List Char) : List Char :=
  if isPasswordSegment segment then "password=REDACTED".toList else segment

/-- The connection string with the value of every password segment replaced. -/
def maskDsn (dsn : String) : String :=
  String.ofList (join ';' ((splitOn ';' dsn.toList).map maskSegment))

/-- The value as the log may show it. An empty secret stays empty. -/
def redact (key value : String) : String :=
  let key := String.ofList (lower key.toList)
  if key ∈ secretKeys then
    if value.isEmpty then "" else "REDACTED"
  else if key ∈ connectionKeys then maskDsn value
  else value

end Testbed.Log
