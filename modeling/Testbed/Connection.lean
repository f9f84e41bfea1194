import Testbed.Text.Numeral
import Testbed.Text.Quoted

/-!
# Connections to the database server

Four settings say where the server is and who connects. The application receives them as a
connection string, which holds the settings that are set and no other. The tool itself fills
the gaps from the variables of its process and then from the defaults.
-/

namespace Testbed

abbrev Variables := String → Option String

def Variables.nonEmpty (vars : Variables) (name : String) : Option String :=
  (vars name).filter fun value => !value.isEmpty

namespace Connection

structure Params where
  host : Option String := none
  port : Option String := none
  user : Option String := none
  password : Option String := none
  deriving DecidableEq, Repr

/-- The settings by name, in the order of the connection string. -/
def Params.named (p : Params) : List (String × Option String) :=
  [("host", p.host), ("port", p.port), ("user", p.user), ("password", p.password)]

def segment : String × Option String → String
  | (name, some value) => ";" ++ name ++ "=" ++ value
  | (_, none) => ""

def Params.dsn (p : Params) (database : String) : String :=
  "pgsql:dbname=" ++ database ++ String.join (p.named.map segment)

/-- Where a server listens. -/
inductive Host where
  | tcp (name : String)
  | socket (directory : String)
  deriving DecidableEq, Repr

/-- A host that starts with a slash is the directory of a socket. -/
def Host.ofText (s : String) : Host :=
  if s.toList.head? = some '/' then .socket s else .tcp s

/-- Where the server's socket is if nothing else is said. -/
def Host.standard : Host :=
  .socket "/var/run/postgresql"

structure Resolved where
  database : String
  host : Host
  port : Option Nat
  user : Option String
  password : Option String
  deriving DecidableEq, Repr

/-- A port that is no number of sixteen bits. -/
structure BadPort where
  text : String
  deriving DecidableEq, Repr

def BadPort.message (e : BadPort) : String :=
  "invalid database port " ++ Text.quoted e.text

def portOf (text : Option String) : Except BadPort (Option Nat) :=
  match text with
  | none => .ok none
  | some text =>
    match Text.word16? text.toList with
    | some port => .ok (some port)
    | none => .error ⟨text⟩

/-- Completes the settings from the variables and the defaults. -/
def Params.resolve (p : Params) (vars : Variables) (database : String) :
    Except BadPort Resolved := do
  let port ← portOf (p.port <|> vars.nonEmpty "PGPORT")
  return {
    database
    host := ((p.host <|> vars.nonEmpty "PGHOST").map Host.ofText).getD Host.standard
    port
    user := p.user <|> vars.nonEmpty "PGUSER" <|> vars.nonEmpty "USER"
    password := p.password <|> vars.nonEmpty "PGPASSWORD" }

end Connection

end Testbed
