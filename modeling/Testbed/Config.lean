import Testbed.Connection
import Testbed.Document
import Testbed.Script.Launcher
import Testbed.SystemFault
import Testbed.Text.Blank
import Testbed.Text.Numeral
import Testbed.Text.Quoted

/-!
# Configuration

The settings of the tool, with their defaults, and overrides that replace some of them. An
optional setting with nothing but blanks counts as unset. A configuration is valid if its
database names can be told apart as far as they have to be, its port is a port, and scripts can
be started.
-/

namespace Testbed

structure Config where
  buildDirectory : String := "build"
  host : Option String := none
  port : Option String := none
  user : Option String := none
  password : Option String := none
  templateDatabase : String := "test_template_nominatim"
  testDatabase : String := "test_nominatim"
  apiDatabase : String := "test_api_nominatim"
  serverModulePath : Option String := none
  removeTemplate : Bool := false
  keepTestDatabase : Bool := false
  coverageDirectory : Option String := none
  scriptCommand : String := "/usr/bin/env php -Cq"
  scriptExtension : String := "php"
  deriving DecidableEq, Repr

/-- Settings given beside the configuration file. What is not given stays as it is. -/
structure Overrides where
  buildDirectory : Option String := none
  host : Option String := none
  port : Option String := none
  user : Option String := none
  password : Option String := none
  templateDatabase : Option String := none
  testDatabase : Option String := none
  apiDatabase : Option String := none
  serverModulePath : Option String := none
  removeTemplate : Option Bool := none
  keepTestDatabase : Option Bool := none
  coverageDirectory : Option String := none
  scriptCommand : Option String := none
  scriptExtension : Option String := none
  deriving DecidableEq, Repr

namespace Config

/-- The settings by name, in the order of a positional document. -/
inductive Field where
  | buildDirectory
  | host
  | port
  | user
  | password
  | templateDatabase
  | testDatabase
  | apiDatabase
  | serverModulePath
  | removeTemplate
  | keepTestDatabase
  | coverageDirectory
  | scriptCommand
  | scriptExtension
  deriving DecidableEq, Repr

def Field.all : List Field :=
  [.buildDirectory, .host, .port, .user, .password, .templateDatabase, .testDatabase,
    .apiDatabase, .serverModulePath, .removeTemplate, .keepTestDatabase, .coverageDirectory,
    .scriptCommand, .scriptExtension]

def Field.key : Field → String
  | buildDirectory => "BUILDDIR"
  | host => "DB_HOST"
  | port => "DB_PORT"
  | user => "DB_USER"
  | password => "DB_PASS"
  | templateDatabase => "TEMPLATE_DB"
  | testDatabase => "TEST_DB"
  | apiDatabase => "API_TEST_DB"
  | serverModulePath => "SERVER_MODULE_PATH"
  | removeTemplate => "REMOVE_TEMPLATE"
  | keepTestDatabase => "KEEP_TEST_DB"
  | coverageDirectory => "PHPCOV"
  | scriptCommand => "SCRIPT_COMMAND"
  | scriptExtension => "SCRIPT_EXTENSION"

def Field.ofKey? (key : String) : Option Field :=
  Field.all.find? (·.key = key)

theorem Field.ofKey?_key (f : Field) : Field.ofKey? f.key = some f := by
  cases f <;> decide

inductive Format where
  | yaml
  | json
  deriving DecidableEq, Repr

def Format.name : Format → String
  | yaml => "YAML"
  | json => "JSON"

/-- Why there is no configuration. -/
inductive Fault where
  | unreadable (path : String) (reason : SystemFault)
  | malformed (format : Format) (problem : Problem)
  | emptyName (field : Field)
  | sameName (name : String)
  | badPort (text : String)
  | noScriptCommand
  | noBuildDirectory
  deriving DecidableEq, Repr

def Fault.message : Fault → String
  | unreadable path reason => "reading config '" ++ path ++ "': " ++ reason.message
  | malformed format problem => "parsing config " ++ format.name ++ ": " ++ problem.message
  | emptyName field => field.key ++ " must not be empty"
  | sameName name => "TEST_DB must differ from TEMPLATE_DB (both are '" ++ name ++ "')"
  | badPort text => "DB_PORT must be a port number, got " ++ Text.quoted text
  | noScriptCommand => "SCRIPT_COMMAND must not be empty"
  | noBuildDirectory => "BUILDDIR must not be empty"

/-- An optional text that holds more than blanks. -/
def unlessBlank (value : Option String) : Option String :=
  value.filter fun s => !Text.onlyBlanks s.toList

/-- The configuration with blank optional settings unset. -/
def normalised (c : Config) : Config :=
  { c with
    host := unlessBlank c.host
    port := unlessBlank c.port
    user := unlessBlank c.user
    password := unlessBlank c.password
    serverModulePath := unlessBlank c.serverModulePath
    coverageDirectory := c.coverageDirectory.filter fun s => !s.isEmpty }

def fault? (c : Config) : Option Fault :=
  if c.templateDatabase.isEmpty then some (.emptyName .templateDatabase)
  else if c.testDatabase.isEmpty then some (.emptyName .testDatabase)
  else if c.apiDatabase.isEmpty then some (.emptyName .apiDatabase)
  else if c.templateDatabase = c.testDatabase then some (.sameName c.testDatabase)
  else match c.port.filter fun port => (Text.word16? port.toList).isNone with
    | some port => some (.badPort port)
    | none =>
      if (Text.words c.scriptCommand.toList).isEmpty then some .noScriptCommand
      else if c.buildDirectory.isEmpty then some .noBuildDirectory
      else none

def validate (c : Config) : Except Fault Unit :=
  match c.fault? with
  | some fault => .error fault
  | none => .ok ()

/-- The normalised configuration, if it is valid. -/
def checked (c : Config) : Except Fault Config := do
  c.normalised.validate
  return c.normalised

def overlay (c : Config) (o : Overrides) : Config where
  buildDirectory := o.buildDirectory.getD c.buildDirectory
  host := o.host <|> c.host
  port := o.port <|> c.port
  user := o.user <|> c.user
  password := o.password <|> c.password
  templateDatabase := o.templateDatabase.getD c.templateDatabase
  testDatabase := o.testDatabase.getD c.testDatabase
  apiDatabase := o.apiDatabase.getD c.apiDatabase
  serverModulePath := o.serverModulePath <|> c.serverModulePath
  removeTemplate := o.removeTemplate.getD c.removeTemplate
  keepTestDatabase := o.keepTestDatabase.getD c.keepTestDatabase
  coverageDirectory := o.coverageDirectory <|> c.coverageDirectory
  scriptCommand := o.scriptCommand.getD c.scriptCommand
  scriptExtension := o.scriptExtension.getD c.scriptExtension

def override (c : Config) (o : Overrides) : Except Fault Config :=
  (c.overlay o).checked

def connection (c : Config) : Connection.Params where
  host := c.host
  port := c.port
  user := c.user
  password := c.password

def reuseTemplate (c : Config) : Bool :=
  !c.removeTemplate

def launcher? (c : Config) : Option Script.Launcher :=
  Script.Launcher.ofCommand? c.scriptCommand c.scriptExtension

end Config

end Testbed
