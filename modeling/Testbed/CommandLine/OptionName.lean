import Testbed.CommandLine.Kind
import Testbed.Config

/-!
# Options by name

Every option of the command line with its spelling, its kind, and the variable that stands in
for it where it is not given.
-/

namespace Testbed.CommandLine

inductive OptionName where
  | json
  | logLevel
  | config
  /-- An option that replaces a setting of the configuration. -/
  | setting (field : Config.Field)
  | database
  | api
  | unknown
  | name
  | workingDirectory
  deriving DecidableEq, Repr

namespace OptionName

/-- The word after the two hyphens. -/
def word : OptionName → String
  | json => "json"
  | logLevel => "log-level"
  | config => "config"
  | setting .buildDirectory => "build-dir"
  | setting .host => "db-host"
  | setting .port => "db-port"
  | setting .user => "db-user"
  | setting .password => "db-pass"
  | setting .templateDatabase => "template-db"
  | setting .testDatabase => "test-db"
  | setting .apiDatabase => "api-test-db"
  | setting .serverModulePath => "server-module-path"
  | setting .removeTemplate => "remove-template"
  | setting .keepTestDatabase => "keep-test-db"
  | setting .coverageDirectory => "coverage-dir"
  | setting .scriptCommand => "script-command"
  | setting .scriptExtension => "script-extension"
  | database => "db"
  | api => "api"
  | unknown => "unknown"
  | name => "name"
  | workingDirectory => "workdir"

def kind : OptionName → Kind
  | json | api | unknown => .switch
  | logLevel => .level
  | config | setting .buildDirectory | setting .coverageDirectory => .path
  | setting .removeTemplate | setting .keepTestDatabase => .choice
  | setting .host | setting .port | setting .user | setting .password
  | setting .templateDatabase | setting .testDatabase | setting .apiDatabase
  | setting .serverModulePath | setting .scriptCommand | setting .scriptExtension => .text
  | database | name | workingDirectory => .text

/-- What is read where the option is not given. -/
def standIn? : OptionName → Option String
  | json => some "GEOFIXTURE_JSON"
  | logLevel => some "GEOFIXTURE_LOG_LEVEL"
  | config => some "GEOFIXTURE_CONFIG"
  | setting .buildDirectory => some "GEOFIXTURE_BUILD_DIR"
  | setting .host => some "GEOFIXTURE_DB_HOST"
  | setting .port => some "GEOFIXTURE_DB_PORT"
  | setting .user => some "GEOFIXTURE_DB_USER"
  | setting .password => some "GEOFIXTURE_DB_PASS"
  | setting .templateDatabase => some "GEOFIXTURE_TEMPLATE_DB"
  | setting .testDatabase => some "GEOFIXTURE_TEST_DB"
  | setting .apiDatabase => some "GEOFIXTURE_API_TEST_DB"
  | setting .serverModulePath => some "GEOFIXTURE_SERVER_MODULE_PATH"
  | setting .removeTemplate => some "GEOFIXTURE_REMOVE_TEMPLATE"
  | setting .keepTestDatabase => some "GEOFIXTURE_KEEP_TEST_DB"
  | setting .coverageDirectory => some "GEOFIXTURE_COVERAGE_DIR"
  | setting .scriptCommand => some "GEOFIXTURE_SCRIPT_COMMAND"
  | setting .scriptExtension => some "GEOFIXTURE_SCRIPT_EXTENSION"
  | workingDirectory => some "GEOFIXTURE_WORKDIR"
  | database | api | unknown | name => none

def purpose : OptionName → String
  | json => "Enable JSON log output"
  | logLevel => "Minimum log level (debug, info, warn, error)"
  | config => "Harness config file (YAML, or JSON with a .json extension)"
  | setting .buildDirectory => "Application build directory containing utils/"
  | setting .host => "Database host"
  | setting .port => "Database port"
  | setting .user => "Database user"
  | setting .password => "Database password"
  | setting .templateDatabase => "Name of the cached template database"
  | setting .testDatabase => "Name of the per-scenario database"
  | setting .apiDatabase => "Name of the prebuilt API test database"
  | setting .serverModulePath => "Path of the database server module"
  | setting .removeTemplate =>
    "Always rebuild the template database (--remove-template=false to reuse it)"
  | setting .keepTestDatabase =>
    "Keep the scenario database after teardown (--keep-test-db=false to drop it)"
  | setting .coverageDirectory => "Directory for code coverage dumps"
  | setting .scriptCommand => "Interpreter command line for utility scripts"
  | setting .scriptExtension => "File extension of the utility scripts"
  | database => "Database to configure"
  | api => "Use the API test database"
  | unknown => "Use a database that does not exist"
  | name => "Database name"
  | workingDirectory => "Working directory for the command"

abbrev Value (o : OptionName) : Type := o.kind.Value

/-- The options that may stand before and after the command, in the order of their variables. -/
def everywhere : List OptionName :=
  [json, logLevel, config] ++ Config.Field.all.map setting

end OptionName

end Testbed.CommandLine
