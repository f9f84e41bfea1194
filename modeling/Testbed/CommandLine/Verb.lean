import Testbed.Command
import Testbed.CommandLine.Reading

/-!
# Commands by name

Every command has a name, options of its own, and perhaps words that it passes on.
-/

namespace Testbed.CommandLine

inductive Verb where
  | setupTemplate
  | setupDatabase
  | teardownDatabase
  | dropDatabase
  | writeConfig
  | runScript (script : Script.Name)
  | scenario
  deriving DecidableEq, Repr

namespace Verb

def all : List Verb :=
  [setupTemplate, setupDatabase, teardownDatabase, dropDatabase, writeConfig, runScript .setup,
    runScript .update, scenario]

def word : Verb → String
  | setupTemplate => "setup-template"
  | setupDatabase => "setup-db"
  | teardownDatabase => "teardown-db"
  | dropDatabase => "drop-db"
  | writeConfig => "write-config"
  | runScript .setup => "run-setup"
  | runScript .update => "run-update"
  | scenario => "scenario"

def ofWord? (word : String) : Option Verb :=
  all.find? (·.word = word)

theorem ofWord?_word (v : Verb) : ofWord? v.word = some v := by
  cases v with
  | runScript script => cases script <;> decide
  | _ => decide

def purpose : Verb → String
  | setupTemplate => "Build the template database, or reuse an existing one"
  | setupDatabase => "Create a fresh scenario database from the template"
  | teardownDatabase => "Drop the scenario database unless it is kept"
  | dropDatabase => "Drop a database if it exists"
  | writeConfig => "Write the application config and print it as dotenv"
  | runScript .setup => "Run the application's setup script"
  | runScript .update => "Run the application's update script"
  | scenario => "Run a command against a fresh scenario database"

def options : Verb → List OptionName
  | setupTemplate | setupDatabase | teardownDatabase => []
  | dropDatabase => [.name]
  | writeConfig | runScript _ => [.database, .api, .unknown]
  | scenario => [.api, .unknown, .workingDirectory]

def takesWords : Verb → Bool
  | runScript _ | scenario => true
  | setupTemplate | setupDatabase | teardownDatabase | dropDatabase | writeConfig => false

def scope (v : Verb) : Scope where
  options := v.options ++ OptionName.everywhere
  takesWords := v.takesWords

def words (v : Verb) : Rest → Except Usage (List String)
  | .nothing | .escaped [] => .ok []
  | .words first rest | .escaped (first :: rest) =>
    if v.takesWords then .ok (first :: rest) else .error (.unexpected first)

/-- The first two options that exclude each other. -/
def conflict? (g : Given) : Option (OptionName × OptionName) :=
  [(.database, .api), (.database, .unknown), (.api, .unknown)].find? fun (a, b) =>
    g.has a && g.has b

def target (g : Given) : Target :=
  .ofFlags (g .database) (g.has .api) (g.has .unknown)

def command (v : Verb) (g : Given) (words : List String) : Except Usage Command :=
  match conflict? g with
  | some (first, second) => .error (.conflict first second)
  | none =>
    match v with
    | setupTemplate => .ok .setupTemplate
    | setupDatabase => .ok .setupDatabase
    | teardownDatabase => .ok .teardownDatabase
    | dropDatabase =>
      match g .name with
      | some name => .ok (.dropDatabase name)
      | none => .error (.missing .name)
    | writeConfig => .ok (.writeConfig (target g))
    | runScript script => .ok (.runScript script (target g) words)
    | scenario => .ok (.scenario (target g) ((g .workingDirectory).getD "") words)

def read (v : Verb) (environment : Variables) (words : List String) :
    Except Usage (Values × Command) := do
  let (reading, rest) ← v.scope.read {} words
  let passed ← v.words rest
  let values ← v.scope.finish environment reading
  return (values, ← v.command (values.typed.orElse values.ambient) passed)

end Verb

end Testbed.CommandLine
