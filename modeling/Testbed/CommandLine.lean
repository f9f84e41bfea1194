import Testbed.CommandLine.Verb
import Testbed.Config.File

/-!
# The command line

A command line consists of options, the name of a command, and what follows it. An option after
the command wins over the same option before it, and both win over its variable.
-/

namespace Testbed

open CommandLine

structure CommandLine where
  /-- How the log is kept. -/
  log : Log.Settings
  /-- The configuration file. -/
  configFile : Option String
  overrides : Overrides
  command : Command
  deriving DecidableEq, Repr

namespace CommandLine

/-- What may precede the command. -/
def outerScope : Scope where
  options := OptionName.everywhere
  hasVersion := true

def helpWord : String := "help"

/-- What comes of asking for help about the given commands, none of which has commands of its
own. -/
def helpAbout : List String → Usage
  | [] => .help
  | word :: rest =>
    if (Verb.ofWord? word).isNone && word ≠ helpWord then .unknownCommand word
    else
      match rest with
      | [] => .help
      | next :: _ => .unknownCommand next

def withoutCommand (values : Values) : Usage :=
  if outerScope.options.any (values.typed.orElse values.ambient).has then .noCommand else .nothing

/-- What is said to a word that cannot be a command because the options were ended before it. -/
def outOfPlace (word : String) : Usage :=
  if (Verb.ofWord? word).isSome || word = helpWord then .unexpected word else .unknownCommand word

def logSettings (g : Given) : Log.Settings where
  style := match g .json with
    | some true => .json
    | some false | none => .text
  threshold := (g .logLevel).getD .info

def overridesOf (g : Given) : Overrides where
  buildDirectory := g (.setting .buildDirectory)
  host := g (.setting .host)
  port := g (.setting .port)
  user := g (.setting .user)
  password := g (.setting .password)
  templateDatabase := g (.setting .templateDatabase)
  testDatabase := g (.setting .testDatabase)
  apiDatabase := g (.setting .apiDatabase)
  serverModulePath := g (.setting .serverModulePath)
  removeTemplate := g (.setting .removeTemplate)
  keepTestDatabase := g (.setting .keepTestDatabase)
  coverageDirectory := g (.setting .coverageDirectory)
  scriptCommand := g (.setting .scriptCommand)
  scriptExtension := g (.setting .scriptExtension)

def ofGiven (g : Given) (command : Command) : CommandLine where
  log := logSettings g
  configFile := g .config
  overrides := overridesOf g
  command := command

/-- The values of both scopes in their order of precedence. -/
def joined (inner outer : Values) : Given :=
  inner.typed.orElse (outer.typed.orElse inner.ambient)

/-- Reads a command line without the name of the program. What follows the command is read
before the options that precede it are settled. -/
def parse (environment : Variables) (arguments : List String) : Except Usage CommandLine := do
  let (reading, rest) ← outerScope.read {} arguments
  match rest with
  | .nothing | .escaped [] => throw (withoutCommand (← outerScope.finish environment reading))
  | .escaped (word :: _) => throw (outOfPlace word)
  | .words word words =>
    if word = helpWord then throw (helpAbout words)
    match Verb.ofWord? word with
    | none => throw (.unknownCommand word)
    | some verb =>
      let (inner, command) ← verb.read environment words
      let outer ← outerScope.finish environment reading
      return ofGiven (joined inner outer) command

def resolve (l : CommandLine) (readFile : String → Except SystemFault (List UInt8)) :
    Except Config.Fault Config := do
  let base ← match l.configFile with
    | some path => Config.ofFile path (readFile path)
    | none => .ok {}
  base.override l.overrides

end CommandLine

end Testbed
