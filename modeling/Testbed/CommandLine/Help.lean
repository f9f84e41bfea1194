import Testbed.CommandLine.Verb

/-!
# Help

The text that lists the commands and the options.
-/

namespace Testbed.CommandLine

def programName : String := "geofixture"

def programVersion : String := "0.1.0"

def helpLine (name purpose : String) : String :=
  "  " ++ name ++ String.ofList (List.replicate (30 - name.length) ' ') ++ purpose ++ "\n"

/-- The line of an option, with a mark where a value follows. -/
def optionLine (o : OptionName) : String :=
  let value := if o.kind.implied?.isSome then "" else " <VALUE>"
  helpLine ("--" ++ o.word ++ value) o.purpose

def verbLines (v : Verb) : String :=
  helpLine v.word v.purpose ++ String.join (v.options.map fun o => "  " ++ optionLine o)

def synopsis : String :=
  "Usage: " ++ programName ++ " [OPTIONS] <COMMAND>\n"

def helpText : String :=
  "Database and environment fixtures for geocoder BDD tests\n\n" ++ synopsis ++
    "\nCommands:\n" ++ String.join (Verb.all.map verbLines) ++
    "\nOptions:\n" ++ String.join (OptionName.everywhere.map optionLine)

def versionText : String :=
  programName ++ " " ++ programVersion ++ "\n"

end Testbed.CommandLine
