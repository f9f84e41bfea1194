import Testbed.CommandLine.OptionName

/-!
# Why a command line is not obeyed

Either it asks for help or for the version, or something is wrong with it.
-/

namespace Testbed.CommandLine

/-- What ends the reading of a command line early. -/
inductive Usage where
  | help
  | version
  /-- There are no words, and no variable stands in for any. -/
  | nothing
  | noCommand
  | unknownCommand (word : String)
  | unexpected (word : String)
  /-- A word that gives a value to what takes none. -/
  | surplusValue (word : String)
  | badValue (option : OptionName) (fault : ValueFault)
  | repeated (option : OptionName)
  | conflict (first second : OptionName)
  | missing (option : OptionName)
  deriving DecidableEq, Repr

namespace Usage

def spelled (o : OptionName) : String :=
  "'--" ++ o.word ++ "'"

def message : Usage → String
  | help | version | nothing => ""
  | noCommand => "a command is required"
  | unknownCommand word => "unrecognized command '" ++ word ++ "'"
  | unexpected word => "unexpected argument '" ++ word ++ "'"
  | surplusValue word => "unexpected value in '" ++ word ++ "'"
  | badValue option fault => spelled option ++ ": " ++ fault.message
  | repeated option => spelled option ++ " cannot be used multiple times"
  | conflict first second => spelled first ++ " cannot be used with " ++ spelled second
  | missing option => spelled option ++ " is required"

end Usage

end Testbed.CommandLine
