import Testbed.Log.Level

/-!
# Kinds of options

The kind of an option decides whether a value follows it, how that value is read, and what type
it has.
-/

namespace Testbed.CommandLine

/-- What an option takes. -/
inductive Kind where
  /-- Nothing. The option is given or not. -/
  | switch
  /-- Any text. -/
  | text
  /-- A text that is not empty. -/
  | path
  /-- The name of a level of the log. -/
  | level
  /-- A word for yes or no behind an equals sign. Without it the answer is yes. -/
  | choice
  deriving DecidableEq, Repr

abbrev Kind.Value : Kind → Type
  | switch | choice => Bool
  | text | path => String
  | level => Log.Level

inductive ValueFault where
  | missing
  | empty
  | neitherTrueNorFalse (text : String)
  | neitherYesNorNo (text : String)
  | unknownLevel (text : String)
  deriving DecidableEq, Repr

def ValueFault.message : ValueFault → String
  | missing => "a value is required"
  | empty => "the value must not be empty"
  | neitherTrueNorFalse text => "'" ++ text ++ "' is neither true nor false"
  | neitherYesNorNo text => "'" ++ text ++ "' is neither yes nor no"
  | unknownLevel text => (Log.UnknownLevel.mk text).message

def yesWords : List String := ["y", "yes", "t", "true", "on", "1"]
def noWords : List String := ["n", "no", "f", "false", "off", "0"]

/-- Reads a word for yes or no, whatever its case. -/
def readChoice (text : String) : Except ValueFault Bool :=
  let word := String.ofList (Text.lower text.toList)
  if word ∈ yesWords then .ok true
  else if word ∈ noWords then .ok false
  else .error (.neitherYesNorNo text)

def Kind.read : (k : Kind) → String → Except ValueFault k.Value
  | switch, s =>
    if s = "true" then .ok true
    else if s = "false" then .ok false
    else .error (.neitherTrueNorFalse s)
  | text, s => .ok s
  | path, s => if s.isEmpty then .error .empty else .ok s
  | level, s => (Log.Level.ofText s).mapError fun e => .unknownLevel e.text
  | choice, s => readChoice s

/-- The value of an option that stands alone, if it may stand alone. -/
def Kind.implied? : Kind → Option String
  | switch | choice => some "true"
  | text | path | level => none

end Testbed.CommandLine
