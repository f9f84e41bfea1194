import Testbed.Text.Quoted
import Testbed.Text.Split

/-!
# Arguments of a script

Arguments are flags and options, each in the order given. On the script's command line the
flags come first, and an underscore in the name of an option becomes a hyphen.
-/

namespace Testbed.Script

open Text

structure Arguments where
  flags : List String := []
  options : List (String × String) := []
  deriving DecidableEq, Repr

inductive TokenFault where
  | empty
  | unnamed (token : String)
  deriving DecidableEq, Repr

def TokenFault.message : TokenFault → String
  | empty => "empty script argument"
  | unnamed token => "script option " ++ quoted token ++ " has no name"

inductive Argument where
  | flag (name : String)
  | option (name value : String)
  deriving DecidableEq, Repr

/-- A token without one pair of leading hyphens. -/
def bare (token : String) : String :=
  match token.toList with
  | '-' :: '-' :: rest => String.ofList rest
  | _ => token

/-- Reads one token: what has an equals sign is an option, all else is a flag. -/
def Argument.ofToken (token : String) : Except TokenFault Argument :=
  let token := bare token
  if token.isEmpty then .error .empty
  else match cut? '=' token.toList with
    | some ([], _) => .error (.unnamed token)
    | some (name, value) => .ok (.option (String.ofList name) (String.ofList value))
    | none => .ok (.flag token)

namespace Arguments

def flag (args : Arguments) (name : String) : Arguments :=
  { args with flags := args.flags ++ [name] }

def withFlags (args : Arguments) (names : List String) : Arguments :=
  { args with flags := args.flags ++ names }

def option (args : Arguments) (name value : String) : Arguments :=
  { args with options := args.options ++ [(name, value)] }

/-- Adds one argument after those of its kind. -/
def add (args : Arguments) : Argument → Arguments
  | .flag name => args.flag name
  | .option name value => args.option name value

/-- Reads tokens from the left. The first faulty one decides. -/
def ofTokens (tokens : List String) : Except TokenFault Arguments :=
  tokens.foldlM (fun args token => do return args.add (← Argument.ofToken token)) {}

def toWords (args : Arguments) : List String :=
  args.flags.map ("--" ++ ·) ++
    args.options.flatMap fun (name, value) =>
      ["--" ++ String.ofList (substitute '_' '-' name.toList), value]

end Arguments

end Testbed.Script
