import Testbed.Text.Blank
import Testbed.Text.LowerCase

/-!
# Levels of a log

Four levels in ascending order. A level is written in any case and with blanks around it, and a
warning has two names.
-/

namespace Testbed.Log

inductive Level where
  | debug
  | info
  | warn
  | error
  deriving DecidableEq, Repr

namespace Level

/-- The place of the level, from the most talkative. -/
def rank : Level → Nat
  | debug => 0
  | info => 1
  | warn => 2
  | error => 3

def name : Level → String
  | debug => "DEBUG"
  | info => "INFO"
  | warn => "WARN"
  | error => "ERROR"

end Level

/-- A text that names no level. -/
structure UnknownLevel where
  text : String

def UnknownLevel.message (e : UnknownLevel) : String :=
  "unknown log level '" ++ e.text ++ "' (expected debug, info, warn or error)"

/-- Reads the name of a level. Only ASCII letters are read in either case. -/
def Level.ofText (s : String) : Except UnknownLevel Level :=
  match String.ofList (Text.lowerAscii (Text.trim s.toList)) with
  | "debug" => .ok .debug
  | "info" => .ok .info
  | "warn" | "warning" => .ok .warn
  | "error" => .ok .error
  | other => .error ⟨other⟩

end Testbed.Log
