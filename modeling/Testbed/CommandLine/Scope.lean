import Testbed.CommandLine.OptionName
import Testbed.Text.Split

/-!
# Words in a scope

A scope is a stretch of the command line with options of its own: before the command, or after
it. Within a scope every word is of one sort, which depends on the word alone.
-/

namespace Testbed.CommandLine

/-- What may be given in a stretch of the command line. -/
structure Scope where
  options : List OptionName
  /-- Whether there may be words from which on nothing is an option. Words that look like
  unknown options are then such words. -/
  takesWords : Bool := false
  /-- Whether the version can be asked for. -/
  hasVersion : Bool := false

/-- The sorts of words. -/
inductive Piece where
  /-- Ends the options. -/
  | escape
  | help
  | version
  | option (o : OptionName) (value : Option String)
  /-- Gives a value to something that takes none. -/
  | surplus
  /-- Looks like an option that does not exist. -/
  | strange
  | plain
  deriving DecidableEq, Repr

namespace Scope

/-- The sort of a word that looks like an option that does not exist. -/
def strange (s : Scope) : Piece :=
  if s.takesWords then .plain else .strange

/-- The sort of two hyphens, a name, and perhaps an equals sign and a value. -/
def longPiece (s : Scope) (name : String) (value : Option String) : Piece :=
  let alone (piece : Piece) := if value.isSome then .surplus else piece
  if name = "help" then alone .help
  else if s.hasVersion && name = "version" then alone .version
  else
    match s.options.find? (·.word = name) with
    | none => s.strange
    | some o => if o.kind = .switch && value.isSome then .surplus else .option o value

/-- The letters that may follow a single hyphen. -/
def letters (s : Scope) : List Char :=
  if s.hasVersion then ['h', 'V'] else ['h']

/-- The sort of a hyphen with letters. The first letter decides, unless the word as a whole can
be something else. -/
def shortPiece (s : Scope) (first : Char) (rest : List Char) : Piece :=
  if s.takesWords && !(first :: rest).all s.letters.contains then .plain
  else if first = 'h' then .help
  else if first = 'V' && s.hasVersion then .version
  else .strange

def piece (s : Scope) (word : String) : Piece :=
  match word.toList with
  | ['-', '-'] => .escape
  | '-' :: '-' :: long =>
    match Text.cut? '=' long with
    | some (name, value) => s.longPiece (String.ofList name) (some (String.ofList value))
    | none => s.longPiece (String.ofList long) none
  | '-' :: first :: rest => s.shortPiece first rest
  | _ => .plain

end Scope

end Testbed.CommandLine
