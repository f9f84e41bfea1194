import Testbed.CommandLine.Given
import Testbed.CommandLine.Scope
import Testbed.CommandLine.Usage
import Testbed.Connection

/-!
# Reading the options of a scope

Options are read until the first free word. The value of an option in a word of its own is
looked at only when the next option or the end is reached, so a word that cannot be used at all
is the first fault even if the value before it is bad too.
-/

namespace Testbed.CommandLine

/-- The option whose value is not looked at yet. -/
inductive Pending where
  | nothing
  /-- The next word that is no option is its value. -/
  | awaiting (o : OptionName)
  | held (o : OptionName) (text : String)
  deriving DecidableEq, Repr

/-- How far the options are read. -/
structure Reading where
  given : Given := .empty
  pending : Pending := .nothing

namespace Reading

/-- Reads the value of an option, which must not have one. -/
def take (r : Reading) (o : OptionName) (text : String) : Except Usage Reading :=
  if r.given.has o then .error (.repeated o)
  else
    match o.kind.read text with
    | .ok value => .ok { given := r.given.put o value }
    | .error fault => .error (.badValue o fault)

/-- Looks at the value of the option before. -/
def settle (r : Reading) : Except Usage Reading :=
  match r.pending with
  | .nothing => .ok r
  | .awaiting o => .error (.badValue o .missing)
  | .held o text => r.take o text

def meet (r : Reading) (o : OptionName) (value : Option String) : Except Usage Reading := do
  let r ← r.settle
  match value <|> o.kind.implied? with
  | some text => r.take o text
  | none => return { r with pending := .awaiting o }

/-- Settles the option before, and then ends. -/
def stop {α : Type} (r : Reading) (u : Usage) : Except Usage α := do
  let _ ← r.settle
  throw u

end Reading

/-- What follows the options. -/
inductive Rest where
  | nothing
  | words (first : String) (rest : List String)
  | escaped (words : List String)
  deriving DecidableEq, Repr

/-- Reads options up to the first free word. -/
def Scope.read (s : Scope) (r : Reading) : List String → Except Usage (Reading × Rest)
  | [] => .ok (r, .nothing)
  | word :: rest =>
    match s.piece word with
    | .escape => .ok (r, .escaped rest)
    | .help => r.stop .help
    | .version => r.stop .version
    | .surplus => .error (.surplusValue word)
    | .strange => .error (.unexpected word)
    | .option o value => do s.read (← r.meet o value) rest
    | .plain =>
      match r.pending with
      | .awaiting o => s.read { r with pending := .held o word } rest
      | .nothing | .held _ _ => .ok (r, .words word rest)

/-- The values from the words of a scope, and those from variables. -/
structure Values where
  typed : Given
  ambient : Given

/-- The values that variables give to the options that have none. -/
def ambient (environment : Variables) (typed : Given) (options : List OptionName) :
    Except Usage Given :=
  options.foldlM (fun (g : Given) o =>
    match o.standIn?.bind environment with
    | some text =>
      if typed.has o then .ok g
      else
        match o.kind.read text with
        | .ok value => .ok (g.put o value)
        | .error fault => .error (.badValue o fault)
    | none => .ok g) .empty

def Scope.finish (s : Scope) (environment : Variables) (r : Reading) : Except Usage Values := do
  let r ← r.settle
  return { typed := r.given, ambient := ← ambient environment r.given s.options }

end Testbed.CommandLine
