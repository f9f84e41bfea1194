import Testbed.Job.Status
import Testbed.Rehearsal.Shell.Command
import Testbed.Rehearsal.Shell.Utility

/-!
# The state of a shell

A shell has files, variables, arguments, and descriptors, each of which leads to a file, to a
pipe, or nowhere. All that is written to pipes is kept, so that the content of a pipe can be read
off at any time.
-/

namespace Testbed.Rehearsal.Shell

/-- Where a descriptor leads. -/
inductive Sink where
  | closed
  | nowhere
  | pipe (number : Nat)
  | file (place : List String)
  deriving DecidableEq

structure Binding where
  name : Octets
  value : Octets
  exported : Bool

structure State where
  files : FileTree
  directory : List String
  /-- The name under which the script runs. -/
  name : Octets
  arguments : List Octets := []
  bindings : List Binding := []
  functions : List (Octets × Command) := []
  status : Nat := 0
  sinks : List (Nat × Sink) := [(1, .pipe 0), (2, .pipe 1)]
  input : Octets := []
  /-- What was written to pipes, the last first. -/
  written : List (Nat × Octets) := []
  /-- The number of the next pipe. -/
  pipes : Nat := 2
  /-- Whether the shell ends when a command fails. -/
  strict : Bool := false
  /-- Whether the shell ends when a parameter is not set. -/
  wary : Bool := false
  /-- How many conditions are being tested, in which a failure is no reason to end. -/
  tested : Nat := 0

namespace State

/-- The number by which the shell's process is known to scripts. -/
def processNumber : Nat := 1000

def lookup? (s : State) (name : Octets) : Option Octets :=
  (s.bindings.find? (·.name = name)).map (·.value)

def assign (name value : Octets) (s : State) : State :=
  if s.bindings.any (·.name = name) then
    { s with bindings := s.bindings.map fun b => if b.name = name then { b with value } else b }
  else { s with bindings := s.bindings ++ [⟨name, value, false⟩] }

def export_ (name : Octets) (s : State) : State :=
  { s with bindings := s.bindings.map fun b =>
      if b.name = name then { b with exported := true } else b }

def unset (name : Octets) (s : State) : State :=
  { s with bindings := s.bindings.filter (·.name ≠ name) }

def environment (s : State) : List (Octets × Octets) :=
  (s.bindings.filter (·.exported)).map fun b => (b.name, b.value)

def sink (s : State) (descriptor : Nat) : Sink :=
  ((s.sinks.find? (·.1 = descriptor)).map (·.2)).getD .closed

def setSink (descriptor : Nat) (sink : Sink) (s : State) : State :=
  { s with sinks := (descriptor, sink) :: s.sinks.filter (·.1 ≠ descriptor) }

def content (s : State) (pipe : Nat) : Octets :=
  ((s.written.reverse.filter (·.1 = pipe)).map (·.2)).flatten

def write (descriptor : Nat) (text : Octets) (s : State) : Bool × State :=
  if text = [] then (true, s)
  else
    match s.sink descriptor with
    | .closed => (false, s)
    | .nowhere => (true, s)
    | .pipe number => (true, { s with written := (number, text) :: s.written })
    | .file place =>
      match s.files.find? place with
      | some (.file old) =>
        (true, { s with files := s.files.put place (.file (old ++ text.toBytes)) })
      | _ => (true, s)

def call (s : State) (speaker : String) (arguments : List Octets) : Call where
  speaker
  arguments
  input := s.input
  files := s.files
  directory := s.directory
  environment := s.environment

def complain (line : Nat) (text : String) (s : State) : State :=
  (s.write 2 (s.name ++ Octets.ofText (": " ++ toString line ++ ": " ++ text ++ "\n"))).2

def parameter? (s : State) (name : Octets) : Option Octets :=
  match name with
  | ['?'] => some (Octets.ofNat s.status)
  | ['#'] => some (Octets.ofNat s.arguments.length)
  | ['$'] => some (Octets.ofNat processNumber)
  | ['0'] => some s.name
  | ['-'] | ['!'] => some []
  | ['@'] | ['*'] => if s.arguments = [] then none else some ([' '].intercalate s.arguments)
  | name =>
    match Octets.digits? name with
    | some n => s.arguments[n - 1]?
    | none => s.lookup? name

end State

def standardPath : Octets :=
  "/usr/local/sbin:/usr/local/bin:/usr/sbin:/usr/bin:/sbin:/bin".toList

def searchPath (path : Octets) : List String :=
  (Text.splitOn ':' path).map fun d => if d = [] then "." else Octets.toText d

inductive StartFault where
  | refused
  | missing
  | notADirectory
  deriving DecidableEq

def programAt (files : FileTree) (directory : List String) (path : String) :
    Except StartFault String :=
  match files.open_ directory path with
  | .ok (_, .program name) => .ok name
  | .ok _ => .error .refused
  | .error .notADirectory => .error .notADirectory
  | .error _ => .error .missing

/-- The program that a word names: by its path if it has a slash, and otherwise the first one of
its name in the directories for programs. -/
def findProgram (files : FileTree) (directory : List String) (path : Octets) (word : String) :
    Except StartFault String :=
  if word.isEmpty then .error .missing
  else if word.toList.contains '/' then programAt files directory word
  else
    (searchPath path).foldr
      (fun place found => match programAt files directory (place ++ "/" ++ word), found with
        | .ok name, _ => .ok name
        | .error .refused, .error .missing => .error .refused
        | .error _, found => found)
      (.error .missing)

end Testbed.Rehearsal.Shell
