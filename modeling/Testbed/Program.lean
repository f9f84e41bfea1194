import Testbed.CommandLine
import Testbed.CommandLine.Help
import Testbed.Live.Stage

/-!
# The program

A run of the program reads a command line, resolves the configuration, and carries out the
command in a system. Its outcome decides what is printed and with which code the program ends.
-/

namespace Testbed

/-- What comes of a run, apart from what it does to the system. -/
inductive Outcome where
  /-- Nothing was done. -/
  | refused (u : CommandLine.Usage)
  | ran (log : Log.Settings) (records : List Log.Record) (result : Except Failure String)

namespace Outcome

/-- The code with which the program ends. Showing help on request is a success. -/
def exitCode : Outcome → Nat
  | refused .help | refused .version => 0
  | refused _ => 2
  | ran _ _ (.ok _) => 0
  | ran _ _ (.error _) => 1

def printed : Outcome → String
  | refused .help => CommandLine.helpText
  | refused .version => CommandLine.versionText
  | refused _ => ""
  | ran _ _ (.ok text) => text
  | ran _ _ (.error _) => ""

/-- The records of the log. A failure is the last of them. -/
def records : Outcome → List Log.Record
  | refused _ => []
  | ran _ records (.ok _) => records
  | ran _ records (.error e) => records ++ [Log.error e.message []]

/-- What the user is told beside the output, with one time for all records. -/
def told (time : String) : Outcome → String
  | refused .help | refused .version => ""
  | refused .nothing => CommandLine.helpText
  | refused u => "error: " ++ u.message ++ "\n\n" ++ CommandLine.synopsis
  | ran settings rs result => Log.written settings time (ran settings rs result).records

end Outcome

namespace Program

variable {σ Client : Type} (S : System σ Client)

def obey (l : CommandLine) (w : σ) : Outcome × σ :=
  match l.resolve fun path => S.readFile path w with
  | .error fault => (.ran l.log [] (.error (.config fault)), w)
  | .ok config =>
    let (result, bench) := Command.run (Live.stage S config.connection) config
      (S.workingDirectory w) l.command { world := w }
    (.ran l.log bench.log result, bench.world)

def run (arguments : List String) (w : σ) : Outcome × σ :=
  match CommandLine.parse (S.environment w) arguments with
  | .error u => (.refused u, w)
  | .ok l => obey S l w

end Program

end Testbed
