import Testbed.Job.Status
import Testbed.Log.Record
import Testbed.SystemFault
import Testbed.Text.Split
import Testbed.Text.Utf8

/-!
# What a process writes

The octets of one stream become one record per line. A line ends at a newline, and carriage
returns in front of that end are dropped. Octets that are no text are replaced, so that every
line is told.
-/

namespace Testbed.Job

inductive Stream where
  | stdout
  | stderr
  deriving DecidableEq, Repr

def Stream.name : Stream → String
  | stdout => "stdout"
  | stderr => "stderr"

def dropReturns (s : List Char) : List Char :=
  (s.reverse.dropWhile (· = '\r')).reverse

def lines (octets : List UInt8) : List String :=
  (Text.terminatedBy 10 octets).map fun piece =>
    String.ofList (dropReturns (Text.decodeLossy piece))

def records (stream : Stream) (octets : List UInt8) : List Log.Record :=
  (lines octets).map fun line => Log.info line [("stream", stream.name)]

/-- A process that has ended: what it wrote, and how it ended, if the system tells. -/
structure Finished where
  stdout : List UInt8
  stderr : List UInt8
  status : Except SystemFault Status

def Finished.records (f : Finished) : List Log.Record :=
  Job.records .stdout f.stdout ++ Job.records .stderr f.stderr

end Testbed.Job
