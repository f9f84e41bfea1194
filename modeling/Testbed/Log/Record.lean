import Testbed.Dictionary
import Testbed.Json.Text
import Testbed.Log.Level
import Testbed.Log.Redaction

/-!
# Records of a log and how they are written

A record has a level, a message and fields. It is written as one line of text or as one JSON
object, always with its fields redacted. Records below the threshold are not written.
-/

namespace Testbed.Log

structure Record where
  level : Level
  message : String
  fields : List (String × String)
  deriving DecidableEq, Repr

def debug (message : String) (fields : List (String × String)) : Record :=
  ⟨.debug, message, fields⟩

def info (message : String) (fields : List (String × String)) : Record :=
  ⟨.info, message, fields⟩

def warn (message : String) (fields : List (String × String)) : Record :=
  ⟨.warn, message, fields⟩

def error (message : String) (fields : List (String × String)) : Record :=
  ⟨.error, message, fields⟩

inductive Style where
  | text
  | json
  deriving DecidableEq, Repr

structure Settings where
  style : Style := .text
  threshold : Level := .info
  deriving DecidableEq, Repr

namespace Record

def redacted (r : Record) : List (String × String) :=
  r.fields.map fun f => (f.1, redact f.1 f.2)

/-- Time, level, message and fields, separated by spaces. -/
def textLine (time : String) (r : Record) : String :=
  r.redacted.foldl (fun line f => line ++ " " ++ f.1 ++ "=" ++ f.2)
    (time ++ " [" ++ r.level.name ++ "] " ++ r.message)

/-- The members of the JSON object. A field may replace the time, the level or the message. -/
def members (time : String) (r : Record) : Dictionary :=
  (Dictionary.ofPairs [("time", time), ("level", r.level.name), ("msg", r.message)]).putAll
    r.redacted

def jsonLine (time : String) (r : Record) : String :=
  Json.objectText (r.members time).entries

/-- The record as one line, without its end. -/
def line (style : Style) (time : String) (r : Record) : String :=
  match style with
  | .text => r.textLine time
  | .json => r.jsonLine time

/-- What the log receives for one record. -/
def written (settings : Settings) (time : String) (r : Record) : String :=
  if r.level.rank < settings.threshold.rank then "" else r.line settings.style time ++ "\n"

end Record

def written (settings : Settings) (time : String) (records : List Record) : String :=
  String.join (records.map (Record.written settings time))

end Testbed.Log
