import Testbed.Text.Quoted

/-!
# Faults of files and processes

Why the system refuses to open a file, to start a process or to tell a path, and in which words.
The reasons that a test run meets have names.
-/

namespace Testbed

inductive SystemFault where
  | noSuchEntry
  | permissionDenied
  | notADirectory
  | isADirectory
  | nulInText
  | notUtf8
  | emptyPath
  /-- Any other reason, in the system's own words. -/
  | other (text : String)
  deriving DecidableEq, Repr

def SystemFault.message : SystemFault → String
  | noSuchEntry => "No such file or directory (os error 2)"
  | permissionDenied => "Permission denied (os error 13)"
  | notADirectory => "Not a directory (os error 20)"
  | isADirectory => "Is a directory (os error 21)"
  | nulInText => "nul byte found in provided data"
  | notUtf8 => "stream did not contain valid UTF-8"
  | emptyPath => "cannot make an empty path absolute"
  | other text => text

structure TemporaryFault where
  reason : SystemFault
  path : String
  deriving DecidableEq, Repr

def TemporaryFault.message (e : TemporaryFault) : String :=
  e.reason.message ++ " at path " ++ Text.quoted e.path

end Testbed
