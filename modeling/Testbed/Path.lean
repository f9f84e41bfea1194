import Testbed.SystemFault
import Testbed.Text.Split

/-!
# Paths

Paths are texts whose segments are separated by slashes. Empty segments and single dots have no
meaning. Two dots are kept, because they may follow a symbolic link.
-/

namespace Testbed.Path

open Text

def isAbsolute (path : String) : Bool :=
  path.toList.head? = some '/'

/-- The path `part` seen from `base`: an absolute part stands for itself, and any other one
follows `base` after a slash. -/
def join (base part : String) : String :=
  if isAbsolute part then part
  else
    match base.toList.getLast? with
    | none => part
    | some '/' => base ++ part
    | some _ => base ++ "/" ++ part

/-- The segments that carry meaning, in order. -/
def segments (path : String) : List String :=
  ((splitOn '/' path.toList).filter fun s => s ≠ [] && s ≠ ['.']).map String.ofList

/-- Exactly two leading slashes may be special on some systems, and more than two are as good
as one. -/
def root (path : String) : String :=
  match path.toList with
  | ['/', '/'] => "//"
  | '/' :: '/' :: c :: _ => if c = '/' then "/" else "//"
  | _ => "/"

/-- The path seen from the working directory, with meaningless segments left out. A slash at
the end is kept, since it asks for a directory. -/
def absolute (workingDirectory path : String) : String :=
  let start := if isAbsolute path then root path else workingDirectory
  let plain := (segments path).foldl join start
  if path.toList.getLast? = some '/' then join plain "" else plain

/-- The absolute path, if it can be made. The working directory is only asked for where the path
depends on it. -/
def resolve (workingDirectory : Except SystemFault String) (path : String) :
    Except SystemFault String :=
  if path.isEmpty then .error .emptyPath
  else if isAbsolute path then .ok (absolute "" path)
  else workingDirectory.map fun directory => absolute directory path

/-- The last segment, unless it leads to a parent. -/
def name? (path : String) : Option String :=
  match (segments path).getLast? with
  | some ".." => none
  | last => last

/-- What follows the last dot of the name. A dot at the very start does not count. -/
def extension? (path : String) : Option String := do
  let name ← name? path
  let (after, before) := name.toList.reverse.span (· ≠ '.')
  match before with
  | '.' :: _ :: _ => some (String.ofList after.reverse)
  | _ => none

end Testbed.Path
