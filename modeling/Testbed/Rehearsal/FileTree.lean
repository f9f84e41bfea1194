import Testbed.SystemFault
import Testbed.Text.Split
import Testbed.Text.Utf8

/-!
# File trees

Directories, files, programs and two devices, each at a path of segments from the root. There
are no links and no permissions other than that only programs can be started.
-/

namespace Testbed.Rehearsal

inductive Entry where
  | directory
  | file (content : List UInt8)
  | program (name : String)
  | nullDevice
  | zeroDevice
  deriving DecidableEq, Repr

/-- All entries by path. The root is a directory without an entry. -/
structure FileTree where
  entries : List (List String × Entry)

namespace FileTree

def find? (t : FileTree) (path : List String) : Option Entry :=
  if path = [] then some .directory
  else (t.entries.find? (·.1 = path)).map Prod.snd

def pieces (path : String) : List String :=
  (Text.splitOn '/' path.toList).map String.ofList

/-- Follows pieces from a place. Every place on the way has to be a directory, and the last one
need not exist. -/
def walk (t : FileTree) (place : List String) : List String → Except SystemFault (List String)
  | [] => .ok place
  | piece :: rest =>
    match t.find? place with
    | none => .error .noSuchEntry
    | some .directory =>
      if piece = "" || piece = "." then t.walk place rest
      else if piece = ".." then t.walk place.dropLast rest
      else t.walk (place ++ [piece]) rest
    | some _ => .error .notADirectory

def locate (t : FileTree) (workingDirectory : List String) (path : String) :
    Except SystemFault (List String) :=
  if path.isEmpty then .error .noSuchEntry
  else if path.toList.contains (Char.ofNat 0) then .error .nulInText
  else t.walk (if path.toList.head? = some '/' then [] else workingDirectory) (pieces path)

def open_ (t : FileTree) (workingDirectory : List String) (path : String) :
    Except SystemFault (List String × Entry) := do
  let place ← t.locate workingDirectory path
  match t.find? place with
  | some entry => return (place, entry)
  | none => throw .noSuchEntry

/-- The content of a file. The device without end is read up to nothing. -/
def read (t : FileTree) (workingDirectory : List String) (path : String) :
    Except SystemFault (List UInt8) := do
  match (← t.open_ workingDirectory path).2 with
  | .directory => throw .isADirectory
  | .file content => return content
  | .program _ | .nullDevice | .zeroDevice => return []

def put (t : FileTree) (place : List String) (entry : Entry) : FileTree :=
  if t.entries.any (·.1 = place) then
    ⟨t.entries.map fun e => if e.1 = place then (place, entry) else e⟩
  else ⟨t.entries ++ [(place, entry)]⟩

def remove (t : FileTree) (place : List String) : FileTree :=
  ⟨t.entries.filter fun e => !place.isPrefixOf e.1⟩

def children (t : FileTree) (place : List String) : List String :=
  t.entries.filterMap fun e =>
    if e.1.length = place.length + 1 && place.isPrefixOf e.1 then e.1.getLast? else none

def write (t : FileTree) (workingDirectory : List String) (path : String) (append : Bool)
    (content : List UInt8) : Except SystemFault FileTree := do
  let place ← t.locate workingDirectory path
  match t.find? place with
  | some .directory => throw .isADirectory
  | some (.file old) => return t.put place (.file (if append then old ++ content else content))
  | some (.program _) => throw .permissionDenied
  | some .nullDevice | some .zeroDevice => return t
  | none =>
    if path.toList.getLast? = some '/' then throw .isADirectory
    return t.put place (.file content)

def makeDirectories (t : FileTree) (place : List String) : FileTree :=
  (List.range place.length).foldl
    (fun t n =>
      let upTo := place.take (n + 1)
      if (t.find? upTo).isSome then t else t.put upTo .directory)
    t

def putFile (t : FileTree) (place : List String) (content : List UInt8) : FileTree :=
  (t.makeDirectories place.dropLast).put place (.file content)

end FileTree

end Testbed.Rehearsal
