import Testbed.Path
import Testbed.Rehearsal.FileTree

/-!
# A disk with a directory for temporary entries

A file tree seen from a working directory. Temporary entries receive names with six characters
that have not been used before.
-/

namespace Testbed.Rehearsal

structure Disk where
  files : FileTree
  /-- The directory for temporary entries. -/
  temporary : String
  workingDirectory : String := "/"
  /-- How many temporary names were given out. -/
  given : Nat := 0

namespace Disk

def here (d : Disk) : List String :=
  Path.segments d.workingDirectory

/-- Six characters for a number. -/
def sixCharacters (n : Nat) : String :=
  let digits := (Nat.toDigits 36 n).map fun c => if c.isAlphanum then c else 'Z'
  String.ofList (List.replicate (6 - digits.length) '0' ++ digits)

def temporaryPath (d : Disk) (stem ending : String) : String :=
  Path.join d.temporary (stem ++ sixCharacters d.given ++ ending)

def makeTemporary (entry : Entry) (stem ending : String) (d : Disk) :
    Except TemporaryFault String × Disk :=
  let path := d.temporaryPath stem ending
  let d := { d with given := d.given + 1 }
  match d.files.locate d.here path with
  | .error reason => (.error ⟨reason, path⟩, d)
  | .ok place => (.ok path, { d with files := d.files.put place entry })

def makeDirectory (stem : String) (d : Disk) : Except TemporaryFault String × Disk :=
  d.makeTemporary .directory stem ""

def makeFile (stem ending : String) (d : Disk) : Except TemporaryFault String × Disk :=
  d.makeTemporary (.file []) stem ending

def read (d : Disk) (path : String) : Except SystemFault (List UInt8) :=
  d.files.read d.here path

def readText? (d : Disk) (path : String) : Option String :=
  match d.read path with
  | .ok octets => (Text.decode? octets).map String.ofList
  | .error _ => none

def writeFile (path content : String) (d : Disk) : Except SystemFault Unit × Disk :=
  match d.files.write d.here path false (Text.encode content.toList) with
  | .ok files => (.ok (), { d with files })
  | .error reason => (.error reason, d)

def remove (path : String) (d : Disk) : Disk :=
  match d.files.locate d.here path with
  | .ok place => { d with files := d.files.remove place }
  | .error _ => d

def count (d : Disk) (path : String) : Nat :=
  match d.files.locate d.here path with
  | .ok place => (d.files.children place).length
  | .error _ => 0

end Disk

end Testbed.Rehearsal
