import Testbed.Rehearsal.FileTree
import Testbed.Rehearsal.Shell.Pattern

/-!
# Patterns for paths

A field with signs of a pattern stands for the paths that match it, in ascending order. Each
segment is matched on its own, and a dot at the front of a name has to be given.
-/

namespace Testbed.Rehearsal.Shell

namespace Pattern

/-- Whether there is a sign that stands for other texts. -/
def isOpen (p : Pattern) : Bool :=
  p.any fun (quoted, c) => !quoted && (c = '*' || c = '?' || c = '[')

def text (p : Pattern) : Octets :=
  p.map (·.2)

def segments (p : Pattern) : List Pattern :=
  p.foldr (fun c parts =>
    if c.2 = '/' then [] :: parts
    else match parts with
      | [] => [[c]]
      | part :: rest => (c :: part) :: rest) [[]]

def standsFor (p : Pattern) (name : Octets) : Bool :=
  p.matchesAll name && (name.head? != some '.' || p.text.head? == some '.')

def names (p : Pattern) (files : FileTree) (place : List String) : List Octets :=
  (((files.children place).map Octets.ofText).filter p.standsFor).mergeSort fun a b => !(b < a)

/-- The paths for which segments stand, each after what was read before. -/
def pathsFrom (files : FileTree) (directory : List String) (before : Octets) :
    List Pattern → List Octets
  | [] => []
  | [last] => (steps last).filter fun path => (files.open_ directory path.toText).toOption.isSome
  | segment :: rest =>
    (steps segment).flatMap fun path => pathsFrom files directory (path ++ ['/']) rest
where
  steps (segment : Pattern) : List Octets :=
    if segment.isOpen then
      let here := if before.isEmpty then ".".toList else before
      match files.open_ directory (Octets.toText here) with
      | .ok (place, .directory) => (segment.names files place).map (before ++ ·)
      | _ => []
    else [before ++ segment.text]

/-- The paths for which a field stands, if it has signs of a pattern. -/
def paths (p : Pattern) (files : FileTree) (directory : List String) : List Octets :=
  if p.isOpen then pathsFrom files directory [] p.segments else []

end Pattern

end Testbed.Rehearsal.Shell
