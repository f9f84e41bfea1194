import Testbed.Rehearsal.Shell.PathPattern
import Testbed.Rehearsal.Shell.State

/-!
# Values of words

The value of a word is a row of octets that know whether they were quoted, with breaks between
arguments. From it come the fields of a command line, a single text, or a pattern.
-/

namespace Testbed.Rehearsal.Shell

/-- A part of the value of a word. -/
inductive Atom where
  | octet (quoted : Bool) (c : Char)
  /-- Quotes around nothing, which make a field nevertheless. -/
  | quotes
  /-- The end of one argument and the beginning of the next. -/
  | boundary
  deriving DecidableEq

def isBlank (c : Char) : Bool :=
  c = ' ' || c = '\t' || c = '\n'

namespace Atom

def ofText (quoted : Bool) (s : Octets) : List Atom :=
  if quoted then .quotes :: s.map (octet true) else s.map (octet false)

/-- The fields that a row of atoms makes, given the field at which it goes on. Blanks that are not
quoted end a field. -/
def fields (current : Option Pattern) : List Atom → List Pattern
  | [] => current.toList
  | .octet quoted c :: rest =>
    if !quoted && isBlank c then current.toList ++ fields none rest
    else fields (some (current.getD [] ++ [(quoted, c)])) rest
  | .quotes :: rest => fields (some (current.getD [])) rest
  | .boundary :: rest => current.toList ++ fields none rest

/-- The octets of a row. Arguments are joined by blanks. -/
def joined (row : List Atom) : Octets :=
  row.filterMap fun
    | octet _ c => some c
    | quotes => none
    | boundary => some ' '

def pattern (row : List Atom) : Pattern :=
  row.filterMap fun
    | octet quoted c => some (quoted, c)
    | quotes => none
    | boundary => some (false, ' ')

end Atom

/-- The words that a row of atoms makes. A field that stands for paths becomes these paths. -/
def fieldTexts (s : State) (row : List Atom) : List Octets :=
  (Atom.fields none row).flatMap fun field =>
    match field.paths s.files s.directory with
    | [] => [field.map (·.2)]
    | paths => paths

/-- What is done with the value of a parameter. -/
inductive Treatment where
  | plain
  | length
  /-- Another value where there is none. -/
  | orElse (word : Octets)
  /-- Another value where there is none, which is kept. -/
  | orAssign (word : Octets)
  /-- Another value where there is one. -/
  | andThen (word : Octets)
  | dropFront (most : Bool) (pattern : Octets)
  | dropBack (most : Bool) (pattern : Octets)

structure Reference where
  name : Octets
  /-- Whether an empty value counts as none. -/
  emptyIsNone : Bool := false
  treatment : Treatment := .plain

def referenceName (s : Octets) : Octets × Octets :=
  match s with
  | [] => ([], [])
  | c :: rest =>
    if startsName c then (c :: rest.takeWhile continuesName, rest.dropWhile continuesName)
    else if c.isDigit then (s.takeWhile Char.isDigit, s.dropWhile Char.isDigit)
    else ([c], rest)

def Reference.ofText? (s : Octets) : Option Reference :=
  match s with
  | '#' :: c :: rest =>
    let (name, after) := referenceName (c :: rest)
    if after = [] then some { name, treatment := .length } else none
  | s =>
    let (name, after) := referenceName s
    let (emptyIsNone, after) := match after with
      | ':' :: rest => (true, rest)
      | after => (false, after)
    let treatment? : Option Treatment := match after with
      | [] => some .plain
      | '-' :: word => some (.orElse word)
      | '=' :: word => some (.orAssign word)
      | '+' :: word => some (.andThen word)
      | '#' :: '#' :: pattern => some (.dropFront true pattern)
      | '#' :: pattern => some (.dropFront false pattern)
      | '%' :: '%' :: pattern => some (.dropBack true pattern)
      | '%' :: pattern => some (.dropBack false pattern)
      | _ => none
    if name = [] then none
    else treatment?.map fun treatment => { name, emptyIsNone, treatment }

/-- The value of a parameter as atoms. All arguments together are told apart if that is asked
for. -/
def parameterAtoms (s : State) (quoted : Bool) (name : Octets) : List Atom :=
  match name with
  | ['@'] =>
    List.intercalate [.boundary] (s.arguments.map (Atom.ofText quoted))
  | ['*'] =>
    if quoted then Atom.ofText true ([' '].intercalate s.arguments)
    else List.intercalate [.boundary] (s.arguments.map (Atom.ofText false))
  | name => Atom.ofText quoted ((s.parameter? name).getD [])

/-- The word inside an expansion as it would be read outside. -/
def innerWord (quoted : Bool) (s : Octets) : Option Word :=
  if quoted then (doubleQuoted (s.length + 2) (s ++ ['"'])).map (·.1)
  else innerPieces (s.length + 1) s
where
  /-- Signs that end a word elsewhere belong to it here. -/
  innerPieces : Nat → Octets → Option Word
    | 0, _ => none
    | n + 1, s => do
      match ← word (s.length + 1) s with
      | (pieces, []) => return pieces
      | (pieces, c :: rest) => return pieces ++ .text false [c] :: (← innerPieces n rest)

end Testbed.Rehearsal.Shell
