import Testbed.Config

/-!
# A configuration from a document

Settings are read in the order of the document, and the first problem decides. A key that is
unknown or comes a second time is a problem before its value is looked at. A positional document
gives the settings in their own order and may end early.
-/

namespace Testbed.Config

open Document (Event Scalar)

inductive Entry where
  | buildDirectory (value : String)
  | host (value : Option String)
  | port (value : Option String)
  | user (value : Option String)
  | password (value : Option String)
  | templateDatabase (value : String)
  | testDatabase (value : String)
  | apiDatabase (value : String)
  | serverModulePath (value : Option String)
  | removeTemplate (value : Bool)
  | keepTestDatabase (value : Bool)
  | coverageDirectory (value : Option String)
  | scriptCommand (value : String)
  | scriptExtension (value : String)
  deriving DecidableEq, Repr

def assign (c : Config) : Entry → Config
  | .buildDirectory v => { c with buildDirectory := v }
  | .host v => { c with host := v }
  | .port v => { c with port := v }
  | .user v => { c with user := v }
  | .password v => { c with password := v }
  | .templateDatabase v => { c with templateDatabase := v }
  | .testDatabase v => { c with testDatabase := v }
  | .apiDatabase v => { c with apiDatabase := v }
  | .serverModulePath v => { c with serverModulePath := v }
  | .removeTemplate v => { c with removeTemplate := v }
  | .keepTestDatabase v => { c with keepTestDatabase := v }
  | .coverageDirectory v => { c with coverageDirectory := v }
  | .scriptCommand v => { c with scriptCommand := v }
  | .scriptExtension v => { c with scriptExtension := v }

structure Cursor where
  position : Nat := 0
  followed : Nat := 0

abbrev Reader (α : Type) := Document → Cursor → Except Problem (α × Cursor)

/-- A node: its first event, and where it begins. -/
structure Node where
  event : Event
  start : Nat

/-- Reads the first event of the next node, following a reference to where the node stands. -/
def readNode (d : Document) (here : Cursor) : Except Problem (Node × Cursor) :=
  match d.events[here.position]? with
  | none => .error .syntaxError
  | some (.reference target) =>
    if d.references ≤ here.followed then .error .syntaxError
    else match d.events[target]? with
      | none => .error .syntaxError
      | some event => .ok (⟨event, target⟩, ⟨here.position + 1, here.followed + 1⟩)
  | some event => .ok (⟨event, here.position⟩, { here with position := here.position + 1 })

/-- What is expected of a value. -/
inductive Kind where
  | text
  | optionalText
  | port
  | flag

def Field.kind : Field → Kind
  | buildDirectory | templateDatabase | testDatabase | apiDatabase => .text
  | scriptCommand | scriptExtension => .text
  | host | user | password | serverModulePath | coverageDirectory => .optionalText
  | port => .port
  | removeTemplate | keepTestDatabase => .flag

def optionalText (s : Scalar) : Except Problem (Option String) := do
  if ← s.unset then return none else return some (← s.text)

/-- A port may be a text or a natural number, and the number is kept as its decimal text. -/
def portText (s : Scalar) : Except Problem (Option String) := do
  if ← s.unset then return none
  match ← s.meaning with
  | .natural n => return some (toString n)
  | .text t => return some t
  | _ => throw .wrongType

def Field.ofScalar (s : Scalar) : Field → Except Problem Entry
  | buildDirectory => .buildDirectory <$> s.text
  | host => .host <$> optionalText s
  | port => .port <$> portText s
  | user => .user <$> optionalText s
  | password => .password <$> optionalText s
  | templateDatabase => .templateDatabase <$> s.text
  | testDatabase => .testDatabase <$> s.text
  | apiDatabase => .apiDatabase <$> s.text
  | serverModulePath => .serverModulePath <$> optionalText s
  | removeTemplate => .removeTemplate <$> s.flag
  | keepTestDatabase => .keepTestDatabase <$> s.flag
  | coverageDirectory => .coverageDirectory <$> optionalText s
  | scriptCommand => .scriptCommand <$> s.text
  | scriptExtension => .scriptExtension <$> s.text

/-- The problem with a collection as the value of a setting. Only a port is read whole before
its type is looked at. -/
def Field.collectionProblem (d : Document) (node : Node) (followed : Nat) : Field → Problem
  | port => d.survey node.start followed
  | _ => .wrongType

def Field.read (f : Field) : Reader Entry := fun d here => do
  let (node, next) ← readNode d here
  match node.event with
  | .scalar s => return (← f.ofScalar s, next)
  | _ => throw (f.collectionProblem d node next.followed)

/-- Reads members up to the end of the mapping. -/
def readMembers : Nat → List Field → Config → Reader Config
  | 0, _, _ => fun _ _ => .error .syntaxError
  | fuel + 1, seen, c => fun d here => do
    let (node, next) ← readNode d here
    match node.event with
    | .close => return (c, next)
    | .scalar s =>
      let key ← s.text
      match Field.ofKey? key with
      | none => throw (.unknownField key)
      | some f =>
        if f ∈ seen then throw (.duplicateField key)
        let (entry, next) ← f.read d next
        readMembers fuel (f :: seen) (c.assign entry) d next
    | _ => throw .wrongType

def readValues (fields : List Field) (c : Config) : Reader Config := fun d here => do
  match d.events[here.position]? with
  | none => throw .syntaxError
  | some .close => return (c, { here with position := here.position + 1 })
  | some _ =>
    match fields with
    | [] => throw .syntaxError
    | f :: rest =>
      let (entry, next) ← f.read d here
      readValues rest (c.assign entry) d next

/-- Reads the outermost node. A document without content gives the defaults. -/
def readRoot : Reader Config := fun d here => do
  let (node, next) ← readNode d here
  match node.event with
  | .openMapping _ => readMembers d.events.size [] {} d next
  | .openSequence _ =>
    if d.positional then readValues Field.all {} d next else throw .wrongType
  | .nothing => return ({}, next)
  | .scalar s => if s.isBlank then return ({}, next) else throw .wrongType
  | _ => throw .wrongType

/-- The configuration that a document gives. What is wrong behind its end counts last. -/
def ofDocument (d : Document) : Except Problem Config := do
  let (c, _) ← readRoot d {}
  if d.complete then return c else throw .syntaxError

end Testbed.Config
