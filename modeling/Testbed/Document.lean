/-!
# Documents as a sequence of events

A configuration file is read as a sequence of events, up to its end or to the first place where
it breaks the rules of its format. Both formats offer the same events. A scalar comes with its
reading for each kind of setting, because the formats differ in what they accept there.
-/

namespace Testbed

/-- What is wrong with a document. -/
inductive Problem where
  | unknownField (name : String)
  | duplicateField (name : String)
  | wrongType
  | syntaxError
  deriving DecidableEq, Repr

def Problem.message : Problem → String
  | unknownField name => "unknown field `" ++ name ++ "`"
  | duplicateField name => "duplicate field `" ++ name ++ "`"
  | wrongType => "wrong type"
  | syntaxError => "syntax"

namespace Document

/-- A scalar read without any expectation. -/
inductive Meaning where
  | null
  | flag (value : Bool)
  | natural (value : Nat)
  | number
  | text (value : String)
  deriving DecidableEq, Repr

/-- A scalar as the kinds of settings read it. -/
structure Scalar where
  /-- The text, where a text is expected. -/
  text : Except Problem String
  /-- Whether an optional setting counts as unset. -/
  unset : Except Problem Bool
  /-- The truth value, where one is expected. -/
  flag : Except Problem Bool
  /-- The reading without expectation. -/
  meaning : Except Problem Meaning
  /-- Whether the scalar may stand for a document without settings. -/
  isBlank : Bool := false

/-- One event. A collection may carry a tag of its own, which no setting accepts. A reference
stands for the node that begins at an earlier event. -/
inductive Event where
  | scalar (s : Scalar)
  | openSequence (tagged : Bool)
  | openMapping (tagged : Bool)
  | close
  | reference (target : Nat)
  | nothing

end Document

/-- The events of a document. It is complete if nothing is wrong up to its end. The numbers of
collections that may be open within a setting and of references that may be followed are
limited. -/
structure Document where
  events : Array Document.Event
  complete : Bool
  /-- Whether a sequence of values in the order of the settings is a document. -/
  positional : Bool
  /-- How many collections may be open inside the outermost one. -/
  nesting : Nat

namespace Document

def references (d : Document) : Nat :=
  d.events.size * 100

/-- What is still to be done while a node is read: its collection is open, or reading goes on
behind the reference that led here. -/
inductive Pending where
  | collection
  | after (position : Nat)

/-- What is open while a node is read. -/
structure Survey where
  position : Nat
  pending : List Pending
  opened : Nat
  followed : Nat

/-- Goes on after a finished node, leaving the references that led to it. -/
def Survey.leave : Survey → Survey
  | ⟨_, .after position :: pending, opened, followed⟩ =>
    Survey.leave ⟨position, pending, opened, followed⟩
  | s => s
  termination_by s => s.pending.length

/-- Reads one event inside a node: what is wrong with it, or where to go on. -/
def Survey.step (d : Document) (s : Survey) : Except Problem Survey :=
  match d.events[s.position]? with
  | none | some .nothing => .error .syntaxError
  | some (.scalar scalar) => do
    let _ ← scalar.meaning
    return Survey.leave { s with position := s.position + 1 }
  | some (.openSequence tagged) | some (.openMapping tagged) =>
    if tagged || d.nesting ≤ s.opened then .error .syntaxError
    else .ok
      { s with
        position := s.position + 1
        pending := .collection :: s.pending
        opened := s.opened + 1 }
  | some .close =>
    .ok (Survey.leave
      { s with
        position := s.position + 1
        pending := s.pending.tail
        opened := s.opened - 1 })
  | some (.reference target) =>
    if d.references ≤ s.followed then .error .syntaxError
    else .ok
      { s with
        position := target
        pending := .after (s.position + 1) :: s.pending
        followed := s.followed + 1 }

/-- The problem with a collection where none is accepted. It is read to its end first, and
anything that is wrong inside comes before the complaint about its type. -/
def surveyFrom (d : Document) : Nat → Survey → Problem
  | 0, _ => .syntaxError
  | fuel + 1, s =>
    match s.step d with
    | .error problem => problem
    | .ok next => if next.pending.isEmpty then .wrongType else surveyFrom d fuel next

/-- Every step leaves an event behind or follows a reference, and the latter are limited. -/
def survey (d : Document) (start followed : Nat) : Problem :=
  surveyFrom d ((d.references + 1) * (d.events.size + 1)) ⟨start, [], 0, followed⟩

end Document

end Testbed
