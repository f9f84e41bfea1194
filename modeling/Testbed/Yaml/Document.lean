import Testbed.Yaml.Resolve
import Testbed.Yaml.Token.Stream

/-!
# YAML documents

The events of the only document of a text. An anchor is numbered by how many names are known
when it is met, and an alias stands for the node that last received the number of its name.
-/

namespace Testbed.Yaml

/-- The events found so far, the numbers of the anchors, and the places of the numbers. -/
structure Loader where
  events : Array Document.Event := #[]
  names : List (String × Nat) := []
  places : List (Nat × Nat) := []

namespace Loader

def number? (l : Loader) (name : String) : Option Nat :=
  (l.names.find? (·.1 = name)).map Prod.snd

def bind (l : Loader) : Option String → Loader
  | none => l
  | some name =>
    let number := l.names.length
    { l with
      names := (name, number) :: l.names.filter (·.1 ≠ name)
      places := (number, l.events.size) :: l.places }

def push (l : Loader) (e : Document.Event) : Loader :=
  { l with events := l.events.push e }

/-- References are numbers until all anchors are known. -/
def resolve (l : Loader) : Array Document.Event :=
  l.events.map fun e =>
    match e with
    | .reference number =>
      .reference (((l.places.find? (·.1 = number)).map Prod.snd).getD l.events.size)
    | e => e

/-- The document up to where the text breaks the rules. -/
def finish (l : Loader) (complete : Bool) : Document where
  events := l.resolve
  complete := complete
  positional := false
  nesting := 127

/-- Loads one document. Behind it only the end of the text may follow. -/
def load (l : Loader) : List Event → Document
  | [] => l.finish false
  | .streamEnd :: _ => (l.push .nothing).finish true
  | .documentStart :: rest => l.load rest
  | .documentEnd :: rest => l.finish (rest.head? = some .streamEnd)
  | .alias name :: rest =>
    match l.number? name with
    | some number => (l.push (.reference number)).load rest
    | none => l.finish false
  | .scalar properties text style :: rest =>
    ((l.bind properties.anchor).push (.scalar (scalar properties.tag text style))).load rest
  | .sequenceStart properties :: rest =>
    ((l.bind properties.anchor).push (.openSequence (isOwnTag properties.tag))).load rest
  | .mappingStart properties :: rest =>
    ((l.bind properties.anchor).push (.openMapping (isOwnTag properties.tag))).load rest
  | .collectionEnd :: rest => (l.push .close).load rest

end Loader

def document (text : String) : Document :=
  Loader.load {} (events (tokens text.toList).tokens)

end Testbed.Yaml
