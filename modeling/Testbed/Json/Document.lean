import Testbed.Document
import Testbed.Json.Token

/-!
# JSON documents

The grammar of JSON as a machine over tokens. It knows which collections are open and what may
come next, and yields at most one event for each token. An object's keys are events like its
values.
-/

namespace Testbed.Json

open Document (Event Scalar Meaning)

inductive Frame where
  | array
  | object
  deriving DecidableEq, Repr

inductive Expected where
  | value
  | valueOrEnd
  | key
  | keyOrEnd
  | colon
  | separator
  | nothing
  deriving DecidableEq, Repr

structure Reader where
  frames : List Frame
  expected : Expected
  deriving DecidableEq, Repr

def nestingLimit : Nat := 127

def stringScalar (s : String) : Scalar where
  text := .ok s
  unset := .ok false
  flag := .error .wrongType
  meaning := .ok (.text s)

/-- A scalar that is no string as settings read it. -/
def plainScalar (meaning : Meaning) : Scalar where
  text := .error .wrongType
  unset := .ok (meaning = .null)
  flag := match meaning with
    | .flag value => .ok value
    | _ => .error .wrongType
  meaning := .ok meaning

def Reader.afterValue (r : Reader) : Reader :=
  { r with expected := if r.frames.isEmpty then .nothing else .separator }

def Reader.value (r : Reader) : Token → Option (Event × Reader)
  | .openArray =>
    if nestingLimit ≤ r.frames.length then none
    else some (.openSequence false, ⟨.array :: r.frames, .valueOrEnd⟩)
  | .openObject =>
    if nestingLimit ≤ r.frames.length then none
    else some (.openMapping false, ⟨.object :: r.frames, .keyOrEnd⟩)
  | .null => some (.scalar (plainScalar .null), r.afterValue)
  | .flag b => some (.scalar (plainScalar (.flag b)), r.afterValue)
  | .natural n => some (.scalar (plainScalar (.natural n)), r.afterValue)
  | .number => some (.scalar (plainScalar .number), r.afterValue)
  | .string s => some (.scalar (stringScalar s), r.afterValue)
  | _ => none

def Reader.close (r : Reader) : Option (Event × Reader) :=
  some (.close, Reader.afterValue ⟨r.frames.tail, r.expected⟩)

/-- Reads one token: `none` if it may not stand here. -/
def Reader.step (r : Reader) (t : Token) : Option (Option Event × Reader) :=
  let withEvent := fun (e, r) => (some e, r)
  match r.expected, t with
  | .value, t => (r.value t).map withEvent
  | .valueOrEnd, .closeArray => r.close.map withEvent
  | .valueOrEnd, t => (r.value t).map withEvent
  | .key, .string s | .keyOrEnd, .string s =>
    some (some (.scalar (stringScalar s)), { r with expected := .colon })
  | .keyOrEnd, .closeObject => r.close.map withEvent
  | .colon, .colon => some (none, { r with expected := .value })
  | .separator, t =>
    match r.frames.head?, t with
    | some .array, .comma => some (none, { r with expected := .value })
    | some .object, .comma => some (none, { r with expected := .key })
    | some .array, .closeArray | some .object, .closeObject => r.close.map withEvent
    | _, _ => none
  | _, _ => none

/-- The events of a token list, and whether all tokens were accepted and a value is complete. -/
def Reader.events (r : Reader) : List Token → List Event × Bool
  | [] => ([], r.expected = .nothing)
  | t :: rest =>
    match r.step t with
    | none => ([], false)
    | some (event, next) =>
      let (more, complete) := next.events rest
      (event.toList ++ more, complete)

def document (text : String) : Document :=
  let (tokens, lexed) := tokens text.toList
  let (events, parsed) := Reader.events ⟨[], .value⟩ tokens
  { events := events.toArray
    complete := lexed && parsed
    positional := true
    nesting := nestingLimit - 1 }

end Testbed.Json
