import Testbed.Yaml.Token

/-!
# YAML events

The grammar of YAML as a machine over tokens. Each step yields at most one event. What is still
open is kept as a stack of states to return to. Nodes that are left out become empty scalars.
-/

namespace Testbed.Yaml

/-- What stands in front of a node. -/
structure Properties where
  anchor : Option String := none
  tag : Option String := none
  deriving DecidableEq, Repr

inductive Event where
  | documentStart
  | documentEnd
  | streamEnd
  | alias (name : String)
  | scalar (properties : Properties) (text : String) (style : Style)
  | sequenceStart (properties : Properties)
  | mappingStart (properties : Properties)
  | collectionEnd
  deriving DecidableEq, Repr

namespace Grammar

inductive State where
  | streamStart
  | implicitDocument
  | documentStart
  | documentContent
  | documentEnd
  | blockNode
  | blockSequenceFirst
  | blockSequenceEntry
  | indentlessEntry
  | blockMappingFirst
  | blockMappingKey
  | blockMappingValue
  | flowSequenceFirst
  | flowSequenceEntry
  | pairKey
  | pairValue
  | pairEnd
  | flowMappingFirst
  | flowMappingKey
  | flowMappingValue
  | flowMappingNoValue
  | done
  deriving DecidableEq, Repr

/-- The tokens that are left, the state, the states to return to, and the shorthands for tags. -/
structure Parser where
  tokens : List Token
  state : State := .streamStart
  pending : List State := []
  shorthands : List (String × String) := []

/-- What a step leads to: perhaps an event, and the parser after it. -/
abbrev Step := Option (Option Event × Parser)

namespace Parser

def next? (p : Parser) : Option Token :=
  p.tokens.head?

def skip (p : Parser) : Parser :=
  { p with tokens := p.tokens.tail }

def goTo (p : Parser) (s : State) : Parser :=
  { p with state := s }

/-- Remembers where to go on after a node. -/
def push (p : Parser) (s : State) : Parser :=
  { p with pending := s :: p.pending }

/-- Goes on where the finished node was left. -/
def return_ (p : Parser) : Parser :=
  { p with state := p.pending.headD .done, pending := p.pending.tail }

def emit (p : Parser) (e : Event) : Step :=
  some (some e, p)

/-- An empty scalar where a node is left out. -/
def emitEmpty (p : Parser) : Step :=
  p.emit (.scalar {} "" .plain)

def standardShorthands : List (String × String) :=
  [("!", "!"), ("!!", "tag:yaml.org,2002:")]

def fullTag? (p : Parser) (handle suffix : String) : Option String :=
  if handle.isEmpty then some suffix
  else (p.shorthands.find? (·.1 = handle)).map fun s => s.2 ++ suffix

def properties (p : Parser) : Option String × Option (String × String) × Parser :=
  match p.tokens with
  | .anchor a :: .tag h s :: rest => (some a, some (h, s), { p with tokens := rest })
  | .anchor a :: rest => (some a, none, { p with tokens := rest })
  | .tag h s :: .anchor a :: rest => (some a, some (h, s), { p with tokens := rest })
  | .tag h s :: rest => (none, some (h, s), { p with tokens := rest })
  | _ => (none, none, p)

/-- Properties alone stand for an empty scalar. -/
def orEmpty (p : Parser) (properties : Properties) : Step :=
  if properties = {} then none else p.return_.emit (.scalar properties "" .plain)

/-- A node. Outside of brackets it may be a block collection, and in a mapping even a sequence
that is not indented. -/
def node (p : Parser) (block indentless : Bool) : Step := do
  if let some (.alias name) := p.next? then
    return (some (.alias name), p.skip.return_)
  let (anchor, written, p) := p.properties
  let tag ← match written with
    | some (handle, suffix) => (p.fullTag? handle suffix).map some
    | none => some none
  let properties : Properties := { anchor, tag }
  match ← p.next? with
  | .blockEntry =>
    if indentless then (p.goTo .indentlessEntry).emit (.sequenceStart properties)
    else p.orEmpty properties
  | .scalar text style =>
    let properties := if tag = some "!" then { properties with tag := none } else properties
    p.skip.return_.emit (.scalar properties text style)
  | .flowSequenceStart => (p.goTo .flowSequenceFirst).emit (.sequenceStart properties)
  | .flowMappingStart => (p.goTo .flowMappingFirst).emit (.mappingStart properties)
  | .blockSequenceStart =>
    if block then (p.goTo .blockSequenceFirst).emit (.sequenceStart properties)
    else p.orEmpty properties
  | .blockMappingStart =>
    if block then (p.goTo .blockMappingFirst).emit (.mappingStart properties)
    else p.orEmpty properties
  | _ => p.orEmpty properties

/-- A node after which to go on with `s`, unless the next token shows that it is left out. -/
def nodeOrEmpty (p : Parser) (s : State) (block indentless : Bool) (absent : Token → Bool) :
    Step := do
  if absent (← p.next?) then (p.goTo s).emitEmpty else (p.push s).node block indentless

/-- The directives in front of a document. There may be one version, and each handle may be
given one meaning. -/
def directives : List Token → Bool → List (String × String) →
    Option (List (String × String) × List Token)
  | .version major minor :: rest, versioned, known =>
    if versioned || major ≠ 1 || (minor ≠ 1 && minor ≠ 2) then none
    else directives rest true known
  | .tagShorthand handle expansion :: rest, versioned, known =>
    if known.any (·.1 = handle) then none
    else directives rest versioned (known ++ [(handle, expansion)])
  | rest, _, known => some (known, rest)

/-- Reads the directives. The standard shorthands come last, so that others may replace them. -/
def readDirectives (p : Parser) : Option Parser := do
  let (known, tokens) ← directives p.tokens false []
  return { p with tokens, shorthands := known ++ standardShorthands }

/-- The start of a document. The first one needs no mark if it has no directives. -/
def document (p : Parser) (implicit : Bool) : Step := do
  let p := if implicit then p else { p with tokens := p.tokens.dropWhile (· = .documentEnd) }
  let explicit (p : Parser) : Step := do
    let p ← p.readDirectives
    if p.next? = some .documentStart then
      ((p.skip.push .documentEnd).goTo .documentContent).emit .documentStart
    else none
  match ← p.next? with
  | .streamEnd => (p.skip.goTo .done).emit .streamEnd
  | .version _ _ | .tagShorthand _ _ | .documentStart => explicit p
  | _ =>
    if implicit then
      let p ← p.readDirectives
      ((p.push .documentEnd).goTo .blockNode).emit .documentStart
    else explicit p

/-- The content of a document that was started with a mark. -/
def content (p : Parser) : Step := do
  match ← p.next? with
  | .version _ _ | .tagShorthand _ _ | .documentStart | .documentEnd | .streamEnd =>
    p.return_.emitEmpty
  | _ => p.node true false

def close (p : Parser) : Step :=
  p.skip.return_.emit .collectionEnd

def blockSequence (p : Parser) : Step := do
  match ← p.next? with
  | .blockEntry =>
    p.skip.nodeOrEmpty .blockSequenceEntry true false fun t => t = .blockEntry || t = .blockEnd
  | .blockEnd => p.close
  | _ => none

def indentlessSequence (p : Parser) : Step := do
  match ← p.next? with
  | .blockEntry =>
    p.skip.nodeOrEmpty .indentlessEntry true false fun t =>
      t = .blockEntry || t = .key || t = .value || t = .blockEnd
  | _ => p.return_.emit .collectionEnd

/-- Tokens that show that a key or a value of a block mapping is left out. -/
def endsBlockItem (t : Token) : Bool :=
  t = .key || t = .value || t = .blockEnd

def blockMapping (p : Parser) : Step := do
  match ← p.next? with
  | .key => p.skip.nodeOrEmpty .blockMappingValue true true endsBlockItem
  | .blockEnd => p.close
  | _ => none

def blockMappingValue (p : Parser) : Step := do
  match ← p.next? with
  | .value => p.skip.nodeOrEmpty .blockMappingKey true true endsBlockItem
  | _ => (p.goTo .blockMappingKey).emitEmpty

/-- Passes the comma in front of an entry that is not the first. -/
def entry (p : Parser) (first : Bool) (closing : Token) : Option Parser := do
  if first || (← p.next?) = closing then return p
  if p.next? = some .flowEntry then return p.skip else none

def flowSequence (p : Parser) (first : Bool) : Step := do
  let p ← p.entry first .flowSequenceEnd
  match ← p.next? with
  | .flowSequenceEnd => p.close
  | .key => (p.skip.goTo .pairKey).emit (.mappingStart {})
  | _ => (p.push .flowSequenceEntry).node false false

/-- A missing key takes the token that shows that it is missing. -/
def pairKey (p : Parser) : Step := do
  match ← p.next? with
  | .value | .flowEntry | .flowSequenceEnd => (p.skip.goTo .pairValue).emitEmpty
  | _ => (p.push .pairValue).node false false

def pairValue (p : Parser) : Step := do
  match ← p.next? with
  | .value =>
    p.skip.nodeOrEmpty .pairEnd false false fun t => t = .flowEntry || t = .flowSequenceEnd
  | _ => (p.goTo .pairEnd).emitEmpty

def flowMapping (p : Parser) (first : Bool) : Step := do
  let p ← p.entry first .flowMappingEnd
  match ← p.next? with
  | .flowMappingEnd => p.close
  | .key =>
    p.skip.nodeOrEmpty .flowMappingValue false false fun t =>
      t = .value || t = .flowEntry || t = .flowMappingEnd
  | _ => (p.push .flowMappingNoValue).node false false

def flowMappingValue (p : Parser) : Step := do
  match ← p.next? with
  | .value =>
    p.skip.nodeOrEmpty .flowMappingKey false false fun t => t = .flowEntry || t = .flowMappingEnd
  | _ => (p.goTo .flowMappingKey).emitEmpty

/-- One step: `none` if the next token may not stand here, or there is none. -/
def step (p : Parser) : Step :=
  match p.state with
  | .streamStart => some (none, p.skip.goTo .implicitDocument)
  | .implicitDocument => p.document true
  | .documentStart => p.document false
  | .documentContent => p.content
  | .documentEnd => do
    let q := if (← p.next?) = .documentEnd then p.skip else p
    ({ q with shorthands := [] }.goTo .documentStart).emit .documentEnd
  | .blockNode => p.node true false
  | .blockSequenceFirst => p.skip.blockSequence
  | .blockSequenceEntry => p.blockSequence
  | .indentlessEntry => p.indentlessSequence
  | .blockMappingFirst => p.skip.blockMapping
  | .blockMappingKey => p.blockMapping
  | .blockMappingValue => p.blockMappingValue
  | .flowSequenceFirst => p.skip.flowSequence true
  | .flowSequenceEntry => p.flowSequence false
  | .pairKey => p.pairKey
  | .pairValue => p.pairValue
  | .pairEnd => (p.goTo .flowSequenceEntry).emit .collectionEnd
  | .flowMappingFirst => p.skip.flowMapping true
  | .flowMappingKey => p.flowMapping false
  | .flowMappingValue => p.flowMappingValue
  | .flowMappingNoValue => (p.goTo .flowMappingKey).emitEmpty
  | .done => none

def events : Nat → Parser → List Event
  | 0, _ => []
  | fuel + 1, p =>
    match p.step with
    | none => []
    | some (event, next) => event.toList ++ next.events fuel

end Parser

end Grammar

/-- The events of a token list. Each token leads to at most four steps, and a well-formed list
ends with the end of the stream. -/
def events (tokens : List Token) : List Event :=
  Grammar.Parser.events (4 * tokens.length + 4) { tokens }

end Testbed.Yaml
