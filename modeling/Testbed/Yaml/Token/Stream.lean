import Testbed.Yaml.Token.Label

/-!
# The tokens of a YAML text

Tokens are found from the left. A mapping key may be recognised only at the colon behind it, so
the places where a key may have begun are remembered, one for each level of brackets, and the
tokens of a key are put in front of what was found since. A key has to stay on one line and
within 1024 characters. Outside of brackets, the column of a token opens and closes block
collections.

Reading goes on token by token: where a text breaks the rules, only the tokens are given that
no possible key could still precede.
-/

namespace Testbed.Yaml

/-- A place where a key may have begun: in front of the token with the given number. -/
structure PossibleKey where
  possible : Bool := false
  /-- Whether nothing but a key may stand here. -/
  required : Bool := false
  token : Nat := 0
  index : Nat := 0
  line : Nat := 0
  column : Nat := 0

/-- What was found so far. The newest token comes first, and so does the innermost key. -/
structure Found where
  cursor : Cursor
  tokens : List Token := []
  count : Nat := 0
  keys : List PossibleKey := [{}]
  indent : Int := -1
  indents : List Int := []
  keyAllowed : Bool := true

namespace Found

def inFlow (f : Found) : Bool :=
  1 < f.keys.length

def add (f : Found) (t : Token) : Found :=
  { f with tokens := t :: f.tokens, count := f.count + 1 }

/-- Puts a token in front of the one with the given number. -/
def insert (f : Found) (number : Nat) (t : Token) : Found :=
  let later := f.count - number
  { f with tokens := f.tokens.take later ++ t :: f.tokens.drop later, count := f.count + 1 }

def addIndicator (f : Found) (t : Token) (length : Nat) : Found :=
  { f.add t with cursor := f.cursor.skipMany length }

def unindent (f : Found) (column : Int) : Found :=
  if f.inFlow then f
  else
    let closed := (f.indent :: f.indents).takeWhile (column < ·)
    let left := (f.indent :: f.indents).drop closed.length
    let f := closed.foldl (fun f _ => f.add .blockEnd) f
    { f with indent := left.headD (-1), indents := left.tail }

/-- Opens a block collection at a column, in front of a token, unless one is open there. -/
def indentAt (f : Found) (column number : Nat) (t : Token) : Found :=
  if f.inFlow || (column : Int) ≤ f.indent then f
  else { f.insert number t with indent := column, indents := f.indent :: f.indents }

/-- Forgets the innermost possible key, which must not be required. -/
def dropKey (f : Found) : Option Found :=
  match f.keys with
  | [] => some f
  | k :: rest =>
    if k.possible && k.required then none
    else some { f with keys := { k with possible := false } :: rest }

def saveKey (f : Found) : Option Found :=
  if f.keyAllowed then do
    let c := f.cursor
    let g ← f.dropKey
    let key : PossibleKey :=
      { possible := true
        required := !f.inFlow && f.indent == (c.column : Int)
        token := f.count
        index := c.index
        line := c.line
        column := c.column }
    return { g with keys := key :: g.keys.tail }
  else some f

/-- Forgets the keys that would be too long. -/
def expireKeys (f : Found) : Option Found := do
  let keys ← f.keys.mapM fun k =>
    if k.possible && (k.line < f.cursor.line || k.index + 1024 < f.cursor.index) then
      if k.required then none else some { k with possible := false }
    else some k
  return { f with keys }

/-- The number of the first token that a key may still precede. -/
def settled (f : Found) : Nat :=
  f.keys.foldl (fun n k => if k.possible then min n k.token else n) f.count

/-- Passes blanks, comments and line ends. A new line may begin with a key. -/
def toNextToken : Nat → Found → Found
  | 0, f => f
  | fuel + 1, f =>
    let c := f.cursor
    let c := if c.column == 0 && (c.next?.any fun x => x.toNat == 0xFEFF) then c.skip else c
    let tabs := f.inFlow || !f.keyAllowed
    let c := c.skipWhile fun x => x == ' ' || (tabs && x == '\t')
    let c := if c.isAt '#' then c.skipWhile fun x => !isBreak x else c
    if c.atBreak then
      toNextToken fuel { f with cursor := c.skipBreak, keyAllowed := f.keyAllowed || !f.inFlow }
    else { f with cursor := c }

def andThen (f : Found) (keyAllowed : Bool) : Found :=
  { f with keyAllowed }

/-- The end of the text, which ends its last line too. -/
def streamEnd (f : Found) : Option Found := do
  let f ← (f.unindent (-1)).dropKey
  let c := f.cursor
  let cursor := if c.column == 0 then c else { c with line := c.line + 1, column := 0 }
  return { (f.add .streamEnd).andThen false with cursor }

def directive (f : Found) : Option Found := do
  let f ← (f.unindent (-1)).dropKey
  let (t, c) ← readDirective? f.cursor
  return { (f.add t).andThen false with cursor := c }

def documentMarker (f : Found) (t : Token) : Option Found := do
  let f ← (f.unindent (-1)).dropKey
  return (f.addIndicator t 3).andThen false

def openFlow (f : Found) (t : Token) : Option Found := do
  let f ← f.saveKey
  return ({ f with keys := {} :: f.keys }.addIndicator t 1).andThen true

def closeFlow (f : Found) (t : Token) : Option Found := do
  let f ← f.dropKey
  let keys := if f.inFlow then f.keys.tail else f.keys
  return ({ f with keys }.addIndicator t 1).andThen false

def flowEntry (f : Found) : Option Found := do
  return ((← f.dropKey).addIndicator .flowEntry 1).andThen true

/-- Between brackets a hyphen is found too, and refused when events are formed. -/
def blockEntry (f : Found) : Option Found := do
  if !f.inFlow && !f.keyAllowed then none
  let f ← (f.indentAt f.cursor.column f.count .blockSequenceStart).dropKey
  return (f.addIndicator .blockEntry 1).andThen true

def explicitKey (f : Found) : Option Found := do
  if !f.inFlow && !f.keyAllowed then none
  let f ← (f.indentAt f.cursor.column f.count .blockMappingStart).dropKey
  return (f.addIndicator .key 1).andThen !f.inFlow

/-- A colon ends the innermost possible key, or follows a key that was marked as one. -/
def value (f : Found) : Option Found :=
  match f.keys with
  | k :: rest =>
    if k.possible then
      let f := (f.insert k.token .key).indentAt k.column k.token .blockMappingStart
      let f := { f with keys := { k with possible := false } :: rest }
      some ((f.addIndicator .value 1).andThen false)
    else if !f.inFlow && !f.keyAllowed then none
    else
      let f := f.indentAt f.cursor.column f.count .blockMappingStart
      some ((f.addIndicator .value 1).andThen !f.inFlow)
  | [] => none

def anchor (f : Found) (make : String → Token) : Option Found := do
  let f ← f.saveKey
  let (name, c) ← readAnchor? f.cursor
  return { (f.add (make name)).andThen false with cursor := c }

def tag (f : Found) : Option Found := do
  let f ← f.saveKey
  let (handle, suffix, c) ← readTag? f.inFlow f.cursor
  return { (f.add (.tag handle suffix)).andThen false with cursor := c }

def blockScalar (f : Found) (literal : Bool) : Option Found := do
  let f ← f.dropKey
  let (text, c) ← Yaml.blockScalar literal f.indent f.cursor.skip
  let style := if literal then .literal else .folded
  return { (f.add (.scalar (String.ofList text) style)).andThen true with cursor := c }

def quotedScalar (f : Found) (quote : Char) : Option Found := do
  let f ← f.saveKey
  let (read, c) ← Yaml.quotedScalar quote (f.cursor.rest.length + 2) [] f.cursor.skip
  let t := Token.scalar (String.ofList read.reverse) .quoted
  return { (f.add t).andThen false with cursor := c }

/-- Behind a plain scalar that ended with a line end a key may begin. -/
def plainScalar (f : Found) : Option Found := do
  let f ← f.saveKey
  let (read, broken, c) ←
    Yaml.plainScalar f.inFlow (f.indent + 1).toNat (f.cursor.rest.length + 2) [] {} f.cursor
  let t := Token.scalar (String.ofList read.reverse) .plain
  return { (f.add t).andThen broken with cursor := c }

def atPlain (f : Found) : Bool :=
  let c := f.cursor
  match c.next? with
  | none => false
  | some x =>
    let reserved := ['-', '?', ':', ',', '[', ']', '\x7b', '\x7d', '#', '&', '*', '!', '|', '>',
      '\'', '"', '%', '@', '\x60']
    !(isBlank x || isBreak x || reserved.contains x) ||
      (x == '-' && !((c.ahead? 1).any isBlank)) ||
      (!f.inFlow && (x == '?' || x == ':') && !c.gapAhead 1)

def step (f : Found) : Option Found := do
  let f ← (f.toNextToken (f.cursor.rest.length + 1)).expireKeys
  let c := f.cursor
  let f := f.unindent (if c.atEnd then -1 else c.column)
  match c.next? with
  | none => f.streamEnd
  | some x =>
    if c.column == 0 && x == '%' then f.directive
    else if c.atMarker '-' then f.documentMarker .documentStart
    else if c.atMarker '.' then f.documentMarker .documentEnd
    else if x == '[' then f.openFlow .flowSequenceStart
    else if x == '\x7b' then f.openFlow .flowMappingStart
    else if x == ']' then f.closeFlow .flowSequenceEnd
    else if x == '\x7d' then f.closeFlow .flowMappingEnd
    else if x == ',' then f.flowEntry
    else if x == '-' && c.gapAhead 1 then f.blockEntry
    else if x == '?' && (f.inFlow || c.gapAhead 1) then f.explicitKey
    else if x == ':' && (f.inFlow || c.gapAhead 1) then f.value
    else if x == '*' then f.anchor .alias
    else if x == '&' then f.anchor .anchor
    else if x == '!' then f.tag
    else if x == '|' && !f.inFlow then f.blockScalar true
    else if x == '>' && !f.inFlow then f.blockScalar false
    else if x == '\'' || x == '"' then f.quotedScalar x
    else if f.atPlain then f.plainScalar
    else none

end Found

/-- The tokens of a text up to its end or up to where it breaks the rules. -/
structure Tokens where
  tokens : List Token
  complete : Bool

def tokensFrom : Nat → Found → Tokens
  | 0, f => ⟨f.tokens.reverse, false⟩
  | fuel + 1, f =>
    let broken : Tokens := ⟨f.tokens.reverse.take f.settled, false⟩
    match f.step >>= Found.expireKeys with
    | none => broken
    | some next =>
      if next.tokens.head? = some .streamEnd then ⟨next.tokens.reverse, true⟩
      else tokensFrom fuel next

/-- Every step passes at least one character. A text with a character that is not allowed has no
tokens. -/
def tokens (s : List Char) : Tokens :=
  if s.all isAllowed then
    tokensFrom (s.length + 1) { cursor := { rest := s }, tokens := [.streamStart], count := 1 }
  else ⟨[], false⟩

end Testbed.Yaml
