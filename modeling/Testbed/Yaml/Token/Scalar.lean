import Testbed.Yaml.Cursor
import Testbed.Json.Token

/-!
# Scalars in a YAML text

Plain, quoted and block scalars, read at a cursor. A single line end inside a scalar becomes a
space, and each further one stays a line end. Line ends and blanks are held back until it is
clear whether text follows.
-/

namespace Testbed.Yaml

/-- Blanks and line ends that were met and not yet written. -/
structure Held where
  blanks : List Char := []
  first : List Char := []
  others : List Char := []
  /-- Whether a line end was met. -/
  broken : Bool := false

namespace Held

/-- What stands for the held characters once text follows. -/
def joined (h : Held) : List Char :=
  if h.broken then
    if h.first = ['\n'] then (if h.others.isEmpty then [' '] else h.others)
    else h.first ++ h.others
  else h.blanks

/-- Holds a line end. Blanks in front of the first one are dropped. -/
def withBreak (h : Held) (text : List Char) : Held :=
  if h.broken then { h with others := h.others ++ text }
  else { h with blanks := [], first := text, broken := true }

end Held

/-- Holds the blanks and line ends at the cursor. In a plain scalar outside of brackets a tab may
not stand left of the indentation. -/
def holdGap (indent : Option Nat) : Nat → Held → Cursor → Option (Held × Cursor)
  | 0, _, _ => none
  | fuel + 1, h, c =>
    if c.atBlank then
      if h.broken && (indent.any (c.column < ·)) && c.isAt '\t' then none
      else
        let h := if h.broken then h else { h with blanks := h.blanks ++ c.rest.take 1 }
        holdGap indent fuel h c.skip
    else if c.atBreak then
      let (text, next) := c.readBreak
      holdGap indent fuel (h.withBreak text) next
    else some (h, c)

def isFlowIndicator (x : Char) : Bool :=
  x == ',' || x == '[' || x == ']' || x == '\x7b' || x == '\x7d'

/-- Reads the part of a plain scalar up to the next gap or indicator. Between brackets, a colon
in front of an indicator is not allowed. -/
def plainRun (flow : Bool) : Nat → List Char → Cursor → Option (List Char × Cursor)
  | 0, _, _ => none
  | fuel + 1, read, c =>
    match c.next? with
    | none => some (read, c)
    | some x =>
      if isBlank x || isBreak x then some (read, c)
      else if flow && x == ':' && (c.ahead? 1).any fun y => y == '?' || isFlowIndicator y then none
      else if (x == ':' && c.gapAhead 1) || (flow && isFlowIndicator x) then some (read, c)
      else plainRun flow fuel (x :: read) c.skip

/-- A plain scalar, read in reverse. It ends at a document mark, a comment, an indicator, or a
line that is not indented enough. The flag tells whether a line end was passed last. -/
def plainScalar (flow : Bool) (indent : Nat) :
    Nat → List Char → Held → Cursor → Option (List Char × Bool × Cursor)
  | 0, _, _, _ => none
  | fuel + 1, read, h, c => do
    if c.atDocumentMarker || c.isAt '#' then return (read, h.broken, c)
    let (run, c') ← plainRun flow fuel [] c
    let (read, h) :=
      if run.isEmpty then (read, h) else (run ++ h.joined.reverse ++ read, ({} : Held))
    if !(c'.atBlank || c'.atBreak) then return (read, h.broken, c')
    let (h, c) ← holdGap (some indent) fuel h c'
    if !flow && c.column < indent then return (read, h.broken, c)
    plainScalar flow indent fuel read h c

def escaped? (x : Char) : Option Char :=
  match x with
  | '0' => some (Char.ofNat 0)
  | 'a' => some (Char.ofNat 7)
  | 'b' => some (Char.ofNat 8)
  | 't' | '\t' => some '\t'
  | 'n' => some '\n'
  | 'v' => some (Char.ofNat 0x0B)
  | 'f' => some (Char.ofNat 0x0C)
  | 'r' => some '\r'
  | 'e' => some (Char.ofNat 0x1B)
  | ' ' | '"' | '/' | '\\' => some x
  | 'N' => some (Char.ofNat 0x85)
  | '_' => some (Char.ofNat 0xA0)
  | 'L' => some (Char.ofNat 0x2028)
  | 'P' => some (Char.ofNat 0x2029)
  | _ => none

def escapeLength? (x : Char) : Option Nat :=
  match x with
  | 'x' => some 2
  | 'u' => some 4
  | 'U' => some 8
  | _ => none

def hexNumber? (digits : List Char) : Option Nat :=
  digits.foldlM (fun n d => (Json.hexValue? d).map (n * 16 + ·)) 0

def escape? (c : Cursor) : Option (Char × Cursor) := do
  let x ← c.ahead? 1
  match escapeLength? x with
  | none => return (← escaped? x, c.skipMany 2)
  | some length =>
    let digits := (c.rest.drop 2).take length
    if digits.length < length then none
    else
      let n ← hexNumber? digits
      if (0xD800 ≤ n && n ≤ 0xDFFF) || 0x10FFFF < n then none
      else return (Char.ofNat n, c.skipMany (2 + length))

/-- Reads the part of a quoted scalar up to the next gap or the closing quote. The flag tells
whether it ended with an escaped line end. -/
def quotedRun (quote : Char) : Nat → List Char → Cursor → Option (List Char × Bool × Cursor)
  | 0, _, _ => none
  | fuel + 1, read, c =>
    if c.atGap then some (read, false, c)
    else if quote == '\'' && c.isAt '\'' && c.ahead? 1 == some '\'' then
      quotedRun quote fuel ('\'' :: read) (c.skipMany 2)
    else if c.isAt quote then some (read, false, c)
    else if quote == '"' && c.isAt '\\' then
      if (c.ahead? 1).any isBreak then some (read, true, c.skip.skipBreak)
      else match escape? c with
        | none => none
        | some (x, next) => quotedRun quote fuel (x :: read) next
    else quotedRun quote fuel (c.rest.take 1 ++ read) c.skip

/-- A quoted scalar behind its opening quote, read in reverse. -/
def quotedScalar (quote : Char) : Nat → List Char → Cursor → Option (List Char × Cursor)
  | 0, _, _ => none
  | fuel + 1, read, c => do
    if c.atDocumentMarker || c.atEnd then none
    let (run, broken, c) ← quotedRun quote (fuel + 1) [] c
    let read := run ++ read
    if c.isAt quote then return (read, c.skip)
    let (h, c) ← holdGap none (fuel + 1) { broken } c
    quotedScalar quote fuel (h.joined.reverse ++ read) c

/-- Line ends and the indentation in front of a line of a block scalar. An unknown indentation is
zero. The greatest column met is given back too. -/
def blockBreaks (indent : Nat) :
    Nat → Nat → List Char → Cursor → Option (List Char × Nat × Cursor)
  | 0, _, _, _ => none
  | fuel + 1, greatest, breaks, c =>
    let spaces := (c.rest.takeWhile (· == ' ')).length
    let c := c.skipMany (if indent = 0 then spaces else min spaces (indent - c.column))
    let greatest := max greatest c.column
    if (indent = 0 || c.column < indent) && c.isAt '\t' then none
    else if c.atBreak then
      let (text, next) := c.readBreak
      blockBreaks indent fuel greatest (breaks ++ text) next
    else some (breaks, greatest, c)

/-- The text of a block scalar that was read so far, in reverse, and what is held back. -/
structure Block where
  read : List Char := []
  first : List Char := []
  others : List Char := []
  /-- Whether the last line began with a blank. -/
  indented : Bool := false

/-- The block with the held line ends written, as far as they are not folded. -/
def Block.resume (b : Block) (literal indented : Bool) : Block :=
  let folds := !literal && b.first = ['\n'] && !b.indented && !indented
  let first := if folds then (if b.others.isEmpty then [' '] else []) else b.first
  { read := b.others.reverse ++ first.reverse ++ b.read, indented }

def blockLines (literal : Bool) (indent : Nat) : Nat → Block → Cursor → Option (Block × Cursor)
  | 0, _, _ => none
  | fuel + 1, b, c =>
    if c.column ≠ indent || c.atEnd then some (b, c)
    else do
      let b := b.resume literal c.atBlank
      let line := c.rest.takeWhile fun x => !isBreak x
      let (first, c) := (c.skipMany line.length).readBreak
      let (others, _, c) ← blockBreaks indent (fuel + 1) 0 [] c
      blockLines literal indent fuel { b with read := line.reverse ++ b.read, first, others } c

/-- Which line ends at the end of a block scalar are kept. -/
inductive Chomping where
  | strip
  | clip
  | keep
  deriving DecidableEq, Repr

def chomping? (c : Cursor) : Option Chomping :=
  if c.isAt '+' then some .keep else if c.isAt '-' then some .strip else none

/-- An indentation between one and nine, written as a digit. Zero is not allowed. -/
def increment? (c : Cursor) : Option (Option Nat × Cursor) :=
  match c.next? with
  | some x =>
    if x == '0' then none
    else if '1' ≤ x && x ≤ '9' then some (some (x.toNat - 48), c.skip)
    else some (none, c)
  | none => some (none, c)

/-- The header of a block scalar behind its indicator: a chomping mark and an indentation in
either order. -/
def blockHeader? (c : Cursor) : Option (Chomping × Option Nat × Cursor) :=
  match chomping? c with
  | some chomping => do
    let (increment, c) ← increment? c.skip
    return (chomping, increment, c)
  | none => do
    let (increment, c) ← increment? c
    match increment, chomping? c with
    | some _, some chomping => return (chomping, increment, c.skip)
    | _, _ => return (.clip, increment, c)

/-- A block scalar behind its indicator, inside collections indented by `outer`. -/
def blockScalar (literal : Bool) (outer : Int) (c : Cursor) : Option (List Char × Cursor) := do
  let fuel := c.rest.length + 2
  let (chomping, increment, c) ← blockHeader? c
  let c := c.skipComment
  if !c.atBreakOrEnd then none
  let c := c.skipBreak
  let given := increment.map fun n => outer.toNat + n
  let (others, greatest, c) ← blockBreaks (given.getD 0) fuel 0 [] c
  let indent := given.getD (max (max greatest (outer + 1).toNat) 1)
  let (b, c) ← blockLines literal indent fuel { others } c
  let tail := match chomping with
    | .strip => []
    | .clip => b.first
    | .keep => b.first ++ b.others
  return (b.read.reverse ++ tail, c)

end Testbed.Yaml
