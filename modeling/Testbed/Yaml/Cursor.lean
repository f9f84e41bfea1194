/-!
# Positions in a YAML text

A cursor holds what is left of the text and where that begins: how many characters, line ends
and characters of the line came before. A carriage return and a line feed together are one line
end.
-/

namespace Testbed.Yaml

def isBreak (c : Char) : Bool :=
  c == '\n' || c == '\r' || c.toNat == 0x85 || c.toNat == 0x2028 || c.toNat == 0x2029

def isBlank (c : Char) : Bool :=
  c == ' ' || c == '\t'

def isWordChar (c : Char) : Bool :=
  ('0' ≤ c && c ≤ '9') || ('A' ≤ c && c ≤ 'Z') || ('a' ≤ c && c ≤ 'z') || c == '_' || c == '-'

def isAllowed (c : Char) : Bool :=
  let n := c.toNat
  n == 9 || n == 10 || n == 13 || (0x20 ≤ n && n ≤ 0x7E) || n == 0x85 ||
    (0xA0 ≤ n && n ≤ 0xD7FF) || (0xE000 ≤ n && n ≤ 0xFFFD) || 0x10000 ≤ n

structure Cursor where
  rest : List Char
  index : Nat := 0
  line : Nat := 0
  column : Nat := 0

namespace Cursor

def ahead? (c : Cursor) (n : Nat) : Option Char :=
  c.rest[n]?

def next? (c : Cursor) : Option Char :=
  c.rest.head?

def isAt (c : Cursor) (x : Char) : Bool :=
  c.next? == some x

def atEnd (c : Cursor) : Bool :=
  c.rest.isEmpty

def atBreak (c : Cursor) : Bool :=
  c.next?.any isBreak

def atBlank (c : Cursor) : Bool :=
  c.next?.any isBlank

/-- Whether `n` places ahead there is a blank, a line end or nothing. -/
def gapAhead (c : Cursor) (n : Nat) : Bool :=
  (c.ahead? n).all fun x => isBlank x || isBreak x

def atGap (c : Cursor) : Bool :=
  c.gapAhead 0

def atBreakOrEnd (c : Cursor) : Bool :=
  c.next?.all isBreak

def skip (c : Cursor) : Cursor :=
  match c.rest with
  | [] => c
  | _ :: rest => ⟨rest, c.index + 1, c.line, c.column + 1⟩

def skipMany (c : Cursor) : Nat → Cursor
  | 0 => c
  | n + 1 => c.skip.skipMany n

def skipWhile (p : Char → Bool) (c : Cursor) : Cursor :=
  let n := (c.rest.takeWhile p).length
  ⟨c.rest.drop n, c.index + n, c.line, c.column + n⟩

/-- Passes a line end and gives the text that stands for it. -/
def readBreak (c : Cursor) : List Char × Cursor :=
  match c.rest with
  | '\r' :: '\n' :: rest => (['\n'], ⟨rest, c.index + 2, c.line + 1, 0⟩)
  | x :: rest =>
    let passed : Cursor := ⟨rest, c.index + 1, c.line + 1, 0⟩
    if x == '\r' || x == '\n' || x.toNat == 0x85 then (['\n'], passed)
    else if isBreak x then ([x], passed)
    else ([], c)
  | [] => ([], c)

def skipBreak (c : Cursor) : Cursor :=
  c.readBreak.2

/-- Whether a line begins with three times `x` and a gap. -/
def atMarker (c : Cursor) (x : Char) : Bool :=
  c.column == 0 && c.isAt x && c.ahead? 1 == some x && c.ahead? 2 == some x && c.gapAhead 3

def atDocumentMarker (c : Cursor) : Bool :=
  c.atMarker '-' || c.atMarker '.'

def skipComment (c : Cursor) : Cursor :=
  let c := c.skipWhile isBlank
  if c.isAt '#' then c.skipWhile fun x => !isBreak x else c

end Cursor

end Testbed.Yaml
