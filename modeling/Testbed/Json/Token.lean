import Testbed.Text.Numeral

/-!
# JSON tokens

A text is read as tokens from the left, up to its end or to the first place where no token can
be read. Numbers are told apart only as far as settings need it: a natural number of sixty-four
bits is known exactly, and any other number is just a number, unless it is too large for
binary floating point.
-/

namespace Testbed.Json

open Text (isDigit digitValue)

inductive Token where
  | openArray
  | closeArray
  | openObject
  | closeObject
  | colon
  | comma
  | null
  | flag (value : Bool)
  | natural (value : Nat)
  | number
  | string (value : String)
  deriving DecidableEq, Repr

def isBlank (c : Char) : Bool :=
  c == ' ' || c == '\n' || c == '\r' || c == '\t'

def hexValue? (c : Char) : Option Nat :=
  if '0' ≤ c && c ≤ '9' then some (c.toNat - 48)
  else if 'a' ≤ c && c ≤ 'f' then some (c.toNat - 87)
  else if 'A' ≤ c && c ≤ 'F' then some (c.toNat - 55)
  else none

/-- The number given by four hexadecimal digits. -/
def unit? (a b c d : Char) : Option Nat := do
  let a ← hexValue? a
  let b ← hexValue? b
  let c ← hexValue? c
  let d ← hexValue? d
  return ((a * 16 + b) * 16 + c) * 16 + d

/-- The character after a backslash, other than `u`. -/
def unescaped? (c : Char) : Option Char :=
  match c with
  | '"' | '\\' | '/' => some c
  | 'b' => some (Char.ofNat 8)
  | 'f' => some (Char.ofNat 12)
  | 'n' => some '\n'
  | 'r' => some '\r'
  | 't' => some '\t'
  | _ => none

/-- The character that two surrogates stand for. -/
def combined (high low : Nat) : Char :=
  Char.ofNat (0x10000 + (high - 0xD800) * 0x400 + (low - 0xDC00))

def isHigh (n : Nat) : Bool := 0xD800 ≤ n && n ≤ 0xDBFF
def isLow (n : Nat) : Bool := 0xDC00 ≤ n && n ≤ 0xDFFF

/-- Reads a string up to its closing quote. Surrogates have to come in pairs, and control
characters have to be escaped. -/
def stringBody : Nat → List Char → List Char → Option (List Char × List Char)
  | 0, _, _ => none
  | fuel + 1, read, s =>
    match s with
    | '"' :: rest => some (read.reverse, rest)
    | '\\' :: 'u' :: a :: b :: c :: d :: rest => do
      let n ← unit? a b c d
      if isHigh n then
        match rest with
        | '\\' :: 'u' :: a :: b :: c :: d :: rest =>
          let m ← unit? a b c d
          if isLow m then stringBody fuel (combined n m :: read) rest else none
        | _ => none
      else if isLow n then none
      else stringBody fuel (Char.ofNat n :: read) rest
    | '\\' :: c :: rest => do stringBody fuel ((← unescaped? c) :: read) rest
    | c :: rest => if c.toNat < 0x20 then none else stringBody fuel (c :: read) rest
    | [] => none

/-- The nearest number with fifty-three significant bits, an even last bit in a tie. -/
def nearest53 (n : Nat) : Nat :=
  let spare := n.log2 - 52
  let unit := Nat.pow 2 spare
  let below := n / unit
  let rest := n % unit
  if 2 * rest < unit || (2 * rest = unit && below % 2 = 0) then below * unit
  else (below + 1) * unit

/-- Whether significand times a power of ten exceeds binary floating point, each of the two
factors and the product being rounded. -/
def isTooLarge (significand : Nat) (exponent : Int) : Bool :=
  significand != 0 && 0 ≤ exponent &&
    (308 < exponent ||
      Nat.pow 2 1024 ≤ nearest53 (nearest53 significand * nearest53 (Nat.pow 10 exponent.toNat)))

/-- The significand of at most sixty-four bits that the digits begin with, and how many digits
follow it. -/
def significand : Nat → List Char → Nat × Nat
  | n, [] => (n, 0)
  | n, c :: rest =>
    if n * 10 + digitValue c < Nat.pow 2 64 then significand (n * 10 + digitValue c) rest
    else (n, rest.length + 1)

/-- A fraction: the dot and at least one digit, or nothing. -/
def fraction? : List Char → Option (List Char × List Char)
  | '.' :: rest =>
    let digits := rest.takeWhile isDigit
    if digits.isEmpty then none else some (digits, rest.dropWhile isDigit)
  | s => some ([], s)

/-- An exponent: its letter, an optional sign and at least one digit, or nothing. -/
def exponent? (s : List Char) : Option (Option Int × List Char) :=
  match s with
  | c :: rest =>
    if c = 'e' || c = 'E' then
      let (negative, rest) := match rest with
        | '-' :: rest => (true, rest)
        | '+' :: rest => (false, rest)
        | _ => (false, rest)
      let digits := rest.takeWhile isDigit
      if digits.isEmpty then none
      else
        let value : Int := Text.value digits
        some (some (if negative then -value else value), rest.dropWhile isDigit)
    else some (none, s)
  | [] => some (none, s)

/-- Digits without a leading zero, unless zero is all. -/
def integer? (s : List Char) : Option (List Char × List Char) :=
  let digits := s.takeWhile isDigit
  match digits with
  | [] => none
  | ['0'] => some (digits, s.dropWhile isDigit)
  | '0' :: _ => none
  | _ => some (digits, s.dropWhile isDigit)

/-- A number after its sign. Digits that the significand cannot hold count as zeros in front of
the dot and not at all behind it. -/
def unsigned? (negative : Bool) (s : List Char) : Option (Token × List Char) := do
  let (whole, rest) ← integer? s
  let (part, rest) ← fraction? rest
  let (power, rest) ← exponent? rest
  let (n, dropped) := significand 0 whole
  if part.isEmpty && power.isNone && dropped = 0 then
    return (if negative then .number else .natural n, rest)
  else
    let (m, ignored) := significand n part
    let places : Int := dropped - (part.length - ignored : Nat)
    if isTooLarge m (places + power.getD 0) then none else return (.number, rest)

def token? (s : List Char) : Option (Token × List Char) :=
  match s with
  | '[' :: rest => some (.openArray, rest)
  | ']' :: rest => some (.closeArray, rest)
  | '\x7b' :: rest => some (.openObject, rest)
  | '\x7d' :: rest => some (.closeObject, rest)
  | ':' :: rest => some (.colon, rest)
  | ',' :: rest => some (.comma, rest)
  | 'n' :: 'u' :: 'l' :: 'l' :: rest => some (.null, rest)
  | 't' :: 'r' :: 'u' :: 'e' :: rest => some (.flag true, rest)
  | 'f' :: 'a' :: 'l' :: 's' :: 'e' :: rest => some (.flag false, rest)
  | '"' :: rest =>
    (stringBody (rest.length + 1) [] rest).map fun (body, rest) =>
      (.string (String.ofList body), rest)
  | '-' :: rest => unsigned? true rest
  | _ => unsigned? false s

/-- The tokens of a text, and whether they reach its end. -/
def tokensFrom : Nat → List Char → List Token × Bool
  | 0, _ => ([], false)
  | fuel + 1, s =>
    match s.dropWhile isBlank with
    | [] => ([], true)
    | s@(_ :: _) =>
      match token? s with
      | none => ([], false)
      | some (t, rest) =>
        let (more, complete) := tokensFrom fuel rest
        (t :: more, complete)

/-- Every token takes at least one character. -/
def tokens (s : List Char) : List Token × Bool :=
  tokensFrom (s.length + 1) s

end Testbed.Json
