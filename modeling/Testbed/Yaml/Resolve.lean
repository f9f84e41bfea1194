import Testbed.Document
import Testbed.Json.Token
import Testbed.Yaml.Event

/-!
# What a YAML scalar means

A plain scalar may be null, a truth value or a number. Any other scalar is a text. A tag can
demand one of these readings, and it is an error if the text has no such reading. A tag of its
own kind is accepted only where nothing looks at it.
-/

namespace Testbed.Yaml

open Document (Scalar Meaning)

def nullTag : String := "tag:yaml.org,2002:null"
def boolTag : String := "tag:yaml.org,2002:bool"
def intTag : String := "tag:yaml.org,2002:int"
def floatTag : String := "tag:yaml.org,2002:float"

def isNull (s : String) : Bool :=
  ["~", "null", "Null", "NULL"].contains s

def flag? (s : String) : Option Bool :=
  match s with
  | "true" | "True" | "TRUE" => some true
  | "false" | "False" | "FALSE" => some false
  | _ => none

def digitIn? (base : Nat) (c : Char) : Option Nat :=
  (Json.hexValue? c).filter (· < base)

/-- The number that digits denote, at least one and all in the base. -/
def natural? (base : Nat) (digits : List Char) : Option Nat :=
  if digits.isEmpty then none
  else digits.foldlM (fun n c => (digitIn? base c).map (n * base + ·)) 0

/-- Bases that are announced by a letter behind a zero. -/
def announced? (s : List Char) : Option (Nat × List Char) :=
  match s with
  | '0' :: 'x' :: digits => some (16, digits)
  | '0' :: 'o' :: digits => some (8, digits)
  | '0' :: 'b' :: digits => some (2, digits)
  | _ => none

def unsigned? (s : List Char) : Option Nat :=
  (announced? s).bind (fun (base, digits) => natural? base digits) <|> natural? 10 s

def afterSign (s : List Char) : List Char :=
  match s with
  | '+' :: rest | '-' :: rest => rest
  | _ => s

/-- Digits with a leading zero are no number. -/
def isZeroPadded (s : List Char) : Bool :=
  match afterSign s with
  | '0' :: rest => !rest.isEmpty && rest.all Text.isDigit
  | _ => false

def integer? (s : List Char) : Option Int :=
  if isZeroPadded s then none
  else match s with
    | '-' :: rest => (unsigned? rest).map fun n => -(n : Int)
    | '+' :: rest => (unsigned? rest).map fun n => (n : Int)
    | _ => (unsigned? s).map fun n => (n : Int)

/-- Whether a decimal number is within the range of binary floating point, given its digits and
the place of the last one. The greatest finite number is exceeded from half its last place on. -/
def isFinite (digits : List Char) (exponent : Int) : Bool :=
  let n := Text.value digits
  let bound := Nat.pow 2 1024 - Nat.pow 2 970
  let size : Int := (Nat.toDigits 10 n).length + exponent
  if n = 0 || size < 300 then true
  else if 310 < size then false
  else if 0 ≤ exponent then n * Nat.pow 10 exponent.toNat < bound
  else n < bound * Nat.pow 10 (-exponent).toNat

def isDecimal (s : List Char) : Bool :=
  let whole := s.takeWhile Text.isDigit
  let rest := s.dropWhile Text.isDigit
  let (part, rest) := match rest with
    | '.' :: rest => (rest.takeWhile Text.isDigit, rest.dropWhile Text.isDigit)
    | _ => ([], rest)
  if whole.isEmpty && part.isEmpty then false
  else match rest with
    | [] => isFinite (whole ++ part) (-part.length)
    | e :: rest =>
      let digits := afterSign rest
      let exponent : Int :=
        if rest.head? = some '-' then -(Text.value digits : Int) else Text.value digits
      (e == 'e' || e == 'E') && !digits.isEmpty && digits.all Text.isDigit &&
        isFinite (whole ++ part) (exponent - part.length)

/-- Whether a text is a number that is no integer: a decimal, an infinity or no number at all. -/
def isReal (s : List Char) : Bool :=
  let infinity := [".inf", ".Inf", ".INF"]
  let isInfinity (s : List Char) := infinity.contains (String.ofList s)
  [".nan", ".NaN", ".NAN"].contains (String.ofList s) ||
    match s with
    | '+' :: rest => isInfinity rest || isDecimal rest
    | '-' :: rest => isInfinity rest || isDecimal rest
    | _ => isInfinity s || isDecimal s

/-- An integer as a meaning. Beyond sixty-four bits, and up to twice as many, it is refused. -/
def integerMeaning (i : Int) : Except Problem Meaning :=
  if 0 ≤ i && i < Nat.pow 2 64 then .ok (.natural i.toNat)
  else if -Nat.pow 2 63 ≤ i && i < 0 then .ok .number
  else .error .wrongType

/-- The integer that a text denotes, if it has at most 128 bits. -/
def wideInteger? (s : List Char) : Option Int :=
  (integer? s).filter fun i => -Nat.pow 2 127 ≤ i && i < Nat.pow 2 128

def plainMeaning (s : String) : Except Problem Meaning :=
  if s.isEmpty || isNull s then .ok .null
  else match flag? s with
    | some b => .ok (.flag b)
    | none =>
      match wideInteger? s.toList with
      | some i => integerMeaning i
      | none =>
        if !isZeroPadded s.toList && isReal s.toList then .ok .number else .ok (.text s)

def isOwnTag (tag : Option String) : Bool :=
  tag.any fun t => t.toList.head? = some '!'

/-- What a scalar means to a reader without expectation. -/
def meaning (tag : Option String) (s : String) (style : Style) : Except Problem Meaning :=
  if isOwnTag tag then .error .syntaxError
  else if tag = some boolTag then
    match flag? s with
    | some b => .ok (.flag b)
    | none => .error .syntaxError
  else if tag = some intTag then
    match wideInteger? s.toList with
    | some i => integerMeaning i
    | none => .error .syntaxError
  else if tag = some floatTag then
    if isReal s.toList then .ok .number else .error .syntaxError
  else if tag = some nullTag then
    if isNull s then .ok .null else .error .syntaxError
  else if tag.isNone && style = .plain then plainMeaning s
  else .ok (.text s)

def unset (tag : Option String) (s : String) (style : Style) : Except Problem Bool :=
  if style ≠ .plain then .ok false
  else match tag with
    | some t =>
      if t = nullTag then if isNull s then .ok true else .error .syntaxError
      else .ok false
    | none => .ok (s.isEmpty || isNull s)

/-- The problem of a scalar where a truth value is expected: a tag that its text does not fit
comes before its type. -/
def flagProblem (tag : Option String) (s : String) : Problem :=
  if tag = some boolTag then if (flag? s).isNone then .syntaxError else .wrongType
  else if tag = some intTag then if (wideInteger? s.toList).isNone then .syntaxError else .wrongType
  else if tag = some floatTag then if isReal s.toList then .wrongType else .syntaxError
  else if tag = some nullTag then if isNull s then .wrongType else .syntaxError
  else .wrongType

/-- A truth value is a plain scalar, or a literal one with the tag of truth values. -/
def flagReading (tag : Option String) (s : String) (style : Style) : Except Problem Bool :=
  if style = .plain || (style = .literal && tag = some boolTag) then
    match flag? s with
    | some b => .ok b
    | none => .error (flagProblem tag s)
  else .error (flagProblem tag s)

/-- A scalar as the kinds of settings read it. Every scalar is a text, whatever its tag. -/
def scalar (tag : Option String) (s : String) (style : Style) : Scalar where
  text := .ok s
  unset := unset tag s style
  flag := flagReading tag s style
  meaning := meaning tag s style
  isBlank := style = .plain && s.isEmpty

end Testbed.Yaml
