import Testbed.Rehearsal.Shell.Octets

/-!
# Printing

Texts in which a backslash gives the next octets a meaning, and formats in which a percent sign
is replaced by an argument.
-/

namespace Testbed.Rehearsal.Shell.Print

def isOctal (c : Char) : Bool :=
  '0' ≤ c && c ≤ '7'

/-- The octet that at most so many octal digits stand for, and the rest. -/
def octal (limit : Nat) (s : Octets) : Octets × Octets :=
  let digits := (s.take limit).takeWhile isOctal
  let value := digits.foldl (fun n c => n * 8 + (c.toNat - '0'.toNat)) 0
  ([Char.ofNat (value % 256)], s.drop digits.length)

def escape : Octets → Octets × Octets
  | [] => (['\\'], [])
  | 'a' :: rest => ([Char.ofNat 7], rest)
  | 'b' :: rest => ([Char.ofNat 8], rest)
  | 'f' :: rest => ([Char.ofNat 12], rest)
  | 'n' :: rest => (['\n'], rest)
  | 'r' :: rest => (['\r'], rest)
  | 't' :: rest => (['\t'], rest)
  | 'v' :: rest => ([Char.ofNat 11], rest)
  | '\\' :: rest => (['\\'], rest)
  | c :: rest => if isOctal c then octal 3 (c :: rest) else (['\\', c], rest)

/-- A text with its escapes replaced, and whether one of them ends all output. The fuel is used up
by the text. -/
def unescape : Nat → Octets → Octets × Bool
  | 0, _ => ([], false)
  | _ + 1, [] => ([], false)
  | _ + 1, '\\' :: 'c' :: _ => ([], true)
  | n + 1, '\\' :: rest =>
    let (text, rest) := match rest with
      | '0' :: digits => octal 3 digits
      | rest => escape rest
    let (more, stops) := unescape n rest
    (text ++ more, stops)
  | n + 1, c :: rest =>
    let (more, stops) := unescape n rest
    (c :: more, stops)

def echo (arguments : List Octets) : Octets :=
  let (newline, arguments) := match arguments with
    | ['-', 'n'] :: rest => (false, rest)
    | all => (true, all)
  let text := [' '].intercalate arguments
  let (text, stops) := unescape (text.length + 1) text
  if newline && !stops then text ++ ['\n'] else text

/-- The arguments with blanks between them. Options say whether escapes are replaced. -/
def plainEcho (newline escapes : Bool) : List Octets → Octets
  | [] => if newline then ['\n'] else []
  | first :: rest =>
    match first with
    | '-' :: c :: cs =>
      if (c :: cs).all ['n', 'e', 'E'].contains then
        let escapes := (c :: cs).foldl (fun on c => if c = 'e' then true
          else if c = 'E' then false else on) escapes
        plainEcho (newline && !(c :: cs).contains 'n') escapes rest
      else finish (first :: rest)
    | _ => finish (first :: rest)
where
  finish (arguments : List Octets) : Octets :=
    let text := [' '].intercalate arguments
    let (text, stops) := if escapes then unescape (text.length + 1) text else (text, false)
    if newline && !stops then text ++ ['\n'] else text

structure Conversion where
  left : Bool := false
  zeros : Bool := false
  plus : Bool := false
  blank : Bool := false
  alternate : Bool := false
  width : Nat := 0
  precision : Option Nat := none

def Conversion.pad (c : Conversion) (s : Octets) : Octets :=
  let missing := c.width - s.length
  if c.left then s ++ List.replicate missing ' ' else List.replicate missing ' ' ++ s

/-- Adds digits up to the precision, and up to the width where zeros are asked for. -/
def Conversion.padNumber (c : Conversion) (sign digits : Octets) : Octets :=
  let least := match c.precision with
    | some n => n
    | none => if c.zeros && !c.left then c.width - sign.length else 0
  c.pad (sign ++ List.replicate (least - digits.length) '0' ++ digits)

def digitsIn (base n : Nat) (upper : Bool) : Octets :=
  (Nat.toDigits base n).map fun c => if upper then c.toUpper else c

def Conversion.number (c : Conversion) (kind : Char) (n : Int) : Octets :=
  let natural := (n % Nat.pow 2 64).toNat
  let mark (s : String) := if c.alternate && natural ≠ 0 then s.toList else []
  match kind with
  | 'o' => c.padNumber (mark "0") (digitsIn 8 natural false)
  | 'x' => c.padNumber (mark "0x") (digitsIn 16 natural false)
  | 'X' => c.padNumber (mark "0X") (digitsIn 16 natural true)
  | 'u' => c.padNumber [] (digitsIn 10 natural false)
  | _ =>
    let sign := if n < 0 then ['-'] else if c.plus then ['+'] else if c.blank then [' '] else []
    c.padNumber sign (digitsIn 10 n.natAbs false)

/-- The number that an argument stands for. A quote gives the number of the octet behind it. -/
def argumentNumber : Octets → Option Int
  | [] => some 0
  | '"' :: c :: _ | '\'' :: c :: _ => some c.toNat
  | s => Octets.integer? s

def flags (c : Conversion) : Octets → Conversion × Octets
  | '-' :: rest => flags { c with left := true } rest
  | '0' :: rest => flags { c with zeros := true } rest
  | '+' :: rest => flags { c with plus := true } rest
  | ' ' :: rest => flags { c with blank := true } rest
  | '#' :: rest => flags { c with alternate := true } rest
  | s => (c, s)

def leadingNumber (s : Octets) : Nat × Octets :=
  ((Octets.digits? (s.takeWhile Char.isDigit)).getD 0, s.dropWhile Char.isDigit)

def conversion (s : Octets) : Conversion × Octets :=
  let (c, s) := flags {} s
  let (width, s) := leadingNumber s
  match s with
  | '.' :: s =>
    let (precision, s) := leadingNumber s
    ({ c with width, precision := some precision }, s)
  | s => ({ c with width }, s)

structure Printed where
  out : Octets := []
  /-- The arguments that are no numbers where numbers were asked for. -/
  bad : List Octets := []
  arguments : List Octets
  stops : Bool := false

def Printed.convert (p : Printed) (c : Conversion) (kind : Char) : Printed :=
  let argument := p.arguments.headD []
  let p := { p with arguments := p.arguments.tail }
  match kind with
  | 's' =>
    let text := match c.precision with
      | some n => argument.take n
      | none => argument
    { p with out := p.out ++ c.pad text }
  | 'c' => { p with out := p.out ++ c.pad (argument.take 1) }
  | 'b' =>
    let (text, stops) := unescape (argument.length + 1) argument
    { p with out := p.out ++ c.pad text, stops }
  | kind =>
    match argumentNumber argument with
    | some n => { p with out := p.out ++ c.number kind n }
    | none =>
      { p with out := p.out ++ c.number kind 0, bad := p.bad ++ [argument] }

def kinds : List Char :=
  ['s', 'c', 'b', 'd', 'i', 'u', 'o', 'x', 'X']

/-- Goes through a format once. The fuel is used up by the format. -/
def once : Nat → Octets → Printed → Printed
  | 0, _, p => p
  | _ + 1, [], p => p
  | n + 1, '\\' :: rest, p =>
    let (text, rest) := escape rest
    once n rest { p with out := p.out ++ text }
  | n + 1, '%' :: '%' :: rest, p => once n rest { p with out := p.out ++ ['%'] }
  | n + 1, '%' :: rest, p =>
    match conversion rest with
    | (c, kind :: rest) =>
      if kinds.contains kind then
        let p := p.convert c kind
        if p.stops then p else once n rest p
      else { p with stops := true }
    | (_, []) => { p with stops := true }
  | n + 1, c :: rest, p => once n rest { p with out := p.out ++ [c] }

/-- Goes through a format as often as there are arguments left. The fuel is used up by the
arguments. -/
def all (format : Octets) : Nat → Printed → Printed
  | 0, p => p
  | n + 1, p =>
    let before := p.arguments.length
    let p := once (format.length + 1) format p
    if p.stops || p.arguments = [] || p.arguments.length = before then p else all format n p

def formatted (format : Octets) (arguments : List Octets) : Printed :=
  all format (arguments.length + 1) { arguments }

end Testbed.Rehearsal.Shell.Print
