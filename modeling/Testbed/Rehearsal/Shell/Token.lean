import Testbed.Rehearsal.Shell.Word

/-!
# Tokens of a script

A script is a list of words, operators and redirections, each with the line on which it stands.
-/

namespace Testbed.Rehearsal.Shell

inductive Direction where
  | read
  | write
  | append
  /-- The descriptor becomes a copy of another one, or is closed. -/
  | duplicate
  deriving DecidableEq, Repr

inductive Operator where
  | newline
  | semicolon
  | branchEnd
  | background
  | both
  | either
  | pipe
  | opening
  | closing
  deriving DecidableEq, Repr

def Operator.text : Operator → String
  | newline => "newline"
  | semicolon => ";"
  | branchEnd => ";;"
  | background => "&"
  | both => "&&"
  | either => "||"
  | pipe => "|"
  | opening => "("
  | closing => ")"

inductive Token where
  | word (w : Word)
  | operator (o : Operator)
  | redirection (descriptor : Nat) (direction : Direction)
  /-- A quote or a bracket that is not closed. Nothing follows it. -/
  | unclosed
  deriving DecidableEq, Repr

def newlines (s : Octets) : Nat :=
  s.count '\n'

def redirectionSigns? : Octets → Option (Nat × Direction × Octets)
  | '>' :: '>' :: rest => some (1, .append, rest)
  | '>' :: '&' :: rest => some (1, .duplicate, rest)
  | '>' :: '|' :: rest => some (1, .write, rest)
  | '>' :: rest => some (1, .write, rest)
  | '<' :: '&' :: rest => some (0, .duplicate, rest)
  | '<' :: '<' :: _ => none
  | '<' :: rest => some (0, .read, rest)
  | _ => none

def operator? : Octets → Option (Operator × Octets)
  | '\n' :: rest => some (.newline, rest)
  | ';' :: ';' :: rest => some (.branchEnd, rest)
  | ';' :: rest => some (.semicolon, rest)
  | '&' :: '&' :: rest => some (.both, rest)
  | '&' :: rest => some (.background, rest)
  | '|' :: '|' :: rest => some (.either, rest)
  | '|' :: rest => some (.pipe, rest)
  | '(' :: rest => some (.opening, rest)
  | ')' :: rest => some (.closing, rest)
  | _ => none

/-- The descriptor that a word in front of a redirection names. -/
def descriptor? (w : Word) : Option Nat :=
  match w.literal? with
  | some [digit] => if digit.isDigit then some (digit.toNat - '0'.toNat) else none
  | _ => none

/-- The tokens of a script with their lines. The fuel is used up by the script's octets. -/
def tokens : Nat → (line : Nat) → Octets → List (Nat × Token)
  | 0, line, _ => [(line, .unclosed)]
  | _ + 1, _, [] => []
  | n + 1, line, '\\' :: '\n' :: rest => tokens n (line + 1) rest
  | n + 1, line, '#' :: rest => tokens n line (rest.dropWhile (· ≠ '\n'))
  | n + 1, line, c :: rest =>
    if c = ' ' || c = '\t' then tokens n line rest
    else if let some (o, rest) := operator? (c :: rest) then
      (line, .operator o) :: tokens n (if o = .newline then line + 1 else line) rest
    else if let some (descriptor, direction, rest) := redirectionSigns? (c :: rest) then
      (line, .redirection descriptor direction) :: tokens n line rest
    else
      match word (n + 1) (c :: rest) with
      | none => [(line, .unclosed)]
      | some (w, after) =>
        let next := line + newlines ((c :: rest).take ((c :: rest).length - after.length))
        match descriptor? w, redirectionSigns? after with
        | some descriptor, some (_, direction, after) =>
          (line, .redirection descriptor direction) :: tokens n next after
        | _, _ => (line, .word w) :: tokens n next after

end Testbed.Rehearsal.Shell
