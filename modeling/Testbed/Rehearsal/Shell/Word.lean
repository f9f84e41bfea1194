import Testbed.Rehearsal.Shell.Octets

/-!
# Words of a script

A word is made of pieces: text that stands for itself, and expansions, whose value is known only
when the script runs. Each piece remembers whether it was quoted. A reader takes the pieces of one
word from the front of a script and leaves the rest.
-/

namespace Testbed.Rehearsal.Shell

/-- A piece of a word. The inside of an expansion is read when it is needed. -/
inductive Piece where
  | text (quoted : Bool) (content : Octets)
  | parameter (quoted : Bool) (content : Octets)
  | command (quoted : Bool) (script : Octets)
  | sum (quoted : Bool) (expression : Octets)
  deriving DecidableEq, Repr

abbrev Word := List Piece

def Word.literal? (w : Word) : Option Octets :=
  (w.mapM fun
    | Piece.text false content => some content
    | _ => none).map List.flatten

def startsName (c : Char) : Bool :=
  c.isAlpha || c = '_'

def continuesName (c : Char) : Bool :=
  c.isAlphanum || c = '_'

def isName (s : Octets) : Bool :=
  match s with
  | [] => false
  | c :: rest => startsName c && rest.all continuesName

/-- The parameters whose name is a sign. -/
def isSpecial (c : Char) : Bool :=
  ['@', '*', '#', '?', '$', '!', '-'].contains c

inductive Quote where
  | none
  | single
  | double
  deriving DecidableEq

/-- What stands in front of the bracket that closes an open one, and what follows it. Brackets
that are quoted do not count, and those that are open have to be closed first. -/
def enclosed (opening closing : Char) (quote : Quote) (depth : Nat) :
    Octets → Option (Octets × Octets)
  | [] => .none
  | '\\' :: c :: rest =>
    (enclosed opening closing quote depth rest).map fun (inside, rest) =>
      ('\\' :: c :: inside, rest)
  | c :: rest =>
    let go (quote : Quote) (depth : Nat) :=
      (enclosed opening closing quote depth rest).map fun (inside, rest) => (c :: inside, rest)
    match quote with
    | .single => go (if c = '\'' then .none else .single) depth
    | .double => go (if c = '"' then .none else .double) depth
    | .none =>
      if c = '\'' then go .single depth
      else if c = '"' then go .double depth
      else if c = closing then if depth = 0 then some ([], rest) else go .none (depth - 1)
      else if c = opening then go .none (depth + 1)
      else go .none depth

/-- What stands in front of a backquote, where a backslash takes the meaning of some signs. -/
def backquoted : Octets → Option (Octets × Octets)
  | [] => none
  | '\x60' :: rest => some ([], rest)
  | '\\' :: c :: rest =>
    (backquoted rest).map fun (inside, rest) =>
      (if ['$', '\x60', '\\'].contains c then c :: inside else '\\' :: c :: inside, rest)
  | c :: rest => (backquoted rest).map fun (inside, rest) => (c :: inside, rest)

/-- Reads what follows a dollar sign. A sign that begins no expansion stands for itself. -/
def expansion (quoted : Bool) : Octets → Option (Piece × Octets)
  | '(' :: '(' :: rest => do
    let (inside, after) ← enclosed '(' ')' .none 0 rest
    match after with
    | ')' :: after => return (.sum quoted inside, after)
    | _ =>
      let (inside, after) ← enclosed '(' ')' .none 0 ('(' :: rest)
      return (.command quoted inside, after)
  | '(' :: rest => do
    let (inside, after) ← enclosed '(' ')' .none 0 rest
    return (.command quoted inside, after)
  | '\x7b' :: rest => do
    let (inside, after) ← enclosed '\x7b' '\x7d' .none 0 rest
    return (.parameter quoted inside, after)
  | c :: rest =>
    if startsName c then
      some (.parameter quoted (c :: rest.takeWhile continuesName), rest.dropWhile continuesName)
    else if c.isDigit || isSpecial c then some (.parameter quoted [c], rest)
    else some (.text quoted ['$'], c :: rest)
  | [] => some (.text quoted ['$'], [])

/-- Reads pieces between double quotes up to the closing one. The fuel is used up by the script's
octets. -/
def doubleQuoted : Nat → Octets → Option (Word × Octets)
  | 0, _ => none
  | _ + 1, [] => none
  | _ + 1, '"' :: rest => some ([], rest)
  | n + 1, '\\' :: c :: rest => do
    let (word, after) ← doubleQuoted n rest
    if c = '\n' then return (word, after)
    else if ['$', '\x60', '"', '\\'].contains c then return (.text true [c] :: word, after)
    else return (.text true ['\\', c] :: word, after)
  | n + 1, '$' :: rest => do
    let (piece, rest) ← expansion true rest
    let (word, after) ← doubleQuoted n rest
    return (piece :: word, after)
  | n + 1, '\x60' :: rest => do
    let (script, rest) ← backquoted rest
    let (word, after) ← doubleQuoted n rest
    return (.command true script :: word, after)
  | n + 1, c :: rest => do
    let (word, after) ← doubleQuoted n rest
    return (.text true [c] :: word, after)

/-- Quotes around nothing make an empty word, but quotes around all arguments do not. -/
def marked (word : Word) : Word :=
  if word = [.parameter true ['@']] then word else .text true [] :: word

def endsWord (c : Char) : Bool :=
  [' ', '\t', '\n', ';', '&', '|', '(', ')', '<', '>'].contains c

def word : Nat → Octets → Option (Word × Octets)
  | 0, _ => none
  | _ + 1, [] => some ([], [])
  | n + 1, '\\' :: '\n' :: rest => word n rest
  | n + 1, '\\' :: c :: rest => do
    let (pieces, after) ← word n rest
    return (.text true [c] :: pieces, after)
  | n + 1, '\'' :: rest => do
    let inside := rest.takeWhile (· ≠ '\'')
    match rest.dropWhile (· ≠ '\'') with
    | [] => none
    | _ :: rest =>
      let (pieces, after) ← word n rest
      return (.text true inside :: pieces, after)
  | n + 1, '"' :: rest => do
    let (inside, rest) ← doubleQuoted n rest
    let (pieces, after) ← word n rest
    return (marked inside ++ pieces, after)
  | n + 1, '$' :: rest => do
    let (piece, rest) ← expansion false rest
    let (pieces, after) ← word n rest
    return (piece :: pieces, after)
  | n + 1, '\x60' :: rest => do
    let (script, rest) ← backquoted rest
    let (pieces, after) ← word n rest
    return (.command false script :: pieces, after)
  | n + 1, c :: rest =>
    if endsWord c then some ([], c :: rest)
    else do
      let (pieces, after) ← word n rest
      return (.text false [c] :: pieces, after)

end Testbed.Rehearsal.Shell
