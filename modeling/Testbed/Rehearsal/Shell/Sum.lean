import Testbed.Rehearsal.Shell.Octets

/-!
# Sums

The value of an expression over whole numbers with a sign, of sixty-four bits. Operators that
bind more tightly are done first, and those that bind alike from the left.
-/

namespace Testbed.Rehearsal.Shell.Sum

inductive Symbol where
  | number (n : Int)
  | operator (text : String)
  deriving DecidableEq, Repr

/-- Operators by how tightly they bind. -/
def levels : List (List String) :=
  [["||"], ["&&"], ["|"], ["^"], ["&"], ["==", "!="], ["<=", ">=", "<", ">"], ["<<", ">>"],
    ["+", "-"], ["*", "/", "%"]]

/-- Operators of two signs, which are tried before those of one. -/
def longOperators : List String :=
  ["||", "&&", "==", "!=", "<=", ">=", "<<", ">>"]

def signs : List Char :=
  ['+', '-', '*', '/', '%', '(', ')', '<', '>', '!', '~', '&', '|', '^', '?', ':']

/-- The number that digits stand for, in the base that their front shows. -/
def number? (s : Octets) : Option Int :=
  let value (base : Nat) (digits : Octets) : Option Int :=
    (digits.mapM fun c =>
      let d := if c.isDigit then c.toNat - '0'.toNat
        else if 'a' ≤ c && c ≤ 'f' then c.toNat - 'a'.toNat + 10
        else if 'A' ≤ c && c ≤ 'F' then c.toNat - 'A'.toNat + 10
        else 16
      if d < base then some d else none).map fun ds =>
        ((ds.foldl (fun n d => n * base + d) 0 : Nat) : Int)
  match s with
  | '0' :: 'x' :: digits | '0' :: 'X' :: digits => value 16 digits
  | '0' :: digits => value 8 digits
  | digits => value 10 digits

/-- The symbols of an expression, in which names stand for the values of variables. The fuel is
used up by the octets. -/
def symbols (variable_ : Octets → Int) : Nat → Octets → Option (List Symbol)
  | 0, _ => none
  | _ + 1, [] => some []
  | n + 1, c :: rest =>
    if c = ' ' || c = '\t' || c = '\n' then symbols variable_ n rest
    else if c.isDigit then do
      let text := (c :: rest).takeWhile Char.isAlphanum
      let value ← number? text
      return .number value :: (← symbols variable_ n (rest.dropWhile Char.isAlphanum))
    else if c.isAlpha || c = '_' then do
      let continues (c : Char) := c.isAlphanum || c = '_'
      let name := c :: rest.takeWhile continues
      return .number (variable_ name) :: (← symbols variable_ n (rest.dropWhile continues))
    else
      match rest with
      | d :: after =>
        if longOperators.contains (String.ofList [c, d]) then do
          return .operator (String.ofList [c, d]) :: (← symbols variable_ n after)
        else if signs.contains c then do
          return .operator (String.ofList [c]) :: (← symbols variable_ n (d :: after))
        else none
      | [] => if signs.contains c then some [.operator (String.ofList [c])] else none

inductive Fault where
  | malformed
  | zeroDivisor
  deriving DecidableEq, Repr

def truth (b : Bool) : Int :=
  if b then 1 else 0

/-- A number of sixty-four bits with the same residue. -/
def wrap (n : Int) : Int :=
  Int.bmod n (Nat.pow 2 64)

def combine (operator : String) (a b : Int) : Except Fault Int :=
  match operator with
  | "+" => .ok (wrap (a + b))
  | "-" => .ok (wrap (a - b))
  | "*" => .ok (wrap (a * b))
  | "/" => if b = 0 then .error .zeroDivisor else .ok (wrap (Int.tdiv a b))
  | "%" => if b = 0 then .error .zeroDivisor else .ok (Int.tmod a b)
  | "==" => .ok (truth (a = b))
  | "!=" => .ok (truth (a ≠ b))
  | "<" => .ok (truth (a < b))
  | ">" => .ok (truth (b < a))
  | "<=" => .ok (truth (a ≤ b))
  | ">=" => .ok (truth (b ≤ a))
  | "&&" => .ok (truth (a ≠ 0 && b ≠ 0))
  | "||" => .ok (truth (a ≠ 0 || b ≠ 0))
  | "&" => .ok (BitVec.ofInt 64 a &&& BitVec.ofInt 64 b).toInt
  | "|" => .ok (BitVec.ofInt 64 a ||| BitVec.ofInt 64 b).toInt
  | "^" => .ok (BitVec.ofInt 64 a ^^^ BitVec.ofInt 64 b).toInt
  | "<<" => .ok (BitVec.ofInt 64 a <<< (b % 64).toNat).toInt
  | ">>" => .ok ((BitVec.ofInt 64 a).sshiftRight (b % 64).toNat).toInt
  | _ => .error .malformed

mutual

/-- Reads operands and the operators of the given levels between them. -/
def operands : Nat → List (List String) → List Symbol → Except Fault (Int × List Symbol)
  | 0, _, _ => .error .malformed
  | n + 1, [], s => single n s
  | n + 1, level :: tighter, s => do
    let (a, s) ← operands n tighter s
    more n level tighter a s

/-- Goes on after an operand as long as operators of its level follow. -/
def more : Nat → List String → List (List String) → Int → List Symbol →
    Except Fault (Int × List Symbol)
  | 0, _, _, _, _ => .error .malformed
  | n + 1, level, tighter, a, s =>
    match s with
    | .operator o :: rest =>
      if level.contains o then do
        let (b, s) ← operands n tighter rest
        more n level tighter (← combine o a b) s
      else .ok (a, s)
    | s => .ok (a, s)

/-- Reads a number, something in brackets, or a sign in front of either. -/
def single : Nat → List Symbol → Except Fault (Int × List Symbol)
  | 0, _ => .error .malformed
  | n + 1, s =>
    match s with
    | .number value :: rest => .ok (wrap value, rest)
    | .operator "(" :: rest => do
      match ← whole n rest with
      | (a, .operator ")" :: rest) => return (a, rest)
      | _ => throw .malformed
    | .operator "-" :: rest => do
      let (a, rest) ← single n rest
      return (wrap (-a), rest)
    | .operator "+" :: rest => single n rest
    | .operator "!" :: rest => do
      let (a, rest) ← single n rest
      return (truth (a = 0), rest)
    | .operator "~" :: rest => do
      let (a, rest) ← single n rest
      return (-a - 1, rest)
    | _ => .error .malformed

def whole : Nat → List Symbol → Except Fault (Int × List Symbol)
  | 0, _ => .error .malformed
  | n + 1, s => do
    match ← operands n levels s with
    | (a, .operator "?" :: rest) =>
      match ← whole n rest with
      | (b, .operator ":" :: rest) =>
        let (c, rest) ← whole n rest
        return (if a ≠ 0 then b else c, rest)
      | _ => throw .malformed
    | result => return result

end

/-- The value of an expression. Nothing at all is zero. -/
def value (variable_ : Octets → Int) (expression : Octets) : Except Fault Int := do
  match symbols variable_ (expression.length + 1) expression with
  | none => throw .malformed
  | some [] => return 0
  | some all =>
    match ← whole ((levels.length + 4) * (all.length + 2)) all with
    | (a, []) => return a
    | _ => throw .malformed

end Testbed.Rehearsal.Shell.Sum
