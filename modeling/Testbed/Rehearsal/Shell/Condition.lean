import Testbed.Rehearsal.FileTree
import Testbed.Rehearsal.Shell.Octets

/-!
# Conditions

What can be asked about texts, numbers and files, and how answers are combined.
-/

namespace Testbed.Rehearsal.Shell.Condition

structure Scene where
  files : FileTree
  directory : List String

def Scene.entry? (s : Scene) (path : Octets) : Option Entry :=
  match s.files.open_ s.directory path.toText with
  | .ok (_, entry) => some entry
  | .error _ => none

inductive Fault where
  | notANumber (text : Octets)
  | malformed (text : Octets)

abbrev Answer := Except Fault Bool

def unary? (s : Scene) (operator : String) : Option (Octets → Bool) :=
  let entry (p : Entry → Bool) (path : Octets) := ((s.entry? path).map p).getD false
  match operator with
  | "-n" => some fun t => !t.isEmpty
  | "-z" => some fun t => t.isEmpty
  | "-e" => some (entry fun _ => true)
  | "-r" | "-w" => some (entry fun _ => true)
  | "-d" => some (entry fun | .directory => true | _ => false)
  | "-f" => some (entry fun | .file _ | .program _ => true | _ => false)
  | "-x" => some (entry fun | .directory | .program _ => true | _ => false)
  | "-s" => some (entry fun | .file content => !content.isEmpty | .directory => true | _ => false)
  | _ => none

/-- The number that a text stands for. Blanks around it do not count. -/
def number (text : Octets) : Except Fault Int :=
  let isBlank (c : Char) := c = ' ' || c = '\t' || c = '\n'
  let bare := ((text.dropWhile isBlank).reverse.dropWhile isBlank).reverse
  match Octets.integer? bare with
  | some n => .ok n
  | none => .error (.notANumber text)

def binary? (operator : String) : Option (Octets → Octets → Answer) :=
  let numbers (p : Int → Int → Bool) (a b : Octets) : Answer := do
    return p (← number a) (← number b)
  match operator with
  | "=" => some fun a b => .ok (a = b)
  | "!=" => some fun a b => .ok (a ≠ b)
  | "<" => some fun a b => .ok (decide (String.ofList a < String.ofList b))
  | ">" => some fun a b => .ok (decide (String.ofList b < String.ofList a))
  | "-eq" => some (numbers fun a b => a = b)
  | "-ne" => some (numbers fun a b => a ≠ b)
  | "-lt" => some (numbers fun a b => a < b)
  | "-le" => some (numbers fun a b => a ≤ b)
  | "-gt" => some (numbers fun a b => b < a)
  | "-ge" => some (numbers fun a b => b ≤ a)
  | _ => none

mutual

def either (s : Scene) : Nat → List Octets → Except Fault (Bool × List Octets)
  | 0, _ => .error (.malformed [])
  | n + 1, ws => do
    let (a, rest) ← both s n ws
    match rest with
    | ['-', 'o'] :: rest =>
      let (b, rest) ← either s n rest
      return (a || b, rest)
    | rest => return (a, rest)

def both (s : Scene) : Nat → List Octets → Except Fault (Bool × List Octets)
  | 0, _ => .error (.malformed [])
  | n + 1, ws => do
    let (a, rest) ← single s n ws
    match rest with
    | ['-', 'a'] :: rest =>
      let (b, rest) ← both s n rest
      return (a && b, rest)
    | rest => return (a, rest)

def single (s : Scene) : Nat → List Octets → Except Fault (Bool × List Octets)
  | 0, _ => .error (.malformed [])
  | n + 1, ws =>
    match ws with
    | [] => .error (.malformed [])
    | a :: o :: b :: rest =>
      match binary? o.toText with
      | some ask => do return (← ask a b, rest)
      | none => plain s n a (o :: b :: rest)
    | a :: rest => plain s n a rest

/-- Answers a question that does not have its operator in the middle. -/
def plain (s : Scene) : Nat → Octets → List Octets → Except Fault (Bool × List Octets)
  | 0, _, _ => .error (.malformed [])
  | n + 1, a, rest => do
    match a, rest with
    | ['!'], _ :: _ =>
      let (b, rest) ← single s n rest
      return (!b, rest)
    | ['('], _ :: _ =>
      match ← either s n rest with
      | (b, [')'] :: rest) => return (b, rest)
      | _ => throw (.malformed a)
    | a, b :: rest =>
      match unary? s a.toText with
      | some ask => return (ask b, rest)
      | none => return (!a.isEmpty, b :: rest)
    | a, [] => return (!a.isEmpty, [])

end

/-- The answer to the words of a condition. Nothing at all does not hold. -/
def answer (s : Scene) (ws : List Octets) : Answer := do
  if ws = [] then return false
  match ← either s (4 * (ws.length + 2)) ws with
  | (a, []) => return a
  | (_, w :: _) => throw (.malformed w)

end Testbed.Rehearsal.Shell.Condition
