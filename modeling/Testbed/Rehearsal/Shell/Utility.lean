import Testbed.Rehearsal.Shell.Condition
import Testbed.Rehearsal.Shell.Print

/-!
# Utilities

The programs that scripts call, each as a function of its arguments, its input and the files. A
utility that does not know what to do with its arguments says so and fails.
-/

namespace Testbed.Rehearsal.Shell

/-- What a program is called with. -/
structure Call where
  /-- Who speaks in messages. -/
  speaker : String
  arguments : List Octets
  input : Octets
  files : FileTree
  directory : List String
  environment : List (Octets × Octets)

/-- What a program wrote and how it left the files. -/
structure Answer where
  out : Octets := []
  err : Octets := []
  status : Nat := 0
  files : FileTree

namespace Utility

/-- The reason without its number. -/
def reasonText (e : SystemFault) : String :=
  String.ofList ((e.message.toList.takeWhile (· ≠ '(')).reverse.dropWhile (· = ' ')).reverse

def prints (c : Call) (out : Octets) : Answer :=
  { out, files := c.files }

def message (c : Call) (text : String) : Octets :=
  Octets.ofText (c.speaker ++ ": " ++ text ++ "\n")

def fails (c : Call) (status : Nat) (text : String) : Answer :=
  { err := message c text, status, files := c.files }

def Answer.complain (a : Answer) (c : Call) (text : String) : Answer :=
  { a with err := a.err ++ message c text, status := 1 }

/-- What a path or, for a single hyphen, the input holds. -/
def contentOf (c : Call) (path : Octets) : Except SystemFault Octets :=
  if path = ['-'] then .ok c.input
  else (c.files.read c.directory path.toText).map Octets.ofBytes

/-- Adds what a function makes of each path's content. Without a path it is the input's. -/
def overFiles (c : Call) (paths : List Octets) (f : Octets → Octets) : Answer :=
  (if paths = [] then [['-']] else paths).foldl
    (fun a path => match contentOf c path with
      | .ok content => { a with out := a.out ++ f content }
      | .error e => Answer.complain a c (path.toText ++ ": " ++ reasonText e))
    (prints c [])

def cat (c : Call) : Answer :=
  overFiles c c.arguments id

def linesOf (s : Octets) : List Octets :=
  let (last, done) := s.foldl
    (fun (line, done) ch =>
      if ch = '\n' then ([], (ch :: line).reverse :: done) else (ch :: line, done))
    (([], []) : Octets × List Octets)
  (if last = [] then done else last.reverse :: done).reverse

inductive Amount where
  | octets (n : Nat)
  | lines (n : Nat)

def amount : Amount → List Octets → Amount × List Octets
  | _, ['-', 'c'] :: n :: rest => amount (.octets ((Octets.digits? n).getD 0)) rest
  | _, ['-', 'n'] :: n :: rest => amount (.lines ((Octets.digits? n).getD 0)) rest
  | a, word :: rest =>
    match word with
    | '-' :: 'c' :: n => amount (.octets ((Octets.digits? n).getD 0)) rest
    | '-' :: 'n' :: n => amount (.lines ((Octets.digits? n).getD 0)) rest
    | '-' :: d :: n =>
      match Octets.digits? (d :: n) with
      | some n => amount (.lines n) rest
      | none => (a, word :: rest)
    | word => (a, word :: rest)
  | a, [] => (a, [])

def head (c : Call) : Answer :=
  match amount (.lines 10) c.arguments with
  | (.octets n, paths) =>
    match paths with
    | [path] =>
      match c.files.open_ c.directory path.toText with
      | .ok (_, .zeroDevice) => prints c (List.replicate n (Char.ofNat 0))
      | _ => overFiles c paths (·.take n)
    | paths => overFiles c paths (·.take n)
  | (.lines n, paths) => overFiles c paths fun s => ((linesOf s).take n).flatten

def tail (c : Call) : Answer :=
  match amount (.lines 10) c.arguments with
  | (.octets n, paths) => overFiles c paths fun s => s.drop (s.length - n)
  | (.lines n, paths) => overFiles c paths fun s =>
    let all := linesOf s
    (all.drop (all.length - n)).flatten

def range (low high : Char) : Octets :=
  (List.range (high.toNat + 1 - low.toNat)).map fun n => Char.ofNat (low.toNat + n)

def classes : List (String × Octets) :=
  [("[:lower:]", range 'a' 'z'), ("[:upper:]", range 'A' 'Z'), ("[:digit:]", range '0' '9'),
    ("[:space:]", range '\t' '\r' ++ [' ']), ("[:alpha:]", range 'A' 'Z' ++ range 'a' 'z'),
    ("[:alnum:]", range '0' '9' ++ range 'A' 'Z' ++ range 'a' 'z')]

/-- The octets that a set stands for. The fuel is used up by the set. -/
def set : Nat → Octets → Octets
  | 0, _ => []
  | _ + 1, [] => []
  | n + 1, s =>
    match classes.find? fun k => k.1.toList.isPrefixOf s with
    | some (name, members) => members ++ set n (s.drop name.length)
    | none =>
      let one (s : Octets) : Octets × Octets := match s with
        | '\\' :: rest => Print.escape rest
        | c :: rest => ([c], rest)
        | [] => ([], [])
      let (first, rest) := one s
      match first, rest with
      | [low], '-' :: c :: rest =>
        let (high, rest) := one (c :: rest)
        match high with
        | [high] => range low high ++ set n rest
        | high => first ++ '-' :: high ++ set n rest
      | first, rest => first ++ set n rest

def tr (c : Call) : Answer :=
  let members (s : Octets) := set (s.length + 1) s
  match c.arguments with
  | [['-', 'd'], gone] =>
    let gone := members gone
    prints c (c.input.filter (!gone.contains ·))
  | [from_, to_] =>
    let sources := members from_
    let images := members to_
    match images.getLast? with
    | none => fails c 1 "when not truncating set1, string2 must be non-empty"
    | some last =>
      let pairs := sources.zip (images ++ List.replicate (sources.length - images.length) last)
      prints c (c.input.map fun ch => ((pairs.reverse.find? (·.1 = ch)).map (·.2)).getD ch)
  | _ => fails c 1 "unknown operands"

def trimSlashes (path : Octets) : Octets :=
  (path.reverse.dropWhile (· = '/')).reverse

def lastSegment (path : Octets) : Octets :=
  if path = [] then []
  else
    match trimSlashes path with
    | [] => ['/']
    | path => (path.reverse.takeWhile (· ≠ '/')).reverse

def basename (c : Call) : Answer :=
  match c.arguments with
  | [path] => prints c (lastSegment path ++ ['\n'])
  | [path, ending] =>
    let name := lastSegment path
    let bare := if name ≠ ending && ending.reverse.isPrefixOf name.reverse
      then name.take (name.length - ending.length) else name
    prints c (bare ++ ['\n'])
  | _ => fails c 1 "wrong number of operands"

def dirname (c : Call) : Answer :=
  match c.arguments with
  | [path] =>
    let above := trimSlashes ((trimSlashes path).reverse.dropWhile (· ≠ '/')).reverse
    let text := if above ≠ [] then above else if path.head? = some '/' then ['/'] else ['.']
    prints c (text ++ ['\n'])
  | _ => fails c 1 "wrong number of operands"

/-- The options in front of the operands, and the operands. -/
def options : List Octets → Octets × List Octets
  | ['-', '-'] :: rest => ([], rest)
  | ('-' :: c :: cs) :: rest =>
    let (more, operands) := options rest
    (c :: cs ++ more, operands)
  | operands => ([], operands)

def rm (c : Call) : Answer :=
  let (given, paths) := options c.arguments
  let deep := given.contains 'r' || given.contains 'R'
  let forced := given.contains 'f'
  let refused (a : Answer) (path : Octets) (reason : String) :=
    Answer.complain a c ("cannot remove '" ++ path.toText ++ "': " ++ reason)
  paths.foldl
    (fun a path => match a.files.open_ c.directory path.toText with
      | .error .noSuchEntry => if forced then a else refused a path (reasonText .noSuchEntry)
      | .error e => if forced && e = .notADirectory then a else refused a path (reasonText e)
      | .ok (_, .directory) =>
        if deep then
          match a.files.locate c.directory path.toText with
          | .ok place => { a with files := a.files.remove place }
          | .error e => refused a path (reasonText e)
        else refused a path (reasonText .isADirectory)
      | .ok (place, _) => { a with files := a.files.remove place })
    (prints c [])

def mkdir (c : Call) : Answer :=
  let (given, paths) := options c.arguments
  paths.foldl
    (fun a path =>
      let refused (reason : String) :=
        Answer.complain a c ("cannot create directory '" ++ path.toText ++ "': " ++ reason)
      match a.files.locate c.directory path.toText with
      | .error .noSuchEntry =>
        if given.contains 'p' then
          let above := if path.head? = some '/' then [] else c.directory
          let place := above ++ (FileTree.pieces path.toText).filter (· ≠ "")
          { a with files := a.files.makeDirectories place }
        else refused (reasonText .noSuchEntry)
      | .error e => refused (reasonText e)
      | .ok place =>
        match a.files.find? place with
        | none => { a with files := a.files.put place .directory }
        | some .directory => if given.contains 'p' then a else refused "File exists"
        | some _ => refused "File exists")
    (prints c [])

def touch (c : Call) : Answer :=
  c.arguments.foldl
    (fun a path => match a.files.open_ c.directory path.toText with
      | .ok _ => a
      | .error .noSuchEntry =>
        match a.files.write c.directory path.toText true [] with
        | .ok files => { a with files }
        | .error e =>
          Answer.complain a c ("cannot touch '" ++ path.toText ++ "': " ++ reasonText e)
      | .error e => Answer.complain a c ("cannot touch '" ++ path.toText ++ "': " ++ reasonText e))
    (prints c [])

def pathText (place : List String) : String :=
  "/" ++ String.intercalate "/" place

def pwd (c : Call) : Answer :=
  prints c (Octets.ofText (pathText c.directory) ++ ['\n'])

/-- The names in a directory, one in each line. Those that start with a dot are hidden unless
they are asked for. -/
def ls (c : Call) : Answer :=
  let (given, paths) := options c.arguments
  let shown (name : String) := !name.startsWith "." || given.contains 'a' || given.contains 'A'
  (if paths = [] then [['.']] else paths).foldl
    (fun a path => match a.files.open_ c.directory path.toText with
      | .ok (place, .directory) =>
        let names := ((a.files.children place).filter shown).mergeSort fun a b => !(b < a)
        let names := if given.contains 'a' then "." :: ".." :: names else names
        { a with out := a.out ++ Octets.ofText (String.join (names.map (· ++ "\n"))) }
      | .ok _ => { a with out := a.out ++ path ++ ['\n'] }
      | .error e =>
        { Answer.complain a c ("cannot access '" ++ path.toText ++ "': " ++ reasonText e) with
          status := 2 })
    (prints c [])

def seq (c : Call) : Answer :=
  let run (first last : Int) : Answer :=
    prints c ((List.range (last + 1 - first).toNat).flatMap fun (n : Nat) =>
      (toString (first + (n : Int))).toList ++ ['\n'])
  match c.arguments.mapM Octets.integer? with
  | some [last] => run 1 last
  | some [first, last] => run first last
  | _ => fails c 1 "unknown operands"

def wc (c : Call) : Answer :=
  let (given, paths) := options c.arguments
  let count (s : Octets) : Nat := match given with
    | ['c'] => s.length
    | _ => s.count '\n'
  match paths with
  | [] => prints c (Octets.ofNat (count c.input) ++ ['\n'])
  | paths => paths.foldl
    (fun a path => match contentOf c path with
      | .ok s => { a with out := a.out ++ Octets.ofNat (count s) ++ ' ' :: path ++ ['\n'] }
      | .error e => Answer.complain a c (path.toText ++ ": " ++ reasonText e))
    (prints c [])

def sort (c : Call) : Answer :=
  let (given, paths) := options c.arguments
  let bare (line : Octets) := if line.getLast? = some '\n' then line.dropLast else line
  let ascending (a b : Octets) : Bool := !decide (String.ofList b < String.ofList a)
  let all := (overFiles c paths id)
  let lines := ((linesOf all.out).map bare).mergeSort ascending
  let lines := if given.contains 'u' then lines.eraseDups else lines
  let lines := if given.contains 'r' then lines.reverse else lines
  { all with out := lines.flatMap (· ++ ['\n']) }

def printenv (c : Call) : Answer :=
  match c.arguments with
  | [] => prints c (c.environment.flatMap fun (k, v) => k ++ '=' :: v ++ ['\n'])
  | [name] =>
    match c.environment.find? (·.1 = name) with
    | some (_, value) => prints c (value ++ ['\n'])
    | none => { prints c [] with status := 1 }
  | _ => fails c 1 "unknown operands"

def printf (c : Call) : Answer :=
  match c.arguments with
  | [] => fails c 2 "usage: printf format [arg ...]"
  | format :: arguments =>
    let p := Print.formatted format arguments
    { out := p.out, files := c.files, status := if p.bad = [] then 0 else 1
      err := p.bad.flatMap fun w => message c (w.toText ++ ": expected numeric value") }

def test (c : Call) (ws : List Octets) : Answer :=
  match Condition.answer { files := c.files, directory := c.directory } ws with
  | .ok holds => { files := c.files, status := if holds then 0 else 1 }
  | .error (.notANumber text) => fails c 2 ("Illegal number: " ++ text.toText)
  | .error (.malformed text) => fails c 2 (text.toText ++ ": unexpected operator")

def bracket (c : Call) : Answer :=
  match c.arguments.getLast? with
  | some [']'] => test c c.arguments.dropLast
  | _ => fails c 2 "missing ]"

def shared? (name : String) : Option (Call → Answer) :=
  match name with
  | "true" | ":" => some fun c => prints c []
  | "false" => some fun c => { prints c [] with status := 1 }
  | "printf" => some printf
  | "test" => some fun c => test c c.arguments
  | "[" => some bracket
  | "pwd" => some pwd
  | _ => none

def program? (name : String) : Option (Call → Answer) :=
  match name with
  | "cat" => some cat
  | "head" => some head
  | "tail" => some tail
  | "tr" => some tr
  | "basename" => some basename
  | "dirname" => some dirname
  | "rm" => some rm
  | "mkdir" => some mkdir
  | "touch" => some touch
  | "ls" => some ls
  | "seq" => some seq
  | "wc" => some wc
  | "sort" => some sort
  | "printenv" => some printenv
  | "sleep" => some fun c => prints c []
  | "echo" => some fun c => prints c (Print.plainEcho true false c.arguments)
  | name => if name = ":" then none else shared? name

def programs : List String :=
  ["cat", "head", "tail", "tr", "basename", "dirname", "rm", "mkdir", "touch", "ls", "seq", "wc",
    "sort", "printenv", "sleep", "echo", "true", "false", "printf", "test", "[", "pwd", "sh",
    "dash", "env"]

end Utility

end Testbed.Rehearsal.Shell
