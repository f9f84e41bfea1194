import Testbed.Rehearsal.Shell.Token

/-!
# Commands of a script

The syntax of scripts, and how it is read from tokens. A command ends where the token after it
cannot continue it, so that every reader returns the tokens that it left.
-/

namespace Testbed.Rehearsal.Shell

structure Redirection where
  descriptor : Nat
  direction : Direction
  target : Word

inductive Command where
  | nothing
  /-- Assignments, a program with arguments, and redirections, on a line of the script. -/
  | simple (line : Nat) (assignments : List (Octets × Word)) (words : List Word)
      (redirections : List Redirection)
  | pipe (first second : Command)
  | negation (body : Command)
  | both (first second : Command)
  | either (first second : Command)
  | sequence (first second : Command)
  | choice (condition consequence alternative : Command)
  /-- Runs the body as long as the condition succeeds, or as long as it fails. -/
  | loop (whileFailing : Bool) (condition body : Command)
  /-- Runs the body once for each word, or for each argument if there are no words. -/
  | each (name : Octets) (words : Option (List Word)) (body : Command)
  /-- Runs the first branch with a pattern that the subject matches. -/
  | select (subject : Word) (branches : List (List Word × Command))
  | group (body : Command)
  | subshell (body : Command)
  | redirected (line : Nat) (body : Command) (redirections : List Redirection)
  | define (name : Octets) (body : Command)

abbrev Tokens := List (Nat × Token)

inductive SyntaxFault where
  | unclosed (line : Nat)
  | unexpected (line : Nat) (found : String) (expected : Option String)
  deriving DecidableEq, Repr

def SyntaxFault.line : SyntaxFault → Nat
  | unclosed line => line
  | unexpected line _ _ => line

def SyntaxFault.message : SyntaxFault → String
  | unclosed _ => "Syntax error: Unterminated quoted string"
  | unexpected _ found none => "Syntax error: " ++ found ++ " unexpected"
  | unexpected _ found (some expected) =>
    "Syntax error: " ++ found ++ " unexpected (expecting \"" ++ expected ++ "\")"

/-- The word without quotes and expansions at the front. -/
def literal? : Tokens → Option Octets
  | (_, .word w) :: _ => w.literal?
  | _ => none

def found : Tokens → String
  | [] => "end of file"
  | (_, .operator .newline) :: _ => "newline"
  | (_, .operator o) :: _ => "\"" ++ o.text ++ "\""
  | (_, .redirection _ _) :: _ | (_, .unclosed) :: _ => "redirection"
  | (_, .word w) :: _ =>
    match w.literal? with
    | some s => "\"" ++ s.toText ++ "\""
    | none => "word"

def lineOf : Tokens → Nat
  | [] => 1
  | (line, _) :: _ => line

abbrev Reader (α : Type) := Tokens → Except SyntaxFault (α × Tokens)

def refuse (ts : Tokens) (expected : Option String) : SyntaxFault :=
  match ts with
  | (line, .unclosed) :: _ => .unclosed line
  | ts => .unexpected (lineOf ts) (found ts) expected

def fault {α : Type} : Reader α := fun ts =>
  .error (refuse ts none)

/-- Words that end a list of commands. -/
def closers : List String :=
  ["then", "else", "elif", "fi", "do", "done", "esac", "\x7d"]

def atEnd (ts : Tokens) : Bool :=
  match ts with
  | [] => true
  | (_, .operator .closing) :: _ | (_, .operator .branchEnd) :: _ => true
  | _ => match literal? ts with
    | some s => closers.contains s.toText
    | none => false

def skipNewlines : Tokens → Tokens
  | (_, .operator .newline) :: rest => skipNewlines rest
  | ts => ts

def expectWord (s : String) : Reader Unit := fun ts =>
  if literal? ts = some s.toList then .ok ((), ts.tail) else .error (refuse ts (some s))

def expectOperator (o : Operator) : Reader Unit := fun ts =>
  match ts with
  | (_, .operator p) :: rest =>
    if p = o then .ok ((), rest) else .error (refuse ts (some o.text))
  | ts => .error (refuse ts (some o.text))

def assignment? : Word → Option (Octets × Word)
  | pieces =>
    let isPlain (p : Piece) := match p with
      | .text false content => content ≠ ['=']
      | _ => false
    match Word.literal? (pieces.takeWhile isPlain), pieces.dropWhile isPlain with
    | some name, .text false ['='] :: value => if isName name then some (name, value) else none
    | _, _ => none

def redirection? : Tokens → Option (Redirection × Tokens)
  | (_, .redirection descriptor direction) :: (_, .word target) :: rest =>
    some ({ descriptor, direction, target }, rest)
  | _ => none

def redirections : Nat → Tokens → List Redirection × Tokens
  | 0, ts => ([], ts)
  | n + 1, ts =>
    match redirection? ts with
    | none => ([], ts)
    | some (r, rest) =>
      let (more, rest) := redirections n rest
      (r :: more, rest)

def words : Tokens → List Word × Tokens
  | (_, .word w) :: rest =>
    let (more, rest) := words rest
    (w :: more, rest)
  | ts => ([], ts)

/-- Reads the parts of a simple command after the ones that are already there, newest first. -/
def simpleParts (line : Nat) : Nat → (assignments : List (Octets × Word)) → (ws : List Word) →
    (rs : List Redirection) → Reader Command
  | 0, _, _, _, ts => fault ts
  | n + 1, assignments, ws, rs, ts =>
    match ts with
    | (_, .word w) :: rest =>
      match ws, assignment? w with
      | [], some a => simpleParts line n (a :: assignments) ws rs rest
      | _, _ => simpleParts line n assignments (w :: ws) rs rest
    | (_, .redirection _ _) :: _ =>
      match redirection? ts with
      | some (r, rest) => simpleParts line n assignments ws (r :: rs) rest
      | none => fault ts.tail
    | ts => .ok (.simple line assignments.reverse ws.reverse rs.reverse, ts)

/-- Takes the patterns of a branch up to the closing bracket. -/
def patterns : Nat → Reader (List Word)
  | 0, ts => fault ts
  | n + 1, ts =>
    match ts with
    | (_, .word w) :: (_, .operator .closing) :: rest => .ok ([w], rest)
    | (_, .word w) :: (_, .operator .pipe) :: rest => do
      let (more, rest) ← patterns n rest
      return (w :: more, rest)
    | _ :: rest => fault rest
    | [] => fault []

mutual

/-- Reads commands up to where no command starts. -/
def commandList : Nat → Reader Command
  | 0, ts => fault ts
  | n + 1, ts => do
    let ts := skipNewlines ts
    if atEnd ts then return (.nothing, ts)
    let (first, ts) ← chain n ts
    match ts with
    | (_, .operator .newline) :: rest | (_, .operator .semicolon) :: rest
    | (_, .operator .background) :: rest =>
      let (second, ts) ← commandList n rest
      match second with
      | .nothing => return (first, ts)
      | second => return (.sequence first second, ts)
    | ts => return (first, ts)

/-- Reads commands that depend on the success of the ones before. -/
def chain : Nat → Reader Command
  | 0, ts => fault ts
  | n + 1, ts => do
    let (first, ts) ← pipeline n ts
    chainRest n first ts

def chainRest : Nat → Command → Reader Command
  | 0, _, ts => fault ts
  | n + 1, first, ts =>
    match ts with
    | (_, .operator .both) :: rest => do
      let (second, ts) ← pipeline n (skipNewlines rest)
      chainRest n (.both first second) ts
    | (_, .operator .either) :: rest => do
      let (second, ts) ← pipeline n (skipNewlines rest)
      chainRest n (.either first second) ts
    | ts => return (first, ts)

/-- Reads commands each of which reads what the one before writes. -/
def pipeline : Nat → Reader Command
  | 0, ts => fault ts
  | n + 1, ts => do
    if literal? ts = some ['!'] then
      let (body, ts) ← pipeline n ts.tail
      return (.negation body, ts)
    else
      let (first, ts) ← command n ts
      pipelineRest n first ts

def pipelineRest : Nat → Command → Reader Command
  | 0, _, ts => fault ts
  | n + 1, first, ts =>
    match ts with
    | (_, .operator .pipe) :: rest => do
      let (second, ts) ← command n (skipNewlines rest)
      pipelineRest n (.pipe first second) ts
    | ts => return (first, ts)

def command : Nat → Reader Command
  | 0, ts => fault ts
  | n + 1, ts => do
    match ts with
    | (_, .word w) :: (_, .operator .opening) :: (_, .operator .closing) :: rest =>
      match w.literal? with
      | some name =>
        let (body, ts) ← command n (skipNewlines rest)
        return (.define name body, ts)
      | none => fault ts
    | _ =>
      match ← compound n ts with
      | (some body, rest) =>
        match redirections n rest with
        | ([], rest) => return (body, rest)
        | (rs, rest) => return (.redirected (lineOf ts) body rs, rest)
      | (none, _) =>
        let (c, rest) ← simpleParts (lineOf ts) (ts.length + 1) [] [] [] ts
        match c with
        | .simple _ [] [] [] => fault ts
        | c => return (c, rest)

/-- Reads a command that begins with a bracket or a word of the language. -/
def compound : Nat → Reader (Option Command)
  | 0, ts => fault ts
  | n + 1, ts => do
    match ts with
    | (_, .operator .opening) :: rest =>
      let (body, ts) ← commandList n rest
      let (_, ts) ← expectOperator .closing ts
      return (some (.subshell body), ts)
    | _ =>
      match (literal? ts).map Octets.toText with
      | some "\x7b" =>
        let (body, ts) ← commandList n ts.tail
        let (_, ts) ← expectWord "\x7d" ts
        return (some (.group body), ts)
      | some "if" =>
        let (c, ts) ← choice n ts.tail
        return (some c, ts)
      | some "while" =>
        let (condition, body, ts) ← loopParts n ts.tail
        return (some (.loop false condition body), ts)
      | some "until" =>
        let (condition, body, ts) ← loopParts n ts.tail
        return (some (.loop true condition body), ts)
      | some "for" =>
        let (c, ts) ← forEach n ts.tail
        return (some c, ts)
      | some "case" =>
        match ts.tail with
        | (_, .word subject) :: rest =>
          let (_, ts) ← expectWord "in" (skipNewlines rest)
          let (branches, ts) ← branchList n ts
          return (some (.select subject branches), ts)
        | ts => fault ts
      | some s => if closers.contains s then fault ts else return (none, ts)
      | none => return (none, ts)

def choice : Nat → Reader Command
  | 0, ts => fault ts
  | n + 1, ts => do
    let (condition, ts) ← commandList n ts
    let (_, ts) ← expectWord "then" ts
    let (consequence, ts) ← commandList n ts
    match (literal? ts).map Octets.toText with
    | some "elif" =>
      let (alternative, ts) ← choice n ts.tail
      return (.choice condition consequence alternative, ts)
    | some "else" =>
      let (alternative, ts) ← commandList n ts.tail
      let (_, ts) ← expectWord "fi" ts
      return (.choice condition consequence alternative, ts)
    | _ =>
      let (_, ts) ← expectWord "fi" ts
      return (.choice condition consequence .nothing, ts)

def loopParts : Nat → Tokens → Except SyntaxFault (Command × Command × Tokens)
  | 0, ts => .error (refuse ts none)
  | n + 1, ts => do
    let (condition, ts) ← commandList n ts
    let (body, ts) ← loopBody n ts
    return (condition, body, ts)

def loopBody : Nat → Reader Command
  | 0, ts => fault ts
  | n + 1, ts => do
    let (_, ts) ← expectWord "do" (skipNewlines ts)
    let (body, ts) ← commandList n ts
    let (_, ts) ← expectWord "done" ts
    return (body, ts)

def forEach : Nat → Reader Command
  | 0, ts => fault ts
  | n + 1, ts => do
    match literal? ts with
    | none => fault ts
    | some name =>
      let after := skipNewlines ts.tail
      if literal? after = some "in".toList then
        let (ws, ts) := words after.tail
        match ts with
        | (_, .operator .semicolon) :: rest | (_, .operator .newline) :: rest =>
          let (body, ts) ← loopBody n rest
          return (.each name (some ws) body, ts)
        | ts => fault ts
      else
        let rest := match after with
          | (_, .operator .semicolon) :: rest => rest
          | ts => ts
        let (body, ts) ← loopBody n rest
        return (.each name none body, ts)

def branchList : Nat → Reader (List (List Word × Command))
  | 0, ts => fault ts
  | n + 1, ts => do
    let ts := skipNewlines ts
    if literal? ts = some "esac".toList then return ([], ts.tail)
    let ts := match ts with
      | (_, .operator .opening) :: rest => rest
      | ts => ts
    let (ps, ts) ← patterns (ts.length + 1) ts
    let (body, ts) ← commandList n ts
    match ts with
    | (_, .operator .branchEnd) :: rest =>
      let (more, ts) ← branchList n rest
      return ((ps, body) :: more, ts)
    | ts =>
      let (_, ts) ← expectWord "esac" ts
      return ([(ps, body)], ts)

end

def lineOfCommands : Nat → Reader Command
  | 0, ts => fault ts
  | n + 1, ts => do
    let (first, ts) ← chain n ts
    match ts with
    | [] => return (first, [])
    | (_, .operator .newline) :: rest => return (first, rest)
    | (_, .operator .semicolon) :: rest | (_, .operator .background) :: rest =>
      match rest with
      | [] => return (first, [])
      | (_, .operator .newline) :: rest => return (first, rest)
      | rest =>
        let (second, ts) ← lineOfCommands n rest
        return (.sequence first second, ts)
    | ts => fault ts

/-- The commands of a script line by line, up to the first line that cannot be read. -/
structure Source where
  lines : List Command
  fault : Option SyntaxFault

/-- Reads lines of commands. The fuel is used up by the tokens. -/
def scriptLines (depth : Nat) : Nat → Tokens → Source
  | 0, _ => ⟨[], none⟩
  | n + 1, ts =>
    match skipNewlines ts with
    | [] => ⟨[], none⟩
    | ts =>
      match lineOfCommands depth ts with
      | .error e => ⟨[], some e⟩
      | .ok (first, rest) =>
        let more := scriptLines depth n rest
        { more with lines := first :: more.lines }

/-- How deep readers may call each other for each token. -/
def depthPerToken : Nat := 8

def Source.ofText (text : Octets) : Source :=
  let ts := tokens (text.length + 1) 1 text
  scriptLines (depthPerToken * (ts.length + 2)) (ts.length + 1) ts

end Testbed.Rehearsal.Shell
