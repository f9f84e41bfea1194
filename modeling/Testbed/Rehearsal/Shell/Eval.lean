import Testbed.Rehearsal.Shell.Expansion
import Testbed.Rehearsal.Shell.Sum

/-!
# Running scripts

Commands change the state of a shell. The fuel bounds how deep commands may lie in each other and
how often loops may turn; running out of it is an ending of its own.
-/

namespace Testbed.Rehearsal.Shell

/-- Why commands are not carried on. -/
inductive Stop where
  | exit (status : Nat)
  | killed (signal : Nat)
  /-- Leaves so many loops. -/
  | leave (loops : Nat)
  /-- Goes on with the next turn of the loop outside so many others. -/
  | again (loops : Nat)
  | returned (status : Nat)
  | spent
  deriving DecidableEq

abbrev Eval (α : Type) := ExceptT Stop (StateM State) α

def change (f : State → State) : Eval Unit :=
  modify f

def setStatus (status : Nat) : Eval Unit :=
  change fun s => { s with status }

def write (descriptor : Nat) (text : Octets) : Eval Bool :=
  modifyGet fun s => s.write descriptor text

/-- Ends the shell if commands must not fail and this one did. -/
def checkStrict : Eval Unit := do
  let s ← get
  if s.strict && s.tested = 0 && s.status ≠ 0 then throw (.exit s.status)

/-- Ends the shell if parameters must be set and this one is not. -/
def checkSet (name : Octets) : Eval Unit := do
  let s ← get
  if s.wary && (s.parameter? name).isNone && name ≠ ['@'] && name ≠ ['*'] then
    change (State.complain 1 (name.toText ++ ": parameter not set"))
    throw (.exit 2)

def settled {α : Type} (e : Eval α) : Eval (Except Stop α) := fun s =>
  let (result, s) := e.run s
  (.ok result, s)

/-- Runs in a shell of its own. Only files and what was written are seen outside. -/
def inSubshell (e : Eval Unit) : Eval Unit := do
  let outer ← get
  let result ← settled e
  let inner ← get
  change fun _ => { outer with
    files := inner.files, written := inner.written, pipes := inner.pipes, status := inner.status }
  match result with
  | .ok () => pure ()
  | .error (.exit status) | .error (.returned status) => setStatus status
  | .error (.leave _) | .error (.again _) => pure ()
  | .error stop => throw stop

/-- Runs with a fresh pipe in place of a descriptor, and gives what was written to it. -/
def collecting (e : Eval Unit) : Eval Octets := do
  let number := (← get).pipes
  change fun s => { s with pipes := number + 1 }
  inSubshell (do
    change (State.setSink 1 (.pipe number))
    e)
  return (← get).content number

/-- Lines at the end that hold nothing do not count. -/
def dropNewlines (s : Octets) : Octets :=
  (s.reverse.dropWhile (· = '\n')).reverse

def deliver (line : Nat) (builtin : Option String) (a : Answer) : Eval Unit := do
  change fun s => { s with files := a.files }
  let _ ← write 2 a.err
  if ← write 1 a.out then setStatus a.status
  else
    match builtin with
    | some name => change (State.complain line (name ++ ": " ++ name ++ ": I/O error"))
    | none => pure ()
    setStatus 1

def openReason (e : SystemFault) (creating : Bool) : String :=
  match e with
  | .noSuchEntry | .notADirectory => if creating then "Directory nonexistent" else "No such file"
  | e => Utility.reasonText e

/-- The descriptor that a word names, or `none` for a hyphen, which closes. -/
def descriptorOf? (target : Octets) : Option (Option Nat) :=
  if target = ['-'] then some none else (Octets.digits? target).map some

def openForWriting (line descriptor : Nat) (append : Bool) (path : String) : Eval Bool := do
  let s ← get
  let opened := do
    let files ← s.files.write s.directory path append []
    return (files, ← files.open_ s.directory path)
  match opened with
  | .ok (files, place, .file _) =>
    change fun s => ({ s with files } : State).setSink descriptor (.file place)
    return true
  | .ok (files, _, _) =>
    change fun s => ({ s with files } : State).setSink descriptor .nowhere
    return true
  | .error e =>
    change (State.complain line ("cannot create " ++ path ++ ": " ++ openReason e true))
    setStatus 2
    return false

def redirect (line : Nat) (r : Redirection) (target : Octets) : Eval Bool := do
  let s ← get
  let path := target.toText
  match r.direction with
  | .write => openForWriting line r.descriptor false path
  | .append => openForWriting line r.descriptor true path
  | .read =>
    match s.files.read s.directory path with
    | .ok content =>
      change fun s => { s with input := Octets.ofBytes content }
      return true
    | .error e =>
      change (State.complain line ("cannot open " ++ path ++ ": " ++ openReason e false))
      setStatus 2
      return false
  | .duplicate =>
    match descriptorOf? target with
    | some none =>
      change (State.setSink r.descriptor .closed)
      return true
    | some (some source) =>
      if r.descriptor = 0 then return true
      else if s.sink source = .closed then
        change (State.complain line (toString source ++ ": Bad file descriptor"))
        setStatus 2
        return false
      else
        change (State.setSink r.descriptor (s.sink source))
        return true
    | none =>
      change (State.complain line "Syntax error: Bad fd number")
      setStatus 2
      return false

/-- Signals that end no process. -/
def harmless : List Nat :=
  [0, 17, 18, 19, 20, 21, 22, 23, 28]

def signal? (word : Octets) : Option Nat :=
  match Octets.digits? word with
  | some n => if n ≤ 64 then some n else none
  | none =>
    (Job.signalNames.findIdx? (· = "SIG" ++ word.toText)).map (· + 1)

/-- Sends a signal to processes, of which only the shell's own is known. -/
def kill (line signal : Nat) (targets : List Octets) : Eval Unit := do
  for target in targets do
    if Octets.digits? target = some State.processNumber then
      if harmless.contains signal then setStatus 0 else throw (.killed signal)
    else
      change (State.complain line "kill: No such process\n")
      setStatus 1

/-- The words that only the shell itself understands. -/
def ownWords : List String :=
  ["exit", "cd", "export", "unset", "shift", "set", "break", "continue", "return", "kill", "read",
    "wait", "trap", "umask", "echo", "local", "readonly"]

/-- Sets the variables that words like assignments name. -/
def declare (exported : Bool) (arguments : List Octets) : Eval Unit := do
  for argument in arguments do
    let name := argument.takeWhile (· ≠ '=')
    match argument.dropWhile (· ≠ '=') with
    | [] => pure ()
    | _ :: value => change (State.assign name value)
    if exported then change (State.export_ name)
  setStatus 0

/-- The status that a word asks for, or else the given one. -/
def statusOf (line : Nat) (name : String) (arguments : List Octets) (otherwise_ : Nat) :
    Eval Nat := do
  match arguments with
  | [] => return otherwise_
  | word :: _ =>
    match Octets.digits? word with
    | some n => return n % 256
    | none =>
      change (State.complain line (name ++ ": Illegal number: " ++ word.toText))
      throw (.exit 2)

def goTo (line : Nat) (path : Octets) : Eval Unit := do
  let s ← get
  match s.files.open_ s.directory path.toText with
  | .ok (place, .directory) =>
    change fun s => { s with directory := place }
    setStatus 0
  | _ =>
    change (State.complain line ("cd: can't cd to " ++ path.toText))
    setStatus 2

def setLetters (on : Bool) (letters : Octets) (s : State) : State :=
  let s := if letters.contains 'e' then { s with strict := on } else s
  if letters.contains 'u' then { s with wary := on } else s

/-- Gives each variable a word of a line, and the last one the rest of the line. -/
def readInto : List Octets → Octets → State → State
  | [], _, s => s
  | [name], text, s =>
    s.assign name ((text.dropWhile isBlank).reverse.dropWhile isBlank).reverse
  | name :: rest, text, s =>
    let text := text.dropWhile isBlank
    readInto rest (text.dropWhile (!isBlank ·)) (s.assign name (text.takeWhile (!isBlank ·)))

def ownWord (line : Nat) (name : String) (arguments : List Octets) : Eval Unit := do
  let s ← get
  match name with
  | "exit" => throw (.exit (← statusOf line name arguments s.status))
  | "return" => throw (.returned (← statusOf line name arguments s.status))
  | "break" => throw (.leave (← statusOf line name arguments 1))
  | "continue" => throw (.again (← statusOf line name arguments 1))
  | "cd" => goTo line (arguments.headD ((s.lookup? "HOME".toList).getD []))
  | "export" | "readonly" => declare (name = "export") arguments
  | "local" => declare false arguments
  | "unset" =>
    for argument in arguments do change (State.unset argument)
    setStatus 0
  | "shift" =>
    let n ← statusOf line name arguments 1
    if n ≤ s.arguments.length then
      change fun s => { s with arguments := s.arguments.drop n }
      setStatus 0
    else
      change (State.complain line "shift: can't shift that many")
      throw (.exit 2)
  | "set" =>
    match arguments with
    | ['-', '-'] :: rest => change fun s => { s with arguments := rest }
    | ('-' :: letters) :: _ => change (setLetters true letters)
    | ('+' :: letters) :: _ => change (setLetters false letters)
    | [] => pure ()
    | rest => change fun s => { s with arguments := rest }
    setStatus 0
  | "kill" =>
    match arguments with
    | ['-', 's'] :: word :: targets | ('-' :: word) :: targets =>
      match signal? word with
      | some signal => kill line signal targets
      | none =>
        change (State.complain line ("kill: Illegal option -" ++ Octets.toText (word.take 1)))
        setStatus 2
    | targets => kill line 15 targets
  | "read" =>
    let text := s.input.takeWhile (· ≠ '\n')
    let ended := s.input.dropWhile (· ≠ '\n')
    change (readInto (arguments.filter (· ≠ ['-', 'r'])) text)
    change fun s => { s with input := ended.tail }
    setStatus (if ended = [] then 1 else 0)
  | "echo" => deliver line (some name) { out := Print.echo arguments, files := s.files }
  | _ => setStatus 0

def startReason : StartFault → String × Nat
  | .refused => ("Permission denied", 126)
  | .missing | .notADirectory => ("not found", 127)

def startFails (line : Nat) (word : Octets) (e : StartFault) : Eval Unit := do
  let (reason, status) := startReason e
  change (State.complain line (word.toText ++ ": " ++ reason))
  setStatus status

def signalText (signal : Nat) : Option String :=
  [(1, "Hangup"), (3, "Quit"), (4, "Illegal instruction"), (5, "Trace/breakpoint trap"),
    (6, "Aborted"), (7, "Bus error"), (8, "Floating point exception"), (9, "Killed"),
    (10, "User defined signal 1"), (11, "Segmentation fault"), (12, "User defined signal 2"),
    (14, "Alarm clock"), (15, "Terminated")].lookup signal

/-- The shell that a program `sh` is, for its arguments, and its script, or what is said instead. -/
def openShell (s : State) (name : Octets) (arguments : List Octets) :
    Except String (State × Octets) :=
  let fresh : State := { s with
    name, arguments := [], functions := [], status := 0, strict := false, wary := false, tested := 0
    bindings := s.bindings.filter (·.exported) }
  match arguments with
  | [] => .ok (fresh, s.input)
  | ['-', 'c'] :: script :: rest =>
    .ok ({ fresh with name := rest.headD name, arguments := rest.tail }, script)
  | ['-', 'e', 'c'] :: script :: rest | ['-', 'e'] :: ['-', 'c'] :: script :: rest =>
    .ok ({ fresh with name := rest.headD name, arguments := rest.tail, strict := true }, script)
  | all =>
    let (strict, all) := match all with
      | ['-', 'e'] :: rest => (true, rest)
      | rest => (false, rest)
    match all with
    | [] => .ok ({ fresh with strict }, s.input)
    | path :: rest =>
      match s.files.read s.directory path.toText with
      | .ok content => .ok ({ fresh with name := path, arguments := rest, strict }, Octets.ofBytes content)
      | .error e =>
        .error (name.toText ++ ": 0: cannot open " ++ path.toText ++ ": " ++ openReason e false)

def envParts : List Octets → Bool × List (Octets × Octets) × List Octets
  | ['-', 'i'] :: rest =>
    let (_, pairs, command) := envParts rest
    (true, pairs, command)
  | word :: rest =>
    match word.dropWhile (· ≠ '=') with
    | '=' :: value =>
      let (clear, pairs, command) := envParts rest
      (clear, (word.takeWhile (· ≠ '='), value) :: pairs, command)
    | _ => (false, [], word :: rest)
  | [] => (false, [], [])

def withVariables (clear : Bool) (pairs : List (Octets × Octets)) (s : State) : State :=
  pairs.foldl (fun s p => (s.assign p.1 p.2).export_ p.1)
    (if clear then { s with bindings := [] } else s)

def assignAll (exported : Bool) (assignments : List (Octets × Octets)) : Eval Unit := do
  for (name, value) in assignments do
    change (State.assign name value)
    if exported then change (State.export_ name)

/-- Runs a condition, whose failure is no reason to end. -/
def testing (e : Eval Unit) : Eval Unit := do
  change fun s => { s with tested := s.tested + 1 }
  let result ← settled e
  change fun s => { s with tested := s.tested - 1 }
  match result with
  | .ok () => pure ()
  | .error stop => throw stop

mutual

def atoms : Nat → Word → Eval (List Atom)
  | 0, _ => throw .spent
  | n + 1, w => return (← w.mapM (piece n)).flatten

def piece : Nat → Piece → Eval (List Atom)
  | 0, _ => throw .spent
  | _ + 1, .text quoted content => return Atom.ofText quoted content
  | n + 1, .command quoted script => do
    let text ← collecting (source n (Source.ofText script))
    return Atom.ofText quoted (dropNewlines text)
  | n + 1, .sum quoted expression => do
    let w := (innerWord true expression).getD []
    let text := Atom.joined (← atoms n w)
    let s ← get
    let value (name : Octets) := ((s.lookup? name).bind Octets.integer?).getD 0
    match Sum.value value text with
    | .ok a => return Atom.ofText quoted (toString a).toList
    | .error e =>
      let reason := match e with
        | .zeroDivisor => "division by zero"
        | .malformed => "expecting primary"
      change (State.complain 1
        ("arithmetic expression: " ++ reason ++ ": \"" ++ text.toText ++ "\""))
      throw (.exit 2)
  | n + 1, .parameter quoted content => do
    match Reference.ofText? content with
    | none =>
      change (State.complain 1 "Bad substitution")
      throw (.exit 2)
    | some r =>
      let s ← get
      let value := (s.parameter? r.name).filter fun v => !(r.emptyIsNone && v.isEmpty)
      let inner (text : Octets) := atoms n ((innerWord quoted text).getD [])
      let outer (row : List Atom) := if quoted then .quotes :: row else row
      match r.treatment with
      | .plain =>
        checkSet r.name
        return parameterAtoms s quoted r.name
      | .length => return Atom.ofText quoted (Octets.ofNat ((value.getD []).length))
      | .orElse word =>
        if value.isSome then return parameterAtoms s quoted r.name
        else return outer (← inner word)
      | .andThen word => if value.isSome then return outer (← inner word) else return outer []
      | .orAssign word =>
        if value.isSome then return parameterAtoms s quoted r.name
        else
          let row ← inner word
          change (State.assign r.name (Atom.joined row))
          return outer row
      | .dropFront most word =>
        let pattern := Atom.pattern (← atoms n ((innerWord false word).getD []))
        return Atom.ofText quoted (pattern.dropFront most (value.getD []))
      | .dropBack most word =>
        let pattern := Atom.pattern (← atoms n ((innerWord false word).getD []))
        return Atom.ofText quoted (pattern.dropBack most (value.getD []))

/-- Carries out redirections up to the first that cannot be done. -/
def redirectAll : Nat → Nat → List Redirection → Eval Bool
  | 0, _, _ => throw .spent
  | _ + 1, _, [] => return true
  | n + 1, line, r :: rest => do
    let target := Atom.joined (← atoms n r.target)
    if ← redirect line r target then redirectAll n line rest else return false

def redirected : Nat → Nat → List Redirection → Eval Unit → Eval Unit
  | 0, _, _, _ => throw .spent
  | n + 1, line, rs, body => do
    if rs.isEmpty then body
    else
      let before ← get
      let result ← settled (do if ← redirectAll n line rs then body)
      change fun s => { s with sinks := before.sinks, input := before.input }
      match result with
      | .ok () => pure ()
      | .error stop => throw stop

def program : Nat → (line : Nat) → (name : String) → (words : List Octets) → Eval Unit
  | 0, _, _, _ => throw .spent
  | n + 1, line, name, words => do
    let word := words.headD []
    let arguments := words.tail
    let s ← get
    match name with
    | "sh" | "dash" =>
      match openShell s word arguments with
      | .error text =>
        let _ ← write 2 (Octets.ofText (text ++ "\n"))
        setStatus 2
      | .ok (inner, script) =>
        inSubshell (do
          change fun _ => inner
          match ← settled (source n (Source.ofText script)) with
          | .error (.killed signal) =>
            match signalText signal with
            | some text =>
              let _ ← write 2 (Octets.ofText (text ++ "\n"))
            | none => pure ()
            throw (.exit (128 + signal))
          | .error stop => throw stop
          | .ok () => pure ())
    | "env" =>
      let (clear, pairs, command) := envParts arguments
      let inner := withVariables clear pairs s
      match command with
      | [] => deliver line none (Utility.printenv { inner.call "env" [] with arguments := [] })
      | next :: _ =>
        let path := (s.lookup? "PATH".toList).getD standardPath
        match findProgram s.files s.directory path next.toText with
        | .ok name =>
          inSubshell (do
            change fun _ => inner
            program n line name command)
        | .error e =>
          let (reason, status) := match e with
            | .refused => ("Permission denied", 126)
            | .missing => ("No such file or directory", 127)
            | .notADirectory => ("Not a directory", 126)
          let _ ← write 2 (Octets.ofText
            (word.toText ++ ": '" ++ next.toText ++ "': " ++ reason ++ "\n"))
          setStatus status
    | name =>
      match Utility.program? name with
      | some f => deliver line none (f (s.call word.toText arguments))
      | none => startFails line word .missing

/-- Runs a command line: a function, something that the shell does itself, or a program. -/
def commandLine : Nat → (line : Nat) → (assignments : List (Octets × Octets)) →
    (words : List Octets) → Eval Unit
  | 0, _, _, _ => throw .spent
  | n + 1, line, assignments, words => do
    let s ← get
    let word := words.headD []
    let arguments := words.tail
    let name := word.toText
    match s.functions.find? (·.1 = word) with
    | some (_, body) =>
      assignAll false assignments
      change fun s => { s with arguments }
      let result ← settled (run n body)
      change fun t => { t with arguments := s.arguments }
      match result with
      | .ok () => pure ()
      | .error (.returned status) => setStatus status
      | .error stop => throw stop
    | none =>
      if name = "eval" then
        source n (Source.ofText ([' '].intercalate arguments))
      else if name = "." then
        match s.files.read s.directory (Octets.toText (arguments.headD [])) with
        | .ok content => source n (Source.ofText (Octets.ofBytes content))
        | .error e =>
          change (State.complain line
            (".: cannot open " ++ (Octets.toText (arguments.headD [])) ++ ": " ++ openReason e false))
          throw (.exit 2)
      else if name = "exec" then
        commandLine n line assignments arguments
        throw (.exit (← get).status)
      else if ownWords.contains name then
        assignAll false assignments
        ownWord line name arguments
      else
        match Utility.shared? name with
        | some f =>
          let speaker := s.name.toText ++ ": " ++ toString line ++ ": " ++ name
          deliver line (some name) (f (s.call speaker arguments))
        | none =>
          let path := (s.lookup? "PATH".toList).getD standardPath
          match findProgram s.files s.directory path name with
          | .ok found =>
            inSubshell (do
              assignAll true assignments
              program n line found words)
          | .error e => startFails line word e

def run : Nat → Command → Eval Unit
  | 0, _ => throw .spent
  | n + 1, c => do
    match c with
    | .nothing => pure ()
    | .simple line assignments words redirections =>
      change fun s => { s with status := if words.isEmpty then 0 else s.status }
      let rows ← words.mapM (atoms n)
      let fields := rows.flatMap (fieldTexts (← get))
      let values ← assignments.mapM fun (name, value) => do
        return (name, Atom.joined (← atoms n value))
      match fields with
      | [] =>
        redirected n line redirections (pure ())
        assignAll false values
      | [['e', 'x', 'e', 'c']] =>
        if !(← redirectAll n line redirections) then throw (.exit 2)
        assignAll false values
        setStatus 0
      | fields => redirected n line redirections (commandLine n line values fields)
      checkStrict
    | .pipe first second =>
      let text ← collecting (run n first)
      inSubshell (do
        change fun s => { s with input := text }
        run n second)
      checkStrict
    | .negation body =>
      testing (run n body)
      let s ← get
      setStatus (if s.status = 0 then 1 else 0)
    | .both first second =>
      testing (run n first)
      if (← get).status = 0 then run n second
    | .either first second =>
      testing (run n first)
      if (← get).status ≠ 0 then run n second
    | .sequence first second =>
      run n first
      run n second
    | .choice condition consequence alternative =>
      testing (run n condition)
      if (← get).status = 0 then run n consequence
      else
        setStatus 0
        run n alternative
    | .loop whileFailing condition body => turns n whileFailing condition body 0
    | .each name words body =>
      let values ← match words with
        | some words => do
          let rows ← words.mapM (atoms n)
          pure (rows.flatMap (fieldTexts (← get)))
        | none => do
          pure (← get).arguments
      setStatus 0
      eachValue n name values body
    | .select subject branches =>
      let text := Atom.joined (← atoms n subject)
      setStatus 0
      branch n text branches
    | .group body => run n body
    | .subshell body =>
      inSubshell (run n body)
      checkStrict
    | .redirected line body redirections => redirected n line redirections (run n body)
    | .define name body =>
      change fun s => { s with functions := (name, body) :: s.functions }
      setStatus 0
/-- Turns a loop, given the status of its last turn. -/
def turns : Nat → Bool → Command → Command → Nat → Eval Unit
  | 0, _, _, _, _ => throw .spent
  | n + 1, whileFailing, condition, body, last => do
    testing (run n condition)
    if ((← get).status = 0) ≠ whileFailing then
      if ← turn n body then turns n whileFailing condition body (← get).status
    else setStatus last

def turn : Nat → Command → Eval Bool
  | 0, _ => throw .spent
  | n + 1, body => do
    match ← settled (run n body) with
    | .ok () => return true
    | .error (.leave k) => if k ≤ 1 then return false else throw (.leave (k - 1))
    | .error (.again k) => if k ≤ 1 then return true else throw (.again (k - 1))
    | .error stop => throw stop

def eachValue : Nat → Octets → List Octets → Command → Eval Unit
  | 0, _, _, _ => throw .spent
  | _ + 1, _, [], _ => pure ()
  | n + 1, name, value :: rest, body => do
    change (State.assign name value)
    if ← turn n body then eachValue n name rest body

def branch : Nat → Octets → List (List Word × Command) → Eval Unit
  | 0, _, _ => throw .spent
  | _ + 1, _, [] => pure ()
  | n + 1, text, (patterns, body) :: rest => do
    let rows ← patterns.mapM (atoms n)
    if rows.any fun row => (Atom.pattern row).matchesAll text then run n body
    else branch n text rest

def source : Nat → Source → Eval Unit
  | 0, _ => throw .spent
  | n + 1, s => do
    for line in s.lines do run n line
    match s.fault with
    | some e =>
      change (State.complain e.line e.message)
      throw (.exit 2)
    | none => pure ()

end

end Testbed.Rehearsal.Shell
