/-!
# How a process ended

The status word that the system reports for a process. Only the word zero is a success. A word
whose low seven bits are zero gives an exit code, and most other values of these bits are the
number of the signal that ended the process.
-/

namespace Testbed.Job

/-- A status word of thirty-two bits. -/
structure Status where
  word : BitVec 32
  deriving DecidableEq, Repr

namespace Status

def exited (code : Nat) : Status :=
  ⟨BitVec.ofNat 32 (code % 256 * 256)⟩

def killed (signal : Nat) : Status :=
  ⟨BitVec.ofNat 32 (signal % 128)⟩

def succeeded (s : Status) : Bool :=
  s.word = 0

/-- The low seven bits tell how the process ended. -/
def manner (s : Status) : Nat :=
  s.word.toNat % 128

/-- The second octet. -/
def detail (s : Status) : Nat :=
  s.word.toNat / 256 % 256

def exitCode? (s : Status) : Option Nat :=
  if s.manner = 0 then some s.detail else none

def signal? (s : Status) : Option Nat :=
  if 1 ≤ s.manner && s.manner ≤ 126 then some s.manner else none

/-- The signal that stopped the process, which has not ended. -/
def stopSignal? (s : Status) : Option Nat :=
  if s.word.toNat % 256 = 0x7F then some s.detail else none

def wasContinued (s : Status) : Bool :=
  s.word.toNat = 0xFFFF

end Status

/-- The names of the signals from 1 on. -/
def signalNames : List String :=
  ["SIGHUP", "SIGINT", "SIGQUIT", "SIGILL", "SIGTRAP", "SIGABRT", "SIGBUS", "SIGFPE", "SIGKILL",
    "SIGUSR1", "SIGSEGV", "SIGUSR2", "SIGPIPE", "SIGALRM", "SIGTERM", "SIGSTKFLT", "SIGCHLD",
    "SIGCONT", "SIGSTOP", "SIGTSTP", "SIGTTIN", "SIGTTOU", "SIGURG", "SIGXCPU", "SIGXFSZ",
    "SIGVTALRM", "SIGPROF", "SIGWINCH", "SIGIO", "SIGPWR", "SIGSYS"]

def signalLabel (signal : Nat) : String :=
  match signal with
  | 0 => ""
  | n + 1 => match signalNames[n]? with
    | some name => " (" ++ name ++ ")"
    | none => ""

inductive Failure where
  | code (code : Nat)
  | signal (signal : Nat)
  | stopped (signal : Nat)
  | continued
  | unrecognised (status : Status)
  deriving DecidableEq, Repr

def Status.failure? (s : Status) : Option Failure :=
  if s.succeeded then none
  else match s.exitCode?, s.signal?, s.stopSignal? with
    | some code, _, _ => some (.code code)
    | none, some signal, _ => some (.signal signal)
    | none, none, some signal => some (.stopped signal)
    | none, none, none => some (if s.wasContinued then .continued else .unrecognised s)

/-- The word as a signed number and in hexadecimal digits. -/
def Status.text (s : Status) : String :=
  toString s.word.toInt ++ " 0x" ++ String.ofList (Nat.toDigits 16 s.word.toNat)

def Failure.reason : Failure → String
  | code c => "exited with code " ++ toString c
  | signal n => "killed by signal " ++ toString n
  | stopped n =>
    "terminated abnormally (stopped (not terminated) by signal: " ++ toString n ++
      signalLabel n ++ ")"
  | continued => "terminated abnormally (continued (WIFCONTINUED))"
  | unrecognised s => "terminated abnormally (unrecognised wait status: " ++ s.text ++ ")"

end Testbed.Job
