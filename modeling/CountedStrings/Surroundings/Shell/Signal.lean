import CountedStrings.Surroundings.Shell.Descriptor

/-!
# Signals

A process can be sent signals.  Most of them kill it, unless it was told to ignore them or to run
something instead; a few mean nothing by themselves.

A signal that is sent to another process waits among all signals that are on their way.  Its process
takes notice of it as soon as it goes on (`receive`).
-/

namespace CountedStrings.Shell

namespace Signal

/-- The names of the signals below 32, in the order of their numbers; the number 0 stands for the end
of an interpreter. -/
def shortNames : List String :=
  ["EXIT", "HUP", "INT", "QUIT", "ILL", "TRAP", "ABRT", "BUS", "FPE", "KILL", "USR1", "SEGV", "USR2",
    "PIPE", "ALRM", "TERM", "16", "CHLD", "CONT", "STOP", "TSTP", "TTIN", "TTOU", "URG", "XCPU",
    "XFSZ", "VTALRM", "PROF", "WINCH", "IO", "PWR", "SYS"]

/-- The names of all signals, in the order of their numbers. -/
def names : List String :=
  let upper := (List.range 15).map fun i => "RTMIN+" ++ toString (i + 1)
  let lower := (List.range 14).map fun i => "RTMAX-" ++ toString (14 - i)
  shortNames ++ ["32", "33", "RTMIN"] ++ upper ++ lower ++ ["RTMAX"]

/-- The number of a signal above all others. -/
def count : Nat := 65

/-- The name of a signal. -/
def name (signal : Nat) : String := names[signal]?.getD (toString signal)

/-- The signal that a text names by its number. -/
def ofNumber? (text : String) : Option Nat :=
  if text ≠ "" && text.all Char.isDigit then text.toNat?.filter (· < count) else none

/-- The signal that a text names, by its number or its name in letters of any size; names of signals
below the given one do not count. -/
def ofText? (least : Nat) (text : String) : Option Nat :=
  match ofNumber? text with
  | some n => some n
  | none =>
    (names.zipIdx.find? fun (name, n) => least ≤ n && name = text.toUpper).map (·.2)

/-- The signals that a user sends to stop a process. -/
def interrupt : Nat := 2

/-- The signal that cannot be ignored. -/
def kill : Nat := 9

/-- The signal that says that memory is exhausted. -/
def fault : Nat := 11

/-- The signal that asks a process to end. -/
def terminate : Nat := 15

/-- The signal that tells a process of the end of another that it started. -/
def childEnded : Nat := 17

/-- Whether a signal kills a process that does not expect it. -/
def isDeadly (signal : Nat) : Bool :=
  signal ≠ 0 && !([17, 18, 19, 20, 21, 22, 23, 28].contains signal)

/-- What is said of a process that a signal killed. -/
def describe (signal : Nat) : String :=
  let texts :=
    ["", "Hangup", "Interrupt", "Quit", "Illegal instruction", "Trace/breakpoint trap", "Aborted",
      "Bus error", "Floating point exception", "Killed", "User defined signal 1",
      "Segmentation fault", "User defined signal 2", "Broken pipe", "Alarm clock", "Terminated",
      "Stack fault", "Child exited", "Continued", "Stopped (signal)", "Stopped",
      "Stopped (tty input)", "Stopped (tty output)", "Urgent I/O condition",
      "CPU time limit exceeded", "File size limit exceeded", "Virtual timer expired",
      "Profiling timer expired", "Window changed", "I/O possible", "Power failure",
      "Bad system call"]
  match texts[signal]? with
  | some text => text
  | none =>
    if signal < 34 then "Unknown signal " ++ toString signal
    else "Real-time signal " ++ toString (signal - 34)

/-- Whether the death of a process by a signal is told. -/
def isTold (signal : Nat) : Bool := signal ≠ interrupt && signal ≠ pipeSignal

end Signal

/-- What a process does about a signal. -/
inductive Disposition where
  | ignores
  | runs (text : String)
  | dies
  deriving DecidableEq

/-- What the process does about a signal. -/
def dispositionOf (s : State) (signal : Nat) : Disposition :=
  if signal = Signal.kill then .dies
  else if s.ignored.contains signal then .ignores
  else
    match s.traps.get? signal with
    | some "" => .ignores
    | some text => .runs text
    | none => if Signal.isDeadly signal then .dies else .ignores

/-- The signals on their way to a process. -/
def State.signalsFor (s : State) (number : Nat) : List Nat :=
  (s.signals.filter fun (process, _) => process = number).map (·.2)

/-- Takes notice of the signals that came: those to be ignored are forgotten, and one that kills the
process does so.  What is to be run for the others is run later. -/
def receive : Run Unit := do
  let s ← get
  let came := s.signalsFor s.number
  let isKept := fun signal => !(dispositionOf s signal matches .ignores)
  set { s with
    signals := s.signals.filter fun (process, signal) => process ≠ s.number || isKept signal }
  match came.find? fun signal => dispositionOf s signal matches .dies with
  | some signal => throw (.killed signal)
  | none => return

/-- Sends a signal to a process. -/
def send (process signal : Nat) : Run Unit :=
  modify fun s => { s with signals := s.signals ++ [(process, signal)] }

end CountedStrings.Shell
