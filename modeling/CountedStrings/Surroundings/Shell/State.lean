import CountedStrings.Host.Environment
import CountedStrings.Surroundings.FileSystem.Change
import CountedStrings.Surroundings.Shell.Syntax

/-!
# The state of a command interpreter

What commands can see and change: files, open files with their descriptors, variables, functions,
arguments and the status of the last command.

## 1.  The state

`Shared` is what all processes have in common, `Own` is what one process and the interpreter in it have
for themselves, and `State` is both, with the jobs that the interpreter has started.

A descriptor is a number for an *open file*: a node, a position in it, and how it was opened.
Several descriptors may share one open file and then share its position.

## 2.  Running

`Run` is a computation over the state that may stop early: an error ends what can fail, the
interpreter exits, a loop is left, a function returns, or a signal kills the process.  What was done
before a stop stays done.
-/

namespace CountedStrings.Shell

/-! ## 1.  The state -/

/-- A variable of the interpreter. -/
structure Variable where
  /-- Its value, unless only something else is known about it. -/
  value : Option String
  /-- Whether commands find it in their environment. -/
  exported : Bool
  /-- Whether its value stays as it is. -/
  fixed : Bool

/-- A variable about which nothing is known. -/
def Variable.unknown : Variable := ⟨none, false, false⟩

/-- A file that is being read or written. -/
structure OpenFile where
  node : Nat
  position : Nat
  /-- Whether writing goes to the end of the file. -/
  append : Bool
  readable : Bool
  writable : Bool

/-- How a process ended. -/
inductive Ending where
  | exited (status : Nat)
  | killed (signal : Nat)
  deriving DecidableEq

/-- The status that an end means to a process that waits. -/
def Ending.status : Ending → Nat
  | .exited status => status % 256
  | .killed signal => 128 + signal

/-- What stood under the names that a function or a command took for itself. -/
structure Outer where
  vars : Table String (Option Variable)
  /-- The options, if they were taken too. -/
  options : Option (List Char)

/-- Where a program was found. -/
structure Found where
  path : String
  /-- Whether the working directory has changed since then. -/
  isOld : Bool

/-- A time at which processes are sent a signal. -/
structure Deadline where
  time : Int
  signal : Nat
  /-- The process that sends it, to those that it started. -/
  sender : Nat
  /-- Whether it is sent only to the process that the sender started itself. -/
  isNarrow : Bool
  /-- What is said when it is sent. -/
  notice : String

/-- What all processes have in common. -/
structure Shared where
  files : FileSystem
  /-- All files that were ever opened, by number. -/
  opened : Array OpenFile
  /-- A number above those of all processes. -/
  nextNumber : Nat
  /-- The signals on their way, each with the process that it is for. -/
  signals : List (Nat × Nat)
  /-- The processes that have not run yet. -/
  sleeping : List Nat

/-- What a process and the command interpreter in it have for themselves. -/
structure Own where
  /-- The number of the process. -/
  number : Nat
  /-- The number of the interpreter whose copy this one is, or its own. -/
  original : Nat
  /-- The processes that wait for this one, the nearest first. -/
  ancestors : List Nat
  /-- The open file of each descriptor. -/
  descriptors : Table Nat Nat
  /-- What was printed and did not yet reach the descriptor 1. -/
  buffered : ByteArray
  vars : Table String Variable
  functions : Table String Command
  aliases : Table String String
  /-- The bodies of the here-documents that were read. -/
  documents : Table Nat Word
  /-- The number of the next here-document. -/
  nextDocument : Nat
  arguments : List String
  /-- What the interpreter was called by. -/
  name : String
  /-- The line that a complaint is about. -/
  line : Nat
  /-- The line up to which the text that is running was read. -/
  reached : Nat
  /-- The command of the interpreter that is running, if one is. -/
  command : Option String
  /-- The status of the last command. -/
  status : Nat
  /-- The status of the last command whose output was put into a word. -/
  substituted : Nat
  /-- The letters of the options that are switched on. -/
  options : List Char
  /-- Whether somebody waits to see if the running command fails. -/
  tested : Bool
  /-- Whether nothing follows the running command in its process, so that a program may take the place
  of the interpreter. -/
  isLast : Bool
  /-- How many loops the running command is in. -/
  loops : Nat
  /-- How many functions are running. -/
  calls : Nat
  /-- What the running functions and commands took for themselves, the innermost first. -/
  outer : List Outer
  /-- The number of the last command that was started without waiting for it. -/
  started : Option Nat
  /-- What is run for a signal, or at the end for the number 0. -/
  traps : Table Nat String
  /-- The signals that mean nothing to the process, whatever the interpreter says. -/
  ignored : List Nat
  /-- The status in front of what is being run for a signal or at the end, if that is so. -/
  interrupted : Option Nat
  /-- The path by which the interpreter knows its working directory. -/
  directory : String
  /-- Where programs were found, by name. -/
  found : Table String Found
  /-- Which argument the next option is read from, and how many of its letters were read. -/
  optionIndex : Nat
  lettersRead : Nat
  /-- Whether a trace of commands is being expanded. -/
  tracing : Bool
  /-- How far the process stands behind others when time is given out. -/
  niceness : Int
  /-- When the time of the process is over. -/
  deadlines : List Deadline
  /-- The limits that were set, by their letters: those in force, and those up to which they may be
  raised. -/
  softLimits : Table Char String
  hardLimits : Table Char String

/-- A command that was started and is not waited for. -/
structure Job where
  /-- The number by which the interpreter knows it. -/
  index : Nat
  /-- The number of its process. -/
  process : Nat
  /-- How it ended, if it was run already. -/
  ending : Option Ending := none
  /-- Whether there was time for it to end. -/
  noticed : Bool := false
  /-- Whether somebody waited for its end. -/
  waited : Bool := false
  command : Command
  /-- What the interpreter had for itself when the job was started. -/
  start : Own
  /-- The working directory and the mask at that time. -/
  working : Nat
  mask : Nat
  begun : Int
  /-- When there is something to do for it. -/
  wakes : Int

/-- The state of a process with a command interpreter in it. -/
structure State extends Shared, Own where
  jobs : List Job

/-- Why commands stop before their end. -/
inductive Stop where
  /-- Something went wrong that was complained about. -/
  | error
  /-- The interpreter exits with its status. -/
  | exit
  /-- The process ends with its status, and nothing is run any more. -/
  | gone
  /-- So many loops are left. -/
  | leave (loops : Nat)
  /-- So many loops but the last are left, and the last goes on. -/
  | next (loops : Nat)
  /-- A function or a file of commands returns; whether the status was given. -/
  | back (given : Bool)
  /-- A signal kills the process. -/
  | killed (signal : Nat)
  deriving DecidableEq

/-! ## 2.  Running -/

/-- A computation over the state of an interpreter that may stop early. -/
abbrev Run (α : Type) := EStateM Stop State α

/-- Sets the status of the last command. -/
def setStatus (status : Nat) : Run Unit := modify fun s => { s with status := status }

/-- Whether an option is switched on. -/
def hasOption (letter : Char) : Run Bool := do
  return (← get).options.contains letter

/-- Runs something to its end, or to where it stops. -/
def attempt (run : Run Unit) : Run (Option Stop) :=
  tryCatch (run *> pure none) fun stop => pure (some stop)

/-- Runs something, and something else behind it even if the first stops. -/
def behind (run after : Run Unit) : Run Unit := do
  let stop ← attempt run
  after
  match stop with
  | some stop => throw stop
  | none => return

/-- Runs something with another value in a part of the state, which it gets back behind it. -/
def withPart {α : Type} (part : State → α) (put : α → State → State) (value : α) (run : Run Unit) :
    Run Unit := do
  let before := part (← get)
  modify (put value)
  behind run (modify (put before))

/-- Runs something while somebody waits to see if it fails, or while nobody does. -/
def whileTested (tested : Bool) (run : Run Unit) : Run Unit :=
  withPart (·.tested) (fun tested s => { s with tested := tested }) tested run

/-- Runs something that nothing follows in its process. -/
def asLast (run : Run Unit) : Run Unit :=
  withPart (·.isLast) (fun isLast s => { s with isLast := isLast }) true run

/-- Runs something that something else follows in its process. -/
def followed (run : Run Unit) : Run Unit := do
  if (← get).isLast then
    withPart (·.isLast) (fun isLast s => { s with isLast := isLast }) false run
  else run

/-- Changes the files. -/
def changeFiles (change : FileSystem → FileSystem) : Run Unit :=
  modify fun s => { s with files := change s.files }

/-- Adds a node without a name; gives its number. -/
def addNode (node : Node) : Run Nat := do
  let id := (← get).files.nodes.size
  changeFiles fun files => (files.addNode node).1
  return id

/-- Adds a pipe with bytes in it; gives its number. -/
def addPipe (content : ByteArray) : Run Nat := do addNode ((← get).files.pipeWith content)

end CountedStrings.Shell
