import CountedStrings.Surroundings.Shell.Signal
import CountedStrings.Surroundings.Shell.Variables

/-!
# Processes

A process runs on a copy of the state of the process that starts it.  When it is at its end, what it
did to that which all processes share remains, and the rest is forgotten (`inProcess`).  Processes that
would run side by side run one after the other.

## 1.  Ends of processes

A process ends with a status or is killed by a signal.  To the process that waits for it a death by a
signal is a status too.

## 2.  Programs in a process

A program sees the files, the descriptors and what was exported to it.  `State.asInterpreter` is what
is left of the state when an interpreter starts as a program.

## 3.  Jobs

A command that nobody waits for is a job.  It runs at once, unless it starts by sleeping: such a job
runs when somebody waits for it or sleeps for longer, and not at all if nobody does.
-/

namespace CountedStrings.Shell

/-! ## 1.  Ends of processes -/

/-- Takes a number for a process. -/
def newProcess : Run Nat := do
  let number := (← get).nextNumber
  modify fun s => { s with nextNumber := number + 1 }
  return number

/-- Runs something in the process of a number, up to its end. -/
def inProcess (number : Nat) (run : Run Unit) : Run Ending := do
  let before ← get
  set { before with
    number := number
    ancestors := before.number :: before.ancestors }
  let stop ← attempt run
  if !(stop matches some (.killed _)) then discard flush
  let after ← get
  let files :=
    { after.files with working := before.files.working, mask := before.files.mask }
  set { before with toShared := { after.toShared with files := files } }
  match stop with
  | some (.killed signal) => return .killed signal
  | _ => return .exited after.status

/-- Takes notice of the end of a process, for which something may have to be run. -/
def noticeEnd : Run Unit := do
  let s ← get
  if dispositionOf s Signal.childEnded ≠ .ignores then send s.number Signal.childEnded

/-- Waits for a process that has ended: takes notice of signals and tells of its death. -/
def waitFor (ending : Ending) : Run Nat := do
  noticeEnd
  receive
  if let .killed signal := ending then
    if Signal.isTold signal then complain (Signal.describe signal ++ "\n")
  return ending.status

/-- Forgets the first job that is at its end and was waited for, and lets the others have time. -/
def reviewJobs (jobs : List Job) : List Job :=
  (jobs.eraseP fun job => job.waited).map fun job => { job with noticed := job.ending.isSome }

/-- Runs something in a process of its own and waits for it; gives its status. -/
def runChild (run : Run Unit) : Run Nat := do
  let number ← newProcess
  modify fun s => { s with jobs := reviewJobs s.jobs }
  waitFor (← inProcess number run)

/-! ## 2.  Programs in a process -/

/-- The signals that are ignored in a program. -/
def State.ignoredSignals (s : State) : List Nat :=
  s.ignored ++ (s.traps.entries.filter fun (_, text) => text = "").map (·.1)

/-- The state of the copy of an interpreter that runs commands beside it. -/
def State.asSubshell (s : State) : State :=
  { s with
    traps := .ofList (s.traps.entries.filter fun (signal, text) => signal ≠ 0 && text = "")
    jobs := [], interrupted := none }

/-- The variables that an interpreter has by itself. -/
def ownVariables : List (String × String) :=
  [("IFS", " \t\n"), ("OPTIND", "1"), ("PS1", "# "), ("PS2", "> "), ("PS4", "+ ")]

/-- The directories in which programs are looked for, if nobody says otherwise. -/
def standardPath : String :=
  "/usr/local/sbin:/usr/local/bin:/usr/sbin:/usr/bin:/sbin:/bin"

/-- The variables of an interpreter that is given an environment.  What separates fields is never
taken from outside. -/
def startVariables (entries : List (String × String)) (parent : Nat) : Table String Variable :=
  let outside := variablesOf (entries.filter fun (name, _) => name ≠ "IFS")
  let own := ownVariables ++ [("PPID", toString parent), ("PATH", standardPath)]
  own.foldl (fun table (name, value) =>
    if table.contains name && name ≠ "PPID" then table
    else table.insert name ⟨some value, false, false⟩) outside

/-- The state of an interpreter that starts as a program. -/
def State.asInterpreter (s : State) : State :=
  let given := startVariables (exportedEntries s) (s.ancestors.headD 1)
  { s with
    original := s.number
    buffered := ByteArray.empty
    vars := given
    functions := ∅
    aliases := ∅
    documents := ∅
    nextDocument := 0
    line := 0
    reached := 0
    command := none
    status := 0
    substituted := 0
    options := []
    tested := false
    isLast := false
    loops := 0
    calls := 0
    outer := []
    jobs := []
    started := none
    traps := ∅
    ignored := s.ignoredSignals
    interrupted := none
    found := ∅
    optionIndex := 1
    lettersRead := 0
    tracing := false }

/-! ## 3.  Jobs -/

/-- Changes the job of a process. -/
def changeJob (process : Nat) (change : Job → Job) : Run Unit :=
  modify fun s =>
    { s with jobs := s.jobs.map fun job => if job.process = process then change job else job }

/-- The smallest number that no job has. -/
def freeIndex (jobs : List Job) : Nat :=
  ((List.range (jobs.length + 1)).find? fun i => !jobs.any fun job => job.index = i + 1).getD 0 + 1

/-- Adds a job for a command that has nothing to do for some milliseconds. -/
def addJob (c : Command) (delay : Int) : Run Job := do
  let process ← newProcess
  let s ← get
  let jobs := s.jobs.eraseP fun job => job.waited
  let job : Job :=
    { index := freeIndex jobs, process := process, command := c, start := s.toOwn
      working := s.files.working, mask := s.files.mask
      begun := s.files.clock, wakes := s.files.clock + delay }
  modify fun s =>
    { s with
      jobs := jobs ++ [job]
      started := some process
      sleeping := s.sleeping ++ [process] }
  return job

/-- Makes the state what it was when a job was started, in the process of the job. -/
def Job.enter (job : Job) : Run Unit :=
  modify fun s =>
    let own := { job.start with number := s.number, ancestors := s.ancestors }
    let files := { s.files with working := job.working, mask := job.mask, clock := job.begun }
    { s with toOwn := own, files := files }

/-- Runs a job, unless a signal kills it before. -/
def runJob (process : Nat) (run : Run Unit) : Run Unit := do
  modify fun s => { s with sleeping := s.sleeping.filter (· ≠ process) }
  let deadly := ((← get).signalsFor process).find? Signal.isDeadly
  let ending ← match deadly with
    | some signal => pure (Ending.killed signal)
    | none => inProcess process run
  changeJob process fun job => { job with ending := some ending }

end CountedStrings.Shell
