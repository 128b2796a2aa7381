import CountedStrings.Surroundings.Shell.Builtin.Arguments
import CountedStrings.Surroundings.Shell.Script
import CountedStrings.Surroundings.Shell.Settings

/-!
# Built-in commands about processes

Signals and what is run for them, jobs, and waiting for them.
-/

namespace CountedStrings.Shell.Builtin

/-! ## 1.  Signals -/

/-- What is said to someone who does not know how to send signals. -/
def killUsage : String :=
  "Usage: kill [-s sigspec | -signum | -sigspec] [pid | job]... or\nkill -l [exitstatus]"

/-- The job that a text behind a percent sign names. -/
def jobNamed (text : String) : Run Job := do
  let jobs := (← get).jobs.reverse
  let name := String.ofList (text.toList.drop 1)
  let found :=
    if ["", "%", "+"].contains name then jobs.head?
    else if name = "-" then jobs[1]?
    else (Number.ofDigits? name).bind fun n => jobs.find? fun job => job.index = n
  match found with
  | some job => return job
  | none =>
    if ["", "%", "+"].contains name then misuse "No current job"
    else if name = "-" then misuse "No previous job"
    else misuse ("No such job: " ++ text)

/-- Whether a process is there to be sent a signal. -/
def isAlive (s : State) (process : Nat) : Bool :=
  process = s.number || s.ancestors.contains process || s.sleeping.contains process ||
    s.jobs.any fun job => job.process = process && !job.noticed

/-- Sends a signal to the process that a text names; gives a status. -/
def sendTo (signal : Nat) (text : String) : Run Nat := do
  let process ←
    match text.toList with
    | '%' :: _ => do
      discard (jobNamed text)
      pure none
    | '-' :: digits => do
      discard (count (String.ofList digits))
      pure none
    | _ => some <$> count text
  match process.filter (isAlive (← get)) with
  | none =>
    warn "No such process\n"
    return 1
  | some process =>
    if signal ≠ 0 then
      send process signal
      receive
    return 0

/-- Tells the name of a signal, given by its number or by the status of a process that it killed. -/
def nameSignal (text : String) : Run Unit := do
  let n ← count text
  let signal := if 128 < n then n - 128 else n
  if 0 < signal && signal < Signal.count then print (Signal.name signal ++ "\n")
  else misuse ("invalid signal number or exit status: " ++ text)

/-- Sends a signal to processes, or tells the names of signals. -/
def kill : Body := fun arguments => do
  let first := (arguments.headD "").toList
  let direct :=
    if first.head? = some '-' then Signal.ofText? 1 (String.ofList (first.drop 1)) else none
  let (lists, signal, targets) ←
    match direct with
    | some signal => pure (false, some signal, arguments.drop 1)
    | none => do
      let (given, targets) ←
        if first.head? = some '-' then options "l" "s" arguments else pure ([], arguments)
      let mut signal := none
      for (letter, text) in given do
        if letter = 's' then
          match Signal.ofText? 1 text with
          | some n => signal := some n
          | none => misuse ("invalid signal number or name: " ++ text)
      pure (given.any fun (letter, _) => letter = 'l', signal, targets)
  if lists then
    if signal.isSome then misuse killUsage
    match targets with
    | [] => do
      print "0\n"
      for name in Signal.names.drop 1 do print (name ++ "\n")
    | text :: _ => nameSignal text
    return 0
  else if targets.isEmpty then misuse killUsage
  else
    let mut status := 0
    for text in targets do
      status := max status (← sendTo (signal.getD Signal.terminate) text)
    return status

/-- Lists what is run for signals, or sets it. -/
def trap : Body := fun arguments => do
  match ← operands arguments with
  | [] => do
    let traps := (← get).traps.entries.mergeSort fun a b => a.1 ≤ b.1
    for (signal, text) in traps do
      print ("trap -- " ++ quote text ++ " " ++ Signal.name signal ++ "\n")
    return 0
  | first :: rest => do
    let resets := rest.isEmpty || (Signal.ofNumber? first).isSome
    let action := if resets || first = "-" then none else some first
    for text in if resets then first :: rest else rest do
      match Signal.ofText? 0 text with
      | none =>
        complain ("trap: " ++ text ++ ": bad trap\n")
        return 1
      | some signal =>
        modify fun s =>
          { s with
            traps := match action with
              | none => s.traps.erase signal
              | some action => s.traps.insert signal action }
    return 0

/-! ## 2.  Jobs -/

/-- The number of processes that a job started with. -/
def stageCount : Command → Nat
  | .pipeline stages => stages.length
  | _ => 1

/-- What is told about how a job fares. -/
def jobState (job : Job) : String :=
  match job.noticed, job.ending with
  | true, some (.exited 0) => "Done"
  | true, some (.exited status) => "Done(" ++ toString status ++ ")"
  | true, some (.killed signal) => Signal.describe signal
  | _, _ => "Running"

/-- The line about a job, with its process on request. -/
def jobLine (job : Job) (mark : Char) (withProcess : Bool) : String :=
  let process := if withProcess then toString job.process ++ " " else ""
  let text := "[" ++ toString job.index ++ "] " ++ mark.toString ++ " " ++ process ++ jobState job
  let stages := String.join (List.replicate (stageCount job.command - 1) " | ")
  Setting.inColumn 33 (text ++ " ") ++ stages

/-- Tells about jobs. -/
def jobs : Body := fun arguments => do
  let (given, names) ← options "lp" "" arguments
  let letter := (given.getLast?.map (·.1)).getD ' '
  let chosen ← if names.isEmpty then pure (← get).jobs.reverse else names.mapM jobNamed
  for job in chosen do
    let all := (← get).jobs.reverse
    let mark :=
      match all.findIdx? fun other => other.process = job.process with
      | some 0 => '+'
      | some 1 => '-'
      | _ => ' '
    if letter = 'p' then print (toString job.process ++ "\n")
    else
      print (jobLine job mark (letter = 'l') ++ "\n")
      if job.noticed then
        modify fun s => { s with jobs := s.jobs.filter fun other => other.process ≠ job.process }
  return 0

/-- Runs something with its input from nowhere. -/
def withoutInput (run : Run Unit) : Run Unit := do
  let null ← addNode (.device .null)
  setDescriptor 0 (← openNode null false true false)
  run

/-- Runs a job to its end; that takes time only if the job is not at its end yet. -/
def finishJob (runner : Runner) (job : Job) : Run Unit := do
  let now := (← get).files.clock
  runJob job.process do
    job.enter
    modify fun s => { s.asSubshell with ignored := [2, 3] ++ s.ignored }
    runToEnd runner (withoutInput (asLast (whileTested false (runner job.command))))
  noticeEnd
  changeFiles fun files => { files with clock := max now files.clock }

/-- Runs the jobs that have something to do up to some time, the earliest first, and ends those that a
signal kills. -/
def wakeJobs (runner : Runner) (time : Option Int) : Run Unit := do
  let s ← get
  let isDue (job : Job) : Bool :=
    time.all (job.wakes ≤ ·) || (s.signalsFor job.process).any Signal.isDeadly
  let due := s.jobs.filter fun job => job.ending.isNone && isDue job
  for job in due.mergeSort fun a b => a.wakes ≤ b.wakes do finishJob runner job

/-- Runs a job to its end if it was not run yet; tells of its death on request. -/
def waitForJob (runner : Runner) (tells : Bool) (job : Job) : Run Nat := do
  if job.ending.isNone then wakeJobs runner (some job.wakes)
  let ending := ((← get).jobs.find? fun other => other.process = job.process).bind (·.ending)
  changeJob job.process fun job => { job with noticed := true, waited := true }
  let ending := ending.getD (.exited 0)
  if let .killed signal := ending then
    if tells && !job.noticed && Signal.isTold signal then complain (Signal.describe signal ++ "\n")
  receive
  return ending.status

/-- The status of waiting when a signal came for which something is run. -/
def interruption? : Run (Option Nat) := do
  let s ← get
  let came := (s.signalsFor s.number).filter (· ≠ Signal.childEnded)
  return came.getLast?.map (128 + ·)

/-- Waits for jobs: all of them, or those that are named. -/
def wait (runner : Runner) : Body := fun arguments => do
  match ← operands arguments with
  | [] => do
    wakeJobs runner none
    for job in (← get).jobs do discard (waitForJob runner false job)
    return (← interruption?).getD 0
  | names => do
    let mut status := 127
    for name in names do
      let job ←
        if name.startsWith "%" then some <$> jobNamed name
        else do
          let n ← count name
          pure ((← get).jobs.find? fun job => job.process = n)
      match job with
      | some job => do
        status := ← waitForJob runner true job
        if let some interrupted ← interruption? then return interrupted
      | none => pure ()
    return status

/-- Continues a job, which takes control over jobs that is not there. -/
def resume : Body := fun arguments => do
  let (_, names) ← options "" "" arguments
  let job ← jobNamed (names.headD "%%")
  misuse ("job " ++ toString job.index ++ " not created under job control")

/-! ## 3.  Limits and times -/

/-- Tells the time that was used, which is none. -/
def times : Body := fun _ => do
  print "0m0.000000s 0m0.000000s\n0m0.000000s 0m0.000000s\n"
  return 0

/-- The limits by their letters, as they are listed. -/
def limits : List (Char × String × String) :=
  [('t', "time(seconds)", "unlimited"), ('f', "file(blocks)", "unlimited"),
    ('d', "data(kbytes)", "unlimited"), ('s', "stack(kbytes)", "8192"),
    ('c', "coredump(blocks)", "0"), ('m', "memory(kbytes)", "unlimited"),
    ('l', "locked memory(kbytes)", "8192"), ('p', "process", "unlimited"),
    ('n', "nofiles", "1048576"), ('v', "vmemory(kbytes)", "unlimited"),
    ('w', "locks", "unlimited"), ('r', "rtprio", "0")]

/-- The limit of a letter, the highest one or the one in force. -/
def limitOf (s : State) (highest : Bool) (letter : Char) : String :=
  let usual := ((limits.lookup letter).map (·.2)).getD "unlimited"
  if highest then (s.hardLimits.get? letter).getD (if letter = 's' || letter = 'c' then "unlimited" else usual)
  else (s.softLimits.get? letter).getD usual

/-- Whether a limit is above another one. -/
def isAbove (a b : String) : Bool :=
  match Number.ofDigits? a, Number.ofDigits? b with
  | some a, some b => b < a
  | none, some _ => true
  | _, none => false

/-- Tells limits or sets them.  Nothing here comes near a limit. -/
def ulimit : Body := fun arguments => do
  let (given, values) ← options "HSatfdscmlpnvwr" "" arguments
  let letters := given.map (·.1)
  let kind := letters.reverse.find? fun c => c = 'H' || c = 'S'
  let letter := (letters.reverse.find? fun c => !(['H', 'S', 'a'].contains c)).getD 'f'
  let s ← get
  match values with
  | value :: more =>
    if letters.contains 'a' || !more.isEmpty then misuse "too many arguments"
    let value ← match value, Number.ofDigits? value with
      | "unlimited", _ => pure value
      | _, some n => pure (toString n)
      | _, none => misuse "bad number"
    let fails (reason : FileError) : Run Unit :=
      misuse ("error setting limit (" ++ reason.message ++ ")")
    let highest := limitOf s true letter
    if kind ≠ some 'S' && isAbove value highest then fails .forbidden
    if kind = some 'S' && isAbove value highest then fails .invalid
    if kind = some 'H' && isAbove (limitOf s false letter) value then fails .invalid
    set { s with
      softLimits := if kind = some 'H' then s.softLimits else s.softLimits.insert letter value
      hardLimits := if kind = some 'S' then s.hardLimits else s.hardLimits.insert letter value }
    return 0
  | [] => do
    let value (letter : Char) : String := limitOf s (kind = some 'H') letter
    if letters.contains 'a' then
      for (letter, name, _) in limits do
        print (Setting.inColumn 20 name ++ " " ++ value letter ++ "\n")
    else print (value letter ++ "\n")
    return 0

end CountedStrings.Shell.Builtin
