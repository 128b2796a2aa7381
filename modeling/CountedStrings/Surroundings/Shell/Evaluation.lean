import CountedStrings.Surroundings.Shell.Simple

/-!
# Running commands

What each kind of command does (`Command.step`), given a way to run the commands that it is made of,
and the way to run any command that follows from it (`Command.run`).  A command may be nested, and
functions may call each other, down to a depth; a process that goes deeper is killed, as one that has
used up its memory is.

Commands that run beside others (the stages of a pipeline, and what stands in parentheses) run in
processes of their own.
-/

namespace CountedStrings.Shell

/-! ## 1.  Loops and choices -/

/-- How many turns a loop can make. -/
def turnLimit : Nat := 1000000000

/-- Runs the body of a loop; tells whether the loop goes on. -/
def runTurn (run : Run Unit) : Run Bool := do
  match ← attempt run with
  | none => return true
  | some (.leave n) => if n ≤ 1 then return false else throw (.leave (n - 1))
  | some (.next n) => if n ≤ 1 then return true else throw (.next (n - 1))
  | some stop => throw stop

/-- Runs something inside of a loop. -/
def insideLoop (run : Run Unit) : Run Unit := do
  modify fun s => { s with loops := s.loops + 1 }
  behind run (modify fun s => { s with loops := s.loops - 1 })

/-- Runs the turns of a loop; its status is that of the last turn, which is given at the start. -/
def runTurns (runner : Runner) (whileSucceeds : Bool) (test body : Command) :
    Nat → Nat → Run Unit
  | 0, status => setStatus status
  | budget + 1, status => do
    match ← attempt (whileTested true (runner test)) with
    | some (.leave n) => do
      setStatus status
      if 1 < n then throw (.leave (n - 1))
    | some (.next n) =>
      if 1 < n then throw (.next (n - 1))
      else runTurns runner whileSucceeds test body budget status
    | some stop => throw stop
    | none =>
      if ((← get).status = 0) = whileSucceeds then
        if ← runTurn (runner body) then
          runTurns runner whileSucceeds test body budget (← get).status
      else setStatus status

/-- Runs the body of a loop for each of some values. -/
def runEach (runner : Runner) (name : String) (body : Command) : List String → Run Unit
  | [] => return
  | value :: rest => do
    setVariable name value
    if ← runTurn (runner body) then runEach runner name body rest

/-- Whether one of some patterns matches a text. -/
def matchesAny (capture : Capture) (text : List Char) : List Word → Run Bool
  | [] => return false
  | first :: rest => do
    let pattern ← Word.expandPattern capture first
    if Pattern.matches? pattern text then return true else matchesAny capture text rest

/-- Runs the first branch that has a pattern for a text. -/
def runBranches (runner : Runner) (capture : Capture) (text : List Char) : List Branch → Run Unit
  | [] => setStatus 0
  | .mk patterns body :: rest => do
    if ← matchesAny capture text patterns then
      match body with
      | some c => runner c
      | none => setStatus 0
    else runBranches runner capture text rest

/-! ## 2.  Pipelines -/

/-- The files that a command empties before it runs, if that can be seen from how it is written. -/
def emptiedFiles : Command → List String
  | .simple _ _ _ redirections | .redirected _ _ redirections | .subshell _ _ redirections =>
    redirections.filterMap fun r =>
      match r with
      | .file _ .output [.text path] | .file _ .replace [.text path] =>
        if path.startsWith "~" then none else some path
      | _ => none
  | _ => []

/-- Empties files. -/
def emptyFiles (paths : List String) : Run Unit := do
  if !(← hasOption 'C') then
    for path in paths do
      match (← get).files.openOrCreate (Bytes.ofByteText path) with
      | .ok (files, id) =>
        modify fun s => { s with files := files.setContent id ByteArray.empty }
      | .error _ => pure ()

/-- Finds the program of a command before the command runs in a process of its own, if the name of the
program is written out. -/
def findEarly (runner : Runner) : Command → Run Unit
  | .simple _ _ (word :: _) _ => do
    match Word.bare? word with
    | none => return
    | some name =>
      let isKnown := (builtin? runner name).isSome || (← get).functions.contains name
      if isName name && !isKnown then discard (resolve false name)
  | _ => return

/-- Runs the stages of a pipeline, the first with its input from a pipe if there is one. -/
def runStages (runner : Runner) (input : Option Nat) : List Command → Run Unit
  | [] => return
  | c :: rest => do
    findEarly runner c
    let pipe ← addPipe ByteArray.empty
    let status ← runSubshell runner do
      match input with
      | some pipe => setDescriptor 0 (← openNode pipe false true false)
      | none => pure ()
      if !rest.isEmpty then setDescriptor 1 (← openNode pipe true false true)
      asLast (runner c)
    match input with
    | some pipe => changeFiles fun files => files.setNode pipe (files.pipeWith ByteArray.empty)
    | none => pure ()
    setStatus status
    runStages runner (some pipe) rest

/-! ## 3.  All commands -/

/-- Ends the interpreter if a command failed and that is what was asked for. -/
def exitIfFailed : Run Unit := do
  let s ← get
  if s.status ≠ 0 && s.options.contains 'e' && !s.tested then throw .exit

/-- The words behind the name of the program that a command starts by sleeping with. -/
def sleepWords? : Command → Option (List Word)
  | .simple _ _ (word :: words) _ => if Word.plainText word = "sleep" then some words else none
  | .pipeline (c :: _) | .sequence (c :: _) | .negation c | .both c _ | .either c _
  | .subshell _ c _ | .redirected _ c _ => sleepWords? c
  | _ => none

/-- Whether nothing but the value of a part is needed to expand it. -/
def isMere : Part → Bool
  | .text _ | .literal _ => true
  | .parameter _ .value _ => true
  | _ => false

/-- How long a command sleeps at its start, if that is easily seen. -/
def sleepSpan? (capture : Capture) (c : Command) : Run (Option Int) := do
  match sleepWords? c with
  | none => return none
  | some words =>
    if words.all fun word => word.all isMere then
      let spans := (← Word.expandAll capture words).mapM Utility.timeSpan?
      return spans.map fun all => Int.ofNat (all.foldl (· + ·) 0)
    else return none

/-- Starts a command that nobody waits for. -/
def startJob (runner : Runner) (c : Command) : Run Unit := do
  let span ← sleepSpan? (captureOutput runner) c
  let job ← addJob c (span.getD 0)
  if (sleepWords? c).isNone then Builtin.finishJob runner job
  receive
  setStatus 0

/-- Lets jobs do what there is to do for them while a command sleeps. -/
def sleepBeside (runner : Runner) (c : Command) : Run Unit := do
  if !(← get).sleeping.isEmpty then
    if let some span ← sleepSpan? (captureOutput runner) c then
      let now := (← get).files.clock
      Builtin.wakeJobs runner (some (now + span))
      changeFiles fun files => { files with clock := now }

/-- Runs commands one after the other. -/
def runSequence (runner : Runner) : List Command → Run Unit
  | [] => return
  | [c] => runner c
  | c :: rest => do
    followed (runner c)
    runSequence runner rest

/-- Runs a command, given a way to run the commands in it. -/
def Command.step (runner : Runner) (c : Command) : Run Unit := do
  if ← hasOption 'n' then return
  answerSignals runner
  let capture := captureOutput runner
  match c with
  | .simple line assignments words redirections => do
    sleepBeside runner c
    runSimple runner line assignments words redirections
    answerSignals runner
    exitIfFailed
  | .pipeline stages => do
    emptyFiles (stages.tail.flatMap emptiedFiles)
    runStages runner none stages
    answerSignals runner
    exitIfFailed
  | .negation c => do
    followed (whileTested true (runner c))
    setStatus (if (← get).status = 0 then 1 else 0)
  | .both first second => do
    followed (whileTested true (runner first))
    if (← get).status = 0 then runner second
  | .either first second => do
    followed (whileTested true (runner first))
    if (← get).status ≠ 0 then runner second
  | .sequence commands => runSequence runner commands
  | .background c => startJob runner c
  | .subshell line c redirections => do
    modify fun s => { s with line := line }
    let destinations ← redirections.mapM (Redirection.expand capture)
    let run : Run Unit := do
      destinations.forM (Destination.apply capture)
      asLast (runner c)
    if givesWay (← get) then
      run
      throw .exit
    else
      setStatus (← runSubshell runner run)
      answerSignals runner
      exitIfFailed
  | .conditional test yes no => do
    followed (whileTested true (runner test))
    if (← get).status = 0 then runner yes
    else
      match no with
      | some no => runner no
      | none => setStatus 0
  | .loop whileSucceeds test body =>
    followed (insideLoop (runTurns runner whileSucceeds test body turnLimit 0))
  | .each line name words body => do
    modify fun s => { s with line := line }
    let values ← Word.expandAll capture words
    if values.isEmpty then setStatus 0
    followed (insideLoop (runEach runner name body values))
  | .select line word branches => do
    modify fun s => { s with line := line }
    let text ← Word.expand capture .text word
    runBranches runner capture text.toList branches
  | .define name body => do
    modify fun s => { s with functions := s.functions.insert name body }
    setStatus 0
  | .redirected line c redirections => do
    modify fun s => { s with line := line }
    let destinations ← redirections.mapM (Redirection.expand capture)
    redirecting destinations false do
      let status ← redirect capture destinations
      if status ≠ 0 then
        setStatus status
        exitIfFailed
      else followed (runner c)

/-- Runs a command with a depth of nesting. -/
def Command.run : Nat → Runner
  | 0, _ => throw (.killed Signal.fault)
  | depth + 1, c => c.step (Command.run depth)

/-- How deep commands can be nested. -/
def nestingLimit : Nat := 12000

end CountedStrings.Shell
