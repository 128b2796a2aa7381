import CountedStrings.Surroundings.Shell.Grammar
import CountedStrings.Surroundings.Shell.Process

/-!
# Running texts

A text of commands is run line by line, each line before the next one is read (`runText`).

A *trap* is a text that is run for a signal, or at the end of an interpreter.  The status in front of
a trap is the status behind it, unless the trap itself exits or returns with another one.

How a single command is run is handed in, since commands may run texts in turn.
-/

namespace CountedStrings.Shell

/-- A way to run a command. -/
abbrev Runner := Command → Run Unit

/-- Keeps what a reader found out beside commands. -/
def keepDocuments (r : Grammar.Reader) : Run Unit :=
  modify fun s =>
    { s with
      documents := r.documents.foldl (fun table (n, body) => table.insert n body) s.documents
      nextDocument := r.nextDocument
      reached := r.line }

/-- Shows what a reader has read, if that is asked for. -/
def showRead (isFile : Bool) (before after : Grammar.Reader) : Run Unit := do
  if isFile then
    if ← hasOption 'v' then
      let length := before.rest.length - after.rest.length
      complain (String.ofList (before.rest.take length))

/-- Runs what a reader finds, at most so many lines; tells whether anything was run. -/
def runLines (runner : Runner) (isFile : Bool) : Nat → Bool → Grammar.Reader → Run Bool
  | 0, any, _ => return any
  | budget + 1, any, reader => do
    let s ← get
    match Grammar.readLine { reader with aliases := s.aliases, nextDocument := s.nextDocument } with
    | .error e =>
      modify fun s => { s with line := e.line }
      misuse e.message
    | .ok .finish => return any
    | .ok (.commands c after) =>
      showRead isFile reader after
      keepDocuments after
      let after := { after with documents := [] }
      match c with
      | none => runLines runner isFile budget any after
      | some c =>
        followed (runner c)
        runLines runner isFile budget true after

/-- Runs a text, which may stand in a file; its status is 0 if there is nothing in it. -/
def runText (runner : Runner) (isFile : Bool) (text : String) : Run Unit :=
  withPart (·.reached) (fun line s => { s with reached := line }) 1 do
    let cs := text.toList
    let any ← runLines runner isFile (cs.length + 1) false (Grammar.Reader.ofText ∅ 0 cs)
    if !any then setStatus 0

/-- Runs a trap; tells how it stopped. -/
def runTrap (runner : Runner) (text : String) : Run Unit := do
  let status := (← get).status
  let stop ← attempt do
    whileTested false do
      withPart (·.interrupted) (fun i s => { s with interrupted := i }) (some status)
        (runText runner false text)
  match stop with
  | none => setStatus status
  | some (.back false) =>
    setStatus status
    throw (.back false)
  | some stop => throw stop

/-- Runs the traps for the signals that came. -/
def answerSignals (runner : Runner) : Run Unit := do
  let s ← get
  if !s.signals.isEmpty then
    let came := s.signalsFor s.number
    set { s with signals := s.signals.filter fun (process, _) => process ≠ s.number }
    for signal in List.range Signal.count do
      if came.contains signal then
        if let .runs text := dispositionOf (← get) signal then runTrap runner text

/-- Runs something to the end of an interpreter, and then the trap for its end. -/
def runToEnd (runner : Runner) (run : Run Unit) : Run Unit := do
  match ← attempt run with
  | some (.killed signal) => throw (.killed signal)
  | some .gone => return
  | _ =>
    match (← get).traps.get? 0 with
    | none => return
    | some text =>
      modify fun s => { s with traps := s.traps.erase 0, loops := 0 }
      match ← attempt (runTrap runner text) with
      | some (.killed signal) => throw (.killed signal)
      | _ => return

/-- Runs commands in a copy of the interpreter, and waits for it; gives the status. -/
def runSubshell (runner : Runner) (run : Run Unit) : Run Nat :=
  runChild do
    modify State.asSubshell
    runToEnd runner run

/-- Runs commands; gives what they print, without zero bytes and the newlines at the end. -/
def captureOutput (runner : Runner) (body : Option Command) : Run String := do
  match body with
  | none => return ""
  | some c =>
    let pipe ← addPipe ByteArray.empty
    let status ← runSubshell runner do
      setDescriptor 1 (← openNode pipe true false true)
      asLast (whileTested false (runner c))
    modify fun s => { s with substituted := status }
    let bytes := (← get).files.contentOf pipe
    changeFiles fun files => files.setNode pipe (files.pipeWith ByteArray.empty)
    let text := (textOf bytes).toList.filter (· ≠ '\x00')
    return String.ofList (text.reverse.dropWhile (· = '\n')).reverse

end CountedStrings.Shell
