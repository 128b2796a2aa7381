import CountedStrings.Surroundings.Shell.Builtin.Directory
import CountedStrings.Surroundings.Shell.Builtin.Variables
import CountedStrings.Surroundings.Shell.Script
import CountedStrings.Surroundings.Shell.Starting
import CountedStrings.Surroundings.Shell.Utility.Index

/-!
# Running programs

A program runs in the process that it is started in, up to the end of that process (`execute`).  It is
a utility, or a command interpreter with a text to run.

## 1.  The interpreter as a program

Its arguments are options, and then a text behind `-c`, or the path of a file with a text, or nothing
if the text is to be read from the input.

## 2.  Programs

Each image of a program stands for one of the programs that are known here.
-/

namespace CountedStrings.Shell

/-! ## 1.  The interpreter as a program -/

/-- How an interpreter was called. -/
structure Invocation where
  /-- Whether a text is given. -/
  isText : Bool
  arguments : List String

/-- Reads the options of an interpreter, and switches them.  The budget has to be more than the number
of arguments. -/
def readInvocation : Nat → Invocation → Run Invocation
  | 0, i => return i
  | budget + 1, i => do
    match i.arguments with
    | [] => return i
    | argument :: rest =>
      match argument.toList with
      | ['-'] | ['-', '-'] => return { i with arguments := rest }
      | sign :: letters =>
        if (sign = '-' || sign = '+') && !(sign = '+' && letters.isEmpty) then do
          let isText := letters.contains 'c'
          let letters := letters.filter fun c => c ≠ 'c' && c ≠ 'l'
          let rest ← Setting.switchLetters (sign = '-') letters rest
          readInvocation budget ⟨i.isText || isText, rest⟩
        else return i
      | [] => return i

/-- Runs a text that is a program of its own. -/
def runWhole (runner : Runner) (isFile : Bool) (text : String) : Run Unit :=
  runToEnd runner (runText runner isFile text)

/-- Runs an interpreter that was called by a name, up to its end. -/
def interpret (runner : Runner) (name : String) (arguments : List String) : Run Unit := do
  modify fun s => { s.asInterpreter with name := name, arguments := [] }
  findDirectory
  let started ← attempt do
    let i ← readInvocation (arguments.length + 1) ⟨false, arguments⟩
    match i.isText, i.arguments with
    | true, [] => misuse "-c requires an argument"
    | true, text :: rest => do
      modify fun s => { s with name := rest.headD name, arguments := rest.drop 1, line := 1 }
      runWhole runner false text
    | false, [] => do
      modify fun s => { s with line := 1, options := 's' :: s.options }
      let bytes := (← read 0 none).toOption.getD ByteArray.empty
      runWhole runner true (textOf bytes)
    | false, path :: rest => do
      if (← hasOption 's') then
        modify fun s => { s with arguments := path :: rest, line := 1 }
        let bytes := (← read 0 none).toOption.getD ByteArray.empty
        runWhole runner true (textOf bytes)
      else
        match (← get).files.fileContent (Bytes.ofByteText path) with
        | .error .isDirectory => return
        | .error .missing | .error .notDirectory =>
          misuse ("cannot open " ++ path ++ ": No such file")
        | .error e => misuse ("cannot open " ++ path ++ ": " ++ e.message)
        | .ok content => do
          modify fun s => { s with name := path, arguments := rest, line := 1 }
          runWhole runner true (Bytes.toByteText content)
  match started with
  | some .error | none => discard flush
  | some stop => throw stop

/-! ## 2.  Programs -/

/-- The programs that are command interpreters. -/
def interpreters : List String := ["sh", "dash"]

/-- Runs a program of a kind in the process, up to its end.  The name is what it was called by. -/
def runImage (runner : Runner) (start : Start) (program name : String) (arguments : List String) :
    Run Unit := do
  if interpreters.contains program then interpret runner name arguments
  else
    modify fun s => { s with traps := ∅, ignored := s.ignoredSignals, buffered := ByteArray.empty }
    match Starting.all.lookup program with
    | some body => body start name arguments
    | none => setStatus (← ((Utility.find? program).getD fun _ _ => return 1) name arguments)

/-- Puts the environment into the order in which an interpreter gives it to programs. -/
def arrangeEnvironment : Run Unit :=
  modify fun s =>
    let entries := (orderedEntries s).map fun (name, value) =>
      (name, (⟨some value, true, false⟩ : Variable))
    { s with vars := .ofList entries }

/-- Runs the program of a path in the process, up to its end; gives what went wrong if it could not be
started.  Programs may start others in turn, but not too often.  What has to be done to the process
before is done as soon as the program is found. -/
def execute (runner : Runner) (before : Run Unit) :
    Nat → String → String → List String → Run (Option ResolutionError)
  | 0, _, _, _ => return some (.failed .tooManyLinks)
  | depth + 1, path, name, arguments => do
    match executableContent (← get).files path with
    | .error e => return some e
    | .ok content =>
      match Executable.ofContent content with
      | .program program => do
        let start : Start := fun name arguments => do
          match ← findProgram name with
          | .error e => return some e
          | .ok path => execute runner (pure ()) depth path name arguments
        before
        runImage runner start program name arguments
        return none
      | .interpreted interpreter argument =>
        execute runner before depth interpreter interpreter (argument.toList ++ path :: arguments)
      | .text content => do
        modify fun s => { s.asInterpreter with name := path, arguments := arguments, line := 1 }
        findDirectory
        runWhole runner true (textOf content)
        return none

/-- How often a program may be started by another one in its process. -/
def startDepth : Nat := 20

/-- Runs a program in the process, up to its end; complains if it cannot be started. -/
def executeOrComplain (runner : Runner) (path name : String) (arguments : List String) :
    Run Bool := do
  match ← execute runner arrangeEnvironment startDepth path name arguments with
  | none => return true
  | some e => do
    warn (name ++ ": " ++ e.message)
    setStatus e.status
    return false

end CountedStrings.Shell
