import CountedStrings.Surroundings.Shell.Builtin.Jobs
import CountedStrings.Surroundings.Shell.Builtin.Naming
import CountedStrings.Surroundings.Shell.Builtin.Printing
import CountedStrings.Surroundings.Shell.Builtin.Test
import CountedStrings.Surroundings.Shell.Program
import CountedStrings.Surroundings.Shell.Redirecting

/-!
# Simple commands

A simple command is made of assignments, words and redirections.

1. The words are expanded.  The first one tells what the command is: a function, a command that is
   built in, or a program (`Heading`).
2. The redirections are done.
3. The assignments are done.  They last if there are no words or the command is a special one, and
   otherwise are over with the command.
4. The command runs.

An error ends the interpreter where a special command makes it, and where the shape of a command is
concerned.  An error in any other command that is built in is that command's failure.
-/

namespace CountedStrings.Shell

/-! ## 1.  Commands that are built in -/

/-- Runs the arguments as a text. -/
def evalBuiltin (runner : Runner) : Builtin.Body := fun arguments => do
  runText runner false (" ".intercalate arguments)
  return (← get).status

/-- The file that a name stands for where commands are read from it. -/
def findScript (name : String) : Run String := do
  if name.toList.contains '/' then return name
  let files := (← get).files
  let isFile (path : String) : Bool :=
    match nodeOf? files path with
    | some (.file _ _) => true
    | _ => false
  match ((← searchPath false).map fun directory => joinPath directory name).find? isFile with
  | some path => return path
  | none => misuse (name ++ ": not found")
where
  /-- The node that a path leads to. -/
  nodeOf? (files : FileSystem) (path : String) : Option Node :=
    ((files.find (Bytes.ofByteText path)).toOption).bind files.node?

/-- Runs the commands in a file. -/
def dotBuiltin (runner : Runner) : Builtin.Body := fun arguments => do
  match ← Builtin.operands arguments with
  | [] => return 0
  | name :: _ => do
    let path ← findScript name
    let number ← openTarget .input path
    setDescriptor Utility.scratchDescriptor number
    let content := (← read Utility.scratchDescriptor none).toOption.getD ByteArray.empty
    closeDescriptor Utility.scratchDescriptor
    let run := whileTested false (runText runner true (textOf content))
    let stop ← attempt (withPart (·.command) (fun c s => { s with command := c }) (some path) run)
    match stop with
    | none | some (.back _) => return (← get).status
    | some stop => throw stop

/-- Lets a program take the place of the interpreter. -/
def execBuiltin (runner : Runner) : Builtin.Body := fun arguments => do
  match ← Builtin.operands arguments with
  | [] => return 0
  | name :: rest => do
    match ← resolve false name with
    | .error e => do
      warn (name ++ ": " ++ e.message)
      setStatus e.status
      throw .exit
    | .ok path => do
      if ← executeOrComplain runner path name rest then throw .gone else throw .exit

/-- Ends the interpreter. -/
def exitBuiltin : Builtin.Body := fun arguments => do
  match arguments with
  | text :: _ => setStatus (← Builtin.count text)
  | [] => setStatus ((← get).interrupted.getD (← get).status)
  throw .exit

/-- Returns from a function or a file of commands. -/
def returnBuiltin : Builtin.Body := fun arguments => do
  match arguments with
  | text :: _ => do
    setStatus (← Builtin.count text)
    throw (.back true)
  | [] => throw (.back false)

/-- Leaves loops, or goes on with one. -/
def loopBuiltin (stop : Nat → Stop) : Builtin.Body := fun arguments => do
  let n ← match arguments with
    | [] => pure 1
    | text :: _ => do
      let n ← Builtin.count text
      if n = 0 then Builtin.badNumber text else pure n
  let n := min n (← get).loops
  setStatus 0
  if n = 0 then return 0 else throw (stop n)

/-- What a command does that is built in. -/
def builtin? (runner : Runner) (name : String) : Option Builtin.Body :=
  match name with
  | "." => some (dotBuiltin runner)
  | ":" | "true" => some fun _ => return 0
  | "false" => some fun _ => return 1
  | "[" => some Builtin.bracket
  | "alias" => some Builtin.defineAlias
  | "bg" | "fg" => some Builtin.resume
  | "break" => some (loopBuiltin .leave)
  | "cd" | "chdir" => some Builtin.cd
  | "command" => some Builtin.command
  | "continue" => some (loopBuiltin .next)
  | "echo" => some Builtin.echo
  | "eval" => some (evalBuiltin runner)
  | "exec" => some (execBuiltin runner)
  | "exit" => some exitBuiltin
  | "export" => some (Builtin.mark "export" true false)
  | "getopts" => some Builtin.getopts
  | "hash" => some Builtin.hash
  | "jobs" => some Builtin.jobs
  | "kill" => some Builtin.kill
  | "local" => some Builtin.local_
  | "printf" => some Builtin.printf
  | "pwd" => some Builtin.pwd
  | "read" => some Builtin.read_
  | "readonly" => some (Builtin.mark "readonly" false true)
  | "return" => some returnBuiltin
  | "set" => some Builtin.set_
  | "shift" => some Builtin.shift
  | "test" => some Builtin.test
  | "times" => some Builtin.times
  | "trap" => some Builtin.trap
  | "type" => some Builtin.type
  | "ulimit" => some Builtin.ulimit
  | "umask" => some Builtin.umask
  | "unalias" => some Builtin.unalias
  | "unset" => some Builtin.unset
  | "wait" => some (Builtin.wait runner)
  | _ => none

/-- The commands whose arguments may be assignments. -/
def assigningBuiltins : List String := ["alias", "export", "local", "readonly"]

/-! ## 2.  Headings -/

/-- What a name in front of a command runs. -/
inductive CommandKind where
  | nothing
  | function (body : Command)
  | builtin (body : Builtin.Body)
  | program

/-- What the first words of a command say. -/
structure Heading where
  /-- All words that were expanded so far. -/
  expanded : List String
  /-- The name of the command and what stands behind it, as far as it was expanded. -/
  arguments : List String
  /-- The words that are still to be expanded. -/
  rest : List Word
  kind : CommandKind
  /-- Whether the command is a special one, if that is settled. -/
  special : Option Bool
  /-- Whether programs are looked for in the standard directories. -/
  standard : Bool

/-- Expands words up to the first that stands for something. -/
def expandUntil (capture : Capture) : List Word → Run (List String × List Word)
  | [] => return ([], [])
  | word :: rest => do
    let fields ← Word.expandFields capture word
    if fields.isEmpty then expandUntil capture rest else return (fields, rest)

/-- A heading with at least so many arguments, if there are so many. -/
def Heading.reach (capture : Capture) (n : Nat) (h : Heading) : Run Heading := do
  if n < h.arguments.length then return h
  else
    let (fields, rest) ← expandUntil capture h.rest
    return { h with
      expanded := h.expanded ++ fields, arguments := h.arguments ++ fields, rest := rest }

/-- Whether an argument is an option that `command` takes in front of another command. -/
def isPlainCommandOption (argument : String) : Bool :=
  match argument.toList with
  | '-' :: letter :: letters => (letter :: letters).all (· = 'p')
  | _ => false

/-- Looks behind `command` for another command; gives the number of arguments in front of it, if there
is one, and whether an option was among them. -/
def Heading.lookBehind (capture : Capture) : Nat → Nat → Bool → Heading →
    Run (Heading × Option (Nat × Bool))
  | 0, _, _, h => return (h, none)
  | budget + 1, n, standard, h => do
    let h ← h.reach capture n
    match h.arguments[n]? with
    | none => return (h, none)
    | some "--" => do
      let h ← h.reach capture (n + 1)
      return (h, if n + 1 < h.arguments.length then some (n + 1, standard) else none)
    | some argument =>
      if isPlainCommandOption argument then Heading.lookBehind capture budget (n + 1) true h
      else if argument.startsWith "-" && argument ≠ "-" then return (h, none)
      else return (h, some (n, standard))

/-- What a name runs; functions do not count on request. -/
def kindOf (runner : Runner) (bypasses : Bool) (name : String) : Run CommandKind := do
  let s ← get
  match if bypasses then none else s.functions.get? name with
  | some body => return .function body
  | none =>
    match builtin? runner name with
    | some body => return .builtin body
    | none => return .program

/-- Finds out what a command is, of which some arguments were expanded. -/
def Heading.resolve (runner : Runner) (capture : Capture) : Nat → Bool → Heading → Run Heading
  | 0, _, h => return h
  | budget + 1, bypasses, h => do
    match h.arguments with
    | [] => return h
    | name :: _ => do
      let kind ← kindOf runner bypasses name
      let h := { h with kind := kind }
      if !(kind matches .builtin _) then return h
      let h := { h with special := h.special.or (some (specialCommands.contains name)) }
      if name ≠ "command" then return h
      let (h, found) ← Heading.lookBehind capture (budget + 1) 1 h.standard h
      match found with
      | none => return h
      | some (n, standard) =>
        Heading.resolve runner capture budget true
          { h with arguments := h.arguments.drop n, standard := standard }

/-- Expands words behind a command whose arguments may be assignments. -/
def expandAssigning (capture : Capture) : List Word → Run (List String)
  | [] => return []
  | word :: rest => do
    let first ←
      match Word.assignment? word with
      | some (name, value) => do
        pure [name ++ "=" ++ (← Word.expand capture .assigned value)]
      | none => Word.expandFields capture word
    return first ++ (← expandAssigning capture rest)

/-- How many times `command` may stand in front of a command. -/
def headingDepth : Nat := 10000

/-- Expands the words of a command and finds out what it is. -/
def readHeading (runner : Runner) (capture : Capture) (words : List Word) : Run Heading := do
  let (fields, rest) ← expandUntil capture words
  let h ← Heading.resolve runner capture headingDepth false
    ⟨fields, fields, rest, .nothing, none, false⟩
  let assigns := match h.kind with
    | .builtin _ => assigningBuiltins.contains (h.arguments.headD "")
    | _ => false
  let others ←
    if assigns then expandAssigning capture h.rest else Word.expandAll capture h.rest
  return { h with
    expanded := h.expanded ++ others, arguments := h.arguments ++ others, rest := [] }

/-- Whether a command is the one that lets a program take the place of the interpreter. -/
def Heading.replaces (h : Heading) : Bool :=
  match h.kind with
  | .builtin _ => h.arguments.head? = some "exec"
  | _ => false

/-! ## 3.  Running -/

/-- Does assignments; gives them with their values.  The names are taken for a while, or the variables
are exported, on request. -/
def assignAll (capture : Capture) (takes exports : Bool) : List Assignment →
    Run (List (String × String))
  | [] => return []
  | .mk name word :: rest => do
    let value ← Word.expand capture .assigned word
    if takes then takeName name (some value) true
    else assignVariable name value exports false
    return (name, value) :: (← assignAll capture takes exports rest)

/-- Shows a command before it runs, through the descriptor 2 as it was in front of it. -/
def trace (capture : Capture) (outside : Option Nat) (assigned : List (String × String))
    (words : List String) : Run Unit := do
  let s ← get
  if s.options.contains 'x' && !s.tracing then
    let mark := ((s.vars.get? "PS4").bind (·.value)).getD ""
    modify fun s => { s with tracing := true }
    let mark ← match Grammar.quotedWord? mark with
      | some word => Word.expand capture .document word
      | none => pure mark
    let text := " ".intercalate (assigned.map (fun (name, value) => name ++ "=" ++ value) ++ words)
    let inside := (← get).descriptors
    modify fun s =>
      { s with
        tracing := false
        descriptors := outside.elim (s.descriptors.erase 2) (s.descriptors.insert 2) }
    complain (mark ++ text ++ "\n")
    modify fun s => { s with descriptors := inside }

/-- How many functions may run at a time. -/
def callLimit : Nat := 1000

/-- Runs a function with arguments. -/
def runFunction (runner : Runner) (body : Command) (arguments : List String) : Run Unit := do
  let before ← get
  if callLimit ≤ before.calls then
    misuse ("Maximum function recursion depth (" ++ toString callLimit ++ ") reached")
  set { before with
    arguments := arguments, loops := 0, optionIndex := 1, lettersRead := 0
    calls := before.calls + 1 }
  let stop ← attempt (followed (runner body))
  modify fun s =>
    { s with
      arguments := before.arguments
      loops := before.loops
      optionIndex := before.optionIndex
      lettersRead := before.lettersRead
      calls := before.calls }
  match stop with
  | none | some (.back _) => return
  | some stop => throw stop

/-- Runs a command that is built in. -/
def runBuiltin (name : String) (special : Bool) (body : Builtin.Body) (arguments : List String) :
    Run Unit := do
  let stop ← attempt do
    withPart (·.command) (fun c s => { s with command := c }) (some name) do
      let status ← body arguments
      match ← flush with
      | none => setStatus status
      | some _ => do
        warn (name ++ ": I/O error")
        setStatus (status ||| 1)
  match stop with
  | none => return
  | some .error => if special then throw .error
  | some stop => do
    discard flush
    throw stop

/-- Whether a program may take the place of the interpreter: nothing follows, and no signal makes the
interpreter do anything. -/
def givesWay (s : State) : Bool := s.isLast && s.traps.entries.all fun (_, text) => text = ""

/-- Runs a program, in a process of its own unless nothing follows. -/
def runExternal (runner : Runner) (standard : Bool) (name : String) (arguments : List String) :
    Run Unit := do
  match ← resolve standard name with
  | .error e => do
    warn (name ++ ": " ++ e.message)
    setStatus 127
  | .ok path => do
    let run : Run Unit := do
      modify fun s => { s with buffered := ByteArray.empty }
      discard (executeOrComplain runner path name arguments)
    if givesWay (← get) then
      run
      throw .gone
    else setStatus (← runChild run)

/-- Runs what a heading says. -/
def Heading.run (runner : Runner) (h : Heading) : Run Unit := do
  match h.kind, h.arguments with
  | .nothing, _ | _, [] => setStatus (← get).substituted
  | .function body, _ :: arguments => runFunction runner body arguments
  | .builtin body, name :: arguments => runBuiltin name (h.special = some true) body arguments
  | .program, name :: arguments => runExternal runner h.standard name arguments

/-- Runs a simple command. -/
def runSimple (runner : Runner) (line : Nat) (assignments : List Assignment) (words : List Word)
    (redirections : List Redirection) : Run Unit := do
  modify fun s => { s with line := line, substituted := 0 }
  let capture := captureOutput runner
  let h ← readHeading runner capture words
  let special := h.special = some true
  let takes := !h.arguments.isEmpty && !special
  let inside : Run Unit := do
    let destinations ← redirections.mapM (Redirection.expand capture)
    let outside := (← get).descriptors.get? 2
    redirecting destinations h.replaces do
      let status ← redirect capture destinations
      if status ≠ 0 then
        setStatus status
        if special then throw .error
      else
        let assigned ← assignAll capture takes (h.replaces && 1 < h.arguments.length) assignments
        trace capture outside assigned h.expanded
        h.run runner
  if takes then takingNames inside else inside

end CountedStrings.Shell
