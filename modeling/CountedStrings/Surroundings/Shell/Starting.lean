import CountedStrings.Surroundings.Shell.Builtin.Variables
import CountedStrings.Surroundings.Shell.Resolution
import CountedStrings.Surroundings.Shell.Utility.Identity

/-!
# Programs that start others

Such a program changes something about its process, and another program takes its place there.  Only
`timeout` starts a process of its own for it.

## 1.  Starting

What is said of a program that cannot be started, and with which status.

## 2.  Environments

`env` starts a program with other variables, in another directory, or with signals ignored.  A text
that holds several arguments can be cut into them.

## 3.  Standing

How much of the time a program gets, which signals it ignores, how it gathers its output, and which
directory is the top of all others for it.

## 4.  Time

`timeout` sends a signal to the processes that it started when their time is over.  A process takes
notice of that while it sleeps.
-/

namespace CountedStrings.Shell

/-! ## 1.  Starting -/

/-- Starts a program by its name, with arguments, in the process; gives what went wrong if it could not
be started. -/
abbrev Start := String → List String → Run (Option ResolutionError)

/-- A program that starts others, given the name that it was called by and its arguments. -/
abbrev Starter := Start → String → List String → Run Unit

namespace Starting

open Utility (has valueOf cited quoted report misused referToHelp missingOperand fail)

/-- Starts a program in place of the one of the given name, and complains in the given words if it
cannot; tells whether it could. -/
def startOr (start : Start) (name words program : String) (arguments : List String) :
    Run Bool := do
  match ← start program arguments with
  | none => return true
  | some e => do
    let reason := if e = .absent then FileError.missing.message else e.message
    report name (words ++ ": " ++ reason)
    setStatus (if e = .absent then 127 else 126)
    return false

/-- The words in front of what is wrong with a command. -/
def failedToRun (program : String) : Run String := do
  return "failed to run command " ++ (← cited program)

/-- The signals that a text names, with commas between them, or all if it is empty. -/
def signalsOf (name text : String) : Run (List Nat) := do
  if text = "" then return (List.range 32).drop 1
  (text.splitOn ",").mapM fun word =>
    let bare := if word.toUpper.startsWith "SIG" then (word.drop 3).toString else word
    match Signal.ofText? 1 bare with
    | some signal => return signal
    | none => do misused name ((← cited word) ++ ": invalid signal") 125

/-! ## 2.  Environments -/

/-- What a character of a text that is cut into arguments stands in. -/
inductive Quoting where
  | none
  | single
  | double
  deriving DecidableEq

/-- Whether arguments end at a character. -/
def isGap (c : Char) : Bool := [' ', '\t', '\n', '\x0b', '\x0c', '\r'].contains c

/-- Adds a character to the argument that is being read. -/
def extend (current : Option (List Char)) (cs : List Char) : Option (List Char) :=
  some (current.getD [] ++ cs)

/-- The arguments in a text, given the values of variables; or why there are none.  The budget has to
be more than the length of the text. -/
def argumentsIn (value : String → String) :
    Nat → Quoting → Option (List Char) → List Char → Except String (List String)
  | 0, _, current, _ => .ok (current.toList.map String.ofList)
  | _ + 1, quoting, current, [] =>
    if quoting = .none then .ok (current.toList.map String.ofList)
    else .error "no terminating quote in -S string"
  | budget + 1, quoting, current, c :: cs =>
    let literal (added : List Char) := argumentsIn value budget quoting (extend current added)
    let next (quoting : Quoting) := argumentsIn value budget quoting (extend current []) cs
    let cut (rest : List Char) := do
      let others ← argumentsIn value budget .none none rest
      return current.toList.map String.ofList ++ others
    if c = '\'' && quoting ≠ .double then next (if quoting = .single then .none else .single)
    else if c = '"' && quoting ≠ .single then next (if quoting = .double then .none else .double)
    else if isGap c && quoting = .none then cut cs
    else if c = '#' && quoting = .none && current.isNone then .ok []
    else if c = '$' && quoting ≠ .single then
      let variable_ := (cs.drop 1).takeWhile fun d => d.isAlphanum || d = '_'
      let behind := cs.drop (1 + variable_.length)
      let isVariable := cs.head? = some '\x7b' && behind.head? = some '\x7d' &&
        variable_.head?.any fun d => !d.isDigit
      if isVariable then literal (value (String.ofList variable_)).toList (behind.drop 1)
      else .error ("only $\x7bVARNAME\x7d expansion is supported, error at: " ++ String.ofList (c :: cs))
    else if c ≠ '\\' then literal [c] cs
    else
      match cs with
      | [] => .error "invalid backslash at end of string in -S"
      | d :: rest =>
        if quoting = .single then
          if d = '\\' || d = '\'' then literal [d] rest else literal ['\\'] cs
        else
          match d with
          | '_' => if quoting = .double then literal [' '] rest else cut rest
          | 'c' =>
            if quoting = .double then .error "'\\c' must not appear in double-quoted -S string"
            else .ok (current.toList.map String.ofList)
          | 'f' => literal ['\x0c'] rest
          | 'n' => literal ['\n'] rest
          | 'r' => literal ['\r'] rest
          | 't' => literal ['\t'] rest
          | 'v' => literal ['\x0b'] rest
          | d =>
            if ['"', '#', '$', '\'', '\\'].contains d then literal [d] rest
            else .error ("invalid sequence '\\" ++ d.toString ++ "' in -S")

/-- The text of an argument that asks for it to be cut into arguments, if it is there. -/
def textToCut (argument : String) : Option (List Char × Option String) :=
  match argument.toList with
  | '-' :: '-' :: word =>
    let long := "split-string=".toList
    if word.take long.length = long then some ([], some (String.ofList (word.drop long.length)))
    else if word = long.dropLast then some ([], none)
    else none
  | '-' :: letters =>
    let front := letters.takeWhile ['i', '0', 'v'].contains
    match letters.drop front.length with
    | ['S'] => some (front, none)
    | 'S' :: text => some (front, some (String.ofList text))
    | _ => none
  | _ => none

/-- Arguments with texts among their options cut into arguments.  The budget bounds how often. -/
def cutTexts (name : String) : Nat → List String → Run (List String)
  | 0, arguments => return arguments
  | budget + 1, arguments => do
    match arguments with
    | [] => return []
    | argument :: rest =>
      match textToCut argument, rest with
      | some (front, some text), rest | some (front, none), text :: rest => do
        let s ← get
        let value (name : String) : String := ((exportedEntries s).lookup name).getD ""
        match argumentsIn value (text.length + 1) .none none text.toList with
        | .error message => fail name message 125
        | .ok words =>
          let front := if front.isEmpty then [] else [String.ofList ('-' :: front)]
          return front ++ (← cutTexts name budget (words ++ rest))
      | _, rest =>
        if argument = "--" || !argument.startsWith "-" then return arguments
        else if ["-u", "-C", "--unset", "--chdir"].contains argument then
          return argument :: rest.take 1 ++ (← cutTexts name budget (rest.drop 1))
        else return argument :: (← cutTexts name budget rest)

/-- The options of `env`. -/
def envSyntax : Utility.Syntax where
  flags := "i0v"
  valued := "uCS"
  long := [⟨"ignore-environment", 'i', .no⟩, ⟨"unset", 'u', .yes⟩, ⟨"null", '0', .no⟩,
    ⟨"chdir", 'C', .yes⟩, ⟨"split-string", 'S', .yes⟩, ⟨"debug", 'v', .no⟩,
    ⟨"block-signal", 'b', .maybe⟩, ⟨"default-signal", 'd', .maybe⟩,
    ⟨"ignore-signal", 'g', .maybe⟩, ⟨"list-signal-handling", 'l', .no⟩]
  permutes := false
  status := 125

/-- Which signals are ignored, as options say. -/
def setSignals (name : String) (given : List Utility.Given) : Run Unit := do
  for (letter, text) in given do
    if letter = 'g' then
      let signals ← signalsOf name text
      modify fun s => { s with ignored := s.ignored ++ signals }
    if letter = 'd' then
      let signals ← signalsOf name text
      modify fun s => { s with ignored := s.ignored.filter fun signal => !signals.contains signal }
    if letter = 'b' then discard (signalsOf name text)
  if has given 'l' then
    for signal in (← get).ignored.mergeSort do
      let title := Utility.atLeft 10 (Signal.name signal)
      complain (title ++ " (" ++ Utility.atRight 2 (toString signal) ++ "): IGNORE\n")

/-- Goes to another directory. -/
def enter (name path : String) : Run Unit := do
  let files := (← get).files
  let complaint := "cannot change directory to " ++ quoted path ++ ": "
  match files.find (Bytes.ofByteText path) with
  | .error e => fail name (complaint ++ e.message) 125
  | .ok id =>
    if !files.isDirectory id then fail name (complaint ++ FileError.notDirectory.message) 125
    changeFiles fun files => { files with working := id }

/-- Tells what is going to be started. -/
def tellCommand (program : String) (arguments : List String) : Run Unit := do
  complain ("executing: " ++ program ++ "\n")
  for (argument, i) in (program :: arguments).zipIdx do
    complain ("   arg[" ++ toString i ++ "]= " ++ (← cited argument) ++ "\n")

/-- Changes the environment as arguments say, and starts a program in it or prints it. -/
def env : Starter := fun start name arguments => do
  let (given, operands) ← Utility.options name envSyntax (← cutTexts name 100 arguments)
  let tell (text : String) : Run Unit := if has given 'v' then complain (text ++ "\n") else pure ()
  let s ← get
  let bare := has given 'i' || operands.head? = some "-"
  let operands := if operands.head? = some "-" then operands.drop 1 else operands
  let mut table := Table.ofList (if bare then [] else exportedEntries s)
  if bare then tell "cleaning environ"
  else
    for (letter, dropped) in given do
      if letter = 'u' then
        tell ("unset:    " ++ dropped)
        if dropped = "" || dropped.contains '=' then
          fail name ("cannot unset " ++ (← cited dropped) ++ ": " ++ FileError.invalid.message) 125
        table := table.erase dropped
  let changes := operands.takeWhile fun operand => operand.toList.contains '='
  for change in changes do
    tell ("setenv:   " ++ change)
    let (name, value) := Builtin.nameAndValue change
    table := table.insert name (value.getD "")
  match operands.drop changes.length with
  | [] => do
    if has given 'C' then misused name "must specify command with --chdir (-C)" 125
    let ending := if has given '0' then "\x00" else "\n"
    for (name, value) in table.entries do print (name ++ "=" ++ value ++ ending)
    setStatus (← Utility.finishOr 125 name 0)
  | program :: arguments => do
    if has given '0' then misused name "cannot specify --null (-0) with command" 125
    setSignals name given
    if let some path := valueOf given 'C' then
      tell ("chdir:    " ++ quoted path)
      enter name path
    let handed : List (String × Variable) :=
      table.entries.map fun (name, value) => (name, ⟨some value, true, false⟩)
    let words ← cited program
    if has given 'v' then tellCommand program arguments
    modify fun s => { s with vars := .ofList handed }
    let isStarted ← startOr start name words program arguments
    if !isStarted && (← get).status = 127 && program.any isGap then
      report name "use -[v]S to pass options in shebang lines"

/-! ## 3.  Standing -/

/-- The last argument of a list that gives an adjustment, and the command behind it; `true` if it
stands by itself behind a dash.  The budget has to be more than the number of arguments. -/
def readAdjustment (name : String) :
    Nat → Option String → List String → Run (Option String × List String)
  | 0, given, arguments => return (given, arguments)
  | budget + 1, given, arguments => do
    match arguments with
    | [] => return (given, [])
    | argument :: rest =>
      let cs := argument.toList
      let behind := if cs[1]? = some '-' || cs[1]? = some '+' then cs.drop 2 else cs.drop 1
      if cs.head? = some '-' && behind.head?.any Char.isDigit then
        readAdjustment name budget (some (argument.drop 1).toString) rest
      else
        let x : Utility.Syntax := ⟨"", "n", [⟨"adjustment", 'n', .yes⟩], false, 125⟩
        let isOption := argument.startsWith "-" && argument ≠ "-"
        if !isOption then return (given, arguments)
        if argument = "--" then return (given, rest)
        let taken := if Utility.takesNext x argument then 2 else 1
        let (own, _) ← Utility.options name x (arguments.take taken)
        readAdjustment name budget ((valueOf own 'n').or given) (arguments.drop taken)

/-- Starts a program that gets less or more of the time, or tells how much the process gets. -/
def nice : Starter := fun start name arguments => do
  let (given, command) ← readAdjustment name (arguments.length + 1) none arguments
  let adjustment ← match given with
    | none => pure 10
    | some text =>
      match Number.ofText? (some 10) text with
      | some n => pure n
      | none => fail name ("invalid adjustment " ++ (← cited text)) 125
  match command with
  | [] => do
    if given.isSome then misused name "a command must be given with an adjustment" 125
    print (toString (← get).niceness ++ "\n")
    setStatus (← Utility.finishOr 125 name 0)
  | program :: arguments => do
    modify fun s => { s with niceness := max (-20) (min 19 (s.niceness + adjustment)) }
    discard <| startOr start name (← cited program) program arguments

/-- Starts a program that goes on when the user has left. -/
def nohup : Starter := fun start name arguments => do
  let (_, operands) ← Utility.options name ⟨"", "", [], false, 125⟩ arguments
  match operands with
  | [] => missingOperand name 125
  | program :: arguments => do
    modify fun s => { s with ignored := 1 :: s.ignored }
    discard <| startOr start name ("failed to run command " ++ quoted program) program arguments

/-- The options of `stdbuf`. -/
def bufferSyntax : Utility.Syntax where
  flags := ""
  valued := "ioe"
  long := [⟨"input", 'i', .yes⟩, ⟨"output", 'o', .yes⟩, ⟨"error", 'e', .yes⟩]
  permutes := false
  status := 125

/-- Starts a program that gathers its output in another way. -/
def stdbuf : Starter := fun start name arguments => do
  let (given, operands) ← Utility.options name bufferSyntax arguments
  for (letter, mode) in given do
    if mode = "L" && letter = 'i' then misused name "line buffering stdin is meaningless" 125
    if mode ≠ "L" && (Utility.sizeOf? mode).isNone then
      fail name ("invalid mode " ++ (← cited mode)) 125
  match operands with
  | [] => missingOperand name 125
  | program :: arguments => do
    if given.isEmpty then misused name "you must specify a buffering mode option" 125
    discard <| startOr start name (← failedToRun program) program arguments

/-- The options of `chroot`. -/
def topSyntax : Utility.Syntax where
  flags := ""
  valued := ""
  long := [⟨"groups", 'g', .yes⟩, ⟨"userspec", 'u', .yes⟩, ⟨"skip-chdir", 's', .no⟩]
  permutes := false
  status := 125

/-- Starts a program for which a directory is the top of all others.  Below any directory but the top
itself there is nothing that could be started. -/
def chroot : Starter := fun start name arguments => do
  let (given, operands) ← Utility.options name topSyntax arguments
  match operands with
  | [] => missingOperand name 125
  | path :: command => do
    let files := (← get).files
    let complaint := "cannot change root directory to " ++ quoted path ++ ": "
    match files.find (Bytes.ofByteText path) with
    | .error e => fail name (complaint ++ e.message) 125
    | .ok id => do
      if !files.isDirectory id then fail name (complaint ++ FileError.notDirectory.message) 125
      if has given 's' && id ≠ 0 then
        misused name ("option --skip-chdir only permitted if NEWROOT is old '/'") 125
      if !has given 's' then changeFiles fun files => { files with working := id }
      let shell := ((← valueOf? "SHELL")).getD "/bin/sh"
      let program := command.headD shell
      let arguments := if command.isEmpty then ["-i"] else command.drop 1
      let start : Start := if id = 0 then start else fun _ _ => return some .absent
      discard <| startOr start name (← failedToRun program) program arguments

/-! ## 4.  Time -/

/-- The options of `timeout`. -/
def timeSyntax : Utility.Syntax where
  flags := "v"
  valued := "ks"
  long := [⟨"foreground", 'f', .no⟩, ⟨"preserve-status", 'p', .no⟩, ⟨"kill-after", 'k', .yes⟩,
    ⟨"signal", 's', .yes⟩, ⟨"verbose", 'v', .no⟩]
  permutes := false
  status := 125

/-- The milliseconds that an argument of `timeout` stands for. -/
def spanOf (name text : String) : Run Nat := do
  match Utility.timeSpan? text with
  | some time => return time
  | none => misused name ("invalid time interval " ++ (← cited text)) 125

/-- Starts a program in a process of its own, which is killed when its time is over. -/
def timeout : Starter := fun start name arguments => do
  let (given, operands) ← Utility.options name timeSyntax arguments
  let later ← match valueOf given 'k' with
    | some text => spanOf name text
    | none => pure 0
  let signal ← match valueOf given 's' with
    | some text => do pure ((← signalsOf name text).headD Signal.terminate)
    | none => pure Signal.terminate
  match operands with
  | [] | [_] => referToHelp name 125
  | span :: program :: arguments => do
    let time ← spanOf name span
    let s ← get
    let limit : Int := s.files.clock + time
    let told (signal : Nat) : Run String := do
      if !has given 'v' then return ""
      return name ++ ": sending signal " ++ Signal.name signal ++ " to command " ++
        (← cited program) ++ "\n"
    let first : Deadline := ⟨limit, signal, s.number, has given 'f', ← told signal⟩
    let second : Deadline := ⟨limit + later, Signal.kill, s.number, has given 'f', ← told Signal.kill⟩
    let own := if later = 0 then [first] else [first, second]
    let own := if time = 0 then [] else own
    let words ← failedToRun program
    discard flush
    let ending ← inProcess (← newProcess) do
      modify fun s => { s with deadlines := s.deadlines ++ own }
      discard <| startOr start name words program arguments
    let isOver := time ≠ 0 && limit ≤ (← get).files.clock
    let isKill := ending = .killed Signal.kill
    match ending with
    | .killed signal =>
      if !isOver || (isKill && !has given 'f') then throw (.killed signal)
    | .exited _ => pure ()
    setStatus (if isOver && !isKill && !has given 'p' then 124 else ending.status)

/-- The programs that start others, by name. -/
def all : List (String × Starter) :=
  [("chroot", chroot), ("env", env), ("nice", nice), ("nohup", nohup), ("stdbuf", stdbuf),
    ("timeout", timeout)]

end Starting

end CountedStrings.Shell
