import CountedStrings.Surroundings.Shell.Real
import CountedStrings.Surroundings.Shell.Signal
import CountedStrings.Surroundings.Shell.Utility.Mode

/-!
# Users and the host

## 1.  Users

There is one user, the one that everything is allowed to.

## 2.  The host

What the host says about itself, and about the environment of a process.

## 3.  Nothing but a status

Utilities that do nothing that could be seen later, apart from the time that they take.
-/

namespace CountedStrings.Shell.Utility

/-- The options of a utility that has none of its own. -/
def bareSyntax : Syntax := ⟨"", "", [], true, 1⟩

/-- Reads the arguments of a utility that takes no operands. -/
def withoutOperands (name : String) (x : Syntax) (arguments : List String) : Run (List Given) := do
  let (given, operands) ← options name x arguments
  match operands with
  | [] => return given
  | operand :: _ => extraOperand name operand x.status

/-! ## 1.  Users -/

/-- The name of the user. -/
def userName : String := "root"

/-- Prints the name of the user. -/
def whoami : Body := fun name arguments => do
  discard (withoutOperands name bareSyntax arguments)
  print (userName ++ "\n")
  finish name 0

/-- Whether an argument names the user. -/
def isUser (text : String) : Bool :=
  text = userName || text = "0" || text = "+0"

/-- Prints the name that the user came in by, which nobody knows. -/
def logname : Body := fun name arguments => do
  discard (withoutOperands name bareSyntax arguments)
  fail name "no login name" 1

/-- The options of `id`. -/
def idSyntax : Syntax :=
  ⟨"agnruzGZ", "", [⟨"context", 'Z', .no⟩, ⟨"group", 'g', .no⟩, ⟨"groups", 'G', .no⟩,
    ⟨"name", 'n', .no⟩, ⟨"real", 'r', .no⟩, ⟨"user", 'u', .no⟩, ⟨"zero", 'z', .no⟩], true, 1⟩

/-- Prints who users are. -/
def identity : Body := fun name arguments => do
  let (given, operands) ← options name idSyntax arguments
  let only := ['u', 'g', 'G', 'Z'].filter (has given)
  if has given 'Z' then
    fail name "--context (-Z) works only on an SELinux-enabled kernel" 1
  if 1 < only.length then fail name "cannot print \"only\" of more than one choice" 1
  if only.isEmpty && (has given 'n' || has given 'r') then
    fail name "cannot print only names or real IDs in default format" 1
  if only.isEmpty && has given 'z' then
    fail name "option --zero not permitted in default format" 1
  let ending := if has given 'z' then "\x00" else "\n"
  let text :=
    if only.isEmpty then "uid=0(root) gid=0(root) groups=0(root)"
    else if has given 'n' then userName else "0"
  let mut status := 0
  for operand in if operands.isEmpty then [userName] else operands do
    if isUser operand then print (text ++ ending)
    else
      report name ((← cited operand) ++ ": no such user")
      status := 1
  finish name status

/-- Prints the groups of users. -/
def groups : Body := fun name arguments => do
  let (_, operands) ← options name bareSyntax arguments
  if operands.isEmpty then print (userName ++ "\n")
  let mut status := 0
  for operand in operands do
    if isUser operand then print (operand ++ " : " ++ userName ++ "\n")
    else
      report name ((← cited operand) ++ ": no such user")
      status := 1
  finish name status

/-- Prints who else is there: nobody. -/
def users : Body := fun name arguments => do
  let (_, operands) ← options name bareSyntax arguments
  match operands with
  | _ :: operand :: _ => extraOperand name operand 1
  | _ => finish name 0

/-! ## 2.  The host -/

/-- What the host is made of, by the letters that ask for it. -/
def hostParts : List (Char × String) :=
  [('s', "Linux"), ('n', "localhost"), ('r', "5.0.0"), ('v', "#1 SMP"), ('m', "x86_64"),
    ('p', "unknown"), ('i', "unknown"), ('o', "GNU/Linux")]

/-- The options of `uname`. -/
def unameSyntax : Syntax :=
  ⟨"asnrvmpio", "", [⟨"all", 'a', .no⟩, ⟨"kernel-name", 's', .no⟩, ⟨"sysname", 's', .no⟩,
    ⟨"nodename", 'n', .no⟩, ⟨"kernel-release", 'r', .no⟩, ⟨"release", 'r', .no⟩,
    ⟨"kernel-version", 'v', .no⟩, ⟨"machine", 'm', .no⟩, ⟨"processor", 'p', .no⟩,
    ⟨"hardware-platform", 'i', .no⟩, ⟨"operating-system", 'o', .no⟩], true, 1⟩

/-- Prints what the host is. -/
def uname : Body := fun name arguments => do
  let given ← withoutOperands name unameSyntax arguments
  let shown := hostParts.filter fun (letter, text) =>
    if has given 'a' then text ≠ "unknown" else has given letter
  let shown := if given.isEmpty then hostParts.take 1 else shown
  print (" ".intercalate (shown.map (·.2)) ++ "\n")
  finish name 0

/-- Prints the machine that the host is. -/
def arch : Body := fun name arguments => do
  discard (withoutOperands name bareSyntax arguments)
  print "x86_64\n"
  finish name 0

/-- The options of `nproc`. -/
def nprocSyntax : Syntax := ⟨"", "", [⟨"all", 'a', .no⟩, ⟨"ignore", 'i', .yes⟩], true, 1⟩

/-- Prints how many processes run side by side. -/
def nproc : Body := fun name arguments => do
  let (given, operands) ← options name nprocSyntax arguments
  if let some text := valueOf given 'i' then
    discard (wholeWithin name "invalid number" text 0 (Int.pow 2 64 - 1))
  if let some operand := operands.head? then extraOperand name operand 1
  print "1\n"
  finish name 0

/-- Prints the number of the host. -/
def hostid : Body := fun name arguments => do
  discard (withoutOperands name bareSyntax arguments)
  print "00000000\n"
  finish name 0

/-- The options of `tty`. -/
def ttySyntax : Syntax :=
  ⟨"s", "", [⟨"silent", 's', .no⟩, ⟨"quiet", 's', .no⟩], true, 2⟩

/-- Prints the terminal that the input comes from, which is none. -/
def tty : Body := fun name arguments => do
  let given ← withoutOperands name ttySyntax arguments
  if !has given 's' then print "not a tty\n"
  finishOr 3 name 1

/-- The options of `printenv`. -/
def printenvSyntax : Syntax := ⟨"0", "", [⟨"null", '0', .no⟩], false, 2⟩

/-- Prints variables of the environment. -/
def printenv : Body := fun name arguments => do
  let (given, operands) ← options name printenvSyntax arguments
  let entries := exportedEntries (← get)
  let ending := if has given '0' then "\x00" else "\n"
  if operands.isEmpty then
    for (entry, value) in entries do print (entry ++ "=" ++ value ++ ending)
    finishOr 2 name 0
  else
    let found := operands.filterMap fun operand =>
      if operand.toList.contains '=' then none else entries.lookup operand
    for value in found do print (value ++ ending)
    finishOr 2 name (if found.length = operands.length then 0 else 1)

/-- The settings of a terminal, without those that only differ in a number behind them. -/
def terminalSettings : List String :=
  ["all", "brkint", "cbreak", "clocal", "cols", "columns", "cooked", "crt", "cs", "dec", "echo", "echoe",
    "echok", "echonl", "ek", "eof", "erase", "hup", "icanon", "icrnl", "iexten", "ignbrk", "igncr",
    "inlcr", "intr", "isig", "iutf8", "ixany", "ixoff", "ixon", "kill", "litout", "min", "nl",
    "onlcr", "opost", "parenb", "pass8", "quit", "raw", "rows", "sane", "size", "speed", "start",
    "stop", "susp", "tabs", "time", "tostop", "werase"]

/-- Whether an argument is about a terminal; numbers belong to the setting in front of them. -/
def isTerminalSetting (argument : String) : Bool :=
  let bare := if argument.startsWith "-" then (argument.drop 1).toString else argument
  bare.all Char.isDigit || terminalSettings.contains bare ||
    terminalSettings.contains (bare.dropEndWhile Char.isDigit).toString

/-- Looks for a terminal, which no process has. -/
def stty : Body := fun name arguments => do
  let x : Syntax :=
    ⟨"ag", "F", [⟨"all", 'a', .no⟩, ⟨"save", 'g', .no⟩, ⟨"file", 'F', .yes⟩], true, 1⟩
  let isOption (argument : String) : Bool :=
    ["-a", "-g", "-F", "--all", "--save", "--file", "--help", "--version"].contains argument ||
      argument.startsWith "--file=" || argument.startsWith "-F"
  let (given, _) ← options name x (arguments.filter isOption ++
    ((arguments.dropWhile fun argument => argument ≠ "-F" && argument ≠ "--file").drop 1).take 1)
  let value := (valueOf given 'F').getD ""
  let others := arguments.filter fun argument => !isOption argument && argument ≠ value
  if has given 'a' && has given 'g' then
    fail name "the options for verbose and stty-readable output styles are\nmutually exclusive" 1
  if let some wrong := others.find? fun argument => !isTerminalSetting argument then
    misused name ("invalid argument " ++ (← cited wrong)) 1
  match valueOf given 'F' with
  | none => fail name "'standard input': Inappropriate ioctl for device" 1
  | some path =>
    match ← nodeAt path with
    | .error e => fail name (quotedIfNeeded true path ++ ": " ++ e.message) 1
    | .ok _ => fail name (quotedIfNeeded true path ++ ": Inappropriate ioctl for device") 1

/-! ## 3.  Nothing but a status -/

/-- Gives a status, whatever the arguments are. -/
def giveStatus (status : Nat) : Body := fun name arguments => do
  if arguments = ["--help"] || arguments = ["--version"] then
    discard (tryCatch (do discard (options name bareSyntax arguments)) fun _ => return)
  finish name status

/-- The options of `sync`. -/
def syncSyntax : Syntax :=
  ⟨"df", "", [⟨"data", 'd', .no⟩, ⟨"file-system", 'f', .no⟩], true, 1⟩

/-- Waits until files are where they belong, which they always are. -/
def sync : Body := fun name arguments => do
  let (given, operands) ← options name syncSyntax arguments
  if has given 'd' && has given 'f' then
    fail name "cannot specify both --data and --file-system" 1
  if has given 'd' && operands.isEmpty then fail name "--data needs at least one argument" 1
  let status ← forEachOperand operands fun operand => do
    match ← nodeAt operand with
    | .ok _ => return true
    | .error e =>
      report name ("error opening " ++ quoted operand ++ ": " ++ e.message)
      return false
  finish name status

/-- The milliseconds that an argument stands for: a number with a letter behind it. -/
def timeSpan? (text : String) : Option Nat :=
  let n := Real.scan .double text.toList
  let units : List (List Char × Nat) :=
    [([], 1), (['s'], 1), (['m'], 60), (['h'], 3600), (['d'], 86400)]
  if n.rest.length = text.length || text = "" then none
  else
    match units.lookup n.rest, n.value with
    | some unit, .finite negative mantissa exponent =>
      if negative && mantissa ≠ 0 then none
      else
        let (a, b) := Real.quotient mantissa exponent
        some (a * unit * 1000 / b)
    | some _, .infinite false => some 0
    | _, _ => none

/-- Lets some milliseconds pass.  If a deadline of the process lies between, it and those that wait
for it are sent the signal of the deadline first.  The budget has to be more than the number of
deadlines. -/
def pass : Nat → Int → Run Unit
  | 0, time => changeFiles fun files => { files with clock := files.clock + time }
  | budget + 1, time => do
    let s ← get
    let now := s.files.clock
    let met := s.deadlines.filter fun d => now < d.time && d.time ≤ now + time
    match met.mergeSort fun a b => a.time ≤ b.time with
    | [] => changeFiles fun files => { files with clock := files.clock + time }
    | d :: _ => do
      changeFiles fun files => { files with clock := d.time }
      complain d.notice
      let reached := s.number :: s.ancestors.takeWhile (· ≠ d.sender)
      for process in (if d.isNarrow then reached.drop (reached.length - 1) else reached) do
        send process d.signal
      receive
      pass budget (now + time - d.time)

/-- Lets time pass. -/
def sleep : Body := fun name arguments => do
  if arguments.isEmpty then missingOperand name 1
  let (_, operands) ← options name bareSyntax arguments
  let mut total := 0
  let mut isWrong := false
  for operand in operands do
    match timeSpan? operand with
    | some time => total := total + time
    | none =>
      report name ("invalid time interval " ++ (← cited operand))
      isWrong := true
  if isWrong then referToHelp name 1
  pass ((← get).deadlines.length + 1) total
  finish name 0

end CountedStrings.Shell.Utility
