import CountedStrings.Surroundings.Shell.Builtin.Arguments
import CountedStrings.Surroundings.Shell.Grammar.Input
import CountedStrings.Surroundings.Shell.Resolution

/-!
# What a name stands for

A name in front of a command may be a reserved word, an alias, a function, a command that is built
in, or a program.  The commands below tell which, and change aliases and what is remembered about
programs.
-/

namespace CountedStrings.Shell

/-- The commands that are built in beside the special ones. -/
def plainBuiltins : List String :=
  ["[", "alias", "bg", "cd", "chdir", "command", "echo", "false", "fg", "getopts", "hash", "jobs",
    "kill", "printf", "pwd", "read", "test", "true", "type", "ulimit", "umask", "unalias", "wait"]

/-- What a name in front of a command stands for. -/
inductive Meaning where
  | reserved
  | aliased (text : String)
  | function
  | special
  | builtin
  /-- A program, and whether it was remembered. -/
  | program (path : String) (remembered : Bool)
  | nothing

/-- What a name in front of a command stands for; with `standard`, no program is remembered and it is
looked for in the standard directories. -/
def meaningOf (standard : Bool) (name : String) : Run Meaning := do
  let s ← get
  if Grammar.Token.reservedWords.contains name then return .reserved
  match s.aliases.get? name with
  | some text => return .aliased text
  | none => pure ()
  if s.functions.contains name && !standard then return .function
  if specialCommands.contains name then return .special
  if plainBuiltins.contains name then return .builtin
  match s.found.get? name, standard with
  | some f, false => return .program f.path true
  | _, _ =>
    match ← resolve standard name with
    | .error _ => return .nothing
    | .ok path =>
      if name.toList.contains '/' && (s.files.find (Bytes.ofByteText path)).toOption.isNone then
        return .nothing
      else return .program path false

namespace Builtin

/-- Tells in full what a name stands for. -/
def describe (name : String) : Meaning → String
  | .reserved => name ++ " is a shell keyword"
  | .aliased text => name ++ " is an alias for " ++ text
  | .function => name ++ " is a shell function"
  | .special => name ++ " is a special shell builtin"
  | .builtin => name ++ " is a shell builtin"
  | .program path remembered =>
    name ++ " is " ++ (if remembered then "a tracked alias for " else "") ++ path
  | .nothing => name ++ ": not found"

/-- What to write for a name, if it stands for something. -/
def brief? (name : String) : Meaning → Option String
  | .nothing => none
  | .aliased text => some ("alias " ++ name ++ "=" ++ quote text)
  | .program path _ => some path
  | _ => some name

/-- Whether a name stands for nothing. -/
def Meaning.isNothing : Meaning → Bool
  | .nothing => true
  | _ => false

/-- Tells what names stand for. -/
def type : Body := fun names => do
  let mut status := 0
  for name in names do
    let meaning ← meaningOf false name
    print (describe name meaning ++ "\n")
    if Meaning.isNothing meaning then status := 127
  return status

/-- Tells what the first of some names stands for; runs nothing. -/
def command : Body := fun arguments => do
  let (given, names) ← options "pvV" "" arguments
  let asks (letter : Char) : Bool := given.any fun (c, _) => c = letter
  match names with
  | [] => return 0
  | name :: _ =>
    if !asks 'v' && !asks 'V' then return 0
    let meaning ← meaningOf (asks 'p') name
    if asks 'V' then print (describe name meaning ++ "\n")
    else
      match brief? name meaning with
      | some text => print (text ++ "\n")
      | none => pure ()
    return if Meaning.isNothing meaning then 127 else 0

/-- Lists or forgets the programs that are remembered, or looks for programs. -/
def hash : Body := fun arguments => do
  let (given, names) ← options "r" "" arguments
  if !given.isEmpty then
    modify fun s => { s with found := ∅ }
    return 0
  else if names.isEmpty then
    for (_, f) in byBucket 31 (← get).found.entries do
      print (f.path ++ (if f.isOld then "*" else "") ++ "\n")
    return 0
  else
    let mut status := 0
    for name in names do
      let s ← get
      let known := s.functions.contains name || specialCommands.contains name ||
        plainBuiltins.contains name
      if !known then
        set { s with found := s.found.erase name }
        match ← resolve false name with
        | .ok _ => pure ()
        | .error e =>
          warn (name ++ ": " ++ e.message)
          status := 1
    return status

/-- An alias in a listing. -/
def listedAlias (name text : String) : String := name ++ "=" ++ quote text ++ "\n"

/-- Sets aliases, or lists them. -/
def defineAlias : Body := fun arguments => do
  if arguments.isEmpty then
    for (name, text) in byBucket 39 (← get).aliases.entries do print (listedAlias name text)
    return 0
  else
    let mut status := 0
    for argument in arguments do
      let cs := argument.toList
      let name := cs.take 1 ++ (cs.drop 1).takeWhile (· ≠ '=')
      match cs.drop name.length with
      | _ :: text =>
        modify fun s =>
          { s with aliases := s.aliases.insert (String.ofList name) (String.ofList text) }
      | [] =>
        match (← get).aliases.get? argument with
        | some text => print (listedAlias argument text)
        | none =>
          complain ("alias: " ++ argument ++ " not found\n")
          status := 1
    return status

/-- Forgets aliases. -/
def unalias : Body := fun arguments => do
  let (given, names) ← options "a" "" arguments
  if !given.isEmpty then
    modify fun s => { s with aliases := ∅ }
    return 0
  else
    let mut status := 0
    for name in names do
      if (← get).aliases.contains name then
        modify fun s => { s with aliases := s.aliases.erase name }
      else
        complain ("unalias: " ++ name ++ " not found\n")
        status := 1
    return status

end Builtin

end CountedStrings.Shell
