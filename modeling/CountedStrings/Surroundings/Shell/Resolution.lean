import CountedStrings.Surroundings.FileSystem.Fresh
import CountedStrings.Surroundings.Shell.Process

/-!
# Finding programs

A name with a slash in it is a path.  Any other name is looked for in the directories that `PATH`
lists, and where it was found is remembered until `PATH` changes.  When the working directory changes, it
is looked for anew as soon as it is needed.

What a file is run as depends on its content: the image of a program is that program, a first line
that begins with `#!` names the program to run, and anything else is a text for the interpreter.
-/

namespace CountedStrings.Shell

/-- What a file is run as. -/
inductive Executable where
  | program (name : String)
  /-- The program of this path is run, with an argument if there is one, on the file. -/
  | interpreted (path : String) (argument : Option String)
  | text (content : ByteArray)

/-- Why a program cannot be run. -/
inductive ResolutionError where
  | absent
  | denied
  | failed (e : FileError)
  deriving DecidableEq

namespace ResolutionError

/-- Why a program cannot be run, in words. -/
def message : ResolutionError → String
  | .absent => "not found"
  | .denied => "Permission denied"
  | .failed e => e.message

/-- The status of a command whose program, given by its path, cannot be run. -/
def status : ResolutionError → Nat
  | .absent | .failed .tooManyLinks | .failed .nameTooLong => 127
  | .denied | .failed _ => 126

/-- What goes wrong when a path leads nowhere. -/
def ofFileError : FileError → ResolutionError
  | .missing | .notDirectory => .absent
  | e => .failed e

end ResolutionError

/-- The bits of which one has to be set for a file to be run. -/
def executableBits : Nat := 0o111

/-- The content of a file that may be run. -/
def executableContent (files : FileSystem) (path : String) : Except ResolutionError ByteArray :=
  match files.find (Bytes.ofByteText path) with
  | .error e => .error (.ofFileError e)
  | .ok id =>
    match files.node? id with
    | some (.file content attributes) =>
      if attributes.mode &&& executableBits = 0 then .error .denied else .ok content
    | _ => .error .denied

/-- The words of the first line of a text behind its first two characters: the first word, and all
that follows it. -/
def namedProgram (content : ByteArray) : String × Option String :=
  let isBlank (c : Char) : Bool := c = ' ' || c = '\t'
  let line := ((textOf content).toList.drop 2).takeWhile (· ≠ '\n')
  let line := line.dropWhile isBlank
  let path := line.takeWhile fun c => !isBlank c
  let rest := (line.drop path.length).dropWhile isBlank
  let rest := (rest.reverse.dropWhile isBlank).reverse
  (String.ofList path, if rest.isEmpty then none else some (String.ofList rest))

/-- What a content is run as. -/
def Executable.ofContent (content : ByteArray) : Executable :=
  match FileSystem.programOf? content with
  | some name => .program name
  | none =>
    if (content.extract 0 2).toList = [0x23, 0x21] then
      let (path, argument) := namedProgram content
      .interpreted path argument
    else .text content

/-- The directories of a list with colons between them. -/
def directoriesOf (path : String) : List String :=
  (path.splitOn ":")

/-- The path of a name in a directory. -/
def joinPath (directory name : String) : String :=
  if directory = "" then name else directory ++ "/" ++ name

/-- Looks for a program in directories. -/
def searchIn (files : FileSystem) (name : String) :
    ResolutionError → List String → Except ResolutionError String
  | e, [] => .error e
  | e, directory :: rest =>
    let path := joinPath directory name
    match executableContent files path with
    | .ok _ => .ok path
    | .error .absent => searchIn files name e rest
    | .error _ => searchIn files name .denied rest

/-- The directories in which programs are looked for. -/
def searchPath (standard : Bool) : Run (List String) := do
  if standard then return directoriesOf standardPath
  else return directoriesOf ((← valueOf? "PATH").getD "")

/-- Where the program of a name is found. -/
def resolve (standard : Bool) (name : String) : Run (Except ResolutionError String) := do
  if name.toList.contains '/' then return .ok name
  let s ← get
  match s.found.get? name, standard with
  | some ⟨path, false⟩, false => return .ok path
  | _, _ =>
    match searchIn s.files name .absent (← searchPath standard) with
    | .error e => return .error e
    | .ok path => do
      if !standard then modify fun s => { s with found := s.found.insert name ⟨path, false⟩ }
      return .ok path

/-- The directories in which a program looks for others if `PATH` is not set. -/
def plainPath : String := "/bin:/usr/bin"

/-- Where a program finds another one by its name. -/
def findProgram (name : String) : Run (Except ResolutionError String) := do
  if name = "" then return .error .absent
  if name.toList.contains '/' then return .ok name
  let path := (← valueOf? "PATH").getD plainPath
  return searchIn (← get).files name .absent (directoriesOf path)

end CountedStrings.Shell
