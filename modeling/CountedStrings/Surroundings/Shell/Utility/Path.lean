import CountedStrings.Surroundings.FileSystem.Route
import CountedStrings.Surroundings.Shell.Utility.Mode

/-!
# Utilities for paths

## 1.  Names in paths

`basename` and `dirname` take a path apart, whether or not something is there.

## 2.  Where paths lead

`readlink` and `realpath` follow links, and `pwd` prints where the process is.

## 3.  Which paths can be used

`pathchk` tells whether a file could have a path, here or on any host.
-/

namespace CountedStrings.Shell.Utility

/-! ## 1.  Names in paths -/

/-- A text without the slashes at its end. -/
def withoutSlashes (cs : List Char) : List Char := (cs.reverse.dropWhile (· = '/')).reverse

/-- The last name of a path, or the slash that it is. -/
def lastName (path : String) : String :=
  let cs := withoutSlashes path.toList
  if cs.isEmpty then (if path = "" then "" else "/")
  else String.ofList (cs.reverse.takeWhile (· ≠ '/')).reverse

/-- A path without its last name. -/
def parentPath (path : String) : String :=
  let cs := withoutSlashes path.toList
  let parent := withoutSlashes ((cs.reverse.dropWhile (· ≠ '/')).reverse)
  if !parent.isEmpty then String.ofList parent
  else if path.startsWith "/" then "/" else "."

/-- A path into a directory. -/
def pathInto (directory name : String) : String :=
  if directory.endsWith "/" then directory ++ name else directory ++ "/" ++ name

/-- A name without an ending, unless it is all of the name. -/
def withoutEnding (ending name : String) : String :=
  if ending ≠ "" && name ≠ ending && name.endsWith ending then
    String.ofList (name.toList.take (name.length - ending.length))
  else name

/-- What stands behind each line of a utility for paths. -/
def lineEnd (given : List Given) : String := if has given 'z' then "\x00" else "\n"

/-- Prints the last names of paths. -/
def basename : Body := fun name arguments => do
  let x : Syntax :=
    ⟨"az", "s", [⟨"multiple", 'a', .no⟩, ⟨"suffix", 's', .yes⟩, ⟨"zero", 'z', .no⟩], false, 1⟩
  let (given, operands) ← options name x arguments
  let behind := lineEnd given
  let show_ (ending path : String) : Run Unit := do
    let own := lastName path
    print ((if own = "/" then own else withoutEnding ending own) ++ behind)
  let ending := valueOf given 's'
  if operands.isEmpty then missingOperand name 1
  if has given 'a' || ending.isSome then
    for operand in operands do show_ (ending.getD "") operand
  else
    match operands with
    | _ :: _ :: extra :: _ => extraOperand name extra 1
    | path :: rest => show_ (rest.headD "") path
    | [] => pure ()
  finish name 0

/-- Prints paths without their last names. -/
def dirname : Body := fun name arguments => do
  let (given, operands) ← options name ⟨"z", "", [⟨"zero", 'z', .no⟩], true, 1⟩ arguments
  if operands.isEmpty then missingOperand name 1
  for operand in operands do print (parentPath operand ++ lineEnd given)
  finish name 0

/-! ## 2.  Where paths lead -/

/-- The target of the link that an operand is. -/
def linkTarget (operand : String) : Run (Except FileError String) := do
  match ← linkAt operand with
  | .error e => return .error e
  | .ok id =>
    match (← get).files.node? id with
    | some (.link target) => return .ok (Bytes.toByteText target)
    | _ => return .error .invalid

/-- The options of `readlink`. -/
def readlinkSyntax : Syntax where
  flags := "femnqsvz"
  valued := ""
  long := [⟨"canonicalize", 'f', .no⟩, ⟨"canonicalize-existing", 'e', .no⟩,
    ⟨"canonicalize-missing", 'm', .no⟩, ⟨"no-newline", 'n', .no⟩, ⟨"quiet", 'q', .no⟩,
    ⟨"silent", 's', .no⟩, ⟨"verbose", 'v', .no⟩, ⟨"zero", 'z', .no⟩]
  permutes := true
  status := 1

/-- What of a path may be missing, as options say. -/
def missingOf (given : List Given) : Option FileSystem.Missing :=
  (lastOf given ['f', 'e', 'm']).map fun c =>
    if c = 'e' then .nothing else if c = 'm' then .anything else .last

/-- Prints the targets of links, or where paths lead. -/
def readlink : Body := fun name arguments => do
  let (given, operands) ← options name readlinkSyntax arguments
  if operands.isEmpty then missingOperand name 1
  let several := 1 < operands.length
  if several && has given 'n' then report name "ignoring --no-newline with multiple arguments"
  let behind := if has given 'n' && !several then "" else lineEnd given
  let status ← forEachOperand operands fun operand => do
    let result ← match missingOf given with
      | some missing =>
        pure ((← get).files.canonicalPath missing (Bytes.ofByteText operand))
      | none => linkTarget operand
    match result with
    | .ok text =>
      print (text ++ behind)
      return true
    | .error e =>
      if lastOf given ['v', 'q', 's'] = some 'v' then
        report name (quotedIfNeeded true operand ++ ": " ++ e.message)
      return false
  finish name status

/-- The options of `realpath`. -/
def realpathSyntax : Syntax where
  flags := "eLmPqsz"
  valued := ""
  long := [⟨"canonicalize-existing", 'e', .no⟩, ⟨"canonicalize-missing", 'm', .no⟩,
    ⟨"logical", 'L', .no⟩, ⟨"physical", 'P', .no⟩, ⟨"quiet", 'q', .no⟩, ⟨"strip", 's', .no⟩,
    ⟨"no-symlinks", 's', .no⟩, ⟨"zero", 'z', .no⟩, ⟨"relative-to", 'R', .yes⟩,
    ⟨"relative-base", 'B', .yes⟩]
  permutes := true
  status := 1

/-- The names of a path by the names alone. -/
def plainNames (path : String) : List String :=
  ((path.splitOn "/").foldl (fun (names : List String) name =>
    if name = "" || name = "." then names
    else if name = ".." then names.tail
    else name :: names) []).reverse

/-- The way from one path to another, both without links. -/
def relativePath (start path : String) : String :=
  let origin := plainNames start
  let target := plainNames path
  let shared := ((origin.zip target).takeWhile fun (a, b) => a = b).length
  let ups := List.replicate (origin.length - shared) ".."
  let names := ups ++ target.drop shared
  if names.isEmpty then "." else "/".intercalate names

/-- Where a path leads, as options say. -/
def realPathOf (given : List Given) (path : String) : Run (Except FileError String) := do
  let files := (← get).files
  let missing : FileSystem.Missing := (missingOf given).getD .last
  if lastOf given ['s', 'P', 'L'] = some 's' then
    if path = "" then return .error .missing
    let whole :=
      if path.startsWith "/" then path else files.physicalPath files.working ++ "/" ++ path
    let plain := "/" ++ "/".intercalate (plainNames whole)
    match missing, files.find (Bytes.ofByteText (parentPath plain)),
      files.find (Bytes.ofByteText plain) with
    | .anything, _, _ => return .ok plain
    | .last, .ok _, _ => return .ok plain
    | .last, .error e, _ => return .error e
    | .nothing, _, .ok _ => return .ok plain
    | .nothing, _, .error e => return .error e
  else return files.canonicalPath missing (Bytes.ofByteText path)

/-- Prints where paths lead. -/
def realpath : Body := fun name arguments => do
  let (given, operands) ← options name realpathSyntax arguments
  if operands.isEmpty then missingOperand name 1
  let place (letter : Char) : Run (Option String) := do
    match valueOf given letter with
    | none => return none
    | some path =>
      match ← realPathOf given path with
      | .ok text => return some text
      | .error e => fail name (quotedIfNeeded true path ++ ": " ++ e.message) 1
  let base ← place 'B'
  let start := (← place 'R').or base
  let status ← forEachOperand operands fun operand => do
    match ← realPathOf given operand with
    | .ok text =>
      let isBelow := base.all fun b => (plainNames b).isPrefixOf (plainNames text)
      print ((match start with
        | some start => if isBelow then relativePath start text else text
        | none => text) ++ lineEnd given)
      return true
    | .error e =>
      if !has given 'q' then report name ((if operand = "" then quoted "" else
        quotedIfNeeded true operand) ++ ": " ++ e.message)
      return false
  finish name status

/-- Prints the path of the working directory. -/
def pwd : Body := fun name arguments => do
  let x : Syntax := ⟨"LP", "", [⟨"logical", 'L', .no⟩, ⟨"physical", 'P', .no⟩], true, 1⟩
  let (given, operands) ← options name x arguments
  if !operands.isEmpty then report name "ignoring non-option arguments"
  let files := (← get).files
  let logical := (← valueOf? "PWD").filter fun path =>
    let names := path.splitOn "/"
    path.startsWith "/" && !names.contains "." && !names.contains ".." &&
      (files.find (Bytes.ofByteText path)).toOption = some files.working
  let path :=
    match lastOf given ['L', 'P'], logical with
    | some 'L', some path => path
    | _, _ => files.physicalPath files.working
  print (path ++ "\n")
  finish name 0

/-! ## 3.  Which paths can be used -/

/-- The characters that names may have on any host. -/
def isPortable (c : Char) : Bool := c.isAlphanum || ['.', '_', '-', '/'].contains c

/-- Whether a path can be used; complains if it cannot.  `basic` says whether it has to be usable on any
host, and `extra` whether mistakes in using it are to be ruled out. -/
def checkPath (name : String) (basic extra : Bool) (path : String) : Run Bool := do
  let refused (message : String) : Run Bool := do
    report name message
    return false
  let names := path.splitOn "/"
  if extra && names.any (·.startsWith "-") then
    refused ("leading '-' in a component of file name " ++ quoted path)
  else if (basic || extra) && path = "" then refused "empty file name"
  else if basic then
    let long := names.find? fun part => 14 < part.length
    match path.toList.find? fun c => !isPortable c, long with
    | some c, _ => do
      let character ← cited c.toString
      refused ("non-portable character " ++ character ++ " in file name " ++ quoted path)
    | none, some part => do
      if 255 < path.length then
        refused ("limit 255 exceeded by length " ++ toString path.length ++ " of file name " ++
          quoted path)
      else
        refused ("limit 14 exceeded by length " ++ toString part.length ++
          " of file name component " ++ (← cited part))
    | none, none => return true
  else
    match ← linkAt path with
    | .ok _ => return true
    | .error e =>
      if e = .missing && path ≠ "" then return true
      else refused (quotedIfNeeded true path ++ ": " ++ e.message)

/-- Tells whether paths can be used. -/
def pathchk : Body := fun name arguments => do
  let (given, operands) ← options name ⟨"pP", "", [⟨"portability", 'b', .no⟩], true, 1⟩ arguments
  if operands.isEmpty then missingOperand name 1
  let basic := has given 'p' || has given 'b'
  let extra := has given 'P' || has given 'b'
  finish name (← forEachOperand operands (checkPath name basic extra))

end CountedStrings.Shell.Utility
