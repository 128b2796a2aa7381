import CountedStrings.Surroundings.FileSystem.Route
import CountedStrings.Surroundings.Shell.Builtin.Arguments
import CountedStrings.Surroundings.Shell.Process

/-!
# Built-in commands about directories

The interpreter keeps the path of its working directory as it was gone through, symbolic links
included.  A way up leads back to where the path came from, unless the physical path is asked for.
-/

namespace CountedStrings.Shell

/-! ## 1.  Paths of directories -/

/-- The names of a path that was gone through, the last one first, after another name. -/
def follow (names : List String) (name : String) : List String :=
  if name = "" || name = "." then names
  else if name = ".." then names.tail
  else name :: names

/-- The path that is reached from a directory, by the names alone. -/
def logicalPath (directory path : String) : String :=
  let isTop := path.startsWith "/"
  let whole := if isTop then path else directory ++ "/" ++ path
  let names := (whole.splitOn "/").foldl follow []
  let cs := (if isTop then path else directory).toList
  let doubled := cs.take 2 = ['/', '/'] && cs[2]? ≠ some '/'
  (if doubled then "//" else "/") ++ "/".intercalate names.reverse

/-- Lets the interpreter know its working directory by a path. -/
def setDirectory (path : String) : Run Unit := do
  modify fun s => { s with directory := path }
  assignVariable "PWD" path true false

/-- Lets an interpreter that starts find out its working directory. -/
def findDirectory : Run Unit := do
  let s ← get
  let physical := s.files.physicalPath s.files.working
  match ← valueOf? "PWD" with
  | some path =>
    let leadsHere := (s.files.find (Bytes.ofByteText path)).toOption = some s.files.working
    setDirectory (if path.startsWith "/" && leadsHere then path else physical)
  | none => setDirectory physical

namespace Builtin

/-! ## 2.  Changing directories -/

/-- Goes to a directory; tells whether that was possible. -/
def goTo (physical : Bool) (path : String) : Run Bool := do
  let s ← get
  let logical := logicalPath s.directory path
  match s.files.find (Bytes.ofByteText (if physical then path else logical)) with
  | .error _ => return false
  | .ok id =>
    if !s.files.isDirectory id then return false
    changeFiles fun files => { files with working := id }
    assignVariable "OLDPWD" s.directory true false
    setDirectory (if physical then s.files.physicalPath id else logical)
    modify fun s =>
      { s with
        found := .ofList (s.found.entries.map fun (name, f) => (name, { f with isOld := true })) }
    return true

/-- Whether the last of the given options asks for the physical path. -/
def asksPhysical (given : List Given) : Bool :=
  given.getLast?.any fun (letter, _) => letter = 'P'

/-- Whether a path starts at the top or with a name that stands for a directory nearby. -/
def startsNearby (path : String) : Bool :=
  path.startsWith "/" || ["." , ".."].contains ((path.splitOn "/").headD "")

/-- The directories that a path may start from, each with whether the way there is told. -/
def startingPoints (path : String) : Run (List (String × Bool)) := do
  if startsNearby path then return [("", false)]
  let list := ((← valueOf? "CDPATH").getD "").splitOn ":"
  return list.map fun directory => (directory, directory ≠ "")

/-- Goes to another directory. -/
def cd : Body := fun arguments => do
  let (given, operands) ← options "LP" "" arguments
  let physical := asksPhysical given
  let back := operands.head? = some "-"
  let path ← match operands with
    | [] => pure ((← valueOf? "HOME").getD "")
    | "-" :: _ => pure ((← valueOf? "OLDPWD").getD "")
    | path :: _ => pure path
  let s ← get
  let target := if path = "" then "." else path
  let found := (← startingPoints target).find? fun (directory, _) =>
    let path := if directory = "" then target else directory ++ "/" ++ target
    match s.files.find (Bytes.ofByteText path) with
    | .ok id => s.files.isDirectory id
    | .error _ => false
  let (directory, told) := found.getD ("", false)
  let whole := if directory = "" then target else directory ++ "/" ++ target
  if ← goTo physical whole then
    if back || told then print ((← get).directory ++ "\n")
    return 0
  else misuse ("can't cd to " ++ path)

/-- Prints the path of the working directory. -/
def pwd : Body := fun arguments => do
  let (given, _) ← options "LP" "" arguments
  let s ← get
  let path :=
    if asksPhysical given then s.files.physicalPath s.files.working else s.directory
  print (path ++ "\n")
  return 0

/-! ## 3.  The bits that new files do not get -/

/-- The letters of three bits. -/
def bitLetters (bits : Nat) : String :=
  (if bits &&& 4 ≠ 0 then "r" else "") ++ (if bits &&& 2 ≠ 0 then "w" else "") ++
    if bits &&& 1 ≠ 0 then "x" else ""

/-- A mode in letters. -/
def symbolicMode (mode : Nat) : String :=
  "u=" ++ bitLetters (mode / 64 % 8) ++ ",g=" ++ bitLetters (mode / 8 % 8) ++ ",o=" ++
    bitLetters (mode % 8)

/-- Four octal digits. -/
def octalMode (mode : Nat) : String :=
  let digits := Nat.toDigits 8 mode
  String.ofList (List.replicate (4 - digits.length) '0' ++ digits)

end Builtin

/-- The bits of a mode that a letter in front of a sign speaks about. -/
def modeWho : Char → Nat
  | 'u' => 0o4700
  | 'g' => 0o2070
  | 'o' => 0o1007
  | _ => 0o7777

/-- The bits that a letter behind a sign stands for, in a mode as it is; `isDirectory` says whether
it is that of a directory. -/
def modeBits (mode : Nat) (isDirectory : Bool) : Char → Nat
  | 'r' => 0o444
  | 'w' => 0o222
  | 'x' => 0o111
  | 'X' => if isDirectory || mode &&& 0o111 ≠ 0 then 0o111 else 0
  | 's' => 0o6000
  | 't' => 0o1000
  | 'u' => mode / 64 % 8 * 0o111
  | 'g' => mode / 8 % 8 * 0o111
  | 'o' => mode % 8 * 0o111
  | _ => 0

/-- A mode changed as a sign and the bits behind it say, within some bits. -/
def applySign (sign : Char) (within bits mode : Nat) : Nat :=
  let others := mode - (mode &&& within)
  match sign with
  | '+' => mode ||| (within &&& bits)
  | '-' => mode - (mode &&& within &&& bits)
  | _ => others ||| (within &&& bits)

/-- A mode changed by a list of changes in letters, such as `u+w,go=r`, if the list is one.  Changes
without a letter in front concern the given bits.  The budget has to be more than the length. -/
def changedMode (isDirectory : Bool) (all : Nat) : Nat → Nat → List Char → Option Nat
  | 0, _, _ => none
  | budget + 1, mode, cs =>
    let who := cs.takeWhile ['u', 'g', 'o', 'a'].contains
    let within :=
      if who.isEmpty then all else who.foldl (fun bits c => bits ||| modeWho c) 0
    signs budget mode within (cs.drop who.length)
where
  /-- Goes on with the signs behind the letters that say whom they concern. -/
  signs (budget mode within : Nat) (cs : List Char) : Option Nat :=
    match budget, cs with
    | 0, _ | _, [] => some mode
    | budget + 1, sign :: rest =>
      if sign = ',' then changedMode isDirectory all budget mode rest
      else if !(['+', '-', '='].contains sign) then none
      else
        let letters := rest.takeWhile ['r', 'w', 'x', 'X', 's', 't', 'u', 'g', 'o'].contains
        let bits := letters.foldl (fun bits c => bits ||| modeBits mode isDirectory c) 0
        signs budget (applySign sign within bits mode) within (rest.drop letters.length)

namespace Builtin

/-- Prints or changes the bits that new files do not get. -/
def umask : Body := fun arguments => do
  let (given, operands) ← options "S" "" arguments
  let mask := (← get).files.mask
  match operands with
  | [] =>
    print (if given.isEmpty then octalMode mask ++ "\n"
      else symbolicMode (0o777 - mask) ++ "\n")
    return 0
  | text :: _ => do
    let cs := text.toList
    let new ←
      if cs.head?.any Char.isDigit then
        if cs.all (Number.isDigitOf 8) then pure (Number.digitsValue 8 cs) else badNumber text
      else
        match changedMode false 0o777 (cs.length + 2) (0o777 - mask) cs with
        | some mode => pure (0o777 - mode % 0o1000)
        | none => misuse ("Illegal mode: " ++ text)
    changeFiles fun files => { files with mask := new % 0o1000 }
    return 0

end Builtin

end CountedStrings.Shell
