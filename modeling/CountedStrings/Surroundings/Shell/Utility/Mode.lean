import CountedStrings.Surroundings.Shell.Utility.Basic

/-!
# Modes

The bits that say who may do what with a file.  A mode is given by octal digits, or by changes in
letters: whom a change concerns, a sign, and what they may do.

`Mode.read?` reads changes, `Mode.adjusted` makes them, and `Mode.letters` writes a mode down.
-/

namespace CountedStrings.Shell.Utility

/-- What the bits of a change depend on. -/
inductive ModeBits where
  /-- On nothing. -/
  | plain (bits : Nat)
  /-- On whether somebody may execute the file already, or it is a directory. -/
  | executable (bits : Nat)
  /-- On the bits that somebody else has. -/
  | copied (who : Char)

/-- One change of a mode. -/
structure ModeChange where
  sign : Char
  /-- The bits of those whom it concerns, or nothing if nobody is named. -/
  affected : Option Nat
  bits : ModeBits
  /-- The bits of directories that it may take away. -/
  mentioned : Nat

namespace Mode

/-- All bits of a mode. -/
def allBits : Nat := 0o7777

/-- The bits in the first set and not in the second. -/
def without (bits others : Nat) : Nat := bits - (bits &&& others)

/-- The bits of those for whom a letter stands. -/
def who : Char → Nat
  | 'u' => 0o4700
  | 'g' => 0o2070
  | 'o' => 0o1007
  | _ => allBits

/-- The bits for which letters stand. -/
def permissions (letters : List Char) : Nat :=
  letters.foldl (fun bits c => bits ||| match c with
    | 'r' => 0o444
    | 'w' => 0o222
    | 'x' => 0o111
    | 's' => 0o6000
    | 't' => 0o1000
    | _ => 0) 0

/-- The changes behind the letters that say whom they concern, and what stands behind them.  The
budget has to be the length of the text. -/
def readSigns (affected : Option Nat) : Nat → List Char → Option (List ModeChange × List Char)
  | budget + 1, sign :: rest =>
    if !(['+', '-', '='].contains sign) then some ([], sign :: rest)
    else
      let digits := rest.takeWhile (Number.isDigitOf 8)
      let copied := rest.head?.filter ['u', 'g', 'o'].contains
      let letters := rest.takeWhile ['r', 'w', 'x', 'X', 's', 't'].contains
      let bits := permissions letters
      let mentioned := (affected.map (· &&& bits)).getD bits
      let isWrong := !digits.isEmpty && (affected.isSome || allBits < Number.digitsValue 8 digits ||
        (rest.drop digits.length).head?.any (· ≠ ','))
      let (change, behind) : ModeChange × List Char := match digits, copied with
        | _ :: _, _ =>
          let bits := ModeBits.plain (Number.digitsValue 8 digits)
          (⟨sign, some allBits, bits, allBits⟩, rest.drop digits.length)
        | [], some c => (⟨sign, affected, .copied c, 0⟩, rest.drop 1)
        | [], none =>
          let kind := if letters.contains 'X' then ModeBits.executable bits else .plain bits
          (⟨sign, affected, kind, mentioned⟩, rest.drop letters.length)
      if isWrong then none
      else (readSigns affected budget behind).map fun (others, rest) => (change :: others, rest)
  | _, cs => some ([], cs)

/-- Changes in letters.  The budget has to be more than the length of the text. -/
def readLetters : Nat → List Char → Option (List ModeChange)
  | 0, _ => none
  | budget + 1, cs =>
    let named := cs.takeWhile ['u', 'g', 'o', 'a'].contains
    let affected :=
      if named.isEmpty then none else some (named.foldl (fun bits c => bits ||| who c) 0)
    let behind := cs.drop named.length
    match readSigns affected behind.length behind with
    | none | some ([], _) => none
    | some (changes, []) => some changes
    | some (changes, ',' :: rest) => (readLetters budget rest).map (changes ++ ·)
    | some _ => none

/-- The changes that a text is. -/
def read? (text : String) : Option (List ModeChange) :=
  let cs := text.toList
  if cs.head?.any (Number.isDigitOf 8) then
    let mode := Number.digitsValue 8 cs
    let mentioned := if cs.length < 5 then (mode &&& 0o6000) ||| 0o1777 else allBits
    if cs.all (Number.isDigitOf 8) && mode ≤ allBits then
      some [⟨'=', some allBits, .plain mode, mentioned⟩]
    else none
  else readLetters (cs.length + 1) cs

/-- A mode behind one change, and the bits that the change decided. -/
def adjustedOnce (isDirectory : Bool) (mask : Nat) (mode : Nat) (c : ModeChange) : Nat × Nat :=
  let bits := match c.bits with
    | .plain bits => bits
    | .executable bits =>
      if isDirectory || mode &&& 0o111 ≠ 0 then bits ||| 0o111 else bits
    | .copied who =>
      let shift := if who = 'u' then 64 else if who = 'g' then 8 else 1
      mode / shift % 8 * 0o111
  let kept := if isDirectory then without 0o6000 c.mentioned else 0
  let within := match c.affected with
    | some affected => bits &&& affected
    | none => without bits mask
  let bits := without within kept
  match c.sign with
  | '+' => (mode ||| bits, bits)
  | '-' => (without mode bits, bits)
  | _ =>
    let preserved := (match c.affected with
      | some affected => without allBits affected
      | none => 0) ||| kept
    ((mode &&& preserved) ||| bits, without allBits preserved)

/-- A mode behind changes, and the bits that they decided. -/
def adjusted (isDirectory : Bool) (mask : Nat) (changes : List ModeChange) (mode : Nat) :
    Nat × Nat :=
  changes.foldl (fun (mode, decided) c =>
    let (mode, bits) := adjustedOnce isDirectory mask mode c
    (mode, decided ||| bits)) (mode, 0)

/-- The letters of one of the three groups of bits; `special` is the letter of a further bit. -/
def groupLetters (bits : Nat) (isSet : Bool) (special : Char) : String :=
  let x := bits &&& 1 ≠ 0
  String.ofList [if bits &&& 4 ≠ 0 then 'r' else '-', if bits &&& 2 ≠ 0 then 'w' else '-',
    if isSet then (if x then special else special.toUpper) else if x then 'x' else '-']

/-- A mode in letters. -/
def letters (mode : Nat) : String :=
  groupLetters (mode / 64 % 8) (mode &&& 0o4000 ≠ 0) 's' ++
    groupLetters (mode / 8 % 8) (mode &&& 0o2000 ≠ 0) 's' ++
    groupLetters (mode % 8) (mode &&& 0o1000 ≠ 0) 't'

/-- At least so many octal digits. -/
def octal (least mode : Nat) : String :=
  let digits := Nat.toDigits 8 mode
  String.ofList (List.replicate (least - digits.length) '0' ++ digits)

end Mode

/-! ## What is noted about nodes -/

/-- How many names a node has. -/
def nameCount (files : FileSystem) (id : Nat) : Nat :=
  let entries := files.nodes.toList.flatMap fun
    | .directory _ entries _ => entries.entries.map (·.2)
    | _ => []
  if files.isDirectory id then
    2 + ((files.entriesOf id).entries.filter fun (_, child) => files.isDirectory child).length
  else max 1 (entries.filter (· = id)).length

/-- The mode of a node. -/
def modeOf (files : FileSystem) (id : Nat) : Nat := ((files.node? id).map Node.mode).getD 0

/-- When a node was last changed, in milliseconds. -/
def modifiedOf (files : FileSystem) (id : Nat) : Int :=
  ((files.node? id).map Node.modified).getD 0

/-- The files with a change made to what is noted about a node. -/
def changeAttributes (files : FileSystem) (id : Nat) (change : Attributes → Attributes) :
    FileSystem :=
  files.changeNode id fun
    | .file content a => .file content (change a)
    | .directory parent entries a => .directory parent entries (change a)
    | .pipe content taken a => .pipe content taken (change a)
    | node => node

/-- The files with another mode of a node. -/
def setMode (files : FileSystem) (id mode : Nat) : FileSystem :=
  changeAttributes files id fun a => { a with mode := mode }

/-- The files with another time of a node. -/
def setModified (files : FileSystem) (id : Nat) (time : Int) : FileSystem :=
  changeAttributes files id fun a => { a with modified := time }

/-- The user and the group that a node belongs to. -/
def ownerOf (files : FileSystem) (id : Nat) : Nat × Nat :=
  ((files.node? id).map Node.owner).getD (0, 0)

/-- The files with a node given to a user and a group, or left to those whom it belongs to.  A file does
not go on to be run in the name of its user, nor of its group if that may execute it. -/
def setOwner (files : FileSystem) (id : Nat) (user group : Option Nat) : FileSystem :=
  changeAttributes files id fun a =>
    let lost := if files.isDirectory id then 0
      else if a.mode &&& 0o010 ≠ 0 then 0o6000 else 0o4000
    { a with
      mode := a.mode - (a.mode &&& lost)
      user := user.getD a.user
      group := group.getD a.group }

/-- The node that an operand leads to. -/
def nodeAt (operand : String) : Run (Except FileError Nat) := do
  return (← get).files.find (Bytes.ofByteText operand)

/-- The node that an operand leads to, without following a link at its end. -/
def linkAt (operand : String) : Run (Except FileError Nat) := do
  return (← get).files.findLink (Bytes.ofByteText operand)

/-- Whether an operand leads to a directory. -/
def isDirectoryAt (operand : String) : Run Bool := do
  match ← nodeAt operand with
  | .ok id => return (← get).files.isDirectory id
  | .error _ => return false

/-- Makes a change of the files if it is possible; gives the reason if it is not. -/
def tryChange (change : FileSystem → Except FileError FileSystem) : Run (Option FileError) := do
  match change (← get).files with
  | .ok files =>
    changeFiles fun _ => files
    return none
  | .error e => return some e

/-- Does something for each operand; gives the status 0, or 1 if something went wrong. -/
def forEachOperand (operands : List String) (body : String → Run Bool) : Run Nat := do
  let mut status := 0
  for operand in operands do
    if !(← body operand) then status := 1
  return status

end CountedStrings.Shell.Utility
