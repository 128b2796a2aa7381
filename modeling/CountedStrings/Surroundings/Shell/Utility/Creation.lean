import CountedStrings.Surroundings.Shell.Utility.Dating
import CountedStrings.Surroundings.Shell.Utility.Path

/-!
# Utilities that make names

## 1.  Directories

`mkdir` makes directories and `rmdir` removes empty ones, each with the ones on the way if asked to.

## 2.  Links

`ln` gives further names to files, or makes links that lead to them.

## 3.  Files

`touch` changes times, `truncate` sizes; both make a file where there is none.  `mktemp` makes a file
under a name that nothing has, and `mkfifo` makes pipes with names.
-/

namespace CountedStrings.Shell.Utility

/-! ## 1.  Directories -/

/-- The mode that an option asks for. -/
def readMode (name : String) (given : List Given) : Run (Option (List ModeChange)) := do
  match valueOf given 'm' with
  | none => return none
  | some text =>
    match Mode.read? text with
    | some changes => return some changes
    | none => fail name ("invalid mode " ++ (← cited text)) 1

/-- Lets a new node have the mode that changes make of a usual one. -/
def applyMode (changes : Option (List ModeChange)) (usual : Nat) (path : String) : Run Unit := do
  match changes, ← linkAt path with
  | some changes, .ok id =>
    changeFiles fun files =>
      let isDirectory := files.isDirectory id
      let (mode, decided) := Mode.adjusted isDirectory files.mask changes usual
      setMode files id (Mode.without (modeOf files id) decided ||| (mode &&& decided))
  | _, _ => return

/-- The beginnings of a path, each one name longer than the one before, the whole path last. -/
def beginnings (path : String) : List String :=
  let cs := path.toList
  let ends := (List.range (cs.length + 1)).filter fun n =>
    0 < n && cs[n - 1]? ≠ some '/' && (n = cs.length || cs[n]? = some '/')
  let parts := ends.map fun n => String.ofList (cs.take n)
  match parts.getLast? with
  | none => if path = "" then [] else [path]
  | some _ => parts.dropLast ++ [path]

/-- Says that a directory was made. -/
def tellMade (name : String) (given : List Given) (path : String) : Run Unit := do
  if has given 'v' then print (name ++ ": created directory " ++ quoted path ++ "\n")

/-- Complains about a directory that cannot be made. -/
def cannotMake (name path : String) (e : FileError) : Run Bool := do
  report name ("cannot create directory " ++ (← cited path) ++ ": " ++ e.message)
  return false

/-- Makes the directories on the way to a path, and the one there. -/
def makeAll (name : String) (given : List Given) (changes : Option (List ModeChange))
    (path : String) : List String → Run Bool
  | [] => return true
  | part :: rest => do
    match ← nodeAt part with
    | .ok id =>
      let files := (← get).files
      if files.isDirectory id then makeAll name given changes path rest
      else cannotMake name part (if rest.isEmpty then .taken else .notDirectory)
    | .error .notDirectory =>
      cannotMake name part .notDirectory
    | .error _ =>
      match ← tryChange fun files => files.makeDirectory (Bytes.ofByteText part) with
      | some e => cannotMake name part e
      | none =>
        tellMade name given part
        if rest.isEmpty then applyMode changes 0o777 part
        makeAll name given changes path rest

/-- Makes directories. -/
def mkdir : Body := fun name arguments => do
  let x : Syntax :=
    ⟨"pvZ", "m", [⟨"mode", 'm', .yes⟩, ⟨"parents", 'p', .no⟩, ⟨"verbose", 'v', .no⟩], true, 1⟩
  let (given, operands) ← options name x arguments
  if operands.isEmpty then missingOperand name 1
  let changes ← readMode name given
  let status ← forEachOperand operands fun operand => do
    if has given 'p' && operand ≠ "" then makeAll name given changes operand (beginnings operand)
    else
      match ← tryChange fun files => files.makeDirectory (Bytes.ofByteText operand) with
      | some e => cannotMake name operand e
      | none =>
        tellMade name given operand
        applyMode changes 0o777 operand
        return true
  finish name status

/-- Why a directory cannot be removed, in words. -/
def removalMessage (path : String) (e : FileError) : Run String := do
  if e = .notDirectory && path.endsWith "/" && (← isDirectoryAt path) then
    return "Symbolic link not followed"
  else return e.message

/-- The paths above a path that are written in it, the longest first. -/
def writtenParents (path : String) : List String :=
  (beginnings (String.ofList (withoutSlashes path.toList))).dropLast.reverse

/-- Removes empty directories above a path, as long as that is possible. -/
def removeParents (name : String) (given : List Given) : List String → Run Bool
  | [] => return true
  | path :: rest => do
    if has given 'v' then print (name ++ ": removing directory, " ++ quoted path ++ "\n")
    match ← tryChange fun files => files.removeDirectory (Bytes.ofByteText path) with
    | none => removeParents name given rest
    | some e =>
      if e = .notEmpty && has given 'i' then return true
      report name ("failed to remove directory " ++ quoted path ++ ": " ++ (← removalMessage path e))
      return false

/-- Removes empty directories. -/
def rmdir : Body := fun name arguments => do
  let x : Syntax :=
    ⟨"pv", "", [⟨"ignore-fail-on-non-empty", 'i', .no⟩, ⟨"parents", 'p', .no⟩,
      ⟨"verbose", 'v', .no⟩], true, 1⟩
  let (given, operands) ← options name x arguments
  if operands.isEmpty then missingOperand name 1
  let status ← forEachOperand operands fun operand => do
    if has given 'v' then print (name ++ ": removing directory, " ++ quoted operand ++ "\n")
    match ← tryChange fun files => files.removeDirectory (Bytes.ofByteText operand) with
    | none => if has given 'p' then removeParents name given (writtenParents operand) else return true
    | some e =>
      if e = .notEmpty && has given 'i' then return true
      report name ("failed to remove " ++ quoted operand ++ ": " ++ (← removalMessage operand e))
      return false
  finish name status

/-! ## 2.  Links -/

/-- Whether the answer that is read begins with a yes. -/
def saysYes : Run Bool := do
  let (text, isYes) ← readAnswer 4096 ""
  return isYes && (text.startsWith "y" || text.startsWith "Y")
where
  /-- Reads one line. -/
  readAnswer : Nat → String → Run (String × Bool)
    | 0, text => return (text, true)
    | budget + 1, text => do
      match ← read 0 (some 1) with
      | .ok bytes =>
        if bytes.isEmpty || textOf bytes = "\n" then return (text, text ≠ "")
        else readAnswer budget (text ++ textOf bytes)
      | .error _ => return (text, false)

/-- Asks a question; gives whether the answer is a yes. -/
def asks (question : String) : Run Bool := do
  say question
  saysYes

/-- The operands that are names of files and the directory that they go into, or the pair of a source
and where it goes. -/
inductive Destination where
  | into (directory : String) (sources : List String)
  | pair (source target : String)

/-- The words in which a utility complains about its operands. -/
def missingFile {α : Type} (name : String) (operands : List String) : Run α := do
  match operands with
  | [] => misused name "missing file operand" 1
  | path :: _ => misused name ("missing destination file operand after " ++ quoted path) 1

/-- The error of a target that should be a directory. -/
def targetError (target : String) : Run FileError := do
  match ← nodeAt target with
  | .error e => return e
  | .ok _ => return .notDirectory

/-- Where operands go: `t` names a directory, and `T` says that the target is none to go into.
`follows` says whether a link to a directory counts as one. -/
def destinationOf (name : String) (given : List Given) (follows : Bool) (operands : List String) :
    Run Destination := do
  if 1 < (given.filter fun (c, _) => c = 't').length then
    fail name "multiple target directories specified" 1
  match valueOf given 't' with
  | some directory =>
    if has given 'T' then
      fail name "cannot combine --target-directory (-t) and --no-target-directory (-T)" 1
    if !(← isDirectoryAt directory) then
      fail name ("target directory " ++ quoted directory ++ ": " ++
        (← targetError directory).message) 1
    if operands.isEmpty then missingFile name []
    return .into directory operands
  | none =>
    match operands with
    | [] => missingFile name []
    | [a] => missingFile name [a]
    | [a, b] =>
      let isPlace ←
        if follows then isDirectoryAt b
        else do
          match ← linkAt b with
          | .ok id => pure ((← get).files.isDirectory id)
          | .error _ => pure false
      if isPlace && !has given 'T' then return .into b [a] else return .pair a b
    | _ :: _ :: c :: _ =>
      if has given 'T' then misused name ("extra operand " ++ quoted c) 1
      let target := (operands.getLast?).getD ""
      if !(← isDirectoryAt target) then
        fail name ("target " ++ quoted target ++ ": " ++ (← targetError target).message) 1
      return .into target operands.dropLast

/-- The pairs of sources and where they go. -/
def Destination.pairs : Destination → List (String × String)
  | .pair source target => [(source, target)]
  | .into directory sources => sources.map fun source => (source, pathInto directory (lastName source))

/-- Options for what happens to a file that is replaced. -/
def backupOptions : List LongOption :=
  [⟨"backup", 'B', .maybe⟩, ⟨"suffix", 'S', .yes⟩]

/-- The kinds of names for what is replaced. -/
def backupKinds : List (List String) :=
  [["none", "off"], ["simple", "never"], ["existing", "nil"], ["numbered", "t"]]

/-- The kind of names for what is replaced, if it is kept. -/
def backupKind (name : String) (given : List Given) : Run (Option String) := do
  match valueOf given 'B' with
  | some word =>
    if word = "" then return some "existing"
    else
      match backupKinds.find? (·.contains word) with
      | some same => return (some (same.headD "")).filter (· ≠ "none")
      | none =>
        report name ("invalid argument " ++ (← cited word) ++ " for " ++ (← cited "backup type"))
        let mut lines := "Valid arguments are:\n"
        for same in backupKinds do
          lines := lines ++ "  - " ++ ", ".intercalate (← same.mapM cited) ++ "\n"
        say lines
        referToHelp name 1
  | none => return if has given 'b' || has given 'S' then some "existing" else none

/-- Renames what stands at a path, so that it is kept. -/
def keepBackup (kind suffix path : String) : Run String := do
  let files := (← get).files
  let exists_ (n : Nat) : Bool :=
    (files.findLink (Bytes.ofByteText (path ++ ".~" ++ toString n ++ "~"))).toOption.isSome
  let numbers := (List.range 100).map (· + 1)
  let next := (numbers.find? fun n => !exists_ n).getD 100
  let numbered := kind = "numbered" || (kind = "existing" && numbers.any exists_)
  let kept := if numbered then path ++ ".~" ++ toString next ++ "~" else path ++ suffix
  discard (tryChange fun files => files.rename (Bytes.ofByteText path) (Bytes.ofByteText kept))
  return kept

/-- The options of `ln`. -/
def lnSyntax : Syntax where
  flags := "bdfFiLnPrsTv"
  valued := "St"
  long := [⟨"directory", 'd', .no⟩, ⟨"no-dereference", 'n', .no⟩, ⟨"no-target-directory", 'T', .no⟩,
    ⟨"force", 'f', .no⟩, ⟨"interactive", 'i', .no⟩, ⟨"logical", 'L', .no⟩,
    ⟨"physical", 'P', .no⟩, ⟨"relative", 'r', .no⟩, ⟨"symbolic", 's', .no⟩, ⟨"verbose", 'v', .no⟩,
    ⟨"target-directory", 't', .yes⟩] ++ backupOptions
  permutes := true
  status := 1

/-- Complains about a link that cannot be made. -/
def cannotLink (name : String) (symbolic : Bool) (source target : String) (e : FileError) :
    Run Bool := do
  let kind := if symbolic then "symbolic" else "hard"
  let short := if symbolic then source ≠ "" && e ≠ .nameTooLong else e = .taken
  let arrow := if symbolic then " -> " else " => "
  report name ("failed to create " ++ kind ++ " link " ++ quoted target ++
    (if short then "" else arrow ++ quoted source) ++ ": " ++ e.message)
  return false

/-- The text of a link at a place that leads to another one by a way between them. -/
def relativeTarget (source target : String) : Run String := do
  let files := (← get).files
  let path (text : String) : String :=
    (files.canonicalPath .anything (Bytes.ofByteText text)).toOption.getD text
  return relativePath (path (parentPath target)) (path source)

/-- Whether a path is the only one to a node, or the same path as another one apart from the way to its
directory. -/
def isOnlyName (source target : String) (id : Nat) : Run Bool := do
  let files := (← get).files
  let directory (path : String) : Option Nat :=
    (files.find (Bytes.ofByteText (parentPath path))).toOption
  return nameCount files id = 1 ||
    (lastName source = lastName target && directory source = directory target)

/-- Makes one link. -/
def linkOnce (name : String) (given : List Given) (backup : Option String)
    (source target : String) : Run Bool := do
  let symbolic := has given 's'
  let old ← linkAt target
  let found ← if has given 'L' then nodeAt source else linkAt source
  if !symbolic then
    match found with
    | .error e =>
      report name ("failed to access " ++ quoted source ++ ": " ++ e.message)
      return false
    | .ok id =>
      if (← get).files.isDirectory id then
        report name (quotedIfNeeded true source ++ ": hard link not allowed for directory")
        return false
  let replaces := has given 'f' || has given 'i' || backup.isSome
  let mut kept : Option String := none
  if let .ok id := old then
    if replaces then
      if (← get).files.isDirectory id then
        report name (quotedIfNeeded true target ++ ": cannot overwrite directory")
        return false
      let place ← if symbolic then nodeAt source else pure found
      let sameNode := place.toOption = some id
      let refuses := has given 'f' || (!symbolic && backup.isSome)
      if refuses && sameNode && (← isOnlyName source target id) then
        report name (quoted source ++ " and " ++ quoted target ++ " are the same file")
        return false
      if lastOf given ['f', 'i'] = some 'i' then
        if !(← asks (name ++ ": replace " ++ quoted target ++ "? ")) then return false
      match backup with
      | some kind => kept := some (← keepBackup kind ((valueOf given 'S').getD "~") target)
      | none => discard (tryChange fun files => files.unlink (Bytes.ofByteText target))
  let text ← if symbolic && has given 'r' then relativeTarget source target else pure source
  let failed ← tryChange fun files =>
    if symbolic then
      if text = "" then
        match files.makeLink (Bytes.ofByteText target) [] with
        | .error e => .error e
        | .ok _ => .error .missing
      else files.makeLink (Bytes.ofByteText target) (Bytes.ofByteText text)
    else
      let from_ := if has given 'L' then
          (files.canonicalPath .nothing (Bytes.ofByteText source)).toOption.getD source
        else source
      files.makeName (Bytes.ofByteText from_) (Bytes.ofByteText target)
  match failed with
  | some e => cannotLink name symbolic text target e
  | none =>
    if has given 'v' then
      let before := (kept.map fun path => quoted path ++ " ~ ").getD ""
      print (before ++ quoted target ++ (if symbolic then " -> " else " => ") ++ quoted text ++ "\n")
    return true

/-- Makes links. -/
def ln : Body := fun name arguments => do
  let (given, operands) ← options name lnSyntax arguments
  let backup ← backupKind name given
  let destination ← match operands, valueOf given 't', has given 'T' with
    | [source], none, false => pure (.into "." [source])
    | _, _, _ => destinationOf name given (!has given 'n') operands
  if has given 'r' && !has given 's' then fail name "cannot do --relative without --symbolic" 1
  let mut status := 0
  for (source, target) in destination.pairs do
    if !(← linkOnce name given backup source target) then status := 1
  finish name status

/-- Gives a further name to a file. -/
def link : Body := fun name arguments => do
  let (_, operands) ← options name ⟨"", "", [], true, 1⟩ arguments
  match operands with
  | [] => missingOperand name 1
  | [a] => misused name ("missing operand after " ++ (← cited a)) 1
  | [a, b] =>
    match ← tryChange fun files => files.makeName (Bytes.ofByteText a) (Bytes.ofByteText b) with
    | none => finish name 0
    | some e =>
      fail name ("cannot create link " ++ quoted b ++ " to " ++ quoted a ++ ": " ++ e.message) 1
  | _ :: _ :: c :: _ => extraOperand name c 1

/-- Takes a name away. -/
def unlink : Body := fun name arguments => do
  let (_, operands) ← options name ⟨"", "", [], true, 1⟩ arguments
  match operands with
  | [] => missingOperand name 1
  | [a] =>
    match ← tryChange fun files => files.unlink (Bytes.ofByteText a) with
    | none => finish name 0
    | some e => fail name ("cannot unlink " ++ quoted a ++ ": " ++ e.message) 1
  | _ :: b :: _ => extraOperand name b 1

/-! ## 3.  Files -/

/-- The options of `touch`. -/
def touchSyntax : Syntax where
  flags := "acfhm"
  valued := "drt"
  long := [⟨"time", 'T', .yes⟩, ⟨"no-create", 'c', .no⟩, ⟨"date", 'd', .yes⟩,
    ⟨"reference", 'r', .yes⟩, ⟨"no-dereference", 'h', .no⟩]
  permutes := true
  status := 1

/-- The time that options give to files. -/
def touchTime (name : String) (given : List Given) : Run Int := do
  let files := (← get).files
  let start ← match valueOf given 'r' with
    | none => pure files.clock
    | some path =>
      match ← nodeAt path with
      | .ok id => pure (modifiedOf files id)
      | .error e =>
        fail name ("failed to get attributes of " ++ quoted path ++ ": " ++ e.message) 1
  let mut stamp := none
  for (letter, text) in given do
    if letter = 't' then
      stamp := readStamp files.clock text
      if stamp.isNone then fail name ("invalid date format " ++ (← cited text)) 1
  if stamp.isSome && (has given 'd' || has given 'r') then
    misused name "cannot specify times from more than one source" 1
  match valueOf given 'd', stamp with
  | some text, _ =>
    match readTime start text with
    | some time => return time
    | none => fail name ("invalid date format " ++ (← cited text)) 1
  | none, some time => return time
  | none, none => return start

/-- Changes the time of one file, or makes it. -/
def touchOnce (name : String) (given : List Given) (time : Int) (operand : String) : Run Bool := do
  if operand = "-" then return true
  let path := Bytes.ofByteText operand
  let plain := has given 'h'
  let creates := !has given 'c' && !plain
  let opening ← match ← nodeAt operand with
    | .ok _ => pure none
    | .error e =>
      if creates then tryChange fun files => (files.openOrCreate path).map (·.1)
      else pure (some e)
  let found ← if plain then linkAt operand else nodeAt operand
  match found with
  | .ok id =>
    if !has given 'a' || has given 'm' then changeFiles fun files => setModified files id time
    return true
  | .error e =>
    if creates && opening.any (· ≠ .isDirectory) then
      report name ("cannot touch " ++ quoted operand ++ ": " ++ (opening.getD e).message)
      return false
    else if has given 'c' && e = .missing then return true
    else
      report name ("setting times of " ++ quoted operand ++ ": " ++ e.message)
      return false

/-- Changes the times of files. -/
def touch : Body := fun name arguments => do
  let (given, operands) ← options name touchSyntax arguments
  let time ← touchTime name given
  if operands.isEmpty then misused name "missing file operand" 1
  let status ← forEachOperand operands (touchOnce name given time)
  finish name status

/-- How a size is meant. -/
inductive SizeChange where
  | exactly
  | plus
  | minus
  | atMost
  | atLeast
  | roundDown
  | roundUp
  deriving DecidableEq

/-- Reads a change of sizes, of which an earlier one may have said how it is meant. -/
def readSize (name : String) (before : Option SizeChange) (text : String) :
    Run (Option SizeChange × Nat) := do
  let cs := text.toList.dropWhile Number.isBlank
  let mark : Option SizeChange := match cs.head? with
    | some '<' => some .atMost
    | some '>' => some .atLeast
    | some '/' => some .roundDown
    | some '%' => some .roundUp
    | _ => none
  let rest := (if mark.isSome then cs.drop 1 else cs).dropWhile Number.isBlank
  let change := mark.or before
  let (change, digits) ← match rest with
    | '+' :: digits | '-' :: digits => do
      if change.isSome then misused name "multiple relative modifiers specified" 1
      pure (some (if rest.head? = some '+' then SizeChange.plus else .minus), digits)
    | digits => pure (change, digits)
  match sizeOf? (String.ofList digits) with
  | none => fail name ("Invalid number: " ++ (← cited (String.ofList rest))) 1
  | some n => do
    if n = 0 && (change = some .roundDown || change = some .roundUp) then
      fail name "division by zero" 1
    return (change, n)

/-- The new size of something that has a size. -/
def SizeChange.apply (change : SizeChange) (n old : Nat) : Nat :=
  match change with
  | .exactly => n
  | .plus => old + n
  | .minus => old - n
  | .atMost => min old n
  | .atLeast => max old n
  | .roundDown => old / n * n
  | .roundUp => (old + n - 1) / n * n

/-- Makes files longer or shorter. -/
def truncate : Body := fun name arguments => do
  let x : Syntax :=
    ⟨"co", "rs", [⟨"no-create", 'c', .no⟩, ⟨"io-blocks", 'o', .no⟩, ⟨"reference", 'r', .yes⟩,
      ⟨"size", 's', .yes⟩], true, 1⟩
  let (given, operands) ← options name x arguments
  let mut size : Option (SizeChange × Nat) := none
  let mut change : Option SizeChange := none
  for (letter, text) in given do
    if letter = 's' then
      let (next, n) ← readSize name change text
      change := next
      size := some (next.getD .exactly, n)
  let reference := valueOf given 'r'
  let byBlocks := has given 'o'
  if size.isNone && reference.isNone then
    misused name ("you must specify either " ++ (← cited "--size") ++ " or " ++
      (← cited "--reference")) 1
  if reference.isSome && size.any fun (change, _) => change = .exactly then
    misused name ("you must specify a relative " ++ (← cited "--size") ++ " with " ++
      (← cited "--reference")) 1
  if byBlocks && size.isNone then
    misused name ((← cited "--io-blocks") ++ " was specified but " ++ (← cited "--size") ++
      " was not") 1
  if operands.isEmpty then misused name "missing file operand" 1
  let base ← match reference with
    | none => pure none
    | some path =>
      match ← nodeAt path with
      | .ok id => pure (some ((← get).files.contentOf id).size)
      | .error e => fail name ("cannot stat " ++ quoted path ++ ": " ++ e.message) 1
  let status ← forEachOperand operands fun operand => do
    let path := Bytes.ofByteText operand
    if has given 'c' && (← nodeAt operand).toOption.isNone then return true
    match (← get).files.openOrCreate path with
    | .error e =>
      report name ("cannot open " ++ quoted operand ++ " for writing: " ++ e.message)
      return false
    | .ok (files, id) =>
      let content := files.contentOf id
      let old := base.getD content.size
      let new := match size with
        | some (change, n) => change.apply (if byBlocks then n * 4096 else n) old
        | none => old
      let missing := new - content.size
      changeFiles fun _ =>
        files.setContent id (content.extract 0 new ++ ⟨Array.replicate missing 0⟩)
      return true
  finish name status

/-- Makes a pipe with a name; gives the reason if it cannot. -/
def makePipe (operand : String) : Run (Option FileError) :=
  tryChange fun files => do
    let path := Bytes.ofByteText operand
    match ← files.locate false path with
    | .entry directory entry none =>
      if FileSystem.endsInSlash path then throw .missing
      let pipe : Node := .pipe ByteArray.empty 0 (files.newAttributes 0o666)
      return (files.create directory entry pipe).1
    | _ => throw .taken

/-- Complains about a text that is no mode for a pipe. -/
def checkPipeMode (name : String) (text : Option String) : Run Unit := do
  if let some text := text then
    match Mode.read? text with
    | none => fail name "invalid mode" 1
    | some changes =>
      let mode := (Mode.adjusted false (← get).files.mask changes 0o666).1
      if 0o777 < mode then fail name "mode must specify only file permission bits" 1

/-- Gives a new pipe the mode that a text stands for. -/
def givePipeMode (text : Option String) (operand : String) : Run Unit := do
  match text.bind Mode.read?, ← linkAt operand with
  | some changes, .ok id =>
    changeFiles fun files => setMode files id (Mode.adjusted false files.mask changes 0o666).1
  | _, _ => return

/-- Makes pipes with names. -/
def mkfifo : Body := fun name arguments => do
  let (given, operands) ← options name ⟨"Z", "m", [⟨"mode", 'm', .yes⟩], true, 1⟩ arguments
  if operands.isEmpty then missingOperand name 1
  checkPipeMode name (valueOf given 'm')
  let status ← forEachOperand operands fun operand => do
    match ← makePipe operand with
    | none => do
      givePipeMode (valueOf given 'm') operand
      return true
    | some e =>
      report name ("cannot create fifo " ++ quoted operand ++ ": " ++ e.message)
      return false
  finish name status

/-- Complains about arguments of `mknod`, with a remark. -/
def wrongNodeArguments (name message remark : String) : Run Unit := do
  report name message
  if remark ≠ "" then say (remark ++ "\n")
  referToHelp name 1

/-- Makes a pipe with a name; nobody may make a device. -/
def mknod : Body := fun name arguments => do
  let (given, operands) ← options name ⟨"Z", "m", [⟨"mode", 'm', .yes⟩], true, 1⟩ arguments
  checkPipeMode name (valueOf given 'm')
  let path := operands.headD ""
  let kind := (operands[1]?).getD ""
  let count := operands.length
  let wanted := if count < 2 || kind.startsWith "p" then 2 else 4
  if count = 0 then missingOperand name 1
  if count < wanted then
    wrongNodeArguments name ("missing operand after " ++ (← cited ((operands.getLast?).getD "")))
      (if count = 2 then "Special files require major and minor device numbers." else "")
  if wanted < count then
    wrongNodeArguments name ("extra operand " ++ (← cited ((operands[wanted]?).getD "")))
      (if wanted = 2 && count = 4 then "Fifos do not have major and minor device numbers." else "")
  let failed (message : String) : Run Nat := do
    report name (quotedIfNeeded true path ++ ": " ++ message)
    return 1
  match kind.toList.head? with
  | some 'p' =>
    match ← makePipe path with
    | none => do
      givePipeMode (valueOf given 'm') path
      finish name 0
    | some e => failed e.message
  | some 'b' | some 'c' | some 'u' => do
    for (word, i) in [("major", 2), ("minor", 3)] do
      let number := (operands[i]?).getD ""
      if (Number.ofText? none number).isNone then
        fail name ("invalid " ++ word ++ " device number " ++ (← cited number)) 1
    failed FileError.forbidden.message
  | _ => misused name ("invalid device type " ++ (← cited kind)) 1

/-- The characters of names that nothing has. -/
def nameCharacters : Array Char :=
  "abcdefghijklmnopqrstuvwxyzABCDEFGHIJKLMNOPQRSTUVWXYZ0123456789".toList.toArray

/-- So many characters that depend on a number. -/
def charactersOfSeed : Nat → Nat → List Char
  | 0, _ => []
  | count + 1, seed =>
    let seed := (seed * 6364136223846793005 + 1442695040888963407) % Nat.pow 2 64
    (nameCharacters[seed / Nat.pow 2 33 % nameCharacters.size]?.getD 'a') ::
      charactersOfSeed count seed

/-- A template with characters in place of the row of marks at its end, in front of a suffix. -/
structure NameTemplate where
  front : String
  marks : Nat
  suffix : String

/-- The path of a template for a number. -/
def NameTemplate.path (t : NameTemplate) (seed : Nat) : String :=
  t.front ++ String.ofList (charactersOfSeed t.marks seed) ++ t.suffix

/-- The template that a text is, with a suffix that was given apart. -/
def readTemplate (name text : String) (suffix : Option String) : Run NameTemplate := do
  let cs := text.toList
  let behind := (cs.reverse.takeWhile (· ≠ 'X')).reverse
  let own ← match suffix with
    | some suffix =>
      if !behind.isEmpty || cs.isEmpty then
        fail name ("with --suffix, template " ++ (← cited text) ++ " must end in X") 1
      else pure suffix
    | none => pure (String.ofList (if behind.length = cs.length then [] else behind))
  let front := if suffix.isSome then cs else cs.take (cs.length - own.length)
  let marks := (front.reverse.takeWhile (· = 'X')).length
  if own.contains '/' then
    fail name ("invalid suffix " ++ (← cited own) ++ ", contains directory separator") 1
  if marks < 3 then fail name ("too few X's in template " ++ (← cited text)) 1
  return ⟨String.ofList (front.take (front.length - marks)), marks, own⟩

/-- Makes a file or a directory under a new name. -/
def mktemp : Body := fun name arguments => do
  let x : Syntax :=
    ⟨"dqtuV", "p", [⟨"directory", 'd', .no⟩, ⟨"dry-run", 'u', .no⟩, ⟨"quiet", 'q', .no⟩,
      ⟨"suffix", 'S', .yes⟩, ⟨"tmpdir", 'p', .maybe⟩], true, 1⟩
  let (given, operands) ← options name x arguments
  if 1 < operands.length then misused name "too many templates" 1
  let template := operands.headD "tmp.XXXXXXXXXX"
  let usual := ((← valueOf? "TMPDIR").filter (· ≠ "")).getD "/tmp"
  let directory ←
    if has given 't' then do
      if template.contains '/' then
        fail name ("invalid template, " ++ (← cited template) ++
          ", contains directory separator") 1
      let set := ((← valueOf? "TMPDIR").filter (· ≠ "")).or (valueOf given 'p')
      pure (some (set.getD "/tmp"))
    else if has given 'p' || operands.isEmpty then do
      if template.startsWith "/" then
        fail name ("invalid template, " ++ (← cited template) ++
          "; with --tmpdir, it may not be absolute") 1
      pure (some (((valueOf given 'p').filter (· ≠ "")).getD usual))
    else pure none
  let t ← readTemplate name template (valueOf given 'S')
  let t := match directory with
    | some directory => { t with front := pathInto directory t.front }
    | none => t
  let s ← get
  let path := t.path (s.files.nodes.size * 1000003 + s.number * 7919 + s.opened.size)
  let isDirectory := has given 'd'
  let failed ←
    if has given 'u' then pure none
    else tryChange fun files => do
      let place := Bytes.ofByteText path
      let files ← if isDirectory then files.makeDirectory place
        else (files.openOrCreate place).map (·.1)
      let id ← files.find place
      return setMode files id (if isDirectory then 0o700 else 0o600)
  match failed with
  | some e =>
    let written := t.front ++ String.ofList (List.replicate t.marks 'X') ++ t.suffix
    if !has given 'q' then
      report name ("failed to create " ++ (if isDirectory then "directory" else "file") ++
        " via template " ++ (← cited written) ++ ": " ++ e.message)
    return 1
  | none =>
    print (path ++ "\n")
    finish name 0

end CountedStrings.Shell.Utility
