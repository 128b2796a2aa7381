import CountedStrings.Surroundings.Shell.Utility.Ownership
import CountedStrings.Surroundings.Shell.Utility.Transfer

/-!
# Installing

`install` copies files to where they are used from: a file in the way is removed first, and the copy
has a mode that does not depend on the file.  It makes directories too.
-/

namespace CountedStrings.Shell.Utility

/-- The options of `install`. -/
def installSyntax : Syntax where
  flags := "bcCdDpsTvZ"
  valued := "gmotS"
  long := [⟨"compare", 'C', .no⟩, ⟨"directory", 'd', .no⟩, ⟨"group", 'g', .yes⟩, ⟨"mode", 'm', .yes⟩,
    ⟨"no-target-directory", 'T', .no⟩, ⟨"owner", 'o', .yes⟩, ⟨"preserve-timestamps", 'p', .no⟩,
    ⟨"strip", 's', .no⟩, ⟨"target-directory", 't', .yes⟩, ⟨"verbose", 'v', .no⟩] ++ backupOptions
  permutes := true
  status := 1

/-- The mode that changes make of no mode at all. -/
def installMode (changes : Option (List ModeChange)) (isDirectory : Bool) : Nat :=
  match changes with
  | none => 0o755
  | some changes => (Mode.adjusted isDirectory 0 changes 0).1

/-- Makes the directories of some paths that are not there. -/
def installDirectories (name : String) (given : List Given) : List String → Run Bool
  | [] => return true
  | path :: rest => do
    if ← isDirectoryAt path then installDirectories name given rest
    else
      match ← tryChange fun files => files.makeDirectory (Bytes.ofByteText path) with
      | some e => cannotMake name path e
      | none =>
        if has given 'v' then print (name ++ ": creating directory " ++ quoted path ++ "\n")
        changeFiles fun files =>
          match files.find (Bytes.ofByteText path) with
          | .ok id => setMode files id 0o755
          | .error _ => files
        installDirectories name given rest

/-- Makes a directory with its mode, and those on the way. -/
def installDirectory (name : String) (given : List Given) (owner : Option Nat × Option Nat)
    (mode : Nat) (path : String) : Run Bool := do
  let isMade ← installDirectories name given (beginnings path)
  if isMade then
    if let .ok id := ← nodeAt path then
      changeFiles fun files => setMode (setOwner files id owner.1 owner.2) id mode
  return isMade

/-- Whether a file is there already with the content and the mode that it would get. -/
def isInstalled (source target : String) (mode : Nat) : Run Bool := do
  match ← nodeAt source, ← linkAt target with
  | .ok old, .ok new =>
    let files := (← get).files
    let isFile := match files.node? new with
      | some (.file _ _) => true
      | _ => false
    return isFile && (files.contentOf old).toList = (files.contentOf new).toList &&
      modeOf files new = mode
  | _, _ => return false

/-- Copies a file to where it is used from. -/
def installFile (x : CopyWay) (given : List Given) (owner : Option Nat × Option Nat) (mode : Nat)
    (source target : String) : Run Bool := do
  match ← nodeAt source with
  | .error e => complained x.name ("cannot stat " ++ quoted source ++ ": " ++ e.message)
  | .ok id =>
    if (← get).files.isDirectory id then
      complained x.name ("omitting directory " ++ quoted source)
    else if has given 'C' && (← isInstalled source target mode) then return true
    else
      let (fine, _) ← x.copy ⟨[], []⟩ 2 true ⟨source, target, none⟩ source target
      if fine then
        if let .ok copy := ← nodeAt target then
          changeFiles fun files => setMode (setOwner files copy owner.1 owner.2) copy mode
      return fine

/-- The user and the group that files are installed for. -/
def readInstallOwner (name : String) (given : List Given) : Run (Option Nat × Option Nat) := do
  let number (letter : Char) (names : List (String × Nat)) (what : String) : Run (Option Nat) := do
    match valueOf given letter with
    | none => return none
    | some text =>
      match ownerNumber? names text with
      | some n => return some n
      | none => fail name ("invalid " ++ what ++ " " ++ quoted text) 1
  let user ← number 'o' userNames "user"
  let group ← number 'g' groupNames "group"
  return (user, group)

/-- Installs files and directories. -/
def install : Body := fun name arguments => do
  let (given, operands) ← options name installSyntax arguments
  let backup ← backupKind name given
  let intoDirectory := valueOf given 't'
  if has given 'd' && has given 's' then
    fail name "the strip option may not be used when installing a directory" 1
  if has given 'd' && intoDirectory.isSome then
    fail name "target directory not allowed when installing a directory" 1
  let changes ← readMode name given
  let owner ← readInstallOwner name given
  if has given 'd' then
    if operands.isEmpty then misused name "missing file operand" 1
    let mode := installMode changes true
    finish name (← forEachOperand operands (installDirectory name given owner mode))
  else
    if let some directory := intoDirectory then
      if has given 'D' then discard (installDirectories name given (beginnings directory))
      match ← nodeAt directory with
      | .ok _ => pure ()
      | .error e => fail name ("failed to access " ++ quoted directory ++ ": " ++ e.message) 1
    let destination ← destinationOf name given true operands
    let x : CopyWay :=
      ⟨name, .content, false, .always, .always, false, true, false, has given 'v', false, has given 'p',
        false, backup, (valueOf given 'S').getD "~"⟩
    let mut status := 0
    for (source, target) in destination.pairs do
      let isReady ←
        if has given 'D' then installDirectories name given (beginnings target).dropLast
        else pure true
      let fine ←
        if isReady then installFile x given owner (installMode changes false) source target
        else pure false
      if !fine then status := 1
    finish name status

end CountedStrings.Shell.Utility
