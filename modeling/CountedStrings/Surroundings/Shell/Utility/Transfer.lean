import CountedStrings.Surroundings.Shell.Utility.Creation

/-!
# Utilities that copy, move and remove

## 1.  Copying

`cp` copies files, and directories with all that is in them.  What a link leads to is copied in place
of the link, unless whole directories are copied.

## 2.  Moving

`mv` gives another name to files, in place of what had that name.

## 3.  Removing

`rm` removes names, and directories with all that is in them.
-/

namespace CountedStrings.Shell.Utility

/-! ## 1.  Copying -/

/-- When a link is followed. -/
inductive LinkFollowing where
  | always
  | never
  | forOperands
  deriving DecidableEq

/-- What happens to a file that is in the way. -/
inductive Replacing where
  | always
  /-- It stays, and that is a failure. -/
  | never
  /-- It stays, and nothing is said about that. -/
  | skips
  | asks
  deriving DecidableEq

/-- What a copy is made of. -/
inductive CopyKind where
  | content
  | attributes
  | hardLink
  | symbolicLink
  deriving DecidableEq

/-- How `cp` copies. -/
structure CopyWay where
  name : String
  kind : CopyKind
  deep : Bool
  follows : LinkFollowing
  replacing : Replacing
  /-- Whether only what is older is replaced. -/
  onlyOlder : Bool
  /-- Whether what is in the way is removed first. -/
  removes : Bool
  force : Bool
  tells : Bool
  keepsMode : Bool
  keepsTime : Bool
  keepsOwner : Bool
  backup : Option String
  suffix : String

/-- The source and the target that a copy began with, and the first directory that it made. -/
structure CopyStart where
  source : String
  target : String
  made : Option Nat

/-- What is known of several copies: the nodes that were read and those that were made. -/
structure CopyRecord where
  sources : List Nat
  targets : List Nat

/-- The reason for which a path leads nowhere, unless nothing stands there. -/
def otherError? : Except FileError Nat → Option FileError
  | .error .missing | .ok _ => none
  | .error e => some e

/-- Asks whether a file is to be replaced. -/
def CopyWay.asksToReplace (x : CopyWay) (target : String) : Run Bool :=
  asks (x.name ++ ": overwrite " ++ quoted target ++ "? ")

/-- Whether what is in the way is left as it is, and whether that is as it should be. -/
def CopyWay.leaves (x : CopyWay) (source old : Nat) (target : String) : Run (Option Bool) := do
  let files := (← get).files
  if x.onlyOlder && !files.isDirectory source && modifiedOf files source ≤ modifiedOf files old then
    return some true
  match x.replacing with
  | .always => return none
  | .never => return some false
  | .skips => return some true
  | .asks => return if ← x.asksToReplace target then none else some false

/-- What is said of the name under which something in the way is kept. -/
def backupRemark (kept : Option String) : String :=
  match kept with
  | some path => " (backup: " ++ quoted path ++ ")"
  | none => ""

/-- Says that something is copied, and where what was in the way is kept. -/
def CopyWay.tell (x : CopyWay) (source target : String) (kept : Option String) : Run Unit := do
  if x.tells then
    print (quoted source ++ " -> " ++ quoted target ++ backupRemark kept ++ "\n")

/-- Complains in the name of the utility; gives that it failed. -/
def complained (name message : String) : Run Bool := do
  report name message
  return false

/-- Gives a copy the attributes that it keeps. -/
def CopyWay.keepAttributes (x : CopyWay) (source copy : Nat) : Run Unit :=
  changeFiles fun files =>
    let (user, group) := ownerOf files source
    let files := if x.keepsOwner then setOwner files copy user group else files
    let files := if x.keepsMode then setMode files copy (modeOf files source) else files
    if x.keepsTime then setModified files copy (modifiedOf files source) else files

/-- Copies the content of a file. -/
def CopyWay.copyContent (x : CopyWay) (source target : String) (id : Nat) (isNew : Bool) :
    Run Bool := do
  let path := Bytes.ofByteText target
  let files := (← get).files
  if isNew && linkLeadsNowhere files path then
    complained x.name ("not writing through dangling symlink " ++ quoted target)
  else
    match ← readContent source id with
    | .error e => complained x.name ("error reading " ++ quoted source ++ ": " ++ e.message)
    | .ok bytes =>
      match (← get).files.openOrCreate path with
      | .error e =>
        let e := if e = .isDirectory && FileSystem.endsInSlash path then .notDirectory else e
        complained x.name ("cannot create regular file " ++ quoted target ++ ": " ++ e.message)
      | .ok (files, copy) =>
        changeFiles fun _ => files
        if x.kind = .content then writeContent target bytes
        if isNew then
          changeFiles fun files =>
            setMode files copy (Mode.without (modeOf files id &&& 0o777) files.mask)
        x.keepAttributes id copy
        return true
where
  /-- Whether a path is a link to where nothing is. -/
  linkLeadsNowhere (files : FileSystem) (path : Bytes) : Bool :=
    (files.findLink path).toOption.isSome && (files.find path).toOption.isNone
  /-- The bytes of what is copied. -/
  readContent (source : String) (id : Nat) : Run (Except TransferError ByteArray) := do
    match (← get).files.node? id with
    | some (.file content _) => return .ok content
    | _ =>
      match ← contentOf source with
      | .ok bytes => return .ok bytes
      | .error (.reading e) => return .error e
      | .error (.opening _) => return .ok ByteArray.empty
  /-- Puts bytes in place of those of a file. -/
  writeContent (target : String) (bytes : ByteArray) : Run Unit := do
    match ← openForWriting target true false false with
    | .error _ => return
    | .ok number =>
      setDescriptor scratchDescriptor number
      discard (write scratchDescriptor bytes)
      closeDescriptor scratchDescriptor

/-- Makes a link in place of a copy. -/
def CopyWay.copyAsLink (x : CopyWay) (source target : String) (id : Nat) : Run Bool := do
  let symbolic := x.kind = .symbolicLink
  if symbolic && !source.startsWith "/" && parentPath target ≠ "." then
    complained x.name (quotedIfNeeded true target ++
      ": can make relative symbolic links only in current directory")
  else
    let place := Bytes.ofByteText target
    let failed ← tryChange fun files =>
      if symbolic then files.makeLink place (Bytes.ofByteText source)
      else do
        match ← files.locate false place with
        | .entry directory entry none => return files.name directory entry id
        | _ => throw .taken
    match failed with
    | none => return true
    | some e =>
      let kind := if symbolic then "symbolic" else "hard"
      complained x.name ("cannot create " ++ kind ++ " link " ++ quoted target ++ " to " ++
        quoted source ++ ": " ++ e.message)

/-- Copies a link, a device or a pipe as what it is. -/
def CopyWay.copyNode (x : CopyWay) (target : String) (node : Node) : Run Bool := do
  let failed ← tryChange fun files => do
    match ← files.locate false (Bytes.ofByteText target) with
    | .entry directory entry none => return (files.create directory entry node).1
    | _ => throw .taken
  match failed, node with
  | none, _ => return true
  | some e, .link _ =>
    complained x.name ("cannot create symbolic link " ++ quoted target ++ ": " ++ e.message)
  | some e, _ =>
    complained x.name ("cannot create special file " ++ quoted target ++ ": " ++ e.message)

/-- Whether the source is not to be copied over the old target as it stands; complains if so. -/
def CopyWay.refuses (x : CopyWay) (r : CopyRecord) (isOperand : Bool) (source target : String)
    (fromDirectory toDirectory : Bool) (old : Nat) : Run Bool := do
  if fromDirectory && !toDirectory then
    report x.name ("cannot overwrite non-directory " ++ quoted target ++ " with directory " ++
      quoted source)
    return true
  else if isOperand && !toDirectory && r.targets.contains old then
    report x.name ("will not overwrite just-created " ++ quoted target ++ " with " ++ quoted source)
    return true
  else if !fromDirectory && toDirectory then
    report x.name ("cannot overwrite directory " ++ quoted target ++ " with non-directory")
    return true
  else return false

/-- Clears the way for a copy: what stood there is kept under another name or removed.  Tells whether
nothing is left, and the other name. -/
def CopyWay.clear (x : CopyWay) (isPlain : Bool) (target : String) :
    Run (Bool × Option String) := do
  match x.backup with
  | some kind => return (true, some (← keepBackup kind x.suffix target))
  | none =>
    let linking := x.kind = .hardLink || x.kind = .symbolicLink
    if x.removes || (linking && (x.force || x.replacing = .asks)) || (!isPlain && !linking) then
      discard (tryChange fun files => files.unlink (Bytes.ofByteText target))
      if x.removes && x.tells then print ("removed " ++ quoted target ++ "\n")
      return (true, none)
    else return (false, none)

/-- Copies what is at a path to another one, down to a depth; gives the directory that was made
first. -/
def CopyWay.copy (x : CopyWay) (r : CopyRecord) :
    Nat → Bool → CopyStart → String → String → Run (Bool × CopyStart)
  | 0, _, start, _, _ => return (true, start)
  | depth + 1, isOperand, start, source, target => do
    let follows := x.follows = .always || (x.follows = .forOperands && isOperand)
    let found ← if follows then nodeAt source else linkAt source
    match found with
    | .error e => do
      return (← complained x.name ("cannot stat " ++ quoted source ++ ": " ++ e.message), start)
    | .ok id =>
      let files := (← get).files
      let isDirectory := files.isDirectory id
      if isDirectory && !x.deep then
        return (← complained x.name ("-r not specified; omitting directory " ++ quoted source), start)
      if isDirectory && start.made = some id then
        return (← complained x.name ("cannot copy a directory, " ++ quoted start.source ++
          ", into itself, " ++ quoted start.target), start)
      let isLink := match files.node? id with
        | some (.link _) => true
        | _ => false
      let isPlain := match files.node? id with
        | some (.file _ _) => true
        | some (.device _) | some (.pipe _ _ _) => !x.deep
        | _ => false
      let old ← if isLink || x.removes || x.kind = .hardLink || x.kind = .symbolicLink ||
        x.backup.isSome then linkAt target else nodeAt target
      if let some e := otherError? old then
        let e := if e = .tooManyLinks then e else .notDirectory
        return (← complained x.name ("cannot stat " ++ quoted target ++ ": " ++ e.message), start)
      let mut isNew := true
      let mut kept := none
      if let .ok oldId := old then
        isNew := false
        if oldId = id && x.kind = .hardLink then return (true, start)
        if oldId = id && !(x.removes && (← linkAt target).toOption ≠ some id) then
          return (← complained x.name
            (quoted source ++ " and " ++ quoted target ++ " are the same file"), start)
        let toDirectory := files.isDirectory oldId
        if !isDirectory then
          if let some isRight ← x.leaves id oldId target then return (isRight, start)
        if ← x.refuses r isOperand source target isDirectory toDirectory oldId then
          return (false, start)
        if !isDirectory then
          let (isClear, name) ← x.clear isPlain target
          isNew := isClear
          kept := name
      if isDirectory then
        let copy ←
          match old with
          | .ok copy => pure (some copy)
          | .error _ => do
            match ← tryChange fun files => files.makeDirectory (Bytes.ofByteText target) with
            | some e =>
              discard (complained x.name ("cannot create directory " ++ quoted target ++ ": " ++
                e.message))
              pure none
            | none =>
              x.tell source target none
              pure (← nodeAt target).toOption
        match copy with
        | none => return (false, start)
        | some copy =>
          let start := if start.made.isNone && isNew then { start with made := some copy } else start
          let entries := ((← get).files.entriesOf id).keys.map Bytes.toByteText
          let (fine, start) ← entries.foldlM (fun (state : Bool × CopyStart) entry => do
            let (done, start) ← x.copy r depth false state.2 (pathInto source entry)
              (pathInto target entry)
            return (state.1 && done, start)) (true, start)
          if isNew then
            changeFiles fun files =>
              setMode files copy (Mode.without (modeOf files id &&& 0o777) files.mask)
          x.keepAttributes id copy
          return (fine, start)
      else
        x.tell source target kept
        let done ←
          if x.kind = .hardLink || x.kind = .symbolicLink then x.copyAsLink source target id
          else if isPlain then x.copyContent source target id isNew
          else
            match files.node? id with
            | some node => x.copyNode target node
            | none => pure true
        return (done, start)

/-- The options of `cp`. -/
def cpSyntax : Syntax where
  flags := "abdfHilLnprPRsTuvxZ"
  valued := "St"
  long := [⟨"archive", 'a', .no⟩, ⟨"attributes-only", 'A', .no⟩, ⟨"copy-contents", 'c', .no⟩,
    ⟨"debug", 'D', .no⟩, ⟨"dereference", 'L', .no⟩, ⟨"force", 'f', .no⟩, ⟨"interactive", 'i', .no⟩,
    ⟨"link", 'l', .no⟩, ⟨"no-clobber", 'n', .no⟩, ⟨"no-dereference", 'P', .no⟩,
    ⟨"no-preserve", 'N', .yes⟩, ⟨"no-target-directory", 'T', .no⟩, ⟨"one-file-system", 'x', .no⟩,
    ⟨"parents", 'q', .no⟩, ⟨"preserve", 'k', .maybe⟩, ⟨"recursive", 'R', .no⟩,
    ⟨"remove-destination", 'm', .no⟩, ⟨"sparse", 'X', .yes⟩, ⟨"reflink", 'F', .maybe⟩,
    ⟨"strip-trailing-slashes", 'z', .no⟩, ⟨"symbolic-link", 's', .no⟩,
    ⟨"target-directory", 't', .yes⟩, ⟨"update", 'u', .maybe⟩, ⟨"verbose", 'v', .no⟩] ++ backupOptions
  permutes := true
  status := 1

/-- What options say about a file in the way, and whether only an older one is replaced.  For what moves
files, `-n` makes a failure of a file in the way, and `-f` takes back what was said before; for what copies
them, `-n` is advised against. -/
def replacingOf (name : String) (moves : Bool) (given : List Given) : Run (Replacing × Bool) := do
  let mut replacing := Replacing.always
  let mut onlyOlder := false
  for (letter, word) in given do
    match letter with
    | 'n' =>
      replacing := if moves then .never else .skips
      if !moves then
        report name ("warning: behavior of -n is non-portable and may change in future; " ++
          "use --update=none instead")
    | 'i' => replacing := .asks
    | 'f' => if moves then replacing := .always
    | 'u' =>
      if word = "" then onlyOlder := true
      else if replacing ≠ .never then
        let word ← wordAmong name "update" word [["all"], ["none"], ["older"]] 1
        replacing := if word = "none" then .skips else .always
        onlyOlder := word = "older"
    | _ => pure ()
  if replacing = .never then
    if ['b', 'B', 'S'].any (has given) then
      misused name "options --backup and --no-clobber are mutually exclusive" 1
    return (replacing, false)
  return (replacing, onlyOlder)

/-- Whether an option keeps something, as the last word about it says. -/
def keeps (given : List Given) (what : String) : Bool :=
  let step (kept : Bool) (x : Given) : Bool :=
    match x with
    | ('p', _) | ('a', _) => true
    | ('k', words) =>
      kept || words = "" || (words.splitOn ",").any fun word => word = what || word = "all"
    | ('N', words) => kept && !(words.splitOn ",").any fun word => word = what || word = "all"
    | _ => kept
  given.foldl step false

/-- A path without the slashes at its end, if an option asks for that. -/
def strippedOperand (given : List Given) (path : String) : String :=
  if has given 'z' then
    let cs := withoutSlashes path.toList
    if cs.isEmpty then path else String.ofList cs
  else path

/-- Copies files. -/
def cp : Body := fun name arguments => do
  let (given, operands) ← options name cpSyntax arguments
  for (option, words) in [('X', [["never"], ["auto"], ["always"]]),
      ('F', [["auto"], ["always"], ["never"]])] do
    if let some word := valueOf given option then
      if word ≠ "" then
        discard (wordAmong name (if option = 'X' then "sparse" else "reflink") word words 1)
  let backup ← backupKind name given
  let (replacing, onlyOlder) ← replacingOf name false given
  if has given 'l' && has given 's' then misused name "cannot make both hard and symbolic links" 1
  let deep := ['a', 'r', 'R'].any (has given)
  let kind : CopyKind :=
    if has given 'l' then .hardLink else if has given 's' then .symbolicLink
    else if has given 'A' then .attributes else .content
  let follows : LinkFollowing := match lastOf given ['L', 'P', 'd', 'a', 'H'] with
    | some 'L' => .always
    | some 'H' => .forOperands
    | some _ => .never
    | none => if deep && kind ≠ .hardLink then .never else .always
  let x : CopyWay :=
    ⟨name, kind, deep, follows, replacing, onlyOlder, has given 'm', has given 'f', has given 'v',
      keeps given "mode", keeps given "timestamps", keeps given "ownership",
      backup, (valueOf given 'S').getD "~"⟩
  let written ← destinationOf name given true operands
  let destination : Destination := match written with
    | .into directory sources => .into directory (sources.map (strippedOperand given))
    | .pair source target => .pair source target
  let pairs ←
    if has given 'q' then
      match destination with
      | .pair _ _ => misused name "with --parents, the destination must be a directory" 1
      | .into directory sources => do
        for source in sources do
          for part in (beginnings source).dropLast do
            discard (tryChange fun files =>
              files.makeDirectory (Bytes.ofByteText (pathInto directory part)))
        pure (sources.map fun source => (source, pathInto directory source))
    else pure destination.pairs
  let several := 1 < pairs.length
  let mut r : CopyRecord := ⟨[], []⟩
  let mut status := 0
  for (source, target) in pairs do
    let id := (← nodeAt source).toOption
    let files := (← get).files
    let isDirectory := id.any files.isDirectory
    if several && backup.isNone && id.any r.sources.contains && (deep || !isDirectory) then
      report name ("warning: source " ++ (if isDirectory then "directory " else "file ") ++
        quoted source ++ " specified more than once")
    else
      let depth := (← get).files.nodes.size + 2
      let (fine, _) ← x.copy r depth true ⟨source, target, none⟩ source target
      if !fine then status := 1
      if several then
        r := ⟨id.toList ++ r.sources, (← nodeAt target).toOption.toList ++ r.targets⟩
  finish name status

/-! ## 2.  Moving -/

/-- The options of `mv`. -/
def mvSyntax : Syntax where
  flags := "bfinTuvZ"
  valued := "St"
  long := [⟨"context", 'Z', .no⟩, ⟨"debug", 'D', .no⟩, ⟨"force", 'f', .no⟩,
    ⟨"interactive", 'i', .no⟩, ⟨"no-clobber", 'n', .no⟩, ⟨"no-copy", 'C', .no⟩,
    ⟨"no-target-directory", 'T', .no⟩, ⟨"strip-trailing-slashes", 'z', .no⟩,
    ⟨"target-directory", 't', .yes⟩, ⟨"update", 'u', .maybe⟩, ⟨"verbose", 'v', .no⟩] ++ backupOptions
  permutes := true
  status := 1

/-- Complains about a name that cannot be changed. -/
def cannotMove (name source target : String) (e : FileError) : Run Bool :=
  match e with
  | .invalid =>
    complained name ("cannot move " ++ quoted source ++ " to a subdirectory of itself, " ++
      quoted target)
  | .notEmpty => complained name ("cannot overwrite " ++ quoted target ++ ": " ++ e.message)
  | e =>
    complained name ("cannot move " ++ quoted source ++ " to " ++ quoted target ++ ": " ++ e.message)

/-- Moves one file. -/
def CopyWay.move (x : CopyWay) (r : CopyRecord) (source target : String) : Run Bool := do
  let name := x.name
  match ← linkAt source with
  | .error e => complained name ("cannot stat " ++ quoted source ++ ": " ++ e.message)
  | .ok id =>
    let isDirectory := (← get).files.isDirectory id
    if target = "" then
      if isDirectory then
        return ← complained name ("cannot move " ++ quoted source ++ " to '': Device or resource busy")
      else return ← complained name "cannot overwrite directory '' with non-directory"
    let old ← linkAt target
    if target.endsWith "/" && old.toOption.isNone && !isDirectory && (otherError? old).isNone then
      return ← cannotMove name source target .notDirectory
    if let some e := otherError? old then
      return ← complained name ("cannot stat " ++ quoted target ++ ": " ++ e.message)
    let mut kept := none
    if let .ok oldId := old then
      let throughLink := (← nodeAt source).toOption = some oldId
      if oldId = id || throughLink then
        return ← complained name (quoted source ++ " and " ++ quoted target ++ " are the same file")
      if let some isRight ← x.leaves id oldId target then
        if x.replacing = .never then report name ("not replacing " ++ quoted target)
        return isRight
      let toDirectory := (← get).files.isDirectory oldId
      if ← x.refuses r true source target isDirectory toDirectory oldId then return false
      if let some kind := x.backup then
        kept := some (← keepBackup kind x.suffix target)
    match ← tryChange fun files =>
        files.rename (Bytes.ofByteText source) (Bytes.ofByteText target) with
    | some e => cannotMove name source target e
    | none =>
      if x.tells then
        print ("renamed " ++ quoted source ++ " -> " ++ quoted target ++ backupRemark kept ++ "\n")
      return true

/-- Moves files. -/
def mv : Body := fun name arguments => do
  let (given, operands) ← options name mvSyntax arguments
  let backup ← backupKind name given
  let (replacing, onlyOlder) ← replacingOf name true given
  let x : CopyWay :=
    ⟨name, .content, true, .never, replacing, onlyOlder, false, has given 'f', has given 'v', true, true,
      true, backup, (valueOf given 'S').getD "~"⟩
  let operands := match valueOf given 't', operands.reverse with
    | none, last :: sources => (sources.map (strippedOperand given)).reverse ++ [last]
    | _, _ => operands.map (strippedOperand given)
  let destination ← destinationOf name given true operands
  let pairs := destination.pairs
  let several := 1 < pairs.length
  let mut r : CopyRecord := ⟨[], []⟩
  let mut status := 0
  for (source, target) in pairs do
    if !(← x.move r source target) then status := 1
    else if several then
      r := { r with targets := (← linkAt target).toOption.toList ++ r.targets }
  finish name status

/-! ## 3.  Removing -/

/-- When `rm` asks. -/
inductive Asking where
  | never
  | once
  | always
  deriving DecidableEq

/-- How `rm` removes. -/
structure Removal where
  name : String
  deep : Bool
  /-- Whether empty directories are removed too. -/
  empty : Bool
  force : Bool
  asking : Asking
  tells : Bool

/-- What a node is called in a question. -/
def kindOf (files : FileSystem) (id : Nat) : String :=
  match files.node? id with
  | some (.file content _) => if content.isEmpty then "regular empty file" else "regular file"
  | some (.directory _ _ _) => "directory"
  | some (.link _) => "symbolic link"
  | some (.device _) => "character special file"
  | _ => "fifo"

/-- Asks before something is removed, if that is wanted. -/
def Removal.mayRemove (x : Removal) (verb kind path : String) : Run Bool := do
  if x.asking = .always then asks (x.name ++ ": " ++ verb ++ " " ++ kind ++ " " ++ quoted path ++ "? ")
  else return true

/-- Complains about something that cannot be removed. -/
def Removal.cannot (x : Removal) (path : String) (e : FileError) : Run Bool := do
  if x.force && (e = .missing || e = .notDirectory) then return true
  else complained x.name ("cannot remove " ++ quoted path ++ ": " ++ e.message)

/-- Removes a name. -/
def Removal.drop (x : Removal) (path : String) (isDirectory : Bool) : Run Bool := do
  match ← tryChange fun files => files.remove (Bytes.ofByteText path) with
  | some e => x.cannot path e
  | none =>
    if x.tells then
      print ("removed " ++ (if isDirectory then "directory " else "") ++ quoted path ++ "\n")
    return true

/-- Removes what is at a path, down to a depth. -/
def Removal.remove (x : Removal) : Nat → String → Run Bool
  | 0, _ => return true
  | depth + 1, path => do
    match ← linkAt path with
    | .error e => x.cannot path e
    | .ok id =>
      let files := (← get).files
      let entries := (files.entriesOf id).keys.map Bytes.toByteText
      if !files.isDirectory id then
        if ← x.mayRemove "remove" (kindOf files id) path then x.drop path false else return true
      else if !x.deep && !x.empty then x.cannot path .isDirectory
      else if !x.deep && !entries.isEmpty then x.cannot path .notEmpty
      else
        let isEmpty := entries.isEmpty
        if !isEmpty then
          if !(← x.mayRemove "descend into" "directory" path) then return true
        let fine ← entries.foldlM (fun (fine : Bool) entry => do
          let done ← x.remove depth (pathInto path entry)
          return fine && done) true
        let left := ((← get).files.entriesOf id).keys
        if !isEmpty && !left.isEmpty then return fine
        else if ← x.mayRemove "remove" "directory" path then
          let done ← x.drop path true
          return fine && done
        else return fine

/-- Removes what an operand stands for. -/
def Removal.operand (x : Removal) (guards : Bool) (path : String) : Run Bool := do
  let cs := withoutSlashes path.toList
  let last := lastName path
  if x.deep && !cs.isEmpty && (last = "." || last = "..") then
    complained x.name ("refusing to remove '.' or '..' directory: skipping " ++ quoted path)
  else if x.deep && guards && (← nodeAt path).toOption = some FileSystem.root then
    report x.name ("it is dangerous to operate recursively on " ++
      (if path = "/" then quoted "/" else quoted path ++ " (same as '/')"))
    complained x.name "use --no-preserve-root to override this failsafe"
  else
    let isLink := match ← nodeAt (String.ofList cs), ← linkAt (String.ofList cs) with
      | .ok a, .ok b => a ≠ b
      | _, _ => false
    if path.endsWith "/" && isLink then
      let e : FileError := if x.deep then .notDirectory else .isDirectory
      match ← nodeAt path with
      | .ok _ => complained x.name ("cannot remove " ++ quoted path ++ ": " ++ e.message)
      | .error e => x.cannot path e
    else x.remove ((← get).files.nodes.size + 2) path

/-- The options of `rm`. -/
def rmSyntax : Syntax where
  flags := "dfiIrRv"
  valued := ""
  long := [⟨"force", 'f', .no⟩, ⟨"interactive", 'W', .maybe⟩, ⟨"one-file-system", 'o', .no⟩,
    ⟨"no-preserve-root", 'N', .no⟩, ⟨"preserve-root", 'P', .maybe⟩, ⟨"recursive", 'r', .no⟩,
    ⟨"dir", 'd', .no⟩, ⟨"verbose", 'v', .no⟩]
  permutes := true
  status := 1

/-- When options ask `rm` to ask, and whether they say that nothing may go wrong. -/
def askingOf (name : String) (given : List Given) : Run (Asking × Bool) := do
  let mut asking := Asking.never
  let mut force := false
  for (c, text) in given do
    match c with
    | 'f' =>
      asking := .never
      force := true
    | 'i' =>
      asking := .always
      force := false
    | 'I' =>
      asking := .once
      force := false
    | 'W' =>
      let word ←
        if text = "" then pure "always"
        else
          wordAmong name "interactive" text [["never", "no", "none"], ["once"], ["always", "yes"]] 1
      asking := if word = "never" then .never else if word = "once" then .once else .always
      if asking ≠ .never then force := false
    | _ => pure ()
  return (asking, force)

/-- Removes files. -/
def rm : Body := fun name arguments => do
  let (given, operands) ← options name rmSyntax arguments
  let (asking, force) ← askingOf name given
  if operands.isEmpty then
    if force then return 0 else missingOperand name 1
  let deep := has given 'r' || has given 'R'
  let x : Removal := ⟨name, deep, has given 'd', force, asking, has given 'v'⟩
  if asking = .once && (deep || 3 < operands.length) then
    let count := operands.length
    let words := toString count ++ (if count = 1 then " argument" else " arguments")
    if !(← asks (name ++ ": remove " ++ words ++ (if deep then " recursively? " else "? "))) then
      return 0
  let status ← forEachOperand operands (x.operand (lastOf given ['N', 'P'] ≠ some 'N'))
  finish name status

end CountedStrings.Shell.Utility
