import CountedStrings.Surroundings.Shell.Utility.Path

/-!
# Changes of modes

`chmod` changes the modes of files, and of all that lies in directories if asked to.  What it
changes without naming anybody, the mask keeps it from.
-/

namespace CountedStrings.Shell.Utility

/-- The options of `chmod`. -/
def chmodSyntax : Syntax where
  flags := "Rcfv"
  valued := ""
  long := [⟨"changes", 'c', .no⟩, ⟨"quiet", 'f', .no⟩, ⟨"silent", 'f', .no⟩,
    ⟨"verbose", 'v', .no⟩, ⟨"recursive", 'R', .no⟩, ⟨"reference", 'Q', .yes⟩,
    ⟨"preserve-root", 'p', .no⟩, ⟨"no-preserve-root", 'P', .no⟩]
  permutes := true
  status := 1

/-- Whether an argument that looks like options is a mode. -/
def looksLikeMode (argument : String) : Bool :=
  match argument.toList with
  | '-' :: c :: _ =>
    ['r', 'w', 'x', 'X', 's', 't', 'u', 'g', 'o', 'a', ',', '+', '='].contains c || c.isDigit
  | _ => false

/-- A mode as messages show it. -/
def shownMode (mode : Nat) : String :=
  Mode.octal 4 mode ++ " (" ++ Mode.letters mode ++ ")"

/-- What `chmod` says of what it did. -/
inductive ModeTalk where
  | little
  | changes
  | everything
  deriving DecidableEq

/-- How `chmod` changes modes. -/
structure ModeChanging where
  changes : List ModeChange
  talk : ModeTalk
  quiet : Bool
  deep : Bool
  /-- Whether the mode looked like options. -/
  dashed : Bool

/-- Says what was done with a mode. -/
def ModeChanging.tell (x : ModeChanging) (path : String) (old new : Nat) : Run Unit := do
  if x.talk = .everything || (x.talk = .changes && old ≠ new) then
    print ("mode of " ++ quoted path ++ (if old = new then " retained as " ++ shownMode old
      else " changed from " ++ shownMode old ++ " to " ++ shownMode new) ++ "\n")

/-- Complains if the mask kept a change from being made. -/
def ModeChanging.surprise (x : ModeChanging) (name path : String) (isDirectory : Bool)
    (old new : Nat) : Run Bool := do
  let naive := (Mode.adjusted isDirectory 0 x.changes old).1
  if x.dashed && Mode.without new naive ≠ 0 then
    report name (quotedIfNeeded true path ++ ": new permissions are " ++ Mode.letters new ++
      ", not " ++ Mode.letters naive)
    return false
  else return true

/-- Changes the mode of a node, and of what lies in it, down to a depth. -/
def ModeChanging.change (x : ModeChanging) (name : String) : Nat → String → Nat → Run Bool
  | 0, _, _ => return true
  | depth + 1, path, id => do
    let files := (← get).files
    let isDirectory := files.isDirectory id
    let old := modeOf files id
    let new := (Mode.adjusted isDirectory files.mask x.changes old).1
    changeFiles fun files => setMode files id new
    x.tell path old new
    let mut fine ← x.surprise name path isDirectory old new
    if x.deep && isDirectory then
      for (entry, child) in (files.entriesOf id).entries do
        let isLink := match files.node? child with
          | some (.link _) => true
          | _ => false
        if !isLink then
          if !(← x.change name depth (pathInto path (Bytes.toByteText entry)) child) then
            fine := false
    return fine

/-- Whether an operand is a link that leads nowhere. -/
def isDangling (operand : String) : Run Bool := do
  return (← nodeAt operand).toOption.isNone && (← linkAt operand).toOption.isSome

/-- Changes the modes of files. -/
def chmod : Body := fun name arguments => do
  let stops := arguments.findIdx? (· = "--")
  let place := (arguments.findIdx? looksLikeMode).filter fun i => stops.all (i < ·)
  let dashed := place.bind fun i => arguments[i]?
  let others := match place with
    | some i => arguments.eraseIdx i
    | none => arguments
  let (given, operands) ← options name chmodSyntax others
  let reference := valueOf given 'Q'
  let (mode, operands) := match reference, dashed, operands with
    | some _, none, operands => ("", operands)
    | _, some mode, operands => (mode, operands)
    | none, none, mode :: rest => (mode, rest)
    | none, none, [] => ("", [])
  if operands.isEmpty then
    if reference.isSome || dashed.isSome || mode = "" then missingOperand name 1
    else misused name ("missing operand after " ++ (← cited mode)) 1
  let changes ← match reference with
    | some path =>
      match ← nodeAt path with
      | .ok id => do
        let wanted := modeOf (← get).files id
        pure [⟨'=', some Mode.allBits, .plain wanted, Mode.allBits⟩]
      | .error e => fail name ("failed to get attributes of " ++ quoted path ++ ": " ++ e.message) 1
    | none =>
      match Mode.read? mode with
      | some changes => pure changes
      | none => misused name ("invalid mode: " ++ (← cited mode)) 1
  let talk := match lastOf given ['v', 'c'] with
    | some 'v' => ModeTalk.everything
    | some _ => .changes
    | none => .little
  let x : ModeChanging := ⟨changes, talk, has given 'f', has given 'R', dashed.isSome⟩
  let status ← forEachOperand operands fun operand => do
    match ← nodeAt operand with
    | .ok id => x.change name (← get).files.nodes.size operand id
    | .error e =>
      if !x.quiet then
        if ← isDangling operand then
          report name ("cannot operate on dangling symlink " ++ quoted operand)
        else report name ("cannot access " ++ quoted operand ++ ": " ++ e.message)
      if x.talk = .everything then print (quoted operand ++ " could not be accessed\n")
      return false
  finish name status

end CountedStrings.Shell.Utility
