import CountedStrings.Surroundings.Shell.Pattern
import CountedStrings.Surroundings.Shell.Utility.Listing

/-!
# Room that files take

`du` adds up the room that files take, directory by directory.  A file that is met under a second name
takes no more room.  `df` tells how much room there is at all.
-/

namespace CountedStrings.Shell.Utility

/-- How `du` counts. -/
structure UsageWay where
  given : List Given
  /-- How deep directories are told. -/
  depth : Option Nat
  /-- The unit of sizes, and the letter behind them. -/
  unit : Nat
  letter : String

/-- What was counted: the sizes of what lies in a directory, and the nodes that were met. -/
structure Usage where
  size : Nat
  met : List Nat

/-- A size as it is shown. -/
def UsageWay.shown (x : UsageWay) (size : Nat) : String :=
  if has x.given 'i' then toString size
  else if has x.given 'h' then sizeWithUnit 1024 size
  else if has x.given 'I' then sizeWithUnit 1000 size
  else toString ((size + x.unit - 1) / max x.unit 1) ++ x.letter

/-- The room that a node takes itself. -/
def UsageWay.own (x : UsageWay) (files : FileSystem) (id : Nat) : Nat :=
  if has x.given 'i' then 1
  else if has x.given 'b' || has x.given 'A' then
    if files.isDirectory id then 0 else sizeOfNode files id
  else pieces files id * 4096

/-- Tells a size. -/
def UsageWay.tell (x : UsageWay) (size : Nat) (path : String) : Run Unit :=
  print (x.shown size ++ "\t" ++ path ++ (if has x.given '0' then "\x00" else "\n"))

/-- Whether a name is left out. -/
def UsageWay.leavesOut (x : UsageWay) (name : String) : Bool :=
  x.given.any fun (letter, pattern) => letter = 'e' &&
    Pattern.matches? (pattern.toList.map fun c => (c, false)) name.toList

/-- Counts the room of a node and of all that lies in it, down to a depth; `level` says how deep it
lies. -/
def UsageWay.count (x : UsageWay) (level : Nat) :
    Nat → List Nat → String → Nat → Run Usage
  | 0, met, _, _ => return ⟨0, met⟩
  | budget + 1, met, path, id => do
    let files := (← get).files
    let id := if has x.given 'L' then
        match files.node? id with
        | some (.link _) => (files.find (Bytes.ofByteText path)).toOption.getD id
        | _ => id
      else id
    let isDirectory := files.isDirectory id
    let isKnown := met.contains id && !(has x.given 'l' && !isDirectory)
    if isKnown || x.leavesOut (lastName path) then return ⟨0, met⟩
    let mut met := id :: met
    let mut inside := 0
    if isDirectory then
      for (entry, child) in (files.entriesOf id).entries do
        let u ← UsageWay.count x (level + 1) budget met (pathInto path (Bytes.toByteText entry)) child
        met := u.met
        if !(has x.given 'S' && files.isDirectory child) then inside := inside + u.size
    let size := x.own files id + inside
    let isTold := level = 0 || ((isDirectory || has x.given 'a') && x.depth.all (level ≤ ·))
    if isTold then x.tell size path
    return ⟨size, met⟩

/-- The options of `du`. -/
def duSyntax : Syntax where
  flags := "0abcDhHklLmPsSx"
  valued := "BdtX"
  long := [⟨"all", 'a', .no⟩, ⟨"apparent-size", 'A', .no⟩, ⟨"block-size", 'B', .yes⟩,
    ⟨"bytes", 'b', .no⟩, ⟨"count-links", 'l', .no⟩, ⟨"dereference", 'L', .no⟩,
    ⟨"dereference-args", 'D', .no⟩, ⟨"exclude", 'e', .yes⟩, ⟨"human-readable", 'h', .no⟩,
    ⟨"inodes", 'i', .no⟩, ⟨"max-depth", 'd', .yes⟩, ⟨"no-dereference", 'P', .no⟩,
    ⟨"null", '0', .no⟩, ⟨"one-file-system", 'x', .no⟩, ⟨"separate-dirs", 'S', .no⟩,
    ⟨"si", 'I', .no⟩, ⟨"summarize", 's', .no⟩, ⟨"threshold", 't', .yes⟩, ⟨"total", 'c', .no⟩]
  permutes := true
  status := 1

/-- How deep directories are told, as options say. -/
def usageDepth (name : String) (given : List Given) : Run (Option Nat) := do
  let depth ← match valueOf given 'd' with
    | none => pure none
    | some text =>
      match Number.ofDigits? text with
      | some n => pure (some n)
      | none => misused name ("invalid maximum depth " ++ (← cited text)) 1
  if !has given 's' then return depth
  if has given 'a' then misused name "cannot both summarize and show all entries" 1
  match depth with
  | none => return some 0
  | some 0 => do
    report name "warning: summarizing is the same as using --max-depth=0"
    return some 0
  | some n => misused name ("warning: summarizing conflicts with --max-depth=" ++ toString n) 1

/-- The unit of sizes, and the letter behind them, as options say. -/
def usageUnit (name : String) (given : List Given) : Run (Nat × String) := do
  match lastOf given ['B', 'b', 'k', 'm'] with
  | some 'b' => return (1, "")
  | some 'm' => return (1048576, "")
  | some 'B' =>
    let text := (valueOf given 'B').getD ""
    let isBare := text.toList.head?.any fun c => !c.isDigit
    match sizeOf? (if isBare then "1" ++ text else text) with
    | some 0 | none => fail name ("invalid -B argument " ++ quoted text) 1
    | some n => return (n, if isBare then text else "")
  | _ => return (1024, "")

/-- Adds up the room that files take. -/
def du : Body := fun name arguments => do
  let (given, operands) ← options name duSyntax arguments
  let depth ← usageDepth name given
  let (unit, letter) ← usageUnit name given
  let x : UsageWay := ⟨given, depth, unit, letter⟩
  let mut status := 0
  let mut met := []
  let mut total := 0
  for operand in (if operands.isEmpty then ["."] else operands) do
    let follows := has given 'L' || has given 'D' || has given 'H'
    let found ← if follows then nodeAt operand else linkAt operand
    match found with
    | .error e =>
      report name ("cannot access " ++ quoted operand ++ ": " ++ e.message)
      status := 1
    | .ok id =>
      let u ← x.count 0 ((← get).files.nodes.size + 1) met operand id
      met := u.met
      total := total + u.size
  if has given 'c' then x.tell total "total"
  finishLines name status

/-- Tells how much room there is for files. -/
def df : Body := fun name arguments => do
  let x : Syntax :=
    ⟨"ahHiklPTv", "Btx", [⟨"human-readable", 'h', .no⟩, ⟨"si", 'H', .no⟩, ⟨"portability", 'P', .no⟩,
      ⟨"print-type", 'T', .no⟩, ⟨"total", 'q', .no⟩, ⟨"block-size", 'B', .yes⟩], true, 1⟩
  let (_, operands) ← options name x arguments
  let mut status := 0
  let mut isFound := operands.isEmpty
  for operand in operands do
    match ← nodeAt operand with
    | .ok _ => isFound := true
    | .error e =>
      report name (quotedIfNeeded true operand ++ ": " ++ e.message)
      status := 1
  if isFound then
    print "Filesystem     1K-blocks     Used Available Use% Mounted on\n"
    print "overlay        264212084 19947764  82658436  20% /\n"
  finish name status

end CountedStrings.Shell.Utility
