import CountedStrings.Surroundings.Shell.Utility.Path

/-!
# Making files unreadable

`shred` writes over files so that nobody can tell what was in them, and takes their names away if asked
to.
-/

namespace CountedStrings.Shell.Utility

/-- The options of `shred`. -/
def shredSyntax : Syntax where
  flags := "fuvxz"
  valued := "ns"
  long := [⟨"exact", 'x', .no⟩, ⟨"force", 'f', .no⟩, ⟨"iterations", 'n', .yes⟩, ⟨"size", 's', .yes⟩,
    ⟨"random-source", 'R', .yes⟩, ⟨"remove", 'r', .maybe⟩, ⟨"verbose", 'v', .no⟩,
    ⟨"zero", 'z', .no⟩]
  permutes := true
  status := 1

/-- Bytes without a meaning, so many of them; the number changes them. -/
def meaningless : Nat → Nat → List UInt8
  | 0, _ => []
  | count + 1, seed =>
    let seed := (seed * 6364136223846793005 + 1442695040888963407) % Nat.pow 2 64
    UInt8.ofNat (seed / Nat.pow 2 33) :: meaningless count seed

/-- How a file is written over. -/
structure Shredding where
  passes : Nat
  size : Option Nat
  isExact : Bool
  endsInZeros : Bool
  removes : Bool
  tells : Bool

/-- Says which pass of writing is done. -/
def Shredding.tell (x : Shredding) (name title : String) : Run Unit := do
  let all := x.passes + (if x.endsInZeros then 1 else 0)
  let kind (i : Nat) : String :=
    if i = x.passes then "000000"
    else if i % 2 = 0 || x.passes < 3 then "random" else if i % 4 = 1 then "ffffff" else "000000"
  for i in List.range all do
    report name (title ++ ": pass " ++ toString (i + 1) ++ "/" ++ toString all ++ " (" ++ kind i ++
      ")...")

/-- Takes the name of a file away, behind the shorter names that it is given first. -/
def Shredding.remove (x : Shredding) (name path : String) : Run Unit := do
  let title := quotedIfNeeded true path
  if x.tells then
    report name (title ++ ": removing")
    let parent := if path.contains '/' then parentPath path ++ "/" else ""
    let lengths := (List.range (lastName path).length).reverse.map (· + 1)
    let names := lengths.map fun n => parent ++ String.ofList (List.replicate n '0')
    for (old, new) in ((path :: names).zip names) do
      report name (quotedIfNeeded true old ++ ": renamed to " ++ quotedIfNeeded true new)
    report name (title ++ ": removed")
  discard (tryChange fun files => files.unlink (Bytes.ofByteText path))

/-- Writes over a file. -/
def Shredding.apply (x : Shredding) (name path : String) : Run Bool := do
  let title := quotedIfNeeded true path
  if path = "-" then return true
  let refused (message : String) : Run Bool := do
    report name (title ++ ": " ++ message)
    return false
  match ← nodeAt path with
  | .error e => refused ("failed to open for writing: " ++ e.message)
  | .ok id =>
    let files := (← get).files
    match files.node? id with
    | some (.file content _) =>
      let whole := if x.isExact then content.size else (content.size + 4095) / 4096 * 4096
      let size := x.size.getD whole
      if x.tells && size ≠ 0 then x.tell name title
      let bytes :=
        if x.endsInZeros then List.replicate size 0 else meaningless size (id + content.size)
      if 0 < x.passes || x.endsInZeros then
        changeFiles fun files => files.setContent id (splice content 0 ⟨bytes.toArray⟩)
      if x.removes then x.remove name path
      return true
    | some (.directory _ _ _) =>
      refused ("failed to open for writing: " ++ FileError.isDirectory.message)
    | _ => refused "invalid file type"

/-- Writes over files. -/
def shred : Body := fun name arguments => do
  let (given, operands) ← options name shredSyntax arguments
  let mut passes := 3
  let mut size := none
  for (letter, text) in given do
    if letter = 'n' then
      match Number.ofDigits? text with
      | some n => passes := n
      | none => fail name ("invalid number of passes: " ++ (← cited text)) 1
    if letter = 's' then
      match sizeOf? text with
      | some n => size := some n
      | none => fail name ("invalid file size: " ++ (← cited text)) 1
    if letter = 'r' && text ≠ "" then
      discard (wordAmong name "remove" text [["unlink"], ["wipe"], ["wipesync"]] 1)
  if operands.isEmpty then misused name "missing file operand" 1
  let x : Shredding :=
    ⟨passes, size, has given 'x' || size.isSome, has given 'z', has given 'u' || has given 'r',
      has given 'v'⟩
  finish name (← forEachOperand operands (x.apply name))

end CountedStrings.Shell.Utility
