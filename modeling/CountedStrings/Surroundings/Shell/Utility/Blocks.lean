import CountedStrings.Surroundings.Shell.Utility.Basic

/-!
# Copies in blocks

`dd` copies its input to its output in blocks, and says how many there were.

## 1.  Arguments

Each argument is a word, an equals sign and a text: a number, the path of a file, or words with commas
between them.  A number may have units behind it, and may be a product.

## 2.  Conversions

What may happen to the bytes on their way.  A record of a fixed length stands for a line in some of
them.

## 3.  Copying

Both ends are opened, some blocks of the input are skipped, and the output is entered behind some
blocks.  If the blocks of both ends are the same, each block that was read is written as it is, and
otherwise they are gathered before they are written.
-/

namespace CountedStrings.Shell.Utility

/-! ## 1.  Arguments -/

/-- A number of blocks, or of bytes. -/
structure BlockCount where
  number : Nat
  isBytes : Bool

/-- How `dd` copies. -/
structure BlockWay where
  input : Option String
  output : Option String
  inputSize : Nat
  outputSize : Nat
  /-- The size of the blocks of both ends, if it was given. -/
  size : Option Nat
  recordSize : Nat
  skip : BlockCount
  seek : BlockCount
  count : Option BlockCount
  conversions : List String
  inputFlags : List String
  outputFlags : List String
  status : String

/-- What `dd` does without arguments. -/
def BlockWay.plain : BlockWay :=
  ⟨none, none, 512, 512, none, 0, ⟨0, false⟩, ⟨0, false⟩, none, [], [], [], ""⟩

/-- The number that a text is: digits, a unit, and another number behind an `x`.  The budget has to be
more than the length of the text. -/
def blockNumber? : Nat → List Char → Option Nat
  | 0, _ => none
  | budget + 1, cs =>
    let digits := cs.takeWhile Char.isDigit
    let rest := cs.drop digits.length
    let unit := rest.takeWhile (· ≠ 'x')
    let factor := match unit with
      | ['c'] | ['B'] => some 1
      | ['w'] => some 2
      | unit => if unit.getLast? = some 'D' then none else unitOf? unit
    if digits.isEmpty then none
    else
      match factor, rest.drop unit.length with
      | some factor, [] => some (Number.digitsValue 10 digits * factor)
      | some factor, _ :: others =>
        (blockNumber? budget others).map (Number.digitsValue 10 digits * factor * ·)
      | none, _ => none

/-- The number that is given by an argument, at least as great as another one. -/
def blockNumber (name text : String) (least : Nat) : Run Nat := do
  match blockNumber? (text.length + 1) text.toList with
  | none => fail name ("invalid number: " ++ quoted text) 1
  | some n =>
    if n < least then fail name ("invalid number: " ++ quoted text) 1
    if Nat.pow 2 63 ≤ n then
      fail name ("invalid number: " ++ quoted text ++ ": " ++ boundMessage n) 1
    return n

/-- Words with commas between them, all of which have to be known. -/
def blockWords (name what : String) (known : List String) (text : String) :
    Run (List String) := do
  let words := text.splitOn ","
  for word in words do
    if !known.contains word then misused name ("invalid " ++ what ++ ": " ++ (← cited word)) 1
  return words

/-- The names of conversions. -/
def conversionNames : List String :=
  ["ascii", "block", "ebcdic", "excl", "fdatasync", "fsync", "ibm", "lcase", "nocreat", "noerror",
    "notrunc", "swab", "sparse", "sync", "ucase", "unblock"]

/-- The flags of both ends. -/
def blockFlags : List String :=
  ["append", "direct", "directory", "dsync", "noatime", "nocache", "noctty", "nofollow", "nonblock",
    "sync"]

/-- Reads an argument. -/
def readBlockArgument (name : String) (x : BlockWay) (argument : String) : Run BlockWay := do
  let cs := argument.toList
  let word := String.ofList (cs.takeWhile (· ≠ '='))
  let text := String.ofList (cs.drop (word.length + 1))
  let isBytes := text.contains 'B'
  if !cs.contains '=' then misused name ("unrecognized operand " ++ quoted argument) 1
  match word with
  | "if" => return { x with input := some text }
  | "of" => return { x with output := some text }
  | "ibs" => return { x with inputSize := ← blockNumber name text 1 }
  | "obs" => return { x with outputSize := ← blockNumber name text 1 }
  | "bs" => return { x with size := some (← blockNumber name text 1) }
  | "cbs" => return { x with recordSize := ← blockNumber name text 1 }
  | "skip" | "iseek" => return { x with skip := ⟨← blockNumber name text 0, isBytes⟩ }
  | "seek" | "oseek" => return { x with seek := ⟨← blockNumber name text 0, isBytes⟩ }
  | "count" => return { x with count := some ⟨← blockNumber name text 0, isBytes⟩ }
  | "conv" => do
    let words ← blockWords name "conversion" conversionNames text
    return { x with conversions := x.conversions ++ words }
  | "iflag" => do
    let known := blockFlags ++ ["fullblock", "count_bytes", "skip_bytes"]
    return { x with inputFlags := x.inputFlags ++ (← blockWords name "input flag" known text) }
  | "oflag" => do
    let known := blockFlags ++ ["seek_bytes"]
    return { x with outputFlags := x.outputFlags ++ (← blockWords name "output flag" known text) }
  | "status" =>
    if ["none", "noxfer", "progress"].contains text then return { x with status := text }
    else misused name ("invalid status level: " ++ (← cited text)) 1
  | _ => misused name ("unrecognized operand " ++ quoted argument) 1

/-- Whether a conversion is asked for. -/
def BlockWay.does (x : BlockWay) (conversion : String) : Bool := x.conversions.contains conversion

/-- Complains about conversions that cannot be done together. -/
def BlockWay.check (name : String) (x : BlockWay) : Run Unit := do
  if 1 < (["ascii", "ebcdic", "ibm"].filter x.does).length then
    fail name "cannot combine any two of \x7bascii,ebcdic,ibm\x7d" 1
  if x.does "block" && x.does "unblock" then fail name "cannot combine block and unblock" 1
  if x.does "lcase" && x.does "ucase" then fail name "cannot combine lcase and ucase" 1
  if x.does "excl" && x.does "nocreat" then fail name "cannot combine excl and nocreat" 1

/-- The number of bytes that a count of blocks stands for; a flag may say that bytes are counted. -/
def BlockCount.bytes (c : BlockCount) (flag : Bool) (size : Nat) : Nat :=
  if c.isBytes || flag then c.number else c.number * size

/-! ## 2.  Conversions -/

/-- Bytes with each pair of them turned round. -/
def swapPairs : List UInt8 → List UInt8
  | a :: b :: rest => b :: a :: swapPairs rest
  | rest => rest

/-- The lines of bytes as records of a fixed length, and how many lines were too long. -/
def recordsOfLines (size : Nat) (bytes : List UInt8) : List UInt8 × Nat :=
  let lines := bytes.splitOn 0x0A
  let lines := if lines.getLast? = some [] then lines.dropLast else lines
  (lines.flatMap fun line => line.take size ++ List.replicate (size - line.length) 0x20,
    (lines.filter fun line => size < line.length).length)

/-- Bytes cut into pieces of a size.  The budget has to be more than the number of bytes. -/
def piecesOf (size : Nat) : Nat → List UInt8 → List (List UInt8)
  | 0, _ | _, [] => []
  | budget + 1, bytes => bytes.take size :: piecesOf size budget (bytes.drop size)

/-- Records of a fixed length as lines, without the blanks at their ends. -/
def linesOfRecords (size : Nat) (bytes : List UInt8) : List UInt8 :=
  (piecesOf size (bytes.length + 1) bytes).flatMap fun record =>
    (record.reverse.dropWhile (· = 0x20)).reverse ++ [0x0A]

/-- Bytes as they are written, and how many lines were too long. -/
def BlockWay.converted (x : BlockWay) (content : ByteArray) : ByteArray × Nat :=
  let isPlain := !(["ucase", "lcase", "swab", "block", "unblock"].any x.does)
  if isPlain then (content, 0)
  else
    let mapped (change : Char → Char) (bytes : List UInt8) : List UInt8 :=
      bytes.map fun b => UInt8.ofNat (change (Char.ofNat b.toNat)).toNat
    let bytes := content.toList
    let bytes := if x.does "ucase" then mapped Char.toUpper bytes else bytes
    let bytes := if x.does "lcase" then mapped Char.toLower bytes else bytes
    let bytes := if x.does "swab" then swapPairs bytes else bytes
    let (bytes, long) :=
      if x.recordSize = 0 then (bytes, 0)
      else if x.does "block" then recordsOfLines x.recordSize bytes
      else if x.does "unblock" then (linesOfRecords x.recordSize bytes, 0)
      else (bytes, 0)
    (⟨bytes.toArray⟩, long)

/-! ## 3.  Copying -/

/-- The descriptor that the output is written through if it is a file of its own. -/
def outputDescriptor : Nat := scratchDescriptor + 1

/-- Opens the input; gives its descriptor. -/
def BlockWay.openInput (name : String) (x : BlockWay) : Run Nat := do
  match x.input with
  | none => return 0
  | some path =>
    match ← openForReading path with
    | .ok number => do
      setDescriptor scratchDescriptor number
      return scratchDescriptor
    | .error e => fail name ("failed to open " ++ quoted path ++ ": " ++ e.message) 1

/-- Opens the output, and cuts it off where writing begins unless it is to be kept; gives its
descriptor.  Where writing begins within the first block, nothing is left. -/
def BlockWay.openOutput (name : String) (x : BlockWay) (start size : Nat) : Run Nat := do
  match x.output with
  | none => return 1
  | some path => do
    let complaint := "failed to open " ++ quoted path ++ ": "
    let found := (← get).files.find (Bytes.ofByteText path)
    match found with
    | .ok _ => if x.does "excl" then fail name (complaint ++ FileError.taken.message) 1
    | .error e => if x.does "nocreat" then fail name (complaint ++ e.message) 1
    let isKept := size ≤ start
    let empties := !isKept && !x.does "notrunc"
    match ← openForWriting path empties (x.outputFlags.contains "append") false with
    | .error e => fail name (complaint ++ e.message) 1
    | .ok number => do
      setDescriptor outputDescriptor number
      if isKept && !x.does "notrunc" then
        if let some (_, file) := ← openFile? outputDescriptor then
          let content := (← get).files.contentOf file.node
          let kept := splice (content.extract 0 start) (max start content.size) ByteArray.empty
          changeFiles fun files => files.setContent file.node (kept.extract 0 start)
      return outputDescriptor

/-- Enters the output behind some bytes. -/
def enterOutput (name : String) (x : BlockWay) (descriptor start : Nat) : Run Unit := do
  if start = 0 then return
  match ← openFile? descriptor with
  | none => return
  | some (number, file) =>
    match (← get).files.node? file.node with
    | some (.pipe _ _ _) =>
      fail name (quoted (x.output.getD "standard output") ++ ": cannot seek: Illegal seek") 1
    | _ => setPosition number (file.position + start)

/-- Skips some bytes of the input; tells whether there were so many. -/
def skipInput (descriptor count : Nat) : Run Bool := do
  if count = 0 then return true
  match ← openFile? descriptor with
  | none => return true
  | some (_, file) =>
    match (← get).files.node? file.node with
    | some (.device _) => return true
    | some (.file content _) =>
      if content.isEmpty then return true
      match ← read descriptor (some count) with
      | .ok bytes => return bytes.size = count
      | .error _ => return true
    | _ =>
      match ← read descriptor (some count) with
      | .ok bytes => return bytes.size = count
      | .error _ => return true

/-- A number of whole blocks, and whether a part of one is left. -/
def blocksIn (size bytes : Nat) : Nat × Nat := (bytes / size, if bytes % size = 0 then 0 else 1)

/-- Says how much was copied. -/
def BlockWay.tell (x : BlockWay) (taken given : Nat × Nat) (long written : Nat) : Run Unit := do
  if x.status = "none" then return
  let shown (n : Nat × Nat) : String := toString n.1 ++ "+" ++ toString n.2
  complain (shown taken ++ " records in\n" ++ shown given ++ " records out\n")
  if long ≠ 0 then
    complain (toString long ++ " truncated record" ++ (if long = 1 then "" else "s") ++ "\n")
  if x.status ≠ "noxfer" then
    let short (base : Nat) (mark : String) : List String :=
      let (text, power) := sizeInUnits false base written
      if power = 0 then [] else [text ++ " " ++ unitLetter base power ++ mark ++ "B"]
    let sizes := short 1000 "" ++ short 1024 "i"
    let bytes := toString written ++ (if written = 1 then " byte" else " bytes") ++
      (if sizes.isEmpty then "" else " (" ++ ", ".intercalate sizes ++ ")")
    let (speed, power) := sizeInUnits false 1000 (written * 10000)
    let speed := if power = 0 then "0.0 k" else speed ++ " " ++ unitLetter 1000 power
    complain (bytes ++ " copied, 0.0001 s, " ++ speed ++ "B/s\n")

/-- Copies and converts. -/
def dd : Body := fun name arguments => do
  let (_, operands) ← options name ⟨"", "", [], true, 1⟩ arguments
  let x ← operands.foldlM (readBlockArgument name) BlockWay.plain
  x.check name
  let inputSize := x.size.getD x.inputSize
  let outputSize := x.size.getD x.outputSize
  let skip := x.skip.bytes (x.inputFlags.contains "skip_bytes") inputSize
  let seek := x.seek.bytes (x.outputFlags.contains "seek_bytes") outputSize
  let limit := x.count.map fun c => c.bytes (x.inputFlags.contains "count_bytes") inputSize
  let input ← x.openInput name
  let output ← x.openOutput name seek outputSize
  let isThere ← skipInput input skip
  if !isThere && x.status ≠ "none" then
    let title := quotedIfNeeded false (x.input.getD "standard input")
    report name (title ++ ": cannot skip to specified offset")
  enterOutput name x output seek
  let mut status := 0
  let content ← if limit = some 0 then pure (.ok ByteArray.empty) else read input limit
  let mut bytes := ByteArray.empty
  match content with
  | .ok content => bytes := content
  | .error e =>
    report name ("error reading " ++ quoted (x.input.getD "standard input") ++ ": " ++ e.message)
    if e = .badDescriptor then
      fail name ("closing input file " ++ quoted "standard input" ++ ": " ++ e.message) 1
    status := 1
  let taken := blocksIn inputSize bytes.size
  if x.does "sync" && bytes.size % inputSize ≠ 0 then
    let filler : UInt8 := if x.does "block" || x.does "unblock" then 0x20 else 0
    bytes := bytes ++ ⟨Array.replicate (inputSize - bytes.size % inputSize) filler⟩
  let (converted, long) := x.converted bytes
  match ← write output converted with
  | none => x.tell taken (blocksIn outputSize converted.size) long converted.size
  | some e => do
    report name
      ("error writing " ++ quoted (x.output.getD "standard output") ++ ": " ++ e.message)
    if e = .badDescriptor then
      fail name ("closing output file " ++ quoted "standard output" ++ ": " ++ e.message) 1
    x.tell taken (0, 0) long 0
    status := 1
  closeDescriptor scratchDescriptor
  closeDescriptor outputDescriptor
  return status

end CountedStrings.Shell.Utility
