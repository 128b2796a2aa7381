import CountedStrings.Surroundings.Shell.FileTest
import CountedStrings.Surroundings.Shell.Utility.Basic

/-!
# Splitting files

`split` writes the parts of a file into files of their own.

## 1.  Parts

A file is split into parts of so many lines or bytes, or into so many parts.  No line is torn apart
unless bytes are counted or a line alone is too long.

## 2.  Names of parts

The names end in letters or digits that count the parts.  When the names that begin with anything but
the last letter are used up, they grow longer, in such a way that their order stays the order of the
parts (`SuffixStyle.grown?`).

## 3.  Writing the parts
-/

namespace CountedStrings.Shell.Utility

/-! ## 1.  Parts -/

/-- How a file is split.  Of some ways the number of a single part is given that is printed; it is zero
if all parts are written. -/
inductive SplitWay where
  | lines (count : Nat)
  | bytes (count : Nat)
  /-- As many whole lines as there is room for. -/
  | lineBytes (count : Nat)
  | parts (only count : Nat)
  | lineParts (only count : Nat)
  /-- One line for each part in turn. -/
  | turns (only count : Nat)

/-- The number of the part that is printed, or zero. -/
def SplitWay.only : SplitWay → Nat
  | .parts only _ | .lineParts only _ | .turns only _ => only
  | _ => 0

/-- How many parts there are, if that is given. -/
def SplitWay.count? : SplitWay → Option Nat
  | .parts _ count | .lineParts _ count | .turns _ count => some count
  | _ => none

/-- The lines of a text with the marks behind them. -/
def markedLines (mark : Char) (text : String) : List String :=
  let parts := text.splitOn mark.toString
  (parts.dropLast.map fun part => part ++ mark.toString) ++
    (parts.getLast?.toList.filter fun part => part ≠ "")

/-- Runs of so many elements.  The budget has to be the number of elements. -/
def runsOf {α : Type} (count : Nat) : Nat → List α → List (List α)
  | 0, _ | _, [] => []
  | budget + 1, elements =>
    elements.take count :: runsOf count budget (elements.drop count)

/-- What is left to do for parts with room for so many bytes: the parts that are done and the one that
is not, in reverse order. -/
structure Packing where
  finished : List String
  current : List Char

/-- A packing with the current part finished. -/
def Packing.close (p : Packing) : Packing :=
  if p.current.isEmpty then p else ⟨String.ofList p.current.reverse :: p.finished, []⟩

/-- Puts a line into a part that has room for it, or into parts of its own. -/
def Packing.add (room : Nat) (p : Packing) (line : String) : Packing :=
  let p := if p.current.length + line.length ≤ room then p else p.close
  (line.toList).foldl (fun p c =>
    let p : Packing := if p.current.length = room then p.close else p
    { p with current := c :: p.current }) p

/-- Where so many parts of a text of a size end. -/
def partEnds (size count : Nat) : List Nat :=
  (List.range count).map fun i => (i + 1) * (size / count) + min (i + 1) (size % count)

/-- The lines by the parts that they begin in; the position is where the first line begins. -/
def linesByPart : List Nat → Nat → List String → List String
  | [], _, _ => []
  | stop :: ends, position, lines =>
    let starts := (lines.foldl (fun (state : List Nat × Nat) line =>
      (state.2 :: state.1, state.2 + line.length)) ([], position)).1.reverse
    let own := (starts.takeWhile (· < stop)).length
    let taken := String.join (lines.take own)
    taken :: linesByPart ends (position + taken.length) (lines.drop own)

/-- The parts of a text. -/
def SplitWay.partsOf (way : SplitWay) (mark : Char) (text : String) : List String :=
  let lines := markedLines mark text
  match way with
  | .lines count => (runsOf count lines.length lines).map String.join
  | .bytes count => (runsOf count text.length text.toList).map String.ofList
  | .lineBytes count => (lines.foldl (Packing.add count) ⟨[], []⟩).close.finished.reverse
  | .parts _ count =>
    let ends := partEnds text.length count
    let cs := text.toList
    ((0 :: ends).zip ends).map fun (start, stop) =>
      String.ofList ((cs.drop start).take (stop - start))
  | .lineParts _ count => linesByPart (partEnds text.length count) 0 lines
  | .turns _ count =>
    (List.range count).map fun i =>
      String.join ((lines.zipIdx.filter fun (_, n) => n % count = i).map (·.1))

/-! ## 2.  Names of parts -/

/-- What counts the parts in their names. -/
structure SuffixStyle where
  alphabet : List Char
  width : Nat
  /-- Whether names grow longer when they are used up. -/
  grows : Bool
  /-- The number of the first part. -/
  start : Nat

namespace SuffixStyle

/-- A number in letters. -/
def inLetters (s : SuffixStyle) (width n : Nat) : List Char :=
  ((List.range width).map fun i =>
    (s.alphabet[n / Nat.pow s.alphabet.length i % s.alphabet.length]?).getD '0').reverse

/-- The letters for a number, with so many of the last letter in front.  The budget has to be more than
the number. -/
def grown? (s : SuffixStyle) : Nat → Nat → Nat → Option (List Char)
  | 0, _, _ => none
  | budget + 1, level, n =>
    let base := s.alphabet.length
    let width := s.width + level
    let room := (base - 1) * Nat.pow base (width - 1)
    if n < room then
      some (List.replicate level ((s.alphabet.getLast?).getD '0') ++ s.inLetters width n)
    else grown? s budget (level + 1) (n - room)

/-- The letters for the part of a number. -/
def text? (s : SuffixStyle) (n : Nat) : Option (List Char) :=
  if s.grows then s.grown? (n + 1) 0 n
  else
    let n := s.start + n
    if n < Nat.pow s.alphabet.length s.width then some (s.inLetters s.width n) else none

end SuffixStyle

/-- How many letters a number takes to a base. -/
def lettersFor (base n : Nat) : Nat := (Nat.toDigits base n).length

/-! ## 3.  Writing the parts -/

/-- The options of `split`. -/
def splitSyntax : Syntax :=
  ⟨"0123456789deux", "abClnt", [⟨"bytes", 'b', .yes⟩, ⟨"lines", 'l', .yes⟩,
    ⟨"line-bytes", 'C', .yes⟩, ⟨"number", 'n', .yes⟩, ⟨"elide-empty-files", 'e', .no⟩,
    ⟨"unbuffered", 'u', .no⟩, ⟨"suffix-length", 'a', .yes⟩, ⟨"additional-suffix", 'A', .yes⟩,
    ⟨"numeric-suffixes", 'D', .maybe⟩, ⟨"hex-suffixes", 'X', .maybe⟩, ⟨"filter", 'F', .yes⟩,
    ⟨"verbose", 'v', .no⟩, ⟨"separator", 't', .yes⟩], true, 1⟩

/-- A number above all sizes. -/
def countless : Nat := 9223372036854775807

/-- The number of units that an argument is, with a letter behind it if it counts bytes. -/
def unitsOf (name what : String) (inBytes : Bool) (text : String) : Run Nat := do
  let n := Number.scanWithin 0 countless (some 10) text.toList
  let wrong : Run Nat := do fail name (what ++ ": " ++ (← cited text)) 1
  let isNegative := (text.toList.dropWhile Number.isBlank).head? = some '-'
  if n.rest.length = text.length || isNegative || n.value < 1 then wrong
  else if n.rest.isEmpty then return n.value.toNat
  else if !inBytes then wrong
  else
    match unitOf? n.rest with
    | some factor => return min countless (n.value.toNat * factor)
    | none => wrong

/-- The number of parts that an argument is, with the number of the only one in front. -/
def partNumbers (name text : String) : Run (Nat × Nat) := do
  let what := "invalid number of chunks"
  match text.splitOn "/" with
  | [only, count] => do
    let count ← unitsOf name what false count
    match Number.ofText? (some 10) only with
    | some n => do
      if n < 1 || (count : Int) < n then
        fail name ("invalid chunk number: " ++ (← cited only)) 1
      return (n.toNat, count)
    | none => fail name (what ++ ": " ++ (← cited text)) 1
  | first :: rest@(_ :: _ :: _) =>
    let text := if (Number.ofText? (some 10) first).isSome then "/".intercalate rest else text
    fail name (what ++ ": " ++ (← cited text)) 1
  | _ => return (0, ← unitsOf name what false text)

/-- The way that an option asks for. -/
def wayOf? (name : String) (g : Given) : Run (Option SplitWay) := do
  let (letter, value) := g
  match letter with
  | 'l' => return some (.lines (← unitsOf name "invalid number of lines" false value))
  | 'b' => return some (.bytes (← unitsOf name "invalid number of bytes" true value))
  | 'C' => return some (.lineBytes (← unitsOf name "invalid number of lines" true value))
  | 'n' => do
    let text := String.ofList (value.toList.dropWhile Number.isBlank)
    let rest := (text.drop 2).toString
    if text.startsWith "r/" then
      let (only, count) ← partNumbers name rest
      return some (.turns only count)
    else if text.startsWith "l/" then
      let (only, count) ← partNumbers name rest
      return some (.lineParts only count)
    else
      let (only, count) ← partNumbers name text
      return some (.parts only count)
  | _ => return none

/-- The way that options ask for. -/
def splitWay (name : String) (given : List Given) : Run SplitWay := do
  let digits := (given.map (·.1)).filter Char.isDigit
  let mut way : Option SplitWay := none
  for g in given do
    let isWay := ['l', 'b', 'C', 'n'].contains g.1
    if (isWay || g.1.isDigit) && way.isSome then
      misused name "cannot split in more than one way" 1
    if isWay && !digits.isEmpty then misused name "cannot split in more than one way" 1
    if isWay then way ← wayOf? name g
  match way with
  | some found => return found
  | none =>
    if digits.isEmpty then return .lines 1000
    else
      let count := Number.digitsValue 10 digits
      if count = 0 then misused name ("invalid number of lines: " ++ (← cited "0")) 1
      return .lines (min count countless)

/-- The mark behind lines that options give. -/
def splitMark (name : String) (given : List Given) : Run Char := do
  let mut mark := none
  for (letter, value) in given do
    if letter = 't' then
      let own ← match value.toList with
        | [] => fail name "empty record separator" 1
        | [c] => pure c
        | ['\\', '0'] => pure '\x00'
        | _ => fail name ("multi-character separator " ++ (← cited value)) 1
      if mark.any (· ≠ own) then fail name "multiple separator characters specified" 1
      mark := some own
  return mark.getD '\n'

/-- What counts the parts, as options say. -/
def suffixStyle (name : String) (given : List Given) (way : SplitWay) : Run SuffixStyle := do
  let kind := lastOf given ['d', 'D', 'x', 'X']
  let decimal := "0123456789".toList
  let alphabet := match kind with
    | some 'd' | some 'D' => decimal
    | some _ => decimal ++ "abcdef".toList
    | none => (List.range 26).map fun i => Char.ofNat ('a'.toNat + i)
  let mut start := none
  for (letter, value) in given do
    if (letter = 'D' || letter = 'X') && value ≠ "" then
      let allowed := if letter = 'D' then decimal else decimal ++ "abcdef".toList
      if !value.all allowed.contains then
        let what := if letter = 'D' then "numerical" else "hexadecimal"
        misused name ((← cited value) ++ ": invalid start value for " ++ what ++ " suffix") 1
      let kept := value.toList.dropWhile (· = '0')
      start := some (if kept.isEmpty then ['0'] else kept)
  let given ← match valueOf given 'a' with
    | some text => signedWithin name "invalid suffix length" text 0 countless
    | none => pure 0
  let base := alphabet.length
  let first := Number.digitsValue base (start.getD [])
  let needed : Nat := match way.count? with
    | some count =>
      let shift := if start.isSome && first < count then first else 0
      lettersFor base (count - 1 + shift)
    | none => 0
  if 0 < given && given < needed then
    fail name ("the suffix length needs to be at least " ++ toString needed) 1
  let width := if 0 < given then given.toNat else max 2 needed
  if width < (start.getD []).length then
    misused name "numerical suffix start value is too large for the suffix length" 1
  return ⟨alphabet, width, given = 0 && start.isNone && way.count?.isNone, first⟩

/-- What stands around the letters in the names of parts. -/
structure PartNames where
  front : String
  style : SuffixStyle
  behind : String

/-- Writes one part into a file of its own. -/
def writePart (name : String) (verbose : Bool) (names : PartNames) (input : Option Node)
    (inputPath : String) (index : Nat) (part : String) : Run Unit := do
  match names.style.text? index with
  | none => fail name "output file suffixes exhausted" 1
  | some letters => do
    let path := names.front ++ String.ofList letters ++ names.behind
    if verbose then print ("creating file " ++ quoted path ++ "\n")
    if input.isSome && isSameFile (← get).files path inputPath then
      fail name (quoted path ++ " would overwrite input; aborting") 1
    match ← openForWriting path true false false with
    | .error e => fail name (quotedIfNeeded false path ++ ": " ++ e.message) 1
    | .ok number => do
      setDescriptor scratchDescriptor number
      let result ← write scratchDescriptor (bytesOf part)
      closeDescriptor scratchDescriptor
      if let some e := result then fail name (quotedIfNeeded false path ++ ": " ++ e.message) 1

/-- Writes the parts of a file into files of their own. -/
def split : Body := fun name arguments => do
  let (given, operands) ← options name splitSyntax arguments
  let way ← splitWay name given
  let mark ← splitMark name given
  let behind := (valueOf given 'A').getD ""
  if behind.toList.contains '/' then
    misused name ("invalid suffix " ++ (← cited behind) ++ ", contains directory separator") 1
  if way.only ≠ 0 && has given 'F' then
    misused name "--filter does not process a chunk extracted to stdout" 1
  if let some operand := operands[2]? then extraOperand name operand 1
  let style ← suffixStyle name given way
  let names : PartNames := ⟨(operands[1]?).getD "x", style, behind⟩
  let path := operands.headD "-"
  match ← contentOf path with
  | .error (.opening e) =>
    fail name ("cannot open " ++ quoted path ++ " for reading: " ++ e.message) 1
  | .error (.reading e) => fail name (quotedIfNeeded false path ++ ": " ++ e.message) 1
  | .ok bytes => do
    let parts := way.partsOf mark (textOf bytes)
    if way.only ≠ 0 then print ((parts[way.only - 1]?).getD "")
    else
      let parts := if has given 'e' then parts.filter fun part => part ≠ "" else parts
      let files := (← get).files
      let input := if path = "-" then none else nodeAt? files true path
      for (part, index) in parts.zipIdx do
        writePart name (has given 'v') names input path index part
    finish name 0

end CountedStrings.Shell.Utility
