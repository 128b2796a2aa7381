import CountedStrings.Surroundings.Shell.Utility.Sorting

/-!
# Utilities for two files in order

## 1.  Common lines

`comm` shows which lines of two files in order are in one of them, in the other, or in both.

## 2.  Lines that belong together

`join` puts together the lines of two files in order that have the same key.
-/

namespace CountedStrings.Shell.Utility

/-! ## 1.  Common lines -/

/-- How strictly the order of lines is watched. -/
inductive Watch where
  | never
  | whenUnpaired
  | always
  deriving DecidableEq

/-- How strictly options ask to watch the order of lines. -/
def watchOf (given : List Given) : Watch :=
  match lastOf given ['K', 'N'] with
  | some 'K' => .always
  | some _ => .never
  | none => .whenUnpaired

/-- One of two files on the way through it. -/
structure Side where
  /-- The lines behind the current one, which comes first. -/
  left : List String
  /-- The lines that were passed, the latest first. -/
  passed : List String
  /-- Whether its disorder was complained about. -/
  disordered : Bool

/-- What is known on the way through two files. -/
structure Meeting where
  first : Side
  second : Side
  unpaired : Bool
  /-- How many lines were in the first file, in the second, and in both. -/
  totals : Nat × Nat × Nat

/-- Goes on to the next line of one file, and watches the order. -/
def Side.next (x : Side) (name : String) (watch : Watch) (unpaired : Bool) (number : Nat) :
    Run Side := do
  match x.left with
  | [] => return x
  | line :: rest =>
    let pair := match rest, x.passed with
      | next :: _, _ => some (line, next)
      | [], before :: _ => some (before, line)
      | [], [] => none
    let watches := watch = .always || (watch = .whenUnpaired && unpaired)
    let wrong := pair.any fun (a, b) => compareTexts a.toList b.toList = .gt
    let after : Side := ⟨rest, line :: x.passed, x.disordered || (watches && wrong)⟩
    if watches && wrong && !x.disordered then
      report name ("file " ++ toString number ++ " is not in sorted order")
      if watch = .always then quit 1
    return after

/-- How the columns of `comm` are printed. -/
structure Columns where
  showsFirst : Bool
  showsSecond : Bool
  showsBoth : Bool
  between : String
  mark : String

/-- Goes through two files side by side.  The budget has to be more than the number of lines. -/
def compareSides (name : String) (watch : Watch) (c : Columns) : Nat → Meeting → Run Meeting
  | 0, m => return m
  | budget + 1, m => do
    let order : Option Ordering := match m.first.left, m.second.left with
      | [], [] => none
      | [], _ => some .gt
      | _, [] => some .lt
      | a :: _, b :: _ => some (compareTexts a.toList b.toList)
    let (n₁, n₂, n₃) := m.totals
    let (before, totals) ← match order with
      | none => return m
      | some .lt => do
        if c.showsFirst then print (m.first.left.headD "" ++ c.mark)
        pure (m.unpaired, (n₁ + 1, n₂, n₃))
      | some .gt => do
        let front := if c.showsFirst then c.between else ""
        if c.showsSecond then print (front ++ m.second.left.headD "" ++ c.mark)
        pure (m.unpaired, (n₁, n₂ + 1, n₃))
      | some .eq => do
        let front := (if c.showsFirst then c.between else "") ++
          (if c.showsSecond then c.between else "")
        if c.showsBoth then print (front ++ m.second.left.headD "" ++ c.mark)
        pure (m.unpaired, (n₁, n₂, n₃ + 1))
    let unpaired := before || order ≠ some .eq
    let first ←
      if order = some .gt then pure m.first else m.first.next name watch unpaired 1
    let second ←
      if order = some .lt then pure m.second else m.second.next name watch unpaired 2
    compareSides name watch c budget ⟨first, second, unpaired, totals⟩

/-- The lines of a file that has to be there; who joins lines does not say which file it was. -/
def linesOfOperand (name : String) (joins : Bool) (operand : String) (mark : Char) :
    Run (List String) := do
  match ← contentOf operand with
  | .ok bytes => return recordsOf mark (textOf bytes)
  | .error e =>
    let isReading := e matches .reading _
    let title := if isReading && joins then "read error" else quotedIfNeeded true operand
    fail name (title ++ ": " ++ e.message) 1

/-- The two operands that there have to be; `plain` says how a third one is quoted. -/
def twoOperands (name : String) (plain : Bool) (operands : List String) :
    Run (String × String) := do
  match operands with
  | [] => missingOperand name 1
  | [a] => misused name ("missing operand after " ++ (← cited a)) 1
  | [a, b] => return (a, b)
  | _ :: _ :: c :: _ =>
    if plain then misused name ("extra operand " ++ quoted c) 1 else extraOperand name c 1

/-- Compares two files line by line. -/
def comm : Body := fun name arguments => do
  let x : Syntax :=
    ⟨"123z", "", [⟨"check-order", 'K', .no⟩, ⟨"nocheck-order", 'N', .no⟩,
      ⟨"output-delimiter", 'O', .yes⟩, ⟨"total", 't', .no⟩, ⟨"zero-terminated", 'z', .no⟩], true, 1⟩
  let (given, operands) ← options name x arguments
  let betweens := ((given.filter fun (c, _) => c = 'O').map (·.2)).eraseDups
  if 1 < betweens.length then fail name "multiple output delimiters specified" 1
  let between := match betweens with
    | [] => "\t"
    | text :: _ => if text = "" then "\x00" else text
  let (a, b) ← twoOperands name false operands
  let mark := recordMark given
  let first ← linesOfOperand name false a mark
  let second ← linesOfOperand name false b mark
  let c : Columns := ⟨!has given '1', !has given '2', !has given '3', between, mark.toString⟩
  let m ← compareSides name (watchOf given) c (first.length + second.length + 1)
    ⟨⟨first, [], false⟩, ⟨second, [], false⟩, false, (0, 0, 0)⟩
  if a = "-" && b = "-" then fail name "-: Bad file descriptor" 1
  if has given 't' then
    let (n₁, n₂, n₃) := m.totals
    print (between.intercalate [toString n₁, toString n₂, toString n₃, "total"] ++ c.mark)
  if m.first.disordered || m.second.disordered then fail name "input is not in sorted order" 1
  finish name 0

/-! ## 2.  Lines that belong together -/

/-- A line in fields. -/
structure FieldLine where
  text : String
  fields : Array String

/-- What is printed in one place of a joined line. -/
inductive JoinPlace where
  | key
  | field (side index : Nat)

/-- How `join` works. -/
structure Joining where
  /-- The places of the key in the lines of both files. -/
  firstKey : Nat
  secondKey : Nat
  mark : Option Char
  ignoresCase : Bool
  empty : String
  /-- What is printed of each line; without it, the key and all other fields. -/
  places : Option (List JoinPlace)
  /-- Whether unpaired lines of either file are printed, and whether pairs are. -/
  showsFirst : Bool
  showsSecond : Bool
  showsPairs : Bool
  watch : Watch

/-- A line in fields. -/
def Joining.line (x : Joining) (text : String) : FieldLine :=
  let fields := match x.mark with
    | some mark => if text = "" then [] else text.splitOn mark.toString
    | none =>
      ((text.toList.splitBy fun a b => isSortBlank a = isSortBlank b).filter fun (part : List Char) =>
        !part.all isSortBlank).map String.ofList
  ⟨text, fields.toArray⟩

/-- The key of a line. -/
def Joining.key (x : Joining) (second : Bool) (line : FieldLine) : List Char :=
  let cs := (line.fields[if second then x.secondKey else x.firstKey]?.getD "").toList
  if x.ignoresCase then cs.map Char.toUpper else cs

/-- A field as it is printed. -/
def Joining.fieldText (x : Joining) (line : Option FieldLine) (index : Nat) : String :=
  let text := (line.bind fun line => line.fields[index]?).getD ""
  if text = "" then x.empty else text

/-- What is printed for two lines that belong together, or for one alone. -/
def Joining.text (x : Joining) (first second : Option FieldLine) : String :=
  let key := match first with
    | some _ => x.fieldText first x.firstKey
    | none => x.fieldText second x.secondKey
  let others (line : Option FieldLine) (index : Nat) : List String :=
    match line with
    | none => []
    | some line =>
      (List.range line.fields.size).filterMap fun i =>
        if i = index then none else some (x.fieldText (some line) i)
  let parts := match x.places with
    | some places => places.map fun
      | .key => key
      | .field side index => x.fieldText (if side = 1 then first else second) index
    | none => key :: others first x.firstKey ++ others second x.secondKey
  ((x.mark.getD ' ').toString).intercalate parts

/-- One of two files that are joined, on the way through it. -/
structure JoinSide where
  path : String
  left : List FieldLine
  /-- The last line that was passed. -/
  passed : Option FieldLine
  /-- The number of the line that comes first of those left. -/
  number : Nat
  disordered : Bool

/-- Goes on to the next line of a file, and watches the order. -/
def JoinSide.next (s : JoinSide) (x : Joining) (name : String) (second unpaired : Bool) :
    Run JoinSide := do
  match s.left with
  | [] => return s
  | line :: rest =>
    let watches := x.watch = .always || (x.watch = .whenUnpaired && unpaired)
    let wrong := rest.head?.any fun next => compareTexts (x.key second line) (x.key second next) = .gt
    let complains := watches && wrong && !s.disordered
    if complains then
      report name (s.path ++ ":" ++ toString (s.number + 1) ++ ": is not sorted: " ++
        (rest.head?.map (·.text)).getD "")
      if x.watch = .always then quit 1
    return ⟨s.path, rest, some line, s.number + 1, s.disordered || complains⟩

/-- Takes the lines with a key; gives them too. -/
def JoinSide.takeKey (x : Joining) (name : String) (second unpaired : Bool) (key : List Char) :
    Nat → JoinSide → Run (List FieldLine × JoinSide)
  | 0, s => return ([], s)
  | budget + 1, s => do
    match s.left with
    | line :: _ =>
      if x.key second line = key then
        let s ← s.next x name second unpaired
        let (lines, s) ← takeKey x name second unpaired key budget s
        return (line :: lines, s)
      else return ([], s)
    | [] => return ([], s)

/-- Goes through two files that are joined.  The budget has to be more than the number of lines. -/
def joinSides (x : Joining) (name mark : String) : Nat → Bool → JoinSide → JoinSide →
    Run (Bool × JoinSide × JoinSide)
  | 0, unpaired, s, t => return (unpaired, s, t)
  | budget + 1, unpaired, s, t => do
    match s.left, t.left with
    | a :: _, b :: _ =>
      match compareTexts (x.key false a) (x.key true b) with
      | .lt => do
        if x.showsFirst then print (x.text (some a) none ++ mark)
        joinSides x name mark budget true (← s.next x name false unpaired) t
      | .gt => do
        if x.showsSecond then print (x.text none (some b) ++ mark)
        joinSides x name mark budget true s (← t.next x name true unpaired)
      | .eq => do
        let key := x.key false a
        let (firsts, s) ← s.takeKey x name false unpaired key s.left.length
        let (seconds, t) ← t.takeKey x name true unpaired key t.left.length
        if x.showsPairs then
          for a in firsts do
            for b in seconds do print (x.text (some a) (some b) ++ mark)
        joinSides x name mark budget unpaired s t
    | _, _ => return (unpaired, s, t)

/-- Goes through what is left of one file. -/
def joinTail (x : Joining) (name mark : String) (second shows unpaired : Bool) :
    Nat → JoinSide → Run JoinSide
  | 0, s => return s
  | budget + 1, s => do
    match s.left with
    | [] => return s
    | line :: _ =>
      if shows then
        let text := if second then x.text none (some line) else x.text (some line) none
        print (text ++ mark)
      joinTail x name mark second shows unpaired budget (← s.next x name second unpaired)

/-- The number of a field. -/
def fieldNumber (name text : String) : Run Nat := do
  match Number.ofDigits? text with
  | some (n + 1) => return n
  | _ => fail name ("invalid field number: " ++ (← cited text)) 1

/-- The places that a list names. -/
def readPlaces (name text : String) : Run (List JoinPlace) := do
  let words := (text.map fun c => if c = ',' || c = '\t' then ' ' else c).splitOn " "
  (words.filter (· ≠ "")).mapM fun word => do
    match word.toList with
    | ['0'] => return .key
    | side :: '.' :: digits =>
      if side = '1' || side = '2' then
        return .field (side.toNat - '0'.toNat) (← fieldNumber name (String.ofList digits))
      else fail name ("invalid file number in field spec: " ++ (← cited word)) 1
    | c :: _ =>
      if c = '0' || c = '1' || c = '2' then
        fail name ("invalid field specifier: " ++ (← cited word)) 1
      else fail name ("invalid file number in field spec: " ++ (← cited word)) 1
    | [] => return .key

/-- The options of `join`. -/
def joinSyntax : Syntax where
  flags := "iz"
  valued := "12aejotv"
  long := [⟨"ignore-case", 'i', .no⟩, ⟨"check-order", 'K', .no⟩, ⟨"nocheck-order", 'N', .no⟩,
    ⟨"zero-terminated", 'z', .no⟩, ⟨"header", 'H', .no⟩]
  permutes := true
  status := 1

/-- The numbers of the files that options name. -/
def fileNumbers (name : String) (given : List Given) (letter : Char) : Run (List Nat) :=
  (given.filter fun (c, _) => c = letter).mapM fun (_, text) => do
    match Number.ofDigits? text with
    | some n =>
      if n = 1 || n = 2 then return n
      else fail name ("invalid file number: " ++ (← cited text)) 1
    | none => fail name ("invalid file number: " ++ (← cited text)) 1

/-- Joins two files. -/
def join : Body := fun name arguments => do
  let (given, operands) ← options name joinSyntax arguments
  let unpairedSides ← fileNumbers name given 'a'
  let onlyUnpaired ← fileNumbers name given 'v'
  let keyOf (letter : Char) : Run Nat := do
    match (given.reverse).find? fun (c, _) => c = letter || c = 'j' with
    | some (_, text) => fieldNumber name text
    | none => return 0
  let firstKey ← keyOf '1'
  let secondKey ← keyOf '2'
  let mark ← match valueOf given 't' with
    | none => pure none
    | some "" => pure (some '\n')
    | some text =>
      if text = "\\0" then pure (some '\x00')
      else if 1 < text.length then fail name ("multi-character tab " ++ (← cited text)) 1
      else pure text.toList.head?
  let automatic := valueOf given 'o' = some "auto"
  let listed ← match valueOf given 'o' with
    | some text => if automatic then pure none else some <$> readPlaces name text
    | none => pure none
  let (a, b) ← twoOperands name true operands
  if a = "-" && b = "-" then fail name "both files cannot be standard input" 1
  let sides := unpairedSides ++ onlyUnpaired
  let x : Joining :=
    ⟨firstKey, secondKey, mark, has given 'i', (valueOf given 'e').getD "", listed,
      sides.contains 1, sides.contains 2, onlyUnpaired.isEmpty, watchOf given⟩
  let newline := recordMark given
  let first := (← linesOfOperand name true a newline).map x.line
  let second := (← linesOfOperand name true b newline).map x.line
  let width (lines : List FieldLine) : Nat := (lines.head?.map (·.fields.size)).getD 0
  let fieldsOf (side key : Nat) (lines : List FieldLine) : List JoinPlace :=
    (List.range (width lines)).filterMap fun i => if i = key then none else some (.field side i)
  let x := if automatic then
      { x with places := some (.key :: fieldsOf 1 firstKey first ++ fieldsOf 2 secondKey second) }
    else x
  let behind := newline.toString
  let (first, second, skipped) ←
    if has given 'H' && (!first.isEmpty || !second.isEmpty) then do
      print (x.text first.head? second.head? ++ behind)
      pure (first.drop 1, second.drop 1, 1)
    else pure (first, second, 0)
  let budget := first.length + second.length + 1
  let (unpaired, s, t) ← joinSides x name behind budget false
    ⟨a, first, none, 1 + skipped, false⟩ ⟨b, second, none, 1 + skipped, false⟩
  let s ← joinTail x name behind false x.showsFirst (unpaired || !t.left.isEmpty) budget s
  let t ← joinTail x name behind true x.showsSecond (unpaired || !s.left.isEmpty) budget t
  if s.disordered || t.disordered then fail name "input is not in sorted order" 1
  finish name 0

end CountedStrings.Shell.Utility
