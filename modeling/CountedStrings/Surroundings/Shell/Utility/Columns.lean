import CountedStrings.Surroundings.Shell.Regular
import CountedStrings.Surroundings.Shell.Utility.Basic

/-!
# Utilities for lines and columns

They take lines apart, put them side by side, number them, and change how wide they are.

## 1.  Parts of lines

`cut` prints the bytes or fields that a list of ranges names.

## 2.  Lines side by side

`paste` puts the lines of files side by side, or those of one file behind each other.

## 3.  Numbers in front of lines

`nl` numbers lines; some lines mark where the header, the body and the footer of a page begin.

## 4.  Widths

`fold` breaks lines, `expand` puts blanks in place of tabs, and `unexpand` tabs in place of blanks.
-/

namespace CountedStrings.Shell.Utility

/-! ## 1.  Parts of lines -/

/-- Numbers from one to another, or from one on. -/
structure Range where
  first : Nat
  last : Option Nat

/-- Whether a number is in a range. -/
def Range.holds (r : Range) (n : Nat) : Bool := r.first ≤ n && r.last.all (n ≤ ·)

/-- What the complaints about a list of ranges are about. -/
structure RangeWords where
  fromOne : String
  badRange : String
  tooLarge : String
  badValue : String

/-- The words for bytes. -/
def byteWords : RangeWords where
  fromOne := "byte/character positions are numbered from 1"
  badRange := "invalid byte or character range"
  tooLarge := "byte/character offset "
  badValue := "invalid byte/character position "

/-- The words for fields. -/
def fieldWords : RangeWords where
  fromOne := "fields are numbered from 1"
  badRange := "invalid field range"
  tooLarge := "field number "
  badValue := "invalid field value "

/-- The end of a range in a list, if it is given. -/
def rangeEnd (name : String) (words : RangeWords) (digits : List Char) : Run (Option Nat) := do
  let n := Number.digitsValue 10 digits
  if digits.isEmpty then return none
  else if Nat.pow 2 64 - 1 ≤ n then
    misused name (words.tooLarge ++ (← cited (String.ofList digits)) ++ " is too large") 1
  else return some n

/-- The ranges of a list. -/
def ranges (name : String) (words : RangeWords) : Nat → List Char → Run (List Range)
  | 0, _ => return []
  | budget + 1, cs => do
    let low := cs.takeWhile Char.isDigit
    let first ← rangeEnd name words low
    let cs := cs.drop low.length
    let (range, rest) ← match cs with
      | '-' :: cs => do
        if first = some 0 then misused name words.fromOne 1
        let high := cs.takeWhile Char.isDigit
        let last ← rangeEnd name words high
        if cs.drop high.length |>.head? |>.any (· = '-') then misused name words.badRange 1
        let isEnd := (cs.drop high.length).head?.all fun c => c = ',' || c = ' ' || c = '\t'
        if first.isNone && last.isNone && isEnd then
          misused name "invalid range with no endpoint: -" 1
        if last.any (· < first.getD 1) && isEnd then misused name "invalid decreasing range" 1
        pure (Range.mk (first.getD 1) last, cs.drop high.length)
      | cs => do
        let isEnd := cs.head?.all fun c => c = ',' || c = ' ' || c = '\t'
        if first.getD 0 = 0 && isEnd then misused name words.fromOne 1
        pure (Range.mk (first.getD 1) first, cs)
    match rest with
    | [] => return [range]
    | c :: behind =>
      if c = ',' || c = ' ' || c = '\t' then return range :: (← ranges name words budget behind)
      else misused name (words.badValue ++ (← cited (String.ofList rest))) 1

/-- Ranges in ascending order, those that overlap put together. -/
def mergeRanges (all : List Range) : List Range :=
  let sorted := all.mergeSort fun a b => a.first ≤ b.first
  let merged := sorted.foldl (fun (done : List Range) r =>
    match done with
    | [] => [r]
    | last :: others =>
      if last.last.all (r.first ≤ ·) then
        let stop := match last.last, r.last with
          | some a, some b => some (max a b)
          | _, _ => none
        ⟨last.first, stop⟩ :: others
      else r :: done) []
  merged.reverse

/-- The numbers between ranges in ascending order, from a number on. -/
def rangesBetween : Nat → List Range → List Range
  | low, [] => [⟨low, none⟩]
  | low, r :: others =>
    let front : List Range := if low < r.first then [⟨low, some (r.first - 1)⟩] else []
    match r.last with
    | none => front
    | some last => front ++ rangesBetween (max low (last + 1)) others

/-- What `cut` cuts out. -/
structure Cutting where
  ranges : List Range
  /-- The character between fields, unless bytes are cut out. -/
  field : Option Char
  /-- What is printed between parts, if that was said. -/
  between : Option String
  /-- Whether lines without a field mark are left out. -/
  suppresses : Bool

/-- The bytes of a line that are cut out. -/
def Cutting.bytes (x : Cutting) (cs : List Char) : List Char :=
  let parts := x.ranges.map fun r =>
    let part := cs.drop (r.first - 1)
    match r.last with
    | none => part
    | some last => part.take (last + 1 - r.first)
  match x.between with
  | none => parts.flatten
  | some text => text.toList.intercalate (parts.filter (!·.isEmpty))

/-- What is printed of a line, if anything is. -/
def Cutting.line (x : Cutting) (line : String) : Option String :=
  match x.field with
  | none => some (String.ofList (x.bytes line.toList))
  | some mark =>
    let parts := line.splitOn mark.toString
    match parts with
    | [_] => if x.suppresses then none else some line
    | _ =>
      let kept := (parts.zipIdx 1).filter fun (_, n) => x.ranges.any (·.holds n)
      some ((x.between.getD mark.toString).intercalate (kept.map (·.1)))

/-- The options of `cut`. -/
def cutSyntax : Syntax where
  flags := "nsz"
  valued := "bcdf"
  long := [⟨"bytes", 'b', .yes⟩, ⟨"characters", 'c', .yes⟩, ⟨"fields", 'f', .yes⟩,
    ⟨"delimiter", 'd', .yes⟩, ⟨"only-delimited", 's', .no⟩, ⟨"output-delimiter", 'O', .yes⟩,
    ⟨"complement", 'C', .no⟩, ⟨"zero-terminated", 'z', .no⟩]
  permutes := true
  status := 1

/-- Prints parts of lines. -/
def cut : Body := fun name arguments => do
  let (given, operands) ← options name cutSyntax arguments
  let lists := given.filter fun (c, _) => c = 'b' || c = 'c' || c = 'f'
  if 1 < lists.length then misused name "only one list may be specified" 1
  let delimiter := valueOf given 'd'
  if delimiter.any fun d => 1 < d.length then
    misused name "the delimiter must be a single character" 1
  match lists with
  | [] => misused name "you must specify a list of bytes, characters, or fields" 1
  | (kind, list) :: _ =>
    let byFields := kind = 'f'
    if !byFields && delimiter.isSome then
      misused name "an input delimiter may be specified only when operating on fields" 1
    if !byFields && has given 's' then
      misused name
        "suppressing non-delimited lines makes sense\n\tonly when operating on fields" 1
    let words := if byFields then fieldWords else byteWords
    let all ← ranges name words (list.length + 1) list.toList
    let merged := mergeRanges all
    let chosen := if has given 'C' then rangesBetween 1 merged else merged
    let mark := ((delimiter.getD "\t").toList).headD '\x00'
    let x : Cutting :=
      ⟨chosen, if byFields then some mark else none, valueOf given 'O', has given 's'⟩
    let behind := (recordMark given).toString
    let recordsIn (text : String) : List String :=
      if byFields && mark = recordMark given then
        [if text.endsWith behind then (text.dropEnd 1).toString else text].filter fun _ => text ≠ ""
      else recordsOf (recordMark given) text
    let status ← forEachContent name operands fun _ bytes =>
      for line in recordsIn (textOf bytes) do
        match x.line line with
        | some text => print (text ++ behind)
        | none => pure ()
    finish name (← closeInput name "-" operands status)

/-! ## 2.  Lines side by side -/

/-- The delimiters of a list, each a text of at most one character. -/
def delimitersOf : List Char → Option (List String)
  | [] => some []
  | ['\\'] => none
  | '\\' :: c :: rest =>
    let text := match c with
      | '0' => ""
      | 'b' => "\x08"
      | 'f' => "\x0c"
      | 'n' => "\n"
      | 'r' => "\x0d"
      | 't' => "\t"
      | 'v' => "\x0b"
      | c => c.toString
    (delimitersOf rest).map (text :: ·)
  | c :: rest => (delimitersOf rest).map (c.toString :: ·)

/-- Texts with delimiters between them, which are used over and over. -/
def joinedBy (delimiters : Array String) (texts : List String) : String :=
  String.join ((texts.zipIdx).map fun (text, i) =>
    (if i = 0 then "" else delimiters[(i - 1) % delimiters.size]?.getD "") ++ text)

/-- Takes one line from each of the files that are read side by side, given by their numbers. -/
def takeLines (files : List Nat) (left : Array (List String)) :
    List (Option String) × Array (List String) :=
  files.foldl (fun (lines, left) file =>
    match left[file]?.getD [] with
    | [] => (lines ++ [none], left)
    | line :: rest => (lines ++ [some line], left.setIfInBounds file rest)) ([], left)

/-- Lines of files side by side.  The budget has to be more than the number of lines. -/
def sideBySide (delimiters : Array String) (files : List Nat) :
    Nat → Array (List String) → List String
  | 0, _ => []
  | budget + 1, left =>
    let (lines, left) := takeLines files left
    if lines.all (·.isNone) then []
    else joinedBy delimiters (lines.map (·.getD "")) :: sideBySide delimiters files budget left

/-- What of a line is printed when the next one of its parts turns out to be missing: all up to the last
part that is there, and the delimiter behind it. -/
def startOfLine (delimiters : Array String) (parts : List (Option String)) : String :=
  let kept := (parts.reverse.dropWhile (·.isNone)).reverse
  joinedBy delimiters ((kept.map (·.getD "")) ++ if kept.isEmpty then [] else [""])

/-- Puts lines side by side. -/
def paste : Body := fun name arguments => do
  let x : Syntax :=
    ⟨"sz", "d", [⟨"delimiters", 'd', .yes⟩, ⟨"serial", 's', .no⟩, ⟨"zero-terminated", 'z', .no⟩],
      true, 1⟩
  let (given, operands) ← options name x arguments
  let written := (valueOf given 'd').getD "\t"
  let operands := orInput operands
  let mark := recordMark given
  match delimitersOf (if written = "" then ['\\', '0'] else written.toList) with
  | none =>
    fail name ("delimiter list ends with an unescaped backslash: " ++ written) 1
  | some delimiters =>
    let delimiters := delimiters.toArray
    if has given 's' then
      let mut status := 0
      for operand in operands do
        match ← contentOf operand with
        | .ok bytes =>
          print (joinedBy delimiters (recordsOf mark (textOf bytes)) ++ mark.toString)
        | .error e =>
          if let .reading _ := e then print mark.toString
          report name (quotedIfNeeded true operand ++ ": " ++ e.message)
          status := 1
      finish name (← closeInput name "-" operands status)
    else
      let distinct := operands.eraseDups.filter (· = "-") ++ operands.filter (· ≠ "-")
      let mut left : Array (List String) := #[]
      let mut unread := []
      for operand in distinct do
        match ← contentOf operand with
        | .ok bytes => left := left.push (recordsOf mark (textOf bytes))
        | .error (.opening e) => fail name (quotedIfNeeded true operand ++ ": " ++ e.message) 1
        | .error (.reading e) =>
          left := left.push []
          unread := (operand, e) :: unread
      let named := if operands.contains "-" then 1 else 0
      let files := (operands.foldl (fun (state : List Nat × Nat) operand =>
        if operand = "-" then (state.1 ++ [0], state.2)
        else (state.1 ++ [state.2], state.2 + 1)) ([], named)).1
      let total := (left.toList.map List.length).foldl (· + ·) 0
      let lines := sideBySide delimiters files (total + 1) left
      let (firsts, _) := takeLines files left
      let mut shown := 0
      let mut status := 0
      for (operand, i) in operands.zipIdx do
        if let some e := unread.lookup operand then
          let front := startOfLine delimiters (firsts.take i)
          print ((lines.headD "").drop shown |>.take (front.length - shown)).toString
          shown := front.length
          report name (quotedIfNeeded true operand ++ ": " ++ e.message)
          status := 1
      match lines with
      | [] => pure ()
      | first :: rest =>
        print ((first.drop shown).toString ++ mark.toString)
        for line in rest do print (line ++ mark.toString)
      finish name (← closeInput name "-" operands status)

/-! ## 3.  Numbers in front of lines -/

/-- Which lines of a section are numbered. -/
inductive Numbered where
  | all
  | filled
  | no
  | matching (r : Regular)

/-- How `nl` numbers lines. -/
structure Numbering where
  header : Numbered
  body : Numbered
  footer : Numbered
  first : Int
  step : Int
  /-- How many blank lines count as one. -/
  joined : Nat
  width : Nat
  format : String
  behind : String
  /-- What the lines between sections are made of. -/
  mark : String
  restarts : Bool

/-- What is known while lines are numbered. -/
structure NumberingState where
  number : Int
  blanks : Nat
  section_ : Numbered

/-- A number as it stands in front of a line. -/
def Numbering.numberText (x : Numbering) (n : Int) : String :=
  let digits := toString n.natAbs
  let sign := if n < 0 then "-" else ""
  let room := x.width - (sign ++ digits).length
  let filling (c : Char) : String := String.ofList (List.replicate room c)
  match x.format with
  | "ln" => sign ++ digits ++ filling ' '
  | "rz" => sign ++ filling '0' ++ digits
  | _ => filling ' ' ++ sign ++ digits

/-- Numbers one line. -/
def Numbering.line (x : Numbering) (state : NumberingState) (line : String) :
    NumberingState × String :=
  let enter (which : Numbered) : NumberingState × String :=
    (⟨if x.restarts then x.first else state.number, state.blanks, which⟩, "")
  let numbered := (⟨state.number + x.step, 0, state.section_⟩,
    x.numberText state.number ++ x.behind ++ line)
  let plain := (state, String.ofList (List.replicate (x.width + x.behind.length) ' ') ++ line)
  if x.mark ≠ "" && line = x.mark ++ x.mark ++ x.mark then enter x.header
  else if x.mark ≠ "" && line = x.mark ++ x.mark then enter x.body
  else if x.mark ≠ "" && line = x.mark then enter x.footer
  else
    match state.section_ with
    | .all =>
      if x.joined ≤ 1 || line ≠ "" || state.blanks + 1 = x.joined then numbered
      else (⟨state.number, state.blanks + 1, state.section_⟩, plain.2)
    | .filled => if line = "" then plain else numbered
    | .no => plain
    | .matching r => if r.occursIn line.toList then numbered else plain

/-- The options of `nl`. -/
def nlSyntax : Syntax where
  flags := "p"
  valued := "bdfhilnsvw"
  long := [⟨"header-numbering", 'h', .yes⟩, ⟨"body-numbering", 'b', .yes⟩,
    ⟨"footer-numbering", 'f', .yes⟩, ⟨"starting-line-number", 'v', .yes⟩,
    ⟨"line-increment", 'i', .yes⟩, ⟨"no-renumber", 'p', .no⟩, ⟨"join-blank-lines", 'l', .yes⟩,
    ⟨"number-separator", 's', .yes⟩, ⟨"number-width", 'w', .yes⟩, ⟨"number-format", 'n', .yes⟩,
    ⟨"section-delimiter", 'd', .yes⟩]
  permutes := true
  status := 1

/-- Which lines of a section an option asks to number. -/
def numberedBy (name what : String) (given : Option String) (usual : Numbered) : Run Numbered := do
  match given with
  | none => return usual
  | some text =>
    match text.toList with
    | ['a'] => return .all
    | ['t'] => return .filled
    | ['n'] => return .no
    | 'p' :: cs =>
      match Regular.ofText (String.ofList cs) with
      | .ok r => return .matching r
      | .error e => fail name e.message 1
    | _ => misused name ("invalid " ++ what ++ " numbering style: " ++ (← cited text)) 1

/-- A number that an option gives. -/
def givenWhole (name what : String) (given : List Given) (letter : Char) (usual least most : Int) :
    Run Int := do
  let mut n := usual
  for (other, text) in given do
    if other = letter then n := ← wholeWithin name what text least most
  return n

/-- Numbers lines. -/
def nl : Body := fun name arguments => do
  let (given, operands) ← options name nlSyntax arguments
  let value := valueOf given
  let header ← numberedBy name "header" (value 'h') .no
  let body ← numberedBy name "body" (value 'b') .filled
  let footer ← numberedBy name "footer" (value 'f') .no
  let first ← givenWhole name "invalid starting line number" given 'v' 1 Number.smallest
    Number.largest
  let step ← givenWhole name "invalid line number increment" given 'i' 1 Number.smallest
    Number.largest
  let joined ← givenWhole name "invalid line number of blank lines" given 'l' 1 1 Number.largest
  let width ← givenWhole name "invalid line number field width" given 'w' 6 1 2147483647
  let format := (value 'n').getD "rn"
  if !(["ln", "rn", "rz"].contains format) then
    misused name ("invalid line numbering format: " ++ (← cited format)) 1
  let mark := match (value 'd').map String.toList with
    | some [c] => String.ofList [c, ':']
    | some cs => String.ofList cs
    | none => "\\:"
  let x : Numbering :=
    ⟨header, body, footer, first, step, joined.toNat, width.toNat, format,
      (value 's').getD "\t", mark, !has given 'p'⟩
  let mut state : NumberingState := ⟨first, 0, body⟩
  let mut status := 0
  for operand in orInput operands do
    match ← contentOf operand with
    | .ok bytes =>
      for line in linesOf (textOf bytes) do
        let (after, text) := x.line state line
        state := after
        print (text ++ "\n")
    | .error e =>
      report name (quotedIfNeeded true operand ++ ": " ++ e.message)
      status := 1
  finish name (← closeInput name "-" operands status)

/-! ## 4.  Widths -/

/-- The operands of old whose first is a number behind a dash, with the number behind an option. -/
def modernWidth (option : String) : List String → List String
  | [] => []
  | argument :: rest =>
    match argument.toList with
    | '-' :: c :: cs =>
      if c.isDigit then option :: String.ofList (c :: cs) :: modernWidth option rest
      else argument :: modernWidth option rest
    | _ => argument :: modernWidth option rest

/-- Whether a character is a blank within a line. -/
def isLineBlank (c : Char) : Bool := c = ' ' || c = '\t'

/-- The column behind a character. -/
def columnBehind (byBytes : Bool) (column : Nat) (c : Char) : Nat :=
  if byBytes then column + 1
  else if c = '\x08' then column - 1
  else if c = '\x0d' then 0
  else if c = '\t' then column + (8 - column % 8)
  else column + 1

/-- How `fold` breaks lines. -/
structure Folding where
  width : Nat
  byBytes : Bool
  atBlanks : Bool

/-- Adds a character to a line, which is given in reverse with the column behind it; gives what is
finished, in reverse too.  The budget has to be more than the length of the line by two. -/
def Folding.add (x : Folding) (c : Char) : Nat → List Char → Nat → List Char →
    List Char × Nat × List Char
  | 0, line, column, done => (c :: line, column, done)
  | budget + 1, line, column, done =>
    let next := columnBehind x.byBytes column c
    if next ≤ x.width then (c :: line, next, done)
    else
      let behind := if x.atBlanks then line.takeWhile (!isLineBlank ·) else line
      if x.atBlanks && behind.length < line.length then
        let front := line.drop behind.length
        let column := behind.reverse.foldl (columnBehind x.byBytes) 0
        x.add c budget behind column ('\n' :: front ++ done)
      else if line.isEmpty then ([c], next, done)
      else x.add c budget [] 0 ('\n' :: line ++ done)

/-- A text with its lines broken. -/
def Folding.text (x : Folding) (text : String) : String :=
  let (line, _, done) := text.foldl (fun (state : List Char × Nat × List Char) c =>
    let (line, column, done) := state
    if c = '\n' then ([], 0, '\n' :: line ++ done)
    else x.add c (line.length + 3) line column done) ([], 0, [])
  String.ofList (line ++ done).reverse

/-- Breaks lines. -/
def fold : Body := fun name arguments => do
  let x : Syntax :=
    ⟨"bs", "w", [⟨"bytes", 'b', .no⟩, ⟨"spaces", 's', .no⟩, ⟨"width", 'w', .yes⟩], true, 1⟩
  let withLetter (argument : String) : List String :=
    match argument.toList with
    | '-' :: cs =>
      let flags := cs.takeWhile fun c => c = 'b' || c = 's'
      match cs.drop flags.length with
      | c :: rest =>
        if c.isDigit then [String.ofList ('-' :: flags ++ 'w' :: c :: rest)] else [argument]
      | [] => [argument]
    | _ => [argument]
  let (given, operands) ← options name x (changeFree x withLetter arguments)
  let width ← givenWhole name "invalid number of columns" given 'w' 80 1
    (Int.pow 2 64 - 10)
  let f : Folding := ⟨width.toNat, has given 'b', has given 's'⟩
  let status ← forEachContent name operands fun _ bytes => print (f.text (textOf bytes))
  finish name (← closeInput name "-" operands status)

/-- Where tabs lead to. -/
structure TabStops where
  /-- The columns of the first stops. -/
  stops : List Nat
  /-- How far the stops behind them are from each other, and where their grid begins. -/
  grid : Option (Nat × Nat)

/-- The next stop behind a column, unless the last stop is left behind. -/
def TabStops.next? (t : TabStops) (column : Nat) : Option Nat :=
  match t.stops.find? (column < ·) with
  | some stop => some stop
  | none => t.grid.map fun (size, origin) => column + (size - (column - origin) % size)

/-- One entry of a list of tab stops: a mark in front of it, and its number. -/
structure TabEntry where
  mark : Option Char
  column : Nat

/-- The entries of a list of tab stops. -/
def tabEntries (name : String) : Nat → Option Char → List Char → Run (List TabEntry)
  | 0, _, _ => return []
  | budget + 1, mark, cs =>
    match cs with
    | [] => return []
    | c :: rest => do
      if c = ',' || isLineBlank c then tabEntries name budget none rest
      else if c = '/' || c = '+' then tabEntries name budget (some c) rest
      else if c.isDigit then
        let digits := cs.takeWhile Char.isDigit
        let n := Number.digitsValue 10 digits
        if Nat.pow 2 63 ≤ n then
          fail name ("tab stop is too large " ++ (← cited (String.ofList digits))) 1
        let rest := cs.drop digits.length
        if rest.head?.any fun c => c = '/' || c = '+' then
          let c := (rest.headD '/').toString
          fail name ("'" ++ c ++ "' specifier not at start of number: " ++
            (← cited (String.ofList rest))) 1
        return ⟨mark, n⟩ :: (← tabEntries name budget none rest)
      else fail name ("tab size contains invalid character(s): " ++ (← cited (String.ofList cs))) 1

/-- The tab stops of entries. -/
def tabStopsOf (name : String) (entries : List TabEntry) : Run TabStops := do
  let stops := (entries.filter (·.mark.isNone)).map (·.column)
  for (a, b) in (0 :: stops).zip stops do
    if b = 0 then fail name "tab size cannot be 0" 1
    if b ≤ a then fail name "tab sizes must be ascending" 1
  let marked := (entries.filter (·.mark.isSome)).getLast?
  match stops, marked with
  | [], none => return ⟨[], some (8, 0)⟩
  | [size], none => return ⟨[], some (size, 0)⟩
  | stops, none => return ⟨stops, none⟩
  | stops, some e =>
    let origin := if e.mark = some '+' then (stops.getLast?).getD 0 else 0
    return ⟨stops, if e.column = 0 then none else some (e.column, origin)⟩

/-- The tab stops that options ask for. -/
def tabStops (name : String) (given : List Given) : Run TabStops := do
  let mut entries := []
  for (c, text) in given do
    if c = 't' then entries := entries ++ (← tabEntries name (text.length + 1) none text.toList)
  tabStopsOf name entries

/-- What is known while tabs are replaced. -/
structure ExpandState where
  column : Nat
  /-- Whether tabs are still replaced. -/
  active : Bool

/-- What is printed for a character. -/
def expandStep (t : TabStops) (whole : Bool) (state : ExpandState) (c : Char) :
    ExpandState × List Char :=
  if c = '\n' then (⟨0, true⟩, [c])
  else if !state.active then (state, [c])
  else
    let active := whole || isLineBlank c
    if c = '\t' then
      let stop := (t.next? state.column).getD (state.column + 1)
      (⟨stop, active⟩, List.replicate (stop - state.column) ' ')
    else if c = '\x08' then (⟨state.column - 1, active⟩, [c])
    else (⟨state.column + 1, active⟩, [c])

/-- Prints what becomes of the characters of all operands that can be read, one by one; gives the state
at the end, and the status. -/
def passContents {σ : Type} (name : String) (operands : List String) (start : σ)
    (step : σ → Char → σ × List Char) : Run (σ × Nat) := do
  let mut state := start
  let mut status := 0
  for operand in orInput operands do
    match ← contentOf operand with
    | .ok bytes =>
      let (after, done) := (textOf bytes).foldl (fun (state : σ × List Char) c =>
        let (after, text) := step state.1 c
        (after, text.reverse ++ state.2)) (state, [])
      state := after
      print (String.ofList done.reverse)
    | .error e =>
      report name (quotedIfNeeded true operand ++ ": " ++ e.message)
      status := 1
  return (state, ← closeInput name "-" operands status)

/-- Puts blanks in place of tabs. -/
def expand : Body := fun name arguments => do
  let x : Syntax := ⟨"i", "t", [⟨"initial", 'i', .no⟩, ⟨"tabs", 't', .yes⟩], true, 1⟩
  let (given, operands) ← options name x (modernWidth "-t" arguments)
  let t ← tabStops name given
  let (_, status) ← passContents name operands ⟨0, true⟩ (expandStep t (!has given 'i'))
  finish name status

/-- What is known while blanks are replaced. -/
structure UnexpandState where
  column : Nat
  active : Bool
  /-- The blanks that may become a tab, in reverse. -/
  pending : List Char
  /-- Whether the only pending blank stands right in front of a tab stop. -/
  lone : Bool
  /-- Whether the last character was a blank. -/
  blank : Bool

/-- At the start of a line. -/
def UnexpandState.atStart : UnexpandState := ⟨0, true, [], false, true⟩

/-- What is printed of pending blanks. -/
def UnexpandState.released (state : UnexpandState) : List Char :=
  match state.pending.reverse with
  | _ :: b :: rest => (if state.lone then '\t' else ' ') :: b :: rest
  | cs => cs

/-- What is printed for a character. -/
def unexpandStep (t : TabStops) (whole : Bool) (state : UnexpandState) (c : Char) :
    UnexpandState × List Char :=
  if !state.active then (if c = '\n' then .atStart else state, [c])
  else
    let emit (state : UnexpandState) (active : Bool) (c : Char) : UnexpandState × List Char :=
      let text := state.released ++ [c]
      (if c = '\n' then .atStart
        else ⟨state.column, active, [], false, isLineBlank c⟩, text)
    if isLineBlank c then
      match t.next? state.column with
      | none => emit state false c
      | some stop =>
        let tabs : List Char := if state.lone then ['\t'] else []
        if c = '\t' then
          emit { state with column := stop, pending := if state.pending.isEmpty then [] else tabs }
            true c
        else
          let column := state.column + 1
          if state.blank && column = stop then
            emit { state with column := column, pending := tabs } true '\t'
          else
            (⟨column, true, c :: state.pending, state.lone || column = stop, true⟩, [])
    else
      let column := if c = '\x08' then state.column - 1 else state.column + 1
      emit { state with column := column } whole c

/-- Puts tabs in place of blanks. -/
def unexpand : Body := fun name arguments => do
  let x : Syntax :=
    ⟨"a", "t", [⟨"all", 'a', .no⟩, ⟨"first-only", 'f', .no⟩, ⟨"tabs", 't', .yes⟩], true, 1⟩
  let (given, operands) ← options name x (modernWidth "-t" arguments)
  let t ← tabStops name given
  let whole := (has given 'a' || has given 't') && !has given 'f'
  let (state, status) ← passContents name operands .atStart (unexpandStep t whole)
  print (String.ofList state.released)
  finish name status

end CountedStrings.Shell.Utility
