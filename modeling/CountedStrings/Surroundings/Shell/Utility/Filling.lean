import CountedStrings.Surroundings.Shell.Utility.Basic

/-!
# Filled paragraphs

`fmt` breaks the lines of paragraphs anew, so that they are about as long as is wanted.

## 1.  Words

The words of a paragraph, with the blanks behind them and what is known about the ends of sentences.

## 2.  Reading

A paragraph goes on as long as its lines are indented alike.  Lines that do not begin in the way that is
wanted are copied.

## 3.  Breaking

Each way to break a paragraph has a cost: of lines that are too short, of lines that differ much from
the next one, and of breaks at bad places.  The cheapest way is found from the end of the paragraph.

## 4.  Writing

The lines of a paragraph with their indentation.
-/

namespace CountedStrings.Shell.Utility

/-! ## 1.  Words -/

/-- A word of a paragraph. -/
structure FilledWord where
  text : String
  length : Nat
  /-- How many blanks stand behind it. -/
  space : Nat
  /-- Whether it begins with an opening mark. -/
  opens : Bool
  /-- Whether it ends like a sentence. -/
  isPeriod : Bool
  /-- Whether it ends with a mark. -/
  isMarked : Bool
  /-- Whether it is the last one of a sentence. -/
  isFinal : Bool

/-- Whether a character is a mark. -/
def isMark (c : Char) : Bool := 0x20 < c.toNat && c.toNat < 0x7F && !c.isAlphanum

/-- Whether words end at a character. -/
def endsWord (c : Char) : Bool := [' ', '\t', '\n', '\x0b', '\x0c', '\r'].contains c

/-- A word with blanks behind it. -/
def FilledWord.ofText (cs : List Char) (space : Nat) (isFinal : Bool → Bool) : FilledWord :=
  let bare := match cs with
    | [] => []
    | c :: rest => c :: (rest.reverse.dropWhile [')', ']', '\'', '"'].contains).reverse
  let isPeriod := bare.getLast?.any ['.', '?', '!'].contains
  ⟨String.ofList cs, cs.length, space, cs.head?.any ['(', '[', '\'', '\x60', '"'].contains, isPeriod,
    cs.getLast?.any isMark, isFinal isPeriod⟩

/-! ## 2.  Reading -/

/-- How `fmt` works. -/
structure FillWay where
  width : Nat
  goal : Nat
  /-- Whether the first two lines say how a paragraph is indented. -/
  crown : Bool
  /-- The same, where the two lines have to differ. -/
  tagged : Bool
  splits : Bool
  uniform : Bool
  /-- The blanks that have to stand in front of the beginning. -/
  lead : Nat
  /-- The beginning that lines have to have, without the blanks behind it. -/
  beginning : List Char
  /-- How long the beginning is with the blanks behind it. -/
  wholeLength : Nat

/-- What is left of a text, and what is known about the line that begins there. -/
structure FillText where
  rest : List Char
  column : Nat
  /-- Whether tabs were read. -/
  hasTabs : Bool
  /-- Where the beginning of the line stands. -/
  indent : Nat
  /-- The indentation of all lines of a paragraph but the first. -/
  other : Nat

namespace FillText

/-- Behind the blanks at the start of the rest. -/
def blanks (x : FillText) : FillText :=
  let step (x : FillText) (c : Char) : FillText :=
    if c = '\t' then { x with column := (x.column / 8 + 1) * 8, hasTabs := true }
    else { x with column := x.column + 1 }
  let gap := x.rest.takeWhile fun c => c = ' ' || c = '\t'
  { gap.foldl step x with rest := x.rest.drop gap.length }

/-- Behind as much of the wanted beginning as stands there, and whether all of it does. -/
def matched (x : FillText) : List Char → FillText × Bool
  | [] => (x, true)
  | c :: cs =>
    if x.rest.head? = some c then
      { x with rest := x.rest.drop 1, column := x.column + 1 }.matched cs
    else (x, false)

/-- Behind the beginning of a line. -/
def enterLine (way : FillWay) (x : FillText) : FillText :=
  let x := { x with column := 0 }.blanks
  if way.beginning.isEmpty then { x with indent := min way.lead x.column }
  else
    let (x, isWhole) := { x with indent := x.column }.matched way.beginning
    if isWhole then x.blanks else x

/-- Whether there is nothing left of the line, or nothing left at all. -/
def isBare (x : FillText) : Bool := x.rest.head?.all (· = '\n')

/-- Whether the line begins in the way that is wanted. -/
def isWanted (way : FillWay) (x : FillText) : Bool :=
  !x.isBare && way.lead ≤ x.indent && x.indent + way.wholeLength ≤ x.column

/-- Whether the line can belong to a paragraph with the given place of its beginning. -/
def continues (way : FillWay) (indent : Nat) (x : FillText) : Bool :=
  x.indent = indent && x.indent + way.wholeLength ≤ x.column && !x.isBare

/-- The words of a line, and the text behind it.  The budget has to be more than its length. -/
def words (way : FillWay) : Nat → FillText → List FilledWord × FillText
  | 0, x => ([], x)
  | budget + 1, x =>
    let cs := match x.rest with
      | [] => []
      | c :: rest => c :: rest.takeWhile fun c => !endsWord c
    let x := { x with rest := x.rest.drop cs.length, column := x.column + cs.length }
    let start := x.column
    let x := x.blanks
    let space := x.column - start
    let isFinal (isPeriod : Bool) : Bool :=
      x.rest.isEmpty || (isPeriod && (x.rest.head? = some '\n' || 1 < space))
    let word := FilledWord.ofText cs space isFinal
    let word :=
      if x.isBare || way.uniform then { word with space := if word.isFinal then 2 else 1 } else word
    if x.isBare then ([word], { x with rest := x.rest.drop 1 }.enterLine way)
    else
      let (others, x) := words way budget x
      (word :: others, x)

/-- The words of the lines that belong to a paragraph, and the text behind them.  The budget has to be
more than the number of lines. -/
def linesWhile (way : FillWay) (goesOn : FillText → Bool) :
    Nat → FillText → List FilledWord × FillText
  | 0, x => ([], x)
  | budget + 1, x =>
    if goesOn x then
      let (line, x) := x.words way (x.rest.length + 1)
      let (others, x) := linesWhile way goesOn budget x
      (line ++ others, x)
    else ([], x)

/-- Blanks up to a column, from another one. -/
def indentTo (hasTabs : Bool) (column target : Nat) : List Char :=
  let stop := target / 8 * 8
  if hasTabs && column + 1 < stop then
    List.replicate (stop / 8 - column / 8) '\t' ++ List.replicate (target - stop) ' '
  else List.replicate (target - column) ' '

/-- A line that is copied, and the text behind it. -/
def copiedLine (way : FillWay) (x : FillText) : List Char × FillText :=
  let tail := x.rest.takeWhile (· ≠ '\n')
  let isShown := x.indent < x.column || !tail.isEmpty
  let front := way.beginning.take (x.column - x.indent)
  let reached := x.indent + front.length
  let gap := if tail.isEmpty then [] else indentTo x.hasTabs reached x.column
  let isLast := x.rest.length = tail.length
  let ending := if isLast && tail.isEmpty && x.indent + way.beginning.length ≤ x.column &&
    isShown then ['\n'] else []
  let head :=
    if isShown then indentTo x.hasTabs 0 x.indent ++ front ++ gap ++ ending else []
  (head ++ tail, { x with rest := x.rest.drop tail.length })

end FillText

/-- A paragraph. -/
structure Paragraph where
  words : Array FilledWord
  /-- Where the beginning of its lines stands. -/
  indent : Nat
  first : Nat

/-- Reads a paragraph that begins where the text is; the text behind it says how the other lines are
indented. -/
def readParagraph (way : FillWay) (x : FillText) : Paragraph × FillText :=
  let indent := x.indent
  let first := x.column
  let budget := x.rest.length + 1
  let (line, x) := x.words way budget
  let goesOn := x.continues way indent
  let other :=
    if way.splits then first
    else if way.crown then (if goesOn then x.column else first)
    else if way.tagged then
      if goesOn && x.column ≠ first then x.column
      else if x.other = first then (if first = 0 then 3 else 0)
      else x.other
    else first
  let x := { x with other := other }
  let same (y : FillText) : Bool := y.continues way indent && y.column = other
  let more := if way.splits then false
    else if way.crown then goesOn
    else if way.tagged then goesOn && x.column ≠ first
    else true
  let (others, x) := if more then x.linesWhile way same budget else ([], x)
  let words := (line ++ others).toArray
  let last := words.size - 1
  let words := words.modify last fun w => { w with isPeriod := true, isFinal := true }
  (⟨words, indent, first⟩, x)

/-! ## 3.  Breaking -/

/-- The best way to break a paragraph from a word on. -/
structure Breaking where
  cost : Int
  /-- The first word of the next line. -/
  next : Nat
  /-- The length of the line. -/
  length : Nat

instance : Inhabited Breaking := ⟨⟨0, 0, 0⟩⟩

/-- The cost of a difference. -/
def squareCost (n : Int) : Int := n * n

/-- The cost of a line that begins with a word, whatever else is in it. -/
def startCost (words : Array FilledWord) (i : Nat) : Int :=
  let before := if i = 0 then none else words[i - 1]?
  let twoBefore := if i < 2 then none else words[i - 2]?
  let atBreak : Int := match before with
    | none => 0
    | some w =>
      if w.isPeriod then (if w.isFinal then -squareCost 50 else squareCost 600)
      else if w.isMarked then -squareCost 40
      else if twoBefore.any (·.isFinal) then squareCost 200 / ((w.length : Int) + 2)
      else 0
  let own : Int := match words[i]? with
    | none => 0
    | some w =>
      if w.opens then -squareCost 40
      else if w.isFinal then squareCost 150 / ((w.length : Int) + 2)
      else 0
  squareCost 70 + atBreak + own

/-- The cost of a line of a length in front of the line that begins with a word. -/
def FillWay.lineCost (way : FillWay) (words : Array FilledWord) (later : Array Breaking)
    (next length : Nat) : Int :=
  if next = words.size then 0
  else
    let short := squareCost (((way.goal : Int) - length) * 10)
    match later[next]? with
    | none => short
    | some b =>
      if b.next = words.size then short
      else short + squareCost (((length : Int) - b.length) * 10) / 2

/-- The best break of a line that begins with a word, among those from a word on; `length` is how long
the line is up to there.  The budget has to be more than the number of words. -/
def FillWay.bestBreak (way : FillWay) (words : Array FilledWord) (later : Array Breaking) :
    Nat → Nat → Nat → Breaking → Breaking
  | 0, _, _, best => best
  | budget + 1, next, length, best =>
    let cost := way.lineCost words later next length +
      (if next = words.size then 0 else (later[next]?.map (·.cost)).getD 0)
    let best := if cost < best.cost then ⟨cost, next, length⟩ else best
    match words[next]? with
    | none => best
    | some w =>
      let length := length + ((words[next - 1]?.map (·.space)).getD 0) + w.length
      if length < way.width then
        way.bestBreak words later budget (next + 1) length best
      else best

/-- A cost above all others. -/
def mostCost : Int := Int.pow 2 63 - 1

/-- The best breaks for all words of a paragraph. -/
def FillWay.breaks (way : FillWay) (p : Paragraph) (other : Nat) : Array Breaking :=
  let words := p.words
  (List.range words.size).reverse.foldl (fun (later : Array Breaking) start =>
    let indent := if start = 0 then p.first else other
    let length := indent + ((words[start]?.map (·.length)).getD 0)
    let best :=
      way.bestBreak words later (words.size + 1) (start + 1) length ⟨mostCost, 0, 0⟩
    later.setIfInBounds start { best with cost := best.cost + startCost words start })
    (Array.replicate words.size default)

/-! ## 4.  Writing -/

/-- A line with the words from one up to another. -/
def FillWay.line (way : FillWay) (p : Paragraph) (hasTabs : Bool) (indent first next : Nat) :
    String :=
  let front := FillText.indentTo hasTabs 0 p.indent ++ way.beginning
  let column := p.indent + way.beginning.length
  let front := front ++ FillText.indentTo hasTabs column indent
  let words := (p.words.extract first next).toList
  let (text, _) := words.zipIdx.foldl (fun (state : String × Nat) (w, i) =>
    let (text, column) := state
    let text := text ++ w.text
    let column := column + w.length
    if i + 1 = words.length then (text, column)
    else
      (text ++ String.ofList (FillText.indentTo hasTabs column (column + w.space)),
        column + w.space))
    (String.ofList front, max column indent)
  text ++ "\n"

/-- The lines of a paragraph from a word on.  The budget has to be more than the number of words. -/
def FillWay.lines (way : FillWay) (p : Paragraph) (breaks : Array Breaking) (hasTabs : Bool)
    (other : Nat) : Nat → Nat → String
  | 0, _ => ""
  | budget + 1, start =>
    match breaks[start]? with
    | none => ""
    | some b =>
      way.line p hasTabs (if start = 0 then p.first else other) start b.next ++
        way.lines p breaks hasTabs other budget b.next

/-- A text with its paragraphs filled.  The budget has to be more than the number of lines. -/
def FillWay.fill (way : FillWay) : Nat → FillText → String
  | 0, _ => ""
  | budget + 1, x =>
    if x.isWanted way then
      let (p, x) := readParagraph way x
      way.lines p (way.breaks p x.other) x.hasTabs x.other (p.words.size + 1) 0 ++ way.fill budget x
    else
      let (copied, x) := x.copiedLine way
      let text := String.ofList copied
      match x.rest with
      | [] => text
      | _ :: rest => text ++ "\n" ++ way.fill budget ({ x with rest := rest }.enterLine way)

/-- The options of `fmt`. -/
def fmtSyntax : Syntax where
  flags := "cstu0123456789"
  valued := "wgp"
  long := [⟨"crown-margin", 'c', .no⟩, ⟨"prefix", 'p', .yes⟩, ⟨"split-only", 's', .no⟩,
    ⟨"tagged-paragraph", 't', .no⟩, ⟨"uniform-spacing", 'u', .no⟩, ⟨"width", 'w', .yes⟩,
    ⟨"goal", 'g', .yes⟩]
  permutes := true
  status := 1

/-- The width that options ask for; the old way to ask for it is a number as the first option. -/
def fillWidths (name : String) (given : List Given) (old : Option String) : Run (Nat × Nat) := do
  let width := (valueOf given 'w').or old
  let widest ← match width with
    | none => pure 75
    | some text => do pure (← wholeWithin name "invalid width" text 0 2500).toNat
  match valueOf given 'g' with
  | none => return (widest, widest * 187 / 200)
  | some text => do
    let goal := (← wholeWithin name "invalid width" text 0 widest).toNat
    return (if width.isNone then goal + 10 else widest, goal)

/-- Breaks the lines of paragraphs anew. -/
def fmt : Body := fun name arguments => do
  let isOld := arguments.head?.any fun a => a.startsWith "-" && (a.toList[1]?).any Char.isDigit
  let old := if isOld then arguments.head?.map fun a => (a.drop 1).toString else none
  let (given, operands) ← options name fmtSyntax (if isOld then arguments.drop 1 else arguments)
  if let some (digit, _) := given.find? fun (c, _) => c.isDigit then
    misused name ("invalid option -- " ++ digit.toString ++
      "; -WIDTH is recognized only when it is the first\noption; use -w N instead") 1
  let (width, goal) ← fillWidths name given old
  let wanted := ((valueOf given 'p').getD "").toList
  let bare := wanted.dropWhile (· = ' ')
  let way : FillWay :=
    ⟨width, goal, has given 'c', has given 't', has given 's', has given 'u',
      wanted.length - bare.length, (bare.reverse.dropWhile (· = ' ')).reverse, bare.length⟩
  let mut status := 0
  for operand in orInput operands do
    match ← contentOf operand with
    | .error (.opening e) =>
      report name ("cannot open " ++ quoted operand ++ " for reading: " ++ e.message)
      status := 1
    | .error (.reading _) =>
      report name "read error"
      status := 1
    | .ok bytes =>
      let cs := (textOf bytes).toList
      let start : FillText := ⟨cs, 0, false, 0, 0⟩
      print (way.fill (cs.length + 2) (start.enterLine way))
  finish name (← closeInput name "closing standard input" operands status)

end CountedStrings.Shell.Utility
