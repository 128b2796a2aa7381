import CountedStrings.Surroundings.Shell.Regular
import CountedStrings.Surroundings.Shell.Utility.Basic

/-!
# Utilities that pass content on

They print what they read: all of it, its beginning or its end, or only how much of it there is.

## 1.  Copying

`cat` and `tee` send each part out as soon as it was read.

## 2.  Ends

`head` and `tail` count lines or bytes from either end.  What `head` read too much of its input is
given back, so that whoever reads on finds it.

## 3.  Counts

`wc` counts newlines, words, characters and bytes.
-/

namespace CountedStrings.Shell.Utility

/-! ## 1.  Copying -/

/-- The numbers below 256 as a terminal shows them without control characters. -/
def visible (keepsTab : Bool) (c : Char) : List Char :=
  let n := c.toNat
  let low := fun n : Nat =>
    if n < 0x20 then ['^', Char.ofNat (n + 0x40)]
    else if n = 0x7F then ['^', '?']
    else [Char.ofNat n]
  if c = '\n' || (c = '\t' && keepsTab) then [c]
  else if n < 0x80 then low n
  else 'M' :: '-' :: low (n - 0x80)

/-- How `cat` changes what it copies. -/
structure Copying where
  numbers : Bool
  /-- Whether only lines with something in them are numbered. -/
  onlyFilled : Bool
  /-- Whether one empty line stands for several. -/
  squeezes : Bool
  showsEnds : Bool
  showsTabs : Bool
  showsControls : Bool

/-- Where a copy stands. -/
structure CopyState where
  /-- The number of the last line that was numbered. -/
  line : Nat
  /-- Whether a line was begun. -/
  begun : Bool
  /-- How many empty lines came last. -/
  empty : Nat

/-- A number in front of a line. -/
def lineNumber (n : Nat) : List Char :=
  let digits := (toString n).toList
  List.replicate (6 - digits.length) ' ' ++ digits ++ ['\t']

/-- The characters of one line as they are copied. -/
def Copying.line (x : Copying) (line : List Char) (ended : Bool) : List Char :=
  let shown := if x.showsControls then line.flatMap (visible true) else line
  let shown := if x.showsTabs then shown.flatMap fun c => if c = '\t' then ['^', 'I'] else [c]
    else shown
  if !ended then shown
  else if x.showsEnds then
    if !x.showsControls && shown.getLast? = some '\r' then shown.dropLast ++ ['^', 'M', '$', '\n']
    else shown ++ ['$', '\n']
  else shown ++ ['\n']

/-- Copies lines from where a copy stands; `ended` says whether the last one has an end. -/
def Copying.lines (x : Copying) (ended : Bool) : CopyState → List String →
    List (List Char) → CopyState × List (List Char)
  | s, [], done => (s, done)
  | s, line :: rest, done =>
    let cs := line.toList
    let ends := ended || !rest.isEmpty
    let isEmpty := cs.isEmpty && !s.begun
    if isEmpty && x.squeezes && 0 < s.empty && ends then
      x.lines ended { s with empty := s.empty + 1 } rest done
    else
      let numbered := !s.begun && (if x.onlyFilled then !cs.isEmpty else x.numbers)
      let front := if numbered then lineNumber (s.line + 1) else []
      let margin := if !numbered && x.onlyFilled && x.showsEnds && isEmpty
        then List.replicate 6 ' ' ++ ['\t'] else []
      let s : CopyState :=
        ⟨if numbered then s.line + 1 else s.line, !ends, if isEmpty then s.empty + 1 else 0⟩
      x.lines ended s rest ((front ++ margin ++ x.line cs ends) :: done)

/-- The options of `cat`. -/
def catSyntax : Syntax where
  flags := "benstuvAET"
  valued := ""
  long := [⟨"number-nonblank", 'b', .no⟩, ⟨"number", 'n', .no⟩, ⟨"squeeze-blank", 's', .no⟩,
    ⟨"show-nonprinting", 'v', .no⟩, ⟨"show-ends", 'E', .no⟩, ⟨"show-tabs", 'T', .no⟩,
    ⟨"show-all", 'A', .no⟩]
  permutes := true
  status := 1

/-- Whether a file that is read is the one that is written to, from a place in front of its end. -/
def isOwnOutput (operand : String) : Run Bool := do
  let s ← get
  let input ←
    if operand = "-" then do pure ((← openFile? 0).map fun (_, file) => (file.node, file.position))
    else
      match s.files.find (Bytes.ofByteText operand) with
      | .ok id => pure (some (id, 0))
      | .error _ => pure none
  match input, ← openFile? 1 with
  | some (node, position), some (_, out) =>
    match s.files.node? node with
    | some (.file content _) =>
      return node = out.node && position < (if out.append then content.size else out.position)
    | _ => return false
  | _, _ => return false

/-- Writes bytes, or ends with a complaint. -/
def writeOrFail (name what : String) (bytes : ByteArray) : Run Unit := do
  match ← write 1 bytes with
  | none => return
  | some e => fail name (what ++ ": " ++ e.message) 1

/-- Copies files to the output. -/
def cat : Body := fun name arguments => do
  let (given, operands) ← options name catSyntax arguments
  let any (letters : List Char) : Bool := given.any fun (c, _) => letters.contains c
  let x : Copying :=
    ⟨any ['n', 'b'], any ['b'], any ['s'], any ['E', 'e', 'A'], any ['T', 't', 'A'],
      any ['v', 'e', 't', 'A']⟩
  let plain := !any ['b', 'e', 'n', 's', 't', 'v', 'A', 'E', 'T']
  if (← openFile? 1).isNone then
    fail name ("standard output: " ++ TransferError.badDescriptor.message) 1
  let mut state : CopyState := ⟨0, false, 0⟩
  let mut status := 0
  for operand in orInput operands do
    if ← isOwnOutput operand then
      report name (quotedIfNeeded true operand ++ ": input file is output file")
      status := 1
    else
      match ← contentOf operand with
      | .error e =>
        report name (quotedIfNeeded true operand ++ ": " ++ e.message)
        status := 1
      | .ok bytes =>
        if plain then writeOrFail name "write error" bytes
        else
          let text := textOf bytes
          let (after, done) := x.lines (!lacksNewline text) state (linesOf text) []
          state := after
          writeOrFail name "write error" (bytesOf (String.ofList (done.reverse.flatten)))
  closeInput name "closing standard input" operands status

/-- What stands between the records of a content. -/
structure Separator where
  /-- How long the separator is that stands at the start of a text behind a character. -/
  size? : Option Char → List Char → Option Nat
  /-- Whether a record ends with its separator, and does not begin with it. -/
  isLast : Bool

/-- A separator that is given as a text. -/
def Separator.ofText (text : List Char) : Option Char → List Char → Option Nat := fun _ cs =>
  if text.isPrefixOf cs then some text.length else none

/-- A regular expression whose plus signs and question marks repeat where no backslash is in front, and
whose point stands for no newline, in the usual form. -/
def usualForm : List Char → List Char
  | '\\' :: c :: cs =>
    (if c = '+' || c = '?' then [c] else if c = '{' || c = '}' then [c] else ['\\', c]) ++
      usualForm cs
  | '+' :: cs => '\\' :: '+' :: usualForm cs
  | '?' :: cs => '\\' :: '?' :: usualForm cs
  | '.' :: cs => "[^\n]".toList ++ usualForm cs
  | '[' :: '^' :: ']' :: cs => '[' :: '^' :: ']' :: insideList cs
  | '[' :: '^' :: cs => '[' :: '^' :: insideList cs
  | '[' :: ']' :: cs => '[' :: ']' :: insideList cs
  | '[' :: cs => '[' :: insideList cs
  | c :: cs => c :: usualForm cs
  | [] => []
where
  /-- The rest behind the start of a list of characters. -/
  insideList : List Char → List Char
    | ']' :: cs => ']' :: usualForm cs
    | c :: cs => c :: insideList cs
    | [] => []

/-- The records of a content from the last to the first: what is in front of a place, read backwards, what
is behind it up to a separator, and the rest of the record. -/
def Separator.records (x : Separator) (isFirst : Bool) :
    List Char → List Char → List Char → List (List Char)
  | [], body, rest => [body ++ rest]
  | c :: front, body, rest =>
    let body := c :: body
    match x.size? front.head? body with
    | none => x.records isFirst front body rest
    | some size =>
      if x.isLast then
        let record := body.drop size ++ rest
        let others := x.records false front [] (body.take size)
        if isFirst && record.isEmpty then others else record :: others
      else (body ++ rest) :: x.records false front [] []

/-- Copies files with their records in reverse.  Behind a newline, a regular expression is at the start of
a line. -/
def tac : Body := fun name arguments => do
  let form : Syntax :=
    ⟨"br", "s", [⟨"before", 'b', .no⟩, ⟨"regex", 'r', .no⟩, ⟨"separator", 's', .yes⟩], true, 1⟩
  let (given, operands) ← options name form arguments
  let text := ((valueOf given 's').getD "\n").toList
  let size? ←
    if has given 'r' then do
      if text.isEmpty then fail name "separator cannot be empty" 1
      match Regular.ofText (String.ofList (usualForm text)) with
      | .error e => fail name e.message 1
      | .ok r =>
        pure fun before cs => (r.longestBehind? (before.filter (· ≠ '\n')) cs).map (·.count)
    else pure (Separator.ofText (if text.isEmpty then ['\x00'] else text))
  let x : Separator := ⟨size?, !has given 'b'⟩
  let mut status := 0
  let mut parts := #[]
  for operand in orInput operands do
    match ← contentOf operand with
    | .error (.opening e) =>
      report name ("failed to open " ++ quoted operand ++ " for reading: " ++ e.message)
      status := 1
    | .error (.reading e) =>
      let title := if operand = "-" then "standard input" else operand
      let reason := if e = .isDirectory then FileError.invalid.message else e.message
      report name (quotedIfNeeded true title ++ ": read error: " ++ reason)
      status := 1
    | .ok bytes =>
      parts := parts.push (x.records true (textOf bytes).toList.reverse [] []).flatten
  status ← closeInput name "-" operands status
  print (String.join (parts.toList.map String.ofList))
  finish name status

/-- Copies the input to the output and to files. -/
def tee : Body := fun name arguments => do
  let x : Syntax :=
    ⟨"aip", "", [⟨"append", 'a', .no⟩, ⟨"ignore-interrupts", 'i', .no⟩, ⟨"output-error", 'e', .maybe⟩],
      true, 1⟩
  let (given, operands) ← options name x arguments
  for (letter, word) in given do
    if letter = 'e' && word ≠ "" then
      discard (wordAmong name "output-error" word
        [["warn"], ["warn-nopipe"], ["exit"], ["exit-nopipe"]] 1)
  let appends := has given 'a'
  let mut status := 0
  let mut opened := []
  for operand in operands do
    match ← openForWriting operand (!appends) appends false with
    | .ok number => opened := opened ++ [(operand, number)]
    | .error e =>
      report name (quotedIfNeeded true operand ++ ": " ++ e.message)
      status := 1
  let mut bytes := ByteArray.empty
  match ← read 0 none with
  | .ok content => bytes := content
  | .error e =>
    report name ("read error: " ++ e.message)
    status := 1
  match ← write 1 bytes with
  | none => pure ()
  | some e =>
    report name (quoted "standard output" ++ ": " ++ e.message)
    status := 1
  for (operand, number) in opened do
    setDescriptor scratchDescriptor number
    let result ← write scratchDescriptor bytes
    closeDescriptor scratchDescriptor
    match result with
    | none => pure ()
    | some e =>
      report name (quotedIfNeeded true operand ++ ": " ++ e.message)
      status := 1
  closeInput name "standard input" [] status

/-- Writes a part of an endless text so often that every pipe is full. -/
def writeEndless (name : String) (part : ByteArray) : Nat → Run Unit
  | 0 => return
  | times + 1 => do
    writeOrFail name "standard output" part
    writeEndless name part times

/-- Prints a line without end. -/
def yes : Body := fun name arguments => do
  let (_, words) ← options name ⟨"", "", [], true, 1⟩ arguments
  let line := (if words.isEmpty then "y" else " ".intercalate words) ++ "\n"
  let part := bytesOf (String.join (List.replicate (8192 / line.length + 1) line))
  writeEndless name part (2 * pipeRoom / part.size + 2)
  return 0

/-! ## 2.  Ends -/

/-- What part of a content is wanted. -/
structure Extent where
  /-- Whether lines are counted, and not bytes. -/
  countsLines : Bool
  count : Nat
  /-- Whether it is counted from the other end. -/
  turned : Bool

/-- The positions behind the newlines of a content, and its end. -/
def lineEnds (bytes : ByteArray) : Array Nat :=
  let (ends, _) := bytes.foldl (fun (state : Array Nat × Nat) b =>
    let (ends, i) := state
    (if b = 0x0A then ends.push (i + 1) else ends, i + 1)) (#[], 0)
  if ends.back?.getD 0 = bytes.size then ends else ends.push bytes.size

/-- The position behind so many lines. -/
def positionBehind (ends : Array Nat) (lines size : Nat) : Nat :=
  if lines = 0 then 0 else ends[lines - 1]?.getD size

/-- How many bytes the wanted part at the start has. -/
def Extent.headSize (x : Extent) (bytes : ByteArray) : Nat :=
  if x.countsLines then
    let ends := lineEnds bytes
    positionBehind ends (if x.turned then ends.size - x.count else x.count) bytes.size
  else if x.turned then bytes.size - x.count
  else min x.count bytes.size

/-- Where the wanted part at the end starts. -/
def Extent.tailStart (x : Extent) (bytes : ByteArray) : Nat :=
  if x.countsLines then
    let ends := lineEnds bytes
    positionBehind ends (if x.turned then x.count - 1 else ends.size - x.count) bytes.size
  else if x.turned then min (x.count - 1) bytes.size
  else bytes.size - x.count

/-- The operand as a heading names it. -/
def headingName (operand : String) : String :=
  if operand = "-" then "standard input" else operand

/-- Prints a heading for an operand if there are several of them. -/
def printHeading (given : List Given) (several first : Bool) (operand : String) : Run Unit := do
  let quiet := (lastOf given ['q', 'v']) = some 'q'
  if has given 'v' && !quiet || (several && !quiet) then
    print ((if first then "" else "\n") ++ "==> " ++ headingName operand ++ " <==\n")

/-- The operands of old whose first is a number behind a dash, in the new form; `sign` is what stands
in front of the number in the new form. -/
def modernCount (mark : Char) : List String → List String
  | [] => []
  | argument :: rest =>
    match argument.toList with
    | c :: d :: cs =>
      if c = mark && d.isDigit then
        let digits := (d :: cs).takeWhile Char.isDigit
        let letters := (d :: cs).drop digits.length
        let letter := if letters.contains 'c' then "-c" else "-n"
        let front := if mark = '+' then ['+'] else []
        letter :: String.ofList (front ++ digits) ::
          ((if letters.contains 'q' then ["-q"] else []) ++ rest)
      else argument :: rest
    | _ => argument :: rest

/-- The options of `head` and `tail`. -/
def endSyntax : Syntax where
  flags := "qvzfF0123456789"
  valued := "nc"
  long := [⟨"lines", 'n', .yes⟩, ⟨"bytes", 'c', .yes⟩, ⟨"quiet", 'q', .no⟩, ⟨"silent", 'q', .no⟩,
    ⟨"verbose", 'v', .no⟩, ⟨"zero-terminated", 'z', .no⟩]
  permutes := true
  status := 1

/-- The part that options ask for.  A count behind the turning mark is turned: for a dash that holds only
for its own option, for a plus sign for all that follow. -/
def extentOf (name : String) (turning : Char) (given : List Given) : Run Extent := do
  let mut extent : Extent := ⟨true, 10, false⟩
  for (letter, text) in given do
    if letter.isDigit then
      if turning = '-' then misused name ("invalid trailing option -- " ++ letter.toString) 1
      fail name ("option used in invalid context -- " ++ letter.toString) 1
    if letter = 'n' || letter = 'c' then
      let text : Bool × String := if text.startsWith "-" then (turning = '-', (text.drop 1).toString)
        else (text.startsWith turning.toString, text)
      let digits := if text.2.startsWith "+" then (text.2.drop 1).toString else text.2
      match sizeOf? digits with
      | some n =>
        extent := ⟨letter = 'n', n, text.1 || (turning = '+' && extent.turned)⟩
      | none => do
        let what := if letter = 'n' then "lines" else "bytes"
        fail name ("invalid number of " ++ what ++ ": " ++ (← cited text.2)) 1
  return extent

/-- Goes through operands of which a part is wanted; the verb is for what fails without an input. -/
def forEachPart (name verb : String) (given : List Given) (operands : List String)
    (use : Nat → ByteArray → Run Unit) : Run Nat := do
  let operands := orInput operands
  let mut status := 0
  let mut first := true
  for operand in operands do
    let use (descriptor : Nat) : Run (Option TransferError) := do
      match ← read descriptor none with
      | .error e => return some e
      | .ok bytes => do
        printHeading given (1 < operands.length) first operand
        use descriptor bytes
        return none
    let result ← if operand = "-" then .ok <$> use 0 else withFile operand use
    match result with
    | .error e =>
      report name ("cannot open " ++ quoted operand ++ " for reading: " ++ e.message)
      status := 1
    | .ok (some e) =>
      printHeading given (1 < operands.length) first operand
      let verb := if e = .badDescriptor then verb else "error reading"
      report name (verb ++ " " ++ quoted (headingName operand) ++ ": " ++ e.message)
      status := 1
      first := false
    | .ok none => first := false
  finish name (← closeInput name "-" operands status)

/-- Prints the first part of files. -/
def head : Body := fun name arguments => do
  let (given, operands) ← options name endSyntax (modernCount '-' arguments)
  let x ← extentOf name '-' given
  forEachPart name "error reading" given operands fun descriptor bytes => do
    let size := x.headSize bytes
    printBytes (bytes.extract 0 size)
    giveBack descriptor (bytes.size - size)

/-- Prints the last part of files. -/
def tail : Body := fun name arguments => do
  let isOld := match arguments with
    | [_] | [_, "-"] | [_, "--"] | [_, "--", _] => true
    | [_, operand] => !operand.startsWith "-"
    | _ => false
  let arguments := if isOld then modernCount '+' (modernCount '-' arguments) else arguments
  let (given, operands) ← options name endSyntax arguments
  let x ← extentOf name '+' given
  forEachPart name "cannot fstat" given operands fun _ bytes =>
    printBytes (bytes.extract (x.tailStart bytes) bytes.size)

/-! ## 3.  Counts -/

/-- What there is of a content. -/
structure Counts where
  lines : Nat
  words : Nat
  characters : Nat
  bytes : Nat
  longest : Nat

/-- Counts taken together. -/
def Counts.add (a b : Counts) : Counts :=
  ⟨a.lines + b.lines, a.words + b.words, a.characters + b.characters, a.bytes + b.bytes,
    max a.longest b.longest⟩

/-- Whether a byte is a blank between words. -/
def isSpace (b : UInt8) : Bool := b = 0x20 || (0x09 ≤ b && b ≤ 0x0D)

/-- Counts while going through a content. -/
structure Counting where
  counts : Counts
  insideWord : Bool
  /-- The column behind the last character of the line. -/
  column : Nat

/-- Counts one byte; `wide` says whether some bytes only go on with a character. -/
def Counting.step (wide : Bool) (c : Counting) (b : UInt8) : Counting :=
  let goesOn := wide && 0x80 ≤ b && b < 0xC0
  let n := c.counts
  let space := isSpace b
  let column :=
    if b = 0x0A || b = 0x0C || b = 0x0D then 0
    else if b = 0x09 then c.column + (8 - c.column % 8)
    else if goesOn || b < 0x20 || b = 0x7F then c.column
    else c.column + 1
  ⟨⟨n.lines + (if b = 0x0A then 1 else 0),
      n.words + (if !space && !c.insideWord then 1 else 0),
      n.characters + (if goesOn then 0 else 1), n.bytes + 1, max n.longest column⟩,
    !space, column⟩

/-- The counts of a content. -/
def countsOf (wide : Bool) (bytes : ByteArray) : Counts :=
  (bytes.foldl (Counting.step wide) ⟨⟨0, 0, 0, 0, 0⟩, false, 0⟩).counts

/-- The options of `wc`. -/
def wcSyntax : Syntax where
  flags := "clLmw"
  valued := ""
  long := [⟨"bytes", 'c', .no⟩, ⟨"chars", 'm', .no⟩, ⟨"lines", 'l', .no⟩, ⟨"words", 'w', .no⟩,
    ⟨"max-line-length", 'L', .no⟩, ⟨"total", 't', .yes⟩, ⟨"files0-from", 'F', .yes⟩]
  permutes := true
  status := 1

/-- The names in a file, each with a zero byte behind it. -/
def namesFrom (name path : String) : Run (List String) := do
  match ← contentOf path with
  | .error (.opening e) =>
    fail name ("cannot open " ++ quoted path ++ " for reading: " ++ e.message) 1
  | .error (.reading e) => fail name (quotedIfNeeded true path ++ ": read error: " ++ e.message) 1
  | .ok bytes => return recordsOf '\x00' (textOf bytes)

/-- What is wrong with an entry of a list of names in a file. -/
def entryFault? (path : String) (i : Nat) (entry : String) : Option String :=
  if entry = "" then
    some (quotedIfNeeded false path ++ ":" ++ toString i ++ ": invalid zero-length file name")
  else if entry = "-" && path = "-" then
    some "when reading file names from stdin, no file name of '-' allowed"
  else none

/-- Whether an operand leads to a file with a content. -/
def isFile (operand : String) : Run Bool := do
  let s ← get
  let node ←
    if operand = "-" then do pure ((← openFile? 0).map fun (_, file) => file.node)
    else pure (s.files.find (Bytes.ofByteText operand)).toOption
  return match node.bind s.files.node? with
    | some (.file _ _) => true
    | _ => false

/-- How many columns the counts of operands have. -/
def countWidth (operands : List String) (single : Bool) : Run Nat := do
  if operands.length ≤ 1 && single then return 1
  let s ← get
  let mut least := 1
  let mut total := 0
  for operand in operands do
    let node ←
      if operand = "-" then do pure ((← openFile? 0).map fun (_, file) => file.node)
      else pure (s.files.find (Bytes.ofByteText operand)).toOption
    match node.bind s.files.node? with
    | some (.file content _) => total := total + content.size
    | some _ => least := 7
    | none => pure ()
  return max least (toString total).length

/-- Counts what there is of files. -/
def wc : Body := fun name arguments => do
  let (given, operands) ← options name wcSyntax arguments
  let named := !operands.isEmpty || has given 'F'
  let mut totalWhen := none
  for (letter, word) in given do
    if letter = 't' then
      totalWhen := some (← wordAmong name "total" word [["auto"], ["always"], ["only"], ["never"]] 1)
  let kinds := (given.map (·.1)).filter fun c => c ≠ 't' && c ≠ 'F'
  let kinds := if kinds.isEmpty then ['l', 'w', 'c'] else kinds.eraseDups
  let list := valueOf given 'F'
  let operands ← match list with
    | none => pure (orInput operands)
    | some path => do
      if let operand :: _ := operands then
        misused name ("extra operand " ++ quoted operand ++
          "\nfile operands cannot be combined with --files0-from") 1
      namesFrom name path
  let width ← match list with
    | none => countWidth operands (kinds.length = 1)
    | some path => do
      let known := if ← isFile path then operands.filter (path ≠ "-" || · ≠ "-") else []
      countWidth known (kinds.length = 1)
  let wide ← usesUtf8
  let line (n : Counts) : String :=
    let shown := [('l', n.lines), ('w', n.words), ('m', n.characters), ('c', n.bytes),
      ('L', n.longest)].filter fun (kind, _) => kinds.contains kind
    " ".intercalate (shown.map fun (_, n) =>
      rightNumber (if totalWhen = some "only" then 1 else width) n)
  let mut status := 0
  let mut total : Counts := ⟨0, 0, 0, 0, 0⟩
  for (operand, i) in operands.zipIdx 1 do
    if let some fault := list.bind (entryFault? · i operand) then
      report name fault
      status := 1
      continue
    let shownName := if operand.toList.contains '\n' then quotedIfNeeded false operand else operand
    let showing (n : Counts) : Run Unit :=
      if totalWhen = some "only" then return
      else print (line n ++ (if named then " " ++ shownName else "") ++ "\n")
    match ← contentOf operand with
    | .ok bytes =>
      let n := countsOf wide bytes
      total := total.add n
      showing n
    | .error e =>
      let title := if named then operand else "standard input"
      report name (quotedIfNeeded true title ++ ": " ++ e.message)
      status := 1
      if let .reading _ := e then showing ⟨0, 0, 0, 0, 0⟩
  let shows := match totalWhen with
    | some "always" | some "only" => true
    | some "never" => false
    | _ => 1 < operands.length
  if shows then
    print (line total ++ (if totalWhen = some "only" then "" else " total") ++ "\n")
  finishLines name (← closeInput name "-" operands status)

end CountedStrings.Shell.Utility
