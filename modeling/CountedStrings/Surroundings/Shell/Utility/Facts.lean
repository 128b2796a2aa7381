import CountedStrings.Surroundings.Shell.Layout
import CountedStrings.Surroundings.Shell.Utility.Ownership
import CountedStrings.Surroundings.Shell.Utility.Transfer

/-!
# What is noted about files

## 1.  Facts

What is noted about a node: the number of its names, its blocks, its time.

## 2.  Facts in a format

`stat` prints facts in the places of a format.
-/

namespace CountedStrings.Shell.Utility

/-! ## 1.  Facts -/

/-- The size of a node in bytes. -/
def sizeOfNode (files : FileSystem) (id : Nat) : Nat :=
  match files.node? id with
  | some (.file content _) => content.size
  | some (.directory _ _ _) => 4096
  | some (.link target) => target.length
  | _ => 0

/-- How many pieces of 4096 bytes a node takes. -/
def pieces (files : FileSystem) (id : Nat) : Nat :=
  match files.node? id with
  | some (.file content _) => (content.size + 4095) / 4096
  | some (.directory _ _ _) => 1
  | _ => 0

/-- The letter of the kind of a node. -/
def kindLetter (files : FileSystem) (id : Nat) : Char :=
  match files.node? id with
  | some (.directory _ _ _) => 'd'
  | some (.link _) => 'l'
  | some (.device _) => 'c'
  | some (.pipe _ _ _) => 'p'
  | _ => '-'

/-- The kind and the mode of a node in letters. -/
def shownKind (files : FileSystem) (id : Nat) : String :=
  (kindLetter files id).toString ++ Mode.letters (modeOf files id)

/-- The target of a link. -/
def targetOf? (files : FileSystem) (id : Nat) : Option String :=
  match files.node? id with
  | some (.link target) => some (Bytes.toByteText target)
  | _ => none

/-- Two digits. -/
def twoDigits (n : Nat) : String := String.ofList (Real.digitsOf 10 2 n)

/-- A moment with all its parts. -/
def Moment.full (m : Moment) : String :=
  toString m.year ++ "-" ++ twoDigits m.month ++ "-" ++ twoDigits m.day ++ " " ++
    twoDigits m.hour ++ ":" ++ twoDigits m.minute ++ ":" ++ twoDigits m.second ++ "." ++
    String.ofList (Real.digitsOf 10 3 m.millisecond) ++ "000000 +0000"

/-! ## 2.  Facts in a format -/

/-- The value for a letter of a format: a text, or a number with its base. -/
inductive StatValue where
  | text (s : String)
  | number (base : Nat) (n : Nat)
  /-- A time in milliseconds. -/
  | time (t : Int)
  | unknown

/-- The part of a device's number that a mark before its letter asks for: `H` the class of the device,
`L` the device within the class. -/
def StatValue.partOf (mark : Char) : StatValue → StatValue
  | .number base n => .number base (if mark = 'H' then n / 256 else n % 256)
  | value => value

/-- The facts that letters of a format stand for. -/
def statValue (files : FileSystem) (operand : String) (id : Nat) (c : Char) : Run StatValue := do
  let mode := modeOf files id
  let time := modifiedOf files id
  let kinds : List (Char × Nat) :=
    [('d', 0o040000), ('l', 0o120000), ('c', 0o020000), ('p', 0o010000)]
  let device : Nat × Nat := match files.node? id with
    | some (.device .null) => (1, 3)
    | some (.device .zero) => (1, 5)
    | some (.device .full) => (1, 7)
    | _ => (0, 0)
  let kind := kindLetter files id
  match c with
  | 'a' => return .number 8 mode
  | 'A' => return .text (shownKind files id)
  | 'b' => return .number 10 (pieces files id * 8)
  | 'B' => return .number 10 512
  | 'C' => return .text "?"
  | 'd' | 'D' => return .number (if c = 'd' then 10 else 16) 50
  | 'f' => return .number 16 ((kinds.lookup kind).getD 0o100000 + mode)
  | 'F' =>
    let word := if kind = 'd' then "directory" else kindOf files id
    return .text word
  | 'u' => return .number 10 (ownerOf files id).1
  | 'g' => return .number 10 (ownerOf files id).2
  | 'U' => return .text (((userNames.find? fun x => x.2 = (ownerOf files id).1).map (·.1)).getD "UNKNOWN")
  | 'G' => return .text (((groupNames.find? fun x => x.2 = (ownerOf files id).2).map (·.1)).getD "UNKNOWN")
  | 'h' => return .number 10 (nameCount files id)
  | 'i' => return .number 10 (id + 1000)
  | 'm' => return .text "/"
  | 'n' => return .text operand
  | 'N' =>
    let arrow := match targetOf? files id with
      | some target => " -> " ++ quoted target
      | none => ""
    return .text (quoted operand ++ arrow)
  | 'o' => return .number 10 4096
  | 's' => return .number 10 (sizeOfNode files id)
  | 't' => return .number 16 device.1
  | 'T' => return .number 16 device.2
  | 'r' | 'R' => return .number (if c = 'r' then 10 else 16) (device.1 * 256 + device.2)
  | 'w' | 'x' | 'y' | 'z' => return .text (Moment.ofTime time).full
  | 'W' | 'X' | 'Y' | 'Z' => return .time time
  | _ => return .unknown

/-- A value laid out. -/
def StatValue.laidOut (l : Layout) : StatValue → String
  | .text s => String.ofList (l.ofText s.toList)
  | .number base n => String.ofList ({ l with plus := false, blank := false }.ofNat base n)
  | .time t =>
    let body := match l.precision with
      | none | some 0 => toString (t.fdiv 1000).natAbs
      | some places =>
        let digits := Real.digitsOf 10 3 (t.natAbs % 1000) ++ List.replicate places '0'
        toString (t.natAbs / 1000) ++ "." ++ String.ofList (digits.take places)
    String.ofList (l.fill (l.signText (t < 0)) body.toList)
  | .unknown => "?"

/-- Fills the places of a format; `escapes` says whether backslashes do their work.  The budget has to
be more than the length of the format. -/
def statFormat (name whole : String) (escapes : Bool) (files : FileSystem) (operand : String)
    (id : Nat) : Nat → List Char → Run Unit
  | 0, _ | _, [] => return
  | budget + 1, '%' :: cs => do
    let flags := cs.takeWhile ['#', '-', '+', ' ', '0', '\''].contains
    let cs := cs.drop flags.length
    let width := cs.takeWhile Char.isDigit
    let cs := cs.drop width.length
    let (precision, cs) := match cs with
      | '.' :: rest =>
        let digits := rest.takeWhile Char.isDigit
        (some (if digits.isEmpty then 9 else Number.digitsValue 10 digits),
          rest.drop digits.length)
      | cs => (none, cs)
    let isBare := flags.isEmpty && width.isEmpty && precision.isNone
    match cs with
    | [] =>
      if isBare then print "%"
      else fail name ((← cited whole) ++ ": invalid directive") 1
    | '%' :: rest =>
      if isBare then
        print "%"
        statFormat name whole escapes files operand id budget rest
      else
        let directive := "%" ++ String.ofList (flags ++ width) ++ "%"
        fail name ((← cited directive) ++ ": invalid directive") 1
    | c :: rest =>
      let isMarked := (c = 'H' || c = 'L') && (rest.head? = some 'd' || rest.head? = some 'r')
      let mark := c
      let (c, rest) := if isMarked then (rest.headD c, rest.tail) else (c, rest)
      let l := { Layout.ofFlags flags with
        width := Number.digitsValue 10 width, precision := precision }
      let value ← statValue files operand id c
      print ((if isMarked then value.partOf mark else value).laidOut l)
      statFormat name whole escapes files operand id budget rest
  | budget + 1, '\\' :: c :: rest => do
    if !escapes then
      print "\\"
      statFormat name whole escapes files operand id budget (c :: rest)
    else
      let octal := (c :: rest.take 2).takeWhile Backslash.isOctal
      let hex := (rest.take 2).takeWhile (Number.isDigitOf 16)
      if !octal.isEmpty then
        print (Backslash.byteOf 8 octal).toString
        statFormat name whole escapes files operand id budget (rest.drop (octal.length - 1))
      else if c = 'x' && !hex.isEmpty then
        print (Backslash.byteOf 16 hex).toString
        statFormat name whole escapes files operand id budget (rest.drop hex.length)
      else
        match Backslash.control? c with
        | some own => print own.toString
        | none =>
          if c = '"' then print "\""
          else
            report name ("warning: unrecognized escape '\\" ++ c.toString ++ "'")
            print c.toString
        statFormat name whole escapes files operand id budget rest
  | budget + 1, c :: rest => do
    print c.toString
    statFormat name whole escapes files operand id budget rest

/-- The usual format of `stat`. -/
def usualStatFormat (isLink isDevice : Bool) : String :=
  "  File: " ++ (if isLink then "%N" else "%n") ++ "\n" ++
  "  Size: %-10s\tBlocks: %-10b IO Block: %-6o %F\n" ++
  "Device: %Hd,%Ld\tInode: %-11i Links: " ++ (if isDevice then "%-5h Device type: %Hr,%Lr\n" else "%h\n") ++
  "Access: (%04a/%10.10A)  Uid: (%5u/%8U)   Gid: (%5g/%8G)\n" ++
  "Access: %x\nModify: %y\nChange: %z\n Birth: %w\n"

/-- The short format of `stat`. -/
def terseFormat : String := "%n %s %b %f %u %g %D %i %h %t %T %X %Y %Z %W %o\n"

/-- The options of `stat`. -/
def statSyntax : Syntax where
  flags := "fLt"
  valued := "c"
  long := [⟨"dereference", 'L', .no⟩, ⟨"file-system", 'f', .no⟩, ⟨"format", 'c', .yes⟩,
    ⟨"printf", 'P', .yes⟩, ⟨"terse", 't', .no⟩, ⟨"cached", 'K', .yes⟩]
  permutes := true
  status := 1

/-- Prints what is noted about files. -/
def stat : Body := fun name arguments => do
  let (given, operands) ← options name statSyntax arguments
  if let some word := valueOf given 'K' then
    discard (wordAmong name "cached" word [["default"], ["never"], ["always"]] 1)
  if operands.isEmpty then missingOperand name 1
  let status ← forEachOperand operands fun operand => do
    let found ← if operand = "-" then do pure (match ← openFile? 0 with
        | some (_, file) => .ok file.node
        | none => .error .missing)
      else if has given 'L' then nodeAt operand else linkAt operand
    match found with
    | .error e =>
      if operand = "-" then
        report name ("cannot stat standard input: " ++ TransferError.badDescriptor.message)
        return false
      let verb := if has given 'f' then "cannot read file system information for " else "cannot statx "
      report name (verb ++ quoted operand ++ ": " ++ e.message)
      return false
    | .ok id =>
      let files := (← get).files
      let isLink := (targetOf? files id).isSome
      let isDevice := kindLetter files id = 'c'
      let (text, escapes) := match lastOf given ['c', 'P'] with
        | some 'c' => ((valueOf given 'c').getD "", false)
        | some _ => ((valueOf given 'P').getD "", true)
        | none => (if has given 't' then terseFormat else usualStatFormat isLink isDevice, false)
      statFormat name text escapes files operand id (text.length + 1) text.toList
      if lastOf given ['c', 'P'] = some 'c' then print "\n"
      return true
  finish name status

end CountedStrings.Shell.Utility
