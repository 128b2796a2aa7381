import CountedStrings.Surroundings.Shell.Descriptor
import CountedStrings.Surroundings.Shell.Number
import CountedStrings.Surroundings.Shell.Variables
import CountedStrings.Text.Utf8

/-!
# Utilities

A utility is a program that reads its arguments, its input and files, prints, and changes files.

## 1.  Names in messages

A message that names a file puts the name in quotes where it could be misread, and writes characters
without a shape as escapes.

## 2.  Messages

What was printed goes out before a message does.  A message begins with the name that the utility was
called by.

## 3.  Options

Options may stand anywhere among the other arguments, unless `--` stands in front of them.  A long
option may be cut short as long as only one begins so.

## 4.  Input

A utility reads the files that it is given, and its input in place of `-`.
-/

namespace CountedStrings.Shell.Utility

/-- What a utility does, given the name that it was called by and its arguments; it gives its
status. -/
abbrev Body := String → List String → Run Nat

/-! ## 1.  Names in messages -/

/-- The letter of a control character behind a backslash. -/
def controlLetter? : Char → Option Char
  | '\x07' => some 'a'
  | '\x08' => some 'b'
  | '\x0c' => some 'f'
  | '\n' => some 'n'
  | '\r' => some 'r'
  | '\t' => some 't'
  | '\x0b' => some 'v'
  | _ => none

/-- A character behind a backslash, by a letter or by octal digits. -/
def escapedCharacter (c : Char) : List Char :=
  match controlLetter? c with
  | some letter => ['\\', letter]
  | none =>
    let digits := Nat.toDigits 8 c.toNat
    '\\' :: List.replicate (3 - digits.length) '0' ++ digits

/-- The bytes of a text, each with whether it has no shape of its own: control characters have none, and
neither have bytes above 127, unless `wide` and they belong to a character. -/
def shapes (wide : Bool) (cs : List Char) : List (Char × Bool) :=
  let isControl (c : Char) : Bool := c.toNat < 0x20 || (0x7F ≤ c.toNat && c.toNat < 0xA0)
  if wide then
    (Text.Utf8.pieces (Bytes.ofCharacters cs)).flatMap fun piece =>
      match piece with
      | .character c =>
        (Bytes.toCharacters c.toString.toUTF8.toList).map fun part => (part, isControl c)
      | .stray b => [(Char.ofNat b.toNat, true)]
  else cs.map fun c => (c, isControl c || 0x80 ≤ c.toNat)

/-- Whether messages are in an encoding with more than 128 characters. -/
def usesUtf8 : Run Bool := do
  let s ← get
  let value := ["LC_ALL", "LC_CTYPE", "LANG"].findSome? fun name =>
    ((s.vars.get? name).bind (·.value)).filter (· ≠ "")
  return ["c.utf-8", "c.utf8"].contains ((value.getD "").toLower)

/-- The characters of a text between single quotes, those without a shape outside of them. -/
def inSingleQuotes (cs : List (Char × Bool)) : List Char :=
  let step := fun (state : List Char × Bool) ((c, isShapeless) : Char × Bool) =>
    let (written, outside) := state
    if isShapeless then
      let opening := if outside then [] else ['\'', '$', '\'']
      (written ++ opening ++ escapedCharacter c, true)
    else
      let written := if outside then written ++ ['\'', '\''] else written
      if c = '\'' then (written ++ ['\'', '\\', '\'', '\''], false) else (written ++ [c], false)
  '\'' :: (cs.foldl step ([], false)).1 ++ ['\'']

/-- Whether a character can stand in double quotes as it is. -/
def isPlainInDouble (c : Char) : Bool :=
  c.isAlphanum || ['%', '+', ',', '-', '.', '/', ':', ']', '_', ' ', '\'', '#', '~'].contains c ||
    0x80 ≤ c.toNat

/-- A text in quotes. -/
def quoted (text : String) : String :=
  let cs := shapes true text.toList
  if cs.any (·.1 = '\'') && cs.all fun (c, isShapeless) => isPlainInDouble c && !isShapeless
  then "\"" ++ text ++ "\""
  else String.ofList (inSingleQuotes cs)

/-- Whether a character makes quotes necessary, given whether it is the first one. -/
def needsQuotes (first : Bool) (c : Char) : Bool :=
  [' ', '!', '"', '$', '&', '\'', '(', ')', '*', ';', '<', '=', '>', '?', '[', '\\', '^', '\x60',
    '|'].contains c || (first && (c = '#' || c = '~'))

/-- A name of a file in quotes if it needs them; a colon needs them on request. -/
def quotedIfNeeded (colon : Bool) (text : String) : String :=
  let cs := text.toList
  let needs := cs.isEmpty || cs = ['\x7b'] || cs = ['\x7d'] || cs.head?.any (needsQuotes true) ||
    (shapes true cs).any (fun (c, isShapeless) => isShapeless || needsQuotes false c) ||
    (colon && cs.contains ':')
  if needs then quoted text else text

/-- A text between the quotes of the language of messages. -/
def cited (text : String) : Run String := do
  let wide ← usesUtf8
  let written := (shapes wide text.toList).flatMap fun (c, isShapeless) =>
    if isShapeless then escapedCharacter c
    else if c = '\\' || (!wide && c = '\'') then ['\\', c]
    else [c]
  let text := String.ofList written
  return if wide then "\xe2\x80\x98" ++ text ++ "\xe2\x80\x99" else "'" ++ text ++ "'"

/-! ## 2.  Messages -/

/-- Says something after what was printed. -/
def say (text : String) : Run Unit := do
  discard flush
  complain text

/-- Says what went wrong. -/
def report (name message : String) : Run Unit := say (name ++ ": " ++ message ++ "\n")

/-- Ends with a status. -/
def quit {α : Type} (status : Nat) : Run α := do
  setStatus status
  throw .gone

/-- Says what went wrong, and ends with a status. -/
def fail {α : Type} (name message : String) (status : Nat) : Run α := do
  report name message
  quit status

/-- Says how to get help, and ends with a status. -/
def referToHelp {α : Type} (name : String) (status : Nat) : Run α := do
  say ("Try '" ++ name ++ " --help' for more information.\n")
  quit status

/-- Says what is wrong with the arguments, and how to get help. -/
def misused {α : Type} (name message : String) (status : Nat) : Run α := do
  report name message
  referToHelp name status

/-- Complains about arguments of which there are too few. -/
def missingOperand {α : Type} (name : String) (status : Nat) : Run α :=
  misused name "missing operand" status

/-- Complains about an argument of which there are too many. -/
def extraOperand {α : Type} (name operand : String) (status : Nat) : Run α := do
  misused name ("extra operand " ++ (← cited operand)) status

/-- Sends out what was printed, and gives a status: the second one, or the first if that fails. -/
def finishOr (failure : Nat) (name : String) (status : Nat) : Run Nat := do
  match ← flush with
  | none => return status
  | some e => do
    complain (name ++ ": write error: " ++ e.message ++ "\n")
    return failure

/-- Sends out what was printed, and gives a status: the given one, or that of a failure. -/
def finish (name : String) (status : Nat) : Run Nat := finishOr 1 name status

/-- The end of a utility that sends out its lines one by one.  What went wrong with a line is not known
any more at the end. -/
def finishLines (name : String) (status : Nat) : Run Nat := do
  match ← flush with
  | none => return status
  | some e => do
    let reason := if e = .badDescriptor then ": " ++ e.message else ""
    complain (name ++ ": write error" ++ reason ++ "\n")
    return 1

/-! ## 3.  Options -/

/-- Whether a long option has an argument. -/
inductive Valued where
  | no
  | maybe
  | yes
  deriving DecidableEq

/-- A long option, with the letter that stands for it. -/
structure LongOption where
  name : String
  letter : Char
  valued : Valued

/-- The options of a utility. -/
structure Syntax where
  /-- The letters without an argument. -/
  flags : String
  /-- The letters with an argument. -/
  valued : String
  long : List LongOption
  /-- Whether options may stand behind other arguments. -/
  permutes : Bool
  /-- The status of a mistake. -/
  status : Nat

/-- The letter of `--help`. -/
def helpLetter : Char := Char.ofNat 0x100

/-- The letter of `--version`. -/
def versionLetter : Char := Char.ofNat 0x101

/-- An option that was given, with its argument if it has one. -/
abbrev Given := Char × String

/-- The long option that a text is the name of, or the beginning of the name of. -/
def longOption (name : String) (x : Syntax) (written : String) : Run LongOption := do
  let all := x.long ++ [⟨"help", helpLetter, .no⟩, ⟨"version", versionLetter, .no⟩]
  match all.find? fun o => o.name = written with
  | some o => return o
  | none =>
    match all.filter fun o => o.name.startsWith written with
    | [] => misused name ("unrecognized option '--" ++ written ++ "'") x.status
    | o :: others =>
      if others.all fun p => p.letter = o.letter then return o
      else
        let names := String.join ((o :: others).map fun o => " '--" ++ o.name ++ "'")
        misused name ("option '--" ++ written ++ "' is ambiguous; possibilities:" ++ names) x.status

/-- Reads a long option, without its dashes; gives the arguments behind it too. -/
def readLong (name : String) (x : Syntax) (text : String) (rest : List String) :
    Run (Given × List String) := do
  let cs := text.toList
  let written := cs.takeWhile (· ≠ '=')
  let value := (cs.drop written.length)
  let o ← longOption name x (String.ofList written)
  match o.valued, value, rest with
  | .no, [], _ => return ((o.letter, ""), rest)
  | .no, _, _ => misused name ("option '--" ++ o.name ++ "' doesn't allow an argument") x.status
  | _, _ :: value, _ => return ((o.letter, String.ofList value), rest)
  | .maybe, [], _ => return ((o.letter, ""), rest)
  | .yes, [], value :: rest => return ((o.letter, value), rest)
  | .yes, [], [] => misused name ("option '--" ++ o.name ++ "' requires an argument") x.status

/-- Reads letters behind a dash; gives the arguments behind them too. -/
def readLetters (name : String) (x : Syntax) : List Char → List String →
    Run (List Given × List String)
  | [], rest => return ([], rest)
  | c :: letters, rest => do
    if x.flags.toList.contains c then
      let (given, rest) ← readLetters name x letters rest
      return ((c, "") :: given, rest)
    else if x.valued.toList.contains c then
      match letters, rest with
      | [], [] => misused name ("option requires an argument -- '" ++ c.toString ++ "'") x.status
      | [], value :: rest => return ([(c, value)], rest)
      | letters, rest => return ([(c, String.ofList letters)], rest)
    else misused name ("invalid option -- '" ++ c.toString ++ "'") x.status

/-- Reads options; gives the other arguments too.  The budget has to be more than the number of
arguments. -/
def readOptions (name : String) (x : Syntax) : Nat → List String → Run (List Given × List String)
  | 0, arguments => return ([], arguments)
  | budget + 1, arguments => do
    match arguments with
    | [] => return ([], [])
    | argument :: rest =>
      match argument.toList with
      | ['-', '-'] => return ([], rest)
      | '-' :: '-' :: text => do
        let (first, rest) ← readLong name x (String.ofList text) rest
        let (given, operands) ← readOptions name x budget rest
        return (first :: given, operands)
      | '-' :: c :: letters => do
        let (first, rest) ← readLetters name x (c :: letters) rest
        let (given, operands) ← readOptions name x budget rest
        return (first ++ given, operands)
      | _ =>
        if x.permutes then do
          let (given, operands) ← readOptions name x budget rest
          return (given, argument :: operands)
        else return ([], arguments)

/-- Whether the argument behind an argument belongs to it. -/
def takesNext (x : Syntax) (argument : String) : Bool :=
  match argument.toList with
  | '-' :: '-' :: name =>
    x.long.any fun o => o.valued = .yes && o.name = String.ofList name
  | '-' :: letters =>
    let bare := letters.dropWhile x.flags.toList.contains
    match bare with
    | [letter] => x.valued.toList.contains letter
    | _ => false
  | _ => false

/-- Arguments in which those are changed that do not belong to an option in front of them. -/
def changeFree (x : Syntax) (change : String → List String) : List String → List String
  | [] => []
  | "--" :: rest => "--" :: rest
  | [argument] => change argument
  | argument :: next :: rest =>
    if takesNext x argument then argument :: next :: changeFree x change rest
    else change argument ++ changeFree x change (next :: rest)

/-- The options among arguments, and the other arguments. -/
def options (name : String) (x : Syntax) (arguments : List String) :
    Run (List Given × List String) := do
  let (given, operands) ← readOptions name x (arguments.length + 1) arguments
  match given.find? fun (letter, _) => letter = helpLetter || letter = versionLetter with
  | some (letter, _) => do
    let own := ((name.splitOn "/").getLast?).getD name
    if letter = helpLetter then print ("Usage: " ++ name ++ " [OPTION]...\n")
    else print (own ++ " (GNU coreutils) 9.4\n")
    quit (← finish name 0)
  | none => return (given, operands)

/-- The word among some that an argument of a long option is, or is the beginning of.  Words that
mean the same stand together. -/
def wordAmong (name option text : String) (words : List (List String)) (status : Nat) :
    Run String := do
  let candidates := words.filter fun same => same.any (·.startsWith text)
  let exact := words.find? (·.contains text)
  match exact, candidates with
  | some same, _ | none, [same] => return same.headD text
  | none, _ =>
    let what := if candidates.isEmpty then "invalid" else "ambiguous"
    report name
      (what ++ " argument " ++ (← cited text) ++ " for " ++ (← cited ("--" ++ option)))
    let mut lines := "Valid arguments are:\n"
    for same in words do
      lines := lines ++ "  - " ++ ", ".intercalate (← same.mapM cited) ++ "\n"
    say lines
    referToHelp name status

/-- Whether an option was given. -/
def has (given : List Given) (letter : Char) : Bool := given.any fun (c, _) => c = letter

/-- The argument of an option, that which was given last. -/
def valueOf (given : List Given) (letter : Char) : Option String :=
  ((given.reverse).find? fun (c, _) => c = letter).map (·.2)

/-- Which of some options was given last. -/
def lastOf (given : List Given) (letters : List Char) : Option Char :=
  ((given.reverse).find? fun (c, _) => letters.contains c).map (·.1)

/-! ## 4.  Input -/

/-- A descriptor that utilities read files through. -/
def scratchDescriptor : Nat := 1000

/-- Why a file cannot be read. -/
inductive InputError where
  | opening (e : FileError)
  | reading (e : TransferError)

/-- Why a file cannot be read, in words. -/
def InputError.message : InputError → String
  | .opening e => e.message
  | .reading e => e.message

/-- Runs something with a file open for reading: gives it the descriptor. -/
def withFile {α : Type} (path : String) (use : Nat → Run α) : Run (Except FileError α) := do
  match ← openForReading path with
  | .error e => return .error e
  | .ok number => do
    setDescriptor scratchDescriptor number
    let result ← use scratchDescriptor
    closeDescriptor scratchDescriptor
    return .ok result

/-- The bytes of a file, or of the input for `-`. -/
def contentOf (operand : String) : Run (Except InputError ByteArray) := do
  let readAll (descriptor : Nat) : Run (Except InputError ByteArray) := do
    match ← read descriptor none with
    | .ok bytes => return .ok bytes
    | .error e => return .error (.reading e)
  if operand = "-" then readAll 0
  else
    match ← withFile operand readAll with
    | .ok result => return result
    | .error e => return .error (.opening e)

/-- The operands, or the input if there is none. -/
def orInput (operands : List String) : List String := if operands.isEmpty then ["-"] else operands

/-- Ends the use of the input, if an operand stands for it; that fails if there is none.  Gives a status
for a given one. -/
def closeInput (name what : String) (operands : List String) (status : Nat) : Run Nat := do
  if (orInput operands).contains "-" && (← openFile? 0).isNone then
    report name (what ++ ": " ++ TransferError.badDescriptor.message)
    return 1
  else return status

/-- Does something with the content of each operand, and complains about those that cannot be read;
gives the status 0, or 1 if there were such. -/
def forEachContent (name : String) (operands : List String) (use : String → ByteArray → Run Unit) :
    Run Nat := do
  let mut status := 0
  for operand in orInput operands do
    match ← contentOf operand with
    | .ok bytes => use operand bytes
    | .error e =>
      report name (quotedIfNeeded true operand ++ ": " ++ e.message)
      status := 1
  return status

/-- The parts of a text that a mark stands behind, and what is left at the end. -/
def recordsOf (mark : Char) (text : String) : List String :=
  let parts := text.splitOn mark.toString
  if text = "" || text.endsWith mark.toString then parts.dropLast else parts

/-- The lines of a text without the newlines behind them. -/
def linesOf (text : String) : List String := recordsOf '\n' text

/-- Whether the last line of a text has no newline behind it. -/
def lacksNewline (text : String) : Bool := text ≠ "" && !text.endsWith "\n"

/-- What stands behind the records of a utility that can be asked for zero bytes there. -/
def recordMark (given : List Given) : Char := if has given 'z' then '\x00' else '\n'

/-- What the host says of a number that lies outside of its bounds. -/
def boundMessage (n : Int) : String :=
  if 1073741823 < n || n < -1073741824 then "Value too large for defined data type"
  else "Numerical result out of range"

/-- The number that an argument is, between two bounds. -/
def signedWithin (name what text : String) (least most : Int) : Run Int := do
  let n := Number.scanWithin (-1 - Int.pow 2 64) (Int.pow 2 64) (some 10) text.toList
  if !n.rest.isEmpty || text.isEmpty then fail name (what ++ ": " ++ (← cited text)) 1
  else if n.value < least || most < n.value then
    fail name (what ++ ": " ++ (← cited text) ++ ": " ++ boundMessage n.value) 1
  else return n.value

/-- The same where no sign may stand in front of a number if the least one is not below zero. -/
def wholeWithin (name what text : String) (least most : Int) : Run Int := do
  let isBelow := 0 ≤ least && (text.toList.dropWhile Number.isBlank).head? = some '-'
  if isBelow then fail name (what ++ ": " ++ (← cited text)) 1
  else signedWithin name what text least most

/-- A text at the right end of a column. -/
def atRight (width : Nat) (text : String) : String :=
  String.ofList (List.replicate (width - text.length) ' ') ++ text

/-- A text at the left end of a column. -/
def atLeft (width : Nat) (text : String) : String :=
  text ++ String.ofList (List.replicate (width - text.length) ' ')

/-- A number at the right end of a column. -/
def rightNumber (width n : Nat) : String := atRight width (toString n)

/-- The number that a unit of bytes stands for: a letter, with `B` behind it if powers of 1000 are
meant. -/
def unitOf? (unit : List Char) : Option Nat :=
  match unit with
  | [] => some 1
  | ['b'] => some 512
  | letter :: rest =>
    let letters := ['K', 'M', 'G', 'T', 'P', 'E', 'Z', 'Y', 'R', 'Q']
    let letter := if letter = 'k' || letter = 'm' then letter.toUpper else letter
    let power := letters.idxOf letter + 1
    if !letters.contains letter then none
    else
      match rest with
      | [] | ['i', 'B'] => some (Nat.pow 1024 power)
      | ['B'] | ['D'] => some (Nat.pow 1000 power)
      | _ => none

/-- A quotient, rounded up or to the nearest number, of two as near ones to the even one. -/
def roundedQuotient (up : Bool) (n d : Nat) : Nat :=
  let q := n / d
  let r := n % d
  let isMore := if up then 0 < r else d < 2 * r || (2 * r = d && q % 2 = 1)
  if isMore then q + 1 else q

/-- A size in the greatest unit of which there is one, with a place behind the point if it is below ten,
and the power of the base that the unit is. -/
def sizeInUnits (up : Bool) (base n : Nat) : String × Nat :=
  let power := ((List.range 6).find? fun i => n < Nat.pow base (i + 1)).getD 5
  if power = 0 then (toString n, 0)
  else
    let tenths := roundedQuotient up (n * 10) (Nat.pow base power)
    if tenths < 100 then (toString (tenths / 10) ++ "." ++ toString (tenths % 10), power)
    else
      let whole := roundedQuotient up n (Nat.pow base power)
      if whole = base && power < 5 then ("1.0", power + 1) else (toString whole, power)

/-- The letter of the unit that a power of 1000 or 1024 is. -/
def unitLetter (base power : Nat) : String :=
  (if base = 1000 then ["", "k", "M", "G", "T", "P"] else ["", "K", "M", "G", "T", "P"]).getD power ""

/-- The size of a number with a unit behind it, such as `2k`, if a text is one. -/
def sizeOf? (text : String) : Option Nat :=
  let cs := text.toList
  let digits := cs.takeWhile Char.isDigit
  if digits.isEmpty then none
  else (unitOf? (cs.drop digits.length)).map (Number.digitsValue 10 digits * ·)

end CountedStrings.Shell.Utility
