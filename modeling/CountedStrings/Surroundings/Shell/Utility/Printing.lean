import CountedStrings.Surroundings.Shell.Layout
import CountedStrings.Surroundings.Shell.Utility.Basic

/-!
# Printing arguments

## 1.  Words

`echo` prints its arguments with blanks between them, and replaces backslashes on request.

## 2.  Backslashes in formats

Beside the usual ones, a backslash stands in front of the number of a byte in base sixteen or of a
character of the universal set.

## 3.  Places

`printf` fills the places of a format with its arguments.  Each flag of a place rules out some letters
(`lettersWithout`), and an argument that does not fit its place is complained about.
-/

namespace CountedStrings.Shell.Utility

/-! ## 1.  Words -/

/-- Whether an argument is made of letters that `echo` takes as options. -/
def isEchoOption (argument : String) : Bool :=
  match argument.toList with
  | '-' :: c :: letters => (c :: letters).all ['e', 'E', 'n'].contains
  | _ => false

/-- What a backslash of `echo` stands for in front of a text, and the rest of the text. -/
def echoEscape (cs : List Char) : List Char × List Char :=
  match cs with
  | 'x' :: rest =>
    let digits := (rest.take 2).takeWhile (Number.isDigitOf 16)
    if digits.isEmpty then (['\\', 'x'], rest)
    else ([Backslash.byteOf 16 digits], rest.drop digits.length)
  | '0' :: rest =>
    let digits := (rest.take 3).takeWhile Backslash.isOctal
    ([Backslash.byteOf 8 digits], rest.drop digits.length)
  | cs =>
    let (c, rest) := Backslash.escape false cs
    ([c], rest)

/-- A text with its backslashes replaced, and whether it says that nothing may follow it.  The budget
has to be more than the length of the text. -/
def echoed : Nat → List Char → List Char × Bool
  | 0, _ | _, [] => ([], false)
  | _ + 1, '\\' :: 'c' :: _ => ([], true)
  | budget + 1, '\\' :: c :: rest =>
    let (replaced, rest) := echoEscape (c :: rest)
    let (others, ends) := echoed budget rest
    (replaced ++ others, ends)
  | budget + 1, c :: rest =>
    let (others, ends) := echoed budget rest
    (c :: others, ends)

/-- Prints arguments with blanks between them. -/
def echo : Body := fun name arguments => do
  let strict := ((← get).vars.get? "POSIXLY_CORRECT").any fun v => v.exported
  if !strict && (arguments = ["--help"] || arguments = ["--version"]) then
    discard (options name ⟨"", "", [], true, 1⟩ arguments)
  let takesOptions := !strict || arguments.head? = some "-n"
  let given := if takesOptions then arguments.takeWhile isEchoOption else []
  let letters := given.flatMap fun argument => argument.toList.drop 1
  let replaces := strict || (letters.filter fun c => c ≠ 'n').getLast? = some 'e'
  let text := (" ".intercalate (arguments.drop given.length)).toList
  let (cs, ends) := if replaces then echoed (text.length + 1) text else (text, false)
  print (String.ofList cs)
  if !letters.contains 'n' && !ends then print "\n"
  finish name 0

/-! ## 2.  Backslashes in formats -/

/-- The arguments of a format that are left. -/
structure Supply where
  arguments : List String
  /-- Whether an argument did not fit its place. -/
  failed : Bool

/-- A computation that fills places. -/
abbrev Filling (α : Type) := StateT Supply (EStateM Stop State) α

/-- Something that has nothing to do with the arguments that are left. -/
def aside {α : Type} (run : Run α) : Filling α := run

/-- Prints characters. -/
def put (cs : List Char) : Filling Unit := aside (print (String.ofList cs))

/-- The next argument. -/
def nextArgument? : Filling (Option String) := do
  let supply ← get
  match supply.arguments with
  | [] => return none
  | argument :: rest =>
    set { supply with arguments := rest }
    return some argument

/-- Whether the universal set has no character for a number that may be written so. -/
def isNoCharacter (n : Nat) : Bool :=
  (n ≤ 0x9F && n ≠ 0x24 && n ≠ 0x40 && n ≠ 0x60) || (0xD800 ≤ n && n ≤ 0xDFFF)

/-- Digits in base sixteen, at least so many. -/
def hexText (least n : Nat) : String := String.ofList (Real.digitsOf 16 least n)

/-- Prints a character of the universal set, or its number where there is no room for it. -/
def putUniversal (n : Nat) : Filling Unit := do
  let wide ← aside usesUtf8
  if wide && n ≤ 0x10FFFF then
    put (Bytes.toByteText (Bytes.ofText (Char.ofNat n).toString)).toList
  else if n ≤ 0xFFFF then put ("\\u" ++ (hexText 4 n).toUpper).toList
  else put ("\\U" ++ (hexText 8 n).toUpper).toList

/-- Prints what a backslash stands for in front of a text, and gives the rest of the text.  With `zero`,
three octal digits may follow a zero. -/
def putEscape (name : String) (zero : Bool) (cs : List Char) : Filling (List Char) := do
  match cs with
  | [] => do
    put ['\\']
    return []
  | 'c' :: _ => aside (do quit (← finish name 0))
  | 'x' :: rest => do
    let digits := (rest.take 2).takeWhile (Number.isDigitOf 16)
    if digits.isEmpty then aside (fail name "missing hexadecimal number in escape" 1)
    put [Backslash.byteOf 16 digits]
    return rest.drop digits.length
  | c :: rest =>
    if c = 'u' || c = 'U' then
      let count := if c = 'u' then 4 else 8
      let digits := (rest.take count).takeWhile (Number.isDigitOf 16)
      if digits.length < count then aside (fail name "missing hexadecimal number in escape" 1)
      let n := Number.digitsValue 16 digits
      if isNoCharacter n then
        let written := "\\" ++ c.toString ++ hexText count n
        aside (fail name ("invalid universal character name " ++ written) 1)
      putUniversal n
      return rest.drop count
    else if c = '"' then
      put ['"']
      return rest
    else
      let (d, others) := Backslash.escape zero cs
      put [d]
      return others

/-- Prints a text with its backslashes replaced.  The budget has to be more than the length of the
text. -/
def putEscaped (name : String) : Nat → List Char → Filling Unit
  | 0, _ | _, [] => return
  | budget + 1, '\\' :: rest => do
    let rest ← putEscape name true rest
    putEscaped name budget rest
  | budget + 1, c :: rest => do
    put [c]
    putEscaped name budget rest

/-! ## 3.  Places -/

/-- Complains about an argument that does not fit its place. -/
def misfit (name argument reason : String) : Filling Unit := do
  aside (do report name ((← cited argument) ++ ": " ++ reason))
  modify fun supply => { supply with failed := true }

/-- Complains about an argument that is not all read or too large. -/
def checkRead (name argument : String) (rest : List Char) (outOfRange : Bool) : Filling Unit := do
  if outOfRange then misfit name argument "Numerical result out of range"
  else if rest.isEmpty then return
  else if rest.length = argument.length then misfit name argument "expected a numeric value"
  else misfit name argument "value not completely converted"

/-- The first character of a text with one character per byte, and how many bytes it takes. -/
def firstCharacter (wide : Bool) (cs : List Char) : Nat × Nat :=
  let lengths := if wide then [1, 2, 3, 4] else []
  let found := lengths.findSome? fun n =>
    match Text.Utf8.decode (Bytes.ofCharacters (cs.take n)) with
    | some text => if cs.length < n then none else text.toList.head?.map fun c => (c.toNat, n)
    | none => none
  found.getD ((cs.head?.map Char.toNat).getD 0, 1)

/-- The number of the character behind a quote, if an argument begins with one. -/
def characterNumber? (name argument : String) : Filling (Option Nat) := do
  match argument.toList with
  | q :: c :: cs =>
    if q = '\'' || q = '"' then
      let wide ← aside usesUtf8
      let (n, length) := firstCharacter wide (c :: cs)
      let rest := (c :: cs).drop length
      let strict := ((← aside get).vars.get? "POSIXLY_CORRECT").isSome
      if !rest.isEmpty && !strict then
        aside (report name ("warning: " ++ String.ofList rest ++
          ": character(s) following character constant have been ignored"))
      return some n
    else return none
  | _ => return none

/-- An argument as a number, a signed one or one modulo the number of its values. -/
def wholeOf (name : String) (signed : Bool) (argument : String) : Filling Int := do
  match ← characterNumber? name argument with
  | some n => return n
  | none =>
    let cs := argument.toList
    let top : Int := Int.pow 2 64
    let n := if signed then Number.scan none cs else Number.scanWithin (1 - top) (top - 1) none cs
    checkRead name argument n.rest n.overflows
    if signed then return n.value
    else return if n.overflows then top - 1 else n.value % top

/-- An argument as a real number. -/
def realOf (name argument : String) : Filling Real := do
  match ← characterNumber? name argument with
  | some n => return .finite false n 0
  | none =>
    let n := Real.scan .extended argument.toList
    checkRead name argument n.rest n.outOfRange
    return n.value

/-- The number at the start of a text, which a star takes from an argument; the words say what it is
for. -/
def measureAt (name what : String) (cs : List Char) : Filling (Option Int × List Char) := do
  match cs with
  | '*' :: rest => do
    match ← nextArgument? with
    | none => return (some 0, rest)
    | some argument => do
      let n ← wholeOf name true argument
      if 2147483647 < n || (n < -2147483648 && what = "field width") then
        aside (do fail name ("invalid " ++ what ++ ": " ++ (← cited argument)) 1)
      return (some n, rest)
  | _ =>
    let digits := cs.takeWhile Char.isDigit
    return (if digits.isEmpty then none else some (Number.digitsValue 10 digits : Nat),
      cs.drop digits.length)

/-- The letters that a flag rules out. -/
def lettersWithout : Char → String
  | 'I' | '\'' => "aAceEosxX"
  | '#' => "cdisu"
  | '0' => "cs"
  | '.' => "c"
  | _ => ""

/-- The letters of places. -/
def placeLetters : String := "aAcdeEfFgGiosuxX"

/-- Fills a place with an argument. -/
def fillPlace (name : String) (l : Layout) (letter : Char) (argument : String) : Filling Unit := do
  match letter with
  | 'c' => put (l.ofChar (argument.toList.headD '\x00'))
  | 's' => put (l.ofText argument.toList)
  | 'd' | 'i' => put (l.ofInt (← wholeOf name true argument))
  | 'o' => put (l.ofNat 8 (← wholeOf name false argument).toNat)
  | 'u' => put (l.ofNat 10 (← wholeOf name false argument).toNat)
  | 'x' => put (l.ofNat 16 (← wholeOf name false argument).toNat)
  | 'X' => put ((l.ofNat 16 (← wholeOf name false argument).toNat).map Char.toUpper)
  | c => put (l.ofReal .extended c (← realOf name argument))

/-- Fills the place behind a percent sign; gives the text behind it. -/
def placeAt (name : String) (cs : List Char) : Filling (List Char) := do
  let flags := cs.takeWhile ['I', '\'', '-', '+', ' ', '#', '0'].contains
  let (width, rest) ← measureAt name "field width" (cs.drop flags.length)
  let (precision, rest) ← match rest with
    | '.' :: rest => do
      let (precision, rest) ← measureAt name "precision" rest
      pure (some (precision.getD 0), rest)
    | rest => pure (none, rest)
  let rest := rest.dropWhile ['l', 'L', 'h', 'j', 't', 'z'].contains
  let marks := if precision.isSome then '.' :: flags else flags
  let letter := rest.headD '\x00'
  let isRuledOut := marks.any fun mark => (lettersWithout mark).toList.contains letter
  if isRuledOut || !placeLetters.toList.contains letter then
    let written := String.ofList ('%' :: cs.take (cs.length - rest.length + 1))
    aside (fail name (written ++ ": invalid conversion specification") 1)
  let l := (Layout.ofFlags flags).withWidth (width.getD 0)
  let l := match precision with
    | some precision => l.withPrecision precision
    | none => l
  fillPlace name l letter ((← nextArgument?).getD "")
  return rest.drop 1

/-- Goes through a format once.  The budget has to be more than the length of the format. -/
def fillFormat (name : String) : Nat → List Char → Filling Unit
  | 0, _ | _, [] => return
  | budget + 1, '\\' :: rest => do
    let rest ← putEscape name false rest
    fillFormat name budget rest
  | budget + 1, '%' :: '%' :: rest => do
    put ['%']
    fillFormat name budget rest
  | budget + 1, '%' :: 'b' :: rest => do
    if let some argument ← nextArgument? then
      putEscaped name (argument.length + 1) argument.toList
    fillFormat name budget rest
  | budget + 1, '%' :: 'q' :: rest => do
    if let some argument ← nextArgument? then
      put (quotedIfNeeded false argument).toList
    fillFormat name budget rest
  | budget + 1, '%' :: cs => do
    let rest ← placeAt name cs
    fillFormat name budget rest
  | budget + 1, c :: rest => do
    put [c]
    fillFormat name budget rest

/-- Goes through a format as long as it takes arguments and some are left. -/
def fillFormats (name : String) (format : List Char) : Nat → Filling Unit
  | 0 => return
  | budget + 1 => do
    let before := (← get).arguments.length
    fillFormat name (format.length + 1) format
    let after := (← get).arguments.length
    if 0 < after && after < before then fillFormats name format budget

/-- Prints arguments in the places of a format. -/
def printf : Body := fun name arguments => do
  if arguments = ["--help"] || arguments = ["--version"] then
    discard (options name ⟨"", "", [], true, 1⟩ arguments)
  let operands := if arguments.head? = some "--" then arguments.drop 1 else arguments
  match operands with
  | [] => missingOperand name 1
  | format :: rest => do
    let ((), supply) ← (fillFormats name format.toList (rest.length + 1)).run ⟨rest, false⟩
    if let some argument := supply.arguments.head? then
      report name
        ("warning: ignoring excess arguments, starting with " ++ (← cited argument))
    finish name (if supply.failed then 1 else 0)

end CountedStrings.Shell.Utility
