import CountedStrings.Surroundings.Shell.Builtin.Arguments
import CountedStrings.Surroundings.Shell.Layout

/-!
# Built-in commands that print

`echo` prints its arguments with their backslashes replaced.  `printf` prints a format, in which a
percent sign introduces the place of an argument; the format is used again as long as arguments are
left, and where they run out, places are filled with nothing or with zero.
-/

namespace CountedStrings.Shell.Builtin

/-- Prints arguments with blanks between them. -/
def echo : Body := fun arguments => do
  let (newline, words) := match arguments with
    | "-n" :: words => (false, words)
    | words => (true, words)
  let (cs, ends) := Backslash.replaced (" ".intercalate words)
  print (String.ofList cs)
  if newline && !ends then print "\n"
  return 0

/-- What is left to do for a format. -/
structure Filling where
  arguments : List String
  /-- Whether an argument did not fit its place. -/
  failed : Bool

/-- A computation that fills the places of a format. -/
abbrev Fill (α : Type) := StateT Filling (EStateM Stop State) α

/-- Takes the next argument. -/
def nextArgument : Fill (Option String) := do
  let f ← get
  match f.arguments with
  | [] => return none
  | argument :: rest =>
    set { f with arguments := rest }
    return some argument

/-- Complains about an argument that does not fit its place. -/
def misfit (argument reason : String) : Fill Unit := do
  (warn (argument ++ ": " ++ reason) : Run Unit)
  modify fun f => { f with failed := true }

/-- Complains about an argument that is not all read or too large. -/
def checkRest (argument : String) (rest : List Char) (outOfRange : Bool) : Fill Unit := do
  if rest.length = argument.length && !rest.isEmpty then misfit argument "expected numeric value"
  else if !rest.isEmpty then misfit argument "not completely converted"
  else if outOfRange then misfit argument "Numerical result out of range"

/-- The number of the character behind a quote, if an argument begins with one. -/
def quotedCharacter? (argument : String) : Option Nat :=
  match argument.toList with
  | q :: rest => if q = '\'' || q = '"' then some ((rest.head?.map Char.toNat).getD 0) else none
  | [] => none

/-- The next argument as a number, a signed one or one modulo the number of its values. -/
def nextNumber (signed : Bool) : Fill Int := do
  match ← nextArgument with
  | none => return 0
  | some argument =>
    match quotedCharacter? argument with
    | some n => return n
    | none =>
      let cs := argument.toList
      let top : Int := Int.pow 2 64
      let n :=
        if signed then Number.scan none cs else Number.scanWithin (1 - top) (top - 1) none cs
      checkRest argument n.rest n.overflows
      if signed then return n.value
      else return if n.overflows then top - 1 else n.value % top

/-- The next argument as a real number. -/
def nextReal : Fill Real := do
  match ← nextArgument with
  | none => return .finite false 0 0
  | some argument =>
    match quotedCharacter? argument with
    | some n => return .finite false n 0
    | none =>
      let n := Real.scan .double argument.toList
      let named := match n.value with
        | .finite _ _ _ => false
        | _ => !argument.any Char.isDigit
      checkRest argument n.rest (n.outOfRange && !named)
      return n.value

/-- The number at the start of a text: a star takes it from an argument. -/
def widthAt (cs : List Char) : Fill (Option Int × List Char) := do
  match cs with
  | '*' :: rest => return (some (← nextNumber true), rest)
  | _ =>
    let digits := cs.takeWhile Char.isDigit
    return (if digits.isEmpty then none else some (Number.digitsValue 10 digits : Nat),
      cs.drop digits.length)

/-- The layout behind a percent sign, and the text behind it. -/
def layoutAt (cs : List Char) : Fill (Layout × List Char) := do
  let flags := cs.takeWhile ['#', '-', '+', ' ', '0'].contains
  let (width, rest) ← widthAt (cs.drop flags.length)
  let l := (Layout.ofFlags flags).withWidth (width.getD 0)
  match rest with
  | '.' :: rest => do
    let (precision, rest) ← widthAt rest
    return (l.withPrecision (precision.getD 0), rest)
  | rest => return (l, rest)

/-- Prints characters. -/
def put (cs : List Char) : Fill Unit := (print (String.ofList cs) : Run Unit)

/-- Fills a place with the next argument; tells whether anything may follow. -/
def fillPlace (l : Layout) (conversion : Char) (written : List Char) : Fill Bool := do
  match conversion with
  | 'b' => do
    let (cs, ends) := Backslash.replaced ((← nextArgument).getD "")
    put (l.ofText cs)
    return !ends
  | 'c' => put (l.ofChar (((← nextArgument).bind (·.toList.head?)).getD '\x00'))
  | 's' => put (l.ofText ((← nextArgument).getD "").toList)
  | 'd' | 'i' => put (l.ofInt (← nextNumber true))
  | 'o' => put (l.ofNat 8 (← nextNumber false).toNat)
  | 'u' => put (l.ofNat 10 (← nextNumber false).toNat)
  | 'x' => put (l.ofNat 16 (← nextNumber false).toNat)
  | 'X' => put ((l.ofNat 16 (← nextNumber false).toNat).map Char.toUpper)
  | c =>
    if ['a', 'e', 'f', 'g'].contains c.toLower then put (l.ofReal .double c (← nextReal))
    else (misuse ("%" ++ String.ofList written ++ ": invalid directive") : Run Unit)
  return true

/-- Goes through a format once; tells whether anything may follow.  The budget has to be more than the
length of the format. -/
def fillFormat : Nat → List Char → Fill Bool
  | 0, _ | _, [] => return true
  | budget + 1, '\\' :: rest => do
    let (c, rest) := Backslash.escape false rest
    put [c]
    fillFormat budget rest
  | budget + 1, '%' :: '%' :: rest => do
    put ['%']
    fillFormat budget rest
  | budget + 1, '%' :: cs => do
    let (l, rest) ← layoutAt cs
    match rest with
    | [] => (misuse "missing format character" : Run Bool)
    | conversion :: rest =>
      if ← fillPlace l conversion (cs.take (cs.length - rest.length)) then fillFormat budget rest
      else return false
  | budget + 1, c :: rest => do
    put [c]
    fillFormat budget rest

/-- Goes through a format as long as arguments are left. -/
def fillFormats (format : List Char) : Nat → Fill Unit
  | 0 => return
  | budget + 1 => do
    let before := (← get).arguments.length
    let goesOn ← fillFormat (format.length + 1) format
    let after := (← get).arguments.length
    if goesOn && 0 < after && after < before then fillFormats format budget

/-- Prints arguments in the places of a format. -/
def printf : Body := fun arguments => do
  match ← operands arguments with
  | [] => misuse "usage: printf format [arg ...]"
  | format :: rest => do
    let ((), f) ← (fillFormats format.toList (rest.length + 1)).run ⟨rest, false⟩
    return if f.failed then 1 else 0

end CountedStrings.Shell.Builtin
