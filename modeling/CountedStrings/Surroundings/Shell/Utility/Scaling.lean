import CountedStrings.Surroundings.Shell.Layout
import CountedStrings.Surroundings.Shell.Utility.Columns

/-!
# Numbers with units

`numfmt` reads numbers that may have a letter for a power of 1000 or 1024 behind them, and writes them
in the same way.

## 1.  Numbers

A number is an exact quotient.  It is rounded only where it is written, in a way that can be chosen.

## 2.  Reading

Digits, perhaps a point and more of them, and a letter for a power if such letters are expected.

## 3.  Writing

With letters for powers, a number below ten has one decimal and any other has none.  A format may say
how many decimals there are, how wide a number is, and what stands around it.

## 4.  Fields

On each line some fields are numbers, and the others stay as they are.
-/

namespace CountedStrings.Shell.Utility

/-! ## 1.  Numbers -/

/-- A quotient with a sign. -/
structure Fraction where
  negative : Bool
  numerator : Nat
  denominator : Nat

/-- How a number is rounded. -/
inductive Rounding where
  | up
  | down
  | fromZero
  | towardsZero
  | nearest
  deriving DecidableEq

namespace Fraction

/-- A number multiplied by a quotient. -/
def scaled (x : Fraction) (n d : Nat) : Fraction :=
  { x with numerator := x.numerator * n, denominator := x.denominator * d }

/-- A number rounded to so many decimals. -/
def rounded (x : Fraction) (style : Rounding) (places : Nat) : Fraction :=
  let n := x.numerator * Nat.pow 10 places
  let whole := n / x.denominator
  let isExact := n % x.denominator = 0
  let grows := match style with
    | .up => !x.negative
    | .down => x.negative
    | .fromZero => true
    | .towardsZero => false
    | .nearest => x.denominator ≤ 2 * (n % x.denominator)
  { x with
    numerator := if !isExact && grows then whole + 1 else whole
    denominator := Nat.pow 10 places }

/-- Whether a number is at least as far from zero as another one. -/
def reaches (x : Fraction) (n : Nat) : Bool := n * x.denominator ≤ x.numerator

/-- A number divided by a base as long as it is not below it, and how often that was done.  The budget
has to be more than that. -/
def expand (base : Nat) : Nat → Fraction → Fraction × Nat
  | 0, x => (x, 0)
  | budget + 1, x =>
    if x.reaches base then
      let (y, power) := expand base budget (x.scaled 1 base)
      (y, power + 1)
    else (x, 0)

/-- A number with so many decimals, without its sign. -/
def digits (x : Fraction) (places : Nat) : List Char :=
  Real.withPoint places false
    (Real.digitsOf 10 (places + 1) (roundQuotient (x.numerator * Nat.pow 10 places) x.denominator))

/-- A number in short, as messages show it. -/
def short (x : Fraction) : String :=
  let n := roundQuotient x.numerator x.denominator
  (if x.negative then "-" else "") ++ String.ofList (Real.general 6 false n 0)

end Fraction

/-! ## 2.  Reading -/

/-- Which letters stand for powers. -/
inductive Scale where
  | none
  | auto
  | si
  | iec
  | iecI
  deriving DecidableEq

namespace Scale

/-- The letters for powers, from the first on. -/
def letters : List Char := ['K', 'M', 'G', 'T', 'P', 'E', 'Z', 'Y', 'R', 'Q']

/-- The base of the powers. -/
def base : Scale → Nat
  | .iec | .iecI => 1024
  | _ => 1000

/-- The scale of a word. -/
def ofWord (word : String) : Scale :=
  match word with
  | "auto" => .auto
  | "si" => .si
  | "iec" => .iec
  | "iec-i" => .iecI
  | _ => .none

end Scale

/-- A number that was read, how many decimals it has, and what is left of the text. -/
structure ScaledNumber where
  value : Fraction
  places : Nat
  rest : List Char

/-- Why a text is no number, given the text in quotes. -/
inductive ScalingError where
  | invalid
  | tooLarge
  | forbidden
  | letter
  | missingI

/-- Why a text is no number, in words. -/
def ScalingError.message (text : String) : ScalingError → String
  | .invalid => "invalid number: " ++ text
  | .tooLarge => "value too large to be converted: " ++ text
  | .forbidden => "rejecting suffix in input: " ++ text ++ " (consider using --from)"
  | .letter => "invalid suffix in input: " ++ text
  | .missingI => "missing 'i' suffix in input: " ++ text ++ " (e.g Ki/Mi/Gi)"

/-- How many digits a number may have that is read. -/
def mostDigits : Nat := 33

/-- Reads a number without a letter. -/
def readFraction (cs : List Char) : Except ScalingError ScaledNumber :=
  let negative := cs.head? = some '-'
  let cs := if negative then cs.drop 1 else cs
  let whole := cs.takeWhile Char.isDigit
  let cs := cs.drop whole.length
  let hasPoint := cs.head? = some '.'
  let part := if hasPoint then (cs.drop 1).takeWhile Char.isDigit else []
  let counted := whole.dropWhile (· = '0')
  if (whole.isEmpty && !hasPoint) || (hasPoint && part.isEmpty) then .error .invalid
  else if mostDigits < counted.length then .error .tooLarge
  else
    let value := Number.digitsValue 10 (whole ++ part)
    .ok ⟨⟨negative, value, Nat.pow 10 part.length⟩, part.length,
      if hasPoint then cs.drop (part.length + 1) else cs⟩

/-- Reads a number with a letter behind it, if the scale has letters. -/
def Scale.read (x : Scale) (cs : List Char) : Except ScalingError ScaledNumber := do
  let n ← readFraction cs
  match n.rest.dropWhile fun c => c = ' ' || c = '\t' with
  | [] => return { n with rest := [] }
  | c :: rest =>
    let power := Scale.letters.idxOf c + 1
    if !Scale.letters.contains c then throw .letter
    else if x = .none then throw .forbidden
    else
      let hasI := rest.head? = some 'i'
      if x = .iecI && !hasI then throw .missingI
      let base := if x = .auto && hasI then 1024 else x.base
      let rest := if (x = .iecI || x = .auto) && hasI then rest.drop 1 else rest
      return ⟨n.value.scaled (Nat.pow base power) 1, 0, rest⟩

/-! ## 3.  Writing -/

/-- How `numfmt` reads and writes. -/
structure NumberWay where
  source : Scale
  target : Scale
  sourceUnit : Nat
  targetUnit : Nat
  rounding : Rounding
  suffix : String
  /-- How many decimals are asked for. -/
  places : Option Nat
  /-- How wide numbers are; none if that depends on what they stand in place of. -/
  width : Option Nat
  isLeft : Bool
  zeros : Bool
  front : String
  behind : String
  delimiter : Option Char
  fields : List Range
  invalid : String

/-- A number as it is written, without a suffix. -/
def NumberWay.digits (x : NumberWay) (value : Fraction) (places : Nat) : String :=
  let sign (v : Fraction) : List Char := if v.negative then ['-'] else []
  let l : Layout :=
    { Layout.ofFlags (if x.zeros then ['0'] else []) with
      width := if x.zeros then x.width.getD 0 else 0 }
  if x.target = .none then
    let v := value.rounded x.rounding places
    String.ofList (l.fill (sign v) (v.digits places))
  else
    let (v, power) := value.expand x.target.base 20
    let kept := match x.places with
      | some n => min (power * 3) n
      | none => if v.reaches 10 then 0 else 1
    let v := v.rounded x.rounding kept
    let (v, power) := if v.reaches x.target.base then (v.scaled 1 x.target.base, power + 1) else (v, power)
    let shown := match x.places with
      | some n => n
      | none => if v.numerator ≠ 0 && !v.reaches 10 && 0 < power then 1 else 0
    let letter := if power = 0 then [] else [Scale.letters.getD (power - 1) '?']
    let letter := if x.target = .iecI && power ≠ 0 then letter ++ ['i'] else letter
    String.ofList (l.fill (sign v) (v.digits shown ++ letter))

/-- A number as it is written in place of a text, or why it cannot be. -/
def NumberWay.written (x : NumberWay) (value : Fraction) (places : Nat) : Except String String :=
  let kept := x.places.getD places
  let (_, power) := value.expand 10 100
  if x.target = .none && 18 < power + kept then
    if kept = 0 then
      .error ("value too large to be printed: '" ++ value.short ++ "' (consider using --to)")
    else
      .error ("value/precision too large to be printed: '" ++ value.short ++ "/" ++ toString kept ++
        "' (consider using --to)")
  else if 32 < power then
    .error ("value too large to be printed: '" ++ value.short ++ "' (cannot handle values > 999Q)")
  else .ok (x.digits value kept ++ x.suffix)

/-! ## 4.  Fields -/

/-- Complains about a text that is no number, as is wanted; gives that it is none. -/
def NumberWay.refuse (x : NumberWay) (name message : String) : Run (Option String) := do
  if x.invalid ≠ "ignore" then report name message
  if x.invalid = "abort" then quit 2
  return none

/-- A field with its number as it is written, if it is one. -/
def NumberWay.field (name : String) (x : NumberWay) (index : Nat) (text : String) :
    Run (Option String) := do
  let bare :=
    if x.suffix ≠ "" && x.suffix.length < text.length && text.endsWith x.suffix then
      (text.dropEnd x.suffix.length).toString
    else text
  let cs := bare.toList.dropWhile fun c => c = ' ' || c = '\t'
  let word := String.ofList cs
  match x.source.read cs with
  | .error e => x.refuse name (e.message (← cited word))
  | .ok n =>
    if !n.rest.isEmpty then
      x.refuse name ("invalid suffix in input " ++ (← cited word) ++ ": " ++
        (← cited (String.ofList n.rest)))
    else
      let isScaled := x.sourceUnit ≠ 1 || x.targetUnit ≠ 1
      let value := if isScaled then n.value.scaled x.sourceUnit x.targetUnit else n.value
      match x.written value n.places with
      | .error message => x.refuse name message
      | .ok digits =>
        let isIndented := cs.length < bare.length || 1 < index
        let own := if x.delimiter.isNone && isIndented then bare.length else 0
        let l : Layout := { Layout.ofFlags [] with left := x.isLeft, width := x.width.getD own }
        return some (x.front ++ String.ofList (l.fill [] digits.toList) ++ x.behind)

/-- The fields of a line with the characters between them, cut at blanks in front of which more blanks
belong to the field.  The budget has to be more than the length of the line. -/
def blankFields : Nat → List Char → List (List Char)
  | 0, _ => []
  | budget + 1, cs =>
    let isGap (c : Char) : Bool := c = ' ' || c = '\t' || c = '\n'
    let gap := cs.takeWhile isGap
    let word := (cs.drop gap.length).takeWhile fun c => !isGap c
    match cs.drop (gap.length + word.length) with
    | [] => [gap ++ word]
    | _ :: rest => (gap ++ word) :: blankFields budget rest

/-- Writes a line; tells whether all its numbers are numbers. -/
def NumberWay.line (name : String) (x : NumberWay) (text : String) : Run Bool := do
  let fields := match x.delimiter with
    | some c => text.splitOn c.toString
    | none => (blankFields (text.length + 1) text.toList).map String.ofList
  let mut isValid := true
  let mut written := []
  for (field, i) in fields.zipIdx do
    if x.fields.any (·.holds (i + 1)) then
      match ← x.field name (i + 1) field with
      | some text => written := text :: written
      | none =>
        isValid := false
        written := field :: written
    else written := field :: written
  print ((x.delimiter.getD ' ').toString.intercalate written.reverse)
  return isValid

/-- The options of `numfmt`. -/
def numfmtSyntax : Syntax where
  flags := "z"
  valued := "d"
  long := [⟨"from", 'f', .yes⟩, ⟨"from-unit", 'F', .yes⟩, ⟨"to", 't', .yes⟩, ⟨"to-unit", 'T', .yes⟩,
    ⟨"round", 'r', .yes⟩, ⟨"padding", 'p', .yes⟩, ⟨"suffix", 's', .yes⟩, ⟨"grouping", 'g', .no⟩,
    ⟨"delimiter", 'd', .yes⟩, ⟨"field", 'n', .yes⟩, ⟨"debug", 'D', .no⟩, ⟨"header", 'h', .maybe⟩,
    ⟨"format", 'm', .yes⟩, ⟨"invalid", 'i', .yes⟩, ⟨"zero-terminated", 'z', .no⟩]
  permutes := true
  status := 1

/-- The number of a unit, which stands for powers of 1000 unless an `i` says otherwise. -/
def unitNumber (name text : String) : Run Nat := do
  let last := text.toList.getLast?
  let unit := if last.any Char.isDigit || last = some 'i' then text else text ++ "B"
  let unit := if last = some 'i' then unit ++ "B" else unit
  match sizeOf? unit with
  | some 0 | none => fail name ("invalid unit size: " ++ (← cited text)) 1
  | some n => return n

/-- Reads the format that numbers are written in. -/
def readNumberFormat (name : String) (x : NumberWay) (format : String) : Run NumberWay := do
  let cs := format.toList
  let rec beginning : Nat → List Char → List Char
    | 0, _ | _, [] => []
    | budget + 1, '%' :: '%' :: rest => '%' :: '%' :: beginning budget rest
    | _, '%' :: _ => []
    | budget + 1, c :: rest => c :: beginning budget rest
  let front := beginning (cs.length + 1) cs
  let shown ← cited format
  match cs.drop front.length with
  | [] => fail name ("format " ++ shown ++ " has no % directive") 1
  | _ :: directive => do
    let flags := directive.takeWhile [' ', '\'', '0'].contains
    let rest := directive.drop flags.length
    let isLeft := rest.head? = some '-'
    let rest := if isLeft then rest.drop 1 else rest
    let width := rest.takeWhile Char.isDigit
    let rest := rest.drop width.length
    let hasPoint := rest.head? = some '.'
    let places := if hasPoint then (rest.drop 1).takeWhile Char.isDigit else []
    let rest := if hasPoint then rest.drop (places.length + 1) else rest
    match rest with
    | [] => fail name ("format " ++ shown ++ " ends in %") 1
    | 'f' :: behind => do
      if isLeft && width.isEmpty then
        fail name ("invalid format " ++ shown ++ ", directive must be %[0]['][-][N][.][N]f") 1
      let tail := beginning (behind.length + 1) behind
      if tail.length < behind.length then
        fail name ("format " ++ shown ++ " has too many % directives") 1
      let number := Number.digitsValue 10 width
      return { x with
        places := if hasPoint then some (Number.digitsValue 10 places) else none
        width := if number = 0 then x.width else some number
        isLeft := x.isLeft || isLeft
        zeros := flags.contains '0' && number ≠ 0
        front := String.ofList front
        behind := String.ofList behind }
    | _ => fail name ("invalid format " ++ shown ++ ", directive must be %[0]['][-][N][.][N]f") 1

/-- Reads an option. -/
def readNumberOption (name : String) (x : NumberWay) (g : Given) : Run NumberWay := do
  let (letter, text) := g
  let scales := [["si"], ["iec"], ["iec-i"]]
  match letter with
  | 'f' => do
    let word ← wordAmong name "from" text ([["none"], ["auto"]] ++ scales) 1
    return { x with source := .ofWord word }
  | 't' => do
    let word ← wordAmong name "to" text ([["none"]] ++ scales) 1
    return { x with target := .ofWord word }
  | 'F' => return { x with sourceUnit := ← unitNumber name text }
  | 'T' => return { x with targetUnit := ← unitNumber name text }
  | 'r' => do
    let words := ["up", "down", "from-zero", "towards-zero", "nearest"]
    let word ← wordAmong name "round" text (words.map ([·])) 1
    let styles : List Rounding := [.up, .down, .fromZero, .towardsZero, .nearest]
    return { x with rounding := ((words.zip styles).lookup word).getD .fromZero }
  | 'p' =>
    match Number.ofText? (some 10) text with
    | none | some 0 => fail name ("invalid padding value " ++ (← cited text)) 1
    | some n => return { x with width := some n.natAbs, isLeft := n < 0 }
  | 's' => return { x with suffix := text }
  | 'd' =>
    match text.toList with
    | [] => return { x with delimiter := some '\x00' }
    | [c] => return { x with delimiter := some c }
    | _ => fail name "the delimiter must be a single character" 1
  | 'n' => do
    if !x.fields.isEmpty then fail name "multiple field specifications" 1
    let fields ← if text = "-" then pure [⟨1, none⟩]
      else ranges name fieldWords (text.length + 1) text.toList
    return { x with fields := fields }
  | 'i' => do
    let word ← wordAmong name "invalid" text [["abort"], ["fail"], ["warn"], ["ignore"]] 1
    return { x with invalid := word }
  | 'h' => do
    if text ≠ "" && ((Number.ofDigits? text).getD 0 = 0) then
      fail name ("invalid header value " ++ (← cited text)) 1
    return x
  | _ => return x

/-- Writes numbers with units, or without. -/
def numfmt : Body := fun name arguments => do
  let (given, operands) ← options name numfmtSyntax arguments
  let plain : NumberWay :=
    ⟨.none, .none, 1, 1, .fromZero, "", none, none, false, false, "", "", none, [], "abort"⟩
  let x ← given.foldlM (readNumberOption name) plain
  if has given 'g' then
    if has given 'm' then fail name "--grouping cannot be combined with --format" 1
    if x.target ≠ .none then fail name "grouping cannot be combined with --to" 1
  let x ← match valueOf given 'm' with
    | some format => readNumberFormat name x format
    | none => pure x
  let x := if x.fields.isEmpty then { x with fields := [⟨1, some 1⟩] } else x
  let mark := (recordMark given).toString
  let mut isValid := true
  if operands.isEmpty then
    match ← contentOf "-" with
    | .error e => fail name ("error reading input: " ++ e.message) 1
    | .ok bytes =>
      let text := textOf bytes
      let lines := recordsOf (recordMark given) text
      let titles := (valueOf given 'h').map fun n => (Number.ofDigits? n).getD 1
      for (line, i) in lines.zipIdx do
        let isLast := i + 1 = lines.length && !text.endsWith mark
        if i < titles.getD 0 then print line
        else
          let isFine ← x.line name line
          isValid := isValid && isFine
        if !isLast then print mark
  else
    for operand in operands do
      let isFine ← x.line name operand
      isValid := isValid && isFine
      print mark
  let isFailed := !isValid && x.invalid = "fail"
  finish name (if isFailed then 2 else 0)

end CountedStrings.Shell.Utility
