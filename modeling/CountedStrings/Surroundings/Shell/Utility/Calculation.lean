import CountedStrings.Surroundings.Shell.Layout
import CountedStrings.Surroundings.Shell.Regular
import CountedStrings.Surroundings.Shell.Utility.Basic

/-!
# Utilities that calculate

## 1.  Sequences

`seq` prints numbers with equal distances.  They are kept as exact quotients and rounded only when
they are printed, with as many decimals as the first number and the distance have.

## 2.  Expressions

`expr` evaluates an expression whose parts are its arguments.  What is not needed for the result is
read but not evaluated.

## 3.  Factors

`factor` prints the prime factors of numbers.
-/

namespace CountedStrings.Shell.Utility

/-! ## 1.  Sequences -/

/-- A number of a sequence as it was given. -/
structure SeqNumber where
  /-- The quotient that it is, or nothing for a number without end. -/
  exact : Option (Int × Nat)
  negative : Bool
  /-- How many decimals it has, if it is written with decimals at all. -/
  places : Option Nat
  /-- How wide it is when it is printed. -/
  width : Int

/-- The number one. -/
def SeqNumber.one : SeqNumber := ⟨some (1, 1), false, some 0, 1⟩

/-- The quotient that a number in decimals is. -/
def exactDecimal (cs : List Char) : Int × Nat :=
  let (negative, cs) := Number.signOf (cs.dropWhile Number.isBlank)
  let (digits, behind, rest) := Real.scanDigits 10 cs
  let (exponent, _) := Real.scanExponent ['e', 'E'] rest
  let (n, d) := scaleByTen (Number.digitsValue 10 digits) 1 (exponent - behind)
  (if negative then -(n : Int) else n, d)

/-- How many decimals a number shows, and how wide it is.  An exponent moves the point. -/
def shownSize (cs : List Char) : Nat × Int :=
  let mantissa := cs.takeWhile fun c => c ≠ 'e' && c ≠ 'E'
  let exponent := Number.scan (some 10) (cs.drop (mantissa.length + 1))
  let whole := mantissa.takeWhile (· ≠ '.')
  let hasPoint := whole.length < mantissa.length
  let fraction := mantissa.length - whole.length - 1
  let pointWidth : Int :=
    if !hasPoint then 0
    else if fraction = 0 then -1
    else if whole.getLast?.any Char.isDigit then 0 else 1
  let width : Int := mantissa.length + pointWidth
  let e := exponent.value
  if e < 0 then
    let undone : Int := if !hasPoint || fraction = 0 then 1 else 0
    (fraction + e.natAbs, width + undone + e.natAbs)
  else
    let places := fraction - min fraction e.natAbs
    let noPoint : Int := if hasPoint && places = 0 && fraction ≠ 0 then 1 else 0
    (places, width - noPoint + (e.natAbs - min fraction e.natAbs : Nat))

/-- The number of a sequence that an argument is. -/
def seqNumber (name text : String) : Run SeqNumber := do
  let cs := text.toList
  let n := Real.scan .extended cs
  if text.isEmpty || !n.rest.isEmpty then
    misused name ("invalid floating point argument: " ++ (← cited text)) 1
  match n.value with
  | .notANumber _ =>
    misused name ("invalid " ++ (← cited "not-a-number") ++ " argument: " ++ (← cited text)) 1
  | .infinite negative => return ⟨none, negative, none, 0⟩
  | .finite negative mantissa exponent =>
    let shown := (cs.dropWhile Number.isBlank).dropWhile (· = '+')
    if shown.any fun c => c = 'x' || c = 'X' then
      let (a, b) := scaleByTwo mantissa 1 exponent
      let isWhole := !shown.contains '.' && !shown.contains 'p'
      return ⟨some (if negative then -(a : Int) else a, b), negative,
        if isWhole then some 0 else none, 0⟩
    else
      let (places, width) := shownSize shown
      return ⟨some (exactDecimal cs), negative, some places, width⟩

/-- How numbers are printed: a layout with a letter between two texts. -/
structure SeqFormat where
  /-- Whether the numbers are whole and shown with all their digits. -/
  whole : Bool
  before : String
  layout : Layout
  conversion : Char
  behind : String

/-- A text up to a percent sign that is not doubled, what stands behind it, and whether there is
one. -/
def untilPercent : List Char → List Char × Option (List Char)
  | '%' :: '%' :: rest =>
    let (front, found) := untilPercent rest
    ('%' :: front, found)
  | '%' :: rest => ([], some rest)
  | c :: rest =>
    let (front, found) := untilPercent rest
    (c :: front, found)
  | [] => ([], none)

/-- The format that a text is. -/
def seqFormat (name text : String) : Run SeqFormat := do
  let format ← cited text
  let (before, found) := untilPercent text.toList
  match found with
  | none => fail name ("format " ++ format ++ " has no % directive") 1
  | some cs =>
    let flags := cs.takeWhile fun c => ['-', '+', '#', '0', ' ', '\''].contains c
    let cs := cs.drop flags.length
    let width := cs.takeWhile Char.isDigit
    let cs := cs.drop width.length
    let (precision, cs) := match cs with
      | '.' :: rest =>
        let digits := rest.takeWhile Char.isDigit
        (some (Number.digitsValue 10 digits), rest.drop digits.length)
      | cs => (none, cs)
    let cs := if cs.head? = some 'L' then cs.drop 1 else cs
    match cs with
    | [] => fail name ("format " ++ format ++ " ends in %") 1
    | c :: rest =>
      if !(['e', 'f', 'g', 'a', 'E', 'F', 'G', 'A'].contains c) then
        fail name ("format " ++ format ++ " has unknown %" ++ c.toString ++ " directive") 1
      let (behind, more) := untilPercent rest
      if more.isSome then fail name ("format " ++ format ++ " has too many % directives") 1
      let layout := { Layout.ofFlags flags with
        width := Number.digitsValue 10 width, precision := precision }
      return ⟨false, String.ofList before, layout, c, String.ofList behind⟩

/-- The format of numbers for which none was given. -/
def usualFormat (equalWidth : Bool) (first step last : SeqNumber) : SeqFormat :=
  match first.places, step.places, last.places with
  | some a, some b, some c =>
    let places := max a b
    let firstWidth := first.width + (places - a : Nat) + (if a = 0 && 0 < places then 1 else 0)
    let lastWidth := last.width + places - c - (if 0 < c && places = 0 then 1 else 0) +
      (if c = 0 && 0 < places then 1 else 0)
    let width := if equalWidth then (max firstWidth lastWidth).toNat else 0
    ⟨false, "", { Layout.ofFlags ['0'] with width := width, precision := some places }, 'f', ""⟩
  | _, _, _ => ⟨false, "", Layout.ofFlags [], 'g', ""⟩

/-- A number as a format prints it, without the texts around it. -/
def SeqFormat.number (f : SeqFormat) (n : Int) (d : Nat) : String :=
  if f.whole then toString (n / d)
  else
    let r := Real.nearest .extended (n < 0) n.natAbs d
    String.ofList (f.layout.ofReal .extended f.conversion r)

/-- How many numbers are printed of a sequence without end. -/
def endlessCount : Nat := 500000

/-- The texts of a sequence. -/
def SeqFormat.texts (f : SeqFormat) (first step : Int × Nat) (last : Option (Int × Nat))
    (upwards : Bool) : List String :=
  let ends := last.getD (0, 1)
  let d := first.2 * step.2 * ends.2
  let a := first.1 * (step.2 * ends.2)
  let s := step.1 * (first.2 * ends.2)
  let z := ends.1 * (first.2 * step.2)
  let isIn (x : Int) : Bool := if 0 ≤ s then x ≤ z else z ≤ x
  let shown (x : Int) : String := f.before ++ f.number x d ++ f.behind
  match last with
  | none =>
    if (0 ≤ s) = upwards then (List.range endlessCount).map fun (i : Nat) => shown (a + i * s)
    else []
  | some _ =>
    if !isIn a then []
    else
      let count := ((z - a).natAbs / s.natAbs) + 1
      let numbers := (List.range count).map fun (i : Nat) => a + i * s
      let next := a + count * s
      let text := f.number next d
      let isLast := !f.whole && (Real.scan .extended text.toList).value =
        Real.nearest .extended (z < 0) z.natAbs d
      let extra := isLast && text ≠ f.number (next - s) d
      numbers.map shown ++ (if extra then [shown next] else [])

/-- How far apart numbers may be that are shown with all their digits. -/
def wholeStepBound : Nat := 200

/-- Whether the numbers of a sequence are shown with all their digits: they are written as whole numbers
and one character stands between them. -/
def showsWhole (given : List Given) (operands : List String) : Bool :=
  let step := match operands with
    | [_, step, _] => step
    | _ => "1"
  !has given 'f' && !has given 'w' && ((valueOf given 's').getD "\n").length = 1 &&
    operands.all (fun text => text ≠ "" && text.all Char.isDigit) &&
    Number.digitsValue 10 step.toList ≤ wholeStepBound

/-- The arguments of `seq` with a mark in front of the first one that is a negative number. -/
def markNegative : List String → List String
  | [] => []
  | argument :: rest =>
    match argument.toList with
    | '-' :: c :: cs =>
      if c.isDigit || c = '.' then "--" :: argument :: rest
      else if cs.isEmpty && (c = 's' || c = 'f') then argument :: rest.take 1 ++ markNegative (rest.drop 1)
      else if c = '-' && cs.isEmpty then argument :: rest
      else argument :: markNegative rest
    | _ => argument :: rest
termination_by arguments => arguments.length
decreasing_by all_goals simp only [List.length_cons, List.length_drop]; omega

/-- Prints a sequence of numbers. -/
def seq : Body := fun name arguments => do
  let x : Syntax :=
    ⟨"w", "fs", [⟨"equal-width", 'w', .no⟩, ⟨"format", 'f', .yes⟩, ⟨"separator", 's', .yes⟩],
      false, 1⟩
  let (given, operands) ← options name x (markNegative arguments)
  let format ← match valueOf given 'f' with
    | none => pure none
    | some text => do
      if operands.isEmpty then missingOperand name 1
      some <$> seqFormat name text
  let (first, step, last) ← match operands with
    | [] => missingOperand name 1
    | [last] => pure (SeqNumber.one, SeqNumber.one, ← seqNumber name last)
    | [first, last] => do
      let first ← seqNumber name first
      pure (first, SeqNumber.one, ← seqNumber name last)
    | [first, middle, last] => do
      let first ← seqNumber name first
      let step ← seqNumber name middle
      if step.exact.any fun (n, _) => n = 0 then
        misused name ("invalid Zero increment value: " ++ (← cited middle)) 1
      pure (first, step, ← seqNumber name last)
    | _ :: _ :: _ :: fourth :: _ => extraOperand name fourth 1
  if format.isSome && has given 'w' then
    misused name "format string may not be specified when printing equal width strings" 1
  let format := format.getD (usualFormat (has given 'w') first step last)
  let format := { format with whole := showsWhole given operands }
  match first.exact, step.exact with
  | some a, some s =>
    let texts := format.texts a s last.exact (!last.negative)
    if !texts.isEmpty then
      print ((((valueOf given 's').getD "\n").intercalate texts) ++ "\n")
  | _, _ => pure ()
  finish name 0

/-! ## 2.  Expressions -/

/-- A value of an expression. -/
inductive ExprValue where
  | whole (n : Int)
  | text (s : String)

namespace ExprValue

/-- The text of a value. -/
def toText : ExprValue → String
  | .whole n => toString n
  | .text s => s

/-- The whole number that a value is. -/
def whole? : ExprValue → Option Int
  | .whole n => some n
  | .text s =>
    let (negative, digits) := match s.toList with
      | '-' :: rest => (true, rest)
      | cs => (false, cs)
    if digits.isEmpty || !digits.all Char.isDigit then none
    else
      let n : Int := Number.digitsValue 10 digits
      some (if negative then -n else n)

/-- Whether a value stands for nothing: it is empty or a zero. -/
def isNull (v : ExprValue) : Bool := v.toText = "" || v.whole? = some 0

/-- A yes or a no. -/
def ofBool (b : Bool) : ExprValue := .whole (if b then 1 else 0)

end ExprValue

/-- What an operator makes of two values. -/
def exprOperator (name operator : String) (a b : ExprValue) : Run ExprValue := do
  let numbers : Run (Int × Int) := do
    match a.whole?, b.whole? with
    | some x, some y => return (x, y)
    | _, _ => fail name "non-integer argument" 2
  let order := match a.whole?, b.whole? with
    | some x, some y => compare x y
    | _, _ => compare (a.toText) (b.toText)
  match operator with
  | "+" => return .whole ((← numbers).1 + (← numbers).2)
  | "-" => return .whole ((← numbers).1 - (← numbers).2)
  | "*" => return .whole ((← numbers).1 * (← numbers).2)
  | "/" => do
    let (x, y) ← numbers
    if y = 0 then fail name "division by zero" 2
    return .whole (x.tdiv y)
  | "%" => do
    let (x, y) ← numbers
    if y = 0 then fail name "division by zero" 2
    return .whole (x.tmod y)
  | "<" => return .ofBool (order = .lt)
  | "<=" => return .ofBool (order ≠ .gt)
  | "=" | "==" => return .ofBool (order = .eq)
  | "!=" => return .ofBool (order ≠ .eq)
  | ">" => return .ofBool (order = .gt)
  | ">=" => return .ofBool (order ≠ .lt)
  | "&" => return if a.isNull || b.isNull then .whole 0 else a
  | "|" => return if !a.isNull then a else if b.isNull then .whole 0 else b
  | _ =>
    match Regular.ofText b.toText with
    | .error e => fail name e.message 2
    | .ok r =>
      match r.longest? a.toText.toList with
      | some p =>
        if r.hasGroup then return .text (String.ofList ((p.groups.lookup 1).getD []))
        else return .whole p.count
      | none => return if r.hasGroup then .text "" else .whole 0

/-- The operators, those that bind least first. -/
def exprOperators : List (List String) :=
  [["|"], ["&"], ["<", "<=", "=", "==", "!=", ">=", ">"], ["+", "-"], ["*", "/", "%"], [":"]]

/-- Complains that an argument is missing behind the last one. -/
def missingArgument {α : Type} (name last : String) : Run α := do
  fail name ("syntax error: missing argument after " ++ (← cited last)) 2

/-- The part of a text from a position on, so many characters long. -/
def exprPart (text : String) (start count : Option Int) : ExprValue :=
  match start, count with
  | some start, some count =>
    if start ≤ 0 || count ≤ 0 then .text ""
    else .text (String.ofList ((text.toList.drop (start.toNat - 1)).take count.toNat))
  | _, _ => .text ""

mutual

/-- Evaluates the expression at the start of arguments whose operators bind at least so much; gives
the other arguments too.  `last` is the last argument of all. -/
def exprValue (name last : String) : Nat → Nat → Bool → List String →
    Run (ExprValue × List String)
  | 0, _, _, arguments => return (.text "", arguments)
  | budget + 1, level, active, arguments => do
    if level < exprOperators.length then
      let (a, rest) ← exprValue name last budget (level + 1) active arguments
      exprMore name last budget level active a rest
    else
      let operand (arguments : List String) : Run (ExprValue × List String) :=
        exprValue name last budget level active arguments
      match arguments with
      | [] => missingArgument name last
      | "+" :: rest =>
        match rest with
        | [] => missingArgument name last
        | text :: rest => return (.text text, rest)
      | "length" :: rest => do
        let (a, rest) ← operand rest
        return (.whole a.toText.length, rest)
      | "match" :: rest => do
        let (a, rest) ← operand rest
        let (b, rest) ← operand rest
        if active then return (← exprOperator name ":" a b, rest) else return (a, rest)
      | "index" :: rest => do
        let (a, rest) ← operand rest
        let (b, rest) ← operand rest
        let cs := b.toText.toList
        let place := match a.toText.toList.findIdx? cs.contains with
          | some i => i + 1
          | none => 0
        return (.whole place, rest)
      | "substr" :: rest => do
        let (a, rest) ← operand rest
        let (b, rest) ← operand rest
        let (c, rest) ← operand rest
        return (exprPart a.toText b.whole? c.whole?, rest)
      | "(" :: rest => do
        let (a, rest) ← exprValue name last budget 0 active rest
        match rest with
        | ")" :: rest => return (a, rest)
        | [] => fail name ("syntax error: expecting ')' after " ++ (← cited last)) 2
        | other :: _ => fail name ("syntax error: expecting ')' instead of " ++ (← cited other)) 2
      | ")" :: _ => fail name "syntax error: unexpected ')'" 2
      | text :: rest => return (.text text, rest)

/-- Goes on with the operators of one level behind a value. -/
def exprMore (name last : String) : Nat → Nat → Bool → ExprValue → List String →
    Run (ExprValue × List String)
  | 0, _, _, a, arguments => return (a, arguments)
  | budget + 1, level, active, a, arguments => do
    match arguments with
    | [] => return (a, [])
    | operator :: rest =>
      if !(exprOperators.getD level []).contains operator then return (a, arguments)
      let needed := match operator with
        | "&" => active && !a.isNull
        | "|" => active && a.isNull
        | _ => active
      let (b, rest) ← exprValue name last budget (level + 1) needed rest
      let c ← if active then exprOperator name operator a b else pure a
      exprMore name last budget level active c rest

end

/-- Evaluates an expression. -/
def expr : Body := fun name arguments => do
  let arguments ← match arguments with
    | ["--help"] | ["--version"] => do
      discard (options name ⟨"", "", [], false, 2⟩ arguments)
      pure []
    | "--" :: rest => pure rest
    | arguments => pure arguments
  match arguments.getLast? with
  | none => missingOperand name 2
  | some last =>
    let budget := (arguments.length + 1) * (2 * exprOperators.length + 2)
    let (v, rest) ← exprValue name last budget 0 true arguments
    match rest with
    | other :: _ => fail name ("syntax error: unexpected argument " ++ (← cited other)) 2
    | [] => pure ()
    print (v.toText ++ "\n")
    finishOr 3 name (if v.isNull then 1 else 0)

/-! ## 3.  Factors -/

/-- The prime factors of a number from a divisor on, as far as the budget goes; the rest counts as
one. -/
def factorsFrom : Nat → Nat → Nat → List Nat → List Nat
  | 0, n, _, done => (if n < 2 then done else n :: done).reverse
  | budget + 1, n, d, done =>
    if n < 2 then done.reverse
    else if n < d * d then (n :: done).reverse
    else if n % d = 0 then factorsFrom budget (n / d) d (d :: done)
    else factorsFrom budget n (if d = 2 then 3 else d + 2) done

/-- How many divisors are tried. -/
def divisorBound : Nat := 4000000

/-- Factors with an exponent in place of repetitions. -/
def withExponents (factors : List Nat) : List String :=
  (factors.splitBy (· = ·)).map fun same =>
    toString (same.headD 1) ++ (if same.length = 1 then "" else "^" ++ toString same.length)

/-- Prints the factors of numbers. -/
def factor : Body := fun name arguments => do
  let x : Syntax := ⟨"h", "", [⟨"exponents", 'h', .no⟩], true, 1⟩
  let (given, operands) ← options name x arguments
  let words ←
    if operands.isEmpty then do
      let text ← match ← read 0 none with
        | .ok bytes => pure (textOf bytes)
        | .error e => fail name ("error reading input: " ++ e.message) 1
      pure ((text.toList.splitBy fun a b => Number.isBlank a = Number.isBlank b).filterMap
        fun word => if word.all Number.isBlank then none else some (String.ofList word))
    else pure operands
  let mut status := 0
  let mut lines := ""
  for word in words do
    let cs := word.toList.dropWhile Number.isBlank
    let digits := if cs.head? = some '+' then cs.drop 1 else cs
    if digits.isEmpty || !digits.all Char.isDigit then
      report name ((← cited word) ++ " is not a valid positive integer")
      status := 1
    else
      let n := Number.digitsValue 10 digits
      let factors := factorsFrom divisorBound n 2 []
      let shown := if has given 'h' then withExponents factors else factors.map toString
      lines := lines ++ toString n ++ ":" ++ String.join (shown.map (" " ++ ·)) ++ "\n"
  print lines
  finish name status

end CountedStrings.Shell.Utility
