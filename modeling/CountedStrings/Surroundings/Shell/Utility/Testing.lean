import CountedStrings.Surroundings.Shell.FileTest
import CountedStrings.Surroundings.Shell.Utility.Basic

/-!
# Testing arguments

The program `test` evaluates an expression that stands in its arguments, and `[` does the same in front
of a closing bracket.

## 1.  Operators

What an operator says about its operands.

## 2.  Expressions

Up to four arguments are taken for what their number suggests, and more of them are read by the
grammar of expressions.  The functions work on the arguments that are left, and the last argument of
all is known because complaints name it.
-/

namespace CountedStrings.Shell.Utility

/-! ## 1.  Operators -/

/-- Ends with the status of a wrong expression. -/
def wrongExpression {α : Type} (name message : String) : Run α := fail name message 2

/-- The number that an operand is. -/
def testedNumber (name text : String) : Run Int := do
  let cs := text.toList.dropWhile Number.isBlank
  let (negative, cs) := Number.signOf cs
  let digits := cs.takeWhile Char.isDigit
  let rest := (cs.drop digits.length).dropWhile Number.isBlank
  if digits.isEmpty || !rest.isEmpty then
    wrongExpression name ("invalid integer " ++ (← cited text))
  else
    let n : Int := Number.digitsValue 10 digits
    return if negative then -n else n

/-- The operators between two operands. -/
def betweenOperators : List String :=
  ["=", "==", "!=", "-nt", "-ot", "-ef", "-eq", "-ne", "-lt", "-le", "-gt", "-ge"]

/-- Whether a text is an operator between two operands. -/
def isBetween (text : Option String) : Bool := text.any betweenOperators.contains

/-- The letters of operators in front of an operand. -/
def frontLetters : String := "abcdefghknprstuwxzGLNOS"

/-- Whether a text has the form of an operator in front of an operand. -/
def looksLikeFront (text : String) : Bool :=
  match text.toList with
  | ['-', _] => true
  | _ => false

/-- What an operator in front of an operand says. -/
def holdsOf (name operator operand : String) : Run Bool := do
  match operator with
  | "-n" => return operand ≠ ""
  | "-z" => return operand = ""
  | "-t" => do
    discard (testedNumber name operand)
    return false
  | "-h" | "-L" => return (nodeAt? (← get).files false operand).any (nodeHolds operator)
  | "-N" => return (← openNode? operand).any (nodeHolds "-s")
  | _ => return (← openNode? operand).any (nodeHolds operator)

/-- An operand of an operator, and whether its length is meant instead of it. -/
structure Measured where
  text : String
  isLength : Bool

/-- What an operator says about two operands. -/
def holdsBetween (name operator : String) (a b : Measured) : Run Bool := do
  let number (m : Measured) : Run Int := do
    if m.isLength then return m.text.length else testedNumber name m.text
  let compare (holds : Int → Int → Bool) : Run Bool := do
    let x ← number a
    let y ← number b
    return holds x y
  let files := (← get).files
  let isThere (m : Measured) : Bool := (nodeAt? files true m.text).isSome
  match operator with
  | "=" | "==" => return a.text = b.text
  | "!=" => return a.text ≠ b.text
  | "-eq" => compare fun x y => x = y
  | "-ne" => compare fun x y => x ≠ y
  | "-lt" => compare fun x y => x < y
  | "-le" => compare fun x y => x ≤ y
  | "-gt" => compare fun x y => y < x
  | "-ge" => compare fun x y => y ≤ x
  | _ =>
    if a.isLength || b.isLength then wrongExpression name (operator ++ " does not accept -l")
    else if operator = "-nt" then
      return isThere a && (!isThere b || isNewer files a.text b.text)
    else if operator = "-ot" then
      return isThere b && (!isThere a || isNewer files b.text a.text)
    else return isSameFile files a.text b.text

/-! ## 2.  Expressions -/

/-- What is said of an expression, and the arguments behind it. -/
abbrev Said := Bool × List String

/-- Complains that something is missing behind the last argument. -/
def missingBehind {α : Type} (name last : String) : Run α := do
  wrongExpression name ("missing argument after " ++ (← cited last))

/-- The arguments behind the first, of which there have to be some. -/
def advance (name last : String) (arguments : List String) : Run (List String) := do
  if arguments.length ≤ 1 then missingBehind name last
  return arguments.drop 1

/-- An argument that is tested for being empty. -/
def sayWord (arguments : List String) : Said :=
  (arguments.head?.any fun text => text ≠ "", arguments.drop 1)

/-- An operator in front of an operand. -/
def sayFront (name last : String) (arguments : List String) : Run Said := do
  let operator := arguments.headD ""
  if !((operator.toList.drop 1).all frontLetters.toList.contains) then
    wrongExpression name ((← cited operator) ++ ": unary operator expected")
  let rest ← advance name last arguments
  return (← holdsOf name operator (rest.headD ""), rest.drop 1)

/-- An operator between two operands, of which the first may have a sign for its length in front. -/
def sayBetween (name : String) (isLength : Bool) (arguments : List String) : Run Said := do
  let arguments := if isLength then arguments.drop 1 else arguments
  match arguments with
  | a :: operator :: "-l" :: b :: rest =>
    return (← holdsBetween name operator ⟨a, isLength⟩ ⟨b, true⟩, rest)
  | a :: operator :: b :: rest =>
    return (← holdsBetween name operator ⟨a, isLength⟩ ⟨b, false⟩, rest)
  | _ => return (false, [])

/-- Two arguments. -/
def sayTwo (name last : String) (arguments : List String) : Run Said := do
  match arguments with
  | "!" :: rest =>
    let (value, rest) := sayWord rest
    return (!value, rest)
  | first :: _ =>
    if looksLikeFront first then sayFront name last arguments
    else missingBehind name last
  | [] => missingBehind name last

mutual

/-- Disjunctions of conjunctions. -/
def sayAny (name last : String) : Nat → List String → Run Said
  | 0, arguments => return (false, arguments)
  | budget + 1, arguments => do
    let (value, rest) ← sayAll name last budget arguments
    match rest with
    | "-o" :: rest => do
      let (other, rest) ← sayAny name last budget rest
      return (value || other, rest)
    | rest => return (value, rest)

/-- Conjunctions. -/
def sayAll (name last : String) : Nat → List String → Run Said
  | 0, arguments => return (false, arguments)
  | budget + 1, arguments => do
    let (value, rest) ← sayTerm name last budget arguments
    match rest with
    | "-a" :: rest => do
      let (other, rest) ← sayAll name last budget rest
      return (value && other, rest)
    | rest => return (value, rest)

/-- What stands between conjunctions. -/
def sayTerm (name last : String) : Nat → List String → Run Said
  | 0, arguments => return (false, arguments)
  | budget + 1, arguments => do
    match arguments with
    | [] => missingBehind name last
    | "!" :: rest => do
      if rest.isEmpty then missingBehind name last
      let (value, rest) ← sayTerm name last budget rest
      return (!value, rest)
    | "(" :: rest => do
      if rest.isEmpty then missingBehind name last
      let inner := 1 + ((rest.drop 1).takeWhile fun text => text ≠ ")").length
      let (value, rest) ← sayCount name last (if inner ≤ 4 then inner else rest.length) budget rest
      match rest with
      | ")" :: rest => return (value, rest)
      | [] => wrongExpression name ((← cited ")") ++ " expected")
      | found :: _ =>
        wrongExpression name ((← cited ")") ++ " expected, found " ++ (← cited found))
    | "-l" :: _ :: operator :: _ :: _ =>
      if isBetween (some operator) then sayBetween name true arguments
      else if isBetween arguments[1]? then sayBetween name false arguments
      else sayFront name last arguments
    | first :: _ =>
      if 3 ≤ arguments.length && isBetween arguments[1]? then sayBetween name false arguments
      else if looksLikeFront first then sayFront name last arguments
      else return sayWord arguments

/-- So many arguments. -/
def sayCount (name last : String) : Nat → Nat → List String → Run Said
  | _, 0, arguments => return (false, arguments)
  | count, budget + 1, arguments => do
    match count, arguments with
    | 1, _ => return sayWord arguments
    | 2, _ => sayTwo name last arguments
    | 3, first :: rest =>
      if isBetween rest.head? then sayBetween name false arguments
      else if first = "!" then do
        let (value, rest) ← sayTwo name last rest
        return (!value, rest)
      else if first = "(" && rest[1]? = some ")" then
        let (value, rest) := sayWord rest
        return (value, rest.drop 1)
      else if rest.head? = some "-a" || rest.head? = some "-o" then
        sayAny name last budget arguments
      else wrongExpression name ((← cited (rest.headD "")) ++ ": binary operator expected")
    | 4, "!" :: rest => do
      let (value, rest) ← sayCount name last 3 budget rest
      return (!value, rest)
    | 4, "(" :: rest =>
      if rest[2]? = some ")" then do
        let (value, rest) ← sayTwo name last rest
        return (value, rest.drop 1)
      else sayAny name last budget arguments
    | _, _ => sayAny name last budget arguments

end

/-- Gives the status 0 if the expression in arguments holds. -/
def testArguments (name : String) (arguments : List String) : Run Nat := do
  match arguments.getLast? with
  | none => return 1
  | some last => do
    let budget := 8 * arguments.length + 8
    let (value, rest) ← sayCount name last arguments.length budget arguments
    match rest.head? with
    | some extra => wrongExpression name ("extra argument " ++ (← cited extra))
    | none => return if value then 0 else 1

/-- Gives the status 0 if the expression in the arguments holds. -/
def test : Body := testArguments

/-- Gives the status 0 if the expression between brackets holds. -/
def bracket : Body := fun name arguments => do
  if arguments = ["--help"] || arguments = ["--version"] then
    discard (options name ⟨"", "", [], true, 2⟩ arguments)
  if arguments.getLast? ≠ some "]" then wrongExpression name ("missing " ++ (← cited "]"))
  testArguments name arguments.dropLast

end CountedStrings.Shell.Utility
