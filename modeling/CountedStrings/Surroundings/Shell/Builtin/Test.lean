import CountedStrings.Surroundings.Shell.Builtin.Arguments
import CountedStrings.Surroundings.Shell.FileTest

/-!
# Tests

`test` and `[` evaluate an expression that stands in their arguments, one token in each.  What an
argument means depends on the ones around it: an operator of one argument in front of an operator of
two is an argument itself, and a single argument is a text that is tested for being empty.

The evaluation stands on an argument and looks at the next one.  `Position` is where it stands.
-/

namespace CountedStrings.Shell.Builtin

/-! ## 1.  Operators -/

/-- How many arguments an operator takes, or what else it is. -/
inductive OperatorKind where
  | unary
  | binary
  | negation
  | conjunction
  | disjunction
  | opening
  | closing
  deriving DecidableEq

/-- The kind of an operator. -/
def operatorKind? (text : String) : Option OperatorKind :=
  match text with
  | "!" => some .negation
  | "-a" => some .conjunction
  | "-o" => some .disjunction
  | "(" => some .opening
  | ")" => some .closing
  | _ =>
    if ["=", "!=", "<", ">", "-eq", "-ne", "-ge", "-gt", "-le", "-lt", "-nt", "-ot", "-ef"].contains
        text then some .binary
    else if ["-r", "-w", "-x", "-e", "-f", "-d", "-c", "-b", "-p", "-u", "-g", "-k", "-s", "-t",
        "-z", "-n", "-h", "-O", "-G", "-L", "-S"].contains text then some .unary
    else none

/-! ## 2.  Operations -/

/-- The number that an argument is. -/
def testNumber (text : String) : Run Int := do
  match Number.ofText? (some 10) text with
  | some n => return n
  | none => badNumber text

/-- The truth of an operator of one argument. -/
def testUnary (operator argument : String) : Run Bool := do
  match operator with
  | "-z" => return argument = ""
  | "-n" => return argument ≠ ""
  | "-t" => do
    discard (testNumber argument)
    return false
  | "-h" | "-L" => return (nodeAt? (← get).files false argument).any (nodeHolds operator)
  | _ => return (← openNode? argument).any (nodeHolds operator)

/-- The truth of an operator of two arguments. -/
def testBinary (operator a b : String) : Run Bool := do
  let compare (holds : Int → Int → Bool) : Run Bool := do
    let x ← testNumber a
    let y ← testNumber b
    return holds x y
  let files := (← get).files
  match operator with
  | "=" => return a = b
  | "!=" => return a ≠ b
  | "<" => return a < b
  | ">" => return b < a
  | "-eq" => compare fun x y => x = y
  | "-ne" => compare fun x y => x ≠ y
  | "-ge" => compare fun x y => y ≤ x
  | "-gt" => compare fun x y => y < x
  | "-le" => compare fun x y => x ≤ y
  | "-lt" => compare fun x y => x < y
  | "-nt" => return isNewer files a b
  | "-ot" => return isNewer files b a
  | _ => return isSameFile files a b

/-! ## 3.  Expressions -/

/-- Complains about an operator or, if there is none, in general. -/
def badExpression {α : Type} (operator reason : String) : Run α :=
  misuse (if operator = "" then reason else operator ++ ": " ++ reason)

/-- Where an evaluation stands: on an argument, or behind the last. -/
abbrev Position := Nat

/-- What the argument at a position is taken for. -/
inductive TestToken where
  | finish
  | operand
  | operator (kind : OperatorKind)
  deriving DecidableEq

/-- Takes the argument at a position for what it is. -/
def testToken (arguments : Array String) (i : Position) : TestToken :=
  match arguments[i]? with
  | none => .finish
  | some text =>
    match operatorKind? text with
    | none => .operand
    | some kind =>
      let next := arguments[i + 1]?
      let isOperand :=
        match next with
        | none => true
        | some following =>
          (arguments[i + 2]?).isSome && operatorKind? following = some .binary
      if (kind = .unary && isOperand) || (kind = .opening && next.isNone) then .operand
      else .operator kind

mutual

/-- The truth of a disjunction, and the last position of it. -/
def disjunction (arguments : Array String) (budget : Nat) (t : TestToken) (i : Position) :
    Run (Bool × Position) :=
  match budget with
  | 0 => badExpression "" "too many arguments"
  | budget + 1 => do
    let (a, i) ← conjunction arguments budget t i
    if testToken arguments (i + 1) = .operator .disjunction then
      let (b, i) ← disjunction arguments budget (testToken arguments (i + 2)) (i + 2)
      return (a || b, i)
    else return (a, i)

/-- The truth of a conjunction, and the last position of it. -/
def conjunction (arguments : Array String) (budget : Nat) (t : TestToken) (i : Position) :
    Run (Bool × Position) :=
  match budget with
  | 0 => badExpression "" "too many arguments"
  | budget + 1 => do
    let (a, i) ← negation arguments budget t i
    if testToken arguments (i + 1) = .operator .conjunction then
      let (b, i) ← conjunction arguments budget (testToken arguments (i + 2)) (i + 2)
      return (a && b, i)
    else return (a, i)

/-- The truth of a negation, and the last position of it. -/
def negation (arguments : Array String) (budget : Nat) (t : TestToken) (i : Position) :
    Run (Bool × Position) :=
  match budget with
  | 0 => badExpression "" "too many arguments"
  | budget + 1 => do
    if t = .operator .negation then
      let next := testToken arguments (i + 1)
      let (a, i) ← negation arguments budget next (if next = .finish then i else i + 1)
      return (!a, i)
    else primary arguments budget t i

/-- The truth of what is no negation, and the last position of it. -/
def primary (arguments : Array String) (budget : Nat) (t : TestToken) (i : Position) :
    Run (Bool × Position) :=
  match budget with
  | 0 => badExpression "" "too many arguments"
  | budget + 1 => do
    let text := arguments[i]?.getD ""
    match t with
    | .finish => return (false, i)
    | .operator .opening => do
      let inside := testToken arguments (i + 1)
      if inside = .operator .closing then return (false, i + 1)
      let (a, i) ← disjunction arguments budget inside (i + 1)
      if testToken arguments (i + 1) ≠ .operator .closing then
        badExpression "" "closing paren expected"
      return (a, i + 1)
    | .operator .unary =>
      match arguments[i + 1]? with
      | none => badExpression text "argument expected"
      | some argument => return (← testUnary text argument, i + 1)
    | _ =>
      if testToken arguments (i + 1) = .operator .binary then
        let operator := arguments[i + 1]?.getD ""
        match arguments[i + 2]? with
        | none => badExpression operator "argument expected"
        | some argument => return (← testBinary operator text argument, i + 2)
      else return (text ≠ "", i)

end

/-- The truth of an expression as a whole, which a number of arguments below five decides by
themselves: of three or four, a negation in front and parentheses around count first. -/
def evaluateTest (negated : Bool) : List String → Run Bool
  | [] => return negated
  | first :: rest => do
    let all := first :: rest
    let isBinary := all.length = 3 && (rest.head?.bind operatorKind?) = some .binary
    let short := !isBinary && (all.length = 3 || all.length = 4)
    let enclosed := short && first = "(" && rest.getLast? = some ")"
    if short && first = "!" then evaluateTest (!negated) rest
    else
      let arguments := (if enclosed then rest.dropLast else all).toArray
        let t := if isBinary then .operand else testToken arguments 0
        let (a, i) ← disjunction arguments (8 * arguments.size + 8) t 0
        match arguments[i]?, arguments[i + 1]? with
        | some text, some _ => badExpression text "unexpected operator"
        | _, _ => return a != negated

/-- Evaluates an expression. -/
def test : Body := fun arguments => do
  return if ← evaluateTest false arguments then 0 else 1

/-- Evaluates an expression in front of a closing bracket. -/
def bracket : Body := fun arguments => do
  if (arguments.getLast?.bind (·.toList.head?)) ≠ some ']' then misuse "missing ]"
  test arguments.dropLast

end CountedStrings.Shell.Builtin
